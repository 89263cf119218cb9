import Mathlib
import Governor.Sector.Events

/-!
# The operations of the sector spines

`crystallize_operation` and `commit_operation` of the insurance and the cybersecurity sidecar,
with the platform guard that the crystallize route runs first, and the reconciler's
`sweep_expired_horizons`. Unlike the finance spine, a crystallize that finds the crystal of its
operation answers with it whatever the facets are, and a commit enforces no drift.
-/

namespace Governor.Sector

open Finance
open Ledger (Timestamp Hash Decimal Money Clock SweepPlan truthy)

/-! ## Crystallizing -/

/-- `assert_platform_allowed`; both exceptions are `PlatformGuardError`. -/
def assertPlatformAllowed (enforce : Bool) (platform : String) (facets : Facets) :
    FinanceTx Unit := do
  if enforce then
    let db ← Tx.read
    match (db.platformRegistry.bind fun registry => registry.find? platform).filter
        PlatformRecord.enabled with
    | none =>
      let message := s!"platform not registered or disabled: {platform}"
      Tx.raise (.platformNotRegisteredError message)
    | some record =>
      let required := (record.facetSchema.map FacetSchema.required).getD []
      let missing := required.filter fun key => (facets.lookup key).isNone
      let keys := String.intercalate ", " missing
      if missing = [] then pure ()
      else Tx.raise (.facetValidationError s!"platform {platform} missing facets: {keys}")
  else pure ()

/-- The horizon that the policy sets, once it is known to allow the reserve. -/
def policyHorizon (policyId : Option String) (reserved : Decimal) : FinanceTx (Option Int) := do
  if truthy policyId then
    let pid := policyId.getD ""
    let db ← Tx.read
    match (db.instrumentPolicyRegistry.find? pid).filter InstrumentPolicy.enabled with
    | none => Tx.raise (.conflictError s!"policy not enabled: {pid}")
    | some pol =>
      if exceedsMoney reserved pol.maxExposurePerCommit then
        Tx.raise (.conflictError "reserved amount exceeds policy max")
      else pure (some pol.commitHorizonMs)
  else pure none

/-- Take the reserve from the account's balance. -/
def reserveBalance (accountId : String) (reserved : Money) : FinanceTx Unit := do
  if 0 < reserved then
    let db ← Tx.read
    match (db.accountLedgers.find? accountId).filter Account.active with
    | none => Tx.raise (.insufficientExposureError "account not found or inactive")
    | some account =>
      if account.balance < reserved then
        Tx.raise (.insufficientExposureError "insufficient reserve balance")
      else
        Tx.write fun db => { db with
          accountLedgers := db.accountLedgers.update accountId (Account.debit reserved)
            (Account.debit_accountId reserved) }
  else pure ()

/-- An event about a crystal, with the account of its escrow row. -/
def crystalEvent (clock : Clock) (c : CrystalRow) (e : EscrowRow) (eventType : DecisionType)
    (reserveDelta : Money) (metadata : List (String × Json)) : EventDraft where
  operationId := c.operationId
  crystalId := some c.crystalId
  accountId := e.accountId
  eventType := eventType.text
  reserveDelta := ⟨reserveDelta, -12⟩
  metadata := metadata
  recordedAt := clock.utcnow

/-- The part of `crystallize_operation` after no crystal was found for the operation. -/
def crystallizeNew (d : Deployment) (clock : Clock) (uuid : String)
    (request : CrystallizeRequest) : FinanceTx CrystallizeResult := do
  let horizonMs ← policyHorizon request.policyId request.reservedExposure
  let db ← Tx.read
  let prevCrystalHash :=
    (lastBy CrystalRow.crystallizedAt db.governanceCrystals.rows).map CrystalRow.crystalHash
  let crystal := sealCrystal d clock uuid request request.policyId prevCrystalHash horizonMs
  let reserved := quantizeMoney request.reservedExposure
  reserveBalance request.accountId reserved
  insertCrystal crystal
  insertEscrow (openEscrow request crystal.crystalId)
  appendEvent d (crystalEvent clock crystal (openEscrow request crystal.crystalId) .crystalCreated
    (-reserved) [("platform", .str request.platform), ("risk_tier", .str request.riskTier)])
  Tx.commit
  pure ⟨crystal.crystalId, request.operationId, .crystallized, crystal.horizonExpiresAt⟩

/-- `crystallize_operation`; `raced` when the crystal of a concurrent call was not visible yet. -/
def crystallizeOperation (d : Deployment) (raced : Bool) (clock : Clock) (uuid : String)
    (request : CrystallizeRequest) : FinanceTx CrystallizeResult := do
  let db ← Tx.read
  match if raced then none else findCrystal db request.platform request.operationId with
  | some existing =>
    pure ⟨existing.crystalId, request.operationId, .replay, existing.horizonExpiresAt⟩
  | none => crystallizeNew d clock uuid request

/-! ## Committing -/

/-- The part of `commit_operation` after its checks. -/
def commitOpen (d : Deployment) (clock : Clock) (c : CrystalRow) (e : EscrowRow)
    (request : CommitRequest) : FinanceTx CommitResult := do
  let committed := quantizeMoney request.committedExposure
  refundAccount e.accountId (e.reservedExposure - committed)
  commitEscrow request.crystalId committed
  closeCrystal request.crystalId .committed
  appendEvent d (crystalEvent clock c e .committedFinal committed
    [("outcome", .str request.outcome)])
  Tx.commit
  pure ⟨c.operationId, request.crystalId, .committed⟩

/-- `commit_operation`. -/
def commitOperation (d : Deployment) (clock : Clock) (request : CommitRequest) :
    FinanceTx CommitResult := do
  let db ← Tx.read
  match crystalJoin db request.crystalId with
  | none => Tx.raise (.surpriseCommitBlockedError "unknown crystal")
  | some (c, e) =>
    if c.terminalState.isSome then pure ⟨c.operationId, request.crystalId, .replay⟩
    else
      match commitRefusal d clock db c request with
      | some exn => Tx.raise exn
      | none => commitOpen d clock c e request

/-! ## Sweeping -/

/-- The body of the sweep's loop. -/
def sweepCrystal (d : Deployment) (clock : Clock) (p : CrystalRow × EscrowRow) :
    FinanceTx Unit := do
  if sweepStrands p.1 p.2 then
    closeCrystal p.1.crystalId .stranded
    finishEscrow p.1.crystalId .stranded "HORIZON_STRANDED"
    appendEvent d (crystalEvent clock p.1 p.2 .strandedHold 0 [("reason", .str "horizon_sweep")])
  else
    creditAccount p.2.accountId p.2.reservedExposure
    closeCrystal p.1.crystalId .expired
    finishEscrow p.1.crystalId .expired "HORIZON_EXPIRED"
    appendEvent d (crystalEvent clock p.1 p.2 .horizonExpired p.2.reservedExposure
      [("reason", .str "horizon_sweep")])

/-- `sweep_expired_horizons`. -/
def sweepExpiredHorizons (d : Deployment) (clock : Clock) (plan : SweepPlan) (batchSize : Nat) :
    FinanceTx Nat := do
  let db ← Tx.read
  let rows := horizonBatch db clock plan batchSize
  rows.forM (sweepCrystal d clock)
  Tx.commit
  pure rows.length

/-! ## Runs -/

/-- One transaction of the sidecar or the reconciler. -/
inductive Action where
  | crystallize (enforce raced : Bool) (clock : Clock) (uuid : String)
      (request : CrystallizeRequest)
  | commit (clock : Clock) (request : CommitRequest)
  | sweep (clock : Clock) (plan : SweepPlan) (batchSize : Nat)

/-- The body of a transaction. -/
def Action.body (d : Deployment) : Action → FinanceTx Response
  | .crystallize enforce raced clock uuid request => do
    assertPlatformAllowed enforce request.platform request.facets
    let result ← crystallizeOperation d raced clock uuid request
    pure (.crystallized result)
  | .commit clock request => do
    let result ← commitOperation d clock request
    pure (.closed result)
  | .sweep clock plan batchSize => do
    let count ← sweepExpiredHorizons d clock plan batchSize
    pure (.swept count)

/-- What the caller of a transaction sees. -/
def respond (d : Deployment) (w : FinanceWorld) (a : Action) : Except Exn Response :=
  ((a.body d).run w).1

/-- The world after a transaction committed or was rolled back. -/
def step (d : Deployment) (w : FinanceWorld) (a : Action) : FinanceWorld := ((a.body d).run w).2

/-- The world after a run. -/
def run (d : Deployment) (w : FinanceWorld) (actions : List Action) : FinanceWorld :=
  actions.foldl (step d) w

end Governor.Sector
