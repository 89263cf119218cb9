import Mathlib
import Governor.Ledger.Sweeper
import Governor.Finance.Crystal

/-!
# The operations of the finance spine

`crystallize_operation` reserves exposure and stores an open crystal with its escrow row,
`commit_operation` and `adjudicate_operation` close one crystal, and the reconciler's
`sweep_expired_horizons` closes a batch of overdue ones. Each is one transaction.
-/

namespace Governor.Finance

open Ledger (Timestamp Hash Decimal Money Clock SweepPlan decimalStr quotientExceeds truthy)

/-! ## Statements -/

/-- `balance = balance + :amt`. -/
def Account.credit (amount : Money) (a : Account) : Account :=
  { a with balance := a.balance + amount }

/-- `balance = balance - :amt`. -/
def Account.debit (amount : Money) (a : Account) : Account :=
  { a with balance := a.balance - amount }

/-- `active = FALSE` and its columns. -/
def Account.lock (reason : String) (now : Timestamp) (a : Account) : Account :=
  { a with active := false, lockReason := some reason, lockedAt := some now }

/-- `SET terminal_state = …`. -/
def CrystalRow.close (state : TerminalState) (c : CrystalRow) : CrystalRow :=
  { c with terminalState := some state }

/-- `SET status = 'COMMITTED', committed_exposure = …`. -/
def EscrowRow.commit (committed : Money) (e : EscrowRow) : EscrowRow :=
  { e with status := .committed, committedExposure := committed }

/-- `SET status = …, terminal_reason = …`. -/
def EscrowRow.finish (status : CommitStatus) (reason : String) (e : EscrowRow) : EscrowRow :=
  { e with status := status, terminalReason := some reason }

theorem Account.credit_accountId (amount : Money) (a : Account) :
    (a.credit amount).accountId = a.accountId := rfl

theorem Account.debit_accountId (amount : Money) (a : Account) :
    (a.debit amount).accountId = a.accountId := rfl

theorem Account.lock_accountId (reason : String) (now : Timestamp) (a : Account) :
    (a.lock reason now).accountId = a.accountId := rfl

theorem CrystalRow.close_crystalId (state : TerminalState) (c : CrystalRow) :
    (c.close state).crystalId = c.crystalId := rfl

theorem EscrowRow.commit_operationId (committed : Money) (e : EscrowRow) :
    (e.commit committed).operationId = e.operationId := rfl

theorem EscrowRow.finish_operationId (status : CommitStatus) (reason : String) (e : EscrowRow) :
    (e.finish status reason).operationId = e.operationId := rfl

/-- `UPDATE account_ledgers SET balance = balance + :amt` for one account. -/
def creditAccount (accountId : String) (amount : Money) : FinanceTx Unit :=
  Tx.write fun db => { db with
    accountLedgers := db.accountLedgers.update accountId (Account.credit amount)
      (Account.credit_accountId amount) }

/-- The refund of a closing, made when it is positive. -/
def refundAccount (accountId : String) (amount : Money) : FinanceTx Unit :=
  if 0 < amount then creditAccount accountId amount else pure ()

/-- `UPDATE governance_crystals SET terminal_state = … WHERE crystal_id = …`. -/
def closeCrystal (crystalId : String) (state : TerminalState) : FinanceTx Unit :=
  Tx.write fun db => { db with
    governanceCrystals := db.governanceCrystals.update crystalId (CrystalRow.close state)
      (CrystalRow.close_crystalId state) }

/-- `UPDATE commit_escrow_ledger … WHERE crystal_id = …` to a terminal status. -/
def finishEscrow (crystalId : String) (status : CommitStatus) (reason : String) :
    FinanceTx Unit :=
  Tx.write fun db => { db with
    commitEscrowLedger := db.commitEscrowLedger.updateWhere (fun e => e.crystalId = crystalId)
      (EscrowRow.finish status reason) (EscrowRow.finish_operationId status reason) }

/-- The join of a crystal with its escrow row. -/
def crystalJoin (db : Database) (crystalId : String) : Option (CrystalRow × EscrowRow) :=
  match db.governanceCrystals.find? crystalId,
      db.commitEscrowLedger.rows.find? fun e => e.crystalId = crystalId with
  | some c, some e => some (c, e)
  | _, _ => none

/-- An event about a crystal, with the account of its escrow row. -/
def crystalEvent (clock : Clock) (c : CrystalRow) (e : EscrowRow) (eventType : DecisionType)
    (exposureDelta : Money) (metadata : List (String × Json)) : DecisionDraft where
  operationId := c.operationId
  crystalId := some c.crystalId
  accountId := e.accountId
  eventType := eventType
  exposureDelta := exposureDelta
  metadata := metadata
  recordedAt := clock.utcnow

/-! ## Crystallizing -/

/-- `assert_platform_allowed`: the platform's record. -/
def assertPlatformAllowed (platform : String) : FinanceTx PlatformRecord := do
  let db ← Tx.read
  match db.platformRegistry with
  | none => pure ⟨platform, true, none, none⟩
  | some registry =>
    match registry.find? platform with
    | none => Tx.raise (.platformNotRegisteredError s!"platform not registered: {platform}")
    | some record =>
      if record.enabled then pure record
      else Tx.raise (.platformDisabledError s!"platform disabled: {platform}")

/-- `validate_platform_facets`. -/
def validatePlatformFacets (platform : String) (facets : Facets) : FinanceTx Unit := do
  let record ← assertPlatformAllowed platform
  match record.facetSchema.bind (facetError platform facets) with
  | none => pure ()
  | some message => Tx.raise (.facetValidationError message)

/-- `x > max` for a decimal and a stored amount. -/
def exceedsMoney (x : Decimal) (max : Money) : Bool :=
  max * 10 ^ (-(x.exp + 12)).toNat < x.coeff * 10 ^ (x.exp + 12).toNat

/-- The horizon that the policy sets, once it is known to allow the reserve. -/
def policyHorizon (policyId : Option String) (reservedExposure : Decimal) :
    FinanceTx (Option Int) := do
  if truthy policyId then
    let pid := policyId.getD ""
    let db ← Tx.read
    match db.instrumentPolicyRegistry.find? pid with
    | none => Tx.raise (.conflictError s!"policy not enabled: {pid}")
    | some pol =>
      if !pol.enabled then
        Tx.raise (.conflictError s!"policy not enabled: {pid}")
      else if exceedsMoney reservedExposure pol.maxExposurePerCommit then
        Tx.raise (.conflictError "reserved exposure exceeds policy max")
      else pure (some pol.commitHorizonMs)
  else pure none

/-- Take the reserve from the account's balance. -/
def reserveExposure (accountId : String) (reserved : Money) : FinanceTx Unit := do
  if 0 < reserved then
    let db ← Tx.read
    match db.accountLedgers.find? accountId with
    | none => Tx.raise (.insufficientExposureError "account not found or inactive")
    | some account =>
      if !account.active then
        Tx.raise (.insufficientExposureError "account not found or inactive")
      else if account.balance < reserved then
        Tx.raise (.insufficientExposureError "insufficient exposure balance")
      else
        Tx.write fun db => { db with
          accountLedgers := db.accountLedgers.update accountId (Account.debit reserved)
            (Account.debit_accountId reserved) }
  else pure ()

/-- `INSERT INTO governance_crystals` under its constraints. -/
def insertCrystal (c : CrystalRow) : FinanceTx Unit := do
  let db ← Tx.read
  match db.governanceCrystals.insert? c with
  | none => Tx.raise (.integrityError "governance_crystals_pkey")
  | some t =>
    if db.governanceCrystals.rows.any fun x =>
        x.platform = c.platform && x.operationId = c.operationId then
      Tx.raise (.integrityError "fg_crystal_unique_op")
    else if c.policyId.any fun p => (db.instrumentPolicyRegistry.find? p).isNone then
      Tx.raise (.integrityError "governance_crystals_policy_id_fkey")
    else Tx.write fun db => { db with governanceCrystals := t }

/-- `INSERT INTO commit_escrow_ledger` under its constraints. -/
def insertEscrow (e : EscrowRow) : FinanceTx Unit := do
  let db ← Tx.read
  if e.reservedExposure < 0 then
    Tx.raise (.integrityError "fg_escrow_nonnegative_reserved")
  else
    match db.commitEscrowLedger.insert? e with
    | none => Tx.raise (.integrityError "commit_escrow_ledger_pkey")
    | some t => Tx.write fun db => { db with commitEscrowLedger := t }

/-- The escrow row of a new crystal. -/
def openEscrow (request : CrystallizeRequest) (crystalId : String) : EscrowRow where
  operationId := request.operationId
  crystalId := crystalId
  accountId := request.accountId
  platform := request.platform
  reservedExposure := quantizeMoney request.reservedExposure
  committedExposure := 0
  status := .crystallized
  terminalReason := none

/-- The part of `crystallize_operation` after no crystal was found for the operation. -/
def crystallizeNew (d : Deployment) (clock : Clock) (uuid : String)
    (request : CrystallizeRequest) (policyId : Option String) : FinanceTx CrystallizeResult := do
  let commitHorizonMs ← policyHorizon policyId request.reservedExposure
  let db ← Tx.read
  let prevCrystalHash :=
    (lastBy CrystalRow.crystallizedAt db.governanceCrystals.rows).map CrystalRow.crystalHash
  let crystal := sealCrystal d clock uuid request policyId prevCrystalHash commitHorizonMs
  let reserved := quantizeMoney request.reservedExposure
  reserveExposure request.accountId reserved
  insertCrystal crystal
  insertEscrow (openEscrow request crystal.crystalId)
  appendDecisionEvent d (crystalEvent clock crystal (openEscrow request crystal.crystalId)
    .crystalCreated (-reserved)
    [("platform", .str request.platform), ("risk_tier", .str request.riskTier)])
  Tx.commit
  pure ⟨crystal.crystalId, request.operationId, .crystallized, crystal.horizonExpiresAt⟩

/-- The policy of a request, or the platform's default. -/
def effectivePolicyId (record : PlatformRecord) (policyId : Option String) : Option String :=
  if policyId.isNone && truthy record.defaultPolicyId then record.defaultPolicyId else policyId

/-- The crystal of a platform's operation. -/
def findCrystal (db : Database) (platform operationId : String) : Option CrystalRow :=
  db.governanceCrystals.rows.find? fun c => c.platform = platform && c.operationId = operationId

/-- `crystallize_operation`; `raced` when the crystal of a concurrent call was not visible yet. -/
def crystallizeOperation (d : Deployment) (raced : Bool) (clock : Clock) (uuid : String)
    (request : CrystallizeRequest) : FinanceTx CrystallizeResult := do
  let record ← assertPlatformAllowed request.platform
  validatePlatformFacets request.platform request.facets
  let policyId := effectivePolicyId record request.policyId
  let db ← Tx.read
  match if raced then none else findCrystal db request.platform request.operationId with
  | some existing =>
    if canonicalFingerprint d request.platform request.operationId request.facets ≠
        existing.requestFingerprint then
      Tx.raise (.conflictError "fingerprint mismatch on crystallize replay")
    else
      pure ⟨existing.crystalId, request.operationId, .replay, existing.horizonExpiresAt⟩
  | none => crystallizeNew d clock uuid request policyId

/-! ## Committing -/

/-- The exception with which the checks of `commit_operation` refuse an open crystal. -/
def commitRefusal (d : Deployment) (clock : Clock) (db : Database) (c : CrystalRow)
    (request : CommitRequest) : Option Exn :=
  if !verifyCommitFingerprint d c request.facets then
    some (.surpriseCommitBlockedError "fingerprint mismatch")
  else if isHorizonExpired c clock.utcnow && !request.lateAuthority then
    if shouldStrandOnExpiry c.riskTier then some (.horizonStrandedError "horizon expired")
    else some (.surpriseCommitBlockedError "horizon expired")
  else (meshBlockReason db c.platform).map .surpriseCommitBlockedError

/-- `drift_exceeds_tolerance`. -/
def driftExceedsTolerance (settings : Settings) (drift reserved : Money) : Bool :=
  if drift ≤ quantizeMoney settings.driftAbsoluteTolerance then false
  else if reserved ≤ 0 then true
  else quotientExceeds drift.toNat reserved.toNat (quantizeMoney settings.driftRatioTolerance)

/-- `record_guardrail_incident` for a drift lock. -/
def driftIncident (settings : Settings) (c : CrystalRow) (reserved committed : Money) :
    GuardrailIncident where
  operationId := c.operationId
  crystalId := c.crystalId
  incidentType := "DRIFT_THRESHOLD_EXCEEDED"
  platform := c.platform
  metadata := .obj [
    ("drift_amount", .str (decimalStr (committed - reserved))),
    ("reserved_exposure", .str (decimalStr reserved)),
    ("committed_exposure", .str (decimalStr committed)),
    ("threshold_absolute", .str (decimalStr (quantizeMoney settings.driftAbsoluteTolerance))),
    ("threshold_ratio", .str (decimalStr (quantizeMoney settings.driftRatioTolerance)))]

/-- `enforce_drift_on_commit`, with the metadata it returns. -/
def enforceDriftOnCommit (d : Deployment) (settings : Settings) (clock : Clock) (c : CrystalRow)
    (e : EscrowRow) (committed : Money) : FinanceTx (List (String × Json)) := do
  let reserved := e.reservedExposure
  let drift := max 0 (committed - reserved)
  if drift ≤ 0 then
    pure [("drift_enforced", .bool false), ("drift_amount", .str "0")]
  else if !driftExceedsTolerance settings drift reserved then
    appendDecisionEvent d (crystalEvent clock c e .driftTolerated 0
      [("drift_amount", .str (decimalStr drift))])
    pure [("drift_enforced", .bool false), ("drift_amount", .str (decimalStr drift))]
  else
    Tx.write fun db => { db with
      accountLedgers := db.accountLedgers.update e.accountId
        (Account.lock "DRIFT_THRESHOLD_EXCEEDED" clock.utcnow) (Account.lock_accountId _ _) }
    Tx.write fun db => { db with
      guardrailIncidents := db.guardrailIncidents ++ [driftIncident settings c reserved committed] }
    appendDecisionEvent d (crystalEvent clock c e .driftEnforced 0
      [("drift_amount", .str (decimalStr drift))])
    pure [("drift_enforced", .bool true), ("drift_amount", .str (decimalStr drift))]

/-- `UPDATE commit_escrow_ledger` to `COMMITTED`, under the `CHECK` of the column. -/
def commitEscrow (crystalId : String) (committed : Money) : FinanceTx Unit :=
  if committed < 0 then Tx.raise (.integrityError "fg_escrow_nonnegative_committed")
  else Tx.write fun db => { db with
    commitEscrowLedger := db.commitEscrowLedger.updateWhere (fun e => e.crystalId = crystalId)
      (EscrowRow.commit committed) (EscrowRow.commit_operationId committed) }

/-- The part of `commit_operation` after its checks. -/
def commitOpen (d : Deployment) (settings : Settings) (clock : Clock) (c : CrystalRow)
    (e : EscrowRow) (request : CommitRequest) : FinanceTx CommitResult := do
  let committed := quantizeMoney request.committedExposure
  refundAccount e.accountId (e.reservedExposure - committed)
  commitEscrow request.crystalId committed
  closeCrystal request.crystalId .committed
  let drift ← enforceDriftOnCommit d settings clock c e committed
  appendDecisionEvent d (crystalEvent clock c e .committedFinal committed
    (("outcome", .str request.outcome) :: drift))
  Tx.commit
  pure ⟨c.operationId, request.crystalId, .committed⟩

/-- `commit_operation`. -/
def commitOperation (d : Deployment) (settings : Settings) (clock : Clock)
    (request : CommitRequest) : FinanceTx CommitResult := do
  let db ← Tx.read
  match crystalJoin db request.crystalId with
  | none => Tx.raise (.surpriseCommitBlockedError "unknown crystal")
  | some (c, e) =>
    if c.terminalState.isSome then pure ⟨c.operationId, request.crystalId, .replay⟩
    else
      match commitRefusal d clock db c request with
      | some exn => Tx.raise exn
      | none => commitOpen d settings clock c e request

/-! ## Adjudicating -/

/-- The part of `adjudicate_operation` after its checks. -/
def strandOpen (d : Deployment) (clock : Clock) (c : CrystalRow) (e : EscrowRow)
    (request : AdjudicateRequest) : FinanceTx CommitResult := do
  refundAccount e.accountId e.reservedExposure
  closeCrystal request.crystalId .stranded
  finishEscrow request.crystalId .stranded (String.ofList (request.reason.toList.take 255))
  appendDecisionEvent d (crystalEvent clock c e .strandedHold 0
    [("reason", .str request.reason), ("source", .str "adjudicate")])
  Tx.commit
  pure ⟨c.operationId, request.crystalId, .stranded⟩

/-- `adjudicate_operation`. -/
def adjudicateOperation (d : Deployment) (clock : Clock) (request : AdjudicateRequest) :
    FinanceTx CommitResult := do
  if request.action ≠ "strand" then
    Tx.raise (.surpriseCommitBlockedError s!"unsupported adjudicate action: {request.action}")
  else
    let db ← Tx.read
    match crystalJoin db request.crystalId with
    | none => Tx.raise (.surpriseCommitBlockedError "unknown crystal")
    | some (c, e) =>
      if c.terminalState.isSome then pure ⟨c.operationId, request.crystalId, .replay⟩
      else
        strandOpen d clock c e request

/-! ## Sweeping -/

/-- Whether the sweep selects an open crystal. -/
def horizonPassed (clock : Clock) (c : CrystalRow) (e : EscrowRow) : Bool :=
  c.terminalState.isNone && c.horizonExpiresAt ≤ clock.currentTimestamp &&
    (e.status = .crystallized || e.status = .inFlight || e.status = .actionTimeout)

/-- The batch that a sweep claims; `SKIP LOCKED` passes over the rows of other calls. -/
def horizonBatch (db : Database) (clock : Clock) (plan : SweepPlan) (batchSize : Nat) :
    List (CrystalRow × EscrowRow) :=
  (((db.governanceCrystals.rows.filterMap fun c => crystalJoin db c.crystalId).filter fun p =>
    horizonPassed clock p.1 p.2 && !plan.locked p.1.crystalId).insertionSort fun a b =>
      a.1.horizonExpiresAt < b.1.horizonExpiresAt ∨
        a.1.horizonExpiresAt = b.1.horizonExpiresAt ∧
          plan.rank a.1.crystalId ≤ plan.rank b.1.crystalId).take batchSize

/-- Whether the sweep strands a crystal or lets it expire. -/
def sweepStrands (c : CrystalRow) (e : EscrowRow) : Bool :=
  shouldStrandOnExpiry c.riskTier || e.status ≠ .crystallized

/-- The body of the sweep's loop. -/
def sweepCrystal (d : Deployment) (clock : Clock) (p : CrystalRow × EscrowRow) :
    FinanceTx Unit := do
  if sweepStrands p.1 p.2 then
    closeCrystal p.1.crystalId .stranded
    finishEscrow p.1.crystalId .stranded "HORIZON_STRANDED"
    appendDecisionEvent d (crystalEvent clock p.1 p.2 .strandedHold 0
      [("reason", .str "horizon_sweep")])
  else
    creditAccount p.2.accountId p.2.reservedExposure
    closeCrystal p.1.crystalId .expired
    finishEscrow p.1.crystalId .expired "HORIZON_EXPIRED"
    appendDecisionEvent d (crystalEvent clock p.1 p.2 .horizonExpired p.2.reservedExposure
      [("reason", .str "horizon_sweep")])

/-- `sweep_expired_horizons`. -/
def sweepExpiredHorizons (d : Deployment) (clock : Clock) (plan : SweepPlan) (batchSize : Nat) :
    FinanceTx Nat := do
  let db ← Tx.read
  let rows := horizonBatch db clock plan batchSize
  rows.forM (sweepCrystal d clock)
  Tx.commit
  pure rows.length

end Governor.Finance
