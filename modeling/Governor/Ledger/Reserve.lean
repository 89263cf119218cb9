import Mathlib
import Governor.Ledger.Attribution
import Governor.Ledger.Seal

/-!
# Reserving an operation

`reserve_operation` answers a replay from the stored row. A new operation passes the
circuit breaker, the approval rule and the budget scopes, claims its trace's budget,
takes the reserve out of the wallet and records the operation; it commits last.
-/

namespace Governor.Ledger

/-- `_fingerprint_reserve_request`. -/
def fingerprintReserveRequest (d : Deployment) (request : ReserveRequest) : Hash :=
  d.sha256 (Json.dumps Json.spaced (.obj [
    ("estimated_cost", .str (decimalStr (quantizeMoney request.estimatedCost))),
    ("model", .str request.model),
    ("trace_cap", request.traceCap.elim .null fun c => .str (decimalStr (quantizeMoney c))),
    ("trace_id", .str request.traceId),
    ("user_id", .str request.userId)]))

/-- What the circuit breaker answers for the model. -/
inductive BreakerAnswer where
  | closed | opened | unavailable
  deriving DecidableEq, Repr

/-- `_assert_circuit_closed`. -/
def assertCircuitClosed (answer : BreakerAnswer) (providerKey : String) : LedgerTx Unit :=
  match answer with
  | .closed => pure ()
  | .opened => Tx.raise (.policyStateError ("provider circuit open for " ++ providerKey))
  | .unavailable =>
    Tx.raise (.policyStateError ("circuit breaker unavailable for " ++ providerKey))

/-- The replay branch of `reserve_operation`. -/
def replayReserve (d : Deployment) (request : ReserveRequest) (existing : EscrowRow) :
    LedgerTx OperationResult :=
  if existing.requestFingerprint ≠ fingerprintReserveRequest d request then
    Tx.raise (.conflictError "idempotency key replay does not match original reserve request")
  else
    pure ⟨existing.idempotencyKey, existing.status,
      if existing.status ≠ .settled ∧ existing.actualAmount = 0 then existing.reservedAmount
      else existing.actualAmount⟩

/-- The exceptions of the attribution controls as the reserve reports them. -/
def attributionAtReserve : Exn → Exn
  | .budgetScopeExceededError m => .traceCapExceededError m
  | .attributionPolicyError m => .policyStateError m
  | e => e

/-- The attribution controls of a reserve. -/
def reserveAttribution (settings : Settings) (clock : Clock) (request : ReserveRequest) :
    Option Identity → LedgerTx Unit
  | none => pure ()
  | some identity => Tx.rethrow attributionAtReserve do
      enforceManualApproval settings request identity clock.utcnow
      applyReserveBudgetScopes settings request identity (quantizeMoney request.estimatedCost)

/-- Count a reserve against its trace. -/
def TraceBudget.reserve (amount : Money) (t : TraceBudget) : TraceBudget :=
  { t with reservedTotal := t.reservedTotal + amount }

/-- The trace claim of `reserve_operation`. -/
def claimTrace (traceId : String) (traceCap reservedAmount : Money) : LedgerTx Unit := do
  Tx.write fun db => { db with
    traceBudgetState := db.traceBudgetState.insertIfAbsent ⟨traceId, traceCap, 0, 0⟩ }
  let db ← Tx.read
  if (db.traceBudgetState.find? traceId).any fun t => t.capAmount ≠ traceCap then
    Tx.raise (.conflictError "trace cap mismatch for existing trace budget state")
  else if (db.traceBudgetState.find? traceId).any fun t =>
      t.reservedTotal + reservedAmount ≤ t.capAmount then
    Tx.write fun db => { db with
      traceBudgetState := db.traceBudgetState.update traceId (TraceBudget.reserve reservedAmount) }
  else
    Tx.raise (.traceCapExceededError "trace cap exceeded")

/-- Change a wallet's balance. -/
def Wallet.credit (amount : Money) (w : Wallet) : Wallet := { w with balance := w.balance + amount }

theorem Wallet.debit_userId (amount : Money) (w : Wallet) :
    (w.credit (-amount)).userId = w.userId := rfl

/-- The wallet debit of `reserve_operation`: an active wallet with enough balance. -/
def debitWallet (userId : String) (reservedAmount : Money) : LedgerTx Unit := do
  let db ← Tx.read
  if (db.userWallets.find? userId).any fun w => w.active && reservedAmount ≤ w.balance then
    Tx.write fun db => { db with
      userWallets := db.userWallets.update userId (Wallet.credit (-reservedAmount))
        (Wallet.debit_userId reservedAmount) }
  else
    Tx.raise (.insufficientFundsError "wallet inactive or insufficient balance")

/-- The row that a reserve inserts. -/
def ReserveRequest.escrowRow (d : Deployment) (settings : Settings) (clock : Clock)
    (request : ReserveRequest) (identity : Option Identity) : EscrowRow where
  idempotencyKey := request.idempotencyKey
  userId := request.userId
  traceId := request.traceId
  model := request.model
  requestFingerprint := fingerprintReserveRequest d request
  identity := identity
  policyVersion := identity.map fun _ => request.policyVersion
  reservedAmount := quantizeMoney request.estimatedCost
  actualAmount := 0
  status := .reserved
  providerRequestId := none
  terminalReason := "RESERVE_CREATED"
  traceCapAmount := capOr request.traceCap settings.defaultTraceCapAmount
  driftAmount := 0
  createdAt := clock.utcnow
  expiresAt := clock.utcnow + settings.reserveTtlSeconds * 1000000
  dispatchStartedAt := none
  settledAt := none
  expiredAt := none

/-- `INSERT INTO escrow_ledger`: a taken key and an unknown model are both reported as
a key that exists. -/
def insertEscrow (row : EscrowRow) : LedgerTx Unit := do
  let db ← Tx.read
  match db.escrowLedger.insert? row with
  | some t =>
    if row.model ∈ db.modelPolicyRegistry then
      Tx.write fun db => { db with escrowLedger := t }
    else Tx.raise (.conflictError "idempotency key already exists")
  | none => Tx.raise (.conflictError "idempotency key already exists")

/-- The event of a reserve. -/
def reserveEvent (clock : Clock) (request : ReserveRequest) (row : EscrowRow) : EventDraft where
  idempotencyKey := row.idempotencyKey
  userId := row.userId
  eventType := EventType.reserveCreated.text
  amountDelta := -row.reservedAmount
  metadata := [("trace_id", .str row.traceId), ("model", .str row.model),
    ("trace_cap_amount", .str (decimalStr row.traceCapAmount))] ++
    (row.identity.elim [] fun i => i.fields ++ [("policy_version", .str request.policyVersion)])
  recordedAt := clock.currentTimestamp

/-- The lineage record of a reserve, when the attribution tables are there. -/
def reserveLineage (clock : Clock) (row : EscrowRow) : LedgerTx Unit :=
  match row.identity with
  | none => pure ()
  | some identity => recordLineage {
      idempotencyKey := row.idempotencyKey
      identity := identity
      userId := row.userId
      eventType := .reserveCreated
      promptTemplateVersion := none
      systemContextHash := none
      toolName := none
      toolInput := none
      rawToolOutput := none
      providerRequestId := none
      stateSnapshot := .obj [("status", .str EscrowStatus.reserved.text),
        ("reserved_amount", .str (decimalStr row.reservedAmount))]
      recordedAt := clock.utcnow }

/-- `reserve_operation` after its first query found no row. -/
def reserveNew (d : Deployment) (settings : Settings) (clock : Clock) (breaker : BreakerAnswer)
    (request : ReserveRequest) : LedgerTx OperationResult := do
  let identity := if d.attributionSchema then some (identityFromReserve request) else none
  let row := request.escrowRow d settings clock identity
  assertCircuitClosed breaker request.model
  reserveAttribution settings clock request identity
  claimTrace row.traceId row.traceCapAmount row.reservedAmount
  debitWallet row.userId row.reservedAmount
  insertEscrow row
  appendSealedLedgerEvent d (reserveEvent clock request row)
  reserveLineage clock row
  Tx.commit
  pure ⟨row.idempotencyKey, .reserved, row.reservedAmount⟩

/-- `reserve_operation`. -/
def reserveOperation (d : Deployment) (settings : Settings) (clock : Clock)
    (breaker : BreakerAnswer) (request : ReserveRequest) : LedgerTx OperationResult := do
  let db ← Tx.read
  match db.escrowLedger.find? request.idempotencyKey with
  | some existing => replayReserve d request existing
  | none => reserveNew d settings clock breaker request

end Governor.Ledger
