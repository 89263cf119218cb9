import Mathlib
import Governor.Ledger.Reserve

/-!
# Settling an operation

`apply_settlement` finds the operation by its key or by a provider request id,
checks the identity and either records dispatch activity or finalizes the
settlement. A final settlement decides whether the reserve is still held, moves the
difference between reserve and actual cost, and closes the row; drift beyond both
tolerances locks the wallet.
-/

namespace Governor.Ledger

/-- `_load_operation_for_update`. -/
def loadOperationForUpdate (db : Database) (request : SettleRequest) : Option EscrowRow :=
  match request.idempotencyKey with
  | some key => db.escrowLedger.find? key
  | none =>
    if truthy request.providerRequestId then
      (db.providerDispatchAttempts.rows.find? fun a =>
        a.providerRequestId = request.providerRequestId).bind fun a =>
          db.escrowLedger.find? a.idempotencyKey
    else none

/-- SQL `COALESCE(a, b)`. -/
def coalesce (a b : Option String) : Option String := a.orElse fun _ => b

/-! ## Dispatch attempts -/

/-- The row that `ON CONFLICT (attempt_key) DO UPDATE` leaves; it keeps the operation
of the attempt that was there. -/
def upsertedAttempt (db : Database) (idempotencyKey attemptKey : String)
    (request : SettleRequest) (now : Timestamp) : DispatchAttempt :=
  match db.providerDispatchAttempts.find? attemptKey with
  | none => {
      attemptKey := attemptKey
      idempotencyKey := idempotencyKey
      providerName := request.providerName
      modelName := request.model
      providerRequestId := request.providerRequestId
      status := request.outcome
      terminalReason := orElse request.reason request.outcome.status.text
      createdAt := now
      updatedAt := now }
  | some old => { old with
      providerName := request.providerName
      modelName := request.model
      providerRequestId := coalesce request.providerRequestId old.providerRequestId
      status := request.outcome
      terminalReason := orElse request.reason request.outcome.status.text
      updatedAt := now }

/-- The unique index on the attempts' provider request ids. -/
def attemptIdTaken (db : Database) (attempt : DispatchAttempt) : Bool :=
  attempt.providerRequestId.isSome && db.providerDispatchAttempts.rows.any fun a =>
    a.attemptKey ≠ attempt.attemptKey && a.providerRequestId = attempt.providerRequestId

/-- `_upsert_attempt`. -/
def upsertAttempt (idempotencyKey attemptKey : String) (request : SettleRequest)
    (now : Timestamp) : LedgerTx Unit := do
  let db ← Tx.read
  let attempt := upsertedAttempt db idempotencyKey attemptKey request now
  if attemptIdTaken db attempt then
    Tx.raise (.conflictError
      "provider_request_id is already attached to a different dispatch attempt")
  else
    Tx.write fun db => { db with
      providerDispatchAttempts := db.providerDispatchAttempts.put attempt }

/-- `UPDATE escrow_ledger` under the unique index on its provider request ids. -/
def updateEscrow (key : String) (f : EscrowRow → EscrowRow)
    (hf : ∀ r, (f r).idempotencyKey = r.idempotencyKey := by intro _; exact id rfl) : LedgerTx Unit := do
  let db ← Tx.read
  let t := db.escrowLedger.update key f hf
  if (t.find? key).any fun r => r.providerRequestId.isSome && t.rows.any fun o =>
      o.idempotencyKey ≠ key && o.providerRequestId = r.providerRequestId then
    Tx.raise (.integrityError "idx_escrow_provider_request_id_unique")
  else
    Tx.write fun db => { db with escrowLedger := t }

/-! ## Recording dispatch activity -/

/-- The exceptions of the loop guardrail as the settlement reports them. -/
def attributionAtSettle : Exn → Exn
  | .attributionPolicyError m => .policyStateError m
  | e => e

/-- The row after dispatch activity. -/
def EscrowRow.record (request : SettleRequest) (now : Timestamp) (r : EscrowRow) : EscrowRow :=
  { r with
    status := request.outcome.status
    dispatchStartedAt := r.dispatchStartedAt.orElse fun _ => some now
    providerRequestId := coalesce request.providerRequestId r.providerRequestId
    terminalReason := orElse request.reason request.outcome.status.text }

/-- The event of dispatch activity. -/
def recordEvent (clock : Clock) (operation : EscrowRow) (request : SettleRequest) :
    EventDraft where
  idempotencyKey := operation.idempotencyKey
  userId := operation.userId
  eventType := if request.outcome = .inFlight then EventType.dispatchStarted.text
    else EventType.providerTimeoutRecorded.text
  amountDelta := 0
  metadata := [("dispatch_attempt_key", jsonOptional request.dispatchAttemptKey),
    ("provider_name", jsonOptional request.providerName),
    ("provider_request_id", jsonOptional request.providerRequestId),
    ("reason", .str (orElse request.reason request.outcome.status.text))]
  recordedAt := clock.currentTimestamp

/-- The loop guardrail of `_record_attempt_state`. -/
def recordLoopGuardrail (d : Deployment) (settings : Settings) (clock : Clock)
    (operation : EscrowRow) (request : SettleRequest) : LedgerTx Unit :=
  if d.attributionSchema then
    Tx.rethrow attributionAtSettle (enforceLoopGuardrail operation request settings clock.utcnow)
  else pure ()

/-- `_record_attempt_state`. -/
def recordAttemptState (d : Deployment) (settings : Settings) (clock : Clock)
    (operation : EscrowRow) (request : SettleRequest) : LedgerTx OperationResult :=
  if operation.status = .settled ∨ operation.status = .expired then
    Tx.raise (.policyStateError "cannot record dispatch activity for a terminal operation")
  else match request.dispatchAttemptKey with
    | none => Tx.raise (.policyStateError
        "dispatch_attempt_key is required for non-terminal execution updates")
    | some attemptKey => do
      recordLoopGuardrail d settings clock operation request
      upsertAttempt operation.idempotencyKey attemptKey request clock.utcnow
      updateEscrow operation.idempotencyKey (EscrowRow.record request clock.utcnow)
      appendSealedLedgerEvent d (recordEvent clock operation request)
      pure ⟨operation.idempotencyKey, request.outcome.status, operation.actualAmount⟩

/-! ## Final settlement -/

/-- `late_after_expiry`. -/
def EscrowRow.lateAfterExpiry (operation : EscrowRow) : Bool :=
  operation.status = .expired || operation.status = .stranded

/-- `reserved_still_held`. -/
def EscrowRow.reservedStillHeld (operation : EscrowRow) : Bool := operation.status ≠ .expired

/-- `refund_amount`: the unused part of a reserve that is still held. -/
def refundAmount (operation : EscrowRow) (actualAmount : Money) : Money :=
  if operation.reservedStillHeld ∧ actualAmount ≤ operation.reservedAmount then
    operation.reservedAmount - actualAmount
  else 0

/-- `correction_debit`: what the reserve does not cover. -/
def correctionDebit (operation : EscrowRow) (actualAmount : Money) : Money :=
  if operation.reservedStillHeld then
    if actualAmount ≤ operation.reservedAmount then 0
    else actualAmount - operation.reservedAmount
  else actualAmount

/-- Pay the unused reserve back. -/
def refundWallet (d : Deployment) (clock : Clock) (operation : EscrowRow) (amount : Money) :
    LedgerTx Unit :=
  if amount = 0 then pure () else do
    Tx.write fun db => { db with
      userWallets := db.userWallets.update operation.userId (Wallet.credit amount) }
    appendSealedLedgerEvent d {
      idempotencyKey := operation.idempotencyKey
      userId := operation.userId
      eventType := EventType.settlementRefund.text
      amountDelta := amount
      metadata := [("reason", .str "unused_reserve_refund")]
      recordedAt := clock.currentTimestamp }

/-- Charge what the reserve did not cover; the balance is checked at the end. -/
def correctWallet (d : Deployment) (clock : Clock) (operation : EscrowRow) (amount : Money) :
    LedgerTx Unit :=
  if amount = 0 then pure () else do
    Tx.write fun db => { db with
      userWallets := db.userWallets.update operation.userId (Wallet.credit (-amount)) }
    appendSealedLedgerEvent d {
      idempotencyKey := operation.idempotencyKey
      userId := operation.userId
      eventType := EventType.settlementCorrectionDebit.text
      amountDelta := -amount
      metadata := [("reason", .str "authoritative_provider_settlement"),
        ("late_after_expiry", .bool operation.lateAfterExpiry)]
      recordedAt := clock.currentTimestamp }

/-- Move an operation from the reserved to the settled total of its trace. -/
def TraceBudget.settle (released actualAmount : Money) (t : TraceBudget) : TraceBudget :=
  { t with
    reservedTotal := t.reservedTotal - released
    settledTotal := t.settledTotal + actualAmount }

/-- The trace update of `_finalize_settlement`. -/
def settleTrace (operation : EscrowRow) (actualAmount : Money) : LedgerTx Unit :=
  if operation.reservedStillHeld then
    Tx.write fun db => { db with
      traceBudgetState := db.traceBudgetState.update operation.traceId
        (TraceBudget.settle operation.reservedAmount actualAmount) }
  else
    Tx.write fun db => { db with
      traceBudgetState := db.traceBudgetState.update operation.traceId
        (TraceBudget.settle 0 actualAmount) }

/-- `budget_delta`. -/
def budgetDelta (operation : EscrowRow) (actualAmount : Money) : Money :=
  if operation.reservedStillHeld then actualAmount - operation.reservedAmount else actualAmount

/-- The exceptions of the budget scopes as the settlement reports them. -/
def budgetAtSettle : Exn → Exn
  | .budgetScopeExceededError m => .traceCapExceededError m
  | e => e

/-- The budget-scope update of `_finalize_settlement`. -/
def settleScopes (d : Deployment) (settings : Settings) (operation : EscrowRow)
    (actualAmount : Money) : LedgerTx Unit :=
  if d.attributionSchema && budgetDelta operation actualAmount ≠ 0 then
    Tx.rethrow budgetAtSettle
      (applySettlementBudgetScopes settings operation (budgetDelta operation actualAmount))
  else pure ()

/-- The attempt that a final settlement names, if it names one. -/
def settleAttempt (clock : Clock) (operation : EscrowRow) (request : SettleRequest) :
    LedgerTx Unit :=
  match request.dispatchAttemptKey with
  | some attemptKey => upsertAttempt operation.idempotencyKey attemptKey request clock.utcnow
  | none => pure ()

/-- The event type, and reason, of a final settlement. -/
def terminalReason (operation : EscrowRow) : EventType :=
  if operation.lateAfterExpiry then .reconciledLateSettle else .settledFinal

/-- The row after its final settlement. -/
def EscrowRow.settle (request : SettleRequest) (actualAmount : Money) (reason : EventType)
    (now : Timestamp) (r : EscrowRow) : EscrowRow :=
  { r with
    status := .settled
    actualAmount := actualAmount
    providerRequestId := coalesce request.providerRequestId r.providerRequestId
    terminalReason := reason.text
    settledAt := some now
    driftAmount := actualAmount - r.reservedAmount }

/-- The event that closes an operation. -/
def settleEvent (clock : Clock) (operation : EscrowRow) (request : SettleRequest) :
    EventDraft where
  idempotencyKey := operation.idempotencyKey
  userId := operation.userId
  eventType := (terminalReason operation).text
  amountDelta := 0
  metadata := [("provider_request_id", jsonOptional request.providerRequestId),
    ("dispatch_attempt_key", jsonOptional request.dispatchAttemptKey),
    ("previous_status", .str operation.status.text)]
  recordedAt := clock.currentTimestamp

/-- `_enforce_non_negative_wallet_balance`. -/
def enforceNonNegativeWalletBalance (userId : String) : LedgerTx Unit := do
  let db ← Tx.read
  if (db.userWallets.find? userId).any fun w => w.balance < 0 then
    Tx.raise (.ledgerError "wallet balance invariant violated: negative balance detected")
  else pure ()

/-- `_drift_exceeds_tolerance`. -/
def driftExceedsTolerance (driftAmount reservedAmount : Money) (settings : Settings) : Bool :=
  if driftAmount ≤ quantizeMoney settings.driftAbsoluteTolerance then false
  else if reservedAmount ≤ 0 then true
  else quotientExceeds driftAmount.toNat reservedAmount.toNat
    (quantizeMoney settings.driftRatioTolerance)

/-- Lock a wallet whose operation drifted too far. -/
def Wallet.lock (now : Timestamp) (w : Wallet) : Wallet :=
  { w with active := false, lockedAt := some now, lockReason := some "DRIFT_THRESHOLD_EXCEEDED" }

/-- The drift enforcement that ends `_finalize_settlement`. -/
def enforceDrift (d : Deployment) (settings : Settings) (clock : Clock) (operation : EscrowRow)
    (driftAmount : Money) : LedgerTx Unit :=
  let excess := max 0 driftAmount
  if excess = 0 then pure ()
  else if driftExceedsTolerance excess operation.reservedAmount settings then do
    Tx.write fun db => { db with
      userWallets := db.userWallets.update operation.userId (Wallet.lock clock.utcnow) }
    appendSealedLedgerEvent d {
      idempotencyKey := operation.idempotencyKey
      userId := operation.userId
      eventType := EventType.driftEnforced.text
      amountDelta := 0
      metadata := [("drift_amount", .str (decimalStr excess)),
        ("threshold_absolute",
          .str (decimalStr (quantizeMoney settings.driftAbsoluteTolerance))),
        ("threshold_ratio", .str (decimalStr (quantizeMoney settings.driftRatioTolerance)))]
      recordedAt := clock.currentTimestamp }
  else
    appendSealedLedgerEvent d {
      idempotencyKey := operation.idempotencyKey
      userId := operation.userId
      eventType := EventType.driftTolerated.text
      amountDelta := 0
      metadata := [("drift_amount", .str (decimalStr excess))]
      recordedAt := clock.currentTimestamp }

/-- The lineage record of a settlement, when the attribution tables are there. -/
def settleLineage (d : Deployment) (clock : Clock) (operation : EscrowRow)
    (request : SettleRequest) (actualAmount : Money) : LedgerTx Unit :=
  if d.attributionSchema then
    recordLineage {
      idempotencyKey := operation.idempotencyKey
      identity := identityFromOperation operation
      userId := operation.userId
      eventType := terminalReason operation
      promptTemplateVersion := request.promptTemplateVersion
      systemContextHash := request.systemContextHash
      toolName := request.toolName
      toolInput := request.toolInput
      rawToolOutput := request.rawToolOutput
      providerRequestId := request.providerRequestId
      stateSnapshot := .obj [("status", .str EscrowStatus.settled.text),
        ("actual_amount", .str (decimalStr actualAmount)),
        ("reserved_amount", .str (decimalStr operation.reservedAmount))]
      recordedAt := clock.utcnow }
  else pure ()

/-- Whether a settlement repeats the recorded terminal state. -/
def settlementReplays (operation : EscrowRow) (request : SettleRequest) : Bool :=
  (!truthy request.providerRequestId ||
    request.providerRequestId = operation.providerRequestId) &&
    operation.actualAmount = quantizeMoney request.actualCost

/-- Add a call to the log of calls that leave the database. -/
def callOut (call : ExternalCall) : LedgerTx Unit :=
  Tx.external fun o => ((), { o with calls := o.calls ++ [call] })

/-- `_finalize_settlement` for an operation that is not settled yet. -/
def settleOpen (d : Deployment) (settings : Settings) (clock : Clock) (operation : EscrowRow)
    (request : SettleRequest) : LedgerTx OperationResult := do
  let actualAmount := quantizeMoney request.actualCost
  settleAttempt clock operation request
  refundWallet d clock operation (refundAmount operation actualAmount)
  correctWallet d clock operation (correctionDebit operation actualAmount)
  settleTrace operation actualAmount
  settleScopes d settings operation actualAmount
  updateEscrow operation.idempotencyKey
    (EscrowRow.settle request actualAmount (terminalReason operation) clock.utcnow)
  appendSealedLedgerEvent d (settleEvent clock operation request)
  enforceNonNegativeWalletBalance operation.userId
  callOut (.recordProviderSuccess
    (orElse request.providerName (orElse (some operation.model) "unknown")))
  settleLineage d clock operation request actualAmount
  enforceDrift d settings clock operation (actualAmount - operation.reservedAmount)
  pure ⟨operation.idempotencyKey, .settled, actualAmount⟩

/-- `_finalize_settlement`. -/
def finalizeSettlement (d : Deployment) (settings : Settings) (clock : Clock)
    (operation : EscrowRow) (request : SettleRequest) : LedgerTx OperationResult :=
  if operation.status = .settled then
    if settlementReplays operation request then
      pure ⟨operation.idempotencyKey, .settled, quantizeMoney request.actualCost⟩
    else Tx.raise (.conflictError "settlement replay does not match the recorded terminal state")
  else settleOpen d settings clock operation request

/-- The two checks that `apply_settlement` makes of every request. -/
def checkSettlement (d : Deployment) (operation : EscrowRow) (request : SettleRequest) :
    LedgerTx Unit :=
  if request.idempotencyKey.any fun key => key ≠ operation.idempotencyKey then
    Tx.raise (.conflictError "provider request id resolves to a different logical operation")
  else if d.attributionSchema then
    Tx.rethrow attributionAtSettle (validateSettlementIdentity operation request)
  else pure ()

/-- The circuit breaker hears of a timeout whose provider is known. -/
def reportTimeout (request : SettleRequest) : LedgerTx Unit :=
  if request.outcome = .providerTimeout ∧ truthy request.providerName then
    callOut (.recordProviderFailure (request.providerName.getD ""))
  else pure ()

/-- `apply_settlement` once the operation is loaded. -/
def settleOperation (d : Deployment) (settings : Settings) (clock : Clock)
    (operation : EscrowRow) (request : SettleRequest) : LedgerTx OperationResult := do
  checkSettlement d operation request
  if request.outcome = .settled then do
    let result ← finalizeSettlement d settings clock operation request
    Tx.commit
    callOut (.releaseInflight operation.userId)
    pure result
  else do
    let result ← recordAttemptState d settings clock operation request
    reportTimeout request
    Tx.commit
    pure result

/-- `apply_settlement`. -/
def applySettlement (d : Deployment) (settings : Settings) (clock : Clock)
    (request : SettleRequest) : LedgerTx OperationResult := do
  let db ← Tx.read
  match loadOperationForUpdate db request with
  | none => Tx.raise (.notFoundError "reservation not found")
  | some operation => settleOperation d settings clock operation request

end Governor.Ledger
