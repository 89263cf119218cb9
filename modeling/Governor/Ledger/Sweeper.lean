import Mathlib
import Governor.Ledger.Settlement

/-!
# Sweeping expired reservations

The reconciler claims a batch of overdue operations. One with dispatch activity is
held as stranded; any other is expired and its reserve goes back to the wallet and
to the trace. The batch is one transaction.
-/

namespace Governor.Ledger

/-- What the database decides in a sweep: its clock, the rows that concurrent
transactions hold locked, and the order of rows that expire at the same time. -/
structure SweepPlan where
  /-- Rows that `SKIP LOCKED` passes over. -/
  locked : String → Bool
  /-- Ties of `ORDER BY expires_at`. -/
  rank : String → Nat

/-- Whether a row is overdue and not yet claimed. -/
def EscrowRow.overdue (currentTimestamp : Timestamp) (r : EscrowRow) : Bool :=
  (r.status = .reserved || r.status = .inFlight || r.status = .providerTimeout) &&
    r.expiresAt ≤ currentTimestamp

/-- The batch that a sweep claims. -/
def sweepBatch (db : Database) (clock : Clock) (plan : SweepPlan) (batchSize : Nat) :
    List EscrowRow :=
  ((db.escrowLedger.rows.filter fun r =>
    r.overdue clock.currentTimestamp && !plan.locked r.idempotencyKey).insertionSort
      fun a b => a.expiresAt < b.expiresAt ∨
        a.expiresAt = b.expiresAt ∧ plan.rank a.idempotencyKey ≤ plan.rank b.idempotencyKey).take
    batchSize

/-- `_has_open_attempts`. -/
def hasOpenAttempts (db : Database) (idempotencyKey : String) : Bool :=
  db.providerDispatchAttempts.rows.any fun a =>
    a.idempotencyKey = idempotencyKey && (a.status = .inFlight || a.status = .providerTimeout)

/-- Whether the provider may have been called for an overdue row. -/
def hasDispatchActivity (db : Database) (row : EscrowRow) : Bool :=
  row.status = .inFlight || row.status = .providerTimeout || hasOpenAttempts db row.idempotencyKey

/-- The row held for reconciliation. -/
def EscrowRow.strand (now : Timestamp) (r : EscrowRow) : EscrowRow :=
  { r with
    status := .stranded
    expiredAt := some now
    terminalReason := "STRANDED_HOLD_PENDING_RECONCILIATION" }

/-- The row whose reserve is given back. -/
def EscrowRow.expire (now : Timestamp) (r : EscrowRow) : EscrowRow :=
  { r with status := .expired, expiredAt := some now, terminalReason := "TTL_EXPIRED" }

/-- Release a reserve from its trace. -/
def TraceBudget.release (amount : Money) (t : TraceBudget) : TraceBudget :=
  { t with reservedTotal := t.reservedTotal - amount }

/-- An event of the sweep. -/
def sweepEvent (clock : Clock) (row : EscrowRow) (eventType : EventType) (amountDelta : Money) :
    EventDraft where
  idempotencyKey := row.idempotencyKey
  userId := row.userId
  eventType := eventType.text
  amountDelta := amountDelta
  metadata := [("reason", .str "reconciler_expiry_claim")]
  recordedAt := clock.currentTimestamp

/-- The branch of the sweep that holds the reserve. -/
def strandRow (d : Deployment) (clock : Clock) (row : EscrowRow) : LedgerTx Unit := do
  Tx.write fun db => { db with
    escrowLedger := db.escrowLedger.update row.idempotencyKey (EscrowRow.strand clock.utcnow) }
  appendSealedLedgerEvent d (sweepEvent clock row .strandedHold 0)

/-- The branch of the sweep that gives the reserve back. -/
def expireRow (d : Deployment) (clock : Clock) (row : EscrowRow) : LedgerTx Unit := do
  Tx.write fun db => { db with
    userWallets := db.userWallets.update row.userId (Wallet.credit row.reservedAmount) }
  Tx.write fun db => { db with
    traceBudgetState := db.traceBudgetState.update row.traceId
      (TraceBudget.release row.reservedAmount) }
  Tx.write fun db => { db with
    escrowLedger := db.escrowLedger.update row.idempotencyKey (EscrowRow.expire clock.utcnow) }
  appendSealedLedgerEvent d (sweepEvent clock row .expiredSweep row.reservedAmount)

/-- The body of the sweep's loop. -/
def sweepRow (d : Deployment) (clock : Clock) (row : EscrowRow) : LedgerTx Unit := do
  let db ← Tx.read
  if hasDispatchActivity db row then
    strandRow d clock row
  else
    expireRow d clock row

/-- `sweep_expired_reservations`. -/
def sweepExpiredReservations (d : Deployment) (clock : Clock) (plan : SweepPlan)
    (batchSize : Nat) : LedgerTx Nat := do
  let db ← Tx.read
  let rows := sweepBatch db clock plan batchSize
  rows.forM (sweepRow d clock)
  Tx.commit
  pure rows.length

end Governor.Ledger
