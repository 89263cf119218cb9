import Mathlib
import Governor.Ledger.Sweeper

/-!
# Runs of the ledger

The sidecar reserves and settles, the reconciler sweeps; a run is any interleaving of
their transactions, each with its own settings and clock. Row locks serialize the
transactions, with one exception that is a step of its own: a reserve whose first
query came before a concurrent reserve of the same key was committed.
-/

namespace Governor.Ledger

/-- The committed database and what no rollback reaches. -/
abbrev LedgerWorld := World Database Outside

/-- One transaction of the sidecar or the reconciler. -/
inductive Action where
  | reserve (settings : Settings) (clock : Clock) (breaker : BreakerAnswer)
      (request : ReserveRequest)
  /-- A reserve that saw no row for its key before it had to wait. -/
  | racedReserve (settings : Settings) (clock : Clock) (breaker : BreakerAnswer)
      (request : ReserveRequest)
  | settle (settings : Settings) (clock : Clock) (request : SettleRequest)
  | sweep (clock : Clock) (plan : SweepPlan) (batchSize : Nat)

/-- A reserve, with whether it saw no row for its key before it had to wait. -/
def reserveAction (raced : Bool) (settings : Settings) (clock : Clock) (breaker : BreakerAnswer)
    (request : ReserveRequest) : Action :=
  if raced then .racedReserve settings clock breaker request
  else .reserve settings clock breaker request

/-- What a transaction returns. -/
inductive Response where
  | operation (result : OperationResult)
  | swept (count : Nat)
  deriving DecidableEq, Repr

/-- The body of a transaction. -/
def Action.body (d : Deployment) : Action → LedgerTx Response
  | .reserve settings clock breaker request => do
    let result ← reserveOperation d settings clock breaker request
    pure (.operation result)
  | .racedReserve settings clock breaker request => do
    let result ← reserveNew d settings clock breaker request
    pure (.operation result)
  | .settle settings clock request => do
    let result ← applySettlement d settings clock request
    pure (.operation result)
  | .sweep clock plan batchSize => do
    let count ← sweepExpiredReservations d clock plan batchSize
    pure (.swept count)

/-- Whether the transaction is the reconciler's. -/
def Action.isSweep : Action → Bool
  | .sweep .. => true
  | _ => false

/-- What the caller of a transaction sees. -/
def respond (d : Deployment) (w : LedgerWorld) (a : Action) : Except Exn Response :=
  ((a.body d).run w).1

/-- The world after a transaction committed or was rolled back. -/
def step (d : Deployment) (w : LedgerWorld) (a : Action) : LedgerWorld := ((a.body d).run w).2

/-- The world after a run. -/
def run (d : Deployment) (w : LedgerWorld) (actions : List Action) : LedgerWorld :=
  actions.foldl (step d) w

@[simp] theorem run_nil (d : Deployment) (w : LedgerWorld) : run d w [] = w := rfl

@[simp] theorem run_cons (d : Deployment) (w : LedgerWorld) (a : Action) (as : List Action) :
    run d w (a :: as) = run d (step d w a) as := rfl

theorem run_append (d : Deployment) (w : LedgerWorld) (as bs : List Action) :
    run d w (as ++ bs) = run d (run d w as) bs := List.foldl_append

/-- What holds at the start and is kept by every transaction holds after every run. -/
theorem run_keeps {d : Deployment} {I : LedgerWorld → Prop} {w : LedgerWorld}
    (hinit : I w) (hstep : ∀ w a, I w → I (step d w a)) (actions : List Action) :
    I (run d w actions) := by
  induction actions generalizing w with
  | nil => exact hinit
  | cons a as ih => exact ih (hstep w a hinit)

/-- A ledger before its first operation. -/
structure NoOperations (w : LedgerWorld) : Prop where
  escrowLedger : w.tables.escrowLedger.rows = []
  ledgerEvents : w.tables.ledgerEvents.rows = []

/-! ## A sample ledger -/

/-- Midnight of 2026-01-01 UTC. -/
def sampleStart : Timestamp := 1767225600000000

/-- Both clocks, some minutes after the start. -/
def sampleClock (minutes : Int) : Clock :=
  ⟨sampleStart + minutes * 60000000, sampleStart + minutes * 60000000⟩

/-- A reserve of one unit. -/
def sampleReserve : ReserveRequest where
  userId := "user-1"
  traceId := "trace-1"
  idempotencyKey := "op-1"
  model := "gpt-4o-mini"
  estimatedCost := ⟨1, 0⟩
  traceCap := none
  tenantId := none
  sessionId := none
  agentRunId := none
  workflowStep := none
  policyVersion := "v1"
  runBudget := none
  sessionBudget := none
  tenantBudget := none
  userBudget := none
  requiresManualApproval := false
  manualApprovalId := none
  highCostTool := none
  estimatedCost_nonneg := by decide

/-- The settlement of the reserve at its full cost. -/
def sampleSettle : SettleRequest where
  idempotencyKey := some "op-1"
  outcome := .settled
  actualCost := ⟨1, 0⟩
  dispatchAttemptKey := none
  providerName := none
  model := none
  providerRequestId := some "provider-1"
  reason := none
  tenantId := none
  sessionId := none
  agentRunId := none
  workflowStep := none
  loopSignature := none
  promptTemplateVersion := none
  systemContextHash := none
  toolName := none
  toolInput := none
  rawToolOutput := none
  idempotencyKey_nonempty := by decide
  actualCost_nonneg := by decide

/-- One user with one hundred units and one known model. -/
def sampleWorld : LedgerWorld where
  tables := {
    userWallets := Table.empty.put ⟨"user-1", 100000000000000, true, none, none⟩
    modelPolicyRegistry := ["gpt-4o-mini"]
    escrowLedger := Table.empty
    traceBudgetState := Table.empty
    budgetScopeState := Table.empty
    providerDispatchAttempts := Table.empty
    executionLoopState := Table.empty
    ledgerEvents := Table.empty
    guardrailIncidents := []
    executionLineage := [] }
  outside := ⟨0, []⟩

/-- A sweep that finds nothing locked. -/
def sampleSweep (minutes : Int) : Action :=
  .sweep (sampleClock minutes) ⟨fun _ => false, fun _ => 0⟩ 10

/-- Reserve, let the reserve expire, sweep it and settle late. -/
def sampleActions : List Action :=
  [.reserve Settings.default (sampleClock 0) .closed sampleReserve, sampleSweep 10,
    .settle Settings.default (sampleClock 20) sampleSettle]

/-- The digest of the sample's request fingerprint. -/
def sampleFingerprint : Hash :=
  ⟨"02fee3556cd8e126aa66992b2c68fdde79690c7269b633f55d4107e816eac083", by decide +kernel⟩

/-- The digests of the sample's events, in order. -/
def sampleHash : Nat → Hash
  | 0 => genesisHash
  | 1 => ⟨"a5c4f69ac7cdbcb4e04af28657bd220b46f1a7b63ae51f80f1c653b644254235", by decide +kernel⟩
  | 2 => ⟨"64b3915fc86cc075f65d98b64d327b482497be523af8a6bdf0188eeab284a7f0", by decide +kernel⟩
  | 3 => ⟨"d728d9568f4d933adc0df19681cc517a3b99f039d979d2a0291d38dbd5c47ab0", by decide +kernel⟩
  | _ => ⟨"134b04048dd8b5e15af0a83f0006ddb51085a87f7f7bd86fdeaf0b8ffb1b6ddc", by decide +kernel⟩

/-- The texts that the sample hashes, with their SHA-256 digests. -/
def sampleDigests : List (String × Hash) :=
  [(Json.dumps Json.spaced (.obj [("estimated_cost", .str "1.000000000000"),
      ("model", .str "gpt-4o-mini"), ("trace_cap", .null), ("trace_id", .str "trace-1"),
      ("user_id", .str "user-1")]), sampleFingerprint),
    (rowPayload 1 "op-1" "user-1" "RESERVE_CREATED" "-1.000000000000"
      (.obj ([("trace_id", .str "trace-1"), ("model", .str "gpt-4o-mini"),
        ("trace_cap_amount", .str "25.000000000000")] ++ defaultIdentity.fields ++
        [("policy_version", .str "v1")])) "2026-01-01 00:00:00+00" (sampleHash 0), sampleHash 1),
    (rowPayload 2 "op-1" "user-1" "EXPIRED_SWEEP" "1.000000000000"
      (.obj [("reason", .str "reconciler_expiry_claim")]) "2026-01-01 00:10:00+00" (sampleHash 1),
      sampleHash 2),
    (rowPayload 3 "op-1" "user-1" "SETTLEMENT_CORRECTION_DEBIT" "-1.000000000000"
      (.obj [("reason", .str "authoritative_provider_settlement"),
        ("late_after_expiry", .bool true)]) "2026-01-01 00:20:00+00" (sampleHash 2),
      sampleHash 3),
    (rowPayload 4 "op-1" "user-1" "RECONCILED_LATE_SETTLE" "0E-12"
      (.obj [("provider_request_id", .str "provider-1"), ("dispatch_attempt_key", .null),
        ("previous_status", .str "EXPIRED")]) "2026-01-01 00:20:00+00" (sampleHash 3),
      sampleHash 4)]

/-- The sample's surroundings; a text outside the sample has an arbitrary digest. -/
def sampleDeployment : Deployment where
  sha256 text := ((sampleDigests.find? fun p => p.1 = text).map Prod.snd).getD sampleFingerprint
  loads _ := none
  timestampText t :=
    if t = sampleStart then "2026-01-01 00:00:00+00"
    else if t = sampleStart + 600000000 then "2026-01-01 00:10:00+00"
    else "2026-01-01 00:20:00+00"
  attributionSchema := true

end Governor.Ledger
