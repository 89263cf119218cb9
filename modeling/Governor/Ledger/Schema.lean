import Mathlib
import Governor.Core.Table
import Governor.Core.Transaction
import Governor.Core.Json
import Governor.Ledger.Money

/-!
# The ModelGovernor ledger schema

Tables of the sidecar and the reconciler as the migrations leave them, with the
columns that the ledger code reads or writes; `updated_at` columns, which nothing
reads, are left out. Requests carry the checks of their Pydantic models as fields.
The `CHECK` backstops of the migrations are not modelled: the invariants proved of
the ledger say that no transaction meets them, apart from the wallet balance, which
the settlement code checks itself.
-/

namespace Governor.Ledger

/-- Microseconds since the epoch, the resolution of `TIMESTAMPTZ`. -/
abbrev Timestamp := Int

/-- A `CHAR(64)` value: 64 characters, so never the empty string. -/
abbrev Hash := { s : String // s.length = 64 }

/-- `GENESIS_HASH = "0" * 64`. -/
def genesisHash : Hash :=
  ⟨String.ofList (List.replicate 64 '0'), by rw [String.length_ofList, List.length_replicate]⟩

/-! ## Enumerations -/

/-- `escrow_status`; the migrations' `REFUNDED` is written by no code. -/
inductive EscrowStatus where
  | reserved | inFlight | providerTimeout | stranded | settled | expired
  deriving DecidableEq, Repr

/-- The status as the database spells it. -/
def EscrowStatus.text : EscrowStatus → String
  | .reserved => "RESERVED"
  | .inFlight => "IN_FLIGHT"
  | .providerTimeout => "PROVIDER_TIMEOUT"
  | .stranded => "STRANDED"
  | .settled => "SETTLED"
  | .expired => "EXPIRED"

/-- The statuses in which the reserve has not left the wallet's hold. -/
def EscrowStatus.held : EscrowStatus → Bool
  | .settled | .expired => false
  | _ => true

/-- `SettleRequest.outcome`. -/
inductive SettleOutcome where
  | inFlight | providerTimeout | settled
  deriving DecidableEq, Repr

/-- The status an outcome is recorded as. -/
def SettleOutcome.status : SettleOutcome → EscrowStatus
  | .inFlight => .inFlight
  | .providerTimeout => .providerTimeout
  | .settled => .settled

/-- The `event_type` values that the ledger writes. -/
inductive EventType where
  | reserveCreated | dispatchStarted | providerTimeoutRecorded | strandedHold | expiredSweep
  | settlementRefund | settlementCorrectionDebit | settledFinal | reconciledLateSettle
  | driftEnforced | driftTolerated
  deriving DecidableEq, Repr

/-- The event type as the database spells it. -/
def EventType.text : EventType → String
  | .reserveCreated => "RESERVE_CREATED"
  | .dispatchStarted => "DISPATCH_STARTED"
  | .providerTimeoutRecorded => "PROVIDER_TIMEOUT_RECORDED"
  | .strandedHold => "STRANDED_HOLD"
  | .expiredSweep => "EXPIRED_SWEEP"
  | .settlementRefund => "SETTLEMENT_REFUND"
  | .settlementCorrectionDebit => "SETTLEMENT_CORRECTION_DEBIT"
  | .settledFinal => "SETTLED_FINAL"
  | .reconciledLateSettle => "RECONCILED_LATE_SETTLE"
  | .driftEnforced => "DRIFT_ENFORCED"
  | .driftTolerated => "DRIFT_TOLERATED"

/-- The four budget scopes, `budget_scope_state.scope_type`. -/
inductive ScopeType where
  | run | session | user | tenant
  deriving DecidableEq, Repr

instance : LawfulBEq (ScopeType × String) := inferInstance

/-- The scope type as the database spells it. -/
def ScopeType.text : ScopeType → String
  | .run => "run"
  | .session => "session"
  | .user => "user"
  | .tenant => "tenant"

/-! ## Rows -/

/-- A row of `user_wallets`. -/
structure Wallet where
  userId : String
  balance : Money
  active : Bool
  lockedAt : Option Timestamp
  lockReason : Option String

/-- The execution identity of an operation. -/
structure Identity where
  tenantId : String
  sessionId : String
  agentRunId : String
  workflowStep : String
  deriving DecidableEq

/-- The token columns of an operation, and the token fields of a settlement. -/
structure TokenUsage where
  inputTokens : Nat := 0
  outputTokens : Nat := 0
  cachedInputTokens : Nat := 0
  cachedOutputTokens : Nat := 0
  deriving DecidableEq, Repr

/-- A row of `escrow_ledger`; `identity` is absent where the attribution columns are. -/
structure EscrowRow where
  idempotencyKey : String
  userId : String
  traceId : String
  model : String
  requestFingerprint : Hash
  identity : Option Identity
  policyVersion : Option String
  reservedAmount : Money
  actualAmount : Money
  status : EscrowStatus
  providerRequestId : Option String
  terminalReason : String
  traceCapAmount : Money
  driftAmount : Money
  createdAt : Timestamp
  expiresAt : Timestamp
  dispatchStartedAt : Option Timestamp
  settledAt : Option Timestamp
  expiredAt : Option Timestamp
  /-- `BIGINT NOT NULL DEFAULT 0`, each of the four. -/
  usage : TokenUsage := {}

/-- A row of `trace_budget_state`. -/
structure TraceBudget where
  traceId : String
  capAmount : Money
  reservedTotal : Money
  settledTotal : Money

/-- A row of `budget_scope_state`. -/
structure BudgetScope where
  scopeType : ScopeType
  scopeKey : String
  capAmount : Money
  consumedAmount : Money

/-- The primary key of `budget_scope_state`. -/
def BudgetScope.key (b : BudgetScope) : ScopeType × String := (b.scopeType, b.scopeKey)

/-- A row of `provider_dispatch_attempts`. -/
structure DispatchAttempt where
  attemptKey : String
  idempotencyKey : String
  providerName : Option String
  modelName : Option String
  providerRequestId : Option String
  status : SettleOutcome
  terminalReason : String
  createdAt : Timestamp
  updatedAt : Timestamp

/-- A row of `execution_loop_state`. -/
structure LoopState where
  scopeKey : String
  lastSignature : String
  consecutiveCount : Int

/-- A row of `ledger_events`; the hash columns are null until the row is sealed. -/
structure LedgerEvent where
  eventId : Int
  idempotencyKey : String
  userId : String
  eventType : String
  amountDelta : Money
  metadata : Json
  recordedAt : Timestamp
  prevHash : Option Hash
  rowHash : Option Hash

/-- A row of `guardrail_incidents`. -/
structure GuardrailIncident where
  incidentType : String
  idempotencyKey : String
  userId : String
  identity : Identity
  details : Json
  recordedAt : Timestamp

/-- A row of `execution_lineage`. -/
structure LineageRow where
  idempotencyKey : String
  identity : Identity
  userId : String
  eventType : EventType
  promptTemplateVersion : Option String
  systemContextHash : Option String
  toolName : Option String
  toolInput : Option String
  rawToolOutput : Option String
  providerRequestId : Option String
  stateSnapshot : Json
  recordedAt : Timestamp

/-- The tables of one database. -/
structure Database where
  userWallets : Table Wallet.userId
  modelPolicyRegistry : List String
  escrowLedger : Table EscrowRow.idempotencyKey
  traceBudgetState : Table TraceBudget.traceId
  budgetScopeState : Table BudgetScope.key
  providerDispatchAttempts : Table DispatchAttempt.attemptKey
  executionLoopState : Table LoopState.scopeKey
  ledgerEvents : Table LedgerEvent.eventId
  guardrailIncidents : List GuardrailIncident
  executionLineage : List LineageRow

/-! ## Requests and settings -/

/-- `ReserveRequest`. -/
structure ReserveRequest where
  userId : String
  traceId : String
  idempotencyKey : String
  model : String
  estimatedCost : Decimal
  traceCap : Option Decimal
  tenantId : Option String
  sessionId : Option String
  agentRunId : Option String
  workflowStep : Option String
  policyVersion : String
  runBudget : Option Decimal
  sessionBudget : Option Decimal
  tenantBudget : Option Decimal
  userBudget : Option Decimal
  requiresManualApproval : Bool
  manualApprovalId : Option String
  highCostTool : Option String
  /-- `Field(..., ge=0)`. -/
  estimatedCost_nonneg : 0 ≤ estimatedCost.coeff

/-- `SettleRequest`, with the fields that the ledger reads. -/
structure SettleRequest where
  idempotencyKey : Option String
  outcome : SettleOutcome
  actualCost : Decimal
  dispatchAttemptKey : Option String
  providerName : Option String
  model : Option String
  providerRequestId : Option String
  reason : Option String
  tenantId : Option String
  sessionId : Option String
  agentRunId : Option String
  workflowStep : Option String
  loopSignature : Option String
  promptTemplateVersion : Option String
  systemContextHash : Option String
  toolName : Option String
  toolInput : Option String
  rawToolOutput : Option String
  /-- `Field(default=0, ge=0)`, each of the four. -/
  usage : TokenUsage := {}
  /-- `Field(default=None, min_length=1)`. -/
  idempotencyKey_nonempty : idempotencyKey ≠ some ""
  /-- `Field(default=Decimal("0"), ge=0)`. -/
  actualCost_nonneg : 0 ≤ actualCost.coeff

/-- The settings that the ledger reads. -/
structure Settings where
  reserveTtlSeconds : Int
  defaultTraceCapAmount : Decimal
  driftAbsoluteTolerance : Decimal
  driftRatioTolerance : Decimal
  defaultRunBudgetAmount : Decimal
  defaultSessionBudgetAmount : Decimal
  defaultUserBudgetAmount : Decimal
  defaultTenantBudgetAmount : Decimal
  manualApprovalCostThreshold : Decimal
  maxLoopRepeats : Int

/-- The defaults of `config.py`. -/
def Settings.default : Settings where
  reserveTtlSeconds := 300
  defaultTraceCapAmount := ⟨25000000, -6⟩
  driftAbsoluteTolerance := ⟨500000, -6⟩
  driftRatioTolerance := ⟨50000, -6⟩
  defaultRunBudgetAmount := ⟨25000000, -6⟩
  defaultSessionBudgetAmount := ⟨250000000, -6⟩
  defaultUserBudgetAmount := ⟨500000000, -6⟩
  defaultTenantBudgetAmount := ⟨5000000000, -6⟩
  manualApprovalCostThreshold := ⟨2000000, -6⟩
  maxLoopRepeats := 3

/-- `OperationResult`. -/
structure OperationResult where
  idempotencyKey : String
  status : EscrowStatus
  actualAmount : Money
  deriving DecidableEq, Repr

/-- The exceptions that the ledger code raises or lets through. -/
inductive Exn where
  | conflictError (message : String)
  | insufficientFundsError (message : String)
  | notFoundError (message : String)
  | policyStateError (message : String)
  | traceCapExceededError (message : String)
  | ledgerError (message : String)
  | budgetScopeExceededError (message : String)
  | attributionPolicyError (message : String)
  | integrityError (message : String)
  deriving DecidableEq, Repr

/-! ## The world around the database -/

/-- Calls that leave the database and cannot be rolled back. -/
inductive ExternalCall where
  | recordProviderFailure (providerName : String)
  | recordProviderSuccess (providerKey : String)
  | releaseInflight (userId : String)
  deriving DecidableEq, Repr

/-- State that no rollback reaches. -/
structure Outside where
  /-- The last value drawn from the `ledger_events` id sequence. -/
  lastEventId : Int
  /-- Calls to the circuit breaker and the guardrails, oldest first. -/
  calls : List ExternalCall

/-- What the code takes from outside the repository. -/
structure Deployment where
  /-- `hashlib.sha256(text.encode("utf-8")).hexdigest()`. -/
  sha256 : String → Hash
  /-- `json.loads`, `none` for a `JSONDecodeError`. -/
  loads : String → Option Json
  /-- `recorded_at::text`. -/
  timestampText : Timestamp → String
  /-- Whether `escrow_ledger` has the attribution columns. -/
  attributionSchema : Bool

/-- The two clocks a transaction reads. -/
structure Clock where
  /-- `datetime.now(timezone.utc)` in the service. -/
  utcnow : Timestamp
  /-- The database's `CURRENT_TIMESTAMP`, fixed for the transaction. -/
  currentTimestamp : Timestamp

/-- A ledger transaction body. -/
abbrev LedgerTx (α : Type) := Tx Database Outside Exn α

/-- Python truth of an optional string: present and not empty. -/
def truthy (s : Option String) : Bool := s.any fun t => t ≠ ""

/-- Python `a or b` for an optional string. -/
def orElse (s : Option String) (fallback : String) : String :=
  if truthy s then s.getD fallback else fallback

/-- `None` or a string, as JSON. -/
def jsonOptional (s : Option String) : Json := s.elim .null .str

end Governor.Ledger
