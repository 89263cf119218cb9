import Mathlib
import Governor.Ledger.Schema

/-!
# Attribution: identities, budget scopes and guardrails

The budget scopes of an operation are charged one after the other; a scope that
would pass its cap raises and the whole transaction is rolled back. The manual
approval and the loop guardrail commit an incident before they raise, so their
incident survives the rollback.
-/

namespace Governor.Ledger

/-- `_DEFAULT_IDENTITY`. -/
def defaultIdentity : Identity where
  tenantId := "default-tenant"
  sessionId := "default-session"
  agentRunId := "default-agent-run"
  workflowStep := "default-workflow-step"

/-- `identity_from_reserve`. -/
def identityFromReserve (request : ReserveRequest) : Identity where
  tenantId := orElse request.tenantId defaultIdentity.tenantId
  sessionId := orElse request.sessionId defaultIdentity.sessionId
  agentRunId := orElse request.agentRunId defaultIdentity.agentRunId
  workflowStep := orElse request.workflowStep defaultIdentity.workflowStep

/-- `identity_from_operation`, also the identity columns read one by one. -/
def identityFromOperation (operation : EscrowRow) : Identity :=
  operation.identity.getD defaultIdentity

/-- The fields of a dict of identities. -/
def Identity.fields (i : Identity) : List (String × Json) :=
  [("tenant_id", .str i.tenantId), ("session_id", .str i.sessionId),
    ("agent_run_id", .str i.agentRunId), ("workflow_step", .str i.workflowStep)]

/-- The identity fields of a settlement beside the stored ones, in the order checked. -/
def identityChecks (operation : EscrowRow) (request : SettleRequest) :
    List (String × Option String × Option String) :=
  [("tenant_id", request.tenantId, operation.identity.map Identity.tenantId),
    ("session_id", request.sessionId, operation.identity.map Identity.sessionId),
    ("agent_run_id", request.agentRunId, operation.identity.map Identity.agentRunId),
    ("workflow_step", request.workflowStep, operation.identity.map Identity.workflowStep)]

/-- The first field in which a settlement contradicts the reserved identity. -/
def identityMismatch (operation : EscrowRow) (request : SettleRequest) : Option String :=
  ((identityChecks operation request).find? fun c =>
    truthy c.2.1 && truthy c.2.2 && c.2.1 ≠ c.2.2).map Prod.fst

/-- `validate_settlement_identity`. -/
def validateSettlementIdentity (operation : EscrowRow) (request : SettleRequest) : LedgerTx Unit :=
  match identityMismatch operation request with
  | some field =>
    Tx.raise (.attributionPolicyError (field ++ " does not match reserved operation identity"))
  | none => pure ()

/-! ## Guardrails -/

/-- `append_guardrail_incident`. -/
def appendGuardrailIncident (incident : GuardrailIncident) : LedgerTx Unit :=
  Tx.write fun db => { db with guardrailIncidents := db.guardrailIncidents ++ [incident] }

/-- Whether a reserve has to name a manual approval. -/
def needsApproval (settings : Settings) (request : ReserveRequest) : Bool :=
  request.requiresManualApproval ||
    quantizeMoney settings.manualApprovalCostThreshold < quantizeMoney request.estimatedCost

/-- `enforce_manual_approval`. -/
def enforceManualApproval (settings : Settings) (request : ReserveRequest) (identity : Identity)
    (now : Timestamp) : LedgerTx Unit :=
  if needsApproval settings request && !truthy request.manualApprovalId then do
    appendGuardrailIncident {
      incidentType := "APPROVAL_REQUIRED"
      idempotencyKey := request.idempotencyKey
      userId := request.userId
      identity := identity
      details := .obj [
        ("reason", .str (if request.requiresManualApproval then "manual_approval_missing"
          else "cost_threshold_exceeded")),
        ("estimated_cost", .str (decimalStr (quantizeMoney request.estimatedCost))),
        ("high_cost_tool", jsonOptional request.highCostTool)]
      recordedAt := now }
    Tx.commit
    Tx.raise (.attributionPolicyError "manual approval is required for this operation")
  else pure ()

/-- The key of the loop counter of one signature. -/
def loopScopeKey (operation : EscrowRow) (signature : String) : String :=
  (identityFromOperation operation).agentRunId ++ ":" ++
    (identityFromOperation operation).workflowStep ++ ":" ++ signature

/-- `enforce_loop_guardrail`. -/
def enforceLoopGuardrail (operation : EscrowRow) (request : SettleRequest) (settings : Settings)
    (now : Timestamp) : LedgerTx Unit :=
  if truthy request.loopSignature then do
    let signature := request.loopSignature.getD ""
    let scopeKey := loopScopeKey operation signature
    let db ← Tx.read
    match db.executionLoopState.find? scopeKey with
    | some row =>
      if settings.maxLoopRepeats ≤ row.consecutiveCount then do
        appendGuardrailIncident {
          incidentType := "AGENT_LOOP_DETECTED"
          idempotencyKey := operation.idempotencyKey
          userId := operation.userId
          identity := identityFromOperation operation
          details := .obj [
            ("loop_signature", .str signature),
            ("consecutive_count", .int row.consecutiveCount)]
          recordedAt := now }
        Tx.commit
        Tx.raise (.attributionPolicyError "agent loop guardrail triggered")
      else
        Tx.write fun db => { db with
          executionLoopState := db.executionLoopState.update scopeKey
            fun r => { r with consecutiveCount := r.consecutiveCount + 1 } }
    | none =>
      Tx.write fun db => { db with
        executionLoopState := db.executionLoopState.put ⟨scopeKey, signature, 1⟩ }
  else pure ()

/-! ## Budget scopes -/

/-- The four scopes of an operation, in the order in which they are charged. -/
def budgetScopes (identity : Identity) (userId : String) : List (ScopeType × String) :=
  [(.run, identity.agentRunId), (.session, identity.sessionId), (.user, userId),
    (.tenant, identity.tenantId)]

/-- `request.budget or default`, quantized. -/
def capOr (requested : Option Decimal) (fallback : Decimal) : Money :=
  quantizeMoney (match requested with
    | some c => if c.coeff = 0 then fallback else c
    | none => fallback)

/-- `budget_caps_from_operation`. -/
def budgetCapsFromOperation (settings : Settings) : ScopeType → Money
  | .run => quantizeMoney settings.defaultRunBudgetAmount
  | .session => quantizeMoney settings.defaultSessionBudgetAmount
  | .user => quantizeMoney settings.defaultUserBudgetAmount
  | .tenant => quantizeMoney settings.defaultTenantBudgetAmount

/-- `budget_caps`. -/
def budgetCaps (request : ReserveRequest) (settings : Settings) : ScopeType → Money
  | .run => capOr request.runBudget settings.defaultRunBudgetAmount
  | .session => capOr request.sessionBudget settings.defaultSessionBudgetAmount
  | .user => capOr request.userBudget settings.defaultUserBudgetAmount
  | .tenant => capOr request.tenantBudget settings.defaultTenantBudgetAmount

/-- Add to the consumption of one scope. -/
def BudgetScope.consume (delta : Money) (b : BudgetScope) : BudgetScope :=
  { b with consumedAmount := b.consumedAmount + delta }

/-- `apply_budget_delta`: open the scope on first use, then charge it within its cap. -/
def applyBudgetDelta (scope : ScopeType × String) (capAmount delta : Money) : LedgerTx Unit := do
  Tx.write fun db => { db with
    budgetScopeState := db.budgetScopeState.insertIfAbsent ⟨scope.1, scope.2, capAmount, 0⟩ }
  let db ← Tx.read
  if (db.budgetScopeState.find? scope).any fun b => b.consumedAmount + delta ≤ b.capAmount then
    Tx.write fun db => { db with
      budgetScopeState := db.budgetScopeState.update scope (BudgetScope.consume delta) }
  else
    Tx.raise (.budgetScopeExceededError (scope.1.text ++ " budget scope exceeded"))

/-- Charge one amount to a list of scopes. -/
def applyBudgetScopes (scopes : List (ScopeType × String)) (caps : ScopeType → Money)
    (delta : Money) : LedgerTx Unit :=
  scopes.forM fun scope => applyBudgetDelta scope (caps scope.1) delta

/-- `apply_reserve_budget_scopes`. -/
def applyReserveBudgetScopes (settings : Settings) (request : ReserveRequest)
    (identity : Identity) (reservedAmount : Money) : LedgerTx Unit :=
  applyBudgetScopes (budgetScopes identity request.userId) (budgetCaps request settings)
    reservedAmount

/-- `apply_settlement_budget_scopes`. -/
def applySettlementBudgetScopes (settings : Settings) (operation : EscrowRow)
    (budgetDelta : Money) : LedgerTx Unit :=
  if budgetDelta = 0 then pure ()
  else applyBudgetScopes (budgetScopes (identityFromOperation operation) operation.userId)
    (budgetCapsFromOperation settings) budgetDelta

/-- `record_lineage`. -/
def recordLineage (row : LineageRow) : LedgerTx Unit :=
  Tx.write fun db => { db with executionLineage := db.executionLineage ++ [row] }

end Governor.Ledger
