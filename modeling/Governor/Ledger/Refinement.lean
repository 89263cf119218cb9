import Mathlib
import Governor.Ledger.Effects
import Governor.Ledger.System

/-!
# Transactions commit moves

Each transaction is shown to commit moves of the operation machine: a reserve or a
settlement at most one, a sweep one for each row of its batch. A transaction that
raises leaves every table that holds money as it was.
-/

namespace Governor.Ledger

variable {E : Exn → LedgerSession → Prop} {s : LedgerSession}

/-! ## Reserving -/

/-- The identity columns of a new operation. -/
def reservedIdentity (d : Deployment) (request : ReserveRequest) : Option Identity :=
  if d.attributionSchema then some (identityFromReserve request) else none

/-- The move of a reserve. -/
def reserveChange (d : Deployment) (settings : Settings) (clock : Clock)
    (request : ReserveRequest) : Change where
  old := none
  new := request.escrowRow d settings clock (reservedIdentity d request)
  postings := [⟨.reserveCreated, -quantizeMoney request.estimatedCost⟩]

theorem reserveChange_valid (d : Deployment) (settings : Settings) (clock : Clock)
    (request : ReserveRequest) : (reserveChange d settings clock request).Valid :=
  Transition.reserved rfl (quantizeMoney_nonneg request.estimatedCost_nonneg)

theorem reserveChange_claimed (d : Deployment) (settings : Settings) (clock : Clock)
    (request : ReserveRequest) :
    (reserveChange d settings clock request).delta EscrowRow.claimed =
      quantizeMoney request.estimatedCost := by
  rw [Change.delta, EscrowRow.claimed_of_held rfl]
  exact sub_zero _

/-- The attribution controls of a reserve charge its scopes, or raise with no more than
an incident committed. -/
theorem wp_reserveAttribution {d : Deployment} {settings : Settings} {clock : Clock}
    {request : ReserveRequest} {Q : Unit → LedgerSession → Prop} (hE : Aborts E s)
    (hincident : ∀ e incidents, E e
      { s with
        committed := { s.working with guardrailIncidents := incidents }
        working := { s.working with guardrailIncidents := incidents } })
    (h : ∀ t, (d.attributionSchema = true → Charged s.working.budgetScopeState t
        (budgetScopes (identityFromReserve request) request.userId)
        (quantizeMoney request.estimatedCost)) →
      Q () { s with working := { s.working with budgetScopeState := t } }) :
    Tx.wp (reserveAttribution settings clock request (reservedIdentity d request)) Q E s := by
  cases hd : d.attributionSchema with
  | false =>
    simp only [reservedIdentity, hd, Bool.false_eq_true, ite_false, reserveAttribution,
      Tx.wp_pure]
    exact h s.working.budgetScopeState fun hn => absurd hn (by simp [hd])
  | true =>
    simp only [reservedIdentity, hd, ite_true, reserveAttribution, Tx.wp_rethrow, Tx.wp_bind]
    refine wp_enforceManualApproval (fun e i => hincident _ i) ?_
    refine wp_applyBudgetScopes (budgetScopes_nodup _ _) (fun e w o ho => hE _ w o ho) ?_
    exact fun t ht => h t fun _ => ht

/-- A reserve that returns has committed its move. -/
theorem wp_reserveNew {d : Deployment} {settings : Settings} {clock : Clock}
    {breaker : BreakerAnswer} {request : ReserveRequest}
    {Q : OperationResult → LedgerSession → Prop} (hlog : LogOrdered s) (hE : Aborts E s)
    (hincident : ∀ e incidents, E e
      { s with
        committed := { s.working with guardrailIncidents := incidents }
        working := { s.working with guardrailIncidents := incidents } })
    (h : ∀ s', LogOrdered s' → s'.committed = s'.working →
      Move d s.working (reserveChange d settings clock request) s'.working →
      Q ⟨request.idempotencyKey, .reserved, quantizeMoney request.estimatedCost⟩ s') :
    Tx.wp (reserveNew d settings clock breaker request) Q E s := by
  simp only [reserveNew, Tx.wp_bind]
  have hcircuit : ∀ {R : Unit → LedgerSession → Prop}, R () s →
      Tx.wp (assertCircuitClosed breaker request.model) R E s := by
    intro R hR
    cases breaker
    · exact hR
    · exact hE _ _ _ (le_refl _)
    · exact hE _ _ _ (le_refl _)
  refine hcircuit (wp_reserveAttribution hE hincident fun scopes hscopes => ?_)
  refine wp_claimTrace (fun e w o => hE e w o) fun traces htraces => ?_
  refine wp_debitWallet (fun e w o => hE e w o) fun wallets hwallets hfunded => ?_
  refine wp_insertEscrow (fun e w o => hE e w o) fun hfresh => ?_
  refine wp_post (s := { s with working := { s.working with
      budgetScopeState := scopes
      traceBudgetState := traces
      escrowLedger := s.working.escrowLedger.put
        (reserveChange d settings clock request).new } })
    (r := (reserveChange d settings clock request).new)
    (p := ⟨.reserveCreated, -quantizeMoney request.estimatedCost⟩)
    ⟨hlog.drawn, hlog.ordered⟩ rfl hwallets fun s' hposts => ?_
  refine wp_reserveLineage fun lineage => ?_
  simp only [Tx.wp_commit, Tx.wp_pure]
  refine h _ ⟨hposts.log.drawn, hposts.log.ordered⟩ rfl
    ⟨reserveChange_valid d settings clock request, hfresh, ?_, hposts.wallets, ?_, ?_, ?_,
      hposts.events⟩
  · rw [hposts.frame]
  · intro _
    have hpaid := hposts.wallets
    rw [netAmount_cons, netAmount_nil, add_zero] at hpaid
    exact hfunded.of_credited hwallets hpaid
  · rw [hposts.frame]
    have hheld : (reserveChange d settings clock request).delta EscrowRow.heldAmount =
      quantizeMoney request.estimatedCost := sub_zero _
    have hsettled : (reserveChange d settings clock request).delta EscrowRow.settledAmount = 0 :=
      sub_zero _
    rw [hheld, hsettled, show ((reserveChange d settings clock request).old = none) = True from
      eq_true rfl]
    exact htraces
  · intro hattr
    rw [hposts.frame, Change.scopeDelta, if_neg (by simp [reserveChange, ReserveRequest.escrowRow]),
      reserveChange_claimed]
    have hscope : (reserveChange d settings clock request).new.scopes =
        budgetScopes (identityFromReserve request) request.userId := by
      simp [EscrowRow.scopes, identityFromOperation, reserveChange, ReserveRequest.escrowRow,
        reservedIdentity, hattr]
    rw [hscope]
    exact hscopes hattr

/-! ## Settling -/

section Settle

variable {d : Deployment} {settings : Settings} {clock : Clock} {operation : EscrowRow}
  {request : SettleRequest}

/-- What an open operation still holds, as the settlement decides it. -/
theorem heldAmount_eq (hns : operation.status ≠ .settled) :
    operation.heldAmount =
      if operation.reservedStillHeld then operation.reservedAmount else 0 := by
  unfold EscrowRow.heldAmount EscrowRow.reservedStillHeld
  cases hs : operation.status <;> simp_all [EscrowStatus.held]

/-- Refund and correction together bring the wallet from the reserve to the cost. -/
theorem refund_sub_correction (hns : operation.status ≠ .settled) (actualAmount : Money) :
    refundAmount operation actualAmount + -correctionDebit operation actualAmount =
      operation.heldAmount - actualAmount := by
  rw [heldAmount_eq hns, refundAmount, correctionDebit]
  cases operation.reservedStillHeld with
  | false => simp
  | true =>
    by_cases hle : actualAmount ≤ operation.reservedAmount
    · simp [hle]
    · simp [hle]

/-- The budget scopes are charged the difference between cost and reserve. -/
theorem budgetDelta_eq (hns : operation.status ≠ .settled) (actualAmount : Money) :
    budgetDelta operation actualAmount = actualAmount - operation.heldAmount := by
  rw [heldAmount_eq hns, budgetDelta]
  split_ifs
  · rfl
  · exact (sub_zero _).symm

theorem wp_settleTrace {actualAmount : Money} {Q : Unit → LedgerSession → Prop}
    (hns : operation.status ≠ .settled)
    (h : ∀ t, TraceMoved s.working.traceBudgetState t operation.traceId (-operation.heldAmount)
        actualAmount False →
      Q () { s with working := { s.working with traceBudgetState := t } }) :
    Tx.wp (settleTrace operation actualAmount) Q E s := by
  simp only [settleTrace, Tx.wp_ite, Tx.wp_write]
  rw [heldAmount_eq hns] at h
  split_ifs with hheld
  · refine h _ (TraceMoved.update _ _ _ (fun b => ?_) not_false)
    simp only [TraceBudget.settle, hheld, ite_true, Int.sub_eq_add_neg]
  · refine h _ (TraceMoved.update _ _ _ (fun b => ?_) not_false)
    simp only [TraceBudget.settle, hheld, Bool.false_eq_true, ite_false, Int.sub_eq_add_neg]

theorem wp_settleScopes {actualAmount : Money} {Q : Unit → LedgerSession → Prop} (hE : Aborts E s)
    (h : ∀ t, (d.attributionSchema = true → Charged s.working.budgetScopeState t operation.scopes
        (budgetDelta operation actualAmount)) →
      Q () { s with working := { s.working with budgetScopeState := t } }) :
    Tx.wp (settleScopes d settings operation actualAmount) Q E s := by
  unfold settleScopes
  by_cases hzero : budgetDelta operation actualAmount = 0
  · simp only [hzero, ne_eq, not_true_eq_false, decide_false, Bool.and_false, Bool.false_eq_true,
      ite_false, Tx.wp_pure]
    refine h s.working.budgetScopeState fun _ => ?_
    rw [hzero]
    exact Charged.refl _ _
  · cases hd : d.attributionSchema with
    | false =>
      simp only [Bool.false_and, Bool.false_eq_true, ite_false, Tx.wp_pure]
      exact h s.working.budgetScopeState fun hn => absurd hn (by simp [hd])
    | true =>
      simp only [ne_eq, hzero, not_false_eq_true, decide_true, Bool.and_self, ite_true,
        Tx.wp_rethrow, applySettlementBudgetScopes, ite_false]
      refine wp_applyBudgetScopes (budgetScopes_nodup _ _) (fun e w o ho => hE _ w o ho) ?_
      exact fun t ht => h t fun _ => ht

theorem wp_settleAttempt {Q : Unit → LedgerSession → Prop} (hE : Aborts E s)
    (h : ∀ t, Q () { s with working := { s.working with providerDispatchAttempts := t } }) :
    Tx.wp (settleAttempt clock operation request) Q E s := by
  unfold settleAttempt
  split
  · exact wp_upsertAttempt hE h
  · exact h s.working.providerDispatchAttempts

/-- The row after the settlement of an operation. -/
def settledRow (clock : Clock) (operation : EscrowRow) (request : SettleRequest) : EscrowRow :=
  operation.settle request (quantizeMoney request.actualCost) (terminalReason operation)
    clock.utcnow

/-- The postings of a settlement, given those of its drift. -/
def settlePostings (operation : EscrowRow) (actualAmount : Money) (drift : List Posting) :
    List Posting :=
  (paymentPostings .settlementRefund (refundAmount operation actualAmount) ++
    paymentPostings .settlementCorrectionDebit (-correctionDebit operation actualAmount)) ++
    ⟨terminalReason operation, 0⟩ :: drift

theorem settle_transition (clock : Clock) (request : SettleRequest)
    (hns : operation.status ≠ .settled) {drift : List Posting}
    (hdrift : ∀ p ∈ drift, p.amount = 0 ∧
      (p.eventType = .driftEnforced ∨ p.eventType = .driftTolerated)) :
    Transition (some operation) (settledRow clock operation request)
      (settlePostings operation (quantizeMoney request.actualCost) drift) := by
  refine Transition.settled ⟨rfl, rfl, rfl, rfl, rfl, rfl⟩ hns rfl
    (quantizeMoney_nonneg request.actualCost_nonneg) ?_ ?_ ?_ hdrift
  · intro p hp
    rcases List.mem_append.mp hp with hp | hp
    · exact Or.inl (eventType_of_mem_paymentPostings hp)
    · exact Or.inr (eventType_of_mem_paymentPostings hp)
  · rw [netAmount_append, netAmount_paymentPostings, netAmount_paymentPostings]
    exact refund_sub_correction hns _
  · unfold terminalReason
    split_ifs
    · exact Or.inr rfl
    · exact Or.inl rfl

theorem settle_heldDelta {ps : List Posting} :
    (Change.mk (some operation) (settledRow clock operation request) ps).delta
      EscrowRow.heldAmount = -operation.heldAmount := by
  rw [Change.delta, EscrowRow.heldAmount_of_settled rfl]
  exact zero_sub _

theorem settle_settledDelta (hns : operation.status ≠ .settled) {ps : List Posting} :
    (Change.mk (some operation) (settledRow clock operation request) ps).delta
      EscrowRow.settledAmount = quantizeMoney request.actualCost := by
  simp only [Change.delta, Option.map_some, Option.getD_some, EscrowRow.settledAmount_of_ne hns]
  exact sub_zero _

theorem settle_scopeDelta (hns : operation.status ≠ .settled) {ps : List Posting} :
    (Change.mk (some operation) (settledRow clock operation request) ps).scopeDelta =
      quantizeMoney request.actualCost - operation.heldAmount := by
  have hclaimed : EscrowRow.claimed = fun r => r.heldAmount + r.settledAmount := rfl
  rw [Change.scopeDelta, if_neg (by simp [settledRow, EscrowRow.settle]), hclaimed,
    Change.delta_add, settle_heldDelta, settle_settledDelta hns]
  ring

/-- A final settlement of an open operation makes its move. -/
theorem wp_settleOpen {Q : OperationResult → LedgerSession → Prop} (hlog : LogOrdered s)
    (hop : s.working.escrowLedger.find? operation.idempotencyKey = some operation)
    (hns : operation.status ≠ .settled) (hE : Aborts E s)
    (h : ∀ s' ps, Proceeds s s' → LogOrdered s' →
      Move d s.working ⟨some operation, settledRow clock operation request, ps⟩ s'.working →
      Q ⟨operation.idempotencyKey, .settled, quantizeMoney request.actualCost⟩ s') :
    Tx.wp (settleOpen d settings clock operation request) Q E s := by
  simp only [settleOpen, Tx.wp_bind]
  refine wp_settleAttempt hE fun attempts => ?_
  refine wp_refundWallet ⟨hlog.drawn, hlog.ordered⟩ fun s₁ h₁ => ?_
  refine wp_correctWallet h₁.log fun s₂ h₂ => ?_
  have hadj := h₁.trans h₂
  have hp₂ : Proceeds s s₂ := ⟨hadj.proceeds.committed, hadj.proceeds.sequence⟩
  have hE₂ : Aborts E s₂ := hE.proceeds hp₂
  have hop₂ : s₂.working.escrowLedger.find? operation.idempotencyKey = some operation := by
    rw [hadj.escrowLedger]
    exact hop
  refine wp_settleTrace hns fun traces htraces => ?_
  refine wp_settleScopes (fun e w o => hE₂ e w o) fun scopes hscopes => ?_
  refine wp_updateEscrow hop₂ (fun e w o => hE₂ e w o) ?_
  refine wp_post_zero (r := operation) (terminalReason operation)
    ⟨hadj.log.drawn, hadj.log.ordered⟩ rfl fun s₄ h₄ => ?_
  have hp₄ : Proceeds s₂ s₄ := ⟨h₄.proceeds.committed, h₄.proceeds.sequence⟩
  refine wp_enforceNonNegativeWalletBalance (hE₂.proceeds hp₄) fun hsolvent => ?_
  simp only [callOut, Tx.wp_external]
  refine wp_settleLineage fun lineage => ?_
  refine wp_enforceDrift ⟨h₄.log.drawn, h₄.log.ordered⟩ fun s₇ drift h₇ hdrift => ?_
  simp only [Tx.wp_pure]
  have hzero : netAmount drift = 0 := sum_zero_amounts fun p hp => (hdrift p hp).1
  have hlocked : Credited s₄.working.userWallets s₇.working.userWallets operation.userId 0 :=
    hzero ▸ h₇.wallets
  have htransition := settle_transition clock request hns hdrift
  refine h s₇ (settlePostings operation (quantizeMoney request.actualCost) drift) ?_ h₇.log
    ⟨htransition, hop, ?_, ?_, ?_, ?_, ?_, ?_⟩
  · exact hp₂.trans (hp₄.trans ⟨h₇.proceeds.committed, h₇.proceeds.sequence⟩)
  · rw [h₇.escrowLedger, h₄.escrowLedger, hadj.escrowLedger]
    rfl
  · have hpaid := (hadj.wallets.trans h₄.wallets).trans hlocked
    rw [settlePostings, netAmount_append, netAmount_cons, hzero, add_zero, ← add_zero (_ + _)]
    exact hpaid
  · intro _
    exact hsolvent.of_credited (Credited.refl _ _) hlocked
  · rw [h₇.traceBudgetState, h₄.traceBudgetState, settle_heldDelta, settle_settledDelta hns,
      eq_false (Option.some_ne_none operation)]
    rw [hadj.traceBudgetState] at htraces
    exact htraces
  · intro hattr
    rw [h₇.budgetScopeState, h₄.budgetScopeState, settle_scopeDelta hns,
      ← budgetDelta_eq hns]
    have hcharged := hscopes hattr
    simp only [hadj.budgetScopeState] at hcharged
    exact hcharged
  · rw [settlePostings, ← List.singleton_append, ← List.append_assoc]
    exact (hadj.events.trans h₄.events).trans h₇.events

/-- An operation that keeps its hold makes its move with one event and its new row. -/
theorem Move.of_held {s s' : LedgerSession} {o r : EscrowRow} {eventType : EventType}
    {loops : Table LoopState.scopeKey} {attempts : Table DispatchAttempt.attemptKey}
    (hvalid : Transition (some o) r [⟨eventType, 0⟩]) (ho : o.status.held = true)
    (hr : r.status.held = true)
    (hop : s.working.escrowLedger.find? o.idempotencyKey = some o)
    (hposts : Posts { s with working := { s.working with
      executionLoopState := loops
      providerDispatchAttempts := attempts
      escrowLedger := s.working.escrowLedger.put r } } s' r [⟨eventType, 0⟩]) :
    Move d s.working ⟨some o, r, [⟨eventType, 0⟩]⟩ s'.working := by
  have hc := hvalid.continues
  obtain ⟨hheld, hsettled, hscope⟩ := Change.delta_of_held [⟨eventType, 0⟩] hc ho hr
  refine ⟨hvalid, ?_, hposts.escrowLedger, hposts.wallets, ?_, ?_, ?_, hposts.events⟩
  · rw [hc.idempotencyKey]
    exact hop
  · intro hneg
    simp at hneg
  · rw [hheld, hsettled, hposts.traceBudgetState]
    exact TraceMoved.refl _ _ (Option.some_ne_none o)
  · intro _
    rw [hscope, hposts.budgetScopeState]
    exact Charged.refl _ _

/-- The event type of dispatch activity. -/
def recordType (request : SettleRequest) : EventType :=
  if request.outcome = .inFlight then .dispatchStarted else .providerTimeoutRecorded

theorem record_transition (clock : Clock) (ho : request.outcome ≠ .settled)
    (hheld : operation.status.held = true) :
    Transition (some operation) (operation.record request clock.utcnow)
      [⟨recordType request, 0⟩] ∧
      (operation.record request clock.utcnow).status.held = true := by
  have hc : operation.Continues (operation.record request clock.utcnow) :=
    ⟨rfl, rfl, rfl, rfl, rfl, rfl⟩
  have hs : (operation.record request clock.utcnow).status = request.outcome.status := rfl
  unfold recordType
  cases hout : request.outcome with
  | settled => exact absurd hout ho
  | inFlight =>
    rw [hout] at hs
    exact ⟨Transition.dispatched hc hheld hs, by rw [hs]; rfl⟩
  | providerTimeout =>
    rw [hout] at hs
    exact ⟨Transition.timedOut hc hheld hs, by rw [hs]; rfl⟩

theorem wp_recordLoopGuardrail {Q : Unit → LedgerSession → Prop}
    (hincident : ∀ e incidents, E e
      { s with
        committed := { s.working with guardrailIncidents := incidents }
        working := { s.working with guardrailIncidents := incidents } })
    (h : ∀ t, Q () { s with working := { s.working with executionLoopState := t } }) :
    Tx.wp (recordLoopGuardrail d settings clock operation request) Q E s := by
  unfold recordLoopGuardrail
  split_ifs
  · rw [Tx.wp_rethrow]
    exact wp_enforceLoopGuardrail (fun e i => hincident _ i) h
  · exact h s.working.executionLoopState

/-- Recorded dispatch activity makes its move. -/
theorem wp_recordAttemptState {Q : OperationResult → LedgerSession → Prop} (hlog : LogOrdered s)
    (hop : s.working.escrowLedger.find? operation.idempotencyKey = some operation)
    (ho : request.outcome ≠ .settled) (hE : Aborts E s)
    (hincident : ∀ e incidents, E e
      { s with
        committed := { s.working with guardrailIncidents := incidents }
        working := { s.working with guardrailIncidents := incidents } })
    (h : ∀ s' ps, Proceeds s s' → LogOrdered s' →
      Move d s.working ⟨some operation, operation.record request clock.utcnow, ps⟩ s'.working →
      Q ⟨operation.idempotencyKey, request.outcome.status, operation.actualAmount⟩ s') :
    Tx.wp (recordAttemptState d settings clock operation request) Q E s := by
  unfold recordAttemptState
  by_cases hterminal : operation.status = .settled ∨ operation.status = .expired
  · rw [if_pos hterminal]
    exact hE _ _ _ (le_refl _)
  rw [if_neg hterminal]
  have hheld : operation.status.held = true := by
    cases hs : operation.status <;> simp_all [EscrowStatus.held]
  split
  · exact hE _ _ _ (le_refl _)
  simp only [Tx.wp_bind]
  refine wp_recordLoopGuardrail hincident fun loops => ?_
  refine wp_upsertAttempt (fun e w o => hE e w o) fun attempts => ?_
  refine wp_updateEscrow hop (fun e w o => hE e w o) ?_
  have hentry : (recordEvent clock operation request).eventType = (recordType request).text := by
    simp only [recordEvent, recordType]
    split_ifs <;> rfl
  refine wp_post_zero (r := operation.record request clock.utcnow) (recordType request)
    ⟨hlog.drawn, hlog.ordered⟩ (by rw [hentry]; rfl) fun s' hposts => ?_
  simp only [Tx.wp_pure]
  have htransition := record_transition clock ho hheld
  exact h s' _ ⟨hposts.proceeds.committed, hposts.proceeds.sequence⟩ hposts.log
    (Move.of_held htransition.1 hheld htransition.2 hop hposts)

/-- The request names the operation and does not contradict its identity. -/
structure Accepts (d : Deployment) (operation : EscrowRow) (request : SettleRequest) : Prop where
  key : ∀ key ∈ request.idempotencyKey, key = operation.idempotencyKey
  identity : d.attributionSchema = true → identityMismatch operation request = none

theorem wp_checkSettlement {Q : Unit → LedgerSession → Prop} (hE : Aborts E s)
    (h : Accepts d operation request → Q () s) :
    Tx.wp (checkSettlement d operation request) Q E s := by
  unfold checkSettlement
  by_cases hkey : (request.idempotencyKey.any fun key => key ≠ operation.idempotencyKey) = true
  · rw [if_pos hkey]
    exact hE _ _ _ (le_refl _)
  have hname : ∀ key ∈ request.idempotencyKey, key = operation.idempotencyKey := by
    intro key hk
    by_contra hne
    exact hkey (by simp [Option.mem_def.mp hk, hne])
  rw [if_neg hkey]
  split_ifs with hattr
  · rw [Tx.wp_rethrow]
    exact wp_validateSettlementIdentity (fun e w o ho => hE _ w o ho)
      fun hnone => h ⟨hname, fun _ => hnone⟩
  · exact h ⟨hname, fun hn => absurd hn hattr⟩

/-- A loaded operation is the stored row of its key. -/
theorem find?_of_loadOperationForUpdate {db : Database}
    (h : loadOperationForUpdate db request = some operation) :
    db.escrowLedger.find? operation.idempotencyKey = some operation := by
  have hfind : ∀ {key}, db.escrowLedger.find? key = some operation →
      db.escrowLedger.find? operation.idempotencyKey = some operation := by
    intro key hkey
    rw [Table.find?_some_key hkey]
    exact hkey
  unfold loadOperationForUpdate at h
  split at h
  · exact hfind h
  · split_ifs at h
    obtain ⟨a, -, ha⟩ := Option.bind_eq_some_iff.mp h
    exact hfind ha

/-- What a settlement that returns has committed. -/
inductive SettleCommitted (d : Deployment) (clock : Clock) (request : SettleRequest)
    (db : Database) : OperationResult → Database → Prop
  /-- The request repeats the terminal state of its operation. -/
  | replayed {operation : EscrowRow} (hload : loadOperationForUpdate db request = some operation)
      (haccepts : Accepts d operation request) (ho : request.outcome = .settled)
      (hs : operation.status = .settled) (hr : settlementReplays operation request = true) :
      SettleCommitted d clock request db
        ⟨operation.idempotencyKey, .settled, quantizeMoney request.actualCost⟩ db
  /-- The request settles an open operation. -/
  | settled {operation : EscrowRow} {ps : List Posting} {db' : Database}
      (hload : loadOperationForUpdate db request = some operation)
      (haccepts : Accepts d operation request) (ho : request.outcome = .settled)
      (hns : operation.status ≠ .settled)
      (hmove : Move d db ⟨some operation, settledRow clock operation request, ps⟩ db') :
      SettleCommitted d clock request db
        ⟨operation.idempotencyKey, .settled, quantizeMoney request.actualCost⟩ db'
  /-- The request records dispatch activity. -/
  | recorded {operation : EscrowRow} {ps : List Posting} {db' : Database}
      (hload : loadOperationForUpdate db request = some operation)
      (ho : request.outcome ≠ .settled)
      (hmove : Move d db ⟨some operation, operation.record request clock.utcnow, ps⟩ db') :
      SettleCommitted d clock request db
        ⟨operation.idempotencyKey, request.outcome.status, operation.actualAmount⟩ db'

theorem wp_finalizeSettlement {Q : OperationResult → LedgerSession → Prop} (hlog : LogOrdered s)
    (hload : loadOperationForUpdate s.working request = some operation)
    (haccepts : Accepts d operation request) (ho : request.outcome = .settled) (hE : Aborts E s)
    (h : ∀ s' result, LogOrdered s' →
      SettleCommitted d clock request s.working result s'.working → Q result s') :
    Tx.wp (finalizeSettlement d settings clock operation request) Q E s := by
  unfold finalizeSettlement
  split_ifs with hs hr
  · exact h s _ hlog (SettleCommitted.replayed hload haccepts ho hs hr)
  · exact hE _ _ _ (le_refl _)
  · refine wp_settleOpen hlog (find?_of_loadOperationForUpdate hload) hs hE ?_
    intro s' ps _ hlog' hmove
    exact h s' _ hlog' (SettleCommitted.settled hload haccepts ho hs hmove)

theorem wp_reportTimeout {Q : Unit → LedgerSession → Prop}
    (h : ∀ calls, Q () { s with outside := { s.outside with calls := calls } }) :
    Tx.wp (reportTimeout request) Q E s := by
  unfold reportTimeout
  split_ifs
  · exact h _
  · exact h s.outside.calls

/-- A settlement that returns has committed one of its outcomes. -/
theorem wp_applySettlement {Q : OperationResult → LedgerSession → Prop} (hlog : LogOrdered s)
    (hE : Aborts E s)
    (hincident : ∀ e incidents, E e
      { s with
        committed := { s.working with guardrailIncidents := incidents }
        working := { s.working with guardrailIncidents := incidents } })
    (h : ∀ s' result, LogOrdered s' → s'.committed = s'.working →
      SettleCommitted d clock request s.working result s'.working → Q result s') :
    Tx.wp (applySettlement d settings clock request) Q E s := by
  simp only [applySettlement, Tx.wp_bind, Tx.wp_read]
  split
  · exact hE _ _ _ (le_refl _)
  next operation hload =>
  unfold settleOperation
  rw [Tx.wp_bind]
  refine wp_checkSettlement hE fun haccepts => ?_
  split_ifs with ho
  · simp only [Tx.wp_bind]
    refine wp_finalizeSettlement hlog hload haccepts ho hE fun s' result hlog' hcommitted => ?_
    simp only [callOut, Tx.wp_commit, Tx.wp_external, Tx.wp_pure]
    exact h _ _ ⟨hlog'.drawn, hlog'.ordered⟩ rfl hcommitted
  · simp only [Tx.wp_bind]
    refine wp_recordAttemptState hlog (find?_of_loadOperationForUpdate hload) ho hE hincident ?_
    intro s' ps _ hlog' hmove
    refine wp_reportTimeout fun calls => ?_
    simp only [Tx.wp_commit, Tx.wp_pure]
    exact h _ _ ⟨hlog'.drawn, hlog'.ordered⟩ rfl (SettleCommitted.recorded hload ho hmove)

end Settle

/-! ## Sweeping -/

section Sweep

variable {d : Deployment} {clock : Clock} {row : EscrowRow}

/-- The move of one swept row. -/
def sweepChange (db : Database) (clock : Clock) (row : EscrowRow) : Change :=
  if hasDispatchActivity db row then
    ⟨some row, row.strand clock.utcnow, [⟨.strandedHold, 0⟩]⟩
  else ⟨some row, row.expire clock.utcnow, [⟨.expiredSweep, row.reservedAmount⟩]⟩

theorem wp_strandRow {Q : Unit → LedgerSession → Prop} (hlog : LogOrdered s)
    (hrow : s.working.escrowLedger.find? row.idempotencyKey = some row)
    (hheld : row.status.held = true)
    (h : ∀ s', Proceeds s s' → LogOrdered s' →
      s'.working.providerDispatchAttempts = s.working.providerDispatchAttempts →
      Move d s.working ⟨some row, row.strand clock.utcnow, [⟨.strandedHold, 0⟩]⟩ s'.working →
      Q () s') : Tx.wp (strandRow d clock row) Q E s := by
  simp only [strandRow, Tx.wp_bind, Tx.wp_write]
  rw [Table.update_eq_put hrow]
  refine wp_post_zero (r := row.strand clock.utcnow) .strandedHold
    ⟨hlog.drawn, hlog.ordered⟩ rfl fun s' hposts => ?_
  refine h s' ⟨hposts.proceeds.committed, hposts.proceeds.sequence⟩ hposts.log ?_ ?_
  · rw [hposts.frame]
  · exact Move.of_held (Transition.stranded ⟨rfl, rfl, rfl, rfl, rfl, rfl⟩ hheld rfl) hheld rfl
      hrow hposts

theorem expire_heldDelta (hheld : row.status.held = true) {ps : List Posting} :
    (Change.mk (some row) (row.expire clock.utcnow) ps).delta EscrowRow.heldAmount =
      -row.reservedAmount := by
  simp only [Change.delta, Option.map_some, Option.getD_some, EscrowRow.heldAmount_of_held hheld]
  exact zero_sub _

theorem expire_settledDelta (hheld : row.status.held = true) {ps : List Posting} :
    (Change.mk (some row) (row.expire clock.utcnow) ps).delta EscrowRow.settledAmount = 0 := by
  simp only [Change.delta, Option.map_some, Option.getD_some,
    EscrowRow.settledAmount_of_ne (EscrowStatus.ne_settled_of_held hheld)]
  exact sub_zero _

/-- An expiry leaves the budget scopes as they are. -/
theorem expire_scopeDelta {ps : List Posting} :
    (Change.mk (some row) (row.expire clock.utcnow) ps).scopeDelta = 0 := if_pos rfl

theorem wp_expireRow {Q : Unit → LedgerSession → Prop} (hlog : LogOrdered s)
    (hrow : s.working.escrowLedger.find? row.idempotencyKey = some row)
    (hheld : row.status.held = true) (hnonneg : 0 ≤ row.reservedAmount)
    (h : ∀ s', Proceeds s s' → LogOrdered s' →
      s'.working.providerDispatchAttempts = s.working.providerDispatchAttempts →
      Move d s.working ⟨some row, row.expire clock.utcnow, [⟨.expiredSweep, row.reservedAmount⟩]⟩
        s'.working → Q () s') : Tx.wp (expireRow d clock row) Q E s := by
  simp only [expireRow, Tx.wp_bind, Tx.wp_write]
  rw [Table.update_eq_put hrow]
  have htransition : Transition (some row) (row.expire clock.utcnow)
      [⟨.expiredSweep, row.reservedAmount⟩] :=
    Transition.expired ⟨rfl, rfl, rfl, rfl, rfl, rfl⟩ hheld rfl
  have hreleased : TraceMoved s.working.traceBudgetState
      (s.working.traceBudgetState.update row.traceId (TraceBudget.release row.reservedAmount))
      row.traceId (-row.reservedAmount) 0 False := by
    refine TraceMoved.update _ _ _ (fun b => ?_) not_false
    rw [add_zero]
    rfl
  refine wp_post (s := { s with working := { s.working with
      traceBudgetState := s.working.traceBudgetState.update row.traceId
        (TraceBudget.release row.reservedAmount)
      escrowLedger := s.working.escrowLedger.put (row.expire clock.utcnow) } })
    (r := row.expire clock.utcnow) (p := ⟨.expiredSweep, row.reservedAmount⟩)
    ⟨hlog.drawn, hlog.ordered⟩ rfl (Credited.update _ _ _ fun _ => rfl) fun s' hposts => ?_
  refine h s' ⟨hposts.proceeds.committed, hposts.proceeds.sequence⟩ hposts.log
    (by rw [hposts.frame]) ⟨htransition, hrow, hposts.escrowLedger, hposts.wallets, ?_, ?_, ?_,
      hposts.events⟩
  · intro hneg
    rw [netAmount_cons, netAmount_nil, add_zero] at hneg
    exact absurd hnonneg (not_le.mpr hneg)
  · rw [hposts.traceBudgetState, expire_heldDelta hheld, expire_settledDelta hheld,
      eq_false (Option.some_ne_none row)]
    exact hreleased
  · intro _
    rw [hposts.budgetScopeState, expire_scopeDelta]
    exact Charged.refl _ _

theorem wp_sweepRow {Q : Unit → LedgerSession → Prop} (hlog : LogOrdered s)
    (hrow : s.working.escrowLedger.find? row.idempotencyKey = some row)
    (hheld : row.status.held = true) (hnonneg : 0 ≤ row.reservedAmount)
    (h : ∀ s', Proceeds s s' → LogOrdered s' →
      s'.working.providerDispatchAttempts = s.working.providerDispatchAttempts →
      Move d s.working (sweepChange s.working clock row) s'.working → Q () s') :
    Tx.wp (sweepRow d clock row) Q E s := by
  simp only [sweepRow, Tx.wp_bind, Tx.wp_read]
  by_cases hactive : hasDispatchActivity s.working row = true
  · simp only [sweepChange, hactive, ite_true] at h ⊢
    exact wp_strandRow hlog hrow hheld h
  · simp only [sweepChange, hactive, Bool.false_eq_true, ite_false] at h ⊢
    exact wp_expireRow hlog hrow hheld hnonneg h

/-- The dispatch activity of a row depends on the attempts alone. -/
theorem sweepChange_congr {db db' : Database}
    (h : db'.providerDispatchAttempts = db.providerDispatchAttempts) :
    sweepChange db' clock row = sweepChange db clock row := by
  have hactivity : hasDispatchActivity db' row = hasDispatchActivity db row := by
    simp only [hasDispatchActivity, hasOpenAttempts, h]
  rw [sweepChange, sweepChange, hactivity]

theorem sweepChange_key (db : Database) :
    (sweepChange db clock row).new.idempotencyKey = row.idempotencyKey := by
  unfold sweepChange
  split_ifs <;> rfl

/-- The rows of a batch are swept one after the other. -/
theorem wp_sweepRows {Q : Unit → LedgerSession → Prop} {rows : List EscrowRow}
    (hlog : LogOrdered s) (hnd : (rows.map EscrowRow.idempotencyKey).Nodup)
    (hrows : ∀ r ∈ rows, s.working.escrowLedger.find? r.idempotencyKey = some r ∧
      r.status.held = true ∧ 0 ≤ r.reservedAmount)
    (h : ∀ s', Proceeds s s' → LogOrdered s' →
      Moves d s.working (rows.map (sweepChange s.working clock)) s'.working → Q () s') :
    Tx.wp (rows.forM (sweepRow d clock)) Q E s := by
  induction rows generalizing s with
  | nil => exact h s ⟨rfl, le_refl _⟩ hlog (Idle.refl _)
  | cons row rest ih =>
    change Tx.wp (sweepRow d clock row >>= fun _ => rest.forM (sweepRow d clock)) Q E s
    rw [Tx.wp_bind]
    rw [List.map_cons, List.nodup_cons] at hnd
    obtain ⟨hfind, hheld, hnonneg⟩ := hrows row List.mem_cons_self
    refine wp_sweepRow hlog hfind hheld hnonneg fun s₁ hp₁ hlog₁ hattempts hmove => ?_
    refine ih hlog₁ hnd.2 ?_ fun s' hp hlog' hmoves => ?_
    · intro r hr
      obtain ⟨hf, hrest⟩ := hrows r (List.mem_cons_of_mem _ hr)
      refine ⟨?_, hrest⟩
      have hne : r.idempotencyKey ≠ row.idempotencyKey := fun he =>
        hnd.1 (he ▸ List.mem_map_of_mem hr)
      rw [hmove.new, Table.find?_put, sweepChange_key, if_neg hne]
      exact hf
    · refine h s' (hp₁.trans hp) hlog' ⟨s₁.working, hmove, ?_⟩
      have hcongr : rest.map (sweepChange s₁.working clock) =
          rest.map (sweepChange s.working clock) :=
        List.map_congr_left fun r _ => sweepChange_congr hattempts
      rw [← hcongr]
      exact hmoves

/-- A claimed row is stored, overdue and still holds its reserve. -/
theorem mem_sweepBatch {db : Database} {plan : SweepPlan} {batchSize : Nat} {r : EscrowRow}
    (h : r ∈ sweepBatch db clock plan batchSize) :
    r ∈ db.escrowLedger.rows ∧ r.status.held = true := by
  have hsorted := List.mem_of_mem_take h
  rw [List.mem_insertionSort, List.mem_filter] at hsorted
  refine ⟨hsorted.1, ?_⟩
  have hoverdue := hsorted.2
  simp only [EscrowRow.overdue, Bool.and_eq_true, Bool.or_eq_true, decide_eq_true_eq] at hoverdue
  rcases hoverdue.1.1 with (hs | hs) | hs <;> rw [hs] <;> rfl

theorem sweepBatch_nodup (db : Database) (plan : SweepPlan) (batchSize : Nat) :
    ((sweepBatch db clock plan batchSize).map EscrowRow.idempotencyKey).Nodup := by
  unfold sweepBatch
  rw [List.map_take]
  apply List.Nodup.sublist (List.take_sublist _ _)
  rw [((List.perm_insertionSort _ _).map _).nodup_iff]
  exact List.Nodup.sublist (List.Sublist.map _ List.filter_sublist) db.escrowLedger.nodup

/-- A sweep commits one move for each row that it claims. -/
theorem wp_sweepExpiredReservations {plan : SweepPlan} {batchSize : Nat}
    {Q : Nat → LedgerSession → Prop} (hlog : LogOrdered s)
    (hnonneg : ∀ r ∈ s.working.escrowLedger.rows, 0 ≤ r.reservedAmount)
    (h : ∀ s', LogOrdered s' → s'.committed = s'.working →
      Moves d s.working ((sweepBatch s.working clock plan batchSize).map
        (sweepChange s.working clock)) s'.working →
      Q (sweepBatch s.working clock plan batchSize).length s') :
    Tx.wp (sweepExpiredReservations d clock plan batchSize) Q E s := by
  simp only [sweepExpiredReservations, Tx.wp_bind, Tx.wp_read]
  refine wp_sweepRows hlog (sweepBatch_nodup _ _ _) ?_ ?_
  · intro r hr
    obtain ⟨hmem, hheld⟩ := mem_sweepBatch hr
    exact ⟨Table.find?_of_mem hmem, hheld, hnonneg r hmem⟩
  · intro s' _ hlog' hmoves
    simp only [Tx.wp_commit, Tx.wp_pure]
    exact h _ ⟨hlog'.drawn, hlog'.ordered⟩ rfl hmoves

end Sweep

/-! ## Transactions -/

section Transactions

variable {d : Deployment}

/-- What a transaction leaves behind, by its action and its response. -/
inductive Committed (d : Deployment) (db : Database) :
    Action → Except Exn Response → Database → Prop
  /-- An exception leaves the ledger as it was; a sweep raises none. -/
  | raised {a : Action} {e : Exn} {db' : Database} (ha : a.isSweep = false)
      (hidle : Idle db db') :
      Committed d db a (.error e) db'
  /-- A repeated reserve is answered from its row. -/
  | replayed {settings : Settings} {clock : Clock} {breaker : BreakerAnswer}
      {request : ReserveRequest} {existing : EscrowRow} {result : OperationResult}
      (hfind : db.escrowLedger.find? request.idempotencyKey = some existing)
      (hfp : existing.requestFingerprint = fingerprintReserveRequest d request) :
      Committed d db (.reserve settings clock breaker request) (.ok (.operation result)) db
  /-- A new operation. -/
  | reserved {settings : Settings} {clock : Clock} {breaker : BreakerAnswer}
      {request : ReserveRequest} {a : Action} {db' : Database}
      (ha : a = .reserve settings clock breaker request ∨
        a = .racedReserve settings clock breaker request)
      (hmove : Move d db (reserveChange d settings clock request) db') :
      Committed d db a (.ok (.operation
        ⟨request.idempotencyKey, .reserved, quantizeMoney request.estimatedCost⟩)) db'
  /-- A settlement. -/
  | settled {settings : Settings} {clock : Clock} {request : SettleRequest}
      {result : OperationResult} {db' : Database}
      (hsettle : SettleCommitted d clock request db result db') :
      Committed d db (.settle settings clock request) (.ok (.operation result)) db'
  /-- A sweep of its whole batch. -/
  | swept {clock : Clock} {plan : SweepPlan} {batchSize : Nat} {db' : Database}
      (hmoves : Moves d db ((sweepBatch db clock plan batchSize).map (sweepChange db clock)) db') :
      Committed d db (.sweep clock plan batchSize)
        (.ok (.swept (sweepBatch db clock plan batchSize).length)) db'

/-- What every reachable world satisfies. -/
structure Sound (w : LedgerWorld) : Prop where
  /-- The events are in the order of their ids, all drawn from the sequence. -/
  log : LogOrdered ⟨w.tables, w.tables, w.outside⟩
  /-- No reserve is negative. -/
  reserves : ∀ r ∈ w.tables.escrowLedger.rows, 0 ≤ r.reservedAmount

theorem LogOrdered.of_idle {db db' : Database} {o o' : Outside} (h : LogOrdered ⟨db, db, o⟩)
    (hidle : Idle db db') (hseq : o.lastEventId ≤ o'.lastEventId) :
    LogOrdered ⟨db', db', o'⟩ where
  drawn := by
    intro r hr
    change r ∈ db'.ledgerEvents.rows at hr
    rw [hidle.ledgerEvents] at hr
    exact (h.drawn r hr).trans hseq
  ordered := by
    change db'.ledgerEvents.rows.Pairwise _
    rw [hidle.ledgerEvents]
    exact h.ordered

/-- Every transaction commits one of its outcomes and keeps the log in order. -/
theorem body_committed {w : LedgerWorld} (hw : Sound w) (a : Action) :
    Committed d w.tables a (respond d w a) (step d w a).tables ∧
      LogOrdered ⟨(step d w a).tables, (step d w a).tables, (step d w a).outside⟩ := by
  apply Tx.run_of_wp (R := fun r w' => Committed d w.tables a r w'.tables ∧
    LogOrdered ⟨w'.tables, w'.tables, w'.outside⟩)
  have hraise : ∀ {a e db' o}, a.isSweep = false → Idle w.tables db' →
      w.outside.lastEventId ≤ o.lastEventId →
      Committed d w.tables a (.error e) db' ∧ LogOrdered ⟨db', db', o⟩ := by
    intro a e db' o ha hidle ho
    exact ⟨Committed.raised ha hidle, hw.log.of_idle hidle ho⟩
  have hcommit : ∀ {s' : LedgerSession}, LogOrdered s' → s'.committed = s'.working →
      LogOrdered ⟨s'.committed, s'.committed, s'.outside⟩ := by
    intro s' hlog hc
    rw [hc]
    exact ⟨hlog.drawn, hlog.ordered⟩
  have hincident : ∀ incidents, Idle w.tables { w.tables with guardrailIncidents := incidents } :=
    fun _ => ⟨rfl, rfl, rfl, rfl, rfl⟩
  cases a with
  | reserve settings clock breaker request =>
    simp only [Action.body, reserveOperation, Tx.wp_bind, Tx.wp_read]
    split
    · next existing hfind =>
      unfold replayReserve
      by_cases hfp : existing.requestFingerprint ≠ fingerprintReserveRequest d request
      · rw [if_pos hfp]
        exact hraise rfl (Idle.refl _) (le_refl _)
      · rw [if_neg hfp]
        exact ⟨Committed.replayed hfind (not_not.mp hfp), hw.log⟩
    · refine wp_reserveNew hw.log (fun e v o ho => hraise rfl (Idle.refl _) ho)
        (fun e i => hraise rfl (hincident i) (le_refl _)) ?_
      intro s' hlog hc hmove
      rw [← hc] at hmove
      exact ⟨Committed.reserved (Or.inl rfl) hmove, hcommit hlog hc⟩
  | racedReserve settings clock breaker request =>
    simp only [Action.body, Tx.wp_bind]
    refine wp_reserveNew hw.log (fun e v o ho => hraise rfl (Idle.refl _) ho)
      (fun e i => hraise rfl (hincident i) (le_refl _)) ?_
    intro s' hlog hc hmove
    rw [← hc] at hmove
    exact ⟨Committed.reserved (Or.inr rfl) hmove, hcommit hlog hc⟩
  | settle settings clock request =>
    simp only [Action.body, Tx.wp_bind]
    refine wp_applySettlement hw.log (fun e v o ho => hraise rfl (Idle.refl _) ho)
      (fun e i => hraise rfl (hincident i) (le_refl _)) ?_
    intro s' result hlog hc hsettle
    rw [← hc] at hsettle
    exact ⟨Committed.settled hsettle, hcommit hlog hc⟩
  | sweep clock plan batchSize =>
    simp only [Action.body, Tx.wp_bind]
    refine wp_sweepExpiredReservations hw.log hw.reserves ?_
    intro s' hlog hc hmoves
    rw [← hc] at hmoves
    exact ⟨Committed.swept hmoves, hcommit hlog hc⟩

/-- A settlement makes at most one move. -/
theorem SettleCommitted.moves {clock : Clock} {request : SettleRequest} {db db' : Database}
    {result : OperationResult} (h : SettleCommitted d clock request db result db') :
    ∃ cs, Moves d db cs db' ∧ ∀ c ∈ cs, c.new.status ≠ .expired := by
  cases h with
  | replayed hload => exact ⟨[], Idle.refl db, by simp⟩
  | settled hload haccepts ho hns hmove =>
    exact ⟨_, Moves.single hmove, by simp [settledRow, EscrowRow.settle]⟩
  | recorded hload ho hmove =>
    refine ⟨_, Moves.single hmove, ?_⟩
    simp only [List.mem_singleton, forall_eq, EscrowRow.record]
    cases request.outcome <;> simp [SettleOutcome.status]

/-- Whatever a transaction commits is a sequence of moves. -/
theorem Committed.moves {db db' : Database} {a : Action} {r : Except Exn Response}
    (h : Committed d db a r db') : ∃ cs, Moves d db cs db' := by
  cases h with
  | raised ha hidle => exact ⟨[], hidle⟩
  | replayed => exact ⟨[], Idle.refl db⟩
  | reserved ha hmove => exact ⟨_, Moves.single hmove⟩
  | settled hsettle =>
    obtain ⟨cs, hmoves, -⟩ := hsettle.moves
    exact ⟨cs, hmoves⟩
  | swept hmoves => exact ⟨_, hmoves⟩

/-- A move leaves no reserve negative. -/
theorem Move.reserves {db db' : Database} {c : Change} (h : Move d db c db')
    (hdb : ∀ r ∈ db.escrowLedger.rows, 0 ≤ r.reservedAmount) :
    ∀ r ∈ db'.escrowLedger.rows, 0 ≤ r.reservedAmount := by
  intro r hr
  rw [h.new, Table.mem_rows_iff, Table.find?_put] at hr
  split_ifs at hr with hk
  · obtain rfl := Option.some.inj hr
    refine Transition.reservedAmount_nonneg h.valid ?_
    intro x hx
    rw [← h.old] at hx
    exact hdb x (Table.mem_of_find? hx)
  · exact hdb r (Table.mem_of_find? hr)

theorem step_sound {w : LedgerWorld} (hw : Sound w) (a : Action) : Sound (step d w a) := by
  obtain ⟨hcommitted, hlog⟩ := body_committed (d := d) hw a
  obtain ⟨cs, hmoves⟩ := hcommitted.moves
  refine ⟨hlog, hmoves.keeps (I := fun db => ∀ r ∈ db.escrowLedger.rows, 0 ≤ r.reservedAmount)
    ?_ (fun hm => hm.reserves) hw.reserves⟩
  intro db db' hidle hdb
  rw [hidle.escrowLedger]
  exact hdb

theorem NoOperations.sound {w : LedgerWorld} (h : NoOperations w) : Sound w where
  log := ⟨by simp [IdsDrawn, h.ledgerEvents], by simp [h.ledgerEvents]⟩
  reserves := by simp [h.escrowLedger]

theorem run_sound {w : LedgerWorld} (hw : Sound w) (actions : List Action) :
    Sound (run d w actions) :=
  run_keeps hw (fun _ a h => step_sound h a) actions

/-- What a reserve has committed. -/
inductive ReserveCommitted (d : Deployment) (settings : Settings) (clock : Clock)
    (request : ReserveRequest) (raced : Bool) (db : Database) :
    Except Exn Response → Database → Prop
  /-- It raised. -/
  | refused {e : Exn} {db' : Database} (hidle : Idle db db') :
      ReserveCommitted d settings clock request raced db (.error e) db'
  /-- It created the operation. -/
  | created {db' : Database} (hmove : Move d db (reserveChange d settings clock request) db') :
      ReserveCommitted d settings clock request raced db (.ok (.operation
        ⟨request.idempotencyKey, .reserved, quantizeMoney request.estimatedCost⟩)) db'
  /-- It was answered from the row of its key. -/
  | replayed {existing : EscrowRow} {result : OperationResult} (hraced : raced = false)
      (hfind : db.escrowLedger.find? request.idempotencyKey = some existing)
      (hfp : existing.requestFingerprint = fingerprintReserveRequest d request) :
      ReserveCommitted d settings clock request raced db (.ok (.operation result)) db

theorem reserveAction_committed {w : LedgerWorld} (hw : Sound w) (raced : Bool)
    (settings : Settings) (clock : Clock) (breaker : BreakerAnswer) (request : ReserveRequest) :
    ReserveCommitted d settings clock request raced w.tables
      (respond d w (reserveAction raced settings clock breaker request))
      (step d w (reserveAction raced settings clock breaker request)).tables := by
  have hc := (body_committed (d := d) hw (reserveAction raced settings clock breaker request)).1
  generalize respond d w (reserveAction raced settings clock breaker request) = r at hc ⊢
  generalize hdb : (step d w (reserveAction raced settings clock breaker request)).tables = db'
    at hc ⊢
  cases raced with
  | false =>
    simp only [reserveAction, Bool.false_eq_true, ite_false] at hc
    cases hc with
    | raised _ hidle => exact .refused hidle
    | replayed hfind hfp => exact .replayed rfl hfind hfp
    | reserved ha hmove =>
      rcases ha with ha | ha
      · obtain ⟨rfl, rfl, -, rfl⟩ := Action.reserve.inj ha
        exact .created hmove
      · cases ha
  | true =>
    simp only [reserveAction, ite_true] at hc
    cases hc with
    | raised _ hidle => exact .refused hidle
    | reserved ha hmove =>
      rcases ha with ha | ha
      · cases ha
      · obtain ⟨rfl, rfl, -, rfl⟩ := Action.racedReserve.inj ha
        exact .created hmove

/-- An invariant of the moves is kept by every transaction. -/
theorem step_invariant {I : Database → Prop}
    (hidle : ∀ {db db'}, Idle db db' → I db → I db')
    (hmove : ∀ {db c db'}, (∀ r ∈ db.escrowLedger.rows, 0 ≤ r.reservedAmount) →
      Move d db c db' → I db → I db')
    {w : LedgerWorld} (hw : Sound w) (hI : I w.tables) (a : Action) :
    I (step d w a).tables := by
  obtain ⟨cs, hmoves⟩ := (body_committed (d := d) hw a).1.moves
  refine (hmoves.keeps (I := fun db =>
    (∀ r ∈ db.escrowLedger.rows, 0 ≤ r.reservedAmount) ∧ I db) ?_ ?_ ⟨hw.reserves, hI⟩).2
  · intro db db' hi hdb
    rw [hi.escrowLedger]
    exact ⟨hdb.1, hidle hi hdb.2⟩
  · intro db c db' hm hdb
    exact ⟨hm.reserves hdb.1, hmove hdb.1 hm hdb.2⟩

/-- A stored operation stays stored. -/
theorem step_stored {w : LedgerWorld} (hw : Sound w) {key : String}
    (h : ∃ r, w.tables.escrowLedger.find? key = some r) (a : Action) :
    ∃ r, (step d w a).tables.escrowLedger.find? key = some r := by
  refine step_invariant (I := fun db => ∃ r, db.escrowLedger.find? key = some r) ?_ ?_ hw h a
  · intro db db' hidle hdb
    rw [hidle.escrowLedger]
    exact hdb
  · rintro db c db' - hmove ⟨r, hr⟩
    rw [hmove.new, Table.find?_put]
    split_ifs
    · exact ⟨_, rfl⟩
    · exact ⟨r, hr⟩

/-- What the updates of an operation's row keep. -/
structure KeptByUpdates (Q : EscrowRow → Prop) : Prop where
  settle : ∀ {r} clock request, Q r → Q (settledRow clock r request)
  record : ∀ {r : EscrowRow} (request : SettleRequest) now, request.outcome ≠ .settled → Q r →
    Q (r.record request now)
  strand : ∀ {r : EscrowRow} now, Q r → Q (r.strand now)
  expire : ∀ {r : EscrowRow} now, Q r → Q (r.expire now)

theorem Moves.rows {Q : EscrowRow → Prop} {db db' : Database} {cs : List Change}
    (h : Moves d db cs db') (hcs : ∀ c ∈ cs, Q c.new) (hdb : ∀ r ∈ db.escrowLedger.rows, Q r) :
    ∀ r ∈ db'.escrowLedger.rows, Q r := by
  induction cs generalizing db with
  | nil =>
    intro r hr
    rw [Idle.escrowLedger h] at hr
    exact hdb r hr
  | cons c cs ih =>
    obtain ⟨mid, hmove, hrest⟩ := h
    refine ih hrest (fun c' hc' => hcs c' (List.mem_cons_of_mem _ hc')) ?_
    intro r hr
    have hfind := Table.find?_of_mem hr
    rw [hmove.new, Table.find?_put] at hfind
    split_ifs at hfind
    · obtain rfl := Option.some.inj hfind
      exact hcs c List.mem_cons_self
    · exact hdb r (Table.mem_of_find? hfind)

/-- What the row of a new operation satisfies and every update keeps holds of every row. -/
theorem step_rows {Q : EscrowRow → Prop} (hQ : KeptByUpdates Q) {w : LedgerWorld} (hw : Sound w)
    (h : ∀ r ∈ w.tables.escrowLedger.rows, Q r) (a : Action)
    (hreserve : ∀ settings clock breaker request, a = .reserve settings clock breaker request ∨
      a = .racedReserve settings clock breaker request →
      Q (reserveChange d settings clock request).new) :
    ∀ r ∈ (step d w a).tables.escrowLedger.rows, Q r := by
  have hc := (body_committed (d := d) hw a).1
  generalize hdb : (step d w a).tables = db' at hc
  generalize respond d w a = response at hc
  have hloaded : ∀ {request operation}, loadOperationForUpdate w.tables request = some operation →
      Q operation :=
    fun hload => h _ (Table.mem_of_find? (find?_of_loadOperationForUpdate hload))
  cases hc with
  | raised _ hidle =>
    rw [hidle.escrowLedger]
    exact h
  | replayed => exact h
  | reserved ha hmove =>
    refine Moves.rows (Moves.single hmove) ?_ h
    exact fun c hc => List.mem_singleton.mp hc ▸ hreserve _ _ _ _ ha
  | settled hsettle =>
    cases hsettle with
    | replayed => exact h
    | settled hload _ _ _ hmove =>
      refine Moves.rows (Moves.single hmove) ?_ h
      exact fun c hc => List.mem_singleton.mp hc ▸ hQ.settle _ _ (hloaded hload)
    | recorded hload ho hmove =>
      refine Moves.rows (Moves.single hmove) ?_ h
      exact fun c hc => List.mem_singleton.mp hc ▸ hQ.record _ _ ho (hloaded hload)
  | swept hmoves =>
    refine Moves.rows hmoves ?_ h
    intro c hmem
    obtain ⟨r, hr, rfl⟩ := List.mem_map.mp hmem
    have hrow := h r (mem_sweepBatch hr).1
    unfold sweepChange
    split_ifs
    · exact hQ.strand _ hrow
    · exact hQ.expire _ hrow

theorem Moves.find?_of_ne {db db' : Database} {cs : List Change} (h : Moves d db cs db')
    {key : String} (hkey : ∀ c ∈ cs, c.new.idempotencyKey ≠ key) :
    db'.escrowLedger.find? key = db.escrowLedger.find? key := by
  induction cs generalizing db with
  | nil => rw [Idle.escrowLedger h]
  | cons c cs ih =>
    obtain ⟨mid, hmove, hrest⟩ := h
    rw [ih hrest fun c' hc' => hkey c' (List.mem_cons_of_mem _ hc'), hmove.new, Table.find?_put,
      if_neg (Ne.symm (hkey c List.mem_cons_self))]

theorem Moves.find?_of_mem {db db' : Database} {cs : List Change} (h : Moves d db cs db')
    (hnd : (cs.map fun c => c.new.idempotencyKey).Nodup) {c : Change} (hc : c ∈ cs) :
    db'.escrowLedger.find? c.new.idempotencyKey = some c.new := by
  induction cs generalizing db with
  | nil => cases hc
  | cons c' cs ih =>
    obtain ⟨mid, hmove, hrest⟩ := h
    rw [List.map_cons, List.nodup_cons] at hnd
    rcases List.mem_cons.mp hc with rfl | hc
    · have hother : ∀ x ∈ cs, x.new.idempotencyKey ≠ c.new.idempotencyKey := by
        intro x hx heq
        exact hnd.1 (heq ▸ List.mem_map_of_mem hx)
      rw [hrest.find?_of_ne hother, hmove.new, Table.find?_put_self]
    · exact ih hrest hnd.2 hc

/-- What a sweep makes of the rows that it claims, and of no others. -/
theorem sweep_find? {w : LedgerWorld} (hw : Sound w) (clock : Clock) (plan : SweepPlan)
    (batchSize : Nat) :
    (∀ r ∈ sweepBatch w.tables clock plan batchSize,
      (step d w (.sweep clock plan batchSize)).tables.escrowLedger.find? r.idempotencyKey =
        some (sweepChange w.tables clock r).new) ∧
    ∀ key, (∀ r ∈ sweepBatch w.tables clock plan batchSize, r.idempotencyKey ≠ key) →
      (step d w (.sweep clock plan batchSize)).tables.escrowLedger.find? key =
        w.tables.escrowLedger.find? key := by
  have hc := (body_committed (d := d) hw (.sweep clock plan batchSize)).1
  generalize respond d w (.sweep clock plan batchSize) = response at hc
  generalize (step d w (.sweep clock plan batchSize)).tables = db' at hc ⊢
  cases hc with
  | raised ha => cases ha
  | reserved ha => rcases ha with ha | ha <;> cases ha
  | swept hmoves =>
    have hkeys : ((sweepBatch w.tables clock plan batchSize).map
        (sweepChange w.tables clock)).map (fun c => c.new.idempotencyKey) =
        (sweepBatch w.tables clock plan batchSize).map EscrowRow.idempotencyKey := by
      rw [List.map_map]
      exact List.map_congr_left fun r _ => sweepChange_key w.tables
    constructor
    · intro r hr
      have hfind := hmoves.find?_of_mem (hkeys ▸ sweepBatch_nodup w.tables plan batchSize)
        (List.mem_map_of_mem hr)
      rwa [sweepChange_key] at hfind
    · intro key hkey
      refine hmoves.find?_of_ne ?_
      intro c hc
      obtain ⟨r, hr, rfl⟩ := List.mem_map.mp hc
      rw [sweepChange_key]
      exact hkey r hr

/-- An invariant of the moves holds after every run. -/
theorem run_invariant {I : Database → Prop}
    (hidle : ∀ {db db'}, Idle db db' → I db → I db')
    (hmove : ∀ {db c db'}, (∀ r ∈ db.escrowLedger.rows, 0 ≤ r.reservedAmount) →
      Move d db c db' → I db → I db')
    {w : LedgerWorld} (hw : Sound w) (hI : I w.tables) (actions : List Action) :
    I (run d w actions).tables := by
  have hkeeps : ∀ w a, Sound w ∧ I w.tables → Sound (step d w a) ∧ I (step d w a).tables := by
    intro w a ⟨hw, hI⟩
    exact ⟨step_sound hw a, step_invariant hidle hmove hw hI a⟩
  exact (run_keeps (I := fun w => Sound w ∧ I w.tables) ⟨hw, hI⟩ hkeeps actions).2

end Transactions

end Governor.Ledger
