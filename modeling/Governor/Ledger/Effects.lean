import Mathlib
import Governor.Ledger.Sweeper
import Governor.Ledger.Machine

/-!
# What the statements of a transaction do

One specification for each block of statements, in the terms of the operation
machine: what is credited, charged or logged when the block returns. A block that
raises leaves the committed tables alone, apart from the two guardrails that commit
an incident first.
-/

namespace Governor.Ledger

/-- A session of the ledger. -/
abbrev LedgerSession := Session Database Outside

/-- Every way to abort the session meets the exceptional postcondition. -/
def Aborts (E : Exn → LedgerSession → Prop) (s : LedgerSession) : Prop :=
  ∀ e w o, s.outside.lastEventId ≤ o.lastEventId → E e ⟨s.committed, w, o⟩

/-- The events are in the order of their ids, all drawn from the sequence. -/
structure LogOrdered (s : LedgerSession) : Prop where
  drawn : IdsDrawn s
  ordered : s.working.ledgerEvents.rows.Pairwise fun a b => a.eventId < b.eventId

/-- The session moves on within its transaction. -/
structure Proceeds (s s' : LedgerSession) : Prop where
  committed : s'.committed = s.committed
  sequence : s.outside.lastEventId ≤ s'.outside.lastEventId

theorem Proceeds.trans {s s' s'' : LedgerSession} (h : Proceeds s s') (h' : Proceeds s' s'') :
    Proceeds s s'' :=
  ⟨h'.committed.trans h.committed, h.sequence.trans h'.sequence⟩

theorem Aborts.proceeds {E : Exn → LedgerSession → Prop} {s s' : LedgerSession}
    (hE : Aborts E s) (h : Proceeds s s') : Aborts E s' := by
  intro e w o ho
  rw [h.committed]
  exact hE e w o (h.sequence.trans ho)

/-- Postings of an operation, with the wallet following them, and nothing else that the
machine looks at. -/
structure Posts (s s' : LedgerSession) (r : EscrowRow) (ps : List Posting) : Prop where
  proceeds : Proceeds s s'
  log : LogOrdered s'
  wallets : Credited s.working.userWallets s'.working.userWallets r.userId (netAmount ps)
  events : Logged s.working.ledgerEvents.rows s'.working.ledgerEvents.rows r ps
  /-- Every other table is as it was. -/
  frame : s'.working = { s.working with
    userWallets := s'.working.userWallets, ledgerEvents := s'.working.ledgerEvents }

theorem Posts.refl {s : LedgerSession} (hlog : LogOrdered s) (r : EscrowRow) : Posts s s r [] :=
  ⟨⟨rfl, le_refl _⟩, hlog, Credited.refl _ _, Logged.refl _ _, rfl⟩

theorem Posts.trans {s s' s'' : LedgerSession} {r : EscrowRow} {ps qs : List Posting}
    (h : Posts s s' r ps) (h' : Posts s' s'' r qs) : Posts s s'' r (ps ++ qs) where
  proceeds := h.proceeds.trans h'.proceeds
  log := h'.log
  wallets := by
    rw [netAmount_append]
    exact h.wallets.trans h'.wallets
  events := h.events.trans h'.events
  frame := by
    rw [h'.frame, h.frame]

theorem Posts.escrowLedger {s s' : LedgerSession} {r : EscrowRow} {ps : List Posting}
    (h : Posts s s' r ps) : s'.working.escrowLedger = s.working.escrowLedger := by
  rw [h.frame]

theorem Posts.traceBudgetState {s s' : LedgerSession} {r : EscrowRow} {ps : List Posting}
    (h : Posts s s' r ps) : s'.working.traceBudgetState = s.working.traceBudgetState := by
  rw [h.frame]

theorem Posts.budgetScopeState {s s' : LedgerSession} {r : EscrowRow} {ps : List Posting}
    (h : Posts s s' r ps) : s'.working.budgetScopeState = s.working.budgetScopeState := by
  rw [h.frame]

variable {E : Exn → LedgerSession → Prop} {s : LedgerSession}

/-! ## Events and wallets -/

/-- One appended event is one posting; the wallet may be updated just before it. -/
theorem wp_post {d : Deployment} {Q : Unit → LedgerSession → Prop} {e : EventDraft}
    {r : EscrowRow} {p : Posting} {t : Table Wallet.userId} (hlog : LogOrdered s)
    (he : (e.idempotencyKey, e.userId, e.eventType, e.amountDelta) = p.entry r)
    (ht : Credited s.working.userWallets t r.userId p.amount)
    (h : ∀ s', Posts s s' r [p] → Q () s') :
    Tx.wp (appendSealedLedgerEvent d e) Q E
      { s with working := { s.working with userWallets := t } } := by
  apply wp_appendSealedLedgerEvent (s := { s with working := { s.working with userWallets := t } })
    hlog.drawn
  intro s' ha
  apply h
  have hrows := ha.rows
  refine ⟨⟨ha.committed, ?_⟩, ⟨ha.idsDrawn hlog.drawn, ?_⟩, ?_, ⟨_, hrows, ?_⟩, ?_⟩
  · rw [ha.outside]
    change s.outside.lastEventId ≤ s.outside.lastEventId + 1
    omega
  · rw [hrows, List.pairwise_append]
    refine ⟨hlog.ordered, List.pairwise_singleton _ _, ?_⟩
    intro a ha' b hb
    rw [List.mem_singleton.mp hb]
    exact Int.lt_add_one_of_le (hlog.drawn a ha')
  · rw [ha.frame, netAmount_cons, netAmount_nil, add_zero]
    exact ht
  · rw [List.map_singleton, List.map_singleton, ← he]
    rfl
  · rw [ha.frame]

/-- An appended event that moves no money. -/
theorem wp_post_zero {d : Deployment} {Q : Unit → LedgerSession → Prop} {e : EventDraft}
    {r : EscrowRow} (eventType : EventType) (hlog : LogOrdered s)
    (he : (e.idempotencyKey, e.userId, e.eventType, e.amountDelta) =
      (Posting.mk eventType 0).entry r)
    (h : ∀ s', Posts s s' r [⟨eventType, 0⟩] → Q () s') :
    Tx.wp (appendSealedLedgerEvent d e) Q E s :=
  wp_post hlog he (Credited.refl _ _) h

/-- The postings of a payment that is skipped when it is zero. -/
def paymentPostings (eventType : EventType) (amount : Money) : List Posting :=
  if amount = 0 then [] else [⟨eventType, amount⟩]

@[simp] theorem netAmount_paymentPostings (eventType : EventType) (amount : Money) :
    netAmount (paymentPostings eventType amount) = amount := by
  unfold paymentPostings
  split_ifs with h
  · exact h.symm
  · rw [netAmount_cons, netAmount_nil, add_zero]

theorem eventType_of_mem_paymentPostings {eventType : EventType} {amount : Money} {p : Posting}
    (h : p ∈ paymentPostings eventType amount) : p.eventType = eventType := by
  unfold paymentPostings at h
  split_ifs at h
  · cases h
  · rw [List.mem_singleton.mp h]

theorem wp_refundWallet {d : Deployment} {clock : Clock} {operation : EscrowRow} {amount : Money}
    {Q : Unit → LedgerSession → Prop} (hlog : LogOrdered s)
    (h : ∀ s', Posts s s' operation (paymentPostings .settlementRefund amount) → Q () s') :
    Tx.wp (refundWallet d clock operation amount) Q E s := by
  unfold refundWallet
  by_cases ha : amount = 0
  · simp only [ha, ite_true, Tx.wp_pure]
    apply h
    simpa only [paymentPostings, ha, ite_true] using Posts.refl hlog operation
  · simp only [ha, ite_false, Tx.wp_bind, Tx.wp_write]
    refine wp_post (p := ⟨.settlementRefund, amount⟩) (r := operation) hlog rfl
      (Credited.update _ _ _ fun _ => rfl) ?_
    intro s' hs'
    apply h
    simpa only [paymentPostings, ha, ite_false] using hs'

theorem wp_correctWallet {d : Deployment} {clock : Clock} {operation : EscrowRow} {amount : Money}
    {Q : Unit → LedgerSession → Prop} (hlog : LogOrdered s)
    (h : ∀ s', Posts s s' operation (paymentPostings .settlementCorrectionDebit (-amount)) →
      Q () s') :
    Tx.wp (correctWallet d clock operation amount) Q E s := by
  unfold correctWallet
  by_cases ha : amount = 0
  · simp only [ha, ite_true, Tx.wp_pure]
    apply h
    simpa only [paymentPostings, ha, Int.neg_zero, ite_true] using Posts.refl hlog operation
  · simp only [ha, ite_false, Tx.wp_bind, Tx.wp_write]
    refine wp_post (p := ⟨.settlementCorrectionDebit, -amount⟩) (r := operation) hlog rfl
      (Credited.update _ _ _ fun _ => rfl) ?_
    intro s' hs'
    apply h
    simpa only [paymentPostings, neg_eq_zero, ha, ite_false] using hs'

/-- Drift is recorded by at most one event, which moves no money. -/
theorem wp_enforceDrift {d : Deployment} {settings : Settings} {clock : Clock}
    {operation : EscrowRow} {driftAmount : Money} {Q : Unit → LedgerSession → Prop}
    (hlog : LogOrdered s)
    (h : ∀ s' ps, Posts s s' operation ps → (∀ p ∈ ps, p.amount = 0 ∧
      (p.eventType = .driftEnforced ∨ p.eventType = .driftTolerated)) → Q () s') :
    Tx.wp (enforceDrift d settings clock operation driftAmount) Q E s := by
  unfold enforceDrift
  simp only [Tx.wp_ite, Tx.wp_pure, Tx.wp_bind, Tx.wp_write]
  split_ifs with hzero hexceeds
  · exact h s [] (Posts.refl hlog operation) (by simp)
  · refine wp_post (p := ⟨.driftEnforced, 0⟩) (r := operation) hlog rfl
      (Credited.update _ _ _ fun w => (add_zero w.balance).symm) ?_
    intro s' hs'
    exact h s' _ hs' (by simp)
  · refine wp_post_zero (r := operation) .driftTolerated hlog rfl ?_
    intro s' hs'
    exact h s' _ hs' (by simp)

theorem wp_enforceNonNegativeWalletBalance {userId : String} {Q : Unit → LedgerSession → Prop}
    (hE : Aborts E s)
    (h : Solvent s.working.userWallets userId → Q () s) :
    Tx.wp (enforceNonNegativeWalletBalance userId) Q E s := by
  simp only [enforceNonNegativeWalletBalance, Tx.wp_bind, Tx.wp_read, Tx.wp_ite, Tx.wp_raise,
    Tx.wp_pure]
  split_ifs with hneg
  · exact hE _ _ _ (le_refl _)
  · apply h
    intro b hb
    obtain ⟨w, hw, rfl⟩ := Option.map_eq_some_iff.mp hb
    simpa [hw] using hneg

theorem wp_debitWallet {userId : String} {amount : Money} {Q : Unit → LedgerSession → Prop}
    (hE : Aborts E s)
    (h : ∀ t, Credited s.working.userWallets t userId (-amount) → Solvent t userId →
      Q () { s with working := { s.working with userWallets := t } }) :
    Tx.wp (debitWallet userId amount) Q E s := by
  simp only [debitWallet, Tx.wp_bind, Tx.wp_read, Tx.wp_ite, Tx.wp_raise, Tx.wp_write]
  split_ifs with hw
  · have hcredit : Credited s.working.userWallets
        (s.working.userWallets.update userId (Wallet.credit (-amount))) userId (-amount) :=
      Credited.update _ _ _ fun _ => rfl
    refine h _ hcredit ?_
    intro b hb
    have hbalance := (hcredit userId).symm.trans hb
    rw [if_pos rfl] at hbalance
    obtain ⟨w, hfind, rfl⟩ := Option.map_eq_some_iff.mp hbalance
    rw [hfind, Option.any_some, Bool.and_eq_true, decide_eq_true_eq] at hw
    linarith [hw.2]
  · exact hE _ _ _ (le_refl _)

/-! ## Budget scopes and traces -/

theorem consumedAt_insertIfAbsent (t : Table BudgetScope.key) (scope k : ScopeType × String)
    (capAmount : Money) :
    consumedAt (t.insertIfAbsent ⟨scope.1, scope.2, capAmount, 0⟩) k = consumedAt t k := by
  simp only [consumedAt, Table.find?_insertIfAbsent]
  by_cases hk : k = (BudgetScope.mk scope.1 scope.2 capAmount 0).key
  · cases hf : t.find? k <;> simp [hk]
  · simp [hk]

/-- A charge that is within the cap changes the consumption of its scope only. -/
theorem consumedAt_consume {t : Table BudgetScope.key} {scope : ScopeType × String} {delta : Money}
    {b : BudgetScope} (hb : t.find? scope = some b) (k : ScopeType × String) :
    consumedAt (t.update scope (BudgetScope.consume delta)) k =
      consumedAt t k + if k = scope then delta else 0 := by
  have hup := Table.find?_update t scope k (BudgetScope.consume delta) fun _ => rfl
  rw [consumedAt, hup, consumedAt]
  by_cases hk : k = scope
  · subst hk
    simp [hb, BudgetScope.consume]
  · simp [hk]

theorem wp_applyBudgetDelta {scope : ScopeType × String} {capAmount delta : Money}
    {Q : Unit → LedgerSession → Prop} (hE : Aborts E s)
    (h : ∀ t, Charged s.working.budgetScopeState t [scope] delta →
      Q () { s with working := { s.working with budgetScopeState := t } }) :
    Tx.wp (applyBudgetDelta scope capAmount delta) Q E s := by
  simp only [applyBudgetDelta, Tx.wp_bind, Tx.wp_write, Tx.wp_read, Tx.wp_ite, Tx.wp_raise]
  split_ifs with hcap
  · rw [Option.any_eq_true] at hcap
    obtain ⟨b, hb, -⟩ := hcap
    refine h _ ?_
    intro k
    rw [consumedAt_consume hb, consumedAt_insertIfAbsent]
    simp only [List.mem_singleton]
  · exact hE _ _ _ (le_refl _)

/-- Charging distinct scopes one after the other charges each of them once. -/
theorem wp_applyBudgetScopes {scopes : List (ScopeType × String)} {caps : ScopeType → Money}
    {delta : Money} {Q : Unit → LedgerSession → Prop} (hnd : scopes.Nodup) (hE : Aborts E s)
    (h : ∀ t, Charged s.working.budgetScopeState t scopes delta →
      Q () { s with working := { s.working with budgetScopeState := t } }) :
    Tx.wp (applyBudgetScopes scopes caps delta) Q E s := by
  induction scopes generalizing s with
  | nil => exact h _ fun k => by simp
  | cons scope rest ih =>
    change Tx.wp (applyBudgetDelta scope (caps scope.1) delta >>= fun _ =>
      applyBudgetScopes rest caps delta) Q E s
    rw [List.nodup_cons] at hnd
    rw [Tx.wp_bind]
    refine wp_applyBudgetDelta hE fun t ht => ih hnd.2 (fun e w o => hE e w o) ?_
    intro t' ht'
    apply h
    intro k
    have hk := ht' k
    have hk' := ht k
    simp only at hk hk'
    rw [hk, hk', add_assoc]
    by_cases he : k = scope
    · simp [he, hnd.1]
    · simp [he]

theorem budgetScopes_nodup (identity : Identity) (userId : String) :
    (budgetScopes identity userId).Nodup := by
  simp [budgetScopes]

theorem find?_claimed (t : Table TraceBudget.traceId) (traceId : String)
    (traceCap reservedAmount : Money) (k : String) :
    ((t.insertIfAbsent ⟨traceId, traceCap, 0, 0⟩).update traceId
      (TraceBudget.reserve reservedAmount)).find? k =
      if k = traceId then
        some (TraceBudget.reserve reservedAmount ((t.find? traceId).getD ⟨traceId, traceCap, 0, 0⟩))
      else t.find? k := by
  have hup := Table.find?_update (t.insertIfAbsent ⟨traceId, traceCap, 0, 0⟩) traceId k
    (TraceBudget.reserve reservedAmount) fun _ => rfl
  have hins := Table.find?_insertIfAbsent t ⟨traceId, traceCap, 0, 0⟩
  simp only at hins
  rw [hup, hins, hins, if_pos rfl, Option.map_some]
  by_cases hk : k = traceId <;> simp [hk]

/-- A claim of a trace's budget that succeeds. -/
theorem wp_claimTrace {traceId : String} {traceCap reservedAmount : Money}
    {Q : Unit → LedgerSession → Prop} (hE : Aborts E s)
    (h : ∀ t, TraceMoved s.working.traceBudgetState t traceId reservedAmount 0 True →
      Q () { s with working := { s.working with traceBudgetState := t } }) :
    Tx.wp (claimTrace traceId traceCap reservedAmount) Q E s := by
  simp only [claimTrace, Tx.wp_bind, Tx.wp_write, Tx.wp_read, Tx.wp_ite, Tx.wp_raise]
  have hclaim := find?_claimed s.working.traceBudgetState traceId traceCap reservedAmount
  split_ifs with hmismatch hcap
  · exact hE _ _ _ (le_refl _)
  · refine h _ ⟨?_, ?_, ?_⟩
    · intro k b hb
      rw [hclaim]
      by_cases hk : k = traceId
      · subst hk
        simp only [ite_true, hb, Option.getD_some, TraceBudget.reserve, add_zero]
      · simp only [hk, ite_false, hb]
    · intro k b hnone hb
      rw [hclaim] at hb
      by_cases hk : k = traceId
      · subst hk
        rw [if_pos rfl, hnone, Option.getD_none] at hb
        obtain rfl := Option.some.inj hb
        exact ⟨trivial, rfl, zero_add _, rfl⟩
      · rw [if_neg hk, hnone] at hb
        cases hb
    · intro _
      have hins := Table.find?_insertIfAbsent s.working.traceBudgetState
        ⟨traceId, traceCap, 0, 0⟩ traceId
      rw [if_pos rfl] at hins
      rw [hins, Option.any_some, decide_eq_true_eq] at hcap
      exact ⟨_, (hclaim traceId).trans (if_pos rfl), hcap⟩
  · exact hE _ _ _ (le_refl _)

/-- Updating one trace moves its totals as the update says. -/
theorem TraceMoved.update (t : Table TraceBudget.traceId) (traceId : String) {held settled : Money}
    {f : TraceBudget → TraceBudget} (hf : ∀ b, (f b).traceId = b.traceId)
    (hb : ∀ b, f b = { b with
      reservedTotal := b.reservedTotal + held, settledTotal := b.settledTotal + settled })
    {opens : Prop} (ho : ¬ opens) :
    TraceMoved t (t.update traceId f hf) traceId held settled opens where
  kept := by
    intro k b hk
    rw [Table.find?_update]
    by_cases he : k = traceId
    · subst he
      simp only [ite_true, hk, Option.map_some, hb]
    · simp only [he, ite_false, hk]
  opened := by
    intro k b hnone hk
    rw [Table.find?_update] at hk
    by_cases he : k = traceId
    · subst he
      simp [hnone] at hk
    · simp [he, hnone] at hk
  within := fun h => absurd h ho

theorem TraceMoved.refl (t : Table TraceBudget.traceId) (traceId : String) {opens : Prop}
    (ho : ¬ opens) : TraceMoved t t traceId 0 0 opens where
  kept := by
    intro k b hk
    simp [hk]
  opened := by
    intro k b hnone hk
    simp [hnone] at hk
  within := fun h => absurd h ho

/-! ## Operations, attempts and guardrails -/

theorem wp_insertEscrow {row : EscrowRow} {Q : Unit → LedgerSession → Prop} (hE : Aborts E s)
    (h : s.working.escrowLedger.find? row.idempotencyKey = none →
      Q () { s with working :=
        { s.working with escrowLedger := s.working.escrowLedger.put row } }) :
    Tx.wp (insertEscrow row) Q E s := by
  simp only [insertEscrow, Tx.wp_bind, Tx.wp_read]
  split
  · next t ht =>
    obtain ⟨hfresh, rfl⟩ := Table.insert?_eq_some.mp ht
    simp only [Tx.wp_ite, Tx.wp_write, Tx.wp_raise]
    split_ifs
    · exact h hfresh
    · exact hE _ _ _ (le_refl _)
  · exact hE _ _ _ (le_refl _)

theorem wp_updateEscrow {f : EscrowRow → EscrowRow}
    {hf : ∀ r, (f r).idempotencyKey = r.idempotencyKey} {operation : EscrowRow}
    {Q : Unit → LedgerSession → Prop}
    (hop : s.working.escrowLedger.find? operation.idempotencyKey = some operation)
    (hE : Aborts E s)
    (h : Q () { s with working :=
      { s.working with escrowLedger := s.working.escrowLedger.put (f operation) } }) :
    Tx.wp (updateEscrow operation.idempotencyKey f hf) Q E s := by
  simp only [updateEscrow, Tx.wp_bind, Tx.wp_read, Tx.wp_ite, Tx.wp_raise, Tx.wp_write]
  split_ifs
  · exact hE _ _ _ (le_refl _)
  · rw [Table.update_eq_put hop]
    exact h

theorem wp_upsertAttempt {idempotencyKey attemptKey : String} {request : SettleRequest}
    {now : Timestamp} {Q : Unit → LedgerSession → Prop} (hE : Aborts E s)
    (h : ∀ t, Q () { s with working := { s.working with providerDispatchAttempts := t } }) :
    Tx.wp (upsertAttempt idempotencyKey attemptKey request now) Q E s := by
  simp only [upsertAttempt, Tx.wp_bind, Tx.wp_read, Tx.wp_ite, Tx.wp_raise, Tx.wp_write]
  split_ifs
  · exact hE _ _ _ (le_refl _)
  · exact h _

/-- The approval rule passes, or commits an incident and raises. -/
theorem wp_enforceManualApproval {settings : Settings} {request : ReserveRequest}
    {identity : Identity} {now : Timestamp} {Q : Unit → LedgerSession → Prop}
    (hE : ∀ e incidents, E e
      { s with
        committed := { s.working with guardrailIncidents := incidents }
        working := { s.working with guardrailIncidents := incidents } })
    (h : Q () s) : Tx.wp (enforceManualApproval settings request identity now) Q E s := by
  unfold enforceManualApproval
  by_cases hn : (needsApproval settings request && !truthy request.manualApprovalId) = true
  · rw [if_pos hn]
    simp only [appendGuardrailIncident, Tx.wp_bind, Tx.wp_write, Tx.wp_commit, Tx.wp_raise]
    exact hE _ _
  · rw [if_neg hn]
    exact h

/-- The loop guardrail counts a repetition, or commits an incident and raises. -/
theorem wp_enforceLoopGuardrail {operation : EscrowRow} {request : SettleRequest}
    {settings : Settings} {now : Timestamp} {Q : Unit → LedgerSession → Prop}
    (hE : ∀ e incidents, E e
      { s with
        committed := { s.working with guardrailIncidents := incidents }
        working := { s.working with guardrailIncidents := incidents } })
    (h : ∀ t, Q () { s with working := { s.working with executionLoopState := t } }) :
    Tx.wp (enforceLoopGuardrail operation request settings now) Q E s := by
  simp only [enforceLoopGuardrail, appendGuardrailIncident, Tx.wp_ite, Tx.wp_bind, Tx.wp_read,
    Tx.wp_pure]
  split_ifs
  · split
    · simp only [Tx.wp_ite, Tx.wp_bind, Tx.wp_write, Tx.wp_commit, Tx.wp_raise]
      split_ifs
      · exact hE _ _
      · exact h _
    · exact h _
  · exact h s.working.executionLoopState

theorem wp_validateSettlementIdentity {operation : EscrowRow} {request : SettleRequest}
    {Q : Unit → LedgerSession → Prop} (hE : Aborts E s)
    (h : identityMismatch operation request = none → Q () s) :
    Tx.wp (validateSettlementIdentity operation request) Q E s := by
  simp only [validateSettlementIdentity]
  split
  · exact hE _ _ _ (le_refl _)
  · next hnone => exact h hnone

/-- Lineage is written to a table of its own. -/
theorem wp_settleLineage {d : Deployment} {clock : Clock} {operation : EscrowRow}
    {request : SettleRequest} {actualAmount : Money} {Q : Unit → LedgerSession → Prop}
    (h : ∀ rows, Q () { s with working := { s.working with executionLineage := rows } }) :
    Tx.wp (settleLineage d clock operation request actualAmount) Q E s := by
  simp only [settleLineage, Tx.wp_ite, Tx.wp_pure]
  split_ifs
  · exact h _
  · exact h s.working.executionLineage

theorem wp_reserveLineage {clock : Clock} {row : EscrowRow} {Q : Unit → LedgerSession → Prop}
    (h : ∀ rows, Q () { s with working := { s.working with executionLineage := rows } }) :
    Tx.wp (reserveLineage clock row) Q E s := by
  simp only [reserveLineage]
  split
  · exact h s.working.executionLineage
  · exact h _

end Governor.Ledger
