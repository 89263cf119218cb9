import Mathlib
import Governor.Finance.Machine

/-!
# Transactions commit moves

Each transaction of the spine is shown to commit moves of the crystal machine: a crystallize
at most one opening, a commit or an adjudication at most one closing, a sweep one closing for
each crystal of its batch. `closings` says beforehand which crystals a transaction closes and
how. A transaction that raises leaves every table as it was.
-/

namespace Governor.Finance

open Ledger (Money Clock SweepPlan)

/-! ## Statements -/

/-- The session moves on within its transaction. -/
structure Proceeds (s s' : FinanceSession) : Prop where
  committed : s'.committed = s.committed
  sequence : s.outside.lastEventId ≤ s'.outside.lastEventId

theorem Proceeds.refl (s : FinanceSession) : Proceeds s s := ⟨rfl, le_refl _⟩

theorem Proceeds.trans {s s' s'' : FinanceSession} (h : Proceeds s s') (h' : Proceeds s' s'') :
    Proceeds s s'' :=
  ⟨h'.committed.trans h.committed, h.sequence.trans h'.sequence⟩

/-- Every way to abort the session meets the exceptional postcondition. -/
def Aborts (E : Exn → FinanceSession → Prop) (s : FinanceSession) : Prop :=
  ∀ exn s', Proceeds s s' → E exn s'

/-- Postings of a crystal that leave every balance and the machine's other tables alone. -/
structure Posts (s s' : FinanceSession) (c : CrystalRow) (e : EscrowRow) (ps : List Posting) :
    Prop where
  proceeds : Proceeds s s'
  drawn : IdsDrawn s'
  accounts : Credited s.working s'.working e.accountId 0
  events : Logged s.working.decisionEvents.rows s'.working.decisionEvents.rows c e ps
  frame : s'.working = { s.working with
    accountLedgers := s'.working.accountLedgers
    decisionEvents := s'.working.decisionEvents
    guardrailIncidents := s'.working.guardrailIncidents }

theorem Posts.refl {s : FinanceSession} (hids : IdsDrawn s) (c : CrystalRow) (e : EscrowRow) :
    Posts s s c e [] :=
  ⟨Proceeds.refl s, hids, Table.Adds.refl _ _, Logged.refl _ _ _, rfl⟩

theorem Posts.trans {s s' s'' : FinanceSession} {c : CrystalRow} {e : EscrowRow}
    {ps qs : List Posting} (h : Posts s s' c e ps) (h' : Posts s' s'' c e qs) :
    Posts s s'' c e (ps ++ qs) where
  proceeds := h.proceeds.trans h'.proceeds
  drawn := h'.drawn
  accounts := h.accounts.trans h'.accounts
  events := h.events.trans h'.events
  frame := by rw [h'.frame, h.frame]

section Statements

variable {d : Deployment} {clock : Clock} {c : CrystalRow} {e : EscrowRow} {s : FinanceSession}
  {E : Exn → FinanceSession → Prop}

/-- One appended event is one posting; accounts may have been locked and incidents recorded
just before. -/
theorem wp_post {draft : DecisionDraft} {p : Posting} {Q : Unit → FinanceSession → Prop}
    {accounts : Table Account.accountId} {incidents : List GuardrailIncident}
    (hids : IdsDrawn s) (hentry : draft.entry = p.entry c e)
    (haccounts : Table.Adds Account.balance s.working.accountLedgers accounts e.accountId 0)
    (h : ∀ s', Posts s s' c e [p] → Q () s') :
    Tx.wp (appendDecisionEvent d draft) Q E
      { s with working := { s.working with
          accountLedgers := accounts
          guardrailIncidents := incidents } } := by
  generalize ht : ({ s with working := { s.working with
    accountLedgers := accounts
    guardrailIncidents := incidents } } : FinanceSession) = t
  have hidst : IdsDrawn t := by
    subst ht
    exact hids
  refine wp_appendDecisionEvent hidst fun s' ha => h s' ?_
  have hdrawn := ha.idsDrawn hidst
  subst ht
  refine ⟨⟨ha.committed, ?_⟩, hdrawn, ?_, ⟨_, ha.rows, ?_⟩, ?_⟩
  · rw [ha.outside]
    change s.outside.lastEventId ≤ s.outside.lastEventId + 1
    omega
  · rw [Credited, ha.frame]
    exact haccounts
  · rw [List.map_singleton, List.map_singleton, DecisionDraft.sealed_entry, hentry]
  · rw [ha.frame]

/-- An appended event and nothing else. -/
theorem wp_post_only {draft : DecisionDraft} {p : Posting} {Q : Unit → FinanceSession → Prop}
    (hids : IdsDrawn s) (hentry : draft.entry = p.entry c e)
    (h : ∀ s', Posts s s' c e [p] → Q () s') : Tx.wp (appendDecisionEvent d draft) Q E s :=
  wp_post hids hentry (Table.Adds.refl _ _) h

/-- Drift is recorded by at most one event, which moves no exposure. -/
theorem wp_enforceDriftOnCommit {settings : Settings} {committed : Money}
    {Q : List (String × Json) → FinanceSession → Prop} (hids : IdsDrawn s)
    (h : ∀ s' ps drift, Posts s s' c e ps → (∀ p ∈ ps, Posting.IsDrift p) →
      drift.lookup "source" = none → Q drift s') :
    Tx.wp (enforceDriftOnCommit d settings clock c e committed) Q E s := by
  unfold enforceDriftOnCommit
  simp only [Tx.wp_ite, Tx.wp_pure, Tx.wp_bind, Tx.wp_write]
  split_ifs
  · exact h s [] _ (Posts.refl hids c e) (by simp) rfl
  · refine wp_post_only (p := ⟨.driftTolerated, 0, false⟩) hids rfl fun s' hs' => ?_
    exact h s' _ _ hs' (by simp [Posting.IsDrift]) rfl
  · refine wp_post (p := ⟨.driftEnforced, 0, false⟩) hids rfl
      (Table.Adds.update _ _ _ fun a => (add_zero a.balance).symm) fun s' hs' => ?_
    exact h s' _ _ hs' (by simp [Posting.IsDrift]) rfl

theorem wp_refundAccount {accountId : String} {amount : Money}
    {Q : Unit → FinanceSession → Prop}
    (h : ∀ accounts, Table.Adds Account.balance s.working.accountLedgers accounts accountId
      (max 0 amount) → Q () { s with working := { s.working with accountLedgers := accounts } }) :
    Tx.wp (refundAccount accountId amount) Q E s := by
  simp only [refundAccount, creditAccount, Tx.wp_ite, Tx.wp_write, Tx.wp_pure]
  split_ifs with hpos
  · rw [max_eq_right hpos.le] at h
    exact h _ (Table.Adds.update _ _ _ fun _ => rfl)
  · rw [max_eq_left (not_lt.mp hpos)] at h
    exact h _ (Table.Adds.refl _ _)

end Statements

/-! ## Closing a crystal -/

/-- The session has committed its own view. -/
structure Finished (s : FinanceSession) : Prop where
  committed : s.committed = s.working
  drawn : IdsDrawn s

section Closing

variable {d : Deployment} {clock : Clock} {c : CrystalRow} {e : EscrowRow} {s : FinanceSession}
  {E : Exn → FinanceSession → Prop}

/-- The statements that close a crystal, followed by its events, are a closing. -/
theorem Posts.closes {x : Resolution} {accounts : Table Account.accountId} {s' : FinanceSession}
    (drift : List Posting) (hopen : IsOpen s.working x.crystal x.escrow)
    (hcommitted : ∀ amount, x.closing = .committed amount → 0 ≤ amount)
    (haccounts : Table.Adds Account.balance s.working.accountLedgers accounts x.escrow.accountId
      x.refund)
    (hdrift : ∀ p ∈ drift, Posting.IsDrift p)
    (h : Posts { s with working := { s.working with
        accountLedgers := accounts
        governanceCrystals := s.working.governanceCrystals.put
          (x.crystal.close x.closing.state)
        commitEscrowLedger := s.working.commitEscrowLedger.put (x.closing.row x.escrow) } }
      s' x.crystal x.escrow (drift ++ [x.posting])) :
    Closes s.working x s'.working := by
  refine ⟨hopen, hcommitted, ?_, ?_, ?_, ⟨drift, hdrift, h.events⟩, ?_⟩
  · rw [h.frame]
  · rw [h.frame]
  · have hsum := haccounts.trans h.accounts
    rwa [add_zero] at hsum
  · rw [h.frame]
    exact ⟨rfl, rfl, rfl⟩

/-- A commit of an open crystal closes it, unless the amount is negative. -/
theorem wp_commitOpen {settings : Settings} {request : CommitRequest}
    {Q : CommitResult → FinanceSession → Prop} (hdb : Agrees s.working) (hids : IdsDrawn s)
    (hopen : IsOpen s.working c e) (hid : request.crystalId = c.crystalId)
    (hE : quantizeMoney request.committedExposure < 0 → Aborts E s)
    (h : 0 ≤ quantizeMoney request.committedExposure → ∀ s', Finished s' →
      Closes s.working ⟨c, e, .committed (quantizeMoney request.committedExposure)⟩ s'.working →
      Q ⟨c.operationId, c.crystalId, .committed⟩ s') :
    Tx.wp (commitOpen d settings clock c e request) Q E s := by
  simp only [commitOpen, Tx.wp_bind]
  refine wp_refundAccount fun accounts haccounts => ?_
  simp only [commitEscrow, Tx.wp_ite, Tx.wp_raise, Tx.wp_write, closeCrystal, hid]
  split_ifs with hneg
  · exact hE hneg _ _ ⟨rfl, le_refl _⟩
  · rw [hopen.updateWhere_escrow hdb _ _, Table.update_eq_put hopen.crystal]
    refine wp_enforceDriftOnCommit hids fun s₁ ps drift h₁ hdrift hsource => ?_
    refine wp_post_only (c := c) (e := e)
      (p := Resolution.posting ⟨c, e, .committed (quantizeMoney request.committedExposure)⟩)
      h₁.drawn ?_ fun s₂ h₂ => ?_
    · simp only [crystalEvent, DecisionDraft.entry, List.lookup_cons, hsource]
      rfl
    · have hcloses : Closes s.working
          ⟨c, e, .committed (quantizeMoney request.committedExposure)⟩ s₂.working := by
        refine Posts.closes ps hopen ?_ haccounts hdrift (h₁.trans h₂)
        rintro amount ⟨⟩
        exact not_lt.mp hneg
      simp only [Tx.wp_commit, Tx.wp_pure]
      exact h (not_lt.mp hneg) _ ⟨rfl, h₂.drawn⟩ hcloses

/-- A manual strand of an open crystal closes it. -/
theorem wp_strandOpen {request : AdjudicateRequest} {Q : CommitResult → FinanceSession → Prop}
    (hdb : Agrees s.working) (hids : IdsDrawn s) (hopen : IsOpen s.working c e)
    (hid : request.crystalId = c.crystalId)
    (h : ∀ s', Finished s' → Closes s.working ⟨c, e, .adjudicated request.reason⟩ s'.working →
      Q ⟨c.operationId, c.crystalId, .stranded⟩ s') :
    Tx.wp (strandOpen d clock c e request) Q E s := by
  have hreserved := hdb.reserves e (Table.mem_of_find? hopen.escrow)
  simp only [strandOpen, Tx.wp_bind]
  refine wp_refundAccount fun accounts haccounts => ?_
  rw [max_eq_right hreserved] at haccounts
  simp only [closeCrystal, finishEscrow, Tx.wp_write, hid]
  rw [hopen.updateWhere_escrow hdb _ _, Table.update_eq_put hopen.crystal]
  refine wp_post_only (p := Resolution.posting ⟨c, e, .adjudicated request.reason⟩) hids rfl
    fun s' h' => ?_
  have hcloses : Closes s.working ⟨c, e, .adjudicated request.reason⟩ s'.working := by
    refine Posts.closes [] hopen ?_ haccounts (by simp) h'
    rintro amount ⟨⟩
  simp only [Tx.wp_commit, Tx.wp_pure]
  exact h _ ⟨rfl, h'.drawn⟩ hcloses

/-- How the sweep closes a crystal of its batch. -/
def sweepResolution (p : CrystalRow × EscrowRow) : Resolution :=
  ⟨p.1, p.2, if sweepStrands p.1 p.2 then .stranded else .expired⟩

theorem wp_sweepCrystal {p : CrystalRow × EscrowRow} {Q : Unit → FinanceSession → Prop}
    (hdb : Agrees s.working) (hids : IdsDrawn s) (hopen : IsOpen s.working p.1 p.2)
    (h : ∀ s', IdsDrawn s' → Closes s.working (sweepResolution p) s'.working → Q () s') :
    Tx.wp (sweepCrystal d clock p) Q E s := by
  unfold sweepCrystal
  simp only [Tx.wp_ite, Tx.wp_bind, creditAccount, closeCrystal, finishEscrow, Tx.wp_write]
  rw [hopen.updateWhere_escrow hdb _ _, hopen.updateWhere_escrow hdb _ _,
    Table.update_eq_put hopen.crystal, Table.update_eq_put hopen.crystal]
  split_ifs with hstrand
  · have hx : sweepResolution p = ⟨p.1, p.2, .stranded⟩ := by rw [sweepResolution, if_pos hstrand]
    rw [hx] at h
    refine wp_post_only (p := Resolution.posting ⟨p.1, p.2, .stranded⟩) hids rfl fun s' h' => ?_
    refine h s' h'.drawn (Posts.closes [] hopen ?_ (Table.Adds.refl _ _) (by simp) h')
    rintro amount ⟨⟩
  · have hx : sweepResolution p = ⟨p.1, p.2, .expired⟩ := by rw [sweepResolution, if_neg hstrand]
    rw [hx] at h
    refine wp_post_only (p := Resolution.posting ⟨p.1, p.2, .expired⟩) hids rfl fun s' h' => ?_
    refine h s' h'.drawn
      (Posts.closes [] hopen ?_ (Table.Adds.update _ _ _ fun _ => rfl) (by simp) h')
    rintro amount ⟨⟩

/-- A closing leaves every other open crystal open. -/
theorem Closes.isOpen_of_ne {db db' : Database} {x : Resolution} (h : Closes db x db')
    (hopen : IsOpen db c e) (hne : c.crystalId ≠ x.crystal.crystalId) : IsOpen db' c e := by
  have hop : e.operationId ≠ x.escrow.operationId := by
    intro heq
    have hfind := hopen.escrow
    rw [heq, h.escrow] at hfind
    obtain rfl := Option.some.inj hfind
    exact hne (hopen.crystalId.symm.trans h.crystalId)
  refine ⟨?_, ?_, hopen.terminalState, hopen.status, hopen.crystalId, hopen.operationId⟩
  · rw [h.crystals, Table.find?_put, CrystalRow.close_crystalId, if_neg hne]
    exact hopen.crystal
  · rw [h.escrows, Table.find?_put, Closing.row_operationId, if_neg hop]
    exact hopen.escrow

/-- The loop of the sweep closes each crystal of the batch. -/
theorem wp_sweepCrystals {batch : List (CrystalRow × EscrowRow)}
    {Q : Unit → FinanceSession → Prop} (hdb : Agrees s.working) (hids : IdsDrawn s)
    (hopen : ∀ p ∈ batch, IsOpen s.working p.1 p.2)
    (hnodup : (batch.map fun p => p.1.crystalId).Nodup)
    (h : ∀ s', IdsDrawn s' → ClosesAll s.working (batch.map sweepResolution) s'.working →
      Q () s') :
    Tx.wp (batch.forM (sweepCrystal d clock)) Q E s := by
  induction batch generalizing s with
  | nil => exact h s hids rfl
  | cons p batch ih =>
    rw [List.map_cons, List.nodup_cons] at hnodup
    change Tx.wp (sweepCrystal d clock p >>= fun _ => batch.forM (sweepCrystal d clock)) Q E s
    rw [Tx.wp_bind]
    refine wp_sweepCrystal hdb hids (hopen p List.mem_cons_self) fun mid hmid hclose => ?_
    refine ih (hclose.agrees hdb) hmid ?_ hnodup.2 fun s' hs' hrest => ?_
    · intro q hq
      refine hclose.isOpen_of_ne (hopen q (List.mem_cons_of_mem _ hq)) ?_
      intro heq
      have hmem : q.1.crystalId ∈ batch.map fun p => p.1.crystalId :=
        List.mem_map_of_mem (f := fun p : CrystalRow × EscrowRow => p.1.crystalId) hq
      exact hnodup.1 (heq ▸ hmem)
    · exact h s' hs' ⟨mid.working, hclose, hrest⟩

end Closing

/-! ## The batch of a sweep -/

section Batch

variable {db : Database} {clock : Clock} {plan : SweepPlan} {batchSize : Nat}

theorem crystalJoin_crystalId {crystalId : String} {p : CrystalRow × EscrowRow}
    (h : crystalJoin db crystalId = some p) : p.1.crystalId = crystalId := by
  unfold crystalJoin at h
  split at h
  · next hc _ =>
    rw [← Option.some.inj h]
    exact Table.find?_some_key hc
  · cases h

/-- A crystal of the batch is open, overdue and not locked. -/
theorem mem_horizonBatch {p : CrystalRow × EscrowRow}
    (h : p ∈ horizonBatch db clock plan batchSize) :
    crystalJoin db p.1.crystalId = some p ∧ horizonPassed clock p.1 p.2 = true ∧
      plan.locked p.1.crystalId = false := by
  have hsorted := List.mem_of_mem_take h
  rw [List.mem_insertionSort, List.mem_filter, List.mem_filterMap] at hsorted
  obtain ⟨⟨c, -, hj⟩, hpassed⟩ := hsorted
  rw [Bool.and_eq_true, Bool.not_eq_true'] at hpassed
  exact ⟨crystalJoin_crystalId hj ▸ hj, hpassed⟩

/-- No crystal is in the batch twice. -/
theorem horizonBatch_nodup (db : Database) (clock : Clock) (plan : SweepPlan) (batchSize : Nat) :
    ((horizonBatch db clock plan batchSize).map fun p => p.1.crystalId).Nodup := by
  have hjoin : ∀ rows : List CrystalRow,
      ((rows.filterMap fun c => crystalJoin db c.crystalId).map fun p => p.1.crystalId).Sublist
        (rows.map CrystalRow.crystalId) := by
    intro rows
    induction rows with
    | nil => exact List.Sublist.refl _
    | cons c rows ih =>
      cases hj : crystalJoin db c.crystalId with
      | none =>
        rw [List.filterMap_cons, hj]
        exact ih.cons _
      | some p =>
        rw [List.filterMap_cons, hj]
        simp only [List.map_cons, crystalJoin_crystalId hj]
        exact ih.cons_cons _
  unfold horizonBatch
  refine List.Nodup.sublist ((List.take_sublist _ _).map _) ?_
  refine ((List.perm_insertionSort _ _).map _).nodup_iff.mpr ?_
  exact db.governanceCrystals.nodup.sublist ((List.filter_sublist.map _).trans (hjoin _))

theorem Agrees.isOpen_of_mem_horizonBatch (h : Agrees db) {p : CrystalRow × EscrowRow}
    (hp : p ∈ horizonBatch db clock plan batchSize) : IsOpen db p.1 p.2 := by
  obtain ⟨hj, hpassed, -⟩ := mem_horizonBatch hp
  refine h.isOpen hj ?_
  simp only [horizonPassed, Bool.and_eq_true, Option.isNone_iff_eq_none] at hpassed
  exact hpassed.1.1

end Batch

/-! ## Opening a crystal -/

section Opening

variable {d : Deployment} {clock : Clock} {s : FinanceSession} {E : Exn → FinanceSession → Prop}

theorem wp_assertPlatformAllowed {platform : String} {Q : PlatformRecord → FinanceSession → Prop}
    (hE : Aborts E s) (h : ∀ record, Q record s) :
    Tx.wp (assertPlatformAllowed platform) Q E s := by
  simp only [assertPlatformAllowed, Tx.wp_bind, Tx.wp_read]
  split
  · exact h _
  · split
    · exact hE _ _ (Proceeds.refl s)
    · split_ifs
      · exact h _
      · exact hE _ _ (Proceeds.refl s)

theorem wp_validatePlatformFacets {platform : String} {facets : Facets}
    {Q : Unit → FinanceSession → Prop} (hE : Aborts E s) (h : Q () s) :
    Tx.wp (validatePlatformFacets platform facets) Q E s := by
  simp only [validatePlatformFacets, Tx.wp_bind]
  refine wp_assertPlatformAllowed hE fun record => ?_
  split
  · exact h
  · exact hE _ _ (Proceeds.refl s)

theorem wp_policyHorizon {policyId : Option String} {reservedExposure : Ledger.Decimal}
    {Q : Option Int → FinanceSession → Prop} (hE : Aborts E s) (h : ∀ horizon, Q horizon s) :
    Tx.wp (policyHorizon policyId reservedExposure) Q E s := by
  unfold policyHorizon
  split_ifs
  · simp only [Tx.wp_bind, Tx.wp_read]
    split
    · exact hE _ _ (Proceeds.refl s)
    · split_ifs
      · exact hE _ _ (Proceeds.refl s)
      · exact hE _ _ (Proceeds.refl s)
      · exact h _
  · exact h _

theorem wp_reserveExposure {accountId : String} {reserved : Money}
    {Q : Unit → FinanceSession → Prop} (hE : Aborts E s)
    (h : ∀ accounts, (0 ≤ reserved → Table.Adds Account.balance s.working.accountLedgers accounts
      accountId (-reserved)) →
      Q () { s with working := { s.working with accountLedgers := accounts } }) :
    Tx.wp (reserveExposure accountId reserved) Q E s := by
  unfold reserveExposure
  split_ifs with hpos
  · simp only [Tx.wp_bind, Tx.wp_read]
    split
    · exact hE _ _ (Proceeds.refl s)
    · split_ifs
      · exact hE _ _ (Proceeds.refl s)
      · exact hE _ _ (Proceeds.refl s)
      · simp only [Tx.wp_write]
        exact h _ fun _ => Table.Adds.update _ _ _ fun a => Int.sub_eq_add_neg
  · refine h _ fun hnonneg => ?_
    have hzero : reserved = 0 := le_antisymm (not_lt.mp hpos) hnonneg
    rw [hzero, neg_zero]
    exact Table.Adds.refl _ _

theorem wp_insertCrystal {c : CrystalRow} {Q : Unit → FinanceSession → Prop} (hE : Aborts E s)
    (h : s.working.governanceCrystals.find? c.crystalId = none →
      Q () { s with working := { s.working with
        governanceCrystals := s.working.governanceCrystals.put c } }) :
    Tx.wp (insertCrystal c) Q E s := by
  simp only [insertCrystal, Tx.wp_bind, Tx.wp_read]
  split
  · exact hE _ _ (Proceeds.refl s)
  · next t hins =>
    obtain ⟨hnew, rfl⟩ := Table.insert?_eq_some.mp hins
    split_ifs
    · exact hE _ _ (Proceeds.refl s)
    · exact hE _ _ (Proceeds.refl s)
    · exact h hnew

theorem wp_insertEscrow {e : EscrowRow} {Q : Unit → FinanceSession → Prop} (hE : Aborts E s)
    (h : s.working.commitEscrowLedger.find? e.operationId = none → 0 ≤ e.reservedExposure →
      Q () { s with working := { s.working with
        commitEscrowLedger := s.working.commitEscrowLedger.put e } }) :
    Tx.wp (insertEscrow e) Q E s := by
  simp only [insertEscrow, Tx.wp_bind, Tx.wp_read]
  split_ifs with hneg
  · exact hE _ _ (Proceeds.refl s)
  · split
    · exact hE _ _ (Proceeds.refl s)
    · next t hins =>
      obtain ⟨hnew, rfl⟩ := Table.insert?_eq_some.mp hins
      exact h hnew (not_lt.mp hneg)

/-- A crystallize that finds no crystal opens one or raises. -/
theorem wp_crystallizeNew {uuid : String} {request : CrystallizeRequest}
    {policyId : Option String} {Q : CrystallizeResult → FinanceSession → Prop}
    (hids : IdsDrawn s) (hE : Aborts E s)
    (h : ∀ c s' prev horizon, c = sealCrystal d clock uuid request policyId prev horizon →
      Finished s' → Opens s.working c (openEscrow request c.crystalId) s'.working →
      Q ⟨c.crystalId, request.operationId, .crystallized, c.horizonExpiresAt⟩ s') :
    Tx.wp (crystallizeNew d clock uuid request policyId) Q E s := by
  simp only [crystallizeNew, Tx.wp_bind]
  refine wp_policyHorizon hE fun horizon => ?_
  simp only [Tx.wp_read]
  generalize hc : sealCrystal d clock uuid request policyId _ horizon = c
  have hopen : c.terminalState = none ∧ c.operationId = request.operationId := by
    rw [← hc]
    exact ⟨rfl, rfl⟩
  refine wp_reserveExposure hE fun accounts haccounts => ?_
  refine wp_insertCrystal (fun exn s' hp => hE exn s' ⟨hp.committed, hp.sequence⟩)
    fun hcrystal => ?_
  refine wp_insertEscrow (fun exn s' hp => hE exn s' ⟨hp.committed, hp.sequence⟩)
    fun hescrow hreserved => ?_
  refine wp_post_only (c := c) (e := openEscrow request c.crystalId)
    (p := openPosting (openEscrow request c.crystalId)) hids rfl fun s' h' => ?_
  have hopens : Opens s.working c (openEscrow request c.crystalId) s'.working := by
    refine ⟨hcrystal, hescrow, hopen.1, rfl, rfl, hopen.2.symm, hreserved, ?_, ?_, ?_, h'.events,
      ?_⟩
    · rw [h'.frame]
    · rw [h'.frame]
    · have hsum := (haccounts hreserved).trans h'.accounts
      rwa [add_zero] at hsum
    · rw [h'.frame]
      exact ⟨rfl, rfl, rfl⟩
  simp only [Tx.wp_commit, Tx.wp_pure]
  exact h c _ _ horizon hc.symm ⟨rfl, h'.drawn⟩ hopens

end Opening

/-! ## What a transaction closes -/

/-- The crystal that a commit closes. -/
def commitClosings (d : Deployment) (db : Database) (clock : Clock) (request : CommitRequest) :
    List Resolution :=
  match crystalJoin db request.crystalId with
  | none => []
  | some (c, e) =>
    if c.terminalState.isNone && (commitRefusal d clock db c request).isNone &&
        0 ≤ quantizeMoney request.committedExposure then
      [⟨c, e, .committed (quantizeMoney request.committedExposure)⟩]
    else []

/-- The crystal that an adjudication closes. -/
def adjudicateClosings (db : Database) (request : AdjudicateRequest) : List Resolution :=
  match crystalJoin db request.crystalId with
  | none => []
  | some (c, e) =>
    if request.action = "strand" && c.terminalState.isNone then
      [⟨c, e, .adjudicated request.reason⟩]
    else []

/-- The crystals that a transaction closes, and how. -/
def closings (d : Deployment) (db : Database) : Action → List Resolution
  | .crystallize .. => []
  | .commit _ clock request => commitClosings d db clock request
  | .adjudicate _ request => adjudicateClosings db request
  | .sweep clock plan batchSize => (horizonBatch db clock plan batchSize).map sweepResolution

/-! ## What a transaction commits -/

/-- What a commit does to the tables and answers. -/
inductive CommitCommitted (d : Deployment) (clock : Clock) (request : CommitRequest)
    (db : Database) : Except Exn Response → Database → Prop
  /-- It raised, and no closed crystal was there. -/
  | refused {exn : Exn} (hclosings : commitClosings d db clock request = [])
      (hopen : ∀ c e, crystalJoin db request.crystalId = some (c, e) → c.terminalState = none) :
      CommitCommitted d clock request db (.error exn) db
  /-- It found the crystal closed. -/
  | replayed {c : CrystalRow} {e : EscrowRow} (hjoin : crystalJoin db request.crystalId = some (c, e))
      (hterminal : c.terminalState ≠ none) :
      CommitCommitted d clock request db
        (.ok (.closed ⟨c.operationId, request.crystalId, .replay⟩)) db
  /-- It closed the crystal. -/
  | committed {c : CrystalRow} {e : EscrowRow} {db' : Database}
      (hjoin : crystalJoin db request.crystalId = some (c, e))
      (haccepted : commitRefusal d clock db c request = none)
      (hcloses : Closes db ⟨c, e, .committed (quantizeMoney request.committedExposure)⟩ db') :
      CommitCommitted d clock request db
        (.ok (.closed ⟨c.operationId, request.crystalId, .committed⟩)) db'

/-- What an adjudication does to the tables and answers. -/
inductive AdjudicateCommitted (request : AdjudicateRequest) (db : Database) :
    Except Exn Response → Database → Prop
  /-- It raised. -/
  | refused {exn : Exn} (hclosings : adjudicateClosings db request = []) :
      AdjudicateCommitted request db (.error exn) db
  /-- It found the crystal closed. -/
  | replayed {c : CrystalRow} {e : EscrowRow} (hjoin : crystalJoin db request.crystalId = some (c, e))
      (hterminal : c.terminalState ≠ none) :
      AdjudicateCommitted request db
        (.ok (.closed ⟨c.operationId, request.crystalId, .replay⟩)) db
  /-- It closed the crystal. -/
  | stranded {c : CrystalRow} {e : EscrowRow} {db' : Database}
      (hstrand : request.action = "strand")
      (hjoin : crystalJoin db request.crystalId = some (c, e))
      (hcloses : Closes db ⟨c, e, .adjudicated request.reason⟩ db') :
      AdjudicateCommitted request db
        (.ok (.closed ⟨c.operationId, request.crystalId, .stranded⟩)) db'

/-- What a crystallize does to the tables and answers. -/
inductive CrystallizeCommitted (d : Deployment) (raced : Bool) (clock : Clock) (uuid : String)
    (request : CrystallizeRequest) (db : Database) : Except Exn Response → Database → Prop
  /-- It raised. -/
  | refused {exn : Exn} : CrystallizeCommitted d raced clock uuid request db (.error exn) db
  /-- It found the crystal of the operation. -/
  | replayed {existing : CrystalRow} (hraced : raced = false)
      (hfind : findCrystal db request.platform request.operationId = some existing)
      (hfp : canonicalFingerprint d request.platform request.operationId request.facets =
        existing.requestFingerprint) :
      CrystallizeCommitted d raced clock uuid request db (.ok (.crystallized
        ⟨existing.crystalId, request.operationId, .replay, existing.horizonExpiresAt⟩)) db
  /-- It opened a crystal. -/
  | opened {c : CrystalRow} {record : PlatformRecord} {prev : Option Ledger.Hash}
      {horizon : Option Int} {db' : Database}
      (hseal : c = sealCrystal d clock uuid request (effectivePolicyId record request.policyId)
        prev horizon)
      (hopens : Opens db c (openEscrow request c.crystalId) db') :
      CrystallizeCommitted d raced clock uuid request db (.ok (.crystallized
        ⟨c.crystalId, request.operationId, .crystallized, c.horizonExpiresAt⟩)) db'

/-- What a transaction does to the tables and answers. -/
inductive Committed (d : Deployment) (db : Database) :
    Action → Except Exn Response → Database → Prop
  | crystallize {raced : Bool} {clock : Clock} {uuid : String} {request : CrystallizeRequest}
      {r : Except Exn Response} {db' : Database}
      (h : CrystallizeCommitted d raced clock uuid request db r db') :
      Committed d db (.crystallize raced clock uuid request) r db'
  | commit {settings : Settings} {clock : Clock} {request : CommitRequest}
      {r : Except Exn Response} {db' : Database} (h : CommitCommitted d clock request db r db') :
      Committed d db (.commit settings clock request) r db'
  | adjudicate {clock : Clock} {request : AdjudicateRequest} {r : Except Exn Response}
      {db' : Database} (h : AdjudicateCommitted request db r db') :
      Committed d db (.adjudicate clock request) r db'
  | sweep {clock : Clock} {plan : SweepPlan} {batchSize : Nat} {db' : Database}
      (h : ClosesAll db ((horizonBatch db clock plan batchSize).map sweepResolution) db') :
      Committed d db (.sweep clock plan batchSize)
        (.ok (.swept (horizonBatch db clock plan batchSize).length)) db'

/-- The invariant of the spine between transactions. -/
structure Sound (w : FinanceWorld) : Prop where
  agrees : Agrees w.tables
  drawn : ∀ r ∈ w.tables.decisionEvents.rows, r.eventId ≤ w.outside.lastEventId

theorem NoCrystals.sound {w : FinanceWorld} (h : NoCrystals w) : Sound w where
  agrees := by
    refine ⟨?_, ?_, ?_, ?_⟩
    · simp [h.governanceCrystals]
    · simp [h.commitEscrowLedger]
    · simp [h.commitEscrowLedger]
    · simp [h.decisionEvents]
  drawn := by simp [h.decisionEvents]

section Transactions

variable {d : Deployment}

/-- Every transaction commits moves of the machine, or nothing. -/
theorem body_committed {w : FinanceWorld} (hw : Sound w) (a : Action) :
    Committed d w.tables a (respond d w a) (step d w a).tables ∧
      ∀ r ∈ (step d w a).tables.decisionEvents.rows,
        r.eventId ≤ (step d w a).outside.lastEventId := by
  apply Tx.run_of_wp (R := fun r (w' : FinanceWorld) => Committed d w.tables a r w'.tables ∧
    ∀ r ∈ w'.tables.decisionEvents.rows, r.eventId ≤ w'.outside.lastEventId)
  have habort : ∀ {a}, (∀ exn, Committed d w.tables a (.error exn) w.tables) →
      Aborts (fun exn s => Committed d w.tables a (.error exn) s.committed ∧
        ∀ r ∈ s.committed.decisionEvents.rows, r.eventId ≤ s.outside.lastEventId)
        ⟨w.tables, w.tables, w.outside⟩ := by
    intro a ha exn s' hp
    rw [hp.committed]
    exact ⟨ha exn, fun r hr => (hw.drawn r hr).trans hp.sequence⟩
  have hfinish : ∀ {s' : FinanceSession}, Finished s' →
      ∀ r ∈ s'.committed.decisionEvents.rows, r.eventId ≤ s'.outside.lastEventId := by
    intro s' hs'
    rw [hs'.committed]
    exact hs'.drawn
  cases a with
  | crystallize raced clock uuid request =>
    have hE := habort (a := .crystallize raced clock uuid request) fun _ => .crystallize .refused
    simp only [Action.body, crystallizeOperation, Tx.wp_bind]
    refine wp_assertPlatformAllowed hE fun record => ?_
    refine wp_validatePlatformFacets hE ?_
    simp only [Tx.wp_read]
    split
    · next existing hfind =>
      have hraced : raced = false ∧
          findCrystal w.tables request.platform request.operationId = some existing := by
        cases raced with
        | false => exact ⟨rfl, hfind⟩
        | true => cases hfind
      rw [Tx.wp_ite]
      split_ifs with hfp
      · exact hE _ _ (Proceeds.refl _)
      · exact ⟨.crystallize (.replayed hraced.1 hraced.2 (not_not.mp hfp)), hw.drawn⟩
    · refine wp_crystallizeNew hw.drawn hE ?_
      intro c s' prev horizon hseal hs' hopens
      rw [← hs'.committed] at hopens
      exact ⟨.crystallize (.opened hseal hopens), hfinish hs'⟩
  | commit settings clock request =>
    have hE : commitClosings d w.tables clock request = [] →
        (∀ c e, crystalJoin w.tables request.crystalId = some (c, e) → c.terminalState = none) → _ :=
      fun hclosings hopen =>
        habort (a := .commit settings clock request) fun _ => .commit (.refused hclosings hopen)
    simp only [Action.body, commitOperation, Tx.wp_bind, Tx.wp_read]
    split
    · next hnone =>
      exact hE (by rw [commitClosings, hnone]) (by simp [hnone]) _ _ (Proceeds.refl _)
    · next c e hjoin =>
      rw [Tx.wp_ite]
      split_ifs with hterminal
      · exact ⟨.commit (.replayed hjoin (Option.isSome_iff_ne_none.mp hterminal)), hw.drawn⟩
      · split
        · next hrefusal =>
          refine hE ?_ (by simpa [hjoin] using hterminal) _ _ (Proceeds.refl _)
          simp [commitClosings, hjoin, hrefusal]
        · next haccepted =>
          have hopen := hw.agrees.isOpen hjoin (by simpa using hterminal)
          have hid := (hw.agrees.join hjoin).2.1
          refine wp_commitOpen hw.agrees hw.drawn hopen hid.symm
            (fun hneg => hE ?_ (by simpa [hjoin] using hterminal)) ?_
          · simp [commitClosings, hjoin, hneg]
          · intro _ s' hs' hcloses
            rw [← hs'.committed] at hcloses
            rw [hid]
            exact ⟨.commit (.committed hjoin haccepted hcloses), hfinish hs'⟩
  | adjudicate clock request =>
    have hE : adjudicateClosings w.tables request = [] → _ := fun hclosings =>
      habort (a := .adjudicate clock request) fun _ => .adjudicate (.refused hclosings)
    simp only [Action.body, adjudicateOperation, Tx.wp_bind, Tx.wp_ite]
    split_ifs with hstrand
    · refine hE ?_ _ _ (Proceeds.refl _)
      unfold adjudicateClosings
      split <;> simp [hstrand]
    · simp only [Tx.wp_read]
      split
      · next hnone => exact hE (by rw [adjudicateClosings, hnone]) _ _ (Proceeds.refl _)
      · next c e hjoin =>
        rw [Tx.wp_ite]
        split_ifs with hterminal
        · exact ⟨.adjudicate (.replayed hjoin (Option.isSome_iff_ne_none.mp hterminal)), hw.drawn⟩
        · have hopen := hw.agrees.isOpen hjoin (by simpa using hterminal)
          have hid := (hw.agrees.join hjoin).2.1
          refine wp_strandOpen hw.agrees hw.drawn hopen hid.symm ?_
          intro s' hs' hcloses
          rw [← hs'.committed] at hcloses
          rw [hid]
          exact ⟨.adjudicate (.stranded (not_not.mp hstrand) hjoin hcloses), hfinish hs'⟩
  | sweep clock plan batchSize =>
    simp only [Action.body, sweepExpiredHorizons, Tx.wp_bind, Tx.wp_read]
    refine wp_sweepCrystals hw.agrees hw.drawn
      (fun p hp => hw.agrees.isOpen_of_mem_horizonBatch hp) (horizonBatch_nodup _ _ _ _) ?_
    intro s' hs' hall
    exact ⟨.sweep hall, hs'⟩

/-- The moves of a transaction: one opening, or the closings. -/
inductive Moved (d : Deployment) (db : Database) (a : Action) (db' : Database) : Prop
  | opened {c : CrystalRow} {e : EscrowRow} (hclosings : closings d db a = [])
      (h : Opens db c e db')
  | closed (h : ClosesAll db (closings d db a) db')

theorem commitClosings_of_terminal {db : Database} {clock : Clock} {request : CommitRequest}
    {c : CrystalRow} {e : EscrowRow} (hjoin : crystalJoin db request.crystalId = some (c, e))
    (hterminal : c.terminalState ≠ none) : commitClosings d db clock request = [] := by
  simp [commitClosings, hjoin, hterminal]

theorem adjudicateClosings_of_terminal {db : Database} {request : AdjudicateRequest}
    {c : CrystalRow} {e : EscrowRow} (hjoin : crystalJoin db request.crystalId = some (c, e))
    (hterminal : c.terminalState ≠ none) : adjudicateClosings db request = [] := by
  simp [adjudicateClosings, hjoin, hterminal]

theorem CommitCommitted.closesAll {db db' : Database} {clock : Clock} {request : CommitRequest}
    {r : Except Exn Response} (h : CommitCommitted d clock request db r db') :
    ClosesAll db (commitClosings d db clock request) db' := by
  cases h with
  | refused hclosings =>
    rw [hclosings]
    rfl
  | replayed hjoin hterminal =>
    rw [commitClosings_of_terminal hjoin hterminal]
    rfl
  | committed hjoin haccepted hcloses =>
    have hnonneg := hcloses.committed _ rfl
    have hopen := hcloses.terminalState
    simp only at hopen
    simp only [commitClosings, hjoin, haccepted, hopen, hnonneg, Option.isNone_none,
      Bool.and_self, decide_true, ite_true]
    exact ClosesAll.single hcloses

theorem AdjudicateCommitted.closesAll {db db' : Database} {request : AdjudicateRequest}
    {r : Except Exn Response} (h : AdjudicateCommitted request db r db') :
    ClosesAll db (adjudicateClosings db request) db' := by
  cases h with
  | refused hclosings =>
    rw [hclosings]
    rfl
  | replayed hjoin hterminal =>
    rw [adjudicateClosings_of_terminal hjoin hterminal]
    rfl
  | stranded hstrand hjoin hcloses =>
    have hopen := hcloses.terminalState
    simp only at hopen
    simp only [adjudicateClosings, hjoin, hstrand, hopen, Option.isNone_none,
      Bool.and_self, decide_true, ite_true]
    exact ClosesAll.single hcloses

theorem Committed.moved {db db' : Database} {a : Action} {r : Except Exn Response}
    (h : Committed d db a r db') : Moved d db a db' := by
  cases h with
  | crystallize h =>
    cases h with
    | refused => exact .closed rfl
    | replayed => exact .closed rfl
    | opened _ hopens => exact .opened rfl hopens
  | commit h => exact .closed h.closesAll
  | adjudicate h => exact .closed h.closesAll
  | sweep h => exact .closed h

theorem step_moved {w : FinanceWorld} (hw : Sound w) (a : Action) :
    Moved d w.tables a (step d w a).tables :=
  (body_committed hw a).1.moved

/-- An invariant of the moves is kept by every transaction. -/
theorem step_invariant {I : Database → Prop}
    (hopens : ∀ {db c e db'}, Agrees db → Opens db c e db' → I db → I db')
    (hcloses : ∀ {db x db'}, Agrees db → Closes db x db' → I db → I db')
    {w : FinanceWorld} (hw : Sound w) (hI : I w.tables) (a : Action) :
    I (step d w a).tables := by
  cases step_moved (d := d) hw a with
  | opened _ h => exact hopens hw.agrees h hI
  | closed h =>
    refine (h.keeps (I := fun db => Agrees db ∧ I db) ?_ ⟨hw.agrees, hI⟩).2
    intro db x db' hx hdb
    exact ⟨hx.agrees hdb.1, hcloses hdb.1 hx hdb.2⟩

theorem step_sound {w : FinanceWorld} (hw : Sound w) (a : Action) : Sound (step d w a) :=
  ⟨step_invariant (fun hdb h _ => h.agrees hdb) (fun hdb h _ => h.agrees hdb) hw hw.agrees a,
    (body_committed hw a).2⟩

theorem run_sound {w : FinanceWorld} (hw : Sound w) (actions : List Action) :
    Sound (run d w actions) :=
  foldl_invariant hw (fun _ a h => step_sound h a) actions

/-- An invariant of the moves holds after every run. -/
theorem run_invariant {I : Database → Prop}
    (hopens : ∀ {db c e db'}, Agrees db → Opens db c e db' → I db → I db')
    (hcloses : ∀ {db x db'}, Agrees db → Closes db x db' → I db → I db')
    {w : FinanceWorld} (hw : Sound w) (hI : I w.tables) (actions : List Action) :
    I (run d w actions).tables := by
  have hkeeps : ∀ w a, Sound w ∧ I w.tables → Sound (step d w a) ∧ I (step d w a).tables :=
    fun w a h => ⟨step_sound h.1 a, step_invariant hopens hcloses h.1 h.2 a⟩
  exact (foldl_invariant (I := fun w => Sound w ∧ I w.tables) ⟨hw, hI⟩ hkeeps actions).2

end Transactions

end Governor.Finance
