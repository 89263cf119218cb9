import Mathlib
import Governor.Sector.Spine

/-!
# The sector spines commit the finance spine's moves

Each transaction of a sector spine is shown to commit moves of the crystal machine of the
finance spine: a crystallize at most one opening, a commit at most one closing, a sweep one
closing for each crystal of its batch. What the machine keeps is kept by every run.
-/

namespace Governor.Sector

open Finance
open Ledger (Money Clock SweepPlan)

/-! ## Statements -/

section Statements

variable {d : Deployment} {clock : Clock} {c : CrystalRow} {e : EscrowRow} {s : FinanceSession}
  {E : Exn → FinanceSession → Prop}

/-- The entry of a draft. -/
def EventDraft.entry (e : EventDraft) : Entry :=
  ⟨e.operationId, e.crystalId, e.accountId, e.eventType, e.amount,
    (e.metadata.lookup "source").isSome⟩

@[simp] theorem EventDraft.sealed_entry (e : EventDraft) (rows : List DecisionEvent)
    (eventId : Int) : (e.sealed d rows eventId).entry = e.entry := rfl

/-- A stored amount is quantized already. -/
@[simp] theorem crystalEvent_amount (eventType : DecisionType) (amount : Money)
    (metadata : List (String × Json)) :
    (crystalEvent clock c e eventType amount metadata).amount = amount := by
  simp [EventDraft.amount, crystalEvent, quantizeMoney]

/-- One appended event is one posting. -/
theorem wp_post {draft : EventDraft} {p : Posting} {Q : Unit → FinanceSession → Prop}
    (hids : IdsDrawn s) (hentry : draft.entry = p.entry c e)
    (h : ∀ s', Posts s s' c e [p] → Q () s') : Tx.wp (appendEvent d draft) Q E s := by
  refine wp_appendEvent hids fun s' ha => h s' ?_
  refine ⟨⟨ha.committed, ?_⟩, ha.idsDrawn hids, ?_, ⟨_, ha.rows, ?_⟩, ?_⟩
  · rw [ha.outside]
    change s.outside.lastEventId ≤ s.outside.lastEventId + 1
    omega
  · rw [Credited, ha.frame]
    exact Table.Adds.refl _ _
  · rw [List.map_singleton, List.map_singleton, EventDraft.sealed_entry, hentry]
  · rw [ha.frame]

theorem wp_assertPlatformAllowed {enforce : Bool} {platform : String} {facets : Facets}
    {Q : Unit → FinanceSession → Prop} (hE : Aborts E s) (h : Q () s) :
    Tx.wp (assertPlatformAllowed enforce platform facets) Q E s := by
  simp only [assertPlatformAllowed, Tx.wp_ite, Tx.wp_pure, Tx.wp_bind, Tx.wp_read]
  split_ifs
  · split
    · exact hE _ _ (Proceeds.refl s)
    · simp only [Tx.wp_ite, Tx.wp_pure]
      split_ifs
      · exact h
      · exact hE _ _ (Proceeds.refl s)
  · exact h

theorem wp_policyHorizon {policyId : Option String} {reserved : Ledger.Decimal}
    {Q : Option Int → FinanceSession → Prop} (hE : Aborts E s) (h : ∀ horizon, Q horizon s) :
    Tx.wp (policyHorizon policyId reserved) Q E s := by
  simp only [policyHorizon, Tx.wp_ite, Tx.wp_pure, Tx.wp_bind, Tx.wp_read]
  split_ifs
  · split
    · exact hE _ _ (Proceeds.refl s)
    · simp only [Tx.wp_ite, Tx.wp_pure]
      split_ifs
      · exact hE _ _ (Proceeds.refl s)
      · exact h _
  · exact h _

theorem wp_reserveBalance {accountId : String} {reserved : Money}
    {Q : Unit → FinanceSession → Prop} (hE : Aborts E s)
    (h : ∀ accounts, (0 ≤ reserved → Table.Adds Account.balance s.working.accountLedgers accounts
      accountId (-reserved)) →
      Q () { s with working := { s.working with accountLedgers := accounts } }) :
    Tx.wp (reserveBalance accountId reserved) Q E s := by
  simp only [reserveBalance, Tx.wp_ite, Tx.wp_pure, Tx.wp_bind, Tx.wp_read]
  split_ifs with hpos
  · split
    · exact hE _ _ (Proceeds.refl s)
    · simp only [Tx.wp_ite, Tx.wp_write]
      split_ifs
      · exact hE _ _ (Proceeds.refl s)
      · exact h _ fun _ => Table.Adds.update _ _ _ fun a => Int.sub_eq_add_neg
  · refine h _ fun hnonneg => ?_
    have hzero : reserved = 0 := le_antisymm (not_lt.mp hpos) hnonneg
    rw [hzero, neg_zero]
    exact Table.Adds.refl _ _

end Statements

/-! ## Moves -/

section Moves

variable {d : Deployment} {clock : Clock} {c : CrystalRow} {e : EscrowRow} {s : FinanceSession}
  {E : Exn → FinanceSession → Prop}

/-- A crystallize that finds no crystal opens one or raises. -/
theorem wp_crystallizeNew {uuid : String} {request : CrystallizeRequest}
    {Q : CrystallizeResult → FinanceSession → Prop} (hids : IdsDrawn s) (hE : Aborts E s)
    (h : ∀ c s' prev horizon, c = sealCrystal d clock uuid request request.policyId prev horizon →
      Finished s' → Opens s.working c (openEscrow request c.crystalId) s'.working →
      Q ⟨c.crystalId, request.operationId, .crystallized, c.horizonExpiresAt⟩ s') :
    Tx.wp (crystallizeNew d clock uuid request) Q E s := by
  simp only [crystallizeNew, Tx.wp_bind]
  refine wp_policyHorizon hE fun horizon => ?_
  simp only [Tx.wp_read]
  generalize hc : sealCrystal d clock uuid request request.policyId _ horizon = c
  have hopen : c.terminalState = none ∧ c.operationId = request.operationId := by
    rw [← hc]
    exact ⟨rfl, rfl⟩
  refine wp_reserveBalance hE fun accounts haccounts => ?_
  refine wp_insertCrystal (fun exn s' hp => hE exn s' ⟨hp.committed, hp.sequence⟩)
    fun hcrystal => ?_
  refine wp_insertEscrow (fun exn s' hp => hE exn s' ⟨hp.committed, hp.sequence⟩)
    fun hescrow hreserved => ?_
  refine wp_post (c := c) (e := openEscrow request c.crystalId)
    (p := openPosting (openEscrow request c.crystalId)) hids ?_ fun s' h' => ?_
  · rw [EventDraft.entry, crystalEvent_amount]
    rfl
  have hopens : Opens s.working c (openEscrow request c.crystalId) s'.working := by
    refine ⟨hcrystal, hescrow, hopen.1, rfl, rfl, hopen.2.symm, hreserved, ?_, ?_, ?_, h'.events,
      ?_⟩
    · rw [h'.frame]
    · rw [h'.frame]
    · have hsum := (haccounts hreserved).trans h'.accounts
      rwa [add_zero] at hsum
    · rw [h'.frame]
      exact ⟨rfl, rfl, rfl⟩
  simp only [Tx.wp_commit, Tx.wp_pure]
  exact h c _ _ horizon hc.symm ⟨rfl, h'.drawn⟩ hopens

/-- A commit of an open crystal closes it, unless the amount is negative. -/
theorem wp_commitOpen {request : CommitRequest} {Q : CommitResult → FinanceSession → Prop}
    (hdb : Agrees s.working) (hids : IdsDrawn s) (hopen : IsOpen s.working c e)
    (hid : request.crystalId = c.crystalId)
    (hE : quantizeMoney request.committedExposure < 0 → Aborts E s)
    (h : 0 ≤ quantizeMoney request.committedExposure → ∀ s', Finished s' →
      Closes s.working ⟨c, e, .committed (quantizeMoney request.committedExposure)⟩ s'.working →
      Q ⟨c.operationId, c.crystalId, .committed⟩ s') :
    Tx.wp (commitOpen d clock c e request) Q E s := by
  simp only [commitOpen, Tx.wp_bind]
  refine wp_refundAccount fun accounts haccounts => ?_
  simp only [commitEscrow, Tx.wp_ite, Tx.wp_raise, Tx.wp_write, closeCrystal, hid]
  split_ifs with hneg
  · exact hE hneg _ _ ⟨rfl, le_refl _⟩
  · rw [hopen.updateWhere_escrow hdb _ _, Table.update_eq_put hopen.crystal]
    refine wp_post (c := c) (e := e)
      (p := Resolution.posting ⟨c, e, .committed (quantizeMoney request.committedExposure)⟩)
      hids ?_ fun s' h' => ?_
    · rw [EventDraft.entry, crystalEvent_amount]
      rfl
    · have hcloses : Closes s.working
          ⟨c, e, .committed (quantizeMoney request.committedExposure)⟩ s'.working := by
        refine Posts.closes [] hopen ?_ haccounts (by simp) h'
        rintro amount ⟨⟩
        exact not_lt.mp hneg
      simp only [Tx.wp_commit, Tx.wp_pure]
      exact h (not_lt.mp hneg) _ ⟨rfl, h'.drawn⟩ hcloses

theorem wp_sweepCrystal {p : CrystalRow × EscrowRow} {Q : Unit → FinanceSession → Prop}
    (hdb : Agrees s.working) (hids : IdsDrawn s) (hopen : IsOpen s.working p.1 p.2)
    (h : ∀ s', IdsDrawn s' → Closes s.working (sweepResolution p) s'.working → Q () s') :
    Tx.wp (sweepCrystal d clock p) Q E s := by
  unfold sweepCrystal
  simp only [Tx.wp_ite, Tx.wp_bind, creditAccount, closeCrystal, finishEscrow, Tx.wp_write]
  rw [hopen.updateWhere_escrow hdb _ _, hopen.updateWhere_escrow hdb _ _,
    Table.update_eq_put hopen.crystal, Table.update_eq_put hopen.crystal]
  split_ifs with hstrand
  · have hx : sweepResolution p = ⟨p.1, p.2, .stranded⟩ := by rw [sweepResolution, if_pos hstrand]
    rw [hx] at h
    refine wp_post (c := p.1) (e := p.2) (p := Resolution.posting ⟨p.1, p.2, .stranded⟩) hids ?_
      fun s' h' => ?_
    · rw [EventDraft.entry, crystalEvent_amount]
      rfl
    · refine h s' h'.drawn (Posts.closes [] hopen ?_ (Table.Adds.refl _ _) (by simp) h')
      rintro amount ⟨⟩
  · have hx : sweepResolution p = ⟨p.1, p.2, .expired⟩ := by rw [sweepResolution, if_neg hstrand]
    rw [hx] at h
    refine wp_post (c := p.1) (e := p.2) (p := Resolution.posting ⟨p.1, p.2, .expired⟩) hids ?_
      fun s' h' => ?_
    · rw [EventDraft.entry, crystalEvent_amount]
      rfl
    · refine h s' h'.drawn
        (Posts.closes [] hopen ?_ (Table.Adds.update _ _ _ fun _ => rfl) (by simp) h')
      rintro amount ⟨⟩

/-- The loop of the sweep closes each crystal of the batch. -/
theorem wp_sweepCrystals {batch : List (CrystalRow × EscrowRow)}
    {Q : Unit → FinanceSession → Prop} (hdb : Agrees s.working) (hids : IdsDrawn s)
    (hopen : ∀ p ∈ batch, IsOpen s.working p.1 p.2)
    (hnodup : (batch.map fun p => p.1.crystalId).Nodup)
    (h : ∀ s', IdsDrawn s' → ClosesAll s.working (batch.map sweepResolution) s'.working →
      Q () s') :
    Tx.wp (batch.forM (sweepCrystal d clock)) Q E s := by
  induction batch generalizing s with
  | nil => exact h s hids rfl
  | cons p batch ih =>
    rw [List.map_cons, List.nodup_cons] at hnodup
    change Tx.wp (sweepCrystal d clock p >>= fun _ => batch.forM (sweepCrystal d clock)) Q E s
    rw [Tx.wp_bind]
    refine wp_sweepCrystal hdb hids (hopen p List.mem_cons_self) fun mid hmid hclose => ?_
    refine ih (hclose.agrees hdb) hmid ?_ hnodup.2 fun s' hs' hrest => ?_
    · intro q hq
      refine hclose.isOpen_of_ne (hopen q (List.mem_cons_of_mem _ hq)) ?_
      intro heq
      have hmem : q.1.crystalId ∈ batch.map fun p => p.1.crystalId :=
        List.mem_map_of_mem (f := fun p : CrystalRow × EscrowRow => p.1.crystalId) hq
      exact hnodup.1 (heq ▸ hmem)
    · exact h s' hs' ⟨mid.working, hclose, hrest⟩

end Moves

/-! ## What a transaction commits -/

/-- What a crystallize does to the tables and answers. -/
inductive CrystallizeCommitted (d : Deployment) (raced : Bool) (clock : Clock) (uuid : String)
    (request : CrystallizeRequest) (db : Database) : Except Exn Response → Database → Prop
  /-- It raised. -/
  | refused {exn : Exn} : CrystallizeCommitted d raced clock uuid request db (.error exn) db
  /-- It found the crystal of the operation. -/
  | replayed {existing : CrystalRow} (hraced : raced = false)
      (hfind : findCrystal db request.platform request.operationId = some existing) :
      CrystallizeCommitted d raced clock uuid request db (.ok (.crystallized
        ⟨existing.crystalId, request.operationId, .replay, existing.horizonExpiresAt⟩)) db
  /-- It opened a crystal. -/
  | opened {c : CrystalRow} {prev : Option Ledger.Hash} {horizon : Option Int} {db' : Database}
      (hnone : raced = false → findCrystal db request.platform request.operationId = none)
      (hseal : c = sealCrystal d clock uuid request request.policyId prev horizon)
      (hopens : Opens db c (openEscrow request c.crystalId) db') :
      CrystallizeCommitted d raced clock uuid request db (.ok (.crystallized
        ⟨c.crystalId, request.operationId, .crystallized, c.horizonExpiresAt⟩)) db'

/-- What a transaction does to the tables and answers; a commit as on the finance spine. -/
inductive Committed (d : Deployment) (db : Database) :
    Action → Except Exn Response → Database → Prop
  | crystallize {enforce raced : Bool} {clock : Clock} {uuid : String}
      {request : CrystallizeRequest} {r : Except Exn Response} {db' : Database}
      (h : CrystallizeCommitted d raced clock uuid request db r db') :
      Committed d db (.crystallize enforce raced clock uuid request) r db'
  | commit {clock : Clock} {request : CommitRequest} {r : Except Exn Response} {db' : Database}
      (h : CommitCommitted d clock request db r db') : Committed d db (.commit clock request) r db'
  | sweep {clock : Clock} {plan : SweepPlan} {batchSize : Nat} {db' : Database}
      (h : ClosesAll db ((horizonBatch db clock plan batchSize).map sweepResolution) db') :
      Committed d db (.sweep clock plan batchSize)
        (.ok (.swept (horizonBatch db clock plan batchSize).length)) db'

section Transactions

variable {d : Deployment}

/-- Every transaction commits moves of the machine, or nothing. -/
theorem body_committed {w : FinanceWorld} (hw : Sound w) (a : Action) :
    Committed d w.tables a (respond d w a) (step d w a).tables ∧
      ∀ r ∈ (step d w a).tables.decisionEvents.rows,
        r.eventId ≤ (step d w a).outside.lastEventId := by
  apply Tx.run_of_wp (R := fun (r : Except Exn Response) (w' : FinanceWorld) =>
    Committed d w.tables a r w'.tables ∧
      ∀ r ∈ w'.tables.decisionEvents.rows, r.eventId ≤ w'.outside.lastEventId)
  have habort : ∀ {a}, (∀ exn, Committed d w.tables a (.error exn) w.tables) →
      Aborts (fun exn s => Committed d w.tables a (.error exn) s.committed ∧
        ∀ r ∈ s.committed.decisionEvents.rows, r.eventId ≤ s.outside.lastEventId)
        ⟨w.tables, w.tables, w.outside⟩ := by
    intro a ha exn s' hp
    rw [hp.committed]
    exact ⟨ha exn, fun r hr => (hw.drawn r hr).trans hp.sequence⟩
  have hfinish : ∀ {s' : FinanceSession}, Finished s' →
      ∀ r ∈ s'.committed.decisionEvents.rows, r.eventId ≤ s'.outside.lastEventId := by
    intro s' hs'
    rw [hs'.committed]
    exact hs'.drawn
  cases a with
  | crystallize enforce raced clock uuid request =>
    have hE := habort (a := .crystallize enforce raced clock uuid request)
      fun _ => .crystallize .refused
    simp only [Action.body, crystallizeOperation, Tx.wp_bind]
    refine wp_assertPlatformAllowed hE ?_
    simp only [Tx.wp_read]
    split
    · next existing hfind =>
      have hraced : raced = false ∧
          findCrystal w.tables request.platform request.operationId = some existing := by
        cases raced with
        | false => exact ⟨rfl, hfind⟩
        | true => cases hfind
      exact ⟨.crystallize (.replayed hraced.1 hraced.2), hw.drawn⟩
    · next hnone =>
      have hfresh : raced = false →
          findCrystal w.tables request.platform request.operationId = none := by
        rintro rfl
        exact hnone
      refine wp_crystallizeNew hw.drawn hE ?_
      intro c s' prev horizon hseal hs' hopens
      rw [← hs'.committed] at hopens
      exact ⟨.crystallize (.opened hfresh hseal hopens), hfinish hs'⟩
  | commit clock request =>
    have hE : commitClosings d w.tables clock request = [] →
        (∀ c e, crystalJoin w.tables request.crystalId = some (c, e) → c.terminalState = none) → _ :=
      fun hclosings hopen =>
        habort (a := .commit clock request) fun _ => .commit (.refused hclosings hopen)
    simp only [Action.body, commitOperation, Tx.wp_bind, Tx.wp_read]
    split
    · next hnone =>
      exact hE (by rw [commitClosings, hnone]) (by simp [hnone]) _ _ (Proceeds.refl _)
    · next c e hjoin =>
      rw [Tx.wp_ite]
      split_ifs with hterminal
      · exact ⟨.commit (.replayed hjoin (Option.isSome_iff_ne_none.mp hterminal)), hw.drawn⟩
      · split
        · next hrefusal =>
          refine hE ?_ (by simpa [hjoin] using hterminal) _ _ (Proceeds.refl _)
          simp [commitClosings, hjoin, hrefusal]
        · next haccepted =>
          have hopen := hw.agrees.isOpen hjoin (by simpa using hterminal)
          have hid := (hw.agrees.join hjoin).2.1
          refine wp_commitOpen hw.agrees hw.drawn hopen hid.symm
            (fun hneg => hE ?_ (by simpa [hjoin] using hterminal)) ?_
          · simp [commitClosings, hjoin, hneg]
          · intro _ s' hs' hcloses
            rw [← hs'.committed] at hcloses
            rw [hid]
            exact ⟨.commit (.committed hjoin haccepted hcloses), hfinish hs'⟩
  | sweep clock plan batchSize =>
    simp only [Action.body, sweepExpiredHorizons, Tx.wp_bind, Tx.wp_read]
    refine wp_sweepCrystals hw.agrees hw.drawn
      (fun p hp => hw.agrees.isOpen_of_mem_horizonBatch hp) (horizonBatch_nodup _ _ _ _) ?_
    intro s' hs' hall
    exact ⟨.sweep hall, hs'⟩

/-- The moves of a transaction: one opening, or closings. -/
inductive Moved (db db' : Database) : Prop
  | opened {c : CrystalRow} {e : EscrowRow} (h : Opens db c e db')
  | closed {xs : List Resolution} (h : ClosesAll db xs db')

theorem Committed.moved {db db' : Database} {a : Action} {r : Except Exn Response}
    (h : Committed d db a r db') : Moved db db' := by
  cases h with
  | crystallize h =>
    cases h with
    | refused => exact .closed (show ClosesAll db [] db from rfl)
    | replayed => exact .closed (show ClosesAll db [] db from rfl)
    | opened _ _ hopens => exact .opened hopens
  | commit h => exact .closed h.closesAll
  | sweep h => exact .closed h

/-- An invariant of the moves is kept by every transaction. -/
theorem step_invariant {I : Database → Prop}
    (hopens : ∀ {db c e db'}, Agrees db → Opens db c e db' → I db → I db')
    (hcloses : ∀ {db x db'}, Agrees db → Closes db x db' → I db → I db')
    {w : FinanceWorld} (hw : Sound w) (hI : I w.tables) (a : Action) :
    I (step d w a).tables := by
  cases (body_committed (d := d) hw a).1.moved with
  | opened h => exact hopens hw.agrees h hI
  | closed h =>
    refine (h.keeps (I := fun db => Agrees db ∧ I db) ?_ ⟨hw.agrees, hI⟩).2
    intro db x db' hx hdb
    exact ⟨hx.agrees hdb.1, hcloses hdb.1 hx hdb.2⟩

theorem step_sound {w : FinanceWorld} (hw : Sound w) (a : Action) : Sound (step d w a) :=
  ⟨step_invariant (fun hdb h _ => h.agrees hdb) (fun hdb h _ => h.agrees hdb) hw hw.agrees a,
    (body_committed hw a).2⟩

theorem run_sound {w : FinanceWorld} (hw : Sound w) (actions : List Action) :
    Sound (run d w actions) :=
  foldl_invariant hw (fun _ a h => step_sound h a) actions

/-- An invariant of the moves holds after every run. -/
theorem run_invariant {I : Database → Prop}
    (hopens : ∀ {db c e db'}, Agrees db → Opens db c e db' → I db → I db')
    (hcloses : ∀ {db x db'}, Agrees db → Closes db x db' → I db → I db')
    {w : FinanceWorld} (hw : Sound w) (hI : I w.tables) (actions : List Action) :
    I (run d w actions).tables := by
  have hkeeps : ∀ w a, Sound w ∧ I w.tables → Sound (step d w a) ∧ I (step d w a).tables :=
    fun w a h => ⟨step_sound h.1 a, step_invariant hopens hcloses h.1 h.2 a⟩
  exact (foldl_invariant (I := fun w => Sound w ∧ I w.tables) ⟨hw, hI⟩ hkeeps actions).2

end Transactions

end Governor.Sector
