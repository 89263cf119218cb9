import Mathlib
import Governor.Core.Retry
import Governor.Finance.Lifecycle
import Governor.Finance.Steady

/-!
# A request of the adapter takes effect at most once

`SpineAdapter` tries a request up to three times. An attempt can be served although its reply gets
lost, and others use the spine in between. A transaction that does not perform its operation leaves
the spine as it was, its sequence included, and once an operation has a crystal, or a crystal is
closed, no further attempt performs anything.
-/

namespace Governor.Finance

open Ledger (Clock Money)

/-! ## What a request asks for -/

/-- What a request is about. -/
inductive Target where
  | operation (platform operationId : String)
  | crystal (crystalId : String)

/-- The target of a request. -/
def Action.target : Action → Option Target
  | .crystallize _ _ _ request => some (.operation request.platform request.operationId)
  | .commit _ _ request => some (.crystal request.crystalId)
  | .adjudicate _ request => some (.crystal request.crystalId)
  | .sweep .. => none

/-- The operation has a crystal, or the crystal is closed. -/
def Target.Settled (db : Database) : Target → Prop
  | .operation platform operationId =>
    ∃ c ∈ db.governanceCrystals.rows, c.platform = platform ∧ c.operationId = operationId
  | .crystal crystalId => ∃ c e, IsClosed db c e ∧ c.crystalId = crystalId

/-! ## Transactions that perform nothing -/

/-- The transaction has performed its operation. -/
def Response.performed : Response → Bool
  | .crystallized result => result.status ≠ .replay
  | .closed result => result.status ≠ .replay
  | .swept _ => true

/-- Nothing of the transaction has left its session. -/
structure Pending (w : FinanceWorld) (s : FinanceSession) : Prop where
  committed : s.committed = w.tables
  outside : s.outside = w.outside
  drawn : IdsDrawn s

section Pending

variable {d : Deployment} {clock : Clock} {w : FinanceWorld} {s : FinanceSession}

theorem pending_writes (w : FinanceWorld) : Writes (Pending w) where
  write := by
    intro s db hevents hs
    refine ⟨hs.committed, hs.outside, ?_⟩
    unfold IdsDrawn
    rw [hevents]
    exact hs.drawn

/-- The last event of a transaction and its commit raise nothing. -/
theorem wp_append_commit {e : DecisionDraft} {α : Type} {a : α}
    {Q : α → FinanceSession → Prop} {E : Exn → FinanceSession → Prop} (hids : IdsDrawn s)
    (h : ∀ s', Q a s') :
    Tx.wp (do appendDecisionEvent d e; Tx.commit; pure a : FinanceTx α) Q E s := by
  rw [Tx.wp_bind]
  exact wp_appendDecisionEvent hids fun s' _ => h _

/-- Until it appends its event a crystallize has left no trace. -/
theorem wp_crystallizeNew_pending {uuid : String} {request : CrystallizeRequest}
    {policyId : Option String} (hs : Pending w s) :
    Tx.wp (crystallizeNew d clock uuid request policyId) (fun r _ => r.status = .crystallized)
      (fun _ => Pending w) s := by
  have hwrites := pending_writes w
  refine (keeps_policyHorizon _ _).wp_then hs (fun _ _ h => h) fun horizon s hs => ?_
  rw [Tx.wp_bind, Tx.wp_read]
  refine (hwrites.keeps_reserveExposure _ _).wp_then hs (fun _ _ h => h) fun _ s hs => ?_
  refine (hwrites.keeps_insertCrystal _).wp_then hs (fun _ _ h => h) fun _ s hs => ?_
  refine (hwrites.keeps_insertEscrow _).wp_then hs (fun _ _ h => h) fun _ s hs => ?_
  exact wp_append_commit hs.drawn fun _ => rfl

/-- Until it records the drift a commit has left no trace. -/
theorem wp_commitOpen_pending {settings : Settings} {c : CrystalRow} {e : EscrowRow}
    {request : CommitRequest} (hs : Pending w s) :
    Tx.wp (commitOpen d settings clock c e request) (fun r _ => r.status = .committed)
      (fun _ => Pending w) s := by
  have hwrites := pending_writes w
  refine (hwrites.keeps_refundAccount _ _).wp_then hs (fun _ _ h => h) fun _ s hs => ?_
  refine (hwrites.keeps_commitEscrow _ _).wp_then hs (fun _ _ h => h) fun _ s hs => ?_
  rw [closeCrystal, Tx.wp_bind, Tx.wp_write, Tx.wp_bind]
  refine wp_enforceDriftOnCommit hs.drawn fun s' ps drift hposts _ _ => ?_
  exact wp_append_commit hposts.drawn fun _ => rfl

theorem wp_strandOpen_pending {c : CrystalRow} {e : EscrowRow} {request : AdjudicateRequest}
    (hs : Pending w s) :
    Tx.wp (strandOpen d clock c e request) (fun r _ => r.status = .stranded)
      (fun _ => Pending w) s := by
  have hwrites := pending_writes w
  refine (hwrites.keeps_refundAccount _ _).wp_then hs (fun _ _ h => h) fun _ s hs => ?_
  rw [closeCrystal, Tx.wp_bind, Tx.wp_write, finishEscrow, Tx.wp_bind, Tx.wp_write]
  exact wp_append_commit hs.drawn fun _ => rfl

theorem wp_crystallizeOperation_pending {raced : Bool} {uuid : String}
    {request : CrystallizeRequest} (hs : Pending w s) :
    Tx.wp (crystallizeOperation d raced clock uuid request)
      (fun r s' => Pending w s' ∨ r.status ≠ .replay) (fun _ => Pending w) s := by
  refine (keeps_assertPlatformAllowed _).wp_then hs (fun _ _ h => h) fun record s hs => ?_
  refine (keeps_validatePlatformFacets _ _).wp_then hs (fun _ _ h => h) fun _ s hs => ?_
  rw [Tx.wp_bind, Tx.wp_read]
  split
  · rw [Tx.wp_ite]
    split_ifs
    · exact hs
    · exact Or.inl hs
  · exact Tx.wp_mono (wp_crystallizeNew_pending hs)
      (fun r _ h => Or.inr (by rw [h]; decide)) fun _ _ h => h

theorem wp_commitOperation_pending {settings : Settings} {request : CommitRequest}
    (hs : Pending w s) :
    Tx.wp (commitOperation d settings clock request)
      (fun r s' => Pending w s' ∨ r.status ≠ .replay) (fun _ => Pending w) s := by
  rw [commitOperation, Tx.wp_bind, Tx.wp_read]
  split
  · exact hs
  · rw [Tx.wp_ite]
    split_ifs
    · exact Or.inl hs
    · split
      · exact hs
      · exact Tx.wp_mono (wp_commitOpen_pending hs)
          (fun r _ h => Or.inr (by rw [h]; decide)) fun _ _ h => h

theorem wp_adjudicateOperation_pending {request : AdjudicateRequest} (hs : Pending w s) :
    Tx.wp (adjudicateOperation d clock request)
      (fun r s' => Pending w s' ∨ r.status ≠ .replay) (fun _ => Pending w) s := by
  rw [adjudicateOperation, Tx.wp_ite]
  split_ifs
  · exact hs
  · rw [Tx.wp_bind, Tx.wp_read]
    split
    · exact hs
    · rw [Tx.wp_ite]
      split_ifs
      · exact Or.inl hs
      · exact Tx.wp_mono (wp_strandOpen_pending hs)
          (fun r _ h => Or.inr (by rw [h]; decide)) fun _ _ h => h

/-- A transaction that performs nothing leaves the world as it was. -/
theorem step_performed (hw : Sound w) {a : Action} {target : Target}
    (ha : a.target = some target) :
    step d w a = w ∨ ∃ r, respond d w a = .ok r ∧ r.performed = true := by
  refine Tx.run_of_wp
    (R := fun r w' => w' = w ∨ ∃ r' : Response, r = .ok r' ∧ r'.performed = true) ?_
  have hstart : Pending w ⟨w.tables, w.tables, w.outside⟩ := ⟨rfl, rfl, hw.drawn⟩
  have hsame : ∀ {s : FinanceSession}, Pending w s →
      (⟨s.committed, s.outside⟩ : FinanceWorld) = w :=
    fun hs => by rw [hs.committed, hs.outside]
  cases a with
  | crystallize raced clock uuid request =>
    rw [Action.body, Tx.wp_bind]
    exact Tx.wp_mono (wp_crystallizeOperation_pending hstart)
      (fun r s' h => h.imp hsame fun hr => ⟨_, rfl, decide_eq_true hr⟩)
      fun _ _ h => Or.inl (hsame h)
  | commit settings clock request =>
    rw [Action.body, Tx.wp_bind]
    exact Tx.wp_mono (wp_commitOperation_pending hstart)
      (fun r s' h => h.imp hsame fun hr => ⟨_, rfl, decide_eq_true hr⟩)
      fun _ _ h => Or.inl (hsame h)
  | adjudicate clock request =>
    rw [Action.body, Tx.wp_bind]
    exact Tx.wp_mono (wp_adjudicateOperation_pending hstart)
      (fun r s' h => h.imp hsame fun hr => ⟨_, rfl, decide_eq_true hr⟩)
      fun _ _ h => Or.inl (hsame h)
  | sweep clock plan batchSize => cases ha

end Pending

/-! ## Settled targets -/

section Settled

variable {d : Deployment} {w : FinanceWorld} {target : Target} {db db' : Database}

theorem Target.Settled.opens {c : CrystalRow} {e : EscrowRow} (h : target.Settled db)
    (hopens : Opens db c e db') : target.Settled db' := by
  cases target with
  | operation platform operationId =>
    obtain ⟨x, hx, hsame⟩ := h
    refine ⟨x, ?_, hsame⟩
    rw [hopens.crystals, Table.rows_put_of_fresh hopens.newCrystal]
    exact List.mem_append_left _ hx
  | crystal crystalId =>
    obtain ⟨x, y, hclosed, hid⟩ := h
    exact ⟨x, y, hclosed.opens hopens, hid⟩

theorem Target.Settled.closes {x : Resolution} (h : target.Settled db)
    (hcloses : Closes db x db') : target.Settled db' := by
  cases target with
  | operation platform operationId =>
    obtain ⟨y, hy, hsame⟩ := h
    by_cases hid : y.crystalId = x.crystal.crystalId
    · -- the crystal of the operation is the one that is closed
      have hcrystal : y = x.crystal := by
        have hfind := Table.find?_of_mem hy
        rw [hid, hcloses.crystal] at hfind
        exact (Option.some.inj hfind).symm
      subst hcrystal
      refine ⟨x.crystal.close x.closing.state, ?_, hsame⟩
      rw [hcloses.crystals]
      exact Table.mem_of_find? (Table.find?_put_self _ _)
    · refine ⟨y, ?_, hsame⟩
      rw [hcloses.crystals, Table.mem_rows_iff, Table.find?_put, CrystalRow.close_crystalId,
        if_neg hid]
      exact Table.find?_of_mem hy
  | crystal crystalId =>
    obtain ⟨y, z, hclosed, hid⟩ := h
    exact ⟨y, z, hclosed.closes hcloses, hid⟩

/-- What is settled stays settled. -/
theorem Target.Settled.step (hw : Sound w) (h : target.Settled w.tables) (a : Action) :
    target.Settled (Finance.step d w a).tables :=
  step_invariant (I := fun db => target.Settled db) (fun _ ho hs => hs.opens ho)
    (fun _ hc hs => hs.closes hc) hw h a

/-- A crystal that is closed now settles itself, and was not settled before. -/
theorem settled_of_closes {crystalId : String} {x : Resolution} (hcloses : Closes db x db')
    (hid : x.crystal.crystalId = crystalId) :
    ¬ (Target.crystal crystalId).Settled db ∧ (Target.crystal crystalId).Settled db' := by
  refine ⟨?_, ⟨_, _, hcloses.isClosed, hid⟩⟩
  rintro ⟨c, e, hclosed, hc⟩
  have hfind := hclosed.crystal
  rw [hc, ← hid, hcloses.crystal] at hfind
  obtain rfl := Option.some.inj hfind
  exact hclosed.terminalState hcloses.terminalState

/-- A transaction that performs its operation settles its target, which was not settled before. -/
theorem settled_of_performed (hw : Sound w) {a : Action} (ha : a.target = some target)
    {r : Response} (hr : respond d w a = .ok r) (hperformed : r.performed = true) :
    ¬ target.Settled w.tables ∧ target.Settled (Finance.step d w a).tables := by
  have hc := (body_committed (d := d) hw a).1
  rw [hr] at hc
  generalize (Finance.step d w a).tables = db' at hc ⊢
  cases hc with
  | crystallize h =>
    cases ha
    cases h with
    | replayed => cases hperformed
    | @opened c _ _ _ _ hseal hopens =>
      refine ⟨?_, c, ?_, by rw [hseal]; rfl, by rw [hseal]; rfl⟩
      · rintro ⟨x, hx, -, hop⟩
        obtain ⟨e, he, -⟩ := hw.agrees.paired x hx
        have hnew := hopens.newEscrow
        rw [hop] at he
        exact absurd (hnew.symm.trans he) nofun
      · rw [hopens.crystals]
        exact Table.mem_of_find? (Table.find?_put_self _ _)
  | commit h =>
    cases ha
    cases h with
    | replayed => cases hperformed
    | committed hjoin _ hcloses => exact settled_of_closes hcloses (hw.agrees.join hjoin).2.1
  | adjudicate h =>
    cases ha
    cases h with
    | replayed => cases hperformed
    | stranded _ hjoin hcloses => exact settled_of_closes hcloses (hw.agrees.join hjoin).2.1
  | sweep h => cases ha

/-- A transaction that returns leaves its target settled. -/
theorem settled_of_ok (hw : Sound w) {a : Action} (ha : a.target = some target)
    {r : Response} (hr : respond d w a = .ok r) :
    target.Settled (Finance.step d w a).tables := by
  by_cases hperformed : r.performed = true
  · exact (settled_of_performed hw ha hr hperformed).2
  · have hc := (body_committed (d := d) hw a).1
    rw [hr] at hc
    generalize (Finance.step d w a).tables = db' at hc ⊢
    have hclosed : ∀ {crystalId : String} {c : CrystalRow} {e : EscrowRow},
        crystalJoin w.tables crystalId = some (c, e) → c.terminalState ≠ none →
          (Target.crystal crystalId).Settled w.tables := by
      intro crystalId c e hjoin hterminal
      obtain ⟨hfind, hid, he, hpair, -⟩ := hw.agrees.join hjoin
      exact ⟨c, e, ⟨hid.symm ▸ hfind, he, hterminal, hpair⟩, hid⟩
    cases hc with
    | crystallize h =>
      cases ha
      cases h with
      | replayed _ hfind =>
        have hsame := List.find?_some hfind
        simp only [Bool.and_eq_true, decide_eq_true_eq] at hsame
        exact ⟨_, List.mem_of_find?_eq_some hfind, hsame⟩
      | opened => exact absurd rfl hperformed
    | commit h =>
      cases ha
      cases h with
      | replayed hjoin hterminal => exact hclosed hjoin hterminal
      | committed => exact absurd rfl hperformed
    | adjudicate h =>
      cases ha
      cases h with
      | replayed hjoin hterminal => exact hclosed hjoin hterminal
      | stranded => exact absurd rfl hperformed
    | sweep h => cases ha

/-- A request for a settled target changes nothing. -/
theorem step_of_settled (hw : Sound w) {a : Action} (ha : a.target = some target)
    (h : target.Settled w.tables) : Finance.step d w a = w := by
  rcases step_performed (d := d) hw ha with hsame | ⟨r, hr, hperformed⟩
  · exact hsame
  · exact absurd h (settled_of_performed hw ha hr hperformed).1

/-- A request takes effect once. -/
theorem oneShot (d : Deployment) (target : Target) :
    OneShot (Finance.step d) Sound (fun w => target.Settled w.tables)
      fun a => a.target = some target where
  kept _ a hw := step_sound hw a
  stays _ a hw h := h.step hw a
  takes w a ha hw := by
    rcases step_performed (d := d) hw ha with hsame | ⟨r, hr, hperformed⟩
    · exact Or.inl hsame
    · exact Or.inr (settled_of_performed hw ha hr hperformed).2
  idle _ a ha hw h := step_of_settled hw ha h

end Settled

/-! ## Requests with retry -/

/-- What the spine serves of an attempt that it sees: nothing while writes are halted. -/
def Attempt.served (action : Attempt → Action) (t : Attempt) : Option Action :=
  if t.halted then none else some (action t)

/-- The world at the end is that of the actions of the others, from the attempts that were made,
with at most one of the attempts among them. -/
def AtMostOnce (d : Deployment) (action : Attempt → Action) (ts : List Attempt)
    (w w' : FinanceWorld) : Prop :=
  ∃ made before once after, made <+: ts ∧ before ++ after = made.flatMap Attempt.meanwhile ∧
    once.length ≤ 1 ∧ (∀ a ∈ once, ∃ t ∈ made, a = action t) ∧
    w' = run d w (before ++ once ++ after)

/-- A request takes effect at most once, and an answer means that its target is settled. -/
def Once {α : Type} (d : Deployment) (action : Attempt → Action) (target : Target)
    (ts : List Attempt) (w : FinanceWorld) (r : Except AdapterError α × FinanceWorld) : Prop :=
  AtMostOnce d action ts w r.2 ∧ ∀ x, r.1 = .ok x → target.Settled r.2.tables

section Retry

variable {d : Deployment} {status : Exn → Nat} {action : Attempt → Action} {w : FinanceWorld}

theorem route_world (t : Attempt) (w : FinanceWorld) :
    (route d status t.halted w (action t)).2 =
      (t.served action).toList.foldl (Finance.step d) w := by
  unfold route Attempt.served
  cases t.halted with
  | true => rfl
  | false => cases respond d w (action t) <;> rfl

theorem eq_of_mem_served {t : Attempt} {a : Action} (h : a ∈ t.served action) : a = action t := by
  unfold Attempt.served at h
  split_ifs at h
  · cases h
  · exact (Option.some.inj h).symm

variable (d status action) in
/-- The attempts that are made, and what the spine serves of them. -/
theorem requestWithRetry_segments (n : Nat) (ts : List Attempt) (w : FinanceWorld) :
    ∃ made segments, made <+: ts ∧ others segments = made.flatMap Attempt.meanwhile ∧
      (∀ segment ∈ segments, ∀ a ∈ segment.2, ∃ t ∈ made, a = action t) ∧
      (requestWithRetry d status action n ts w).2 =
        (interleaved segments).foldl (Finance.step d) w := by
  induction n generalizing ts w with
  | zero => exact ⟨[], [], List.nil_prefix, rfl, fun _ h => (List.not_mem_nil h).elim, rfl⟩
  | succ n ih =>
    cases ts with
    | nil => exact ⟨[], [], List.nil_prefix, rfl, fun _ h => (List.not_mem_nil h).elim, rfl⟩
    | cons t ts =>
      -- after this attempt the request is answered or goes on
      have hlast : ∀ own : Option Action, (∀ a ∈ own, a = action t) → ∃ made segments,
          made <+: t :: ts ∧ others segments = made.flatMap Attempt.meanwhile ∧
            (∀ segment ∈ segments, ∀ a ∈ segment.2, ∃ t ∈ made, a = action t) ∧
            own.toList.foldl (Finance.step d) (run d w t.meanwhile) =
              (interleaved segments).foldl (Finance.step d) w := by
        intro own hown
        refine ⟨[t], [(t.meanwhile, own)], ?_, rfl, ?_, ?_⟩
        · exact List.cons_prefix_cons.mpr ⟨rfl, List.nil_prefix⟩
        · intro segment hsegment a ha
          rw [List.mem_singleton.mp hsegment] at ha
          exact ⟨t, List.mem_singleton_self t, hown a ha⟩
        · simp [interleaved, run]
      have hmore : ∀ own : Option Action, (∀ a ∈ own, a = action t) → ∃ made segments,
          made <+: t :: ts ∧ others segments = made.flatMap Attempt.meanwhile ∧
            (∀ segment ∈ segments, ∀ a ∈ segment.2, ∃ t ∈ made, a = action t) ∧
            (requestWithRetry d status action n ts
              (own.toList.foldl (Finance.step d) (run d w t.meanwhile))).2 =
              (interleaved segments).foldl (Finance.step d) w := by
        intro own hown
        obtain ⟨made, segments, hmade, hothers, hserved, hworld⟩ := ih ts
          (own.toList.foldl (Finance.step d) (run d w t.meanwhile))
        refine ⟨t :: made, (t.meanwhile, own) :: segments, ?_, ?_, ?_, ?_⟩
        · exact List.cons_prefix_cons.mpr ⟨rfl, hmade⟩
        · rw [List.flatMap_cons, ← hothers]
          rfl
        · intro segment hsegment a ha
          rcases List.mem_cons.mp hsegment with rfl | hsegment
          · exact ⟨t, List.mem_cons_self, hown a ha⟩
          · obtain ⟨t', ht', hat⟩ := hserved segment hsegment a ha
            exact ⟨t', List.mem_cons_of_mem _ ht', hat⟩
        · rw [hworld]
          simp [interleaved, run]
      simp only [requestWithRetry, route_world]
      cases t.delivery with
      | lost => exact hmore none fun _ h => (Option.not_mem_none _ h).elim
      | unanswered => exact hmore (t.served action) fun a => eq_of_mem_served
      | answered =>
        simp only
        split_ifs
        · exact hmore (t.served action) fun a => eq_of_mem_served
        · exact hlast (t.served action) fun a => eq_of_mem_served

/-- However often a request is tried, it takes effect at most once. -/
theorem requestWithRetry_atMostOnce (hw : Sound w) {target : Target}
    (htarget : ∀ t, (action t).target = some target) (n : Nat) (ts : List Attempt) :
    AtMostOnce d action ts w (requestWithRetry d status action n ts w).2 := by
  obtain ⟨made, segments, hmade, hothers, hserved, hworld⟩ :=
    requestWithRetry_segments d status action n ts w
  have hown : ∀ segment ∈ segments, ∀ a ∈ segment.2, a.target = some target := by
    intro segment hsegment a ha
    obtain ⟨t, -, rfl⟩ := hserved segment hsegment a ha
    exact htarget t
  obtain ⟨before, once, after, hsplit, hlength, hmem, hfoldl⟩ :=
    (oneShot d target).foldl_interleaved hown hw
  refine ⟨made, before, once, after, hmade, hsplit.trans hothers, hlength, fun a ha => ?_, ?_⟩
  · obtain ⟨segment, hsegment, hsome⟩ := hmem a ha
    exact hserved segment hsegment a hsome
  · rw [hworld, hfoldl]
    rfl

/-- An answer that is a result leaves the target settled. -/
theorem settled_of_answer (hw : Sound w) {target : Target}
    (htarget : ∀ t, (action t).target = some target) {n : Nat} {ts : List Attempt}
    {w' : FinanceWorld} {body : Response}
    (h : requestWithRetry d status action n ts w = (.ok (.ok body), w')) :
    target.Settled w'.tables := by
  obtain ⟨t, -, before, hbefore, hroute⟩ :=
    requestWithRetry_answer (I := Sound) (fun _ a hs => step_sound hs a) hw h
  obtain ⟨hrespond, rfl⟩ := route_ok hroute
  exact settled_of_ok hbefore (htarget t) hrespond

variable {α : Type} {read : HttpReply → Except AdapterError α}

theorem readReply_once (hw : Sound w) {target : Target}
    (htarget : ∀ t, (action t).target = some target)
    (hread : ∀ reply x, read reply = .ok x → ∃ body, reply = .ok body) (n : Nat)
    (ts : List Attempt) :
    Once d action target ts w (readReply read (requestWithRetry d status action n ts w)) := by
  refine ⟨requestWithRetry_atMostOnce hw htarget n ts, fun x hx => ?_⟩
  unfold readReply at hx ⊢
  generalize hanswer : requestWithRetry d status action n ts w = r at hx ⊢
  obtain ⟨answer, w'⟩ := r
  cases answer with
  | error exn => cases hx
  | ok reply =>
    obtain ⟨body, rfl⟩ := hread reply x hx
    exact settled_of_answer hw htarget hanswer

end Retry

/-- A crystallize, a commit and a strand of the adapter each take effect at most once, whichever of
their attempts and replies get lost and whatever others do meanwhile, and one that returns has
settled what it asks for. -/
theorem adapter_once (d : Deployment) {w : FinanceWorld} (hw : Sound w) (ts : List Attempt)
    (opening : CrystallizeRequest) (closing : CommitRequest) (stranding : AdjudicateRequest) :
    Once d (fun t => .crystallize t.raced t.clock t.uuid opening)
        (.operation opening.platform opening.operationId) ts w (spineCrystallize d opening ts w) ∧
      Once d (fun t => .commit t.settings t.clock closing) (.crystal closing.crystalId) ts w
        (spineCommit d closing ts w) ∧
      Once d (fun t => .adjudicate t.clock stranding) (.crystal stranding.crystalId) ts w
        (spineStrand d stranding ts w) := by
  refine ⟨readReply_once hw (fun _ => rfl) ?_ 3 ts, readReply_once hw (fun _ => rfl) ?_ 3 ts,
    readReply_once hw (fun _ => rfl) ?_ 3 ts⟩
  all_goals
    intro reply x hx
    cases reply with
    | ok body => exact ⟨body, rfl⟩
    | error status detail => ?_
  · cases hx
  · simp only [httpCommit] at hx
    split_ifs at hx
  · simp only [httpStrand] at hx
    split_ifs at hx

/-- The reply to the first attempt gets lost. -/
def lostReply : List Attempt :=
  [⟨[], .unanswered, false, .default, sampleClock 1, sampleUuid, false⟩,
    ⟨[], .answered, false, .default, sampleClock 1, sampleUuid, false⟩]

theorem adapter_once_lostReply :
    Once sampleDeployment (fun t => .commit t.settings t.clock (sampleCommit ⟨12, 0⟩))
      (.crystal sampleCrystalId) lostReply (step sampleDeployment sampleWorld sampleOpen)
      (spineCommit sampleDeployment (sampleCommit ⟨12, 0⟩) lostReply
        (step sampleDeployment sampleWorld sampleOpen)) :=
  (adapter_once sampleDeployment (step_sound (NoCrystals.sound ⟨rfl, rfl, rfl⟩) sampleOpen) lostReply
    sampleCrystallize (sampleCommit ⟨12, 0⟩) sampleStrand).2.1

end Governor.Finance
