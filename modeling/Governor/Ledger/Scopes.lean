import Mathlib
import Governor.Ledger.Refinement

/-!
# Budget scopes

A reserve charges the four scopes of its operation and a settlement charges the
difference between cost and reserve, as if an expired reserve had been given back. The
sweep gives an expired reserve back to the wallet and to the trace but not to the
scopes, so what a scope has consumed exceeds what its operations claim by exactly the
reserves that were expired.
-/

namespace Governor.Ledger

variable {d : Deployment} {db db' : Database} {c : Change}

/-- What the operations of a scope claim. -/
def scopeClaimed (db : Database) (scope : ScopeType × String) : Money :=
  db.escrowLedger.sum fun r => if scope ∈ r.scopes then r.claimed else 0

/-- What a scope has consumed beyond the claims of its operations. -/
def scopeSurplus (db : Database) (scope : ScopeType × String) : Money :=
  consumedAt db.budgetScopeState scope - scopeClaimed db scope

/-- What a move takes from its operation's claim and leaves charged to the scopes. -/
def Change.leaked (c : Change) : Money := c.scopeDelta - c.delta EscrowRow.claimed

theorem EscrowRow.Continues.scopes {o r : EscrowRow} (h : o.Continues r) : r.scopes = o.scopes := by
  rw [EscrowRow.scopes, EscrowRow.scopes, identityFromOperation, identityFromOperation, h.identity,
    h.userId]

theorem Move.scopeSurplus_eq (hattr : d.attributionSchema = true) (h : Move d db c db')
    (scope : ScopeType × String) :
    scopeSurplus db' scope =
      scopeSurplus db scope + if scope ∈ c.new.scopes then c.leaked else 0 := by
  have hguard : ∀ o ∈ c.old, scope ∈ o.scopes ↔ scope ∈ c.new.scopes := by
    intro o ho
    rw [(h.continues o ho).scopes]
  have hclaimed : scopeClaimed db' scope = scopeClaimed db scope +
      if scope ∈ c.new.scopes then c.delta EscrowRow.claimed else 0 := by
    rw [scopeClaimed, h.sum_eq, Change.delta_guard (fun r => scope ∈ r.scopes) _ hguard,
      scopeClaimed]
  rw [scopeSurplus, scopeSurplus, h.scopes hattr scope, hclaimed, Change.leaked]
  split_ifs <;> ring

/-- Only expiries leak. -/
theorem Change.leaked_of_ne_expired (h : c.new.status ≠ .expired) : c.leaked = 0 := by
  rw [leaked, scopeDelta, if_neg h, sub_self]

theorem Idle.scopeSurplus_eq (h : Idle db db') (scope : ScopeType × String) :
    scopeSurplus db' scope = scopeSurplus db scope := by
  rw [scopeSurplus, scopeSurplus, scopeClaimed, scopeClaimed, h.budgetScopeState, h.escrowLedger]

/-- The surplus of a scope grows by what the moves leak. -/
theorem Moves.scopeSurplus_eq (hattr : d.attributionSchema = true) {cs : List Change}
    (h : Moves d db cs db') (scope : ScopeType × String) :
    scopeSurplus db' scope = scopeSurplus db scope +
      (cs.map fun c => if scope ∈ c.new.scopes then c.leaked else 0).sum := by
  induction cs generalizing db with
  | nil =>
    rw [Idle.scopeSurplus_eq h]
    simp
  | cons c cs ih =>
    obtain ⟨mid, hmove, hrest⟩ := h
    rw [ih hrest, hmove.scopeSurplus_eq hattr, List.map_cons, List.sum_cons, add_assoc]

/-! ## The leak of one transaction -/

/-- The reserve that a sweep expires and leaves charged to the row's scopes. -/
def expiredReserve (db : Database) (r : EscrowRow) : Money :=
  if hasDispatchActivity db r then 0 else r.reservedAmount

/-- What a transaction leaves charged to a scope without a claim. -/
def leakedTo (w : LedgerWorld) (scope : ScopeType × String) : Action → Money
  | .sweep clock plan batchSize =>
    ((sweepBatch w.tables clock plan batchSize).map fun r =>
      if scope ∈ r.scopes then expiredReserve w.tables r else 0).sum
  | _ => 0

theorem sweepChange_leaked {clock : Clock} {r : EscrowRow} (hheld : r.status.held = true) :
    (sweepChange db clock r).leaked = expiredReserve db r := by
  unfold sweepChange expiredReserve
  split_ifs
  · exact Change.leaked_of_ne_expired (by simp [EscrowRow.strand])
  · simp only [Change.leaked, expire_scopeDelta, Change.delta, Option.map_some, Option.getD_some,
      EscrowRow.claimed_of_held hheld,
      EscrowRow.claimed_of_expired (show (r.expire clock.utcnow).status = .expired from rfl)]
    ring

theorem sweepChange_scopes {clock : Clock} {r : EscrowRow} :
    (sweepChange db clock r).new.scopes = r.scopes := by
  unfold sweepChange
  split_ifs <;> rfl

/-- Every transaction adds to the surplus of a scope exactly what it leaks. -/
theorem step_scopeSurplus (hattr : d.attributionSchema = true) {w : LedgerWorld} (hw : Sound w)
    (a : Action) (scope : ScopeType × String) :
    scopeSurplus (step d w a).tables scope =
      scopeSurplus w.tables scope + leakedTo w scope a := by
  have hquiet : ∀ {cs}, Moves d w.tables cs (step d w a).tables →
      (∀ c ∈ cs, c.new.status ≠ .expired) →
      scopeSurplus (step d w a).tables scope = scopeSurplus w.tables scope + 0 := by
    intro cs hmoves hcs
    rw [hmoves.scopeSurplus_eq hattr, List.sum_eq_zero]
    intro x hx
    obtain ⟨c, hc, rfl⟩ := List.mem_map.mp hx
    rw [Change.leaked_of_ne_expired (hcs c hc), ite_self]
  have hcommitted := (body_committed (d := d) hw a).1
  generalize respond d w a = response at hcommitted
  generalize (step d w a).tables = after at hcommitted hquiet ⊢
  cases hcommitted with
  | raised ha hidle =>
    have hzero : leakedTo w scope a = 0 := by
      cases a with
      | sweep => cases ha
      | _ => rfl
    rw [hzero]
    exact hquiet (show Moves d w.tables [] after from hidle) (by simp)
  | replayed => exact hquiet (show Moves d w.tables [] w.tables from Idle.refl _) (by simp)
  | reserved ha hmove =>
    have hnew := hquiet (Moves.single hmove)
      (by simp [reserveChange, ReserveRequest.escrowRow])
    rcases ha with rfl | rfl <;> exact hnew
  | settled hsettle =>
    obtain ⟨cs, hmoves, hcs⟩ := hsettle.moves
    exact hquiet hmoves hcs
  | @swept clock plan batchSize _ hmoves =>
    rw [hmoves.scopeSurplus_eq hattr, List.map_map, leakedTo]
    congr 2
    apply List.map_congr_left
    intro r hr
    simp only [Function.comp_apply, sweepChange_scopes, sweepChange_leaked (mem_sweepBatch hr).2]

/-! ## Exact accounting -/

/-- Every scope has consumed what its operations hold and cost. -/
def ScopesExact (db : Database) : Prop :=
  ∀ b ∈ db.budgetScopeState.rows, b.consumedAmount =
    db.escrowLedger.sumWhere (fun r => b.key ∈ r.scopes && r.status.held)
      EscrowRow.reservedAmount +
    db.escrowLedger.sumWhere (fun r => b.key ∈ r.scopes && r.status = .settled)
      EscrowRow.actualAmount

/-- A sweep expires no operation whose reserve is not zero. -/
def ExpiresNoReserve (w : LedgerWorld) : Action → Prop
  | .sweep clock plan batchSize => ∀ r ∈ sweepBatch w.tables clock plan batchSize,
      hasDispatchActivity w.tables r = false → r.reservedAmount = 0
  | _ => True

theorem scopeClaimed_eq_sumWhere (db : Database) (scope : ScopeType × String) :
    scopeClaimed db scope =
      db.escrowLedger.sumWhere (fun r => scope ∈ r.scopes && r.status.held)
        EscrowRow.reservedAmount +
      db.escrowLedger.sumWhere (fun r => scope ∈ r.scopes && r.status = .settled)
        EscrowRow.actualAmount := by
  rw [Table.sumWhere_eq, Table.sumWhere_eq, ← Table.sum_add, scopeClaimed]
  apply Table.sum_congr
  intro r _
  by_cases hs : scope ∈ r.scopes
  · simp [hs, EscrowRow.claimed, EscrowRow.heldAmount, EscrowRow.settledAmount]
  · simp [hs]

theorem scopesExact_iff (db : Database) :
    ScopesExact db ↔ ∀ b ∈ db.budgetScopeState.rows, scopeSurplus db b.key = 0 := by
  refine forall₂_congr fun b hb => ?_
  rw [← scopeClaimed_eq_sumWhere, scopeSurplus, consumedAt, Table.find?_of_mem hb, Option.map_some,
    Option.getD_some, sub_eq_zero]

/-- A claim is never negative. -/
theorem Transition.claimed_nonneg {o : Option EscrowRow} {r : EscrowRow} {ps : List Posting}
    (h : Transition o r ps) (hr : 0 ≤ r.reservedAmount) : 0 ≤ r.claimed := by
  cases h with
  | reserved hs | dispatched hc ho hs | timedOut hc ho hs | stranded hc ho hs =>
    rw [EscrowRow.claimed_of_held (by rw [hs]; rfl)]
    exact hr
  | expired hc ho hs => rw [EscrowRow.claimed_of_expired hs]
  | settled hc ho hs ha =>
    rw [EscrowRow.claimed_of_settled hs]
    exact ha

/-- No operation claims a negative amount. -/
def ClaimsNonneg (db : Database) : Prop := ∀ r ∈ db.escrowLedger.rows, 0 ≤ r.claimed

theorem ClaimsNonneg.step {w : LedgerWorld} (hw : Sound w) (h : ClaimsNonneg w.tables)
    (a : Action) : ClaimsNonneg (step d w a).tables := by
  refine run_invariant (d := d) (I := ClaimsNonneg) ?_ ?_ hw h [a]
  · intro db db' hidle hdb
    rw [ClaimsNonneg, hidle.escrowLedger]
    exact hdb
  · intro db c db' hres hmove hdb r hr
    have hres' := hmove.reserves hres r hr
    rw [hmove.new, Table.mem_rows_iff, Table.find?_put] at hr
    split_ifs at hr with hk
    · obtain rfl := Option.some.inj hr
      exact hmove.valid.claimed_nonneg hres'
    · exact hdb r (Table.mem_of_find? hr)

theorem scopeClaimed_nonneg (h : ClaimsNonneg db) (scope : ScopeType × String) :
    0 ≤ scopeClaimed db scope := by
  apply Table.sum_nonneg
  intro r hr
  split_ifs
  · exact h r hr
  · exact le_refl _

/-- What a sweep leaks to a scope through one of its rows is not negative. -/
theorem leak_nonneg {w : LedgerWorld} (hw : Sound w) (clock : Clock) (plan : SweepPlan)
    (batchSize : Nat) (scope : ScopeType × String) :
    ∀ x ∈ (sweepBatch w.tables clock plan batchSize).map fun r =>
      if scope ∈ r.scopes then expiredReserve w.tables r else 0, 0 ≤ x := by
  intro x hx
  obtain ⟨r, hr, rfl⟩ := List.mem_map.mp hx
  unfold expiredReserve
  split_ifs
  · exact le_refl _
  · exact hw.reserves r (mem_sweepBatch hr).1
  · exact le_refl _

theorem leakedTo_nonneg {w : LedgerWorld} (hw : Sound w) (scope : ScopeType × String)
    (a : Action) : 0 ≤ leakedTo w scope a := by
  cases a with
  | sweep clock plan batchSize => exact List.sum_nonneg (leak_nonneg hw clock plan batchSize scope)
  | _ => exact le_refl _

/-- A transaction leaks to no scope exactly when it expires no reserve. -/
theorem leakedTo_eq_zero_iff {w : LedgerWorld} (hw : Sound w) (a : Action) :
    (∀ scope, leakedTo w scope a = 0) ↔ ExpiresNoReserve w a := by
  cases a with
  | sweep clock plan batchSize =>
    constructor
    · intro hzero r hr hidle
      -- the run scope of the row is charged with its reserve
      have hscope := hzero (.run, (identityFromOperation r).agentRunId)
      have hterm := List.all_zero_of_le_zero_le_of_sum_eq_zero
        (leak_nonneg hw clock plan batchSize _) hscope (List.mem_map_of_mem hr)
      rw [if_pos (by simp [EscrowRow.scopes, budgetScopes])] at hterm
      simpa [expiredReserve, hidle] using hterm
    · intro hsafe scope
      apply List.sum_eq_zero
      intro x hx
      obtain ⟨r, hr, rfl⟩ := List.mem_map.mp hx
      unfold expiredReserve
      split_ifs with hscope hactive
      · rfl
      · exact hsafe r hr (by simpa using hactive)
      · rfl
  | _ => exact ⟨fun _ => trivial, fun _ _ => rfl⟩

/-- A sound world in which no scope has a surplus. -/
structure ScopesCount (w : LedgerWorld) : Prop where
  sound : Sound w
  claims : ClaimsNonneg w.tables
  surplus : ∀ scope, scopeSurplus w.tables scope = 0

theorem ScopesCount.exact {w : LedgerWorld} (h : ScopesCount w) : ScopesExact w.tables :=
  (scopesExact_iff _).mpr fun b _ => h.surplus b.key

theorem ScopesCount.step (hattr : d.attributionSchema = true) {w : LedgerWorld} {a : Action}
    (h : ScopesCount w) (hsafe : ExpiresNoReserve w a) : ScopesCount (step d w a) where
  sound := step_sound h.sound a
  claims := h.claims.step h.sound a
  surplus := by
    intro scope
    rw [step_scopeSurplus hattr h.sound, h.surplus scope,
      (leakedTo_eq_zero_iff h.sound a).mpr hsafe scope, add_zero]

/-- A step after which the scopes are still exact has expired no reserve. -/
theorem ScopesCount.safe_of_exact (hattr : d.attributionSchema = true) {w : LedgerWorld}
    {a : Action} (h : ScopesCount w) (hexact : ScopesExact (Ledger.step d w a).tables) :
    ExpiresNoReserve w a := by
  rw [← leakedTo_eq_zero_iff h.sound]
  intro scope
  have hsurplus := step_scopeSurplus hattr h.sound a scope
  rw [h.surplus scope, zero_add] at hsurplus
  rw [← hsurplus]
  cases hf : (Ledger.step d w a).tables.budgetScopeState.find? scope with
  | some b =>
    rw [← Table.find?_some_key hf]
    exact (scopesExact_iff _).mp hexact b (Table.mem_of_find? hf)
  | none =>
    -- an unused scope has consumed nothing, so it cannot have a surplus
    have hclaimed := scopeClaimed_nonneg (h.claims.step (d := d) h.sound a) scope
    have hle : scopeSurplus (Ledger.step d w a).tables scope ≤ 0 := by
      rw [scopeSurplus, consumedAt, hf, Option.map_none, Option.getD_none]
      linarith
    have hge := leakedTo_nonneg h.sound scope a
    linarith

/-- From a world without surplus, the scopes stay exact along a run exactly as long as no
step expires a reserve. -/
theorem ScopesCount.exact_iff (hattr : d.attributionSchema = true) {w : LedgerWorld}
    (h : ScopesCount w) (actions : List Action) :
    (∀ before, before <+: actions → ScopesExact (run d w before).tables) ↔
      ∀ before a, before ++ [a] <+: actions → ExpiresNoReserve (run d w before) a := by
  induction actions generalizing w with
  | nil =>
    constructor
    · intro _ before a hpre
      simp at hpre
    · intro _ before hpre
      rw [List.prefix_nil.mp hpre]
      exact h.exact
  | cons x rest ih =>
    constructor
    · intro hexact
      have hsafe : ExpiresNoReserve w x :=
        h.safe_of_exact hattr (hexact [x] (List.cons_prefix_cons.mpr ⟨rfl, List.nil_prefix⟩))
      have hrest := (ih (h.step hattr hsafe)).mp fun before hpre =>
        hexact (x :: before) (List.cons_prefix_cons.mpr ⟨rfl, hpre⟩)
      intro before a hpre
      cases before with
      | nil =>
        obtain rfl := (List.cons_prefix_cons.mp hpre).1
        exact hsafe
      | cons y before =>
        obtain ⟨rfl, htail⟩ := List.cons_prefix_cons.mp hpre
        exact hrest before a htail
    · intro hsafe
      have hfirst : ExpiresNoReserve w x :=
        hsafe [] x (List.cons_prefix_cons.mpr ⟨rfl, List.nil_prefix⟩)
      have hrest := (ih (h.step hattr hfirst)).mpr fun before a hpre =>
        hsafe (x :: before) a (List.cons_prefix_cons.mpr ⟨rfl, hpre⟩)
      intro before hpre
      cases before with
      | nil => exact h.exact
      | cons y before =>
        obtain ⟨rfl, htail⟩ := List.cons_prefix_cons.mp hpre
        exact hrest before htail

/-- A ledger whose scopes, if any are stored, have consumed nothing yet. -/
def NoScopeUse (w : LedgerWorld) : Prop :=
  ∀ b ∈ w.tables.budgetScopeState.rows, b.consumedAmount = 0

theorem NoOperations.scopesCount {w : LedgerWorld} (hops : NoOperations w)
    (hscopes : NoScopeUse w) : ScopesCount w where
  sound := hops.sound
  claims := by simp [ClaimsNonneg, hops.escrowLedger]
  surplus := by
    intro scope
    rw [scopeSurplus, scopeClaimed, Table.sum, hops.escrowLedger, consumedAt]
    cases hf : w.tables.budgetScopeState.find? scope with
    | none => rfl
    | some b => simp [hscopes b (Table.mem_of_find? hf)]

/-- In a run with the attribution columns present, the scopes are exact in every state
reached if and only if no sweep of the run expires an operation with a reserve. -/
theorem scopes_exact_iff_expires_no_reserve (d : Deployment) (hattr : d.attributionSchema = true)
    (w : LedgerWorld) (hops : NoOperations w) (hscopes : NoScopeUse w) (actions : List Action) :
    (∀ before, before <+: actions → ScopesExact (run d w before).tables) ↔
      ∀ before a, before ++ [a] <+: actions → ExpiresNoReserve (run d w before) a :=
  (hops.scopesCount hscopes).exact_iff hattr actions

theorem scopes_exact_sample :
    ScopesExact (run sampleDeployment sampleWorld (sampleActions.take 1)).tables := by
  refine (scopes_exact_iff_expires_no_reserve sampleDeployment rfl sampleWorld ⟨rfl, rfl⟩
    (fun _ hb => absurd hb List.not_mem_nil) (sampleActions.take 1)).mpr ?_ _ List.prefix_rfl
  intro before a hpre
  have hlen := hpre.length_le
  rw [List.length_append, List.length_singleton] at hlen
  obtain rfl : before = [] := List.eq_nil_of_length_eq_zero (by
    have : (sampleActions.take 1).length = 1 := rfl
    omega)
  obtain rfl := (List.cons_prefix_cons.mp hpre).1
  trivial

instance (db : Database) : Decidable (ScopesExact db) :=
  inferInstanceAs (Decidable (∀ b ∈ db.budgetScopeState.rows, _ = _))

/-- A reserve that expires stays charged to its scopes. -/
theorem expired_reserve_stays_charged :
    sampleDeployment.attributionSchema = true ∧ NoOperations sampleWorld ∧
      NoScopeUse sampleWorld ∧
      ¬ ScopesExact (run sampleDeployment sampleWorld (sampleActions.take 2)).tables :=
  ⟨rfl, ⟨rfl, rfl⟩, fun _ hb => absurd hb List.not_mem_nil, by decide +kernel⟩

end Governor.Ledger
