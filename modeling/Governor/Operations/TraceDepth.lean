import Mathlib
import Governor.Operations.Guardrails

/-!
# The depth of a trace across processes

Every check puts its idempotency key into the set of its trace before it reads the set's size, and
nothing takes a key out. While the set does not expire, the checks that pass name no more keys
than the limit, whatever interleaves or fails, and none is refused before more keys are named. A
refused key stays in the set, so from then on the set refuses every check of the trace.
-/

namespace Governor.Operations

open KeyStore

/-! ## Checks of a trace -/

/-- A check in progress, with its stage. -/
def GuardrailCall.check? : GuardrailCall → Option (CheckCall × CheckStage)
  | .check call stage => some (call, stage)
  | .release .. => none

/-- The checks that have gone to Redis, in progress or ended. -/
def checksOf (running : List GuardrailCall) (answered : List (CheckCall × CheckResult)) :
    List (CheckCall × CheckStage) :=
  running.filterMap GuardrailCall.check? ++ answered.map fun r => (r.1, .ended r.2)

/-- The keys of the trace's checks at some stages. -/
def keysAt (p : CheckStage → Bool) (traceId : String) (checks : List (CheckCall × CheckStage)) :
    Finset String :=
  ((checks.filter fun c => c.1.traceId = traceId && p c.2).map fun c =>
    c.1.idempotencyKey).toFinset

/-- The check has been refused for the depth of its trace. -/
def CheckResult.depthRefused : CheckResult → Bool
  | .refused (.traceDepthExceeded _) => true
  | _ => false

/-- The stages in which the trace has let a check pass. -/
def CheckStage.cleared : CheckStage → Bool
  | .inflight | .inflightExpire _ | .inflightUndo => true
  | .ended .passed | .ended (.refused (.inflightLimitExceeded _)) => true
  | _ => false

/-- The stages in which the key is known to be in the set of the trace. -/
def CheckStage.recorded : CheckStage → Bool
  | .traceExpire | .traceCard => true
  | .ended result => CheckStage.cleared (.ended result) || result.depthRefused
  | stage => stage.cleared

/-- The keys that the trace's checks name. -/
def namedKeys (traceId : String) (w : GuardrailWorld) : Finset String :=
  keysAt (fun _ => true) traceId (checksOf w.redis.running w.answered)

/-- The keys of the trace's checks that Redis has let pass. -/
def passedKeys (traceId : String) (w : GuardrailWorld) : Finset String :=
  keysAt (fun stage => stage = .ended .passed) traceId (checksOf [] w.answered)

/-- The trace's checks that have been refused for its depth. -/
def depthRefusals (traceId : String) (answered : List (CheckCall × CheckResult)) : Nat :=
  answered.countP fun r => r.1.traceId = traceId && r.2.depthRefused

/-- The trace's checks that its set has let pass. -/
def clearedChecks (traceId : String) (w : GuardrailWorld) : Nat :=
  (checksOf w.redis.running w.answered).countP fun c => c.1.traceId = traceId && c.2.cleared

/-- The next command of the call is on the set of the trace. -/
def GuardrailCall.onTrace (traceId : String) : GuardrailCall → Bool
  | .check call stage =>
    call.traceId = traceId && (stage = .trace || stage = .traceExpire || stage = .traceCard)
  | .release .. => false

/-- The set of the trace has not expired when a command reaches it. -/
def GuardrailWorld.TraceLives (traceId : String) (w : GuardrailWorld) (a : TimedGuardrailAction) :
    Prop :=
  ∀ r ∈ w.issuer a, r.onTrace traceId = true →
    w.redis.store.get a.time (traceKey traceId) = w.redis.store (traceKey traceId)

instance (traceId : String) (w : GuardrailWorld) (a : TimedGuardrailAction) :
    Decidable (w.TraceLives traceId a) :=
  inferInstanceAs (Decidable (∀ r ∈ w.issuer a, r.onTrace traceId = true →
    w.redis.store.get a.time (traceKey traceId) = w.redis.store (traceKey traceId)))

/-- Once the set of the trace exceeds the limit, no step makes it let a check pass. -/
def GuardrailWorld.StaysFull (fallbackLimits : LimiterSettings) (limits : GuardrailSettings)
    (traceId : String) (w : GuardrailWorld) (a : TimedGuardrailAction) : Prop :=
  ∀ ms, w.redis.store.Members (traceKey traceId) ms → limits.maxTraceDepth < ms.length →
    clearedChecks traceId (w.step fallbackLimits limits a) ≤ clearedChecks traceId w

/-! ## Keys and stages -/

section Keys

variable {p q : CheckStage → Bool} {traceId : String}
  {checks checks' : List (CheckCall × CheckStage)} {c : CheckCall} {s s' : CheckStage}

/-- The stages with a refusal for the depth. -/
def CheckStage.depthRefused : CheckStage → Bool
  | .ended result => result.depthRefused
  | _ => false

theorem keysAt_perm (h : checks.Perm checks') :
    keysAt p traceId checks = keysAt p traceId checks' :=
  List.toFinset_eq_of_perm _ _ ((h.filter _).map _)

theorem keysAt_cons : keysAt p traceId ((c, s) :: checks) =
    if c.traceId = traceId ∧ p s = true then insert c.idempotencyKey (keysAt p traceId checks)
    else keysAt p traceId checks := by
  unfold keysAt
  rw [List.filter_cons]
  by_cases h : c.traceId = traceId ∧ p s = true
  · rw [if_pos h, if_pos (by simp [h.1, h.2]), List.map_cons, List.toFinset_cons]
  · rw [if_neg h, if_neg (by simpa using h)]

theorem keysAt_mono (h : ∀ s, p s = true → q s = true) (hchecks : checks ⊆ checks') :
    keysAt p traceId checks ⊆ keysAt q traceId checks' := by
  intro k hk
  simp only [keysAt, List.mem_toFinset, List.mem_map, List.mem_filter, Bool.and_eq_true] at hk ⊢
  obtain ⟨r, ⟨hr, htrace, hp⟩, rfl⟩ := hk
  exact ⟨r, ⟨hchecks hr, htrace, h _ hp⟩, rfl⟩

theorem keysAt_tail : keysAt p traceId checks ⊆ keysAt p traceId ((c, s) :: checks) := by
  rw [keysAt_cons]
  split_ifs
  · exact Finset.subset_insert _ _
  · exact Finset.Subset.refl _

/-- A check that is not newly at one of the stages adds no key. -/
theorem keysAt_moved (h : c.traceId = traceId → p s' = true → p s = true) :
    keysAt p traceId ((c, s') :: checks) ⊆ keysAt p traceId ((c, s) :: checks) := by
  by_cases hnew : c.traceId = traceId ∧ p s' = true
  · rw [keysAt_cons, keysAt_cons, if_pos hnew, if_pos ⟨hnew.1, h hnew.1 hnew.2⟩]
  · rw [keysAt_cons, if_neg hnew]
    exact keysAt_tail

/-- A check that the trace has let pass is in its set. -/
theorem recorded_of_cleared (h : s.cleared = true) : s.recorded = true := by
  cases s with
  | ended result => exact Bool.or_eq_true_iff.mpr (Or.inl h)
  | traceExpire | traceCard => rfl
  | rate | rateExpire _ | trace | inflight | inflightExpire _ | inflightUndo => exact h

end Keys

/-! ## One command -/

/-- What a command does to its check and to the set of the trace. -/
structure SetMoved (limit : Int) (traceId : String) (c : CheckCall) (s s' : CheckStage)
    (ms ms' : List String) : Prop where
  nodup : ms.Nodup → ms'.Nodup
  kept : ms.toFinset ⊆ ms'.toFinset
  named : ms'.toFinset ⊆ ms.toFinset ∨
    c.traceId = traceId ∧ ms'.toFinset = insert c.idempotencyKey ms.toFinset
  recorded : c.traceId = traceId → s'.recorded = true →
    s.recorded = true ∨ c.idempotencyKey ∈ ms'
  cleared : c.traceId = traceId → s'.cleared = true →
    s.cleared = true ∨ ms' = ms ∧ (ms.length : Int) ≤ limit
  refused : c.traceId = traceId → s'.depthRefused = true →
    s.depthRefused = true ∨ limit < ms'.length

section Command

variable {limits : GuardrailSettings} {traceId : String} {c : CheckCall} {s s' : CheckStage}
  {ms ms' : List String} {store : Store String String ℚ} {now : ℚ}

/-- A command that says nothing about the trace. -/
theorem SetMoved.of_stages {limit : Int}
    (hrecorded : c.traceId = traceId → s'.recorded = true → s.recorded = true)
    (hcleared : c.traceId = traceId → s'.cleared = true → s.cleared = true)
    (hrefused : c.traceId = traceId → s'.depthRefused = true → s.depthRefused = true) :
    SetMoved limit traceId c s s' ms ms where
  nodup := id
  kept := Finset.Subset.refl _
  named := Or.inl (Finset.Subset.refl _)
  recorded := fun htrace h => Or.inl (hrecorded htrace h)
  cleared := fun htrace h => Or.inl (hcleared htrace h)
  refused := fun htrace h => Or.inl (hrefused htrace h)

/-- A check that gives up says nothing about the trace. -/
theorem SetMoved.unavailable {limit : Int} :
    SetMoved limit traceId c s (.ended .unavailable) ms ms := by
  apply SetMoved.of_stages
  all_goals
    intro _ h
    cases h

/-- Before its key is in the set and after the size is known the stages of a check tell as much as
before. -/
theorem resume_stages (hcommand : s ≠ .trace ∧ s ≠ .traceExpire ∧ s ≠ .traceCard)
    (reply : Option Int) :
    ((c.resume limits s reply).recorded = true → s.recorded = true) ∧
    ((c.resume limits s reply).cleared = true → s.cleared = true) ∧
    ((c.resume limits s reply).depthRefused = true → s.depthRefused = true) := by
  obtain ⟨htrace, hexpire, hcard⟩ := hcommand
  cases reply with
  | none => cases s <;> simp [CheckCall.resume, CheckStage.recorded, CheckStage.cleared,
      CheckStage.depthRefused, CheckResult.depthRefused]
  | some n =>
    cases s with
    | trace => exact absurd rfl htrace
    | traceExpire => exact absurd rfl hexpire
    | traceCard => exact absurd rfl hcard
    | ended result => exact ⟨id, id, id⟩
    | rate | rateExpire _ =>
      simp only [CheckCall.resume, CheckCall.rated]
      split_ifs <;> simp [CheckStage.recorded, CheckStage.cleared, CheckStage.depthRefused,
        CheckResult.depthRefused]
    | inflight | inflightExpire _ =>
      simp only [CheckCall.resume, CheckCall.counted]
      split_ifs <;> simp [CheckStage.recorded, CheckStage.cleared, CheckStage.depthRefused,
        CheckResult.depthRefused]
    | inflightUndo => exact ⟨fun _ => rfl, fun _ => rfl, nofun⟩

/-- Only the checks of a trace write its set. -/
theorem traceKey_writes {r : GuardrailCall} {command : Command String String ℚ}
    (hc : (guardrailCode limits).next r = some command)
    (hmem : traceKey traceId ∈ command.writes) :
    ∃ call stage, r = .check call stage ∧ call.traceId = traceId ∧
      (stage = .trace ∨ stage = .traceExpire) := by
  cases r with
  | release process other stage =>
    cases stage with
    | ended answered => cases hc
    | decr | reset =>
      obtain rfl := Option.some.inj hc
      exact absurd (List.mem_singleton.mp hmem) (traceKey_ne_inflightKey _ _)
  | check call stage =>
    cases stage with
    | ended result => cases hc
    | rate | rateExpire _ =>
      obtain rfl := Option.some.inj hc
      exact absurd (List.mem_singleton.mp hmem).symm (rateKey_ne_traceKey _ _ _)
    | inflight | inflightExpire _ | inflightUndo =>
      obtain rfl := Option.some.inj hc
      exact absurd (List.mem_singleton.mp hmem) (traceKey_ne_inflightKey _ _)
    | traceCard =>
      obtain rfl := Option.some.inj hc
      cases hmem
    | trace =>
      obtain rfl := Option.some.inj hc
      exact ⟨call, _, rfl, (traceKey_inj.mp (List.mem_singleton.mp hmem)).symm, Or.inl rfl⟩
    | traceExpire =>
      obtain rfl := Option.some.inj hc
      exact ⟨call, _, rfl, (traceKey_inj.mp (List.mem_singleton.mp hmem)).symm, Or.inr rfl⟩

/-- A command of a check that is executed on a set that has not expired. -/
theorem executed_setMoved {command : Command String String ℚ} {reply : Option Int}
    (hms : store.Members (traceKey traceId) ms) (hc : c.next limits s = some command)
    (hreply : reply = (exec now store command).1 ∨ reply = none)
    (hlives : (GuardrailCall.check c s).onTrace traceId = true →
      store.get now (traceKey traceId) = store (traceKey traceId)) :
    ∃ ms', (exec now store command).2.Members (traceKey traceId) ms' ∧
      SetMoved limits.maxTraceDepth traceId c s (c.resume limits s reply) ms ms' := by
  by_cases hon : (GuardrailCall.check c s).onTrace traceId = true
  · have hlive := hlives hon
    obtain ⟨rfl, hstage⟩ : c.traceId = traceId ∧
        (s = .trace ∨ s = .traceExpire ∨ s = .traceCard) := by
      simpa [GuardrailCall.onTrace, or_assoc] using hon
    rcases hstage with rfl | rfl | rfl
    · -- the key goes into the set
      obtain rfl := Option.some.inj hc
      obtain ⟨ms', hms', hnodup, hinsert⟩ := hms.sadd hlive c.idempotencyKey
      refine ⟨ms', hms', hnodup, ?_, Or.inr ⟨rfl, hinsert⟩, fun _ _ => Or.inr ?_, ?_, ?_⟩
      · rw [hinsert]
        exact Finset.subset_insert _ _
      · rw [← List.mem_toFinset, hinsert]
        exact Finset.mem_insert_self _ _
      all_goals
        intro _ h
        cases reply <;> cases h
    · obtain rfl := Option.some.inj hc
      refine ⟨ms, hms.expire hlive (by norm_num), SetMoved.of_stages (fun _ _ => rfl) ?_ ?_⟩
      all_goals
        intro _ h
        cases reply <;> cases h
    · -- the size of the set decides
      obtain rfl := Option.some.inj hc
      have hcard := hms.scard hlive
      rw [hcard] at hreply ⊢
      rcases hreply with rfl | rfl
      · refine ⟨ms, hms, id, Finset.Subset.refl _, Or.inl (Finset.Subset.refl _),
          fun _ _ => Or.inl rfl, fun _ h => Or.inr ⟨rfl, ?_⟩, fun _ h => Or.inr ?_⟩
        all_goals
          simp only [CheckCall.resume] at h
          split_ifs at h with hlimit
        · cases h
        · exact not_lt.mp hlimit
        · exact hlimit
        · cases h
      · exact ⟨ms, hms, SetMoved.unavailable⟩
  · have hnot : traceKey traceId ∉ command.writes := by
      intro hmem
      obtain ⟨call, stage, hr, htrace, hstage⟩ := traceKey_writes (r := .check c s) hc hmem
      obtain ⟨rfl, rfl⟩ := GuardrailCall.check.inj hr
      refine hon ?_
      rcases hstage with rfl | rfl <;> simp [GuardrailCall.onTrace, htrace]
    refine ⟨ms, hms.of_eq (exec_other hnot), ?_⟩
    have hstages : c.traceId = traceId → s ≠ .trace ∧ s ≠ .traceExpire ∧ s ≠ .traceCard := by
      rintro rfl
      refine ⟨?_, ?_, ?_⟩ <;> rintro rfl <;> exact hon (by simp [GuardrailCall.onTrace])
    exact SetMoved.of_stages (fun htrace => (resume_stages (hstages htrace) reply).1)
      (fun htrace => (resume_stages (hstages htrace) reply).2.1)
      (fun htrace => (resume_stages (hstages htrace) reply).2.2)

end Command

/-! ## One step -/

/-- What a step does to the checks and to the set of a trace. -/
inductive TraceEffect (limit : Int) (traceId : String) (w w' : GuardrailWorld) : Prop
  | same (hstore : w'.redis.store (traceKey traceId) = w.redis.store (traceKey traceId))
      (hchecks : (checksOf w.redis.running w.answered).Perm
        (checksOf w'.redis.running w'.answered))
  | begun {call : CheckCall}
      (hstore : w'.redis.store (traceKey traceId) = w.redis.store (traceKey traceId))
      (hchecks : ((call, CheckStage.rate) :: checksOf w.redis.running w.answered).Perm
        (checksOf w'.redis.running w'.answered))
  | moved {c : CheckCall} {s s' : CheckStage} {rest : List (CheckCall × CheckStage)}
      (hbefore : ((c, s) :: rest).Perm (checksOf w.redis.running w.answered))
      (hafter : ((c, s') :: rest).Perm (checksOf w'.redis.running w'.answered))
      (hset : ∀ ms, w.redis.store.Members (traceKey traceId) ms →
        ∃ ms', w'.redis.store.Members (traceKey traceId) ms' ∧
          SetMoved limit traceId c s s' ms ms')

section Checks

variable {running : List GuardrailCall} {answered : List (CheckCall × CheckResult)} {i : Nat}
  {r r' : GuardrailCall}

theorem checksOf_perm {running' : List GuardrailCall} (h : running.Perm running') :
    (checksOf running answered).Perm (checksOf running' answered) :=
  (h.filterMap _).append_right _

variable (answered) in
/-- A call in progress is the first of the checks, if it is one. -/
theorem checksOf_getElem? (hi : running[i]? = some r) :
    (checksOf (r :: running.eraseIdx i) answered).Perm (checksOf running answered) := by
  obtain ⟨hlt, rfl⟩ := List.getElem?_eq_some_iff.mp hi
  exact checksOf_perm (List.getElem_cons_eraseIdx_perm hlt)

variable (answered) in
theorem checksOf_set (hi : running[i]? = some r) :
    (checksOf (r' :: running.eraseIdx i) answered).Perm
      (checksOf (running.set i r') answered) := by
  obtain ⟨hlt, -⟩ := List.getElem?_eq_some_iff.mp hi
  exact checksOf_perm (List.set_perm_cons_eraseIdx hlt r').symm

/-- A check that ends stays among the checks. -/
theorem checksOf_answered {call : CheckCall} {result : CheckResult}
    (hi : running[i]? = some (.check call (.ended result))) :
    (checksOf running answered).Perm
      (checksOf (running.eraseIdx i) (answered ++ [(call, result)])) := by
  refine (checksOf_getElem? _ hi).symm.trans ?_
  unfold checksOf
  rw [List.map_append, ← List.append_assoc]
  exact (List.perm_append_singleton _ _).symm

end Checks

section Step

variable {fallbackLimits : LimiterSettings} {limits : GuardrailSettings} {traceId : String}
  {w w' : GuardrailWorld} {a : TimedGuardrailAction}

/-- A call goes on with its next stage. -/
theorem traceEffect_set {i : Nat} {r : GuardrailCall} {reply : Option Int}
    (hr : w.redis.running[i]? = some r)
    (hrunning : w'.redis.running = w.redis.running.set i ((guardrailCode limits).resume r reply))
    (hanswered : w'.answered = w.answered)
    (hother : r.check? = none →
      w'.redis.store (traceKey traceId) = w.redis.store (traceKey traceId))
    (hset : ∀ c s, r = .check c s → ∀ ms, w.redis.store.Members (traceKey traceId) ms →
      ∃ ms', w'.redis.store.Members (traceKey traceId) ms' ∧
        SetMoved limits.maxTraceDepth traceId c s (c.resume limits s reply) ms ms') :
    TraceEffect limits.maxTraceDepth traceId w w' := by
  have hbefore := checksOf_getElem? w.answered hr
  have hafter := @checksOf_set _ w.answered _ _ ((guardrailCode limits).resume r reply) hr
  cases r with
  | release process userId stage =>
    refine .same (hother rfl) (hbefore.symm.trans ?_)
    rw [hrunning, hanswered]
    exact hafter
  | check c s =>
    refine .moved hbefore ?_ (hset c s rfl)
    rw [hrunning, hanswered]
    exact hafter

theorem step_traceEffect (hlives : w.TraceLives traceId a) :
    TraceEffect limits.maxTraceDepth traceId w (w.step fallbackLimits limits a) := by
  have heffect := GuardrailWorld.step_effect fallbackLimits limits w a
  generalize hredis : (w.step fallbackLimits limits a).redis = redis at heffect
  generalize hanswered : (w.step fallbackLimits limits a).answered = answered at heffect
  generalize (w.step fallbackLimits limits a).released = released at heffect
  cases heffect with
  | kept => exact .same (by rw [hredis]) (by rw [hredis, hanswered])
  | @checked call hwindow =>
    refine @TraceEffect.begun _ _ _ _ call (by rw [hredis]) ?_
    rw [hredis, hanswered]
    exact checksOf_perm (List.perm_append_singleton (GuardrailCall.check call .rate) _).symm
  | released process haction hconnected =>
    refine .same (by rw [hredis]) ?_
    rw [hredis, hanswered]
    unfold checksOf
    rw [List.filterMap_append, List.append_assoc]
    exact List.Perm.refl _
  | @issued i fate redis haction hissued =>
    cases hissued with
    | idle => exact .same (by rw [hredis]) (by rw [hredis, hanswered])
    | @executed r command reply hr hc hreply hfate =>
      refine traceEffect_set hr (by rw [hredis]) hanswered ?_ ?_
      · intro hrelease
        rw [hredis]
        refine exec_other fun hmem => ?_
        obtain ⟨call, stage, rfl, -⟩ := traceKey_writes hc hmem
        cases hrelease
      · rintro c s rfl ms hms
        rw [hredis]
        refine executed_setMoved hms hc hreply fun hon => hlives _ ?_ hon
        rw [GuardrailWorld.issuer, haction]
        exact hr
    | @unsent r command hr hc hfate =>
      refine traceEffect_set hr (by rw [hredis]) hanswered (fun _ => by rw [hredis]) ?_
      rintro c s rfl ms hms
      rw [hredis]
      have hresume : c.resume limits s none = .ended .unavailable := by cases s <;> rfl
      rw [hresume]
      exact ⟨ms, hms, .unavailable⟩
  | answered hi =>
    refine .same (by rw [hredis]) ?_
    rw [hredis, hanswered]
    exact checksOf_answered hi
  | closed hi =>
    refine .same (by rw [hredis]) ?_
    rw [hredis, hanswered]
    exact (checksOf_getElem? _ hi).symm

end Step

/-! ## What the trace keeps -/

/-- What Redis keeps of a trace. -/
structure DepthKept (limit : Int) (traceId : String) (w : GuardrailWorld) : Prop where
  members : ∃ ms, w.redis.store.Members (traceKey traceId) ms ∧ ms.Nodup ∧
    keysAt CheckStage.recorded traceId (checksOf w.redis.running w.answered) ⊆ ms.toFinset ∧
    ms.toFinset ⊆ namedKeys traceId w
  cleared : ((keysAt CheckStage.cleared traceId
    (checksOf w.redis.running w.answered)).card : Int) ≤ max 0 limit
  refused : (keysAt CheckStage.depthRefused traceId
    (checksOf w.redis.running w.answered)).Nonempty → limit < (namedKeys traceId w).card

namespace DepthKept

variable {limit : Int} {traceId : String} {w w' : GuardrailWorld}

theorem start (degraded : Nat → Bool) (monotonic : Nat → ℚ) :
    DepthKept limit traceId (.start degraded monotonic) where
  members := ⟨[], Or.inl ⟨rfl, rfl⟩, List.nodup_nil, Finset.Subset.refl _, Finset.Subset.refl _⟩
  cleared := le_max_left _ _
  refused := fun h => absurd h Finset.not_nonempty_empty

/-- The checks are listed in another order. -/
theorem of_same (h : DepthKept limit traceId w)
    (hstore : w'.redis.store (traceKey traceId) = w.redis.store (traceKey traceId))
    (hchecks : (checksOf w.redis.running w.answered).Perm
      (checksOf w'.redis.running w'.answered)) : DepthKept limit traceId w' := by
  obtain ⟨⟨ms, hms, hnodup, hrecorded, hnamed⟩, hlimit, hrefused⟩ := h
  unfold namedKeys at hnamed hrefused
  rw [keysAt_perm hchecks] at hrecorded hnamed hlimit hrefused
  rw [keysAt_perm hchecks] at hrefused
  exact ⟨⟨ms, hms.of_eq hstore, hnodup, hrecorded, hnamed⟩, hlimit, hrefused⟩

/-- A check begins. -/
theorem of_begun (h : DepthKept limit traceId w) {call : CheckCall}
    (hstore : w'.redis.store (traceKey traceId) = w.redis.store (traceKey traceId))
    (hchecks : ((call, CheckStage.rate) :: checksOf w.redis.running w.answered).Perm
      (checksOf w'.redis.running w'.answered)) : DepthKept limit traceId w' := by
  obtain ⟨⟨ms, hms, hnodup, hrecorded, hnamed⟩, hlimit, hrefused⟩ := h
  have hnew : ∀ p : CheckStage → Bool, p .rate = false →
      keysAt p traceId (checksOf w'.redis.running w'.answered) =
        keysAt p traceId (checksOf w.redis.running w.answered) := by
    intro p hp
    rw [← keysAt_perm hchecks, keysAt_cons, if_neg (by simp [hp])]
  have hall : namedKeys traceId w ⊆ namedKeys traceId w' := by
    unfold namedKeys
    rw [← keysAt_perm hchecks]
    exact keysAt_tail
  refine ⟨⟨ms, hms.of_eq hstore, hnodup, ?_, hnamed.trans hall⟩, ?_, fun hsome => ?_⟩
  · rwa [hnew CheckStage.recorded rfl]
  · rwa [hnew CheckStage.cleared rfl]
  · rw [hnew CheckStage.depthRefused rfl] at hsome
    have hcard := Finset.card_le_card hall
    have hmore := hrefused hsome
    omega

/-- A check goes on. -/
theorem of_moved (h : DepthKept limit traceId w) {c : CheckCall} {s s' : CheckStage}
    {rest : List (CheckCall × CheckStage)}
    (hbefore : ((c, s) :: rest).Perm (checksOf w.redis.running w.answered))
    (hafter : ((c, s') :: rest).Perm (checksOf w'.redis.running w'.answered))
    (hset : ∀ ms, w.redis.store.Members (traceKey traceId) ms →
      ∃ ms', w'.redis.store.Members (traceKey traceId) ms' ∧
        SetMoved limit traceId c s s' ms ms') : DepthKept limit traceId w' := by
  obtain ⟨⟨ms, hms, hnodup, hrecorded, hnamed⟩, hlimit, hrefused⟩ := h
  obtain ⟨ms', hms', hmoved⟩ := hset ms hms
  have hnamed_eq : namedKeys traceId w' = namedKeys traceId w := by
    unfold namedKeys
    rw [← keysAt_perm hafter, ← keysAt_perm hbefore, keysAt_cons, keysAt_cons]
  have hnamed' : ms'.toFinset ⊆ namedKeys traceId w := by
    rcases hmoved.named with hsub | ⟨htrace, hinsert⟩
    · exact hsub.trans hnamed
    · rw [hinsert]
      refine Finset.insert_subset ?_ hnamed
      unfold namedKeys
      rw [← keysAt_perm hbefore, keysAt_cons, if_pos ⟨htrace, rfl⟩]
      exact Finset.mem_insert_self _ _
  have hcard : ms'.length ≤ (namedKeys traceId w).card := by
    rw [← List.toFinset_card_of_nodup (hmoved.nodup hnodup)]
    exact Finset.card_le_card hnamed'
  rw [← keysAt_perm hbefore] at hrecorded hlimit hrefused
  have hrecorded' : keysAt CheckStage.recorded traceId ((c, s') :: rest) ⊆ ms'.toFinset := by
    have hrest := (keysAt_tail.trans hrecorded).trans hmoved.kept
    by_cases hnew : c.traceId = traceId ∧ s'.recorded = true
    · rw [keysAt_cons, if_pos hnew]
      refine Finset.insert_subset ?_ hrest
      rcases hmoved.recorded hnew.1 hnew.2 with hold | hmem
      · refine hmoved.kept (hrecorded ?_)
        rw [keysAt_cons, if_pos ⟨hnew.1, hold⟩]
        exact Finset.mem_insert_self _ _
      · exact List.mem_toFinset.mpr hmem
    · rwa [keysAt_cons, if_neg hnew]
  refine ⟨⟨ms', hms', hmoved.nodup hnodup, ?_, by rwa [hnamed_eq]⟩, ?_, ?_⟩
  · rwa [← keysAt_perm hafter]
  · rw [← keysAt_perm hafter]
    by_cases hnew : c.traceId = traceId → s'.cleared = true → s.cleared = true
    · have hle : (keysAt CheckStage.cleared traceId ((c, s') :: rest)).card ≤
          (keysAt CheckStage.cleared traceId ((c, s) :: rest)).card :=
        Finset.card_le_card (keysAt_moved hnew)
      omega
    · -- the set has just told its size
      push Not at hnew
      obtain ⟨htrace, hcleared, hnot⟩ := hnew
      rcases hmoved.cleared htrace hcleared with hold | ⟨rfl, hsize⟩
      · exact absurd hold hnot
      · have hle := Finset.card_le_card
          ((keysAt_mono (p := CheckStage.cleared) (fun _ => recorded_of_cleared)
            (List.Subset.refl _)).trans hrecorded')
        rw [List.toFinset_card_of_nodup hnodup] at hle
        omega
  · rw [← keysAt_perm hafter, hnamed_eq]
    intro hsome
    by_cases hnew : c.traceId = traceId → s'.depthRefused = true → s.depthRefused = true
    · exact hrefused (hsome.mono (keysAt_moved hnew))
    · push Not at hnew
      obtain ⟨htrace, hdeep, hnot⟩ := hnew
      rcases hmoved.refused htrace hdeep with hold | hsize
      · exact absurd hold hnot
      · omega

theorem of_effect (h : DepthKept limit traceId w) (heffect : TraceEffect limit traceId w w') :
    DepthKept limit traceId w' := by
  cases heffect with
  | same hstore hchecks => exact h.of_same hstore hchecks
  | begun hstore hchecks => exact h.of_begun hstore hchecks
  | moved hbefore hafter hset => exact h.of_moved hbefore hafter hset

end DepthKept

/-- A full set lets no further check pass. -/
theorem TraceEffect.staysFull {limit : Int} {traceId : String} {w w' : GuardrailWorld}
    (h : TraceEffect limit traceId w w') {ms : List String}
    (hms : w.redis.store.Members (traceKey traceId) ms) (hfull : limit < ms.length) :
    clearedChecks traceId w' ≤ clearedChecks traceId w := by
  unfold clearedChecks
  cases h with
  | same hstore hchecks => rw [hchecks.countP_eq]
  | begun hstore hchecks =>
    rw [← hchecks.countP_eq, List.countP_cons_of_neg (by simp [CheckStage.cleared])]
  | @moved c s s' rest hbefore hafter hset =>
    rw [← hbefore.countP_eq, ← hafter.countP_eq, List.countP_cons, List.countP_cons]
    by_cases hcleared : (decide (c.traceId = traceId) && s'.cleared) = true
    · obtain ⟨htrace, hs'⟩ := Bool.and_eq_true_iff.mp hcleared
      obtain ⟨ms', -, hmoved⟩ := hset ms hms
      rcases hmoved.cleared (of_decide_eq_true htrace) hs' with hs | ⟨-, hsize⟩
      · simp [htrace, hs, hs']
      · omega
    · rw [if_neg hcleared]
      omega

/-! ## Runs -/

/-- However the commands of the processes interleave and fail, while the set of a trace does not
expire, the checks of the trace that Redis lets pass name at most as many keys as the limit, and
none is refused for the depth while no more keys than the limit are named; once the set exceeds
the limit it lets no check pass. -/
theorem trace_depth_holds (fallbackLimits : LimiterSettings) (limits : GuardrailSettings)
    (degraded : Nat → Bool) (monotonic : Nat → ℚ) (traceId : String)
    {actions : List TimedGuardrailAction}
    (hlives : Along (GuardrailWorld.step fallbackLimits limits)
      (GuardrailWorld.TraceLives traceId) (.start degraded monotonic) actions) :
    Throughout (GuardrailWorld.step fallbackLimits limits) (fun w =>
      ((passedKeys traceId w).card : Int) ≤ max 0 limits.maxTraceDepth ∧
      (((namedKeys traceId w).card : Int) ≤ limits.maxTraceDepth →
        depthRefusals traceId w.answered = 0)) (.start degraded monotonic) actions ∧
    Along (GuardrailWorld.step fallbackLimits limits)
      (GuardrailWorld.StaysFull fallbackLimits limits traceId) (.start degraded monotonic)
      actions := by
  have hkept : Throughout (GuardrailWorld.step fallbackLimits limits)
      (DepthKept limits.maxTraceDepth traceId) (.start degraded monotonic) actions :=
    throughout_of_along (DepthKept.start degraded monotonic)
      (fun w a ha hw => hw.of_effect (step_traceEffect ha)) hlives
  refine ⟨hkept.imp fun w hw => ⟨?_, fun hfew => ?_⟩, ?_⟩
  · have hsub : passedKeys traceId w ⊆
        keysAt CheckStage.cleared traceId (checksOf w.redis.running w.answered) := by
      refine keysAt_mono (fun s hs => ?_) (List.subset_append_right _ _)
      rw [of_decide_eq_true hs]
      rfl
    have hle := Finset.card_le_card hsub
    have hlimit := hw.cleared
    omega
  · unfold depthRefusals
    rw [List.countP_eq_zero]
    intro r hr hrefused
    obtain ⟨htrace, hdeep⟩ := Bool.and_eq_true_iff.mp hrefused
    refine absurd (hw.refused ⟨r.1.idempotencyKey, ?_⟩) (not_lt.mpr hfew)
    simp only [keysAt, List.mem_toFinset, List.mem_map, List.mem_filter, Bool.and_eq_true]
    refine ⟨(r.1, .ended r.2), ⟨?_, htrace, hdeep⟩, rfl⟩
    exact List.mem_append_right _ (List.mem_map_of_mem hr)
  · exact Along.imp hkept (fun w a _ ha ms hms hfull =>
      (step_traceEffect ha).staysFull hms hfull) hlives

/-- The second key of a trace is one too many. -/
def secondKey : List TimedGuardrailAction :=
  [⟨1, 0, .check 0 "u" "t" "a"⟩] ++ List.replicate 7 ⟨1, 0, .command 0 .answered⟩ ++
    [⟨2, 0, .finish 0⟩, ⟨2, 0, .check 1 "u" "t" "b"⟩] ++
    List.replicate 4 ⟨3, 0, .command 0 .answered⟩ ++ [⟨4, 0, .finish 0⟩]

/-- One key of a trace. -/
def oneKey : GuardrailSettings := { GuardrailSettings.default with maxTraceDepth := 1 }

theorem trace_depth_secondKey :
    ((passedKeys "t" (secondKey.foldl (GuardrailWorld.step .default oneKey)
      (.start (fun _ => false) fun _ => 0))).card : Int) ≤ max 0 1 :=
  (@trace_depth_holds .default oneKey (fun _ => false) (fun _ => 0) "t" secondKey
    (by decide +kernel)).1.last.1

example : (secondKey.foldl (GuardrailWorld.step .default oneKey)
    (.start (fun _ => false) fun _ => 0)).answered.map (fun r => r.2) =
      [.passed, .refused (.traceDepthExceeded "trace depth exceeded for t")] := by
  decide +kernel

end Governor.Operations
