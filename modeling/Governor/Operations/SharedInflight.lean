import Mathlib
import Governor.Operations.Guardrails

/-!
# Reservations in flight across processes

A check counts its reservation before it looks at the limit and takes it back beyond, a release
takes it back later. While the counter of a user does not expire under reservations in use, it
covers all of them, so Redis never lets more pass than the limit, whatever interleaves or fails;
without failures it is exact.
-/

namespace Governor.Operations

open KeyStore

/-! ## Reservations in use -/

/-- The user's reservations that Redis has let pass and that have not been given back to it. -/
def heldInRedis (answered : List (CheckCall × CheckResult)) (released : List String)
    (userId : String) : Int :=
  (answered.countP fun r => r.1.userId = userId && r.2 = .passed : Nat) -
    (released.countP fun other => other = userId : Nat)

/-- The stages in which a check's reservation is counted. -/
def CheckStage.occupies : CheckStage → Bool
  | .inflightExpire _ => true
  | .inflightUndo => true
  | .ended result => result = .passed
  | _ => false

/-- A call in progress whose reservation is counted. -/
def GuardrailCall.occupies (userId : String) : GuardrailCall → Bool
  | .check call stage => call.userId = userId && stage.occupies
  | .release _ other stage => other = userId && stage = .decr

/-- The stages in which a check's reservation is counted for good. -/
def CheckStage.holds (limit : Int) : CheckStage → Bool
  | .inflightExpire n => n ≤ limit
  | .ended result => result = .passed
  | _ => false

/-- A call in progress whose reservation has been let pass. -/
def GuardrailCall.holds (limit : Int) (userId : String) : GuardrailCall → Bool
  | .check call stage => call.userId = userId && stage.holds limit
  | .release _ other stage => other = userId && stage = .decr

/-- A check that is about to count its reservation. -/
def GuardrailCall.counting (userId : String) : GuardrailCall → Bool
  | .check call stage => call.userId = userId && stage = .inflight
  | .release .. => false

/-- The user's reservations that are held or in progress. -/
def inUse (running : List GuardrailCall) (answered : List (CheckCall × CheckResult))
    (released : List String) (userId : String) : Int :=
  heldInRedis answered released userId + (running.countP (GuardrailCall.occupies userId) : Nat)

namespace GuardrailWorld

/-- The action gives back a reservation that is held. -/
def givesBackHeld (w : GuardrailWorld) (userId : String) (a : TimedGuardrailAction) : Bool :=
  match a.action with
  | .release process other =>
    w.degraded process || other ≠ userId || 0 < heldInRedis w.answered w.released userId
  | _ => true

/-- The user's counter has not expired while reservations are in use, and a release gives back
one that is held. -/
def Orderly (userId : String) (w : GuardrailWorld) (a : TimedGuardrailAction) : Prop :=
  (0 < inUse w.redis.running w.answered w.released userId →
    w.redis.store.get a.time (inflightKey userId) = w.redis.store (inflightKey userId)) ∧
    w.givesBackHeld userId a = true

instance (userId : String) (w : GuardrailWorld) (a : TimedGuardrailAction) :
    Decidable (w.Orderly userId a) :=
  inferInstanceAs (Decidable (_ ∧ _))

end GuardrailWorld

/-- The reply of a command arrives. -/
def TimedGuardrailAction.arrives (a : TimedGuardrailAction) : Bool :=
  match a.action with
  | .command _ fate => fate = .answered
  | _ => true

/-! ## One call -/

section Call

variable {limits : GuardrailSettings} {userId : String} {r : GuardrailCall}
  {c : Command String String ℚ}

/-- A release leaves its first stage for good. -/
theorem release_resume_ne_decr (stage : ReleaseStage) (reply : Option Int) :
    stage.resume reply ≠ .decr := by
  cases reply with
  | none => cases stage <;> simp [ReleaseStage.resume]
  | some n =>
    cases stage with
    | decr =>
      simp only [ReleaseStage.resume]
      split_ifs <;> simp
    | reset | ended _ => simp [ReleaseStage.resume]

/-- Only the last commands of the user's checks and the user's releases write the counter. -/
theorem inflightKey_writes (hc : (guardrailCode limits).next r = some c)
    (hmem : inflightKey userId ∈ c.writes) :
    (∃ call, r = .check call .inflight ∧ call.userId = userId ∧ c = .incr (inflightKey userId)) ∨
    (∃ call n, r = .check call (.inflightExpire n) ∧ call.userId = userId ∧
      c = .expire (inflightKey userId) (limits.reserveTtlSeconds + 120)) ∨
    (c = .decr (inflightKey userId) ∧ r.occupies userId = true ∧ ∀ reply,
      ((guardrailCode limits).resume r reply).occupies userId = false ∧
      (((guardrailCode limits).resume r reply).holds limits.maxUserInflight userId = true →
        False)) ∨
    ∃ process, r = .release process userId .reset := by
  cases r with
  | release process other stage =>
    cases stage with
    | ended answered => cases hc
    | decr =>
      obtain rfl := Option.some.inj hc
      obtain rfl := inflightKey_inj.mp (List.mem_singleton.mp hmem)
      refine Or.inr (Or.inr (Or.inl ⟨rfl, by simp [GuardrailCall.occupies], fun reply => ?_⟩))
      simp [guardrailCode, GuardrailCall.occupies, GuardrailCall.holds, release_resume_ne_decr]
    | reset =>
      obtain rfl := Option.some.inj hc
      obtain rfl := inflightKey_inj.mp (List.mem_singleton.mp hmem)
      exact Or.inr (Or.inr (Or.inr ⟨process, rfl⟩))
  | check call stage =>
    cases stage with
    | ended result => cases hc
    | rate | rateExpire _ =>
      obtain rfl := Option.some.inj hc
      exact absurd (List.mem_singleton.mp hmem).symm (rateKey_ne_inflightKey _ _ _)
    | trace | traceExpire =>
      obtain rfl := Option.some.inj hc
      exact absurd (List.mem_singleton.mp hmem).symm (traceKey_ne_inflightKey _ _)
    | traceCard =>
      obtain rfl := Option.some.inj hc
      cases hmem
    | inflight =>
      obtain rfl := Option.some.inj hc
      obtain rfl := inflightKey_inj.mp (List.mem_singleton.mp hmem)
      exact Or.inl ⟨call, rfl, rfl, rfl⟩
    | inflightExpire n =>
      obtain rfl := Option.some.inj hc
      obtain rfl := inflightKey_inj.mp (List.mem_singleton.mp hmem)
      exact Or.inr (Or.inl ⟨call, n, rfl, rfl, rfl⟩)
    | inflightUndo =>
      obtain rfl := Option.some.inj hc
      obtain rfl := inflightKey_inj.mp (List.mem_singleton.mp hmem)
      refine Or.inr (Or.inr (Or.inl ⟨rfl, by simp [GuardrailCall.occupies, CheckStage.occupies],
        fun reply => ?_⟩))
      cases reply <;> simp [guardrailCode, CheckCall.resume, GuardrailCall.occupies,
        GuardrailCall.holds, CheckStage.occupies, CheckStage.holds]

theorem holds_le_occupies (limit : Int) (h : r.holds limit userId = true) :
    r.occupies userId = true := by
  cases r with
  | release process other stage => exact h
  | check call stage =>
    cases stage <;> simp_all [GuardrailCall.holds, GuardrailCall.occupies, CheckStage.holds,
      CheckStage.occupies]

variable (limits userId r) in
/-- Apart from the count itself no reply makes a reservation counted. -/
theorem occupies_resume (reply : Option Int)
    (hcounting : r.counting userId = true → reply = none) :
    (((guardrailCode limits).resume r reply).occupies userId = true →
      r.occupies userId = true) ∧
    (((guardrailCode limits).resume r reply).holds limits.maxUserInflight userId = true →
      r.holds limits.maxUserInflight userId = true) := by
  cases r with
  | release process other stage =>
    simp [guardrailCode, GuardrailCall.occupies, GuardrailCall.holds, release_resume_ne_decr]
  | check call stage =>
    by_cases hown : call.userId = userId
    · cases reply with
      | none =>
        cases stage <;> simp [guardrailCode, CheckCall.resume, GuardrailCall.occupies,
          GuardrailCall.holds, CheckStage.occupies, CheckStage.holds]
      | some n =>
        cases stage with
        | inflight => cases hcounting (by simp [GuardrailCall.counting, hown])
        | rate | rateExpire _ =>
          simp only [guardrailCode, CheckCall.resume, CheckCall.rated, GuardrailCall.occupies,
            GuardrailCall.holds]
          split_ifs <;> simp [CheckStage.occupies, CheckStage.holds]
        | trace | traceExpire | inflightUndo =>
          simp [guardrailCode, CheckCall.resume, GuardrailCall.occupies, GuardrailCall.holds,
            CheckStage.occupies, CheckStage.holds]
        | traceCard =>
          simp only [guardrailCode, CheckCall.resume, GuardrailCall.occupies, GuardrailCall.holds]
          split_ifs <;> simp [CheckStage.occupies, CheckStage.holds]
        | inflightExpire m =>
          simp only [guardrailCode, CheckCall.resume, CheckCall.counted, GuardrailCall.occupies,
            GuardrailCall.holds]
          split_ifs with hlimit
          · simp [CheckStage.occupies, CheckStage.holds]
          · simp [CheckStage.occupies, CheckStage.holds, hown, not_lt.mp hlimit]
        | ended result => simp [guardrailCode, CheckCall.resume]
    · simp [guardrailCode, GuardrailCall.occupies, GuardrailCall.holds, hown]

/-- The count makes a reservation counted, for good within the limit. -/
theorem occupies_counting {call : CheckCall} {n : Int} (hown : call.userId = userId) :
    ((guardrailCode limits).resume (.check call .inflight) (some n)).occupies userId = true ∧
    (((guardrailCode limits).resume (.check call .inflight) (some n)).holds limits.maxUserInflight
      userId = true → n ≤ limits.maxUserInflight) := by
  simp only [guardrailCode, CheckCall.resume, CheckCall.counted, GuardrailCall.occupies,
    GuardrailCall.holds, hown]
  split_ifs with hone hlimit
  · simp [CheckStage.occupies, CheckStage.holds]
  · simp [CheckStage.occupies, CheckStage.holds]
  · simp [CheckStage.occupies, CheckStage.holds, not_lt.mp hlimit]

end Call

/-! ## Redis -/

/-- What Redis and the calls on it keep of a user's reservations. -/
structure CountKept (limits : GuardrailSettings) (userId : String) (reliable : Prop)
    (redis : Shared String String ℚ GuardrailCall) (answered : List (CheckCall × CheckResult))
    (released : List String) : Prop where
  /-- The counter covers the reservations in use. -/
  counter : ∃ n : Int, redis.store.Number (inflightKey userId) n ∧
    inUse redis.running answered released userId ≤ n ∧
    (reliable → n = inUse redis.running answered released userId)
  limit : heldInRedis answered released userId + (redis.running.countP
    (GuardrailCall.holds limits.maxUserInflight userId) : Nat) ≤ max 0 limits.maxUserInflight
  nonneg : 0 ≤ heldInRedis answered released userId
  /-- No release finds a counter below zero. -/
  noReset : ∀ process, GuardrailCall.release process userId .reset ∉ redis.running

namespace CountKept

variable {limits : GuardrailSettings} {userId : String} {reliable : Prop} {now : ℚ}
  {redis : Shared String String ℚ GuardrailCall} {answered : List (CheckCall × CheckResult)}
  {released : List String} {i : Nat} {r r' : GuardrailCall}

variable (userId answered released) in
theorem inUse_set (hi : redis.running[i]? = some r) (r' : GuardrailCall) :
    inUse (redis.running.set i r') answered released userId +
        (if r.occupies userId = true then 1 else 0) =
      inUse redis.running answered released userId +
        if r'.occupies userId = true then 1 else 0 := by
  have hmoved := countP_moved (GuardrailCall.occupies userId) hi r'
  unfold inUse
  split_ifs at hmoved ⊢ <;> omega

variable (userId answered released) in
theorem holds_le_inUse (limit : Int) (running : List GuardrailCall) :
    heldInRedis answered released userId +
        (running.countP (GuardrailCall.holds limit userId) : Nat) ≤
      inUse running answered released userId := by
  have hle : running.countP (GuardrailCall.holds limit userId) ≤
      running.countP (GuardrailCall.occupies userId) :=
    List.countP_mono_left fun r _ => holds_le_occupies limit
  unfold inUse
  omega

/-- An occupied reservation is in use. -/
theorem inUse_pos (h : CountKept limits userId reliable redis answered released)
    (hi : redis.running[i]? = some r) (hr : r.occupies userId = true) :
    0 < inUse redis.running answered released userId := by
  have hpos : 0 < redis.running.countP (GuardrailCall.occupies userId) :=
    List.countP_pos_iff.mpr ⟨r, List.mem_of_getElem? hi, hr⟩
  have hheld := h.nonneg
  unfold inUse
  omega

/-- A call goes on, and the counter still covers the reservations in use. -/
theorem moved (h : CountKept limits userId reliable redis answered released)
    (hi : redis.running[i]? = some r) {store : Store String String ℚ} {n : Int}
    (hn : store.Number (inflightKey userId) n)
    (hbound : inUse (redis.running.set i r') answered released userId ≤ n)
    (hexact : reliable → n = inUse (redis.running.set i r') answered released userId)
    (hholds : r'.holds limits.maxUserInflight userId = true →
      r.holds limits.maxUserInflight userId = true ∨ n ≤ limits.maxUserInflight)
    (hreset : ∀ process, r' ≠ .release process userId .reset) :
    CountKept limits userId reliable ⟨store, redis.running.set i r'⟩ answered released := by
  refine ⟨⟨n, hn, hbound, hexact⟩, ?_, h.nonneg, fun process hmem => ?_⟩
  · have hmoved := countP_moved (GuardrailCall.holds limits.maxUserInflight userId) hi r'
    have hle := holds_le_inUse userId answered released limits.maxUserInflight
      (redis.running.set i r')
    have hlimit := h.limit
    have hmax := le_max_right 0 limits.maxUserInflight
    change heldInRedis answered released userId + ((redis.running.set i r').countP _ : Nat) ≤ _
    by_cases hr' : r'.holds limits.maxUserInflight userId = true
    · rcases hholds hr' with hr | hsmall
      · rw [if_pos hr, if_pos hr'] at hmoved
        omega
      · omega
    · rw [if_neg hr'] at hmoved
      omega
  · rcases List.mem_or_eq_of_mem_set hmem with hmem | hmem
    · exact h.noReset process hmem
    · exact hreset process hmem.symm

/-- A call that occupies a reservation writes the counter next. -/
theorem writes_of_occupies {c : Command String String ℚ}
    (hc : (guardrailCode limits).next r = some c) (hr : r.occupies userId = true) :
    inflightKey userId ∈ c.writes := by
  cases r with
  | release process other stage =>
    simp only [GuardrailCall.occupies, Bool.and_eq_true, decide_eq_true_eq] at hr
    obtain ⟨rfl, rfl⟩ := hr
    obtain rfl := Option.some.inj hc
    exact List.mem_singleton_self _
  | check call stage =>
    simp only [GuardrailCall.occupies, Bool.and_eq_true, decide_eq_true_eq] at hr
    obtain ⟨rfl, hstage⟩ := hr
    cases stage with
    | ended result => cases hc
    | inflightExpire n | inflightUndo =>
      obtain rfl := Option.some.inj hc
      exact List.mem_singleton_self _
    | rate | rateExpire _ | trace | traceExpire | traceCard | inflight => cases hstage

/-- A call whose command does not reach the counter leaves the reservations in use. -/
theorem passedBy (h : CountKept limits userId reliable redis answered released)
    (hi : redis.running[i]? = some r) {c : Command String String ℚ}
    (hc : (guardrailCode limits).next r = some c) (hmem : inflightKey userId ∉ c.writes)
    {store : Store String String ℚ}
    (hstore : store (inflightKey userId) = redis.store (inflightKey userId))
    (reply : Option Int) :
    CountKept limits userId reliable
      ⟨store, redis.running.set i ((guardrailCode limits).resume r reply)⟩ answered released := by
  have hcounting : r.counting userId = true → reply = none := by
    intro hcounting
    refine absurd ?_ hmem
    cases r with
    | release process other stage => cases hcounting
    | check call stage =>
      simp only [GuardrailCall.counting, Bool.and_eq_true, decide_eq_true_eq] at hcounting
      obtain ⟨rfl, rfl⟩ := hcounting
      obtain rfl := Option.some.inj hc
      exact List.mem_singleton_self _
  have hfree : r.occupies userId ≠ true := fun hr => hmem (writes_of_occupies hc hr)
  obtain ⟨hoccupies, hholds⟩ := occupies_resume limits userId r reply hcounting
  have huse := inUse_set userId answered released hi
    ((guardrailCode limits).resume r reply)
  rw [if_neg hfree, if_neg fun hr' => hfree (hoccupies hr'), add_zero, add_zero] at huse
  obtain ⟨n, hn, hbound, hexact⟩ := h.counter
  refine h.moved hi (hn.of_eq hstore) (huse.symm ▸ hbound) (huse.symm ▸ hexact)
    (fun hr' => Or.inl (hholds hr')) ?_
  intro process hr'
  cases r with
  | check call stage => cases hr'
  | release p other stage =>
    obtain ⟨rfl, rfl, hstage⟩ := GuardrailCall.release.inj hr'
    cases stage with
    | decr => exact hfree (by simp [GuardrailCall.occupies])
    | reset => exact h.noReset p (List.mem_of_getElem? hi)
    | ended answered => cases hc

/-- The counter counts one reservation more, from zero when it has expired. -/
theorem incr (h : CountKept limits userId reliable redis answered released)
    (hlive : 0 < inUse redis.running answered released userId →
      redis.store.get now (inflightKey userId) = redis.store (inflightKey userId)) :
    ∃ n : Int, (exec now redis.store (.incr (inflightKey userId))).1 = some n ∧
      (exec now redis.store (.incr (inflightKey userId))).2.Number (inflightKey userId) n ∧
      inUse redis.running answered released userId + 1 ≤ n ∧
      (reliable → n = inUse redis.running answered released userId + 1) := by
  obtain ⟨n, hn, hbound, hexact⟩ := h.counter
  by_cases halive : redis.store.get now (inflightKey userId) = redis.store (inflightKey userId)
  · obtain ⟨hreply, hn'⟩ := hn.add halive 1
    exact ⟨n + 1, hreply, hn', by omega, fun hreliable => by rw [hexact hreliable]⟩
  · have hgone : redis.store.get now (inflightKey userId) = none := by
      rcases hentry : redis.store (inflightKey userId) with _ | e
      · simp [Store.get, hentry]
      · rw [Store.get, hentry, Option.filter_eq_none_iff]
        intro e' he' hlive'
        obtain rfl := Option.some.inj he'
        exact halive (by rw [Store.get, hentry, Option.filter_some_pos hlive'])
    have hidle : inUse redis.running answered released userId = 0 := by
      have hnonneg := h.nonneg
      have hle : inUse redis.running answered released userId ≤ 0 := not_lt.mp (mt hlive halive)
      unfold inUse at hle ⊢
      omega
    obtain ⟨hreply, hn'⟩ := Store.add_gone hgone 1
    exact ⟨1, hreply, hn', by omega, fun _ => by omega⟩

/-- A command that is executed on a counter that has not expired in use. -/
theorem executed (h : CountKept limits userId reliable redis answered released)
    (httl : 0 < limits.reserveTtlSeconds + 120) (hi : redis.running[i]? = some r)
    {c : Command String String ℚ} (hc : (guardrailCode limits).next r = some c)
    {reply : Option Int} (hreply : reply = (exec now redis.store c).1 ∨ reply = none)
    (hanswered : reliable → reply = (exec now redis.store c).1)
    (hlive : 0 < inUse redis.running answered released userId →
      redis.store.get now (inflightKey userId) = redis.store (inflightKey userId)) :
    CountKept limits userId reliable
      ⟨(exec now redis.store c).2, redis.running.set i ((guardrailCode limits).resume r reply)⟩
      answered released := by
  by_cases hmem : inflightKey userId ∈ c.writes
  · have huse := inUse_set userId answered released hi
      ((guardrailCode limits).resume r reply)
    rcases inflightKey_writes hc hmem with ⟨call, rfl, hown, rfl⟩ | ⟨call, m, rfl, hown, rfl⟩ |
      ⟨rfl, hr, hafter⟩ | ⟨process, rfl⟩
    · -- the reservation is counted
      obtain ⟨n, hnext, hn, hbound, hexact⟩ := h.incr hlive
      have hfree : (GuardrailCall.check call .inflight).occupies userId ≠ true := by
        simp [GuardrailCall.occupies, CheckStage.occupies]
      rw [if_neg hfree, add_zero] at huse
      rw [hnext] at hreply hanswered
      refine h.moved hi hn ?_ ?_ ?_ (by simp [guardrailCode])
      · rw [huse]
        split_ifs <;> omega
      · intro hreliable
        obtain rfl := hanswered hreliable
        rw [huse, if_pos (occupies_counting hown).1]
        exact hexact hreliable
      · intro hr'
        rcases hreply with rfl | rfl
        · exact Or.inr ((occupies_counting hown).2 hr')
        · simp [guardrailCode, CheckCall.resume, GuardrailCall.holds, CheckStage.holds] at hr'
    · -- the counter is told to expire later
      have hr : (GuardrailCall.check call (.inflightExpire m)).occupies userId = true := by
        simp [GuardrailCall.occupies, CheckStage.occupies, hown]
      obtain ⟨n, hn, hbound, hexact⟩ := h.counter
      have halive := hlive (h.inUse_pos hi hr)
      have hperiod : (0 : ℚ) < (limits.reserveTtlSeconds : ℚ) + 120 := by exact_mod_cast httl
      obtain ⟨hoccupies, hholds⟩ := occupies_resume limits userId
        (.check call (.inflightExpire m)) reply fun hcounting => by
          simp [GuardrailCall.counting] at hcounting
      rw [if_pos hr] at huse
      refine h.moved hi (hn.expire halive hperiod) ?_ ?_ (fun hr' => Or.inl (hholds hr'))
        (by simp [guardrailCode])
      · split_ifs at huse <;> omega
      · intro hreliable
        obtain ⟨k, hk⟩ : ∃ k, reply = some k := by
          rw [hanswered hreliable]
          simp only [exec]
          split
          · exact ⟨0, rfl⟩
          · rw [if_neg (not_le.mpr hperiod)]
            exact ⟨1, rfl⟩
        have hr' : ((guardrailCode limits).resume (.check call (.inflightExpire m)) reply).occupies
            userId = true := by
          rw [hk]
          simp only [guardrailCode, CheckCall.resume, CheckCall.counted, GuardrailCall.occupies,
            hown]
          split_ifs <;> simp [CheckStage.occupies]
        rw [if_pos hr'] at huse
        have hsame := hexact hreliable
        omega
    · -- the reservation is taken back
      obtain ⟨n, hn, hbound, hexact⟩ := h.counter
      have hpos := h.inUse_pos hi hr
      obtain ⟨hnext, hn'⟩ := hn.add (hlive hpos) (-1)
      rw [if_pos hr, (hafter reply).1, if_neg Bool.false_ne_true] at huse
      refine h.moved hi hn' (by omega) (fun hreliable => ?_) (fun hr' => ?_) ?_
      · have hsame := hexact hreliable
        omega
      · exact absurd hr' ((hafter reply).2)
      · intro process hr'
        cases r with
        | check call stage => cases hr'
        | release p other stage =>
          obtain ⟨rfl, rfl, hstage⟩ := GuardrailCall.release.inj hr'
          simp only [GuardrailCall.occupies, decide_true, Bool.true_and, decide_eq_true_eq] at hr
          rw [hr] at hstage
          rcases hreply with rfl | rfl
          · have hvalue : (exec now redis.store (.decr (inflightKey other))).1 = some (n + -1) :=
              hnext
            rw [hvalue] at hstage
            simp only [ReleaseStage.resume] at hstage
            rw [if_neg (by omega)] at hstage
            cases hstage
          · cases hstage
    · exact absurd (List.mem_of_getElem? hi) (h.noReset process)
  · exact h.passedBy hi hc hmem (exec_other hmem) reply

/-- A call whose command does not reach Redis gives up. -/
theorem unsent (h : CountKept limits userId reliable redis answered released)
    (hi : redis.running[i]? = some r) (hreliable : ¬ reliable) :
    CountKept limits userId reliable
      ⟨redis.store, redis.running.set i ((guardrailCode limits).resume r none)⟩ answered
      released := by
  obtain ⟨hoccupies, hholds⟩ := occupies_resume limits userId r none fun _ => rfl
  have huse := inUse_set userId answered released hi
    ((guardrailCode limits).resume r none)
  obtain ⟨n, hn, hbound, -⟩ := h.counter
  refine h.moved hi hn ?_ (fun hr => absurd hr hreliable) (fun hr' => Or.inl (hholds hr')) ?_
  · by_cases hr' : ((guardrailCode limits).resume r none).occupies userId = true
    · rw [if_pos hr', if_pos (hoccupies hr')] at huse
      omega
    · rw [if_neg hr'] at huse
      split_ifs at huse <;> omega
  · intro process hr'
    cases r with
    | check call stage => cases hr'
    | release p other stage =>
      obtain ⟨-, -, hstage⟩ := GuardrailCall.release.inj hr'
      cases stage <;> cases hstage

/-- A release of the user gives back one reservation and occupies it until it has reached the
counter; other calls begin without one. -/
theorem joined (h : CountKept limits userId reliable redis answered released)
    (more : List String) (unit : Nat)
    (hmore : (more.countP fun other => other = userId) = unit)
    (hheld : (unit : Int) ≤ heldInRedis answered released userId)
    (hoccupies : (if r.occupies userId = true then 1 else 0) = unit)
    (hholds : (if r.holds limits.maxUserInflight userId = true then 1 else 0) = unit)
    (hreset : ∀ process, r ≠ .release process userId .reset) :
    CountKept limits userId reliable ⟨redis.store, redis.running ++ [r]⟩ answered
      (released ++ more) := by
  have hback : heldInRedis answered (released ++ more) userId =
      heldInRedis answered released userId - unit := by
    unfold heldInRedis
    rw [List.countP_append, hmore]
    push_cast
    ring
  have huse : inUse (redis.running ++ [r]) answered (released ++ more) userId =
      inUse redis.running answered released userId := by
    unfold inUse
    rw [hback, List.countP_append, List.countP_singleton, hoccupies]
    push_cast
    ring
  obtain ⟨n, hn, hbound, hexact⟩ := h.counter
  refine ⟨⟨n, hn, huse.symm ▸ hbound, huse.symm ▸ hexact⟩, ?_, by omega, fun process hmem => ?_⟩
  · have hlimit := h.limit
    rw [hback, List.countP_append, List.countP_singleton, hholds]
    push_cast
    omega
  · rcases List.mem_append.mp hmem with hmem | hmem
    · exact h.noReset process hmem
    · exact hreset process (List.mem_singleton.mp hmem).symm

/-- A call ends, and its reservation is held from now on if the check has passed. -/
theorem left (h : CountKept limits userId reliable redis answered released)
    (hi : redis.running[i]? = some r) (more : List (CheckCall × CheckResult)) (unit : Nat)
    (hmore : (more.countP fun r => r.1.userId = userId && r.2 = .passed) = unit)
    (hoccupies : (if r.occupies userId = true then 1 else 0) = unit)
    (hholds : (if r.holds limits.maxUserInflight userId = true then 1 else 0) = unit) :
    CountKept limits userId reliable ⟨redis.store, redis.running.eraseIdx i⟩ (answered ++ more)
      released := by
  have hended := countP_ended (GuardrailCall.occupies userId) hi
  have hendedHolds := countP_ended (GuardrailCall.holds limits.maxUserInflight userId) hi
  rw [hoccupies] at hended
  rw [hholds] at hendedHolds
  have hback : heldInRedis (answered ++ more) released userId =
      heldInRedis answered released userId + unit := by
    unfold heldInRedis
    rw [List.countP_append, hmore]
    push_cast
    ring
  have huse : inUse (redis.running.eraseIdx i) (answered ++ more) released userId =
      inUse redis.running answered released userId := by
    unfold inUse
    rw [hback, hended]
    push_cast
    ring
  obtain ⟨n, hn, hbound, hexact⟩ := h.counter
  have hnonneg := h.nonneg
  refine ⟨⟨n, hn, huse.symm ▸ hbound, huse.symm ▸ hexact⟩, ?_, by omega, fun process hmem =>
    h.noReset process ((List.eraseIdx_sublist _ _).subset hmem)⟩
  have hlimit := h.limit
  rw [hback]
  change _ + ((redis.running.eraseIdx i).countP _ : Nat) ≤ max 0 limits.maxUserInflight
  omega

end CountKept

/-! ## Runs -/

section Runs

variable {fallbackLimits : LimiterSettings} {limits : GuardrailSettings} {userId : String}
  {reliable : Prop} {w : GuardrailWorld} {a : TimedGuardrailAction}

/-- What the world keeps of a user's reservations. -/
def GuardrailWorld.Counted (limits : GuardrailSettings) (userId : String) (reliable : Prop)
    (w : GuardrailWorld) : Prop :=
  CountKept limits userId reliable w.redis w.answered w.released

theorem GuardrailWorld.start_counted (degraded : Nat → Bool) (monotonic : Nat → ℚ) :
    (start degraded monotonic).Counted limits userId reliable where
  counter := ⟨0, Or.inl ⟨rfl, rfl⟩, le_rfl, fun _ => rfl⟩
  limit := le_max_left _ _
  nonneg := le_rfl
  noReset := fun process hmem => by cases hmem

theorem GuardrailWorld.step_counted (httl : 0 < limits.reserveTtlSeconds + 120)
    (horderly : w.Orderly userId a) (harrives : reliable → a.arrives = true)
    (h : w.Counted limits userId reliable) :
    (step fallbackLimits limits w a).Counted limits userId reliable := by
  have heffect := step_effect fallbackLimits limits w a
  unfold Counted at h ⊢
  generalize (step fallbackLimits limits w a).redis = redis at heffect ⊢
  generalize (step fallbackLimits limits w a).answered = answered at heffect ⊢
  generalize (step fallbackLimits limits w a).released = released at heffect ⊢
  cases heffect with
  | kept => exact h
  | @checked call hwindow =>
    have hjoined := CountKept.joined (r := .check call .rate) h [] 0 rfl
      (by simpa using h.nonneg) (by simp [GuardrailCall.occupies, CheckStage.occupies])
      (by simp [GuardrailCall.holds, CheckStage.holds]) (by simp)
    rwa [List.append_nil] at hjoined
  | @released process other haction hconnected =>
    by_cases hown : other = userId
    · have hheld : 0 < heldInRedis w.answered w.released userId := by
        have hback := horderly.2
        rw [givesBackHeld, haction] at hback
        simpa [hconnected, hown] using hback
      exact h.joined _ 1 (by simp [hown]) (by omega)
        (by simp [GuardrailCall.occupies, hown]) (by simp [GuardrailCall.holds, hown]) (by simp)
    · exact h.joined _ 0 (by simp [hown]) (by simpa using h.nonneg)
        (by simp [GuardrailCall.occupies, hown]) (by simp [GuardrailCall.holds, hown]) (by simp)
  | @issued i fate redis haction hissued =>
    have hfate : reliable → fate = .answered := by
      intro hreliable
      have harrive := harrives hreliable
      rw [TimedGuardrailAction.arrives, haction] at harrive
      exact of_decide_eq_true harrive
    cases hissued with
    | idle => exact h
    | executed hr hc hreply hanswered =>
      exact h.executed httl hr hc hreply (fun hreliable => hanswered (hfate hreliable)) horderly.1
    | unsent hr hc hlost => exact h.unsent hr fun hreliable => hlost (hfate hreliable)
  | @answered i call result hi =>
    exact h.left hi _ _ (by rw [List.countP_singleton])
      (by simp [GuardrailCall.occupies, CheckStage.occupies])
      (by simp [GuardrailCall.holds, CheckStage.holds])
  | closed hi =>
    have hleft := h.left hi [] 0 rfl
      (by simp [GuardrailCall.occupies]) (by simp [GuardrailCall.holds])
    rwa [List.append_nil] at hleft

end Runs

/-- While a user's counter does not expire under reservations in use and only held reservations
are given back, Redis never lets the user hold more than the limit, however the commands of the
processes interleave and fail. While every reply arrives the counter is the number of reservations
that are held or in progress. -/
theorem inflight_limit_holds (fallbackLimits : LimiterSettings) (limits : GuardrailSettings)
    (httl : 0 < limits.reserveTtlSeconds + 120) (degraded : Nat → Bool) (monotonic : Nat → ℚ)
    (userId : String) {actions : List TimedGuardrailAction}
    (horderly : Along (GuardrailWorld.step fallbackLimits limits) (GuardrailWorld.Orderly userId)
      (.start degraded monotonic) actions) :
    Throughout (GuardrailWorld.step fallbackLimits limits)
      (fun w => heldInRedis w.answered w.released userId ≤ max 0 limits.maxUserInflight)
      (.start degraded monotonic) actions ∧
    ((∀ a ∈ actions, a.arrives = true) →
      Throughout (GuardrailWorld.step fallbackLimits limits)
        (fun w => w.redis.store.Number (inflightKey userId)
          (inUse w.redis.running w.answered w.released userId))
        (.start degraded monotonic) actions) := by
  have hkept : ∀ reliable : Prop, (reliable → ∀ a ∈ actions, a.arrives = true) →
      Throughout (GuardrailWorld.step fallbackLimits limits)
        (GuardrailWorld.Counted limits userId reliable) (.start degraded monotonic) actions := by
    intro reliable hall
    have harrives : Along (GuardrailWorld.step fallbackLimits limits)
        (fun _ a => reliable → a.arrives = true) (.start degraded monotonic) actions :=
      (throughout_of_along (I := fun _ => True) trivial (fun _ _ _ _ => trivial) horderly).along
        fun _ a ha _ hreliable => hall hreliable a ha
    exact throughout_of_along (GuardrailWorld.start_counted degraded monotonic)
      (fun w a ha hw => GuardrailWorld.step_counted httl ha.1 ha.2 hw)
      (along_and.mpr ⟨horderly, harrives⟩)
  constructor
  · refine (hkept False False.elim).imp fun w hw => ?_
    have hlimit := hw.limit
    omega
  · intro hall
    refine (hkept True fun _ => hall).imp fun w hw => ?_
    obtain ⟨n, hn, -, hexact⟩ := hw.counter
    rwa [← hexact trivial]

/-! ## A counter that expires under its reservations -/

/-- One reservation of a user in flight, for ten seconds. -/
def oneReservation : GuardrailSettings := ⟨120, 50, 1, 10⟩

/-- The commands of the first call in progress, and its return. -/
def runFirst (time : ℚ) (commands : Nat) : List TimedGuardrailAction :=
  List.replicate commands ⟨time, time, .command 0 .answered⟩ ++ [⟨time, time, .finish 0⟩]

/-- A reservation is let pass, and the next one is refused. -/
def secondRefused : List TimedGuardrailAction :=
  ⟨0, 0, .check 0 "u" "t" "a"⟩ :: runFirst 0 7 ++ ⟨1, 1, .check 1 "u" "t" "b"⟩ :: runFirst 1 7

theorem inflight_limit_secondRefused :
    heldInRedis (secondRefused.foldl (GuardrailWorld.step .default oneReservation)
      (.start (fun _ => false) fun _ => 0)).answered (secondRefused.foldl
        (GuardrailWorld.step .default oneReservation) (.start (fun _ => false) fun _ => 0)).released
      "u" ≤ max 0 1 :=
  (@inflight_limit_holds .default oneReservation (by decide) (fun _ => false) (fun _ => 0) "u"
    secondRefused (by decide +kernel)).1.last

/-- The expiry is set when the counter starts and not moved, so a reservation can outlive it, and
a second one passes. -/
example : heldInRedis (((⟨0, 0, .check 0 "u" "t" "a"⟩ : TimedGuardrailAction) :: runFirst 0 7 ++
    ⟨130, 130, .check 1 "u" "t" "b"⟩ :: runFirst 130 7).foldl
      (GuardrailWorld.step .default oneReservation)
      (.start (fun _ => false) fun _ => 0)).answered [] "u" = 2 := by
  decide +kernel

end Governor.Operations
