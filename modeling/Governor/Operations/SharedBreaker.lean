import Mathlib
import Governor.Core.FixedWindow
import Governor.Core.KeyStore
import Governor.Operations.Window

/-!
# The circuit breaker in Redis

In Redis the failures of a provider are counted in a key that expires a window after the first of
them, and the circuit is a key that expires by itself. Against the fallback of one process, which
counts in a sliding window, this is the weaker breaker: when it refuses, the fallback with the
same calls refuses too. It is not much weaker: where a sliding window holds nearly twice the
threshold of failures, one of them has opened the circuit in Redis.
-/

namespace Governor.Operations

open KeyStore SlidingWindow

/-! ## The breaker -/

/-- `f"mg:circuit:{provider_name}:failures"`. -/
def failuresKey (providerName : String) : String := "mg:circuit:" ++ providerName ++ ":failures"

/-- `f"mg:circuit:{provider_name}:open"`. -/
def openKey (providerName : String) : String := "mg:circuit:" ++ providerName ++ ":open"

/-- The breaker's keys in Redis. -/
abbrev SharedBreaker := Store String String ℚ

namespace SharedBreaker

/-- `assert_closed`. -/
def assertClosed (now : ℚ) (providerName : String) (redis : SharedBreaker) :
    Except CircuitOpenError Unit :=
  match (exec now redis (.exists (openKey providerName))).1 with
  | some 0 => .ok ()
  | _ => .error ⟨"circuit open for provider " ++ providerName⟩

/-- `record_failure`. -/
def recordFailure (settings : BreakerSettings) (now : ℚ) (providerName : String)
    (redis : SharedBreaker) : SharedBreaker :=
  let counted := exec now redis (.incr (failuresKey providerName))
  match counted.1 with
  | none => counted.2
  | some count =>
    let expiring := if count = 1 then
        (exec now counted.2
          (.expire (failuresKey providerName) settings.circuitBreakerWindowSeconds)).2
      else counted.2
    if settings.circuitBreakerFailureThreshold ≤ count then
      (exec now expiring
        (.set (openKey providerName) 1 settings.circuitBreakerOpenSeconds)).2
    else expiring

/-- `record_success`. -/
def recordSuccess (now : ℚ) (providerName : String) (redis : SharedBreaker) : SharedBreaker :=
  (exec now redis (.delete [failuresKey providerName, openKey providerName])).2

/-- The breaker after a call of some process. -/
def apply (settings : BreakerSettings) (redis : SharedBreaker) : FallbackCall → SharedBreaker
  | .assertClosed _ _ => redis
  | .recordFailure time providerName => redis.recordFailure settings time providerName
  | .recordSuccess time providerName => redis.recordSuccess time providerName

/-- The breaker after the calls of all processes, in their order. -/
def run (settings : BreakerSettings) (calls : List FallbackCall) : SharedBreaker :=
  calls.foldl (apply settings) fun _ => none

end SharedBreaker

/-! ## Keys -/

section Keys

variable {key other : String}

theorem failuresKey_inj : failuresKey key = failuresKey other ↔ key = other := by
  rw [failuresKey, failuresKey, String.append_left_inj, String.append_right_inj]

theorem openKey_inj : openKey key = openKey other ↔ key = other := by
  rw [openKey, openKey, String.append_left_inj, String.append_right_inj]

/-- The last letter tells the keys apart. -/
theorem failuresKey_ne_openKey (key other : String) : failuresKey key ≠ openKey other := by
  intro h
  have hlast := congrArg (fun s => s.toList.reverse.head?) h
  simp [failuresKey, openKey, String.toList_append] at hlast

end Keys

/-! ## The window in Redis -/

/-- The keys of a provider hold the fixed window of its failures. -/
structure Represents (settings : BreakerSettings) (redis : SharedBreaker) (key : String)
    (s : FixedWindow.State ℚ) : Prop where
  failures : redis (failuresKey key) = s.window.map fun w => ⟨.int w.2, some w.1⟩
  circuit : redis (openKey key) = s.trips.getLast?.map fun trip =>
    ⟨.int 1, some (trip + settings.circuitBreakerOpenSeconds)⟩
  positive : ∀ w ∈ s.window, 1 ≤ w.2

section Steps

variable {settings : BreakerSettings} {redis : SharedBreaker} {key : String} {now t : ℚ}
  {s : FixedWindow.State ℚ}

theorem represents_initial (settings : BreakerSettings) (key : String) :
    Represents settings (fun _ => none) key .initial :=
  ⟨rfl, rfl, fun w hw => by cases hw⟩

/-- The circuit is open until some time after the last trip. -/
theorem Represents.assertClosed (h : Represents settings redis key s) :
    redis.assertClosed t key = .error ⟨"circuit open for provider " ++ key⟩ ↔
      ∃ trip ∈ s.trips.getLast?, t < trip + settings.circuitBreakerOpenSeconds := by
  unfold SharedBreaker.assertClosed
  simp only [exec, Store.get, h.circuit]
  cases hlast : s.trips.getLast? with
  | none => simp
  | some trip =>
    by_cases hopen : t < trip + settings.circuitBreakerOpenSeconds
    · simp [Option.filter, Entry.live, hopen]
    · simp [Option.filter, Entry.live, hopen]

/-- The store after a failure has been counted in a window, before it opens the circuit. -/
structure Counted (settings : BreakerSettings) (redis : SharedBreaker) (key : String) (now : ℚ)
    (w : ℚ × Int) (store : SharedBreaker) : Prop where
  count : store (failuresKey key) = some ⟨.int w.2, some w.1⟩
  other : ∀ other, other ≠ failuresKey key → store other = redis other
  recorded : redis.recordFailure settings now key =
    if settings.circuitBreakerFailureThreshold ≤ w.2 then
      (exec now store (.set (openKey key) 1 settings.circuitBreakerOpenSeconds)).2
    else store

variable (now) in
/-- A failure counts in the window. -/
theorem Represents.counted (hwindow : 0 < settings.circuitBreakerWindowSeconds)
    (h : Represents settings redis key s) : ∃ store,
      Counted settings redis key now (s.next (settings.circuitBreakerWindowSeconds : ℚ) now)
        store := by
  have hperiod : ¬ (settings.circuitBreakerWindowSeconds : ℚ) ≤ 0 := by
    exact_mod_cast not_le.mpr hwindow
  have hgone : redis.get now (failuresKey key) = none →
      s.next (settings.circuitBreakerWindowSeconds : ℚ) now =
        (now + settings.circuitBreakerWindowSeconds, 1) →
      ∃ store, Counted settings redis key now
        (s.next (settings.circuitBreakerWindowSeconds : ℚ) now) store := by
    -- the first failure of a window sets its end
    intro hget hnext
    refine ⟨Function.update (Function.update redis (failuresKey key) (some ⟨.int 1, none⟩))
      (failuresKey key) (some ⟨.int 1, some (now + settings.circuitBreakerWindowSeconds)⟩),
      ?_, ?_, ?_⟩
    · rw [hnext, Function.update_self]
    · intro other hne
      rw [Function.update_of_ne hne, Function.update_of_ne hne]
    · have hfirst : Store.get (Function.update redis (failuresKey key)
          (some (⟨.int 1, none⟩ : Entry String ℚ))) now (failuresKey key) =
          some ⟨.int 1, none⟩ := by
        simp [Store.get, Option.filter, Entry.live]
      have hincr : exec now redis (.incr (failuresKey key)) = (some 1,
          Function.update redis (failuresKey key) (some ⟨.int 1, none⟩)) := by
        simp only [exec, Store.add, hget]
      have hexpire : exec now (Function.update redis (failuresKey key) (some ⟨.int 1, none⟩))
          (.expire (failuresKey key) (settings.circuitBreakerWindowSeconds : ℚ)) = (some 1,
          Function.update (Function.update redis (failuresKey key) (some ⟨.int 1, none⟩))
            (failuresKey key)
            (some ⟨.int 1, some (now + settings.circuitBreakerWindowSeconds)⟩)) := by
        simp only [exec, hfirst, if_neg hperiod]
      simp only [SharedBreaker.recordFailure, hincr, hexpire, hnext, if_true]
  have hfailures := h.failures
  cases hw : s.window with
  | none =>
    rw [hw] at hfailures
    refine hgone (by simp [Store.get, hfailures]) ?_
    simp only [FixedWindow.State.next, hw]
  | some w =>
    obtain ⟨ends, n⟩ := w
    have hpositive : 1 ≤ n := h.positive (ends, n) hw
    rw [hw] at hfailures
    by_cases hlive : now < ends
    · have hnext : s.next (settings.circuitBreakerWindowSeconds : ℚ) now = (ends, n + 1) := by
        simp only [FixedWindow.State.next, hw, if_pos hlive]
      have hget : redis.get now (failuresKey key) = some ⟨.int n, some ends⟩ := by
        simp [Store.get, hfailures, Option.filter, Entry.live, hlive]
      have hincr : exec now redis (.incr (failuresKey key)) = (some (n + 1),
          Function.update redis (failuresKey key) (some ⟨.int (n + 1), some ends⟩)) := by
        simp only [exec, Store.add, hget]
      refine ⟨Function.update redis (failuresKey key) (some ⟨.int (n + 1), some ends⟩), ?_, ?_, ?_⟩
      · rw [hnext, Function.update_self]
      · intro other hne
        rw [Function.update_of_ne hne]
      · have hmore : ¬ n + 1 = 1 := by omega
        simp only [SharedBreaker.recordFailure, hincr, hnext, if_neg hmore]
    · refine hgone ?_ ?_
      · simp [Store.get, hfailures, Option.filter, Entry.live, hlive]
      · simp only [FixedWindow.State.next, hw, if_neg hlive]

variable (now) in
/-- A failure keeps the window in Redis. -/
theorem Represents.recordFailure (hwindow : 0 < settings.circuitBreakerWindowSeconds)
    (hopen : 0 < settings.circuitBreakerOpenSeconds) (h : Represents settings redis key s) :
    Represents settings (redis.recordFailure settings now key) key
      (s.event settings.circuitBreakerFailureThreshold
        (settings.circuitBreakerWindowSeconds : ℚ) now) := by
  have hperiod : ¬ (settings.circuitBreakerOpenSeconds : ℚ) ≤ 0 := by
    exact_mod_cast not_le.mpr hopen
  obtain ⟨store, hcounted⟩ := h.counted now hwindow
  have hpositive : 1 ≤ (s.next (settings.circuitBreakerWindowSeconds : ℚ) now).2 := by
    unfold FixedWindow.State.next
    cases hw : s.window with
    | none => exact le_rfl
    | some w =>
      have hw' := h.positive w hw
      simp only
      split_ifs
      · exact le_add_of_le_of_nonneg hw' (by decide)
      · exact le_rfl
  rw [hcounted.recorded]
  by_cases htrip : settings.circuitBreakerFailureThreshold ≤
      (s.next (settings.circuitBreakerWindowSeconds : ℚ) now).2
  · rw [if_pos htrip]
    simp only [exec, if_neg hperiod]
    refine ⟨?_, ?_, ?_⟩
    · rw [Function.update_of_ne (failuresKey_ne_openKey key key), hcounted.count]
      rfl
    · rw [Function.update_self, FixedWindow.State.event, if_pos htrip, List.getLast?_concat]
      rfl
    · rintro w hw
      obtain rfl := Option.some.inj hw
      exact hpositive
  · rw [if_neg htrip]
    refine ⟨?_, ?_, ?_⟩
    · rw [hcounted.count]
      rfl
    · rw [hcounted.other _ (failuresKey_ne_openKey key key).symm, h.circuit,
        FixedWindow.State.event, if_neg htrip]
    · rintro w hw
      obtain rfl := Option.some.inj hw
      exact hpositive

/-- A success clears both keys. -/
theorem represents_recordSuccess (settings : BreakerSettings) (now : ℚ) (key : String)
    (redis : SharedBreaker) : Represents settings (redis.recordSuccess now key) key .initial where
  failures := by simp [SharedBreaker.recordSuccess, exec, FixedWindow.State.initial]
  circuit := by simp [SharedBreaker.recordSuccess, exec, FixedWindow.State.initial]
  positive := fun w hw => by cases hw

/-- A call writes the keys of its own provider only. -/
theorem apply_other {c : FallbackCall} {other : String}
    (hfailures : other ≠ failuresKey c.providerName) (hopen : other ≠ openKey c.providerName) :
    redis.apply settings c other = redis other := by
  cases c with
  | assertClosed time providerName => rfl
  | recordFailure time providerName =>
    simp only [SharedBreaker.apply, SharedBreaker.recordFailure]
    have hincr : (exec time redis (.incr (failuresKey providerName))).2 other = redis other :=
      exec_other (by simpa [Command.writes, FallbackCall.providerName] using hfailures)
    have hexpire : ∀ (store : SharedBreaker) (period : ℚ),
        (exec time store (.expire (failuresKey providerName) period)).2 other = store other :=
      fun store period => exec_other (by
        simpa [Command.writes, FallbackCall.providerName] using hfailures)
    have hset : ∀ (store : SharedBreaker) (period : ℚ),
        (exec time store (.set (openKey providerName) 1 period)).2 other = store other :=
      fun store period => exec_other (by
        simpa [Command.writes, FallbackCall.providerName] using hopen)
    generalize exec time redis (.incr (failuresKey providerName)) = counted at hincr ⊢
    obtain ⟨reply, store⟩ := counted
    cases reply with
    | none => exact hincr
    | some count =>
      simp only at hincr ⊢
      split_ifs
      · rw [hset, hexpire, hincr]
      · rw [hset, hincr]
      · rw [hexpire, hincr]
      · exact hincr
  | recordSuccess time providerName =>
    exact exec_other (by simpa [Command.writes] using ⟨hfailures, hopen⟩)

theorem Represents.congr {redis' : SharedBreaker} (h : Represents settings redis key s)
    (hfailures : redis' (failuresKey key) = redis (failuresKey key))
    (hcircuit : redis' (openKey key) = redis (openKey key)) :
    Represents settings redis' key s :=
  ⟨hfailures.trans h.failures, hcircuit.trans h.circuit, h.positive⟩

end Steps

/-! ## Sequences of calls -/

/-- The circuit opened at this failure: whatever has been called since, Redis refused the key
until the period was over. -/
def OpenedAt (settings : BreakerSettings) (calls : List FallbackCall) (key : String) (time : ℚ) :
    Prop :=
  ∃ before after, calls = before ++ .recordFailure time key :: after ∧
    ∀ t < time + settings.circuitBreakerOpenSeconds,
      (SharedBreaker.run settings (before ++ [.recordFailure time key])).assertClosed t key =
        .error ⟨"circuit open for provider " ++ key⟩

/-- What Redis keeps of the failures of a key since its last success. -/
structure RedisFollows (settings : BreakerSettings) (calls : List FallbackCall) (key : String)
    (s : FixedWindow.State ℚ) (now : ℚ) : Prop where
  represents : Represents settings (SharedBreaker.run settings calls) key s
  follows : FixedWindow.Follows settings.circuitBreakerFailureThreshold
    (settings.circuitBreakerWindowSeconds : ℚ) s (failuresSince key calls) now
  opened : ∀ trip ∈ s.trips, OpenedAt settings calls key trip

section Runs

variable {settings : BreakerSettings} {key : String}

theorem OpenedAt.append {calls : List FallbackCall} {time : ℚ}
    (h : OpenedAt settings calls key time) (c : FallbackCall) :
    OpenedAt settings (calls ++ [c]) key time := by
  obtain ⟨before, after, rfl, hopen⟩ := h
  exact ⟨before, after ++ [c], by simp, hopen⟩

/-- Every call, at a time not before the last, keeps what Redis follows of every key. -/
theorem RedisFollows.append (hthreshold : 0 < settings.circuitBreakerFailureThreshold)
    (hwindow : 0 < settings.circuitBreakerWindowSeconds)
    (hopen : 0 < settings.circuitBreakerOpenSeconds) {calls : List FallbackCall}
    {s : FixedWindow.State ℚ} {now : ℚ} (h : RedisFollows settings calls key s now)
    {c : FallbackCall} (hle : now ≤ c.time) :
    ∃ s', RedisFollows settings (calls ++ [c]) key s' c.time := by
  have hrun : SharedBreaker.run settings (calls ++ [c]) =
      (SharedBreaker.run settings calls).apply settings c := by
    rw [SharedBreaker.run, List.foldl_append]
    rfl
  have hsince : failuresSince key (calls ++ [c]) = c.count key (failuresSince key calls) := by
    rw [failuresSince, List.foldl_append]
    rfl
  by_cases hkey : key = c.providerName
  · cases c with
    | assertClosed time providerName =>
      exact ⟨s, by rw [hrun]; exact h.represents, by rw [hsince]; exact h.follows.mono hle,
        fun trip htrip => (h.opened trip htrip).append _⟩
    | recordFailure time providerName =>
      obtain rfl : key = providerName := hkey
      have hwidth : (0 : ℚ) < settings.circuitBreakerWindowSeconds := by exact_mod_cast hwindow
      have hrepresents := h.represents.recordFailure time hwindow hopen
      refine ⟨_, by rw [hrun]; exact hrepresents, ?_, ?_⟩
      · rw [hsince, FallbackCall.count, if_pos rfl]
        exact (h.follows.mono hle).event hthreshold hwidth
      · intro trip htrip
        unfold FixedWindow.State.event at htrip
        simp only at htrip
        split_ifs at htrip with htrips
        · rcases List.mem_append.mp htrip with htrip | htrip
          · exact (h.opened trip htrip).append _
          · obtain rfl := List.mem_singleton.mp htrip
            refine ⟨calls, [], rfl, fun t ht => ?_⟩
            rw [hrun]
            refine hrepresents.assertClosed.mpr ⟨trip, ?_, ht⟩
            rw [FixedWindow.State.event, if_pos htrips]
            exact List.getLast?_concat
        · exact (h.opened trip htrip).append _
    | recordSuccess time providerName =>
      obtain rfl : key = providerName := hkey
      refine ⟨.initial, by rw [hrun]; exact represents_recordSuccess settings _ _ _, ?_, ?_⟩
      · rw [hsince, FallbackCall.count, if_pos rfl]
        exact FixedWindow.follows_initial _
      · intro trip htrip
        cases htrip
  · refine ⟨s, ?_, ?_, fun trip htrip => (h.opened trip htrip).append _⟩
    · rw [hrun]
      refine h.represents.congr ?_ ?_
      · exact apply_other (fun hsame => hkey (failuresKey_inj.mp hsame))
          (failuresKey_ne_openKey _ _)
      · exact apply_other (failuresKey_ne_openKey _ _).symm
          (fun hsame => hkey (openKey_inj.mp hsame))
    · rw [hsince, count_of_ne hkey]
      exact h.follows.mono hle

variable (key) in
theorem exists_redisFollows (hthreshold : 0 < settings.circuitBreakerFailureThreshold)
    (hwindow : 0 < settings.circuitBreakerWindowSeconds)
    (hopen : 0 < settings.circuitBreakerOpenSeconds) {calls : List FallbackCall}
    (hsorted : calls.Pairwise fun c c' => c.time ≤ c'.time) {t : ℚ}
    (ht : ∀ c ∈ calls, c.time ≤ t) : ∃ s, RedisFollows settings calls key s t := by
  induction calls using List.reverseRecOn generalizing t with
  | nil =>
    exact ⟨.initial, represents_initial settings key, FixedWindow.follows_initial _,
      fun trip htrip => by cases htrip⟩
  | append_singleton calls c ih =>
    obtain ⟨hbefore, -, hlast⟩ := List.pairwise_append.mp hsorted
    obtain ⟨s, hs⟩ := ih hbefore fun c' hc' => hlast c' hc' c (List.mem_singleton_self c)
    obtain ⟨s', hs'⟩ := hs.append hthreshold hwindow hopen le_rfl
    exact ⟨s', hs'.represents,
      hs'.follows.mono (ht c (List.mem_append_right _ (List.mem_singleton_self c))), hs'.opened⟩

/-- The fallback follows the same history. -/
theorem fallback_keeps {calls : List FallbackCall}
    (hsorted : calls.Pairwise fun c c' => c.time ≤ c'.time) {t : ℚ}
    (ht : ∀ c ∈ calls, c.time ≤ t) :
    Keeps settings (fallbackRun settings calls) key (failuresSince key calls) t := by
  cases calls with
  | nil => exact keeps_initial t
  | cons c calls =>
    refine keeps_foldl (keeps_initial c.time) hsorted ?_ ht (ht c List.mem_cons_self)
    intro c' hc'
    rcases List.mem_cons.mp hc' with rfl | hc'
    · exact le_rfl
    · exact (List.pairwise_cons.mp hsorted).1 c' hc'

end Runs

/-- After any calls, one after the other and at times that do not decrease, a key that Redis
refuses is refused by the fallback with the same calls. And if some failure since the key's last
success has one less than twice the threshold of them in its sliding window, then one of the
failures in this window has opened the circuit in Redis. -/
theorem redis_refuses_fallback (settings : BreakerSettings)
    (hthreshold : 0 < settings.circuitBreakerFailureThreshold)
    (hwindow : 0 < settings.circuitBreakerWindowSeconds)
    (hopen : 0 < settings.circuitBreakerOpenSeconds) (calls : List FallbackCall)
    (hsorted : calls.Pairwise fun c c' => c.time ≤ c'.time) (key : String) :
    (∀ t, 0 < t → (∀ c ∈ calls, c.time ≤ t) →
      (SharedBreaker.run settings calls).assertClosed t key =
        .error ⟨"circuit open for provider " ++ key⟩ →
      (fallbackRun settings calls).assertClosed t key =
        .error ⟨"local circuit open for provider " ++ key⟩) ∧
    ∀ e ∈ failuresSince key calls,
      2 * settings.circuitBreakerFailureThreshold - 1 ≤
        countAt (settings.circuitBreakerWindowSeconds : ℚ) (failuresSince key calls) e →
      ∃ time ∈ failuresSince key calls, e - settings.circuitBreakerWindowSeconds ≤ time ∧
        time ≤ e ∧ OpenedAt settings calls key time := by
  constructor
  · intro t hpos ht hrefused
    obtain ⟨s, hs⟩ := exists_redisFollows key hthreshold hwindow hopen hsorted ht
    obtain ⟨trip, htrip, hlive⟩ := hs.represents.assertClosed.mp hrefused
    obtain ⟨hmem, hcount⟩ := hs.follows.sound trip (List.mem_of_getLast? htrip)
    rw [assertClosed_iff]
    exact ((fallback_keeps hsorted ht).opened t le_rfl hpos).mpr ⟨trip, hmem, hlive, hcount⟩
  · intro e he hcount
    obtain ⟨t, ht⟩ := (calls.finite_toSet.image FallbackCall.time).bddAbove
    obtain ⟨s, hs⟩ := exists_redisFollows key hthreshold hwindow hopen hsorted
      fun c hc => ht (Set.mem_image_of_mem _ hc)
    obtain ⟨trip, htrip, hafter, hbefore⟩ := hs.follows.complete e he hcount
    exact ⟨trip, (hs.follows.sound trip htrip).1, hafter, hbefore, hs.opened trip htrip⟩

/-- Two failures on both sides of the end of a window. -/
def splitFailures : List FallbackCall :=
  [.recordFailure 0 "p", .recordFailure 59 "p", .recordFailure 61 "p"]

theorem redis_refuses_fallback_split :
    (fallbackRun ⟨2, 60, 30⟩ splitFailures).assertClosed 70 "p" =
      .error ⟨"local circuit open for provider p"⟩ := by
  have hsorted : splitFailures.Pairwise fun c c' => c.time ≤ c'.time := by
    simp [splitFailures, FallbackCall.time]
    norm_num
  exact (redis_refuses_fallback ⟨2, 60, 30⟩ (by decide) (by decide) (by decide) splitFailures
    hsorted "p").1 70 (by norm_num) (by simp [splitFailures, FallbackCall.time]; norm_num)
    (by decide +kernel)

/-- The converse fails: the last two failures open the fallback alone. -/
example : (SharedBreaker.run ⟨2, 60, 10⟩ splitFailures).assertClosed 70 "p" = .ok () ∧
    (fallbackRun ⟨2, 60, 10⟩ splitFailures).assertClosed 70 "p" =
      .error ⟨"local circuit open for provider p"⟩ := by
  decide +kernel

end Governor.Operations
