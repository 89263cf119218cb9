import Mathlib
import Governor.Core.SlidingWindow
import Governor.Operations.Breaker

/-!
# The local breaker against its history

The fallback keeps a pruned deque and one time for each key. Against the whole history of calls
the deque is the last window of the failures since the last success, and the time answers
whether any of these failures, with enough others in its window, opened the circuit for longer
than until now.
-/

namespace Governor.Operations

open SlidingWindow

variable {settings : BreakerSettings} {b : LocalCircuitFallback} {key : String} {now t : ℚ}

/-- A call of the fallback, with the reading of `time.monotonic()`. -/
inductive FallbackCall where
  | assertClosed (time : ℚ) (providerName : String)
  | recordFailure (time : ℚ) (providerName : String)
  | recordSuccess (time : ℚ) (providerName : String)

namespace FallbackCall

def time : FallbackCall → ℚ
  | assertClosed time _ | recordFailure time _ | recordSuccess time _ => time

def providerName : FallbackCall → String
  | assertClosed _ providerName | recordFailure _ providerName | recordSuccess _ providerName =>
    providerName

/-- The state after a call. -/
def apply (settings : BreakerSettings) (b : LocalCircuitFallback) :
    FallbackCall → LocalCircuitFallback
  | assertClosed _ _ => b
  | recordFailure time providerName => b.recordFailure settings time providerName
  | recordSuccess _ providerName => b.recordSuccess providerName

/-- The failures of a key since its last success, after a call. -/
def count (key : String) (failures : List ℚ) : FallbackCall → List ℚ
  | assertClosed _ _ => failures
  | recordFailure time providerName => if providerName = key then failures ++ [time] else failures
  | recordSuccess _ providerName => if providerName = key then [] else failures

end FallbackCall

/-- The state after a sequence of calls. -/
def fallbackRun (settings : BreakerSettings) (calls : List FallbackCall) : LocalCircuitFallback :=
  calls.foldl (FallbackCall.apply settings) .initial

/-- The failures of a key since its last success. -/
def failuresSince (key : String) (calls : List FallbackCall) : List ℚ :=
  calls.foldl (FallbackCall.count key) []

/-- Some failure of the list, with enough of them in its window, holds the circuit open. -/
def HeldOpen (settings : BreakerSettings) (failures : List ℚ) (t : ℚ) : Prop :=
  Tripped settings.circuitBreakerFailureThreshold (settings.circuitBreakerWindowSeconds : ℚ)
    settings.circuitBreakerOpenSeconds failures t

/-! ## One call -/

theorem assertClosed_iff :
    b.assertClosed t key = .error ⟨"local circuit open for provider " ++ key⟩ ↔
      t < (b.openUntil key).getD 0 := by
  unfold LocalCircuitFallback.assertClosed
  split_ifs with h
  · exact iff_of_true rfl h
  · exact iff_of_false nofun h

/-- What the fallback keeps of the failures of a key since its last success. -/
structure Keeps (settings : BreakerSettings) (b : LocalCircuitFallback) (key : String)
    (failures : List ℚ) (now : ℚ) : Prop where
  ordered : Ordered failures now
  window : b.failures key = within (settings.circuitBreakerWindowSeconds : ℚ) failures
  opened : ∀ t, now ≤ t → 0 < t →
    (t < (b.openUntil key).getD 0 ↔ HeldOpen settings failures t)

theorem keeps_initial (now : ℚ) : Keeps settings .initial key [] now := by
  refine ⟨.nil, rfl, fun t _ ht => ?_⟩
  exact iff_of_false (not_lt.mpr ht.le) not_tripped_nil

theorem Keeps.mono {failures : List ℚ} (h : Keeps settings b key failures now) (hle : now ≤ t) :
    Keeps settings b key failures t :=
  ⟨h.ordered.mono hle, h.window, fun u hu hpos => h.opened u (hle.trans hu) hpos⟩

theorem Keeps.recordFailure {failures : List ℚ} (h : Keeps settings b key failures now) :
    Keeps settings (b.recordFailure settings now key) key (failures ++ [now]) now := by
  have hfailures : (b.recordFailure settings now key).failures key =
      within (settings.circuitBreakerWindowSeconds : ℚ) (failures ++ [now]) := by
    rw [LocalCircuitFallback.recordFailure_failures, Function.update_self, h.window]
    exact dropWhile_within h.ordered
  have hlength := length_within (settings.circuitBreakerWindowSeconds : ℚ) h.ordered
  refine ⟨h.ordered.append, hfailures, fun t ht hpos => ?_⟩
  rw [LocalCircuitFallback.recordFailure_failures, Function.update_self] at hfailures
  unfold LocalCircuitFallback.recordFailure
  simp only [hfailures, hlength]
  split_ifs with hcount
  · change t < (Function.update b.openUntil key _ key).getD 0 ↔ _
    rw [HeldOpen, tripped_append_iff h.ordered hcount, Function.update_self, Option.getD_some]
  · rw [HeldOpen, tripped_append_of_lt h.ordered hcount]
    exact h.opened t ht hpos

theorem Keeps.congr {b' : LocalCircuitFallback} {failures : List ℚ}
    (h : Keeps settings b key failures now) (hfailures : b'.failures key = b.failures key)
    (hopen : b'.openUntil key = b.openUntil key) : Keeps settings b' key failures now := by
  refine ⟨h.ordered, hfailures.trans h.window, ?_⟩
  rw [hopen]
  exact h.opened

/-- A call of another key leaves what is kept of this one. -/
theorem apply_of_ne (settings : BreakerSettings) (b : LocalCircuitFallback) {c : FallbackCall}
    (hne : key ≠ c.providerName) :
    (c.apply settings b).failures key = b.failures key ∧
      (c.apply settings b).openUntil key = b.openUntil key := by
  cases c with
  | assertClosed time providerName => exact ⟨rfl, rfl⟩
  | recordFailure time providerName =>
    refine ⟨?_, LocalCircuitFallback.openUntil_recordFailure_of_ne hne⟩
    rw [FallbackCall.apply, LocalCircuitFallback.recordFailure_failures]
    exact Function.update_of_ne hne _ _
  | recordSuccess time providerName =>
    exact ⟨Function.update_of_ne hne _ _, Function.update_of_ne hne _ _⟩

theorem count_of_ne {c : FallbackCall} {failures : List ℚ} (hne : key ≠ c.providerName) :
    c.count key failures = failures := by
  cases c with
  | assertClosed time providerName => rfl
  | recordFailure time providerName | recordSuccess time providerName => exact if_neg (Ne.symm hne)

/-- Every call, at a time not before the last, keeps the failures of every key. -/
theorem Keeps.apply {failures : List ℚ} {c : FallbackCall}
    (h : Keeps settings b key failures now) (hle : now ≤ c.time) :
    Keeps settings (c.apply settings b) key (c.count key failures) c.time := by
  by_cases hkey : key = c.providerName
  · cases c with
    | assertClosed time providerName => exact h.mono hle
    | recordFailure time providerName =>
      obtain rfl : key = providerName := hkey
      rw [FallbackCall.count, if_pos rfl]
      exact (h.mono hle).recordFailure
    | recordSuccess time providerName =>
      obtain rfl : key = providerName := hkey
      rw [FallbackCall.count, if_pos rfl]
      refine (keeps_initial _).congr ?_ ?_
      · exact Function.update_self _ _ _
      · exact Function.update_self _ _ _
  · rw [count_of_ne hkey]
    obtain ⟨hfailures, hopen⟩ := apply_of_ne settings b hkey
    exact (h.mono hle).congr hfailures hopen

/-! ## Sequences of calls -/

theorem keeps_foldl {failures : List ℚ} (h : Keeps settings b key failures now)
    {calls : List FallbackCall} (hsorted : calls.Pairwise fun c c' => c.time ≤ c'.time)
    (hlater : ∀ c ∈ calls, now ≤ c.time) (ht : ∀ c ∈ calls, c.time ≤ t) (hnow : now ≤ t) :
    Keeps settings (calls.foldl (FallbackCall.apply settings) b) key
      (calls.foldl (FallbackCall.count key) failures) t := by
  induction calls generalizing b failures now with
  | nil => exact h.mono hnow
  | cons c calls ih =>
    obtain ⟨hfirst, hrest⟩ := List.pairwise_cons.mp hsorted
    exact ih (h.apply (hlater c List.mem_cons_self)) hrest hfirst
      (fun c' hc' => ht c' (List.mem_cons_of_mem c hc')) (ht c List.mem_cons_self)

/-- What a call leaves of a key depends on what was kept of the key. -/
theorem apply_congr (settings : BreakerSettings) {b' : LocalCircuitFallback} (c : FallbackCall)
    (hfailures : b.failures key = b'.failures key) (hopen : b.openUntil key = b'.openUntil key) :
    (c.apply settings b).failures key = (c.apply settings b').failures key ∧
      (c.apply settings b).openUntil key = (c.apply settings b').openUntil key := by
  by_cases hkey : key = c.providerName
  · cases c with
    | assertClosed time providerName => exact ⟨hfailures, hopen⟩
    | recordFailure time providerName =>
      obtain rfl : key = providerName := hkey
      unfold FallbackCall.apply LocalCircuitFallback.recordFailure
      simp only [hfailures]
      split_ifs <;> simp [hopen]
    | recordSuccess time providerName =>
      obtain rfl : key = providerName := hkey
      simp [FallbackCall.apply, LocalCircuitFallback.recordSuccess]
  · obtain ⟨hleft, hleft'⟩ := apply_of_ne settings b hkey
    obtain ⟨hright, hright'⟩ := apply_of_ne settings b' hkey
    exact ⟨hleft.trans (hfailures.trans hright.symm), hleft'.trans (hopen.trans hright'.symm)⟩

/-- What is kept of a key depends on the calls of the key alone. -/
theorem foldl_own_calls (settings : BreakerSettings) (key : String) (calls : List FallbackCall)
    {b b' : LocalCircuitFallback} (hfailures : b.failures key = b'.failures key)
    (hopen : b.openUntil key = b'.openUntil key) :
    (calls.foldl (FallbackCall.apply settings) b).failures key =
        ((calls.filter fun c => key = c.providerName).foldl
          (FallbackCall.apply settings) b').failures key ∧
      (calls.foldl (FallbackCall.apply settings) b).openUntil key =
        ((calls.filter fun c => key = c.providerName).foldl
          (FallbackCall.apply settings) b').openUntil key := by
  induction calls generalizing b b' with
  | nil => exact ⟨hfailures, hopen⟩
  | cons c calls ih =>
    rw [List.foldl_cons, List.filter_cons]
    by_cases hkey : key = c.providerName
    · obtain ⟨hnext, hnext'⟩ := apply_congr settings c hfailures hopen
      rw [if_pos (decide_eq_true hkey), List.foldl_cons]
      exact ih hnext hnext'
    · obtain ⟨hnext, hnext'⟩ := apply_of_ne settings b hkey
      rw [if_neg (by simpa using hkey)]
      exact ih (hnext.trans hfailures) (hnext'.trans hopen)

/-- After any calls at times that do not decrease, the fallback refuses a key exactly if some
failure of the key since its last success, with at least the threshold of them in its window,
holds the circuit open; the deque of the key is the last window of these failures; and both
depend on the calls of the key alone. -/
theorem fallback_follows_history (settings : BreakerSettings) (calls : List FallbackCall)
    (hsorted : calls.Pairwise fun c c' => c.time ≤ c'.time) (key : String) :
    (∀ t, 0 < t → (∀ c ∈ calls, c.time ≤ t) →
      ((fallbackRun settings calls).assertClosed t key =
          .error ⟨"local circuit open for provider " ++ key⟩ ↔
        HeldOpen settings (failuresSince key calls) t)) ∧
    (fallbackRun settings calls).failures key =
      within (settings.circuitBreakerWindowSeconds : ℚ) (failuresSince key calls) ∧
    (fallbackRun settings calls).failures key =
      (fallbackRun settings (calls.filter fun c => key = c.providerName)).failures key ∧
    ∀ t, (fallbackRun settings calls).assertClosed t key =
      (fallbackRun settings (calls.filter fun c => key = c.providerName)).assertClosed t key := by
  have hkeeps : ∀ t, (∀ c ∈ calls, c.time ≤ t) →
      Keeps settings (fallbackRun settings calls) key (failuresSince key calls) t := by
    intro t ht
    cases calls with
    | nil => exact keeps_initial t
    | cons c calls =>
      refine keeps_foldl (keeps_initial c.time) hsorted ?_ ht (ht c List.mem_cons_self)
      intro c' hc'
      rcases List.mem_cons.mp hc' with rfl | hc'
      · exact le_refl _
      · exact (List.pairwise_cons.mp hsorted).1 c' hc'
  have hsame := foldl_own_calls settings key calls (b := .initial) rfl rfl
  obtain ⟨hfailures, hopen⟩ := hsame
  refine ⟨fun t hpos ht => ?_, ?_, hfailures, fun t => ?_⟩
  · rw [assertClosed_iff]
    exact (hkeeps t ht).opened t (le_refl t) hpos
  · obtain ⟨t, ht⟩ := (calls.finite_toSet.image FallbackCall.time).bddAbove
    exact (hkeeps t fun c hc => ht (Set.mem_image_of_mem _ hc)).window
  · unfold LocalCircuitFallback.assertClosed fallbackRun
    rw [hopen]

/-- Two failures within a minute, and a success of another key. -/
def sampleFallbackCalls : List FallbackCall :=
  [.recordFailure 5 "gpt-4o-mini", .recordSuccess 6 "gpt-4o", .recordFailure 30 "gpt-4o-mini"]

theorem fallback_follows_history_sample :
    (fallbackRun ⟨2, 60, 30⟩ sampleFallbackCalls).assertClosed 40 "gpt-4o-mini" =
      .error ⟨"local circuit open for provider gpt-4o-mini"⟩ := by
  have hsorted : sampleFallbackCalls.Pairwise fun c c' => c.time ≤ c'.time := by
    simp [sampleFallbackCalls, FallbackCall.time]
    norm_num
  refine ((fallback_follows_history ⟨2, 60, 30⟩ sampleFallbackCalls hsorted "gpt-4o-mini").1 40
    (by norm_num) ?_).mpr ?_
  · simp [sampleFallbackCalls, FallbackCall.time]
    norm_num
  · refine ⟨30, ?_, by norm_num, ?_⟩
    · simp [failuresSince, sampleFallbackCalls, FallbackCall.count]
    · simp [failuresSince, sampleFallbackCalls, FallbackCall.count, countAt]
      norm_num

end Governor.Operations
