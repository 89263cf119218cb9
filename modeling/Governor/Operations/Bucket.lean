import Mathlib
import Governor.Core.TokenBucket
import Governor.Operations.Limiter

/-!
# The limiter as a token bucket

Whatever else a check looks at, it serves its token bucket: a call that is admitted takes a token
that is there, and a call that is rejected takes none. The bound on the calls admitted in an
interval is the one of the bucket.
-/

namespace Governor.Operations

open TokenBucket

variable {settings : LimiterSettings} {monotonic : ℚ} {l : LocalFallbackLimiter}

/-- A call of the limiter, with the readings of `time.monotonic()` and `int(time.time())`. -/
inductive LimiterCall where
  | checkReserve (monotonic : ℚ) (time : Int) (userId traceId idempotencyKey : String)
  | releaseReserve (userId : String)

namespace LimiterCall

/-- The state after a call. -/
def apply (settings : LimiterSettings) (l : LocalFallbackLimiter) :
    LimiterCall → LocalFallbackLimiter
  | checkReserve monotonic time userId traceId key =>
    (l.checkReserve settings monotonic time userId traceId key).2
  | releaseReserve userId => l.releaseReserve userId

/-- Whether a check has admitted its call. -/
def admits : Except GuardrailError Unit → Bool
  | .ok _ => true
  | .error _ => false

/-- The request that a call makes of the bucket. -/
def request (settings : LimiterSettings) (l : LocalFallbackLimiter) :
    LimiterCall → List (Request ℚ)
  | checkReserve monotonic time userId traceId key =>
    [⟨monotonic, admits (l.checkReserve settings monotonic time userId traceId key).1⟩]
  | releaseReserve _ => []

/-- The time of a check. -/
def monotonic? : LimiterCall → Option ℚ
  | checkReserve monotonic _ _ _ _ => some monotonic
  | releaseReserve _ => none

end LimiterCall

/-- The state after a sequence of calls. -/
def limiterRun (settings : LimiterSettings) (l : LocalFallbackLimiter) (calls : List LimiterCall) :
    LocalFallbackLimiter :=
  calls.foldl (LimiterCall.apply settings) l

/-- The requests that a sequence of calls makes of the bucket. -/
def limiterRequests (settings : LimiterSettings) (l : LocalFallbackLimiter)
    (calls : List LimiterCall) : List (Request ℚ) :=
  outputs (LimiterCall.apply settings) (LimiterCall.request settings) l calls

/-- The number of calls admitted in an interval. -/
def admittedIn (settings : LimiterSettings) (l : LocalFallbackLimiter) (calls : List LimiterCall)
    (start finish : ℚ) : Nat :=
  takenIn start finish (limiterRequests settings l calls)

/-! ## The bucket of a limiter -/

namespace LocalFallbackLimiter

/-- The bucket of the limiter; before its first use it counts as full. -/
def bucket (settings : LimiterSettings) (l : LocalFallbackLimiter) : TokenBucket ℚ :=
  ⟨if l.initialized then l.tokens else settings.fallbackTokenBucketCapacity, l.lastRefill⟩

/-- The state that a check tests. -/
def filled (settings : LimiterSettings) (monotonic : ℚ) (l : LocalFallbackLimiter) :
    LocalFallbackLimiter :=
  (l.initTokens settings).refillTokens settings monotonic

theorem filled_initialized : (l.filled settings monotonic).initialized = true := by
  unfold filled refillTokens initTokens
  simp only
  split_ifs with hinit <;> first | exact hinit | rfl

/-- Filling the limiter refills its bucket. -/
theorem filled_bucket (monotonic : ℚ)
    (h : (l.bucket settings).tokens ≤ settings.fallbackTokenBucketCapacity) :
    (⟨(l.filled settings monotonic).tokens, (l.filled settings monotonic).lastRefill⟩ :
      TokenBucket ℚ) =
      (l.bucket settings).refill settings.fallbackTokenBucketCapacity
        settings.fallbackGlobalTokensPerSecond monotonic := by
  have hinit : (l.initTokens settings).tokens = (l.bucket settings).tokens ∧
      (l.initTokens settings).lastRefill = l.lastRefill := by
    unfold initTokens bucket
    split_ifs <;> exact ⟨rfl, rfl⟩
  unfold filled refillTokens TokenBucket.refill
  simp only [hinit.2, hinit.1]
  have hlast : (l.bucket settings).last = l.lastRefill := rfl
  rw [hlast]
  split_ifs with helapsed
  · have hnone : max 0 (monotonic - l.lastRefill) = 0 := le_antisymm helapsed (le_max_left _ _)
    rw [hnone, mul_zero, add_zero, min_eq_right h, hinit.1, hinit.2, max_eq_left]
    exact sub_nonpos.mp (le_of_max_le_right helapsed)
  · have hlater : l.lastRefill ≤ monotonic := by
      by_contra hnot
      exact helapsed (max_le (le_refl 0) (sub_nonpos.mpr (le_of_not_ge hnot)))
    rw [max_eq_right hlater, mul_comm]

/-- What a check makes of the filled limiter. -/
structure Serves (before : LocalFallbackLimiter) (result : Except GuardrailError Unit)
    (after : LocalFallbackLimiter) : Prop where
  initialized : after.initialized = true
  lastRefill : after.lastRefill = before.lastRefill
  affords : LimiterCall.admits result = true → 1 ≤ before.tokens
  tokens : after.tokens = before.tokens - if LimiterCall.admits result then 1 else 0

theorem checkReserve_serves (settings : LimiterSettings) (monotonic : ℚ) (time : Int)
    (userId traceId key : String) (l : LocalFallbackLimiter) :
    Serves (l.filled settings monotonic)
      (l.checkReserve settings monotonic time userId traceId key).1
      (l.checkReserve settings monotonic time userId traceId key).2 := by
  have hinit : (l.filled settings monotonic).initialized = true := filled_initialized
  have hrejected : ∀ (f : LocalFallbackLimiter) e, f.tokens = f.tokens -
      if LimiterCall.admits (.error e) then 1 else 0 := fun f e => (sub_zero _).symm
  have hfilled : (l.initTokens settings).refillTokens settings monotonic =
      l.filled settings monotonic := rfl
  unfold checkReserve
  simp only [hfilled]
  generalize l.filled settings monotonic = f at hinit
  split_ifs with htokens hrate hdepth hinflight
  · exact ⟨hinit, rfl, nofun, hrejected f _⟩
  · exact ⟨hinit, rfl, nofun, hrejected f _⟩
  · exact ⟨hinit, rfl, nofun, hrejected f _⟩
  · exact ⟨hinit, rfl, nofun, hrejected f _⟩
  · exact ⟨hinit, rfl, fun _ => not_lt.mp htokens, rfl⟩

/-- A check serves the bucket of the limiter. -/
theorem checkReserve_bucket (time : Int) (userId traceId key : String)
    (h : (l.bucket settings).tokens ≤ settings.fallbackTokenBucketCapacity) :
    ∀ r ∈ LimiterCall.request settings l (.checkReserve monotonic time userId traceId key),
      (l.bucket settings).Affords settings.fallbackTokenBucketCapacity
        settings.fallbackGlobalTokensPerSecond r ∧
      (LimiterCall.apply settings l (.checkReserve monotonic time userId traceId key)).bucket
          settings =
        (l.bucket settings).serve settings.fallbackTokenBucketCapacity
          settings.fallbackGlobalTokensPerSecond r := by
  intro r hr
  obtain rfl := List.mem_singleton.mp hr
  have hserves := checkReserve_serves settings monotonic time userId traceId key l
  have hfilled := filled_bucket monotonic h
  have htokens := congrArg TokenBucket.tokens hfilled
  have hlast := congrArg TokenBucket.last hfilled
  simp only at htokens hlast
  refine ⟨fun htaken => ?_, ?_⟩
  · rw [← htokens]
    exact hserves.affords htaken
  · rw [LimiterCall.apply, bucket, if_pos hserves.initialized, hserves.tokens, hserves.lastRefill,
      htokens, hlast]
    rfl

end LocalFallbackLimiter

/-! ## Sequences of calls -/

theorem releaseReserve_bucket (settings : LimiterSettings) (l : LocalFallbackLimiter)
    (userId : String) :
    (l.releaseReserve userId).bucket settings = l.bucket settings := by
  unfold LocalFallbackLimiter.releaseReserve
  split_ifs <;> rfl

theorem limiterRequests_cons (c : LimiterCall) (calls : List LimiterCall) :
    limiterRequests settings l (c :: calls) =
      c.request settings l ++ limiterRequests settings (c.apply settings l) calls := rfl

theorem map_time_limiterRequests (settings : LimiterSettings) (l : LocalFallbackLimiter)
    (calls : List LimiterCall) :
    (limiterRequests settings l calls).map Request.time =
      calls.filterMap LimiterCall.monotonic? := by
  induction calls generalizing l with
  | nil => rfl
  | cons c calls ih =>
    rw [limiterRequests_cons, List.map_append, ih]
    cases c <;> rfl

/-- A sequence of calls serves the bucket of the limiter. -/
theorem limiter_serves (hrate : 0 ≤ settings.fallbackGlobalTokensPerSecond)
    (h : (l.bucket settings).Level settings.fallbackTokenBucketCapacity)
    (calls : List LimiterCall) :
    ((limiterRun settings l calls).bucket settings).Level settings.fallbackTokenBucketCapacity ∧
      Along (serve settings.fallbackTokenBucketCapacity settings.fallbackGlobalTokensPerSecond)
        (Affords settings.fallbackTokenBucketCapacity settings.fallbackGlobalTokensPerSecond)
        (l.bucket settings) (limiterRequests settings l calls) := by
  induction calls generalizing l with
  | nil => exact ⟨h, trivial⟩
  | cons c calls ih =>
    cases c with
    | releaseReserve userId =>
      have hsame := releaseReserve_bucket settings l userId
      have hrest := ih (l := l.releaseReserve userId) (hsame.symm ▸ h)
      rw [hsame] at hrest
      exact hrest
    | checkReserve monotonic time userId traceId key =>
      obtain ⟨haffords, hserved⟩ := LocalFallbackLimiter.checkReserve_bucket time userId traceId key
        h.le_capacity _ List.mem_cons_self
      have hrest := ih (hserved.symm ▸ h.serve hrate haffords)
      rw [hserved] at hrest
      exact ⟨hrest.1, haffords, hrest.2⟩

/-- A limiter that has not been used has no tokens yet. -/
theorem limiterRun_tokens (settings : LimiterSettings)
    (hl : l.initialized = false → l.tokens = 0) (calls : List LimiterCall)
    (h : (limiterRun settings l calls).initialized = false) :
    (limiterRun settings l calls).tokens = 0 := by
  induction calls generalizing l with
  | nil => exact hl h
  | cons c calls ih =>
    refine ih ?_ h
    cases c with
    | releaseReserve userId =>
      simp only [LimiterCall.apply, LocalFallbackLimiter.releaseReserve]
      split_ifs <;> exact hl
    | checkReserve monotonic time userId traceId key =>
      have hserves :=
        LocalFallbackLimiter.checkReserve_serves settings monotonic time userId traceId key l
      intro hunused
      rw [LimiterCall.apply, hserves.initialized] at hunused
      cases hunused

/-- Filling a limiter takes no token. -/
theorem tokens_le_filled (hrate : 0 ≤ settings.fallbackGlobalTokensPerSecond)
    (hl : l.initialized = false → l.tokens = 0)
    (h : (l.bucket settings).Level settings.fallbackTokenBucketCapacity) :
    l.tokens ≤ (l.filled settings monotonic).tokens := by
  have htokens : l.tokens ≤ (l.bucket settings).tokens := by
    unfold LocalFallbackLimiter.bucket
    split_ifs with hinit
    · exact le_refl _
    · rw [hl (Bool.not_eq_true _ ▸ hinit)]
      exact h.nonneg.trans h.le_capacity
  have hfilled := congrArg TokenBucket.tokens
    (LocalFallbackLimiter.filled_bucket monotonic h.le_capacity)
  simp only [TokenBucket.refill] at hfilled
  rw [hfilled]
  refine htokens.trans (le_min h.le_capacity (le_add_of_nonneg_right ?_))
  exact mul_nonneg hrate (le_max_left _ _)

/-- After any calls the tokens are between none and the capacity, no interval admits more calls
than the capacity and its inflow, and a rejected call takes no token, but for the refill, and
counts no reservation in flight. -/
theorem limiter_bounded (settings : LimiterSettings)
    (hrate : 0 ≤ settings.fallbackGlobalTokensPerSecond)
    (hcapacity : 0 ≤ settings.fallbackTokenBucketCapacity) (created : ℚ)
    (calls : List LimiterCall)
    (hsorted : (calls.filterMap LimiterCall.monotonic?).Pairwise (· ≤ ·)) :
    (0 ≤ (limiterRun settings (.initial created) calls).tokens ∧
      (limiterRun settings (.initial created) calls).tokens ≤
        settings.fallbackTokenBucketCapacity) ∧
    (∀ start finish, start ≤ finish →
      (admittedIn settings (.initial created) calls start finish : ℚ) ≤
        settings.fallbackTokenBucketCapacity +
          settings.fallbackGlobalTokensPerSecond * (finish - start)) ∧
    ∀ monotonic time userId traceId key e limiter',
      (limiterRun settings (.initial created) calls).checkReserve settings monotonic time userId
        traceId key = (.error e, limiter') →
      limiter'.tokens =
        ((limiterRun settings (.initial created) calls).filled settings monotonic).tokens ∧
      (limiterRun settings (.initial created) calls).tokens ≤ limiter'.tokens ∧
      limiter'.inflight = (limiterRun settings (.initial created) calls).inflight := by
  have hempty : (LocalFallbackLimiter.initial created).initialized = false →
      (LocalFallbackLimiter.initial created).tokens = 0 := fun _ => rfl
  have hfull : ((LocalFallbackLimiter.initial created).bucket settings).Level
      settings.fallbackTokenBucketCapacity := ⟨hcapacity, le_refl _⟩
  obtain ⟨hlevel, hafford⟩ := limiter_serves hrate hfull calls
  have hunused := limiterRun_tokens settings hempty calls
  refine ⟨?_, ?_, ?_⟩
  · cases hinit : (limiterRun settings (.initial created) calls).initialized with
    | false =>
      rw [hunused hinit]
      exact ⟨le_refl 0, hcapacity⟩
    | true =>
      rw [LocalFallbackLimiter.bucket, if_pos hinit] at hlevel
      exact ⟨hlevel.nonneg, hlevel.le_capacity⟩
  · intro start finish hinterval
    refine takenIn_le hrate hfull hinterval ?_ hafford
    rw [← map_time_limiterRequests settings (.initial created)] at hsorted
    exact List.pairwise_map.mp hsorted
  · intro monotonic time userId traceId key e limiter' hrejected
    generalize limiterRun settings (.initial created) calls = l at hlevel hunused hrejected ⊢
    have hserves :=
      LocalFallbackLimiter.checkReserve_serves settings monotonic time userId traceId key l
    have hinflight :=
      LocalFallbackLimiter.checkReserve_inflight settings monotonic time userId traceId key l
    rw [hrejected] at hserves hinflight
    have htokens : limiter'.tokens = (l.filled settings monotonic).tokens :=
      hserves.tokens.trans (sub_zero _)
    refine ⟨htokens, ?_, ?_⟩
    · rw [htokens]
      exact tokens_le_filled hrate hunused hlevel
    · rcases hinflight with ⟨hok, -⟩ | ⟨-, hsame⟩
      · cases hok
      · exact hsame

/-- A check, a release and a second check of one user in a bucket of one token. -/
def sampleLimiterCalls : List LimiterCall :=
  [.checkReserve 10 600 "user-1" "trace-1" "op-1", .releaseReserve "user-1",
    .checkReserve 11 601 "user-1" "trace-1" "op-2"]

theorem limiter_bounded_sample :
    (admittedIn ⟨50, 5, 60, 1 / 2, 1⟩ (.initial 0) sampleLimiterCalls 10 11 : ℚ) ≤
      1 + 1 / 2 * (11 - 10) := by
  have hsorted : (sampleLimiterCalls.filterMap LimiterCall.monotonic?).Pairwise (· ≤ ·) := by
    change [(10 : ℚ), 11].Pairwise (· ≤ ·)
    norm_num
  exact (limiter_bounded ⟨50, 5, 60, 1 / 2, 1⟩ (by norm_num) (by norm_num) 0 sampleLimiterCalls
    hsorted).2.1 10 11 (by norm_num)

end Governor.Operations
