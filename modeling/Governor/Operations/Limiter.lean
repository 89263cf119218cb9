import Mathlib
import Governor.Ledger.Schema

/-!
# The local fallback limiter

Without Redis the sidecar checks a reserve against a token bucket, a rate window, the depth
of its trace and the user's reservations in flight, all in one process and under one lock.
Floats are modelled by rationals. A check that raises keeps what it has written before.
-/

namespace Governor.Operations

open Ledger

/-- The settings of the fallback limiter. -/
structure LimiterSettings where
  fallbackMaxTraceDepth : Int
  fallbackMaxUserInflight : Int
  fallbackRateLimitPerMinute : Int
  fallbackGlobalTokensPerSecond : ℚ
  fallbackTokenBucketCapacity : ℚ

/-- The defaults of `config.py`. -/
def LimiterSettings.default : LimiterSettings := ⟨50, 5, 60, 20, 40⟩

/-- The errors of the guardrails. -/
inductive GuardrailError where
  | rateLimitExceeded (message : String)
  | traceDepthExceeded (message : String)
  | inflightLimitExceeded (message : String)
  deriving DecidableEq, Repr

/-- `LocalFallbackLimiter`. -/
structure LocalFallbackLimiter where
  /-- `_rate_windows`: the window and the count of each user. -/
  rateWindows : String → Option (Int × Int)
  /-- `_inflight`, a `defaultdict(int)`. -/
  inflight : String → Int
  /-- `_trace_depth`: the keys seen on each trace. -/
  traceDepth : String → List String
  tokens : ℚ
  lastRefill : ℚ
  initialized : Bool

namespace LocalFallbackLimiter

/-- `__init__`. -/
def initial (monotonic : ℚ) : LocalFallbackLimiter :=
  ⟨fun _ => none, fun _ => 0, fun _ => [], 0, monotonic, false⟩

/-- `_refill_tokens`. -/
def refillTokens (settings : LimiterSettings) (monotonic : ℚ) (l : LocalFallbackLimiter) :
    LocalFallbackLimiter :=
  let elapsed := max 0 (monotonic - l.lastRefill)
  if elapsed ≤ 0 then l
  else { l with
    tokens := min settings.fallbackTokenBucketCapacity
      (l.tokens + elapsed * settings.fallbackGlobalTokensPerSecond)
    lastRefill := monotonic }

/-- The first use of the bucket fills it. -/
def initTokens (settings : LimiterSettings) (l : LocalFallbackLimiter) : LocalFallbackLimiter :=
  if l.initialized then l
  else { l with tokens := settings.fallbackTokenBucketCapacity, initialized := true }

/-- The count of the user's requests in the window of `int(time.time()) // 60`. -/
def rateCount (l : LocalFallbackLimiter) (userId : String) (window : Int) : Int :=
  match l.rateWindows userId with
  | none => 1
  | some prior => if prior.1 ≠ window then 1 else prior.2 + 1

/-- `trace_ops.add(idempotency_key)`. -/
def traceOps (l : LocalFallbackLimiter) (traceId idempotencyKey : String) : List String :=
  if idempotencyKey ∈ l.traceDepth traceId then l.traceDepth traceId
  else l.traceDepth traceId ++ [idempotencyKey]

/-- `check_reserve`. -/
def checkReserve (settings : LimiterSettings) (monotonic : ℚ) (time : Int)
    (userId traceId idempotencyKey : String) (limiter : LocalFallbackLimiter) :
    Except GuardrailError Unit × LocalFallbackLimiter :=
  let filled := (limiter.initTokens settings).refillTokens settings monotonic
  if filled.tokens < 1 then
    (.error (.rateLimitExceeded "local fallback global token bucket exhausted"), filled)
  else
    let window := time / 60
    let count := filled.rateCount userId window
    let counted := { filled with
      rateWindows := Function.update filled.rateWindows userId (some (window, count)) }
    if settings.fallbackRateLimitPerMinute < count then
      (.error (.rateLimitExceeded ("local fallback rate limit for user " ++ userId)), counted)
    else
      let ops := counted.traceOps traceId idempotencyKey
      let traced := { counted with traceDepth := Function.update counted.traceDepth traceId ops }
      if settings.fallbackMaxTraceDepth < ops.length then
        (.error (.traceDepthExceeded ("local fallback trace depth for " ++ traceId)), traced)
      else
        let inflight := traced.inflight userId + 1
        if settings.fallbackMaxUserInflight < inflight then
          (.error (.inflightLimitExceeded ("local fallback in-flight limit for user " ++ userId)),
            traced)
        else (.ok (), { traced with
          inflight := Function.update traced.inflight userId inflight
          tokens := traced.tokens - 1 })

/-- `release_reserve`. -/
def releaseReserve (userId : String) (l : LocalFallbackLimiter) : LocalFallbackLimiter :=
  if 0 < l.inflight userId then
    { l with inflight := Function.update l.inflight userId (l.inflight userId - 1) }
  else l

variable {settings : LimiterSettings} {monotonic : ℚ} {time : Int}
  {userId traceId key : String} {l : LocalFallbackLimiter}

@[simp] theorem refillTokens_inflight (l : LocalFallbackLimiter) :
    (l.refillTokens settings monotonic).inflight = l.inflight := by
  unfold refillTokens
  simp only
  split_ifs <;> rfl

@[simp] theorem initTokens_inflight (l : LocalFallbackLimiter) :
    (l.initTokens settings).inflight = l.inflight := by
  unfold initTokens
  split_ifs <;> rfl

/-- A check that passes counts one reservation more, within the limit; a check that raises
counts none. -/
theorem checkReserve_inflight (settings : LimiterSettings) (monotonic : ℚ) (time : Int)
    (userId traceId key : String) (l : LocalFallbackLimiter) :
    ((checkReserve settings monotonic time userId traceId key l).1 = .ok () ∧
      l.inflight userId + 1 ≤ settings.fallbackMaxUserInflight ∧
      (checkReserve settings monotonic time userId traceId key l).2.inflight =
        Function.update l.inflight userId (l.inflight userId + 1)) ∨
    ((checkReserve settings monotonic time userId traceId key l).1 ≠ .ok () ∧
      (checkReserve settings monotonic time userId traceId key l).2.inflight = l.inflight) := by
  unfold checkReserve
  simp only
  split_ifs with htokens hrate hdepth hinflight
  · exact Or.inr ⟨by simp, by simp⟩
  · exact Or.inr ⟨by simp, by simp⟩
  · exact Or.inr ⟨by simp, by simp⟩
  · exact Or.inr ⟨by simp, by simp⟩
  · refine Or.inl ⟨rfl, ?_, by simp⟩
    simpa using hinflight

/-- The in-flight limit denies a check only when it is reached. -/
theorem inflight_of_denied {message : String}
    (h : (checkReserve settings monotonic time userId traceId key l).1 =
      .error (.inflightLimitExceeded message)) :
    settings.fallbackMaxUserInflight ≤ l.inflight userId := by
  unfold checkReserve at h
  simp only at h
  split_ifs at h with _ _ _ hinflight
  · cases h
  · cases h
  · cases h
  · simp only [refillTokens_inflight, initTokens_inflight] at hinflight
    omega

/-- A release gives back one counted reservation. -/
theorem releaseReserve_inflight (h : 0 < l.inflight userId) :
    (l.releaseReserve userId).inflight =
      Function.update l.inflight userId (l.inflight userId - 1) := by
  rw [releaseReserve, if_pos h]

end LocalFallbackLimiter

end Governor.Operations
