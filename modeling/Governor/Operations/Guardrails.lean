import Mathlib
import Governor.Core.KeyStore
import Governor.Operations.Limiter

/-!
# The guardrails in Redis

The processes of the sidecar count the requests of a user's minute, the keys of a trace and a
user's reservations in flight under keys of one Redis. A check issues up to eight commands, and
those of concurrent checks interleave. A command that raises sends its process to the fallback
limiter for good.
-/

namespace Governor.Operations

open KeyStore

/-! ## Keys -/

/-- The settings of the guardrails. -/
structure GuardrailSettings where
  rateLimitPerMinute : Int
  maxTraceDepth : Int
  maxUserInflight : Int
  reserveTtlSeconds : Int

/-- The defaults of `config.py`. -/
def GuardrailSettings.default : GuardrailSettings := ⟨120, 50, 10, 300⟩

/-- `f"mg:rate:{user_id}:{window}"`. -/
def rateKey (userId : String) (window : Nat) : String :=
  "mg:rate:" ++ userId ++ ":" ++ toString window

/-- `f"mg:trace:{trace_id}:ops"`. -/
def traceKey (traceId : String) : String := "mg:trace:" ++ traceId ++ ":ops"

/-- `f"mg:inflight:{user_id}"`. -/
def inflightKey (userId : String) : String := "mg:inflight:" ++ userId

/-- `int(time.time()) // 60`. -/
def minuteOf (now : ℚ) : Nat := ⌊now⌋₊ / 60

/-- The part after the last separator is read off the text. -/
theorem append_sep_inj {c : Char} {as as' bs bs' : List Char} (hbs : c ∉ bs) (hbs' : c ∉ bs')
    (h : as ++ c :: bs = as' ++ c :: bs') : as = as' ∧ bs = bs' := by
  rcases List.append_eq_append_iff.mp h with ⟨ds, rfl, hds⟩ | ⟨ds, rfl, hds⟩
  · cases ds with
    | nil => exact ⟨by simp, (List.cons.inj hds).2⟩
    | cons d ds =>
      rw [List.cons_append] at hds
      exact absurd (by simp [(List.cons.inj hds).2]) hbs
  · cases ds with
    | nil => exact ⟨by simp, (List.cons.inj hds).2.symm⟩
    | cons d ds =>
      rw [List.cons_append] at hds
      exact absurd (by simp [(List.cons.inj hds).2]) hbs'

theorem rateKey_inj {userId userId' : String} {window window' : Nat} :
    rateKey userId window = rateKey userId' window' ↔ userId = userId' ∧ window = window' := by
  refine ⟨fun h => ?_, fun h => by rw [h.1, h.2]⟩
  have hdigits : ∀ n : Nat, ':' ∉ Nat.toDigits 10 n := fun n hc =>
    absurd (Nat.isDigit_of_mem_toDigits (by decide) (by decide) hc) (by decide)
  rw [← String.toList_inj] at h
  simp only [rateKey, String.toList_append, List.append_assoc] at h
  have hrest := List.append_cancel_left h
  have htext : ∀ n : Nat, (toString n).toList = Nat.toDigits 10 n := fun n => Nat.toList_repr
  rw [htext, htext] at hrest
  obtain ⟨huser, hwindow⟩ := append_sep_inj (hdigits window) (hdigits window') hrest
  refine ⟨String.toList_inj.mp huser, ?_⟩
  have hvalue : ∀ n, Nat.ofDigitChars 10 (Nat.toDigits 10 n) 0 = n := fun _ =>
    Nat.ofDigitChars_ten_toDigits
  rw [← hvalue window, ← hvalue window', hwindow]

theorem inflightKey_inj {userId userId' : String} :
    inflightKey userId = inflightKey userId' ↔ userId = userId' := by
  rw [inflightKey, inflightKey, String.append_right_inj]

theorem traceKey_inj {traceId traceId' : String} :
    traceKey traceId = traceKey traceId' ↔ traceId = traceId' := by
  rw [traceKey, traceKey, String.append_left_inj, String.append_right_inj]

/-- The fourth letter tells the keys apart. -/
theorem rateKey_letter (userId : String) (window : Nat) :
    (rateKey userId window).toList[3]? = some 'r' := by
  simp [rateKey, String.toList_append]

theorem traceKey_letter (traceId : String) : (traceKey traceId).toList[3]? = some 't' := by
  simp [traceKey, String.toList_append]

theorem inflightKey_letter (userId : String) : (inflightKey userId).toList[3]? = some 'i' := by
  simp [inflightKey, String.toList_append]

theorem rateKey_ne_traceKey (userId : String) (window : Nat) (traceId : String) :
    rateKey userId window ≠ traceKey traceId := by
  intro h
  have hletter := traceKey_letter traceId
  rw [← h, rateKey_letter] at hletter
  exact absurd hletter (by decide)

theorem rateKey_ne_inflightKey (userId : String) (window : Nat) (other : String) :
    rateKey userId window ≠ inflightKey other := by
  intro h
  have hletter := inflightKey_letter other
  rw [← h, rateKey_letter] at hletter
  exact absurd hletter (by decide)

theorem traceKey_ne_inflightKey (traceId other : String) :
    traceKey traceId ≠ inflightKey other := by
  intro h
  have hletter := inflightKey_letter other
  rw [← h, traceKey_letter] at hletter
  exact absurd hletter (by decide)

/-! ## Routines -/

/-- A call of `_check_redis`, with the minute that it has read from the clock. -/
structure CheckCall where
  process : Nat
  userId : String
  traceId : String
  idempotencyKey : String
  window : Nat
  deriving DecidableEq, Repr

/-- What becomes of a check. -/
inductive CheckResult where
  | passed
  | refused (error : GuardrailError)
  /-- A command raised. -/
  | unavailable
  deriving DecidableEq, Repr

/-- The next command of a check. -/
inductive CheckStage where
  /-- `incr(rate_key)`. -/
  | rate
  /-- `expire(rate_key, 120)`. -/
  | rateExpire (count : Int)
  /-- `sadd(trace_key, idempotency_key)`. -/
  | trace
  /-- `expire(trace_key, 3600)`. -/
  | traceExpire
  /-- `scard(trace_key)`. -/
  | traceCard
  /-- `incr(inflight_key)`. -/
  | inflight
  /-- `expire(inflight_key, reserve_ttl_seconds + 120)`. -/
  | inflightExpire (inflight : Int)
  /-- `decr(inflight_key)`. -/
  | inflightUndo
  | ended (result : CheckResult)
  deriving DecidableEq, Repr

/-- The next command of `release_reserve`. -/
inductive ReleaseStage where
  /-- `decr(inflight_key)`. -/
  | decr
  /-- `set(inflight_key, 0, ex=reserve_ttl_seconds + 120)`. -/
  | reset
  /-- `answered` unless a command raised. -/
  | ended (answered : Bool)
  deriving DecidableEq, Repr

/-- A call in progress. -/
inductive GuardrailCall where
  | check (call : CheckCall) (stage : CheckStage)
  | release (process : Nat) (userId : String) (stage : ReleaseStage)
  deriving DecidableEq, Repr

section Code

variable (limits : GuardrailSettings)

/-- After `count` is known. -/
def CheckCall.rated (call : CheckCall) (count : Int) : CheckStage :=
  if limits.rateLimitPerMinute < count then
    .ended (.refused (.rateLimitExceeded ("rate limit exceeded for user " ++ call.userId)))
  else .trace

/-- After `inflight` is known. -/
def CheckCall.counted (inflight : Int) : CheckStage :=
  if limits.maxUserInflight < inflight then .inflightUndo else .ended .passed

/-- The command of a check. -/
def CheckCall.next (call : CheckCall) : CheckStage → Option (Command String String ℚ)
  | .rate => some (.incr (rateKey call.userId call.window))
  | .rateExpire _ => some (.expire (rateKey call.userId call.window) 120)
  | .trace => some (.sadd (traceKey call.traceId) call.idempotencyKey)
  | .traceExpire => some (.expire (traceKey call.traceId) 3600)
  | .traceCard => some (.scard (traceKey call.traceId))
  | .inflight => some (.incr (inflightKey call.userId))
  | .inflightExpire _ => some (.expire (inflightKey call.userId) (limits.reserveTtlSeconds + 120))
  | .inflightUndo => some (.decr (inflightKey call.userId))
  | .ended _ => none

/-- `_check_redis` after a reply. -/
def CheckCall.resume (call : CheckCall) : CheckStage → Option Int → CheckStage
  | _, none => .ended .unavailable
  | .rate, some count => if count = 1 then .rateExpire count else call.rated limits count
  | .rateExpire count, some _ => call.rated limits count
  | .trace, some _ => .traceExpire
  | .traceExpire, some _ => .traceCard
  | .traceCard, some depth =>
    if limits.maxTraceDepth < depth then
      .ended (.refused (.traceDepthExceeded ("trace depth exceeded for " ++ call.traceId)))
    else .inflight
  | .inflight, some inflight =>
    if inflight = 1 then .inflightExpire inflight else counted limits inflight
  | .inflightExpire inflight, some _ => counted limits inflight
  | .inflightUndo, some _ =>
    .ended (.refused
      (.inflightLimitExceeded ("in-flight limit exceeded for user " ++ call.userId)))
  | .ended result, some _ => .ended result

/-- The command of a release. -/
def ReleaseStage.next (userId : String) : ReleaseStage → Option (Command String String ℚ)
  | .decr => some (.decr (inflightKey userId))
  | .reset => some (.set (inflightKey userId) 0 (limits.reserveTtlSeconds + 120))
  | .ended _ => none

/-- `release_reserve` after a reply. -/
def ReleaseStage.resume : ReleaseStage → Option Int → ReleaseStage
  | _, none => .ended false
  | .decr, some remaining => if remaining < 0 then .reset else .ended true
  | .reset, some _ => .ended true
  | .ended answered, some _ => .ended answered

/-- The code of the guardrails. -/
def guardrailCode : Routine String String ℚ GuardrailCall where
  next
    | .check call stage => call.next limits stage
    | .release _ userId stage => stage.next limits userId
  resume
    | .check call stage, reply => .check call (call.resume limits stage reply)
    | .release process userId stage, reply => .release process userId (stage.resume reply)

end Code

/-! ## The processes -/

/-- The processes of the sidecar on one Redis. -/
structure GuardrailWorld where
  now : ℚ
  redis : Shared String String ℚ GuardrailCall
  /-- `_degraded` of each process. -/
  degraded : Nat → Bool
  fallback : Nat → LocalFallbackLimiter
  /-- What has become of the checks in Redis. -/
  answered : List (CheckCall × CheckResult)
  /-- The checks that a fallback has let pass, with the minute in which it counted them. -/
  passedLocally : List CheckCall
  /-- The users of the releases that have gone to Redis. -/
  released : List String

/-- What happens next. -/
inductive GuardrailAction where
  /-- `check_reserve`. -/
  | check (process : Nat) (userId traceId idempotencyKey : String)
  /-- `release_reserve`. -/
  | release (process : Nat) (userId : String)
  /-- The next command of a call. -/
  | command (i : Nat) (fate : Fate)
  /-- A call returns, or goes on with the fallback. -/
  | finish (i : Nat)

/-- An action with the time of the clocks: `time.time()` and, in the fallback,
`time.monotonic()`. -/
structure TimedGuardrailAction where
  time : ℚ
  monotonic : ℚ
  action : GuardrailAction

/-- A check of the fallback belongs to the minute of its own time. -/
def CheckCall.countPassed (call : CheckCall) (time : ℚ) (answer : Except GuardrailError Unit)
    (passed : List CheckCall) : List CheckCall :=
  match answer with
  | .ok _ => passed ++ [{ call with window := minuteOf time }]
  | .error _ => passed

namespace GuardrailWorld

variable (fallbackLimits : LimiterSettings) (limits : GuardrailSettings)

/-- `get_fallback_limiter().check_reserve`. -/
def checkLocally (a : TimedGuardrailAction) (call : CheckCall) (w : GuardrailWorld) :
    GuardrailWorld :=
  let r := (w.fallback call.process).checkReserve fallbackLimits a.monotonic ⌊a.time⌋
    call.userId call.traceId call.idempotencyKey
  { w with
    degraded := Function.update w.degraded call.process true
    fallback := Function.update w.fallback call.process r.2
    passedLocally := call.countPassed a.time r.1 w.passedLocally }

/-- `get_fallback_limiter().release_reserve`. -/
def releaseLocally (process : Nat) (userId : String) (w : GuardrailWorld) : GuardrailWorld :=
  { w with
    degraded := Function.update w.degraded process true
    fallback := Function.update w.fallback process
      ((w.fallback process).releaseReserve userId) }

/-- A call has ended. -/
def close (a : TimedGuardrailAction) (i : Nat) (w : GuardrailWorld) : GuardrailWorld :=
  let rest : GuardrailWorld := { w with redis := ⟨w.redis.store, w.redis.running.eraseIdx i⟩ }
  match w.redis.running[i]? with
  | some (.check call (.ended result)) =>
    let told : GuardrailWorld := { rest with answered := w.answered ++ [(call, result)] }
    match result with
    | .unavailable => told.checkLocally fallbackLimits a call
    | _ => told
  | some (.release _ _ (.ended true)) => rest
  | some (.release process userId (.ended false)) => rest.releaseLocally process userId
  | _ => w

/-- One step of the processes. -/
def act (a : TimedGuardrailAction) (w : GuardrailWorld) : GuardrailWorld :=
  match a.action with
  | .check process userId traceId idempotencyKey =>
    let call : CheckCall := ⟨process, userId, traceId, idempotencyKey, minuteOf a.time⟩
    if w.degraded process then w.checkLocally fallbackLimits a call
    else { w with redis := ⟨w.redis.store, w.redis.running ++ [.check call .rate]⟩ }
  | .release process userId =>
    if w.degraded process then w.releaseLocally process userId
    else { w with
      redis := ⟨w.redis.store, w.redis.running ++ [.release process userId .decr]⟩
      released := w.released ++ [userId] }
  | .command i fate => { w with redis := (guardrailCode limits).issue a.time i fate w.redis }
  | .finish i => w.close fallbackLimits a i

/-- One step, with its time. -/
def step (w : GuardrailWorld) (a : TimedGuardrailAction) : GuardrailWorld :=
  { act fallbackLimits limits a w with now := a.time }

/-- No request has come yet; some processes may have failed to connect. -/
def start (degraded : Nat → Bool) (monotonic : Nat → ℚ) : GuardrailWorld :=
  ⟨0, ⟨fun _ => none, []⟩, degraded, fun p => .initial (monotonic p), [], [], []⟩

/-- The call whose command an action issues. -/
def issuer (w : GuardrailWorld) (a : TimedGuardrailAction) : Option GuardrailCall :=
  match a.action with
  | .command i _ => w.redis.running[i]?
  | _ => none

/-- What a step does to Redis and to the calls on it. -/
inductive Effect (limits : GuardrailSettings) (a : TimedGuardrailAction) (w : GuardrailWorld) :
    Shared String String ℚ GuardrailCall → List (CheckCall × CheckResult) → List String → Prop
  | kept : Effect limits a w w.redis w.answered w.released
  | checked {call : CheckCall} (hwindow : call.window = minuteOf a.time) :
      Effect limits a w ⟨w.redis.store, w.redis.running ++ [.check call .rate]⟩ w.answered
        w.released
  | released (process : Nat) {userId : String} (haction : a.action = .release process userId)
      (hconnected : w.degraded process = false) :
      Effect limits a w ⟨w.redis.store, w.redis.running ++ [.release process userId .decr]⟩
        w.answered (w.released ++ [userId])
  | issued {i : Nat} {fate : Fate} {redis : Shared String String ℚ GuardrailCall}
      (haction : a.action = .command i fate)
      (hissued : (guardrailCode limits).Issued a.time i fate w.redis redis) :
      Effect limits a w redis w.answered w.released
  | answered {i : Nat} {call : CheckCall} {result : CheckResult}
      (hi : w.redis.running[i]? = some (.check call (.ended result))) :
      Effect limits a w ⟨w.redis.store, w.redis.running.eraseIdx i⟩
        (w.answered ++ [(call, result)]) w.released
  | closed {i process : Nat} {userId : String} {answered : Bool}
      (hi : w.redis.running[i]? = some (.release process userId (.ended answered))) :
      Effect limits a w ⟨w.redis.store, w.redis.running.eraseIdx i⟩ w.answered w.released

variable {fallbackLimits limits} {a : TimedGuardrailAction} {w : GuardrailWorld}

theorem step_effect (fallbackLimits : LimiterSettings) (limits : GuardrailSettings)
    (w : GuardrailWorld) (a : TimedGuardrailAction) :
    Effect limits a w (step fallbackLimits limits w a).redis
      (step fallbackLimits limits w a).answered (step fallbackLimits limits w a).released := by
  obtain ⟨time, monotonic, action⟩ := a
  simp only [step, act]
  cases action with
  | check process userId traceId idempotencyKey =>
    simp only
    split_ifs with hdegraded
    · exact .kept
    · exact .checked rfl
  | release process userId =>
    simp only
    split_ifs with hdegraded
    · exact .kept
    · exact .released process rfl (by simpa using hdegraded)
  | command i fate => exact .issued rfl (Routine.issued _ _ _ _ _)
  | finish i =>
    simp only [close]
    split
    · next call result hi => cases result <;> exact .answered hi
    · next process userId hi => exact .closed hi
    · next process userId hi => exact .closed hi
    · exact .kept

end GuardrailWorld

end Governor.Operations
