import Mathlib
import Governor.Core.Run
import Governor.Operations.Limiter
import Governor.Sector.Fnol

/-!
# Crystallize handlers in flight

`POST /crystallize` of the insurance spine checks a request with the guardrails, runs the spine's
transaction and releases the account in a `finally` block. The handlers run concurrently, and the
`finally` block also runs when the check itself refused. The theorem says which releases keep the
counter equal to the number of handlers between their check and their release.
-/

namespace Governor.Sector

open Finance
open Ledger (Clock Hash)
open Operations (GuardrailError LimiterSettings LocalFallbackLimiter)

/-! ## The guardrails in fallback mode -/

/-- The settings that `check_crystallize` reads. -/
structure GuardrailSettings where
  guardrailsEnabled : Bool
  fallbackMaxClaimDepth : Int
  fallbackMaxAccountInflight : Int
  fallbackRateLimitPerMinute : Int
  fallbackGlobalTokensPerSecond : ℚ
  fallbackTokenBucketCapacity : ℚ

namespace GuardrailSettings

/-- The defaults of `config.py`. -/
def default : GuardrailSettings := ⟨true, 50, 5, 60, 20, 40⟩

/-- The settings as the limiter of the ledger's sidecar names them. -/
def limits (settings : GuardrailSettings) : LimiterSettings where
  fallbackMaxTraceDepth := settings.fallbackMaxClaimDepth
  fallbackMaxUserInflight := settings.fallbackMaxAccountInflight
  fallbackRateLimitPerMinute := settings.fallbackRateLimitPerMinute
  fallbackGlobalTokensPerSecond := settings.fallbackGlobalTokensPerSecond
  fallbackTokenBucketCapacity := settings.fallbackTokenBucketCapacity

end GuardrailSettings

/-- `LocalFallbackLimiter.check_crystallize`: the state is that of the ledger's limiter, with an
account for a user and a claim for a trace. -/
def fallbackCheck (settings : GuardrailSettings) (monotonic : ℚ) (time : Int)
    (accountId claimId operationId : String) (limiter : LocalFallbackLimiter) :
    Except GuardrailError Unit × LocalFallbackLimiter :=
  let filled := (limiter.initTokens settings.limits).refillTokens settings.limits monotonic
  if filled.tokens < 1 then
    (.error (.rateLimitExceeded "local fallback global token bucket exhausted"), filled)
  else
    let window := time / 60
    let count := filled.rateCount accountId window
    let counted := { filled with
      rateWindows := Function.update filled.rateWindows accountId (some (window, count)) }
    if settings.fallbackRateLimitPerMinute < count then
      (.error (.rateLimitExceeded ("local fallback rate limit for account " ++ accountId)), counted)
    else
      let claimOps := counted.traceOps claimId operationId
      let traced := { counted with
        traceDepth := Function.update counted.traceDepth claimId claimOps }
      if settings.fallbackMaxClaimDepth < claimOps.length then
        (.error (.traceDepthExceeded ("local fallback claim depth for " ++ claimId)), traced)
      else
        let inflight := traced.inflight accountId + 1
        if settings.fallbackMaxAccountInflight < inflight then
          (.error (.inflightLimitExceeded ("local fallback in-flight limit for " ++ accountId)),
            traced)
        else (.ok (), { traced with
          inflight := Function.update traced.inflight accountId inflight
          tokens := traced.tokens - 1 })

/-- `str(exc)`. -/
def guardrailMessage : GuardrailError → String
  | .rateLimitExceeded message => message
  | .traceDepthExceeded message => message
  | .inflightLimitExceeded message => message

/-- `GuardrailService.check_crystallize` without Redis; `circuit` is the error of
`assert_closed("redis")`, if it raises one. -/
def checkCrystallize (settings : GuardrailSettings) (circuit : Option String) (monotonic : ℚ)
    (time : Int) (accountId claimId operationId : String) (limiter : LocalFallbackLimiter) :
    Except GuardrailRefusal Unit × LocalFallbackLimiter :=
  match circuit.filter fun _ => settings.guardrailsEnabled with
  | some message => (.error (.circuitOpenError message), limiter)
  | none =>
    let r := fallbackCheck settings monotonic time accountId claimId operationId limiter
    (r.1.mapError fun exc => .guardrailError (guardrailMessage exc), r.2)

/-- `release_crystallize` without Redis. -/
def releaseCrystallize (accountId : String) (limiter : LocalFallbackLimiter) :
    LocalFallbackLimiter :=
  limiter.releaseReserve accountId

/-- A check that passes counts one handler more, within the limit; a check that raises counts
none. -/
theorem fallbackCheck_inflight (settings : GuardrailSettings) (monotonic : ℚ) (time : Int)
    (accountId claimId operationId : String) (limiter : LocalFallbackLimiter) :
    (∃ limiter', fallbackCheck settings monotonic time accountId claimId operationId limiter =
        (.ok (), limiter') ∧
      limiter.inflight accountId + 1 ≤ settings.fallbackMaxAccountInflight ∧
      limiter'.inflight =
        Function.update limiter.inflight accountId (limiter.inflight accountId + 1)) ∨
    ∃ exc limiter', fallbackCheck settings monotonic time accountId claimId operationId limiter =
        (.error exc, limiter') ∧
      limiter'.inflight = limiter.inflight := by
  unfold fallbackCheck
  simp only
  split_ifs with htokens hrate hdepth hinflight
  · exact .inr ⟨_, _, rfl, by simp⟩
  · exact .inr ⟨_, _, rfl, by simp⟩
  · exact .inr ⟨_, _, rfl, by simp⟩
  · exact .inr ⟨_, _, rfl, by simp⟩
  · refine .inl ⟨_, rfl, ?_, by simp⟩
    simpa using hinflight

/-- The guardrails count a handler exactly when they let it pass. -/
theorem checkCrystallize_inflight (settings : GuardrailSettings) (circuit : Option String)
    (monotonic : ℚ) (time : Int) (accountId claimId operationId : String)
    (limiter : LocalFallbackLimiter) :
    (∃ limiter', checkCrystallize settings circuit monotonic time accountId claimId operationId
        limiter = (.ok (), limiter') ∧
      limiter.inflight accountId + 1 ≤ settings.fallbackMaxAccountInflight ∧
      limiter'.inflight =
        Function.update limiter.inflight accountId (limiter.inflight accountId + 1)) ∨
    ∃ refusal limiter', checkCrystallize settings circuit monotonic time accountId claimId
        operationId limiter = (.error refusal, limiter') ∧
      limiter'.inflight = limiter.inflight := by
  unfold checkCrystallize
  cases circuit.filter fun _ => settings.guardrailsEnabled with
  | some message => exact .inr ⟨_, _, rfl, rfl⟩
  | none =>
    obtain ⟨limiter', heq, hlimit, hinflight⟩ | ⟨exc, limiter', heq, hinflight⟩ :=
      fallbackCheck_inflight settings monotonic time accountId claimId operationId limiter
    · exact .inl ⟨limiter', by rw [heq]; rfl, hlimit, hinflight⟩
    · exact .inr ⟨_, limiter', by rw [heq]; rfl, hinflight⟩

/-! ## Handlers -/

/-- Where a `POST /crystallize` handler is. -/
inductive CrystallizePhase where
  /-- Before `check_crystallize`. -/
  | check
  /-- The check passed: before the spine's transaction. -/
  | call
  /-- In the `finally` block, with the reply; `passed` when the check passed. -/
  | release (passed : Bool) (reply : HttpReply)

/-- Whether the handler passed its check and has not yet released. -/
def CrystallizePhase.between : CrystallizePhase → Bool
  | .check => false
  | .call => true
  | .release passed _ => passed

/-- A handler in progress. -/
structure CrystallizeHandler where
  request : CrystallizeRequest
  phase : CrystallizePhase

/-- The sidecar with its handlers in progress. -/
structure InsuranceSidecar where
  spine : FinanceWorld
  limiter : LocalFallbackLimiter
  handlers : List CrystallizeHandler
  /-- The replies so far, with the operations they are about. -/
  replies : List (String × HttpReply)

/-- What the handlers run with. -/
structure SidecarEnv where
  deployment : Deployment
  settings : GuardrailSettings
  /-- `str` of a value in the facets. -/
  reader : FnolReader

/-- What happens next. -/
inductive SidecarAction where
  /-- A `POST /crystallize` request. -/
  | arrive (halted : Bool) (request : CrystallizeRequest)
  | check (i : Nat) (circuit : Option String) (monotonic : ℚ) (time : Int)
  /-- The transaction of a handler; `failed` when the database raises. -/
  | call (i : Nat) (failed enforce raced : Bool) (clock : Clock) (uuid : String)
  | release (i : Nat)
  /-- A transaction of another route or of the reconciler. -/
  | other (a : Action)

/-- `claim_id`. -/
def SidecarEnv.claimId (env : SidecarEnv) (request : CrystallizeRequest) : String :=
  env.reader.str ((request.facets.lookup "claim_id").getD (.str request.operationId))

/-- The reply to a request that reaches the database when it is down. -/
def databaseError : HttpReply := .error 500 "Internal Server Error"

namespace InsuranceSidecar

/-- A sidecar that has not checked anything yet. -/
def fresh (spine : FinanceWorld) (monotonic : ℚ) : InsuranceSidecar :=
  ⟨spine, .initial monotonic, [], []⟩

/-- Put a handler into another phase. -/
def move (i : Nat) (request : CrystallizeRequest) (phase : CrystallizePhase)
    (w : InsuranceSidecar) : InsuranceSidecar :=
  { w with handlers := w.handlers.set i ⟨request, phase⟩ }

/-- One step. -/
def step (env : SidecarEnv) (w : InsuranceSidecar) : SidecarAction → InsuranceSidecar
  | .arrive halted request =>
    if halted then
      { w with replies := w.replies ++
          [(request.operationId, .error 503 "diagnostic mode: writes halted")] }
    else { w with handlers := w.handlers ++ [⟨request, .check⟩] }
  | .check i circuit monotonic time =>
    match w.handlers[i]? with
    | some ⟨request, .check⟩ =>
      match checkCrystallize env.settings circuit monotonic time request.accountId
          (env.claimId request) request.operationId w.limiter with
      | (.ok (), limiter) => { w with limiter := limiter }.move i request .call
      | (.error refusal, limiter) =>
        { w with limiter := limiter }.move i request (.release false refusal.reply)
    | _ => w
  | .call i failed enforce raced clock uuid =>
    match w.handlers[i]? with
    | some ⟨request, .call⟩ =>
      let r := route env.deployment crystallizeStatus (if failed then some databaseError else none)
        w.spine (.crystallize enforce raced clock uuid request)
      { w with spine := r.2 }.move i request (.release true r.1)
    | _ => w
  | .release i =>
    match w.handlers[i]? with
    | some ⟨request, .release _ reply⟩ =>
      { w with
        limiter := releaseCrystallize request.accountId w.limiter
        handlers := w.handlers.eraseIdx i
        replies := w.replies ++ [(request.operationId, reply)] }
    | _ => w
  | .other a => { w with spine := Sector.step env.deployment w.spine a }

/-- The handlers of an account between their check and their release. -/
def inFlight (w : InsuranceSidecar) (accountId : String) : Nat :=
  w.handlers.countP fun h => h.request.accountId = accountId && h.phase.between

/-- The counter of every account is exact, and the limit holds. -/
structure CountersExact (settings : GuardrailSettings) (w : InsuranceSidecar) : Prop where
  counter : ∀ a, w.limiter.inflight a = w.inFlight a
  bounded : ∀ a, w.inFlight a ≤ settings.fallbackMaxAccountInflight.toNat

/-- A handler whose check refused it releases its account only while no handler of the account
is between its check and its release. -/
def Harmless (w : InsuranceSidecar) : SidecarAction → Prop
  | .release i => ∀ request reply, w.handlers[i]? = some ⟨request, .release false reply⟩ →
      w.inFlight request.accountId = 0
  | _ => True

/-! ## One step -/

section Step

variable {env : SidecarEnv} {settings : GuardrailSettings} {w w' : InsuranceSidecar} {i : Nat}
  {request : CrystallizeRequest} {phase : CrystallizePhase}

/-- What a handler contributes to the counter of its account. -/
def contribution (request : CrystallizeRequest) (phase : CrystallizePhase) (a : String) : Nat :=
  if request.accountId = a && phase.between then 1 else 0

theorem contribution_of_between (h : phase.between = true) (a : String) :
    contribution request phase a = if request.accountId = a then 1 else 0 := by
  simp [contribution, h]

theorem contribution_of_not_between (h : phase.between = false) (a : String) :
    contribution request phase a = 0 := by
  simp [contribution, h]

/-- A handler that moves on contributes by its new phase. -/
theorem inFlight_move (hi : w.handlers[i]? = some ⟨request, phase⟩) (phase' : CrystallizePhase)
    (a : String) : (w.move i request phase').inFlight a + contribution request phase a =
      w.inFlight a + contribution request phase' a := by
  have hmoved := countP_moved
    (fun h : CrystallizeHandler => h.request.accountId = a && h.phase.between) hi ⟨request, phase'⟩
  simpa only [inFlight, contribution, move] using hmoved

theorem inFlight_erase (hi : w.handlers[i]? = some ⟨request, phase⟩)
    (hhandlers : w'.handlers = w.handlers.eraseIdx i) (a : String) :
    w.inFlight a = w'.inFlight a + contribution request phase a := by
  have hended := countP_ended
    (fun h : CrystallizeHandler => h.request.accountId = a && h.phase.between) hi
  simpa only [inFlight, contribution, hhandlers] using hended

/-- What leaves the counters and the handlers between check and release alone keeps them exact. -/
theorem CountersExact.of_same (h : w.CountersExact settings)
    (hinflight : w'.limiter.inflight = w.limiter.inflight)
    (hflight : ∀ a, w'.inFlight a = w.inFlight a) : w'.CountersExact settings where
  counter a := by rw [hinflight, hflight, h.counter a]
  bounded a := by
    rw [hflight]
    exact h.bounded a

theorem arrive_exact (h : w.CountersExact settings) (halted : Bool)
    (request : CrystallizeRequest) :
    (w.step env (.arrive halted request)).CountersExact settings := by
  rw [step]
  split_ifs
  · exact h.of_same rfl fun a => rfl
  · exact h.of_same rfl fun a => by simp [inFlight, CrystallizePhase.between]

theorem check_exact (h : w.CountersExact env.settings) (i : Nat) (circuit : Option String)
    (monotonic : ℚ) (time : Int) :
    (w.step env (.check i circuit monotonic time)).CountersExact env.settings := by
  rw [step]
  split
  · next request hi =>
    obtain ⟨limiter, heq, hlimit, hinflight⟩ | ⟨refusal, limiter, heq, hinflight⟩ :=
      checkCrystallize_inflight env.settings circuit monotonic time request.accountId
        (env.claimId request) request.operationId w.limiter
    · rw [heq]
      have hmoved : ∀ a, (({ w with limiter := limiter }).move i request .call).inFlight a =
          w.inFlight a + if request.accountId = a then 1 else 0 := by
        intro a
        have hmove := inFlight_move (w := { w with limiter := limiter }) hi .call a
        rw [contribution_of_not_between rfl, contribution_of_between rfl] at hmove
        exact hmove
      refine ⟨?_, ?_⟩
      · intro a
        rw [hmoved]
        change limiter.inflight a = _
        rw [hinflight]
        by_cases ha : request.accountId = a
        · subst ha
          rw [Function.update_self, h.counter, if_pos rfl]
          push_cast
          rfl
        · rw [Function.update_of_ne (Ne.symm ha), h.counter, if_neg ha, add_zero]
      · intro a
        rw [hmoved]
        have hbound := h.bounded a
        by_cases ha : request.accountId = a
        · subst ha
          rw [h.counter] at hlimit
          rw [if_pos rfl]
          omega
        · rw [if_neg ha]
          exact hbound
    · rw [heq]
      refine h.of_same hinflight fun a => ?_
      have hmove := inFlight_move (w := { w with limiter := limiter }) hi
        (.release false refusal.reply) a
      rw [contribution_of_not_between rfl, contribution_of_not_between rfl] at hmove
      exact hmove
  · exact h

theorem call_exact (h : w.CountersExact settings) (i : Nat) (failed enforce raced : Bool)
    (clock : Clock) (uuid : String) :
    (w.step env (.call i failed enforce raced clock uuid)).CountersExact settings := by
  rw [step]
  split
  · next request hi =>
    refine h.of_same rfl fun a => ?_
    have hmove := inFlight_move hi (.release true (route env.deployment crystallizeStatus
      (if failed then some databaseError else none) w.spine
      (.crystallize enforce raced clock uuid request)).1) a
    rw [contribution_of_between rfl, contribution_of_between rfl] at hmove
    exact Nat.add_right_cancel hmove
  · exact h

/-- A release by a handler that was between check and release. -/
theorem CountersExact.of_given (h : w.CountersExact settings)
    (hgiven : ∀ a, w.inFlight a = w'.inFlight a + if request.accountId = a then 1 else 0)
    (hlimiter : w'.limiter = releaseCrystallize request.accountId w.limiter) :
    w'.CountersExact settings := by
  have hpos : 0 < w.limiter.inflight request.accountId := by
    have hself := hgiven request.accountId
    rw [if_pos rfl] at hself
    rw [h.counter, hself]
    omega
  have hinflight := LocalFallbackLimiter.releaseReserve_inflight hpos
  refine ⟨?_, ?_⟩
  · intro a
    have hcount := hgiven a
    rw [hlimiter, releaseCrystallize, hinflight]
    by_cases ha : request.accountId = a
    · subst ha
      rw [if_pos rfl] at hcount
      rw [Function.update_self, h.counter, hcount]
      omega
    · rw [if_neg ha, add_zero] at hcount
      rw [Function.update_of_ne (Ne.symm ha), h.counter, hcount]
  · intro a
    have hbound := h.bounded a
    rw [hgiven a] at hbound
    omega

/-- A release by a handler that was not: it is for nothing or it takes from another handler. -/
theorem exact_iff_of_taken (h : w.CountersExact settings)
    (hkept : ∀ a, w'.inFlight a = w.inFlight a)
    (hlimiter : w'.limiter = releaseCrystallize request.accountId w.limiter) :
    w'.CountersExact settings ↔ w.inFlight request.accountId = 0 := by
  constructor
  · intro h'
    by_contra hne
    have hpos : 0 < w.limiter.inflight request.accountId := by
      rw [h.counter]
      omega
    have hcounter := h'.counter request.accountId
    rw [hkept, hlimiter, releaseCrystallize, LocalFallbackLimiter.releaseReserve_inflight hpos,
      Function.update_self, h.counter] at hcounter
    omega
  · intro hzero
    have hidle : ¬ 0 < w.limiter.inflight request.accountId := by
      rw [h.counter, hzero]
      exact lt_irrefl _
    refine h.of_same ?_ hkept
    rw [hlimiter, releaseCrystallize, LocalFallbackLimiter.releaseReserve, if_neg hidle]

/-- The release of a handler that passed gives back what its check counted; any other takes what
belongs to another handler, if there is one. -/
theorem release_exact_iff (h : w.CountersExact settings) (i : Nat) :
    (w.step env (.release i)).CountersExact settings ↔ w.Harmless (.release i) := by
  rw [step, Harmless]
  split
  · next request passed reply hi =>
    generalize hw' : InsuranceSidecar.mk w.spine (releaseCrystallize request.accountId w.limiter)
      (w.handlers.eraseIdx i) (w.replies ++ [(request.operationId, reply)]) = w'
    have hflight : ∀ a, w.inFlight a =
        w'.inFlight a + contribution request (.release passed reply) a :=
      inFlight_erase hi (by rw [← hw'])
    have hinflight : w'.limiter = releaseCrystallize request.accountId w.limiter := by rw [← hw']
    cases passed with
    | true =>
      have hgiven : ∀ a, w.inFlight a =
          w'.inFlight a + if request.accountId = a then 1 else 0 := by
        intro a
        rw [hflight a, contribution_of_between rfl]
      exact iff_of_true (.of_given h hgiven hinflight) fun _ _ hi' => by simp [hi] at hi'
    | false =>
      have hkept : ∀ a, w'.inFlight a = w.inFlight a := by
        intro a
        rw [hflight a, contribution_of_not_between rfl, add_zero]
      rw [exact_iff_of_taken h hkept hinflight]
      simp [hi]
  · next hnone =>
    exact iff_of_true h fun request reply hi => absurd hi (hnone request false reply)

theorem step_exact_iff (h : w.CountersExact env.settings) (a : SidecarAction) :
    (w.step env a).CountersExact env.settings ↔ w.Harmless a := by
  cases a with
  | arrive halted request => exact iff_of_true (arrive_exact h halted request) trivial
  | check i circuit monotonic time =>
    exact iff_of_true (check_exact h i circuit monotonic time) trivial
  | call i failed enforce raced clock uuid =>
    exact iff_of_true (call_exact h i failed enforce raced clock uuid) trivial
  | release i => exact release_exact_iff h i
  | other a => exact iff_of_true (h.of_same rfl fun _ => rfl) trivial

end Step

/-! ## Runs -/

theorem fresh_exact (spine : FinanceWorld) (monotonic : ℚ) :
    (fresh spine monotonic).CountersExact settings where
  counter _ := rfl
  bounded _ := Nat.zero_le _

/-- From a fresh sidecar the counters are exact in every state of a run exactly when every handler
whose check refused it releases its account while none is between its check and its release. -/
theorem run_countersExact_iff (env : SidecarEnv) (spine : FinanceWorld) (monotonic : ℚ)
    (actions : List SidecarAction) :
    Throughout (step env) (CountersExact env.settings) (fresh spine monotonic) actions ↔
      Along (step env) Harmless (fresh spine monotonic) actions :=
  throughout_iff_along (I := fun _ => True) trivial (fresh_exact spine monotonic)
    (fun _ _ _ => trivial) fun _ a _ h => step_exact_iff h a

/-- The claim that the handlers of the example crystallize. -/
def claimRequest : CrystallizeRequest where
  platform := "claim_gate"
  operationId := "CLM-1"
  accountId := "carrier-default"
  riskTier := "high"
  facets := [("claim_id", .str "CLM-1")]
  policyId := none
  reservedExposure := ⟨0, 0⟩
  parentCrystalId := none

/-- The sidecar with its default settings. -/
def claimEnv : SidecarEnv := ⟨sampleDeployment, .default, noticeReader⟩

/-- Six of seven concurrent requests are checked, the refused one releases and the seventh is
checked. -/
def overAdmitted : List SidecarAction :=
  List.replicate 7 (.arrive false claimRequest) ++
    ((List.range 6).map fun i => .check i none 1 1767225600) ++
    [.release 5, .check 5 none 1 1767225600]

/-- The release of the refused request lets a sixth one in beside the five that the limit allows. -/
theorem refused_release_admits :
    let w := overAdmitted.foldl (step claimEnv) (fresh sampleWorld 0)
    w.limiter.inflight "carrier-default" = 5 ∧ w.inFlight "carrier-default" = 6 ∧
      claimEnv.settings.fallbackMaxAccountInflight = 5 ∧
      ¬ Throughout (step claimEnv) (CountersExact claimEnv.settings) (fresh sampleWorld 0)
        overAdmitted := by
  intro w
  have hcounter : w.limiter.inflight "carrier-default" = 5 := by decide +kernel
  have hflight : w.inFlight "carrier-default" = 6 := by decide +kernel
  refine ⟨hcounter, hflight, rfl, ?_⟩
  intro h
  have hexact := h.last.counter "carrier-default"
  rw [hcounter, hflight] at hexact
  cases hexact

end InsuranceSidecar

end Governor.Sector
