import Mathlib
import Governor.Core.Run
import Governor.Ledger.Calls

/-!
# The circuit breaker

Without Redis the breaker counts the failures of each key in a sliding window of one process.
A settlement reports a timeout under the name of its provider and a success under that name
or, without one, under the operation's model; a reserve asks under its model. The breaker
therefore guards a model exactly as far as its timeouts name the model as their provider.
-/

namespace Governor.Operations

open Ledger

/-! ## The local fallback -/

/-- The settings of the breaker. -/
structure BreakerSettings where
  circuitBreakerFailureThreshold : Int
  circuitBreakerWindowSeconds : Int
  circuitBreakerOpenSeconds : Int

/-- The defaults of `config.py`. -/
def BreakerSettings.default : BreakerSettings := ⟨5, 60, 30⟩

/-- `_LocalCircuitFallback`; floats are modelled by rationals. -/
structure LocalCircuitFallback where
  /-- `_failures`, a `defaultdict(deque)`. -/
  failures : String → List ℚ
  /-- `_open_until`. -/
  openUntil : String → Option ℚ

/-- `CircuitOpenError`. -/
structure CircuitOpenError where
  message : String
  deriving DecidableEq, Repr

namespace LocalCircuitFallback

/-- `__init__`. -/
def initial : LocalCircuitFallback := ⟨fun _ => [], fun _ => none⟩

/-- `assert_closed`. -/
def assertClosed (now : ℚ) (providerName : String) (b : LocalCircuitFallback) :
    Except CircuitOpenError Unit :=
  if now < (b.openUntil providerName).getD 0 then
    .error ⟨"local circuit open for provider " ++ providerName⟩
  else .ok ()

/-- `record_failure`. -/
def recordFailure (settings : BreakerSettings) (now : ℚ) (providerName : String)
    (b : LocalCircuitFallback) : LocalCircuitFallback :=
  let cutoff := now - settings.circuitBreakerWindowSeconds
  let window := (b.failures providerName ++ [now]).dropWhile fun t => t < cutoff
  let counted := { b with failures := Function.update b.failures providerName window }
  if settings.circuitBreakerFailureThreshold ≤ window.length then
    let openUntil := now + settings.circuitBreakerOpenSeconds
    { counted with openUntil := Function.update b.openUntil providerName (some openUntil) }
  else counted

/-- `record_success`. -/
def recordSuccess (providerName : String) (b : LocalCircuitFallback) : LocalCircuitFallback :=
  ⟨Function.update b.failures providerName [], Function.update b.openUntil providerName none⟩

/-- What `_assert_circuit_closed` makes of the fallback. -/
def answer (now : ℚ) (providerKey : String) (b : LocalCircuitFallback) : BreakerAnswer :=
  match b.assertClosed now providerKey with
  | .ok _ => .closed
  | .error _ => .opened

/-- A call of a settlement, as the breaker hears it. -/
def receive (settings : BreakerSettings) (now : ℚ) (b : LocalCircuitFallback) :
    ExternalCall → LocalCircuitFallback
  | .recordProviderFailure providerName => b.recordFailure settings now providerName
  | .recordProviderSuccess providerName => b.recordSuccess providerName
  | .releaseInflight _ => b

end LocalCircuitFallback

/-! ## The sidecar behind its breaker -/

/-- A request to the sidecar, or a sweep of the reconciler. -/
inductive SidecarRequest where
  /-- A reserve; its model is a `Field(..., min_length=1)`. -/
  | reserve (raced : Bool) (settings : Settings) (clock : Clock) (request : ReserveRequest)
      (model_nonempty : request.model ≠ "")
  | settle (settings : Settings) (clock : Clock) (request : SettleRequest)
  | sweep (clock : Clock) (plan : SweepPlan) (batchSize : Nat)

/-- A request with the reading of `time.monotonic()`. -/
structure TimedRequest where
  time : ℚ
  request : SidecarRequest

/-- The ledger and the breaker of the sidecar's process. -/
structure BreakerWorld where
  ledger : LedgerWorld
  breaker : LocalCircuitFallback

/-- What a settlement tells the breaker. -/
inductive Report where
  | timeout (time : ℚ) (model provider : String)
  | success (time : ℚ) (model : String) (provider : Option String)
  deriving DecidableEq, Repr

def Report.time : Report → ℚ
  | .timeout time _ _ => time
  | .success time _ _ => time

/-- The reports of an accepted settlement: a timeout that names its provider, or the settlement
of an operation that was not settled before. -/
def settleReports (time : ℚ) (operation : EscrowRow) (request : SettleRequest) : List Report :=
  match request.outcome with
  | .settled =>
    if operation.status = .settled then []
    else [.success time operation.model request.providerName]
  | .providerTimeout =>
    if truthy request.providerName then
      [.timeout time operation.model (request.providerName.getD "")]
    else []
  | .inFlight => []

/-- How the breaker takes a report. -/
def Report.apply (settings : BreakerSettings) (b : LocalCircuitFallback) :
    Report → LocalCircuitFallback
  | .timeout time _ provider => b.recordFailure settings time provider
  | .success _ model provider => b.recordSuccess (orElse provider (orElse (some model) "unknown"))

/-- The transaction of a request, with the breaker's answer to it. -/
def TimedRequest.action (b : LocalCircuitFallback) (q : TimedRequest) : Action :=
  match q.request with
  | .reserve raced settings clock request _ =>
    reserveAction raced settings clock (b.answer q.time request.model) request
  | .settle settings clock request => .settle settings clock request
  | .sweep clock plan batchSize => .sweep clock plan batchSize

namespace BreakerWorld

/-- What the caller of a request sees. -/
def respond (d : Deployment) (w : BreakerWorld) (q : TimedRequest) : Except Exn Response :=
  Ledger.respond d w.ledger (q.action w.breaker)

/-- One request. -/
def step (d : Deployment) (settings : BreakerSettings) (w : BreakerWorld) (q : TimedRequest) :
    BreakerWorld :=
  let ledger := Ledger.step d w.ledger (q.action w.breaker)
  let calls := ledger.outside.calls.drop w.ledger.outside.calls.length
  ⟨ledger, calls.foldl (LocalCircuitFallback.receive settings q.time) w.breaker⟩

/-- The reports of a request. -/
def reports (d : Deployment) (w : BreakerWorld) (q : TimedRequest) : List Report :=
  match q.request with
  | .settle _ _ request =>
    match w.respond d q with
    | .ok _ => ((loadOperationForUpdate w.ledger.tables request).map fun operation =>
        settleReports q.time operation request).getD []
    | .error _ => []
  | _ => []

/-- The world after a run. -/
def run (d : Deployment) (settings : BreakerSettings) (w : BreakerWorld)
    (requests : List TimedRequest) : BreakerWorld :=
  requests.foldl (step d settings) w

/-- The reports of a run. -/
def history (d : Deployment) (settings : BreakerSettings) (w : BreakerWorld)
    (requests : List TimedRequest) : List Report :=
  outputs (step d settings) (reports d) w requests

end BreakerWorld

/-! ## An outage -/

/-- The provider of a timeout of the model. -/
def Report.timeoutProvider (m : String) : Report → Option String
  | .timeout _ model provider => if model = m then some provider else none
  | .success .. => none

/-- A success for the model or for one of the providers. -/
def Report.recovers (m : String) (providers : List String) : Report → Bool
  | .timeout .. => false
  | .success _ model provider => model = m || provider.any fun p => p ∈ providers

/-- The providers of the model's timeouts. -/
def timeoutProviders (m : String) (reports : List Report) : List String :=
  reports.filterMap (Report.timeoutProvider m)

/-- An outage of the model that the last of `during` completes at `time`: the timeouts in
`during` reach the threshold within one window, and no report since the first of them is a
success for the model or for a provider of these timeouts. -/
structure Outage (settings : BreakerSettings) (m : String) (during after : List Report)
    (time : ℚ) : Prop where
  last : ∃ provider, during.getLast? = some (.timeout time m provider)
  threshold : settings.circuitBreakerFailureThreshold ≤ (timeoutProviders m during).length
  window : ∀ r ∈ during, (r.timeoutProvider m).isSome →
    time - settings.circuitBreakerWindowSeconds ≤ r.time
  quiet : ∀ r ∈ during ++ after, r.recovers m (timeoutProviders m during) = false

/-- In the run, the circuit of a model in an outage refuses every new reserve for the model
that comes before the open period ends. -/
def Gated (d : Deployment) (settings : BreakerSettings) (w : BreakerWorld)
    (requests : List TimedRequest) : Prop :=
  ∀ m before during after time,
    w.history d settings requests = before ++ during ++ after →
    Outage settings m during after time →
    ∀ now raced reserveSettings clock request model_nonempty,
      request.model = m →
      (raced = true ∨ (w.run d settings requests).ledger.tables.escrowLedger.find?
        request.idempotencyKey = none) →
      now < time + settings.circuitBreakerOpenSeconds →
      (w.run d settings requests).respond d
        ⟨now, .reserve raced reserveSettings clock request model_nonempty⟩ =
          .error (.policyStateError ("provider circuit open for " ++ m))

/-! ## The breaker under reports -/

section Breaker

variable {settings : BreakerSettings} {m provider : String} {now time cutoff : ℚ}
  {b : LocalCircuitFallback} {r : Report}

namespace LocalCircuitFallback

/-- The recorded failures of a key since the cutoff. -/
def recent (cutoff : ℚ) (key : String) (b : LocalCircuitFallback) : Nat :=
  (b.failures key).countP fun t => cutoff ≤ t

theorem recordFailure_failures (providerName : String) :
    (b.recordFailure settings now providerName).failures =
      Function.update b.failures providerName ((b.failures providerName ++ [now]).dropWhile
        fun t => t < now - settings.circuitBreakerWindowSeconds) := by
  unfold recordFailure
  simp only
  split_ifs <;> rfl

/-- The window drops only what it no longer covers. -/
theorem countP_dropWhile_window (l : List ℚ) {start : ℚ} (h : start ≤ cutoff) :
    (l.dropWhile fun t => t < start).countP (fun t => cutoff ≤ t) =
      l.countP fun t => cutoff ≤ t := by
  induction l with
  | nil => rfl
  | cons t l ih =>
    rw [List.dropWhile_cons]
    split_ifs with ht
    · have hold : ¬ cutoff ≤ t := by
        have hlt : t < start := by simpa using ht
        exact not_le.mpr (lt_of_lt_of_le hlt h)
      rw [ih, List.countP_cons, if_neg (by simpa using hold), add_zero]
    · rfl

theorem recent_recordFailure_self (h : now - settings.circuitBreakerWindowSeconds ≤ cutoff) :
    (b.recordFailure settings now m).recent cutoff m =
      b.recent cutoff m + if cutoff ≤ now then 1 else 0 := by
  rw [recent, recordFailure_failures, Function.update_self, countP_dropWhile_window _ h,
    List.countP_append, List.countP_singleton, recent]
  simp

theorem recent_recordFailure_of_ne (h : m ≠ provider) :
    (b.recordFailure settings now provider).recent cutoff m = b.recent cutoff m := by
  rw [recent, recordFailure_failures, Function.update_of_ne h, recent]

theorem recent_recordSuccess_of_ne (h : m ≠ provider) :
    (b.recordSuccess provider).recent cutoff m = b.recent cutoff m := by
  have hfailures : (b.recordSuccess provider).failures m = b.failures m :=
    Function.update_of_ne h _ _
  rw [recent, hfailures, recent]

theorem openUntil_recordFailure_of_ne (h : m ≠ provider) :
    (b.recordFailure settings now provider).openUntil m = b.openUntil m := by
  unfold recordFailure
  simp only
  split_ifs
  · exact Function.update_of_ne h _ _
  · rfl

/-- A failure opens the circuit when the window holds enough. -/
theorem openUntil_recordFailure (h : settings.circuitBreakerFailureThreshold ≤
      (b.recent (now - settings.circuitBreakerWindowSeconds) m + 1 : Nat))
    (hwindow : 0 ≤ settings.circuitBreakerWindowSeconds) :
    (b.recordFailure settings now m).openUntil m =
      some (now + settings.circuitBreakerOpenSeconds) := by
  have hrecent : (b.recordFailure settings now m).recent
      (now - settings.circuitBreakerWindowSeconds) m = _ :=
    recent_recordFailure_self (le_refl _)
  have hnow : now - (settings.circuitBreakerWindowSeconds : ℚ) ≤ now := by
    have hcast : (0 : ℚ) ≤ settings.circuitBreakerWindowSeconds := by exact_mod_cast hwindow
    linarith
  rw [if_pos hnow, recent, recordFailure_failures, Function.update_self] at hrecent
  have hlength := List.countP_le_length (p := fun t : ℚ =>
    decide (now - (settings.circuitBreakerWindowSeconds : ℚ) ≤ t))
    (l := (b.failures m ++ [now]).dropWhile
      fun t => t < now - settings.circuitBreakerWindowSeconds)
  rw [hrecent] at hlength
  have hreached : settings.circuitBreakerFailureThreshold ≤
      (((b.failures m ++ [now]).dropWhile
        fun t => t < now - settings.circuitBreakerWindowSeconds).length : Nat) := by
    omega
  unfold recordFailure
  simp only
  rw [if_pos hreached]
  exact Function.update_self _ _ _

/-- A later failure never shortens the open period. -/
theorem openUntil_recordFailure_later (settings : BreakerSettings) (now : ℚ) {u : ℚ}
    (h : b.openUntil m = some u) :
    ∃ u', (b.recordFailure settings now m).openUntil m = some u' ∧
      (u' = u ∨ u' = now + settings.circuitBreakerOpenSeconds) := by
  unfold recordFailure
  simp only
  split_ifs
  · exact ⟨_, Function.update_self _ _ _, Or.inr rfl⟩
  · exact ⟨u, h, Or.inl rfl⟩

end LocalCircuitFallback

/-- The key of a report that does not recover the model is not the model. -/
theorem Report.key_ne_of_not_recovers {providers : List String} {model : String}
    {named : Option String} (hmodel : model ≠ "") (hm : m ∈ providers)
    (h : (Report.success now model named).recovers m providers = false) :
    m ≠ orElse named (orElse (some model) "unknown") := by
  have hrec : model ≠ m ∧ ∀ p, named = some p → p ∉ providers := by
    simpa [Report.recovers, Option.any_eq_false] using h
  have hmodelKey : orElse (some model) "unknown" = model := by simp [orElse, truthy, hmodel]
  rw [hmodelKey]
  rintro rfl
  unfold orElse at hm hrec
  split_ifs at hm hrec with htruthy
  · obtain ⟨p, rfl⟩ : ∃ p, named = some p := by
      cases named with
      | none => cases htruthy
      | some p => exact ⟨p, rfl⟩
    exact hrec.2 p rfl hm
  · exact hrec.1 rfl

/-- What is known of the reports of a run under the condition: a timeout names its model, and a
success has one. -/
def Report.Named : Report → Prop
  | .timeout _ model provider => provider = model
  | .success _ model _ => model ≠ ""

/-- Along reports that do not recover the model, its recent timeouts are counted. -/
theorem recent_foldl {providers : List String} (hm : m ∈ providers) {reports : List Report}
    (hnamed : ∀ r ∈ reports, r.Named) (hquiet : ∀ r ∈ reports, r.recovers m providers = false)
    (hwindow : ∀ r ∈ reports, (r.timeoutProvider m).isSome → cutoff ≤ r.time)
    (htime : ∀ r ∈ reports, r.time - settings.circuitBreakerWindowSeconds ≤ cutoff) :
    b.recent cutoff m + (timeoutProviders m reports).length ≤
      (reports.foldl (Report.apply settings) b).recent cutoff m := by
  induction reports generalizing b with
  | nil => exact le_refl _
  | cons r reports ih =>
    have hrest := ih (b := Report.apply settings b r)
      (fun x hx => hnamed x (List.mem_cons_of_mem _ hx))
      (fun x hx => hquiet x (List.mem_cons_of_mem _ hx))
      (fun x hx => hwindow x (List.mem_cons_of_mem _ hx))
      (fun x hx => htime x (List.mem_cons_of_mem _ hx))
    refine le_trans ?_ hrest
    have hr := hnamed r List.mem_cons_self
    have hq := hquiet r List.mem_cons_self
    cases r with
    | timeout t model p =>
      have hp : p = model := hr
      subst hp
      by_cases hpm : p = m
      · subst hpm
        have hcut : cutoff ≤ t := hwindow _ List.mem_cons_self (by simp [Report.timeoutProvider])
        have hself := LocalCircuitFallback.recent_recordFailure_self (b := b) (m := p)
          (htime _ List.mem_cons_self)
        rw [Report.time, if_pos hcut] at hself
        rw [Report.apply, hself]
        simp [timeoutProviders, Report.timeoutProvider]
        omega
      · rw [Report.apply, LocalCircuitFallback.recent_recordFailure_of_ne (Ne.symm hpm)]
        simp [timeoutProviders, Report.timeoutProvider, hpm]
    | success t model named =>
      have hkey := Report.key_ne_of_not_recovers hr hm hq
      rw [Report.apply, LocalCircuitFallback.recent_recordSuccess_of_ne hkey]
      exact le_refl _

/-- Later reports that do not recover the model keep its circuit open. -/
theorem openUntil_foldl {providers : List String} (hm : m ∈ providers) {reports : List Report}
    (hnamed : ∀ r ∈ reports, r.Named) (hquiet : ∀ r ∈ reports, r.recovers m providers = false)
    (htime : ∀ r ∈ reports, time ≤ r.time)
    (hopen : ∃ u, b.openUntil m = some u ∧ time + settings.circuitBreakerOpenSeconds ≤ u) :
    ∃ u, (reports.foldl (Report.apply settings) b).openUntil m = some u ∧
      time + settings.circuitBreakerOpenSeconds ≤ u := by
  induction reports generalizing b with
  | nil => exact hopen
  | cons r reports ih =>
    refine ih (fun x hx => hnamed x (List.mem_cons_of_mem _ hx))
      (fun x hx => hquiet x (List.mem_cons_of_mem _ hx))
      (fun x hx => htime x (List.mem_cons_of_mem _ hx)) ?_
    obtain ⟨u, hu, hle⟩ := hopen
    have hr := hnamed r List.mem_cons_self
    have hq := hquiet r List.mem_cons_self
    have ht := htime r List.mem_cons_self
    cases r with
    | timeout t model p =>
      by_cases hpm : p = m
      · subst hpm
        obtain ⟨u', hu', rfl | rfl⟩ :=
          LocalCircuitFallback.openUntil_recordFailure_later settings t hu
        · exact ⟨u', hu', hle⟩
        · exact ⟨_, hu', by simpa [Report.time] using ht⟩
      · refine ⟨u, ?_, hle⟩
        rw [Report.apply, LocalCircuitFallback.openUntil_recordFailure_of_ne (Ne.symm hpm), hu]
    | success t model named =>
      have hkey := Report.key_ne_of_not_recovers hr hm hq
      refine ⟨u, ?_, hle⟩
      rw [Report.apply, ← hu]
      exact Function.update_of_ne hkey _ _

/-- The circuit of a model in an outage is open until the open period ends. -/
theorem openUntil_of_outage {before during after : List Report}
    (hnamed : ∀ r ∈ before ++ during ++ after, r.Named)
    (hsorted : (before ++ during ++ after).Pairwise fun r r' => r.time ≤ r'.time)
    (h : Outage settings m during after time) :
    ∃ u, ((before ++ during ++ after).foldl (Report.apply settings) b).openUntil m = some u ∧
      time + settings.circuitBreakerOpenSeconds ≤ u := by
  obtain ⟨provider, hlast⟩ := h.last
  obtain ⟨init, rfl⟩ := List.getLast?_eq_some_iff.mp hlast
  have hmem : Report.timeout time m provider ∈
      before ++ (init ++ [.timeout time m provider]) ++ after := by
    simp
  have hprovider : provider = m := hnamed _ hmem
  subst hprovider
  have hproviders : timeoutProviders provider (init ++ [.timeout time provider provider]) =
      timeoutProviders provider init ++ [provider] := by
    simp [timeoutProviders, Report.timeoutProvider]
  have hthreshold := h.threshold
  have hquiet := h.quiet
  have hwindow : (0 : ℚ) ≤ settings.circuitBreakerWindowSeconds := by
    have hself := h.window (.timeout time provider provider) (by simp)
      (by simp [Report.timeoutProvider])
    simpa [Report.time] using hself
  rw [hproviders] at hthreshold hquiet
  have hm : provider ∈ timeoutProviders provider init ++ [provider] := by simp
  simp only [List.append_assoc, List.pairwise_append, List.singleton_append,
    List.pairwise_cons, List.mem_cons] at hsorted
  obtain ⟨-, ⟨-, ⟨hafter, -⟩, hinit⟩, -⟩ := hsorted
  -- the timeouts before the last one are all counted when it comes
  have hcounted : (before.foldl (Report.apply settings) b).recent
      (time - settings.circuitBreakerWindowSeconds) provider +
        (timeoutProviders provider init).length ≤
      (init.foldl (Report.apply settings) (before.foldl (Report.apply settings) b)).recent
        (time - settings.circuitBreakerWindowSeconds) provider :=
    recent_foldl hm (fun r hr => hnamed r (by simp [hr])) (fun r hr => hquiet r (by simp [hr]))
      (fun r hr => h.window r (by simp [hr]))
      (fun r hr => sub_le_sub_right (hinit r hr _ (Or.inl rfl)) _)
  have hopened : ((init.foldl (Report.apply settings)
      (before.foldl (Report.apply settings) b)).recordFailure settings time provider).openUntil
        provider = some (time + settings.circuitBreakerOpenSeconds) := by
    refine LocalCircuitFallback.openUntil_recordFailure ?_ (by exact_mod_cast hwindow)
    rw [List.length_append, List.length_singleton] at hthreshold
    omega
  rw [List.foldl_append, List.foldl_append, List.foldl_append]
  exact openUntil_foldl hm (fun r hr => hnamed r (by simp [hr]))
    (fun r hr => hquiet r (by simp [hr])) hafter ⟨_, hopened, le_refl _⟩

end Breaker

/-! ## Runs of the sidecar -/

namespace BreakerWorld

variable {d : Deployment} {settings : BreakerSettings} {w : BreakerWorld}

/-- The calls of a settlement tell the breaker its reports. -/
theorem foldl_settleCalls (time : ℚ) (operation : EscrowRow) (request : SettleRequest)
    (b : LocalCircuitFallback) :
    (settleCalls operation request).foldl (LocalCircuitFallback.receive settings time) b =
      (settleReports time operation request).foldl (Report.apply settings) b := by
  unfold settleCalls settleReports
  cases request.outcome with
  | inFlight => rfl
  | providerTimeout =>
    simp only
    split_ifs <;> rfl
  | settled =>
    simp only
    split_ifs <;> rfl

/-- The breaker hears the reports of a request and nothing else. -/
theorem step_breaker (hw : Sound w.ledger) (q : TimedRequest) :
    (w.step d settings q).breaker =
      (w.reports d q).foldl (Report.apply settings) w.breaker := by
  have hcalls := step_calls (d := d) hw (q.action w.breaker)
  rw [step, hcalls, List.drop_left]
  obtain ⟨time, request⟩ := q
  cases request with
  | reserve raced settings' clock request hmodel => cases raced <;> rfl
  | sweep clock plan batchSize => rfl
  | settle settings' clock request =>
    rw [reports]
    simp only [respond, TimedRequest.action]
    cases Ledger.respond d w.ledger (.settle settings' clock request) with
    | error e => rfl
    | ok response =>
      simp only [Action.calls]
      cases loadOperationForUpdate w.ledger.tables request with
      | none => rfl
      | some operation => exact foldl_settleCalls time operation request w.breaker

/-- What every request keeps. -/
structure Inv (w : BreakerWorld) : Prop where
  sound : Sound w.ledger
  /-- Every stored operation has a model. -/
  models : ∀ r ∈ w.ledger.tables.escrowLedger.rows, r.model ≠ ""

theorem step_inv (h : w.Inv) (q : TimedRequest) : (w.step d settings q).Inv := by
  refine ⟨step_sound h.sound _, ?_⟩
  have hkept : KeptByUpdates fun r => r.model ≠ "" :=
    ⟨fun _ _ hr => hr, fun _ _ _ hr => hr, fun _ hr => hr, fun _ hr => hr⟩
  refine step_rows hkept h.sound h.models (q.action w.breaker) ?_
  intro settings' clock breaker request ha
  obtain ⟨time, _ | _ | _⟩ := q
  · next raced _ _ request' hmodel =>
    have hrequest : request' = request := by
      cases raced <;>
        simp only [TimedRequest.action, reserveAction, Bool.false_eq_true, ite_true, ite_false,
          Action.reserve.injEq, Action.racedReserve.injEq, reduceCtorEq, or_false,
          false_or] at ha <;>
        exact ha.2.2.2
    exact hrequest ▸ hmodel
  · rcases ha with ha | ha <;> cases ha
  · rcases ha with ha | ha <;> cases ha

/-- An accepted timeout that names a provider names the model of its operation. -/
def NamesModel (d : Deployment) (w : BreakerWorld) (q : TimedRequest) : Prop :=
  ∀ settings clock request operation response,
    q.request = .settle settings clock request → request.outcome = .providerTimeout →
    truthy request.providerName = true →
    loadOperationForUpdate w.ledger.tables request = some operation →
    w.respond d q = .ok response → request.providerName = some operation.model

/-- Where a report comes from. -/
theorem mem_reports {q : TimedRequest} {r : Report} (hr : r ∈ w.reports d q) :
    ∃ settings clock request operation response,
      q.request = .settle settings clock request ∧
      loadOperationForUpdate w.ledger.tables request = some operation ∧
      w.respond d q = .ok response ∧
      (r = .success q.time operation.model request.providerName ∨
        request.outcome = .providerTimeout ∧ truthy request.providerName = true ∧
          r = .timeout q.time operation.model (request.providerName.getD "")) := by
  unfold reports at hr
  split at hr
  · next settings' clock request hq =>
    split at hr
    · next response hresponse =>
      cases hload : loadOperationForUpdate w.ledger.tables request with
      | none =>
        rw [hload] at hr
        cases hr
      | some operation =>
        refine ⟨settings', clock, request, operation, response, hq, hload, hresponse, ?_⟩
        rw [hload, Option.map_some, Option.getD_some, settleReports] at hr
        cases hout : request.outcome with
        | settled =>
          simp only [hout] at hr
          split_ifs at hr
          · cases hr
          · exact Or.inl (List.mem_singleton.mp hr)
        | providerTimeout =>
          simp only [hout] at hr
          split_ifs at hr with htruthy
          · exact Or.inr ⟨rfl, htruthy, List.mem_singleton.mp hr⟩
          · cases hr
        | inFlight =>
          simp only [hout] at hr
          cases hr
    · cases hr
  · cases hr

theorem reports_named (hw : w.Inv) {q : TimedRequest} (h : w.NamesModel d q) {r : Report}
    (hr : r ∈ w.reports d q) : r.Named := by
  obtain ⟨settings', clock, request, operation, response, hq, hload, hresponse, hcase⟩ :=
    mem_reports hr
  rcases hcase with rfl | ⟨hout, htruthy, rfl⟩
  · exact hw.models _ (Table.mem_of_find? (find?_of_loadOperationForUpdate hload))
  · have hname := h settings' clock request operation response hq hout htruthy hload hresponse
    rw [hname]
    rfl

theorem time_of_mem_reports {q : TimedRequest} {r : Report} (hr : r ∈ w.reports d q) :
    r.time = q.time := by
  obtain ⟨settings', clock, request, operation, response, -, -, -, hcase⟩ := mem_reports hr
  rcases hcase with rfl | ⟨-, -, rfl⟩ <;> rfl

theorem history_sorted (requests : List TimedRequest)
    (hclock : requests.Pairwise fun q q' => q.time ≤ q'.time) :
    (history d settings w requests).Pairwise fun r r' => r.time ≤ r'.time := by
  refine pairwise_outputs hclock ?_ ?_
  · intro w q
    refine List.pairwise_of_forall_mem_list fun r hr r' hr' => ?_
    rw [time_of_mem_reports hr, time_of_mem_reports hr']
  · intro w w' q q' hle r hr r' hr'
    rw [time_of_mem_reports hr, time_of_mem_reports hr']
    exact hle

/-- A reserve is refused while the circuit of its model is open. -/
theorem respond_of_open {now u : ℚ} {raced : Bool} {settings' : Settings} {clock : Clock}
    {request : ReserveRequest} (hmodel : request.model ≠ "")
    (hnew : raced = true ∨
      w.ledger.tables.escrowLedger.find? request.idempotencyKey = none)
    (hopen : w.breaker.openUntil request.model = some u) (hnow : now < u) :
    w.respond d ⟨now, .reserve raced settings' clock request hmodel⟩ =
      .error (.policyStateError ("provider circuit open for " ++ request.model)) := by
  have hanswer : w.breaker.answer now request.model = .opened := by
    rw [LocalCircuitFallback.answer, LocalCircuitFallback.assertClosed, hopen, Option.getD_some,
      if_pos hnow]
  simp only [respond, TimedRequest.action, hanswer]
  cases raced with
  | true => rfl
  | false =>
    have hfresh : w.ledger.tables.escrowLedger.find? request.idempotencyKey = none := by
      simpa using hnew
    apply Tx.run_of_wp (x := Action.body d (.reserve settings' clock .opened request))
      (R := fun r _ => r = .error _)
    simp only [Action.body, reserveOperation, Tx.wp_bind, Tx.wp_read, hfresh]
    rfl

/-- The sample ledger behind a fresh breaker. -/
def sample : BreakerWorld := ⟨sampleWorld, .initial⟩

/-- A timeout of the sample's operation, reported for a provider. -/
def sampleTimeout (provider : String) : SettleRequest :=
  { sampleSettle with
    outcome := .providerTimeout
    dispatchAttemptKey := some "attempt-1"
    providerName := some provider
    providerRequestId := none }

/-- The sample's reserve and its timeouts, one a second. -/
def sampleRequests (provider : String) (timeouts : Nat) : List TimedRequest :=
  ⟨0, .reserve false Settings.default (sampleClock 0) sampleReserve (by decide)⟩ ::
    (List.range timeouts).map fun i =>
      ⟨i + 1, .settle Settings.default (sampleClock 0) (sampleTimeout provider)⟩

/-- A further reserve for the sample's model. -/
def sampleNext : ReserveRequest := { sampleReserve with idempotencyKey := "op-2" }

end BreakerWorld

end Governor.Operations
