import Mathlib
import Governor.Operations.Guardrails

/-!
# The rate limit across processes

The counter of a user's minute lives for two minutes after its expiry was last set. Checks that
reach it before it can expire see every number once, so whatever commands interleave or fail,
Redis lets pass no more of them than the limit, and refuses none before the limit is used up.
What a process counts after it has lost Redis comes on top, within the limit of the fallback.
-/

namespace Governor.Operations

open KeyStore

/-! ## Counted checks -/

/-- The user's checks of the minute. -/
def CheckCall.inMinute (userId : String) (window : Nat) (call : CheckCall) : Bool :=
  call.userId = userId && call.window = window

/-- A check that passes the rate limit and has not been refused or given up since. -/
def CheckStage.rated (limit : Int) : CheckStage → Bool
  | .rate => false
  | .rateExpire count => count ≤ limit
  | .ended result => result = .passed
  | _ => true

/-- A call in progress that counts as passing in the user's minute. -/
def GuardrailCall.rated (limit : Int) (userId : String) (window : Nat) : GuardrailCall → Bool
  | .check call stage => call.inMinute userId window && stage.rated limit
  | .release .. => false

/-- A check of the user's minute that has issued its increment. -/
def GuardrailCall.tried (userId : String) (window : Nat) : GuardrailCall → Bool
  | .check call stage => call.inMinute userId window && stage ≠ .rate
  | .release .. => false

/-- A check of the user's minute that is about to issue its increment. -/
def GuardrailCall.trying (userId : String) (window : Nat) : GuardrailCall → Bool
  | .check call stage => call.inMinute userId window && stage = .rate
  | .release .. => false

/-- The check has been refused by the rate limit. -/
def CheckResult.rateRefused : CheckResult → Bool
  | .refused (.rateLimitExceeded _) => true
  | _ => false

/-- The user's checks of the minute that Redis has let pass. -/
def passes (answered : List (CheckCall × CheckResult)) (userId : String) (window : Nat) : Nat :=
  answered.countP fun r => r.1.inMinute userId window && r.2 = .passed

/-- The user's checks of the minute that the rate limit in Redis has refused. -/
def refusals (answered : List (CheckCall × CheckResult)) (userId : String) (window : Nat) : Nat :=
  answered.countP fun r => r.1.inMinute userId window && r.2.rateRefused

/-- The user's checks of the minute that have issued their increment. -/
def attempts (running : List GuardrailCall) (answered : List (CheckCall × CheckResult))
    (userId : String) (window : Nat) : Nat :=
  answered.countP (fun r => r.1.inMinute userId window) +
    running.countP (GuardrailCall.tried userId window)

/-- A command on the counter of a minute is issued within a minute after it. -/
def GuardrailCall.inTime (time : ℚ) : GuardrailCall → Bool
  | .check call .rate => time < 60 * call.window + 120
  | .check call (.rateExpire _) => time < 60 * call.window + 120
  | _ => true

/-- The actions come in the order of their times, and the counters are reached in time. -/
def GuardrailWorld.Prompt (w : GuardrailWorld) (a : TimedGuardrailAction) : Prop :=
  w.now ≤ a.time ∧ ∀ r ∈ w.issuer a, r.inTime a.time = true

instance (w : GuardrailWorld) (a : TimedGuardrailAction) : Decidable (w.Prompt a) :=
  inferInstanceAs (Decidable (_ ∧ _))

/-! ## One call -/

section Call

variable {limits : GuardrailSettings} {userId : String} {window : Nat} {call : CheckCall}
  {stage : CheckStage} {r : GuardrailCall}

/-- A reply makes a check count only where its number is within the limit. -/
theorem rated_resume (hstage : stage ≠ .rate) (reply : Option Int)
    (h : (call.resume limits stage reply).rated limits.rateLimitPerMinute = true) :
    stage.rated limits.rateLimitPerMinute = true := by
  cases reply with
  | none => cases stage <;> simp_all [CheckCall.resume, CheckStage.rated]
  | some n =>
    cases stage with
    | rate => exact absurd rfl hstage
    | rateExpire count =>
      simp only [CheckCall.resume, CheckCall.rated] at h
      split_ifs at h with hlimit
      · simp [CheckStage.rated] at h
      · simpa [CheckStage.rated] using hlimit
    | trace | traceExpire | traceCard | inflight | inflightExpire _ | inflightUndo => rfl
    | ended result => exact h

/-- The number that a check gets decides whether it counts. -/
theorem rated_resume_rate (call : CheckCall) (n : Int) :
    (call.resume limits .rate (some n)).rated limits.rateLimitPerMinute =
      decide (n ≤ limits.rateLimitPerMinute) := by
  simp only [CheckCall.resume, CheckCall.rated]
  split_ifs with hone hlimit
  · rfl
  · simp [CheckStage.rated, hlimit]
  · simp [CheckStage.rated, not_lt.mp hlimit]

/-- A reply makes a check refused only for its number. -/
theorem rateRefused_resume {reply : Option Int} {result : CheckResult}
    (h : call.resume limits stage reply = .ended result) (hrefused : result.rateRefused = true) :
    (∃ n, reply = some n ∧ stage = .rate ∧ limits.rateLimitPerMinute < n) ∨
      (∃ n, stage = .rateExpire n ∧ limits.rateLimitPerMinute < n) ∨ stage = .ended result := by
  cases reply with
  | none =>
    obtain rfl : result = .unavailable := by cases stage <;> simpa [CheckCall.resume] using h.symm
    cases hrefused
  | some n =>
    cases stage with
    | rate =>
      simp only [CheckCall.resume, CheckCall.rated] at h
      split_ifs at h with hone hlimit
      exact Or.inl ⟨n, rfl, rfl, hlimit⟩
    | rateExpire count =>
      simp only [CheckCall.resume, CheckCall.rated] at h
      split_ifs at h with hlimit
      exact Or.inr (Or.inl ⟨count, rfl, hlimit⟩)
    | ended other => exact Or.inr (Or.inr h)
    | trace | traceExpire => cases h
    | traceCard =>
      simp only [CheckCall.resume] at h
      split_ifs at h
      obtain rfl := CheckStage.ended.inj h
      cases hrefused
    | inflight =>
      simp only [CheckCall.resume, CheckCall.counted] at h
      split_ifs at h
      obtain rfl := CheckStage.ended.inj h
      cases hrefused
    | inflightExpire _ =>
      simp only [CheckCall.resume, CheckCall.counted] at h
      split_ifs at h
      obtain rfl := CheckStage.ended.inj h
      cases hrefused
    | inflightUndo =>
      obtain rfl := CheckStage.ended.inj h
      cases hrefused

/-- A check leaves its first stage for good. -/
theorem resume_ne_rate (call : CheckCall) (stage : CheckStage) (reply : Option Int) :
    call.resume limits stage reply ≠ .rate := by
  cases reply with
  | none => cases stage <;> simp [CheckCall.resume]
  | some n =>
    cases stage <;> simp only [CheckCall.resume, CheckCall.rated, CheckCall.counted] <;>
      first | (split_ifs <;> simp) | simp

/-- Only the checks of a user's minute write its counter. -/
theorem rateKey_writes {c : Command String String ℚ}
    (hc : (guardrailCode limits).next r = some c) (hmem : rateKey userId window ∈ c.writes) :
    ∃ call stage, r = .check call stage ∧ call.userId = userId ∧ call.window = window ∧
      (stage = .rate ∧ c = .incr (rateKey userId window) ∨
        ∃ n, stage = .rateExpire n ∧ c = .expire (rateKey userId window) 120) := by
  cases r with
  | release process other stage =>
    cases stage with
    | ended answered => cases hc
    | decr | reset =>
      obtain rfl := Option.some.inj hc
      exact absurd (List.mem_singleton.mp hmem) (rateKey_ne_inflightKey _ _ _)
  | check call stage =>
    cases stage with
    | ended result => cases hc
    | trace | traceExpire =>
      obtain rfl := Option.some.inj hc
      exact absurd (List.mem_singleton.mp hmem) (rateKey_ne_traceKey _ _ _)
    | traceCard =>
      obtain rfl := Option.some.inj hc
      cases hmem
    | inflight | inflightExpire _ | inflightUndo =>
      obtain rfl := Option.some.inj hc
      exact absurd (List.mem_singleton.mp hmem) (rateKey_ne_inflightKey _ _ _)
    | rate =>
      obtain rfl := Option.some.inj hc
      obtain ⟨rfl, rfl⟩ := rateKey_inj.mp (List.mem_singleton.mp hmem)
      exact ⟨call, _, rfl, rfl, rfl, Or.inl ⟨rfl, rfl⟩⟩
    | rateExpire n =>
      obtain rfl := Option.some.inj hc
      obtain ⟨rfl, rfl⟩ := rateKey_inj.mp (List.mem_singleton.mp hmem)
      exact ⟨call, _, rfl, rfl, rfl, Or.inr ⟨n, rfl, rfl⟩⟩

/-- A call stays a check or a release. -/
theorem check_of_resume {reply : Option Int} {stage : CheckStage}
    (h : (guardrailCode limits).resume r reply = .check call stage) :
    ∃ before, r = .check call before ∧ stage = call.resume limits before reply := by
  cases r with
  | release process other s => cases h
  | check c before =>
    obtain ⟨rfl, hstage⟩ := GuardrailCall.check.inj h
    exact ⟨before, rfl, hstage.symm⟩

/-- Apart from the increment of its minute's counter a command makes no check count. -/
theorem rated_issue (reply : Option Int) (htrying : r.trying userId window = true → reply = none)
    (h : ((guardrailCode limits).resume r reply).rated limits.rateLimitPerMinute userId window) :
    r.rated limits.rateLimitPerMinute userId window = true := by
  cases r with
  | release process other stage => cases h
  | check c stage =>
    have hboth : c.inMinute userId window = true ∧
        (c.resume limits stage reply).rated limits.rateLimitPerMinute = true := by
      simpa [guardrailCode, GuardrailCall.rated] using h
    have hstage : stage ≠ .rate := by
      rintro rfl
      obtain rfl := htrying (by simp [GuardrailCall.trying, hboth.1])
      exact absurd hboth.2 (by simp [CheckCall.resume, CheckStage.rated])
    simp [GuardrailCall.rated, hboth.1, rated_resume hstage reply hboth.2]

/-- The increment of its minute's counter makes a check count within the limit. -/
theorem rated_trying {n : Int} {reply : Option Int} (htrying : r.trying userId window = true)
    (hreply : reply = some n ∨ reply = none)
    (h : ((guardrailCode limits).resume r reply).rated limits.rateLimitPerMinute userId window) :
    n ≤ limits.rateLimitPerMinute := by
  cases r with
  | release process other stage => cases htrying
  | check c stage =>
    obtain ⟨-, hstage⟩ := Bool.and_eq_true_iff.mp htrying
    obtain rfl : stage = .rate := of_decide_eq_true hstage
    rcases hreply with rfl | rfl
    · simpa [guardrailCode, GuardrailCall.rated, rated_resume_rate] using
        (Bool.and_eq_true_iff.mp h).2
    · simp [guardrailCode, GuardrailCall.rated, CheckCall.resume, CheckStage.rated] at h

/-- A check has tried after its first command. -/
theorem tried_issue (r : GuardrailCall) (reply : Option Int) :
    (if ((guardrailCode limits).resume r reply).tried userId window = true then 1 else 0) =
      (if r.tried userId window = true then 1 else 0) +
        if r.trying userId window = true then 1 else 0 := by
  cases r with
  | release process other stage =>
    simp [guardrailCode, GuardrailCall.tried, GuardrailCall.trying]
  | check c stage =>
    by_cases hown : c.inMinute userId window = true
    · by_cases hstage : stage = .rate <;>
        simp [guardrailCode, GuardrailCall.tried, GuardrailCall.trying, hown, hstage,
          resume_ne_rate]
    · simp [guardrailCode, GuardrailCall.tried, GuardrailCall.trying, hown]

end Call

/-! ## Redis -/

/-- A check whose number is known has got it from the counter. -/
def CheckStage.Numbered (limit : Int) (attempts : Nat) (stage : CheckStage) : Prop :=
  (∀ count, stage = .rateExpire count → count ≤ attempts) ∧
    ∀ result, stage = .ended result → result.rateRefused = true → limit < attempts

/-- What Redis and the calls on it keep of a user's minute. -/
structure MinuteKept (limits : GuardrailSettings) (userId : String) (window : Nat) (now : ℚ)
    (redis : Shared String String ℚ GuardrailCall) (answered : List (CheckCall × CheckResult)) :
    Prop where
  /-- The counter stays for the minute after. It has counted every check that may pass, and no
  more than have tried. -/
  counter : ∃ n : Int, redis.store.Number (rateKey userId window) n ∧
    redis.store.Lasts (rateKey userId window) (60 * window + 120) ∧
    passes answered userId window + redis.running.countP
      (GuardrailCall.rated limits.rateLimitPerMinute userId window) ≤ n ∧
    n ≤ attempts redis.running answered userId window
  limit : (passes answered userId window + redis.running.countP
    (GuardrailCall.rated limits.rateLimitPerMinute userId window) : Int) ≤
      max 0 limits.rateLimitPerMinute
  numbered : ∀ c s, GuardrailCall.check c s ∈ redis.running → c.inMinute userId window = true →
    s.Numbered limits.rateLimitPerMinute (attempts redis.running answered userId window)
  refused : 0 < refusals answered userId window →
    limits.rateLimitPerMinute < attempts redis.running answered userId window
  /-- No check of a later minute has begun. -/
  begun : ∀ c s, GuardrailCall.check c s ∈ redis.running → 60 * (c.window : ℚ) ≤ now

theorem CheckStage.Numbered.mono {limit : Int} {attempts attempts' : Nat} {stage : CheckStage}
    (h : stage.Numbered limit attempts) (hle : attempts ≤ attempts') :
    stage.Numbered limit attempts' := by
  refine ⟨fun count hs => ?_, fun result hs hrefused => ?_⟩
  · have hcount := h.1 count hs
    omega
  · have hlimit := h.2 result hs hrefused
    omega

/-- A stage without a number. -/
theorem CheckStage.Numbered.rate {limit : Int} {attempts : Nat} :
    CheckStage.rate.Numbered limit attempts := by
  refine ⟨fun _ h => ?_, fun _ h => ?_⟩ <;> cases h

/-- The number of a check is known from its reply. -/
theorem CheckStage.Numbered.resume {limits : GuardrailSettings} {attempts attempts' : Nat}
    {call : CheckCall} {stage : CheckStage} {reply : Option Int}
    (h : stage.Numbered limits.rateLimitPerMinute attempts) (hle : attempts ≤ attempts')
    (hreply : stage = .rate → ∀ n, reply = some n → n ≤ attempts') :
    (call.resume limits stage reply).Numbered limits.rateLimitPerMinute attempts' := by
  refine ⟨fun count hs => ?_, fun result hs hrefused => ?_⟩
  · cases reply with
    | none => cases stage <;> simp [CheckCall.resume] at hs
    | some n =>
      cases stage with
      | rate =>
        simp only [CheckCall.resume, CheckCall.rated] at hs
        split_ifs at hs
        obtain rfl := CheckStage.rateExpire.inj hs
        exact hreply rfl _ rfl
      | rateExpire _ | traceCard | inflight | inflightExpire _ =>
        simp only [CheckCall.resume, CheckCall.rated, CheckCall.counted] at hs
        split_ifs at hs
      | trace | traceExpire | inflightUndo | ended _ => cases hs
  · rcases rateRefused_resume hs hrefused with ⟨n, rfl, rfl, hn⟩ | ⟨n, rfl, hn⟩ | rfl
    · have hcount := hreply rfl n rfl
      omega
    · have hcount := h.1 n rfl
      omega
    · have hlimit := h.2 result rfl hrefused
      omega

namespace MinuteKept

variable {limits : GuardrailSettings} {userId : String} {window : Nat} {now : ℚ}
  {redis : Shared String String ℚ GuardrailCall} {answered : List (CheckCall × CheckResult)}
  {i : Nat} {r : GuardrailCall}

theorem later (h : MinuteKept limits userId window now redis answered) {time : ℚ}
    (htime : now ≤ time) : MinuteKept limits userId window time redis answered :=
  ⟨h.counter, h.limit, h.numbered, h.refused, fun c s hmem => (h.begun c s hmem).trans htime⟩

variable (limits userId window answered) in
/-- A check that tries moves the number of attempts, other calls keep it. -/
theorem attempts_set (hi : redis.running[i]? = some r) (reply : Option Int) :
    attempts (redis.running.set i ((guardrailCode limits).resume r reply)) answered userId window =
      attempts redis.running answered userId window +
        if r.trying userId window = true then 1 else 0 := by
  have hmoved := countP_moved (GuardrailCall.tried userId window) hi
    ((guardrailCode limits).resume r reply)
  rw [tried_issue] at hmoved
  unfold attempts
  omega

/-- A call that gets a reply keeps the minute when the counter moves with it. -/
theorem replied (h : MinuteKept limits userId window now redis answered)
    (hi : redis.running[i]? = some r) (reply : Option Int) {store : Store String String ℚ}
    {n n' : Int} (hn : passes answered userId window + redis.running.countP
      (GuardrailCall.rated limits.rateLimitPerMinute userId window) ≤ n)
    (htried : n ≤ attempts redis.running answered userId window)
    (hn' : store.Number (rateKey userId window) n')
    (hl : store.Lasts (rateKey userId window) (60 * window + 120))
    (hmoves : r.trying userId window = true ∧ n' = n + 1 ∧ (reply = some n' ∨ reply = none) ∨
      (r.trying userId window = true → reply = none) ∧ n' = n) :
    MinuteKept limits userId window now
      ⟨store, redis.running.set i ((guardrailCode limits).resume r reply)⟩ answered := by
  have hattempts := attempts_set limits userId window answered hi reply
  have hmoved := countP_moved
    (GuardrailCall.rated limits.rateLimitPerMinute userId window) hi
    ((guardrailCode limits).resume r reply)
  have hrated : ((guardrailCode limits).resume r reply).rated limits.rateLimitPerMinute userId
      window = true → r.rated limits.rateLimitPerMinute userId window = true ∨
        n' = n + 1 ∧ n' ≤ limits.rateLimitPerMinute := by
    intro hr'
    rcases hmoves with ⟨htrying, hnext, hreply⟩ | ⟨hnone, -⟩
    · exact Or.inr ⟨hnext, rated_trying htrying hreply hr'⟩
    · exact Or.inl (rated_issue reply hnone hr')
  have hle : attempts redis.running answered userId window ≤
      attempts (redis.running.set i ((guardrailCode limits).resume r reply)) answered userId
        window := by omega
  have hn_le : n ≤ n' := by rcases hmoves with ⟨-, rfl, -⟩ | ⟨-, rfl⟩ <;> omega
  have hn'_le : n' ≤ attempts (redis.running.set i ((guardrailCode limits).resume r reply))
      answered userId window := by
    rcases hmoves with ⟨htrying, rfl, -⟩ | ⟨-, rfl⟩
    · rw [hattempts, if_pos htrying]
      push_cast
      omega
    · omega
  have hcounted : (redis.running.set i ((guardrailCode limits).resume r reply)).countP
        (GuardrailCall.rated limits.rateLimitPerMinute userId window) ≤ redis.running.countP
        (GuardrailCall.rated limits.rateLimitPerMinute userId window) ∨
      (redis.running.set i ((guardrailCode limits).resume r reply)).countP
        (GuardrailCall.rated limits.rateLimitPerMinute userId window) ≤ redis.running.countP
        (GuardrailCall.rated limits.rateLimitPerMinute userId window) + 1 ∧
        n' = n + 1 ∧ n' ≤ limits.rateLimitPerMinute := by
    by_cases hr' : ((guardrailCode limits).resume r reply).rated limits.rateLimitPerMinute userId
      window = true
    · rw [if_pos hr'] at hmoved
      rcases hrated hr' with hr | hnext
      · rw [if_pos hr] at hmoved
        exact Or.inl (by omega)
      · exact Or.inr ⟨by omega, hnext⟩
    · rw [if_neg hr'] at hmoved
      exact Or.inl (by omega)
  have hlimit := h.limit
  have hmax := le_max_right 0 limits.rateLimitPerMinute
  refine ⟨⟨n', hn', hl, ?_, hn'_le⟩, ?_, ?_, ?_, ?_⟩
  · change ((passes answered userId window : Int) + ((redis.running.set i _).countP _ : Nat)) ≤ n'
    omega
  · change ((passes answered userId window : Int) + ((redis.running.set i _).countP _ : Nat)) ≤ _
    omega
  · intro c s hmem hown
    rcases List.mem_or_eq_of_mem_set hmem with hmem | hmem
    · exact (h.numbered c s hmem hown).mono hle
    · obtain ⟨before, rfl, rfl⟩ := check_of_resume hmem.symm
      refine (h.numbered c before (List.mem_of_getElem? hi) hown).resume hle ?_
      rintro rfl m hm
      have htrying : GuardrailCall.trying userId window (.check c .rate) = true := by
        simp [GuardrailCall.trying, hown]
      rcases hmoves with ⟨-, -, hreply | hreply⟩ | ⟨hnone, -⟩
      · rw [hreply] at hm
        rw [← Option.some.inj hm]
        exact hn'_le
      · rw [hreply] at hm
        cases hm
      · rw [hnone htrying] at hm
        cases hm
  · intro hpos
    have hbefore := h.refused hpos
    change limits.rateLimitPerMinute < attempts (redis.running.set i _) answered userId window
    omega
  · intro c s hmem
    rcases List.mem_or_eq_of_mem_set hmem with hmem | hmem
    · exact h.begun c s hmem
    · obtain ⟨before, rfl, -⟩ := check_of_resume hmem.symm
      exact h.begun c before (List.mem_of_getElem? hi)

/-- A command that is executed keeps the minute, when the counter is reached in time. -/
theorem executed (h : MinuteKept limits userId window now redis answered)
    (hi : redis.running[i]? = some r) {c : Command String String ℚ}
    (hc : (guardrailCode limits).next r = some c) {reply : Option Int}
    (hreply : reply = (exec now redis.store c).1 ∨ reply = none)
    (hprompt : ∀ call stage, r = .check call stage →
      (stage = .rate ∨ ∃ count, stage = .rateExpire count) → now < 60 * call.window + 120) :
    MinuteKept limits userId window now
      ⟨(exec now redis.store c).2, redis.running.set i ((guardrailCode limits).resume r reply)⟩
      answered := by
  obtain ⟨n, hn, hl, hcount, htried⟩ := h.counter
  by_cases hmem : rateKey userId window ∈ c.writes
  · obtain ⟨call, stage, rfl, rfl, rfl, hstage⟩ := rateKey_writes hc hmem
    rcases hstage with ⟨rfl, rfl⟩ | ⟨count, rfl, rfl⟩
    · -- the counter gives the check its number
      have hnow := hprompt call _ rfl (Or.inl rfl)
      obtain ⟨hnext, hn'⟩ := hn.add (hl.get hnow) 1
      refine h.replied hi reply hcount htried hn' (hl.add hnow 1) (Or.inl ⟨?_, rfl, ?_⟩)
      · simp [GuardrailCall.trying, CheckCall.inMinute]
      · rwa [← hnext]
    · -- the counter is told to stay
      have hnow := hprompt call _ rfl (Or.inr ⟨count, rfl⟩)
      have hbegun := h.begun call _ (List.mem_of_getElem? hi)
      refine h.replied hi reply hcount htried (hn.expire (hl.get hnow) (by norm_num))
        (hl.expire (by norm_num) (by linarith)) (Or.inr ⟨?_, rfl⟩)
      intro htrying
      simp [GuardrailCall.trying] at htrying
  · refine h.replied hi reply hcount htried (hn.of_eq (exec_other hmem))
      (hl.of_eq (exec_other hmem)) (Or.inr ⟨?_, rfl⟩)
    intro htrying
    refine absurd ?_ hmem
    cases r with
    | release process other stage => cases htrying
    | check call stage =>
      simp only [GuardrailCall.trying, CheckCall.inMinute, Bool.and_eq_true,
        decide_eq_true_eq] at htrying
      obtain ⟨⟨rfl, rfl⟩, rfl⟩ := htrying
      obtain rfl := Option.some.inj hc
      exact List.mem_singleton_self _

/-- A call begins. -/
theorem joined (h : MinuteKept limits userId window now redis answered)
    (hr : (∃ call : CheckCall, r = .check call .rate ∧ 60 * (call.window : ℚ) ≤ now) ∨
      ∃ process other, r = .release process other .decr) :
    MinuteKept limits userId window now ⟨redis.store, redis.running ++ [r]⟩ answered := by
  have hrated : r.rated limits.rateLimitPerMinute userId window = false := by
    rcases hr with ⟨call, rfl, -⟩ | ⟨process, other, rfl⟩ <;>
      simp [GuardrailCall.rated, CheckStage.rated]
  have htried : r.tried userId window = false := by
    rcases hr with ⟨call, rfl, -⟩ | ⟨process, other, rfl⟩ <;> simp [GuardrailCall.tried]
  have hcount : (redis.running ++ [r]).countP
      (GuardrailCall.rated limits.rateLimitPerMinute userId window) =
      redis.running.countP (GuardrailCall.rated limits.rateLimitPerMinute userId window) := by
    simp [List.countP_append, hrated]
  have hattempts : attempts (redis.running ++ [r]) answered userId window =
      attempts redis.running answered userId window := by
    simp [attempts, List.countP_append, htried]
  obtain ⟨n, hn, hl, hpassed, hle⟩ := h.counter
  refine ⟨⟨n, hn, hl, by rwa [hcount], by rwa [hattempts]⟩, by rw [hcount]; exact h.limit, ?_,
    by rw [hattempts]; exact h.refused, ?_⟩
  · intro c s hmem hown
    rw [hattempts]
    rcases List.mem_append.mp hmem with hmem | hmem
    · exact h.numbered c s hmem hown
    · rcases hr with ⟨call, rfl, -⟩ | ⟨process, other, rfl⟩
      · obtain ⟨rfl, rfl⟩ := GuardrailCall.check.inj (List.mem_singleton.mp hmem)
        exact .rate
      · cases List.mem_singleton.mp hmem
  · intro c s hmem
    rcases List.mem_append.mp hmem with hmem | hmem
    · exact h.begun c s hmem
    · rcases hr with ⟨call, rfl, hbegun⟩ | ⟨process, other, rfl⟩
      · obtain ⟨rfl, -⟩ := GuardrailCall.check.inj (List.mem_singleton.mp hmem)
        exact hbegun
      · cases List.mem_singleton.mp hmem

/-- A check is answered. -/
theorem answer (h : MinuteKept limits userId window now redis answered) {call : CheckCall}
    {result : CheckResult} (hi : redis.running[i]? = some (.check call (.ended result))) :
    MinuteKept limits userId window now ⟨redis.store, redis.running.eraseIdx i⟩
      (answered ++ [(call, result)]) := by
  have hrated := countP_ended (GuardrailCall.rated limits.rateLimitPerMinute userId window) hi
  have htried := countP_ended (GuardrailCall.tried userId window) hi
  have hpasses : passes (answered ++ [(call, result)]) userId window + (redis.running.eraseIdx
      i).countP (GuardrailCall.rated limits.rateLimitPerMinute userId window) =
      passes answered userId window + redis.running.countP
        (GuardrailCall.rated limits.rateLimitPerMinute userId window) := by
    rw [hrated, passes, passes, List.countP_append, List.countP_singleton]
    change _ + (if GuardrailCall.rated limits.rateLimitPerMinute userId window
      (.check call (.ended result)) = true then 1 else 0) + _ = _
    omega
  have hattempts : attempts (redis.running.eraseIdx i) (answered ++ [(call, result)]) userId
      window = attempts redis.running answered userId window := by
    unfold attempts
    rw [htried, List.countP_append, List.countP_singleton]
    simp only [GuardrailCall.tried, ne_eq, reduceCtorEq, not_false_eq_true, decide_true,
      Bool.and_true]
    omega
  have hpassesInt : (passes (answered ++ [(call, result)]) userId window : Int) +
      ((redis.running.eraseIdx i).countP
        (GuardrailCall.rated limits.rateLimitPerMinute userId window) : Nat) =
      passes answered userId window + (redis.running.countP
        (GuardrailCall.rated limits.rateLimitPerMinute userId window) : Nat) := by
    exact_mod_cast hpasses
  obtain ⟨n, hn, hl, hpassed, hle⟩ := h.counter
  have hsubset := (List.eraseIdx_sublist redis.running i).subset
  refine ⟨⟨n, hn, hl, by rwa [hpassesInt], by rwa [hattempts]⟩, by rw [hpassesInt]; exact h.limit,
    ?_, ?_, fun c s hmem => h.begun c s (hsubset hmem)⟩
  · intro c s hmem hown
    rw [hattempts]
    exact h.numbered c s (hsubset hmem) hown
  · intro hpos
    rw [hattempts]
    by_cases hnew : call.inMinute userId window = true ∧ result.rateRefused = true
    · exact (h.numbered call _ (List.mem_of_getElem? hi) hnew.1).2 result rfl hnew.2
    · refine h.refused ?_
      rw [refusals, List.countP_append, List.countP_singleton, if_neg (by simpa using hnew)] at hpos
      exact hpos

/-- A release returns. -/
theorem close (h : MinuteKept limits userId window now redis answered) {process : Nat}
    {other : String} {stage : ReleaseStage}
    (hi : redis.running[i]? = some (.release process other stage)) :
    MinuteKept limits userId window now ⟨redis.store, redis.running.eraseIdx i⟩ answered := by
  have hrated := countP_ended (GuardrailCall.rated limits.rateLimitPerMinute userId window) hi
  have htried := countP_ended (GuardrailCall.tried userId window) hi
  simp only [GuardrailCall.rated, GuardrailCall.tried, Bool.false_eq_true, if_false,
    add_zero] at hrated htried
  have hattempts : attempts (redis.running.eraseIdx i) answered userId window =
      attempts redis.running answered userId window := by rw [attempts, attempts, htried]
  obtain ⟨n, hn, hl, hpassed, hle⟩ := h.counter
  have hsubset := (List.eraseIdx_sublist redis.running i).subset
  refine ⟨⟨n, hn, hl, by rwa [← hrated], by rwa [hattempts]⟩, by rw [← hrated]; exact h.limit, ?_,
    by rw [hattempts]; exact h.refused, fun c s hmem => h.begun c s (hsubset hmem)⟩
  intro c s hmem hown
  rw [hattempts]
  exact h.numbered c s (hsubset hmem) hown

end MinuteKept

/-- A minute begins before the times in it. -/
theorem minuteOf_le {time : ℚ} (h : 0 ≤ time) : 60 * (minuteOf time : ℚ) ≤ time := by
  have hfloor := Nat.floor_le h
  have hdiv : 60 * minuteOf time ≤ ⌊time⌋₊ := Nat.mul_div_le _ _
  have hcast : 60 * (minuteOf time : ℚ) ≤ (⌊time⌋₊ : ℚ) := by exact_mod_cast hdiv
  exact hcast.trans hfloor

/-- What a step keeps of a user's minute. -/
theorem GuardrailWorld.step_minuteKept {fallbackLimits : LimiterSettings}
    {limits : GuardrailSettings} {userId : String} {window : Nat} {w : GuardrailWorld}
    {a : TimedGuardrailAction} (hprompt : w.Prompt a) (hnow : 0 ≤ w.now)
    (h : MinuteKept limits userId window w.now w.redis w.answered) :
    MinuteKept limits userId window (step fallbackLimits limits w a).now
      (step fallbackLimits limits w a).redis (step fallbackLimits limits w a).answered := by
  have hlater := h.later hprompt.1
  have heffect := step_effect fallbackLimits limits w a
  generalize (step fallbackLimits limits w a).redis = redis at heffect ⊢
  generalize (step fallbackLimits limits w a).answered = answered at heffect ⊢
  generalize (step fallbackLimits limits w a).released = released at heffect
  change MinuteKept limits userId window a.time redis answered
  cases heffect with
  | kept => exact hlater
  | @checked call hwindow =>
    refine hlater.joined (Or.inl ⟨call, rfl, ?_⟩)
    rw [hwindow]
    exact minuteOf_le (hnow.trans hprompt.1)
  | @released process userId haction hconnected =>
    exact hlater.joined (Or.inr ⟨process, userId, rfl⟩)
  | @issued i fate redis haction hissued =>
    cases hissued with
    | idle => exact hlater
    | executed hr hc hreply _ =>
      refine hlater.executed hr hc hreply ?_
      rintro call stage rfl hstage
      have hissuer : w.issuer a = some (.check call stage) := by
        rw [GuardrailWorld.issuer, haction]
        exact hr
      have hintime := hprompt.2 _ hissuer
      rcases hstage with rfl | ⟨count, rfl⟩
      · exact of_decide_eq_true hintime
      · exact of_decide_eq_true hintime
    | unsent hr hc _ =>
      obtain ⟨n, hn, hl, hcount, htried⟩ := hlater.counter
      exact hlater.replied hr none hcount htried hn hl (Or.inr ⟨fun _ => rfl, rfl⟩)
  | answered hi => exact hlater.answer hi
  | closed hi => exact hlater.close hi

/-! ## The fallbacks -/

/-- The user's checks of the minute that the fallback of a process has let pass. -/
def passesLocally (passed : List CheckCall) (process : Nat) (userId : String) (window : Nat) :
    Nat :=
  passed.countP fun c => c.process = process && c.inMinute userId window

namespace LocalFallbackLimiter

variable {settings : LimiterSettings} {monotonic : ℚ} {time : Int}
  {userId traceId key : String} {l : LocalFallbackLimiter}

@[simp] theorem refillTokens_rateWindows (l : LocalFallbackLimiter) :
    (l.refillTokens settings monotonic).rateWindows = l.rateWindows := by
  unfold refillTokens
  simp only
  split_ifs <;> rfl

@[simp] theorem initTokens_rateWindows (l : LocalFallbackLimiter) :
    (l.initTokens settings).rateWindows = l.rateWindows := by
  unfold initTokens
  split_ifs <;> rfl

/-- A check that the tokens allow is counted, and passes only within the limit. -/
theorem checkReserve_rate (settings : LimiterSettings) (monotonic : ℚ) (time : Int)
    (userId traceId key : String) (l : LocalFallbackLimiter) :
    ((checkReserve settings monotonic time userId traceId key l).1 ≠ .ok () ∧
      (checkReserve settings monotonic time userId traceId key l).2.rateWindows =
        l.rateWindows) ∨
    ((checkReserve settings monotonic time userId traceId key l).2.rateWindows =
        Function.update l.rateWindows userId (some (time / 60, l.rateCount userId (time / 60))) ∧
      ((checkReserve settings monotonic time userId traceId key l).1 = .ok () →
        l.rateCount userId (time / 60) ≤ settings.fallbackRateLimitPerMinute)) := by
  have hcount : ((l.initTokens settings).refillTokens settings monotonic).rateCount userId
      (time / 60) = l.rateCount userId (time / 60) := by
    simp [rateCount]
  unfold checkReserve
  simp only [hcount]
  split_ifs with htokens hrate hdepth hinflight
  · exact Or.inl ⟨by simp, by simp⟩
  · exact Or.inr ⟨by simp, by simp⟩
  · exact Or.inr ⟨by simp, by simp⟩
  · exact Or.inr ⟨by simp, by simp⟩
  · exact Or.inr ⟨by simp, fun _ => not_lt.mp hrate⟩

theorem releaseReserve_rateWindows (userId : String) (l : LocalFallbackLimiter) :
    (l.releaseReserve userId).rateWindows = l.rateWindows := by
  unfold releaseReserve
  split_ifs <;> rfl

end LocalFallbackLimiter

/-- What the fallbacks keep of the checks that they have let pass. -/
structure FallbacksKept (settings : LimiterSettings) (now : ℚ) (degraded : Nat → Bool)
    (fallback : Nat → LocalFallbackLimiter) (passed : List CheckCall) : Prop where
  /-- The last window of a user is not later than now and has counted the checks in it. -/
  counted : ∀ p u m count, (fallback p).rateWindows u = some (m, count) →
    ∃ k : Nat, m = k ∧ k ≤ minuteOf now ∧ (passesLocally passed p u k : Int) ≤ count ∧
      ∀ j, k < j → passesLocally passed p u j = 0
  fresh : ∀ p u, (fallback p).rateWindows u = none → ∀ j, passesLocally passed p u j = 0
  limit : ∀ p u j, (passesLocally passed p u j : Int) ≤ max 0 settings.fallbackRateLimitPerMinute
  degraded : ∀ c ∈ passed, degraded c.process = true

section Fallbacks

variable {settings : LimiterSettings} {now time : ℚ} {degraded : Nat → Bool}
  {fallback : Nat → LocalFallbackLimiter} {passed : List CheckCall}

theorem minuteOf_mono (h : now ≤ time) : minuteOf now ≤ minuteOf time :=
  Nat.div_le_div_right (Nat.floor_mono h)

/-- The fallback reads the same minute. -/
theorem floor_div_minute (h : 0 ≤ time) : ⌊time⌋ / 60 = (minuteOf time : Int) := by
  rw [minuteOf, ← Int.natCast_floor_eq_floor h]
  norm_cast

/-- A change that the rate limit of the fallbacks does not see. -/
theorem FallbacksKept.mono (h : FallbacksKept settings now degraded fallback passed)
    {degraded' : Nat → Bool} {fallback' : Nat → LocalFallbackLimiter} (htime : now ≤ time)
    (hdegraded : ∀ p, degraded p = true → degraded' p = true)
    (hsame : ∀ p, (fallback' p).rateWindows = (fallback p).rateWindows) :
    FallbacksKept settings time degraded' fallback' passed := by
  refine ⟨?_, ?_, h.limit, fun c hc => hdegraded _ (h.degraded c hc)⟩
  · intro p u m count hwindow
    rw [hsame] at hwindow
    obtain ⟨k, hm, hk, hcount, hlater⟩ := h.counted p u m count hwindow
    exact ⟨k, hm, hk.trans (minuteOf_mono htime), hcount, hlater⟩
  · intro p u hwindow
    rw [hsame] at hwindow
    exact h.fresh p u hwindow

/-- The count that a check gets covers the checks of its minute that have passed before. -/
theorem FallbacksKept.rateCount (h : FallbacksKept settings now degraded fallback passed)
    (htime : now ≤ time) (p : Nat) (u : String) :
    (passesLocally passed p u (minuteOf time) : Int) + 1 ≤
        (fallback p).rateCount u (minuteOf time) ∧
      ∀ j, minuteOf time < j → passesLocally passed p u j = 0 := by
  have hminute := minuteOf_mono htime
  unfold LocalFallbackLimiter.rateCount
  cases hwindow : (fallback p).rateWindows u with
  | none =>
    have hfresh := h.fresh p u hwindow
    exact ⟨by simp [hfresh], fun j _ => hfresh j⟩
  | some prior =>
    obtain ⟨m, count⟩ := prior
    obtain ⟨k, rfl, hk, hcount, hlater⟩ := h.counted p u m count hwindow
    refine ⟨?_, fun j hj => hlater j (by omega)⟩
    simp only
    split_ifs with hother
    · rw [hlater (minuteOf time) (by omega)]
      rfl
    · obtain rfl : k = minuteOf time := by omega
      omega

theorem passesLocally_append (c : CheckCall) (p : Nat) (u : String) (j : Nat) :
    passesLocally (passed ++ [c]) p u j = passesLocally passed p u j +
      if c.process = p ∧ c.userId = u ∧ c.window = j then 1 else 0 := by
  rw [passesLocally, passesLocally, List.countP_append, List.countP_singleton]
  simp [CheckCall.inMinute]

/-- A check of the fallback keeps the checks of every minute counted. -/
theorem FallbacksKept.check {w : GuardrailWorld} {a : TimedGuardrailAction}
    (h : FallbacksKept settings w.now w.degraded w.fallback w.passedLocally)
    (htime : w.now ≤ a.time) (hzero : 0 ≤ a.time) (call : CheckCall) :
    FallbacksKept settings a.time (w.checkLocally settings a call).degraded
      (w.checkLocally settings a call).fallback
      (w.checkLocally settings a call).passedLocally := by
  have hdegraded : ∀ p, w.degraded p = true →
      Function.update w.degraded call.process true p = true := by
    intro p hp
    by_cases hself : p = call.process
    · rw [hself, Function.update_self]
    · rwa [Function.update_of_ne hself]
  obtain ⟨hnext, hlater⟩ := h.rateCount htime call.process call.userId
  have hspec := LocalFallbackLimiter.checkReserve_rate settings a.monotonic ⌊a.time⌋ call.userId
    call.traceId call.idempotencyKey (w.fallback call.process)
  rw [floor_div_minute hzero] at hspec
  simp only [GuardrailWorld.checkLocally]
  generalize (w.fallback call.process).checkReserve settings a.monotonic ⌊a.time⌋ call.userId
    call.traceId call.idempotencyKey = r at hspec ⊢
  obtain ⟨answer, l⟩ := r
  rcases hspec with ⟨hdenied, hwindows⟩ | ⟨hwindows, hallowed⟩
  · -- no token was left, and nothing is counted
    have hsame : ∀ p, (Function.update w.fallback call.process l p).rateWindows =
        (w.fallback p).rateWindows := by
      intro p
      by_cases hself : p = call.process
      · rw [hself, Function.update_self]
        exact hwindows
      · rw [Function.update_of_ne hself]
    cases answer with
    | ok _ => exact absurd rfl hdenied
    | error _ => exact h.mono htime hdegraded hsame
  · simp only at hwindows hallowed
    obtain ⟨more, hmore⟩ : ∃ more, more = call.countPassed a.time answer w.passedLocally :=
      ⟨_, rfl⟩
    -- only the count of the check's own user and minute moves
    have hcount : ∀ p u j, passesLocally more p u j = passesLocally w.passedLocally p u j +
        if answer = .ok () ∧ call.process = p ∧ call.userId = u ∧ minuteOf a.time = j then 1
        else 0 := by
      intro p u j
      rw [hmore]
      cases answer with
      | ok _ => simp only [CheckCall.countPassed, passesLocally_append, true_and]
      | error _ => simp [CheckCall.countPassed]
    have hother : ∀ p u, ¬ (p = call.process ∧ u = call.userId) →
        (Function.update w.fallback call.process l p).rateWindows u =
          (w.fallback p).rateWindows u ∧
        ∀ j, passesLocally more p u j = passesLocally w.passedLocally p u j := by
      intro p u hne
      refine ⟨?_, fun j => ?_⟩
      · by_cases hself : p = call.process
        · rw [hself, Function.update_self, hwindows, Function.update_of_ne]
          rintro rfl
          exact hne ⟨hself, rfl⟩
        · rw [Function.update_of_ne hself]
      · rw [hcount, if_neg, add_zero]
        rintro ⟨-, rfl, rfl, -⟩
        exact hne ⟨rfl, rfl⟩
    simp only [← hmore]
    refine ⟨?_, ?_, ?_, ?_⟩
    · intro p u m count hwindow
      by_cases hself : p = call.process ∧ u = call.userId
      · obtain ⟨rfl, rfl⟩ := hself
        rw [Function.update_self, hwindows, Function.update_self, Option.some.injEq,
          Prod.mk.injEq] at hwindow
        obtain ⟨rfl, rfl⟩ := hwindow
        refine ⟨minuteOf a.time, rfl, le_rfl, ?_, fun j hj => ?_⟩
        · rw [hcount]
          split_ifs <;> push_cast <;> omega
        · rw [hcount, hlater j hj, if_neg]
          rintro ⟨-, -, -, rfl⟩
          exact lt_irrefl _ hj
      · obtain ⟨hsame, hkept⟩ := hother p u hself
        rw [hsame] at hwindow
        obtain ⟨k, hm, hk, hle, hnone⟩ := h.counted p u m count hwindow
        refine ⟨k, hm, hk.trans (minuteOf_mono htime), by rwa [hkept], fun j hj => ?_⟩
        rw [hkept, hnone j hj]
    · intro p u hwindow j
      by_cases hself : p = call.process ∧ u = call.userId
      · obtain ⟨rfl, rfl⟩ := hself
        rw [Function.update_self, hwindows, Function.update_self] at hwindow
        cases hwindow
      · obtain ⟨hsame, hkept⟩ := hother p u hself
        rw [hsame] at hwindow
        rw [hkept, h.fresh p u hwindow j]
    · intro p u j
      rw [hcount]
      split_ifs with hown
      · obtain ⟨rfl, rfl, rfl, rfl⟩ := hown
        have hlimit := hallowed rfl
        have hmax := le_max_right 0 settings.fallbackRateLimitPerMinute
        push_cast
        omega
      · exact h.limit p u j
    · intro c hc
      rw [hmore] at hc
      cases answer with
      | error _ => exact hdegraded _ (h.degraded c hc)
      | ok _ =>
        rcases List.mem_append.mp hc with hc | hc
        · exact hdegraded _ (h.degraded c hc)
        · rw [List.mem_singleton.mp hc]
          exact Function.update_self _ _ _

end Fallbacks

/-! ## Runs -/

namespace GuardrailWorld

variable {fallbackLimits : LimiterSettings} {limits : GuardrailSettings} {w : GuardrailWorld}
  {a : TimedGuardrailAction}

theorem step_fallbacksKept (htime : w.now ≤ a.time) (hzero : 0 ≤ a.time)
    (h : FallbacksKept fallbackLimits w.now w.degraded w.fallback w.passedLocally) :
    FallbacksKept fallbackLimits (step fallbackLimits limits w a).now
      (step fallbackLimits limits w a).degraded (step fallbackLimits limits w a).fallback
      (step fallbackLimits limits w a).passedLocally := by
  have hrelease : ∀ (w' : GuardrailWorld) process userId, w'.now = w.now →
      w'.degraded = w.degraded → w'.fallback = w.fallback → w'.passedLocally = w.passedLocally →
      FallbacksKept fallbackLimits a.time (w'.releaseLocally process userId).degraded
        (w'.releaseLocally process userId).fallback
        (w'.releaseLocally process userId).passedLocally := by
    intro w' process userId _ hdegraded hfallback hpassed
    simp only [releaseLocally, hdegraded, hfallback, hpassed]
    refine h.mono htime ?_ ?_
    · intro p hp
      by_cases hself : p = process
      · rw [hself, Function.update_self]
      · rwa [Function.update_of_ne hself]
    · intro p
      by_cases hself : p = process
      · rw [hself, Function.update_self, LocalFallbackLimiter.releaseReserve_rateWindows]
      · rw [Function.update_of_ne hself]
  have hkept : FallbacksKept fallbackLimits a.time w.degraded w.fallback w.passedLocally :=
    h.mono htime (fun _ hp => hp) fun _ => rfl
  obtain ⟨time, monotonic, action⟩ := a
  simp only [step, act]
  cases action with
  | check process userId traceId idempotencyKey =>
    simp only
    split_ifs
    · exact h.check htime hzero _
    · exact hkept
  | release process userId =>
    simp only
    split_ifs
    · exact hrelease w process userId rfl rfl rfl rfl
    · exact hkept
  | command i fate => exact hkept
  | finish i =>
    simp only [close]
    split
    · next call result hi =>
      cases result with
      | unavailable => exact FallbacksKept.check (w := { w with
          redis := ⟨w.redis.store, w.redis.running.eraseIdx i⟩
          answered := w.answered ++ [(call, .unavailable)] }) h htime hzero call
      | passed | refused _ => exact hkept
    · exact hkept
    · exact hrelease _ _ _ rfl rfl rfl rfl
    · exact hkept

/-- What every prompt step keeps. -/
structure Kept (fallbackLimits : LimiterSettings) (limits : GuardrailSettings)
    (w : GuardrailWorld) : Prop where
  clock : 0 ≤ w.now
  minute : ∀ userId window, MinuteKept limits userId window w.now w.redis w.answered
  fallbacks : FallbacksKept fallbackLimits w.now w.degraded w.fallback w.passedLocally

theorem start_kept (degraded : Nat → Bool) (monotonic : Nat → ℚ) :
    (start degraded monotonic).Kept fallbackLimits limits where
  clock := le_rfl
  minute userId window :=
    { counter := by
        refine ⟨0, Or.inl ⟨rfl, rfl⟩, ?_, by simp [passes, start], by simp [attempts, start]⟩
        intro e he
        cases he
      limit := by simp [passes, start]
      numbered := fun c s hmem => by cases hmem
      refused := fun hpos => by simp [refusals, start] at hpos
      begun := fun c s hmem => by cases hmem }
  fallbacks :=
    { counted := fun p u m count hwindow => by cases hwindow
      fresh := fun p u _ j => rfl
      limit := fun p u j => le_max_left _ _
      degraded := fun c hc => by cases hc }

theorem step_kept (hprompt : w.Prompt a) (h : w.Kept fallbackLimits limits) :
    (step fallbackLimits limits w a).Kept fallbackLimits limits where
  clock := h.clock.trans hprompt.1
  minute userId window := step_minuteKept hprompt h.clock (h.minute userId window)
  fallbacks := step_fallbacksKept hprompt.1 (h.clock.trans hprompt.1) h.fallbacks

end GuardrailWorld

/-- The checks of some processes are counted process by process. -/
theorem countP_eq_sum_passesLocally {passed : List CheckCall} {processes : Finset Nat}
    (h : ∀ c ∈ passed, c.process ∈ processes) (userId : String) (window : Nat) :
    passed.countP (CheckCall.inMinute userId window) =
      ∑ p ∈ processes, passesLocally passed p userId window := by
  induction passed with
  | nil => simp [passesLocally]
  | cons c passed ih =>
    have hc := h c List.mem_cons_self
    have hcons : ∀ p, passesLocally (c :: passed) p userId window =
        passesLocally passed p userId window +
          if c.process = p then (if c.inMinute userId window then 1 else 0) else 0 := by
      intro p
      rw [passesLocally, passesLocally, List.countP_cons]
      by_cases hp : c.process = p <;> simp [hp]
    simp only [hcons, Finset.sum_add_distrib, Finset.sum_ite_eq, hc, if_true]
    rw [List.countP_cons, ih fun c' hc' => h c' (List.mem_cons_of_mem _ hc')]

/-- The checks of two processes interleave, and a third process has no Redis. -/
def twoProcesses : List TimedGuardrailAction :=
  [⟨1, 0, .check 0 "u" "t" "a"⟩, ⟨1, 0, .check 1 "u" "t" "b"⟩, ⟨2, 0, .command 1 .answered⟩,
    ⟨2, 0, .command 0 .answered⟩, ⟨3, 1, .check 2 "u" "t" "c"⟩, ⟨3, 1, .command 1 .answered⟩,
    ⟨3, 1, .finish 0⟩]

/-- One check of a user in a minute. -/
def oneCheck : GuardrailSettings := { GuardrailSettings.default with rateLimitPerMinute := 1 }

end Governor.Operations
