import Mathlib
import Governor.Finance.CreditGovern
import Governor.Finance.Amounts

/-!
# The payout rules of ClaimGate

`evaluate_payout` scores the fraud signals of a claim and checks the payout against the carrier's
policy: coverage, limits, deductible and authority. Every evaluation reads the same policy; the
theorem says for which policies that keeps the aggregate limit over any number of claims.
-/

namespace Governor.Ledger

/-! ## Amounts that a request can name -/

/-- What `Decimal` reads from a text. -/
inductive PyDecimal where
  | finite (x : Decimal)
  | infinity (negative : Bool)
  | nan
  deriving DecidableEq

namespace PyDecimal

/-- `str(x)`. -/
def str : PyDecimal → String
  | finite x => x.str
  | infinity negative => if negative then "-Infinity" else "Infinity"
  | nan => "NaN"

/-- `x > limit`, or `none` where the comparison with `NaN` raises `InvalidOperation`. -/
def exceeds : PyDecimal → Decimal → Option Bool
  | finite x, limit => some (limit.lt x)
  | infinity negative, _ => some !negative
  | nan, _ => none

/-- `max(Decimal("0"), x - y)` of an amount that exceeds no limit: minus infinity leaves nothing. -/
def excess : PyDecimal → Decimal → Decimal
  | finite x, y => if Decimal.lt ⟨0, 0⟩ (x.minus y) then x.minus y else ⟨0, 0⟩
  | _, _ => ⟨0, 0⟩

end PyDecimal

/-! ## The sign of a rounded amount -/

namespace Decimal

theorem value_pos_iff {x : Decimal} : 0 < x.value ↔ 0 < x.coeff := by
  rw [value, mul_pos_iff_of_pos_right (by positivity)]
  exact Int.cast_pos

/-- A number of at least one unit is not rounded to zero. -/
theorem roundHalfEven_pos {n : Int} {d : Nat} (hd : 0 < d) (h : (d : Int) ≤ n) :
    0 < roundHalfEven n d := by
  have hrounds := (roundHalfEven_roundsTo n hd).upper
  have hone : (1 : ℚ) ≤ n / d := by
    rw [le_div_iff₀ (by exact_mod_cast hd), one_mul]
    exact_mod_cast h
  have hhalf : (0 : ℚ) < roundHalfEven n d := by linarith
  exact_mod_cast hhalf

theorem roundHalfEven_nonpos {n : Int} {d : Nat} (hd : 0 < d) (h : n ≤ 0) :
    roundHalfEven n d ≤ 0 := by
  have hrounds := (roundHalfEven_roundsTo n hd).lower
  have hzero : (n : ℚ) / d ≤ 0 :=
    div_nonpos_of_nonpos_of_nonneg (by exact_mod_cast h) (by positivity)
  have hhalf : (roundHalfEven n d : ℚ) < 1 := by linarith
  have hlt : roundHalfEven n d < 1 := by exact_mod_cast hhalf
  omega

/-- A coefficient with more digits than the context keeps has one unit of the last place kept. -/
theorem one_le_of_excess {n : Nat} (h : (digits n).length - precision ≠ 0) :
    10 ^ ((digits n).length - precision) ≤ n := by
  have hlong : ¬ (digits n).length ≤ (digits n).length - precision := by
    unfold precision at h ⊢
    omega
  exact not_lt.mp (mt (Nat.length_toDigits_le_iff (by decide) (Nat.pos_of_ne_zero h)).mpr hlong)

/-- Rounding to the digits of the context keeps a positive amount positive. -/
theorem fix_pos {x : Decimal} (h : 0 < x.coeff) : 0 < x.fix.coeff := by
  unfold fix
  simp only
  split_ifs with hexcess hcarry
  · exact h
  · change 0 < roundHalfEven _ _ / 10
    have hlarge : 10 ≤ (roundHalfEven x.coeff
        (10 ^ ((digits x.coeff.natAbs).length - precision))).natAbs := by
      rw [hcarry]
      decide
    have hnonneg := roundHalfEven_nonneg (10 ^ ((digits x.coeff.natAbs).length - precision)) h.le
    omega
  · have hunit := one_le_of_excess hexcess
    refine roundHalfEven_pos (by positivity) ?_
    zify at hunit
    rwa [abs_of_pos h] at hunit

/-- Rounding to the digits of the context makes no amount positive. -/
theorem fix_nonpos {x : Decimal} (h : x.coeff ≤ 0) : x.fix.coeff ≤ 0 := by
  unfold fix
  simp only
  split_ifs with hexcess hcarry
  · exact h
  · change roundHalfEven _ _ / 10 ≤ 0
    have hrounded := roundHalfEven_nonpos (d := 10 ^ ((digits x.coeff.natAbs).length - precision))
      (by positivity) h
    omega
  · exact roundHalfEven_nonpos (by positivity) h

/-- A rounded difference is positive exactly when the difference is. -/
theorem minus_pos_iff {a b : Decimal} : 0 < (a.minus b).value ↔ b.value < a.value := by
  rw [← sub_pos (a := a.value), ← value_sub, value_pos_iff, value_pos_iff, minus]
  constructor
  · intro h
    by_contra hle
    exact absurd (fix_nonpos (not_lt.mp hle)) (not_le.mpr h)
  · exact fix_pos

end Decimal

end Governor.Ledger

namespace Governor.Sector

open Finance (zeroScore)
open Ledger (Decimal PyDecimal)

/-! ## Floats -/

/-- The decimal that a finite float's text spells. -/
def floatValue (x : PyFloat) : Option Decimal :=
  let negative := x.text.head? = some '-'
  let unsigned := if negative then x.text.drop 1 else x.text
  let mantissa := unsigned.takeWhile (· ≠ 'e')
  let whole := mantissa.takeWhile Char.isDigit
  let fraction := mantissa.drop (whole.length + 1)
  let exponent := unsigned.drop (mantissa.length + 1)
  let power : Int := match exponent with
    | '-' :: ds => -Nat.ofDigitChars 10 ds 0
    | '+' :: ds => Nat.ofDigitChars 10 ds 0
    | ds => Nat.ofDigitChars 10 ds 0
  if whole = [] then none
  else
    let coeff : Int := Nat.ofDigitChars 10 (whole ++ fraction) 0
    some ⟨if negative then -coeff else coeff, power - fraction.length⟩

/-- `a < b`. Distinct floats have distinct texts in the order of their values; infinities and NaN
do not occur in the scores. -/
def floatLt (a b : PyFloat) : Bool :=
  match floatValue a, floatValue b with
  | some x, some y => x.lt y
  | _, _ => false

example : floatLt ⟨"0.35".toList, Eq.refl true⟩ ⟨"0.7".toList, Eq.refl true⟩ = true := by
  decide +kernel

/-- The float arithmetic of the scores. -/
structure FloatArithmetic where
  /-- `sum(weights)`. -/
  sum : List PyFloat → PyFloat
  /-- `round(x, 4)`. -/
  round : PyFloat → PyFloat
  /-- `1.0 - 0.15 * n`. -/
  signalScore : Nat → PyFloat

/-- `max(0.3, 1.0 - 0.15 * n)`. -/
def FloatArithmetic.penalizedScore (floats : FloatArithmetic) (n : Nat) : PyFloat :=
  let lowest : PyFloat := ⟨"0.3".toList, Eq.refl true⟩
  if floatLt lowest (floats.signalScore n) then floats.signalScore n else lowest

/-! ## Referrals to the special investigation unit -/

/-- `SiuState`, as far as `evaluate_siu` sets it. -/
inductive SiuState where
  | cleared | referred | blocked
  deriving DecidableEq

/-- The value of a state. -/
def SiuState.text : SiuState → String
  | .cleared => "CLEARED"
  | .referred => "REFERRED"
  | .blocked => "BLOCKED"

/-- `SiuReferral`. -/
structure SiuReferral where
  referralId : String
  claimId : String
  state : SiuState
  fraudScore : PyFloat
  signals : List String

/-- `FRAUD_SIGNAL_WEIGHTS`, with the weight of an unknown signal. -/
def fraudSignalWeight (signal : String) : PyFloat :=
  match signal with
  | "duplicate_claim" => ⟨"0.35".toList, Eq.refl true⟩
  | "inconsistent_statement" => ⟨"0.25".toList, Eq.refl true⟩
  | "staged_loss_pattern" => ⟨"0.4".toList, Eq.refl true⟩
  | "medical_provider_alert" => ⟨"0.3".toList, Eq.refl true⟩
  | "geographic_anomaly" => ⟨"0.2".toList, Eq.refl true⟩
  | "siu_referral" => ⟨"1.0".toList, Eq.refl true⟩
  | "prior_fraud_conviction" => ⟨"0.5".toList, Eq.refl true⟩
  | "late_reporting" => ⟨"0.15".toList, Eq.refl true⟩
  | _ => ⟨"0.1".toList, Eq.refl true⟩

/-- `1.0`. -/
def fullScore : PyFloat := ⟨"1.0".toList, Eq.refl true⟩

/-- `threshold_refer`. -/
def referThreshold : PyFloat := ⟨"0.35".toList, Eq.refl true⟩

/-- `threshold_block`. -/
def blockThreshold : PyFloat := ⟨"0.7".toList, Eq.refl true⟩

/-- `score_fraud_signals`. -/
def scoreFraudSignals (floats : FloatArithmetic) (signals : List String) : PyFloat :=
  if signals = [] then zeroScore
  else
    let total := floats.sum (signals.map fraudSignalWeight)
    if floatLt total fullScore then total else fullScore

/-- `evaluate_siu`, with the twelve digits drawn for the referral. -/
def evaluateSiu (floats : FloatArithmetic) (siuId claimId : String) (signals : List String)
    (siuFlag : Bool) : SiuReferral :=
  let manualRefer := siuFlag && signals.isEmpty
  let signals := if siuFlag && !signals.contains "siu_referral" then signals ++ ["siu_referral"]
    else signals
  if manualRefer then ⟨"siu_" ++ siuId, claimId, .referred, referThreshold, signals⟩
  else
    let score := scoreFraudSignals floats signals
    let state : SiuState :=
      if !floatLt score blockThreshold then .blocked
      else if !floatLt score referThreshold then .referred
      else .cleared
    ⟨"siu_" ++ siuId, claimId, state, floats.round score, signals⟩

/-! ## The rules of a policy -/

/-- `PolicyContext`; a date is its number. -/
structure PolicyContext where
  policyNumber : String
  perOccurrenceLimit : Decimal
  aggregateLimit : Decimal
  aggregateUsed : Decimal
  deductible : Decimal
  autoApproveLimit : Decimal
  effectiveDate : Int
  expirationDate : Int
  coverageActive : Bool
  regulatoryHold : Bool
  deriving DecidableEq

/-- `PolicyEvaluationTrace`. -/
structure PolicyEvaluationTrace where
  passed : Bool
  decision : String
  reason : Option String
  score : PyFloat
  netPayable : Decimal
  rulesApplied : List String

/-- `Decimal("0")`. -/
def noPayment : Decimal := ⟨0, 0⟩

/-- A trace that does not pass. -/
def refusedTrace (decision reason : String) (score : PyFloat) (netPayable : Decimal)
    (rulesApplied : List String) : PolicyEvaluationTrace :=
  ⟨false, decision, some reason, score, netPayable, rulesApplied⟩

/-- The rules on what is left after the deductible. -/
def evaluateNet (floats : FloatArithmetic) (policy : PolicyContext)
    (aggregateRemaining net : Decimal) (fraudSignals : List String) : PolicyEvaluationTrace :=
  if aggregateRemaining.lt net then
    refusedTrace "HELD" "exceeds_aggregate_remaining" ⟨"0.4".toList, Eq.refl true⟩ noPayment
      ["deductible_applied", "aggregate_cap"]
  else if policy.autoApproveLimit.lt net then
    refusedTrace "HELD" "above_auto_approve_authority" ⟨"0.5".toList, Eq.refl true⟩ net
      ["deductible_applied", "authority_escalation"]
  else if fraudSignals = [] then
    ⟨true, "APPROVED", none, fullScore, net, ["deductible_applied", "auto_approve"]⟩
  else if floatLt (floats.penalizedScore fraudSignals.length)
      ⟨"0.6".toList, Eq.refl true⟩ then
    refusedTrace "REFERRED" "fraud_signals_elevated" (floats.penalizedScore fraudSignals.length)
      noPayment ["deductible_applied", "fraud_signals_present"]
  else ⟨true, "APPROVED", none, fullScore, net,
    ["deductible_applied", "fraud_signals_present", "auto_approve"]⟩

/-- `evaluate_policy_rules`, or `none` where it raises. -/
def evaluatePolicyRules (floats : FloatArithmetic) (policy : PolicyContext)
    (payoutAmount : PyDecimal) (lossDate : Int) (siuFlag : Bool) (fraudSignals : List String) :
    Option PolicyEvaluationTrace :=
  let aggregateRemaining := policy.aggregateLimit.minus policy.aggregateUsed
  if siuFlag || fraudSignals.contains "siu_referral" then
    some (refusedTrace "REFERRED" "siu_review_required" zeroScore noPayment ["siu_block"])
  else if !policy.coverageActive then
    some (refusedTrace "DECLINED" "coverage_inactive" zeroScore noPayment ["coverage_inactive"])
  else if policy.regulatoryHold then
    some (refusedTrace "HELD" "regulatory_hold" ⟨"0.2".toList, Eq.refl true⟩ noPayment
      ["regulatory_hold"])
  else if lossDate < policy.effectiveDate ∨ policy.expirationDate < lossDate then
    some (refusedTrace "DECLINED" "loss_outside_policy_period" zeroScore noPayment
      ["loss_outside_policy_period"])
  else if !Decimal.lt noPayment aggregateRemaining then
    some (refusedTrace "DECLINED" "aggregate_exhausted" zeroScore noPayment ["aggregate_exhausted"])
  else
    (payoutAmount.exceeds policy.perOccurrenceLimit).map fun overLimit =>
      if overLimit then
        refusedTrace "HELD" "exceeds_per_occurrence_limit" ⟨"0.3".toList, Eq.refl true⟩
          noPayment ["per_occurrence_limit"]
      else evaluateNet floats policy aggregateRemaining (payoutAmount.excess policy.deductible)
        fraudSignals

/-! ## Evaluating a payout -/

/-- `PayoutEvaluation`. -/
structure PayoutEvaluation where
  approved : Bool
  decision : String
  reason : Option String
  score : PyFloat
  netPayable : Decimal
  policyTrace : Option PolicyEvaluationTrace
  siuReferral : SiuReferral

/-- `evaluate_payout` with a policy, or `none` where it raises. -/
def evaluatePayout (floats : FloatArithmetic) (siuId claimId : String) (payoutAmount : PyDecimal)
    (policy : PolicyContext) (lossDate : Int) (siuFlag : Bool) (fraudSignals : List String) :
    Option PayoutEvaluation :=
  let siu := evaluateSiu floats siuId claimId fraudSignals siuFlag
  match siu.state with
  | .referred => some ⟨false, "REFERRED", some "siu_referred", siu.fraudScore, noPayment, none, siu⟩
  | .blocked => some ⟨false, "DECLINED", some "siu_blocked", siu.fraudScore, noPayment, none, siu⟩
  | .cleared =>
    (evaluatePolicyRules floats policy payoutAmount lossDate siuFlag fraudSignals).map fun trace =>
      ⟨trace.passed, trace.decision, trace.reason, trace.score, trace.netPayable, some trace, siu⟩

/-- What a request says about the date of the loss. -/
inductive LossDate where
  /-- Null or empty. -/
  | absent
  | date (day : Int)
  /-- A text that is no date. -/
  | unreadable

/-- The date of the loss, or `none` where reading it raises. -/
def LossDate.day (today : Int) : LossDate → Option Int
  | absent => some today
  | date day => some day
  | unreadable => none

/-- `PayoutRequest`. -/
structure PayoutRequest where
  claimId : String
  /-- What `Decimal` reads from the text; nothing if it raises. -/
  payoutAmount : Option PyDecimal
  currency : String
  policyNumber : String
  lossDate : LossDate
  siuFlag : Bool
  fraudSignals : List String
  accountId : String
  policyId : String
  payeeId : String
  idempotencyKey : Option String

/-- A request with the day on which it arrives and the digits drawn for its referral. -/
structure PayoutCall where
  request : PayoutRequest
  today : Int
  siuId : String

/-- The evaluation of a request under a policy, or `none` where it raises. -/
def PayoutCall.evaluate (floats : FloatArithmetic) (policy : PolicyContext) (call : PayoutCall) :
    Option PayoutEvaluation := do
  let amount ← call.request.payoutAmount
  let loss ← call.request.lossDate.day call.today
  evaluatePayout floats call.siuId call.request.claimId amount policy loss call.request.siuFlag
    call.request.fraudSignals

/-! ## The aggregate limit -/

/-- What is left of the aggregate limit at the start. -/
def PolicyContext.remaining (policy : PolicyContext) : ℚ :=
  policy.aggregateLimit.value - policy.aggregateUsed.value

/-- What an evaluation approves. -/
def approvedNet (floats : FloatArithmetic) (policy : PolicyContext) (call : PayoutCall) : ℚ :=
  match call.evaluate floats policy with
  | some e => if e.decision = "APPROVED" then e.netPayable.value else 0
  | none => 0

/-- The approvals of distinct claims stay within what is left of the aggregate limit. -/
def AggregateKept (floats : FloatArithmetic) (policy : PolicyContext) : Prop :=
  ∀ calls : List PayoutCall, (calls.map fun call => call.request.claimId).Nodup →
    (calls.map (approvedNet floats policy)).sum ≤ policy.remaining

/-- The policy approves no positive amount, and its limit is not exceeded from the start. -/
structure NeverPays (policy : PolicyContext) : Prop where
  notOverdrawn : 0 ≤ policy.remaining
  closed : policy.coverageActive = false ∨ policy.regulatoryHold = true ∨
    policy.expirationDate < policy.effectiveDate ∨ policy.remaining = 0 ∨
    policy.perOccurrenceLimit.value ≤ policy.deductible.value ∨
    policy.autoApproveLimit.value ≤ 0

/-- What an approval has passed. -/
structure Approvable (policy : PolicyContext) (amount : PyDecimal) (lossDate : Int)
    (net : Decimal) : Prop where
  coverageActive : policy.coverageActive = true
  regulatoryHold : policy.regulatoryHold = false
  effective : policy.effectiveDate ≤ lossDate
  unexpired : lossDate ≤ policy.expirationDate
  remaining : 0 < policy.remaining
  withinLimit : amount.exceeds policy.perOccurrenceLimit = some false
  net_eq : net = amount.excess policy.deductible
  withinAuthority : net.value ≤ policy.autoApproveLimit.value

section Rules

variable {floats : FloatArithmetic} {policy : PolicyContext} {amount : PyDecimal} {lossDate : Int}
  {siuFlag : Bool} {fraudSignals : List String}

theorem value_noPayment : noPayment.value = 0 := by simp [noPayment, Decimal.value]

theorem lt_false_iff {a b : Decimal} : a.lt b = false ↔ b.value ≤ a.value := by
  rw [← not_lt, ← Decimal.lt_iff, Bool.not_eq_true]

theorem remaining_pos_iff :
    Decimal.lt noPayment (policy.aggregateLimit.minus policy.aggregateUsed) = true ↔
      0 < policy.remaining := by
  rw [Decimal.lt_iff, value_noPayment, Decimal.minus_pos_iff, PolicyContext.remaining, sub_pos]

theorem refusedTrace_decision {decision reason : String} {score : PyFloat} {net : Decimal}
    {rules : List String} : (refusedTrace decision reason score net rules).decision = decision :=
  rfl

/-- What is approved is the net amount, within the authority. -/
theorem evaluateNet_approved {remaining net : Decimal}
    (h : (evaluateNet floats policy remaining net fraudSignals).decision = "APPROVED") :
    (evaluateNet floats policy remaining net fraudSignals).netPayable = net ∧
      net.value ≤ policy.autoApproveLimit.value := by
  unfold evaluateNet at h ⊢
  split_ifs at h ⊢ with haggregate hauthority hsignals
  · exact absurd h (by rw [refusedTrace_decision]; decide)
  · exact absurd h (by rw [refusedTrace_decision]; decide)
  · exact ⟨rfl, lt_false_iff.mp (by simpa using hauthority)⟩
  · exact absurd h (by rw [refusedTrace_decision]; decide)
  · exact ⟨rfl, lt_false_iff.mp (by simpa using hauthority)⟩

/-- The rules approve only what passes every check. -/
theorem evaluatePolicyRules_approved {trace : PolicyEvaluationTrace}
    (h : evaluatePolicyRules floats policy amount lossDate siuFlag fraudSignals = some trace)
    (happroved : trace.decision = "APPROVED") :
    Approvable policy amount lossDate trace.netPayable := by
  have hrefused : ∀ {decision reason score net rules}, decision ≠ "APPROVED" →
      some (refusedTrace decision reason score net rules) = some trace → False := by
    rintro decision reason score net rules hne heq
    obtain rfl := Option.some.inj heq
    exact hne happroved
  unfold evaluatePolicyRules at h
  simp only at h
  split_ifs at h with hsiu hactive hhold hperiod hremaining
  · exact (hrefused (by decide) h).elim
  · exact (hrefused (by decide) h).elim
  · exact (hrefused (by decide) h).elim
  · exact (hrefused (by decide) h).elim
  · exact (hrefused (by decide) h).elim
  · obtain ⟨overLimit, hlimit, rfl⟩ := Option.map_eq_some_iff.mp h
    simp only [Bool.not_eq_true', Bool.not_eq_false] at hactive hremaining
    simp only [not_or, not_lt] at hperiod
    cases overLimit with
    | true => exact absurd happroved (by rw [if_pos rfl, refusedTrace_decision]; decide)
    | false =>
      simp only [Bool.false_eq_true, ite_false] at happroved ⊢
      obtain ⟨hnet, hauthority⟩ := evaluateNet_approved happroved
      exact ⟨hactive, by simpa using hhold, hperiod.1, hperiod.2, remaining_pos_iff.mp hremaining,
        hlimit, hnet, by rw [hnet]; exact hauthority⟩

theorem excess_nonneg (y : Decimal) : 0 ≤ (amount.excess y).value := by
  unfold PyDecimal.excess
  split
  · split_ifs with hpos
    · rw [Decimal.lt_iff] at hpos
      exact value_noPayment.symm.le.trans hpos.le
    · exact value_noPayment.ge
  · exact value_noPayment.ge

/-- An amount up to a limit leaves nothing after a deductible of the limit. -/
theorem excess_eq_zero {limit y : Decimal} (h : amount.exceeds limit = some false)
    (hle : limit.value ≤ y.value) : (amount.excess y).value = 0 := by
  cases amount with
  | finite x =>
    have hx : x.value ≤ limit.value := lt_false_iff.mp (Option.some.inj h)
    have hnot : ¬ Decimal.lt ⟨0, 0⟩ (x.minus y) = true := by
      rw [Decimal.lt_iff, show Decimal.value ⟨0, 0⟩ = 0 from value_noPayment,
        Decimal.minus_pos_iff, not_lt]
      exact hx.trans hle
    rw [PyDecimal.excess, if_neg hnot]
    exact value_noPayment
  | infinity negative => exact value_noPayment
  | nan => exact value_noPayment

/-- What an evaluation approves has passed every check. -/
theorem evaluate_approved {call : PayoutCall} {e : PayoutEvaluation}
    (h : call.evaluate floats policy = some e) (happroved : e.decision = "APPROVED") :
    ∃ amount lossDate, call.request.lossDate.day call.today = some lossDate ∧
      Approvable policy amount lossDate e.netPayable := by
  obtain ⟨amount, -, h⟩ := Option.bind_eq_some_iff.mp h
  obtain ⟨loss, hloss, h⟩ := Option.bind_eq_some_iff.mp h
  unfold evaluatePayout at h
  simp only at h
  split at h
  · obtain rfl := Option.some.inj h
    exact absurd happroved (by decide : "REFERRED" ≠ "APPROVED")
  · obtain rfl := Option.some.inj h
    exact absurd happroved (by decide : "DECLINED" ≠ "APPROVED")
  · obtain ⟨trace, htrace, rfl⟩ := Option.map_eq_some_iff.mp h
    exact ⟨amount, loss, hloss, evaluatePolicyRules_approved htrace happroved⟩

/-- What was approved is approved again for a loss on another day of the policy. -/
theorem evaluatePolicyRules_otherDay {trace : PolicyEvaluationTrace} {day : Int}
    (h : evaluatePolicyRules floats policy amount lossDate siuFlag fraudSignals = some trace)
    (happroved : trace.decision = "APPROVED") (heffective : policy.effectiveDate ≤ day)
    (hunexpired : day ≤ policy.expirationDate) :
    evaluatePolicyRules floats policy amount day siuFlag fraudSignals = some trace := by
  have hfirst := evaluatePolicyRules_approved h happroved
  have hperiod : ¬ (lossDate < policy.effectiveDate ∨ policy.expirationDate < lossDate) :=
    not_or.mpr ⟨hfirst.effective.not_gt, hfirst.unexpired.not_gt⟩
  have hperiod' : ¬ (day < policy.effectiveDate ∨ policy.expirationDate < day) :=
    not_or.mpr ⟨heffective.not_gt, hunexpired.not_gt⟩
  unfold evaluatePolicyRules at h ⊢
  simp only [if_neg hperiod] at h
  simp only [if_neg hperiod']
  exact h

/-- The digits that are drawn for a referral are its identifier and nothing else. -/
theorem evaluateSiu_siuId (siuId siuId' claimId : String) (signals : List String) :
    evaluateSiu floats siuId' claimId signals siuFlag =
      { evaluateSiu floats siuId claimId signals siuFlag with referralId := "siu_" ++ siuId' } := by
  unfold evaluateSiu
  simp only
  split_ifs <;> rfl

/-- An evaluation under a referral that was drawn anew. -/
def PayoutEvaluation.withReferral (siuId : String) (e : PayoutEvaluation) : PayoutEvaluation :=
  { e with siuReferral := { e.siuReferral with referralId := "siu_" ++ siuId } }

/-- An approved request that is evaluated again, on a day of the policy, differs in its referral
only. -/
theorem evaluate_again {call call' : PayoutCall} {e : PayoutEvaluation} {day : Int}
    (h : call.evaluate floats policy = some e) (happroved : e.decision = "APPROVED")
    (hrequest : call'.request = call.request)
    (hday : call'.request.lossDate.day call'.today = some day)
    (heffective : policy.effectiveDate ≤ day) (hunexpired : day ≤ policy.expirationDate) :
    call'.evaluate floats policy = some (e.withReferral call'.siuId) := by
  obtain ⟨amount, hamount, h⟩ := Option.bind_eq_some_iff.mp h
  obtain ⟨loss, -, h⟩ := Option.bind_eq_some_iff.mp h
  have hagain : call'.evaluate floats policy = evaluatePayout floats call'.siuId
      call.request.claimId amount policy day call.request.siuFlag call.request.fraudSignals := by
    rw [PayoutCall.evaluate, hday, hrequest, hamount]
    rfl
  rw [hagain]
  unfold evaluatePayout at h ⊢
  rw [evaluateSiu_siuId call.siuId call'.siuId]
  simp only at h ⊢
  split at h
  · obtain rfl := Option.some.inj h
    exact absurd happroved (by decide : "REFERRED" ≠ "APPROVED")
  · obtain rfl := Option.some.inj h
    exact absurd happroved (by decide : "DECLINED" ≠ "APPROVED")
  · next hstate =>
    obtain ⟨trace, htrace, rfl⟩ := Option.map_eq_some_iff.mp h
    rw [hstate, evaluatePolicyRules_otherDay htrace happroved heffective hunexpired]
    simp only [Option.map_some, PayoutEvaluation.withReferral, hstate]

/-- An approval under a policy that never pays is nothing. -/
theorem Approvable.net_of_neverPays {net : Decimal} (h : Approvable policy amount lossDate net)
    (hnever : NeverPays policy) : net.value = 0 := by
  obtain hinactive | hheld | hperiod | hspent | hdeductible | hauthority := hnever.closed
  · exact absurd (hinactive.symm.trans h.coverageActive) (by decide)
  · exact absurd (hheld.symm.trans h.regulatoryHold) (by decide)
  · exact absurd (h.effective.trans h.unexpired) (not_le.mpr hperiod)
  · exact absurd hspent h.remaining.ne'
  · rw [h.net_eq]
    exact excess_eq_zero h.withinLimit hdeductible
  · refine le_antisymm (h.withinAuthority.trans hauthority) ?_
    rw [h.net_eq]
    exact excess_nonneg policy.deductible

theorem approvedNet_of_neverPays (hnever : NeverPays policy) (call : PayoutCall) :
    approvedNet floats policy call = 0 := by
  unfold approvedNet
  split
  · next e he =>
    split_ifs with happroved
    · obtain ⟨amount, lossDate, -, happrovable⟩ := evaluate_approved he happroved
      exact happrovable.net_of_neverPays hnever
    · rfl
  · rfl

/-- The request for a small payout above the deductible. -/
def smallCall (policy : PolicyContext) (k i : Nat) : PayoutCall where
  request := {
    claimId := String.ofList (List.replicate i 'c')
    payoutAmount := some (.finite (policy.deductible.add ⟨1, -k⟩))
    currency := "USD"
    policyNumber := policy.policyNumber
    lossDate := .date policy.effectiveDate
    siuFlag := false
    fraudSignals := []
    accountId := "carrier-default"
    policyId := "claim-high-us"
    payeeId := "payee-default"
    idempotencyKey := none }
  today := policy.effectiveDate
  siuId := "000000000000"

/-- A claim without signals is cleared. -/
theorem evaluateSiu_cleared (siuId claimId : String) :
    (evaluateSiu floats siuId claimId [] false).state = .cleared := by
  have hblock : floatLt zeroScore blockThreshold = true := by decide +kernel
  have hrefer : floatLt zeroScore referThreshold = true := by decide +kernel
  simp [evaluateSiu, scoreFraudSignals, hblock, hrefer]

/-- A unit of a fine scale. -/
theorem value_unit (k : Nat) : Decimal.value ⟨1, -k⟩ = 10 ^ (-(k : Int)) := by
  simp [Decimal.value]

/-- A deductible is taken off exactly from an amount that is one fine unit above it. -/
theorem unit_above {x : Decimal} {k : Nat} (h : -(k : Int) ≤ x.exp) :
    (x.add ⟨1, -k⟩).minus x = ⟨1, -k⟩ ∧ (x.add ⟨1, -k⟩).value = x.value + 10 ^ (-(k : Int)) := by
  have hexp : min x.exp (-(k : Int)) = -k := min_eq_right h
  have hadd : x.add ⟨1, -k⟩ = ⟨x.coeffAt (-k) + 1, -k⟩ := by
    simp [Decimal.add, hexp, Decimal.coeffAt]
  have hsub : Decimal.sub ⟨x.coeffAt (-k) + 1, -k⟩ x = ⟨1, -k⟩ := by
    have hself : Decimal.coeffAt ⟨x.coeffAt (-k) + 1, -k⟩ (-k) = x.coeffAt (-k) + 1 := by
      simp [Decimal.coeffAt]
    rw [Decimal.sub, min_eq_left h, hself, add_sub_cancel_left]
  refine ⟨?_, ?_⟩
  · have hdigits : (Ledger.digits (1 : Int).natAbs).length - Decimal.precision = 0 := by decide
    rw [hadd, Decimal.minus, hsub, Decimal.fix]
    simp only [hdigits, ite_true]
  · rw [hadd, Decimal.value, ← x.coeffAt_value h]
    push_cast
    ring

/-- The request for a small payout is approved when it is within every limit. -/
theorem smallCall_approved {k : Nat} (hactive : policy.coverageActive = true)
    (hhold : policy.regulatoryHold = false) (hperiod : policy.effectiveDate ≤ policy.expirationDate)
    (hscale : -(k : Int) ≤ policy.deductible.exp)
    (hlimit : policy.deductible.value + 10 ^ (-(k : Int)) ≤ policy.perOccurrenceLimit.value)
    (hremaining : (10 : ℚ) ^ (-(k : Int)) ≤ (policy.aggregateLimit.minus policy.aggregateUsed).value)
    (hauthority : (10 : ℚ) ^ (-(k : Int)) ≤ policy.autoApproveLimit.value) (i : Nat) :
    approvedNet floats policy (smallCall policy k i) = 10 ^ (-(k : Int)) := by
  obtain ⟨hminus, hvalue⟩ := unit_above hscale
  have hunit : (0 : ℚ) < 10 ^ (-(k : Int)) := by positivity
  have hpos : Decimal.lt noPayment (policy.aggregateLimit.minus policy.aggregateUsed) = true := by
    rw [Decimal.lt_iff, value_noPayment]
    exact hunit.trans_le hremaining
  have hexceeds : PyDecimal.exceeds (.finite (policy.deductible.add ⟨1, -k⟩))
      policy.perOccurrenceLimit = some false :=
    congrArg some (lt_false_iff.mpr (hvalue.le.trans hlimit))
  have hnet : PyDecimal.excess (.finite (policy.deductible.add ⟨1, -k⟩)) policy.deductible =
      ⟨1, -k⟩ := by
    have hlt : Decimal.lt ⟨0, 0⟩ ⟨1, -k⟩ = true := by
      rw [Decimal.lt_iff, value_unit]
      exact value_noPayment.trans_lt hunit
    rw [PyDecimal.excess, hminus, if_pos hlt]
  have hwithin : (policy.aggregateLimit.minus policy.aggregateUsed).lt ⟨1, -k⟩ = false := by
    rwa [lt_false_iff, value_unit]
  have hauthorized : policy.autoApproveLimit.lt ⟨1, -k⟩ = false := by
    rwa [lt_false_iff, value_unit]
  have hrules : evaluatePolicyRules floats policy
      (.finite (policy.deductible.add ⟨1, -k⟩)) policy.effectiveDate false [] =
      some ⟨true, "APPROVED", none, fullScore, ⟨1, -k⟩, ["deductible_applied", "auto_approve"]⟩ := by
    simp [evaluatePolicyRules, hactive, hhold, hperiod, hpos, hexceeds, hnet, evaluateNet, hwithin,
      hauthorized]
  have hevaluate : ∃ e, (smallCall policy k i).evaluate floats policy = some e ∧
      e.decision = "APPROVED" ∧ e.netPayable = ⟨1, -k⟩ := by
    simp only [PayoutCall.evaluate, smallCall, LossDate.day, Option.bind_eq_bind,
      Option.bind_some, evaluatePayout, evaluateSiu_cleared, hrules, Option.map_some]
    exact ⟨_, rfl, rfl, rfl⟩
  obtain ⟨e, he, happroved, hpaid⟩ := hevaluate
  rw [approvedNet, he]
  simp only [happroved, ite_true, hpaid]
  exact value_unit k

/-- Fine units are below any positive bound. -/
theorem exists_unit_le {x : ℚ} (h : 0 < x) :
    ∃ k : Nat, ∀ n : Nat, k ≤ n → (10 : ℚ) ^ (-(n : Int)) ≤ x := by
  obtain ⟨k, hk⟩ := exists_pow_lt_of_lt_one h (by norm_num : (1 / 10 : ℚ) < 1)
  refine ⟨k, fun n hn => ?_⟩
  have hpow : (10 : ℚ) ^ (-(n : Int)) = (1 / 10) ^ n := by
    rw [zpow_neg, zpow_natCast, one_div, inv_pow]
  rw [hpow]
  exact (pow_le_pow_of_le_one (by norm_num) (by norm_num) hn).trans hk.le

/-- A policy that can pay at all pays more than its limit to enough claims. -/
theorem AggregateKept.neverPays (h : AggregateKept floats policy) : NeverPays policy := by
  have hnotOverdrawn : 0 ≤ policy.remaining := by simpa using h [] (by simp)
  refine ⟨hnotOverdrawn, ?_⟩
  by_contra hopen
  simp only [not_or, not_le, not_lt] at hopen
  obtain ⟨hactive, hhold, hperiod, hunspent, hdeductible, hauthority⟩ := hopen
  have hleft : 0 < (policy.aggregateLimit.minus policy.aggregateUsed).value :=
    Decimal.minus_pos_iff.mpr (sub_pos.mp (lt_of_le_of_ne hnotOverdrawn (Ne.symm hunspent)))
  -- a unit that is within every limit
  obtain ⟨k, hscale, hlimit, hremaining, hauthorized⟩ : ∃ k : Nat,
      -(k : Int) ≤ policy.deductible.exp ∧
      policy.deductible.value + 10 ^ (-(k : Int)) ≤ policy.perOccurrenceLimit.value ∧
      (10 : ℚ) ^ (-(k : Int)) ≤ (policy.aggregateLimit.minus policy.aggregateUsed).value ∧
      (10 : ℚ) ^ (-(k : Int)) ≤ policy.autoApproveLimit.value := by
    obtain ⟨k₁, h₁⟩ := exists_unit_le (sub_pos.mpr hdeductible)
    obtain ⟨k₂, h₂⟩ := exists_unit_le hleft
    obtain ⟨k₃, h₃⟩ := exists_unit_le hauthority
    refine ⟨k₁ + k₂ + k₃ + policy.deductible.exp.natAbs, by omega, ?_, ?_, ?_⟩
    · have hunit := h₁ (k₁ + k₂ + k₃ + policy.deductible.exp.natAbs) (by omega)
      linarith
    · exact h₂ _ (by omega)
    · exact h₃ _ (by omega)
  have hunit : (0 : ℚ) < 10 ^ (-(k : Int)) := by positivity
  obtain ⟨n, hn⟩ := exists_nat_gt (policy.remaining / 10 ^ (-(k : Int)))
  have happroved : ∀ call ∈ (List.range n).map (smallCall policy k),
      approvedNet floats policy call = 10 ^ (-(k : Int)) := by
    intro call hcall
    obtain ⟨i, -, rfl⟩ := List.mem_map.mp hcall
    exact smallCall_approved (by simpa using hactive) (by simpa using hhold) hperiod hscale hlimit
      hremaining hauthorized i
  have hdistinct : (((List.range n).map (smallCall policy k)).map fun call =>
      call.request.claimId).Nodup := by
    rw [List.map_map]
    refine List.nodup_range.map fun i j hij => ?_
    have hlists := String.ofList_inj.mp hij
    simpa using congrArg List.length hlists
  have hsum := h _ hdistinct
  rw [List.map_congr_left happroved, List.map_const', List.sum_replicate, List.length_map,
    List.length_range, nsmul_eq_mul] at hsum
  rw [div_lt_iff₀ hunit] at hn
  exact absurd hsum (not_le.mpr hn)

/-- A policy keeps its aggregate limit over all claims exactly when it never pays. -/
theorem aggregateKept_iff (floats : FloatArithmetic) (policy : PolicyContext) :
    AggregateKept floats policy ↔ NeverPays policy := by
  refine ⟨AggregateKept.neverPays, fun hnever calls _ => ?_⟩
  have hnothing : (calls.map (approvedNet floats policy)).sum = 0 := by
    refine List.sum_eq_zero fun x hx => ?_
    obtain ⟨call, -, rfl⟩ := List.mem_map.mp hx
    exact approvedNet_of_neverPays hnever call
  rw [hnothing]
  exact hnever.notOverdrawn

end Rules

/-! ## Eight claims under one policy -/

/-- The policy of a request that does not name one; a day is its proleptic Gregorian ordinal. -/
def autoPolicy : PolicyContext :=
  ⟨"POL-AUTO-001", ⟨100000000, -2⟩, ⟨200000000, -2⟩, ⟨25000000, -2⟩, ⟨50000, -2⟩, ⟨25000000, -2⟩,
    738886, 739981, true, false⟩

/-- `DEFAULT_POLICIES`. -/
def defaultPolicies : List PolicyContext :=
  [autoPolicy,
    ⟨"POL-PROP-001", ⟨500000000, -2⟩, ⟨1000000000, -2⟩, ⟨0, 0⟩, ⟨250000, -2⟩, ⟨50000000, -2⟩,
      738886, 739981, true, false⟩,
    ⟨"POL-MOTOR-UK-001", ⟨50000000, -2⟩, ⟨150000000, -2⟩, ⟨10000000, -2⟩, ⟨25000, -2⟩,
      ⟨10000000, -2⟩, 738886, 739981, true, false⟩]

/-- `_resolve_policy`, or `none` for the 404. -/
def resolvePolicy (policies : List PolicyContext) (policyNumber : String) : Option PolicyContext :=
  policies.find? fun policy => policy.policyNumber = policyNumber

example : resolvePolicy defaultPolicies "POL-AUTO-001" = some autoPolicy := by decide

/-- The arithmetic on the score of a claim without signals. -/
def plainFloats : FloatArithmetic := ⟨fun _ => zeroScore, id, fun _ => fullScore⟩

/-- A claim of 250500.00 on 2025-06-01. -/
def largeCall (claimId : String) : PayoutCall where
  request := {
    claimId := claimId
    payoutAmount := some (.finite ⟨25050000, -2⟩)
    currency := "USD"
    policyNumber := "POL-AUTO-001"
    lossDate := .date 739403
    siuFlag := false
    fraudSignals := []
    accountId := "carrier-default"
    policyId := "claim-high-us"
    payeeId := "payee-default"
    idempotencyKey := none }
  today := 739403
  siuId := "000000000001"

def eightCalls : List PayoutCall :=
  ["CLM-1", "CLM-2", "CLM-3", "CLM-4", "CLM-5", "CLM-6", "CLM-7", "CLM-8"].map largeCall

/-- Eight approvals of 250000.00 exceed the 1750000.00 that are left. -/
theorem eight_approvals_exceed_limit :
    (eightCalls.map fun call => call.request.claimId).Nodup ∧
    (eightCalls.map (approvedNet plainFloats autoPolicy)).sum = 2000000 ∧
    autoPolicy.remaining = 1750000 ∧ ¬ AggregateKept plainFloats autoPolicy := by
  have happroved : ∀ call ∈ eightCalls, approvedNet plainFloats autoPolicy call = 250000 := by
    have hall : ∀ call ∈ eightCalls, (call.evaluate plainFloats autoPolicy).map (fun e =>
        (e.decision, e.netPayable)) = some ("APPROVED", ⟨25000000, -2⟩) := by
      decide +kernel
    intro call hcall
    obtain ⟨e, he, hpair⟩ := Option.map_eq_some_iff.mp (hall call hcall)
    obtain ⟨hdecision, hnet⟩ := Prod.mk.inj hpair
    rw [approvedNet, he]
    simp only [hdecision, ite_true, hnet, Decimal.value]
    norm_num
  have hsum : (eightCalls.map (approvedNet plainFloats autoPolicy)).sum = 2000000 := by
    rw [List.map_congr_left happroved, List.map_const', List.sum_replicate]
    norm_num [eightCalls]
  have hremaining : autoPolicy.remaining = 1750000 := by
    norm_num [PolicyContext.remaining, autoPolicy, Decimal.value]
  refine ⟨by decide, hsum, hremaining, fun hkept => ?_⟩
  have hle := hkept eightCalls (by decide)
  rw [hsum, hremaining] at hle
  norm_num at hle

end Governor.Sector
