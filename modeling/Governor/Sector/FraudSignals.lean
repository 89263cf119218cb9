import Mathlib
import Governor.Sector.PolicyRules

/-!
# More fraud signals

A claim's fraud signals are weighed by the referral to the special investigation unit and counted
by the policy rules. With exact scores, further signals never help a claim and their order does
not matter. Without a policy `evaluate_payout` falls back to two limits; there a negative payout
is approved as it is.
-/

namespace Governor.Ledger.PyDecimal

/-- `x > y`. -/
def gt : PyDecimal → PyDecimal → Bool
  | finite x, finite y => y.lt x
  | finite _, infinity negative => negative
  | infinity negative, finite _ => !negative
  | infinity negative, infinity negative' => !negative && negative'
  | nan, _ | _, nan => false

end Governor.Ledger.PyDecimal

namespace Governor.Sector

open Ledger (Decimal PyDecimal)

/-! ## Evaluating with a policy or with limits -/

/-- What `evaluate_payout` checks a payout against. -/
inductive PayoutLimits where
  | policy (policy : PolicyContext)
  /-- `policy_limit` and `auto_approve_limit` in place of a policy. -/
  | legacy (policyLimit autoApproveLimit : Option Decimal)

/-- `limit or default`. -/
def limitOr (limit : Option Decimal) (default : Decimal) : Decimal :=
  match limit with
  | some x => if x.coeff = 0 then default else x
  | none => default

/-- `PayoutEvaluation`, with a net payable that may be no finite amount. -/
structure PayoutOutcome where
  approved : Bool
  decision : String
  reason : Option String
  score : PyFloat
  netPayable : PyDecimal
  policyTrace : Option PolicyEvaluationTrace
  siuReferral : SiuReferral

def PayoutEvaluation.outcome (e : PayoutEvaluation) : PayoutOutcome :=
  ⟨e.approved, e.decision, e.reason, e.score, .finite e.netPayable, e.policyTrace, e.siuReferral⟩

/-- The part of `evaluate_payout` without a policy, or `none` where it raises. -/
def evaluateLegacy (payoutAmount : PyDecimal) (policyLimit autoApproveLimit : Option Decimal)
    (siu : SiuReferral) : Option PayoutOutcome := do
  let overLimit ← payoutAmount.exceeds (limitOr policyLimit ⟨500000000, -2⟩)
  if overLimit then
    pure ⟨false, "HELD", some "exceeds_policy_limit", Finance.zeroScore, .finite noPayment, none,
      siu⟩
  else
    let overAuto ← payoutAmount.exceeds (limitOr autoApproveLimit ⟨25000000, -2⟩)
    if overAuto then
      pure ⟨false, "HELD", some "above_auto_approve_threshold",
        ⟨"0.5".toList, Eq.refl true⟩, payoutAmount, none, siu⟩
    else pure ⟨true, "APPROVED", none, fullScore, payoutAmount, none, siu⟩

/-- `evaluate_payout`, or `none` where it raises. -/
def evaluatePayoutWith (floats : FloatArithmetic) (siuId claimId : String)
    (payoutAmount : PyDecimal) (limits : PayoutLimits) (lossDate : Int) (siuFlag : Bool)
    (fraudSignals : List String) : Option PayoutOutcome :=
  match limits with
  | .policy policy =>
    (evaluatePayout floats siuId claimId payoutAmount policy lossDate siuFlag fraudSignals).map
      PayoutEvaluation.outcome
  | .legacy policyLimit autoApproveLimit =>
    let siu := evaluateSiu floats siuId claimId fraudSignals siuFlag
    match siu.state with
    | .referred =>
      some ⟨false, "REFERRED", some "siu_referred", siu.fraudScore, .finite noPayment, none, siu⟩
    | .blocked =>
      some ⟨false, "DECLINED", some "siu_blocked", siu.fraudScore, .finite noPayment, none, siu⟩
    | .cleared => evaluateLegacy payoutAmount policyLimit autoApproveLimit siu

/-! ## Exact scores -/

/-- The weight of a signal. -/
def fraudWeight (signal : String) : ℚ :=
  ((floatValue (fraudSignalWeight signal)).getD noPayment).value

/-- The scores are computed without rounding. -/
structure FloatArithmetic.Exact (floats : FloatArithmetic) : Prop where
  sum : ∀ signals : List String, ∃ x,
    floatValue (floats.sum (signals.map fraudSignalWeight)) = some x ∧
      x.value = (signals.map fraudWeight).sum
  signalScore : ∀ n, ∃ x, floatValue (floats.signalScore n) = some x ∧
    x.value = 1 - 3 / 20 * (n : ℚ)

/-- The state of a referral, from the exact sum of the weights. -/
def siuStateOf (siuFlag : Bool) (signals : List String) : SiuState :=
  if siuFlag then if signals = [] then .referred else .blocked
  else if 7 / 10 ≤ (signals.map fraudWeight).sum then .blocked
  else if 7 / 20 ≤ (signals.map fraudWeight).sum then .referred
  else .cleared

section Exact

variable {floats : FloatArithmetic} {signals signals' : List String} {siuFlag siuFlag' : Bool}

theorem fraudWeight_eq {signal : String} {coeff exp : Int}
    (h : floatValue (fraudSignalWeight signal) = some ⟨coeff, exp⟩) :
    fraudWeight signal = coeff * (10 : ℚ) ^ exp := by
  rw [fraudWeight, h]
  rfl

theorem fraudWeight_siuReferral : fraudWeight "siu_referral" = 1 := by
  have hvalue : floatValue (fraudSignalWeight "siu_referral") = some ⟨10, -1⟩ := by decide +kernel
  rw [fraudWeight_eq hvalue]
  norm_num

theorem one_tenth_le_fraudWeight (signal : String) : 1 / 10 ≤ fraudWeight signal := by
  have hle : ∀ coeff exp : Int, floatValue (fraudSignalWeight signal) = some ⟨coeff, exp⟩ →
      (1 : ℚ) / 10 ≤ coeff * (10 : ℚ) ^ exp → 1 / 10 ≤ fraudWeight signal := by
    intro coeff exp hvalue hbound
    rwa [fraudWeight_eq hvalue]
  unfold fraudSignalWeight at hle
  split at hle
  · exact hle 35 (-2) (by decide +kernel) (by norm_num)
  · exact hle 25 (-2) (by decide +kernel) (by norm_num)
  · exact hle 4 (-1) (by decide +kernel) (by norm_num)
  · exact hle 3 (-1) (by decide +kernel) (by norm_num)
  · exact hle 2 (-1) (by decide +kernel) (by norm_num)
  · exact hle 10 (-1) (by decide +kernel) (by norm_num)
  · exact hle 5 (-1) (by decide +kernel) (by norm_num)
  · exact hle 15 (-2) (by decide +kernel) (by norm_num)
  · exact hle 1 (-1) (by decide +kernel) (by norm_num)

theorem fraudWeight_nonneg (signal : String) : 0 ≤ fraudWeight signal :=
  le_trans (by norm_num) (one_tenth_le_fraudWeight signal)

/-- Further signals weigh more. -/
theorem weights_mono (h : signals.Sublist signals') :
    (signals.map fraudWeight).sum ≤ (signals'.map fraudWeight).sum := by
  refine (h.map fraudWeight).sum_le_sum ?_
  intro x hx
  obtain ⟨signal, -, rfl⟩ := List.mem_map.mp hx
  exact fraudWeight_nonneg signal

/-- A signal weighs at most what all of them do. -/
theorem fraudWeight_le_sum {signal : String} (h : signal ∈ signals) :
    fraudWeight signal ≤ (signals.map fraudWeight).sum := by
  simpa using weights_mono (List.singleton_sublist.mpr h)

theorem floatLt_iff {x y : PyFloat} {a b : Decimal} (hx : floatValue x = some a)
    (hy : floatValue y = some b) : floatLt x y = true ↔ a.value < b.value := by
  simp only [floatLt, hx, hy, Decimal.lt_iff]

/-- The clamped score is below a threshold of at most one exactly when the sum is. -/
theorem floatLt_scoreFraudSignals (h : floats.Exact) {threshold : PyFloat} {t : Decimal}
    (ht : floatValue threshold = some t) (hone : t.value ≤ 1) :
    floatLt (scoreFraudSignals floats signals) threshold = true ↔
      (signals.map fraudWeight).sum < t.value := by
  have hfull : floatValue fullScore = some ⟨10, -1⟩ := by decide +kernel
  have hfullValue : Decimal.value ⟨10, -1⟩ = 1 := by norm_num [Decimal.value]
  obtain ⟨x, hx, hsum⟩ := h.sum signals
  unfold scoreFraudSignals
  simp only
  split_ifs with hempty hbelow
  · rw [floatLt_iff (a := ⟨0, -1⟩) (by decide +kernel) ht, hempty]
    simp [Decimal.value]
  · rw [floatLt_iff hx ht, hsum]
  · rw [floatLt_iff hx hfull, hfullValue, not_lt] at hbelow
    rw [floatLt_iff hfull ht, hfullValue]
    constructor
    · intro hlt
      exact absurd hone (not_le.mpr hlt)
    · intro hlt
      linarith

/-- The referral of a claim, from the exact sum. -/
theorem evaluateSiu_state (h : floats.Exact) (signals : List String) (siuFlag : Bool)
    (siuId claimId : String) :
    (evaluateSiu floats siuId claimId signals siuFlag).state = siuStateOf siuFlag signals := by
  have hblock : ∀ l : List String, floatLt (scoreFraudSignals floats l) blockThreshold = true ↔
      (l.map fraudWeight).sum < 7 / 10 := by
    intro l
    rw [floatLt_scoreFraudSignals h (t := ⟨7, -1⟩) (by decide +kernel)] <;>
      norm_num [Decimal.value]
  have hrefer : ∀ l : List String, floatLt (scoreFraudSignals floats l) referThreshold = true ↔
      (l.map fraudWeight).sum < 7 / 20 := by
    intro l
    rw [floatLt_scoreFraudSignals h (t := ⟨35, -2⟩) (by decide +kernel)] <;>
      norm_num [Decimal.value]
  unfold evaluateSiu siuStateOf
  cases siuFlag with
  | false =>
    simp only [Bool.false_and, Bool.false_eq_true, ite_false, Bool.not_eq_true', ← not_lt,
      ← hblock, ← hrefer, Bool.not_eq_true]
  | true =>
    by_cases hempty : signals = []
    · simp [hempty]
    · -- the flag adds a signal that weighs as much as the clamp admits
      have hsiu : ∀ l : List String, "siu_referral" ∈ l →
          floatLt (scoreFraudSignals floats l) blockThreshold = false := by
        intro l hl
        have hle := fraudWeight_le_sum hl
        rw [fraudWeight_siuReferral] at hle
        rw [← Bool.not_eq_true, hblock]
        linarith
      have hmem : "siu_referral" ∈ if (true && !signals.contains "siu_referral") = true then
          signals ++ ["siu_referral"] else signals := by
        split_ifs with hmissing
        · simp
        · simpa using hmissing
      have hscore := hsiu _ hmem
      have hmanual : (true && signals.isEmpty) = false := by simpa using hempty
      simp only [hmanual, Bool.false_eq_true, ite_false, ite_true, hscore, Bool.not_false,
        if_neg hempty]

theorem siuStateOf_cleared :
    siuStateOf siuFlag signals = .cleared ↔
      siuFlag = false ∧ (signals.map fraudWeight).sum < 7 / 20 := by
  unfold siuStateOf
  split_ifs with hflag hempty hblocked hreferred
  · simp [hflag]
  · simp [hflag]
  · refine iff_of_false (by simp) ?_
    rintro ⟨-, hlt⟩
    linarith
  · refine iff_of_false (by simp) ?_
    rintro ⟨-, hlt⟩
    linarith
  · exact iff_of_true rfl ⟨by simpa using hflag, not_le.mp hreferred⟩

/-- A claim that is cleared with further signals, or with the flag, is cleared without. -/
theorem siuStateOf_mono (h : signals.Sublist signals') (hflag : siuFlag = true → siuFlag' = true)
    (hcleared : siuStateOf siuFlag' signals' = .cleared) :
    siuStateOf siuFlag signals = .cleared := by
  obtain ⟨hflag', hsum⟩ := siuStateOf_cleared.mp hcleared
  refine siuStateOf_cleared.mpr ⟨?_, (weights_mono h).trans_lt hsum⟩
  cases siuFlag with
  | false => rfl
  | true => exact absurd (hflag rfl) (by simp [hflag'])

theorem siuStateOf_perm (siuFlag : Bool) (h : signals.Perm signals') :
    siuStateOf siuFlag signals = siuStateOf siuFlag signals' := by
  have hempty : signals = [] ↔ signals' = [] := by
    rw [← List.length_eq_zero_iff, h.length_eq, List.length_eq_zero_iff]
  simp only [siuStateOf, hempty, (h.map fraudWeight).sum_eq]

/-- A cleared claim has no referral among its signals. -/
theorem not_contains_of_cleared (h : siuStateOf siuFlag signals = .cleared) :
    (siuFlag || signals.contains "siu_referral") = false := by
  obtain ⟨hflag, hsum⟩ := siuStateOf_cleared.mp h
  have hnot : "siu_referral" ∉ signals := by
    intro hmem
    have hle := fraudWeight_le_sum hmem
    rw [fraudWeight_siuReferral] at hle
    linarith
  simpa [hflag] using hnot

/-! ## The rules with exact scores -/

/-- The rules refer a claim with more than two signals. -/
theorem penalizedScore_lt_iff (h : floats.Exact) (n : Nat) :
    floatLt (floats.penalizedScore n) ⟨"0.6".toList, Eq.refl true⟩ = true ↔ 2 < n := by
  obtain ⟨x, hx, hscore⟩ := h.signalScore n
  have hlowest : floatValue ⟨"0.3".toList, Eq.refl true⟩ = some ⟨3, -1⟩ := by decide +kernel
  have hbound : floatValue ⟨"0.6".toList, Eq.refl true⟩ = some ⟨6, -1⟩ := by decide +kernel
  have hthree : Decimal.value ⟨3, -1⟩ = 3 / 10 := by norm_num [Decimal.value]
  have hsix : Decimal.value ⟨6, -1⟩ = 6 / 10 := by norm_num [Decimal.value]
  have hn : (1 : ℚ) - 3 / 20 * n < 6 / 10 ↔ 2 < n := by
    constructor
    · intro hlt
      by_contra hle
      have hcast : (n : ℚ) ≤ 2 := by exact_mod_cast not_lt.mp hle
      linarith
    · intro hlt
      have hcast : (3 : ℚ) ≤ n := by exact_mod_cast hlt
      linarith
  unfold FloatArithmetic.penalizedScore
  simp only
  split_ifs with hlow
  · rw [floatLt_iff hx hbound, hscore, hsix, hn]
  · rw [floatLt_iff hlowest hx, hscore, hthree, not_lt] at hlow
    rw [floatLt_iff hlowest hbound, hthree, hsix, ← hn]
    exact iff_of_true (by norm_num) (by linarith)

/-- What the rules decide on what is left after the deductible. -/
theorem evaluateNet_eq (h : floats.Exact) (policy : PolicyContext) (remaining net : Decimal)
    (signals : List String) :
    ((evaluateNet floats policy remaining net signals).decision,
        (evaluateNet floats policy remaining net signals).netPayable) =
      if remaining.lt net then ("HELD", noPayment)
      else if policy.autoApproveLimit.lt net then ("HELD", net)
      else if 2 < signals.length then ("REFERRED", noPayment)
      else ("APPROVED", net) := by
  unfold evaluateNet
  simp only [penalizedScore_lt_iff h]
  split_ifs with _ _ hempty hlong
  · rfl
  · rfl
  · simp [hempty] at hlong
  · rfl
  · rfl
  · rfl

/-- More signals approve no more and leave no more to pay. -/
theorem evaluateNet_mono (h : floats.Exact) (policy : PolicyContext) (remaining : Decimal)
    {net : Decimal} (hnet : 0 ≤ net.value) (hlength : signals.length ≤ signals'.length) :
    ((evaluateNet floats policy remaining net signals').decision = "APPROVED" →
        (evaluateNet floats policy remaining net signals).decision = "APPROVED") ∧
      (evaluateNet floats policy remaining net signals').netPayable.value ≤
        (evaluateNet floats policy remaining net signals).netPayable.value := by
  obtain ⟨hdecision, hpayable⟩ := Prod.ext_iff.mp (evaluateNet_eq h policy remaining net signals)
  obtain ⟨hdecision', hpayable'⟩ :=
    Prod.ext_iff.mp (evaluateNet_eq h policy remaining net signals')
  simp only at hdecision hpayable hdecision' hpayable'
  rw [hdecision, hpayable, hdecision', hpayable']
  split_ifs with _ _ hlong' hlong
  · simp
  · simp
  · simp
  · simp [value_noPayment, hnet]
  · omega
  · simp

/-- The same for the rules as a whole, on a claim that is cleared. -/
theorem evaluatePolicyRules_mono (h : floats.Exact) {policy : PolicyContext}
    {amount : PyDecimal} {lossDate : Int} (hcleared : siuStateOf siuFlag signals = .cleared)
    (hcleared' : siuStateOf siuFlag' signals' = .cleared)
    (hlength : signals.length ≤ signals'.length) {trace' : PolicyEvaluationTrace}
    (htrace' : evaluatePolicyRules floats policy amount lossDate siuFlag' signals' =
      some trace') :
    ∃ trace, evaluatePolicyRules floats policy amount lossDate siuFlag signals = some trace ∧
      (trace'.decision = "APPROVED" → trace.decision = "APPROVED") ∧
      trace'.netPayable.value ≤ trace.netPayable.value := by
  unfold evaluatePolicyRules at htrace' ⊢
  simp only [not_contains_of_cleared hcleared, not_contains_of_cleared hcleared',
    Bool.false_eq_true, ite_false] at htrace' ⊢
  split_ifs at htrace' ⊢
  · exact ⟨_, htrace', id, le_refl _⟩
  · exact ⟨_, htrace', id, le_refl _⟩
  · exact ⟨_, htrace', id, le_refl _⟩
  · exact ⟨_, htrace', id, le_refl _⟩
  · obtain ⟨overLimit, hlimit, rfl⟩ := Option.map_eq_some_iff.mp htrace'
    rw [hlimit]
    cases overLimit with
    | true => exact ⟨_, rfl, id, le_refl _⟩
    | false => exact ⟨_, rfl, evaluateNet_mono h policy _ (excess_nonneg _) hlength⟩

/-- The rules never leave less than nothing to pay. -/
theorem evaluatePolicyRules_netPayable_nonneg (h : floats.Exact) {policy : PolicyContext}
    {amount : PyDecimal} {lossDate : Int} {trace : PolicyEvaluationTrace}
    (htrace : evaluatePolicyRules floats policy amount lossDate siuFlag signals = some trace) :
    0 ≤ trace.netPayable.value := by
  have hrefused : ∀ decision reason score rules,
      some (refusedTrace decision reason score noPayment rules) = some trace →
      0 ≤ trace.netPayable.value := by
    intro decision reason score rules heq
    rw [← Option.some.inj heq]
    exact value_noPayment.ge
  unfold evaluatePolicyRules at htrace
  simp only at htrace
  split_ifs at htrace
  · exact hrefused _ _ _ _ htrace
  · exact hrefused _ _ _ _ htrace
  · exact hrefused _ _ _ _ htrace
  · exact hrefused _ _ _ _ htrace
  · exact hrefused _ _ _ _ htrace
  · obtain ⟨overLimit, -, rfl⟩ := Option.map_eq_some_iff.mp htrace
    cases overLimit with
    | true => exact value_noPayment.ge
    | false =>
      have hpayable := congrArg Prod.snd (evaluateNet_eq h policy
        (policy.aggregateLimit.minus policy.aggregateUsed) (amount.excess policy.deductible)
        signals)
      simp only at hpayable
      simp only [Bool.false_eq_true, ite_false, hpayable]
      split_ifs
      · exact value_noPayment.ge
      · exact excess_nonneg _
      · exact value_noPayment.ge
      · exact excess_nonneg _

theorem evaluatePolicyRules_perm (policy : PolicyContext) (amount : PyDecimal) (lossDate : Int)
    (h : signals.Perm signals') :
    evaluatePolicyRules floats policy amount lossDate siuFlag signals =
      evaluatePolicyRules floats policy amount lossDate siuFlag signals' := by
  have hempty : signals = [] ↔ signals' = [] := by
    rw [← List.length_eq_zero_iff, h.length_eq, List.length_eq_zero_iff]
  have hcontains : signals.contains "siu_referral" = signals'.contains "siu_referral" := by
    rw [Bool.eq_iff_iff, List.contains_iff_mem, List.contains_iff_mem, h.mem_iff]
  simp only [evaluatePolicyRules, evaluateNet, hempty, hcontains, h.length_eq]

end Exact

/-! ## Evaluations with further signals -/

section Evaluations

variable {floats : FloatArithmetic} {signals signals' : List String} {siuFlag siuFlag' : Bool}
  {limits : PayoutLimits} {amount : PyDecimal} {lossDate : Int} {siuId siuId' claimId : String}

/-- A claim that is not cleared is not approved and paid nothing. -/
theorem evaluatePayoutWith_of_not_cleared (h : floats.Exact) (siuId claimId : String)
    (amount : PyDecimal) (limits : PayoutLimits) (lossDate : Int)
    (hstate : siuStateOf siuFlag signals ≠ .cleared) :
    ∃ e, evaluatePayoutWith floats siuId claimId amount limits lossDate siuFlag signals = some e ∧
      e.decision = (if siuStateOf siuFlag signals = .referred then "REFERRED" else "DECLINED") ∧
      e.netPayable = .finite noPayment := by
  have hsiu := evaluateSiu_state h signals siuFlag siuId claimId
  cases hs : siuStateOf siuFlag signals with
  | cleared => exact absurd hs hstate
  | referred =>
    rw [hs] at hsiu
    cases limits with
    | policy policy =>
      simp only [evaluatePayoutWith, evaluatePayout, hsiu]
      exact ⟨_, rfl, rfl, rfl⟩
    | legacy policyLimit autoApproveLimit =>
      simp only [evaluatePayoutWith, hsiu]
      exact ⟨_, rfl, rfl, rfl⟩
  | blocked =>
    rw [hs] at hsiu
    cases limits with
    | policy policy =>
      simp only [evaluatePayoutWith, evaluatePayout, hsiu]
      exact ⟨_, rfl, rfl, rfl⟩
    | legacy policyLimit autoApproveLimit =>
      simp only [evaluatePayoutWith, hsiu]
      exact ⟨_, rfl, rfl, rfl⟩

/-- A cleared claim is evaluated by the rules of its policy or by the limits. -/
theorem evaluatePayoutWith_of_cleared (h : floats.Exact)
    (hcleared : siuStateOf siuFlag signals = .cleared) :
    evaluatePayoutWith floats siuId claimId amount limits lossDate siuFlag signals =
      match limits with
      | .policy policy =>
        (evaluatePolicyRules floats policy amount lossDate siuFlag signals).map fun trace =>
          ⟨trace.passed, trace.decision, trace.reason, trace.score, .finite trace.netPayable,
            some trace, evaluateSiu floats siuId claimId signals siuFlag⟩
      | .legacy policyLimit autoApproveLimit =>
        evaluateLegacy amount policyLimit autoApproveLimit
          (evaluateSiu floats siuId claimId signals siuFlag) := by
  have hsiu := evaluateSiu_state h signals siuFlag siuId claimId
  rw [hcleared] at hsiu
  cases limits with
  | policy policy =>
    simp only [evaluatePayoutWith, evaluatePayout, hsiu, Option.map_map]
    rfl
  | legacy policyLimit autoApproveLimit => simp only [evaluatePayoutWith, hsiu]

/-- The limits do not look at the referral. -/
theorem evaluateLegacy_congr (amount : PyDecimal) (policyLimit autoApproveLimit : Option Decimal)
    (siu siu' : SiuReferral) :
    (evaluateLegacy amount policyLimit autoApproveLimit siu).map
        (fun e => (e.decision, e.netPayable)) =
      (evaluateLegacy amount policyLimit autoApproveLimit siu').map
        fun e => (e.decision, e.netPayable) := by
  unfold evaluateLegacy
  cases amount.exceeds (limitOr policyLimit ⟨500000000, -2⟩) with
  | none => rfl
  | some overLimit =>
    cases overLimit with
    | true => rfl
    | false =>
      cases amount.exceeds (limitOr autoApproveLimit ⟨25000000, -2⟩) with
      | none => rfl
      | some overAuto => cases overAuto <;> rfl

/-- The limits leave the amount or nothing. -/
theorem evaluateLegacy_netPayable {policyLimit autoApproveLimit : Option Decimal}
    {siu : SiuReferral} {e : PayoutOutcome}
    (he : evaluateLegacy amount policyLimit autoApproveLimit siu = some e) :
    e.netPayable = .finite noPayment ∨ e.netPayable = amount := by
  obtain ⟨overLimit, -, he⟩ := Option.bind_eq_some_iff.mp he
  split_ifs at he
  · obtain rfl := Option.some.inj he
    exact Or.inl rfl
  · obtain ⟨overAuto, -, he⟩ := Option.bind_eq_some_iff.mp he
    split_ifs at he
    · obtain rfl := Option.some.inj he
      exact Or.inr rfl
    · obtain rfl := Option.some.inj he
      exact Or.inr rfl

/-- Nothing is not more than nothing. -/
theorem gt_noPayment {net : Decimal} (h : 0 ≤ net.value) :
    (PyDecimal.finite noPayment).gt (.finite net) = false := by
  rw [PyDecimal.gt, lt_false_iff, value_noPayment]
  exact h

/-- Whether an evaluation approves. -/
def Approves (e : Option PayoutOutcome) : Prop := ∃ e', e = some e' ∧ e'.decision = "APPROVED"

/-- Further signals and the flag turn no evaluation into an approval. -/
theorem approves_of_more (h : floats.Exact) (hsignals : signals.Sublist signals')
    (hflag : siuFlag = true → siuFlag' = true)
    (happroves : Approves
      (evaluatePayoutWith floats siuId' claimId amount limits lossDate siuFlag' signals')) :
    Approves (evaluatePayoutWith floats siuId claimId amount limits lossDate siuFlag signals) := by
  obtain ⟨e', he', happroved⟩ := happroves
  by_cases hcleared' : siuStateOf siuFlag' signals' = .cleared
  · have hcleared := siuStateOf_mono hsignals hflag hcleared'
    rw [evaluatePayoutWith_of_cleared h hcleared'] at he'
    rw [evaluatePayoutWith_of_cleared h hcleared]
    cases limits with
    | policy policy =>
      obtain ⟨trace', htrace', rfl⟩ := Option.map_eq_some_iff.mp he'
      obtain ⟨trace, htrace, hdecision, -⟩ :=
        evaluatePolicyRules_mono h hcleared hcleared' hsignals.length_le htrace'
      refine ⟨⟨trace.passed, trace.decision, trace.reason, trace.score, .finite trace.netPayable,
        some trace, evaluateSiu floats siuId claimId signals siuFlag⟩, ?_, hdecision happroved⟩
      simp only [htrace, Option.map_some]
    | legacy policyLimit autoApproveLimit =>
      have hsame := evaluateLegacy_congr amount policyLimit autoApproveLimit
        (evaluateSiu floats siuId claimId signals siuFlag)
        (evaluateSiu floats siuId' claimId signals' siuFlag')
      simp only at he' ⊢
      rw [he', Option.map_some] at hsame
      obtain ⟨e, he, heq⟩ := Option.map_eq_some_iff.mp hsame
      exact ⟨e, he, (Prod.mk.inj heq).1.trans happroved⟩
  · obtain ⟨e, he, hdecision, -⟩ := evaluatePayoutWith_of_not_cleared h siuId' claimId
      amount limits lossDate hcleared'
    rw [he'] at he
    obtain rfl := Option.some.inj he
    rw [hdecision] at happroved
    split_ifs at happroved <;> exact absurd happroved (by decide)

/-- Nor do they leave more to pay, unless a negative amount comes under the limits. -/
theorem netPayable_of_more (h : floats.Exact) (hsignals : signals.Sublist signals')
    (hflag : siuFlag = true → siuFlag' = true) {e e' : PayoutOutcome}
    (he : evaluatePayoutWith floats siuId claimId amount limits lossDate siuFlag signals = some e)
    (he' : evaluatePayoutWith floats siuId' claimId amount limits lossDate siuFlag' signals' =
      some e')
    (hmore : e'.netPayable.gt e.netPayable = true) :
    (∃ policyLimit autoApproveLimit, limits = .legacy policyLimit autoApproveLimit) ∧
      (PyDecimal.finite noPayment).gt amount = true := by
  have hself : ∀ x : PyDecimal, x.gt x = false := by
    intro x
    cases x with
    | finite x => exact lt_false_iff.mpr (le_refl _)
    | infinity negative => cases negative <;> rfl
    | nan => rfl
  by_cases hcleared : siuStateOf siuFlag signals = .cleared
  · rw [evaluatePayoutWith_of_cleared h hcleared] at he
    by_cases hcleared' : siuStateOf siuFlag' signals' = .cleared
    · rw [evaluatePayoutWith_of_cleared h hcleared'] at he'
      cases limits with
      | policy policy =>
        obtain ⟨trace', htrace', rfl⟩ := Option.map_eq_some_iff.mp he'
        obtain ⟨trace, htrace, -, hpayable⟩ :=
          evaluatePolicyRules_mono h hcleared hcleared' hsignals.length_le htrace'
        simp only [htrace, Option.map_some, Option.some.injEq] at he
        obtain rfl := he
        rw [PyDecimal.gt, Decimal.lt_iff] at hmore
        exact absurd hpayable (not_le.mpr hmore)
      | legacy policyLimit autoApproveLimit =>
        have hsame := evaluateLegacy_congr amount policyLimit autoApproveLimit
          (evaluateSiu floats siuId claimId signals siuFlag)
          (evaluateSiu floats siuId' claimId signals' siuFlag')
        simp only at he he'
        rw [he, he', Option.map_some, Option.map_some, Option.some.injEq] at hsame
        rw [(Prod.mk.inj hsame).2, hself] at hmore
        cases hmore
    · -- with more signals the claim is paid nothing
      obtain ⟨e₀, he₀, -, hnothing⟩ := evaluatePayoutWith_of_not_cleared h siuId' claimId amount
        limits lossDate hcleared'
      obtain rfl := Option.some.inj (he'.symm.trans he₀)
      rw [hnothing] at hmore
      cases limits with
      | policy policy =>
        obtain ⟨trace, htrace, rfl⟩ := Option.map_eq_some_iff.mp he
        rw [gt_noPayment (evaluatePolicyRules_netPayable_nonneg h htrace)] at hmore
        cases hmore
      | legacy policyLimit autoApproveLimit =>
        rcases evaluateLegacy_netPayable he with hpayable | hpayable
        · rw [hpayable, hself] at hmore
          cases hmore
        · exact ⟨⟨policyLimit, autoApproveLimit, rfl⟩, hpayable ▸ hmore⟩
  · have hcleared' : siuStateOf siuFlag' signals' ≠ .cleared :=
      fun hs => hcleared (siuStateOf_mono hsignals hflag hs)
    obtain ⟨e₀, he₀, -, hnothing⟩ := evaluatePayoutWith_of_not_cleared h siuId claimId amount
      limits lossDate hcleared
    obtain ⟨e₁, he₁, -, hnothing'⟩ := evaluatePayoutWith_of_not_cleared h siuId' claimId amount
      limits lossDate hcleared'
    obtain rfl := Option.some.inj (he.symm.trans he₀)
    obtain rfl := Option.some.inj (he'.symm.trans he₁)
    rw [hnothing, hnothing', hself] at hmore
    cases hmore

/-- The order of the signals does not matter. -/
theorem evaluatePayoutWith_perm (h : floats.Exact) (hsignals : signals.Perm signals') :
    (evaluatePayoutWith floats siuId claimId amount limits lossDate siuFlag signals).map
        (fun e => (e.decision, e.netPayable)) =
      (evaluatePayoutWith floats siuId' claimId amount limits lossDate siuFlag signals').map
        fun e => (e.decision, e.netPayable) := by
  have hstate := siuStateOf_perm siuFlag hsignals
  by_cases hcleared : siuStateOf siuFlag signals = .cleared
  · rw [evaluatePayoutWith_of_cleared h hcleared,
      evaluatePayoutWith_of_cleared h (hstate.symm.trans hcleared)]
    cases limits with
    | policy policy =>
      simp only [evaluatePolicyRules_perm policy amount lossDate hsignals, Option.map_map]
      rfl
    | legacy policyLimit autoApproveLimit => exact evaluateLegacy_congr _ _ _ _ _
  · obtain ⟨e, he, hdecision, hnothing⟩ := evaluatePayoutWith_of_not_cleared h siuId claimId amount
      limits lossDate hcleared
    obtain ⟨e', he', hdecision', hnothing'⟩ := evaluatePayoutWith_of_not_cleared h siuId' claimId
      amount limits lossDate (hstate ▸ hcleared)
    rw [he, he', Option.map_some, Option.map_some, hdecision, hdecision', hnothing, hnothing',
      hstate]

end Evaluations

/-- With exact scores, further signals at any positions or the flag turn no evaluation into an
approval, and leave more to pay only where a negative payout is checked against limits alone; and
the order of the signals changes neither the decision nor what is payable. -/
theorem signals_monotone {floats : FloatArithmetic} (h : floats.Exact)
    (siuId siuId' claimId : String) (amount : PyDecimal) (limits : PayoutLimits) (lossDate : Int)
    (siuFlag : Bool) (signals : List String) :
    (∀ (siuFlag' : Bool) (signals' : List String), signals.Sublist signals' →
      (siuFlag = true → siuFlag' = true) →
      (Approves
          (evaluatePayoutWith floats siuId' claimId amount limits lossDate siuFlag' signals') →
        Approves
          (evaluatePayoutWith floats siuId claimId amount limits lossDate siuFlag signals)) ∧
      ∀ e e',
        evaluatePayoutWith floats siuId claimId amount limits lossDate siuFlag signals = some e →
        evaluatePayoutWith floats siuId' claimId amount limits lossDate siuFlag' signals' =
          some e' →
        e'.netPayable.gt e.netPayable = true →
        (∃ policyLimit autoApproveLimit, limits = .legacy policyLimit autoApproveLimit) ∧
          (PyDecimal.finite noPayment).gt amount = true) ∧
    ∀ signals' : List String, signals.Perm signals' →
      (evaluatePayoutWith floats siuId claimId amount limits lossDate siuFlag signals).map
          (fun e => (e.decision, e.netPayable)) =
        (evaluatePayoutWith floats siuId' claimId amount limits lossDate siuFlag signals').map
          fun e => (e.decision, e.netPayable) :=
  ⟨fun _ _ hsignals hflag => ⟨approves_of_more h hsignals hflag,
      fun _ _ he he' hmore => netPayable_of_more h hsignals hflag he he' hmore⟩,
    fun _ hsignals => evaluatePayoutWith_perm h hsignals⟩

/-! ## A negative payout -/

/-- The text of a number of hundredths. -/
def hundredthsText (n : Int) : List Char :=
  (if n < 0 then ['-'] else []) ++ (Ledger.digits n.natAbs ++ ".0e-2".toList)

theorem hundredthsText_isFloat (n : Int) : isFloatText (hundredthsText n) = true := by
  have hdigits : ∀ c ∈ Ledger.digits n.natAbs, c.isDigit = true := fun _ => Ledger.digits_isDigit
  obtain ⟨c, cs, hcs⟩ := List.exists_cons_of_ne_nil (Nat.toDigits_ne_nil (b := 10) (n := n.natAbs))
  change Ledger.digits n.natAbs = c :: cs at hcs
  have hhead := hdigits c (hcs ▸ List.mem_cons_self)
  unfold hundredthsText isFloatText
  split_ifs
  · simpa using fun x hx => Or.inl (hdigits x hx)
  · rw [hcs] at hdigits ⊢
    simpa [hhead] using fun x hx => Or.inl (hdigits x (List.mem_cons_of_mem c hx))

def hundredthsFloat (n : Int) : PyFloat := ⟨hundredthsText n, hundredthsText_isFloat n⟩

theorem floatValue_hundredthsFloat (n : Int) :
    ∃ x, floatValue (hundredthsFloat n) = some x ∧ x.value = n / 100 := by
  have hdigits : ∀ c ∈ Ledger.digits n.natAbs, c.isDigit = true := fun _ => Ledger.digits_isDigit
  have hne : Ledger.digits n.natAbs ≠ [] := Nat.toDigits_ne_nil
  have hmantissa : (Ledger.digits n.natAbs ++ ".0e-2".toList).takeWhile (· ≠ 'e') =
      Ledger.digits n.natAbs ++ ".0".toList := by
    rw [List.takeWhile_append_of_pos]
    · rfl
    · intro c hc
      have hdigit := hdigits c hc
      rw [decide_eq_true_eq]
      rintro rfl
      revert hdigit
      decide
  have hwhole : (Ledger.digits n.natAbs ++ ".0".toList).takeWhile Char.isDigit =
      Ledger.digits n.natAbs := by
    rw [List.takeWhile_append_of_pos hdigits]
    simp
  have hspelled : Nat.ofDigitChars 10 (Ledger.digits n.natAbs ++ ['0']) 0 = n.natAbs * 10 := by
    rw [Nat.ofDigitChars_append, Ledger.digits, Nat.ofDigitChars_ten_toDigits]
    simp [Nat.ofDigitChars_cons]
    omega
  have hfraction : (Ledger.digits n.natAbs ++ ".0".toList).drop
      ((Ledger.digits n.natAbs).length + 1) = ['0'] := by
    rw [List.drop_append, List.drop_eq_nil_of_le (Nat.le_succ _), Nat.add_sub_cancel_left]
    rfl
  have hexponent : (Ledger.digits n.natAbs ++ ".0e-2".toList).drop
      ((Ledger.digits n.natAbs ++ ".0".toList).length + 1) = ['-', '2'] := by
    rw [List.length_append, List.drop_append, List.drop_eq_nil_of_le (by omega), add_assoc,
      Nat.add_sub_cancel_left]
    rfl
  have hhead : (Ledger.digits n.natAbs ++ ".0e-2".toList).head? ≠ some '-' := by
    intro hsigned
    obtain ⟨c, cs, hcs⟩ := List.exists_cons_of_ne_nil hne
    rw [hcs, List.cons_append, List.head?_cons, Option.some.injEq] at hsigned
    have hdigit := hdigits c (hcs ▸ List.mem_cons_self)
    rw [hsigned] at hdigit
    revert hdigit
    decide
  have hvalue : floatValue (hundredthsFloat n) =
      some ⟨if n < 0 then -((n.natAbs * 10 : Nat) : Int) else ((n.natAbs * 10 : Nat) : Int),
        -2 - 1⟩ := by
    unfold floatValue hundredthsFloat hundredthsText
    by_cases hn : n < 0
    · simp only [hn, if_true, List.singleton_append, List.head?_cons, List.drop_succ_cons,
        List.drop_zero]
      rw [hmantissa, hwhole, hfraction, hexponent, hspelled, if_neg hne]
      rfl
    · simp only [hn, if_false, List.nil_append, if_neg hhead]
      rw [hmantissa, hwhole, hfraction, hexponent, hspelled, if_neg hne]
      rfl
  have hcoeff : (if n < 0 then -((n.natAbs * 10 : Nat) : Int) else ((n.natAbs * 10 : Nat) : Int)) =
      n * 10 := by
    split_ifs <;> omega
  refine ⟨_, hvalue, ?_⟩
  rw [hcoeff, Decimal.value]
  push_cast
  norm_num
  ring

/-- The number of hundredths that a float spells. -/
def hundredths (x : PyFloat) : Int := ((floatValue x).getD noPayment).coeffAt (-2)

/-- A weight is a number of hundredths. -/
theorem hundredths_weight (signal : String) :
    (hundredths (fraudSignalWeight signal) : ℚ) / 100 = fraudWeight signal := by
  have hscale : -2 ≤ ((floatValue (fraudSignalWeight signal)).getD noPayment).exp := by
    unfold fraudSignalWeight
    split <;> decide +kernel
  rw [fraudWeight, hundredths, ← Decimal.coeffAt_value _ hscale]
  norm_num
  ring

/-- Scores that are computed in hundredths. -/
def exactFloats : FloatArithmetic where
  sum xs := hundredthsFloat (xs.map hundredths).sum
  round := id
  signalScore n := hundredthsFloat (100 - 15 * n)

theorem sum_hundredths (signals : List String) :
    ((((signals.map fraudSignalWeight).map hundredths).sum : Int) : ℚ) / 100 =
      (signals.map fraudWeight).sum := by
  induction signals with
  | nil => simp
  | cons signal signals ih =>
    simp only [List.map_cons, List.sum_cons] at ih ⊢
    rw [← ih, ← hundredths_weight, Int.cast_add, add_div]

theorem exactFloats_exact : exactFloats.Exact where
  sum signals := by
    obtain ⟨x, hx, hvalue⟩ :=
      floatValue_hundredthsFloat ((signals.map fraudSignalWeight).map hundredths).sum
    exact ⟨x, hx, hvalue.trans (sum_hundredths signals)⟩
  signalScore n := by
    obtain ⟨x, hx, hvalue⟩ := floatValue_hundredthsFloat (100 - 15 * n)
    refine ⟨x, hx, ?_⟩
    rw [hvalue]
    push_cast
    ring

/-- Two signals in either order, and with one more. -/
theorem signals_monotone_auto :
    (Approves (evaluatePayoutWith exactFloats "000000000002" "CLM-1" (.finite ⟨150000, -2⟩)
        (.policy autoPolicy) 739403 false ["late_reporting", "unusual_hours", "other"]) →
      Approves (evaluatePayoutWith exactFloats "000000000001" "CLM-1" (.finite ⟨150000, -2⟩)
        (.policy autoPolicy) 739403 false ["late_reporting", "other"])) ∧
    (evaluatePayoutWith exactFloats "000000000001" "CLM-1" (.finite ⟨150000, -2⟩)
        (.policy autoPolicy) 739403 false ["late_reporting", "other"]).map
        (fun e => (e.decision, e.netPayable)) =
      (evaluatePayoutWith exactFloats "000000000002" "CLM-1" (.finite ⟨150000, -2⟩)
        (.policy autoPolicy) 739403 false ["other", "late_reporting"]).map
        fun e => (e.decision, e.netPayable) :=
  have hmonotone := signals_monotone exactFloats_exact "000000000001" "000000000002" "CLM-1"
    (.finite ⟨150000, -2⟩) (.policy autoPolicy) 739403 false ["late_reporting", "other"]
  ⟨(hmonotone.1 false ["late_reporting", "unusual_hours", "other"] (by decide) id).1,
    hmonotone.2 ["other", "late_reporting"] (by decide)⟩

/-- Without a policy a payout of minus five is approved as it is; a signal brings it to zero. -/
theorem negative_payout_raised :
    ∃ e e', evaluatePayoutWith exactFloats "000000000001" "CLM-1" (.finite ⟨-5, 0⟩)
        (.legacy none none) 739403 false [] = some e ∧
      evaluatePayoutWith exactFloats "000000000002" "CLM-1" (.finite ⟨-5, 0⟩)
        (.legacy none none) 739403 false ["duplicate_claim"] = some e' ∧
      e'.netPayable.gt e.netPayable = true := by
  have hraised : ((evaluatePayoutWith exactFloats "000000000001" "CLM-1" (.finite ⟨-5, 0⟩)
      (.legacy none none) 739403 false []).bind fun e =>
        (evaluatePayoutWith exactFloats "000000000002" "CLM-1" (.finite ⟨-5, 0⟩)
          (.legacy none none) 739403 false ["duplicate_claim"]).map fun e' =>
            e'.netPayable.gt e.netPayable) = some true := by
    decide +kernel
  obtain ⟨e, he, hraised⟩ := Option.bind_eq_some_iff.mp hraised
  obtain ⟨e', he', hgt⟩ := Option.map_eq_some_iff.mp hraised
  exact ⟨e, e', he, he', hgt⟩

end Governor.Sector
