import Mathlib
import Governor.Sector.Security

/-!
# The threat score and its signals

ThreatProxy adds up a base score, a bonus for the data class, the entropy that the caller claims
and the weights of the signals. The entropy is cut off above one and not below zero; the last
theorem says for which entropies and data classes the signals still bound the score from below.
-/

namespace Governor.Ledger.Decimal

/-! ## Rounding near a tenth -/

theorem fix_eq_self {x : Decimal} (h : x.coeff.natAbs < 10 ^ precision) : x.fix = x := by
  have hlength : (digits x.coeff.natAbs).length ≤ precision :=
    (Nat.length_toDigits_le_iff (by decide) (by decide)).mpr h
  simp [fix, Nat.sub_eq_zero_of_le hlength]

/-- A decimal just below a tenth that is rounded at all is rounded at the unit `10 ^ -29`; half
of that unit is rounded up, to the even neighbour. -/
theorem tenth_le_fix {x : Decimal} (h : 1 / 10 - 5 / 10 ^ 30 ≤ x.value) : 1 / 10 ≤ x.fix.value := by
  rcases le_or_gt (1 / 10) x.value with htenth | hbelow
  · have hfits : Fits ⟨1, -1⟩ := by
      change (1 : Int).natAbs ≤ 10 ^ precision
      decide
    have hvalue : value ⟨1, -1⟩ = 1 / 10 := by norm_num [value]
    rw [← hvalue] at htenth ⊢
    exact le_fix hfits htenth
  have hpos : 0 < x.value := lt_of_lt_of_le (by norm_num) h
  obtain ⟨q, exp, hx⟩ := exists_roundedAt x
  have hexp : -29 ≤ exp := by
    by_contra hlt
    have hunit : (10 : ℚ) ^ exp ≤ 10 ^ (-30 : Int) :=
      zpow_le_zpow_right₀ (by norm_num) (by omega)
    have habs := hx.abs_lt
    rw [abs_of_pos hpos] at habs
    norm_num [precision] at hunit habs
    linarith
  obtain ⟨k, hk⟩ : ∃ k : Nat, exp = -29 + k := ⟨(exp + 29).toNat, by omega⟩
  have hunit : (10 : ℚ) ^ exp = 10 ^ k * (1 / 10 ^ 29) := by
    rw [hk, zpow_add₀ (by norm_num), zpow_natCast, mul_comm]
    norm_num
  rcases hx.exact_or with hfix | hlow
  · have hvalue := hx.value_fix
    rw [hfix, hunit] at hvalue
    rw [hvalue] at h hbelow
    have hmul : ((q * 10 ^ k : Int) : ℚ) * (1 / 10 ^ 29) = q * (10 ^ k * (1 / 10 ^ 29)) := by
      push_cast
      ring
    rw [← hmul] at h hbelow
    have hlt : ((q * 10 ^ k : Int) : ℚ) < (10 ^ 28 : Int) := by
      norm_num at hbelow ⊢
      linarith
    have hle : q * 10 ^ k ≤ 10 ^ 28 - 1 := by
      have hint : q * 10 ^ k < 10 ^ 28 := by exact_mod_cast hlt
      omega
    have hcast : ((q * 10 ^ k : Int) : ℚ) ≤ 10 ^ 28 - 1 := by exact_mod_cast hle
    norm_num at h hcast
    linarith
  · rw [abs_of_pos hpos] at hlow
    have hzero : k = 0 := by
      by_contra hne
      have hten : (10 : ℚ) ^ 1 ≤ 10 ^ k := pow_le_pow_right₀ (by norm_num) (by omega)
      rw [hunit] at hlow
      norm_num [precision] at hlow hten
      linarith
    rw [hzero, pow_zero, one_mul] at hunit
    have hupper := hx.roundsTo.upper
    have heven := hx.roundsTo.even
    rw [hunit] at hupper heven
    have hlast : (10 ^ 28 : Int) - 1 ≤ q := by
      have hcast : (2 : ℚ) * 10 ^ 28 - 1 ≤ 2 * q + 1 := by
        norm_num at h hupper ⊢
        linarith
      have hint : (2 : Int) * 10 ^ 28 - 1 ≤ 2 * q + 1 := by exact_mod_cast hcast
      omega
    have hne : q ≠ 10 ^ 28 - 1 := by
      intro hq
      have htie : q % 2 = 0 := by
        refine heven (Or.inr ?_)
        rw [hq] at hupper ⊢
        norm_num at h hupper ⊢
        linarith
      omega
    have hq : (10 ^ 28 : Int) ≤ q := by omega
    have hcast : (10 ^ 28 : ℚ) ≤ q := by exact_mod_cast hq
    rw [hx.value_fix, hunit]
    norm_num at hcast ⊢
    linarith

/-- A decimal is rounded to at least a tenth when at most half a unit of the last place is
missing. -/
theorem tenth_le_fix_iff {x : Decimal} :
    1 / 10 ≤ x.fix.value ↔ 1 / 10 - 5 / 10 ^ 30 ≤ x.value := by
  refine ⟨fun h => ?_, tenth_le_fix⟩
  by_contra hlt
  obtain ⟨q, exp, hx⟩ := exists_roundedAt x
  rcases hx.exact_or with hfix | hlow
  · rw [hfix] at h
    linarith
  have hpos : 0 < x.value := by
    by_contra hle
    have hzero : x.fix.value ≤ value ⟨0, 0⟩ := by
      refine fix_le (Nat.zero_le _) ?_
      simpa [value] using hle
    rw [show value ⟨0, 0⟩ = 0 by simp [value]] at hzero
    linarith
  rw [abs_of_pos hpos] at hlow
  have hexp : exp ≤ -29 := by
    by_contra hgt
    have hunit : (10 : ℚ) ^ (-28 : Int) ≤ 10 ^ exp :=
      zpow_le_zpow_right₀ (by norm_num) (by omega)
    norm_num [precision] at hunit hlow
    linarith
  have hunit : (10 : ℚ) ^ exp ≤ 10 ^ (-29 : Int) := zpow_le_zpow_right₀ (by norm_num) hexp
  have hu : (0 : ℚ) < 10 ^ exp := by positivity
  have hlower := hx.roundsTo.lower
  rw [← mul_div_assoc, le_div_iff₀ hu] at hlower
  rw [hx.value_fix] at h
  norm_num at hunit
  linarith

end Governor.Ledger.Decimal

namespace Governor.Sector

open Ledger (Decimal)

/-! ## The terms of the score -/

theorem atMostOne_value (x : Decimal) : (atMostOne x).value = min x.value 1 := by
  have hone : Decimal.value ⟨10, -1⟩ = 1 := by norm_num [Decimal.value]
  unfold atMostOne
  split_ifs with h
  · rw [Decimal.lt_iff, hone] at h
    rw [hone, min_eq_right h.le]
  · rw [Decimal.lt_iff, hone, not_lt] at h
    rw [min_eq_left h]

namespace SecurityEnv

/-- The weight of a signal; an unknown one has the default. -/
def weight (env : SecurityEnv) (signal : String) : Decimal :=
  (signalWeight.lookup (env.lower signal)).getD ⟨15, -2⟩

/-- The score before the signals are added. -/
def startScore (env : SecurityEnv) (r : ThreatRequest) : Decimal :=
  let base : Decimal := ⟨1, -1⟩
  let base := if env.lower r.dataClass ∈ ["secret", "pii", "pci"] then base.plus ⟨25, -2⟩ else base
  base.plus ((atMostOne r.payloadEntropy).times ⟨3, -1⟩)

/-- Add the weights of the signals. -/
def addSignals (env : SecurityEnv) (base : Decimal) (signals : List String) : Decimal :=
  signals.foldl (fun base signal => base.plus (env.weight signal)) base

theorem scoreThreat_eq (env : SecurityEnv) (r : ThreatRequest) :
    (env.scoreThreat r).1 = atMostOne (env.addSignals (env.startScore r) r.anomalySignals) := rfl

/-- What the signals alone come to. -/
def signalScore (env : SecurityEnv) (signals : List String) : ℚ :=
  1 / 10 + (signals.map fun signal => (env.weight signal).value).sum

/-- What the data class and the entropy contribute. -/
def claimedScore (env : SecurityEnv) (r : ThreatRequest) : ℚ :=
  (if env.lower r.dataClass ∈ ["secret", "pii", "pci"] then 1 / 4 else 0) +
    3 / 10 * min r.payloadEntropy.value 1

/-- The signals bound the score of the request from below. -/
structure BoundedBySignals (env : SecurityEnv) (r : ThreatRequest) : Prop where
  lower : min 1 (env.signalScore r.anomalySignals) ≤ (env.scoreThreat r).1.value
  upper : (env.scoreThreat r).1.value ≤ 1
  /-- More signals, anywhere in the list, never lower the score. -/
  monotone : ∀ signals, r.anomalySignals.Sublist signals →
    (env.scoreThreat r).1.value ≤ (env.scoreThreat { r with anomalySignals := signals }).1.value
  blocked : env.threatScoreThreshold.value ≤ min 1 (env.signalScore r.anomalySignals) →
    env.threatDecision r = "BLOCKED"

section Score

variable {env : SecurityEnv}

/-- A weight is a number of hundredths. -/
theorem weight_hundredths (env : SecurityEnv) (signal : String) :
    ∃ c : Nat, (env.weight signal).value = c / 100 := by
  have htable : ∀ p ∈ signalWeight, ∃ c : Nat, p.2.value = c / 100 := by
    simp only [signalWeight, List.forall_mem_cons, List.not_mem_nil, false_implies]
    refine ⟨⟨35, ?_⟩, ⟨40, ?_⟩, ⟨50, ?_⟩, ⟨45, ?_⟩, ⟨55, ?_⟩, fun _ => trivial⟩ <;>
      norm_num [Decimal.value]
  unfold weight
  cases hlookup : signalWeight.lookup (env.lower signal) with
  | none => exact ⟨15, by norm_num [Decimal.value]⟩
  | some x =>
    obtain ⟨before, after, hsplit, -⟩ := List.lookup_eq_some_iff.mp hlookup
    exact htable (env.lower signal, x) (by rw [hsplit]; simp)

theorem weight_nonneg (env : SecurityEnv) (signal : String) : 0 ≤ (env.weight signal).value := by
  obtain ⟨c, hc⟩ := env.weight_hundredths signal
  rw [hc]
  positivity

/-- A lower bound that is a number of hundredths, or one, survives a signal. -/
theorem le_plus_weight (env : SecurityEnv) {base : Decimal} {c : Nat}
    (h : min 1 ((c : ℚ) / 100) ≤ base.value) (signal : String) :
    min 1 ((c : ℚ) / 100 + (env.weight signal).value) ≤
      (base.plus (env.weight signal)).value := by
  obtain ⟨d, hd⟩ := env.weight_hundredths signal
  have hone : Decimal.value ⟨1, 0⟩ = 1 := by norm_num [Decimal.value]
  have hstep : min 1 ((c : ℚ) / 100 + (env.weight signal).value) ≤
      base.value + (env.weight signal).value := by
    have hnonneg := env.weight_nonneg signal
    rcases min_le_iff.mp h with hbase | hbase
    · exact (min_le_left _ _).trans (by linarith)
    · exact (min_le_right _ _).trans (by linarith)
  rw [← Decimal.value_add] at hstep
  -- the bound has few digits, so rounding does not go below it
  rcases le_total 1 ((c : ℚ) / 100 + (env.weight signal).value) with hle | hle
  · rw [min_eq_left hle, ← hone] at hstep ⊢
    exact Decimal.le_fix (by change (1 : Int).natAbs ≤ _; decide) hstep
  · have hvalue : (c : ℚ) / 100 + (env.weight signal).value =
        Decimal.value ⟨((c + d : Nat) : Int), -2⟩ := by
      rw [hd, Decimal.value]
      push_cast
      norm_num
      ring
    rw [min_eq_right hle, hvalue] at hstep ⊢
    refine Decimal.le_fix ?_ hstep
    have hsmall : c + d ≤ 100 := by
      rw [hd, ← add_div, div_le_one (by norm_num)] at hle
      exact_mod_cast hle
    exact hsmall.trans (by decide)

theorem le_addSignals (env : SecurityEnv) (signals : List String) {base : Decimal} {c : Nat}
    (h : min 1 ((c : ℚ) / 100) ≤ base.value) :
    min 1 ((c : ℚ) / 100 + (signals.map fun signal => (env.weight signal).value).sum) ≤
      (env.addSignals base signals).value := by
  induction signals generalizing base c with
  | nil => simpa [addSignals] using h
  | cons signal signals ih =>
    obtain ⟨d, hd⟩ := env.weight_hundredths signal
    have hnext := env.le_plus_weight h signal
    have hsum : (c : ℚ) / 100 + (env.weight signal).value = ((c + d : Nat) : ℚ) / 100 := by
      rw [hd]
      push_cast
      ring
    rw [hsum] at hnext
    have hrest := ih hnext
    rwa [← hsum, add_assoc] at hrest

/-- The sum grows with its start and with the list of signals. -/
theorem addSignals_mono {signals signals' : List String} (hsub : signals.Sublist signals')
    {base base' : Decimal} (hfits : base'.Fits) (h : base.value ≤ base'.value) :
    (env.addSignals base signals).value ≤ (env.addSignals base' signals').value := by
  induction hsub generalizing base base' with
  | slnil => exact h
  | cons signal _ ih =>
    exact ih (Decimal.fix_fits _) (h.trans (Decimal.le_plus hfits (env.weight_nonneg signal)))
  | cons_cons signal _ ih => exact ih (Decimal.fix_fits _) (Decimal.plus_mono h _)

/-- The term of an entropy with the digits of a float is not rounded. -/
theorem entropyTerm_value {entropy : Decimal} (hfloat : entropy.coeff.natAbs < 10 ^ 17) :
    ((atMostOne entropy).times ⟨3, -1⟩).value = 3 / 10 * min entropy.value 1 := by
  have hcut : (atMostOne entropy).coeff.natAbs < 10 ^ 17 := by
    unfold atMostOne
    split_ifs
    · decide
    · exact hfloat
  have hproduct : ((atMostOne entropy).coeff * 3).natAbs < 10 ^ Decimal.precision := by
    rw [Int.natAbs_mul]
    calc (atMostOne entropy).coeff.natAbs * Int.natAbs 3 < 10 ^ 17 * Int.natAbs 3 :=
          Nat.mul_lt_mul_of_pos_right hcut (by decide)
      _ ≤ 10 ^ Decimal.precision := by decide
  rw [Decimal.times, Decimal.fix_eq_self hproduct, ← atMostOne_value, Decimal.value,
    Decimal.value, zpow_add₀ (by norm_num)]
  push_cast
  norm_num
  ring

/-- The score starts from a tenth exactly when what was claimed is not negative, up to the
rounding. -/
theorem tenth_le_startScore_iff {r : ThreatRequest}
    (hfloat : r.payloadEntropy.coeff.natAbs < 10 ^ 17) :
    1 / 10 ≤ (env.startScore r).value ↔ -5 / 10 ^ 30 ≤ env.claimedScore r := by
  have hbase : Decimal.value ⟨1, -1⟩ = 1 / 10 := by norm_num [Decimal.value]
  have hbonus : (Decimal.plus ⟨1, -1⟩ ⟨25, -2⟩).value = 1 / 10 + 1 / 4 := by
    have hplus : Decimal.plus ⟨1, -1⟩ ⟨25, -2⟩ = ⟨35, -2⟩ := by decide +kernel
    rw [hplus]
    norm_num [Decimal.value]
  unfold startScore claimedScore
  simp only
  rw [Decimal.plus, Decimal.tenth_le_fix_iff, Decimal.value_add, entropyTerm_value hfloat]
  split_ifs
  · rw [hbonus]
    constructor <;> intro h <;> linarith
  · rw [hbase]
    constructor <;> intro h <;> linarith

theorem scoreThreat_value (env : SecurityEnv) (r : ThreatRequest) :
    (env.scoreThreat r).1.value =
      min (env.addSignals (env.startScore r) r.anomalySignals).value 1 := by
  rw [scoreThreat_eq, atMostOne_value]

theorem scoreThreat_mono (env : SecurityEnv) {r : ThreatRequest} {signals : List String}
    (hsub : r.anomalySignals.Sublist signals) :
    (env.scoreThreat r).1.value ≤
      (env.scoreThreat { r with anomalySignals := signals }).1.value := by
  rw [scoreThreat_value, scoreThreat_value]
  exact min_le_min_right 1 (addSignals_mono hsub (Decimal.fix_fits _) (le_refl _))

/-- A score that starts from a tenth is at least that of the signals. -/
theorem signalScore_le {r : ThreatRequest} (h : 1 / 10 ≤ (env.startScore r).value) :
    min 1 (env.signalScore r.anomalySignals) ≤ (env.scoreThreat r).1.value := by
  have hten : ((10 : Nat) : ℚ) / 100 = 1 / 10 := by norm_num
  have hsum := env.le_addSignals r.anomalySignals ((min_le_right _ _).trans (hten.trans_le h))
  rw [hten] at hsum
  rw [scoreThreat_value]
  exact le_min hsum (min_le_left _ _)

/-- A score of at least the threshold is blocked. -/
theorem threatDecision_blocked {r : ThreatRequest}
    (h : env.threatScoreThreshold.value ≤ (env.scoreThreat r).1.value) :
    env.threatDecision r = "BLOCKED" := by
  unfold threatDecision
  rw [if_neg (mt Decimal.lt_iff.mp (not_lt.mpr h))]

end Score

/-- For every entropy and data class the signals bound the scores of the requests exactly when
the class and the entropy together contribute nothing negative. -/
theorem boundedBySignals_iff (env : SecurityEnv) (r : ThreatRequest)
    (hfloat : r.payloadEntropy.coeff.natAbs < 10 ^ 17) :
    (∀ signals, env.BoundedBySignals { r with anomalySignals := signals }) ↔
      -5 / 10 ^ 30 ≤ env.claimedScore r := by
  rw [← tenth_le_startScore_iff hfloat]
  constructor
  · intro h
    have hlower := (h []).lower
    rw [scoreThreat_value] at hlower
    have htenth : min 1 (env.signalScore []) = 1 / 10 := by norm_num [signalScore]
    rw [htenth] at hlower
    exact hlower.trans (min_le_left _ _)
  · intro hstart signals
    have hlower := signalScore_le (r := { r with anomalySignals := signals }) hstart
    exact {
      lower := hlower
      upper := by
        rw [scoreThreat_value]
        exact min_le_right _ _
      monotone := fun _ hsub => env.scoreThreat_mono hsub
      blocked := fun h => threatDecision_blocked (h.trans hlower) }

end SecurityEnv

/-! ## A claimed entropy -/

/-- A request with two signals and the entropy that it claims. -/
def signalled (entropy : Decimal) : ThreatRequest where
  requestId := "req-1"
  payloadEntropy := entropy
  anomalySignals := ["exfil_pattern", "credential_spray"]
  dataClass := "internal"
  accountId := tenantDefault

/-- The platform with the default threshold. -/
def threatEnv : SecurityEnv := tenantEnv (.ofDigests [] fun _ => "")

/-- With an entropy of a half the two signals bound the score. -/
theorem boundedBySignals_half : threatEnv.BoundedBySignals (signalled ⟨5, -1⟩) := by
  refine (threatEnv.boundedBySignals_iff (signalled ⟨5, -1⟩) (by decide)).mpr ?_
    ["exfil_pattern", "credential_spray"]
  have hclass : threatEnv.lower (signalled ⟨5, -1⟩).dataClass ∉ ["secret", "pii", "pci"] := by
    decide +kernel
  rw [SecurityEnv.claimedScore, if_neg hclass]
  norm_num [signalled, Decimal.value]

/-- Two signals that reach the threshold are cleared with an entropy of minus ten. -/
theorem negative_entropy_cleared :
    threatEnv.threatDecision (signalled ⟨-100, -1⟩) = "CLEARED" ∧
      ¬ threatEnv.BoundedBySignals (signalled ⟨-100, -1⟩) := by
  have hcleared : threatEnv.threatDecision (signalled ⟨-100, -1⟩) = "CLEARED" := by decide +kernel
  refine ⟨hcleared, fun h => ?_⟩
  have hweights : threatEnv.weight "exfil_pattern" = ⟨55, -2⟩ ∧
      threatEnv.weight "credential_spray" = ⟨5, -1⟩ := by
    decide +kernel
  have hblocked := h.blocked (by
    simp only [signalled, SecurityEnv.signalScore, List.map_cons, List.map_nil, hweights]
    norm_num [threatEnv, tenantEnv, Decimal.value])
  rw [hcleared] at hblocked
  exact absurd hblocked (by decide)

end Governor.Sector
