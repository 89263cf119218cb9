import Mathlib
import Governor.Finance.AssetLedger

/-!
# Decimals at the default context

Sums, differences and products of Python decimals are exact up to 28 digits and rounded half to
even beyond; comparisons are exact. The sign of a zero is left out.
-/

namespace Governor.Ledger

namespace Decimal

/-- The number of digits that the default context keeps. -/
def precision : Nat := 28

/-- Round the coefficient to the digits of the context. -/
def fix (x : Decimal) : Decimal :=
  let excess := (digits x.coeff.natAbs).length - precision
  if excess = 0 then x
  else
    let q := roundHalfEven x.coeff (10 ^ excess)
    if q.natAbs = 10 ^ precision then ⟨q / 10, x.exp + excess + 1⟩ else ⟨q, x.exp + excess⟩

/-- `a + b`. -/
def plus (a b : Decimal) : Decimal := (a.add b).fix

/-- `a - b`. -/
def minus (a b : Decimal) : Decimal := (a.sub b).fix

/-- `a * b`. -/
def times (a b : Decimal) : Decimal := fix ⟨a.coeff * b.coeff, a.exp + b.exp⟩

/-- `a < b`. -/
def lt (a b : Decimal) : Bool :=
  let exp := Min.min a.exp b.exp
  a.coeffAt exp < b.coeffAt exp

example : minus ⟨10 ^ 28, 0⟩ ⟨5, -1⟩ = ⟨10 ^ 27, 1⟩ := by decide +kernel

theorem coeffAt_value (x : Decimal) {exp : Int} (h : exp ≤ x.exp) :
    (x.coeffAt exp : ℚ) * 10 ^ exp = x.value := by
  obtain ⟨k, hk⟩ := Int.le.dest h
  have hexp : x.exp - exp = k := by omega
  rw [coeffAt, hexp, Int.toNat_natCast, value, ← hk, zpow_add₀ (by norm_num), zpow_natCast]
  push_cast
  ring

/-- Comparison is comparison of the values. -/
theorem lt_iff {a b : Decimal} : a.lt b = true ↔ a.value < b.value := by
  have hpos : (0 : ℚ) < 10 ^ Min.min a.exp b.exp := by positivity
  rw [← a.coeffAt_value (Int.min_le_left a.exp b.exp),
    ← b.coeffAt_value (Int.min_le_right a.exp b.exp), mul_lt_mul_iff_left₀ hpos, Int.cast_lt]
  simp [lt]

theorem value_add (a b : Decimal) : (a.add b).value = a.value + b.value := by
  rw [← a.coeffAt_value (Int.min_le_left a.exp b.exp),
    ← b.coeffAt_value (Int.min_le_right a.exp b.exp), ← add_mul, value, add]
  push_cast
  rfl

theorem value_sub (a b : Decimal) : (a.sub b).value = a.value - b.value := by
  rw [← a.coeffAt_value (Int.min_le_left a.exp b.exp),
    ← b.coeffAt_value (Int.min_le_right a.exp b.exp), ← sub_mul, value, sub]
  push_cast
  rfl

/-! ## Rounding to the digits of the context -/

end Decimal

theorem RoundsTo.neg {x : ℚ} {q : Int} (h : RoundsTo x q) : RoundsTo (-x) (-q) := by
  refine ⟨?_, ?_, ?_⟩
  · have hupper := h.upper
    push_cast
    linarith
  · have hlower := h.lower
    push_cast
    linarith
  · intro htie
    have heven : q % 2 = 0 := by
      refine h.even ?_
      push_cast at htie
      rcases htie with htie | htie
      · exact Or.inr (by linarith)
      · exact Or.inl (by linarith)
    omega

/-- A quotient below `b` is rounded to at most `b`. -/
theorem RoundsTo.natAbs_le_of_lt {n q : Int} {d b : Nat} (hd : 0 < d)
    (h : RoundsTo ((n : ℚ) / d) q) (hlt : n.natAbs < b * d) : q.natAbs ≤ b := by
  have hpos : (0 : ℚ) < d := by exact_mod_cast hd
  have habs : |(n : ℚ)| < b * d := by
    have hcast : ((n.natAbs : Nat) : ℚ) < ((b * d : Nat) : ℚ) := by exact_mod_cast hlt
    rwa [Nat.cast_natAbs, Int.cast_abs, Nat.cast_mul] at hcast
  obtain ⟨hlo, hhi⟩ := abs_lt.mp habs
  have hquotlo : -(b : ℚ) < n / d := by
    rw [lt_div_iff₀ hpos]
    linarith
  have hquothi : (n : ℚ) / d < b := (div_lt_iff₀ hpos).mpr hhi
  have hlower := h.lower
  have hupper := h.upper
  have hle : (2 * q : ℚ) < 2 * b + 1 := by linarith
  have hge : -(2 * b + 1 : ℚ) < 2 * q := by linarith
  have hle' : 2 * q < 2 * b + 1 := by exact_mod_cast hle
  have hge' : -(2 * (b : Int) + 1) < 2 * q := by exact_mod_cast hge
  omega

namespace Decimal

/-- `-x`. -/
def neg (x : Decimal) : Decimal := ⟨-x.coeff, x.exp⟩

theorem value_neg (x : Decimal) : (neg x).value = -x.value := by
  rw [neg, value, value]
  push_cast
  ring

/-- The decimal has at most the digits of the context, or is a power of ten. -/
def Fits (x : Decimal) : Prop := x.coeff.natAbs ≤ 10 ^ precision

/-- A decimal is rounded to the multiple `q` of the unit `10 ^ exp`. -/
structure RoundedAt (x : Decimal) (q exp : Int) : Prop where
  value_fix : x.fix.value = q * (10 : ℚ) ^ exp
  roundsTo : RoundsTo (x.value / 10 ^ exp) q
  abs_lt : |x.value| < 10 ^ precision * (10 : ℚ) ^ exp
  /-- It is kept as it is unless it has all the digits of the context. -/
  exact_or : x.fix = x ∨ 10 ^ (precision - 1) * (10 : ℚ) ^ exp ≤ |x.value|

theorem abs_value (x : Decimal) : |x.value| = x.coeff.natAbs * (10 : ℚ) ^ x.exp := by
  rw [value, abs_mul, abs_of_pos (a := (10 : ℚ) ^ x.exp) (by positivity), Nat.cast_natAbs,
    Int.cast_abs]

/-- The value of a decimal that has `k` digits too many. -/
theorem value_fix_of_excess {x : Decimal} {k : Nat}
    (hk : (digits x.coeff.natAbs).length - precision = k) (hpos : k ≠ 0) :
    x.fix.value = roundHalfEven x.coeff (10 ^ k) * (10 : ℚ) ^ (x.exp + k) := by
  unfold fix
  simp only [hk, hpos, if_false]
  split_ifs with hcarry
  · have hten : roundHalfEven x.coeff (10 ^ k) = roundHalfEven x.coeff (10 ^ k) / 10 * 10 := by
      unfold precision at hcarry
      omega
    have hcast : (roundHalfEven x.coeff (10 ^ k) : ℚ) =
        (roundHalfEven x.coeff (10 ^ k) / 10 : Int) * 10 := by exact_mod_cast hten
    rw [value, hcast, zpow_add₀ (by norm_num), zpow_one]
    ring
  · rfl

/-- Every decimal is rounded at some unit. -/
theorem exists_roundedAt (x : Decimal) : ∃ q exp, RoundedAt x q exp := by
  have hlt : x.coeff.natAbs < 10 ^ (digits x.coeff.natAbs).length :=
    (Nat.length_toDigits_le_iff (by decide) Nat.length_toDigits_pos).mp (le_refl _)
  by_cases hexcess : (digits x.coeff.natAbs).length - precision = 0
  · have hfix : x.fix = x := by simp [fix, hexcess]
    refine ⟨x.coeff, x.exp, by rw [hfix]; rfl, ?_, ?_, Or.inl hfix⟩
    · rw [value, mul_div_cancel_right₀ _ (by positivity)]
      exact ⟨by linarith, by linarith, fun h => by rcases h with h | h <;> linarith⟩
    · rw [abs_value]
      have hdigits : x.coeff.natAbs < 10 ^ precision :=
        hlt.trans_le (Nat.pow_le_pow_right (by decide) (by omega))
      gcongr
      exact_mod_cast hdigits
  · obtain ⟨k, hk⟩ : ∃ k, (digits x.coeff.natAbs).length - precision = k := ⟨_, rfl⟩
    have hlength : (digits x.coeff.natAbs).length = precision + k := by omega
    have hunit : (10 : ℚ) ^ (x.exp + k) = 10 ^ k * 10 ^ x.exp := by
      rw [zpow_add₀ (by norm_num), zpow_natCast, mul_comm]
    refine ⟨roundHalfEven x.coeff (10 ^ k), x.exp + k, ?_, ?_, ?_, Or.inr ?_⟩
    · exact value_fix_of_excess hk (by omega)
    · have hquotient : x.value / 10 ^ (x.exp + k) = (x.coeff : ℚ) / ((10 ^ k : Nat) : ℚ) := by
        rw [hunit, value, mul_div_mul_right _ _ (by positivity)]
        push_cast
        rfl
      rw [hquotient]
      exact roundHalfEven_roundsTo _ (by positivity)
    · rw [abs_value, hunit, ← mul_assoc, ← pow_add, ← hlength]
      gcongr
      exact_mod_cast hlt
    · have hlow : 10 ^ (precision - 1 + k) ≤ x.coeff.natAbs := by
        have hlong : ¬ (digits x.coeff.natAbs).length ≤ precision - 1 + k := by
          unfold precision at hlength ⊢
          omega
        exact not_lt.mp (mt (Nat.length_toDigits_le_iff (by decide)
          (by unfold precision; omega)).mpr hlong)
      rw [abs_value, hunit, ← mul_assoc, ← pow_add]
      gcongr
      exact_mod_cast hlow

/-- Rounding keeps at most the digits of the context. -/
theorem fix_fits (x : Decimal) : Fits x.fix := by
  have hlt : x.coeff.natAbs < 10 ^ (digits x.coeff.natAbs).length :=
    (Nat.length_toDigits_le_iff (by decide) Nat.length_toDigits_pos).mp (le_refl _)
  unfold fix
  simp only
  split_ifs with hexcess hcarry
  · exact hlt.le.trans (Nat.pow_le_pow_right (by decide) (by omega))
  · change (roundHalfEven _ _ / 10).natAbs ≤ _
    omega
  · have hrounds := roundHalfEven_roundsTo x.coeff
      (d := 10 ^ ((digits x.coeff.natAbs).length - precision)) (by positivity)
    have hsplit : 10 ^ (digits x.coeff.natAbs).length =
        10 ^ precision * 10 ^ ((digits x.coeff.natAbs).length - precision) := by
      rw [← pow_add]
      congr 1
      omega
    rw [hsplit] at hlt
    exact hrounds.natAbs_le_of_lt (by positivity) hlt

theorem roundHalfEven_neg (n : Int) {d : Nat} (hd : 0 < d) :
    roundHalfEven (-n) d = -roundHalfEven n d := by
  have hneg := (roundHalfEven_roundsTo n hd).neg
  rw [← neg_div, ← Int.cast_neg] at hneg
  exact le_antisymm ((roundHalfEven_roundsTo (-n) hd).mono hneg (le_refl _))
    (hneg.mono (roundHalfEven_roundsTo (-n) hd) (le_refl _))

theorem fix_neg (x : Decimal) : (neg x).fix = neg x.fix := by
  have hpos : ∀ k, 0 < 10 ^ k := fun k => by positivity
  unfold fix neg
  simp only [Int.natAbs_neg, roundHalfEven_neg _ (hpos _)]
  split_ifs with hexcess hcarry
  · rfl
  · have hten : -roundHalfEven x.coeff (10 ^ ((digits x.coeff.natAbs).length - precision)) / 10 =
        -(roundHalfEven x.coeff (10 ^ ((digits x.coeff.natAbs).length - precision)) / 10) := by
      unfold precision at hcarry ⊢
      omega
    rw [hten]
  · rfl

/-- A number with few digits that is at most `x` is at most `x` rounded. -/
theorem le_fix {x y : Decimal} (hy : Fits y) (h : y.value ≤ x.value) : y.value ≤ x.fix.value := by
  obtain ⟨q, exp, hx⟩ := exists_roundedAt x
  rcases hx.exact_or with hfix | hlow
  · rwa [hfix]
  have hu : (0 : ℚ) < 10 ^ exp := by positivity
  -- an integer number of units up to `x` is kept by the rounding
  have hunits : ∀ m : Int, m * (10 : ℚ) ^ exp ≤ x.value → m * (10 : ℚ) ^ exp ≤ x.fix.value := by
    intro m hm
    rw [hx.value_fix]
    have hdiv : (m : ℚ) ≤ x.value / 10 ^ exp := (le_div_iff₀ hu).mpr hm
    have hupper := hx.roundsTo.upper
    have hcast : (2 : ℚ) * m ≤ 2 * q + 1 := by linarith
    have hle : 2 * m ≤ 2 * q + 1 := by exact_mod_cast hcast
    have hmq : m ≤ q := by omega
    gcongr
  rcases le_or_gt exp y.exp with hcoarse | hfine
  · rw [← y.coeffAt_value hcoarse] at h ⊢
    exact hunits _ h
  · -- a finer number with these digits is at most the least one rounded at this unit
    have hsmall : |y.value| ≤ 10 ^ (precision - 1) * (10 : ℚ) ^ exp := by
      have hunit : (10 : ℚ) ^ precision * 10 ^ (exp - 1) = 10 ^ (precision - 1) * 10 ^ exp := by
        rw [zpow_sub_one₀ (by norm_num)]
        norm_num [precision]
        ring
      rw [abs_value, ← hunit]
      have hcoeff : (y.coeff.natAbs : ℚ) ≤ 10 ^ precision := by exact_mod_cast hy
      gcongr
      · norm_num
      · omega
    rcases le_or_gt 0 x.value with hpos | hneg
    · rw [abs_of_nonneg hpos] at hlow
      exact (le_of_abs_le hsmall).trans (hunits (10 ^ (precision - 1)) hlow)
    · rw [abs_of_neg hneg] at hlow
      have hbelow := neg_le_of_abs_le hsmall
      have hstep := hunits (-10 ^ (precision - 1)) (by push_cast; linarith)
      push_cast at hstep
      linarith

theorem fix_le {x y : Decimal} (hy : Fits y) (h : x.value ≤ y.value) : x.fix.value ≤ y.value := by
  have hneg : (neg y).value ≤ (neg x).fix.value :=
    le_fix (by simpa [Fits, neg] using hy) (by simpa only [value_neg, neg_le_neg_iff] using h)
  rwa [fix_neg, value_neg, value_neg, neg_le_neg_iff] at hneg

/-- Decimals that are rounded at different units have a number with few digits between them. -/
theorem fix_le_fix_of_unit_lt {x y : Decimal} {e f : Int} (h : x.value ≤ y.value)
    (hx : |x.value| < 10 ^ precision * (10 : ℚ) ^ e)
    (hy : 10 ^ (precision - 1) * (10 : ℚ) ^ f ≤ |y.value|) (hlt : e < f) :
    x.fix.value ≤ y.fix.value := by
  have hunit : 10 ^ precision * (10 : ℚ) ^ e ≤ 10 ^ (precision - 1) * 10 ^ f := by
    have hstep : (10 : ℚ) ^ (e + 1) ≤ 10 ^ f := zpow_le_zpow_right₀ (by norm_num) (by omega)
    rw [zpow_add_one₀ (by norm_num)] at hstep
    have hsplit : (10 : ℚ) ^ precision = 10 ^ (precision - 1) * 10 := by norm_num [precision]
    rw [hsplit, mul_assoc, mul_comm (10 : ℚ) (10 ^ e)]
    gcongr
  have hpos : 0 < y.value := by
    by_contra hle
    have hylow := hx.trans_le (hunit.trans hy)
    rw [abs_of_nonpos (h.trans (not_lt.mp hle)), abs_of_nonpos (not_lt.mp hle)] at hylow
    linarith
  rw [abs_of_pos hpos] at hy
  have hbetween : value ⟨10 ^ precision, e⟩ = 10 ^ precision * (10 : ℚ) ^ e := by
    rw [value]
    push_cast
    rfl
  have hfits : Fits ⟨10 ^ precision, e⟩ := by
    change (10 ^ precision : Int).natAbs ≤ 10 ^ precision
    decide
  refine (fix_le hfits ?_).trans (le_fix hfits ?_)
  · rw [hbetween]
    exact (le_abs_self _).trans hx.le
  · rw [hbetween]
    exact hunit.trans hy

/-- Rounding is monotone. -/
theorem fix_mono {x y : Decimal} (h : x.value ≤ y.value) : x.fix.value ≤ y.fix.value := by
  obtain ⟨q, e, hx⟩ := exists_roundedAt x
  obtain ⟨r, f, hy⟩ := exists_roundedAt y
  rcases hx.exact_or with hfix | hxlow
  · refine le_fix (fix_fits x) ?_
    rwa [hfix]
  rcases hy.exact_or with hfix | hylow
  · refine fix_le (fix_fits y) ?_
    rwa [hfix]
  rcases lt_trichotomy e f with hlt | rfl | hlt
  · exact fix_le_fix_of_unit_lt h hx.abs_lt hylow hlt
  · have hu : (0 : ℚ) < 10 ^ e := by positivity
    have hle : q ≤ r := hx.roundsTo.mono hy.roundsTo (div_le_div_of_nonneg_right h hu.le)
    rw [hx.value_fix, hy.value_fix]
    gcongr
  · have hneg : (neg y).fix.value ≤ (neg x).fix.value := by
      refine fix_le_fix_of_unit_lt ?_ ?_ ?_ hlt
      · rwa [value_neg, value_neg, neg_le_neg_iff]
      · rw [value_neg, abs_neg]
        exact hy.abs_lt
      · rwa [value_neg, abs_neg]
    rwa [fix_neg, fix_neg, value_neg, value_neg, neg_le_neg_iff] at hneg

/-! ## Sums -/

theorem plus_mono {a b : Decimal} (h : a.value ≤ b.value) (c : Decimal) :
    (a.plus c).value ≤ (b.plus c).value := by
  refine fix_mono ?_
  rw [value_add, value_add]
  linarith

/-- Adding what is not negative lowers no number with few digits. -/
theorem le_plus {a b : Decimal} (ha : Fits a) (hb : 0 ≤ b.value) : a.value ≤ (a.plus b).value := by
  refine le_fix ha ?_
  rw [value_add]
  linarith

end Decimal

end Governor.Ledger
