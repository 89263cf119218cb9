import Mathlib

/-!
# Money and decimals

Stored money is a whole number of quanta of `10⁻¹²`, the scale of the database's
`NUMERIC(24, 12)` columns. Requests and settings carry arbitrary decimals, which
`quantize_money` rounds half to even. `decimalStr` is Python's `str` of a quantized
amount, which it determines, and `decimalQuotient` its division at the default precision of 28
digits.
-/

namespace Governor.Ledger

/-- A finite decimal `coeff · 10^exp`. -/
structure Decimal where
  /-- The signed coefficient. -/
  coeff : Int
  /-- The power of ten. -/
  exp : Int
  deriving DecidableEq, Repr

/-- An amount in quanta of `10⁻¹²`. -/
abbrev Money := Int

/-- The quotient `n / d` rounded half to even. -/
def roundHalfEven (n : Int) (d : Nat) : Int :=
  let q := n / d
  let r := n % d
  if 2 * r < d then q
  else if (d : Int) < 2 * r then q + 1
  else if q % 2 = 0 then q else q + 1

/-- `quantize_money`: round to the nearest quantum. -/
def quantizeMoney (x : Decimal) : Money :=
  if -12 ≤ x.exp then x.coeff * 10 ^ (x.exp + 12).toNat
  else roundHalfEven x.coeff (10 ^ (-12 - x.exp).toNat)

theorem roundHalfEven_nonneg {n : Int} (d : Nat) (h : 0 ≤ n) : 0 ≤ roundHalfEven n d := by
  have hq : 0 ≤ n / (d : Int) := Int.ediv_nonneg h (Int.natCast_nonneg d)
  unfold roundHalfEven
  simp only
  split_ifs <;> omega

/-- Quantization keeps an amount that is not negative so. -/
theorem quantizeMoney_nonneg {x : Decimal} (h : 0 ≤ x.coeff) : 0 ≤ quantizeMoney x := by
  unfold quantizeMoney
  split_ifs
  · exact Int.mul_nonneg h (pow_nonneg (by decide) _)
  · exact roundHalfEven_nonneg _ h

/-- The number that a decimal stands for. -/
def Decimal.value (x : Decimal) : ℚ := x.coeff * (10 : ℚ) ^ x.exp

/-- `min(a, b)` of two decimals: the first, unless the second is smaller. -/
def Decimal.min (a b : Decimal) : Decimal := if b.value < a.value then b else a

/-- The integer is the rational rounded half to even. -/
structure RoundsTo (x : ℚ) (q : Int) : Prop where
  lower : 2 * (q : ℚ) - 1 ≤ 2 * x
  upper : 2 * x ≤ 2 * q + 1
  even : 2 * x = 2 * q - 1 ∨ 2 * x = 2 * q + 1 → q % 2 = 0

theorem RoundsTo.mono {x y : ℚ} {q r : Int} (hx : RoundsTo x q) (hy : RoundsTo y r)
    (hxy : x ≤ y) : q ≤ r := by
  by_contra hlt
  have hle : r + 1 ≤ q := by omega
  have hcast : (r : ℚ) + 1 ≤ q := by exact_mod_cast hle
  -- both round the same midpoint, so both are even and yet neighbours
  have hlower := hx.lower
  have hupper := hy.upper
  have hq : (q : ℚ) = r + 1 := by linarith
  have hqr : q = r + 1 := by exact_mod_cast hq
  have hqe := hx.even (Or.inl (by linarith))
  have hre := hy.even (Or.inr (by linarith))
  omega

theorem roundHalfEven_roundsTo (n : Int) {d : Nat} (hd : 0 < d) :
    RoundsTo ((n : ℚ) / d) (roundHalfEven n d) := by
  have hpos : (0 : ℚ) < d := by exact_mod_cast hd
  have hspec : 2 * (roundHalfEven n d * d) - d ≤ 2 * n ∧ 2 * n ≤ 2 * (roundHalfEven n d * d) + d ∧
      (2 * n = 2 * (roundHalfEven n d * d) - d ∨ 2 * n = 2 * (roundHalfEven n d * d) + d →
        roundHalfEven n d % 2 = 0) := by
    have hmod := Int.emod_add_mul_ediv n d
    have hr0 := Int.emod_nonneg n (by omega : (d : Int) ≠ 0)
    have hrd := Int.emod_lt_of_pos n (by omega : (0 : Int) < d)
    have hsucc : (n / (d : Int) + 1) * d = d * (n / d) + d := by ring
    have hsame : n / (d : Int) * d = d * (n / d) := by ring
    unfold roundHalfEven
    simp only
    split_ifs <;> simp only [hsucc, hsame] <;> omega
  obtain ⟨hlower, hupper, heven⟩ := hspec
  have hcancel : (n : ℚ) / d * d = n := div_mul_cancel₀ _ hpos.ne'
  have hl : 2 * ((roundHalfEven n d : ℚ) * d) - d ≤ 2 * n := by exact_mod_cast hlower
  have hu : (2 : ℚ) * n ≤ 2 * ((roundHalfEven n d : ℚ) * d) + d := by exact_mod_cast hupper
  refine ⟨?_, ?_, ?_⟩
  · refine le_of_mul_le_mul_right ?_ hpos
    linarith
  · refine le_of_mul_le_mul_right ?_ hpos
    linarith
  · rintro (h | h)
    · refine heven (Or.inl ?_)
      have hmul : (2 : ℚ) * n = 2 * ((roundHalfEven n d : ℚ) * d) - d := by
        have hscaled : 2 * ((n : ℚ) / d) * d = (2 * roundHalfEven n d - 1) * d := by rw [h]
        linarith
      exact_mod_cast hmul
    · refine heven (Or.inr ?_)
      have hmul : (2 : ℚ) * n = 2 * ((roundHalfEven n d : ℚ) * d) + d := by
        have hscaled : 2 * ((n : ℚ) / d) * d = (2 * roundHalfEven n d + 1) * d := by rw [h]
        linarith
      exact_mod_cast hmul

/-- Quantization rounds the number of quanta half to even. -/
theorem quantizeMoney_roundsTo (x : Decimal) :
    RoundsTo (x.value * 10 ^ (12 : Int)) (quantizeMoney x) := by
  have hscale : x.value * 10 ^ (12 : Int) = x.coeff * (10 : ℚ) ^ (x.exp + 12) := by
    rw [Decimal.value, mul_assoc, ← zpow_add₀ (by norm_num)]
  rw [hscale]
  unfold quantizeMoney
  split_ifs with h
  · obtain ⟨k, hk⟩ : ∃ k : Nat, x.exp + 12 = k := ⟨(x.exp + 12).toNat, by omega⟩
    rw [hk, Int.toNat_natCast, zpow_natCast]
    have hexact : ((x.coeff * 10 ^ k : Int) : ℚ) = x.coeff * (10 : ℚ) ^ k := by push_cast; rfl
    rw [← hexact]
    refine ⟨by linarith, by linarith, ?_⟩
    rintro (h | h) <;> linarith
  · obtain ⟨k, hk⟩ : ∃ k : Nat, -12 - x.exp = k := ⟨(-12 - x.exp).toNat, by omega⟩
    have hexp : x.exp + 12 = -(k : Int) := by omega
    have hquotient : (x.coeff : ℚ) * 10 ^ (-(k : Int)) = x.coeff / ((10 ^ k : Nat) : ℚ) := by
      rw [zpow_neg, zpow_natCast, div_eq_mul_inv]
      push_cast
      rfl
    rw [hk, hexp, hquotient, Int.toNat_natCast]
    exact roundHalfEven_roundsTo _ (by positivity)

theorem quantizeMoney_mono {x y : Decimal} (h : x.value ≤ y.value) :
    quantizeMoney x ≤ quantizeMoney y :=
  (quantizeMoney_roundsTo x).mono (quantizeMoney_roundsTo y)
    (mul_le_mul_of_nonneg_right h (by positivity))

theorem Decimal.min_le_right (a b : Decimal) : (Decimal.min a b).value ≤ b.value := by
  unfold Decimal.min
  split_ifs with h
  · exact le_refl _
  · exact not_lt.mp h

/-- The decimal digits of a natural number. -/
def digits (n : Nat) : List Char := Nat.toDigits 10 n

/-- `str(amount)`: fixed notation from a millionth on, scientific notation below. -/
def decimalStr (m : Money) : String :=
  let ds := digits m.natAbs
  let sign := if m < 0 then ['-'] else []
  let body :=
    if 12 < ds.length then ds.take (ds.length - 12) ++ '.' :: ds.drop (ds.length - 12)
    else if 7 ≤ ds.length then '0' :: '.' :: (List.replicate (12 - ds.length) '0' ++ ds)
    else ds.take 1 ++ (if ds.length = 1 then [] else '.' :: ds.drop 1) ++
      'E' :: '-' :: digits (13 - ds.length)
  String.ofList (sign ++ body)

example : decimalStr (-10000000000000) = "-10.000000000000" := by decide +kernel

/-- `a / b` for positive amounts, as a coefficient of at most 28 digits and an exponent. -/
def decimalQuotient (a b : Nat) : Nat × Int :=
  let shifted (k : Int) : Int := roundHalfEven (a * 10 ^ k.toNat) (b * 10 ^ (-k).toNat)
  let k : Int := 28 + (digits b).length - (digits a).length
  if (a * 10 ^ k.toNat) / (b * 10 ^ (-k).toNat) < 10 ^ 28 then ((shifted k).toNat, -k)
  else ((shifted (k - 1)).toNat, -(k - 1))

/-- `a / b > ratio` for positive amounts, with the division rounded to 28 digits. -/
def quotientExceeds (a b : Nat) (ratio : Money) : Bool :=
  let q := decimalQuotient a b
  ratio * 10 ^ (-(q.2 + 12)).toNat < q.1 * 10 ^ (q.2 + 12).toNat

example : quotientExceeds 1000000000000 10000000000000 50000000000 = true := by decide +kernel

/-! ## The text of an amount -/

/-- The number that the digits before an exponent spell. -/
def mantissa (cs : List Char) : Nat :=
  Nat.ofDigitChars 10 ((cs.takeWhile (· ≠ 'E')).filter Char.isDigit) 0

/-- The text of an amount without its sign. -/
def amountBody (n : Nat) : List Char :=
  let ds := digits n
  if 12 < ds.length then ds.take (ds.length - 12) ++ '.' :: ds.drop (ds.length - 12)
  else if 7 ≤ ds.length then '0' :: '.' :: (List.replicate (12 - ds.length) '0' ++ ds)
  else ds.take 1 ++ (if ds.length = 1 then [] else '.' :: ds.drop 1) ++
    'E' :: '-' :: digits (13 - ds.length)

theorem decimalStr_eq (m : Money) :
    decimalStr m = String.ofList ((if m < 0 then ['-'] else []) ++ amountBody m.natAbs) := rfl

theorem digits_isDigit {n : Nat} {c : Char} (h : c ∈ digits n) : c.isDigit = true :=
  Nat.isDigit_of_mem_toDigits (by decide) (by decide) h

theorem digits_ne_E {n : Nat} {c : Char} (h : c ∈ digits n) : c ≠ 'E' := by
  rintro rfl
  exact absurd (digits_isDigit h) (by decide)

theorem filter_digits {n : Nat} {ds : List Char} (h : ds ⊆ digits n) :
    ds.filter Char.isDigit = ds :=
  List.filter_eq_self.mpr fun _ hc => digits_isDigit (h hc)

/-- An amount's text spells its absolute value. -/
theorem mantissa_amountBody (n : Nat) : mantissa (amountBody n) = n := by
  have hvalue : Nat.ofDigitChars 10 (digits n) 0 = n := Nat.ofDigitChars_ten_toDigits
  have htake : ∀ k, (digits n).take k ⊆ digits n := fun k => (List.take_subset k _)
  have hdrop : ∀ k, (digits n).drop k ⊆ digits n := fun k => (List.drop_subset k _)
  -- the notation for small amounts ends the digits with an exponent
  have hstop : ∀ ds rest : List Char, ds ⊆ '.' :: digits n →
      (ds ++ 'E' :: rest).takeWhile (· ≠ 'E') = ds := by
    intro ds rest hsub
    rw [List.takeWhile_append_of_pos]
    · simp
    · intro c hc
      rcases List.mem_cons.mp (hsub hc) with rfl | hmem
      · decide
      · simpa using digits_ne_E hmem
  unfold amountBody mantissa
  simp only
  split_ifs with hlong hshort hone
  · rw [List.takeWhile_eq_self_iff.mpr]
    · rw [List.filter_append, List.filter_cons_of_neg (by decide), filter_digits (htake _),
        filter_digits (hdrop _), List.take_append_drop, hvalue]
    · intro c hc
      simp only [List.mem_append, List.mem_cons] at hc
      rcases hc with hc | rfl | hc
      · simpa using digits_ne_E (htake _ hc)
      · decide
      · simpa using digits_ne_E (hdrop _ hc)
  · rw [List.takeWhile_eq_self_iff.mpr]
    · rw [List.filter_cons_of_pos (by decide), List.filter_cons_of_neg (by decide),
        List.filter_append, filter_digits (List.Subset.refl _),
        List.filter_eq_self.mpr fun c hc => by rw [List.eq_of_mem_replicate hc]; rfl,
        Nat.ofDigitChars_cons, Nat.ofDigitChars_append, Nat.ofDigitChars_replicate_zero]
      simpa using hvalue
    · intro c hc
      simp only [List.mem_append, List.mem_cons] at hc
      rcases hc with rfl | rfl | hc | hc
      · decide
      · decide
      · rw [List.eq_of_mem_replicate hc]
        decide
      · simpa using digits_ne_E hc
  · rw [List.append_nil, hstop _ _ fun c hc => List.mem_cons_of_mem _ (htake 1 hc),
      filter_digits (htake 1), List.take_of_length_le hone.le, hvalue]
  · rw [hstop, List.filter_append, List.filter_cons_of_neg (by decide), filter_digits (htake 1),
      filter_digits (hdrop 1), List.take_append_drop, hvalue]
    intro c hc
    simp only [List.mem_append, List.mem_cons] at hc ⊢
    rcases hc with hc | rfl | hc
    · exact Or.inr (htake 1 hc)
    · exact Or.inl rfl
    · exact Or.inr (hdrop 1 hc)

/-- A sign does not count. -/
theorem mantissa_signed (m : Money) :
    mantissa ((if m < 0 then ['-'] else []) ++ amountBody m.natAbs) = m.natAbs := by
  have hbody := mantissa_amountBody m.natAbs
  split_ifs
  · rwa [mantissa, List.singleton_append, List.takeWhile_cons_of_pos (by decide),
      List.filter_cons_of_neg (by decide)]
  · exact hbody

/-- The text of an amount determines it. -/
theorem decimalStr_injective : Function.Injective decimalStr := by
  intro m n h
  rw [decimalStr_eq, decimalStr_eq, String.ofList_inj] at h
  have habs : m.natAbs = n.natAbs := by
    rw [← mantissa_signed m, ← mantissa_signed n, h]
  rw [habs, List.append_cancel_right_eq] at h
  have hsigned : ∀ a b : Int, a.natAbs = b.natAbs → (a < 0 ↔ b < 0) → a = b := by omega
  refine hsigned m n habs ?_
  split_ifs at h with hm hn hn
  · exact iff_of_true hm hn
  · exact iff_of_false hm hn

/-- No amount is written as a `NaN`. -/
theorem decimalStr_ne_nan (m : Money) : decimalStr m ≠ "NaN" := by
  intro h
  have hzero : m.natAbs = 0 := by
    rw [← mantissa_signed m, ← String.toList_ofList (l := _ ++ _), ← decimalStr_eq, h]
    decide
  rw [Int.natAbs_eq_zero.mp hzero] at h
  exact absurd h (by decide +kernel)

end Governor.Ledger
