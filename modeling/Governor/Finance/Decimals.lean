import Mathlib
import Governor.Finance.Amounts

/-!
# Texts and quotients of decimals

The text of a decimal determines it: sign, coefficient and exponent can be read off its notation.
A quotient is correctly rounded to 28 digits, and compares with a hundredth as the exact one does
when the divisor has fewer digits.
-/

namespace Governor.Ledger

/-! ## The text of a number -/

namespace Decimal

/-- The text of a number without its sign. -/
def body (coeff : Nat) (exp : Int) : List Char :=
  let ds := digits coeff
  let left : Int := exp + ds.length
  let place : Int := if exp ≤ 0 ∧ -6 < left then left else 1
  let significand :=
    if place ≤ 0 then '0' :: '.' :: (List.replicate (-place).toNat '0' ++ ds)
    else if (ds.length : Int) ≤ place then ds
    else ds.take place.toNat ++ '.' :: ds.drop place.toNat
  let exponent :=
    if left = place then []
    else 'E' :: (if left < place then '-' else '+') :: digits (left - place).natAbs
  significand ++ exponent

theorem str_eq (x : Decimal) :
    x.str = String.ofList ((if x.coeff < 0 then ['-'] else []) ++ body x.coeff.natAbs x.exp) := by
  rw [str, body, List.append_assoc]

end Decimal

/-- The digits after the point, up to an exponent. -/
def fractionDigits (cs : List Char) : List Char :=
  ((cs.takeWhile (· ≠ 'E')).dropWhile (· ≠ '.')).tail

/-- The number after `E`, zero without one. -/
def exponentPart (cs : List Char) : Int :=
  match cs.dropWhile (· ≠ 'E') with
  | _ :: sign :: ds => (if sign = '-' then -1 else 1) * (Nat.ofDigitChars 10 ds 0 : Int)
  | _ => 0

/-- A number is written as digits, at most one point with digits behind it and, unless it is
zero, an exponent. -/
structure Written (cs whole fraction : List Char) (shift : Int) : Prop where
  whole_ne_nil : whole ≠ []
  whole_isDigit : ∀ c ∈ whole, c.isDigit = true
  fraction_isDigit : ∀ c ∈ fraction, c.isDigit = true
  text : cs = whole ++ (if fraction = [] then [] else '.' :: fraction) ++
    (if shift = 0 then [] else 'E' :: (if shift < 0 then '-' else '+') :: digits shift.natAbs)

section Written

variable {cs whole fraction : List Char} {shift : Int}

theorem Written.significand (h : Written cs whole fraction shift) :
    cs.takeWhile (· ≠ 'E') = whole ++ (if fraction = [] then [] else '.' :: fraction) ∧
      cs.dropWhile (· ≠ 'E') =
        if shift = 0 then []
        else 'E' :: (if shift < 0 then '-' else '+') :: digits shift.natAbs := by
  have hdigit : ∀ c : Char, c.isDigit = true → c ≠ 'E' := by
    rintro c hc rfl
    exact absurd hc (by decide)
  have hfree : ∀ c ∈ whole ++ (if fraction = [] then [] else '.' :: fraction),
      decide (c ≠ 'E') = true := by
    intro c hc
    rw [decide_eq_true_eq]
    rcases List.mem_append.mp hc with hc | hc
    · exact hdigit c (h.whole_isDigit c hc)
    · split_ifs at hc
      · cases hc
      · rcases List.mem_cons.mp hc with rfl | hc
        · decide
        · exact hdigit c (h.fraction_isDigit c hc)
  rw [h.text, List.takeWhile_append_of_pos hfree, List.dropWhile_append_of_pos hfree]
  split_ifs <;> simp

theorem Written.mantissa_eq (h : Written cs whole fraction shift) :
    mantissa cs = Nat.ofDigitChars 10 (whole ++ fraction) 0 := by
  have hself : ∀ ds : List Char, (∀ c ∈ ds, c.isDigit = true) → ds.filter Char.isDigit = ds :=
    fun ds hds => List.filter_eq_self.mpr hds
  rw [mantissa, h.significand.1, List.filter_append, hself _ h.whole_isDigit]
  split_ifs with hnil
  · rw [hnil, List.filter_nil]
  · rw [List.filter_cons_of_neg (by decide), hself _ h.fraction_isDigit]

theorem Written.fractionDigits_eq (h : Written cs whole fraction shift) :
    fractionDigits cs = fraction := by
  have hwhole : ∀ c ∈ whole, decide (c ≠ '.') = true := by
    intro c hc
    rw [decide_eq_true_eq]
    rintro rfl
    exact absurd (h.whole_isDigit _ hc) (by decide)
  rw [fractionDigits, h.significand.1, List.dropWhile_append_of_pos hwhole]
  split_ifs with hnil
  · rw [hnil]
    rfl
  · simp

theorem Written.exponentPart_eq (h : Written cs whole fraction shift) :
    exponentPart cs = shift := by
  rw [exponentPart, h.significand.2]
  split_ifs with hzero hneg
  · exact hzero.symm
  · simp only [Nat.ofDigitChars_ten_toDigits, digits, if_true]
    omega
  · simp only [Nat.ofDigitChars_ten_toDigits, digits]
    have hsign : ¬ '+' = '-' := by decide
    rw [if_neg hsign]
    omega

end Written

namespace Decimal

/-- The notation of a number: its digits are those of the coefficient, and point and exponent
together give the exponent. -/
theorem body_written (coeff : Nat) (exp : Int) :
    ∃ whole fraction shift, Written (body coeff exp) whole fraction shift ∧
      Nat.ofDigitChars 10 (whole ++ fraction) 0 = coeff ∧ shift - fraction.length = exp := by
  have hvalue : Nat.ofDigitChars 10 (digits coeff) 0 = coeff := Nat.ofDigitChars_ten_toDigits
  have hlength : 0 < (digits coeff).length := Nat.length_toDigits_pos
  have hne : digits coeff ≠ [] := List.length_pos_iff.mp hlength
  obtain ⟨left, hleft⟩ : ∃ left : Int, left = exp + (digits coeff).length := ⟨_, rfl⟩
  obtain ⟨place, hplace⟩ : ∃ place : Int, place = if exp ≤ 0 ∧ -6 < left then left else 1 :=
    ⟨_, rfl⟩
  have hcases : place = left ∧ exp ≤ 0 ∨ place = 1 := by
    rw [hplace]
    split_ifs with hfixed
    · exact Or.inl ⟨rfl, hfixed.1⟩
    · exact Or.inr rfl
  have hsuffix : (if left = place then [] else
        'E' :: (if left < place then '-' else '+') :: digits (left - place).natAbs) =
      if left - place = 0 then [] else
        'E' :: (if left - place < 0 then '-' else '+') :: digits (left - place).natAbs := by
    simp only [sub_eq_zero, sub_neg]
  simp only [body, ← hleft, ← hplace, hsuffix]
  by_cases hsmall : place ≤ 0
  · -- zeros between the point and the digits
    obtain ⟨rfl, -⟩ : place = left ∧ exp ≤ 0 := hcases.resolve_right (by omega)
    refine ⟨['0'], List.replicate (-place).toNat '0' ++ digits coeff, place - place,
      ⟨by simp, by simp, ?_, ?_⟩, ?_, ?_⟩
    · intro c hc
      rcases List.mem_append.mp hc with hc | hc
      · rw [List.eq_of_mem_replicate hc]
        rfl
      · exact digits_isDigit hc
    · simp [hsmall, hne]
    · rw [List.singleton_append, Nat.ofDigitChars_cons, Nat.ofDigitChars_append,
        Nat.ofDigitChars_replicate_zero]
      simpa using hvalue
    · rw [List.length_append, List.length_replicate]
      omega
  · by_cases hshort : ((digits coeff).length : Int) ≤ place
    · refine ⟨digits coeff, [], left - place, ⟨hne, fun c hc => digits_isDigit hc, by simp, ?_⟩,
        ?_, ?_⟩
      · simp [hsmall, hshort]
      · rwa [List.append_nil]
      · rw [List.length_nil]
        omega
    · -- the point stands among the digits
      have hdrop : (digits coeff).drop place.toNat ≠ [] := by
        rw [← List.length_pos_iff, List.length_drop]
        omega
      have htake : (digits coeff).take place.toNat ≠ [] := by
        rw [← List.length_pos_iff, List.length_take]
        omega
      refine ⟨(digits coeff).take place.toNat, (digits coeff).drop place.toNat, left - place,
        ⟨htake, fun c hc => digits_isDigit (List.mem_of_mem_take hc),
          fun c hc => digits_isDigit (List.mem_of_mem_drop hc), ?_⟩, ?_, ?_⟩
      · simp [hsmall, hshort, hdrop]
      · rwa [List.take_append_drop]
      · rw [List.length_drop]
        omega

/-- The text of a number determines its coefficient and its exponent. -/
theorem body_injective {coeff coeff' : Nat} {exp exp' : Int}
    (h : body coeff exp = body coeff' exp') : coeff = coeff' ∧ exp = exp' := by
  obtain ⟨whole, fraction, shift, hw, hcoeff, hexp⟩ := body_written coeff exp
  obtain ⟨whole', fraction', shift', hw', hcoeff', hexp'⟩ := body_written coeff' exp'
  rw [← h] at hw'
  constructor
  · rw [← hcoeff, ← hcoeff', ← hw.mantissa_eq, ← hw'.mantissa_eq]
  · rw [← hexp, ← hexp', ← hw.exponentPart_eq, ← hw'.exponentPart_eq, ← hw.fractionDigits_eq,
      ← hw'.fractionDigits_eq]

/-- A number begins with a digit. -/
theorem body_head (coeff : Nat) (exp : Int) :
    ∃ c rest, body coeff exp = c :: rest ∧ c.isDigit = true := by
  obtain ⟨whole, fraction, shift, hw, -⟩ := body_written coeff exp
  obtain ⟨c, rest, rfl⟩ := List.exists_cons_of_ne_nil hw.whole_ne_nil
  exact ⟨c, _, hw.text, hw.whole_isDigit c List.mem_cons_self⟩

/-- The text of a decimal determines it. -/
theorem str_injective : Function.Injective Decimal.str := by
  intro x y h
  rw [str_eq, str_eq, String.ofList_inj] at h
  obtain ⟨c, rest, hx, hc⟩ := body_head x.coeff.natAbs x.exp
  obtain ⟨c', rest', hy, hc'⟩ := body_head y.coeff.natAbs y.exp
  have hne : ∀ d : Char, d.isDigit = true → d ≠ '-' := by
    rintro d hd rfl
    exact absurd hd (by decide)
  have hsign : x.coeff < 0 ↔ y.coeff < 0 := by
    rw [hx, hy] at h
    by_cases hxneg : x.coeff < 0
    · by_cases hyneg : y.coeff < 0
      · exact iff_of_true hxneg hyneg
      · rw [if_pos hxneg, if_neg hyneg] at h
        exact absurd (List.cons.inj h).1.symm (hne c' hc')
    · by_cases hyneg : y.coeff < 0
      · rw [if_neg hxneg, if_pos hyneg] at h
        exact absurd (List.cons.inj h).1 (hne c hc)
      · exact iff_of_false hxneg hyneg
  rw [if_congr hsign rfl rfl] at h
  obtain ⟨hcoeff, hexp⟩ := body_injective (List.append_cancel_left h)
  obtain ⟨coeff, exp⟩ := x
  obtain ⟨coeff', exp'⟩ := y
  simp only [Decimal.mk.injEq]
  simp only at hsign hcoeff hexp
  exact ⟨by omega, hexp⟩

end Decimal

/-! ## Quotients -/

/-- A number is below the power of ten of its digits. -/
theorem lt_pow_digits (n : Nat) : n < 10 ^ (digits n).length :=
  (Nat.length_toDigits_le_iff (by decide) Nat.length_toDigits_pos).mp (le_refl _)

/-- A number has its first digit at a power of ten. -/
theorem pow_digits_le {n : Nat} (h : n ≠ 0) : 10 ^ ((digits n).length - 1) ≤ n := by
  rcases Nat.eq_zero_or_pos ((digits n).length - 1) with hone | hmore
  · rw [hone]
    exact Nat.pos_of_ne_zero h
  · have hlong : ¬ (digits n).length ≤ (digits n).length - 1 := by omega
    exact not_lt.mp (mt (Nat.length_toDigits_le_iff (by decide) hmore).mpr hlong)

/-- A quotient is rounded to a unit of which it has 28 digits. -/
structure QuotientRounded (a b : Nat) (q : Nat × Int) : Prop where
  roundsTo : RoundsTo ((a / b : ℚ) / 10 ^ q.2) q.1
  low : a ≠ 0 → (10 : ℚ) ^ 27 * 10 ^ q.2 ≤ a / b
  high : (a / b : ℚ) < 10 ^ 28 * 10 ^ q.2

/-- A quotient that is scaled by a power of ten before it is rounded. -/
theorem shifted_roundsTo (a : Nat) {b : Nat} (hb : 0 < b) (k : Int) :
    RoundsTo ((a / b : ℚ) / 10 ^ (-k))
      (roundHalfEven (a * 10 ^ k.toNat) (b * 10 ^ (-k).toNat)).toNat := by
  have hpos : 0 < b * 10 ^ (-k).toNat := by positivity
  have hrounds := roundHalfEven_roundsTo ((a : Int) * 10 ^ k.toNat) hpos
  have hscale : (10 : ℚ) ^ k.toNat = 10 ^ k * 10 ^ (-k).toNat := by
    rw [← zpow_natCast, ← zpow_natCast, ← zpow_add₀ (by norm_num)]
    congr 1
    omega
  have hvalue : (((a : Int) * 10 ^ k.toNat : Int) : ℚ) / ((b * 10 ^ (-k).toNat : Nat) : ℚ) =
      (a / b : ℚ) / 10 ^ (-k) := by
    have hbq : (b : ℚ) ≠ 0 := by exact_mod_cast hb.ne'
    push_cast
    rw [hscale, zpow_neg]
    field_simp
  rw [hvalue] at hrounds
  rwa [Int.toNat_of_nonneg (roundHalfEven_nonneg _ (by positivity))]

/-- The numbers of digits bound a quotient. -/
theorem quotient_digits {a b : Nat} (hb : 0 < b) :
    (a ≠ 0 → (10 : ℚ) ^ ((digits a).length - (digits b).length - 1 : Int) ≤ a / b) ∧
      (a / b : ℚ) < 10 ^ ((digits a).length - (digits b).length + 1 : Int) := by
  obtain ⟨i, hi⟩ : ∃ i, (digits a).length = i + 1 :=
    ⟨_, (Nat.succ_pred_eq_of_pos Nat.length_toDigits_pos).symm⟩
  obtain ⟨j, hj⟩ : ∃ j, (digits b).length = j + 1 :=
    ⟨_, (Nat.succ_pred_eq_of_pos Nat.length_toDigits_pos).symm⟩
  have ha' := lt_pow_digits a
  have hb' := lt_pow_digits b
  have hlow := pow_digits_le hb.ne'
  have hbq : (0 : ℚ) < b := by exact_mod_cast hb
  rw [hi] at ha'
  rw [hj] at hb' hlow
  rw [hi, hj]
  constructor
  · intro hne
    have ha := pow_digits_le hne
    rw [hi] at ha
    have hexp : ((i + 1 : Nat) : Int) - ((j + 1 : Nat) : Int) - 1 = i - (j + 1 : Nat) := by
      push_cast
      ring
    rw [hexp, zpow_sub₀ (by norm_num), zpow_natCast, zpow_natCast]
    have hale : (10 : ℚ) ^ i ≤ a := by exact_mod_cast ha
    have hblt : (b : ℚ) ≤ 10 ^ (j + 1) := by exact_mod_cast hb'.le
    exact div_le_div₀ (by positivity) hale hbq hblt
  · have hexp : ((i + 1 : Nat) : Int) - ((j + 1 : Nat) : Int) + 1 = (i + 1 : Nat) - j := by
      push_cast
      ring
    rw [hexp, zpow_sub₀ (by norm_num), zpow_natCast, zpow_natCast]
    have halt : (a : ℚ) < 10 ^ (i + 1) := by exact_mod_cast ha'
    have hble : (10 : ℚ) ^ j ≤ b := by exact_mod_cast hlow
    exact div_lt_div₀ halt hble (by positivity) (by positivity)

theorem decimalQuotient_rounded {a b : Nat} (hb : 0 < b) :
    QuotientRounded a b (decimalQuotient a b) := by
  obtain ⟨hlow, hhigh⟩ := quotient_digits (a := a) hb
  obtain ⟨k, hk⟩ : ∃ k : Int, k = 28 + (digits b).length - (digits a).length := ⟨_, rfl⟩
  have hbq : (0 : ℚ) < b := by exact_mod_cast hb
  -- the integer quotient has at most 28 digits when the exact one is below the next power
  have hcut : (a * 10 ^ k.toNat) / (b * 10 ^ (-k).toNat) < 10 ^ 28 ↔
      (a / b : ℚ) < 10 ^ 28 * 10 ^ (-k) := by
    have hscale : (10 : ℚ) ^ (-k) * 10 ^ k.toNat = 10 ^ (-k).toNat := by
      rw [← zpow_natCast, ← zpow_natCast, ← zpow_add₀ (by norm_num)]
      congr 1
      omega
    have hpos : (0 : ℚ) < 10 ^ k.toNat := by positivity
    have hreassoc : (10 : ℚ) ^ 28 * 10 ^ (-k) * b * 10 ^ k.toNat =
        10 ^ 28 * (b * (10 ^ (-k) * 10 ^ k.toNat)) := by ring
    rw [Nat.div_lt_iff_lt_mul (by positivity), div_lt_iff₀ hbq, ← mul_lt_mul_iff_left₀ hpos,
      hreassoc, hscale]
    exact_mod_cast Iff.rfl
  simp only [decimalQuotient, ← hk]
  split_ifs with hshort
  · refine ⟨shifted_roundsTo a hb k, ?_, hcut.mp hshort⟩
    intro hne
    have hexp : (27 : Int) + -k = (digits a).length - (digits b).length - 1 := by omega
    have hunit : (10 : ℚ) ^ 27 * 10 ^ (-k) = 10 ^ ((27 : Int) + -k) := by
      rw [zpow_add₀ (by norm_num)]
      rfl
    rw [hunit, hexp]
    exact hlow hne
  · refine ⟨shifted_roundsTo a hb (k - 1), fun _ => ?_, ?_⟩
    · have hunit : (10 : ℚ) ^ 27 * 10 ^ (-(k - 1)) = 10 ^ 28 * 10 ^ (-k) := by
        rw [neg_sub, sub_eq_add_neg, zpow_add₀ (by norm_num)]
        ring
      rw [hunit]
      exact not_lt.mp (mt hcut.mpr hshort)
    · have hexp : (28 : Int) + -(k - 1) = (digits a).length - (digits b).length + 1 := by omega
      have hunit : (10 : ℚ) ^ 28 * 10 ^ (-(k - 1)) = 10 ^ ((28 : Int) + -(k - 1)) := by
        rw [zpow_add₀ (by norm_num)]
        rfl
      rw [hunit, hexp]
      exact hhigh

/-- At a fine unit a hundredth is a whole number of units. -/
theorem exists_hundredth_units {e : Int} (h : e ≤ -29) : ∃ n : Nat, (n : ℚ) * 10 ^ e = 1 / 100 := by
  refine ⟨10 ^ (-2 - e).toNat, ?_⟩
  push_cast
  rw [← zpow_natCast, Int.toNat_of_nonneg (by omega), ← zpow_add₀ (by norm_num)]
  norm_num

section Hundredth

variable {a b : Nat} {q : Nat × Int}

theorem QuotientRounded.le_hundredth (hq : QuotientRounded a b q) (hb : 0 < b)
    (hle : 100 * a ≤ b) : (q.1 : ℚ) * 10 ^ q.2 ≤ 1 / 100 := by
  have hu : (0 : ℚ) < 10 ^ q.2 := by positivity
  have hbq : (0 : ℚ) < b := by exact_mod_cast hb
  have hlower := hq.roundsTo.lower
  push_cast at hlower
  have hquot : (a / b : ℚ) ≤ 1 / 100 := by
    have hcast : (100 * a : ℚ) ≤ b := by exact_mod_cast hle
    rw [div_le_iff₀ hbq]
    linarith
  rcases eq_or_ne a 0 with rfl | hne
  · have hzero : q.1 = 0 := by
      have hcast : (2 * q.1 : ℚ) ≤ 1 := by simpa using hlower
      have hnat : 2 * q.1 ≤ 1 := by exact_mod_cast hcast
      omega
    rw [hzero]
    norm_num
  · have hfine : q.2 ≤ -29 := by
      by_contra hcoarse
      have hunit : (10 : ℚ) ^ (-28 : Int) ≤ 10 ^ q.2 :=
        zpow_le_zpow_right₀ (by norm_num) (by omega)
      have hlow := hq.low hne
      norm_num [zpow_neg] at hunit hlow
      linarith
    obtain ⟨n, hn⟩ := exists_hundredth_units hfine
    have hunits : (a / b : ℚ) / 10 ^ q.2 ≤ n := by rwa [div_le_iff₀ hu, hn]
    have hcast : (2 * q.1 : ℚ) ≤ 2 * n + 1 := by linarith
    have hnat : 2 * q.1 ≤ 2 * n + 1 := by exact_mod_cast hcast
    have hqn : (q.1 : ℚ) ≤ n := by exact_mod_cast (by omega : q.1 ≤ n)
    rw [← hn]
    exact mul_le_mul_of_nonneg_right hqn hu.le

/-- A quotient above a hundredth is so by more than the rounding takes. -/
theorem QuotientRounded.hundredth_lt (hq : QuotientRounded a b q) (hb : 0 < b)
    (hshort : b < 10 ^ 27) (hmore : b < 100 * a) : 1 / 100 < (q.1 : ℚ) * 10 ^ q.2 := by
  have hu : (0 : ℚ) < 10 ^ q.2 := by positivity
  have hbq : (0 : ℚ) < b := by exact_mod_cast hb
  have hupper := hq.roundsTo.upper
  push_cast at hupper
  have hstep : 1 / 100 + 1 / (10 : ℚ) ^ 29 < a / b := by
    have hab : (b : ℚ) + 1 ≤ 100 * a := by exact_mod_cast hmore
    have hcast : (b : ℚ) < (10 : ℚ) ^ 27 := by exact_mod_cast hshort
    have hsplit : (1 / 100 + 1 / (10 : ℚ) ^ 29) * b = b / 100 + b / 10 ^ 27 / 100 := by ring
    have hone : (b : ℚ) / 10 ^ 27 < 1 := (div_lt_one (by positivity)).mpr hcast
    rw [lt_div_iff₀ hbq, hsplit]
    linarith
  by_cases hfine : q.2 ≤ -29
  · obtain ⟨n, hn⟩ := exists_hundredth_units hfine
    have hunit : (10 : ℚ) ^ q.2 ≤ 1 / 10 ^ 29 := by
      have hmono : (10 : ℚ) ^ q.2 ≤ 10 ^ (-29 : Int) := zpow_le_zpow_right₀ (by norm_num) hfine
      simpa [zpow_neg] using hmono
    have hnext : (n + 1 : ℚ) < (a / b) / 10 ^ q.2 := by
      rw [lt_div_iff₀ hu, add_mul, hn, one_mul]
      linarith
    have hlt : (n : ℚ) < q.1 := by
      have hcast : (2 * n + 1 : ℚ) < 2 * q.1 := by linarith
      have hnat : 2 * n + 1 < 2 * q.1 := by exact_mod_cast hcast
      exact_mod_cast (by omega : n < q.1)
    rw [← hn]
    exact mul_lt_mul_of_pos_right hlt hu
  · have hne : a ≠ 0 := by
      rintro rfl
      omega
    have hcoarse : (10 : ℚ) ^ (-28 : Int) ≤ 10 ^ q.2 :=
      zpow_le_zpow_right₀ (by norm_num) (by omega)
    have hmany : (10 : ℚ) ^ 27 ≤ (a / b) / 10 ^ q.2 := (le_div_iff₀ hu).mpr (hq.low hne)
    have hcoeff : (10 : ℚ) ^ 27 - 1 ≤ q.1 := by linarith
    have hprod : ((10 : ℚ) ^ 27 - 1) * 10 ^ (-28 : Int) ≤ q.1 * 10 ^ q.2 :=
      mul_le_mul hcoeff hcoarse (by positivity) (by positivity)
    norm_num [zpow_neg] at hprod ⊢
    linarith

/-- A quotient by at most 27 digits compares with a hundredth as it does before the rounding. -/
theorem QuotientRounded.le_hundredth_iff (hq : QuotientRounded a b q) (hb : 0 < b)
    (hshort : b < 10 ^ 27) : (q.1 : ℚ) * 10 ^ q.2 ≤ 1 / 100 ↔ 100 * a ≤ b := by
  refine ⟨fun hle => ?_, hq.le_hundredth hb⟩
  by_contra hmore
  exact absurd (hq.hundredth_lt hb hshort (not_le.mp hmore)) (not_lt.mpr hle)

end Hundredth

/-- A quotient by at most 27 digits exceeds a hundredth when the numbers do. -/
theorem quotientExceeds_hundredth {a b : Nat} (hb : 0 < b) (hshort : b < 10 ^ 27) :
    quotientExceeds a b 10000000000 = false ↔ 100 * a ≤ b := by
  obtain ⟨q, hq⟩ : ∃ q, q = decimalQuotient a b := ⟨_, rfl⟩
  have hrounded := hq ▸ decimalQuotient_rounded (a := a) hb
  rw [← hrounded.le_hundredth_iff hb hshort, quotientExceeds, ← hq]
  simp only [decide_eq_false_iff_not, not_lt]
  -- both sides in units of the finer of the two scales
  have hscale : (10 : ℚ) ^ (q.2 + 12).toNat =
      10 ^ q.2 * 10 ^ (12 : Int) * 10 ^ (-(q.2 + 12)).toNat := by
    rw [← zpow_natCast, ← zpow_natCast, ← zpow_add₀ (by norm_num), ← zpow_add₀ (by norm_num)]
    congr 1
    omega
  have hpos : (0 : ℚ) < 10 ^ (-(q.2 + 12)).toNat := by positivity
  have hcast : ((q.1 * 10 ^ (q.2 + 12).toNat : Int) ≤ 10000000000 * 10 ^ (-(q.2 + 12)).toNat) ↔
      (q.1 : ℚ) * 10 ^ (q.2 + 12).toNat ≤ 10000000000 * 10 ^ (-(q.2 + 12)).toNat := by
    exact_mod_cast Iff.rfl
  have hsplit : (q.1 : ℚ) * (10 ^ q.2 * 10 ^ (12 : Int) * 10 ^ (-(q.2 + 12)).toNat) =
      q.1 * 10 ^ q.2 * 10 ^ 12 * 10 ^ (-(q.2 + 12)).toNat := by
    norm_num
    ring
  rw [hcast, hscale, hsplit, mul_le_mul_iff_left₀ hpos]
  constructor <;> intro h <;> linarith

namespace Decimal

theorem value_eq_zero {x : Decimal} : x.value = 0 ↔ x.coeff = 0 := by
  have hu : (10 : ℚ) ^ x.exp ≠ 0 := by positivity
  simp [value, hu]

/-- The coefficient at a finer scale counts the units of the value. -/
theorem natAbs_coeffAt (x : Decimal) {exp : Int} (h : exp ≤ x.exp) :
    ((x.coeffAt exp).natAbs : ℚ) * 10 ^ exp = |x.value| := by
  rw [← x.coeffAt_value h, abs_mul, abs_of_pos (a := (10 : ℚ) ^ exp) (by positivity),
    Nat.cast_natAbs, Int.cast_abs]

end Decimal

end Governor.Ledger
