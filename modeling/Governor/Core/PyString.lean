import Mathlib
import Governor.Core.JsonOrder

/-!
# Python strings and their ASCII escapes

A Python `str` is a list of code points, surrogates included. The ASCII escape writes the UTF-16
code units of a string one after the other and reads back as these. They determine a string in
which no high surrogate stands before a low one; otherwise the two are written as the character
that they encode together.
-/

namespace Governor

/-- A code point: a character or a surrogate. -/
abbrev CodePoint := Fin 1114112

/-- Python's `str`. -/
abbrev PyString := List CodePoint

/-- A UTF-16 code unit. -/
abbrev CodeUnit := Fin 65536

namespace PyString

open Json (hex4 hexDigit)

/-- A code unit that begins a surrogate pair. -/
def IsHigh (n : Nat) : Prop := 55296 ≤ n ∧ n < 56320

/-- A code unit that ends a surrogate pair. -/
def IsLow (n : Nat) : Prop := 56320 ≤ n ∧ n < 57344

instance (n : Nat) : Decidable (IsHigh n) := inferInstanceAs (Decidable (_ ∧ _))

instance (n : Nat) : Decidable (IsLow n) := inferInstanceAs (Decidable (_ ∧ _))

/-- No high surrogate stands directly before a low one. -/
def Paired (s : PyString) : Prop := s.IsChain fun c d => ¬ (IsHigh c.val ∧ IsLow d.val)

instance (s : PyString) : Decidable (Paired s) := inferInstanceAs (Decidable (List.IsChain _ s))

/-- The ASCII escape of one code point; above the basic plane a surrogate pair. -/
def escapeCode (c : CodePoint) : List Char :=
  if c.val = 34 then ['\\', '"']
  else if c.val = 92 then ['\\', '\\']
  else if c.val = 10 then ['\\', 'n']
  else if c.val = 13 then ['\\', 'r']
  else if c.val = 9 then ['\\', 't']
  else if c.val = 8 then ['\\', 'b']
  else if c.val = 12 then ['\\', 'f']
  else if 32 ≤ c.val ∧ c.val ≤ 126 then [Char.ofNat c.val]
  else if c.val < 65536 then '\\' :: 'u' :: hex4 c.val
  else '\\' :: 'u' :: (hex4 (55296 + (c.val - 65536) / 1024) ++
    '\\' :: 'u' :: hex4 (56320 + (c.val - 65536) % 1024))

/-- The literal of a string. -/
def literal (s : PyString) : List Char := '"' :: (s.flatMap escapeCode ++ ['"'])

/-! ## Code units -/

/-- The UTF-16 code units of one code point. -/
def codeUnits (c : CodePoint) : List CodeUnit :=
  if h : c.val < 65536 then [⟨c.val, h⟩]
  else [⟨55296 + (c.val - 65536) / 1024, by omega⟩, ⟨56320 + (c.val - 65536) % 1024, by omega⟩]

/-- The UTF-16 form of a string. -/
def utf16 (s : PyString) : List CodeUnit := s.flatMap codeUnits

/-- Read UTF-16, with surrogate pairs as the characters that they encode. -/
def decode : List CodeUnit → PyString
  | u :: v :: rest =>
    if h : IsHigh u.val ∧ IsLow v.val then
      ⟨65536 + (u.val - 55296) * 1024 + (v.val - 56320), by
        obtain ⟨⟨_, _⟩, _, _⟩ := h; omega⟩ :: decode rest
    else ⟨u.val, by omega⟩ :: decode (v :: rest)
  | [u] => [⟨u.val, by omega⟩]
  | [] => []

/-- The first code unit of a string is a low surrogate only where its first code point is. -/
theorem codeUnits_head (d : CodePoint) :
    ∃ e rest, codeUnits d = e :: rest ∧ (IsLow e.val → IsLow d.val) := by
  unfold codeUnits
  split_ifs with hd
  · exact ⟨_, _, rfl, id⟩
  · refine ⟨_, _, rfl, ?_⟩
    rintro ⟨hlow, -⟩
    simp only at hlow
    omega

/-- Without a split pair a string is read back from its code units. -/
theorem decode_utf16 {s : PyString} (h : Paired s) : decode (utf16 s) = s := by
  induction s with
  | nil => rfl
  | cons c s ih =>
    have hs := ih h.tail
    rw [utf16, List.flatMap_cons, ← utf16]
    by_cases hc : c.val < 65536
    · simp only [codeUnits, hc, dite_true, List.singleton_append]
      cases s with
      | nil => rfl
      | cons d s =>
        obtain ⟨e, rest, he, hlow⟩ := codeUnits_head d
        have hpair : ¬ (IsHigh c.val ∧ IsLow e.val) := fun hce =>
          (List.isChain_cons_cons.mp h).1 ⟨hce.1, hlow hce.2⟩
        rw [utf16, List.flatMap_cons, he, List.cons_append] at hs ⊢
        rw [decode, dif_neg hpair, hs]
    · have hbound := c.isLt
      have hpair : IsHigh (55296 + (c.val - 65536) / 1024) ∧
          IsLow (56320 + (c.val - 65536) % 1024) := by
        unfold IsHigh IsLow
        omega
      simp only [codeUnits, hc, dite_false, List.cons_append, List.nil_append, decode, hpair,
        and_self, dite_true, hs]
      refine List.cons_eq_cons.mpr ⟨Fin.ext ?_, rfl⟩
      simp only
      omega

theorem utf16_inj {s t : PyString} (hs : Paired s) (ht : Paired t) (h : utf16 s = utf16 t) :
    s = t := by
  rw [← decode_utf16 hs, ← decode_utf16 ht, h]

/-! ## Escapes -/

/-- The escape of one code unit. -/
def escapeUnit (u : CodeUnit) : List Char := escapeCode ⟨u.val, by omega⟩

/-- A code point is escaped as its code units are. -/
theorem escapeCode_eq (c : CodePoint) : escapeCode c = (codeUnits c).flatMap escapeUnit := by
  by_cases hc : c.val < 65536
  · simp only [codeUnits, hc, dite_true, List.flatMap_cons, List.flatMap_nil, List.append_nil]
    rfl
  · have hhigh : ∀ u : CodeUnit, 126 < u.val → escapeUnit u = '\\' :: 'u' :: hex4 u.val := by
      intro u hu
      unfold escapeUnit escapeCode
      simp only
      split_ifs <;> first | rfl | omega
    simp only [codeUnits, hc, dite_false, List.flatMap_cons, List.flatMap_nil, List.append_nil]
    rw [hhigh _ (by simp only; omega), hhigh _ (by simp only; omega)]
    unfold escapeCode
    split_ifs <;> first | rfl | omega

/-- The value of one hexadecimal digit. -/
def unhex (c : Char) : Nat := if c.toNat < 58 then c.toNat - 48 else c.toNat - 87

private theorem toNat_hexDigit {n : Nat} (h : n < 16) :
    (hexDigit n).toNat = if n < 10 then 48 + n else 87 + n := by
  interval_cases n <;> rfl

theorem unhex_hexDigit {n : Nat} (h : n < 16) : unhex (hexDigit n) = n := by
  rw [unhex, toNat_hexDigit h]
  split_ifs <;> omega

/-- The number written by four hexadecimal digits. -/
def unhex4 (a b c d : Char) : Nat := unhex a * 4096 + unhex b * 256 + unhex c * 16 + unhex d

theorem unhex4_digits {n : Nat} (h : n < 65536) :
    unhex4 (hexDigit (n / 4096 % 16)) (hexDigit (n / 256 % 16)) (hexDigit (n / 16 % 16))
      (hexDigit (n % 16)) = n := by
  simp only [unhex4, unhex_hexDigit (Nat.mod_lt _ (by decide : 0 < 16))]
  omega

/-- Read one code unit back. -/
def unescape : List Char → Option (Nat × List Char)
  | '\\' :: 'u' :: a :: b :: c :: d :: rest => some (unhex4 a b c d, rest)
  | '\\' :: 'n' :: rest => some (10, rest)
  | '\\' :: 'r' :: rest => some (13, rest)
  | '\\' :: 't' :: rest => some (9, rest)
  | '\\' :: 'b' :: rest => some (8, rest)
  | '\\' :: 'f' :: rest => some (12, rest)
  | '\\' :: c :: rest => some (c.toNat, rest)
  | c :: rest => some (c.toNat, rest)
  | [] => none

private theorem unescape_plain {c : Char} (h : c ≠ '\\') (rest : List Char) :
    unescape (c :: rest) = some (c.toNat, rest) := by
  unfold unescape
  split <;> simp_all

private theorem ofNat_ne {n : Nat} {c : Char} (hn : n < 55296) (h : n ≠ c.toNat) :
    Char.ofNat n ≠ c := by
  rintro rfl
  rw [Char.toNat_ofNat, if_pos (Or.inl hn)] at h
  exact h rfl

/-- Every escape reads back as the code unit that it was made from. -/
theorem unescape_escapeUnit (u : CodeUnit) (rest : List Char) :
    unescape (escapeUnit u ++ rest) = some (u.val, rest) := by
  unfold escapeUnit escapeCode
  simp only
  split_ifs with h1 h2 h3 h4 h5 h6 h7 h8 h9
  · rw [h1]; rfl
  · rw [h2]; rfl
  · rw [h3]; rfl
  · rw [h4]; rfl
  · rw [h5]; rfl
  · rw [h6]; rfl
  · rw [h7]; rfl
  · rw [List.singleton_append, unescape_plain (ofNat_ne (by omega) h2), Char.toNat_ofNat,
      if_pos (Or.inl (by omega))]
  · simp only [hex4, List.cons_append, List.nil_append, unescape, unhex4_digits h9]
  · omega

/-- No escape begins with the quote that closes a literal. -/
theorem escapeUnit_head (u : CodeUnit) : ∃ x xs, escapeUnit u = x :: xs ∧ x ≠ '"' := by
  unfold escapeUnit escapeCode
  simp only
  split_ifs with h1 h2 h3 h4 h5 h6 h7 h8 h9
  iterate 7 exact ⟨_, _, rfl, by decide⟩
  · exact ⟨_, _, rfl, ofNat_ne (by omega) h1⟩
  · exact ⟨_, _, rfl, by decide⟩
  · exact ⟨_, _, rfl, by decide⟩

private theorem escape_unique {us vs : List CodeUnit} {r r' : List Char}
    (h : us.flatMap escapeUnit ++ '"' :: r = vs.flatMap escapeUnit ++ '"' :: r') :
    us = vs ∧ r = r' := by
  induction us generalizing vs with
  | nil =>
    cases vs with
    | nil => simpa using h
    | cons v vs =>
      obtain ⟨x, xs, hx, hq⟩ := escapeUnit_head v
      simp [hx] at h
      exact absurd h.1.symm hq
  | cons u us ih =>
    cases vs with
    | nil =>
      obtain ⟨x, xs, hx, hq⟩ := escapeUnit_head u
      simp [hx] at h
      exact absurd h.1 hq
    | cons v vs =>
      simp only [List.flatMap_cons, List.append_assoc] at h
      have hu := congrArg unescape h
      rw [unescape_escapeUnit, unescape_escapeUnit, Option.some.injEq, Prod.mk.injEq] at hu
      obtain ⟨rfl, rfl⟩ := ih hu.2
      exact ⟨by rw [Fin.ext hu.1], rfl⟩

/-- Code units in quotes are read back as they are. -/
def unitLiterals : JsonValue.Literals (List CodeUnit) where
  text us := '"' :: (us.flatMap escapeUnit ++ ['"'])
  opens _ := ⟨_, rfl⟩
  unique h := by
    simp only [List.cons_append, List.append_assoc, List.nil_append, List.cons.injEq,
      true_and] at h
    exact escape_unique h

/-- A string is written as its code units are. -/
theorem literal_eq (s : PyString) : literal s = unitLiterals.text (utf16 s) := by
  have hescape : escapeCode = fun c => (codeUnits c).flatMap escapeUnit := funext escapeCode_eq
  simp only [literal, unitLiterals, utf16, List.flatMap_assoc, hescape]

end PyString

/-! ## Values -/

/-- A JSON value as Python holds it. -/
abbrev PyJson := JsonValue PyString

namespace PyJson

open Json (Separators)

/-- `json.dumps(value, sort_keys=True, separators=…)`. -/
def dumps (sep : Separators) (a : PyJson) : String :=
  String.ofList (a.sortKeys.render PyString.literal sep)

/-- No string and no key of a value splits a surrogate pair. -/
def Paired (a : PyJson) : Prop := ∀ s ∈ a.strings, PyString.Paired s

theorem Paired.sortKeys {a : PyJson} (h : Paired a) : Paired a.sortKeys :=
  fun s hs => h s (JsonValue.mem_strings_sortKeys.mp hs)

theorem render_literal_eq (sep : Separators) (a : PyJson) :
    a.render PyString.literal sep =
      (a.map PyString.utf16).render PyString.unitLiterals.text sep := by
  rw [JsonValue.render_map, funext PyString.literal_eq]

/-- Two texts are equal when the values have the same code units in key order. -/
theorem dumps_eq_iff (sep : Separators) (a b : PyJson) :
    dumps sep a = dumps sep b ↔
      a.sortKeys.map PyString.utf16 = b.sortKeys.map PyString.utf16 := by
  rw [dumps, dumps, String.ofList_inj, render_literal_eq, render_literal_eq]
  refine ⟨fun h => ?_, fun h => by rw [h]⟩
  have hstop : JsonValue.Stops [] := by simp [JsonValue.Stops]
  have happend := congrArg (· ++ []) h
  exact (JsonValue.render_unique _ sep _ _ hstop hstop happend).1

/-- Without split pairs the text determines the value up to the order of the keys. -/
theorem dumps_eq_iff_equal (sep : Separators) {a b : PyJson} (hkeys : a.DistinctKeys)
    (ha : Paired a) (hb : Paired b) : dumps sep a = dumps sep b ↔ JsonValue.Equal a b := by
  rw [dumps_eq_iff, JsonValue.equal_iff_sortKeys_eq hkeys]
  refine ⟨fun h => ?_, fun h => by rw [h]⟩
  exact JsonValue.map_inj_on (fun s hs t ht => PyString.utf16_inj (ha.sortKeys s hs)
    (hb.sortKeys t ht)) h

end PyJson

end Governor
