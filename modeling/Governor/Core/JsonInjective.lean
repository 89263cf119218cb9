import Mathlib
import Governor.Core.PyString

/-!
# The canonical text determines the value

The strings of a `Json` value are Python's strings without surrogates. It has the text of the
value with these strings, so `dumps` is injective on values up to key order.
-/

namespace Governor

/-! ## Strings without surrogates -/

private theorem toNat_ranges (c : Char) :
    c.toNat < 55296 ∨ 57343 < c.toNat ∧ c.toNat < 1114112 := by
  have h := c.valid
  simpa [UInt32.isValidChar, Nat.isValidChar] using h

/-- A character as a code point. -/
def code (c : Char) : CodePoint := ⟨c.toNat, by have h := toNat_ranges c; omega⟩

/-- A string as Python holds it. -/
def codes (s : String) : PyString := s.toList.map code

theorem code_strictMono {c d : Char} (h : c < d) : code c < code d := by
  rw [Char.lt_def, UInt32.lt_iff_toNat_lt] at h
  exact Fin.lt_def.mpr h

theorem codes_strictMono : StrictMono codes := by
  intro s t h
  rw [String.lt_iff_toList_lt] at h
  exact List.map_lt (fun _ _ => code_strictMono) h

theorem codes_paired (s : String) : (codes s).Paired := by
  refine (List.pairwise_of_forall_mem_list ?_).isChain
  intro c hc d _ hpair
  obtain ⟨x, -, rfl⟩ := List.mem_map.mp hc
  have hx := toNat_ranges x
  obtain ⟨⟨hlow, hhigh⟩, -⟩ := hpair
  simp only [code] at hlow hhigh
  omega

namespace Json

/-- Characters are escaped as their code points are. -/
theorem escapeChar_eq (c : Char) : escapeChar c = PyString.escapeCode (code c) := by
  have heq : ∀ d : Char, c = d ↔ c.toNat = d.toNat := fun d => Char.toNat_inj.symm
  simp only [escapeChar, PyString.escapeCode, code, heq, Char.ofNat_toNat]
  rfl

theorem renderString_eq (s : String) : renderString s = (codes s).literal := by
  rw [renderString, PyString.literal, codes, List.flatMap_map, funext escapeChar_eq]

/-! ## Values -/

mutual

/-- The value with Python's strings. -/
def toPy : Json → PyJson
  | .null => .null
  | .bool b => .bool b
  | .int n => .int n
  | .float x => .float x
  | .str s => .str (codes s)
  | .arr xs => .arr (toPyItems xs)
  | .obj fs => .obj (toPyFields fs)

def toPyItems : List Json → List PyJson
  | [] => []
  | x :: xs => toPy x :: toPyItems xs

def toPyFields : List (String × Json) → List (PyString × PyJson)
  | [] => []
  | (k, v) :: fs => (codes k, toPy v) :: toPyFields fs

end

theorem toPyFields_eq (fs : List (String × Json)) :
    toPyFields fs = fs.map (Prod.map codes toPy) := by
  induction fs with
  | nil => rfl
  | cons f fs ih =>
    obtain ⟨k, v⟩ := f
    rw [toPyFields, ih, List.map_cons, Prod.map_apply]

mutual

/-- Different values stay different. -/
theorem toPy_injective : ∀ a b : Json, toPy a = toPy b → a = b
  | .null, b, h => by cases b <;> first | rfl | cases h
  | .bool c, b, h => by cases b <;> first | (cases h; rfl) | cases h
  | .int n, b, h => by cases b <;> first | (cases h; rfl) | cases h
  | .float x, b, h => by cases b <;> first | (cases h; rfl) | cases h
  | .str s, b, h => by
    cases b with
    | str t => rw [codes_strictMono.injective (JsonValue.str.inj h)]
    | _ => cases h
  | .arr xs, b, h => by
    cases b with
    | arr ys => rw [toPyItems_injective xs ys (JsonValue.arr.inj h)]
    | _ => cases h
  | .obj fs, b, h => by
    cases b with
    | obj gs => rw [toPyFields_injective fs gs (JsonValue.obj.inj h)]
    | _ => cases h

theorem toPyItems_injective : ∀ xs ys : List Json, toPyItems xs = toPyItems ys → xs = ys
  | [], [], _ => rfl
  | [], _ :: _, h => by cases h
  | _ :: _, [], h => by cases h
  | x :: xs, y :: ys, h => by
    obtain ⟨hx, hxs⟩ := List.cons.inj h
    rw [toPy_injective x y hx, toPyItems_injective xs ys hxs]

theorem toPyFields_injective : ∀ fs gs : List (String × Json), toPyFields fs = toPyFields gs →
    fs = gs
  | [], [], _ => rfl
  | [], (_, _) :: _, h => by cases h
  | (_, _) :: _, [], h => by cases h
  | (k, v) :: fs, (l, w) :: gs, h => by
    obtain ⟨hfield, hfs⟩ := List.cons.inj h
    obtain ⟨hk, hv⟩ := Prod.mk.inj hfield
    rw [codes_strictMono.injective hk, toPy_injective v w hv, toPyFields_injective fs gs hfs]

end

mutual

/-- The value has no surrogates. -/
theorem toPy_paired : ∀ (a : Json), ∀ s ∈ (toPy a).strings, s.Paired
  | .null, s, h | .bool _, s, h | .int _, s, h | .float _, s, h => by cases h
  | .str t, s, h => by
    rw [List.mem_singleton.mp h]
    exact codes_paired t
  | .arr xs, s, h => toPyItems_paired xs s h
  | .obj fs, s, h => toPyFields_paired fs s h

theorem toPyItems_paired : ∀ (xs : List Json),
    ∀ s ∈ JsonValue.stringsItems (toPyItems xs), s.Paired
  | [], s, h => by cases h
  | x :: xs, s, h => (List.mem_append.mp h).elim (toPy_paired x s) (toPyItems_paired xs s)

theorem toPyFields_paired : ∀ (fs : List (String × Json)),
    ∀ s ∈ JsonValue.stringsFields (toPyFields fs), s.Paired
  | [], s, h => by cases h
  | (k, v) :: fs, s, h => by
    rcases List.mem_cons.mp h with rfl | h
    · exact codes_paired k
    · exact (List.mem_append.mp h).elim (toPy_paired v s) (toPyFields_paired fs s)

end

mutual

/-- It has the same text. -/
theorem render_toPy (sep : Separators) : ∀ a : Json,
    (toPy a).render PyString.literal sep = render sep a
  | .null | .bool true | .bool false | .int _ | .float _ | .arr [] | .obj [] => rfl
  | .str s => (renderString_eq s).symm
  | .arr (x :: xs) => by
    simp only [toPy, toPyItems, JsonValue.render, render, render_toPy sep x,
      renderItems_toPy sep xs]
  | .obj ((k, v) :: fs) => by
    simp only [toPy, toPyFields, JsonValue.render, render, render_toPy sep v,
      renderFields_toPy sep fs, renderString_eq]

theorem renderItems_toPy (sep : Separators) : ∀ xs : List Json,
    JsonValue.renderItems PyString.literal sep (toPyItems xs) = renderItems sep xs
  | [] => rfl
  | x :: xs => by
    simp only [toPyItems, JsonValue.renderItems, renderItems, render_toPy sep x,
      renderItems_toPy sep xs]

theorem renderFields_toPy (sep : Separators) : ∀ fs : List (String × Json),
    JsonValue.renderFields PyString.literal sep (toPyFields fs) = renderFields sep fs
  | [] => rfl
  | (k, v) :: fs => by
    simp only [toPyFields, JsonValue.renderFields, renderFields, render_toPy sep v,
      renderFields_toPy sep fs, renderString_eq]

end

mutual

/-- Its keys have the same order. -/
theorem toPy_sortKeys : ∀ a : Json, toPy (sortKeys a) = (toPy a).sortKeys
  | .null | .bool _ | .int _ | .float _ | .str _ => rfl
  | .arr xs => by
    simp only [sortKeys, toPy, JsonValue.sortKeys, toPyItems_sortItems xs]
  | .obj fs => by
    have hsort := toPyFields_sortFields fs
    simp only [sortKeys, toPy, JsonValue.sortKeys, ← hsort]
    rw [toPyFields_eq, toPyFields_eq, List.map_insertionSort _ fun a b => a.1 ≤ b.1]
    exact fun _ _ _ _ => codes_strictMono.le_iff_le.symm

theorem toPyItems_sortItems : ∀ xs : List Json,
    toPyItems (sortItems xs) = JsonValue.sortItems (toPyItems xs)
  | [] => rfl
  | x :: xs => by
    simp only [sortItems, toPyItems, JsonValue.sortItems, toPy_sortKeys x, toPyItems_sortItems xs]

theorem toPyFields_sortFields : ∀ fs : List (String × Json),
    toPyFields (sortFields fs) = JsonValue.sortFields (toPyFields fs)
  | [] => rfl
  | (k, v) :: fs => by
    simp only [sortFields, toPyFields, JsonValue.sortFields, toPy_sortKeys v,
      toPyFields_sortFields fs]

end

/-- A value is dumped as it is with Python's strings. -/
theorem dumps_toPy (sep : Separators) (a : Json) : PyJson.dumps sep (toPy a) = dumps sep a := by
  rw [PyJson.dumps, ← toPy_sortKeys, render_toPy, dumps]

/-- Equal canonical texts come from the same value. -/
theorem dumps_eq_iff (sep : Separators) (a b : Json) : dumps sep a = dumps sep b ↔ Same a b := by
  refine ⟨fun h => ?_, fun h => by rw [dumps, dumps, h]⟩
  rw [← dumps_toPy, ← dumps_toPy, PyJson.dumps_eq_iff, ← toPy_sortKeys, ← toPy_sortKeys] at h
  refine toPy_injective _ _ (JsonValue.map_inj_on ?_ h)
  exact fun s hs t ht => PyString.utf16_inj (toPy_paired _ s hs) (toPy_paired _ t ht)

theorem mem_sortFields {k : String} {w : Json} {fs : List (String × Json)} :
    (k, w) ∈ sortFields fs ↔ ∃ v, (k, v) ∈ fs ∧ w = sortKeys v := by
  induction fs with
  | nil => simp [sortFields]
  | cons f fs ih =>
    obtain ⟨k', v'⟩ := f
    simp only [sortFields, List.mem_cons, Prod.mk.injEq, ih]
    constructor
    · rintro (⟨rfl, rfl⟩ | ⟨v, hv, rfl⟩)
      · exact ⟨v', Or.inl ⟨rfl, rfl⟩, rfl⟩
      · exact ⟨v, Or.inr hv, rfl⟩
    · rintro ⟨v, ⟨rfl, rfl⟩ | hv, rfl⟩
      · exact Or.inl ⟨rfl, rfl⟩
      · exact Or.inr ⟨v, hv, rfl⟩

/-- Equal dicts have the same keys, with equal values. -/
theorem Same.mem {fs gs : List (String × Json)} (h : Same (.obj fs) (.obj gs)) {k : String}
    {v : Json} (hv : (k, v) ∈ fs) : ∃ u, (k, u) ∈ gs ∧ Same v u := by
  rw [Same, sortKeys, sortKeys, obj.injEq] at h
  have hmem : (k, sortKeys v) ∈ (sortFields fs).insertionSort fun a b => a.1 ≤ b.1 :=
    (List.mem_insertionSort _).mpr (mem_sortFields.mpr ⟨v, hv, rfl⟩)
  rw [h, List.mem_insertionSort, mem_sortFields] at hmem
  exact hmem

/-- Equal dicts have equal values under each key. -/
theorem Same.value {fs gs : List (String × Json)} (h : Same (.obj fs) (.obj gs))
    (hkeys : (gs.map Prod.fst).Nodup) {k : String} {v w : Json} (hv : (k, v) ∈ fs)
    (hw : (k, w) ∈ gs) : Same v w := by
  obtain ⟨u, hu, hsame⟩ := h.mem hv
  have hpair : (k, u) = (k, w) := List.inj_on_of_nodup_map hkeys hu hw rfl
  rwa [(Prod.mk.inj hpair).2] at hsame

@[simp] theorem same_int {m n : Int} : Same (.int m) (.int n) ↔ m = n := by
  simp [Same, sortKeys]

@[simp] theorem same_str {s t : String} : Same (.str s) (.str t) ↔ s = t := by
  simp [Same, sortKeys]

end Json

end Governor
