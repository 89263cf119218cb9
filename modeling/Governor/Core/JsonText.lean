import Mathlib
import Governor.Core.Json

/-!
# The text of a value determines it

`JsonValue` is a JSON value over any type of strings, and `render` its text for any way to write
the strings. A number or a keyword ends at the first delimiter, and an array or an object is told
from its neighbours by the bracket that opens it; hence values are read back in one way only
whenever the string literals are.
-/

namespace Governor

/-- A JSON value over strings of some type; an object keeps the order of its fields. -/
inductive JsonValue (σ : Type) where
  | null
  | bool (b : Bool)
  | int (n : Int)
  | float (x : PyFloat)
  | str (s : σ)
  | arr (xs : List (JsonValue σ))
  | obj (fields : List (σ × JsonValue σ))

namespace JsonValue

open Json (Separators)

variable {σ τ : Type}

/-- Induction over the items of an array and the values of an object. -/
@[elab_as_elim]
theorem induction {motive : JsonValue σ → Prop} (null : motive .null)
    (bool : ∀ b, motive (.bool b)) (int : ∀ n, motive (.int n)) (float : ∀ x, motive (.float x))
    (str : ∀ s, motive (.str s)) (arr : ∀ xs, (∀ x ∈ xs, motive x) → motive (.arr xs))
    (obj : ∀ fs : List (σ × JsonValue σ), (∀ f ∈ fs, motive f.2) → motive (.obj fs))
    (a : JsonValue σ) : motive a := by
  refine @JsonValue.rec σ motive (fun xs => ∀ x ∈ xs, motive x) (fun fs => ∀ f ∈ fs, motive f.2)
    (fun f => motive f.2) null bool int float str arr obj ?_ ?_ ?_ ?_ ?_ a
  · rintro x hx
    cases hx
  · intro x xs hx hxs
    exact List.forall_mem_cons.mpr ⟨hx, hxs⟩
  · rintro f hf
    cases hf
  · intro f fs hf hfs
    exact List.forall_mem_cons.mpr ⟨hf, hfs⟩
  · intro k v hv
    exact hv

/-! ## Texts -/

section Render

variable (lit : σ → List Char) (sep : Separators)

mutual

/-- The text of a value in its own key order. -/
def render : JsonValue σ → List Char
  | .null => ['n', 'u', 'l', 'l']
  | .bool true => ['t', 'r', 'u', 'e']
  | .bool false => ['f', 'a', 'l', 's', 'e']
  | .int n => n.repr.toList
  | .float x => x.text
  | .str s => lit s
  | .arr [] => ['[', ']']
  | .arr (x :: xs) => '[' :: (render x ++ (renderItems xs ++ [']']))
  | .obj [] => ['{', '}']
  | .obj ((k, v) :: fs) =>
    '{' :: (lit k ++ ':' :: (sep.afterKey ++ (render v ++ (renderFields fs ++ ['}']))))

/-- The items of an array after its first. -/
def renderItems : List (JsonValue σ) → List Char
  | [] => []
  | x :: xs => ',' :: (sep.afterItem ++ (render x ++ renderItems xs))

/-- The fields of an object after its first. -/
def renderFields : List (σ × JsonValue σ) → List Char
  | [] => []
  | (k, v) :: fs => ',' :: (sep.afterItem ++ (lit k ++ ':' :: (sep.afterKey ++
      (render v ++ renderFields fs))))

end

end Render

/-- String literals that are read back in one way. -/
structure Literals (σ : Type) where
  text : σ → List Char
  opens : ∀ s, ∃ r, text s = '"' :: r
  unique : ∀ {s t : σ} {r r' : List Char}, text s ++ r = text t ++ r' → s = t ∧ r = r'

/-! ## Numbers and keywords -/

/-- A character that may stand inside a number or a keyword. -/
def isTokenChar (c : Char) : Bool := c.isDigit || c.isAlpha || c ∈ ['+', '-', '.']

/-- The text after a value: the end, a comma or a closing bracket. -/
def Stops (r : List Char) : Prop := ∀ c, r.head? = some c → isTokenChar c = false

private theorem token_unique {s t r r' : List Char} (hs : s.all isTokenChar = true)
    (ht : t.all isTokenChar = true) (hr : Stops r) (hr' : Stops r')
    (h : s ++ r = t ++ r') : s = t ∧ r = r' := by
  induction s generalizing t with
  | nil =>
    cases t with
    | nil => exact ⟨rfl, h⟩
    | cons d t =>
      have hd := hr d (by rw [show r = d :: (t ++ r') from h]; rfl)
      simp [hd] at ht
  | cons c s ih =>
    cases t with
    | nil =>
      have hc := hr' c (by rw [show r' = c :: (s ++ r) from h.symm]; rfl)
      simp [hc] at hs
    | cons d t =>
      simp only [List.cons_append, List.cons.injEq] at h
      simp only [List.all_cons, Bool.and_eq_true] at hs ht
      obtain ⟨rfl, rfl⟩ := ih hs.2 ht.2 h.2
      exact ⟨by rw [h.1], rfl⟩

/-- The text of a number or keyword; strings, arrays and objects have none. -/
def token : JsonValue σ → Option (List Char)
  | .null => some ['n', 'u', 'l', 'l']
  | .bool true => some ['t', 'r', 'u', 'e']
  | .bool false => some ['f', 'a', 'l', 's', 'e']
  | .int n => some n.repr.toList
  | .float x => some x.text
  | _ => none

private theorem natRepr_digits {n : Nat} {c : Char} (h : c ∈ n.repr.toList) : c.isDigit = true := by
  rw [Nat.toList_repr] at h
  exact Nat.isDigit_of_mem_toDigits (by decide) (by decide) h

private theorem intRepr_chars {n : Int} {c : Char} (h : c ∈ n.repr.toList) :
    c.isDigit = true ∨ c = '-' := by
  cases n with
  | ofNat m => exact Or.inl (natRepr_digits h)
  | negSucc m =>
    simp only [Int.repr, String.toList_append, List.mem_append] at h
    rcases h with h | h
    · exact Or.inr (by simpa using h)
    · exact Or.inl (natRepr_digits h)

private theorem intRepr_ne_nil (n : Int) : n.repr.toList ≠ [] := by
  cases n with
  | ofNat m =>
    change m.repr.toList ≠ []
    rw [Nat.toList_repr]
    exact Nat.toDigits_ne_nil
  | negSucc m => simp [Int.repr, String.toList_append]

private theorem intRepr_not_float (n : Int) : isFloatText n.repr.toList = false := by
  rw [isFloatText, Bool.and_eq_false_iff, Bool.and_eq_false_iff]
  refine Or.inl (Or.inr ?_)
  rw [List.any_eq_false]
  intro c hc hmem
  rcases intRepr_chars hc with hd | rfl
  · have : c ∈ ['.', 'e', 'N', 'I'] := by simpa using hmem
    simp only [List.mem_cons, List.not_mem_nil, or_false] at this
    rcases this with rfl | rfl | rfl | rfl <;> exact absurd hd (by decide)
  · exact absurd hmem (by decide)

private theorem intRepr_ne_keyword (n : Int) {k : Char} {ks : List Char} (hk : k.isDigit = false)
    (hm : k ≠ '-') : n.repr.toList ≠ k :: ks := by
  intro h
  rcases intRepr_chars (n := n) (c := k) (by rw [h]; exact List.mem_cons_self) with hd | hd
  · rw [hk] at hd
    exact absurd hd (by decide)
  · exact hm hd

private theorem float_ne_keyword (x : PyFloat) {k : Char} {ks : List Char}
    (hk : (k.isDigit || k ∈ "-NI".toList) = false) : x.text ≠ k :: ks := by
  intro h
  have hf := x.isFloat
  rw [isFloatText, Bool.and_eq_true, h, List.head?_cons, Option.any_some, hk] at hf
  exact absurd hf.2 (by decide)

/-- Read a number or a keyword back. -/
def readToken (t : List Char) : Option (JsonValue σ) :=
  if t = ['n', 'u', 'l', 'l'] then some .null
  else if t = ['t', 'r', 'u', 'e'] then some (.bool true)
  else if t = ['f', 'a', 'l', 's', 'e'] then some (.bool false)
  else if h : isFloatText t = true then some (.float ⟨t, h⟩)
  else (String.ofList t).toInt?.map .int

theorem readToken_token {a : JsonValue σ} {t : List Char} (h : token a = some t) :
    readToken t = some a := by
  cases a with
  | null => cases h; rfl
  | bool b => cases b <;> cases h <;> rfl
  | int n =>
    cases h
    rw [readToken, if_neg (intRepr_ne_keyword n (by decide) (by decide)),
      if_neg (intRepr_ne_keyword n (by decide) (by decide)),
      if_neg (intRepr_ne_keyword n (by decide) (by decide)),
      dif_neg (by simp [intRepr_not_float]), String.ofList_toList, Int.toInt?_repr]
    rfl
  | float x =>
    cases h
    rw [readToken, if_neg (float_ne_keyword x (by decide)),
      if_neg (float_ne_keyword x (by decide)), if_neg (float_ne_keyword x (by decide)),
      dif_pos x.isFloat]
  | str s => cases h
  | arr xs => cases h
  | obj fs => cases h

/-- A number or keyword is a nonempty run of token characters. -/
theorem token_chars {a : JsonValue σ} {t : List Char} (h : token a = some t) :
    t ≠ [] ∧ t.all isTokenChar = true := by
  cases a with
  | null => cases h; exact ⟨by simp, by decide⟩
  | bool b => cases b <;> cases h <;> exact ⟨by simp, by decide⟩
  | int n =>
    cases h
    refine ⟨intRepr_ne_nil n, List.all_eq_true.mpr ?_⟩
    intro c hc
    rcases intRepr_chars hc with hd | rfl
    · simp [isTokenChar, hd]
    · decide
  | float x =>
    cases h
    have hf := x.isFloat
    rw [isFloatText, Bool.and_eq_true, Bool.and_eq_true] at hf
    refine ⟨fun he => by simp [he] at hf, List.all_eq_true.mpr ?_⟩
    intro c hc
    have hin := List.all_eq_true.mp hf.1.1 c hc
    rw [Bool.or_eq_true] at hin
    rcases hin with hd | hm
    · simp [isTokenChar, hd]
    · have hall : "+-.eNaIfinity".toList.all isTokenChar = true := by decide +kernel
      exact List.all_eq_true.mp hall c (of_decide_eq_true hm)
  | str s => cases h
  | arr xs => cases h
  | obj fs => cases h

/-! ## Values -/

section Values

variable (L : Literals σ) (sep : Separators)

theorem render_of_token {a : JsonValue σ} {t : List Char} (h : token a = some t) :
    render L.text sep a = t := by
  cases a with
  | null => cases h; rfl
  | bool b => cases b <;> cases h <;> rfl
  | int n => cases h; rfl
  | float x => cases h; rfl
  | str s => cases h
  | arr xs => cases h
  | obj fs => cases h

/-- Strings, arrays and objects announce themselves by their first character. -/
inductive Opens : JsonValue σ → Char → Prop
  | str (s : σ) : Opens (.str s) '"'
  | arr (xs : List (JsonValue σ)) : Opens (.arr xs) '['
  | obj (fs : List (σ × JsonValue σ)) : Opens (.obj fs) '{'

theorem token_or_opens (a : JsonValue σ) : (∃ t, token a = some t) ∨ ∃ c, Opens a c := by
  cases a with
  | null => exact Or.inl ⟨_, rfl⟩
  | bool b => cases b <;> exact Or.inl ⟨_, rfl⟩
  | int n => exact Or.inl ⟨_, rfl⟩
  | float x => exact Or.inl ⟨_, rfl⟩
  | str s => exact Or.inr ⟨_, .str s⟩
  | arr xs => exact Or.inr ⟨_, .arr xs⟩
  | obj fs => exact Or.inr ⟨_, .obj fs⟩

theorem Opens.render_eq {a : JsonValue σ} {c : Char} (h : Opens a c) :
    (∃ r, render L.text sep a = c :: r) ∧ isTokenChar c = false := by
  cases h with
  | str s => exact ⟨L.opens s, by decide⟩
  | arr xs => cases xs <;> exact ⟨⟨_, rfl⟩, by decide⟩
  | obj fs => rcases fs with _ | ⟨⟨k, v⟩, fs⟩ <;> exact ⟨⟨_, rfl⟩, by decide⟩

/-- A number or keyword never reads as a string, array or object. -/
theorem token_not_opens {a b : JsonValue σ} {t : List Char} {c : Char} {r r' : List Char}
    (ha : token a = some t) (hb : Opens b c) :
    render L.text sep a ++ r ≠ render L.text sep b ++ r' := by
  intro h
  obtain ⟨⟨s, hs⟩, hc⟩ := hb.render_eq L sep
  obtain ⟨hne, hall⟩ := token_chars ha
  rw [render_of_token L sep ha, hs] at h
  cases t with
  | nil => exact hne rfl
  | cons d t =>
    simp only [List.cons_append, List.cons.injEq] at h
    simp only [List.all_cons, Bool.and_eq_true, h.1, hc, Bool.false_eq_true, false_and] at hall

private theorem stops_items (xs : List (JsonValue σ)) (r : List Char) :
    Stops (renderItems L.text sep xs ++ ']' :: r) := by
  intro c hc
  cases xs with
  | nil => cases hc; decide
  | cons x xs => cases hc; decide

private theorem stops_fields (fs : List (σ × JsonValue σ)) (r : List Char) :
    Stops (renderFields L.text sep fs ++ '}' :: r) := by
  intro c hc
  rcases fs with _ | ⟨⟨k, v⟩, fs⟩ <;> cases hc <;> decide

/-- No value begins with the bracket that would close an empty array or object. -/
theorem render_head (a : JsonValue σ) : ∃ c r, render L.text sep a = c :: r ∧ c ≠ ']' := by
  rcases token_or_opens a with ⟨t, ht⟩ | ⟨c, hc⟩
  · obtain ⟨hne, hall⟩ := token_chars ht
    cases t with
    | nil => exact absurd rfl hne
    | cons d t =>
      refine ⟨d, t, render_of_token L sep ht, ?_⟩
      rintro rfl
      exact absurd (List.all_eq_true.mp hall _ List.mem_cons_self) (by decide)
  · obtain ⟨⟨r, hr⟩, _⟩ := hc.render_eq L sep
    refine ⟨c, r, hr, ?_⟩
    cases hc <;> decide

/-- Two texts that agree open with the same bracket or quote. -/
theorem Opens.transfer {a b : JsonValue σ} {c : Char} {r r' : List Char} (ha : Opens a c)
    (h : render L.text sep a ++ r = render L.text sep b ++ r') : Opens b c := by
  rcases token_or_opens b with ⟨u, hu⟩ | ⟨d, hd⟩
  · exact absurd h.symm (token_not_opens L sep hu ha)
  · obtain ⟨⟨x, hx⟩, _⟩ := ha.render_eq L sep
    obtain ⟨⟨y, hy⟩, _⟩ := hd.render_eq L sep
    rw [hx, hy] at h
    exact (List.cons.inj h).1 ▸ hd

/-- A number or keyword is read back in one way. -/
theorem token_render_unique {a b : JsonValue σ} {t r r' : List Char}
    (ha : token a = some t) (hr : Stops r) (hr' : Stops r')
    (h : render L.text sep a ++ r = render L.text sep b ++ r') : a = b ∧ r = r' := by
  rcases token_or_opens b with ⟨u, hu⟩ | ⟨d, hd⟩
  · rw [render_of_token L sep ha, render_of_token L sep hu] at h
    obtain ⟨rfl, rfl⟩ := token_unique (token_chars ha).2 (token_chars hu).2 hr hr' h
    exact ⟨Option.some.inj ((readToken_token ha).symm.trans (readToken_token hu)), rfl⟩
  · exact absurd h (token_not_opens L sep ha hd)

mutual

/-- Every value can be read back in one way, wherever its text ends. -/
theorem render_unique : ∀ (a b : JsonValue σ) {r r' : List Char}, Stops r →
    Stops r' → render L.text sep a ++ r = render L.text sep b ++ r' → a = b ∧ r = r'
  | .null, _, _, _, hr, hr', h => token_render_unique L sep rfl hr hr' h
  | .bool true, _, _, _, hr, hr', h => token_render_unique L sep rfl hr hr' h
  | .bool false, _, _, _, hr, hr', h => token_render_unique L sep rfl hr hr' h
  | .int _, _, _, _, hr, hr', h => token_render_unique L sep rfl hr hr' h
  | .float _, _, _, _, hr, hr', h => token_render_unique L sep rfl hr hr' h
  | .str s, b, _, _, _, _, h => by
    cases (Opens.str s).transfer L sep h with
    | str t =>
      obtain ⟨rfl, rfl⟩ := L.unique h
      exact ⟨rfl, rfl⟩
  | .arr [], b, _, _, _, _, h => by
    cases (Opens.arr []).transfer L sep h with
    | arr ys =>
      cases ys with
      | nil => exact ⟨rfl, by simpa [render] using h⟩
      | cons y ys =>
        obtain ⟨c, s, hs, hc⟩ := render_head L sep y
        simp [render, hs] at h
        exact absurd h.1.symm hc
  | .arr (x :: xs), b, r, r', _, _, h => by
    cases (Opens.arr (x :: xs)).transfer L sep h with
    | arr ys =>
      cases ys with
      | nil =>
        obtain ⟨c, s, hs, hc⟩ := render_head L sep x
        simp [render, hs] at h
        exact absurd h.1 hc
      | cons y ys =>
        simp only [render, List.cons_append, List.append_assoc, List.nil_append,
          List.cons.injEq, true_and] at h
        obtain ⟨rfl, hxs⟩ :=
          render_unique x y (stops_items L sep xs r) (stops_items L sep ys r') h
        obtain ⟨rfl, rfl⟩ := renderItems_unique xs ys hxs
        exact ⟨rfl, rfl⟩
  | .obj [], b, _, _, _, _, h => by
    cases (Opens.obj []).transfer L sep h with
    | obj gs =>
      rcases gs with _ | ⟨⟨l, u⟩, gs⟩
      · exact ⟨rfl, by simpa [render] using h⟩
      · obtain ⟨x, hx⟩ := L.opens l
        simp [render, hx] at h
  | .obj ((k, v) :: fs), b, r, r', _, _, h => by
    cases (Opens.obj ((k, v) :: fs)).transfer L sep h with
    | obj gs =>
      rcases gs with _ | ⟨⟨l, u⟩, gs⟩
      · obtain ⟨x, hx⟩ := L.opens k
        simp [render, hx] at h
      · simp only [render, List.cons_append, List.append_assoc, List.nil_append,
          List.cons.injEq, true_and] at h
        obtain ⟨rfl, hv⟩ := L.unique h
        simp only [List.cons.injEq, true_and, List.append_cancel_left_eq] at hv
        obtain ⟨rfl, hfs⟩ :=
          render_unique v u (stops_fields L sep fs r) (stops_fields L sep gs r') hv
        obtain ⟨rfl, rfl⟩ := renderFields_unique fs gs hfs
        exact ⟨rfl, rfl⟩

/-- The items of an array are read back one by one up to the closing bracket. -/
theorem renderItems_unique : ∀ (xs ys : List (JsonValue σ)) {r r' : List Char},
    renderItems L.text sep xs ++ ']' :: r = renderItems L.text sep ys ++ ']' :: r' →
    xs = ys ∧ r = r'
  | [], [], _, _, h => by simpa [renderItems] using h
  | [], y :: ys, _, _, h => by simp [renderItems] at h
  | x :: xs, [], _, _, h => by simp [renderItems] at h
  | x :: xs, y :: ys, r, r', h => by
    simp only [renderItems, List.cons_append, List.append_assoc, List.cons.injEq, true_and,
      List.append_cancel_left_eq] at h
    obtain ⟨rfl, hxs⟩ := render_unique x y (stops_items L sep xs r) (stops_items L sep ys r') h
    obtain ⟨rfl, rfl⟩ := renderItems_unique xs ys hxs
    exact ⟨rfl, rfl⟩

/-- The fields of an object are read back one by one up to the closing brace. -/
theorem renderFields_unique : ∀ (fs gs : List (σ × JsonValue σ)) {r r' : List Char},
    renderFields L.text sep fs ++ '}' :: r = renderFields L.text sep gs ++ '}' :: r' →
    fs = gs ∧ r = r'
  | [], [], _, _, h => by simpa [renderFields] using h
  | [], (l, u) :: gs, _, _, h => by simp [renderFields] at h
  | (k, v) :: fs, [], _, _, h => by simp [renderFields] at h
  | (k, v) :: fs, (l, u) :: gs, r, r', h => by
    simp only [renderFields, List.cons_append, List.append_assoc, List.cons.injEq, true_and,
      List.append_cancel_left_eq] at h
    obtain ⟨rfl, hv⟩ := L.unique h
    simp only [List.cons.injEq, true_and, List.append_cancel_left_eq] at hv
    obtain ⟨rfl, hfs⟩ := render_unique v u (stops_fields L sep fs r) (stops_fields L sep gs r') hv
    obtain ⟨rfl, rfl⟩ := renderFields_unique fs gs hfs
    exact ⟨rfl, rfl⟩

end

end Values

/-! ## Other strings -/

section Map

variable (f : σ → τ)

mutual

/-- The value with every string and every key replaced. -/
def map : JsonValue σ → JsonValue τ
  | .null => .null
  | .bool b => .bool b
  | .int n => .int n
  | .float x => .float x
  | .str s => .str (f s)
  | .arr xs => .arr (mapItems xs)
  | .obj fs => .obj (mapFields fs)

def mapItems : List (JsonValue σ) → List (JsonValue τ)
  | [] => []
  | x :: xs => map x :: mapItems xs

def mapFields : List (σ × JsonValue σ) → List (τ × JsonValue τ)
  | [] => []
  | (k, v) :: fs => (f k, map v) :: mapFields fs

end

theorem mapItems_eq (xs : List (JsonValue σ)) : mapItems f xs = xs.map (map f) := by
  induction xs with
  | nil => rfl
  | cons x xs ih => rw [mapItems, ih, List.map_cons]

theorem mapFields_eq (fs : List (σ × JsonValue σ)) :
    mapFields f fs = fs.map (Prod.map f (map f)) := by
  induction fs with
  | nil => rfl
  | cons g fs ih =>
    obtain ⟨k, v⟩ := g
    rw [mapFields, ih, List.map_cons, Prod.map_apply]

mutual

/-- A value with other strings is written as their literals are. -/
theorem render_map (lit : τ → List Char) (sep : Separators) :
    ∀ a : JsonValue σ, render lit sep (map f a) = render (fun s => lit (f s)) sep a
  | .null | .bool true | .bool false | .int _ | .float _ | .str _ | .arr [] | .obj [] => rfl
  | .arr (x :: xs) => by simp only [map, mapItems, render, render_map lit sep x,
      renderItems_map lit sep xs]
  | .obj ((k, v) :: fs) => by simp only [map, mapFields, render, render_map lit sep v,
      renderFields_map lit sep fs]

theorem renderItems_map (lit : τ → List Char) (sep : Separators) : ∀ xs : List (JsonValue σ),
    renderItems lit sep (mapItems f xs) = renderItems (fun s => lit (f s)) sep xs
  | [] => rfl
  | x :: xs => by simp only [mapItems, renderItems, render_map lit sep x,
      renderItems_map lit sep xs]

theorem renderFields_map (lit : τ → List Char) (sep : Separators) :
    ∀ fs : List (σ × JsonValue σ),
    renderFields lit sep (mapFields f fs) = renderFields (fun s => lit (f s)) sep fs
  | [] => rfl
  | (k, v) :: fs => by simp only [mapFields, renderFields, render_map lit sep v,
      renderFields_map lit sep fs]

end

end Map

end JsonValue

end Governor
