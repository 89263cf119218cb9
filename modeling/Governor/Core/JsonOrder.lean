import Mathlib
import Governor.Core.JsonText

/-!
# Equality up to the order of the keys

Two values are equal as Python's are when the fields of an object agree in some order. With
distinct keys `sortKeys` decides it: the fields of an object have one sorted order. A value is
determined by its image under another reading of its strings when each of its strings is.
-/

namespace Governor.JsonValue

variable {σ τ : Type}

/-! ## Strings -/

mutual

/-- The strings and keys of a value. -/
def strings : JsonValue σ → List σ
  | .str s => [s]
  | .arr xs => stringsItems xs
  | .obj fs => stringsFields fs
  | _ => []

def stringsItems : List (JsonValue σ) → List σ
  | [] => []
  | x :: xs => strings x ++ stringsItems xs

def stringsFields : List (σ × JsonValue σ) → List σ
  | [] => []
  | (k, v) :: fs => k :: (strings v ++ stringsFields fs)

end

theorem mem_stringsItems {s : σ} {xs : List (JsonValue σ)} :
    s ∈ stringsItems xs ↔ ∃ x ∈ xs, s ∈ strings x := by
  induction xs with
  | nil => simp [stringsItems]
  | cons x xs ih => simp [stringsItems, ih]

theorem mem_stringsFields {s : σ} {fs : List (σ × JsonValue σ)} :
    s ∈ stringsFields fs ↔ ∃ g ∈ fs, s = g.1 ∨ s ∈ strings g.2 := by
  induction fs with
  | nil => simp [stringsFields]
  | cons g fs ih =>
    obtain ⟨k, v⟩ := g
    simp [stringsFields, ih, or_assoc]

/-- Values whose strings are read apart are read apart. -/
theorem map_inj_on {f : σ → τ} {a b : JsonValue σ}
    (hf : ∀ s ∈ strings a, ∀ t ∈ strings b, f s = f t → s = t) (h : map f a = map f b) :
    a = b := by
  induction a using JsonValue.induction generalizing b with
  | null => cases b <;> first | rfl | cases h
  | bool c => cases b <;> first | (cases h; rfl) | cases h
  | int n => cases b <;> first | (cases h; rfl) | cases h
  | float x => cases b <;> first | (cases h; rfl) | cases h
  | str s =>
    cases b with
    | str t =>
      have hst : f s = f t := str.inj h
      rw [hf s (by simp [strings]) t (by simp [strings]) hst]
    | _ => cases h
  | arr xs ih =>
    cases b with
    | arr ys =>
      simp only [map, mapItems_eq, arr.injEq] at h
      have hlength : xs.length = ys.length := by simpa using congrArg List.length h
      refine congrArg arr (List.ext_getElem hlength ?_)
      intro i hx hy
      refine ih _ (List.getElem_mem hx) ?_ ?_
      · intro s hs t ht
        exact hf s (mem_stringsItems.mpr ⟨_, List.getElem_mem hx, hs⟩) t
          (mem_stringsItems.mpr ⟨_, List.getElem_mem hy, ht⟩)
      · simpa [hx, hy] using congrArg (fun l => l[i]?) h
    | _ => cases h
  | obj fs ih =>
    cases b with
    | obj gs =>
      simp only [map, mapFields_eq, obj.injEq] at h
      have hlength : fs.length = gs.length := by simpa using congrArg List.length h
      refine congrArg obj (List.ext_getElem hlength ?_)
      intro i hx hy
      have hpair : Prod.map f (map f) fs[i] = Prod.map f (map f) gs[i] := by
        simpa [hx, hy] using congrArg (fun l => l[i]?) h
      obtain ⟨hkey, hvalue⟩ := Prod.mk.inj hpair
      have hmem := List.getElem_mem hx
      have hmem' := List.getElem_mem hy
      refine Prod.ext ?_ (ih _ hmem ?_ hvalue)
      · exact hf _ (mem_stringsFields.mpr ⟨_, hmem, Or.inl rfl⟩) _
          (mem_stringsFields.mpr ⟨_, hmem', Or.inl rfl⟩) hkey
      · intro s hs t ht
        exact hf s (mem_stringsFields.mpr ⟨_, hmem, Or.inr hs⟩) t
          (mem_stringsFields.mpr ⟨_, hmem', Or.inr ht⟩)
    | _ => cases h

/-! ## Key order -/

section Sorted

variable [LinearOrder σ]

mutual

/-- Every object at every depth in key order, as `sort_keys=True` visits it. -/
def sortKeys : JsonValue σ → JsonValue σ
  | .arr xs => .arr (sortItems xs)
  | .obj fs => .obj ((sortFields fs).insertionSort fun a b => a.1 ≤ b.1)
  | a => a

def sortItems : List (JsonValue σ) → List (JsonValue σ)
  | [] => []
  | x :: xs => sortKeys x :: sortItems xs

def sortFields : List (σ × JsonValue σ) → List (σ × JsonValue σ)
  | [] => []
  | (k, v) :: fs => (k, sortKeys v) :: sortFields fs

end

theorem sortItems_eq (xs : List (JsonValue σ)) : sortItems xs = xs.map sortKeys := by
  induction xs with
  | nil => rfl
  | cons x xs ih => rw [sortItems, ih, List.map_cons]

theorem sortFields_eq (fs : List (σ × JsonValue σ)) :
    sortFields fs = fs.map (Prod.map id sortKeys) := by
  induction fs with
  | nil => rfl
  | cons g fs ih =>
    obtain ⟨k, v⟩ := g
    rw [sortFields, ih, List.map_cons, Prod.map_apply, id]

theorem sortFields_keys (fs : List (σ × JsonValue σ)) :
    (sortFields fs).map Prod.fst = fs.map Prod.fst := by
  rw [sortFields_eq, List.map_map]
  rfl

/-- Sorting the keys loses no string. -/
theorem mem_strings_sortKeys {s : σ} {a : JsonValue σ} :
    s ∈ strings (sortKeys a) ↔ s ∈ strings a := by
  induction a using JsonValue.induction with
  | arr xs ih =>
    simp only [sortKeys, strings, sortItems_eq, mem_stringsItems, List.mem_map,
      exists_exists_and_eq_and]
    exact exists_congr fun x => and_congr_right (ih x)
  | obj fs ih =>
    simp only [sortKeys, strings, sortFields_eq, mem_stringsFields, List.mem_insertionSort,
      List.mem_map, exists_exists_and_eq_and, Prod.map_fst, Prod.map_snd, id]
    exact exists_congr fun g => and_congr_right fun hg => or_congr_right (ih g hg)
  | _ => rfl

end Sorted

/-! ## Equality -/

mutual

/-- Equal values: the fields of an object are equal in some order. -/
inductive Equal : JsonValue σ → JsonValue σ → Prop
  | null : Equal .null .null
  | bool (b : Bool) : Equal (.bool b) (.bool b)
  | int (n : Int) : Equal (.int n) (.int n)
  | float (x : PyFloat) : Equal (.float x) (.float x)
  | str (s : σ) : Equal (.str s) (.str s)
  | arr {xs ys : List (JsonValue σ)} (h : EqualItems xs ys) : Equal (.arr xs) (.arr ys)
  | obj {fs gs hs : List (σ × JsonValue σ)} (h : EqualFields fs hs) (horder : hs.Perm gs) :
    Equal (.obj fs) (.obj gs)

inductive EqualItems : List (JsonValue σ) → List (JsonValue σ) → Prop
  | nil : EqualItems [] []
  | cons {x y : JsonValue σ} {xs ys : List (JsonValue σ)} (h : Equal x y)
    (hs : EqualItems xs ys) : EqualItems (x :: xs) (y :: ys)

inductive EqualFields : List (σ × JsonValue σ) → List (σ × JsonValue σ) → Prop
  | nil : EqualFields [] []
  | cons (k : σ) {v w : JsonValue σ} {fs gs : List (σ × JsonValue σ)} (h : Equal v w)
    (hs : EqualFields fs gs) : EqualFields ((k, v) :: fs) ((k, w) :: gs)

end

mutual

/-- The keys of every object differ. -/
def DistinctKeys : JsonValue σ → Prop
  | .arr xs => DistinctItems xs
  | .obj fs => (fs.map Prod.fst).Nodup ∧ DistinctFields fs
  | _ => True

def DistinctItems : List (JsonValue σ) → Prop
  | [] => True
  | x :: xs => DistinctKeys x ∧ DistinctItems xs

def DistinctFields : List (σ × JsonValue σ) → Prop
  | [] => True
  | (_, v) :: fs => DistinctKeys v ∧ DistinctFields fs

end

theorem EqualFields.exists_mem {k : σ} {v : JsonValue σ} :
    ∀ {fs gs : List (σ × JsonValue σ)}, EqualFields fs gs → (k, v) ∈ fs →
    ∃ w, (k, w) ∈ gs ∧ Equal v w
  | _, _, .nil, hv => by cases hv
  | _, _, .cons _ h hs, hv => by
    rcases List.mem_cons.mp hv with heq | hv
    · obtain ⟨rfl, rfl⟩ := Prod.mk.inj heq
      exact ⟨_, List.mem_cons_self, h⟩
    · obtain ⟨w, hw, hequal⟩ := hs.exists_mem hv
      exact ⟨w, List.mem_cons_of_mem _ hw, hequal⟩

/-- Equal objects have equal values under each key. -/
theorem Equal.value {fs gs : List (σ × JsonValue σ)} (h : Equal (.obj fs) (.obj gs))
    (hkeys : (gs.map Prod.fst).Nodup) {k : σ} {v w : JsonValue σ} (hv : (k, v) ∈ fs)
    (hw : (k, w) ∈ gs) : Equal v w := by
  cases h with
  | obj hfields horder =>
    obtain ⟨u, hu, hequal⟩ := hfields.exists_mem hv
    have hpair := List.inj_on_of_nodup_map hkeys (horder.mem_iff.mp hu) hw rfl
    rwa [(Prod.mk.inj hpair).2] at hequal

@[simp] theorem equal_str {s t : σ} : Equal (.str s) (.str t) ↔ s = t :=
  ⟨fun h => by cases h; rfl, fun h => h ▸ .str s⟩

section Equal

variable [LinearOrder σ]

/-- Fields with distinct keys have one sorted order. -/
theorem insertionSort_eq_of_perm {α : Type} {fs gs : List (σ × α)} (h : fs.Perm gs)
    (hkeys : (fs.map Prod.fst).Nodup) :
    fs.insertionSort (fun a b => a.1 ≤ b.1) = gs.insertionSort fun a b => a.1 ≤ b.1 := by
  have hsorted : ∀ l : List (σ × α),
      (l.insertionSort fun a b => a.1 ≤ b.1).Pairwise fun a b => a.1 ≤ b.1 := by
    intro l
    have : Std.Total fun a b : σ × α => a.1 ≤ b.1 := ⟨fun a b => le_total a.1 b.1⟩
    have : IsTrans (σ × α) fun a b => a.1 ≤ b.1 := ⟨fun _ _ _ => le_trans⟩
    exact List.pairwise_insertionSort _ l
  refine List.Perm.eq_of_pairwise ?_ (hsorted fs) (hsorted gs) ?_
  · intro f g hf hg hle hge
    rw [List.mem_insertionSort] at hf hg
    exact List.inj_on_of_nodup_map hkeys hf (h.mem_iff.mpr hg) (le_antisymm hle hge)
  · exact (List.perm_insertionSort _ _).trans (h.trans (List.perm_insertionSort _ _).symm)

mutual

/-- Equal values are sorted to the same value. -/
theorem Equal.sortKeys_eq : ∀ {a b : JsonValue σ}, Equal a b → DistinctKeys a →
    sortKeys a = sortKeys b
  | _, _, .null, _ | _, _, .bool _, _ | _, _, .int _, _ | _, _, .float _, _ | _, _, .str _, _ => rfl
  | _, _, .arr h, hd => by
    rw [sortKeys, sortKeys, h.sortItems_eq hd]
  | _, _, .obj h horder, hd => by
    have hsorted := h.sortFields_eq hd.2
    have hperm := horder.map (Prod.map id sortKeys)
    rw [← sortFields_eq, ← sortFields_eq] at hperm
    have hkeys := hd.1
    rw [← sortFields_keys, hsorted] at hkeys
    rw [sortKeys, sortKeys, hsorted, insertionSort_eq_of_perm hperm hkeys]

theorem EqualItems.sortItems_eq : ∀ {xs ys : List (JsonValue σ)}, EqualItems xs ys →
    DistinctItems xs → sortItems xs = sortItems ys
  | _, _, .nil, _ => rfl
  | _, _, .cons h hs, hd => by
    rw [sortItems, sortItems, h.sortKeys_eq hd.1, hs.sortItems_eq hd.2]

theorem EqualFields.sortFields_eq : ∀ {fs gs : List (σ × JsonValue σ)}, EqualFields fs gs →
    DistinctFields fs → sortFields fs = sortFields gs
  | _, _, .nil, _ => rfl
  | _, _, .cons k h hs, hd => by
    rw [sortFields, sortFields, h.sortKeys_eq hd.1, hs.sortFields_eq hd.2]

end

/-- A list that is a permutation after a map is one before it, up to that map. -/
theorem exists_perm_of_map_perm {α β : Type} {f : α → β} {l m : List α}
    (h : (l.map f).Perm (m.map f)) : ∃ n : List α, n.Perm m ∧ l.map f = n.map f := by
  have hm : List.Forall₂ (fun y x => y = f x) (m.map f) m := by
    rw [List.forall₂_map_left_iff]
    exact List.forall₂_same.mpr fun _ _ => rfl
  obtain ⟨n, hn, hperm⟩ := List.perm_comp_forall₂ h hm
  refine ⟨n, hperm, ?_⟩
  rw [← List.forall₂_map_right_iff] at hn
  exact List.forall₂_eq_eq_eq ▸ hn

mutual

/-- Values that are sorted to the same value are equal. -/
theorem equal_of_sortKeys_eq : ∀ (a b : JsonValue σ), sortKeys a = sortKeys b → Equal a b
  | .null, b, h => by cases b <;> first | exact .null | cases h
  | .bool c, b, h => by cases b <;> first | (cases h; exact .bool c) | cases h
  | .int n, b, h => by cases b <;> first | (cases h; exact .int n) | cases h
  | .float x, b, h => by cases b <;> first | (cases h; exact .float x) | cases h
  | .str s, b, h => by cases b <;> first | (cases h; exact .str s) | cases h
  | .arr xs, b, h => by
    cases b with
    | arr ys => exact .arr (equalItems_of_sortItems_eq xs ys (arr.inj h))
    | _ => cases h
  | .obj fs, b, h => by
    cases b with
    | obj gs =>
      have hperm : (sortFields fs).Perm (sortFields gs) := by
        have hsorted := List.perm_insertionSort (fun a b => a.1 ≤ b.1) (sortFields gs)
        rw [← obj.inj h] at hsorted
        exact (List.perm_insertionSort _ _).symm.trans hsorted
      rw [sortFields_eq, sortFields_eq] at hperm
      obtain ⟨hs, horder, hmap⟩ := exists_perm_of_map_perm hperm
      rw [← sortFields_eq, ← sortFields_eq] at hmap
      exact .obj (equalFields_of_sortFields_eq fs hs hmap) horder
    | _ => cases h

theorem equalItems_of_sortItems_eq : ∀ (xs ys : List (JsonValue σ)), sortItems xs = sortItems ys →
    EqualItems xs ys
  | [], [], _ => .nil
  | [], _ :: _, h => by cases h
  | _ :: _, [], h => by cases h
  | x :: xs, y :: ys, h => by
    obtain ⟨hx, hxs⟩ := List.cons.inj h
    exact .cons (equal_of_sortKeys_eq x y hx) (equalItems_of_sortItems_eq xs ys hxs)

theorem equalFields_of_sortFields_eq : ∀ (fs gs : List (σ × JsonValue σ)),
    sortFields fs = sortFields gs → EqualFields fs gs
  | [], [], _ => .nil
  | [], (_, _) :: _, h => by cases h
  | (_, _) :: _, [], h => by cases h
  | (k, v) :: fs, (l, w) :: gs, h => by
    obtain ⟨hfield, hfs⟩ := List.cons.inj h
    obtain ⟨rfl, hv⟩ := Prod.mk.inj hfield
    exact .cons k (equal_of_sortKeys_eq v w hv) (equalFields_of_sortFields_eq fs gs hfs)

end

/-- Sorting the keys decides equality. -/
theorem equal_iff_sortKeys_eq {a b : JsonValue σ} (ha : DistinctKeys a) :
    Equal a b ↔ sortKeys a = sortKeys b :=
  ⟨fun h => h.sortKeys_eq ha, equal_of_sortKeys_eq a b⟩

end Equal

end Governor.JsonValue
