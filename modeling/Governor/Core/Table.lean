import Mathlib.Algebra.BigOperators.Group.List.Basic
import Mathlib.Algebra.Order.BigOperators.Group.List
import Mathlib.Algebra.Order.Ring.Int
import Mathlib.Data.List.Sort

/-!
# Relational tables with a primary key

A table is a list of rows whose keys are distinct. The statements offered are the
ones a program issues by primary key: lookup, insertion under `ON CONFLICT DO
NOTHING`, insertion rejected on a duplicate key, and an update that leaves the key
alone. Aggregates over a table follow every statement through the one row that it
touches.
-/

namespace Governor

instance instLawfulBEqStringPair : LawfulBEq (String × String) := inferInstance

variable {ρ κ : Type}

/-- The rows of a table, no two with the same primary key. -/
@[ext] structure Table (key : ρ → κ) where
  /-- The stored rows, in insertion order. -/
  rows : List ρ
  /-- The primary-key constraint. -/
  nodup : (rows.map key).Nodup

namespace Table

variable {key : ρ → κ}

/-- The table with no rows. -/
def empty : Table key := ⟨[], List.nodup_nil⟩

/-- The sum of an integer column over the rows that satisfy a condition. -/
def sumWhere (t : Table key) (p : ρ → Bool) (g : ρ → ℤ) : ℤ :=
  ((t.rows.filter p).map g).sum

/-- The sum of an integer expression over every row. -/
def sum (t : Table key) (g : ρ → ℤ) : ℤ := (t.rows.map g).sum

/-- A conditional aggregate is the aggregate of the guarded expression. -/
theorem sumWhere_eq (t : Table key) (p : ρ → Bool) (g : ρ → ℤ) :
    t.sumWhere p g = t.sum fun r => if p r then g r else 0 := by
  unfold sumWhere sum
  induction t.rows with
  | nil => rfl
  | cons r rs ih => cases h : p r <;> simp [h, ih]

theorem sum_add (t : Table key) (f g : ρ → ℤ) :
    (t.sum fun r => f r + g r) = t.sum f + t.sum g := by
  simpa only [sum] using List.sum_map_add (l := t.rows) (f := f) (g := g)

theorem sum_nonneg (t : Table key) (g : ρ → ℤ) (h : ∀ r ∈ t.rows, 0 ≤ g r) : 0 ≤ t.sum g := by
  apply List.sum_nonneg
  intro x hx
  obtain ⟨r, hr, rfl⟩ := List.mem_map.mp hx
  exact h r hr

theorem sum_congr (t : Table key) {f g : ρ → ℤ} (h : ∀ r ∈ t.rows, f r = g r) :
    t.sum f = t.sum g := by
  unfold sum
  rw [List.map_congr_left h]

variable [DecidableEq κ]

/-- `SELECT … WHERE key = k`. -/
def find? (t : Table key) (k : κ) : Option ρ := t.rows.find? fun r => key r = k

/-- Replace the row with this key, or append it when the key is new. -/
def put (t : Table key) (r : ρ) : Table key where
  rows := if key r ∈ t.rows.map key then
      t.rows.map fun x => if key x = key r then r else x
    else t.rows ++ [r]
  nodup := by
    split
    · next h =>
      rw [List.map_map]
      convert t.nodup using 1
      apply List.map_congr_left
      intro x _
      by_cases hx : key x = key r <;> simp [hx]
    · next h =>
      rw [List.map_append, List.map_cons, List.map_nil]
      exact List.nodup_append.mpr ⟨t.nodup, List.nodup_singleton _, by
        intro a ha b hb he
        rw [List.mem_singleton.mp hb] at he
        exact h (he ▸ ha)⟩

/-- `UPDATE … SET … WHERE key = k`; no row with that key means no change. -/
def update (t : Table key) (k : κ) (f : ρ → ρ) (hf : ∀ r, key (f r) = key r := by intro _; exact id rfl) :
    Table key where
  rows := t.rows.map fun r => if key r = k then f r else r
  nodup := by
    rw [List.map_map]
    convert t.nodup using 1
    apply List.map_congr_left
    intro r _
    by_cases h : key r = k
    · simp only [Function.comp_apply, h, ite_true, hf]
    · simp only [Function.comp_apply, h, ite_false]

/-- `UPDATE … SET … WHERE p`. -/
def updateWhere (t : Table key) (p : ρ → Bool) (f : ρ → ρ) (hf : ∀ r, key (f r) = key r) :
    Table key where
  rows := t.rows.map fun r => if p r then f r else r
  nodup := by
    rw [List.map_map]
    convert t.nodup using 1
    apply List.map_congr_left
    intro r _
    by_cases h : p r
    · simp only [Function.comp_apply, h, ite_true, hf]
    · simp only [Function.comp_apply, h, Bool.false_eq_true, ite_false]

/-- `DELETE … WHERE p`. -/
def deleteWhere (t : Table key) (p : ρ → Bool) : Table key where
  rows := t.rows.filter fun r => !p r
  nodup := t.nodup.sublist (List.filter_sublist.map key)

/-- `INSERT`, rejected when the key is taken. -/
def insert? (t : Table key) (r : ρ) : Option (Table key) :=
  if key r ∈ t.rows.map key then none else some (t.put r)

/-- `INSERT … ON CONFLICT (key) DO NOTHING`. -/
def insertIfAbsent (t : Table key) (r : ρ) : Table key :=
  if key r ∈ t.rows.map key then t else t.put r

theorem find?_some_key {t : Table key} {k : κ} {r : ρ} (h : t.find? k = some r) : key r = k := by
  simpa using List.find?_some h

theorem mem_of_find? {t : Table key} {k : κ} {r : ρ} (h : t.find? k = some r) : r ∈ t.rows :=
  List.mem_of_find?_eq_some h

theorem find?_eq_none {t : Table key} {k : κ} : t.find? k = none ↔ k ∉ t.rows.map key := by
  simp [find?, List.find?_eq_none, List.mem_map]

/-- A stored row is the one its own key finds. -/
theorem find?_of_mem {t : Table key} {r : ρ} (h : r ∈ t.rows) : t.find? (key r) = some r := by
  cases hf : t.find? (key r) with
  | none => exact absurd (List.mem_map_of_mem h) (find?_eq_none.mp hf)
  | some x =>
    rw [List.inj_on_of_nodup_map t.nodup (mem_of_find? hf) h (find?_some_key hf)]

theorem mem_rows_iff {t : Table key} {r : ρ} : r ∈ t.rows ↔ t.find? (key r) = some r :=
  ⟨find?_of_mem, mem_of_find?⟩

theorem exists_mem_key {t : Table key} {k : κ} :
    k ∈ t.rows.map key ↔ ∃ r, t.find? k = some r := by
  rw [← not_iff_not, ← find?_eq_none, ← Option.ne_none_iff_exists']
  simp

private theorem find?_map_if (l : List ρ) (r : ρ) (k : κ) :
    (l.map fun x => if key x = key r then r else x).find? (fun x => key x = k) =
      if k = key r then (l.find? fun x => key x = k).map fun _ => r
      else l.find? fun x => key x = k := by
  induction l with
  | nil => simp
  | cons x xs ih =>
    by_cases hx : key x = key r
    · by_cases hk : k = key r
      · simp [hx, hk]
      · have hk' : ¬ key r = k := fun h => hk h.symm
        simpa [hx, hk, hk'] using ih
    · by_cases hk : key x = k
      · subst hk
        simp [hx]
      · by_cases hr : k = key r <;> simpa [hx, hk, hr] using ih

/-- A lookup after a `put` sees the new row at its key and the old rows elsewhere. -/
theorem find?_put (t : Table key) (r : ρ) (k : κ) :
    (t.put r).find? k = if k = key r then some r else t.find? k := by
  by_cases h : key r ∈ t.rows.map key
  · have he : (t.put r).rows = t.rows.map fun x => if key x = key r then r else x := by
      simp only [put, h, ite_true]
    rw [find?, he, find?_map_if]
    by_cases hk : k = key r
    · obtain ⟨x, hx⟩ := exists_mem_key.mp h
      rw [← hk] at hx
      simp only [hk, ite_true]
      rw [show (t.rows.find? fun x => key x = key r) = some x by rw [← hk]; exact hx]
      rfl
    · simp only [hk, ite_false]
      rfl
  · have he : (t.put r).rows = t.rows ++ [r] := by simp only [put, h, ite_false]
    rw [find?, he, List.find?_append]
    by_cases hk : k = key r
    · have hn : (t.rows.find? fun x => key x = k) = none := by
        rw [hk]; exact find?_eq_none.mpr h
      rw [hn]
      simp [hk]
    · have hk' : ¬ key r = k := fun e => hk e.symm
      simp [hk, hk', find?]

@[simp] theorem find?_put_self (t : Table key) (r : ρ) : (t.put r).find? (key r) = some r := by
  simp [find?_put]

/-- What holds of all rows after a `put` holds of the new row and of the rows it leaves. -/
theorem forall_mem_put {Q : ρ → Prop} {t : Table key} {r : ρ} :
    (∀ x ∈ (t.put r).rows, Q x) ↔ Q r ∧ ∀ x ∈ t.rows, key x ≠ key r → Q x := by
  constructor
  · intro h
    refine ⟨h r (mem_of_find? (find?_put_self t r)), fun x hx hne => h x ?_⟩
    rw [mem_rows_iff, find?_put, if_neg hne]
    exact find?_of_mem hx
  · rintro ⟨hr, hrest⟩ x hx
    rw [mem_rows_iff, find?_put] at hx
    split_ifs at hx with hkey
    · exact Option.some.inj hx ▸ hr
    · exact hrest x (mem_of_find? hx) hkey

/-- Putting a row whose key is new appends it. -/
theorem rows_put_of_fresh {t : Table key} {r : ρ} (h : t.find? (key r) = none) :
    (t.put r).rows = t.rows ++ [r] := by
  simp only [put, find?_eq_none.mp h, ite_false]

/-- Replacing a stored row by one that fails the condition takes it out of the selection. -/
theorem filter_put_of_neg {t : Table key} {r : ρ} {p : ρ → Bool} (h : t.find? (key r) ≠ none)
    (hp : p r = false) :
    (t.put r).rows.filter p = (t.rows.filter fun x => key x ≠ key r).filter p := by
  have hmem : key r ∈ t.rows.map key := by
    by_contra hnot
    exact h (find?_eq_none.mpr hnot)
  simp only [put, hmem, ite_true]
  induction t.rows with
  | nil => rfl
  | cons x xs ih =>
    by_cases hx : key x = key r
    · simpa [hx, hp] using ih
    · by_cases hpx : p x <;> simpa [hx, hpx] using ih

/-- The later of two versions of a row replaces the earlier one. -/
theorem put_put {t : Table key} {r r' : ρ} (h : key r' = key r) : (t.put r).put r' = t.put r' := by
  apply Table.ext
  by_cases hmem : key r ∈ t.rows.map key
  · have hmap : ((t.rows.map fun x => if key x = key r then r else x).map key) = t.rows.map key := by
      rw [List.map_map]
      apply List.map_congr_left
      intro x _
      by_cases hx : key x = key r <;> simp [hx]
    simp only [put, h, hmem, ite_true, hmap, List.map_map]
    apply List.map_congr_left
    intro x _
    by_cases hx : key x = key r <;> simp [hx]
  · have hfix : (t.rows.map fun x => if key x = key r then r' else x) = t.rows := by
      conv_rhs => rw [← List.map_id t.rows]
      apply List.map_congr_left
      intro x hx
      have hne : key x ≠ key r := fun e => hmem (e ▸ List.mem_map_of_mem hx)
      simp only [hne, ite_false, id]
    simp only [put, h, hmem, ite_false, List.map_append, List.map_cons, List.map_nil,
      List.mem_append, List.mem_singleton, or_true, ite_true, hfix]

/-- The aggregate after a `put` gains the new row and loses the one it replaces. -/
theorem sum_put (t : Table key) (r : ρ) (g : ρ → ℤ) :
    (t.put r).sum g = t.sum g + g r - ((t.find? (key r)).map g).getD 0 := by
  cases hf : t.find? (key r) with
  | none =>
    simp [sum, rows_put_of_fresh hf]
  | some o =>
    have hm : key r ∈ t.rows.map key := exists_mem_key.mpr ⟨o, hf⟩
    have he : (t.put r).rows = t.rows.map fun x => if key x = key r then r else x := by
      simp only [put, hm, ite_true]
    obtain ⟨pre, post, hrows⟩ := List.append_of_mem (mem_of_find? hf)
    have hkey : key o = key r := find?_some_key hf
    have hnd := t.nodup
    rw [hrows, List.map_append, List.map_cons, List.nodup_middle, List.nodup_cons,
      List.mem_append, not_or] at hnd
    have hfix : ∀ l : List ρ, key o ∉ l.map key →
        (l.map fun x => if key x = key r then r else x) = l := by
      intro l hl
      rw [List.map_congr_left (g := id), List.map_id]
      intro x hx
      have : key x ≠ key r := fun e => hl (hkey ▸ e ▸ List.mem_map_of_mem hx)
      simp [this]
    simp only [sum, he, hrows, List.map_append, List.map_cons, hfix pre hnd.1.1,
      hfix post hnd.1.2, hkey, ite_true, List.sum_append, List.sum_cons, Option.map_some,
      Option.getD_some]
    omega

/-- An expression that vanishes off one key sums to its value at that key. -/
theorem sum_eq_find? (t : Table key) (k : κ) {g : ρ → ℤ}
    (h : ∀ r ∈ t.rows, key r ≠ k → g r = 0) : t.sum g = ((t.find? k).map g).getD 0 := by
  have hnodup := t.nodup
  unfold sum find?
  generalize t.rows = rows at h hnodup
  induction rows with
  | nil => rfl
  | cons r rows ih =>
    rw [List.map_cons, List.nodup_cons] at hnodup
    have hrest := ih (fun x hx => h x (List.mem_cons_of_mem _ hx)) hnodup.2
    rw [List.map_cons, List.sum_cons, hrest]
    by_cases hr : key r = k
    · have hnone : (rows.find? fun x => key x = k) = none := by
        rw [List.find?_eq_none]
        intro x hx hk
        exact hnodup.1 (hr ▸ of_decide_eq_true hk ▸ List.mem_map_of_mem hx)
      rw [List.find?_cons_of_pos (by simpa using hr), hnone]
      simp
    · rw [List.find?_cons_of_neg (by simpa using hr), h r List.mem_cons_self hr, zero_add]

/-- The aggregate after a `put` where the expression changes with the table, but not for the
rows that stay. -/
theorem sum_put_congr (t : Table key) (r : ρ) {f g : ρ → ℤ}
    (h : ∀ x ∈ t.rows, key x ≠ key r → f x = g x) :
    (t.put r).sum f = t.sum g + f r - ((t.find? (key r)).map g).getD 0 := by
  have hdiff := t.sum_eq_find? (key r) (g := fun x => f x + -g x) fun x hx hk => by
    rw [h x hx hk]
    omega
  have hneg : (t.sum fun x => -g x) = -t.sum g := by
    unfold sum
    rw [List.sum_neg, List.map_map]
    rfl
  rw [sum_add, hneg] at hdiff
  rw [sum_put]
  cases hf : t.find? (key r) with
  | none =>
    rw [hf] at hdiff
    simp only [Option.map_none, Option.getD_none] at hdiff ⊢
    omega
  | some o =>
    rw [hf] at hdiff
    simp only [Option.map_some, Option.getD_some] at hdiff ⊢
    omega

/-- An update that finds its row is the `put` of the changed row. -/
theorem update_eq_put {t : Table key} {k : κ} {f : ρ → ρ} {hf : ∀ r, key (f r) = key r} {o : ρ}
    (h : t.find? k = some o) : t.update k f hf = t.put (f o) := by
  apply Table.ext
  have hk : key (f o) = k := (hf o).trans (find?_some_key h)
  have hm : k ∈ t.rows.map key := exists_mem_key.mpr ⟨o, h⟩
  simp only [update, put, hk, hm, ite_true]
  apply List.map_congr_left
  intro x hx
  by_cases he : key x = k
  · have : x = o := Option.some.inj ((find?_of_mem hx).symm.trans (he ▸ h))
    simp [this]
  · simp [he]

/-- An update of one row by a condition that no other row meets. -/
theorem updateWhere_eq_put {t : Table key} {p : ρ → Bool} {f : ρ → ρ}
    {hf : ∀ r, key (f r) = key r} {o : ρ} (ho : o ∈ t.rows) (hp : ∀ r ∈ t.rows, p r ↔ r = o) :
    t.updateWhere p f hf = t.put (f o) := by
  have hkey : key (f o) ∈ t.rows.map key := hf o ▸ List.mem_map_of_mem ho
  refine Table.ext ?_
  simp only [updateWhere, put, if_pos hkey]
  apply List.map_congr_left
  intro r hr
  by_cases hro : r = o
  · subst hro
    rw [if_pos ((hp r hr).mpr rfl), if_pos (hf r).symm]
  · have hne : key r ≠ key (f o) := by
      rw [hf]
      exact fun he => hro (List.inj_on_of_nodup_map t.nodup hr ho he)
    rw [if_neg (fun h => hro ((hp r hr).mp h)), if_neg hne]

/-- An update that finds no row changes nothing. -/
theorem update_of_none {t : Table key} {k : κ} {f : ρ → ρ} {hf : ∀ r, key (f r) = key r}
    (h : t.find? k = none) : t.update k f hf = t := by
  apply Table.ext
  rw [find?_eq_none] at h
  simp only [update]
  conv_rhs => rw [← List.map_id t.rows]
  apply List.map_congr_left
  intro x hx
  have : key x ≠ k := fun e => h (e ▸ List.mem_map_of_mem hx)
  simp [this]

theorem find?_update (t : Table key) (k k' : κ) (f : ρ → ρ) (hf : ∀ r, key (f r) = key r) :
    (t.update k f hf).find? k' = if k' = k then (t.find? k).map f else t.find? k' := by
  cases h : t.find? k with
  | none =>
    rw [update_of_none h]
    by_cases hk : k' = k <;> simp [hk, h]
  | some o =>
    rw [update_eq_put h, find?_put, hf, find?_some_key h, Option.map_some]

theorem insert?_eq_some {t t' : Table key} {r : ρ} :
    t.insert? r = some t' ↔ t.find? (key r) = none ∧ t' = t.put r := by
  by_cases h : key r ∈ t.rows.map key
  · simp only [insert?, h, ite_true, reduceCtorEq, false_iff, not_and]
    exact fun hn => absurd h (find?_eq_none.mp hn)
  · simp only [insert?, h, ite_false, Option.some.injEq, find?_eq_none.mpr h, true_and]
    exact eq_comm

theorem find?_insertIfAbsent (t : Table key) (r : ρ) (k : κ) :
    (t.insertIfAbsent r).find? k =
      if k = key r then some ((t.find? k).getD r) else t.find? k := by
  by_cases h : key r ∈ t.rows.map key
  · obtain ⟨o, ho⟩ := exists_mem_key.mp h
    simp only [insertIfAbsent, h, ite_true]
    by_cases hk : k = key r <;> simp [hk, ho]
  · simp only [insertIfAbsent, h, ite_false, find?_put]
    by_cases hk : k = key r
    · simp [hk, find?_eq_none.mpr h]
    · simp [hk]

/-! ### Adding to a column -/

/-- One row's column grows by an amount, no other row's column changes and no row comes or
goes. -/
def Adds (g : ρ → ℤ) (t t' : Table key) (k : κ) (amount : ℤ) : Prop :=
  ∀ j, (t'.find? j).map g = (t.find? j).map fun r => g r + if j = k then amount else 0

section Adds

variable {g : ρ → ℤ} {t t' t'' : Table key} {k : κ} {a b : ℤ}

theorem Adds.zero (h : ∀ j, (t'.find? j).map g = (t.find? j).map g) : Adds g t t' k 0 := by
  intro j
  simpa using h j

theorem Adds.refl (t : Table key) (k : κ) : Adds g t t k 0 := Adds.zero fun _ => rfl

theorem Adds.trans (h : Adds g t t' k a) (h' : Adds g t' t'' k b) : Adds g t t'' k (a + b) := by
  intro j
  have hmap : (t'.find? j).map (fun r => g r + if j = k then b else 0) =
      ((t'.find? j).map g).map fun x => x + if j = k then b else 0 := by
    rw [Option.map_map]
    rfl
  rw [h' j, hmap, h j, Option.map_map]
  congr 1
  funext r
  by_cases hj : j = k <;> simp [hj, add_assoc]

/-- Updating one row changes its column as the update says. -/
theorem Adds.update (t : Table key) (k : κ) {f : ρ → ρ} (hf : ∀ r, key (f r) = key r)
    (hg : ∀ r, g (f r) = g r + a) : Adds g t (t.update k f hf) k a := by
  intro j
  rw [find?_update]
  by_cases hj : j = k
  · subst hj
    simp only [ite_true, Option.map_map]
    congr 1
    funext r
    exact hg r
  · simp [hj]

/-- What a found row's column becomes. -/
theorem Adds.find? (h : Adds g t t' k a) {r' : ρ} {j : κ} (hr' : t'.find? j = some r') :
    ∃ r, t.find? j = some r ∧ g r' = g r + if j = k then a else 0 := by
  have hj := h j
  rw [hr', Option.map_some] at hj
  cases hr : t.find? j with
  | none =>
    rw [hr] at hj
    cases hj
  | some r =>
    rw [hr, Option.map_some, Option.some.injEq] at hj
    exact ⟨r, rfl, hj⟩

end Adds

end Table

/-! ## Ordered selection -/

/-- `ORDER BY f ASC`. -/
def orderBy (f : ρ → ℤ) (rows : List ρ) : List ρ := rows.insertionSort fun a b => f a ≤ f b

/-- Along rows in increasing order a selection is a prefix when everything it leaves out
comes after everything it keeps. -/
theorem filter_prefix_iff {f : ρ → ℤ} {rows : List ρ} (p : ρ → Bool)
    (hinc : rows.Pairwise fun a b => f a < f b) :
    rows.filter p <+: rows ↔
      ∀ a ∈ rows, p a = false → ∀ r ∈ rows, p r = true → f r < f a := by
  induction rows with
  | nil => simp
  | cons x xs ih =>
    obtain ⟨hx, hxs⟩ := List.pairwise_cons.mp hinc
    cases hp : p x with
    | true =>
      rw [List.filter_cons_of_pos hp, List.cons_prefix_cons, and_iff_right rfl, ih hxs]
      constructor
      · intro h a ha hpa r hr hpr
        rcases List.mem_cons.mp ha with rfl | hmem
        · rw [hp] at hpa
          cases hpa
        · rcases List.mem_cons.mp hr with rfl | hr
          · exact hx a hmem
          · exact h a hmem hpa r hr hpr
      · intro h a ha hpa r hr hpr
        exact h a (List.mem_cons_of_mem _ ha) hpa r (List.mem_cons_of_mem _ hr) hpr
    | false =>
      rw [List.filter_cons_of_neg (by simp [hp])]
      constructor
      · -- a kept row would have to be the first row, which is left out
        intro h a _ _ r hr hpr
        cases hs : xs.filter p with
        | nil =>
          rcases List.mem_cons.mp hr with rfl | hr
          · rw [hp] at hpr
            cases hpr
          · exact absurd hpr (List.filter_eq_nil_iff.mp hs r hr)
        | cons y ys =>
          rw [hs, List.cons_prefix_cons] at h
          have hy : p y = true := (List.mem_filter.mp (hs ▸ List.mem_cons_self)).2
          rw [h.1, hp] at hy
          cases hy
      · intro h
        have hnone : xs.filter p = [] := by
          rw [List.filter_eq_nil_iff]
          intro r hr hpr
          have hlt := h x List.mem_cons_self hp r (List.mem_cons_of_mem _ hr) hpr
          have hgt := hx r hr
          omega
        rw [hnone]
        exact List.nil_prefix

/-- `ORDER BY f DESC LIMIT 1`. -/
def lastBy (f : ρ → ℤ) : List ρ → Option ρ
  | [] => none
  | r :: rs =>
    match lastBy f rs with
    | none => some r
    | some m => if f m < f r then some r else some m

theorem lastBy_mem {f : ρ → ℤ} {rows : List ρ} {r : ρ} (h : lastBy f rows = some r) :
    r ∈ rows := by
  induction rows generalizing r with
  | nil => cases h
  | cons x xs ih =>
    rw [lastBy] at h
    cases hm : lastBy f xs with
    | none =>
      rw [hm] at h
      exact List.mem_cons.mpr (Or.inl (Option.some.inj h).symm)
    | some m =>
      rw [hm] at h
      simp only at h
      split_ifs at h
      · exact List.mem_cons.mpr (Or.inl (Option.some.inj h).symm)
      · exact List.mem_cons_of_mem _ (ih (hm.trans h))

theorem lastBy_ne_none {f : ρ → ℤ} {rows : List ρ} (h : rows ≠ []) : lastBy f rows ≠ none := by
  cases rows with
  | nil => exact absurd rfl h
  | cons x xs =>
    rw [lastBy]
    split
    · simp
    · split_ifs <;> simp

/-- A row above all others is the last. -/
theorem lastBy_concat {f : ρ → ℤ} {rows : List ρ} {r : ρ} (h : ∀ x ∈ rows, f x < f r) :
    lastBy f (rows ++ [r]) = some r := by
  induction rows with
  | nil => rfl
  | cons x xs ih =>
    rw [List.cons_append, lastBy, ih fun y hy => h y (List.mem_cons_of_mem _ hy)]
    have hx := h x List.mem_cons_self
    simp only [show ¬ f r < f x by omega, ite_false]

end Governor
