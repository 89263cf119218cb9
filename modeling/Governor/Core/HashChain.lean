import Mathlib.Data.List.Forall2
import Mathlib.Data.List.Infix

/-!
# Hash chains

A row of a chain names its predecessor's hash and carries a hash of its own, which
must be the digest of its contents. The digest is an arbitrary function: what holds
without further assumptions is stated first, and what needs distinct digests names
the rows on which they are distinct.
-/

namespace Governor

variable {ρ η : Type}

/-- How a row is chained: the predecessor it names, the hash it carries, and the
digest of its contents. -/
structure Sealing (ρ η : Type) where
  /-- The predecessor's hash, as the row names it. -/
  prev : ρ → η
  /-- The hash the row carries; an unsealed row has none. -/
  hash : ρ → Option η
  /-- The hash recomputed from the row. -/
  digest : ρ → η

namespace Sealing

variable (S : Sealing ρ η)

/-- The rows are sealed and each names the hash before it, starting from `h`. -/
def Linked : η → List ρ → Prop
  | _, [] => True
  | h, r :: rs => S.prev r = h ∧ S.hash r = some (S.digest r) ∧ Linked (S.digest r) rs

/-- The hash a chain that starts from `h` ends with. -/
def tip : η → List ρ → η
  | h, [] => h
  | _, r :: rs => tip (S.digest r) rs

@[simp] theorem linked_nil (h : η) : S.Linked h [] := trivial

@[simp] theorem tip_nil (h : η) : S.tip h [] = h := rfl

@[simp] theorem tip_cons (h : η) (r : ρ) (rs : List ρ) :
    S.tip h (r :: rs) = S.tip (S.digest r) rs := rfl

theorem linked_cons {h : η} {r : ρ} {rs : List ρ} :
    S.Linked h (r :: rs) ↔
      S.prev r = h ∧ S.hash r = some (S.digest r) ∧ S.Linked (S.digest r) rs := Iff.rfl

theorem linked_append (h : η) (xs ys : List ρ) :
    S.Linked h (xs ++ ys) ↔ S.Linked h xs ∧ S.Linked (S.tip h xs) ys := by
  induction xs generalizing h with
  | nil => simp
  | cons x xs ih => simp only [List.cons_append, linked_cons, ih, tip_cons, and_assoc]

theorem tip_append (h : η) (xs ys : List ρ) : S.tip h (xs ++ ys) = S.tip (S.tip h xs) ys := by
  induction xs generalizing h with
  | nil => rfl
  | cons x xs ih => exact ih (S.digest x)

theorem tip_concat (h : η) (xs : List ρ) (r : ρ) : S.tip h (xs ++ [r]) = S.digest r := by
  rw [tip_append, tip_cons, tip_nil]

/-- Every row of a chain carries the digest of its contents. -/
theorem Linked.hash_eq {S : Sealing ρ η} {h : η} {rows : List ρ} (hl : S.Linked h rows) :
    ∀ r ∈ rows, S.hash r = some (S.digest r) := by
  induction rows generalizing h with
  | nil => simp
  | cons x xs ih =>
    intro r hr
    rcases List.mem_cons.mp hr with rfl | hr
    · exact hl.2.1
    · exact ih hl.2.2 r hr

/-- A row of a chain names the start of the chain or the digest of another row. -/
theorem Linked.prev_eq {S : Sealing ρ η} {h : η} {rows : List ρ} (hl : S.Linked h rows) :
    ∀ r ∈ rows, S.prev r = h ∨ ∃ p ∈ rows, S.prev r = S.digest p := by
  induction rows generalizing h with
  | nil => simp
  | cons x xs ih =>
    intro r hr
    rcases List.mem_cons.mp hr with rfl | hr
    · exact Or.inl hl.1
    · rcases ih hl.2.2 r hr with he | ⟨p, hp, he⟩
      · exact Or.inr ⟨x, List.mem_cons_self, he⟩
      · exact Or.inr ⟨p, List.mem_cons_of_mem _ hp, he⟩

/-- The start of a chain and every digest of it are named by some row, the tip apart. -/
theorem Linked.tip_or_prev {S : Sealing ρ η} {h x : η} {rows : List ρ} (hl : S.Linked h rows)
    (hx : x = h ∨ ∃ p ∈ rows, x = S.digest p) :
    x = S.tip h rows ∨ ∃ r ∈ rows, S.prev r = x := by
  induction rows generalizing h with
  | nil => exact Or.inl (hx.resolve_right (by simp))
  | cons y ys ih =>
    rcases hx with rfl | ⟨p, hp, rfl⟩
    · exact Or.inr ⟨y, List.mem_cons_self, hl.1⟩
    · have hrest : S.digest p = S.digest y ∨ ∃ q ∈ ys, S.digest p = S.digest q := by
        rcases List.mem_cons.mp hp with rfl | hp
        · exact Or.inl rfl
        · exact Or.inr ⟨p, hp, rfl⟩
      rcases ih hl.2.2 hrest with htip | ⟨r, hr, hprev⟩
      · exact Or.inl htip
      · exact Or.inr ⟨r, List.mem_cons_of_mem _ hr, hprev⟩

/-- In a chain with distinct digests, none of them the start, no two rows name the same hash. -/
theorem Linked.nodup_prev {S : Sealing ρ η} {h : η} {rows : List ρ} (hl : S.Linked h rows)
    (hdigest : (rows.map S.digest).Nodup) (hstart : ∀ r ∈ rows, S.digest r ≠ h) :
    (rows.map S.prev).Nodup := by
  induction rows generalizing h with
  | nil => exact List.nodup_nil
  | cons x xs ih =>
    rw [List.map_cons, List.nodup_cons] at hdigest ⊢
    refine ⟨?_, ih hl.2.2 hdigest.2 ?_⟩
    · rw [List.mem_map]
      rintro ⟨r, hr, hsame⟩
      rw [hl.1] at hsame
      rcases hl.2.2.prev_eq r hr with he | ⟨p, hp, he⟩
      · exact hstart x List.mem_cons_self (he.symm.trans hsame)
      · exact hstart p (List.mem_cons_of_mem _ hp) (he.symm.trans hsame)
    · intro r hr he
      exact hdigest.1 (he ▸ List.mem_map_of_mem hr)

/-- Rows that name the start or the digest of an earlier row form a chain when no two of them
name the same hash. -/
theorem linked_of_nodup_prev {h : η} {rows : List ρ}
    (hback : ∀ xs r ys, rows = xs ++ r :: ys → S.prev r = h ∨ ∃ p ∈ xs, S.prev r = S.digest p)
    (hsealed : ∀ r ∈ rows, S.hash r = some (S.digest r)) (hnodup : (rows.map S.prev).Nodup) :
    S.Linked h rows := by
  induction rows using List.reverseRecOn with
  | nil => trivial
  | append_singleton rows r ih =>
    rw [List.map_append, List.nodup_append] at hnodup
    have hl : S.Linked h rows := by
      refine ih ?_ (fun x hx => hsealed x (List.mem_append_left _ hx)) hnodup.1
      intro xs x ys he
      exact hback xs x (ys ++ [r]) (by rw [he]; simp)
    refine (S.linked_append h rows [r]).mpr ⟨hl, ?_, hsealed r (by simp), trivial⟩
    rcases hl.tip_or_prev (hback rows r [] rfl) with htip | ⟨q, hq, hsame⟩
    · exact htip
    · exact absurd hsame (hnodup.2.2 _ (List.mem_map_of_mem hq) _ (by simp))

theorem tip_mem {h : η} {rows : List ρ} (hne : rows ≠ []) :
    ∃ r ∈ rows, S.tip h rows = S.digest r := by
  cases rows using List.reverseRecOn with
  | nil => exact absurd rfl hne
  | append_singleton xs r => exact ⟨r, by simp, S.tip_concat h xs r⟩

/-- Two chains from the same start with the same end are row by row alike, when equal
digests mean alike rows and no digest is the start itself. -/
theorem forall₂_of_tip_eq {R : ρ → ρ → Prop} {g : η} {xs ys : List ρ}
    (hx : S.Linked g xs) (hy : S.Linked g ys) (htip : S.tip g xs = S.tip g ys)
    (hdigest : ∀ x ∈ xs, ∀ y ∈ ys, S.digest x = S.digest y → R x y ∧ S.prev x = S.prev y)
    (hxg : ∀ x ∈ xs, S.digest x ≠ g) (hyg : ∀ y ∈ ys, S.digest y ≠ g) :
    List.Forall₂ R xs ys := by
  induction xs using List.reverseRecOn generalizing ys with
  | nil =>
    cases ys using List.reverseRecOn with
    | nil => exact List.Forall₂.nil
    | append_singleton ys y =>
      rw [tip_concat, tip_nil] at htip
      exact absurd htip.symm (hyg y (by simp))
  | append_singleton xs x ih =>
    cases ys using List.reverseRecOn with
    | nil =>
      rw [tip_concat, tip_nil] at htip
      exact absurd htip (hxg x (by simp))
    | append_singleton ys y =>
      rw [tip_concat, tip_concat] at htip
      obtain ⟨hR, hprev⟩ := hdigest x (by simp) y (by simp) htip
      rw [linked_append] at hx hy
      have hpre : S.tip g xs = S.tip g ys := by rw [← hx.2.1, ← hy.2.1, hprev]
      have hall := ih hx.1 hy.1 hpre
        (fun a ha b hb => hdigest a (by simp [ha]) b (by simp [hb]))
        (fun a ha => hxg a (by simp [ha])) (fun b hb => hyg b (by simp [hb]))
      exact List.rel_append hall (List.Forall₂.cons hR List.Forall₂.nil)

/-- Rows removed from a chain with distinct digests leave a chain from the same start
only when nothing after the first removed row was kept. -/
theorem filter_prefix_of_linked {g : η} {rows : List ρ} (keep : ρ → Bool)
    (hl : S.Linked g rows) (hnd : (rows.map S.digest).Nodup)
    (hg : ∀ r ∈ rows, S.digest r ≠ g) (hf : S.Linked g (rows.filter keep)) :
    rows.filter keep <+: rows := by
  induction rows generalizing g with
  | nil => exact List.prefix_rfl
  | cons r rs ih =>
    rw [List.map_cons, List.nodup_cons] at hnd
    cases hk : keep r with
    | true =>
      rw [List.filter_cons_of_pos hk] at hf ⊢
      refine (List.cons_prefix_cons).mpr ⟨rfl, ih hl.2.2 hnd.2 ?_ hf.2.2⟩
      intro x hx he
      exact hnd.1 (he ▸ List.mem_map_of_mem hx)
    | false =>
      rw [List.filter_cons_of_neg (by simp [hk])] at hf ⊢
      -- the first row kept after `r` would have to name the start of the chain
      cases hs : rs.filter keep with
      | nil => exact List.nil_prefix
      | cons s ss =>
        rw [hs] at hf
        have hmem : s ∈ rs := (List.mem_filter.mp (hs ▸ List.mem_cons_self)).1
        rcases hl.2.2.prev_eq s hmem with he | ⟨p, hp, he⟩
        · exact absurd (he.symm.trans hf.1) (hg r List.mem_cons_self)
        · exact absurd (he.symm.trans hf.1) (hg p (List.mem_cons_of_mem _ hp))

end Sealing

end Governor
