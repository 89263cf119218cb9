import Mathlib.Data.List.Basic
import Governor.Core.Run

/-!
# Requests that take effect once

A client tries a request several times, while others use the system, and does not know which of the
attempts the system has served. Where a served request either changes nothing or settles what it
asks for, for good, and a settled request changes nothing, the attempts together take effect at
most once: the system ends as after the actions of the others with at most one attempt among them.
-/

namespace Governor

section OneShot

variable {σ α : Type} (step : σ → α → σ) (I settled : σ → Prop) (own : α → Prop)

/-- A kind of request that takes effect once. -/
structure OneShot : Prop where
  kept : ∀ s a, I s → I (step s a)
  stays : ∀ s a, I s → settled s → settled (step s a)
  takes : ∀ s a, own a → I s → step s a = s ∨ settled (step s a)
  idle : ∀ s a, own a → I s → settled s → step s a = s

/-- The actions of the others, each part followed by an attempt that is served, or by none. -/
def interleaved (segments : List (List α × Option α)) : List α :=
  segments.flatMap fun segment => segment.1 ++ segment.2.toList

/-- The actions of the others. -/
def others (segments : List (List α × Option α)) : List α := segments.flatMap Prod.fst

variable {step I settled own} {s : σ}

/-- Once it is settled no attempt changes anything. -/
theorem OneShot.foldl_settled (h : OneShot step I settled own) {segments : List (List α × Option α)}
    (hown : ∀ segment ∈ segments, ∀ a ∈ segment.2, own a) (hI : I s) (hs : settled s) :
    (interleaved segments).foldl step s = (others segments).foldl step s := by
  induction segments generalizing s with
  | nil => rfl
  | cons segment segments ih =>
    have hkept : I (segment.1.foldl step s) ∧ settled (segment.1.foldl step s) :=
      foldl_invariant (I := fun s => I s ∧ settled s) ⟨hI, hs⟩
        (fun s a hs => ⟨h.kept s a hs.1, h.stays s a hs.1 hs.2⟩) segment.1
    have hidle : segment.2.toList.foldl step (segment.1.foldl step s) = segment.1.foldl step s := by
      cases hsegment : segment.2 with
      | none => rfl
      | some a => exact h.idle _ a (hown segment List.mem_cons_self a hsegment) hkept.1 hkept.2
    rw [interleaved, others, List.flatMap_cons, List.flatMap_cons, List.foldl_append,
      List.foldl_append, List.foldl_append, hidle]
    exact ih (fun x hx => hown x (List.mem_cons_of_mem _ hx)) hkept.1 hkept.2

/-- The attempts take effect at most once. -/
theorem OneShot.foldl_interleaved (h : OneShot step I settled own)
    {segments : List (List α × Option α)}
    (hown : ∀ segment ∈ segments, ∀ a ∈ segment.2, own a) (hI : I s) :
    ∃ before once after, before ++ after = others segments ∧ once.length ≤ 1 ∧
      (∀ a ∈ once, ∃ segment ∈ segments, segment.2 = some a) ∧
      (interleaved segments).foldl step s = (before ++ once ++ after).foldl step s := by
  induction segments generalizing s with
  | nil => exact ⟨[], [], [], rfl, Nat.zero_le _, nofun, rfl⟩
  | cons segment segments ih =>
    have hrest : ∀ x ∈ segments, ∀ a ∈ x.2, own a := fun x hx =>
      hown x (List.mem_cons_of_mem _ hx)
    have hkept : I (segment.1.foldl step s) := foldl_invariant hI h.kept segment.1
    have hsplit : (interleaved (segment :: segments)).foldl step s =
        (interleaved segments).foldl step
          (segment.2.toList.foldl step (segment.1.foldl step s)) := by
      rw [interleaved, List.flatMap_cons, List.foldl_append, List.foldl_append]
      rfl
    -- an attempt that changes nothing might as well not have been served
    have hskip : segment.2.toList.foldl step (segment.1.foldl step s) = segment.1.foldl step s →
        ∃ before once after, before ++ after = others (segment :: segments) ∧ once.length ≤ 1 ∧
          (∀ a ∈ once, ∃ x ∈ segment :: segments, x.2 = some a) ∧
          (interleaved (segment :: segments)).foldl step s =
            (before ++ once ++ after).foldl step s := by
      intro hnone
      obtain ⟨before, once, after, hothers, hlength, hmem, hfoldl⟩ := ih hrest hkept
      refine ⟨segment.1 ++ before, once, after, ?_, hlength, fun a ha => ?_, ?_⟩
      · rw [List.append_assoc, hothers]
        rfl
      · obtain ⟨x, hx, hxa⟩ := hmem a ha
        exact ⟨x, List.mem_cons_of_mem _ hx, hxa⟩
      · rw [hsplit, hnone, hfoldl]
        simp only [List.foldl_append]
    cases hsegment : segment.2 with
    | none => exact hskip (by rw [hsegment]; rfl)
    | some a =>
      have ha := hown segment List.mem_cons_self a hsegment
      rcases h.takes _ a ha hkept with hnone | hsettled
      · exact hskip (by rw [hsegment]; exact hnone)
      · refine ⟨segment.1, [a], others segments, rfl, Nat.le_refl _, fun b hb => ?_, ?_⟩
        · obtain rfl := List.mem_singleton.mp hb
          exact ⟨segment, List.mem_cons_self, hsegment⟩
        · rw [hsplit, hsegment, List.foldl_append, List.foldl_append]
          exact h.foldl_settled hrest (h.kept _ a hkept) hsettled

end OneShot

end Governor
