import Mathlib
import Governor.Core.SlidingWindow

/-!
# Fixed windows

A counter that starts again with the first event after its window is over, and trips at every
event that finds it at a threshold. An event at which it trips has as many events in the sliding
window that ends with it. Conversely a sliding window with nearly twice as many events overlaps
two fixed windows at most, so the counter has tripped in it.
-/

namespace Governor.FixedWindow

open SlidingWindow

/-- The end and the count of the current window, and the events at which the counter tripped. -/
structure State (α : Type*) where
  window : Option (α × Int)
  trips : List α

section Event

variable {α : Type*} [AddCommGroup α] [LinearOrder α]

/-- No event has come yet. -/
def State.initial : State α := ⟨none, []⟩

/-- The window after an event. -/
def State.next (width now : α) (s : State α) : α × Int :=
  match s.window with
  | none => (now + width, 1)
  | some (ends, n) => if now < ends then (ends, n + 1) else (now + width, 1)

/-- An event. -/
def State.event (threshold : Int) (width now : α) (s : State α) : State α where
  window := some (s.next width now)
  trips := if threshold ≤ (s.next width now).2 then s.trips ++ [now] else s.trips

end Event

section Follows

variable {α : Type*} [AddCommGroup α] [LinearOrder α] {threshold : Int} {width now t : α}
  {s : State α} {events : List α}

/-- What the counter keeps of its events. -/
structure Follows (threshold : Int) (width : α) (s : State α) (events : List α) (now : α) :
    Prop where
  ordered : Ordered events now
  /-- The current window has counted the events since its start. -/
  current : ∀ ends n, s.window = some (ends, n) →
    n = (events.countP fun e => ends - width ≤ e : Nat) ∧ ends - width ≤ now ∧
      ∀ e ∈ events, e < ends
  /-- The last event has tripped the counter if there were enough in the window. -/
  last : ∀ ends n, s.window = some (ends, n) → threshold ≤ n →
    ∃ trip ∈ s.trips, ∀ e ∈ events, e ≤ trip
  /-- Enough events in the width before the window tripped the counter not before the first of
  them. -/
  earlier : ∀ ends n, s.window = some (ends, n) → ∀ c, ends - width - width ≤ c →
    threshold ≤ (events.countP fun e => c ≤ e ∧ e < ends - width : Nat) →
    ∃ trip ∈ s.trips, c ≤ trip
  fresh : s.window = none → events = []
  /-- The counter trips at events with enough others in their sliding window. -/
  sound : ∀ trip ∈ s.trips, trip ∈ events ∧ threshold ≤ countAt width events trip
  /-- An event with nearly twice as many has seen the counter trip. -/
  complete : ∀ e ∈ events, 2 * threshold - 1 ≤ countAt width events e →
    ∃ trip ∈ s.trips, e - width ≤ trip ∧ trip ≤ e

theorem follows_initial (now : α) : Follows threshold width .initial [] now where
  ordered := .nil
  current := fun _ _ h => by cases h
  last := fun _ _ h => by cases h
  earlier := fun _ _ h => by cases h
  fresh := fun _ => rfl
  sound := fun _ h => by cases h
  complete := fun _ h => by cases h

theorem Follows.mono (h : Follows threshold width s events now) (hle : now ≤ t) :
    Follows threshold width s events t where
  ordered := h.ordered.mono hle
  current ends n hw := ⟨(h.current ends n hw).1, (h.current ends n hw).2.1.trans hle,
    (h.current ends n hw).2.2⟩
  last := h.last
  earlier := h.earlier
  fresh := h.fresh
  sound := h.sound
  complete := h.complete

end Follows

/-- What one condition counts, two that cover it count together. -/
theorem countP_le_add {α : Type*} {events : List α} {p q r : α → Bool}
    (h : ∀ e ∈ events, p e = true → q e = true ∨ r e = true) :
    events.countP p ≤ events.countP q + events.countP r := by
  induction events with
  | nil => simp
  | cons e events ih =>
    have hrest := ih fun e' he' => h e' (List.mem_cons_of_mem _ he')
    have hfirst := h e List.mem_cons_self
    rw [List.countP_cons, List.countP_cons, List.countP_cons]
    by_cases hp : p e = true
    · rcases hfirst hp with hq | hr
      · rw [if_pos hp, if_pos hq]
        omega
      · rw [if_pos hp, if_pos hr]
        omega
    · rw [if_neg hp]
      omega

section Step

variable {α : Type*} [AddCommGroup α] [LinearOrder α] [IsOrderedAddMonoid α] {threshold : Int}
  {width now : α} {s : State α} {events : List α}

/-- The window after an event covers it and does not start before it can. -/
theorem Follows.next (hwidth : 0 < width) (h : Follows threshold width s events now) :
    (s.next width now).2 =
        ((events ++ [now]).countP fun e => (s.next width now).1 - width ≤ e : Nat) ∧
      (s.next width now).1 - width ≤ now ∧ now < (s.next width now).1 := by
  have hone : ∀ events : List α, (∀ e ∈ events, e < now) →
      ((events ++ [now]).countP fun e => now + width - width ≤ e) = 1 := by
    intro events hbefore
    have hnone : (events.countP fun e => now + width - width ≤ e) = 0 := by
      rw [List.countP_eq_zero]
      intro e he
      simpa using hbefore e he
    rw [List.countP_append, hnone]
    simp
  unfold State.next
  cases hwindow : s.window with
  | none =>
    obtain rfl := h.fresh hwindow
    exact ⟨by rw [hone [] nofun]; rfl, by simp, lt_add_of_pos_right now hwidth⟩
  | some p =>
    obtain ⟨ends, n⟩ := p
    obtain ⟨hn, hstart, hends⟩ := h.current ends n hwindow
    simp only
    split_ifs with hlive
    · refine ⟨?_, hstart, hlive⟩
      rw [List.countP_append, List.countP_singleton, if_pos (decide_eq_true hstart), hn]
      rfl
    · refine ⟨?_, by simp, lt_add_of_pos_right now hwidth⟩
      rw [hone events fun e he => (hends e he).trans_le (not_lt.mp hlive)]
      rfl

/-- Enough events in the width before the window of an event tripped the counter before. -/
theorem Follows.next_earlier (hthreshold : 0 < threshold)
    (h : Follows threshold width s events now) {c : α}
    (hc : (s.next width now).1 - width - width ≤ c)
    (hcount : threshold ≤ ((events ++ [now]).countP fun e =>
      c ≤ e ∧ e < (s.next width now).1 - width : Nat)) : ∃ trip ∈ s.trips, c ≤ trip := by
  unfold State.next at hc hcount
  cases hwindow : s.window with
  | none =>
    obtain rfl := h.fresh hwindow
    rw [hwindow] at hcount
    simp only [List.nil_append, List.countP_singleton, add_sub_cancel_right, lt_self_iff_false,
      and_false, decide_false, Bool.false_eq_true, if_false, Nat.cast_zero] at hcount
    omega
  | some p =>
    obtain ⟨ends, n⟩ := p
    obtain ⟨hn, hstart, hends⟩ := h.current ends n hwindow
    rw [hwindow] at hc hcount
    simp only at hc hcount
    split_ifs at hc hcount with hlive
    · refine h.earlier ends n hwindow c hc ?_
      rw [List.countP_append, List.countP_singleton, if_neg] at hcount
      · exact hcount
      · simp [hstart]
    · -- the events of the width before lie in the window that is over
      have hstarts : ends - width ≤ c := by
        rw [add_sub_cancel_right] at hc
        exact (sub_le_sub_right (not_lt.mp hlive) width).trans hc
      rw [List.countP_append, List.countP_singleton, add_sub_cancel_right,
        if_neg (by simp), add_zero] at hcount
      have hle : (events.countP fun e => c ≤ e ∧ e < now) ≤
          events.countP fun e => ends - width ≤ e := by
        refine List.countP_mono_left fun e _ he => ?_
        rw [decide_eq_true_eq] at he ⊢
        exact hstarts.trans he.1
      obtain ⟨trip, htrip, hlater⟩ := h.last ends n hwindow (by omega)
      obtain ⟨e, he, hce⟩ := List.countP_pos_iff.mp
        (show 0 < events.countP fun e => c ≤ e ∧ e < now by omega)
      exact ⟨trip, htrip, (of_decide_eq_true hce).1.trans (hlater e he)⟩

/-- Every event, at a time not before the last, keeps what the counter follows. -/
theorem Follows.event (hthreshold : 0 < threshold) (hwidth : 0 < width)
    (h : Follows threshold width s events now) :
    Follows threshold width (s.event threshold width now) (events ++ [now]) now := by
  obtain ⟨hn, hstart, hends⟩ := h.next hwidth
  have hpast : ∀ e ∈ events ++ [now], e ≤ now := h.ordered.append.past
  have hkept : ∀ trip ∈ s.trips, trip ∈ (s.event threshold width now).trips := by
    intro trip htrip
    unfold State.event
    simp only
    split_ifs
    · exact List.mem_append_left _ htrip
    · exact htrip
  have hnew : threshold ≤ (s.next width now).2 → now ∈ (s.event threshold width now).trips := by
    intro hle
    unfold State.event
    simp only [if_pos hle]
    exact List.mem_append_right _ (List.mem_singleton_self _)
  have hwindow : ∀ ends n, (s.event threshold width now).window = some (ends, n) →
      ends = (s.next width now).1 ∧ n = (s.next width now).2 := by
    intro ends n hw
    have heq : s.next width now = (ends, n) := Option.some.inj hw
    rw [heq]
    exact ⟨rfl, rfl⟩
  have hearlier : ∀ c, (s.next width now).1 - width - width ≤ c →
      threshold ≤ ((events ++ [now]).countP fun e =>
        c ≤ e ∧ e < (s.next width now).1 - width : Nat) →
      ∃ trip ∈ (s.event threshold width now).trips, c ≤ trip := by
    intro c hc hcount
    obtain ⟨trip, htrip, hle⟩ := h.next_earlier hthreshold hc hcount
    exact ⟨trip, hkept trip htrip, hle⟩
  have hsound : ∀ trip ∈ (s.event threshold width now).trips,
      trip ∈ events ++ [now] ∧ threshold ≤ countAt width (events ++ [now]) trip := by
    intro trip htrip
    have hold : ∀ trip ∈ s.trips,
        trip ∈ events ++ [now] ∧ threshold ≤ countAt width (events ++ [now]) trip := by
      intro trip htrip
      obtain ⟨hmem, hcount⟩ := h.sound trip htrip
      have hmore : (countAt width events trip : Int) ≤ countAt width (events ++ [now]) trip :=
        Int.ofNat_le.mpr countAt_le_append
      exact ⟨List.mem_append_left _ hmem, hcount.trans hmore⟩
    unfold State.event at htrip
    simp only at htrip
    split_ifs at htrip with hle
    · rcases List.mem_append.mp htrip with htrip | htrip
      · exact hold trip htrip
      · obtain rfl := List.mem_singleton.mp htrip
        refine ⟨List.mem_append_right _ (List.mem_singleton_self _), hle.trans ?_⟩
        rw [hn, countAt]
        refine Int.ofNat_le.mpr (List.countP_mono_left fun e he hcounted => ?_)
        rw [decide_eq_true_eq] at hcounted ⊢
        exact ⟨(sub_le_sub_right hends.le width).trans hcounted, hpast e he⟩
    · exact hold trip htrip
  refine ⟨h.ordered.append, ?_, ?_, ?_, ?_, hsound, ?_⟩
  · intro ends n hw
    obtain ⟨rfl, rfl⟩ := hwindow ends n hw
    exact ⟨hn, hstart, fun e he => (hpast e he).trans_lt hends⟩
  · intro ends n hw hle
    obtain ⟨rfl, rfl⟩ := hwindow ends n hw
    exact ⟨now, hnew hle, hpast⟩
  · intro ends n hw c hc hcount
    obtain ⟨rfl, rfl⟩ := hwindow ends n hw
    exact hearlier c hc hcount
  · intro hw
    cases hw
  · intro e he hcount
    rcases (hpast e he).lt_or_eq with hbefore | rfl
    · rw [countAt_append_of_lt hbefore] at hcount
      have hmem : e ∈ events := (List.mem_append.mp he).resolve_right fun hlast =>
        hbefore.ne (List.mem_singleton.mp hlast)
      obtain ⟨trip, htrip, hwithin⟩ := h.complete e hmem hcount
      exact ⟨trip, hkept trip htrip, hwithin⟩
    · -- the events lie in the window before and in the current one
      have hsplit : countAt width (events ++ [e]) e ≤
          ((events ++ [e]).countP fun x => e - width ≤ x ∧ x < (s.next width e).1 - width) +
            (events ++ [e]).countP fun x => (s.next width e).1 - width ≤ x := by
        unfold countAt
        refine countP_le_add fun x _ hx => ?_
        rw [decide_eq_true_eq] at hx
        rcases lt_or_ge x ((s.next width e).1 - width) with hlt | hge
        · exact Or.inl (decide_eq_true ⟨hx.1, hlt⟩)
        · exact Or.inr (decide_eq_true hge)
      by_cases hle : threshold ≤ (s.next width e).2
      · exact ⟨e, hnew hle, (sub_lt_self e hwidth).le, le_rfl⟩
      · obtain ⟨trip, htrip, hafter⟩ := hearlier (e - width)
          (sub_le_sub_right hstart width) (by omega)
        exact ⟨trip, htrip, hafter, hpast trip (hsound trip htrip).1⟩

end Step

end Governor.FixedWindow
