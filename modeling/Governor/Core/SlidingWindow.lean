import Mathlib

/-!
# Sliding windows

A log of events in the order of their times, counted over the window that ends at an event. The
count can be kept in a list from which every new event drops what its window no longer covers;
what was dropped no later window covers.
-/

namespace Governor.SlidingWindow

section Order

variable {α : Type*} [LinearOrder α] {now t : α} {events : List α}

/-- The events are in order and none is later than now. -/
structure Ordered (events : List α) (now : α) : Prop where
  sorted : events.Pairwise (· ≤ ·)
  past : ∀ e ∈ events, e ≤ now

theorem Ordered.nil : Ordered ([] : List α) now := ⟨.nil, nofun⟩

theorem Ordered.mono (h : Ordered events now) (hle : now ≤ t) : Ordered events t :=
  ⟨h.sorted, fun e he => (h.past e he).trans hle⟩

theorem Ordered.append (h : Ordered events now) : Ordered (events ++ [now]) now := by
  refine ⟨List.pairwise_append.mpr ⟨h.sorted, List.pairwise_singleton _ _, ?_⟩, ?_⟩
  · intro e he e' he'
    rw [List.mem_singleton.mp he']
    exact h.past e he
  · intro e he
    rcases List.mem_append.mp he with he | he
    · exact h.past e he
    · exact (List.mem_singleton.mp he).le

/-- In a sorted list, dropping from the front drops everything below the cutoff. -/
theorem dropWhile_eq_filter (h : events.Pairwise (· ≤ ·)) (cutoff : α) :
    events.dropWhile (fun e => e < cutoff) = events.filter fun e => cutoff ≤ e := by
  induction events with
  | nil => rfl
  | cons e events ih =>
    obtain ⟨hle, hrest⟩ := List.pairwise_cons.mp h
    rw [List.dropWhile_cons, List.filter_cons]
    by_cases he : e < cutoff
    · rw [if_pos (decide_eq_true he), if_neg (by simpa using he), ih hrest]
    · have hcutoff := not_lt.mp he
      rw [if_neg (by simpa using he), if_pos (decide_eq_true hcutoff), List.filter_eq_self.mpr]
      exact fun e' he' => decide_eq_true (hcutoff.trans (hle e' he'))

end Order

variable {α : Type*} [AddCommGroup α] [LinearOrder α] {width now t : α} {events : List α}

/-! ## Windows -/

/-- The events in the window that ends with the last event. -/
def within (width : α) (events : List α) : List α :=
  events.getLast?.elim [] fun last => events.filter fun e => last - width ≤ e

/-- How many events lie in the window that ends at a time. -/
def countAt (width : α) (events : List α) (t : α) : Nat :=
  events.countP fun e => t - width ≤ e ∧ e ≤ t

/-- A later event is in no window that ended before it. -/
theorem countAt_append_of_lt (h : t < now) : countAt width (events ++ [now]) t =
    countAt width events t := by
  rw [countAt, List.countP_append, List.countP_singleton, if_neg, add_zero, countAt]
  rw [decide_eq_true_eq]
  exact fun he => absurd he.2 (not_le.mpr h)

theorem countAt_le_append : countAt width events t ≤ countAt width (events ++ [now]) t :=
  List.Sublist.countP_le (List.sublist_append_left _ _)

/-- The list holds as many events as lie in the window. -/
theorem length_within (width : α) (h : Ordered events now) :
    (within width (events ++ [now])).length = countAt width (events ++ [now]) now := by
  rw [within, List.getLast?_concat, Option.elim_some, ← List.countP_eq_length_filter, countAt]
  refine List.countP_congr fun e he => ?_
  rw [decide_eq_true_eq, decide_eq_true_eq]
  exact (and_iff_left (h.append.past e he)).symm

section Windows

variable [IsOrderedAddMonoid α]

/-- What an event leaves of the list is the window that ends with it. -/
theorem dropWhile_within (h : Ordered events now) :
    (within width events ++ [now]).dropWhile (fun e => e < now - width) =
      within width (events ++ [now]) := by
  have hsorted : (within width events ++ [now]).Pairwise (· ≤ ·) := by
    refine h.append.sorted.sublist (List.Sublist.append_right ?_ _)
    unfold within
    cases events.getLast? with
    | none => exact List.nil_sublist _
    | some last => exact List.filter_sublist
  rw [dropWhile_eq_filter hsorted, List.filter_append]
  unfold within
  rw [List.getLast?_concat, Option.elim_some, List.filter_append]
  congr 1
  cases hlast : events.getLast? with
  | none =>
    rw [List.getLast?_eq_none_iff.mp hlast]
    rfl
  | some last =>
    rw [Option.elim_some, List.filter_filter]
    refine List.filter_congr fun e _ => ?_
    have hle := h.past last (List.mem_of_getLast? hlast)
    -- an event in the later window was in the earlier one
    rw [Bool.and_eq_left_iff_imp, decide_eq_true_eq, decide_eq_true_eq]
    exact (sub_le_sub_right hle width).trans

end Windows

/-! ## Events that start a period -/

/-- Some event that had enough events in its window started a period that is not over. -/
def Tripped (threshold : Int) (width period : α) (events : List α) (t : α) : Prop :=
  ∃ e ∈ events, t < e + period ∧ threshold ≤ countAt width events e

variable {threshold : Int} {period : α}

theorem not_tripped_nil : ¬ Tripped threshold width period [] t := by
  rintro ⟨e, he, -⟩
  cases he

/-- An event with too few events in its window leaves the periods as they are. -/
theorem tripped_append_of_lt (h : Ordered events now)
    (hcount : ¬ threshold ≤ countAt width (events ++ [now]) now) :
    Tripped threshold width period (events ++ [now]) t ↔
      Tripped threshold width period events t := by
  constructor
  · rintro ⟨e, he, hlt, hle⟩
    rcases (h.append.past e he).lt_or_eq with hearlier | rfl
    · rw [countAt_append_of_lt hearlier] at hle
      refine ⟨e, ?_, hlt, hle⟩
      rcases List.mem_append.mp he with he | he
      · exact he
      · exact absurd (List.mem_singleton.mp he) hearlier.ne
    · exact absurd hle hcount
  · rintro ⟨e, he, hlt, hle⟩
    have hmore : (countAt width events e : Int) ≤ countAt width (events ++ [now]) e :=
      Int.ofNat_le.mpr countAt_le_append
    exact ⟨e, List.mem_append_left _ he, hlt, hle.trans hmore⟩

variable [IsOrderedAddMonoid α]

/-- An event with enough events in its window starts a period that outlasts the earlier ones. -/
theorem tripped_append_iff (h : Ordered events now)
    (hcount : threshold ≤ countAt width (events ++ [now]) now) :
    Tripped threshold width period (events ++ [now]) t ↔ t < now + period := by
  constructor
  · rintro ⟨e, he, hlt, -⟩
    exact lt_of_lt_of_le hlt (add_le_add_left (h.append.past e he) period)
  · intro hlt
    exact ⟨now, List.mem_append_right _ (List.mem_singleton.mpr rfl), hlt, hcount⟩

end Governor.SlidingWindow
