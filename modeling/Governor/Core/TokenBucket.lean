import Mathlib
import Governor.Core.Run

/-!
# Token buckets

A bucket fills at a constant rate up to its capacity and gives out whole tokens. The tokens in
the bucket are a potential: what is taken from a time on is paid by the tokens that were there
and by what has flowed in since, so no interval sees more than the capacity and the inflow.
-/

namespace Governor

/-- The tokens of a bucket and the time of its last refill. -/
@[ext] structure TokenBucket (α : Type) where
  tokens : α
  last : α

namespace TokenBucket

/-- A request at a time, with whether it takes a token. -/
structure Request (α : Type) where
  time : α
  taken : Bool

section Counting

variable {α : Type} [LinearOrder α] {start finish : α} {r : Request α}
  {requests : List (Request α)}

/-- The number of tokens taken in an interval. -/
def takenIn (start finish : α) (requests : List (Request α)) : Nat :=
  requests.countP fun r => r.taken ∧ start ≤ r.time ∧ r.time ≤ finish

/-- Requests after an interval take nothing in it. -/
theorem takenIn_eq_zero (h : ∀ r ∈ requests, finish < r.time) :
    takenIn start finish requests = 0 := by
  rw [takenIn, List.countP_eq_zero]
  intro r hr
  rw [decide_eq_true_eq]
  exact fun hin => absurd hin.2.2 (not_le.mpr (h r hr))

theorem takenIn_cons : takenIn start finish (r :: requests) =
    takenIn start finish requests +
      if r.taken ∧ start ≤ r.time ∧ r.time ≤ finish then 1 else 0 := by
  rw [takenIn, List.countP_cons, takenIn]
  simp only [decide_eq_true_eq]

end Counting

variable {α : Type} [Field α] [LinearOrder α]

/-- What flows in until a time. -/
def refill (capacity rate : α) (b : TokenBucket α) (t : α) : TokenBucket α :=
  ⟨min capacity (b.tokens + rate * max 0 (t - b.last)), max b.last t⟩

/-- The bucket after a request. -/
def serve (capacity rate : α) (b : TokenBucket α) (r : Request α) : TokenBucket α :=
  ⟨(b.refill capacity rate r.time).tokens - if r.taken then 1 else 0, max b.last r.time⟩

/-- A token that is taken is there. -/
def Affords (capacity rate : α) (b : TokenBucket α) (r : Request α) : Prop :=
  r.taken = true → 1 ≤ (b.refill capacity rate r.time).tokens

/-- The tokens are between none and the capacity. -/
structure Level (capacity : α) (b : TokenBucket α) : Prop where
  nonneg : 0 ≤ b.tokens
  le_capacity : b.tokens ≤ capacity

variable [IsStrictOrderedRing α] {capacity rate start finish : α} {b : TokenBucket α}
  {r : Request α} {requests : List (Request α)}

theorem Level.serve (hrate : 0 ≤ rate) (h : b.Level capacity) (hr : b.Affords capacity rate r) :
    (b.serve capacity rate r).Level capacity := by
  have hinflow : 0 ≤ rate * max 0 (r.time - b.last) := mul_nonneg hrate (le_max_left _ _)
  have hcapacity : 0 ≤ capacity := h.nonneg.trans h.le_capacity
  have hfilled : 0 ≤ (b.refill capacity rate r.time).tokens :=
    le_min hcapacity (add_nonneg h.nonneg hinflow)
  have hfull : (b.refill capacity rate r.time).tokens ≤ capacity := min_le_left _ _
  unfold TokenBucket.serve
  split_ifs with htaken
  · have hone := hr htaken
    constructor <;> simp only <;> linarith
  · constructor <;> simp only [sub_zero]
    · exact hfilled
    · exact hfull

/-- A request up to a time is paid by the tokens and the inflow until that time. -/
theorem serve_potential (capacity rate : α) (b : TokenBucket α) (hr : r.time ≤ finish) :
    (b.serve capacity rate r).tokens + rate * max 0 (finish - (b.serve capacity rate r).last) +
        (if r.taken then 1 else 0) ≤
      b.tokens + rate * max 0 (finish - b.last) := by
  have hsplit : max 0 (r.time - b.last) + max 0 (finish - max b.last r.time) =
      max 0 (finish - b.last) := by
    rcases le_total b.last r.time with hle | hle
    · rw [max_eq_right hle, max_eq_right (sub_nonneg.mpr hle), max_eq_right (sub_nonneg.mpr hr),
        max_eq_right (sub_nonneg.mpr (hle.trans hr))]
      ring
    · rw [max_eq_left hle, max_eq_left (sub_nonpos.mpr hle), zero_add]
  have hfilled : (b.refill capacity rate r.time).tokens ≤
      b.tokens + rate * max 0 (r.time - b.last) := min_le_right _ _
  rw [← hsplit, mul_add]
  simp only [TokenBucket.serve]
  linarith

/-- What is taken until a time is paid by the tokens and the inflow until that time. -/
theorem takenIn_le_tokens (start finish : α) (hrate : 0 ≤ rate)
    (hlevel : b.Level capacity)
    (hsorted : requests.Pairwise fun r r' => r.time ≤ r'.time)
    (hafford : Along (serve capacity rate) (Affords capacity rate) b requests) :
    (takenIn start finish requests : α) ≤ b.tokens + rate * max 0 (finish - b.last) := by
  induction requests generalizing b with
  | nil =>
    have hinflow : 0 ≤ rate * max 0 (finish - b.last) := mul_nonneg hrate (le_max_left _ _)
    simpa [takenIn] using add_nonneg hlevel.nonneg hinflow
  | cons r requests ih =>
    obtain ⟨hfirst, hrest⟩ := List.pairwise_cons.mp hsorted
    rcases le_or_gt r.time finish with hr | hr
    · have hlater := ih (hlevel.serve hrate hafford.1) hrest hafford.2
      have hpaid := serve_potential capacity rate b hr
      have hone : ((if r.taken ∧ start ≤ r.time ∧ r.time ≤ finish then 1 else 0 : Nat) : α) ≤
          if r.taken then 1 else 0 := by
        split_ifs <;> simp_all
      rw [takenIn_cons, Nat.cast_add]
      linarith
    · rw [takenIn_eq_zero, Nat.cast_zero]
      · exact add_nonneg hlevel.nonneg (mul_nonneg hrate (le_max_left _ _))
      · intro r' hr'
        rcases List.mem_cons.mp hr' with rfl | hr'
        · exact hr
        · exact hr.trans_le (hfirst r' hr')

/-- In no interval are more tokens taken than the capacity and the inflow of the interval. -/
theorem takenIn_le (hrate : 0 ≤ rate) (hlevel : b.Level capacity) (hinterval : start ≤ finish)
    (hsorted : requests.Pairwise fun r r' => r.time ≤ r'.time)
    (hafford : Along (serve capacity rate) (Affords capacity rate) b requests) :
    (takenIn start finish requests : α) ≤ capacity + rate * (finish - start) := by
  have hbound : 0 ≤ capacity + rate * (finish - start) :=
    add_nonneg (hlevel.nonneg.trans hlevel.le_capacity)
      (mul_nonneg hrate (sub_nonneg.mpr hinterval))
  induction requests generalizing b with
  | nil => simpa [takenIn] using hbound
  | cons r requests ih =>
    obtain ⟨hfirst, hrest⟩ := List.pairwise_cons.mp hsorted
    have hserved := hlevel.serve hrate hafford.1
    by_cases hin : start ≤ r.time ∧ r.time ≤ finish
    · -- the first request of the interval finds at most a full bucket
      have hlater := takenIn_le_tokens start finish hrate hserved hrest hafford.2
      have hfull : (b.refill capacity rate r.time).tokens ≤ capacity := min_le_left _ _
      have hinflow : rate * max 0 (finish - max b.last r.time) ≤ rate * (finish - start) := by
        refine mul_le_mul_of_nonneg_left (max_le (sub_nonneg.mpr hinterval) ?_) hrate
        exact sub_le_sub_left (hin.1.trans (le_max_right _ _)) _
      have hone : ((if r.taken ∧ start ≤ r.time ∧ r.time ≤ finish then 1 else 0 : Nat) : α) ≤
          if r.taken then 1 else 0 := by
        split_ifs <;> simp_all
      rw [takenIn_cons, Nat.cast_add]
      simp only [TokenBucket.serve] at hlater
      linarith
    · rw [takenIn_cons, if_neg fun h => hin h.2, add_zero]
      exact ih hserved hrest hafford.2

end TokenBucket

end Governor
