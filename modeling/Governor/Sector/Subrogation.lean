import Mathlib

/-!
# The recovery gate of SubrogationGraph

The gate recovers from the defendant with the largest share of the liability. The shares come with
the request and nobody validates them; `_normalize_defendants` divides them by their sum where
that exceeds one. Shares and amounts are exact here.
-/

namespace Governor.Sector

/-! ## The gate -/

/-- Defendants with their liability scores, in the order of the dict. -/
abbrev Defendants := List (String × ℚ)

/-- `sum(defendants.values())`. -/
def totalScore (defendants : Defendants) : ℚ := (defendants.map Prod.snd).sum

/-- `_normalize_defendants`. -/
def normalizeDefendants (defendants : Defendants) : Defendants :=
  let total := totalScore defendants
  if total ≤ 1 ∨ total = 0 then defendants
  else defendants.map fun d => (d.1, d.2 / total)

/-- `SubrogationEvaluation`. -/
structure SubrogationEvaluation where
  recoverable : Bool
  decision : String
  recoveryAmount : ℚ
  primaryDefendant : String
  graphScore : ℚ
  reason : Option String
  deriving DecidableEq

/-- The part of `evaluate_subrogation_graph` once the primary defendant is known. -/
def recoverFrom (totalLoss minLiabilityPct salvageOffset : ℚ) (primary : String × ℚ) :
    SubrogationEvaluation :=
  let score := primary.2
  let gross := totalLoss * score
  let recovery := max 0 (gross - salvageOffset)
  if score < minLiabilityPct then
    ⟨false, "REFERRED", 0, primary.1, score, some "liability_below_threshold"⟩
  else if recovery ≤ 0 then
    ⟨false, "NO_RECOVERY", 0, primary.1, score, some "salvage_offsets_recovery"⟩
  else ⟨true, "RECOVERY_APPROVED", recovery, primary.1, score, none⟩

/-- `evaluate_subrogation_graph`; of several largest scores `max` takes the first. -/
def evaluateSubrogationGraph (totalLoss : ℚ) (defendants : Defendants) (minLiabilityPct : ℚ)
    (salvageOffset : ℚ) (statuteExpired : Bool) : SubrogationEvaluation :=
  if statuteExpired then ⟨false, "REFERRED", 0, "", 0, some "statute_expired"⟩
  else
    match (normalizeDefendants defendants).argmax Prod.snd with
    | none => ⟨false, "NO_RECOVERY", 0, "", 0, some "no_defendants"⟩
    | some primary => recoverFrom totalLoss minLiabilityPct salvageOffset primary

/-! ## Shares that are bounded -/

/-- The recovery is within the loss, and the scores are shares of it. -/
structure RecoveryBounded (totalLoss : ℚ) (defendants : Defendants)
    (evaluation : SubrogationEvaluation) : Prop where
  recoveryAmount_nonneg : 0 ≤ evaluation.recoveryAmount
  recoveryAmount_le : evaluation.recoveryAmount ≤ totalLoss
  totalScore_le : totalScore (normalizeDefendants defendants) ≤ 1
  score_le : ∀ d ∈ normalizeDefendants defendants, d.2 ≤ 1

section Bounds

variable {defendants : Defendants} {totalLoss minLiabilityPct salvageOffset : ℚ}

theorem totalScore_div (defendants : Defendants) (total : ℚ) :
    totalScore (defendants.map fun d => (d.1, d.2 / total)) = totalScore defendants / total := by
  induction defendants with
  | nil => simp [totalScore]
  | cons d defendants ih =>
    simp only [totalScore, List.map_cons, List.sum_cons] at ih ⊢
    rw [ih, add_div]

/-- The scores sum to at most one after they are normalized. -/
theorem totalScore_normalizeDefendants_le (defendants : Defendants) :
    totalScore (normalizeDefendants defendants) ≤ 1 := by
  unfold normalizeDefendants
  simp only
  split_ifs with h
  · rcases h with h | h
    · exact h
    · rw [h]
      exact zero_le_one
  · rw [totalScore_div]
    exact div_self_le_one _

/-- A score is at most one after normalizing exactly when it was at most one or the sum. -/
theorem normalizeDefendants_le_one_iff :
    (∀ d ∈ normalizeDefendants defendants, d.2 ≤ 1) ↔
      ∀ d ∈ defendants, d.2 ≤ max 1 (totalScore defendants) := by
  unfold normalizeDefendants
  simp only
  split_ifs with h
  · have hle : totalScore defendants ≤ 1 := by
      rcases h with h | h
      · exact h
      · rw [h]
        exact zero_le_one
    rw [max_eq_left hle]
  · have hlt : 1 < totalScore defendants := not_le.mp (not_or.mp h).1
    rw [max_eq_right hlt.le, List.forall_mem_map]
    refine forall₂_congr fun d _ => ?_
    exact div_le_one (zero_lt_one.trans hlt)

theorem recoverFrom_nonneg (primary : String × ℚ) :
    0 ≤ (recoverFrom totalLoss minLiabilityPct salvageOffset primary).recoveryAmount := by
  unfold recoverFrom
  simp only
  split_ifs
  · exact le_refl 0
  · exact le_refl 0
  · exact le_max_left _ _

/-- A share of at most one recovers at most the loss. -/
theorem recoverFrom_le {primary : String × ℚ} (hloss : 0 ≤ totalLoss) (hsalvage : 0 ≤ salvageOffset)
    (hscore : primary.2 ≤ 1) :
    (recoverFrom totalLoss minLiabilityPct salvageOffset primary).recoveryAmount ≤ totalLoss := by
  have hgross : totalLoss * primary.2 ≤ totalLoss := mul_le_of_le_one_right hloss hscore
  unfold recoverFrom
  simp only
  split_ifs
  · exact hloss
  · exact hloss
  · exact max_le hloss (by linarith)

end Bounds

end Governor.Sector
