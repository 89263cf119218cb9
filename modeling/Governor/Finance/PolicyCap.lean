import Mathlib
import Governor.Finance.Exposure

/-!
# The exposure cap of a policy

A policy row bounds the exposure of a commit. `crystallize_operation` compares the bound with
the exposure that is reserved; `commit_operation` records the amount that the caller sends and
does not read the policy again.
-/

namespace Governor.Finance

open Ledger (Money Clock)

variable {d : Deployment}

/-! ## Capped rows -/

/-- The policy that a crystal carries. -/
def policyOf (db : Database) (crystalId : String) : Option InstrumentPolicy :=
  (db.governanceCrystals.find? crystalId).bind fun c =>
    c.policyId.bind db.instrumentPolicyRegistry.find?

/-- The amount is within the `max_exposure_per_commit` of the crystal's policy, if it has one. -/
def AtMostCap (db : Database) (crystalId : String) (amount : Money) : Prop :=
  ∀ pol ∈ policyOf db crystalId, amount ≤ pol.maxExposurePerCommit

instance (db : Database) (crystalId : String) (amount : Money) :
    Decidable (AtMostCap db crystalId amount) :=
  inferInstanceAs (Decidable (∀ pol ∈ policyOf db crystalId, amount ≤ pol.maxExposurePerCommit))

/-- A row, once committed, is within the cap of its crystal's policy. -/
def EscrowRow.Capped (db : Database) (e : EscrowRow) : Prop :=
  e.status = .committed → AtMostCap db e.crystalId e.committedExposure

instance (db : Database) (e : EscrowRow) : Decidable (e.Capped db) :=
  inferInstanceAs (Decidable (e.status = .committed → _))

/-- Every committed operation is within the cap of its policy. -/
def CapsHold (db : Database) : Prop := ∀ e ∈ db.commitEscrowLedger.rows, e.Capped db

instance (db : Database) : Decidable (CapsHold db) :=
  inferInstanceAs (Decidable (∀ e ∈ db.commitEscrowLedger.rows, e.Capped db))

/-- A commit among the closings is within the cap. -/
def Resolution.Capped (db : Database) (x : Resolution) : Prop :=
  ∀ amount, x.closing = .committed amount → AtMostCap db x.crystal.crystalId amount

/-- No open crystal is committed by the transaction above the cap of its policy. -/
def WithinCap (d : Deployment) (db : Database) : Action → Prop
  | .commit _ clock request => ∀ c e, crystalJoin db request.crystalId = some (c, e) →
    c.terminalState = none → commitRefusal d clock db c request = none →
    0 ≤ quantizeMoney request.committedExposure →
    AtMostCap db c.crystalId (quantizeMoney request.committedExposure)
  | _ => True

/-! ## The two moves -/

section Moves

variable {db db' : Database} {c : CrystalRow} {e : EscrowRow} {x : Resolution}

/-- An opening leaves the policies of the crystals before it. -/
theorem Opens.policyOf_eq (h : Opens db c e db') {crystalId : String}
    (hknown : db.governanceCrystals.find? crystalId ≠ none) :
    policyOf db' crystalId = policyOf db crystalId := by
  have hne : crystalId ≠ c.crystalId := by
    rintro rfl
    exact hknown h.newCrystal
  rw [policyOf, h.crystals, Table.find?_put, if_neg hne, h.registries.instrumentPolicyRegistry]
  rfl

/-- A closing keeps the policy of its crystal. -/
theorem Closes.policyOf_eq (h : Closes db x db') (crystalId : String) :
    policyOf db' crystalId = policyOf db crystalId := by
  rw [policyOf, policyOf, h.crystals, Table.find?_put, h.registries.instrumentPolicyRegistry]
  split_ifs with hid
  · rw [show crystalId = x.crystal.crystalId from hid, h.crystal]
    rfl
  · rfl

theorem Opens.capsHold_iff (h : Opens db c e db') (hdb : Agrees db) :
    CapsHold db' ↔ CapsHold db := by
  have hold : ∀ r ∈ db.commitEscrowLedger.rows, r.Capped db' ↔ r.Capped db := by
    intro r hr
    obtain ⟨c', hc', -⟩ := hdb.known r hr
    have hknown : db.governanceCrystals.find? r.crystalId ≠ none := by
      rw [hc']
      exact Option.some_ne_none c'
    rw [EscrowRow.Capped, AtMostCap, h.policyOf_eq hknown]
    rfl
  have hnew : e.Capped db' := by
    intro hcommitted
    rw [h.status] at hcommitted
    cases hcommitted
  rw [CapsHold, h.escrows, Table.rows_put_of_fresh h.newEscrow]
  simp only [List.forall_mem_append, List.forall_mem_singleton, hnew, and_true]
  exact forall₂_congr hold

/-- The row of a closing is capped when the closing is. -/
theorem Closes.row_capped_iff (h : Closes db x db') :
    (x.closing.row x.escrow).Capped db ↔ x.Capped db := by
  unfold EscrowRow.Capped Resolution.Capped
  rw [Closing.row_status, Closing.row_crystalId, h.crystalId]
  cases x.closing <;> simp [Closing.state, TerminalState.status, Closing.row, EscrowRow.commit]

theorem Closes.capsHold_iff (h : Closes db x db') :
    CapsHold db' ↔ x.Capped db ∧ CapsHold db := by
  have hsame : ∀ r : EscrowRow, r.Capped db' ↔ r.Capped db := by
    intro r
    rw [EscrowRow.Capped, AtMostCap, h.policyOf_eq]
    rfl
  have hopen : x.escrow.Capped db := by
    intro hcommitted
    rw [h.status] at hcommitted
    cases hcommitted
  simp only [CapsHold, hsame, h.escrows, Table.forall_mem_put, h.row_capped_iff]
  refine and_congr_right fun _ => ⟨fun hrest r hr => ?_, fun hrest r hr _ => hrest r hr⟩
  by_cases hid : r.operationId = x.escrow.operationId
  · have hfind := Table.find?_of_mem hr
    rw [hid, h.escrow] at hfind
    exact Option.some.inj hfind ▸ hopen
  · refine hrest r hr ?_
    rwa [Closing.row_operationId]

theorem ClosesAll.capsHold_iff {xs : List Resolution} (h : ClosesAll db xs db') :
    CapsHold db' ↔ (∀ x ∈ xs, x.Capped db) ∧ CapsHold db := by
  induction xs generalizing db with
  | nil =>
    obtain rfl : db' = db := h
    simp
  | cons x xs ih =>
    obtain ⟨mid, hx, hrest⟩ := h
    have hsame : ∀ y : Resolution, y.Capped mid ↔ y.Capped db := by
      intro y
      simp only [Resolution.Capped, AtMostCap, hx.policyOf_eq]
    rw [ih hrest, hx.capsHold_iff, List.forall_mem_cons]
    simp only [hsame]
    tauto

end Moves

/-! ## Runs -/

theorem withinCap_iff (db : Database) (a : Action) :
    WithinCap d db a ↔ ∀ x ∈ closings d db a, x.Capped db := by
  cases a with
  | crystallize => simp [WithinCap, closings]
  | commit settings clock request =>
    simp only [WithinCap, closings, mem_commitClosings]
    constructor
    · rintro h _ ⟨c, e, hjoin, hopen, haccepted, hamount, rfl⟩ amount ⟨⟩
      exact h c e hjoin hopen haccepted hamount
    · intro h c e hjoin hopen haccepted hamount
      exact h _ ⟨c, e, hjoin, hopen, haccepted, hamount, rfl⟩ _ rfl
  | adjudicate clock request =>
    simp only [WithinCap, closings, mem_adjudicateClosings, true_iff]
    rintro _ ⟨c, e, -, -, -, rfl⟩ amount ⟨⟩
  | sweep clock plan batchSize =>
    simp only [WithinCap, true_iff]
    intro x hx amount hamount
    rcases sweep_closing hx with h | h <;> rw [h] at hamount <;> cases hamount

theorem step_capsHold_iff {w : FinanceWorld} (hw : Sound w) (h : CapsHold w.tables) (a : Action) :
    CapsHold (step d w a).tables ↔ WithinCap d w.tables a := by
  rw [withinCap_iff]
  cases step_moved (d := d) hw a with
  | opened hnone hopens =>
    rw [hopens.capsHold_iff hw.agrees, hnone]
    exact iff_of_true h (List.forall_mem_nil _)
  | closed hcloses =>
    rw [hcloses.capsHold_iff]
    exact and_iff_left h

theorem NoCrystals.capsHold {w : FinanceWorld} (hw : NoCrystals w) : CapsHold w.tables := by
  intro e he
  rw [hw.commitEscrowLedger] at he
  cases he

/-- The sample's desk, with a policy for wires that caps a commit at ten units. -/
def cappedWorld : FinanceWorld :=
  { sampleWorld with tables := { sampleWorld.tables with
      instrumentPolicyRegistry :=
        Table.empty.put ⟨"wire-cap", "standard", 10000000000000, 86400000, true, true⟩ } }

theorem cappedWorld_noCrystals : NoCrystals cappedWorld := ⟨rfl, rfl, rfl⟩

/-- Crystallize the wire under the policy. -/
def cappedOpen : Action :=
  .crystallize false (sampleClock 0) sampleUuid
    { sampleCrystallize with policyId := some "wire-cap" }

end Governor.Finance
