import Mathlib
import Governor.Core.Run
import Governor.Finance.AssetLedger

/-!
# Concurrent charges

`SqlAssetStore.apply_charge` reads the book value, inserts the charge and writes the book value
back as an absolute amount, each in a statement of its own under `READ COMMITTED`. The model runs
any number of such transactions in any order of their statements; a statement that has to wait
for another transaction leaves everything as it is. The books balance exactly when no transaction
commits over a row that changed after it was selected.
-/

namespace Governor.Finance

open Ledger (Decimal Money)

/-! ## Statements -/

/-- A call of `apply_charge` with an amount of at most twelve decimals, as `run_depreciation`
passes it. -/
structure ScaledCharge where
  args : ChargeArgs
  scale : -12 ≤ args.charge.exp

/-- How far a transaction has come: before its `SELECT`, `INSERT`, `UPDATE` and `COMMIT`. -/
inductive ChargePhase where
  | begun (call : ScaledCharge)
  | selected (plan : ChargePlan)
  | inserted (plan : ChargePlan)
  | updated (plan : ChargePlan)
  | finished (result : Option ChargeRow)

namespace ChargePhase

/-- The variables of a transaction that has selected. -/
def plan? : ChargePhase → Option ChargePlan
  | .selected p | .inserted p | .updated p => some p
  | _ => none

/-- The transaction has inserted a charge with this key and not committed it. -/
def holdsKey (key : String × String) : ChargePhase → Bool
  | .inserted p | .updated p => p.stored.key = key
  | _ => false

/-- The transaction has updated this asset and not committed it. -/
def holdsRow (assetId : String) : ChargePhase → Bool
  | .updated p => p.args.assetId = assetId
  | _ => false

end ChargePhase

/-- The committed tables and the transactions. -/
structure ChargeWorld where
  store : SqlAssets
  txs : List ChargePhase

def ChargeWorld.move (i : Nat) (x : ChargePhase) (w : ChargeWorld) : ChargeWorld :=
  { w with txs := w.txs.set i x }

/-- One transaction executes its next statement. -/
def chargeStep (w : ChargeWorld) (i : Nat) : ChargeWorld :=
  match w.txs[i]? with
  | some (.begun call) =>
    w.move i ((planCharge call.args w.store.assets).elim (.finished none) .selected)
  | some (.selected plan) =>
    if plan.stored.key ∈ w.store.charges.map StoredCharge.key then w.move i (.finished none)
    -- the insert waits for the other transaction's key
    else if w.txs.any (ChargePhase.holdsKey plan.stored.key) then w
    else w.move i (.inserted plan)
  | some (.inserted plan) =>
    -- the update waits for the other transaction's row
    if w.txs.any (ChargePhase.holdsRow plan.args.assetId) then w
    else w.move i (.updated plan)
  | some (.updated plan) => ⟨plan.apply w.store, w.txs.set i (.finished (some plan.row))⟩
  | some (.finished _) => w
  | none => w

/-- The committed tables and the calls before their first statements. -/
def ChargeWorld.start (store : SqlAssets) (calls : List ScaledCharge) : ChargeWorld :=
  ⟨store, calls.map .begun⟩

/-! ## Balanced books -/

/-- The sum of the recorded charges of an asset. -/
def totalCharges (charges : List StoredCharge) (assetId : String) : Money :=
  ((charges.filter fun c => c.assetId = assetId).map StoredCharge.charge).sum

/-- Every asset is as it was registered. -/
structure Registered (s : SqlAssets) : Prop where
  charges : s.charges = []
  assets : ∀ a ∈ s.assets.rows, 0 ≤ a.bookValue ∧ a.accumulatedDepreciation = 0

/-- The row of an asset agrees with its charges. -/
structure RowBalanced (registered : Money) (total : Money) (row : AssetRow Money) : Prop where
  bookValue : row.bookValue = registered - total
  accumulated : row.accumulatedDepreciation = total
  nonneg : 0 ≤ row.bookValue

/-- The books balance and no asset is charged twice for a period. -/
def Balanced (start s : SqlAssets) : Prop :=
  (∀ a ∈ start.assets.rows, ∃ row, s.assets.find? a.assetId = some row ∧
    RowBalanced a.bookValue (totalCharges s.charges a.assetId) row) ∧
  (s.charges.map StoredCharge.key).Nodup

/-- A transaction that commits finds the row that it selected. -/
def CommitsUnchanged (w : ChargeWorld) (i : Nat) : Prop :=
  ∀ plan, w.txs[i]? = some (.updated plan) →
    w.store.assets.find? plan.args.assetId = some plan.asset

instance (w : ChargeWorld) (i : Nat) : Decidable (CommitsUnchanged w i) :=
  match h : w.txs[i]? with
  | some (.updated plan) =>
    decidable_of_iff (w.store.assets.find? plan.args.assetId = some plan.asset)
      (by simp [CommitsUnchanged, h])
  | some (.begun _) | some (.selected _) | some (.inserted _) | some (.finished _) | none =>
    .isTrue (by simp [CommitsUnchanged, h])

/-! ## What a plan computes -/

/-- The amount is exact in the columns of the store. -/
theorem quantizeMoney_of_scale {x : Decimal} (h : -12 ≤ x.exp) :
    quantizeMoney x = x.coeff * 10 ^ (x.exp + 12).toNat := if_pos h

/-- A charge of at most twelve decimals, positive and within the book value that was read. -/
structure Planned (p : ChargePlan) : Prop where
  scale : -12 ≤ p.charge.exp
  positive : 0 < quantizeMoney p.charge
  covered : quantizeMoney p.charge ≤ p.asset.bookValue

/-- The plan of a transaction comes from the row that it selects. -/
theorem planCharge_some {call : ScaledCharge}
    {assets : Table (ρ := AssetRow Money) AssetRow.assetId} {p : ChargePlan}
    (h : planCharge call.args assets = some p) :
    p.args = call.args ∧ assets.find? p.args.assetId = some p.asset ∧ Planned p := by
  unfold planCharge at h
  split at h
  · cases h
  · next asset hfind =>
    simp only [Option.ite_none_left_eq_some] at h
    obtain ⟨hpos, hp⟩ := h
    obtain rfl := Option.some.inj hp
    have hscale : -12 ≤ (Decimal.min call.args.charge (storedDecimal asset.bookValue)).exp := by
      unfold Decimal.min
      split_ifs
      · exact le_refl _
      · exact call.scale
    refine ⟨rfl, hfind, hscale, ?_, ?_⟩
    · rw [quantizeMoney_of_scale hscale]
      exact mul_pos (not_le.mp hpos) (by positivity)
    · have hle := Ledger.quantizeMoney_mono
        (Decimal.min_le_right call.args.charge (storedDecimal asset.bookValue))
      have hstored : Ledger.quantizeMoney (storedDecimal asset.bookValue) = asset.bookValue := by
        simp [Ledger.quantizeMoney, storedDecimal]
      rw [Ledger.quantizeMoney, if_pos hscale, hstored] at hle
      rw [quantizeMoney_of_scale hscale]
      exact hle

section Plan

variable {p : ChargePlan}

theorem Planned.newBook (h : Planned p) :
    quantizeMoney p.newBook = p.asset.bookValue - quantizeMoney p.charge := by
  have hexp : p.newBook.exp = -12 := min_eq_left h.scale
  rw [quantizeMoney_of_scale hexp.ge, hexp, quantizeMoney_of_scale h.scale]
  simp [ChargePlan.newBook, Decimal.sub, Decimal.coeffAt, storedDecimal, min_eq_left h.scale]

theorem Planned.newAcc (h : Planned p) :
    quantizeMoney p.newAcc = p.asset.accumulatedDepreciation + quantizeMoney p.charge := by
  have hexp : p.newAcc.exp = -12 := min_eq_left h.scale
  rw [quantizeMoney_of_scale hexp.ge, hexp, quantizeMoney_of_scale h.scale]
  simp [ChargePlan.newAcc, Decimal.add, Decimal.coeffAt, storedDecimal, min_eq_left h.scale]

theorem totalCharges_append (charges : List StoredCharge) (c : StoredCharge) (assetId : String) :
    totalCharges (charges ++ [c]) assetId =
      totalCharges charges assetId + if c.assetId = assetId then c.charge else 0 := by
  by_cases h : c.assetId = assetId <;> simp [totalCharges, List.filter_append, h]

end Plan

/-! ## One statement -/

/-- What remains of an asset's registered value after its recorded charges. -/
def remaining (start : SqlAssets) (s : SqlAssets) (assetId : String) : Money :=
  ((start.assets.find? assetId).map AssetRow.bookValue).getD 0 - totalCharges s.charges assetId

/-- A row that some transaction of the run wrote or found. -/
structure RowKept (start : SqlAssets) (assetId : String) (row : AssetRow Money) : Prop where
  split : ∃ a, start.assets.find? assetId = some a ∧
    row.bookValue + row.accumulatedDepreciation = a.bookValue
  nonneg : 0 ≤ row.bookValue

/-- The invariant of the run: a book value is never too low, and one that was selected before
the last charge is too high. -/
structure Booked (start : SqlAssets) (w : ChargeWorld) : Prop where
  present : ∀ k, (start.assets.find? k).isSome → (w.store.assets.find? k).isSome
  rows : ∀ k row, w.store.assets.find? k = some row → RowKept start k row ∧
    remaining start w.store k ≤ row.bookValue
  plans : ∀ x ∈ w.txs, ∀ p, x.plan? = some p → Planned p ∧ RowKept start p.args.assetId p.asset ∧
    (w.store.assets.find? p.args.assetId = some p.asset ∨
      remaining start w.store p.args.assetId < p.asset.bookValue)
  keys : ∀ key, w.txs.countP (ChargePhase.holdsKey key) +
    (w.store.charges.map StoredCharge.key).count key ≤ 1

theorem ChargeWorld.start_booked {s : SqlAssets} (h : Registered s) (calls : List ScaledCharge) :
    Booked s (.start s calls) := by
  have htotal : ∀ k, totalCharges s.charges k = 0 := by
    intro k
    rw [h.charges]
    rfl
  refine ⟨fun _ hk => hk, ?_, ?_, ?_⟩
  · intro k row hrow
    obtain ⟨hnonneg, hacc⟩ := h.assets row (Table.mem_of_find? hrow)
    have hfind : s.assets.find? k = some row := hrow
    refine ⟨⟨⟨row, hfind, ?_⟩, hnonneg⟩, ?_⟩
    · simp [hacc]
    · simp [remaining, ChargeWorld.start, hfind, htotal]
  · intro x hx p hp
    obtain ⟨call, -, rfl⟩ := List.mem_map.mp hx
    cases hp
  · intro key
    have hnone : (calls.map ChargePhase.begun).countP (ChargePhase.holdsKey key) = 0 := by
      rw [List.countP_eq_zero]
      intro x hx
      obtain ⟨call, -, rfl⟩ := List.mem_map.mp hx
      simp [ChargePhase.holdsKey]
    simp [ChargeWorld.start, hnone, h.charges]

section Step

variable {start : SqlAssets} {w : ChargeWorld} {i : Nat} {x y : ChargePhase}

/-- A transaction moves on and no table changes. -/
theorem Booked.move (hw : Booked start w) (hi : w.txs[i]? = some x)
    (hplan : ∀ p, y.plan? = some p → Planned p ∧ RowKept start p.args.assetId p.asset ∧
      (w.store.assets.find? p.args.assetId = some p.asset ∨
        remaining start w.store p.args.assetId < p.asset.bookValue))
    (hkeys : ∀ key, y.holdsKey key = true → x.holdsKey key = true ∨
      w.txs.countP (ChargePhase.holdsKey key) = 0 ∧
        (w.store.charges.map StoredCharge.key).count key = 0) :
    Booked start (w.move i y) := by
  refine ⟨hw.present, hw.rows, ?_, ?_⟩
  · intro z hz p hp
    rcases List.mem_or_eq_of_mem_set hz with hz | rfl
    · exact hw.plans z hz p hp
    · exact hplan p hp
  · intro key
    have hmoved := countP_moved (ChargePhase.holdsKey key) hi y
    have hbefore := hw.keys key
    simp only [ChargeWorld.move]
    by_cases hy : y.holdsKey key = true
    · rw [if_pos hy] at hmoved
      rcases hkeys key hy with hx | ⟨hnone, hfree⟩
      · rw [if_pos hx] at hmoved
        omega
      · omega
    · rw [if_neg hy] at hmoved
      omega

theorem find?_apply (p : ChargePlan) (s : SqlAssets) (k : String) :
    (p.apply s).assets.find? k =
      if k = p.args.assetId then (s.assets.find? p.args.assetId).map p.write
      else s.assets.find? k :=
  Table.find?_update s.assets _ _ p.write fun _ => rfl

theorem remaining_apply (p : ChargePlan) (s : SqlAssets) (k : String) :
    remaining start (p.apply s) k =
      remaining start s k - if p.args.assetId = k then quantizeMoney p.charge else 0 := by
  have htotal := totalCharges_append s.charges p.stored k
  have hcharge : p.stored.assetId = p.args.assetId := rfl
  rw [hcharge] at htotal
  simp only [remaining, ChargePlan.apply, htotal]
  simp only [ChargePlan.stored]
  linarith

/-- A charge is recorded: the written row keeps the split, and every other row that is selected
is too high from now on. -/
theorem Booked.commit {p : ChargePlan} (hw : Booked start w)
    (hi : w.txs[i]? = some (.updated p)) :
    Booked start ⟨p.apply w.store, w.txs.set i (.finished (some p.row))⟩ := by
  obtain ⟨hplanned, hkept, hread⟩ := hw.plans _ (List.mem_of_getElem? hi) p rfl
  have hpositive := hplanned.positive
  have hcovered := hplanned.covered
  have hatleast : remaining start w.store p.args.assetId ≤ p.asset.bookValue := by
    rcases hread with hfind | hlt
    · exact (hw.rows _ _ hfind).2
    · exact hlt.le
  refine ⟨?_, ?_, ?_, ?_⟩
  · intro k hk
    have hpresent := hw.present k hk
    rw [find?_apply]
    split_ifs with hself
    · rwa [Option.isSome_map, ← hself]
    · exact hpresent
  · intro k row hrow
    rw [find?_apply] at hrow
    rw [remaining_apply]
    split_ifs at hrow with hself
    · obtain ⟨old, -, rfl⟩ := Option.map_eq_some_iff.mp hrow
      subst hself
      obtain ⟨a, ha, hsplit⟩ := hkept.split
      rw [if_pos rfl]
      refine ⟨⟨⟨a, ha, ?_⟩, ?_⟩, ?_⟩
      · simp only [ChargePlan.write, hplanned.newBook, hplanned.newAcc]
        linarith
      · simp only [ChargePlan.write, hplanned.newBook]
        linarith
      · simp only [ChargePlan.write, hplanned.newBook]
        linarith
    · have hold := hw.rows k row hrow
      rw [if_neg (Ne.symm hself), sub_zero]
      exact hold
  · intro z hz q hq
    rcases List.mem_or_eq_of_mem_set hz with hz | rfl
    · obtain ⟨hqplanned, hqkept, hqread⟩ := hw.plans z hz q hq
      refine ⟨hqplanned, hqkept, ?_⟩
      rw [find?_apply, remaining_apply]
      by_cases hsame : p.args.assetId = q.args.assetId
      · right
        rw [if_pos hsame]
        rcases hqread with hfind | hlt
        · have hle := (hw.rows _ _ hfind).2
          linarith
        · linarith
      · rw [if_neg (Ne.symm hsame), if_neg hsame, sub_zero]
        exact hqread
    · cases hq
  · intro key
    have hmoved := countP_moved (ChargePhase.holdsKey key) hi (.finished (some p.row))
    have hbefore := hw.keys key
    simp only [ChargePhase.holdsKey, Bool.false_eq_true, ite_false, decide_eq_true_eq] at hmoved
    simp only [ChargePlan.apply, List.map_append, List.map_singleton, List.count_append,
      List.count_singleton, beq_iff_eq]
    omega

/-- Every statement keeps the invariant. -/
theorem chargeStep_booked (hw : Booked start w) (i : Nat) : Booked start (chargeStep w i) := by
  unfold chargeStep
  split
  · next call hi =>
    cases hplan : planCharge call.args w.store.assets with
    | none => exact hw.move hi (by rintro p ⟨⟩) (by intro key h; cases h)
    | some p =>
      obtain ⟨-, hfind, hplanned⟩ := planCharge_some hplan
      refine hw.move hi ?_ (by intro key h; cases h)
      rintro _ ⟨⟩
      exact ⟨hplanned, (hw.rows _ _ hfind).1, Or.inl hfind⟩
  · next p hi =>
    have hp := hw.plans _ (List.mem_of_getElem? hi) p rfl
    split_ifs with htaken hheld
    · exact hw.move hi (by rintro p ⟨⟩) (by intro key h; cases h)
    · exact hw
    · refine hw.move hi ?_ ?_
      · rintro _ ⟨⟩
        exact hp
      · intro key hkey
        obtain rfl : p.stored.key = key := of_decide_eq_true hkey
        refine Or.inr ⟨?_, List.count_eq_zero.mpr htaken⟩
        simpa [List.countP_eq_zero] using hheld
  · next p hi =>
    have hp := hw.plans _ (List.mem_of_getElem? hi) p rfl
    split_ifs with hheld
    · exact hw
    · refine hw.move hi ?_ (fun key hkey => Or.inl hkey)
      rintro _ ⟨⟩
      exact hp
  · next p hi => exact hw.commit hi
  · exact hw
  · exact hw

/-- The books balance when every stored book value is what remains. -/
theorem Booked.balanced_iff (hw : Booked start w) : Balanced start w.store ↔
    ∀ k row, w.store.assets.find? k = some row → row.bookValue = remaining start w.store k := by
  have hnodup : (w.store.charges.map StoredCharge.key).Nodup := by
    rw [List.nodup_iff_count_le_one]
    intro key
    exact (Nat.le_add_left _ _).trans (hw.keys key)
  constructor
  · rintro ⟨hrows, -⟩ k row hrow
    obtain ⟨a, ha, -⟩ := (hw.rows k row hrow).1.split
    obtain rfl : a.assetId = k := Table.find?_some_key ha
    obtain ⟨row', hrow', hbalanced⟩ := hrows a (Table.mem_of_find? ha)
    obtain rfl := Option.some.inj (hrow.symm.trans hrow')
    simp [remaining, ha, hbalanced.bookValue]
  · intro hrows
    refine ⟨?_, hnodup⟩
    intro a ha
    have hfind := Table.find?_of_mem ha
    obtain ⟨row, hrow⟩ := Option.isSome_iff_exists.mp (hw.present a.assetId (by simp [hfind]))
    obtain ⟨a', ha', hsplit⟩ := (hw.rows _ _ hrow).1.split
    obtain rfl := Option.some.inj (hfind.symm.trans ha')
    have hbook := hrows _ _ hrow
    simp only [remaining, hfind, Option.map_some, Option.getD_some] at hbook
    refine ⟨row, hrow, hbook, ?_, (hw.rows _ _ hrow).1.nonneg⟩
    linarith

/-- A statement leaves the tables alone, unless it is a commit. -/
theorem chargeStep_store (hi : ∀ p, w.txs[i]? ≠ some (.updated p)) :
    (chargeStep w i).store = w.store := by
  unfold chargeStep
  split
  · rfl
  · split_ifs <;> rfl
  · split_ifs <;> rfl
  · next p hp => exact absurd hp (hi p)
  · rfl
  · rfl

/-- A commit keeps the books balanced exactly when the row that it selected is still there. -/
theorem Booked.balanced_commit_iff {p : ChargePlan} (hw : Booked start w)
    (hi : w.txs[i]? = some (.updated p)) :
    Balanced start (p.apply w.store) ↔
      Balanced start w.store ∧ w.store.assets.find? p.args.assetId = some p.asset := by
  obtain ⟨hplanned, hkept, hread⟩ := hw.plans _ (List.mem_of_getElem? hi) p rfl
  obtain ⟨a, ha, -⟩ := hkept.split
  obtain ⟨old, hold⟩ := Option.isSome_iff_exists.mp (hw.present p.args.assetId (by simp [ha]))
  have hwritten : (p.apply w.store).assets.find? p.args.assetId = some (p.write old) := by
    rw [find?_apply, if_pos rfl, hold, Option.map_some]
  have hbook : (p.write old).bookValue = p.asset.bookValue - quantizeMoney p.charge :=
    hplanned.newBook
  have hafter := (hw.commit hi).balanced_iff
  simp only at hafter
  rw [hafter, hw.balanced_iff]
  constructor
  · intro hrows
    have hself := hrows _ _ hwritten
    rw [hbook, remaining_apply, if_pos rfl] at hself
    have hexact : p.asset.bookValue = remaining start w.store p.args.assetId := by linarith
    have hcurrent : w.store.assets.find? p.args.assetId = some p.asset := by
      rcases hread with hfind | hlt
      · exact hfind
      · exact absurd hexact hlt.ne'
    refine ⟨?_, hcurrent⟩
    intro k row hrow
    by_cases hk : k = p.args.assetId
    · subst hk
      obtain rfl := Option.some.inj (hcurrent.symm.trans hrow)
      exact hexact
    · have hother := hrows k row (by rw [find?_apply, if_neg hk, hrow])
      rwa [remaining_apply, if_neg (Ne.symm hk), sub_zero] at hother
  · rintro ⟨hrows, hcurrent⟩ k row hrow
    rw [find?_apply] at hrow
    rw [remaining_apply]
    split_ifs at hrow with hk
    · subst hk
      rw [hold] at hrow
      obtain rfl := Option.some.inj hrow
      have hexact := hrows _ _ hcurrent
      rw [if_pos rfl, hbook, hexact]
    · rw [if_neg (Ne.symm hk), sub_zero]
      exact hrows k row hrow

theorem chargeStep_balanced_iff (hw : Booked start w) (i : Nat) :
    Balanced start (chargeStep w i).store ↔ Balanced start w.store ∧ CommitsUnchanged w i := by
  by_cases hcommit : ∃ p, w.txs[i]? = some (.updated p)
  · obtain ⟨p, hi⟩ := hcommit
    have hstep : (chargeStep w i).store = p.apply w.store := by
      unfold chargeStep
      rw [hi]
    have hunchanged : CommitsUnchanged w i ↔
        w.store.assets.find? p.args.assetId = some p.asset := by
      simp [CommitsUnchanged, hi]
    rw [hstep, hunchanged, hw.balanced_commit_iff hi]
  · have hnone : ∀ p, w.txs[i]? ≠ some (.updated p) := not_exists.mp hcommit
    have hunchanged : CommitsUnchanged w i := fun p hi => absurd hi (hnone p)
    rw [chargeStep_store hnone, and_iff_left hunchanged]

end Step

theorem Registered.balanced {s : SqlAssets} (h : Registered s) : Balanced s s := by
  refine ⟨?_, by simp [h.charges]⟩
  intro a ha
  obtain ⟨hnonneg, hacc⟩ := h.assets a ha
  have htotal : totalCharges s.charges a.assetId = 0 := by
    rw [h.charges]
    rfl
  exact ⟨a, Table.find?_of_mem ha, by rw [htotal, sub_zero], by rw [htotal, hacc], hnonneg⟩

/-- After any order of the statements of any transactions the books balance exactly when every
transaction that committed found the row that it had selected. -/
theorem run_balanced_iff {store : SqlAssets} (h : Registered store) (calls : List ScaledCharge)
    (schedule : List Nat) :
    Balanced store (schedule.foldl chargeStep (.start store calls)).store ↔
      Along chargeStep CommitsUnchanged (.start store calls) schedule := by
  rw [last_iff_along (P := fun w => Balanced store w.store) (C := CommitsUnchanged)
    (ChargeWorld.start_booked h calls)
    (fun w i hw => chargeStep_booked hw i) (fun w i hw => chargeStep_balanced_iff hw i)]
  exact and_iff_right h.balanced

/-! ## One transaction alone -/

/-- The charge that a depreciation run computes for a stored asset has at most twelve decimals. -/
theorem monthlyCharge_scale (asset : AssetRow Money) (table : RegTable) :
    -12 ≤ (monthlyCharge (asset.map storedDecimal) table).exp := by
  unfold monthlyCharge Decimal.min
  split_ifs
  · exact le_refl _
  · simp [monthlyCents]

/-- The four statements of a transaction that is alone are `apply_charge`. -/
theorem chargeStep_alone (store : SqlAssets) (call : ScaledCharge) :
    [0, 0, 0, 0].foldl chargeStep (.start store [call]) =
      ⟨(store.applyCharge call.args).2, [.finished (store.applyCharge call.args).1]⟩ := by
  simp only [List.foldl_cons, List.foldl_nil, ChargeWorld.start, List.map_singleton,
    SqlAssets.applyCharge]
  cases hplan : planCharge call.args store.assets with
  | none => simp [chargeStep, ChargeWorld.move, hplan]
  | some p =>
    by_cases htaken : p.stored.key ∈ store.charges.map StoredCharge.key
    · simp only [chargeStep, ChargeWorld.move, hplan, List.getElem?_cons_zero, Option.elim_some,
        List.set_cons_zero, htaken, ite_true]
    · simp only [chargeStep, ChargeWorld.move, hplan, List.getElem?_cons_zero, Option.elim_some,
        List.set_cons_zero, htaken, ite_false, List.any_cons, List.any_nil, ChargePhase.holdsKey,
        ChargePhase.holdsRow, Bool.or_self, Bool.false_eq_true]

/-! ## Two months at once -/

/-- A server that cost 600 and has 100 left. -/
def sampleAsset : AssetRow Money where
  assetId := "srv-1"
  acquisitionCost := 600000000000000
  bookValue := 100000000000000
  accumulatedDepreciation := 0
  method := "straight_line"
  jurisdiction := "US"

def sampleAssets : SqlAssets := ⟨Table.empty.put sampleAsset, []⟩

theorem sampleAssets_registered : Registered sampleAssets := by
  refine ⟨rfl, ?_⟩
  intro a ha
  obtain rfl : a = sampleAsset := by simpa [sampleAssets, Table.put, Table.empty] using ha
  decide

/-- The monthly charge of the server. -/
def sampleCharge (period : String) : ScaledCharge where
  args := ⟨"srv-1", period, ⟨1000, -2⟩, "irs-2024-v1"⟩
  scale := by exact (by decide : (-12 : Int) ≤ -2)

example : monthlyCharge (sampleAsset.map storedDecimal) ⟨"irs-2024-v1", ⟨20, -2⟩⟩ = ⟨1000, -2⟩ := by
  decide +kernel

/-- January and February. -/
def sampleCharges : List ScaledCharge := [sampleCharge "2026-01", sampleCharge "2026-02"]

/-- One month after the other the books balance. -/
theorem run_balanced_sample :
    Balanced sampleAssets ([0, 0, 0, 0, 1, 1, 1, 1].foldl chargeStep
      (.start sampleAssets sampleCharges)).store := by
  refine (run_balanced_iff sampleAssets_registered sampleCharges _).mpr ?_
  decide +kernel

/-- Both months select the same book value, both charges are recorded and one reduction of the
book value is lost. -/
theorem concurrent_months_unbalanced :
    Registered sampleAssets ∧
    ([0, 1, 0, 0, 0, 1, 1, 1].foldl chargeStep (.start sampleAssets sampleCharges)).txs.all
      (fun x => x matches .finished (some _)) = true ∧
    ¬ Balanced sampleAssets ([0, 1, 0, 0, 0, 1, 1, 1].foldl chargeStep
      (.start sampleAssets sampleCharges)).store := by
  refine ⟨sampleAssets_registered, by decide +kernel, ?_⟩
  rintro ⟨hrows, -⟩
  have hmem : sampleAsset ∈ sampleAssets.assets.rows := by
    simp [sampleAssets, Table.put, Table.empty]
  obtain ⟨row, hrow, hbalanced⟩ := hrows sampleAsset hmem
  have hbook : (([0, 1, 0, 0, 0, 1, 1, 1].foldl chargeStep
      (.start sampleAssets sampleCharges)).store.assets.find? "srv-1").map AssetRow.bookValue =
      some (90000000000000 : Money) := by
    decide +kernel
  have htotal : totalCharges ([0, 1, 0, 0, 0, 1, 1, 1].foldl chargeStep
      (.start sampleAssets sampleCharges)).store.charges "srv-1" = 20000000000000 := by
    decide +kernel
  have hrow' : ([0, 1, 0, 0, 0, 1, 1, 1].foldl chargeStep
      (.start sampleAssets sampleCharges)).store.assets.find? "srv-1" = some row := hrow
  rw [hrow', Option.map_some, Option.some.injEq] at hbook
  have hremains := hbalanced.bookValue
  rw [show sampleAsset.assetId = "srv-1" from rfl, htotal, hbook] at hremains
  exact absurd hremains (by decide)

end Governor.Finance
