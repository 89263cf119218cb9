import Mathlib
import Governor.Finance.Platform

/-!
# AssetLedger

A depreciation run computes the monthly charge of every asset, applies it to the platform's
store and then governs it through the spine. The store is the in-memory one or the SQL one;
both refuse a second charge for an asset and a period, and a charge they refuse leaves them as
they are. Amounts in memory are decimals, those of the SQL store are `NUMERIC(24, 12)`.
-/

namespace Governor.Ledger.Decimal

/-- The coefficient of a decimal at a finer scale. -/
def coeffAt (x : Decimal) (exp : Int) : Int := x.coeff * 10 ^ (x.exp - exp).toNat

/-- `a + b`. -/
def add (a b : Decimal) : Decimal :=
  let exp := Min.min a.exp b.exp
  ⟨a.coeffAt exp + b.coeffAt exp, exp⟩

/-- `a - b`. -/
def sub (a b : Decimal) : Decimal :=
  let exp := Min.min a.exp b.exp
  ⟨a.coeffAt exp - b.coeffAt exp, exp⟩

/-- `str(x)`: fixed notation from a millionth on, scientific notation below and for a
positive exponent. -/
def str (x : Decimal) : String :=
  let ds := digits x.coeff.natAbs
  let sign := if x.coeff < 0 then ['-'] else []
  let left : Int := x.exp + ds.length
  let place : Int := if x.exp ≤ 0 ∧ -6 < left then left else 1
  let body :=
    if place ≤ 0 then '0' :: '.' :: (List.replicate (-place).toNat '0' ++ ds)
    else if (ds.length : Int) ≤ place then ds
    else ds.take place.toNat ++ '.' :: ds.drop place.toNat
  let exponent :=
    if left = place then []
    else 'E' :: (if left < place then '-' else '+') :: digits (left - place).natAbs
  String.ofList (sign ++ body ++ exponent)

example : str ⟨1667, -2⟩ = "16.67" ∧ str ⟨0, -12⟩ = "0E-12" ∧ str ⟨12, 3⟩ = "1.2E+4" := by
  decide +kernel

end Governor.Ledger.Decimal

namespace Governor.Finance

open Ledger (Clock Decimal Money)

/-! ## Assets and their charges -/

/-- An asset with its amounts in some representation. -/
structure AssetRow (α : Type) where
  assetId : String
  acquisitionCost : α
  bookValue : α
  accumulatedDepreciation : α
  method : String
  jurisdiction : String
  deriving DecidableEq

/-- The amounts in another representation. -/
def AssetRow.map {α β : Type} (f : α → β) (a : AssetRow α) : AssetRow β where
  assetId := a.assetId
  acquisitionCost := f a.acquisitionCost
  bookValue := f a.bookValue
  accumulatedDepreciation := f a.accumulatedDepreciation
  method := a.method
  jurisdiction := a.jurisdiction

/-- `RegTable`. -/
structure RegTable where
  version : String
  straightLineAnnualPct : Decimal

/-- `jurisdiction.upper()`, exact for the letters of the table's keys. -/
def upperJurisdiction (jurisdiction : String) : String :=
  String.ofList (jurisdiction.toList.map fun c => if c = 'ſ' then 'S' else c.toUpper)

/-- `get_table`. -/
def getTable (jurisdiction : String) : Option RegTable :=
  if upperJurisdiction jurisdiction = "US" then some ⟨"irs-2024-v1", ⟨20, -2⟩⟩
  else if upperJurisdiction jurisdiction = "UK" then some ⟨"hmrc-2024-v1", ⟨18, -2⟩⟩
  else none

/-- A twelfth of an amount in cents, rounded half up. -/
def monthlyCents (annual : Decimal) : Decimal :=
  ⟨roundHalfUp (annual.coeff * 10 ^ (annual.exp + 2).toNat) (12 * 10 ^ (-2 - annual.exp).toNat), -2⟩

/-- `compute_monthly_charge` of an asset with the straight-line method. -/
def monthlyCharge (asset : AssetRow Decimal) (table : RegTable) : Decimal :=
  Decimal.min (monthlyCents ⟨asset.acquisitionCost.coeff * table.straightLineAnnualPct.coeff,
    asset.acquisitionCost.exp + table.straightLineAnnualPct.exp⟩) asset.bookValue

/-- The exceptions of a depreciation run. -/
inductive DepreciationError where
  | keyError (message : String)
  | valueError (message : String)
  deriving DecidableEq, Repr

/-- `compute_monthly_charge` with the table of the asset's jurisdiction. -/
def computeMonthlyCharge (asset : AssetRow Decimal) :
    Except DepreciationError (RegTable × Decimal) :=
  match getTable asset.jurisdiction with
  | none => .error (.keyError s!"unknown jurisdiction: {asset.jurisdiction}")
  | some table =>
    if asset.method ≠ "straight_line" then
      .error (.valueError s!"unsupported method: {asset.method}")
    else .ok (table, monthlyCharge asset table)

/-- The arguments of `apply_charge`; the crystal is not known yet when it is called. -/
structure ChargeArgs where
  assetId : String
  period : String
  charge : Decimal
  regTableVersion : String

/-- What `apply_charge` returns. -/
structure ChargeRow where
  assetId : String
  period : String
  charge : Decimal
  bookValue : Decimal
  regTableVersion : String
  deriving DecidableEq

/-- `AssetStore`, as far as a depreciation run uses it. -/
structure AssetStore (σ : Type) where
  listAssets : σ → List (AssetRow Decimal)
  applyCharge : ChargeArgs → σ → Option ChargeRow × σ
  /-- A charge that is refused leaves the store as it is. -/
  refused : ∀ args s, (applyCharge args s).1 = none → (applyCharge args s).2 = s

/-- A charge takes effect on an asset. -/
def AssetRow.depreciate (charge : Decimal) (a : AssetRow Decimal) : AssetRow Decimal :=
  { a with
    accumulatedDepreciation := a.accumulatedDepreciation.add charge
    bookValue := a.bookValue.sub charge }

/-- `MemoryAssetStore`. -/
structure MemoryAssets where
  assets : Table (ρ := AssetRow Decimal) AssetRow.assetId
  charges : List (String × String)

/-- `MemoryAssetStore.apply_charge`; a missing asset is a `KeyError` that no run can cause. -/
def MemoryAssets.applyCharge (args : ChargeArgs) (s : MemoryAssets) :
    Option ChargeRow × MemoryAssets :=
  if (args.assetId, args.period) ∈ s.charges then (none, s)
  else
    match s.assets.find? args.assetId with
    | none => (none, s)
    | some asset =>
      let charge := Decimal.min args.charge asset.bookValue
      if charge.coeff ≤ 0 then (none, s)
      else
        (some ⟨args.assetId, args.period, charge, asset.bookValue.sub charge,
          args.regTableVersion⟩,
          { assets := s.assets.update args.assetId (AssetRow.depreciate charge) fun _ => rfl
            charges := s.charges ++ [(args.assetId, args.period)] })

/-- The in-memory store. -/
def memoryAssetStore : AssetStore MemoryAssets where
  listAssets s := s.assets.rows
  applyCharge := MemoryAssets.applyCharge
  refused args s h := by
    unfold MemoryAssets.applyCharge at h ⊢
    split_ifs at h ⊢
    · rfl
    · split at h
      · rfl
      · simp only at h ⊢
        split_ifs at h ⊢
        rfl

/-! ## The SQL store -/

/-- A stored amount as Python reads it. -/
def storedDecimal (m : Money) : Decimal := ⟨m, -12⟩

/-- A row of `asset_depreciation_charges`. -/
structure StoredCharge where
  assetId : String
  period : String
  charge : Money
  regTableVersion : String
  deriving DecidableEq

/-- The primary key of a charge. -/
def StoredCharge.key (c : StoredCharge) : String × String := (c.assetId, c.period)

/-- The tables of `SqlAssetStore`. -/
structure SqlAssets where
  assets : Table (ρ := AssetRow Money) AssetRow.assetId
  charges : List StoredCharge

/-- The variables of `apply_charge` after its `SELECT`: the row it read and `charge_d`. -/
structure ChargePlan where
  args : ChargeArgs
  asset : AssetRow Money
  charge : Decimal

/-- The `SELECT` of `apply_charge` and what follows from it. -/
def planCharge (args : ChargeArgs) (assets : Table (ρ := AssetRow Money) AssetRow.assetId) :
    Option ChargePlan :=
  match assets.find? args.assetId with
  | none => none
  | some asset =>
    let charge := Decimal.min args.charge (storedDecimal asset.bookValue)
    if charge.coeff ≤ 0 then none else some ⟨args, asset, charge⟩

namespace ChargePlan

/-- The row that is inserted. -/
def stored (p : ChargePlan) : StoredCharge :=
  ⟨p.args.assetId, p.args.period, quantizeMoney p.charge, p.args.regTableVersion⟩

def newBook (p : ChargePlan) : Decimal := (storedDecimal p.asset.bookValue).sub p.charge

def newAcc (p : ChargePlan) : Decimal :=
  (storedDecimal p.asset.accumulatedDepreciation).add p.charge

/-- `SET book_value = :book_value, accumulated_depreciation = :accumulated_depreciation`. -/
def write (p : ChargePlan) (a : AssetRow Money) : AssetRow Money :=
  { a with
    bookValue := quantizeMoney p.newBook
    accumulatedDepreciation := quantizeMoney p.newAcc }

/-- The tables with both statements in effect. -/
def apply (p : ChargePlan) (s : SqlAssets) : SqlAssets where
  assets := s.assets.update p.args.assetId p.write fun _ => rfl
  charges := s.charges ++ [p.stored]

/-- The row that is returned. -/
def row (p : ChargePlan) : ChargeRow :=
  ⟨p.args.assetId, p.args.period, p.charge, p.newBook, p.args.regTableVersion⟩

end ChargePlan

/-- `SqlAssetStore.apply_charge` when no other transaction is at work. -/
def SqlAssets.applyCharge (args : ChargeArgs) (s : SqlAssets) : Option ChargeRow × SqlAssets :=
  match planCharge args s.assets with
  | none => (none, s)
  | some plan =>
    if plan.stored.key ∈ s.charges.map StoredCharge.key then (none, s)
    else (some plan.row, plan.apply s)

/-- The SQL store. -/
def sqlAssetStore : AssetStore SqlAssets where
  listAssets s := s.assets.rows.map (AssetRow.map storedDecimal)
  applyCharge := SqlAssets.applyCharge
  refused args s h := by
    unfold SqlAssets.applyCharge at h ⊢
    split at h
    · rfl
    · split_ifs at h ⊢
      rfl

/-! ## The depreciation run -/

/-- The facets of a charge. -/
def ChargeRow.facets (row : ChargeRow) : Facets :=
  [("asset_id", .str row.assetId), ("period", .str row.period),
    ("charge", .str row.charge.str), ("reg_table_version", .str row.regTableVersion)]

/-- `op_id`. -/
def ChargeRow.operationId (row : ChargeRow) : String := s!"dep-{row.assetId}-{row.period}"

/-- A depreciation run: its period, and what becomes of the requests to the spine for each
asset. -/
structure DepreciationCall where
  period : String
  crystallize : String → List Attempt
  commit : String → List Attempt

/-- The store of the platform and the spine. -/
structure PlatformWorld (σ : Type) where
  store : σ
  spine : FinanceWorld

/-- A recorded charge with the crystal that the helper returned for it. -/
abbrev GovernedCharge := ChargeRow × Option String

section Run

variable {σ : Type} (S : AssetStore σ) (d : Deployment) (call : DepreciationCall)

/-- `crystallize_and_commit` for a recorded charge. -/
def governCharge (row : ChargeRow) (spine : FinanceWorld) : Option String × FinanceWorld :=
  SpineHelpers.crystallizeAndCommit d assetLedgerConfig row.operationId row.facets
    (some row.charge) "depreciated" (call.crystallize row.assetId) (call.commit row.assetId) spine

/-- The body of the loop. -/
def depreciateAsset (asset : AssetRow Decimal) (w : PlatformWorld σ) :
    Except DepreciationError (Option GovernedCharge) × PlatformWorld σ :=
  match computeMonthlyCharge asset with
  | .error exn => (.error exn, w)
  | .ok (table, charge) =>
    if charge.coeff ≤ 0 then (.ok none, w)
    else
      match S.applyCharge ⟨asset.assetId, call.period, charge, table.version⟩ w.store with
      | (none, store) => (.ok none, ⟨store, w.spine⟩)
      | (some row, store) =>
        let r := governCharge d call row w.spine
        (.ok (some (row, r.1)), ⟨store, r.2⟩)

/-- The loop: the recorded charges, and the exception that ended it. -/
def depreciateAssets : List (AssetRow Decimal) → PlatformWorld σ →
    (List GovernedCharge × Option DepreciationError) × PlatformWorld σ
  | [], w => (([], none), w)
  | asset :: assets, w =>
    match depreciateAsset S d call asset w with
    | (.error exn, w') => (([], some exn), w')
    | (.ok charged, w') =>
      let r := depreciateAssets assets w'
      ((charged.toList ++ r.1.1, r.1.2), r.2)

/-- `run_depreciation`. -/
def runDepreciation (w : PlatformWorld σ) :
    (List GovernedCharge × Option DepreciationError) × PlatformWorld σ :=
  depreciateAssets S d call (S.listAssets w.store) w

end Run

end Governor.Finance
