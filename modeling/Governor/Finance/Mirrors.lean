import Mathlib
import Governor.Finance.Decimals
import Governor.Finance.Subledger

/-!
# Accepted mirrors

A match run accepts a pending transaction between the mirrored entities whose amount differs
from the submitted one by at most a hundredth of the submitted one. The tolerance is relative to
one of the two amounts, so the decision depends on which of them is submitted.
-/

namespace Governor.Finance

open Ledger (Decimal Hash)

/-! ## The tolerance -/

/-- A number of the column `NUMERIC(24, 12)`: twelve decimals, twelve digits before the point. -/
structure MoneyAmount (x : Decimal) : Prop where
  scale : -12 ≤ x.exp
  small : |x.value| < 10 ^ 12

section Tolerance

variable {a b : Decimal}

/-- A number below 10¹² has at most 24 digits up to the twelfth decimal. -/
theorem MoneyAmount.coeffAt_lt (h : MoneyAmount a) {exp : Int} (hscale : -12 ≤ exp)
    (hexp : exp ≤ a.exp) : (a.coeffAt exp).natAbs < 10 ^ 24 := by
  have hu : (0 : ℚ) < 10 ^ exp := by positivity
  have hunit : (10 : ℚ) ^ (-12 : Int) ≤ 10 ^ exp := zpow_le_zpow_right₀ (by norm_num) hscale
  have hsmall := h.small
  have hlt : ((a.coeffAt exp).natAbs : ℚ) * 10 ^ exp < 10 ^ 24 * 10 ^ exp := by
    rw [a.natAbs_coeffAt hexp]
    norm_num [zpow_neg] at hunit hsmall ⊢
    linarith
  exact_mod_cast lt_of_mul_lt_mul_right hlt hu.le

/-- An amount of zero agrees with zeros only. -/
theorem withinTolerance_of_zero (hzero : a.coeff = 0) :
    withinTolerance a b = decide (b.coeff = 0) := by
  simp [withinTolerance, hzero]

/-- The amounts agree within the tolerance exactly when they differ by at most a hundredth of the
first. -/
theorem withinTolerance_iff (ha : MoneyAmount a) (hb : MoneyAmount b) :
    withinTolerance a b = true ↔ 100 * |a.value - b.value| ≤ |a.value| := by
  by_cases hzero : a.coeff = 0
  · have hvalue : a.value = 0 := Decimal.value_eq_zero.mpr hzero
    have hnonneg := abs_nonneg b.value
    rw [withinTolerance_of_zero hzero, decide_eq_true_eq, ← Decimal.value_eq_zero, hvalue, zero_sub,
      abs_neg, abs_zero]
    constructor
    · intro hother
      simp [hother]
    · intro hother
      exact abs_eq_zero.mp (by linarith)
  · obtain ⟨e, he⟩ : ∃ e, e = Min.min a.exp b.exp := ⟨_, rfl⟩
    have hdiffexp : (a.sub b).exp = e := he.symm
    have hleft : e ≤ a.exp := he ▸ Int.min_le_left _ _
    have hscale : -12 ≤ e := by
      have hascale := ha.scale
      have hbscale := hb.scale
      omega
    have hpos : 0 < (a.coeffAt e).natAbs := by
      rw [Int.natAbs_pos]
      exact mul_ne_zero hzero (by positivity)
    have hshort : (a.coeffAt e).natAbs < 10 ^ 27 :=
      (ha.coeffAt_lt hscale hleft).trans (by norm_num)
    have hself : (a.sub b).coeff = (a.sub b).coeffAt e := by
      simp [Decimal.coeffAt, hdiffexp]
    have hu : (0 : ℚ) < 10 ^ e := by positivity
    have hunits : 100 * (a.sub b).coeff.natAbs ≤ (a.coeffAt e).natAbs ↔
        100 * |a.value - b.value| ≤ |a.value| := by
      rw [← Decimal.value_sub, ← a.natAbs_coeffAt hleft,
        ← (a.sub b).natAbs_coeffAt hdiffexp.ge, ← hself, ← mul_assoc, mul_le_mul_iff_left₀ hu]
      exact_mod_cast Iff.rfl
    simp only [withinTolerance, if_neg hzero, hdiffexp, Bool.not_eq_true']
    rw [Ledger.quotientExceeds_hundredth hpos hshort, hunits]

end Tolerance

/-! ## Acceptance -/

/-- The entities of two transactions are mirrored. -/
def MirroredEntities (a b : TxnRecord) : Prop :=
  b.entityId = a.counterpartyId ∧ b.counterpartyId = a.entityId

theorem MirroredEntities.symm {a b : TxnRecord} (h : MirroredEntities a b) :
    MirroredEntities b a :=
  ⟨h.2.symm, h.1.symm⟩

/-- The pending transactions that a match run looks through. -/
def pendingRecords (t : SubledgerTable) : List TxnRecord :=
  (listPending t).map SubledgerRow.record

/-- A match run replies that a transaction is the mirror of the submitted one. -/
def AcceptsMirror (kind : StoreKind) (env : SubledgerEnv) (call : MatchCall)
    (w : PlatformWorld SubledgerTable) (b : TxnRecord) : Prop :=
  ∃ hash fx crystalId, (runMatch kind env call w).1 = .matched hash (txnHash env b) fx crystalId

section Acceptance

variable {kind : StoreKind} {env : SubledgerEnv} {call : MatchCall} {a b : TxnRecord}
  {w : PlatformWorld SubledgerTable}

theorem mirrors_iff : mirrors a b = true ↔
    MirroredEntities a b ∧ withinTolerance a.amount b.amount = true := by
  simp [mirrors, MirroredEntities]

/-- An accepted mirror is pending, between the mirrored entities and within the tolerance. -/
theorem matched_mirrors (ha : toRecord env call.txn = some a) {hash mirror fx : Hash}
    {crystalId : Option String}
    (h : (runMatch kind env call w).1 = .matched hash mirror fx crystalId) :
    ∃ c ∈ pendingRecords w.store, mirror = txnHash env c ∧ MirroredEntities a c ∧
      withinTolerance a.amount c.amount = true := by
  simp only [runMatch, ha] at h
  cases hmatch : matchOf env call.txn w.store with
  | none =>
    rw [hmatch] at h
    cases h
  | some p =>
    obtain ⟨hash', mirror'⟩ := p
    rw [hmatch] at h
    obtain ⟨-, rfl, -⟩ := MatchReply.matched.inj h
    rw [matchOf, ha, Option.bind_some] at hmatch
    obtain ⟨m, hfind, hpair⟩ := Option.map_eq_some_iff.mp hmatch
    obtain ⟨-, rfl⟩ := Prod.mk.inj hpair
    obtain ⟨c, hc, hhash⟩ := Option.map_eq_some_iff.mp hfind
    exact ⟨c, List.mem_of_find?_eq_some hc, hhash.symm, mirrors_iff.mp (List.find?_some hc)⟩

variable (kind) in
/-- Where some pending transaction mirrors the submitted one, a match run accepts one. -/
theorem exists_matched (ha : toRecord env call.txn = some a) (hb : b ∈ pendingRecords w.store)
    (hmirrors : MirroredEntities a b ∧ withinTolerance a.amount b.amount = true) :
    ∃ c, AcceptsMirror kind env call w c := by
  obtain ⟨c, hc⟩ : ∃ c, (pendingRecords w.store).find? (mirrors a) = some c := by
    rw [← Option.isSome_iff_exists, List.find?_isSome]
    exact ⟨b, hb, mirrors_iff.mpr hmirrors⟩
  have hmatch : matchOf env call.txn w.store = some (txnHash env a, txnHash env c) := by
    rw [matchOf, ha, Option.bind_some, findMirror, ← pendingRecords, hc]
    rfl
  refine ⟨c, txnHash env a, call.fxHash,
    (governMatch env call (txnHash env a) (txnHash env c) w.spine).1, ?_⟩
  simp only [runMatch, ha, hmatch]

/-- The only pending transaction is accepted exactly when it mirrors the submitted one. -/
theorem accepts_iff (ha : toRecord env call.txn = some a) (hw : pendingRecords w.store = [b]) :
    AcceptsMirror kind env call w b ↔
      MirroredEntities a b ∧ withinTolerance a.amount b.amount = true := by
  constructor
  · rintro ⟨hash, fx, crystalId, hreply⟩
    obtain ⟨c, hc, -, hmirrors⟩ := matched_mirrors ha hreply
    rw [hw, List.mem_singleton] at hc
    rwa [hc] at hmirrors
  · intro hmirrors
    obtain ⟨c, hash, fx, crystalId, hreply⟩ :=
      exists_matched kind ha (hw ▸ List.mem_singleton_self b) hmirrors
    obtain ⟨d, hd, hhash, -⟩ := matched_mirrors ha hreply
    rw [hw, List.mem_singleton] at hd
    exact ⟨hash, fx, crystalId, by rw [hreply, hhash, hd]⟩

end Acceptance

/-- Surroundings in which the amounts of the two invoices are read. -/
def currencyEnv : SubledgerEnv :=
  { sampleEnv with
    read := fun text =>
      if text = "100.00" then some ⟨10000, -2⟩
      else if text = "99.00" then some ⟨9900, -2⟩
      else none }

/-- The invoice of one hundred dollars is submitted. -/
def dollarCall : MatchCall := ⟨sampleTxn "A" "B", currencyEnv.deployment.sha256 "fx", [], []⟩

/-- The invoice of 99 euros is submitted. -/
def euroCall : MatchCall :=
  ⟨⟨"B", "A", "99.00", "EUR", "2026-01-31", "INV-1"⟩, currencyEnv.deployment.sha256 "fx", [], []⟩

def dollarRecord : TxnRecord := ⟨"A", "B", ⟨10000, -2⟩, "USD", "2026-01-31", "INV-1"⟩

def euroRecord : TxnRecord := ⟨"B", "A", ⟨9900, -2⟩, "EUR", "2026-01-31", "INV-1"⟩

/-- A world in which only this transaction is pending. -/
def pendingOnly (txn : TxnRequest) : PlatformWorld SubledgerTable :=
  ingest .memory currencyEnv txn ⟨Table.empty, sampleWorld⟩

/-- The dollar invoice accepts the euro invoice as its mirror, and not the other way round. -/
theorem other_currency_accepted :
    AcceptsMirror .memory currencyEnv dollarCall (pendingOnly euroCall.txn) euroRecord ∧
      dollarRecord.currency ≠ euroRecord.currency ∧
      ¬ AcceptsMirror .memory currencyEnv euroCall (pendingOnly dollarCall.txn) dollarRecord := by
  have hdollar : toRecord currencyEnv dollarCall.txn = some dollarRecord := by decide +kernel
  have heuro : toRecord currencyEnv euroCall.txn = some euroRecord := by decide +kernel
  have honlyEuro : pendingRecords (pendingOnly euroCall.txn).store = [euroRecord] := by
    decide +kernel
  have honlyDollar : pendingRecords (pendingOnly dollarCall.txn).store = [dollarRecord] := by
    decide +kernel
  refine ⟨(accepts_iff hdollar honlyEuro).mpr ⟨⟨rfl, rfl⟩, by decide +kernel⟩, by decide, ?_⟩
  rw [accepts_iff heuro honlyDollar]
  rintro ⟨-, hwithin⟩
  exact absurd hwithin (by decide +kernel)

end Governor.Finance
