import Mathlib
import Governor.Finance.Decimals
import Governor.Finance.Subledger

/-!
# Rehashed transactions

A match run names the mirror by a hash that it recomputes from the columns of a pending row. The
hash covers the text of the amount and of the other fields, so it is the row's key only where the
columns give every field back as it was ingested. The in-memory store always does.
-/

namespace Governor.Finance

open Ledger (Decimal Hash)

/-! ## What the columns keep -/

/-- The columns of `subledger_transactions` hold a record as it is, if they hold it at all: the
amount has the twelve decimals of `NUMERIC(24, 12)` and the currency the three characters of
`CHAR(3)`. -/
structure Unaltered (record : TxnRecord) : Prop where
  amount : record.amount.exp = -12
  currency : record.currency.toList.length = 3

section Columns

variable {record stored : TxnRecord}

/-- The column has exactly three characters. -/
theorem charThree_kept {currency kept : String} (h : charThree currency = some kept) :
    kept = currency ↔ currency.toList.length = 3 := by
  simp only [charThree] at h
  split_ifs at h with hblank
  obtain rfl := Option.some.inj h
  rw [← String.toList_inj, String.toList_ofList]
  constructor
  · intro hsame
    rw [← hsame, List.length_append, List.length_replicate, List.length_take]
    omega
  · intro hlength
    simp [List.take_of_length_le hlength.le, hlength]

/-- The column gives back just the amounts with twelve decimals. -/
theorem storedDecimal_quantize_eq_iff {x : Decimal} :
    storedDecimal (quantizeMoney x) = x ↔ x.exp = -12 := by
  obtain ⟨coeff, exp⟩ := x
  simp only [storedDecimal, Decimal.mk.injEq]
  constructor
  · rintro ⟨-, hexp⟩
    exact hexp.symm
  · rintro rfl
    simp [quantizeMoney]

/-- What the columns hold differs from the record in the amount and the currency only, and is the
record exactly when these are unaltered. -/
theorem sqlRecord_kept (h : sqlRecord record = some stored) :
    stored.reference = record.reference ∧ (stored = record ↔ Unaltered record) := by
  simp only [sqlRecord] at h
  split_ifs at h
  obtain ⟨currency, hcurrency, rfl⟩ := Option.map_eq_some_iff.mp h
  refine ⟨rfl, ?_⟩
  obtain ⟨_, _, amount, _, _, _⟩ := record
  rw [TxnRecord.mk.injEq]
  constructor
  · rintro ⟨-, -, hamount, hthree, -⟩
    exact ⟨storedDecimal_quantize_eq_iff.mp hamount, (charThree_kept hcurrency).mp hthree⟩
  · intro hkept
    exact ⟨rfl, rfl, storedDecimal_quantize_eq_iff.mpr hkept.amount,
      (charThree_kept hcurrency).mpr hkept.currency, rfl, rfl⟩

end Columns

/-! ## The hash of a stored record -/

section Payload

variable {env : SubledgerEnv} {a b : TxnRecord}

/-- The text that is hashed determines every field but the reference. -/
theorem txnPayload_inj (h : txnPayload env a = txnPayload env b) :
    a.entityId = b.entityId ∧ a.counterpartyId = b.counterpartyId ∧ a.amount = b.amount ∧
      a.currency = b.currency ∧ a.valueDate = b.valueDate := by
  have hsame := (Json.dumps_eq_iff _ _ _).mp h
  have hvalue := fun k v w => hsame.value (by simp) (k := k) (v := v) (w := w)
  have hentity := hvalue "entity_id" (.str a.entityId) (.str b.entityId) (by simp) (by simp)
  have hcounterparty := hvalue "counterparty_id" (.str a.counterpartyId) (.str b.counterpartyId)
    (by simp) (by simp)
  have hamount := hvalue "amount" (.str a.amount.str) (.str b.amount.str) (by simp) (by simp)
  have hcurrency := hvalue "currency" (.str a.currency) (.str b.currency) (by simp) (by simp)
  have hdate := hvalue "value_date" (.str a.valueDate) (.str b.valueDate) (by simp) (by simp)
  simp only [Json.same_str] at hentity hcounterparty hamount hcurrency hdate
  exact ⟨hentity, hcounterparty, Decimal.str_injective hamount, hcurrency, hdate⟩

/-- A record in the columns has the text of the ingested one exactly when it is unaltered. -/
theorem sqlRecord_payload_iff (h : sqlRecord a = some b) :
    txnPayload env b = txnPayload env a ↔ Unaltered a := by
  obtain ⟨hreference, hkept⟩ := sqlRecord_kept h
  rw [← hkept]
  refine ⟨fun htext => ?_, fun hsame => by rw [hsame]⟩
  obtain ⟨hentity, hcounterparty, hamount, hcurrency, hdate⟩ := txnPayload_inj htext
  obtain ⟨_, _, _, _, _, _⟩ := a
  obtain ⟨_, _, _, _, _, _⟩ := b
  rw [TxnRecord.mk.injEq]
  exact ⟨hentity, hcounterparty, hamount, hcurrency, hdate, hreference⟩

end Payload

/-! ## Runs -/

/-- Every pending row rehashes to its key. -/
def RowsRehash (env : SubledgerEnv) (t : SubledgerTable) : Prop :=
  ∀ r ∈ t.rows, r.status = .pending → txnHash env r.record = r.txnHash

/-- The mirror of a match names a stored row, and this row becomes matched. -/
def MirrorMarked (kind : StoreKind) (env : SubledgerEnv) (w : PlatformWorld SubledgerTable) :
    SubledgerAction → Prop
  | .ingest _ => True
  | .runMatch call => ∀ hash mirror, matchOf env call.txn w.store = some (hash, mirror) →
    (w.store.find? mirror).isSome ∧
      ∃ r, (runMatch kind env call w).2.store.find? mirror = some r ∧ r.status = .matched

/-- A transaction that is ingested as new is stored as it is. -/
def StoredUnaltered (kind : StoreKind) (env : SubledgerEnv) (w : PlatformWorld SubledgerTable) :
    SubledgerAction → Prop
  | .ingest txn => ∀ record, toRecord env txn = some record →
    (kind.stored record).isSome → w.store.find? (txnHash env record) = none →
    kind = .sql → Unaltered record
  | .runMatch _ => True

/-- The ingested and the stored text of a transaction do not collide under SHA-256. -/
def DigestsApart (kind : StoreKind) (env : SubledgerEnv) : SubledgerAction → Prop
  | .ingest txn => ∀ record stored, toRecord env txn = some record →
    kind.stored record = some stored →
    env.deployment.sha256 (txnPayload env stored) = env.deployment.sha256 (txnPayload env record) →
    txnPayload env stored = txnPayload env record
  | .runMatch _ => True

section Steps

variable {kind : StoreKind} {env : SubledgerEnv} {t : SubledgerTable}
  {w : PlatformWorld SubledgerTable} {a : SubledgerAction}

/-- A match changes neither the keys nor the columns of a transaction, and makes none pending. -/
theorem mem_markMatched {hash mirror fx : Hash} {r : SubledgerRow}
    (hr : r ∈ (markMatched kind hash mirror fx t).rows) :
    ∃ o ∈ t.rows, r.txnHash = o.txnHash ∧ r.record = o.record ∧
      (r.status = .pending → o.status = .pending) := by
  cases kind with
  | memory =>
    simp only [markMatched, Table.update, List.mem_map] at hr
    obtain ⟨x, ⟨o, ho, rfl⟩, rfl⟩ := hr
    refine ⟨o, ho, ?_⟩
    split_ifs <;> simp [SubledgerRow.match, SubledgerRow.consume]
  | sql =>
    simp only [markMatched, Table.updateWhere, List.mem_map] at hr
    obtain ⟨o, ho, rfl⟩ := hr
    refine ⟨o, ho, ?_⟩
    split_ifs <;> simp [SubledgerRow.match]

/-- The row under the mirror's hash becomes matched. -/
theorem find?_markMatched {hash mirror fx : Hash} (h : (t.find? mirror).isSome) :
    ∃ r, (markMatched kind hash mirror fx t).find? mirror = some r ∧ r.status = .matched := by
  obtain ⟨o, ho⟩ := Option.isSome_iff_exists.mp h
  cases kind with
  | memory =>
    simp only [markMatched]
    rw [Table.find?_update, if_pos rfl, Table.find?_update]
    split_ifs with hself
    · rw [← hself, ho]
      exact ⟨_, rfl, rfl⟩
    · rw [ho]
      exact ⟨_, rfl, rfl⟩
  | sql =>
    have hmem : o.match mirror fx ∈ (markMatched .sql hash mirror fx t).rows := by
      simp only [markMatched, Table.updateWhere]
      refine List.mem_map.mpr ⟨o, Table.mem_of_find? ho, if_pos ?_⟩
      simp [Table.find?_some_key ho]
    have hfind := Table.find?_of_mem hmem
    rw [SubledgerRow.match_txnHash, Table.find?_some_key ho] at hfind
    exact ⟨_, hfind, rfl⟩

/-- Where the rows rehash, the mirror of a match is a stored row. -/
theorem RowsRehash.mirrorMarked (h : RowsRehash env w.store) (a : SubledgerAction) :
    MirrorMarked kind env w a := by
  cases a with
  | ingest txn => trivial
  | runMatch call =>
    intro hash mirror hmatch
    obtain ⟨r, hr, hpending, rfl⟩ := matchOf_some hmatch
    have hstored : (w.store.find? (txnHash env r.record)).isSome := by
      rw [h r hr hpending, Table.find?_of_mem hr]
      rfl
    refine ⟨hstored, ?_⟩
    rw [runMatch_store, hmatch]
    exact find?_markMatched hstored

theorem RowsRehash.runMatch (h : RowsRehash env w.store) (call : MatchCall) :
    RowsRehash env (runMatch kind env call w).2.store := by
  rw [runMatch_store]
  cases hmatch : matchOf env call.txn w.store with
  | none => exact h
  | some p =>
    intro r hr hpending
    obtain ⟨o, ho, hkey, hrecord, hback⟩ := mem_markMatched hr
    rw [hkey, hrecord]
    exact h o ho (hback hpending)

/-- The rows after an ingest: a new one, if any, under the hash of the ingested record. -/
theorem ingest_rows (txn : TxnRequest) :
    (ingest kind env txn w).store.rows = w.store.rows ∧
        (∀ record, toRecord env txn = some record → (kind.stored record).isSome →
          (w.store.find? (txnHash env record)).isSome) ∨
      ∃ record stored, toRecord env txn = some record ∧
        kind.stored record = some stored ∧
        w.store.find? (txnHash env record) = none ∧
        (ingest kind env txn w).store.rows =
          w.store.rows ++ [⟨txnHash env record, stored, .pending, none, none⟩] := by
  cases hrecord : toRecord env txn with
  | none => exact Or.inl ⟨by simp only [ingest, hrecord], by simp⟩
  | some record =>
    have hstep : (ingest kind env txn w).store =
        (ingestTxn kind (txnHash env record) record w.store).2 := by
      simp only [ingest, hrecord]
    rw [hstep]
    unfold ingestTxn
    cases hstored : kind.stored record with
    | none => exact Or.inl ⟨rfl, by simp [hstored]⟩
    | some stored =>
      cases htaken : w.store.find? (txnHash env record) with
      | some r => exact Or.inl ⟨by simp, by simp [htaken]⟩
      | none =>
        refine Or.inr ⟨record, stored, rfl, hstored, htaken, ?_⟩
        simp only [Option.isSome_none, Bool.false_eq_true, if_false]
        exact Table.rows_put_of_fresh htaken

/-- A step keeps the rows rehashing when what it ingests is stored unaltered. -/
theorem RowsRehash.step (h : RowsRehash env w.store) (ha : StoredUnaltered kind env w a) :
    RowsRehash env (subledgerStep kind env w a).store := by
  cases a with
  | runMatch call => exact h.runMatch call
  | ingest txn =>
    rcases @ingest_rows kind env w txn with
      ⟨hrows, -⟩ | ⟨record, stored, hrecord, hstored, hnew, hrows⟩
    · intro r hr
      rw [subledgerStep, hrows] at hr
      exact h r hr
    · intro r hr hpending
      rw [subledgerStep, hrows, List.mem_append, List.mem_singleton] at hr
      rcases hr with hr | rfl
      · exact h r hr hpending
      · have hsame : stored = record := by
          cases kind with
          | memory => exact (Option.some.inj hstored).symm
          | sql =>
            have hkept := ha record hrecord (by rw [hstored]; rfl) hnew rfl
            exact (sqlRecord_kept hstored).2.mpr hkept
        rw [hsame]

/-- A new row that rehashes is stored unaltered, unless the digests collide. -/
theorem RowsRehash.storedUnaltered (h : RowsRehash env (subledgerStep kind env w a).store)
    (ha : DigestsApart kind env a) : StoredUnaltered kind env w a := by
  cases a with
  | runMatch call => trivial
  | ingest txn =>
    rintro record hrecord hisSome hnew rfl
    rcases @ingest_rows .sql env w txn with
      ⟨-, htaken⟩ | ⟨record', stored, hrecord', hstored, -, hrows⟩
    · exact absurd hnew (Option.isSome_iff_ne_none.mp (htaken record hrecord hisSome))
    · obtain rfl := Option.some.inj (hrecord.symm.trans hrecord')
      have hrehash := h ⟨txnHash env record, stored, .pending, none, none⟩ (by
        rw [subledgerStep, hrows]
        exact List.mem_append_right _ (List.mem_singleton_self _)) rfl
      exact (sqlRecord_payload_iff hstored).mp (ha record stored hrecord hstored hrehash)

end Steps

/-- In every state of a run each pending row rehashes to its key, and each match marks the row of
its mirror. -/
def TransactionsRehash (kind : StoreKind) (env : SubledgerEnv) (w : PlatformWorld SubledgerTable)
    (actions : List SubledgerAction) : Prop :=
  Throughout (subledgerStep kind env) (fun w => RowsRehash env w.store) w actions ∧
    Along (subledgerStep kind env) (MirrorMarked kind env) w actions

/-- The invoice from the other side, with its amount as it is written. -/
def mirrorTxn (amount : String) : TxnRequest :=
  { sampleTxn "B" "A" with amount := amount }

/-- Surroundings in which the amount is also read with twelve decimals. -/
def exactEnv : SubledgerEnv :=
  { sampleEnv with
    read := fun text =>
      if text = "100.000000000000" then some (storedDecimal 100000000000000)
      else sampleEnv.read text }

/-- The invoice as its own columns hold it. -/
def exactRecord : TxnRecord :=
  ⟨"B", "A", storedDecimal 100000000000000, "USD", "2026-01-31", "INV-1"⟩

/-- The invoice is ingested from the other side, and then matched. -/
def rehashCalls (amount : String) : List SubledgerAction :=
  [.ingest (mirrorTxn amount),
    .runMatch ⟨sampleTxn "A" "B", sampleEnv.deployment.sha256 "fx", [], []⟩]

/-- An invoice with two decimals is read back with twelve, and its match marks no row. -/
theorem cents_not_rehashed :
    ¬ TransactionsRehash .sql sampleEnv ⟨Table.empty, sampleWorld⟩ (rehashCalls "100.00") ∧
    ¬ Along (subledgerStep .sql sampleEnv) (MirrorMarked .sql sampleEnv)
      ⟨Table.empty, sampleWorld⟩ (rehashCalls "100.00") := by
  have hunmarked : ¬ Along (subledgerStep .sql sampleEnv) (MirrorMarked .sql sampleEnv)
      ⟨Table.empty, sampleWorld⟩ (rehashCalls "100.00") := by
    rintro ⟨-, hmarked, -⟩
    obtain ⟨hfound, -⟩ := hmarked (sampleEnv.deployment.sha256 (sampleTxnText "A" "B" "100.00"))
      (sampleEnv.deployment.sha256 (sampleTxnText "B" "A" "100.000000000000")) (by decide +kernel)
    revert hfound
    decide +kernel
  exact ⟨fun h => hunmarked h.2, hunmarked⟩

end Governor.Finance
