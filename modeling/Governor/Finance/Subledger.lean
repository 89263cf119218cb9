import Mathlib
import Governor.Finance.AssetLedger

/-!
# SubledgerSync

Transactions between two entities are ingested as pending, and a match run looks for the mirror
of a submitted transaction among the pending ones. The stores mark a match differently: the
in-memory store records the mirror with the submitted transaction only, the SQL store records the
same mirror with both rows, and it finds the mirror's row by a hash that is recomputed from its
columns. The append-only lists of events and discrepancies are left out; no modelled function
reads them.
-/

namespace Governor.Finance

open Ledger (Decimal Hash Money)

/-! ## Transactions -/

/-- `TxnRecord`. -/
structure TxnRecord where
  entityId : String
  counterpartyId : String
  amount : Decimal
  currency : String
  valueDate : String
  reference : String
  deriving DecidableEq

/-- `TxnRequest`. -/
structure TxnRequest where
  entityId : String
  counterpartyId : String
  amount : String
  currency : String
  valueDate : String
  reference : String

/-- What the platform takes from outside. -/
structure SubledgerEnv where
  deployment : Deployment
  /-- `Decimal(text)`. -/
  read : DecimalReader
  /-- `reference.strip().lower()`. -/
  normalize : String → String

/-- `_to_record`, unless the amount cannot be read. -/
def toRecord (env : SubledgerEnv) (txn : TxnRequest) : Option TxnRecord :=
  (env.read txn.amount).map fun amount =>
    ⟨txn.entityId, txn.counterpartyId, amount, txn.currency, txn.valueDate, txn.reference⟩

/-- The text that `txn_hash` hashes. -/
def txnPayload (env : SubledgerEnv) (txn : TxnRecord) : String :=
  Json.dumps Json.compact (.obj [
    ("entity_id", .str txn.entityId),
    ("counterparty_id", .str txn.counterpartyId),
    ("amount", .str txn.amount.str),
    ("currency", .str txn.currency),
    ("value_date", .str txn.valueDate),
    ("reference", .str (env.normalize txn.reference))])

/-- `txn_hash`. -/
def txnHash (env : SubledgerEnv) (txn : TxnRecord) : Hash :=
  env.deployment.sha256 (txnPayload env txn)

/-- The `status` of a stored transaction. -/
inductive TxnStatus where
  | pending | matched
  deriving DecidableEq, Repr

/-- A stored transaction. -/
structure SubledgerRow where
  txnHash : Hash
  record : TxnRecord
  status : TxnStatus
  mirrorHash : Option Hash
  fxHash : Option Hash

abbrev SubledgerTable := Table SubledgerRow.txnHash

/-! ## The two stores -/

/-- `MemorySubledgerStore` or `SqlSubledgerStore`. -/
inductive StoreKind where
  | memory | sql
  deriving DecidableEq, Repr

/-- `CHAR(3)`: filled up with blanks, and cut when only blanks are lost. -/
def charThree (currency : String) : Option String :=
  let cs := currency.toList
  if (cs.drop 3).all (· = ' ') then
    some (String.ofList (cs.take 3 ++ List.replicate (3 - cs.length) ' '))
  else none

/-- A text that fits a column of some length. -/
def fitsText (length : Nat) (text : String) : Bool :=
  text.toList.length ≤ length && !text.toList.contains (Char.ofNat 0)

/-- The record as the columns of `subledger_transactions` hold it, unless one rejects it. -/
def sqlRecord (record : TxnRecord) : Option TxnRecord :=
  let amount := quantizeMoney record.amount
  if fitsText 255 record.entityId && fitsText 255 record.counterpartyId &&
      fitsText 20 record.valueDate && !record.reference.toList.contains (Char.ofNat 0) &&
      !record.currency.toList.contains (Char.ofNat 0) && amount.natAbs < 10 ^ 24 then
    (charThree record.currency).map fun currency =>
      { record with amount := storedDecimal amount, currency := currency }
  else none

/-- The record as the store gives it back. -/
def StoreKind.stored : StoreKind → TxnRecord → Option TxnRecord
  | .memory, record => some record
  | .sql, record => sqlRecord record

/-- `ingest`: whether the transaction is new, and the store after it. -/
def ingestTxn (kind : StoreKind) (hash : Hash) (record : TxnRecord) (t : SubledgerTable) :
    Bool × SubledgerTable :=
  match kind.stored record with
  | none => (false, t)
  | some stored =>
    if (t.find? hash).isSome then (false, t)
    else (true, t.put ⟨hash, stored, .pending, none, none⟩)

/-- `list_pending_records`, in the order in which they were ingested. -/
def listPending (t : SubledgerTable) : List SubledgerRow :=
  t.rows.filter fun r => r.status = .pending

/-- `count_matched`. -/
def countMatched (t : SubledgerTable) : Nat := t.rows.countP (fun r => r.status = .matched) / 2

/-- `{"status": "MATCHED", "mirror_hash": …, "fx_hash": …}`. -/
def SubledgerRow.match (mirror fx : Hash) (r : SubledgerRow) : SubledgerRow :=
  { r with status := .matched, mirrorHash := some mirror, fxHash := some fx }

/-- `["status"] = "MATCHED"`. -/
def SubledgerRow.consume (r : SubledgerRow) : SubledgerRow := { r with status := .matched }

theorem SubledgerRow.match_txnHash (mirror fx : Hash) (r : SubledgerRow) :
    (r.match mirror fx).txnHash = r.txnHash := rfl

theorem SubledgerRow.consume_txnHash (r : SubledgerRow) : r.consume.txnHash = r.txnHash := rfl

/-- `mark_matched`. -/
def markMatched (kind : StoreKind) (hash mirror fx : Hash) (t : SubledgerTable) : SubledgerTable :=
  match kind with
  | .memory =>
    (t.update hash (SubledgerRow.match mirror fx) (SubledgerRow.match_txnHash mirror fx)).update
      mirror SubledgerRow.consume SubledgerRow.consume_txnHash
  | .sql => t.updateWhere (fun r => r.txnHash = hash || r.txnHash = mirror)
      (SubledgerRow.match mirror fx) (SubledgerRow.match_txnHash mirror fx)

/-! ## The match engine -/

/-- `within_tolerance` with the rate 1.0 that the platform captures. -/
def withinTolerance (a b : Decimal) : Bool :=
  let diff := a.sub b
  if a.coeff = 0 then b.coeff = 0
  else !Ledger.quotientExceeds diff.coeff.natAbs (a.coeffAt diff.exp).natAbs 10000000000

/-- Whether a pending transaction mirrors the submitted one. The snapshot's base is the submitted
currency, so the currencies are never compared. -/
def mirrors (txn candidate : TxnRecord) : Bool :=
  candidate.entityId = txn.counterpartyId && candidate.counterpartyId = txn.entityId &&
    withinTolerance txn.amount candidate.amount

/-- `find_mirror`: the recomputed hash of the first mirror. -/
def findMirror (env : SubledgerEnv) (txn : TxnRecord) (pending : List TxnRecord) : Option Hash :=
  (pending.find? (mirrors txn)).map (txnHash env)

/-! ## The routes -/

/-- A call of `run_match`: the digest of the rate snapshot, and what becomes of the requests to
the spine. -/
structure MatchCall where
  txn : TxnRequest
  fxHash : Hash
  crystallize : List Attempt
  commit : List Attempt

/-- `MatchResponse`, or the error of an unreadable amount. -/
inductive MatchReply where
  | matched (txnHash mirrorHash fxHash : Hash) (crystalId : Option String)
  | discrepancy (txnHash : Hash) (reason : String)
  | invalidAmount

/-- `op_id`. -/
def matchOperationId (hash : Hash) : String := "ic-" ++ String.ofList (hash.val.toList.take 16)

/-- The facets of a match. -/
def matchFacets (txn : TxnRequest) (hash mirror fx : Hash) : Facets :=
  [("txn_hash", .str hash.val), ("mirror_hash", .str mirror.val), ("fx_hash", .str fx.val),
    ("entity_id", .str txn.entityId), ("counterparty_id", .str txn.counterpartyId),
    ("amount", .str txn.amount), ("currency", .str txn.currency)]

section Routes

variable (kind : StoreKind) (env : SubledgerEnv)

/-- `POST /transactions`. -/
def ingest (txn : TxnRequest) (w : PlatformWorld SubledgerTable) : PlatformWorld SubledgerTable :=
  match toRecord env txn with
  | none => w
  | some record => { w with store := (ingestTxn kind (txnHash env record) record w.store).2 }

/-- The match that a call makes: the hashes of the two transactions. -/
def matchOf (txn : TxnRequest) (t : SubledgerTable) : Option (Hash × Hash) :=
  (toRecord env txn).bind fun record =>
    (findMirror env record ((listPending t).map SubledgerRow.record)).map fun mirror =>
      (txnHash env record, mirror)

/-- `crystallize_and_commit` for a match. -/
def governMatch (call : MatchCall) (hash mirror : Hash) (spine : FinanceWorld) :
    Option String × FinanceWorld :=
  SpineHelpers.crystallizeAndCommit env.deployment subledgerConfig (matchOperationId hash)
    (matchFacets call.txn hash mirror call.fxHash) (some ⟨0, 0⟩) "matched" call.crystallize
    call.commit spine

/-- `POST /match/run`. -/
def runMatch (call : MatchCall) (w : PlatformWorld SubledgerTable) :
    MatchReply × PlatformWorld SubledgerTable :=
  match toRecord env call.txn with
  | none => (.invalidAmount, w)
  | some record =>
    match matchOf env call.txn w.store with
    | none => (.discrepancy (txnHash env record) "NO_MIRROR_OR_FX_DRIFT", w)
    | some (hash, mirror) =>
      let r := governMatch env call hash mirror w.spine
      (.matched hash mirror call.fxHash r.1,
        ⟨markMatched kind hash mirror call.fxHash w.store, r.2⟩)

end Routes

/-- One call of the platform's API. -/
inductive SubledgerAction where
  | ingest (txn : TxnRequest)
  | runMatch (call : MatchCall)

/-- The world after one call. -/
def subledgerStep (kind : StoreKind) (env : SubledgerEnv) (w : PlatformWorld SubledgerTable) :
    SubledgerAction → PlatformWorld SubledgerTable
  | .ingest txn => ingest kind env txn w
  | .runMatch call => (runMatch kind env call w).2

/-! ## One-to-one matches -/

/-- Two matched transactions that record each other as mirrors. -/
def mutualMirrors (t u : SubledgerRow) : Bool :=
  t.status = .matched && u.status = .matched && t.mirrorHash = some u.txnHash &&
    u.mirrorHash = some t.txnHash && t.txnHash ≠ u.txnHash

/-- The number of pairs of transactions that record each other. -/
def pairCount (t : SubledgerTable) : Nat :=
  (t.rows.flatMap fun r => t.rows.filter (mutualMirrors r)).length / 2

/-- Every matched transaction has exactly one partner, and the partners are counted in pairs. -/
structure OneToOne (t : SubledgerTable) : Prop where
  paired : ∀ r ∈ t.rows, r.status = .matched → ∃! u, u ∈ t.rows ∧ mutualMirrors r u = true
  counted : countMatched t = pairCount t

/-- A match consumes a stored mirror only for a stored transaction that is pending. -/
def ConsumesForPending (env : SubledgerEnv) (w : PlatformWorld SubledgerTable) :
    SubledgerAction → Prop
  | .ingest _ => True
  | .runMatch call => ∀ hash mirror, matchOf env call.txn w.store = some (hash, mirror) →
    (w.store.find? mirror).isSome → ∃ r, w.store.find? hash = some r ∧ r.status = .pending

/-- A match run marks no stored transaction. -/
def MarksNothing (env : SubledgerEnv) (w : PlatformWorld SubledgerTable) : SubledgerAction → Prop
  | .ingest _ => True
  | .runMatch call => ∀ hash mirror, matchOf env call.txn w.store = some (hash, mirror) →
    w.store.find? hash = none ∧ w.store.find? mirror = none

/-- Nothing is matched, and the in-memory store finds a transaction under its own hash. -/
structure AllPending (kind : StoreKind) (env : SubledgerEnv) (t : SubledgerTable) : Prop where
  pending : ∀ r ∈ t.rows, r.status = .pending ∧ r.mirrorHash = none
  hash : kind = .memory → ∀ r ∈ t.rows, r.txnHash = txnHash env r.record

section OneToOne

variable {kind : StoreKind} {env : SubledgerEnv} {t : SubledgerTable}
  {w : PlatformWorld SubledgerTable}

theorem AllPending.oneToOne (h : AllPending kind env t) : OneToOne t := by
  have hnone : ∀ r ∈ t.rows, r.status ≠ .matched := by
    intro r hr hmatched
    rw [(h.pending r hr).1] at hmatched
    cases hmatched
  refine ⟨fun r hr hmatched => absurd hmatched (hnone r hr), ?_⟩
  have hcount : t.rows.countP (fun r => r.status = .matched) = 0 := by
    rw [List.countP_eq_zero]
    intro r hr
    simpa using hnone r hr
  have hpairs : (t.rows.flatMap fun r => t.rows.filter (mutualMirrors r)) = [] := by
    rw [List.flatMap_eq_nil_iff]
    intro r hr
    rw [List.filter_eq_nil_iff]
    intro u _
    simp [mutualMirrors, hnone r hr]
  rw [countMatched, pairCount, hcount, hpairs]
  rfl

/-- The mirror that a match finds is a pending transaction. -/
theorem matchOf_some {txn : TxnRequest} {hash mirror : Hash}
    (h : matchOf env txn t = some (hash, mirror)) :
    ∃ r ∈ t.rows, r.status = .pending ∧ mirror = txnHash env r.record := by
  obtain ⟨record, -, hrest⟩ := Option.bind_eq_some_iff.mp h
  obtain ⟨m, hfind, hpair⟩ := Option.map_eq_some_iff.mp hrest
  obtain ⟨candidate, hcandidate, rfl⟩ := Option.map_eq_some_iff.mp hfind
  obtain ⟨r, hr, rfl⟩ := List.mem_map.mp (List.mem_of_find?_eq_some hcandidate)
  obtain ⟨hmem, hpending⟩ := List.mem_filter.mp hr
  exact ⟨r, hmem, of_decide_eq_true hpending, (Prod.mk.inj hpair).2.symm⟩

/-- A match that finds neither transaction stored changes nothing. -/
theorem markMatched_of_none {hash mirror fx : Hash} (hhash : t.find? hash = none)
    (hmirror : t.find? mirror = none) : markMatched kind hash mirror fx t = t := by
  cases kind with
  | memory =>
    simp only [markMatched]
    rw [Table.update_of_none hhash, Table.update_of_none hmirror]
  | sql =>
    apply Table.ext
    simp only [markMatched, Table.updateWhere]
    conv_rhs => rw [← List.map_id t.rows]
    apply List.map_congr_left
    intro r hr
    have hne : ∀ k, t.find? k = none → r.txnHash ≠ k := by
      rintro k hk rfl
      exact Table.find?_eq_none.mp hk (List.mem_map_of_mem hr)
    simp [hne hash hhash, hne mirror hmirror]

/-- A matched transaction that records itself, or nothing, has no partner. -/
theorem OneToOne.absurd_of_row (h : OneToOne t) {r : SubledgerRow} (hr : r ∈ t.rows)
    (hmatched : r.status = .matched)
    (hmirror : ∀ u ∈ t.rows, r.mirrorHash = some u.txnHash → u.mirrorHash = some r.txnHash →
      u.txnHash = r.txnHash) : False := by
  obtain ⟨u, ⟨hu, hmutual⟩, -⟩ := h.paired r hr hmatched
  simp only [mutualMirrors, Bool.and_eq_true, decide_eq_true_eq] at hmutual
  obtain ⟨⟨⟨-, hrecords⟩, hback⟩, hne⟩ := hmutual
  exact hne (hmirror u hu hrecords hback).symm

/-- A match that marks a stored transaction leaves one without a partner. -/
theorem not_oneToOne_markMatched (h : AllPending kind env t) {txn : TxnRequest}
    {hash mirror fx : Hash} (hmatch : matchOf env txn t = some (hash, mirror))
    (hmarks : ¬ (t.find? hash = none ∧ t.find? mirror = none)) :
    ¬ OneToOne (markMatched kind hash mirror fx t) := by
  intro hone
  cases kind with
  | memory =>
    -- the mirror's row is consumed, and records no mirror or itself
    obtain ⟨r, hr, -, rfl⟩ := matchOf_some hmatch
    have hkey := h.hash rfl r hr
    have hfind : t.find? (txnHash env r.record) = some r := hkey ▸ Table.find?_of_mem hr
    have hnew : (markMatched .memory hash (txnHash env r.record) fx t).find?
        (txnHash env r.record) = some (SubledgerRow.consume
          (if txnHash env r.record = hash then r.match (txnHash env r.record) fx else r)) := by
      simp only [markMatched]
      rw [Table.find?_update, if_pos rfl, Table.find?_update]
      by_cases hself : txnHash env r.record = hash
      · rw [if_pos hself, if_pos hself, ← hself, hfind]
        rfl
      · rw [if_neg hself, if_neg hself, hfind]
        rfl
    refine hone.absurd_of_row (Table.mem_of_find? hnew) rfl ?_
    intro u _ hrecords _
    by_cases hself : txnHash env r.record = hash
    · rw [if_pos hself] at hrecords ⊢
      have hrecorded : txnHash env r.record = u.txnHash := Option.some.inj hrecords
      exact hrecorded.symm.trans hkey.symm
    · rw [if_neg hself] at hrecords
      simp [SubledgerRow.consume, (h.pending r hr).2] at hrecords
  | sql =>
    obtain ⟨r, hr, hmarked⟩ : ∃ r ∈ t.rows, r.txnHash = hash ∨ r.txnHash = mirror := by
      rw [not_and_or, ← ne_eq, ← ne_eq, Option.ne_none_iff_exists',
        Option.ne_none_iff_exists'] at hmarks
      rcases hmarks with ⟨r, hfind⟩ | ⟨r, hfind⟩
      · exact ⟨r, Table.mem_of_find? hfind, Or.inl (Table.find?_some_key hfind)⟩
      · exact ⟨r, Table.mem_of_find? hfind, Or.inr (Table.find?_some_key hfind)⟩
    have hmem : r.match mirror fx ∈ (markMatched .sql hash mirror fx t).rows := by
      simp only [markMatched, Table.updateWhere]
      exact List.mem_map.mpr ⟨r, hr, if_pos (by simpa using hmarked)⟩
    refine hone.absurd_of_row hmem rfl ?_
    intro u hu hrecords hback
    have hmirror : u.txnHash = mirror := (Option.some.inj hrecords).symm
    -- the row under the mirror's hash records that hash too
    simp only [markMatched, Table.updateWhere, List.mem_map] at hu
    obtain ⟨x, hx, rfl⟩ := hu
    by_cases hx' : (x.txnHash = hash || x.txnHash = mirror) = true
    · rw [if_pos hx'] at hback hmirror ⊢
      exact hmirror.trans (Option.some.inj hback)
    · rw [if_neg hx'] at hmirror
      simp [hmirror] at hx'

theorem ingest_allPending (h : AllPending kind env w.store) (txn : TxnRequest) :
    AllPending kind env (ingest kind env txn w).store := by
  unfold ingest
  split
  · exact h
  · next record _ =>
    unfold ingestTxn
    split
    · exact h
    · next stored hstored =>
      split_ifs with htaken
      · exact h
      · have hfresh : w.store.find? (txnHash env record) = none := by simpa using htaken
        have hrows : (w.store.put ⟨txnHash env record, stored, .pending, none, none⟩).rows =
            w.store.rows ++ [⟨txnHash env record, stored, .pending, none, none⟩] :=
          Table.rows_put_of_fresh hfresh
        refine ⟨?_, ?_⟩
        · intro r hr
          rw [hrows, List.mem_append, List.mem_singleton] at hr
          rcases hr with hr | rfl
          · exact h.pending r hr
          · exact ⟨rfl, rfl⟩
        · rintro rfl r hr
          rw [hrows, List.mem_append, List.mem_singleton] at hr
          rcases hr with hr | rfl
          · exact h.hash rfl r hr
          · rw [Option.some.inj hstored]

theorem runMatch_store (call : MatchCall) (w : PlatformWorld SubledgerTable) :
    (runMatch kind env call w).2.store = (matchOf env call.txn w.store).elim w.store
      fun p => markMatched kind p.1 p.2 call.fxHash w.store := by
  unfold runMatch
  cases hrecord : toRecord env call.txn with
  | none => simp [matchOf, hrecord]
  | some record =>
    cases matchOf env call.txn w.store with
    | none => rfl
    | some p => rfl

/-- After a match run that marks nothing the store is the same. -/
theorem runMatch_store_of_marksNothing {call : MatchCall}
    (h : MarksNothing env w (.runMatch call)) : (runMatch kind env call w).2.store = w.store := by
  rw [runMatch_store]
  cases hmatch : matchOf env call.txn w.store with
  | none => rfl
  | some p => exact markMatched_of_none (h p.1 p.2 hmatch).1 (h p.1 p.2 hmatch).2

/-- From a store in which nothing is matched a call keeps the matches one-to-one exactly when it
marks nothing. -/
theorem subledgerStep_oneToOne_iff (h : AllPending kind env w.store) (a : SubledgerAction) :
    OneToOne (subledgerStep kind env w a).store ↔ MarksNothing env w a := by
  cases a with
  | ingest txn => exact iff_of_true (ingest_allPending h txn).oneToOne trivial
  | runMatch call =>
    constructor
    · intro hone hash mirror hmatch
      by_contra hmarks
      simp only [subledgerStep, runMatch_store, hmatch, Option.elim_some] at hone
      exact not_oneToOne_markMatched h hmatch hmarks hone
    · intro hnothing
      simp only [subledgerStep, runMatch_store_of_marksNothing hnothing]
      exact h.oneToOne

theorem subledgerStep_allPending (h : AllPending kind env w.store) {a : SubledgerAction}
    (hnothing : MarksNothing env w a) : AllPending kind env (subledgerStep kind env w a).store := by
  cases a with
  | ingest txn => exact ingest_allPending h txn
  | runMatch call =>
    simp only [subledgerStep, runMatch_store_of_marksNothing hnothing]
    exact h

end OneToOne

/-- The matches are one-to-one in every state of a run, and each is made for a stored transaction
that is pending. -/
def MatchesOneToOne (kind : StoreKind) (env : SubledgerEnv) (w : PlatformWorld SubledgerTable)
    (actions : List SubledgerAction) : Prop :=
  Throughout (subledgerStep kind env) (fun w => OneToOne w.store) w actions ∧
    Along (subledgerStep kind env) (ConsumesForPending env) w actions

/-- With either store the matches of a run are one-to-one exactly when no match run ever marks a
stored transaction. -/
theorem run_matchesOneToOne_iff (kind : StoreKind) (env : SubledgerEnv) (spine : FinanceWorld)
    (actions : List SubledgerAction) :
    MatchesOneToOne kind env ⟨Table.empty, spine⟩ actions ↔
      Along (subledgerStep kind env) (MarksNothing env) ⟨Table.empty, spine⟩ actions := by
  have hempty : AllPending kind env (Table.empty : SubledgerTable) := by
    refine ⟨?_, ?_⟩
    · intro r hr
      cases hr
    · intro _ r hr
      cases hr
  have hthroughout : Throughout (subledgerStep kind env) (fun w => OneToOne w.store)
      ⟨Table.empty, spine⟩ actions ↔
      Along (subledgerStep kind env) (MarksNothing env) ⟨Table.empty, spine⟩ actions :=
    throughout_iff_along_of_kept (I := fun w => AllPending kind env w.store) hempty
      (fun _ h => h.oneToOne) (fun _ a h => subledgerStep_oneToOne_iff h a)
      (fun _ a h hnothing => subledgerStep_allPending h hnothing)
  refine ⟨fun h => hthroughout.mp h.1, fun h => ⟨hthroughout.mpr h, ?_⟩⟩
  -- a call that marks nothing consumes nothing
  have himp : ∀ w a, MarksNothing env w a → ConsumesForPending env w a := by
    intro w a hnothing
    cases a with
    | ingest txn => trivial
    | runMatch call =>
      intro hash mirror hmatch hstored
      rw [(hnothing hash mirror hmatch).2] at hstored
      cases hstored
  exact Along.imp (throughout_of_along (I := fun _ => True) trivial (fun _ _ _ _ => trivial) h)
    (fun w a _ => himp w a) h

/-! ## Two invoices -/

theorem OneToOne.checked {t : SubledgerTable} (h : OneToOne t) :
    t.rows.all (fun r => r.status ≠ .matched || t.rows.any (mutualMirrors r)) = true := by
  rw [List.all_eq_true]
  intro r hr
  by_cases hmatched : r.status = .matched
  · obtain ⟨u, ⟨hu, hmutual⟩, -⟩ := h.paired r hr hmatched
    simp only [hmatched, ne_eq, not_true_eq_false, decide_false, Bool.false_or]
    exact List.any_eq_true.mpr ⟨u, hu, hmutual⟩
  · simp [hmatched]

/-- An invoice of one hundred between two entities. -/
def sampleTxn (entityId counterpartyId : String) : TxnRequest :=
  ⟨entityId, counterpartyId, "100.00", "USD", "2026-01-31", "INV-1"⟩

/-- The text of an invoice with its amount as it is read back. -/
def sampleTxnText (entityId counterpartyId amount : String) : String :=
  Json.dumps Json.compact (.obj [
    ("entity_id", .str entityId), ("counterparty_id", .str counterpartyId),
    ("amount", .str amount), ("currency", .str "USD"), ("value_date", .str "2026-01-31"),
    ("reference", .str "inv-1")])

/-- Surroundings in which the amount of the invoices is read, with the SHA-256 digests of their
texts; the SQL store gives the amount back with twelve decimals. -/
def sampleEnv : SubledgerEnv where
  deployment := .ofDigests
    [(sampleTxnText "A" "B" "100.00",
      ⟨"770bbcf6ba1aabcf245215a9aeaa5d784cb9d255a259f92dabe29de5b17f0bbf", by decide +kernel⟩),
    (sampleTxnText "B" "A" "100.00",
      ⟨"fd0cf15e2ee83f367ab31096dddf4475350636aaa6d6448342f084363b29e0ba", by decide +kernel⟩),
    (sampleTxnText "B" "A" "100.000000000000",
      ⟨"c8ab00d2278a1acd4975029ce6906eeea4f47b7fb6e6952abe5a95537f962184", by decide +kernel⟩)]
    fun _ => "2026-01-01 00:00:00+00"
  read text := if text = "100.00" then some ⟨10000, -2⟩ else none
  normalize text := text.toLower

/-- Both invoices are ingested and the first is matched. -/
def sampleMatch : List SubledgerAction :=
  [.ingest (sampleTxn "A" "B"), .ingest (sampleTxn "B" "A"),
    .runMatch ⟨sampleTxn "A" "B",
      ⟨"836b4603e8ca08538121cc0052a08b32e21e89601aaff13aaa9c192b249fa13c", by decide +kernel⟩,
      [], []⟩]

/-- With either store an ordinary match leaves a matched transaction without a partner. -/
theorem ordinary_match_unpaired :
    ¬ MatchesOneToOne .memory sampleEnv ⟨Table.empty, sampleWorld⟩ sampleMatch ∧
    ¬ MatchesOneToOne .sql sampleEnv ⟨Table.empty, sampleWorld⟩ sampleMatch := by
  constructor
  · intro h
    have hchecked := h.1.last.checked
    revert hchecked
    decide +kernel
  · intro h
    have hchecked := h.1.last.checked
    revert hchecked
    decide +kernel

end Governor.Finance
