import Mathlib
import Governor.Ledger.Seal

/-!
# Verifying the chain of ledger events

`_verify_ledger_rows` scans the events in the order of their ids, from the start or
from an anchor row, and stops at the first row that does not continue the chain.
`verify_ledger_chain` puts the scan behind a checkpoint. The scan is characterised by
the chain of the rows that it reads: it accepts exactly the linked ones, and then its
counters and its head are those of the chain.
-/

namespace Governor.Chain

open Ledger

/-- The table of ledger events. -/
abbrev EventTable := Table LedgerEvent.eventId

/-- `LedgerChainBreak`. -/
structure LedgerChainBreak where
  eventId : Int
  reason : String
  deriving DecidableEq, Repr

/-- `_LedgerVerifyState`. -/
structure LedgerVerifyState where
  valid : Bool
  sealedCount : Int
  unsealedCount : Int
  headHash : Option Hash
  firstBreak : Option LedgerChainBreak
  lastEventId : Int
  deriving DecidableEq, Repr

/-- `LedgerChainVerificationResult`. -/
structure LedgerChainVerificationResult where
  valid : Bool
  sealedCount : Int
  unsealedCount : Int
  totalEvents : Int
  headHash : Option Hash
  firstBreak : Option LedgerChainBreak
  incremental : Bool
  deriving DecidableEq, Repr

/-- `VerifyCheckpoint`. -/
structure VerifyCheckpoint where
  lastVerifiedEventId : Int
  verifiedHeadHash : Hash
  sealedCount : Int
  totalEvents : Int
  deriving DecidableEq, Repr

/-! ## The scan -/

/-- The variables of the loop of `_verify_ledger_rows`. -/
structure Scan where
  sealedCount : Int
  unsealedCount : Int
  /-- The hash the next sealed row has to name; null after an unsealed anchor. -/
  lastSealedHash : Option Hash
  head : Option Hash
  firstBreak : Option LedgerChainBreak
  lastEventId : Int

/-- The loop of `_verify_ledger_rows`. -/
def verifyLoop (d : Deployment) : Scan → List LedgerEvent → Scan
  | scan, [] => scan
  | scan, row :: rows =>
    match row.rowHash with
    | none => verifyLoop d { scan with
        lastEventId := row.eventId
        unsealedCount := scan.unsealedCount + 1 } rows
    | some rowHash =>
      if some row.prevOrGenesis ≠ scan.lastSealedHash then
        { scan with
          lastEventId := row.eventId
          firstBreak := some ⟨row.eventId,
            "prev_hash mismatch at event_id=" ++ toString row.eventId⟩ }
      else if rowHash ≠ computeRowHash d row.eventId row.idempotencyKey row.userId row.eventType
          (decimalStr row.amountDelta) (normalizeMetadata d row.metadata)
          (d.timestampText row.recordedAt) row.prevOrGenesis then
        { scan with
          lastEventId := row.eventId
          firstBreak := some ⟨row.eventId,
            "row_hash mismatch at event_id=" ++ toString row.eventId⟩ }
      else verifyLoop d { scan with
        lastEventId := row.eventId
        sealedCount := scan.sealedCount + 1
        lastSealedHash := some rowHash
        head := some rowHash } rows

/-- The state that the scan returns. -/
def Scan.state (scan : Scan) : LedgerVerifyState where
  valid := scan.firstBreak.isNone && scan.unsealedCount = 0
  sealedCount := scan.sealedCount
  unsealedCount := scan.unsealedCount
  headHash := scan.head
  firstBreak := scan.firstBreak
  lastEventId := scan.lastEventId

/-- The scan of rows that follow a given hash. -/
def scanFrom (d : Deployment) (fromEventId priorSealed : Int) (lastSealedHash : Option Hash)
    (rows : List LedgerEvent) : LedgerVerifyState :=
  (verifyLoop d {
    sealedCount := priorSealed
    unsealedCount := 0
    lastSealedHash := lastSealedHash
    head := if lastSealedHash = some genesisHash then none else lastSealedHash
    firstBreak := none
    lastEventId := fromEventId } rows).state

/-- `WHERE event_id > … ORDER BY event_id ASC`. -/
def rowsAfter (t : EventTable) (eventId : Int) : List LedgerEvent :=
  orderBy LedgerEvent.eventId (t.rows.filter fun r => eventId < r.eventId)

/-- `_verify_ledger_rows`: from an anchor row when there is one, else from the start. -/
def verifyLedgerRows (d : Deployment) (t : EventTable) (fromEventId priorSealed : Int) :
    LedgerVerifyState :=
  if 0 < fromEventId then
    match t.find? fromEventId with
    | none => scanFrom d 0 0 (some genesisHash) (orderBy LedgerEvent.eventId t.rows)
    | some anchor =>
      if (rowsAfter t fromEventId).isEmpty then
        { valid := true
          sealedCount := priorSealed
          unsealedCount := 0
          headHash := anchor.rowHash
          firstBreak := none
          lastEventId := fromEventId }
      else scanFrom d fromEventId priorSealed anchor.rowHash (rowsAfter t fromEventId)
  else scanFrom d fromEventId priorSealed (some genesisHash)
    (orderBy LedgerEvent.eventId t.rows)

/-! ## Checkpointed verification -/

/-- `head_hash`. -/
def headHash (t : EventTable) : Option Hash :=
  (lastBy LedgerEvent.eventId (t.rows.filter fun r => r.rowHash ≠ none ∧
    r.rowHash ≠ some genesisHash)).bind LedgerEvent.rowHash

/-- Whether the stored checkpoint answers for the whole table. -/
def checkpointHit (t : EventTable) (checkpoint : VerifyCheckpoint) (currentHead : Hash) : Bool :=
  checkpoint.verifiedHeadHash = currentHead && t.rows.length = checkpoint.totalEvents &&
    checkpoint.sealedCount = t.rows.length

/-- The checkpoint that a valid scan saves. -/
def LedgerVerifyState.checkpoint (s : LedgerVerifyState) (head : Hash) (totalEvents : Int) :
    VerifyCheckpoint := ⟨s.lastEventId, head, s.sealedCount, totalEvents⟩

/-- The full scan at the end of `verify_ledger_chain`. -/
def verifyFull (d : Deployment) (t : EventTable) (save : Bool) :
    LedgerChainVerificationResult × Option VerifyCheckpoint :=
  let full := verifyLedgerRows d t 0 0
  (⟨full.valid, full.sealedCount, full.unsealedCount, t.rows.length, full.headHash,
      full.firstBreak, false⟩,
    if full.valid && save && full.unsealedCount = 0 then
      full.headHash.map fun head => full.checkpoint head t.rows.length
    else none)

/-- The incremental path of `verify_ledger_chain`, when it returns. -/
def verifyIncremental (d : Deployment) (t : EventTable) (checkpoint : VerifyCheckpoint)
    (currentHead : Hash) : Option (LedgerChainVerificationResult × Option VerifyCheckpoint) :=
  if checkpointHit t checkpoint currentHead then
    some (⟨true, checkpoint.sealedCount, 0, t.rows.length, some currentHead, none, true⟩, none)
  else
    let tail := verifyLedgerRows d t checkpoint.lastVerifiedEventId checkpoint.sealedCount
    if tail.valid && tail.unsealedCount = 0 then
      tail.headHash.map fun head =>
        (⟨true, tail.sealedCount, tail.unsealedCount, t.rows.length, some head, none, true⟩,
          some (tail.checkpoint head t.rows.length))
    else none

/-- What the verification asks the database about its tables. -/
structure ChainSchema where
  /-- `schema_supports_ledger_seal`. -/
  supportsSeal : Bool
  /-- `schema_supports_checkpoints`. -/
  supportsCheckpoints : Bool

/-- The result when `ledger_events` has no hash columns. -/
def sealSchemaUnavailable : LedgerChainVerificationResult :=
  ⟨false, 0, 0, 0, none, some ⟨0, "seal_schema_unavailable"⟩, false⟩

/-- `verify_ledger_chain` on one snapshot of the table and the stored checkpoint: the
result, and the checkpoint that it saves, if it saves one. -/
def verifyLedgerChain (d : Deployment) (schema : ChainSchema) (t : EventTable)
    (checkpoint : Option VerifyCheckpoint) (incremental : Bool) :
    LedgerChainVerificationResult × Option VerifyCheckpoint :=
  if !schema.supportsSeal then (sealSchemaUnavailable, none)
  else if t.rows.isEmpty then (⟨true, 0, 0, 0, none, none, false⟩, none)
  else if incremental && schema.supportsCheckpoints then
    (checkpoint.bind fun c => (headHash t).bind (verifyIncremental d t c)).getD
      (verifyFull d t true)
  else verifyFull d t false

/-! ## What the scan accepts -/

variable {d : Deployment} {h : Hash} {rows : List LedgerEvent}

/-- The hash that the scan recomputes is the digest of the row. -/
theorem expectedHash_eq (d : Deployment) (r : LedgerEvent) :
    computeRowHash d r.eventId r.idempotencyKey r.userId r.eventType (decimalStr r.amountDelta)
      (normalizeMetadata d r.metadata) (d.timestampText r.recordedAt) r.prevOrGenesis =
        (ledgerSealing d).digest r := rfl

/-- The id of the last row read, or the one before the scan. -/
def lastIdOr (fromEventId : Int) (rows : List LedgerEvent) : Int :=
  (rows.getLast?.map LedgerEvent.eventId).getD fromEventId

theorem lastIdOr_cons (fromEventId : Int) (r : LedgerEvent) (rows : List LedgerEvent) :
    lastIdOr fromEventId (r :: rows) = lastIdOr r.eventId rows := by
  cases rows with
  | nil => rfl
  | cons x xs =>
    obtain ⟨y, hy⟩ := Option.isSome_iff_exists.mp (List.getLast?_isSome.mpr (List.cons_ne_nil x xs))
    rw [lastIdOr, lastIdOr, List.getLast?_cons_cons, hy, Option.map_some, Option.getD_some,
      Option.getD_some]

/-- Over linked rows the scan counts every row and ends at the tip of the chain. -/
theorem verifyLoop_linked {scan : Scan} (hscan : scan.lastSealedHash = some h)
    (hl : (ledgerSealing d).Linked h rows) :
    verifyLoop d scan rows = { scan with
      sealedCount := scan.sealedCount + rows.length
      lastSealedHash := some ((ledgerSealing d).tip h rows)
      head := if rows = [] then scan.head else some ((ledgerSealing d).tip h rows)
      lastEventId := lastIdOr scan.lastEventId rows } := by
  induction rows generalizing h scan with
  | nil =>
    cases scan
    subst hscan
    simp [verifyLoop, lastIdOr]
  | cons r rs ih =>
    obtain ⟨hprev, hhash, hrest⟩ := hl
    have hhash' : r.rowHash = some ((ledgerSealing d).digest r) := hhash
    have hprev' : r.prevOrGenesis = h := hprev
    rw [verifyLoop, hhash']
    simp only [hprev', hscan, ne_eq, not_true_eq_false, ite_false]
    rw [← hprev', expectedHash_eq, if_neg (not_not.mpr rfl), ih rfl hrest, lastIdOr_cons]
    cases rs with
    | nil => simp
    | cons x xs =>
      simp only [List.length_cons, Sealing.tip_cons, reduceCtorEq, ite_false, Nat.cast_add,
        Nat.cast_one]
      congr 1
      ring

/-- A scan that already skipped an unsealed row or stopped cannot become valid. -/
theorem unsealedCount_le (d : Deployment) (scan : Scan) (rows : List LedgerEvent) :
    scan.unsealedCount ≤ (verifyLoop d scan rows).unsealedCount := by
  induction rows generalizing scan with
  | nil => exact le_refl _
  | cons r rs ih =>
    rw [verifyLoop]
    split
    · have hle := ih { scan with
        lastEventId := r.eventId, unsealedCount := scan.unsealedCount + 1 }
      simp only at hle
      omega
    · split_ifs
      · exact le_refl _
      · exact le_refl _
      · exact ih _

/-- Only linked rows are accepted. -/
theorem linked_of_valid {scan : Scan} (hscan : scan.lastSealedHash = some h)
    (hcount : scan.unsealedCount = 0) (hv : (verifyLoop d scan rows).state.valid = true) :
    (ledgerSealing d).Linked h rows := by
  induction rows generalizing h scan with
  | nil => trivial
  | cons r rs ih =>
    rw [verifyLoop] at hv
    split at hv
    · -- an unsealed row is counted and never forgotten
      have hle := unsealedCount_le d { scan with
        lastEventId := r.eventId, unsealedCount := scan.unsealedCount + 1 } rs
      simp only [Scan.state, Bool.and_eq_true, decide_eq_true_eq] at hv hle
      omega
    · next rowHash hhash =>
      split_ifs at hv with hprev hexpected
      · simp [Scan.state] at hv
      · simp [Scan.state] at hv
      · rw [expectedHash_eq, not_not] at hexpected
        rw [not_not, hscan] at hprev
        subst hexpected
        refine ⟨Option.some.inj hprev, hhash, ih ?_ ?_ hv⟩
        · rfl
        · exact hcount

/-- After an unsealed anchor no row is accepted. -/
theorem eq_nil_of_valid {scan : Scan} (hscan : scan.lastSealedHash = none)
    (hcount : scan.unsealedCount = 0) (hv : (verifyLoop d scan rows).state.valid = true) :
    rows = [] := by
  cases rows with
  | nil => rfl
  | cons r rs =>
    rw [verifyLoop] at hv
    split at hv
    · have hle := unsealedCount_le d { scan with
        lastEventId := r.eventId, unsealedCount := scan.unsealedCount + 1 } rs
      simp only [Scan.state, Bool.and_eq_true, decide_eq_true_eq] at hv hle
      omega
    · rw [if_pos (by simp [hscan])] at hv
      simp [Scan.state] at hv

/-- The state after a scan of linked rows. -/
def linkedState (d : Deployment) (fromEventId priorSealed : Int) (h : Hash)
    (rows : List LedgerEvent) : LedgerVerifyState where
  valid := true
  sealedCount := priorSealed + rows.length
  unsealedCount := 0
  headHash := if rows = [] then (if h = genesisHash then none else some h)
    else some ((ledgerSealing d).tip h rows)
  firstBreak := none
  lastEventId := lastIdOr fromEventId rows

/-- From the genesis hash, the head is the hash of the last row. -/
theorem headHash_linkedState {fromEventId priorSealed : Int}
    (hl : (ledgerSealing d).Linked genesisHash rows) :
    (linkedState d fromEventId priorSealed genesisHash rows).headHash =
      rows.getLast?.bind LedgerEvent.rowHash := by
  cases rows using List.reverseRecOn with
  | nil => rfl
  | append_singleton rows r =>
    have hhash := hl.hash_eq r (by simp)
    rw [List.getLast?_concat, Option.bind_some, linkedState]
    simp only [List.append_eq_nil_iff, reduceCtorEq, and_false, ite_false, Sealing.tip_concat]
    exact hhash.symm

theorem scanFrom_linked {fromEventId priorSealed : Int} (hl : (ledgerSealing d).Linked h rows) :
    scanFrom d fromEventId priorSealed (some h) rows =
      linkedState d fromEventId priorSealed h rows := by
  rw [scanFrom, verifyLoop_linked rfl hl]
  simp [Scan.state, linkedState]

/-- A scan that starts from a hash is valid exactly on the rows linked to that hash. -/
theorem scanFrom_valid_iff {fromEventId priorSealed : Int} :
    (scanFrom d fromEventId priorSealed (some h) rows).valid = true ↔
      (ledgerSealing d).Linked h rows := by
  constructor
  · intro hv
    exact linked_of_valid rfl rfl hv
  · intro hl
    rw [scanFrom_linked hl]
    rfl

theorem scanFrom_none_valid {fromEventId priorSealed : Int}
    (hv : (scanFrom d fromEventId priorSealed none rows).valid = true) : rows = [] :=
  eq_nil_of_valid rfl rfl hv

/-- The full scan is valid exactly on the tables linked from the genesis hash. -/
theorem verifyLedgerRows_valid_iff (t : EventTable) :
    (verifyLedgerRows d t 0 0).valid = true ↔
      (ledgerSealing d).Linked genesisHash (orderBy LedgerEvent.eventId t.rows) := by
  rw [verifyLedgerRows, if_neg (lt_irrefl 0)]
  exact scanFrom_valid_iff

theorem verifyLedgerRows_linked {t : EventTable}
    (hl : (ledgerSealing d).Linked genesisHash (orderBy LedgerEvent.eventId t.rows)) :
    verifyLedgerRows d t 0 0 =
      linkedState d 0 0 genesisHash (orderBy LedgerEvent.eventId t.rows) := by
  rw [verifyLedgerRows, if_neg (lt_irrefl 0)]
  exact scanFrom_linked hl

/-! ## What the scan from an anchor accepts -/

section Anchor

variable {t : EventTable} {fromEventId priorSealed : Int} {anchor : LedgerEvent}

/-- Without its anchor row the scan starts over. -/
theorem verifyLedgerRows_missing (hpos : 0 < fromEventId) (hfind : t.find? fromEventId = none) :
    verifyLedgerRows d t fromEventId priorSealed = verifyLedgerRows d t 0 0 := by
  rw [verifyLedgerRows, if_pos hpos, hfind, verifyLedgerRows, if_neg (lt_irrefl 0)]

/-- The state after a scan of rows linked from the anchor's hash. -/
def anchoredState (d : Deployment) (fromEventId priorSealed : Int) (h : Hash)
    (rows : List LedgerEvent) : LedgerVerifyState where
  valid := true
  sealedCount := priorSealed + rows.length
  unsealedCount := 0
  headHash := some ((ledgerSealing d).tip h rows)
  firstBreak := none
  lastEventId := lastIdOr fromEventId rows

theorem verifyLedgerRows_anchored (hpos : 0 < fromEventId) (hfind : t.find? fromEventId = some anchor)
    (hhash : anchor.rowHash = some h)
    (hl : (ledgerSealing d).Linked h (rowsAfter t fromEventId)) :
    verifyLedgerRows d t fromEventId priorSealed =
      anchoredState d fromEventId priorSealed h (rowsAfter t fromEventId) := by
  rw [verifyLedgerRows, if_pos hpos, hfind]
  simp only [hhash, scanFrom_linked hl]
  cases rowsAfter t fromEventId with
  | nil => simp [anchoredState, lastIdOr]
  | cons r rs => simp [anchoredState, linkedState]

/-- Only rows linked from a hash that the anchor carries are accepted with a head. -/
theorem linked_of_anchored_valid (hpos : 0 < fromEventId)
    (hfind : t.find? fromEventId = some anchor)
    (hvalid : (verifyLedgerRows d t fromEventId priorSealed).valid = true)
    (hhead : (verifyLedgerRows d t fromEventId priorSealed).headHash ≠ none) :
    ∃ g, anchor.rowHash = some g ∧ (ledgerSealing d).Linked g (rowsAfter t fromEventId) := by
  rw [verifyLedgerRows, if_pos hpos, hfind] at hvalid hhead
  simp only at hvalid hhead
  split_ifs at hvalid hhead with hempty
  · obtain ⟨g, hg⟩ := Option.ne_none_iff_exists'.mp hhead
    rw [List.isEmpty_iff.mp hempty]
    exact ⟨g, hg, trivial⟩
  · cases hhash : anchor.rowHash with
    | none =>
      rw [hhash] at hvalid
      exact absurd (scanFrom_none_valid hvalid) (by simpa using hempty)
    | some g =>
      rw [hhash] at hvalid
      exact ⟨g, rfl, scanFrom_valid_iff.mp hvalid⟩

end Anchor

end Governor.Chain
