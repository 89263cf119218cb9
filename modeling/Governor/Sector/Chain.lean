import Mathlib
import Governor.Core.HashChain
import Governor.Sector.Refinement
import Governor.Finance.Amounts

/-!
# The chain of security events

`verify_security_chain` reads every row of `security_events`, goes on after a break with the
stored hash as the next expectation, and accepts the table exactly when its rows form one chain
from the genesis hash. Appends under the lock build such a chain, and a table with the same last
hash is accepted only when it has the same events.
-/

namespace Governor.Sector

open Finance
open Ledger (Timestamp Hash Decimal Money genesisHash decimalStr)

/-! ## Verification -/

/-- A row of `security_events` as verification reads it, whoever wrote it. -/
structure SecurityEventRow where
  eventId : Int
  operationId : String
  crystalId : Option String
  accountId : String
  eventType : String
  /-- A `NUMERIC(24, 12)`; it can be `NaN`. -/
  reserveDelta : Option Decimal
  metadata : Json
  prevHash : Option String
  rowHash : String
  /-- `recorded_at::text`. -/
  recordedAt : String

/-- The table of security events. -/
abbrev SecurityTable := Table SecurityEventRow.eventId

/-- `normalize_metadata`. -/
def normalizeMetadata (loads : String → Option Json) : Json → Json
  | .obj fields => .obj fields
  | .str s =>
    match loads s with
    | some (.obj fields) => .obj fields
    | _ => .obj []
  | _ => .obj []

namespace SecurityEventRow

/-- `row["prev_hash"] or GENESIS_HASH`. -/
def prevOrGenesis (r : SecurityEventRow) : String :=
  (r.prevHash.filter (· ≠ "")).getD genesisHash.val

/-- `quantize_money` of the stored amount. -/
def quantized (r : SecurityEventRow) : Option Money := r.reserveDelta.map quantizeMoney

/-- The text that verification hashes. -/
def payload (loads : String → Option Json) (r : SecurityEventRow) : String :=
  eventPayload r.eventId r.operationId r.crystalId r.accountId r.eventType
    (r.quantized.elim "NaN" decimalStr) (normalizeMetadata loads r.metadata) r.prevOrGenesis
    r.recordedAt

end SecurityEventRow

/-- `SecurityChainBreak`. -/
structure SecurityChainBreak where
  eventId : Int
  reason : String
  deriving DecidableEq, Repr

/-- `SecurityChainVerificationResult`. -/
structure SecurityChainVerificationResult where
  valid : Bool
  sealedCount : Int
  unsealedCount : Int
  totalEvents : Int
  headHash : Option String
  firstBreak : Option SecurityChainBreak
  incremental : Bool
  deriving DecidableEq, Repr

/-- The variables of the loop of `_verify_rows`. -/
structure SecurityScan where
  sealedCount : Int
  unsealedCount : Int
  firstBreak : Option SecurityChainBreak
  /-- The hash that the next row has to name. -/
  expected : String
  tailHead : Option String

section Verify

variable (d : Deployment) (loads : String → Option Json)

/-- The body of the loop of `_verify_rows`. -/
def verifyRow (scan : SecurityScan) (row : SecurityEventRow) : SecurityScan :=
  let linkBreak := scan.firstBreak.or
    (if row.prevOrGenesis ≠ scan.expected then some ⟨row.eventId, "prev_hash mismatch"⟩ else none)
  if row.rowHash = (d.sha256 (row.payload loads)).val then
    ⟨scan.sealedCount + 1, scan.unsealedCount, linkBreak, row.rowHash, some row.rowHash⟩
  else
    ⟨scan.sealedCount, scan.unsealedCount + 1,
      linkBreak.or (some ⟨row.eventId, "row_hash mismatch"⟩), row.rowHash, some row.rowHash⟩

/-- `_verify_rows`. -/
def verifyRows (rows : List SecurityEventRow) (expectedPrev : String) (priorSealed : Int) :
    SecurityScan :=
  rows.foldl (verifyRow d loads) {
    sealedCount := priorSealed
    unsealedCount := 0
    firstBreak := none
    expected := expectedPrev
    tailHead := if expectedPrev ≠ genesisHash.val then some expectedPrev else none }

/-- `_fetch_event_rows`. -/
def fetchEventRows (t : SecurityTable) : List SecurityEventRow :=
  orderBy SecurityEventRow.eventId t.rows

/-- `verify_security_chain(incremental=False)` on a table with the hash columns. -/
def verifySecurityChain (t : SecurityTable) : SecurityChainVerificationResult :=
  if t.rows.length = 0 then ⟨true, 0, 0, 0, none, none, false⟩
  else
    let rows := fetchEventRows t
    let scan := verifyRows d loads rows genesisHash.val 0
    { valid := scan.firstBreak.isNone && scan.unsealedCount = 0
      sealedCount := scan.sealedCount
      unsealedCount := scan.unsealedCount
      totalEvents := rows.length
      headHash := rows.getLast?.map SecurityEventRow.rowHash
      firstBreak := scan.firstBreak
      incremental := false }

/-! ## What verification accepts -/

/-- How security events are chained. -/
def securitySealing : Sealing SecurityEventRow String where
  prev := SecurityEventRow.prevOrGenesis
  hash r := some r.rowHash
  digest r := (d.sha256 (r.payload loads)).val

end Verify

section Accepts

variable {d : Deployment} {loads : String → Option Json} {rows : List SecurityEventRow}

/-- No break is forgotten, whatever the later rows are. -/
theorem verifyLoop_firstBreak {scan : SecurityScan} (h : scan.firstBreak ≠ none) :
    (rows.foldl (verifyRow d loads) scan).firstBreak ≠ none := by
  induction rows generalizing scan with
  | nil => exact h
  | cons r rs ih =>
    refine ih ?_
    obtain ⟨b, hb⟩ := Option.ne_none_iff_exists'.mp h
    unfold verifyRow
    simp only [hb, Option.some_or]
    split_ifs <;> simp

theorem verifyRow_of_linked {scan : SecurityScan} {r : SecurityEventRow}
    (h : scan.firstBreak = none) (hprev : r.prevOrGenesis = scan.expected)
    (hhash : r.rowHash = (d.sha256 (r.payload loads)).val) :
    verifyRow d loads scan r =
      ⟨scan.sealedCount + 1, scan.unsealedCount, none, r.rowHash, some r.rowHash⟩ := by
  simp [verifyRow, h, hprev, ← hhash]

/-- A scan without a break goes on without one exactly over linked rows. -/
theorem verifyLoop_iff {scan : SecurityScan} (h : scan.firstBreak = none) :
    (rows.foldl (verifyRow d loads) scan).firstBreak = none ↔
      (securitySealing d loads).Linked scan.expected rows := by
  induction rows generalizing scan with
  | nil => simpa using h
  | cons r rs ih =>
    rw [List.foldl_cons, Sealing.linked_cons]
    by_cases hprev : r.prevOrGenesis = scan.expected
    · by_cases hhash : r.rowHash = (d.sha256 (r.payload loads)).val
      · rw [verifyRow_of_linked h hprev hhash, ih rfl]
        simp [securitySealing, hprev, ← hhash]
      · have hbreak : (verifyRow d loads scan r).firstBreak ≠ none := by
          simp [verifyRow, h, hprev, hhash]
        refine iff_of_false (verifyLoop_firstBreak hbreak) fun hlinked => ?_
        exact hhash (Option.some.inj hlinked.2.1)
    · have hbreak : (verifyRow d loads scan r).firstBreak ≠ none := by
        unfold verifyRow
        simp only [h, Option.none_or, ne_eq, hprev, not_false_eq_true, ite_true]
        split_ifs <;> simp
      exact iff_of_false (verifyLoop_firstBreak hbreak) fun hlinked => hprev hlinked.1

/-- Over linked rows the scan counts every row. -/
theorem verifyLoop_counts {scan : SecurityScan} (h : scan.firstBreak = none)
    (hl : (securitySealing d loads).Linked scan.expected rows) :
    (rows.foldl (verifyRow d loads) scan).sealedCount = scan.sealedCount + rows.length ∧
      (rows.foldl (verifyRow d loads) scan).unsealedCount = scan.unsealedCount := by
  induction rows generalizing scan with
  | nil => simp
  | cons r rs ih =>
    obtain ⟨hprev, hhash, hrest⟩ := hl
    have hstored : r.rowHash = (d.sha256 (r.payload loads)).val := Option.some.inj hhash
    rw [List.foldl_cons, verifyRow_of_linked h hprev hstored]
    obtain ⟨hsealed, hunsealed⟩ := @ih ⟨scan.sealedCount + 1, scan.unsealedCount, none, r.rowHash,
      some r.rowHash⟩ rfl (hstored ▸ hrest)
    refine ⟨?_, hunsealed⟩
    rw [hsealed, List.length_cons]
    push_cast
    ring

theorem verifyRows_iff {expectedPrev : String} {priorSealed : Int} :
    (verifyRows d loads rows expectedPrev priorSealed).firstBreak = none ↔
      (securitySealing d loads).Linked expectedPrev rows :=
  verifyLoop_iff rfl

theorem verifyRows_counts {expectedPrev : String} {priorSealed : Int}
    (hl : (securitySealing d loads).Linked expectedPrev rows) :
    (verifyRows d loads rows expectedPrev priorSealed).sealedCount = priorSealed + rows.length ∧
      (verifyRows d loads rows expectedPrev priorSealed).unsealedCount = 0 :=
  verifyLoop_counts rfl hl

/-- Verification accepts exactly the tables whose rows form one chain. -/
theorem verifySecurityChain_valid_iff (t : SecurityTable) :
    (verifySecurityChain d loads t).valid = true ↔
      (securitySealing d loads).Linked genesisHash.val (fetchEventRows t) := by
  unfold verifySecurityChain
  split_ifs with hempty
  · have hnil : fetchEventRows t = [] := by
      rw [fetchEventRows, List.length_eq_zero_iff.mp hempty]
      rfl
    rw [hnil]
    simp
  · simp only [Bool.and_eq_true, Option.isNone_iff_eq_none, decide_eq_true_eq]
    rw [verifyRows_iff]
    exact and_iff_left_of_imp fun hlinked => (verifyRows_counts hlinked).2

/-- What verification returns for a table whose rows form one chain. -/
theorem verifySecurityChain_linked {t : SecurityTable}
    (hl : (securitySealing d loads).Linked genesisHash.val (fetchEventRows t)) :
    verifySecurityChain d loads t = ⟨true, t.rows.length, 0, t.rows.length,
      (fetchEventRows t).getLast?.map SecurityEventRow.rowHash, none, false⟩ := by
  have hlength : (fetchEventRows t).length = t.rows.length := List.length_insertionSort _ _
  have hcounts : (verifyRows d loads (fetchEventRows t) genesisHash.val 0).sealedCount =
      0 + (fetchEventRows t).length ∧
      (verifyRows d loads (fetchEventRows t) genesisHash.val 0).unsealedCount = 0 :=
    verifyRows_counts hl
  obtain ⟨hsealed, hunsealed⟩ := hcounts
  unfold verifySecurityChain
  split_ifs with hempty
  · have hnil : t.rows = [] := List.length_eq_zero_iff.mp hempty
    simp [fetchEventRows, hnil, orderBy]
  · simp [hsealed, hunsealed, verifyRows_iff.mpr hl, hlength]

end Accepts

/-! ## The events of a run -/

/-- A stored event as verification reads it back. -/
def storedEvent (d : Deployment) (r : DecisionEvent) : SecurityEventRow where
  eventId := r.eventId
  operationId := r.operationId
  crystalId := r.crystalId
  accountId := r.accountId
  eventType := r.eventType
  reserveDelta := some ⟨r.exposureDelta, -12⟩
  metadata := r.metadata
  prevHash := r.prevHash.map Subtype.val
  rowHash := r.rowHash.val
  recordedAt := d.timestampText r.recordedAt

/-- `security_events` as verification reads it. -/
def securityEvents (d : Deployment) (db : Database) : SecurityTable where
  rows := db.decisionEvents.rows.map (storedEvent d)
  nodup := by
    rw [List.map_map]
    exact db.decisionEvents.nodup

/-- What a transaction does next. The advisory lock is held to the end of the transaction, so
that transactions append one after another. -/
inductive ChainAction where
  /-- Call `append_security_event`. -/
  | append (e : EventDraft)
  | commit
  | rollback

/-- One step of the transaction that holds the lock. -/
def chainStep (d : Deployment) (s : FinanceSession) : ChainAction → FinanceSession
  | .append e =>
    match appendEvent d e s with
    | (.ok _, s') => s'
    | (.error _, s') => { s' with working := s'.committed }
  | .commit => { s with committed := s.working }
  | .rollback => { s with working := s.committed }

/-- The steps of any number of transactions, one after another. -/
def chainRun (d : Deployment) (w : FinanceWorld) (actions : List ChainAction) : FinanceSession :=
  actions.foldl (chainStep d) ⟨w.tables, w.tables, w.outside⟩

/-- Rows in the order of their ids, all drawn from the sequence, that form one chain. -/
structure EventLog (d : Deployment) (loads : String → Option Json) (rows : List DecisionEvent)
    (lastId : Int) : Prop where
  increasing : rows.Pairwise fun a b => a.eventId < b.eventId
  drawn : ∀ r ∈ rows, r.eventId ≤ lastId
  linked : (securitySealing d loads).Linked genesisHash.val (rows.map (storedEvent d))

section Log

variable {d : Deployment} {loads : String → Option Json} {rows : List DecisionEvent} {lastId : Int}

theorem EventLog.draw (h : EventLog d loads rows lastId) {n : Int} (hle : lastId ≤ n) :
    EventLog d loads rows n :=
  ⟨h.increasing, fun r hr => (h.drawn r hr).trans hle, h.linked⟩

/-- The head of a log is the hash at its end. -/
theorem EventLog.predecessorHash (h : EventLog d loads rows lastId)
    (hsha : ∀ p, d.sha256 p ≠ genesisHash) :
    (Finance.predecessorHash rows (lastId + 1)).val =
      (securitySealing d loads).tip genesisHash.val (rows.map (storedEvent d)) := by
  have hkept : ∀ r ∈ rows, r.rowHash ≠ genesisHash ∧ r.eventId < lastId + 1 := by
    intro r hr
    have hle := h.drawn r hr
    refine ⟨fun hgenesis => ?_, by omega⟩
    have hhash := h.linked.hash_eq _ (List.mem_map_of_mem hr)
    have hdigest : r.rowHash.val = (d.sha256 ((storedEvent d r).payload loads)).val :=
      Option.some.inj hhash
    exact hsha _ (Subtype.ext (hdigest.symm.trans (congrArg Subtype.val hgenesis)))
  have hfilter : (rows.filter fun r => decide (r.eventId < lastId + 1)).filter
      (fun r => decide (r.rowHash ≠ genesisHash)) = rows := by
    rw [List.filter_filter, List.filter_eq_self]
    intro r hr
    simp [hkept r hr]
  rw [Finance.predecessorHash, headHash, hfilter]
  cases rows using List.reverseRecOn with
  | nil => rfl
  | append_singleton rows r =>
    have hlt : ∀ x ∈ rows, x.eventId < r.eventId := fun x hx =>
      (List.pairwise_append.mp h.increasing).2.2 x hx r (by simp)
    have hhash := h.linked.hash_eq (storedEvent d r) (List.mem_map_of_mem (by simp))
    rw [lastBy_concat hlt, Option.map_some, Option.getD_some, List.map_append, List.map_singleton,
      Sealing.tip_concat]
    exact Option.some.inj hhash

/-- A hash is not read as null. -/
theorem hash_ne_empty (h : Hash) : h.val ≠ "" := by
  intro hempty
  have hlength := h.property
  rw [hempty] at hlength
  exact absurd hlength (by decide)

/-- A sealed row names the head it was sealed onto. -/
theorem sealed_prev (e : EventDraft) (rows : List DecisionEvent) (eventId : Int) :
    (storedEvent d (e.sealed d rows eventId)).prevOrGenesis =
      (Finance.predecessorHash rows eventId).val := by
  have hprev : (storedEvent d (e.sealed d rows eventId)).prevHash =
      some (Finance.predecessorHash rows eventId).val := rfl
  rw [SecurityEventRow.prevOrGenesis, hprev, Option.filter_some,
    if_pos (decide_eq_true (hash_ne_empty _)), Option.getD_some]

/-- The hash of a sealed row is the digest that verification recomputes. -/
theorem sealed_digest (e : EventDraft) (rows : List DecisionEvent) (eventId : Int) :
    (securitySealing d loads).digest (storedEvent d (e.sealed d rows eventId)) =
      (e.sealed d rows eventId).rowHash.val := by
  have hquantized : quantizeMoney ⟨e.amount, -12⟩ = e.amount := by simp [quantizeMoney]
  have hpayload : (storedEvent d (e.sealed d rows eventId)).payload loads =
      eventPayload eventId e.operationId e.crystalId e.accountId e.eventType (decimalStr e.amount)
        (.obj e.metadata) (Finance.predecessorHash rows eventId).val
        (d.timestampText e.recordedAt) := by
    rw [SecurityEventRow.payload, sealed_prev]
    exact congrArg (fun m => eventPayload eventId e.operationId e.crystalId e.accountId e.eventType
      (decimalStr m) (.obj e.metadata) (Finance.predecessorHash rows eventId).val
      (d.timestampText e.recordedAt)) hquantized
  exact congrArg (fun text => (d.sha256 text).val) hpayload

/-- A sealed row continues the log. -/
theorem EventLog.append (h : EventLog d loads rows lastId) (hsha : ∀ p, d.sha256 p ≠ genesisHash)
    (e : EventDraft) :
    EventLog d loads (rows ++ [e.sealed d rows (lastId + 1)]) (lastId + 1) := by
  have hid : (e.sealed d rows (lastId + 1)).eventId = lastId + 1 := rfl
  refine ⟨?_, ?_, ?_⟩
  · rw [List.pairwise_append]
    refine ⟨h.increasing, List.pairwise_singleton _ _, ?_⟩
    intro a ha b hb
    have hle := h.drawn a ha
    rw [List.mem_singleton.mp hb, hid]
    omega
  · intro r hr
    rcases List.mem_append.mp hr with hr | hr
    · have hle := h.drawn r hr
      omega
    · rw [List.mem_singleton.mp hr, hid]
  · rw [List.map_append, List.map_singleton, Sealing.linked_append]
    refine ⟨h.linked, ?_, ?_, trivial⟩
    · rw [← h.predecessorHash hsha]
      exact sealed_prev e rows (lastId + 1)
    · rw [sealed_digest]
      rfl

/-- What is committed and what the transaction sees are both logs. -/
structure Logged (d : Deployment) (loads : String → Option Json) (s : FinanceSession) : Prop where
  committed : EventLog d loads s.committed.decisionEvents.rows s.outside.lastEventId
  working : EventLog d loads s.working.decisionEvents.rows s.outside.lastEventId

/-- With all ids drawn from the sequence, an append adds its row. -/
theorem chainStep_append {s : FinanceSession} (hids : IdsDrawn s) (e : EventDraft) :
    Appended d e s (chainStep d s (.append e)) := by
  have happended : Tx.wp (appendEvent d e) (fun _ s' => Appended d e s s') (fun _ _ => False) s :=
    wp_appendEvent hids fun _ happended => happended
  unfold Tx.wp at happended
  split at happended
  · next heq =>
    simpa only [chainStep, heq] using happended
  · exact happended.elim

theorem Logged.step {s : FinanceSession} (h : Logged d loads s)
    (hsha : ∀ p, d.sha256 p ≠ genesisHash) (a : ChainAction) : Logged d loads (chainStep d s a) := by
  cases a with
  | append e =>
    have happended := chainStep_append (d := d) h.working.drawn e
    refine ⟨?_, ?_⟩
    · rw [happended.committed, happended.outside]
      exact h.committed.draw (by simp)
    · rw [happended.rows, happended.outside]
      exact h.working.append hsha e
  | commit => exact ⟨h.working, h.working⟩
  | rollback => exact ⟨h.committed, h.committed⟩

/-- In every state of a run from an empty table the events form one chain. -/
theorem chainRun_logged {w : FinanceWorld} (hempty : w.tables.decisionEvents.rows = [])
    (hsha : ∀ p, d.sha256 p ≠ genesisHash) (actions : List ChainAction) :
    Logged d loads (chainRun d w actions) := by
  have hlog : EventLog d loads w.tables.decisionEvents.rows w.outside.lastEventId := by
    rw [hempty]
    exact ⟨List.Pairwise.nil, by simp, trivial⟩
  exact foldl_invariant ⟨hlog, hlog⟩ (fun s a h => h.step hsha a) actions

end Log

/-! ## Tamper evidence -/

/-- The columns that the hash covers agree, as verification reads them: a null or empty
predecessor is the genesis hash. -/
structure SameEvent (loads : String → Option Json) (r r' : SecurityEventRow) : Prop where
  eventId : r.eventId = r'.eventId
  operationId : r.operationId = r'.operationId
  crystalId : r.crystalId = r'.crystalId
  accountId : r.accountId = r'.accountId
  eventType : r.eventType = r'.eventType
  reserveDelta : r.quantized = r'.quantized
  metadata : Json.Same (normalizeMetadata loads r.metadata) (normalizeMetadata loads r'.metadata)
  prevHash : r.prevOrGenesis = r'.prevOrGenesis
  recordedAt : r.recordedAt = r'.recordedAt

/-- The text of an optional string determines it. -/
theorem same_nullable {a b : Option String} :
    Json.Same (a.elim .null .str) (b.elim .null .str) ↔ a = b := by
  cases a <;> cases b <;> simp [Json.Same, Json.sortKeys]

/-- The text of an amount that can be `NaN` determines it. -/
theorem amountText_injective :
    Function.Injective fun x : Option Money => x.elim "NaN" decimalStr := by
  rintro (- | m) (- | n) h
  · rfl
  · exact absurd h.symm (Ledger.decimalStr_ne_nan n)
  · exact absurd h (Ledger.decimalStr_ne_nan m)
  · exact congrArg some (Ledger.decimalStr_injective h)

section Tamper

variable {d : Deployment} {loads : String → Option Json} {r r' : SecurityEventRow}

/-- The text that verification hashes determines every column in it. -/
theorem sameEvent_of_payload_eq (h : r.payload loads = r'.payload loads) :
    SameEvent loads r r' := by
  have hsame := (Json.dumps_eq_iff _ _ _).mp h
  have hvalue := fun k v w => hsame.value (by simp) (k := k) (v := v) (w := w)
  refine ⟨?_, ?_, ?_, ?_, ?_, ?_, ?_, ?_, ?_⟩
  · exact Json.same_int.mp
      (hvalue "event_id" (.int r.eventId) (.int r'.eventId) (by simp) (by simp))
  · exact Json.same_str.mp
      (hvalue "operation_id" (.str r.operationId) (.str r'.operationId) (by simp) (by simp))
  · exact same_nullable.mp (hvalue "crystal_id" (r.crystalId.elim .null .str)
      (r'.crystalId.elim .null .str) (by simp) (by simp))
  · exact Json.same_str.mp
      (hvalue "account_id" (.str r.accountId) (.str r'.accountId) (by simp) (by simp))
  · exact Json.same_str.mp
      (hvalue "event_type" (.str r.eventType) (.str r'.eventType) (by simp) (by simp))
  · exact amountText_injective (Json.same_str.mp
      (hvalue "reserve_delta" (.str (r.quantized.elim "NaN" decimalStr))
        (.str (r'.quantized.elim "NaN" decimalStr)) (by simp) (by simp)))
  · exact hvalue "metadata" (normalizeMetadata loads r.metadata)
      (normalizeMetadata loads r'.metadata) (by simp) (by simp)
  · exact Json.same_str.mp
      (hvalue "prev_hash" (.str r.prevOrGenesis) (.str r'.prevOrGenesis) (by simp) (by simp))
  · exact Json.same_str.mp
      (hvalue "recorded_at" (.str r.recordedAt) (.str r'.recordedAt) (by simp) (by simp))

/-- The hash of the row with the greatest id. -/
def lastHash (t : SecurityTable) : Option String :=
  (fetchEventRows t).getLast?.map SecurityEventRow.rowHash

/-- The texts that verification hashes on two tables. -/
def hashedTexts (loads : String → Option Json) (t t' : SecurityTable) : Set String :=
  { text | ∃ r ∈ t.rows ++ t'.rows, text = r.payload loads }

/-- A chain ends with the hash of its last row. -/
theorem tip_of_getLast {rows : List SecurityEventRow} {g h : String}
    (hl : (securitySealing d loads).Linked g rows)
    (hlast : rows.getLast?.map SecurityEventRow.rowHash = some h) :
    (securitySealing d loads).tip g rows = h := by
  cases rows using List.reverseRecOn with
  | nil => cases hlast
  | append_singleton rows r =>
    rw [List.getLast?_concat, Option.map_some] at hlast
    rw [Sealing.tip_concat, ← Option.some.inj hlast]
    exact (Option.some.inj (hl.hash_eq r (by simp))).symm

/-- Two accepted tables with one last hash hold the same events. -/
theorem sameEvents_of_lastHash_eq {t t' : SecurityTable} {h : String}
    (hinj : Set.InjOn d.sha256 (hashedTexts loads t t')) (hsha : ∀ p, d.sha256 p ≠ genesisHash)
    (hvalid : (verifySecurityChain d loads t).valid = true)
    (hvalid' : (verifySecurityChain d loads t').valid = true)
    (hlast : lastHash t = some h) (hlast' : lastHash t' = some h) :
    List.Forall₂ (SameEvent loads) (fetchEventRows t) (fetchEventRows t') := by
  have hl := (verifySecurityChain_valid_iff t).mp hvalid
  have hl' := (verifySecurityChain_valid_iff t').mp hvalid'
  have htip := (tip_of_getLast hl hlast).trans (tip_of_getLast hl' hlast').symm
  have hdigest : ∀ x ∈ fetchEventRows t, ∀ y ∈ fetchEventRows t',
      (securitySealing d loads).digest x = (securitySealing d loads).digest y →
        SameEvent loads x y ∧
          (securitySealing d loads).prev x = (securitySealing d loads).prev y := by
    intro x hx y hy he
    have hmem : x.payload loads ∈ hashedTexts loads t t' :=
      ⟨x, List.mem_append_left _ ((List.mem_insertionSort _).mp hx), rfl⟩
    have hmem' : y.payload loads ∈ hashedTexts loads t t' :=
      ⟨y, List.mem_append_right _ ((List.mem_insertionSort _).mp hy), rfl⟩
    have hsame := sameEvent_of_payload_eq (hinj hmem hmem' (Subtype.ext he))
    exact ⟨hsame, hsame.prevHash⟩
  have hgenesis : ∀ r, (securitySealing d loads).digest r ≠ genesisHash.val :=
    fun r he => hsha _ (Subtype.ext he)
  exact (securitySealing d loads).forall₂_of_tip_eq hl hl' htip hdigest (fun x _ => hgenesis x)
    fun y _ => hgenesis y

end Tamper

/-! ## One event -/

/-- A commit that the mesh blocked. -/
def meshBlock : EventDraft where
  operationId := "flow-1"
  crystalId := none
  accountId := "tenant-default"
  eventType := "MESH_BLOCK"
  reserveDelta := ⟨0, 0⟩
  metadata := []
  recordedAt := sampleStart

/-- The text of the event with a given amount. -/
def meshBlockPayload (amount : String) : String :=
  eventPayload 1 "flow-1" none "tenant-default" "MESH_BLOCK" amount (.obj []) genesisHash.val
    "2026-01-01 00:00:00+00"

/-- The texts of the event and of an edit of it, with their SHA-256 digests. -/
def blockDigests : List (String × Hash) :=
  [(meshBlockPayload "0E-12",
      ⟨"4ad03cb63545013468c6a647277e6811916c0f12c0cdfdf43e302327ac3b5753", by decide +kernel⟩),
    (meshBlockPayload "1.000000000000",
      ⟨"776a5c2f963a6910d83213f93c4db8b74b7a39763a2c5f43cdf1bb4050c967f9", by decide +kernel⟩)]

def blockDeployment : Deployment :=
  .ofDigests blockDigests fun _ => "2026-01-01 00:00:00+00"

/-- No string is JSON. -/
def loadsNothing (_ : String) : Option Json := none

/-- The event is appended and committed. -/
def blockedEvents : SecurityTable :=
  securityEvents blockDeployment
    (chainRun blockDeployment sampleWorld [.append meshBlock, .commit]).committed

/-- The event's amount is edited. -/
def editedEvents : SecurityTable :=
  blockedEvents.update 1 fun r => { r with reserveDelta := some ⟨1, 0⟩ }

/-- The event's predecessor is edited to the empty string. -/
def emptiedEvents : SecurityTable :=
  blockedEvents.update 1 fun r => { r with prevHash := some "" }

theorem blockDeployment_ne_genesis (p : String) : blockDeployment.sha256 p ≠ genesisHash := by
  intro h
  have hmem := Deployment.ofDigests_mem h (by decide +kernel)
  have hgenesis : genesisHash ∈ blockDigests.map Prod.snd := List.mem_map_of_mem hmem
  exact absurd hgenesis (by decide +kernel)

end Governor.Sector
