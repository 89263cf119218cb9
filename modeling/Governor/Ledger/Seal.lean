import Mathlib
import Governor.Core.HashChain
import Governor.Ledger.Schema

/-!
# Sealed ledger events

`append_sealed_ledger_event` inserts a row with the next id of the sequence, reads
back the latest row of the operation and seals it onto the row with the greatest
smaller id that carries a hash. Each statement is a function on rows, so that the
same statements also run interleaved. The specification of the whole append says
that one sealed row is added at the end.
-/

namespace Governor.Ledger

/-! ## Hashing a row -/

/-- `normalize_metadata`: the stored value as a dict. -/
def normalizeMetadata (d : Deployment) : Json → Json
  | .null => .obj []
  | .obj fields => .obj fields
  | .str s =>
    match d.loads s with
    | some (.obj fields) => .obj fields
    | _ => .obj []
  | _ => .obj []

/-- The text that `compute_row_hash` hashes. -/
def rowPayload (eventId : Int) (idempotencyKey userId eventType amountDelta : String)
    (metadata : Json) (recordedAt : String) (prevHash : Hash) : String :=
  Json.dumps Json.compact (.obj [
    ("event_id", .int eventId),
    ("idempotency_key", .str idempotencyKey),
    ("user_id", .str userId),
    ("event_type", .str eventType),
    ("amount_delta", .str amountDelta),
    ("metadata", metadata),
    ("recorded_at", .str recordedAt),
    ("prev_hash", .str prevHash.val)])

/-- `compute_row_hash`. -/
def computeRowHash (d : Deployment) (eventId : Int)
    (idempotencyKey userId eventType amountDelta : String) (metadata : Json)
    (recordedAt : String) (prevHash : Hash) : Hash :=
  d.sha256 (rowPayload eventId idempotencyKey userId eventType amountDelta
    (normalizeMetadata d metadata) recordedAt prevHash)

/-- `row["prev_hash"] or GENESIS_HASH`. -/
def LedgerEvent.prevOrGenesis (r : LedgerEvent) : Hash := r.prevHash.getD genesisHash

/-- The payload of a stored row, with the columns read as verification reads them. -/
def LedgerEvent.payload (d : Deployment) (r : LedgerEvent) : String :=
  rowPayload r.eventId r.idempotencyKey r.userId r.eventType (decimalStr r.amountDelta)
    (normalizeMetadata d (normalizeMetadata d r.metadata)) (d.timestampText r.recordedAt)
    r.prevOrGenesis

/-- How ledger events are chained. -/
def ledgerSealing (d : Deployment) : Sealing LedgerEvent Hash where
  prev := LedgerEvent.prevOrGenesis
  hash := LedgerEvent.rowHash
  digest r := d.sha256 (r.payload d)

theorem ledgerSealing_digest (d : Deployment) (r : LedgerEvent) :
    (ledgerSealing d).digest r = d.sha256 (r.payload d) := rfl

theorem normalizeMetadata_isObj (d : Deployment) (m : Json) :
    ∃ fields, normalizeMetadata d m = .obj fields := by
  cases m with
  | str s =>
    rw [normalizeMetadata]
    split
    · exact ⟨_, rfl⟩
    · exact ⟨_, rfl⟩
  | obj fields => exact ⟨fields, rfl⟩
  | _ => exact ⟨[], rfl⟩

/-- Normalizing twice, as verification does, is normalizing once. -/
@[simp] theorem normalizeMetadata_idem (d : Deployment) (m : Json) :
    normalizeMetadata d (normalizeMetadata d m) = normalizeMetadata d m := by
  obtain ⟨fields, h⟩ := normalizeMetadata_isObj d m
  rw [h, normalizeMetadata]

/-! ## The statements of one append -/

/-- The arguments of `append_sealed_ledger_event` and the transaction's timestamp. -/
structure EventDraft where
  idempotencyKey : String
  userId : String
  eventType : String
  amountDelta : Money
  metadata : List (String × Json)
  recordedAt : Timestamp

/-- The row that `INSERT` stores, its hash columns still null. -/
def EventDraft.row (e : EventDraft) (eventId : Int) : LedgerEvent where
  eventId := eventId
  idempotencyKey := e.idempotencyKey
  userId := e.userId
  eventType := e.eventType
  amountDelta := e.amountDelta
  metadata := .obj e.metadata
  recordedAt := e.recordedAt
  prevHash := none
  rowHash := none

/-- `SELECT … WHERE idempotency_key = … ORDER BY event_id DESC LIMIT 1`. -/
def latestEvent (rows : List LedgerEvent) (idempotencyKey : String) : Option LedgerEvent :=
  lastBy LedgerEvent.eventId (rows.filter fun r => r.idempotencyKey = idempotencyKey)

/-- The metadata that `_seal_last_event` hashes: what the database returns, when it is
a dict that is not empty. -/
def sealMetadata (d : Deployment) (passed : List (String × Json)) : Json → Json
  | .obj [] => .obj passed
  | .obj (f :: fields) => .obj (f :: fields)
  | .str s =>
    if s = "" then .obj passed
    else match d.loads s with
      | some (.obj fields) => .obj fields
      | _ => .obj passed
  | _ => .obj passed

/-- The hash of the sealed row with the greatest smaller id, or the genesis hash. -/
def predecessorHash (rows : List LedgerEvent) (eventId : Int) : Hash :=
  ((lastBy LedgerEvent.eventId (rows.filter fun r => r.rowHash ≠ none ∧
    r.rowHash ≠ some genesisHash ∧ r.eventId < eventId)).bind LedgerEvent.rowHash).getD genesisHash

/-- The hash `seal_ledger_event` computes for a row read back from the database. -/
def sealHash (d : Deployment) (e : EventDraft) (row : LedgerEvent) (prevHash : Hash) : Hash :=
  computeRowHash d row.eventId e.idempotencyKey e.userId e.eventType
    (decimalStr row.amountDelta) (sealMetadata d e.metadata row.metadata)
    (d.timestampText row.recordedAt) prevHash

/-- `UPDATE ledger_events SET prev_hash = …, row_hash = …` on one row. -/
def LedgerEvent.seal (r : LedgerEvent) (prevHash rowHash : Hash) : LedgerEvent :=
  { r with prevHash := some prevHash, rowHash := some rowHash }

/-! ## The append -/

/-- `seal_ledger_event`. -/
def sealLedgerEvent (d : Deployment) (e : EventDraft) (row : LedgerEvent) : LedgerTx Unit := do
  let db ← Tx.read
  let prevHash := predecessorHash db.ledgerEvents.rows row.eventId
  Tx.write fun db => { db with
    ledgerEvents := db.ledgerEvents.update row.eventId
      fun r => r.seal prevHash (sealHash d e row prevHash) }

/-- `_seal_last_event`. -/
def sealLastEvent (d : Deployment) (e : EventDraft) : LedgerTx Unit := do
  let db ← Tx.read
  match latestEvent db.ledgerEvents.rows e.idempotencyKey with
  | none => pure ()
  | some row => sealLedgerEvent d e row

/-- `append_sealed_ledger_event`. The advisory lock makes the append one step here. -/
def appendSealedLedgerEvent (d : Deployment) (e : EventDraft) : LedgerTx Unit := do
  let eventId ← Tx.external fun o =>
    (o.lastEventId + 1, { o with lastEventId := o.lastEventId + 1 })
  let db ← Tx.read
  match db.ledgerEvents.insert? (e.row eventId) with
  | none => Tx.raise (.integrityError "ledger_events_pkey")
  | some t => do
    Tx.write fun db => { db with ledgerEvents := t }
    sealLastEvent d e

/-! ## The row an append adds -/

/-- The sealed row that an append adds after the given rows. -/
def EventDraft.sealed (d : Deployment) (e : EventDraft) (rows : List LedgerEvent)
    (eventId : Int) : LedgerEvent :=
  (e.row eventId).seal (predecessorHash rows eventId)
    (sealHash d e (e.row eventId) (predecessorHash rows eventId))

theorem sealMetadata_stored (d : Deployment) (fields : List (String × Json)) :
    sealMetadata d fields (.obj fields) = .obj fields := by
  cases fields <;> rfl

/-- The hash computed for an inserted row is the digest of the row once sealed. -/
theorem sealHash_eq_digest (d : Deployment) (e : EventDraft) (eventId : Int)
    (prevHash rowHash : Hash) : sealHash d e (e.row eventId) prevHash =
      (ledgerSealing d).digest ((e.row eventId).seal prevHash rowHash) := by
  simp only [ledgerSealing, LedgerEvent.seal, sealHash, EventDraft.row, sealMetadata_stored,
    computeRowHash, LedgerEvent.payload, LedgerEvent.prevOrGenesis, normalizeMetadata_idem,
    Option.getD_some]

/-- The added row carries the digest of its own contents. -/
theorem EventDraft.sealed_hash (d : Deployment) (e : EventDraft) (rows : List LedgerEvent)
    (eventId : Int) : (ledgerSealing d).hash (e.sealed d rows eventId) =
      some ((ledgerSealing d).digest (e.sealed d rows eventId)) :=
  congrArg some (sealHash_eq_digest d e eventId _ _)

theorem EventDraft.sealed_prev (d : Deployment) (e : EventDraft) (rows : List LedgerEvent)
    (eventId : Int) :
    (ledgerSealing d).prev (e.sealed d rows eventId) = predecessorHash rows eventId := rfl

/-- Among rows with smaller ids the row just inserted is the latest of its operation. -/
theorem latestEvent_append {rows : List LedgerEvent} {row : LedgerEvent}
    (h : ∀ r ∈ rows, r.eventId < row.eventId) :
    latestEvent (rows ++ [row]) row.idempotencyKey = some row := by
  rw [latestEvent, List.filter_append, List.filter_cons_of_pos (by simp), List.filter_nil]
  exact lastBy_concat fun r hr => h r (List.mem_filter.mp hr).1

/-- An unsealed row is nobody's predecessor. -/
theorem predecessorHash_append_unsealed (rows : List LedgerEvent) {row : LedgerEvent}
    (h : row.rowHash = none) (eventId : Int) :
    predecessorHash (rows ++ [row]) eventId = predecessorHash rows eventId := by
  rw [predecessorHash, predecessorHash, List.filter_append,
    List.filter_cons_of_neg (by simp [h]), List.filter_nil, List.append_nil]

/-- Updating by the id of the last row touches that row only. -/
theorem map_update_last {rows : List LedgerEvent} {row : LedgerEvent} (f : LedgerEvent → LedgerEvent)
    (h : ∀ r ∈ rows, r.eventId < row.eventId) :
    ((rows ++ [row]).map fun r => if r.eventId = row.eventId then f r else r) =
      rows ++ [f row] := by
  rw [List.map_append, List.map_singleton]
  simp only [ite_true]
  congr 1
  conv_rhs => rw [← List.map_id rows]
  apply List.map_congr_left
  intro r hr
  have hne : r.eventId ≠ row.eventId := by
    have := h r hr
    omega
  simp only [hne, ite_false, id]

/-- Every stored id has been drawn from the sequence. -/
def IdsDrawn (s : Session Database Outside) : Prop :=
  ∀ r ∈ s.working.ledgerEvents.rows, r.eventId ≤ s.outside.lastEventId

/-- The session after one append: one sealed row more, and one id drawn. -/
structure Appended (d : Deployment) (e : EventDraft) (s s' : Session Database Outside) : Prop where
  /-- The row is added after the rows that were there. -/
  rows : s'.working.ledgerEvents.rows = s.working.ledgerEvents.rows ++
    [e.sealed d s.working.ledgerEvents.rows (s.outside.lastEventId + 1)]
  /-- No other table changes. -/
  frame : s'.working = { s.working with ledgerEvents := s'.working.ledgerEvents }
  committed : s'.committed = s.committed
  outside : s'.outside = { s.outside with lastEventId := s.outside.lastEventId + 1 }

/-- With all stored ids drawn from the sequence, an append succeeds and adds one row. -/
theorem wp_appendSealedLedgerEvent {d : Deployment} {e : EventDraft}
    {Q : Unit → Session Database Outside → Prop} {E : Exn → Session Database Outside → Prop}
    {s : Session Database Outside} (hids : IdsDrawn s) (h : ∀ s', Appended d e s s' → Q () s') :
    Tx.wp (appendSealedLedgerEvent d e) Q E s := by
  have hlt : ∀ r ∈ s.working.ledgerEvents.rows,
      r.eventId < (e.row (s.outside.lastEventId + 1)).eventId := by
    intro r hr
    have hle := hids r hr
    change r.eventId < s.outside.lastEventId + 1
    omega
  have hfresh : s.working.ledgerEvents.find? (e.row (s.outside.lastEventId + 1)).eventId = none := by
    rw [Table.find?_eq_none, List.mem_map]
    rintro ⟨r, hr, he⟩
    have := hlt r hr
    omega
  have hins : s.working.ledgerEvents.insert? (e.row (s.outside.lastEventId + 1)) =
      some (s.working.ledgerEvents.put (e.row (s.outside.lastEventId + 1))) :=
    Table.insert?_eq_some.mpr ⟨hfresh, rfl⟩
  have hrows := Table.rows_put_of_fresh hfresh
  have hlatest : latestEvent (s.working.ledgerEvents.put
      (e.row (s.outside.lastEventId + 1))).rows e.idempotencyKey =
        some (e.row (s.outside.lastEventId + 1)) := by
    rw [hrows]
    exact latestEvent_append hlt
  simp only [appendSealedLedgerEvent, Tx.wp_bind, Tx.wp_external, Tx.wp_read, hins, Tx.wp_write,
    sealLastEvent, hlatest, sealLedgerEvent]
  apply h
  refine ⟨?_, rfl, rfl, rfl⟩
  simp only [Table.update, hrows]
  rw [map_update_last _ hlt, predecessorHash_append_unsealed _ rfl]
  rfl

theorem Appended.idsDrawn {d : Deployment} {e : EventDraft} {s s' : Session Database Outside}
    (h : Appended d e s s') (hids : IdsDrawn s) : IdsDrawn s' := by
  intro r hr
  rw [h.rows, List.mem_append, List.mem_singleton] at hr
  rw [h.outside]
  rcases hr with hr | rfl
  · have := hids r hr
    change r.eventId ≤ s.outside.lastEventId + 1
    omega
  · exact le_refl _

end Governor.Ledger
