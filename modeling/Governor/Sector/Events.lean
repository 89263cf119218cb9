import Mathlib
import Governor.Finance.Refinement

/-!
# Sealed events of the sector spines

The insurance and the cybersecurity spine are the finance spine's siblings: the same crystals,
escrow rows and mesh rules, under the table names of their domain. `reserve_ledgers` and
`security_budget_ledgers` are `account_ledgers` here, `coverage_policy_registry` and
`security_policy_registry` are `instrument_policy_registry`, the two escrow ledgers are
`commit_escrow_ledger`, and `claim_events` and `security_events` are `decision_events`, with
`reserve_delta` for `exposure_delta`. This module has the append to the event chain, which the
two spines share word for word.
-/

namespace Governor.Sector

open Finance
open Ledger (Timestamp Hash Decimal Money genesisHash decimalStr)

/-! ## Appending an event -/

/-- The arguments of `append_claim_event` and `append_security_event`, and the time of the call. -/
structure EventDraft where
  operationId : String
  crystalId : Option String
  accountId : String
  eventType : String
  reserveDelta : Decimal
  metadata : List (String × Json)
  recordedAt : Timestamp

/-- The text that `compute_row_hash` hashes. -/
def eventPayload (eventId : Int) (operationId : String) (crystalId : Option String)
    (accountId eventType reserveDelta : String) (metadata : Json) (prevHash recordedAt : String) :
    String :=
  Json.dumps Json.compact (.obj [
    ("event_id", .int eventId),
    ("operation_id", .str operationId),
    ("crystal_id", crystalId.elim .null .str),
    ("account_id", .str accountId),
    ("event_type", .str eventType),
    ("reserve_delta", .str reserveDelta),
    ("metadata", metadata),
    ("prev_hash", .str prevHash),
    ("recorded_at", .str recordedAt)])

namespace EventDraft

/-- The amount as it is stored. -/
def amount (e : EventDraft) : Money := quantizeMoney e.reserveDelta

/-- `compute_row_hash`. -/
def rowHash (d : Deployment) (e : EventDraft) (eventId : Int) (prevHash : Hash) : Hash :=
  d.sha256 (eventPayload eventId e.operationId e.crystalId e.accountId e.eventType
    (decimalStr e.amount) (.obj e.metadata) prevHash.val (d.timestampText e.recordedAt))

/-- The row that `INSERT` stores; the head stands in for the row's own hash. -/
def row (e : EventDraft) (eventId : Int) (head : Hash) : DecisionEvent where
  eventId := eventId
  operationId := e.operationId
  crystalId := e.crystalId
  accountId := e.accountId
  eventType := e.eventType
  exposureDelta := e.amount
  metadata := .obj e.metadata
  recordedAt := e.recordedAt
  prevHash := some head
  rowHash := head

/-- The sealed row that an append adds after the given rows. -/
def sealed (d : Deployment) (e : EventDraft) (rows : List DecisionEvent) (eventId : Int) :
    DecisionEvent :=
  (e.row eventId ((headHash rows).getD genesisHash)).seal (predecessorHash rows eventId)
    (e.rowHash d eventId (predecessorHash rows eventId))

end EventDraft

/-- `seal_claim_event` and `seal_security_event`. -/
def sealEvent (d : Deployment) (e : EventDraft) (eventId : Int) : FinanceTx Unit := do
  let db ← Tx.read
  let prevHash := predecessorHash db.decisionEvents.rows eventId
  Tx.write fun db => { db with
    decisionEvents := db.decisionEvents.update eventId
      (DecisionEvent.seal prevHash (e.rowHash d eventId prevHash)) (fun _ => rfl) }

/-- `append_claim_event` and `append_security_event`. The advisory lock makes the append one step. -/
def appendEvent (d : Deployment) (e : EventDraft) : FinanceTx Unit := do
  let db ← Tx.read
  let head := (headHash db.decisionEvents.rows).getD genesisHash
  let eventId ← Tx.external fun o => (o.lastEventId + 1, { o with lastEventId := o.lastEventId + 1 })
  match db.decisionEvents.insert? (e.row eventId head) with
  | none => Tx.raise (.integrityError "event_id_pkey")
  | some t => do
    Tx.write fun db => { db with decisionEvents := t }
    sealEvent d e eventId

/-! ## The row an append adds -/

/-- What an append does to the session. -/
structure Appended (d : Deployment) (e : EventDraft) (s s' : FinanceSession) : Prop where
  /-- The row is added after the rows that were there. -/
  rows : s'.working.decisionEvents.rows = s.working.decisionEvents.rows ++
    [e.sealed d s.working.decisionEvents.rows (s.outside.lastEventId + 1)]
  /-- No other table changes. -/
  frame : s'.working = { s.working with decisionEvents := s'.working.decisionEvents }
  committed : s'.committed = s.committed
  outside : s'.outside = { s.outside with lastEventId := s.outside.lastEventId + 1 }

section Append

variable {d : Deployment} {e : EventDraft} {s s' : FinanceSession}
  {E : Exn → FinanceSession → Prop}

/-- With all stored ids drawn from the sequence, an append succeeds and adds one row. -/
theorem wp_appendEvent {Q : Unit → FinanceSession → Prop} (hids : IdsDrawn s)
    (h : ∀ s', Appended d e s s' → Q () s') : Tx.wp (appendEvent d e) Q E s := by
  generalize hrow : e.row (s.outside.lastEventId + 1)
    ((headHash s.working.decisionEvents.rows).getD genesisHash) = row
  have hid : row.eventId = s.outside.lastEventId + 1 := by rw [← hrow]; rfl
  have hlt : ∀ r ∈ s.working.decisionEvents.rows, r.eventId ≠ row.eventId := by
    intro r hr
    have hle := hids r hr
    omega
  have hfresh : s.working.decisionEvents.find? row.eventId = none := by
    rw [Table.find?_eq_none, List.mem_map]
    rintro ⟨r, hr, he⟩
    exact hlt r hr he
  have hins : s.working.decisionEvents.insert? row = some (s.working.decisionEvents.put row) :=
    Table.insert?_eq_some.mpr ⟨hfresh, rfl⟩
  have hrows := Table.rows_put_of_fresh hfresh
  simp only [appendEvent, Tx.wp_bind, Tx.wp_read, Tx.wp_external, hrow, hins, Tx.wp_write,
    sealEvent]
  apply h
  refine ⟨?_, rfl, rfl, rfl⟩
  have hold : ∀ r ∈ s.working.decisionEvents.rows, ∀ f : DecisionEvent → DecisionEvent,
      (if r.eventId = s.outside.lastEventId + 1 then f r else r) = r := by
    intro r hr f
    rw [if_neg (hid ▸ hlt r hr)]
  simp only [Table.update, hrows, List.map_append, List.map_singleton, hid, ite_true]
  rw [List.map_congr_left (fun r hr => hold r hr _), List.map_id', ← hid, predecessorHash_concat,
    EventDraft.sealed, hid, hrow]

theorem Appended.idsDrawn (h : Appended d e s s') (hids : IdsDrawn s) : IdsDrawn s' := by
  intro r hr
  rw [h.rows, List.mem_append, List.mem_singleton] at hr
  rw [h.outside]
  rcases hr with hr | rfl
  · have hle := hids r hr
    change r.eventId ≤ s.outside.lastEventId + 1
    omega
  · exact le_refl _

end Append

end Governor.Sector
