import Mathlib
import Governor.Core.JsonInjective
import Governor.Finance.Schema

/-!
# Crystals and their checks

The pure part of the Crystal Commit Protocol: fingerprints, sealing, horizons, the facet
schemas of the platform registry and the mesh rules. `append_decision_event` inserts a row
under the chain's advisory lock and seals it onto the row with the greatest smaller id; its
specification says that one row is added at the end.
-/

namespace Governor.Finance

open Ledger (Timestamp Hash Decimal Money genesisHash decimalStr)

/-! ## Sealing a crystal -/

/-- The text that `canonical_fingerprint` hashes. -/
def fingerprintPayload (platform operationId : String) (facets : Facets) : String :=
  Json.dumps Json.compact (.obj [
    ("platform", .str platform),
    ("operation_id", .str operationId),
    ("facets", .obj facets)])

/-- The text determines the facets. -/
theorem fingerprintPayload_facets {platform operationId : String} {facets facets' : Facets}
    (h : fingerprintPayload platform operationId facets =
      fingerprintPayload platform operationId facets') :
    Json.Same (.obj facets) (.obj facets') := by
  have hsame := (Json.dumps_eq_iff _ _ _).mp h
  exact hsame.value (k := "facets") (by simp) (by simp) (by simp)

/-- `canonical_fingerprint`. -/
def canonicalFingerprint (d : Deployment) (platform operationId : String) (facets : Facets) :
    Hash :=
  d.sha256 (fingerprintPayload platform operationId facets)

/-- `HORIZON_MS`, with the default of `seal_crystal`. -/
def horizonMs (riskTier : String) : Int :=
  if riskTier = "critical" then 5000
  else if riskTier = "high" then 300000
  else 3600000

/-- The text whose hash is `crystal_hash`. -/
def crystalPayload (crystalId platform operationId riskTier : String) (facets : Facets)
    (fingerprint : Hash) (prev : Option Hash) : String :=
  Json.dumps Json.compact (.obj [
    ("crystal_id", .str crystalId),
    ("platform", .str platform),
    ("operation_id", .str operationId),
    ("risk_tier", .str riskTier),
    ("facets", .obj facets),
    ("fingerprint", .str fingerprint.val),
    ("prev", prev.elim .null fun h => .str h.val)])

/-- `seal_crystal` and the row that stores its result. -/
def sealCrystal (d : Deployment) (clock : Ledger.Clock) (uuid : String)
    (request : CrystallizeRequest) (policyId : Option String) (prevCrystalHash : Option Hash)
    (commitHorizonMs : Option Int) : CrystalRow :=
  let crystalId := "crys_" ++ uuid
  let fingerprint := canonicalFingerprint d request.platform request.operationId request.facets
  { crystalId := crystalId
    platform := request.platform
    operationId := request.operationId
    riskTier := request.riskTier
    policyId := policyId
    facets := request.facets
    requestFingerprint := fingerprint
    crystalHash := d.sha256 (crystalPayload crystalId request.platform request.operationId
      request.riskTier request.facets fingerprint prevCrystalHash)
    prevCrystalHash := prevCrystalHash
    parentCrystalId := request.parentCrystalId
    horizonExpiresAt := clock.utcnow + commitHorizonMs.getD (horizonMs request.riskTier) * 1000
    terminalState := none
    crystallizedAt := clock.currentTimestamp }

/-- `verify_commit_fingerprint`. -/
def verifyCommitFingerprint (d : Deployment) (crystal : CrystalRow) (facets : Facets) : Bool :=
  canonicalFingerprint d crystal.platform crystal.operationId facets = crystal.requestFingerprint

/-- `is_horizon_expired`. -/
def isHorizonExpired (crystal : CrystalRow) (now : Timestamp) : Bool :=
  crystal.horizonExpiresAt ≤ now

/-- `should_strand_on_expiry`. -/
def shouldStrandOnExpiry (riskTier : String) : Bool := riskTier = "critical" || riskTier = "high"

/-! ## Facet schemas -/

/-- `isinstance` for the types a facet schema names; Python's `bool` is an `int`. -/
def hasFacetType (expected : String) : Json → Bool
  | .str _ => expected ≠ "number" && expected ≠ "boolean"
  | .bool _ => expected ≠ "string"
  | .int _ | .float _ => expected ≠ "string" && expected ≠ "boolean"
  | _ => expected ≠ "string" && expected ≠ "number" && expected ≠ "boolean"

/-- The message of `FacetValidationError`, or `none` when the facets pass `validate_facets`. -/
def facetError (platform : String) (facets : Facets) (schema : FacetSchema) : Option String :=
  match schema.required.find? fun key => (facets.lookup key).isNone with
  | some key => some s!"platform={platform}: missing required facet '{key}'"
  | none =>
    facets.findSome? fun (key, value) =>
      match schema.properties.lookup key with
      | none => none
      | some expected =>
        if hasFacetType expected value then none
        else some s!"platform={platform}: facet '{key}' must be {expected}"

/-! ## The mesh -/

/-- The facets of the latest open crystal of a platform. -/
def openParentFacets (crystals : List CrystalRow) (platform : String) : Option Facets :=
  (lastBy CrystalRow.crystallizedAt (crystals.filter fun c =>
    c.platform = platform && c.terminalState.isNone)).map CrystalRow.facets

/-- Whether the latest open crystal of a rule's parent has the facet that blocks. -/
def MeshRule.blocks (rule : MeshRule) (crystals : List CrystalRow) : Bool :=
  match openParentFacets crystals rule.parentPlatform with
  | none => false
  | some facets =>
    match facets.lookup rule.parentFacetKey with
    | some (.str value) => value = rule.parentFacetValue
    | _ => false

/-- `mesh_block_reason`. -/
def meshBlockReason (db : Database) (platform : String) : Option String :=
  ((db.crystalMeshRules.filter fun rule =>
    rule.childPlatform = platform && rule.blockCommit && rule.enabled).find? fun rule =>
      rule.blocks db.governanceCrystals.rows).map fun rule =>
    s!"mesh block: {rule.parentPlatform}.{rule.parentFacetKey}={rule.parentFacetValue}"

/-! ## Decision events -/

/-- The arguments of `append_decision_event` and the time at which it is called. -/
structure DecisionDraft where
  operationId : String
  crystalId : Option String
  accountId : String
  eventType : DecisionType
  exposureDelta : Money
  metadata : List (String × Json)
  recordedAt : Timestamp

/-- The text that `compute_row_hash` hashes; a dict is its own normalized metadata. -/
def decisionPayload (eventId : Int) (operationId : String) (crystalId : Option String)
    (accountId eventType exposureDelta : String) (metadata : List (String × Json))
    (prevHash : Hash) (recordedAt : String) : String :=
  Json.dumps Json.compact (.obj [
    ("event_id", .int eventId),
    ("operation_id", .str operationId),
    ("crystal_id", crystalId.elim .null .str),
    ("account_id", .str accountId),
    ("event_type", .str eventType),
    ("exposure_delta", .str exposureDelta),
    ("metadata", .obj metadata),
    ("prev_hash", .str prevHash.val),
    ("recorded_at", .str recordedAt)])

/-- `compute_row_hash`. -/
def DecisionDraft.rowHash (d : Deployment) (e : DecisionDraft) (eventId : Int)
    (prevHash : Hash) : Hash :=
  d.sha256 (decisionPayload eventId e.operationId e.crystalId e.accountId e.eventType.text
    (decimalStr e.exposureDelta) e.metadata prevHash (d.timestampText e.recordedAt))

/-- The row that `INSERT` stores; the head stands in for the row's own hash. -/
def DecisionDraft.row (e : DecisionDraft) (eventId : Int) (head : Hash) : DecisionEvent where
  eventId := eventId
  operationId := e.operationId
  crystalId := e.crystalId
  accountId := e.accountId
  eventType := e.eventType.text
  exposureDelta := e.exposureDelta
  metadata := .obj e.metadata
  recordedAt := e.recordedAt
  prevHash := some head
  rowHash := head

/-- `head_hash`. -/
def headHash (rows : List DecisionEvent) : Option Hash :=
  (lastBy DecisionEvent.eventId (rows.filter fun r => r.rowHash ≠ genesisHash)).map
    DecisionEvent.rowHash

/-- The hash of the sealed row with the greatest smaller id, or the genesis hash. -/
def predecessorHash (rows : List DecisionEvent) (eventId : Int) : Hash :=
  (headHash (rows.filter fun r => r.eventId < eventId)).getD genesisHash

/-- `UPDATE decision_events SET prev_hash = …, row_hash = …` on one row. -/
def DecisionEvent.seal (prevHash rowHash : Hash) (r : DecisionEvent) : DecisionEvent :=
  { r with prevHash := some prevHash, rowHash := rowHash }

/-- `seal_decision_event`. -/
def sealDecisionEvent (d : Deployment) (e : DecisionDraft) (eventId : Int) : FinanceTx Unit := do
  let db ← Tx.read
  let prevHash := predecessorHash db.decisionEvents.rows eventId
  Tx.write fun db => { db with
    decisionEvents := db.decisionEvents.update eventId
      (DecisionEvent.seal prevHash (e.rowHash d eventId prevHash)) (fun _ => rfl) }

/-- `append_decision_event`. The advisory lock makes the append one step. -/
def appendDecisionEvent (d : Deployment) (e : DecisionDraft) : FinanceTx Unit := do
  let db ← Tx.read
  let head := (headHash db.decisionEvents.rows).getD genesisHash
  let eventId ← Tx.external fun o => (o.lastEventId + 1, { o with lastEventId := o.lastEventId + 1 })
  match db.decisionEvents.insert? (e.row eventId head) with
  | none => Tx.raise (.integrityError "decision_events_pkey")
  | some t => do
    Tx.write fun db => { db with decisionEvents := t }
    sealDecisionEvent d e eventId

/-! ## The row an append adds -/

/-- The sealed row that an append adds after the given rows. -/
def DecisionDraft.sealed (d : Deployment) (e : DecisionDraft) (rows : List DecisionEvent)
    (eventId : Int) : DecisionEvent :=
  (e.row eventId ((headHash rows).getD genesisHash)).seal (predecessorHash rows eventId)
    (e.rowHash d eventId (predecessorHash rows eventId))

/-- Every stored id has been drawn from the sequence. -/
def IdsDrawn (s : FinanceSession) : Prop :=
  ∀ r ∈ s.working.decisionEvents.rows, r.eventId ≤ s.outside.lastEventId

/-- The session after one append: one sealed row more, and one id drawn. -/
structure Appended (d : Deployment) (e : DecisionDraft) (s s' : FinanceSession) : Prop where
  /-- The row is added after the rows that were there. -/
  rows : s'.working.decisionEvents.rows = s.working.decisionEvents.rows ++
    [e.sealed d s.working.decisionEvents.rows (s.outside.lastEventId + 1)]
  /-- No other table changes. -/
  frame : s'.working = { s.working with decisionEvents := s'.working.decisionEvents }
  committed : s'.committed = s.committed
  outside : s'.outside = { s.outside with lastEventId := s.outside.lastEventId + 1 }

/-- The row just inserted is no predecessor of itself. -/
theorem predecessorHash_concat (rows : List DecisionEvent) (r : DecisionEvent) :
    predecessorHash (rows ++ [r]) r.eventId = predecessorHash rows r.eventId := by
  rw [predecessorHash, predecessorHash, List.filter_append,
    List.filter_cons_of_neg (by simp), List.filter_nil, List.append_nil]

/-- With all stored ids drawn from the sequence, an append succeeds and adds one row. -/
theorem wp_appendDecisionEvent {d : Deployment} {e : DecisionDraft}
    {Q : Unit → FinanceSession → Prop} {E : Exn → FinanceSession → Prop} {s : FinanceSession}
    (hids : IdsDrawn s) (h : ∀ s', Appended d e s s' → Q () s') :
    Tx.wp (appendDecisionEvent d e) Q E s := by
  generalize hrow : e.row (s.outside.lastEventId + 1)
    ((headHash s.working.decisionEvents.rows).getD genesisHash) = row
  have hid : row.eventId = s.outside.lastEventId + 1 := by rw [← hrow]; rfl
  have hlt : ∀ r ∈ s.working.decisionEvents.rows, r.eventId ≠ row.eventId := by
    intro r hr
    have hle := hids r hr
    omega
  have hfresh : s.working.decisionEvents.find? row.eventId = none := by
    rw [Table.find?_eq_none, List.mem_map]
    rintro ⟨r, hr, he⟩
    exact hlt r hr he
  have hins : s.working.decisionEvents.insert? row = some (s.working.decisionEvents.put row) :=
    Table.insert?_eq_some.mpr ⟨hfresh, rfl⟩
  have hrows := Table.rows_put_of_fresh hfresh
  simp only [appendDecisionEvent, Tx.wp_bind, Tx.wp_read, Tx.wp_external, hrow, hins, Tx.wp_write,
    sealDecisionEvent]
  apply h
  refine ⟨?_, rfl, rfl, rfl⟩
  have hold : ∀ r ∈ s.working.decisionEvents.rows, ∀ f : DecisionEvent → DecisionEvent,
      (if r.eventId = s.outside.lastEventId + 1 then f r else r) = r := by
    intro r hr f
    rw [if_neg (hid ▸ hlt r hr)]
  simp only [Table.update, hrows, List.map_append, List.map_singleton, hid, ite_true]
  rw [List.map_congr_left (fun r hr => hold r hr _), List.map_id', ← hid, predecessorHash_concat,
    DecisionDraft.sealed, hid, hrow]

theorem Appended.idsDrawn {d : Deployment} {e : DecisionDraft} {s s' : FinanceSession}
    (h : Appended d e s s') (hids : IdsDrawn s) : IdsDrawn s' := by
  intro r hr
  rw [h.rows, List.mem_append, List.mem_singleton] at hr
  rw [h.outside]
  rcases hr with hr | rfl
  · have hle := hids r hr
    change r.eventId ≤ s.outside.lastEventId + 1
    omega
  · exact le_refl _

end Governor.Finance
