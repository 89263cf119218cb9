import Mathlib
import Governor.Core.ChainScan
import Governor.Finance.Steady
import Governor.Finance.Amounts

/-!
# The chain of decision events

Every transaction of the spine appends its events under the lock, and `verify_decision_chain` reads
them back statement by statement, while other transactions commit. A valid verification leaves a
checkpoint from which a later one goes on. The invariant ties the events to one chain, so that no
verification of a run raises a false alarm.
-/

namespace Governor.Finance

open ChainScan
open Ledger (Decimal Money Hash genesisHash decimalStr)

/-! ## Verification -/

/-- A row of `decision_events` as verification reads it, whoever wrote it. -/
structure DecisionRow where
  eventId : Int
  operationId : String
  crystalId : Option String
  accountId : String
  eventType : String
  /-- A `NUMERIC(24, 12)`; it can be `NaN`. -/
  exposureDelta : Option Decimal
  metadata : Json
  prevHash : Option String
  rowHash : Option String
  /-- `recorded_at::text`. -/
  recordedAt : String

/-- `_normalize_metadata`. -/
def normalizedMetadata (loads : String → Option Json) : Json → Json
  | .obj fields => .obj fields
  | .str s =>
    match loads s with
    | some (.obj fields) => .obj fields
    | _ => .obj []
  | _ => .obj []

namespace DecisionRow

/-- `row["prev_hash"] or GENESIS_HASH`. -/
def prevOrGenesis (r : DecisionRow) : String :=
  (r.prevHash.filter (· ≠ "")).getD genesisHash.val

/-- The text that `compute_row_hash` hashes for a stored row. -/
def payload (loads : String → Option Json) (r : DecisionRow) : String :=
  Json.dumps Json.compact (.obj [
    ("event_id", .int r.eventId),
    ("operation_id", .str r.operationId),
    ("crystal_id", r.crystalId.elim .null .str),
    ("account_id", .str r.accountId),
    ("event_type", .str r.eventType),
    ("exposure_delta", .str ((r.exposureDelta.map quantizeMoney).elim "NaN" decimalStr)),
    ("metadata", normalizedMetadata loads r.metadata),
    ("prev_hash", .str r.prevOrGenesis),
    ("recorded_at", .str r.recordedAt)])

end DecisionRow

/-- `_verify_decision_rows`: how the rows are chained. -/
def decisionVerifier (d : Deployment) (loads : String → Option Json) :
    Verifier DecisionRow String where
  prev := DecisionRow.prevOrGenesis
  hash := DecisionRow.rowHash
  digest r := (d.sha256 (r.payload loads)).val
  id := DecisionRow.eventId
  genesis := genesisHash.val
  blank h := h = ""

/-- `DecisionChainBreak`. -/
structure DecisionChainBreak where
  eventId : Int
  reason : String
  deriving DecidableEq, Repr

/-- `DecisionChainVerificationResult`. -/
structure DecisionChainVerificationResult where
  valid : Bool
  sealedCount : Int
  unsealedCount : Int
  totalEvents : Int
  headHash : Option String
  firstBreak : Option DecisionChainBreak
  incremental : Bool
  deriving DecidableEq, Repr

/-- The break at a row. -/
def DecisionChainBreak.at (b : Int × Mismatch) : DecisionChainBreak where
  eventId := b.1
  reason :=
    match b.2 with
    | .prevHash => "prev_hash mismatch at event_id=" ++ toString b.1
    | .rowHash => "row_hash mismatch at event_id=" ++ toString b.1

/-- The result of a verdict. -/
def DecisionChainVerificationResult.of (v : Verdict String) : DecisionChainVerificationResult where
  valid := v.valid
  sealedCount := v.sealedCount
  unsealedCount := v.unsealedCount
  totalEvents := v.totalEvents
  headHash := v.headHash
  firstBreak := v.firstBreak.map DecisionChainBreak.at
  incremental := v.incremental

/-- A stored event as verification reads it back. -/
def storedDecision (d : Deployment) (r : DecisionEvent) : DecisionRow where
  eventId := r.eventId
  operationId := r.operationId
  crystalId := r.crystalId
  accountId := r.accountId
  eventType := r.eventType
  exposureDelta := some ⟨r.exposureDelta, -12⟩
  metadata := r.metadata
  prevHash := r.prevHash.map Subtype.val
  rowHash := some r.rowHash.val
  recordedAt := d.timestampText r.recordedAt

/-- `decision_events` as verification reads it. -/
def decisionRows (d : Deployment) (db : Database) : List DecisionRow :=
  (orderBy DecisionEvent.eventId db.decisionEvents.rows).map (storedDecision d)

/-- One step of the spine and of the verifications of its events, on one database. A verification
is `incremental` when it is called so and the table of checkpoints exists. -/
def verifiedStep (d : Deployment) (loads : String → Option Json) :
    Verified FinanceWorld String → VerifiedAction Action → Verified FinanceWorld String :=
  Verified.step (decisionVerifier d loads) (fun w => decisionRows d w.tables) (step d)

/-- Every verification that has ended accepts all events up to some event, at least those that were
there when it began, and names the hash of the last of them. -/
def NoFalseAlarm (w : Verified FinanceWorld String) : Prop :=
  ∀ v ∈ w.verifications, ∀ verdict, v.stage = .ended verdict →
    ∃ accepted, accepted <+: w.base.tables.decisionEvents.rows ∧
      (v.begun : Int) ≤ verdict.totalEvents ∧ verdict.totalEvents ≤ accepted.length ∧
      DecisionChainVerificationResult.of verdict =
        { valid := true
          sealedCount := accepted.length
          unsealedCount := 0
          totalEvents := verdict.totalEvents
          headHash := accepted.getLast?.map fun r => r.rowHash.val
          firstBreak := none
          incremental := verdict.incremental }

/-! ## The log of a run -/

/-- The events continue the given ones and form one chain. -/
structure DecisionLog (d : Deployment) (loads : String → Option Json) (first : List DecisionEvent)
    (w : FinanceWorld) : Prop where
  log : (decisionVerifier d loads).Log (w.tables.decisionEvents.rows.map (storedDecision d))
  drawn : ∀ r ∈ w.tables.decisionEvents.rows, r.eventId ≤ w.outside.lastEventId
  nonneg : 0 ≤ w.outside.lastEventId
  grows : first <+: w.tables.decisionEvents.rows

section Log

variable {d : Deployment} {loads : String → Option Json} {first rows : List DecisionEvent}
  {w : FinanceWorld}

/-- The last row of a log is the predecessor of the next. -/
theorem predecessorHash_of_increasing {eventId : Int}
    (hinc : rows.Pairwise fun a b => a.eventId < b.eventId)
    (hlt : ∀ r ∈ rows, r.eventId < eventId) (hsealed : ∀ r ∈ rows, r.rowHash ≠ genesisHash) :
    predecessorHash rows eventId = (rows.getLast?.map DecisionEvent.rowHash).getD genesisHash := by
  have hall : (rows.filter fun r => r.eventId < eventId) = rows :=
    List.filter_eq_self.mpr fun r hr => decide_eq_true (hlt r hr)
  have hkept : (rows.filter fun r => r.rowHash ≠ genesisHash) = rows :=
    List.filter_eq_self.mpr fun r hr => decide_eq_true (hsealed r hr)
  rw [predecessorHash, headHash, hall, hkept]
  cases rows using List.reverseRecOn with
  | nil => rfl
  | append_singleton rows r =>
    rw [List.getLast?_concat, lastBy_concat fun x hx =>
      (List.pairwise_append.mp hinc).2.2 x hx r List.mem_cons_self]

/-- A sealed row names its predecessor. -/
theorem sealed_prev (e : DecisionDraft) (rows : List DecisionEvent) (eventId : Int) :
    (storedDecision d (e.sealed d rows eventId)).prevOrGenesis =
      (predecessorHash rows eventId).val := by
  have hne : (predecessorHash rows eventId).val ≠ "" := by
    intro hempty
    have hlength := (predecessorHash rows eventId).property
    rw [hempty] at hlength
    exact absurd hlength (by decide)
  have hkept : (some (predecessorHash rows eventId).val).filter (fun h => decide (h ≠ "")) =
      some (predecessorHash rows eventId).val := by
    simp [Option.filter, hne]
  exact congrArg (fun o => o.getD genesisHash.val) hkept

/-- The hash of a sealed row is the one that verification recomputes. -/
theorem sealed_payload (e : DecisionDraft) (rows : List DecisionEvent) (eventId : Int) :
    (storedDecision d (e.sealed d rows eventId)).payload loads =
      decisionPayload eventId e.operationId e.crystalId e.accountId e.eventType.text
        (decimalStr e.exposureDelta) e.metadata (predecessorHash rows eventId)
        (d.timestampText e.recordedAt) := by
  have hamount : quantizeMoney ⟨e.exposureDelta, -12⟩ = e.exposureDelta := by
    simp [quantizeMoney]
  rw [DecisionRow.payload, sealed_prev]
  exact congrArg (fun m => Json.dumps Json.compact (.obj [
    ("event_id", .int eventId),
    ("operation_id", .str e.operationId),
    ("crystal_id", e.crystalId.elim .null .str),
    ("account_id", .str e.accountId),
    ("event_type", .str e.eventType.text),
    ("exposure_delta", .str (decimalStr m)),
    ("metadata", .obj e.metadata),
    ("prev_hash", .str (predecessorHash rows eventId).val),
    ("recorded_at", .str (d.timestampText e.recordedAt))])) hamount

/-- Every row of a log is sealed with its digest. -/
theorem DecisionLog.rowHash_eq (h : DecisionLog d loads first w) {r : DecisionEvent}
    (hr : r ∈ w.tables.decisionEvents.rows) :
    r.rowHash.val = (decisionVerifier d loads).digest (storedDecision d r) :=
  Option.some.inj (h.log.linked.hash_eq _ (List.mem_map_of_mem hr))

theorem DecisionLog.increasing (h : DecisionLog d loads first w) :
    w.tables.decisionEvents.rows.Pairwise fun a b => a.eventId < b.eventId := by
  have hrows := h.log.increasing
  rwa [List.pairwise_map] at hrows

theorem DecisionLog.rowHash_ne (h : DecisionLog d loads first w) {r : DecisionEvent}
    (hr : r ∈ w.tables.decisionEvents.rows) : r.rowHash ≠ genesisHash := by
  intro hgenesis
  refine h.log.apart _ (List.mem_map_of_mem hr) ?_
  rw [← h.rowHash_eq hr, hgenesis]
  rfl

/-- The last hash of a log is the tip of its chain. -/
theorem DecisionLog.tip_eq (h : DecisionLog d loads first w) :
    (decisionVerifier d loads).tip genesisHash.val
      (w.tables.decisionEvents.rows.map (storedDecision d)) =
        ((w.tables.decisionEvents.rows.getLast?.map DecisionEvent.rowHash).getD genesisHash).val := by
  have hhash := fun r => h.rowHash_eq (r := r)
  generalize w.tables.decisionEvents.rows = rows at hhash ⊢
  cases rows using List.reverseRecOn with
  | nil => rfl
  | append_singleton rows r =>
    rw [List.map_append, List.map_singleton, Sealing.tip_concat, List.getLast?_concat]
    exact (hhash r (by simp)).symm

/-- An append continues the log. -/
theorem DecisionLog.append (h : DecisionLog d loads first w) (hsha : ∀ p, d.sha256 p ≠ genesisHash)
    {e : DecisionDraft} {w' : FinanceWorld}
    (hrows : w'.tables.decisionEvents.rows = w.tables.decisionEvents.rows ++
      [e.sealed d w.tables.decisionEvents.rows (w.outside.lastEventId + 1)])
    (houtside : w'.outside.lastEventId = w.outside.lastEventId + 1) :
    DecisionLog d loads first w' := by
  have hpredecessor : predecessorHash w.tables.decisionEvents.rows (w.outside.lastEventId + 1) =
      (w.tables.decisionEvents.rows.getLast?.map DecisionEvent.rowHash).getD genesisHash :=
    predecessorHash_of_increasing h.increasing (fun r hr => Int.lt_add_one_of_le (h.drawn r hr))
      fun r hr => h.rowHash_ne hr
  have hnonneg := h.nonneg
  have hdigest : (decisionVerifier d loads).digest (storedDecision d
      (e.sealed d w.tables.decisionEvents.rows (w.outside.lastEventId + 1))) =
        (e.sealed d w.tables.decisionEvents.rows (w.outside.lastEventId + 1)).rowHash.val :=
    congrArg (fun text => (d.sha256 text).val) (sealed_payload e _ _)
  refine ⟨?_, ?_, by omega, ?_⟩
  · rw [hrows, List.map_append, List.map_singleton]
    refine h.log.concat ?_ (by change 0 < w.outside.lastEventId + 1; omega) ?_ ?_ ?_
    · intro x hx
      obtain ⟨r, hr, rfl⟩ := List.mem_map.mp hx
      exact Int.lt_add_one_of_le (h.drawn r hr)
    · refine Eq.trans ?_ h.tip_eq.symm
      rw [← hpredecessor]
      exact sealed_prev e _ _
    · exact congrArg some hdigest.symm
    · rw [hdigest]
      exact fun hgenesis => hsha _ (Subtype.ext hgenesis)
  · intro r hr
    rw [hrows, List.mem_append, List.mem_singleton] at hr
    rcases hr with hr | rfl
    · have hle := h.drawn r hr
      omega
    · rw [houtside]
      exact le_rfl
  · rw [hrows]
    exact h.grows.trans (List.prefix_append _ _)

/-- The statements of the spine continue the log. -/
theorem decisionLog_steady (hsha : ∀ p, d.sha256 p ≠ genesisHash) : Steady d fun s =>
    DecisionLog d loads first ⟨s.committed, s.outside⟩ ∧
      DecisionLog d loads first ⟨s.working, s.outside⟩ where
  drawn h := h.2.drawn
  write heq h := by
    obtain ⟨hcommitted, hlog, hdrawn, hnonneg, hgrows⟩ := h
    refine ⟨hcommitted, ⟨?_, ?_, hnonneg, ?_⟩⟩
    all_goals
      simp only [heq]
      assumption
  commit h := ⟨h.2, h.2⟩
  append := by
    intro e s s' happended h
    have houtside : s'.outside.lastEventId = s.outside.lastEventId + 1 := by
      rw [happended.outside]
    refine ⟨⟨?_, ?_, ?_, ?_⟩, h.2.append hsha happended.rows houtside⟩
    · rw [happended.committed]
      exact h.1.log
    · intro r hr
      rw [happended.committed] at hr
      have hle := h.1.drawn r hr
      change r.eventId ≤ s'.outside.lastEventId
      change r.eventId ≤ s.outside.lastEventId at hle
      omega
    · have hnonneg := h.1.nonneg
      change 0 ≤ s'.outside.lastEventId
      change 0 ≤ s.outside.lastEventId at hnonneg
      omega
    · rw [happended.committed]
      exact h.1.grows

theorem DecisionLog.step (h : DecisionLog d loads first w) (hsha : ∀ p, d.sha256 p ≠ genesisHash)
    (a : Action) : DecisionLog d loads first (step d w a) :=
  step_of_steady (P := DecisionLog d loads first) (decisionLog_steady hsha) h a

/-- The rows of a log are read in their order. -/
theorem DecisionLog.decisionRows_eq (h : DecisionLog d loads first w) :
    decisionRows d w.tables = w.tables.decisionEvents.rows.map (storedDecision d) := by
  rw [decisionRows, orderBy, List.Pairwise.insertionSort_eq (h.increasing.imp fun hlt => hlt.le)]

end Log

/-! ## Runs -/

section Runs

variable {d : Deployment} {loads : String → Option Json} {w : FinanceWorld}

/-- A prefix of the rows that are read is a prefix of the events. -/
theorem exists_events_of_prefix {rows : List DecisionEvent} {before : List DecisionRow}
    (h : before <+: rows.map (storedDecision d)) :
    ∃ accepted, accepted <+: rows ∧ before = accepted.map (storedDecision d) := by
  refine ⟨rows.take before.length, List.take_prefix _ _, ?_⟩
  rw [List.map_take]
  exact List.prefix_iff_eq_take.mp h

/-- The events form one chain, and the verifications keep to it. -/
structure VerifiedLog (d : Deployment) (loads : String → Option Json)
    (v : Verified FinanceWorld String) : Prop where
  log : DecisionLog d loads [] v.base
  kept : Verified.Kept (decisionVerifier d loads) (fun w => decisionRows d w.tables) v

/-- What a verification that has ended returns. -/
theorem VerifiedLog.noFalseAlarm {w : Verified FinanceWorld String} (h : VerifiedLog d loads w) :
    NoFalseAlarm w := by
  obtain ⟨hlog, hkept⟩ := h
  intro v hv verdict hended
  have hsound := hkept.verifications v hv
  rw [hended] at hsound
  obtain ⟨hbegun, before, hprefix, htotal, hverdict⟩ := hsound
  rw [hlog.decisionRows_eq] at hprefix
  obtain ⟨accepted, haccepted, rfl⟩ := exists_events_of_prefix hprefix
  rw [List.length_map] at htotal
  refine ⟨accepted, haccepted, hbegun, htotal, ?_⟩
  have hlast : (accepted.map (storedDecision d)).getLast?.map (decisionVerifier d loads).digest =
      accepted.getLast?.map fun r => r.rowHash.val := by
    rw [List.getLast?_map, Option.map_map]
    cases hr : accepted.getLast? with
    | none => rfl
    | some r =>
      have hmem := haccepted.subset (List.mem_of_getLast? hr)
      exact congrArg some (hlog.rowHash_eq hmem).symm
  rw [hverdict]
  simp only [DecisionChainVerificationResult.of, Scan.verdict, Verifier.reached, Scan.valid,
    List.length_map, hlast, Option.map_none, Option.isNone_none, decide_true, Bool.and_self]

/-- Every action continues the chain as verification reads it. -/
theorem decisionRows_step (h : DecisionLog d loads [] w) (hsha : ∀ p, d.sha256 p ≠ genesisHash)
    (a : Action) :
    (decisionVerifier d loads).Log (decisionRows d (step d w a).tables) ∧
      decisionRows d w.tables <+: decisionRows d (step d w a).tables := by
  have hnext : DecisionLog d loads w.tables.decisionEvents.rows (step d w a) :=
    DecisionLog.step { h with grows := List.prefix_rfl } hsha a
  rw [h.decisionRows_eq, hnext.decisionRows_eq]
  exact ⟨hnext.log, hnext.grows.map _⟩

theorem VerifiedLog.step {v : Verified FinanceWorld String} (h : VerifiedLog d loads v)
    (hsha : ∀ p, d.sha256 p ≠ genesisHash) (a : VerifiedAction Action) :
    VerifiedLog d loads (verifiedStep d loads v a) := by
  refine ⟨?_, h.kept.step a (fun a => (decisionRows_step h.log hsha a).1)
    fun a => (decisionRows_step h.log hsha a).2⟩
  cases a with
  | act a => exact h.log.step hsha a
  | verify incremental => exact h.log
  | read i =>
    simp only [verifiedStep, Verified.step]
    cases v.verifications[i]? <;> exact h.log

theorem DecisionLog.of_empty (hempty : w.tables.decisionEvents.rows = [])
    (hids : 0 ≤ w.outside.lastEventId) : DecisionLog d loads [] w where
  log := by
    rw [hempty]
    exact Verifier.log_nil
  drawn := by
    rw [hempty]
    exact fun _ h => (List.not_mem_nil h).elim
  nonneg := hids
  grows := List.nil_prefix

theorem VerifiedLog.start (hempty : w.tables.decisionEvents.rows = [])
    (hids : 0 ≤ w.outside.lastEventId) : VerifiedLog d loads ⟨w, none, []⟩ := by
  have hlog : DecisionLog d loads [] w := .of_empty hempty hids
  refine ⟨hlog, ?_, nofun, fun _ h => (List.not_mem_nil h).elim⟩
  rw [hlog.decisionRows_eq]
  exact hlog.log

end Runs

/-- An event is verified while the crystal's commit appends two more. -/
def verifiedSample : List (VerifiedAction Action) :=
  [.act sampleOpen, .verify true, .read 0, .act (sampleClose ⟨12, 0⟩), .read 0, .read 0,
    .read 0, .read 0]

theorem sampleDeployment_ne_genesis (p : String) : sampleDeployment.sha256 p ≠ genesisHash := by
  intro h
  have hmem := @Deployment.ofDigests_mem sampleDigests sampleDeployment.timestampText p genesisHash
    h (by decide +kernel)
  have hgenesis : genesisHash ∈ sampleDigests.map Prod.snd := List.mem_map_of_mem hmem
  exact absurd hgenesis (by decide +kernel)

end Governor.Finance
