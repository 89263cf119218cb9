import Mathlib
import Governor.Chain.Incremental
import Governor.Chain.Checkpoint

/-!
# Retention beside incremental verification

`run_retention` deletes the rows that are older than the warm cutoff and covered by the
stored checkpoint, the checkpoint's own row included. The next incremental verification
scans from that row, and from the start of what is left when the row is gone. It stays
valid exactly when the row survives, or when nothing that was deleted came before
something that was kept.
-/

namespace Governor.Chain

open Ledger

/-! ## The retention run -/

/-- `RetentionPolicy`. -/
structure RetentionPolicy where
  hotDays : Int
  warmDays : Int
  archiveEnabled : Bool
  deriving DecidableEq, Repr

/-- `load_retention_policy`: the row with id `default`, if the table and the row exist. -/
def loadRetentionPolicy (row : Option RetentionPolicy) : RetentionPolicy :=
  row.getD ⟨90, 365, false⟩

/-- The report of a run, for the ledger's own domain. -/
structure RetentionReport where
  totalEvents : Int
  hotCount : Int
  warmCount : Int
  coldCount : Int
  archivedCount : Int
  archiveSkippedReason : Option String
  deriving DecidableEq, Repr

/-- Which of the run's tables exist. -/
structure RetentionSchema where
  ledgerTable : Bool
  checkpointTable : Bool

/-- `datetime.min` and `datetime.max` in UTC. -/
def datetimeRange : Timestamp × Timestamp := (-62135596800000000, 253402300799999999)

/-- `now - timedelta(days=…)`; none for an `OverflowError`. -/
def cutoff (now : Timestamp) (days : Int) : Option Timestamp :=
  let moment := now - days * 86400000000
  if datetimeRange.1 ≤ moment ∧ moment ≤ datetimeRange.2 then some moment else none

/-- `_load_checkpoint_event_id`. -/
def loadCheckpointEventId (schema : RetentionSchema) (stored : Option VerifyCheckpoint) :
    Option Int :=
  if schema.checkpointTable then stored.map VerifyCheckpoint.lastVerifiedEventId else none

/-- `SELECT COUNT(*) … WHERE p`. -/
def countWhere (t : EventTable) (p : LedgerEvent → Bool) : Int := (t.rows.filter p).length

/-- `_tier_counts`: all rows, and the hot, warm and cold ones. -/
def tierCounts (t : EventTable) (hotCutoff warmCutoff : Timestamp) : Int × Int × Int × Int :=
  (t.rows.length, countWhere t fun r => hotCutoff ≤ r.recordedAt,
    countWhere t fun r => r.recordedAt < hotCutoff && warmCutoff ≤ r.recordedAt,
    countWhere t fun r => r.recordedAt < warmCutoff)

/-- The archival of `run_retention`: how many rows went, the table left, and the reason
when it was skipped. -/
def archive (policy : RetentionPolicy) (warmCutoff : Timestamp) (cold : Int) (t : EventTable)
    (checkpointEventId : Option Int) : Int × EventTable × Option String :=
  if policy.archiveEnabled then
    match checkpointEventId with
    | none => (0, t, some "no_verify_checkpoint")
    | some eventId =>
      if cold = 0 then (0, t, some "no_cold_tier_events")
      else
        let kept := t.deleteWhere fun r => r.recordedAt < warmCutoff && r.eventId ≤ eventId
        (t.rows.length - kept.rows.length, kept, none)
  else (0, t, some "archive_disabled")

/-- `run_retention`: the report and the table left; none when the dates overflow. -/
def runRetention (schema : RetentionSchema) (policyRow : Option RetentionPolicy) (now : Timestamp)
    (t : EventTable) (stored : Option VerifyCheckpoint) : Option (RetentionReport × EventTable) := do
  let policy := loadRetentionPolicy policyRow
  let hotCutoff ← cutoff now policy.hotDays
  let warmCutoff ← cutoff now policy.warmDays
  if !schema.ledgerTable then
    some (⟨0, 0, 0, 0, 0, some "ledger_table_missing"⟩, t)
  else
    let (total, hot, warm, cold) := tierCounts t hotCutoff warmCutoff
    let (archived, kept, skipReason) :=
      archive policy warmCutoff cold t (loadCheckpointEventId schema stored)
    some (⟨total, hot, warm, cold, archived, if archived = 0 then skipReason else none⟩, kept)

/-- The table after the run, also when it raised. -/
def tableAfterRetention (schema : RetentionSchema) (policyRow : Option RetentionPolicy)
    (now : Timestamp) (t : EventTable) (stored : Option VerifyCheckpoint) : EventTable :=
  ((runRetention schema policyRow now t stored).map Prod.snd).getD t

/-- Whether the run takes a row: archival is enabled, and the row is older than the warm
cutoff and covered by the checkpoint. -/
def archives (schema : RetentionSchema) (policyRow : Option RetentionPolicy) (now : Timestamp)
    (stored : Option VerifyCheckpoint) (r : LedgerEvent) : Bool :=
  let policy := loadRetentionPolicy policyRow
  match cutoff now policy.hotDays, cutoff now policy.warmDays,
      loadCheckpointEventId schema stored with
  | some _, some warmCutoff, some eventId => schema.ledgerTable && policy.archiveEnabled &&
      (r.recordedAt < warmCutoff && r.eventId ≤ eventId)
  | _, _, _ => false

variable {d : Deployment} {schema : ChainSchema} {rschema : RetentionSchema}
  {policyRow : Option RetentionPolicy} {now : Timestamp} {t : EventTable} {lastId : Int}
  {stored : Option VerifyCheckpoint}

/-- A filter that drops nothing. -/
theorem filter_not_eq_self {rows : List LedgerEvent} {p : LedgerEvent → Bool}
    (h : ∀ r ∈ rows, p r = false) : (rows.filter fun r => !p r) = rows := by
  rw [List.filter_eq_self]
  intro r hr
  rw [h r hr]
  rfl

/-- Archival leaves the rows that are not both old and covered. -/
theorem archive_rows {policy : RetentionPolicy} (warmCutoff : Timestamp) (eventId : Int)
    (henabled : policy.archiveEnabled = true) :
    (archive policy warmCutoff (countWhere t fun r => r.recordedAt < warmCutoff) t
      (some eventId)).2.1.rows =
        t.rows.filter fun r => !(r.recordedAt < warmCutoff && r.eventId ≤ eventId) := by
  simp only [archive, henabled, ite_true]
  split_ifs with hcold
  · -- without a cold row there is nothing to delete
    have hnone : t.rows.filter (fun r => r.recordedAt < warmCutoff) = [] := by
      rw [countWhere] at hcold
      exact List.eq_nil_of_length_eq_zero (by exact_mod_cast hcold)
    symm
    apply filter_not_eq_self
    intro r hr
    have hwarm := List.filter_eq_nil_iff.mp hnone r hr
    simp only [decide_eq_true_eq] at hwarm
    simp only [hwarm, decide_false, Bool.false_and]
  · rfl

/-- The run leaves the rows that it does not take. -/
theorem tableAfterRetention_rows :
    (tableAfterRetention rschema policyRow now t stored).rows =
      t.rows.filter fun r => !archives rschema policyRow now stored r := by
  have hall : ∀ {p : LedgerEvent → Bool}, (∀ r, p r = false) →
      t.rows = t.rows.filter fun r => !p r :=
    fun hp => (filter_not_eq_self fun r _ => hp r).symm
  rw [tableAfterRetention, runRetention]
  cases hhot : cutoff now (loadRetentionPolicy policyRow).hotDays with
  | none => exact hall fun r => by simp [archives, hhot]
  | some hotCutoff =>
    cases hwarm : cutoff now (loadRetentionPolicy policyRow).warmDays with
    | none => exact hall fun r => by simp [archives, hhot, hwarm]
    | some warmCutoff =>
      cases hledger : rschema.ledgerTable with
      | false =>
        refine hall fun r => ?_
        cases hid : loadCheckpointEventId rschema stored <;>
          simp [archives, hhot, hwarm, hid, hledger]
      | true =>
        cases henabled : (loadRetentionPolicy policyRow).archiveEnabled with
        | false =>
          simp only [archive, henabled]
          refine hall fun r => ?_
          cases hid : loadCheckpointEventId rschema stored <;>
            simp [archives, hhot, hwarm, hid, henabled]
        | true =>
          cases hid : loadCheckpointEventId rschema stored with
          | none =>
            simp only [archive, henabled]
            exact hall fun r => by simp [archives, hhot, hwarm, hid]
          | some eventId =>
            have hrows := archive_rows (t := t) warmCutoff eventId henabled
            simp only [archives, hhot, hwarm, hid, hledger, henabled, Bool.true_and]
            exact hrows

/-- Only rows that the checkpoint covers are taken. -/
theorem eventId_le_of_archives {c : VerifyCheckpoint} {r : LedgerEvent}
    (h : archives rschema policyRow now (some c) r = true) :
    rschema.checkpointTable = true ∧ r.eventId ≤ c.lastVerifiedEventId := by
  rw [archives] at h
  split at h
  · next hid =>
    rw [loadCheckpointEventId] at hid
    split_ifs at hid with htable
    cases hid
    simp only [Bool.and_eq_true, decide_eq_true_eq] at h
    exact ⟨htable, h.2.2⟩
  · cases h

theorem archives_none (r : LedgerEvent) : archives rschema policyRow now none r = false := by
  simp [archives, loadCheckpointEventId]

/-! ## Appends to the table left -/

/-- Further appends, each committed, or rolled back after it has drawn its id. -/
def appendEvents (d : Deployment) : EventTable → Int → List (Option EventDraft) → EventTable
  | t, _, [] => t
  | t, lastId, none :: es => appendEvents d t (lastId + 1) es
  | t, lastId, some e :: es =>
    appendEvents d (t.put (e.sealed d t.rows (lastId + 1))) (lastId + 1) es

theorem appendEvents_grows (h : EventLog.Ordered ⟨t.rows, lastId⟩)
    (es : List (Option EventDraft)) : ∃ lastId',
      EventLog.Grows d ⟨t.rows, lastId⟩ ⟨(appendEvents d t lastId es).rows, lastId'⟩ := by
  have hgrow : ∀ (es : List (Option EventDraft)) (t' : EventTable) (n : Int),
      EventLog.Grows d ⟨t.rows, lastId⟩ ⟨t'.rows, n⟩ → ∃ n',
        EventLog.Grows d ⟨t.rows, lastId⟩ ⟨(appendEvents d t' n es).rows, n'⟩ := by
    intro es
    induction es with
    | nil => exact fun t' n hg => ⟨n, hg⟩
    | cons e es ih =>
      intro t' n hg
      cases e with
      | none => exact ih t' (n + 1) (hg.draw (le_of_lt (Int.lt_succ n)))
      | some e =>
        have hfresh : t'.find? (e.sealed d t'.rows (n + 1)).eventId = none := by
          rw [Table.find?_eq_none, List.mem_map]
          rintro ⟨r, hr, he⟩
          have hle : r.eventId ≤ n := (hg.ordered h).drawn r hr
          have hid : r.eventId = n + 1 := he
          omega
        refine ih _ (n + 1) ?_
        rw [Table.rows_put_of_fresh hfresh]
        exact hg.append e
  exact hgrow es t lastId EventLog.Grows.refl

/-- Where every row carries its digest, the log ends where its chain ends. -/
theorem EventLog.tip_eq_of_sealed {log : EventLog} (hsha : ∀ p, d.sha256 p ≠ genesisHash)
    (h : log.Ordered)
    (hsealed : ∀ r ∈ log.rows, r.rowHash = some ((ledgerSealing d).digest r)) :
    log.tip = (ledgerSealing d).tip genesisHash log.rows := by
  obtain ⟨rows, lastId⟩ := log
  cases rows using List.reverseRecOn with
  | nil => rfl
  | append_singleton rows r =>
    rw [Sealing.tip_concat]
    apply EventLog.predecessorHash_concat _ (hsealed r (by simp)) (hsha _)
    · have hle : r.eventId ≤ lastId := h.drawn r (by simp)
      change r.eventId < lastId + 1
      omega
    · intro x hx
      exact (List.pairwise_append.mp h.increasing).2.2 x hx r (by simp)

theorem EventLog.Ordered.filter (h : EventLog.Ordered ⟨t.rows, lastId⟩) (p : LedgerEvent → Bool) :
    EventLog.Ordered ⟨t.rows.filter p, lastId⟩ :=
  ⟨h.increasing.sublist List.filter_sublist, fun r hr => h.drawn r (List.mem_filter.mp hr).1,
    fun r hr => h.positive r (List.mem_filter.mp hr).1, h.started⟩

/-- Rows chained onto what is left of a chain make a chain with it exactly when what is
left is one. -/
theorem linked_remaining_iff {keep : LedgerEvent → Bool} {added : List LedgerEvent}
    (hsha : ∀ p, d.sha256 p ≠ genesisHash) (h : EventLog.Ordered ⟨t.rows, lastId⟩)
    (hlinked : (ledgerSealing d).Linked genesisHash t.rows)
    (hadded : (ledgerSealing d).Linked (EventLog.tip ⟨t.rows.filter keep, lastId⟩) added) :
    (ledgerSealing d).Linked genesisHash (t.rows.filter keep ++ added) ↔
      (ledgerSealing d).Linked genesisHash (t.rows.filter keep) := by
  have hsealed : ∀ r ∈ t.rows.filter keep, r.rowHash = some ((ledgerSealing d).digest r) :=
    fun r hr => hlinked.hash_eq r (List.mem_filter.mp hr).1
  rw [EventLog.tip_eq_of_sealed hsha (h.filter keep) hsealed] at hadded
  rw [Sealing.linked_append, and_iff_left hadded]

/-! ## The next verification -/

/-- A chain of which some rows were taken, and then others appended. -/
structure Remaining (d : Deployment) (t : EventTable) (lastId : Int) (keep : LedgerEvent → Bool)
    (added : List LedgerEvent) (t' : EventTable) (lastId' : Int) : Prop where
  ordered : EventLog.Ordered ⟨t.rows, lastId⟩
  linked : (ledgerSealing d).Linked genesisHash t.rows
  rows : t'.rows = t.rows.filter keep ++ added
  added_linked : (ledgerSealing d).Linked (EventLog.tip ⟨t.rows.filter keep, lastId⟩) added
  added_ids : ∀ r ∈ added, lastId < r.eventId
  ordered' : EventLog.Ordered ⟨t'.rows, lastId'⟩

section Remaining

variable {keep : LedgerEvent → Bool} {before rest added : List LedgerEvent} {last : LedgerEvent}
  {t' : EventTable} {lastId' : Int} {c : VerifyCheckpoint}

theorem Remaining.sealed (h : Remaining d t lastId keep added t' lastId') :
    ∀ r ∈ t'.rows, r.rowHash = some ((ledgerSealing d).digest r) := by
  intro r hr
  rw [h.rows] at hr
  rcases List.mem_append.mp hr with hr | hr
  · exact h.linked.hash_eq r (List.mem_filter.mp hr).1
  · exact h.added_linked.hash_eq r hr

/-- With the checkpoint's row and everything after it kept, the later rows chain from it. -/
theorem Remaining.anchored (hsha : ∀ p, d.sha256 p ≠ genesisHash)
    (h : Remaining d t lastId keep added t' lastId') (hrows : t.rows = before ++ last :: rest)
    (hc : Covers d before last c) (hlast : keep last = true) (hrest : ∀ r ∈ rest, keep r = true) :
    t'.find? c.lastVerifiedEventId = some last ∧
      (ledgerSealing d).Linked ((ledgerSealing d).digest last)
        (rowsAfter t' c.lastVerifiedEventId) := by
  have hkept : t.rows.filter keep = before.filter keep ++ last :: rest := by
    rw [hrows, List.filter_append, List.filter_cons_of_pos hlast, List.filter_eq_self.mpr hrest]
  have hrows' : t'.rows = before.filter keep ++ last :: (rest ++ added) := by
    rw [h.rows, hkept, List.append_assoc, List.cons_append]
  have hrestLinked : (ledgerSealing d).Linked ((ledgerSealing d).digest last) rest := by
    have hlinked := h.linked
    rw [hrows] at hlinked
    exact hc.linked_iff.mp hlinked
  have htip : EventLog.tip ⟨t.rows.filter keep, lastId⟩ =
      (ledgerSealing d).tip ((ledgerSealing d).digest last) rest := by
    rw [EventLog.tip_eq_of_sealed hsha (h.ordered.filter keep)
      fun r hr => h.linked.hash_eq r (List.mem_filter.mp hr).1]
    rw [hkept, Sealing.tip_append, Sealing.tip_cons]
  rw [hc.eventId]
  refine ⟨Table.find?_of_mem (by simp [hrows']), ?_⟩
  rw [rowsAfter_eq h.ordered' hrows', Sealing.linked_append]
  refine ⟨hrestLinked, ?_⟩
  rw [← htip]
  exact h.added_linked

/-- The checkpoint's row, once taken, does not come back. -/
theorem Remaining.missing (h : Remaining d t lastId keep added t' lastId')
    (hrows : t.rows = before ++ last :: rest) (hc : Covers d before last c)
    (hlast : keep last = false) : t'.find? c.lastVerifiedEventId = none := by
  have hmem : last ∈ t.rows := by simp [hrows]
  rw [Table.find?_eq_none, List.mem_map]
  rintro ⟨r, hr, he⟩
  rw [hc.eventId] at he
  rw [h.rows] at hr
  rcases List.mem_append.mp hr with hr | hr
  · obtain ⟨hr, hkeep⟩ := List.mem_filter.mp hr
    rw [List.inj_on_of_nodup_map t.nodup hr hmem he, hlast] at hkeep
    cases hkeep
  · have hlt := h.added_ids r hr
    have hle : last.eventId ≤ lastId := h.ordered.drawn last hmem
    omega

/-- No other row has the hash of the row that was taken. -/
theorem Remaining.no_hit (h : Remaining d t lastId keep added t' lastId')
    (hinj : Set.InjOn d.sha256 (payloads d t t')) (hrows : t.rows = before ++ last :: rest)
    (hc : Covers d before last c) (hlast : keep last = false) {r : LedgerEvent}
    (hr : r ∈ t'.rows) : checkpointHit t' c ((ledgerSealing d).digest r) = false := by
  rw [Bool.eq_false_iff]
  intro hhit
  simp only [checkpointHit, Bool.and_eq_true, decide_eq_true_eq] at hhit
  have hdigest : (ledgerSealing d).digest last = (ledgerSealing d).digest r :=
    hc.headHash.symm.trans hhit.1.1
  have hpayload : last.payload d = r.payload d :=
    hinj ⟨last, by simp [hrows], rfl⟩ ⟨r, List.mem_append_right _ hr, rfl⟩ hdigest
  have hid := (samePayload_of_payload_eq hpayload).eventId
  have hfind := h.missing hrows hc hlast
  rw [hc.eventId, hid, Table.find?_of_mem hr] at hfind
  cases hfind

/-- The digests of a chain are distinct, since every payload holds its row's id. -/
theorem digests_nodup (hinj : Set.InjOn d.sha256 (payloads d t t')) :
    (t.rows.map (ledgerSealing d).digest).Nodup := by
  apply List.Nodup.map_on
  · intro a ha b hb he
    have hpayload : a.payload d = b.payload d :=
      hinj ⟨a, List.mem_append_left _ ha, rfl⟩ ⟨b, List.mem_append_left _ hb, rfl⟩ he
    exact List.inj_on_of_nodup_map t.nodup ha hb (samePayload_of_payload_eq hpayload).eventId
  · exact t.nodup.of_map

/-- What is left of the chain, with what was appended, is a chain exactly when nothing that
was taken came before something that was kept. -/
theorem Remaining.linked_iff (hsha : ∀ p, d.sha256 p ≠ genesisHash)
    (h : Remaining d t lastId keep added t' lastId')
    (hinj : Set.InjOn d.sha256 (payloads d t t')) :
    (ledgerSealing d).Linked genesisHash t'.rows ↔
      ∀ a ∈ t.rows, keep a = false → ∀ r ∈ t.rows, keep r = true → r.eventId < a.eventId := by
  have hinc : t.rows.Pairwise fun a b => a.eventId < b.eventId := h.ordered.increasing
  rw [h.rows, linked_remaining_iff hsha h.ordered h.linked h.added_linked,
    ← filter_prefix_iff keep hinc]
  constructor
  · intro hl
    exact (ledgerSealing d).filter_prefix_of_linked keep h.linked (digests_nodup hinj)
      (fun r _ => hsha _) hl
  · rintro ⟨taken, htaken⟩
    have hlinked := h.linked
    rw [← htaken, Sealing.linked_append] at hlinked
    exact hlinked.1

/-- The next verification scans from the checkpoint's row, if it was kept. -/
theorem Remaining.valid_of_kept (hsha : ∀ p, d.sha256 p ≠ genesisHash)
    (h : Remaining d t lastId keep added t' lastId') (hrows : t.rows = before ++ last :: rest)
    (hc : Covers d before last c) (hlast : keep last = true) (hrest : ∀ r ∈ rest, keep r = true)
    (hseal : schema.supportsSeal = true) (hcheckpoints : schema.supportsCheckpoints = true) :
    (verifyLedgerChain d schema t' (some c) true).1.valid = true := by
  obtain ⟨hfind, hl⟩ := h.anchored hsha hrows hc hlast hrest
  have hmem : last ∈ t'.rows := Table.mem_of_find? hfind
  have hne : t'.rows ≠ [] := List.ne_nil_of_mem hmem
  have hpos : 0 < c.lastVerifiedEventId := by
    rw [hc.eventId]
    exact h.ordered'.positive last hmem
  obtain ⟨r, -, hhead⟩ := exists_headHash hsha hne h.sealed
  have hout : ∃ out, verifyIncremental d t' c ((ledgerSealing d).digest r) = some out := by
    cases hhit : checkpointHit t' c ((ledgerSealing d).digest r) with
    | true => exact ⟨_, verifyIncremental_hit hhit⟩
    | false =>
      obtain ⟨out, hout, -⟩ := verifyIncremental_anchored hhit hpos hfind (h.sealed last hmem) hl
      exact ⟨out, hout⟩
  obtain ⟨out, hout⟩ := hout
  rw [verifyLedgerChain_of_incremental hseal hcheckpoints hne hhead hout]
  exact (verifyIncremental_flags hout).1

/-- The next verification starts over, if the checkpoint's row was taken. -/
theorem Remaining.valid_iff_of_taken (hsha : ∀ p, d.sha256 p ≠ genesisHash)
    (h : Remaining d t lastId keep added t' lastId')
    (hinj : Set.InjOn d.sha256 (payloads d t t')) (hrows : t.rows = before ++ last :: rest)
    (hc : Covers d before last c) (hlast : keep last = false)
    (hseal : schema.supportsSeal = true) (hcheckpoints : schema.supportsCheckpoints = true) :
    (verifyLedgerChain d schema t' (some c) true).1.valid = true ↔
      (ledgerSealing d).Linked genesisHash t'.rows := by
  have horder : orderBy LedgerEvent.eventId t'.rows = t'.rows := h.ordered'.orderBy_eq
  by_cases hne : t'.rows = []
  · simp [verifyLedgerChain, hseal, hne]
  · have hfind := h.missing hrows hc hlast
    have hpos : 0 < c.lastVerifiedEventId := by
      rw [hc.eventId]
      exact h.ordered.positive last (by simp [hrows])
    obtain ⟨r, hr, hhead⟩ := exists_headHash hsha hne h.sealed
    have hhit := h.no_hit hinj hrows hc hlast hr
    constructor
    · intro hvalid
      cases hout : verifyIncremental d t' c ((ledgerSealing d).digest r) with
      | none =>
        rw [verifyLedgerChain_of_no_incremental hseal hcheckpoints hne hhead hout] at hvalid
        rw [← horder]
        exact (verifyLedgerRows_valid_iff t').mp hvalid
      | some out =>
        rcases linked_of_verifyIncremental hhit hpos hout with ⟨-, hl⟩ | ⟨a, g, ha, -, -⟩
        · rwa [horder] at hl
        · rw [hfind] at ha
          cases ha
    · intro hl
      rw [← horder] at hl hne
      obtain ⟨out, hout⟩ := verifyIncremental_missing hhit hpos hfind hne hl
      rw [horder] at hne
      rw [verifyLedgerChain_of_incremental hseal hcheckpoints hne hhead hout]
      exact (verifyIncremental_flags hout).1

end Remaining

/-- The checkpoint's row is not taken, or nothing that is taken comes before something that
is kept. -/
def ArchivalSafe (archived : LedgerEvent → Bool) (t : EventTable)
    (stored : Option VerifyCheckpoint) : Prop :=
  ∀ c ∈ stored,
    (∀ r ∈ t.rows, r.eventId = c.lastVerifiedEventId → archived r = false) ∨
      ∀ a ∈ t.rows, archived a = true → ∀ r ∈ t.rows, archived r = false → r.eventId < a.eventId

/-- A full scan of an untouched chain is valid, whatever was appended to it. -/
theorem verifyLedgerChain_valid_of_linked {t' : EventTable} {lastId' : Int}
    (h : EventLog.Ordered ⟨t'.rows, lastId'⟩)
    (hlinked : (ledgerSealing d).Linked genesisHash t'.rows)
    (hstored : ∀ c ∈ stored, Verified d t'.rows c) (hseal : schema.supportsSeal = true) :
    (verifyLedgerChain d schema t' stored true).1.valid = true := by
  have hagree := (verifyLedgerChain_agrees h hstored schema true).1
  have horder : orderBy LedgerEvent.eventId t'.rows = t'.rows := h.orderBy_eq
  have hvalid : (verifyLedgerChain d schema t' stored false).1.valid = true := by
    simp only [verifyLedgerChain, hseal, Bool.not_true, Bool.false_eq_true, ite_false,
      Bool.false_and]
    split_ifs
    · rfl
    · exact (verifyLedgerRows_valid_iff t').mpr (horder.symm ▸ hlinked)
  have hfst := congrArg Prod.fst hagree
  exact hfst.trans hvalid

/-- The table that the next verification reads: after the retention run and further
appends. -/
def tableAfterwards (d : Deployment) (w : VerifyWorld) (rschema : RetentionSchema)
    (policyRow : Option RetentionPolicy) (now : Timestamp) (after : List (Option EventDraft)) :
    EventTable :=
  appendEvents d (tableAfterRetention rschema policyRow now w.chain.committed w.stored)
    w.chain.lastId after

/-- After any history, a retention run and further appends leave a chain with rows taken and
rows appended. -/
theorem remaining_tableAfterwards {w : VerifyWorld} (hsha : ∀ p, d.sha256 p ≠ genesisHash)
    (hinv : w.Inv d) (after : List (Option EventDraft)) :
    ∃ added lastId', Remaining d w.chain.committed w.chain.lastId
      (fun r => !archives rschema policyRow now w.stored r) added
      (tableAfterwards d w rschema policyRow now after) lastId' := by
  have hlinked : (ledgerSealing d).Linked genesisHash w.chain.committed.rows :=
    EventLog.linked_of_grows_empty hsha hinv.chain.committed
  have hkept : (tableAfterRetention rschema policyRow now w.chain.committed w.stored).rows =
      w.chain.committed.rows.filter fun r => !archives rschema policyRow now w.stored r :=
    tableAfterRetention_rows
  have hordered : EventLog.Ordered ⟨(tableAfterRetention rschema policyRow now
      w.chain.committed w.stored).rows, w.chain.lastId⟩ := by
    rw [hkept]
    exact hinv.ordered.filter _
  obtain ⟨lastId', hgrows⟩ := appendEvents_grows (d := d) hordered after
  obtain ⟨added, hrows, hadded, -⟩ := hgrows.linked hsha hordered
  obtain ⟨added', hrows', hids⟩ := hgrows.exists_added
  have hsame : added' = added := List.append_cancel_left (hrows'.symm.trans hrows)
  subst hsame
  refine ⟨added', lastId', hinv.ordered, hlinked, ?_, ?_, hids, hgrows.ordered hordered⟩
  · rw [← hkept]
    exact hrows
  · rw [← hkept]
    exact hadded

/-- A run that takes nothing does no harm. -/
theorem valid_of_nothing_taken {w : VerifyWorld} {t' : EventTable} {lastId' : Int}
    {added : List LedgerEvent} {archived : LedgerEvent → Bool}
    (hsha : ∀ p, d.sha256 p ≠ genesisHash) (hinv : w.Inv d)
    (h : Remaining d w.chain.committed w.chain.lastId (fun r => !archived r) added t' lastId')
    (hnone : ∀ r, archived r = false) (hseal : schema.supportsSeal = true) :
    (verifyLedgerChain d schema t' w.stored true).1.valid = true ∧
      ArchivalSafe archived w.chain.committed w.stored := by
  have hall : (w.chain.committed.rows.filter fun r => !archived r) = w.chain.committed.rows :=
    filter_not_eq_self fun r _ => hnone r
  have hprefix : w.chain.committed.rows <+: t'.rows := by
    rw [h.rows, hall]
    exact List.prefix_append _ _
  have hlinked : (ledgerSealing d).Linked genesisHash t'.rows := by
    rw [h.rows, linked_remaining_iff hsha h.ordered h.linked h.added_linked, hall]
    exact h.linked
  refine ⟨?_, fun c _ => Or.inl fun r _ _ => hnone r⟩
  exact verifyLedgerChain_valid_of_linked h.ordered' hlinked
    (fun c hc => (hinv.stored c hc).mono hprefix) hseal

theorem supportsSeal_of_valid {w : VerifyWorld} {incremental : Bool}
    (hvalid : (w.verify d schema incremental).1.valid = true) : schema.supportsSeal = true := by
  by_contra hno
  rw [Bool.not_eq_true] at hno
  simp [VerifyWorld.verify, verifyLedgerChain, hno, sealSchemaUnavailable] at hvalid

/-- On a chain that was once verified, whatever was appended, verified and saved since: after
any retention run and any further appends, the next incremental verification is valid exactly
when the run was safe for the stored checkpoint. -/
theorem retention_keeps_valid_iff (hsha : ∀ p, d.sha256 p ≠ genesisHash)
    (before since : List VerifyAction) (ledgerTable : Bool) (policyRow : Option RetentionPolicy)
    (now : Timestamp) (after : List (Option EventDraft)) :
    let verified := VerifyWorld.initial.run d schema before
    let w := verified.run d schema since
    let rschema : RetentionSchema := ⟨ledgerTable, schema.supportsCheckpoints⟩
    let t' := tableAfterwards d w rschema policyRow now after
    (verified.verify d schema true).1.valid = true →
    Set.InjOn d.sha256 (payloads d w.chain.committed t') →
      ((verifyLedgerChain d schema t' w.stored true).1.valid = true ↔
        ArchivalSafe (archives rschema policyRow now w.stored) w.chain.committed w.stored) := by
  intro verified w rschema t' hvalid hinj
  have hinv : w.Inv d :=
    VerifyWorld.run_inv (VerifyWorld.run_inv VerifyWorld.initial_inv before) since
  have hseal := supportsSeal_of_valid hvalid
  obtain ⟨added, lastId', h⟩ : ∃ added lastId', Remaining d w.chain.committed w.chain.lastId
      (fun r => !archives rschema policyRow now w.stored r) added t' lastId' :=
    remaining_tableAfterwards hsha hinv after
  by_cases hnone : ∀ r, archives rschema policyRow now w.stored r = false
  · obtain ⟨hv, hsafe⟩ : (verifyLedgerChain d schema t' w.stored true).1.valid = true ∧ _ :=
      valid_of_nothing_taken hsha hinv h hnone hseal
    exact iff_of_true hv hsafe
  · -- something is taken, so there is a checkpoint, and only what it covers is taken
    push Not at hnone
    obtain ⟨x, hx⟩ := hnone
    rw [ne_eq, Bool.not_eq_false] at hx
    cases hstored : w.stored with
    | none =>
      rw [hstored, archives_none] at hx
      cases hx
    | some c =>
      obtain ⟨before, last, rest, hrows, hc⟩ := hinv.stored c hstored
      have hmem : last ∈ w.chain.committed.rows := by simp [hrows]
      rw [hstored] at hx h
      have hcheckpoints : schema.supportsCheckpoints = true := (eventId_le_of_archives hx).1
      rw [ArchivalSafe]
      simp only [Option.mem_def, Option.some.injEq, forall_eq']
      cases hlast : archives rschema policyRow now (some c) last with
      | false =>
        have hrest : ∀ r ∈ rest, (!archives rschema policyRow now (some c) r) = true := by
          intro r hr
          rw [Bool.not_eq_true', Bool.eq_false_iff]
          intro ha
          have hle := (eventId_le_of_archives ha).2
          have hinc := hinv.ordered.increasing
          rw [ChainState.log, hrows] at hinc
          have hlt := (List.pairwise_cons.mp (List.pairwise_append.mp hinc).2.1).1 r hr
          rw [hc.eventId] at hle
          omega
        refine iff_of_true
          (h.valid_of_kept hsha hrows hc (by simp [hlast]) hrest hseal hcheckpoints) (Or.inl ?_)
        intro r hr hid
        rw [hc.eventId] at hid
        rw [List.inj_on_of_nodup_map w.chain.committed.nodup hr hmem hid]
        exact hlast
      | true =>
        rw [h.valid_iff_of_taken hsha hinj hrows hc (by simp [hlast]) hseal hcheckpoints,
          h.linked_iff hsha hinj]
        have hgone : ¬ ∀ r ∈ w.chain.committed.rows, r.eventId = c.lastVerifiedEventId →
            archives rschema policyRow now (some c) r = false := by
          intro hall
          rw [hall last hmem hc.eventId.symm] at hlast
          cases hlast
        simp only [hgone, false_or, Bool.not_eq_false', Bool.not_eq_true']

/-! ## The checkpoint's row archived -/

theorem firstRow_sealed : firstDraft.sealed chainDeployment [] 1 = firstRow := by
  rw [EventDraft.sealed, sealHash_eq_digest chainDeployment firstDraft 1 _ firstHash]
  have hprev : predecessorHash [] 1 = genesisHash := rfl
  have hdigest : (ledgerSealing chainDeployment).digest
      ((firstDraft.row 1).seal genesisHash firstHash) = firstHash := firstRow_digest
  rw [hprev, hdigest, firstRow]

theorem secondRow_sealed : secondDraft.sealed chainDeployment [firstRow] 2 = secondRow := by
  rw [EventDraft.sealed, sealHash_eq_digest chainDeployment secondDraft 2 _ secondHash]
  have hprev : predecessorHash [firstRow] 2 = firstHash := by decide +kernel
  have hdigest : (ledgerSealing chainDeployment).digest
      ((secondDraft.row 2).seal firstHash secondHash) = secondHash := secondRow_digest
  rw [hprev, hdigest, secondRow]

/-- The first event is appended. -/
def sampleBefore : List VerifyAction := (appendOne 0 firstDraft).map fun a => .txn a.1 a.2

/-- The chain is verified and the checkpoint saved; then the second event is appended. -/
def sampleSince : List VerifyAction :=
  [.verify true, .persist 0] ++ (appendOne 0 secondDraft).map fun a => .txn a.1 a.2

/-- Both tables of the verification exist. -/
def sampleSchema : ChainSchema := ⟨true, true⟩

/-- The sample after its first event. -/
def firstWorld : VerifyWorld := ⟨⟨firstTable, 1, none, fun _ => AppendTxn.idle⟩, none, []⟩

/-- The sample after its second event, with the checkpoint of the first. -/
def secondWorld : VerifyWorld :=
  ⟨⟨sampleTable, 2, none, fun _ => AppendTxn.idle⟩, some firstCheckpoint, []⟩

theorem sampleBefore_run :
    VerifyWorld.initial.run chainDeployment sampleSchema sampleBefore = firstWorld := by
  have hput : (Table.empty : EventTable).put (firstDraft.sealed chainDeployment [] 1) =
      firstTable := by
    rw [firstRow_sealed]
    exact Table.ext rfl
  have hrun := run_appendOne (d := chainDeployment) (s := ChainState.initial) (i := 0)
    EventLog.empty_ordered rfl rfl firstDraft
  rw [sampleBefore, VerifyWorld.run_txns, VerifyWorld.initial, hrun, firstWorld, ← hput]
  rfl

theorem sampleSince_run :
    (VerifyWorld.initial.run chainDeployment sampleSchema sampleBefore).run chainDeployment
      sampleSchema sampleSince = secondWorld := by
  have hput : firstTable.put (secondDraft.sealed chainDeployment [firstRow] 2) = sampleTable := by
    rw [secondRow_sealed]
    exact Table.ext rfl
  have hordered : EventLog.Ordered ⟨firstTable.rows, 1⟩ := by
    refine ⟨List.pairwise_singleton _ _, ?_, ?_, by decide⟩
    · intro r hr
      rw [List.mem_singleton.mp hr]
      decide
    · intro r hr
      rw [List.mem_singleton.mp hr]
      decide
  have hsaved : firstWorld.run chainDeployment sampleSchema [.verify true, .persist 0] =
      ⟨firstWorld.chain, some firstCheckpoint, []⟩ := by
    simp only [VerifyWorld.run, List.foldl_cons, List.foldl_nil, VerifyWorld.step,
      VerifyWorld.verify, sampleSchema, firstWorld, firstCheckpoint_saved]
    rfl
  have hrun := run_appendOne (d := chainDeployment) (s := firstWorld.chain) (i := 0) hordered rfl
    rfl secondDraft
  rw [sampleBefore_run, sampleSince, VerifyWorld.run_append, hsaved, VerifyWorld.run_txns, hrun,
    secondWorld, ← hput]
  rfl

/-- A year and a day after the sample, with archival enabled. -/
def samplePolicy : RetentionPolicy := ⟨90, 365, true⟩

/-- A year and a day after the first event of the sample. -/
def sampleNow : Timestamp := sampleStart + 366 * 86400000000

/-- The sample chain without its first event. -/
def secondTable : EventTable := ⟨[secondRow], by decide⟩

theorem sample_afterwards :
    tableAfterwards chainDeployment secondWorld ⟨true, true⟩ (some samplePolicy) sampleNow [] =
      secondTable := by
  have htaken : archives ⟨true, true⟩ (some samplePolicy) sampleNow (some firstCheckpoint)
      firstRow = true := by decide +kernel
  have hkept : archives ⟨true, true⟩ (some samplePolicy) sampleNow (some firstCheckpoint)
      secondRow = false := by decide +kernel
  apply Table.ext
  change (tableAfterRetention _ _ _ sampleTable _).rows = _
  rw [tableAfterRetention_rows]
  simp only [sampleTable, secondTable, secondWorld]
  rw [List.filter_cons_of_neg (by simp [htaken]), List.filter_cons_of_pos (by simp [hkept]),
    List.filter_nil]

theorem sample_verified :
    ((VerifyWorld.initial.run chainDeployment sampleSchema sampleBefore).verify chainDeployment
      sampleSchema true).1.valid = true := by
  have hlinked : (ledgerSealing chainDeployment).Linked genesisHash [firstRow] :=
    ⟨sample_linked.1, sample_linked.2.1, trivial⟩
  have hfull : verifyLedgerChain chainDeployment ⟨true, true⟩ firstTable none true =
      verifyFull chainDeployment firstTable true := by
    simp [verifyLedgerChain, firstTable]
  have hvalid : (verifyLedgerRows chainDeployment firstTable 0 0).valid = true :=
    (verifyLedgerRows_valid_iff firstTable).mpr hlinked
  rw [sampleBefore_run, VerifyWorld.verify, sampleSchema]
  simp only [firstWorld, hfull, verifyFull, hvalid]

theorem sample_invalid : (verifyLedgerChain chainDeployment sampleSchema secondTable
    (some firstCheckpoint) true).1.valid = false := by
  decide +kernel

/-- The checkpoint's row is archived, the next row survives, and the verification that
follows fails. -/
theorem archived_anchor_breaks_verification :
    let verified := VerifyWorld.initial.run chainDeployment sampleSchema sampleBefore
    let w := verified.run chainDeployment sampleSchema sampleSince
    (verified.verify chainDeployment sampleSchema true).1.valid = true ∧
    (verifyLedgerChain chainDeployment sampleSchema
      (tableAfterwards chainDeployment w ⟨true, true⟩ (some samplePolicy) sampleNow []) w.stored
      true).1.valid = false := by
  refine ⟨sample_verified, ?_⟩
  rw [sampleSince_run, sample_afterwards]
  exact sample_invalid

theorem sampleSecond_injOn :
    Set.InjOn chainDeployment.sha256 (payloads chainDeployment sampleTable secondTable) := by
  apply sample_injOn.mono
  rintro text ⟨r, hr, rfl⟩
  refine ⟨r, ?_, rfl⟩
  rcases List.mem_append.mp hr with hr | hr
  · exact List.mem_append_left _ hr
  · rw [List.mem_singleton.mp hr]
    simp [sampleTable]

theorem retention_keeps_valid_iff_sample :
    ¬ ArchivalSafe (archives ⟨true, true⟩ (some samplePolicy) sampleNow (some firstCheckpoint))
      sampleTable (some firstCheckpoint) := by
  have hiff := @retention_keeps_valid_iff _ sampleSchema chainDeployment_ne_genesis
    sampleBefore sampleSince true (some samplePolicy) sampleNow [] sample_verified
  simp only [sampleSince_run] at hiff
  have hafter : tableAfterwards chainDeployment secondWorld ⟨true, sampleSchema.supportsCheckpoints⟩
      (some samplePolicy) sampleNow [] = secondTable := sample_afterwards
  rw [hafter] at hiff
  intro hsafe
  have hvalid := (hiff sampleSecond_injOn).mpr hsafe
  have hinvalid : (verifyLedgerChain chainDeployment sampleSchema secondTable secondWorld.stored
      true).1.valid = false := sample_invalid
  rw [hinvalid] at hvalid
  cases hvalid

end Governor.Chain
