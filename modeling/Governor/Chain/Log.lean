import Mathlib
import Governor.Ledger.System
import Governor.Chain.Verify

/-!
# The log of ledger events

An abstract account of what a run may do to `ledger_events`: ids are drawn from the
sequence, some of them for rows that are never committed, and every committed row is
sealed onto the rows before it. A log that grows this way keeps its order by id, and
the rows it gains are chained to the hash that it ended with.
-/

namespace Governor.Chain

open Ledger

/-- The rows of `ledger_events` and the last id drawn from their sequence. -/
@[ext] structure EventLog where
  rows : List LedgerEvent
  lastId : Int

namespace EventLog

/-- The log before anything is written. -/
def empty : EventLog := ⟨[], 0⟩

/-- One sealed row more. -/
def append (d : Deployment) (log : EventLog) (e : EventDraft) : EventLog :=
  ⟨log.rows ++ [e.sealed d log.rows (log.lastId + 1)], log.lastId + 1⟩

/-- The hash that the next row is sealed onto. -/
def tip (log : EventLog) : Hash := predecessorHash log.rows (log.lastId + 1)

/-- Growth of a log by sealed rows, with gaps in the ids where rows were rolled back. -/
inductive Grows (d : Deployment) (log : EventLog) : EventLog → Prop where
  | refl : Grows d log log
  | draw {grown : EventLog} {lastId : Int} (h : Grows d log grown) (hle : grown.lastId ≤ lastId) :
      Grows d log ⟨grown.rows, lastId⟩
  | append {grown : EventLog} (h : Grows d log grown) (e : EventDraft) :
      Grows d log (grown.append d e)

/-- Ids increase along the log, start above zero and come from the sequence. -/
structure Ordered (log : EventLog) : Prop where
  increasing : log.rows.Pairwise fun a b => a.eventId < b.eventId
  drawn : ∀ r ∈ log.rows, r.eventId ≤ log.lastId
  positive : ∀ r ∈ log.rows, 0 < r.eventId
  started : 0 ≤ log.lastId

theorem empty_ordered : empty.Ordered :=
  ⟨List.Pairwise.nil, by simp [empty], by simp [empty], le_refl _⟩

variable {d : Deployment} {log grown : EventLog}

theorem Ordered.append (h : log.Ordered) (e : EventDraft) : (log.append d e).Ordered := by
  have hid : (e.sealed d log.rows (log.lastId + 1)).eventId = log.lastId + 1 := rfl
  have hstarted := h.started
  refine ⟨?_, ?_, ?_, ?_⟩
  · rw [EventLog.append, List.pairwise_append]
    refine ⟨h.increasing, List.pairwise_singleton _ _, ?_⟩
    intro a ha b hb
    have hle := h.drawn a ha
    rw [List.mem_singleton.mp hb, hid]
    omega
  · intro r hr
    rcases List.mem_append.mp hr with hr | hr
    · have hle := h.drawn r hr
      change r.eventId ≤ log.lastId + 1
      omega
    · rw [List.mem_singleton.mp hr, hid]
      exact le_refl _
  · intro r hr
    rcases List.mem_append.mp hr with hr | hr
    · exact h.positive r hr
    · rw [List.mem_singleton.mp hr, hid]
      omega
  · change 0 ≤ log.lastId + 1
    omega

theorem Ordered.draw (h : log.Ordered) {lastId : Int} (hle : log.lastId ≤ lastId) :
    Ordered ⟨log.rows, lastId⟩ :=
  ⟨h.increasing, fun r hr => (h.drawn r hr).trans hle, h.positive, h.started.trans hle⟩

theorem Grows.ordered (h : log.Grows d grown) (hlog : log.Ordered) : grown.Ordered := by
  induction h with
  | refl => exact hlog
  | draw _ hle ih => exact ih.draw hle
  | append _ e ih => exact ih.append e

theorem Grows.lastId_le (h : log.Grows d grown) : log.lastId ≤ grown.lastId := by
  induction h with
  | refl => exact le_refl _
  | draw _ hle ih => exact ih.trans hle
  | @append grown _ e ih =>
    change log.lastId ≤ grown.lastId + 1
    omega

/-- Nothing stored is changed or removed, and what is added has fresh ids. -/
theorem Grows.exists_added (h : log.Grows d grown) :
    ∃ added, grown.rows = log.rows ++ added ∧ ∀ r ∈ added, log.lastId < r.eventId := by
  induction h with
  | refl => exact ⟨[], by simp⟩
  | draw _ _ ih => exact ih
  | @append grown hg e ih =>
    obtain ⟨added, hrows, hids⟩ := ih
    refine ⟨added ++ [e.sealed d grown.rows (grown.lastId + 1)], ?_, ?_⟩
    · rw [EventLog.append, hrows, List.append_assoc]
    · intro r hr
      rcases List.mem_append.mp hr with hr | hr
      · exact hids r hr
      · have hle := hg.lastId_le
        rw [List.mem_singleton.mp hr]
        change log.lastId < grown.lastId + 1
        omega

/-! ## The chain of a log -/

/-- Rows above the last id do not count for a log whose ids are all drawn. -/
theorem Ordered.predecessorHash_eq (h : log.Ordered) {eventId : Int}
    (hlt : log.lastId < eventId) : predecessorHash log.rows eventId = log.tip := by
  rw [tip, predecessorHash, predecessorHash]
  have hfilter : ∀ r ∈ log.rows,
      decide (r.rowHash ≠ none ∧ r.rowHash ≠ some genesisHash ∧ r.eventId < eventId) =
        decide (r.rowHash ≠ none ∧ r.rowHash ≠ some genesisHash ∧
          r.eventId < log.lastId + 1) := by
    intro r hr
    have hle := h.drawn r hr
    have h₁ : r.eventId < eventId := by omega
    have h₂ : r.eventId < log.lastId + 1 := by omega
    simp only [h₁, h₂]
  rw [List.filter_congr hfilter]

/-- A row with a hash other than the genesis hash is the next row's predecessor. -/
theorem predecessorHash_concat {rows : List LedgerEvent} {row : LedgerEvent} {h : Hash}
    {eventId : Int} (hids : ∀ r ∈ rows, r.eventId < row.eventId) (hhash : row.rowHash = some h)
    (hne : h ≠ genesisHash) (hlt : row.eventId < eventId) :
    predecessorHash (rows ++ [row]) eventId = h := by
  rw [predecessorHash, List.filter_append, List.filter_cons_of_pos (by simp [hhash, hne, hlt]),
    List.filter_nil, lastBy_concat fun r hr => hids r (List.mem_filter.mp hr).1,
    Option.bind_some, hhash, Option.getD_some]

theorem tip_append (hsha : ∀ p, d.sha256 p ≠ genesisHash) (h : log.Ordered) (e : EventDraft) :
    (log.append d e).tip =
      (ledgerSealing d).digest (e.sealed d log.rows (log.lastId + 1)) := by
  have hid : (e.sealed d log.rows (log.lastId + 1)).eventId = log.lastId + 1 := rfl
  apply predecessorHash_concat _ (e.sealed_hash d log.rows (log.lastId + 1)) (hsha _)
  · rw [hid]
    exact Int.lt_succ _
  · intro r hr
    have hle := h.drawn r hr
    rw [hid]
    omega

/-- The rows that a log gains are linked from the hash it ended with. -/
theorem Grows.linked (hsha : ∀ p, d.sha256 p ≠ genesisHash) (h : log.Grows d grown)
    (hlog : log.Ordered) : ∃ added, grown.rows = log.rows ++ added ∧
      (ledgerSealing d).Linked log.tip added ∧ grown.tip = (ledgerSealing d).tip log.tip added := by
  induction h with
  | refl => exact ⟨[], by simp⟩
  | @draw grown lastId hg hle ih =>
    obtain ⟨added, hrows, hlinked, htip⟩ := ih
    refine ⟨added, hrows, hlinked, ?_⟩
    have hlt : grown.lastId < lastId + 1 := by omega
    rw [← htip]
    exact (hg.ordered hlog).predecessorHash_eq hlt
  | @append grown hg e ih =>
    obtain ⟨added, hrows, hlinked, htip⟩ := ih
    refine ⟨added ++ [e.sealed d grown.rows (grown.lastId + 1)], ?_, ?_, ?_⟩
    · rw [EventLog.append, hrows, List.append_assoc]
    · rw [Sealing.linked_append, ← htip]
      exact ⟨hlinked, e.sealed_prev d _ _, e.sealed_hash d _ _, trivial⟩
    · rw [Sealing.tip_concat]
      exact tip_append hsha (hg.ordered hlog) e

/-- A log that grew from nothing is one chain from the genesis hash. -/
theorem linked_of_grows_empty (hsha : ∀ p, d.sha256 p ≠ genesisHash) (h : empty.Grows d grown) :
    (ledgerSealing d).Linked genesisHash grown.rows := by
  obtain ⟨added, hrows, hlinked, -⟩ := h.linked hsha empty_ordered
  rw [hrows]
  exact hlinked

/-! ## Selecting from an ordered log -/

theorem Ordered.orderBy_eq (h : log.Ordered) : orderBy LedgerEvent.eventId log.rows = log.rows := by
  apply List.Pairwise.insertionSort_eq
  exact h.increasing.imp fun hab => le_of_lt hab

/-- The row with the greatest id is the last one. -/
theorem Ordered.lastBy_eq (h : log.Ordered) :
    lastBy LedgerEvent.eventId log.rows = log.rows.getLast? := by
  obtain ⟨rows, lastId⟩ := log
  cases rows using List.reverseRecOn with
  | nil => rfl
  | append_singleton rows r =>
    have hlt : ∀ x ∈ rows, x.eventId < r.eventId := by
      intro x hx
      exact (List.pairwise_append.mp h.increasing).2.2 x hx r (by simp)
    rw [lastBy_concat hlt, List.getLast?_concat]

end EventLog

/-! ## A sample chain -/

/-- The refund of an expired operation. -/
def sampleDraft (key : String) (recordedAt : Timestamp) : EventDraft where
  idempotencyKey := key
  userId := "user-1"
  eventType := EventType.expiredSweep.text
  amountDelta := 1000000000000
  metadata := [("reason", .str "reconciler_expiry_claim")]
  recordedAt := recordedAt

/-- The first event of the sample. -/
def firstDraft : EventDraft := sampleDraft "op-1" sampleStart

/-- The second event of the sample, ten minutes later. -/
def secondDraft : EventDraft := sampleDraft "op-2" (sampleStart + 600000000)

/-- The digest of the first event with id 1. -/
def firstHash : Hash :=
  ⟨"69a80f48002e8150648dbfa4c584fc30a481bc1cffc37f49857f94c6d3fd04af", by decide +kernel⟩

/-- The digest of the second event with id 2, after the first. -/
def secondHash : Hash :=
  ⟨"fea700380d602aec54bd140d970c0637a2e9b758844fa404bddd2425883ac509", by decide +kernel⟩

/-- The digest of the second event with id 3, after the first. -/
def laterHash : Hash :=
  ⟨"44e592b1f7f218ecd61ad419a2ec1e8e84ec7e08322ef7f70c43878615db349d", by decide +kernel⟩

/-- The text hashed for an event of the sample. -/
def samplePayload (eventId : Int) (key recordedAt : String) (prevHash : Hash) : String :=
  rowPayload eventId key "user-1" "EXPIRED_SWEEP" "1.000000000000"
    (.obj [("reason", .str "reconciler_expiry_claim")]) recordedAt prevHash

/-- The texts that the sample hashes, with their SHA-256 digests. -/
def chainDigests : List (String × Hash) :=
  [(samplePayload 1 "op-1" "2026-01-01 00:00:00+00" genesisHash, firstHash),
    (samplePayload 2 "op-2" "2026-01-01 00:10:00+00" firstHash, secondHash),
    (samplePayload 3 "op-2" "2026-01-01 00:10:00+00" firstHash, laterHash)]

/-- The sample's surroundings; a text outside the sample has an arbitrary digest. -/
def chainDeployment : Deployment where
  sha256 text := ((chainDigests.find? fun p => p.1 = text).map Prod.snd).getD laterHash
  loads _ := none
  timestampText t :=
    if t = sampleStart then "2026-01-01 00:00:00+00" else "2026-01-01 00:10:00+00"
  attributionSchema := true

theorem chainDeployment_sha256 (text : String) : chainDeployment.sha256 text =
    ((chainDigests.find? fun p => p.1 = text).map Prod.snd).getD laterHash := by
  rw [chainDeployment]

/-- No text of the sample or outside it is hashed to the genesis hash. -/
theorem chainDeployment_ne_genesis (text : String) :
    chainDeployment.sha256 text ≠ genesisHash := by
  have hall : ∀ p ∈ chainDigests, p.2 ≠ genesisHash := by
    simp only [chainDigests, List.forall_mem_cons, List.not_mem_nil, false_imp_iff,
      implies_true, and_true]
    decide +kernel
  cases hfind : chainDigests.find? fun p => p.1 = text with
  | none =>
    simp only [chainDeployment, hfind, Option.map_none, Option.getD_none]
    decide +kernel
  | some p =>
    simp only [chainDeployment, hfind, Option.map_some, Option.getD_some]
    exact hall p (List.mem_of_find?_eq_some hfind)

end Governor.Chain
