import Mathlib
import Governor.Ledger.Steady
import Governor.Chain.Log

/-!
# The events of the ledger are one growing log

Whatever a transaction of the sidecar or the reconciler does, it adds sealed rows at the end
of `ledger_events` or draws ids for rows that are rolled back. So every run from an empty
table leaves one chain from the genesis hash, and a verification of it succeeds and saves a
checkpoint of its last row.
-/

namespace Governor.Chain

open Ledger

variable {d : Deployment} {log : EventLog} {w : LedgerWorld} {t : EventTable}

/-- The events of a world as a log. -/
def eventLog (w : LedgerWorld) : EventLog := ⟨w.tables.ledgerEvents.rows, w.outside.lastEventId⟩

/-- The committed and the working tables of a session hold logs grown from the given one. -/
structure Growing (d : Deployment) (log : EventLog) (s : LedgerSession) : Prop where
  committed : log.Grows d ⟨s.committed.ledgerEvents.rows, s.outside.lastEventId⟩
  working : log.Grows d ⟨s.working.ledgerEvents.rows, s.outside.lastEventId⟩

theorem growing_steady (h : log.Ordered) : Steady d (Growing d log) where
  drawn hs := (hs.working.ordered h).drawn
  write := by
    intro s db hdb hs
    refine ⟨hs.committed, ?_⟩
    rw [hdb]
    exact hs.working
  commit hs := ⟨hs.working, hs.working⟩
  append := by
    intro e s s' happ hs
    have hid : s'.outside.lastEventId = s.outside.lastEventId + 1 := by rw [happ.outside]
    constructor
    · rw [happ.committed, hid]
      exact hs.committed.draw (le_of_lt (Int.lt_succ _))
    · rw [happ.rows, hid]
      exact hs.working.append e

/-- A transaction only ever adds to the log. -/
theorem step_grows (h : (eventLog w).Ordered) (a : Action) :
    (eventLog w).Grows d (eventLog (step d w a)) := by
  have hkeeps : Tx.Keeps (Growing d (eventLog w)) (a.body d) :=
    (growing_steady h).keeps_body (fun _ hs => ⟨hs.committed, hs.working⟩) a
  have hstart : Growing d (eventLog w) ⟨w.tables, w.tables, w.outside⟩ :=
    ⟨EventLog.Grows.refl, EventLog.Grows.refl⟩
  apply Tx.run_of_wp (R := fun _ w' => (eventLog w).Grows d (eventLog w')) (x := a.body d)
  exact Tx.wp_mono (hkeeps _ hstart) (fun _ _ hs => hs.committed) (fun _ _ hs => hs.committed)

theorem EventLog.Grows.trans {log' log'' : EventLog} (h : log.Grows d log')
    (h' : log'.Grows d log'') : log.Grows d log'' := by
  induction h' with
  | refl => exact h
  | draw _ hle ih => exact ih.draw hle
  | append _ e ih => exact ih.append e

theorem run_grows (h : (eventLog w).Ordered) (actions : List Action) :
    (eventLog w).Grows d (eventLog (run d w actions)) := by
  induction actions generalizing w with
  | nil => exact EventLog.Grows.refl
  | cons a as ih =>
    have hstep := step_grows (d := d) h a
    exact hstep.trans (ih (hstep.ordered h))

/-- The first verification of a chain saves a checkpoint of its last row. -/
theorem verifyLedgerChain_linked {last : LedgerEvent} {lastId : Int}
    (h : EventLog.Ordered ⟨t.rows, lastId⟩)
    (hlinked : (ledgerSealing d).Linked genesisHash t.rows) (hlast : t.rows.getLast? = some last) :
    (verifyLedgerChain d ⟨true, true⟩ t none true).2 = some ⟨last.eventId,
      (ledgerSealing d).tip genesisHash t.rows, t.rows.length, t.rows.length⟩ := by
  have hne : t.rows ≠ [] := by
    intro hnil
    rw [hnil] at hlast
    cases hlast
  have horder : orderBy LedgerEvent.eventId t.rows = t.rows := h.orderBy_eq
  have hstate : verifyLedgerRows d t 0 0 = linkedState d 0 0 genesisHash t.rows := by
    have hscan := verifyLedgerRows_linked (t := t) (horder.symm ▸ hlinked)
    rwa [horder] at hscan
  have hempty : t.rows.isEmpty = false := by simpa using hne
  simp only [verifyLedgerChain, verifyFull, hstate, hempty, Option.bind_none, Option.getD_none,
    Bool.not_true, Bool.false_eq_true, ite_false, Bool.and_true, ite_true]
  simp [linkedState, LedgerVerifyState.checkpoint, hne, lastIdOr, hlast]

end Governor.Chain
