import Mathlib
import Governor.Core.Run
import Governor.Ledger.Conservation
import Governor.Ledger.History
import Governor.Chain.Retention
import Governor.Chain.Growth

/-!
# The finance-ops probe beside retention

The reconciler counts five kinds of violation after every sweep and halts the sidecar's
writes when one is found. Four of the counts are zero in every run: retention takes events
away, and what is left of an operation's events are some of the postings of its moves. The
fifth looks for the hold event of every stranded operation, and retention may take it.
-/

namespace Governor.Operations

open Ledger Chain

/-! ## The probe -/

/-- The counts of `assert_finance_ops_invariants`. -/
@[ext] structure Violations where
  negativeWallets : Nat
  traceCapOverruns : Nat
  duplicateRefunds : Nat
  duplicateSettlements : Nat
  strandedWithoutHoldEvent : Nat
  deriving DecidableEq, Repr

/-- All counts zero. -/
def Violations.none : Violations := ⟨0, 0, 0, 0, 0⟩

/-- `sum(violations.values())`. -/
def Violations.total (v : Violations) : Nat :=
  v.negativeWallets + v.traceCapOverruns + v.duplicateRefunds + v.duplicateSettlements +
    v.strandedWithoutHoldEvent

/-- The counts as Python prints the dict. -/
def Violations.text (v : Violations) : String :=
  "\x7b'negative_wallets': " ++ toString v.negativeWallets ++
    ", 'trace_cap_overruns': " ++ toString v.traceCapOverruns ++
    ", 'duplicate_refunds': " ++ toString v.duplicateRefunds ++
    ", 'duplicate_settlements': " ++ toString v.duplicateSettlements ++
    ", 'stranded_without_hold_event': " ++ toString v.strandedWithoutHoldEvent ++ "\x7d"

/-- `SELECT idempotency_key … WHERE event_type IN … GROUP BY … HAVING COUNT(*) > 1`, counted. -/
def duplicatedKeys (rows : List LedgerEvent) (eventTypes : List EventType) : Nat :=
  (rows.map LedgerEvent.idempotencyKey).dedup.countP fun key =>
    1 < countEvents (storedEvents rows key) eventTypes

/-- Whether an operation has a hold event. -/
def hasHoldEvent (rows : List LedgerEvent) (key : String) : Bool :=
  rows.any fun e => e.idempotencyKey = key && e.eventType = EventType.strandedHold.text

/-- The five queries of `assert_finance_ops_invariants`. -/
def violations (db : Database) : Violations where
  negativeWallets := db.userWallets.rows.countP fun w => w.balance < 0
  traceCapOverruns := db.traceBudgetState.rows.countP fun t => t.capAmount < t.reservedTotal
  duplicateRefunds := duplicatedKeys db.ledgerEvents.rows [.expiredSweep]
  duplicateSettlements :=
    duplicatedKeys db.ledgerEvents.rows [.settledFinal, .reconciledLateSettle]
  strandedWithoutHoldEvent := db.escrowLedger.rows.countP fun r =>
    r.status = .stranded && !hasHoldEvent db.ledgerEvents.rows r.idempotencyKey

/-- `FinanceOpsInvariantError`. -/
structure FinanceOpsInvariantError where
  message : String
  deriving DecidableEq, Repr

/-- `assert_finance_ops_invariants`. -/
def assertFinanceOpsInvariants (db : Database) : Except FinanceOpsInvariantError Violations :=
  if (violations db).total ≠ 0 then
    .error ⟨"finance ops invariant violations: " ++ (violations db).text⟩
  else .ok (violations db)

/-! ## The ledger with verification and retention -/

/-- The ledger with the checkpoint row, and the checkpoints still to be written. -/
structure OpsWorld where
  ledger : LedgerWorld
  /-- The row of `ledger_chain_verify_checkpoints`. -/
  stored : Option VerifyCheckpoint
  /-- Checkpoints of verifications that have read and not yet saved. -/
  pending : List VerifyCheckpoint

/-- What happens next. -/
inductive OpsAction where
  /-- A transaction of the sidecar or the sweep. -/
  | ledger (a : Action)
  /-- `verify_ledger_chain` reads its snapshot. -/
  | verify (schema : ChainSchema) (incremental : Bool)
  /-- `_persist_checkpoint` of the verification at the given place. -/
  | persist (i : Nat)
  /-- `run_retention`. -/
  | retention (schema : RetentionSchema) (policyRow : Option RetentionPolicy) (now : Timestamp)

namespace OpsWorld

/-- The tables after `run_retention`. -/
def retain (w : OpsWorld) (schema : RetentionSchema) (policyRow : Option RetentionPolicy)
    (now : Timestamp) : Database :=
  { w.ledger.tables with
    ledgerEvents := tableAfterRetention schema policyRow now w.ledger.tables.ledgerEvents
      w.stored }

/-- One step. -/
def step (d : Deployment) (w : OpsWorld) : OpsAction → OpsWorld
  | .ledger a => { w with ledger := Ledger.step d w.ledger a }
  | .verify schema incremental =>
    { w with pending := w.pending ++ (verifyLedgerChain d schema w.ledger.tables.ledgerEvents
        w.stored incremental).2.toList }
  | .persist i =>
    match w.pending[i]? with
    | none => w
    | some c => { w with stored := some c, pending := w.pending.eraseIdx i }
  | .retention schema policyRow now =>
    { w with ledger := { w.ledger with tables := w.retain schema policyRow now } }

/-- The probe's verdict in a state. -/
def probe (w : OpsWorld) : Except FinanceOpsInvariantError Violations :=
  assertFinanceOpsInvariants w.ledger.tables

end OpsWorld

/-! ## What archival leaves of the history -/

variable {d : Deployment} {db db' : Database} {c : Change}

/-- The stored events of every operation are some of the postings of a trail that leads to
its row, in their order. -/
def Archived (db : Database) : Prop :=
  ∀ key, ∃ ps, Trail (db.escrowLedger.find? key) ps ∧
    ((storedEvents db.ledgerEvents.rows key).map LedgerEvent.posted).Sublist
      (ps.map Posting.posted)

theorem Archived.idle (hidle : Idle db db') (h : Archived db) : Archived db' := by
  intro key
  rw [hidle.escrowLedger, hidle.ledgerEvents]
  exact h key

theorem Archived.move (hmove : Move d db c db') (h : Archived db) : Archived db' := by
  intro key
  obtain ⟨ps, htrail, hevents⟩ := h key
  rw [hmove.new, Table.find?_put, hmove.events.storedEvents_eq]
  split_ifs with hk
  · rw [hk, hmove.old] at htrail
    refine ⟨ps ++ c.postings, htrail.move hmove.valid, ?_⟩
    rw [List.map_append]
    exact hevents.append (List.Sublist.refl _)
  · rw [List.append_nil]
    exact ⟨ps, htrail, hevents⟩

/-- Deleting events leaves fewer of them. -/
theorem Archived.filter (h : Archived db) {t : EventTable} {p : LedgerEvent → Bool}
    (ht : t.rows = db.ledgerEvents.rows.filter p) : Archived { db with ledgerEvents := t } := by
  intro key
  obtain ⟨ps, htrail, hevents⟩ := h key
  refine ⟨ps, htrail, List.Sublist.trans ?_ hevents⟩
  change ((storedEvents t.rows key).map LedgerEvent.posted).Sublist _
  rw [ht]
  exact (List.filter_sublist.filter _).map _

/-- Stored events occur no more often than the postings of the trail. -/
theorem countEvents_le {events : List LedgerEvent} {ps : List Posting}
    (h : (events.map LedgerEvent.posted).Sublist (ps.map Posting.posted)) (ts : List EventType) :
    countEvents events ts ≤ countPostings ps ts := by
  have hevents : countEvents events ts =
      (events.map LedgerEvent.posted).countP fun x => x.1 ∈ ts.map EventType.text := by
    rw [List.countP_map]
    rfl
  have hpostings : countPostings ps ts =
      (ps.map Posting.posted).countP fun x => x.1 ∈ ts.map EventType.text := by
    rw [List.countP_map, countPostings]
    congr 1
    funext p
    simp [Posting.posted, EventType.text_injective.eq_iff]
  rw [hevents, hpostings]
  exact h.countP_le

/-- Types that occur at most once on every trail are never duplicated. -/
theorem Archived.duplicatedKeys_eq_zero (h : Archived db) {ts : List EventType}
    (hts : ∀ {o ps}, Trail o ps → countPostings ps ts ≤ 1) :
    duplicatedKeys db.ledgerEvents.rows ts = 0 := by
  rw [duplicatedKeys, List.countP_eq_zero]
  intro key _
  obtain ⟨ps, htrail, hevents⟩ := h key
  have hle := (countEvents_le hevents ts).trans (hts htrail)
  simpa using hle

/-! ## The probe in a healthy ledger -/

/-- Every stranded operation has a hold event. -/
def HoldsKept (db : Database) : Prop :=
  ∀ r ∈ db.escrowLedger.rows, r.status = .stranded →
    hasHoldEvent db.ledgerEvents.rows r.idempotencyKey = true

theorem hasHoldEvent_iff {rows : List LedgerEvent} {key : String} :
    hasHoldEvent rows key = true ↔
      ∃ e ∈ rows, e.idempotencyKey = key ∧ e.eventType = EventType.strandedHold.text := by
  simp [hasHoldEvent]

theorem HoldsKept.idle (hidle : Idle db db') (h : HoldsKept db) : HoldsKept db' := by
  intro r hr hs
  rw [hidle.escrowLedger] at hr
  rw [hidle.ledgerEvents]
  exact h r hr hs

theorem HoldsKept.move (hmove : Move d db c db') (h : HoldsKept db) : HoldsKept db' := by
  intro r hr hs
  rw [hasHoldEvent_iff]
  rw [hmove.new, Table.mem_rows_iff, Table.find?_put] at hr
  split_ifs at hr with hk
  · obtain rfl := Option.some.inj hr
    obtain ⟨p, hp, htype⟩ := Transition.strandedHold_mem hmove.valid hs
    obtain ⟨e, he, hkey, heq⟩ := hmove.exists_event hp
    exact ⟨e, he, hkey, by rw [heq, htype]⟩
  · -- the operation did not move, and events are only added
    obtain ⟨e, he, hkey, htype⟩ := hasHoldEvent_iff.mp (h r (Table.mem_of_find? hr) hs)
    obtain ⟨es, hrows, -⟩ := hmove.events
    exact ⟨e, hrows ▸ List.mem_append_left _ he, hkey, htype⟩

/-- What holds of the tables in every run, retention included. -/
structure Healthy (w : LedgerWorld) : Prop where
  sound : Sound w
  solvent : ∀ u, Solvent w.tables.userWallets u
  traces : TracesCount w.tables
  history : Archived w.tables

/-- In a healthy ledger the probe is silent exactly when no hold event is missing. -/
theorem Healthy.probe_iff {w : LedgerWorld} (h : Healthy w) :
    assertFinanceOpsInvariants w.tables = .ok Violations.none ↔ HoldsKept w.tables := by
  have hwallets : (violations w.tables).negativeWallets = 0 := by
    rw [violations, List.countP_eq_zero]
    intro x hx
    have hpos : 0 ≤ x.balance := by
      apply h.solvent x.userId
      rw [Table.find?_of_mem hx]
      rfl
    simpa using hpos
  have htraces : (violations w.tables).traceCapOverruns = 0 := by
    rw [violations, List.countP_eq_zero]
    intro t ht
    have hcap := (h.traces.stored t.traceId t (Table.find?_of_mem ht)).2.2
    simpa using hcap
  have hrefunds : (violations w.tables).duplicateRefunds = 0 :=
    h.history.duplicatedKeys_eq_zero fun htrail => htrail.counts.expired
  have hsettlements : (violations w.tables).duplicateSettlements = 0 :=
    h.history.duplicatedKeys_eq_zero fun htrail => htrail.counts.closed
  have hholds : (violations w.tables).strandedWithoutHoldEvent = 0 ↔ HoldsKept w.tables := by
    rw [violations, List.countP_eq_zero, HoldsKept]
    simp
  have hcounts : violations w.tables =
      ⟨0, 0, 0, 0, (violations w.tables).strandedWithoutHoldEvent⟩ := by
    ext
    · exact hwallets
    · exact htraces
    · exact hrefunds
    · exact hsettlements
    · rfl
  rw [← hholds, assertFinanceOpsInvariants]
  generalize (violations w.tables).strandedWithoutHoldEvent = n at hcounts
  rw [hcounts]
  by_cases hn : n = 0
  · simp [Violations.total, Violations.none, hn]
  · simp [Violations.total, hn]

/-! ## Runs -/

namespace OpsWorld

variable {w : OpsWorld}

/-- A retention run leaves every stranded operation one of its hold events; no other step
takes an event away. -/
def KeepsHolds (w : OpsWorld) : OpsAction → Prop
  | .retention schema policyRow now =>
    ∀ r ∈ w.ledger.tables.escrowLedger.rows, r.status = .stranded →
      ∃ e ∈ w.ledger.tables.ledgerEvents.rows, e.idempotencyKey = r.idempotencyKey ∧
        e.eventType = EventType.strandedHold.text ∧
        archives schema policyRow now w.stored e = false
  | _ => True

/-- Retention keeps everything but the missing events. -/
theorem retain_healthy (h : Healthy w.ledger) (schema : RetentionSchema)
    (policyRow : Option RetentionPolicy) (now : Timestamp) :
    Healthy { w.ledger with tables := w.retain schema policyRow now } where
  sound := by
    have hrows : (w.retain schema policyRow now).ledgerEvents.rows = _ :=
      tableAfterRetention_rows
    refine ⟨⟨?_, ?_⟩, h.sound.reserves⟩
    · intro r hr
      rw [hrows] at hr
      exact h.sound.log.drawn r (List.mem_filter.mp hr).1
    · rw [hrows]
      exact h.sound.log.ordered.sublist List.filter_sublist
  solvent := h.solvent
  traces := ⟨h.traces.stored, h.traces.opened⟩
  history := h.history.filter tableAfterRetention_rows

theorem retain_holdsKept_iff (schema : RetentionSchema) (policyRow : Option RetentionPolicy)
    (now : Timestamp) : HoldsKept (w.retain schema policyRow now) ↔
      w.KeepsHolds (.retention schema policyRow now) := by
  have hrows : (w.retain schema policyRow now).ledgerEvents.rows = _ :=
    tableAfterRetention_rows
  have hevent : ∀ key, hasHoldEvent (w.retain schema policyRow now).ledgerEvents.rows key = true ↔
      ∃ e ∈ w.ledger.tables.ledgerEvents.rows, e.idempotencyKey = key ∧
        e.eventType = EventType.strandedHold.text ∧
        archives schema policyRow now w.stored e = false := by
    intro key
    rw [hasHoldEvent_iff, hrows]
    constructor
    · rintro ⟨e, he, hkey, htype⟩
      have hkept := (List.mem_filter.mp he).2
      exact ⟨e, (List.mem_filter.mp he).1, hkey, htype, by simpa using hkept⟩
    · rintro ⟨e, he, hkey, htype, hkept⟩
      exact ⟨e, List.mem_filter.mpr ⟨he, by simp [hkept]⟩, hkey, htype⟩
  constructor
  · exact fun h r hr hs => (hevent _).mp (h r hr hs)
  · exact fun h r hr hs => (hevent _).mpr (h r hr hs)

theorem step_healthy (h : Healthy w.ledger) (a : OpsAction) : Healthy (w.step d a).ledger := by
  cases a with
  | ledger a => exact {
      sound := step_sound h.sound a
      solvent := step_invariant (I := fun db => ∀ u, Solvent db.userWallets u)
        (fun hi hs => hi.userWallets ▸ hs) (fun _ hm => hm.solvent) h.sound h.solvent a
      traces := step_invariant TracesCount.idle TracesCount.move h.sound h.traces a
      history := step_invariant Archived.idle (fun _ => Archived.move) h.sound h.history a }
  | verify schema incremental => exact h
  | persist i =>
    rw [step]
    split
    · exact h
    · exact h
  | retention schema policyRow now => exact retain_healthy h schema policyRow now

/-- A step keeps the hold events exactly when it is not a retention run that takes the last
one of a stranded operation. -/
theorem step_holdsKept_iff (h : Healthy w.ledger) (hholds : HoldsKept w.ledger.tables)
    (a : OpsAction) : HoldsKept (w.step d a).ledger.tables ↔ w.KeepsHolds a := by
  cases a with
  | ledger a =>
    have hkept : HoldsKept (Ledger.step d w.ledger a).tables :=
      step_invariant HoldsKept.idle (fun _ => HoldsKept.move) h.sound hholds a
    exact ⟨fun _ => trivial, fun _ => hkept⟩
  | verify schema incremental => exact ⟨fun _ => trivial, fun _ => hholds⟩
  | persist i =>
    rw [step]
    split
    · exact ⟨fun _ => trivial, fun _ => hholds⟩
    · exact ⟨fun _ => trivial, fun _ => hholds⟩
  | retention schema policyRow now => exact retain_holdsKept_iff schema policyRow now

end OpsWorld

theorem healthy_of_noOperations {w : LedgerWorld} (hops : NoOperations w)
    (hwallets : ∀ x ∈ w.tables.userWallets.rows, 0 ≤ x.balance) (htraces : NoTraceUse w) :
    Healthy w where
  sound := hops.sound
  solvent := by
    intro u b hb
    obtain ⟨x, hx, rfl⟩ := Option.map_eq_some_iff.mp hb
    exact hwallets x (Table.mem_of_find? hx)
  traces := htraces.tracesCount hops
  history := by
    intro key
    have hnone : w.tables.escrowLedger.find? key = none := by
      rw [Table.find?_eq_none, hops.escrowLedger]
      exact List.not_mem_nil
    rw [hnone, hops.ledgerEvents]
    exact ⟨[], Trail.none, List.Sublist.refl _⟩

/-! ## A stranded operation whose hold event is archived -/

/-- The dispatch of the sample's operation. -/
def sampleDispatch : SettleRequest :=
  { sampleSettle with
    outcome := .inFlight
    dispatchAttemptKey := some "attempt-1"
    providerRequestId := none }

/-- The digest of the sample's dispatch event. -/
def dispatchHash : Hash :=
  ⟨"e9b607fa1b45911e847622a449b6cacdbe1ed69568a8982c8a57ebce2999a176", by decide +kernel⟩

/-- The digest of the sample's hold event. -/
def holdHash : Hash :=
  ⟨"8c75d9736b2661a41be9bb35456e448fee42546b9ae1b050bc68af646f2c2a45", by decide +kernel⟩

/-- The texts that the sample hashes beside those of the ledger's sample. -/
def strandedDigests : List (String × Hash) :=
  [(rowPayload 2 "op-1" "user-1" "DISPATCH_STARTED" "0E-12"
      (.obj [("dispatch_attempt_key", .str "attempt-1"), ("provider_name", .null),
        ("provider_request_id", .null), ("reason", .str "IN_FLIGHT")])
      "2026-01-01 00:00:00+00" (sampleHash 1), dispatchHash),
    (rowPayload 3 "op-1" "user-1" "STRANDED_HOLD" "0E-12"
      (.obj [("reason", .str "reconciler_expiry_claim")]) "2026-01-01 00:10:00+00" dispatchHash,
      holdHash)]

/-- The surroundings of the ledger's sample with the digests of the two events. -/
def strandedDeployment : Deployment :=
  { sampleDeployment with
    sha256 := fun text => ((strandedDigests.find? fun p => p.1 = text).map Prod.snd).getD
      (sampleDeployment.sha256 text) }

/-- No text is hashed to the genesis hash. -/
theorem strandedDeployment_ne_genesis (text : String) :
    strandedDeployment.sha256 text ≠ genesisHash := by
  have hall : ∀ p ∈ strandedDigests ++ sampleDigests, p.2 ≠ genesisHash := by
    simp only [strandedDigests, sampleDigests, List.cons_append, List.nil_append,
      List.forall_mem_cons, List.not_mem_nil, false_imp_iff, implies_true, and_true]
    decide +kernel
  simp only [strandedDeployment, sampleDeployment]
  cases hfind : strandedDigests.find? fun p => p.1 = text with
  | some p =>
    exact hall p (List.mem_append_left _ (List.mem_of_find?_eq_some hfind))
  | none =>
    cases hsample : sampleDigests.find? fun p => p.1 = text with
    | some p =>
      exact hall p (List.mem_append_right _ (List.mem_of_find?_eq_some hsample))
    | none =>
      simp only [Option.map_none, Option.getD_none]
      decide +kernel

/-- Reserve, dispatch and sweep after the reserve has expired. -/
def strandingActions : List Action :=
  [.reserve Settings.default (sampleClock 0) .closed sampleReserve,
    .settle Settings.default (sampleClock 0) sampleDispatch, sampleSweep 10]

/-- The sample ledger with its operation stranded. -/
def strandedLedger : LedgerWorld := run strandedDeployment sampleWorld strandingActions

/-- The checkpoint of the three events. -/
def strandedCheckpoint : VerifyCheckpoint :=
  ⟨3, (ledgerSealing strandedDeployment).tip genesisHash strandedLedger.tables.ledgerEvents.rows,
    3, 3⟩

/-- The ledger's sample without a checkpoint. -/
def strandedWorld : OpsWorld := ⟨sampleWorld, none, []⟩

/-- The stranding, followed by a verification of the chain. -/
def strandedActions : List OpsAction :=
  strandingActions.map .ledger ++ [.verify ⟨true, true⟩ true, .persist 0]

theorem stranded_verified :
    (verifyLedgerChain strandedDeployment ⟨true, true⟩ strandedLedger.tables.ledgerEvents none
      true).2 = some strandedCheckpoint := by
  have hempty : (eventLog sampleWorld).Ordered := EventLog.empty_ordered
  have hgrows : EventLog.empty.Grows strandedDeployment (eventLog strandedLedger) :=
    run_grows hempty strandingActions
  have hlinked := EventLog.linked_of_grows_empty strandedDeployment_ne_genesis hgrows
  have hid : (strandedLedger.tables.ledgerEvents.rows.getLast?.map LedgerEvent.eventId) =
      some 3 := by decide +kernel
  have hlength : strandedLedger.tables.ledgerEvents.rows.length = 3 := by decide +kernel
  obtain ⟨last, hlast, hlastId⟩ := Option.map_eq_some_iff.mp hid
  rw [verifyLedgerChain_linked (hgrows.ordered EventLog.empty_ordered) hlinked hlast, hlastId,
    hlength]
  rfl

theorem stranded_run : strandedActions.foldl (OpsWorld.step strandedDeployment) strandedWorld =
    ⟨strandedLedger, some strandedCheckpoint, []⟩ := by
  have hledger : (strandingActions.map OpsAction.ledger).foldl
      (OpsWorld.step strandedDeployment) strandedWorld = ⟨strandedLedger, none, []⟩ := rfl
  rw [strandedActions, List.foldl_append, hledger]
  simp only [List.foldl_cons, List.foldl_nil, OpsWorld.step, stranded_verified]
  rfl

/-- Retention with archival enabled, a year and a day later. -/
def strandedRetention : OpsAction := .retention ⟨true, true⟩ (some samplePolicy) sampleNow

/-- The operation is still stranded and its hold event is gone: the probe raises. -/
theorem archived_hold_raises :
    ((strandedActions ++ [strandedRetention]).foldl (OpsWorld.step strandedDeployment)
      strandedWorld).probe =
      .error ⟨"finance ops invariant violations: \x7b'negative_wallets': 0, " ++
        "'trace_cap_overruns': 0, 'duplicate_refunds': 0, 'duplicate_settlements': 0, " ++
        "'stranded_without_hold_event': 1\x7d"⟩ := by
  rw [List.foldl_append, stranded_run]
  decide +kernel

/-- From a ledger without operations, the probe is silent in every state of a run exactly
when no retention run takes the last hold event of a stranded operation. -/
theorem run_probe_silent_iff (d : Deployment) (w : OpsWorld) (hops : NoOperations w.ledger)
    (hwallets : ∀ x ∈ w.ledger.tables.userWallets.rows, 0 ≤ x.balance)
    (htraces : NoTraceUse w.ledger) (actions : List OpsAction) :
    Throughout (OpsWorld.step d) (fun w => w.probe = .ok Violations.none) w actions ↔
      Along (OpsWorld.step d) OpsWorld.KeepsHolds w actions := by
  have hinit := healthy_of_noOperations hops hwallets htraces
  have hstart : HoldsKept w.ledger.tables := by
    intro r hr
    rw [hops.escrowLedger] at hr
    cases hr
  refine throughout_iff_along (I := fun w => Healthy w.ledger) hinit (hinit.probe_iff.mpr hstart)
    (fun w a h => OpsWorld.step_healthy h a) ?_
  intro w a h hprobe
  have hnext := OpsWorld.step_healthy (d := d) h a
  have hholds := h.probe_iff.mp hprobe
  exact hnext.probe_iff.trans (OpsWorld.step_holdsKept_iff h hholds a)

theorem run_probe_silent_iff_sample :
    Throughout (OpsWorld.step strandedDeployment) (fun w => w.probe = .ok Violations.none)
      strandedWorld strandedActions := by
  refine (run_probe_silent_iff strandedDeployment strandedWorld ⟨rfl, rfl⟩ ?_ ?_
    strandedActions).mpr ⟨trivial, trivial, trivial, trivial, trivial, trivial⟩
  · decide +kernel
  · intro t ht
    cases ht

end Governor.Operations
