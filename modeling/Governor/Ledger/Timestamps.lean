import Mathlib
import Governor.Ledger.Dispatch

/-!
# Statuses and timestamps

The escrow table couples the status of a row with its three timestamps. No transition clears
one of them, so the check holds because a settlement time comes with the status alone and
because an operation leaves RESERVED in the transaction that stores its first attempt. A row
that the sweep strands has therefore been dispatched.
-/

namespace Governor.Ledger

variable {d : Deployment} {w : LedgerWorld} {db : Database}

/-- `CONSTRAINT escrow_status_timestamp_consistency`. -/
def EscrowRow.timestampConsistency (r : EscrowRow) : Bool :=
  (r.status = .reserved && r.settledAt.isNone && r.expiredAt.isNone) ||
  (r.status = .inFlight && r.dispatchStartedAt.isSome && r.settledAt.isNone) ||
  (r.status = .providerTimeout && r.dispatchStartedAt.isSome && r.settledAt.isNone) ||
  (r.status = .stranded && r.dispatchStartedAt.isSome && r.expiredAt.isSome) ||
  (r.status = .settled && r.settledAt.isSome) ||
  (r.status = .expired && r.expiredAt.isSome && r.settledAt.isNone)

/-! ## Rows -/

/-- The check, with what its transitions need: a settlement time comes with the status. -/
structure EscrowRow.Dated (r : EscrowRow) : Prop where
  check : r.timestampConsistency = true
  unsettled : r.status ≠ .settled → r.settledAt = none

theorem EscrowRow.Dated.dispatched {r : EscrowRow} (h : r.Dated)
    (hs : r.status = .inFlight ∨ r.status = .providerTimeout) :
    r.dispatchStartedAt.isSome = true := by
  have hcheck := h.check
  unfold EscrowRow.timestampConsistency at hcheck
  rcases hs with hs | hs <;> simp [hs] at hcheck <;> exact hcheck.1

theorem reserved_dated (d : Deployment) (settings : Settings) (clock : Clock)
    (request : ReserveRequest) : (reserveChange d settings clock request).new.Dated :=
  ⟨rfl, fun _ => rfl⟩

theorem settled_dated (clock : Clock) (operation : EscrowRow) (request : SettleRequest) :
    (settledRow clock operation request).Dated :=
  ⟨rfl, fun hne => absurd rfl hne⟩

theorem EscrowRow.Dated.record {r : EscrowRow} (h : r.Dated) (hns : r.status ≠ .settled)
    {request : SettleRequest} (ho : request.outcome ≠ .settled) (now : Timestamp) :
    (r.record request now).Dated := by
  have hsettledAt : (r.record request now).settledAt = none := h.unsettled hns
  have hstarted : (r.record request now).dispatchStartedAt.isSome = true := by
    cases hd : r.dispatchStartedAt <;> simp [EscrowRow.record, hd]
  have hstatus : (r.record request now).status = request.outcome.status := rfl
  refine ⟨?_, fun _ => hsettledAt⟩
  unfold EscrowRow.timestampConsistency
  rw [hsettledAt, hstarted, hstatus]
  cases hout : request.outcome with
  | settled => exact absurd hout ho
  | inFlight => rfl
  | providerTimeout => rfl

theorem EscrowRow.Dated.strand {r : EscrowRow} (h : r.Dated) (hns : r.status ≠ .settled)
    (hstarted : r.dispatchStartedAt.isSome = true) (now : Timestamp) : (r.strand now).Dated := by
  refine ⟨?_, fun _ => h.unsettled hns⟩
  simp [EscrowRow.timestampConsistency, EscrowRow.strand, hstarted]

theorem EscrowRow.Dated.expire {r : EscrowRow} (h : r.Dated) (hns : r.status ≠ .settled)
    (now : Timestamp) : (r.expire now).Dated := by
  refine ⟨?_, fun _ => h.unsettled hns⟩
  simp [EscrowRow.timestampConsistency, EscrowRow.expire, h.unsettled hns]

/-! ## Tables -/

/-- Every row is dated, and the operation of every attempt has left RESERVED. -/
structure Dispatched (db : Database) : Prop where
  dated : ∀ r ∈ db.escrowLedger.rows, r.Dated
  attended : ∀ a ∈ db.providerDispatchAttempts.rows,
    ∃ r, db.escrowLedger.find? a.idempotencyKey = some r ∧ r.status ≠ .reserved

theorem Dispatched.congr {db' : Database} (h : Dispatched db)
    (hsame : db'.dispatch = db.dispatch) : Dispatched db' := by
  have hescrow : db'.escrowLedger = db.escrowLedger := congrArg DispatchTables.escrowLedger hsame
  have hattempts : db'.providerDispatchAttempts = db.providerDispatchAttempts :=
    congrArg DispatchTables.providerDispatchAttempts hsame
  refine ⟨?_, ?_⟩
  · rw [hescrow]
    exact h.dated
  · rw [hescrow, hattempts]
    exact h.attended

/-- A sweep strands no operation that is still RESERVED. -/
theorem Dispatched.hasOpenAttempts_false (h : Dispatched db) {r : EscrowRow}
    (hr : r ∈ db.escrowLedger.rows) (hs : r.status = .reserved) :
    hasOpenAttempts db r.idempotencyKey = false := by
  rw [hasOpenAttempts, List.any_eq_false]
  intro a ha hopen
  rw [Bool.and_eq_true, decide_eq_true_eq] at hopen
  obtain ⟨o, ho, hne⟩ := h.attended a ha
  rw [hopen.1, Table.find?_of_mem hr] at ho
  exact hne (Option.some.inj ho ▸ hs)

/-- A claimed row is RESERVED or has been dispatched and not stranded. -/
theorem status_of_mem_sweepBatch {clock : Clock} {plan : SweepPlan} {batchSize : Nat}
    {r : EscrowRow} (hr : r ∈ sweepBatch db clock plan batchSize) :
    r.status = .reserved ∨ r.status = .inFlight ∨ r.status = .providerTimeout := by
  have hsorted := List.mem_of_mem_take hr
  rw [List.mem_insertionSort, List.mem_filter] at hsorted
  have hoverdue := hsorted.2
  simp only [EscrowRow.overdue, Bool.and_eq_true, Bool.or_eq_true, decide_eq_true_eq] at hoverdue
  exact or_assoc.mp hoverdue.1.1

/-- A row that a sweep strands has been dispatched. -/
theorem Dispatched.started (h : Dispatched db) {clock : Clock} {plan : SweepPlan}
    {batchSize : Nat} {r : EscrowRow} (hr : r ∈ sweepBatch db clock plan batchSize)
    (hactive : hasDispatchActivity db r = true) : r.dispatchStartedAt.isSome = true := by
  have hmem := (mem_sweepBatch hr).1
  rcases status_of_mem_sweepBatch hr with hs | hs
  · rw [hasDispatchActivity, hs, h.hasOpenAttempts_false hmem hs] at hactive
    cases hactive
  · exact (h.dated r hmem).dispatched hs

/-! ## Steps -/

theorem EscrowWritten.forall {Q : EscrowRow → Prop} {row : EscrowRow} {db' : Database}
    (h : EscrowWritten db row db') (hdb : ∀ r ∈ db.escrowLedger.rows, Q r) (hrow : Q row) :
    ∀ r ∈ db'.escrowLedger.rows, Q r := by
  rcases h with h | h
  · rw [h]
    exact hdb
  · rw [h]
    exact Table.forall_mem_put.mpr ⟨hrow, fun r hr _ => hdb r hr⟩

/-- A stored operation that leaves RESERVED may have an attempt stored. -/
theorem Dispatched.put {db' : Database} {clock : Clock} {operation : EscrowRow}
    (row : EscrowRow) {request : SettleRequest} (h : Dispatched db)
    (hkey : row.idempotencyKey = operation.idempotencyKey) (hrow : row.Dated)
    (hs : row.status ≠ .reserved) {loops : Table LoopState.scopeKey}
    (hdb' : db'.dispatch = ({ db.dispatch with executionLoopState := loops }.storeAttempt
      (storedAttempt db clock operation request)).putEscrow row) : Dispatched db' := by
  have hescrow : db'.escrowLedger = db.escrowLedger.put row :=
    congrArg DispatchTables.escrowLedger hdb'
  have hattempts : db'.providerDispatchAttempts =
      (storedAttempt db clock operation request).elim db.providerDispatchAttempts
        db.providerDispatchAttempts.put :=
    congrArg DispatchTables.providerDispatchAttempts hdb'
  have hown : ∃ r, db'.escrowLedger.find? operation.idempotencyKey = some r ∧
      r.status ≠ .reserved := by
    rw [hescrow, Table.find?_put, if_pos hkey.symm]
    exact ⟨row, rfl, hs⟩
  have hold : ∀ a ∈ db.providerDispatchAttempts.rows, ∃ r,
      db'.escrowLedger.find? a.idempotencyKey = some r ∧ r.status ≠ .reserved := by
    intro a ha
    obtain ⟨r, hr, hne⟩ := h.attended a ha
    rw [hescrow, Table.find?_put]
    split_ifs
    · exact ⟨row, rfl, hs⟩
    · exact ⟨r, hr, hne⟩
  refine ⟨?_, ?_⟩
  · rw [hescrow]
    exact Table.forall_mem_put.mpr ⟨hrow, fun r hr _ => h.dated r hr⟩
  · intro a ha
    rw [hattempts] at ha
    cases hstored : storedAttempt db clock operation request with
    | none =>
      rw [hstored] at ha
      exact hold a ha
    | some attempt =>
      rw [hstored, Option.elim_some, Table.mem_rows_iff, Table.find?_put] at ha
      split_ifs at ha
      · -- the stored attempt names this operation, or the one it named before
        obtain rfl := Option.some.inj ha
        obtain ⟨key, -, rfl⟩ := Option.map_eq_some_iff.mp hstored
        unfold upsertedAttempt
        split
        · exact hown
        · next old hold' => exact hold old (Table.mem_of_find? hold')
      · exact hold a (Table.mem_of_find? ha)

theorem Dispatched.settled {settings : Settings} {clock : Clock} {request : SettleRequest}
    {result : OperationResult} {db' : Database} (h : Dispatched db)
    (hsettle : SettleDispatch d settings clock request db result db'.dispatch) :
    Dispatched db' := by
  generalize hdb' : db'.dispatch = t at hsettle
  cases hsettle with
  | replayed => exact h.congr hdb'
  | settled hcloses =>
    exact h.put _ rfl (settled_dated _ _ _) (by simp [settledRow, EscrowRow.settle]) hdb'
  | recorded hupdates =>
    have hop := find?_of_loadOperationForUpdate hupdates.load
    have hstatus : request.outcome.status ≠ .reserved := by
      cases request.outcome <;> simp [SettleOutcome.status]
    have hrecord := (h.dated _ (Table.mem_of_find? hop)).record
      (fun hs => hupdates.opened (Or.inl hs)) hupdates.outcome clock.utcnow
    exact h.put _ rfl hrecord hstatus hdb'

theorem Dispatched.reserved {row : EscrowRow} {db' : Database} (h : Dispatched db)
    (hfresh : db.escrowLedger.find? row.idempotencyKey = none) (hrow : row.Dated)
    (hdb' : db'.dispatch = db.dispatch.putEscrow row) : Dispatched db' := by
  have hescrow : db'.escrowLedger = db.escrowLedger.put row :=
    congrArg DispatchTables.escrowLedger hdb'
  have hattempts : db'.providerDispatchAttempts = db.providerDispatchAttempts :=
    congrArg DispatchTables.providerDispatchAttempts hdb'
  refine ⟨?_, ?_⟩
  · rw [hescrow]
    exact Table.forall_mem_put.mpr ⟨hrow, fun r hr _ => h.dated r hr⟩
  · intro a ha
    rw [hattempts] at ha
    obtain ⟨r, hr, hne⟩ := h.attended a ha
    refine ⟨r, ?_, hne⟩
    rw [hescrow, Table.find?_put, if_neg ?_]
    · exact hr
    · intro hkey
      rw [hkey, hfresh] at hr
      cases hr

theorem Dispatched.swept (hw : Sound w) (h : Dispatched w.tables) (clock : Clock)
    (plan : SweepPlan) (batchSize : Nat) :
    Dispatched (step d w (.sweep clock plan batchSize)).tables := by
  obtain ⟨hclaimed, hothers⟩ := sweep_find? (d := d) hw clock plan batchSize
  have hattempts := (step_attempts (d := d) (w := w) (a := .sweep clock plan batchSize) (by
    intro _ _ _ _ ha
    cases ha)).1
  have hnew : ∀ r ∈ sweepBatch w.tables clock plan batchSize,
      (sweepChange w.tables clock r).new.Dated ∧
        (sweepChange w.tables clock r).new.status ≠ .reserved := by
    intro r hr
    have hdated := h.dated r (mem_sweepBatch hr).1
    have hns := EscrowStatus.ne_settled_of_held (mem_sweepBatch hr).2
    unfold sweepChange
    split_ifs with hactive
    · exact ⟨hdated.strand hns (h.started hr hactive) _, by simp [EscrowRow.strand]⟩
    · exact ⟨hdated.expire hns _, by simp [EscrowRow.expire]⟩
  -- each row is one that the sweep changed, or is as it was
  have hrow : ∀ key, (∃ r ∈ sweepBatch w.tables clock plan batchSize, r.idempotencyKey = key ∧
      (step d w (.sweep clock plan batchSize)).tables.escrowLedger.find? key =
        some (sweepChange w.tables clock r).new) ∨
      (step d w (.sweep clock plan batchSize)).tables.escrowLedger.find? key =
        w.tables.escrowLedger.find? key := by
    intro key
    by_cases hkey : ∃ r ∈ sweepBatch w.tables clock plan batchSize, r.idempotencyKey = key
    · obtain ⟨r, hr, rfl⟩ := hkey
      exact Or.inl ⟨r, hr, rfl, hclaimed r hr⟩
    · exact Or.inr (hothers key fun r hr he => hkey ⟨r, hr, he⟩)
  refine ⟨?_, ?_⟩
  · intro r hr
    have hfind := Table.find?_of_mem hr
    rcases hrow r.idempotencyKey with ⟨o, ho, -, he⟩ | he
    · rw [he] at hfind
      exact Option.some.inj hfind ▸ (hnew o ho).1
    · rw [he] at hfind
      exact h.dated r (Table.mem_of_find? hfind)
  · intro a ha
    rw [hattempts] at ha
    obtain ⟨r, hr, hne⟩ := h.attended a ha
    rcases hrow a.idempotencyKey with ⟨o, ho, -, he⟩ | he
    · exact ⟨_, he, (hnew o ho).2⟩
    · exact ⟨r, he.trans hr, hne⟩

theorem step_dispatched (hw : Sound w) (h : Dispatched w.tables) (a : Action) :
    Dispatched (step d w a).tables := by
  have hreserve : ∀ raced settings clock breaker reserve,
      Dispatched (step d w (reserveAction raced settings clock breaker reserve)).tables := by
    intro raced settings clock breaker reserve
    obtain ⟨htables, hok, -⟩ :=
      of_wp_body (reserve_exact d w raced settings clock breaker reserve)
    cases hr : respond d w (reserveAction raced settings clock breaker reserve) with
    | error e =>
      refine h.congr (dispatch_of_raised ?_ hr)
      cases raced <;> rfl
    | ok r =>
      rcases hok r hr with hnew | hsame
      · rw [htables, hnew.committed]
        exact h.reserved hnew.fresh (reserved_dated _ _ _ _) hnew.tables
      · rw [htables, hsame]
        exact h
  cases a with
  | reserve settings clock breaker request => exact hreserve false settings clock breaker request
  | racedReserve settings clock breaker request =>
    exact hreserve true settings clock breaker request
  | settle settings clock request =>
    cases hr : respond d w (.settle settings clock request) with
    | error e => exact h.congr (dispatch_of_raised rfl hr)
    | ok r =>
      obtain ⟨-, result, -, hsettle⟩ := settle_returned hr
      exact h.settled hsettle
  | sweep clock plan batchSize => exact h.swept hw clock plan batchSize

/-- What a transaction has written when it returns or raises meets the check as well. -/
theorem session_dated (hw : Sound w) (h : Dispatched w.tables) (a : Action) :
    ∀ r ∈ (sessionAfter d w a).working.escrowLedger.rows, r.Dated := by
  have hreserve : ∀ raced settings clock breaker reserve, ∀ r ∈ (sessionAfter d w
      (reserveAction raced settings clock breaker reserve)).working.escrowLedger.rows,
      r.Dated := by
    intro raced settings clock breaker reserve
    obtain ⟨-, hok, herr⟩ := of_wp_body (reserve_exact d w raced settings clock breaker reserve)
    have hnew := reserved_dated d settings clock reserve
    cases hr : respond d w (reserveAction raced settings clock breaker reserve) with
    | error e => exact (herr e hr).forall h.dated hnew
    | ok r =>
      rcases hok r hr with hcommitted | hsame
      · exact (h.reserved hcommitted.fresh hnew hcommitted.tables).dated
      · rw [hsame]
        exact h.dated
  cases a with
  | reserve settings clock breaker request => exact hreserve false settings clock breaker request
  | racedReserve settings clock breaker request =>
    exact hreserve true settings clock breaker request
  | settle settings clock request =>
    cases hr : respond d w (.settle settings clock request) with
    | ok r =>
      obtain ⟨hworking, result, -, hsettle⟩ := settle_returned hr
      rw [hworking]
      exact (h.settled hsettle).dated
    | error e =>
      cases settle_raised hr with
      | early _ _ hescrow | contradicts _ _ _ _ _ hescrow | guarded _ _ hescrow
      | conflicting _ _ hescrow =>
        rw [hescrow]
        exact h.dated
      | late _ hreach _ hescrow =>
        refine hescrow.forall h.dated ?_
        rcases hreach with ⟨hcloses, rfl⟩ | ⟨hupdates, -, rfl⟩
        · exact settled_dated _ _ _
        · have hop := find?_of_loadOperationForUpdate hupdates.load
          exact (h.dated _ (Table.mem_of_find? hop)).record
            (fun hs => hupdates.opened (Or.inl hs)) hupdates.outcome _
  | sweep clock plan batchSize =>
    have hwp : Tx.wp (Action.body d (.sweep clock plan batchSize))
        (fun _ s' => s'.committed = s'.working) (fun _ _ => False)
        ⟨w.tables, w.tables, w.outside⟩ := by
      rw [Action.body, Tx.wp_bind]
      exact wp_sweepExpiredReservations hw.log hw.reserves fun s' _ hc _ => hc
    obtain ⟨htables, hok, herr⟩ := of_wp_body hwp
    cases hr : respond d w (.sweep clock plan batchSize) with
    | ok r =>
      rw [← hok r hr, ← htables]
      exact (h.swept hw clock plan batchSize).dated
    | error e => exact absurd (herr e hr) id

/-! ## Runs -/

theorem run_dispatched (hw : Sound w) (h : Dispatched w.tables) (actions : List Action) :
    Sound (run d w actions) ∧ Dispatched (run d w actions).tables :=
  run_keeps (I := fun w => Sound w ∧ Dispatched w.tables) ⟨hw, h⟩
    (fun _ a hw => ⟨step_sound hw.1 a, step_dispatched hw.1 hw.2 a⟩) actions

/-- In every state that transactions can reach from a ledger without operations, every row
meets the check on status and timestamps, and so does whatever a further transaction writes,
whether it returns or raises; no attempt belongs to an operation that is RESERVED, so the sweep
finds none of its attempts open and strands only rows that have been dispatched. -/
theorem run_timestamps_consistent (d : Deployment) (w : LedgerWorld) (hops : NoOperations w)
    (hattempts : w.tables.providerDispatchAttempts.rows = []) (actions : List Action) :
    (∀ r ∈ (run d w actions).tables.escrowLedger.rows, r.timestampConsistency = true) ∧
    (∀ a, ∀ r ∈ (sessionAfter d (run d w actions) a).working.escrowLedger.rows,
      r.timestampConsistency = true) ∧
    (∀ r ∈ (run d w actions).tables.escrowLedger.rows, r.status = .reserved →
      (∀ a ∈ (run d w actions).tables.providerDispatchAttempts.rows,
        a.idempotencyKey ≠ r.idempotencyKey) ∧
      hasOpenAttempts (run d w actions).tables r.idempotencyKey = false) ∧
    ∀ clock plan batchSize, ∀ r ∈ sweepBatch (run d w actions).tables clock plan batchSize,
      hasDispatchActivity (run d w actions).tables r = true →
        r.dispatchStartedAt.isSome = true := by
  have hstart : Dispatched w.tables := by
    refine ⟨?_, ?_⟩
    · rw [hops.escrowLedger]
      simp
    · rw [hattempts]
      simp
  obtain ⟨hsound, hdispatched⟩ := run_dispatched (d := d) hops.sound hstart actions
  refine ⟨fun r hr => (hdispatched.dated r hr).check, ?_, ?_, ?_⟩
  · exact fun a r hr => (session_dated hsound hdispatched a r hr).check
  · intro r hr hs
    refine ⟨?_, hdispatched.hasOpenAttempts_false hr hs⟩
    intro a ha hkey
    obtain ⟨o, ho, hne⟩ := hdispatched.attended a ha
    rw [hkey, Table.find?_of_mem hr] at ho
    exact hne (Option.some.inj ho ▸ hs)
  · exact fun _ _ _ r hr hactive => hdispatched.started hr hactive

/-- The sample ledger after its reserve, its sweep and its late settlement. -/
theorem run_timestamps_consistent_sample :
    (run sampleDeployment sampleWorld sampleActions).tables.escrowLedger.rows.length = 1 ∧
      ∀ r ∈ (run sampleDeployment sampleWorld sampleActions).tables.escrowLedger.rows,
        r.timestampConsistency = true := by
  refine ⟨by decide +kernel, ?_⟩
  exact (run_timestamps_consistent sampleDeployment sampleWorld ⟨rfl, rfl⟩ rfl sampleActions).1

end Governor.Ledger
