import Mathlib
import Governor.Ledger.Refinement

/-!
# Exactly-once reserve and settle

A row is never deleted and keeps its fingerprint, and a settled row never changes
again. A repeated request therefore meets the row that its first submission left, at
any later time, and is answered from it. A settlement that contradicts a settled row is
refused; the identity check comes first, so a request that also contradicts the
operation's identity is refused for that.
-/

namespace Governor.Ledger

variable {d : Deployment} {db db' : Database} {c : Change}

/-! ## Rows over time -/

theorem EscrowRow.Continues.refl (r : EscrowRow) : r.Continues r :=
  ⟨rfl, rfl, rfl, rfl, rfl, rfl⟩

theorem EscrowRow.Continues.trans {a b c : EscrowRow} (h : a.Continues b) (h' : b.Continues c) :
    a.Continues c :=
  ⟨h'.idempotencyKey.trans h.idempotencyKey, h'.userId.trans h.userId, h'.traceId.trans h.traceId,
    h'.identity.trans h.identity, h'.requestFingerprint.trans h.requestFingerprint,
    h'.reservedAmount.trans h.reservedAmount⟩

/-- Some row with this key and these fixed columns is stored. -/
def Persists (o : EscrowRow) (db : Database) : Prop :=
  ∃ r, db.escrowLedger.find? o.idempotencyKey = some r ∧ o.Continues r

/-- An operation, once stored, is stored for ever. -/
theorem run_persists {w : LedgerWorld} (hw : Sound w) {o : EscrowRow} (h : Persists o w.tables)
    (actions : List Action) : Persists o (run d w actions).tables := by
  refine run_invariant (d := d) (I := Persists o) ?_ ?_ hw h actions
  · intro db db' hidle hdb
    rw [Persists, hidle.escrowLedger]
    exact hdb
  · intro db c db' _ hmove ⟨r, hr, hc⟩
    rw [Persists, hmove.new, Table.find?_put]
    split_ifs with hk
    · refine ⟨c.new, rfl, ?_⟩
      have hold : c.old = some r := by
        rw [← hmove.old, ← hk]
        exact hr
      exact hc.trans (hmove.continues r hold)
    · exact ⟨r, hr, hc⟩

theorem Move.find?_settled (hmove : Move d db c db') {o : EscrowRow} {key : String}
    (hs : o.status = .settled) (h : db.escrowLedger.find? key = some o) :
    db'.escrowLedger.find? key = some o := by
  rw [hmove.new, Table.find?_put]
  split_ifs with hk
  · have hold := hmove.old
    rw [← hk, h] at hold
    have hvalid := hmove.valid
    rw [Change.Valid, ← hold] at hvalid
    exact absurd hs hvalid.not_settled
  · exact h

/-- A settled row is final: every run leaves it as it is. -/
theorem run_find?_settled {w : LedgerWorld} (hw : Sound w) {o : EscrowRow} {key : String}
    (hs : o.status = .settled) (h : w.tables.escrowLedger.find? key = some o)
    (actions : List Action) : (run d w actions).tables.escrowLedger.find? key = some o := by
  refine run_invariant (d := d) (I := fun db => db.escrowLedger.find? key = some o) ?_ ?_ hw h
    actions
  · intro db db' hidle hdb
    rw [hidle.escrowLedger]
    exact hdb
  · intro db c db' _ hmove hdb
    exact hmove.find?_settled hs hdb

/-! ## Reserves -/

/-- The reserve requests of an action. -/
def Action.reserves : Action → Option ReserveRequest
  | .reserve _ _ _ request | .racedReserve _ _ _ request => some request
  | _ => none

/-- A reserve that returned left a row with its key and its fingerprint. -/
theorem reserved_row {w : LedgerWorld} (hw : Sound w) {a : Action} {request : ReserveRequest}
    (ha : a.reserves = some request) {result : Response} (hok : respond d w a = .ok result) :
    ∃ r, (step d w a).tables.escrowLedger.find? request.idempotencyKey = some r ∧
      r.requestFingerprint = fingerprintReserveRequest d request := by
  have hcommitted := (body_committed (d := d) hw a).1
  rw [hok] at hcommitted
  generalize (step d w a).tables = after at hcommitted ⊢
  cases hcommitted with
  | replayed hfind hfp =>
    obtain rfl := Option.some.inj ha
    exact ⟨_, hfind, hfp⟩
  | reserved hreserve hmove =>
    rcases hreserve with rfl | rfl
    all_goals
      obtain rfl := Option.some.inj ha
      rw [hmove.new]
      exact ⟨_, Table.find?_put_self _ _, rfl⟩
  | settled | swept => cases ha

/-- A reserve whose key is stored and that returns has changed no table. -/
theorem step_eq_of_stored {w : LedgerWorld} (hw : Sound w) {a : Action} {request : ReserveRequest}
    (ha : a.reserves = some request) {result : Response} (hok : respond d w a = .ok result)
    {r : EscrowRow} (hr : w.tables.escrowLedger.find? request.idempotencyKey = some r) :
    (step d w a).tables = w.tables := by
  have hcommitted := (body_committed (d := d) hw a).1
  rw [hok] at hcommitted
  generalize (step d w a).tables = after at hcommitted ⊢
  cases hcommitted with
  | replayed => rfl
  | reserved hreserve hmove =>
    rcases hreserve with rfl | rfl
    all_goals
      rw [← Option.some.inj ha] at hr
      exact absurd (hmove.old.symm.trans hr) (Option.some_ne_none r).symm
  | settled | swept => cases ha

/-- A reserve that meets its row is answered by comparing fingerprints. -/
theorem respond_reserve_of_stored (d : Deployment) {w : LedgerWorld} (settings : Settings)
    (clock : Clock) (breaker : BreakerAnswer) {request : ReserveRequest} {r : EscrowRow}
    (hr : w.tables.escrowLedger.find? request.idempotencyKey = some r) :
    (step d w (.reserve settings clock breaker request)).tables = w.tables ∧
      (r.requestFingerprint = fingerprintReserveRequest d request →
        ∃ result, respond d w (.reserve settings clock breaker request) = .ok result) ∧
      (r.requestFingerprint ≠ fingerprintReserveRequest d request →
        respond d w (.reserve settings clock breaker request) = .error (.conflictError
          "idempotency key replay does not match original reserve request")) := by
  apply Tx.run_of_wp (R := fun (response : Except Exn Response) (w' : LedgerWorld) =>
    w'.tables = w.tables ∧
    (r.requestFingerprint = fingerprintReserveRequest d request →
      ∃ result, response = .ok result) ∧
    (r.requestFingerprint ≠ fingerprintReserveRequest d request →
      response = .error (.conflictError
        "idempotency key replay does not match original reserve request")))
  simp only [Action.body, reserveOperation, Tx.wp_bind, Tx.wp_read, hr, replayReserve]
  by_cases hfp : r.requestFingerprint = fingerprintReserveRequest d request
  · rw [if_neg (not_not.mpr hfp)]
    exact ⟨rfl, fun _ => ⟨_, rfl⟩, fun hne => absurd hfp hne⟩
  · rw [if_pos hfp]
    exact ⟨rfl, fun he => absurd he hfp, fun _ => rfl⟩

/-! ## Settlements -/

/-- The terminal row that a settlement request left or confirmed. -/
structure SettledAs (d : Deployment) (request : SettleRequest) (r : EscrowRow) : Prop where
  status : r.status = .settled
  accepts : Accepts d r request
  replays : settlementReplays r request = true

/-- The result of a final settlement. -/
def settledResult (r : EscrowRow) (request : SettleRequest) : Response :=
  .operation ⟨r.idempotencyKey, .settled, quantizeMoney request.actualCost⟩

/-- A settled row answers the request that settled it. -/
theorem settledRow_settledAs {clock : Clock} {operation : EscrowRow} {request : SettleRequest}
    (h : Accepts d operation request) : SettledAs d request (settledRow clock operation request) := by
  refine ⟨rfl, ⟨h.key, h.identity⟩, ?_⟩
  have hamount : (settledRow clock operation request).actualAmount =
      quantizeMoney request.actualCost := rfl
  have hid : (settledRow clock operation request).providerRequestId =
      coalesce request.providerRequestId operation.providerRequestId := rfl
  rw [settlementReplays, hamount, hid]
  cases hp : request.providerRequestId with
  | none => simp [truthy]
  | some p => simp [coalesce]

/-- A final settlement that returned left a settled row that its request repeats. -/
theorem settled_row {w : LedgerWorld} (hw : Sound w) {settings : Settings} {clock : Clock}
    {request : SettleRequest} (ho : request.outcome = .settled) {result : Response}
    (hok : respond d w (.settle settings clock request) = .ok result) :
    ∃ r, (step d w (.settle settings clock request)).tables.escrowLedger.find?
        r.idempotencyKey = some r ∧ SettledAs d request r ∧ result = settledResult r request := by
  have hcommitted := (body_committed (d := d) hw (.settle settings clock request)).1
  rw [hok] at hcommitted
  generalize (step d w (.settle settings clock request)).tables = after at hcommitted ⊢
  cases hcommitted with
  | reserved ha => rcases ha with ha | ha <;> cases ha
  | settled hsettle =>
    cases hsettle with
    | replayed hload haccepts _ hs hr =>
      exact ⟨_, find?_of_loadOperationForUpdate hload, ⟨hs, haccepts, hr⟩, rfl⟩
    | settled hload haccepts _ _ hmove =>
      rw [hmove.new]
      exact ⟨_, Table.find?_put_self _ _, settledRow_settledAs haccepts, rfl⟩
    | recorded _ hne => exact absurd ho hne

/-- A final settlement of an operation that is already settled changes no table. -/
theorem step_eq_of_settled {w : LedgerWorld} (hw : Sound w) {settings : Settings} {clock : Clock}
    {request : SettleRequest} (ho : request.outcome = .settled) {result : OperationResult}
    (hok : respond d w (.settle settings clock request) = .ok (.operation result))
    {r : EscrowRow} (hr : w.tables.escrowLedger.find? result.idempotencyKey = some r)
    (hs : r.status = .settled) :
    (step d w (.settle settings clock request)).tables = w.tables := by
  have hcommitted := (body_committed (d := d) hw (.settle settings clock request)).1
  rw [hok] at hcommitted
  generalize (step d w (.settle settings clock request)).tables = after at hcommitted ⊢
  cases hcommitted with
  | reserved ha => rcases ha with ha | ha <;> cases ha
  | settled hsettle =>
    cases hsettle with
    | replayed => rfl
    | settled hload _ _ hns =>
      obtain rfl := Option.some.inj (hr.symm.trans (find?_of_loadOperationForUpdate hload))
      exact absurd hs hns
    | recorded _ hne => exact absurd ho hne

/-- How a settled operation answers a further final settlement that names its key. -/
structure SettledAnswer (d : Deployment) (r : EscrowRow) (request : SettleRequest)
    (w : LedgerWorld) (response : Except Exn Response) (w' : LedgerWorld) : Prop where
  tables : w'.tables = w.tables
  /-- The request repeats the terminal state. -/
  replay : SettledAs d request r → response = .ok (settledResult r request)
  /-- The request contradicts the operation's identity. -/
  mismatch : ∀ field, d.attributionSchema = true → identityMismatch r request = some field →
    response = .error (.policyStateError
      (field ++ " does not match reserved operation identity"))
  /-- The request contradicts the terminal state only. -/
  conflict : (d.attributionSchema = true → identityMismatch r request = none) →
    settlementReplays r request = false → response = .error (.conflictError
      "settlement replay does not match the recorded terminal state")

theorem wp_checkSettlement_named {r : EscrowRow} {request : SettleRequest}
    {Q : Unit → LedgerSession → Prop} {E : Exn → LedgerSession → Prop} {s : LedgerSession}
    (hname : ¬ (request.idempotencyKey.any fun k => k ≠ r.idempotencyKey) = true)
    (hmismatch : ∀ field, d.attributionSchema = true → identityMismatch r request = some field →
      E (.policyStateError (field ++ " does not match reserved operation identity")) s)
    (h : (d.attributionSchema = true → identityMismatch r request = none) → Q () s) :
    Tx.wp (checkSettlement d r request) Q E s := by
  unfold checkSettlement
  rw [if_neg hname]
  split_ifs with hattr
  · rw [Tx.wp_rethrow, validateSettlementIdentity]
    cases hid : identityMismatch r request with
    | none => exact h fun _ => hid
    | some field => exact hmismatch field hattr hid
  · exact h fun hn => absurd hn hattr

theorem wp_finalizeSettlement_settled {settings : Settings} {clock : Clock} {r : EscrowRow}
    {request : SettleRequest} {Q : OperationResult → LedgerSession → Prop}
    {E : Exn → LedgerSession → Prop} {s : LedgerSession} (hs : r.status = .settled)
    (h : settlementReplays r request = true →
      Q ⟨r.idempotencyKey, .settled, quantizeMoney request.actualCost⟩ s)
    (hconflict : settlementReplays r request = false →
      E (.conflictError "settlement replay does not match the recorded terminal state") s) :
    Tx.wp (finalizeSettlement d settings clock r request) Q E s := by
  unfold finalizeSettlement
  rw [if_pos hs]
  cases hrep : settlementReplays r request with
  | true => exact h hrep
  | false => exact hconflict hrep

theorem respond_settle_of_settled (d : Deployment) {w : LedgerWorld} (settings : Settings)
    (clock : Clock) {request : SettleRequest} {r : EscrowRow} {key : String}
    (hr : w.tables.escrowLedger.find? key = some r) (hs : r.status = .settled)
    (hkey : request.idempotencyKey = some key) (ho : request.outcome = .settled) :
    SettledAnswer d r request w (respond d w (.settle settings clock request))
      (step d w (.settle settings clock request)) := by
  apply Tx.run_of_wp (R := SettledAnswer d r request w)
  have hload : loadOperationForUpdate w.tables request = some r := by
    rw [loadOperationForUpdate, hkey]
    exact hr
  have hname : ¬ (request.idempotencyKey.any fun k => k ≠ r.idempotencyKey) = true := by
    simp [hkey, Table.find?_some_key hr]
  simp only [Action.body, applySettlement, Tx.wp_bind, Tx.wp_read, hload, settleOperation, ho,
    ite_true]
  refine wp_checkSettlement_named hname ?_ ?_
  · intro field hattr hfield
    refine ⟨rfl, fun h => ?_, fun _ _ he => ?_, fun hnone => ?_⟩
    · rw [h.accepts.identity hattr] at hfield
      cases hfield
    · obtain rfl := Option.some.inj (hfield.symm.trans he)
      rfl
    · rw [hnone hattr] at hfield
      cases hfield
  · intro hidentity
    have hmismatch : ∀ field, d.attributionSchema = true → identityMismatch r request ≠ some field := by
      intro field hattr
      simp [hidentity hattr]
    refine wp_finalizeSettlement_settled hs ?_ ?_
    · intro hrep
      refine ⟨rfl, fun _ => rfl, fun field hattr he => absurd he (hmismatch field hattr), ?_⟩
      intro _ hno
      rw [hrep] at hno
      cases hno
    · intro hrep
      refine ⟨rfl, fun h => ?_, fun field hattr he => absurd he (hmismatch field hattr),
        fun _ _ => rfl⟩
      rw [h.replays] at hrep
      cases hrep

/-! ## Exactly once -/

/-- What repeated and contradicting requests do from a world on. -/
structure ExactlyOnce (d : Deployment) (w : LedgerWorld) : Prop where
  /-- A reserve that succeeded, submitted again at any later time, changes no table. -/
  reserve_again : ∀ {a request result}, a.reserves = some request → respond d w a = .ok result →
    ∀ between settings clock breaker,
      (step d (run d (step d w a) between) (.reserve settings clock breaker request)).tables =
        (run d (step d w a) between).tables ∧
      ∃ answer, respond d (run d (step d w a) between)
        (.reserve settings clock breaker request) = .ok answer
  /-- A final settlement by key that succeeded, submitted again at any later time, changes
  no table and returns the same result. -/
  settle_again : ∀ {settings clock request result}, request.outcome = .settled →
    request.idempotencyKey ≠ none → respond d w (.settle settings clock request) = .ok result →
    ∀ between settings' clock',
      (step d (run d (step d w (.settle settings clock request)) between)
        (.settle settings' clock' request)).tables =
          (run d (step d w (.settle settings clock request)) between).tables ∧
      respond d (run d (step d w (.settle settings clock request)) between)
        (.settle settings' clock' request) = .ok result
  /-- Of the reserves of one key that succeed, only the first changes a table. -/
  one_reserve : ∀ {a request result}, a.reserves = some request → respond d w a = .ok result →
    ∀ {between b request' result'}, b.reserves = some request' →
      request'.idempotencyKey = request.idempotencyKey →
      respond d (run d (step d w a) between) b = .ok result' →
      (step d (run d (step d w a) between) b).tables = (run d (step d w a) between).tables
  /-- Of the final settlements of one operation that succeed, only the first changes a
  table. -/
  one_settlement : ∀ {settings clock request result}, request.outcome = .settled →
    respond d w (.settle settings clock request) = .ok (.operation result) →
    ∀ {between settings' clock' request' result'}, request'.outcome = .settled →
      respond d (run d (step d w (.settle settings clock request)) between)
        (.settle settings' clock' request') = .ok (.operation result') →
      result'.idempotencyKey = result.idempotencyKey →
      (step d (run d (step d w (.settle settings clock request)) between)
        (.settle settings' clock' request')).tables =
          (run d (step d w (.settle settings clock request)) between).tables
  /-- A final settlement that contradicts a settled operation's cost or provider request id
  changes no table; it raises a conflict, unless it also contradicts the operation's
  identity, which is checked first. -/
  settle_conflict : ∀ {settings clock request key r},
    w.tables.escrowLedger.find? key = some r → r.status = .settled →
    request.idempotencyKey = some key → request.outcome = .settled →
    (quantizeMoney request.actualCost ≠ r.actualAmount ∨
      truthy request.providerRequestId = true ∧
        request.providerRequestId ≠ r.providerRequestId) →
    (step d w (.settle settings clock request)).tables = w.tables ∧
    ((d.attributionSchema = true → identityMismatch r request = none) →
      respond d w (.settle settings clock request) = .error (.conflictError
        "settlement replay does not match the recorded terminal state")) ∧
    (∀ field, d.attributionSchema = true → identityMismatch r request = some field →
      respond d w (.settle settings clock request) = .error (.policyStateError
        (field ++ " does not match reserved operation identity")))
  /-- A reserve whose fingerprint differs from the stored one changes no table and raises a
  conflict. -/
  reserve_conflict : ∀ {settings clock breaker request r},
    w.tables.escrowLedger.find? request.idempotencyKey = some r →
    r.requestFingerprint ≠ fingerprintReserveRequest d request →
    (step d w (.reserve settings clock breaker request)).tables = w.tables ∧
    respond d w (.reserve settings clock breaker request) = .error (.conflictError
      "idempotency key replay does not match original reserve request")

/-- A reserve that succeeded has its row, with its fingerprint, at every later time. -/
theorem stored_after_reserve {w : LedgerWorld} (hw : Sound w) {a : Action}
    {request : ReserveRequest} (ha : a.reserves = some request) {result : Response}
    (hok : respond d w a = .ok result) (between : List Action) :
    ∃ r, (run d (step d w a) between).tables.escrowLedger.find? request.idempotencyKey = some r ∧
      r.requestFingerprint = fingerprintReserveRequest d request := by
  obtain ⟨o, ho, hfp⟩ := reserved_row hw ha hok
  have hkey := Table.find?_some_key ho
  obtain ⟨r, hr, hc⟩ := run_persists (d := d) (step_sound hw a)
    ⟨o, hkey ▸ ho, EscrowRow.Continues.refl o⟩ between
  rw [hkey] at hr
  exact ⟨r, hr, hc.requestFingerprint.trans hfp⟩

/-- A final settlement that succeeded has its settled row at every later time. -/
theorem stored_after_settle {w : LedgerWorld} (hw : Sound w) {settings : Settings} {clock : Clock}
    {request : SettleRequest} (ho : request.outcome = .settled) {result : Response}
    (hok : respond d w (.settle settings clock request) = .ok result) (between : List Action) :
    ∃ r, (run d (step d w (.settle settings clock request)) between).tables.escrowLedger.find?
        r.idempotencyKey = some r ∧ SettledAs d request r ∧ result = settledResult r request := by
  obtain ⟨r, hr, hsettled, hresult⟩ := settled_row hw ho hok
  exact ⟨r, run_find?_settled (step_sound hw _) hsettled.status hr between, hsettled, hresult⟩

/-- A request that contradicts the cost or the provider request id repeats nothing. -/
theorem not_settlementReplays {r : EscrowRow} {request : SettleRequest}
    (h : quantizeMoney request.actualCost ≠ r.actualAmount ∨
      truthy request.providerRequestId = true ∧
        request.providerRequestId ≠ r.providerRequestId) :
    settlementReplays r request = false := by
  unfold settlementReplays
  rcases h with hcost | ⟨htruthy, hid⟩
  · simp [Ne.symm hcost]
  · simp [htruthy, hid]

/-- A settlement at another cost that also names another tenant. -/
def sampleContradiction : SettleRequest :=
  { sampleSettle with
    actualCost := ⟨2, 0⟩
    tenantId := some "tenant-2"
    actualCost_nonneg := by decide }

end Governor.Ledger
