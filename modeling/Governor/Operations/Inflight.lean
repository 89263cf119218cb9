import Mathlib
import Governor.Core.Run
import Governor.Ledger.History
import Governor.Ledger.Calls
import Governor.Operations.Limiter

/-!
# Reservations in flight

`POST /reserve` counts a reservation in the limiter before the ledger knows of it and gives
the count back when the ledger refuses; a settlement gives it back after its commit. The
handlers run concurrently, so the counter is compared with the open operations and the
requests that are still between the two. It agrees as long as every operation leaves the
open states once, by a settlement, and every counted request creates one.
-/

namespace Governor.Operations

open Ledger

/-! ## Handlers -/

/-- Where a `POST /reserve` handler is. -/
inductive Phase where
  /-- Before `_idempotency_exists`. -/
  | lookup
  /-- The key was not found: before the guardrails. -/
  | check
  /-- Before `reserve_operation`, with `guardrail_bumped`. -/
  | reserve (bumped : Bool)
  /-- In an exception handler, before `release_reserve`. -/
  | release
  deriving DecidableEq, Repr

/-- Whether the handler's reservation is counted. -/
def Phase.counted : Phase → Bool
  | .reserve bumped => bumped
  | .release => true
  | _ => false

/-- A `POST /reserve` handler in progress. -/
structure Handler where
  request : ReserveRequest
  phase : Phase

/-- The sidecar with its handlers in progress. -/
structure RouteWorld where
  ledger : LedgerWorld
  limiter : LocalFallbackLimiter
  handlers : List Handler
  /-- Users of settlements that have committed and not yet released. -/
  releases : List String

/-- What happens next. -/
inductive RouteAction where
  /-- A `POST /reserve` request. -/
  | arrive (request : ReserveRequest)
  | lookup (i : Nat)
  | check (i : Nat) (monotonic : ℚ) (time : Int)
  /-- `reserve_operation` of a handler; `raced` when its first query saw no row before it had
  to wait for a concurrent reserve of the key. -/
  | reserve (i : Nat) (raced : Bool) (settings : Settings) (clock : Clock)
      (breaker : BreakerAnswer)
  | release (i : Nat)
  /-- `apply_settlement`, up to its commit. -/
  | settle (settings : Settings) (clock : Clock) (request : SettleRequest)
  /-- `_release_inflight_guardrail` of a settlement. -/
  | releaseSettled (i : Nat)
  | sweep (clock : Clock) (plan : SweepPlan) (batchSize : Nat)

/-- `validate_reserve_request`. -/
def validateReserveRequest (request : ReserveRequest) : Bool :=
  0 ≤ request.estimatedCost.coeff && request.traceCap.all fun c => 0 < c.coeff

/-- The user whose reservation a call releases. -/
def releasedUser : ExternalCall → Option String
  | .releaseInflight userId => some userId
  | _ => none

namespace RouteWorld

/-- One step. -/
def step (d : Deployment) (limits : LimiterSettings) (w : RouteWorld) : RouteAction → RouteWorld
  | .arrive request =>
    if validateReserveRequest request then
      { w with handlers := w.handlers ++ [⟨request, .lookup⟩] }
    else w
  | .lookup i =>
    match w.handlers[i]? with
    | some ⟨request, .lookup⟩ =>
      let phase := match w.ledger.tables.escrowLedger.find? request.idempotencyKey with
        | some _ => .reserve false
        | none => .check
      { w with handlers := w.handlers.set i ⟨request, phase⟩ }
    | _ => w
  | .check i monotonic time =>
    match w.handlers[i]? with
    | some ⟨request, .check⟩ =>
      match w.limiter.checkReserve limits monotonic time request.userId request.traceId
          request.idempotencyKey with
      | (.ok _, limiter) =>
        { w with limiter := limiter, handlers := w.handlers.set i ⟨request, .reserve true⟩ }
      | (.error _, limiter) =>
        { w with limiter := limiter, handlers := w.handlers.eraseIdx i }
    | _ => w
  | .reserve i raced settings clock breaker =>
    match w.handlers[i]? with
    | some ⟨request, .reserve bumped⟩ =>
      let a := reserveAction raced settings clock breaker request
      let ledger := Ledger.step d w.ledger a
      match respond d w.ledger a with
      | .ok _ => { w with ledger := ledger, handlers := w.handlers.eraseIdx i }
      | .error _ =>
        if bumped then { w with ledger := ledger, handlers := w.handlers.set i ⟨request, .release⟩ }
        else { w with ledger := ledger, handlers := w.handlers.eraseIdx i }
    | _ => w
  | .release i =>
    match w.handlers[i]? with
    | some ⟨request, .release⟩ =>
      { w with
        limiter := w.limiter.releaseReserve request.userId
        handlers := w.handlers.eraseIdx i }
    | _ => w
  | .settle settings clock request =>
    let ledger := Ledger.step d w.ledger (.settle settings clock request)
    let calls := ledger.outside.calls.drop w.ledger.outside.calls.length
    { w with ledger := ledger, releases := w.releases ++ calls.filterMap releasedUser }
  | .releaseSettled i =>
    match w.releases[i]? with
    | some userId =>
      { w with
        limiter := w.limiter.releaseReserve userId
        releases := w.releases.eraseIdx i }
    | none => w
  | .sweep clock plan batchSize =>
    { w with ledger := Ledger.step d w.ledger (.sweep clock plan batchSize) }

/-- The counted requests of a user that are still in progress. -/
def inProgress (w : RouteWorld) (userId : String) : Nat :=
  (w.handlers.countP fun h => h.request.userId = userId && h.phase.counted) +
    w.releases.countP fun u => u = userId

end RouteWorld

/-- The operations of a user that are neither settled nor expired. -/
def openCount (db : Database) (userId : String) : Nat :=
  db.escrowLedger.rows.countP fun r => r.userId = userId && r.status.held

/-! ## Open operations under the ledger's moves -/

section Moves

variable {d : Deployment} {db db' : Database} {c : Change} {w : LedgerWorld} {settings : Settings}
  {clock : Clock} {breaker : BreakerAnswer}

/-- One for an operation that is neither settled nor expired. -/
def heldUnit (r : EscrowRow) : Money := if r.status.held then 1 else 0

theorem heldUnit_of_held {r : EscrowRow} (h : r.status.held = true) : heldUnit r = 1 := if_pos h

theorem heldUnit_of_not_held {r : EscrowRow} (h : r.status.held = false) : heldUnit r = 0 := by
  rw [heldUnit, h]
  rfl

/-- What a move of a stored operation opens or closes. -/
theorem delta_heldUnit (o r : EscrowRow) (ps : List Posting) :
    (Change.mk (some o) r ps).delta heldUnit = heldUnit r - heldUnit o := rfl

theorem openCount_eq_sum (db : Database) (userId : String) : (openCount db userId : Money) =
    db.escrowLedger.sum fun r => if r.userId = userId then heldUnit r else 0 := by
  rw [openCount, Table.sum]
  induction db.escrowLedger.rows with
  | nil => rfl
  | cons r rows ih =>
    rw [List.countP_cons, List.map_cons, List.sum_cons, ← ih]
    by_cases hu : r.userId = userId <;> by_cases hs : r.status.held = true <;>
      simp [heldUnit, hu, hs, add_comm]

theorem openCount_move (hmove : Move d db c db') (userId : String) :
    (openCount db' userId : Money) =
      openCount db userId + if c.new.userId = userId then c.delta heldUnit else 0 := by
  have hguard : ∀ o ∈ c.old, o.userId = userId ↔ c.new.userId = userId := by
    intro o ho
    rw [(hmove.continues o ho).userId]
  rw [openCount_eq_sum, openCount_eq_sum, hmove.sum_eq,
    Change.delta_guard (fun r => r.userId = userId) heldUnit hguard]

theorem openCount_idle (hidle : Idle db db') (userId : String) :
    openCount db' userId = openCount db userId := by
  rw [openCount, openCount, hidle.escrowLedger]

/-- Moves between open states open and close nothing. -/
theorem openCount_moves {cs : List Change} (h : Moves d db cs db')
    (hcs : ∀ c ∈ cs, c.delta heldUnit = 0) (userId : String) :
    openCount db' userId = openCount db userId := by
  induction cs generalizing db with
  | nil => exact openCount_idle h userId
  | cons c cs ih =>
    obtain ⟨mid, hmove, hrest⟩ := h
    have hmid : (openCount mid userId : Money) = openCount db userId := by
      rw [openCount_move hmove, hcs c List.mem_cons_self, ite_self, add_zero]
    rw [ih hrest fun c' hc' => hcs c' (List.mem_cons_of_mem _ hc')]
    exact_mod_cast hmid

/-- What a reserve does to the open operations. -/
inductive ReserveEffect (d : Deployment) (w : LedgerWorld) (a : Action)
    (request : ReserveRequest) : Prop
  /-- It raised. -/
  | refused {e : Exn} (hr : respond d w a = .error e)
      (hopen : ∀ u, openCount (step d w a).tables u = openCount w.tables u)
  /-- It created the operation. -/
  | created {r : Response} (hr : respond d w a = .ok r)
      (hfresh : w.tables.escrowLedger.find? request.idempotencyKey = none)
      (hopen : ∀ u, openCount (step d w a).tables u =
        openCount w.tables u + if request.userId = u then 1 else 0)
  /-- It repeated the reserve of a stored operation. -/
  | replayed {r : Response} {row : EscrowRow} (hr : respond d w a = .ok r)
      (hrow : w.tables.escrowLedger.find? request.idempotencyKey = some row)
      (hfp : row.requestFingerprint = fingerprintReserveRequest d request)
      (hopen : ∀ u, openCount (step d w a).tables u = openCount w.tables u)

theorem created_openCount {request : ReserveRequest}
    (hmove : Move d db (reserveChange d settings clock request) db') (u : String) :
    openCount db' u = openCount db u + if request.userId = u then 1 else 0 := by
  have hcount := openCount_move hmove u
  have hdelta : (reserveChange d settings clock request).delta heldUnit = 1 := by
    simp [Change.delta, reserveChange, heldUnit, ReserveRequest.escrowRow, EscrowStatus.held]
  have huser : (reserveChange d settings clock request).new.userId = request.userId := rfl
  rw [hdelta, huser] at hcount
  split_ifs at hcount ⊢ with hu
  · exact_mod_cast hcount
  · simpa using hcount

theorem reserveEffect (hw : Sound w) (raced : Bool) (request : ReserveRequest) :
    ReserveEffect d w (reserveAction raced settings clock breaker request) request := by
  have hc := reserveAction_committed (d := d) hw raced settings clock breaker request
  generalize reserveAction raced settings clock breaker request = a at hc ⊢
  generalize hr : respond d w a = r at hc
  generalize hdb : (step d w a).tables = db' at hc
  cases hc with
  | refused hidle => exact .refused hr fun u => by rw [hdb, openCount_idle hidle]
  | replayed _ hfind hfp => exact .replayed hr hfind hfp fun u => by rw [hdb]
  | created hmove => exact .created hr hmove.old fun u => by rw [hdb, created_openCount hmove]

/-- The users whose reservations a transaction releases. -/
def releasedBy (d : Deployment) (w : LedgerWorld) (a : Action) : List String :=
  ((step d w a).outside.calls.drop w.outside.calls.length).filterMap releasedUser

theorem releasedBy_eq (hw : Sound w) (a : Action) :
    releasedBy d w a = (a.calls w (respond d w a)).filterMap releasedUser := by
  rw [releasedBy, step_calls hw, List.drop_left]

/-- What a settlement does to the open operations and which reservations it releases. -/
inductive SettleEffect (d : Deployment) (w : LedgerWorld) (a : Action)
    (request : SettleRequest) : Prop
  /-- It raised, or it recorded dispatch activity. -/
  | unchanged (hopen : ∀ u, openCount (step d w a).tables u = openCount w.tables u)
      (hreleased : releasedBy d w a = [])
  /-- It settled an open operation. -/
  | closed {operation : EscrowRow} (hload : loadOperationForUpdate w.tables request = some operation)
      (hopen : ∀ u, openCount (step d w a).tables u + (if operation.userId = u then 1 else 0) =
        openCount w.tables u)
      (hreleased : releasedBy d w a = [operation.userId])
  /-- It repeated a settlement, or settled an expired operation. -/
  | late {operation : EscrowRow} (hout : request.outcome = .settled)
      (hload : loadOperationForUpdate w.tables request = some operation)
      (hstatus : operation.status = .expired ∨
        operation.status = .settled ∧ settlementReplays operation request = true)

/-- The move of a settlement closes what was open. -/
theorem settled_openCount {operation : EscrowRow} {request : SettleRequest} {ps : List Posting}
    (hheld : operation.status.held = true)
    (hmove : Move d db ⟨some operation, settledRow clock operation request, ps⟩ db') (u : String) :
    openCount db' u + (if operation.userId = u then 1 else 0) = openCount db u := by
  have hcount := openCount_move hmove u
  have hdelta : (Change.mk (some operation) (settledRow clock operation request) ps).delta
      heldUnit = -1 := by
    rw [delta_heldUnit, heldUnit_of_held hheld, heldUnit_of_not_held rfl]
    rfl
  have huser : (settledRow clock operation request).userId = operation.userId := rfl
  rw [hdelta, huser] at hcount
  have hcast : (openCount db' u : ℤ) + (if operation.userId = u then 1 else 0) =
      openCount db u := by
    rw [show (openCount db' u : ℤ) = _ from hcount]
    split_ifs <;> ring
  exact_mod_cast hcast

theorem settleEffect (hw : Sound w) (request : SettleRequest) :
    SettleEffect d w (.settle settings clock request) request := by
  have hc := (body_committed (d := d) hw (.settle settings clock request)).1
  have hreleased := releasedBy_eq (d := d) hw (.settle settings clock request)
  generalize ha : Action.settle settings clock request = a at hc hreleased ⊢
  generalize hr : respond d w a = r at hc hreleased
  generalize hdb : (step d w a).tables = db' at hc
  cases hc with
  | raised _ hidle =>
    refine .unchanged (fun u => by rw [hdb, openCount_idle hidle]) ?_
    rw [hreleased, ← ha]
    rfl
  | replayed | swept => cases ha
  | reserved ha' => rcases ha' with rfl | rfl <;> cases ha
  | settled hsettle =>
    cases ha
    simp only [Action.calls] at hreleased
    cases hsettle with
    | replayed hload haccepts ho hs hreplays => exact .late ho hload (Or.inr ⟨hs, hreplays⟩)
    | @settled operation ps db'' hload haccepts ho hns hmove =>
      by_cases hheld : operation.status.held = true
      · refine .closed hload (fun u => by rw [hdb, settled_openCount hheld hmove]) ?_
        have hcalls : settleCalls operation request =
            [.recordProviderSuccess (successKey operation request),
              .releaseInflight operation.userId] := by
          simp [settleCalls, ho, hns]
        rw [hreleased, hload, Option.map_some, Option.getD_some, hcalls]
        rfl
      · have hexpired : operation.status = .expired := by
          cases hs : operation.status <;> simp_all [EscrowStatus.held]
        exact .late ho hload (Or.inl hexpired)
    | @recorded operation ps db'' hload ho hmove =>
      have hdelta : (Change.mk (some operation) (operation.record request clock.utcnow) ps).delta
          heldUnit = 0 := by
        have hnew : (operation.record request clock.utcnow).status.held = true := by
          cases hout : request.outcome <;>
            simp_all [EscrowRow.record, SettleOutcome.status, EscrowStatus.held]
        have hold : operation.status.held = true :=
          Transition.held_before hmove.valid (Or.inl hnew) operation rfl
        rw [delta_heldUnit, heldUnit_of_held hold, heldUnit_of_held hnew, sub_self]
      have hmoves := Moves.single hmove
      refine .unchanged (fun u => by
        rw [hdb, openCount_moves hmoves (by simpa using hdelta)]) ?_
      rw [hreleased, hload]
      cases hout : request.outcome with
      | settled => exact absurd hout ho
      | inFlight => simp [settleCalls, hout]
      | providerTimeout =>
        simp only [settleCalls, hout, Option.map_some, Option.getD_some]
        split_ifs <;> rfl

/-- A sweep that expires nothing leaves every open operation open. -/
theorem sweep_openCount (hw : Sound w) {plan : SweepPlan} {batchSize : Nat}
    (hactive : ∀ r ∈ sweepBatch w.tables clock plan batchSize,
      hasDispatchActivity w.tables r = true) (u : String) :
    openCount (step d w (.sweep clock plan batchSize)).tables u = openCount w.tables u := by
  have hc := (body_committed (d := d) hw (.sweep clock plan batchSize)).1
  generalize respond d w (.sweep clock plan batchSize) = r at hc
  cases hc with
  | raised ha => cases ha
  | reserved ha => rcases ha with ha | ha <;> cases ha
  | swept hmoves =>
    refine openCount_moves hmoves ?_ u
    intro c hmem
    obtain ⟨r, hr, rfl⟩ := List.mem_map.mp hmem
    have hheld := (mem_sweepBatch hr).2
    have hstrand : (r.strand clock.utcnow).status.held = true := rfl
    rw [sweepChange, if_pos (hactive r hr), delta_heldUnit, heldUnit_of_held hheld,
      heldUnit_of_held hstrand, sub_self]

end Moves

/-! ## The counter -/

namespace RouteWorld

variable {d : Deployment} {limits : LimiterSettings} {w : RouteWorld}

/-- The step keeps the counter exact: a counted request is not answered as a replay, a
settlement meets an operation that is still open (or one it does not repeat), and a sweep
expires nothing. -/
def Matched (d : Deployment) (w : RouteWorld) : RouteAction → Prop
  | .reserve i _ _ _ _ => ∀ request, w.handlers[i]? = some ⟨request, .reserve true⟩ →
      ∀ row, w.ledger.tables.escrowLedger.find? request.idempotencyKey = some row →
        row.requestFingerprint ≠ fingerprintReserveRequest d request
  | .settle _ _ request => request.outcome = .settled →
      ∀ operation, loadOperationForUpdate w.ledger.tables request = some operation →
        operation.status ≠ .expired ∧
          (operation.status = .settled → settlementReplays operation request = false)
  | .sweep clock plan batchSize =>
      ∀ r ∈ sweepBatch w.ledger.tables clock plan batchSize,
        hasDispatchActivity w.ledger.tables r = true
  | _ => True

/-- The counter of every user is exact, and the limit holds and is used in full. -/
structure InflightExact (limits : LimiterSettings) (w : RouteWorld) : Prop where
  /-- The counter is the number of open operations and of counted requests in progress. -/
  counter : ∀ u, w.limiter.inflight u = openCount w.ledger.tables u + w.inProgress u
  /-- No user has more open reservations than the limit. -/
  bounded : ∀ u, 0 < openCount w.ledger.tables u →
    (openCount w.ledger.tables u : Int) ≤ limits.fallbackMaxUserInflight
  /-- No check is denied by the limit with fewer. -/
  denied : ∀ u traceId key monotonic time message,
    (w.limiter.checkReserve limits monotonic time u traceId key).1 =
        .error (.inflightLimitExceeded message) →
      limits.fallbackMaxUserInflight ≤ openCount w.ledger.tables u + w.inProgress u

/-- What every matched step keeps. -/
structure Inv (limits : LimiterSettings) (w : RouteWorld) : Prop where
  sound : Sound w.ledger
  counter : ∀ u, w.limiter.inflight u = openCount w.ledger.tables u + w.inProgress u
  limit : ∀ u, w.limiter.inflight u ≤ max 0 limits.fallbackMaxUserInflight
  /-- A handler that found its key does so at its transaction. -/
  seen : ∀ h ∈ w.handlers, h.phase = .reserve false →
    ∃ r, w.ledger.tables.escrowLedger.find? h.request.idempotencyKey = some r

theorem Inv.exact (h : w.Inv limits) : w.InflightExact limits where
  counter := h.counter
  bounded := by
    intro u hpos
    have hcounter := h.counter u
    have hlimit := h.limit u
    omega
  denied := by
    intro u traceId key monotonic time message hdenied
    rw [← h.counter u]
    exact LocalFallbackLimiter.inflight_of_denied hdenied

/-! ## One step -/

section Step

variable {i : Nat} {request : ReserveRequest} {phase : Phase}

/-- What a handler contributes to its user's counter. -/
def share (request : ReserveRequest) (phase : Phase) (u : String) : Nat :=
  if request.userId = u && phase.counted then 1 else 0

theorem share_of_not_counted (hphase : phase.counted = false) (u : String) :
    share request phase u = 0 := by
  rw [share, hphase, Bool.and_false]
  rfl

theorem share_of_counted (hphase : phase.counted = true) (u : String) :
    share request phase u = if request.userId = u then 1 else 0 := by
  rw [share, hphase, Bool.and_true]
  simp

/-- A handler that moves on contributes by its new phase. -/
theorem inProgress_set (hi : w.handlers[i]? = some ⟨request, phase⟩) (phase' : Phase)
    (u : String) : ({ w with handlers := w.handlers.set i ⟨request, phase'⟩ } : RouteWorld).inProgress u +
      share request phase u = w.inProgress u + share request phase' u := by
  have hmoved := countP_moved (fun h : Handler => h.request.userId = u && h.phase.counted) hi
    ⟨request, phase'⟩
  simp only [inProgress, share]
  simp only at hmoved
  omega

theorem inProgress_erase (hi : w.handlers[i]? = some ⟨request, phase⟩) (u : String) :
    ({ w with handlers := w.handlers.eraseIdx i } : RouteWorld).inProgress u +
      share request phase u = w.inProgress u := by
  have hended := countP_ended (fun h : Handler => h.request.userId = u && h.phase.counted) hi
  simp only [inProgress, share]
  simp only at hended
  omega

theorem seen_set (hseen : ∀ h ∈ w.handlers, h.phase = .reserve false →
      ∃ r, w.ledger.tables.escrowLedger.find? h.request.idempotencyKey = some r)
    (hnew : phase = .reserve false →
      ∃ r, w.ledger.tables.escrowLedger.find? request.idempotencyKey = some r) :
    ∀ h ∈ w.handlers.set i ⟨request, phase⟩, h.phase = .reserve false →
      ∃ r, w.ledger.tables.escrowLedger.find? h.request.idempotencyKey = some r := by
  intro h hmem hphase
  rcases List.mem_or_eq_of_mem_set hmem with hold | rfl
  · exact hseen h hold hphase
  · exact hnew hphase

theorem arrive_inv (h : w.Inv limits) (request : ReserveRequest) :
    (w.step d limits (.arrive request)).Inv limits := by
  rw [step]
  split_ifs
  · refine ⟨h.sound, ?_, h.limit, ?_⟩
    · intro u
      rw [h.counter u]
      simp [inProgress, Phase.counted]
    · intro x hx hphase
      rcases List.mem_append.mp hx with hx | hx
      · exact h.seen x hx hphase
      · rw [List.mem_singleton.mp hx] at hphase
        cases hphase
  · exact h

theorem lookup_inv (h : w.Inv limits) (i : Nat) : (w.step d limits (.lookup i)).Inv limits := by
  rw [step]
  split
  · next request hi =>
    have hmoved : ∀ phase : Phase, phase.counted = false → (phase = .reserve false →
        ∃ r, w.ledger.tables.escrowLedger.find? request.idempotencyKey = some r) →
        ({ w with handlers := w.handlers.set i ⟨request, phase⟩ } : RouteWorld).Inv limits := by
      intro phase hcounted hseen
      refine ⟨h.sound, ?_, h.limit, seen_set h.seen hseen⟩
      intro u
      have hshare := inProgress_set hi phase u
      rw [share_of_not_counted rfl u, share_of_not_counted hcounted u, add_zero, add_zero] at hshare
      rw [hshare]
      exact h.counter u
    cases hfind : w.ledger.tables.escrowLedger.find? request.idempotencyKey with
    | some row => exact hmoved (.reserve false) rfl fun _ => ⟨row, hfind⟩
    | none => exact hmoved .check rfl fun hphase => nomatch hphase
  · exact h

/-- The guardrails count the handler exactly when they let it pass. -/
theorem check_inv (h : w.Inv limits) (i : Nat) (monotonic : ℚ) (time : Int) :
    (w.step d limits (.check i monotonic time)).Inv limits := by
  rw [step]
  split
  · next request hi =>
    have hcheck := LocalFallbackLimiter.checkReserve_inflight limits monotonic time request.userId
      request.traceId request.idempotencyKey w.limiter
    split
    · next limiter heq =>
      rw [heq] at hcheck
      obtain ⟨-, hle, hinflight⟩ | ⟨hne, -⟩ := hcheck
      · refine ⟨h.sound, ?_, ?_, seen_set h.seen fun hphase => nomatch hphase⟩
        · intro u
          have hshare := inProgress_set hi (.reserve true) u
          rw [share_of_not_counted rfl u, share_of_counted rfl u, add_zero] at hshare
          have hcounter := h.counter u
          change limiter.inflight u = openCount w.ledger.tables u +
            (RouteWorld.inProgress { w with
              handlers := w.handlers.set i ⟨request, .reserve true⟩ } u : Nat)
          rw [hinflight, hshare]
          by_cases hu : request.userId = u
          · subst hu
            rw [Function.update_self, hcounter, if_pos rfl]
            push_cast
            ring
          · rw [Function.update_of_ne (Ne.symm hu), hcounter, if_neg hu, add_zero]
        · intro u
          change limiter.inflight u ≤ _
          rw [hinflight]
          by_cases hu : u = request.userId
          · subst hu
            rw [Function.update_self]
            exact le_max_of_le_right hle
          · rw [Function.update_of_ne hu]
            exact h.limit u
      · exact absurd rfl hne
    · next limiter heq =>
      rw [heq] at hcheck
      obtain ⟨hok, -⟩ | ⟨-, hinflight⟩ := hcheck
      · cases hok
      · refine ⟨h.sound, ?_, ?_, fun x hx => h.seen x (List.mem_of_mem_eraseIdx hx)⟩
        · intro u
          have hshare := inProgress_erase hi u
          rw [share_of_not_counted rfl u, add_zero] at hshare
          change limiter.inflight u = openCount w.ledger.tables u +
            (RouteWorld.inProgress { w with handlers := w.handlers.eraseIdx i } u : Nat)
          rw [hinflight, h.counter u, hshare]
        · intro u
          change limiter.inflight u ≤ _
          rw [hinflight]
          exact h.limit u
  · exact h

/-- A transaction moves what it closes or opens between the ledger and the requests in
progress. -/
theorem Inv.of_ledger (h : w.Inv limits) {a : Action} {handlers : List Handler}
    {releases : List String}
    (hbalance : ∀ u, openCount (Ledger.step d w.ledger a).tables u +
        RouteWorld.inProgress { w with handlers := handlers, releases := releases } u =
      openCount w.ledger.tables u + w.inProgress u)
    (hhandlers : ∀ x ∈ handlers, x.phase = .reserve false → x ∈ w.handlers) :
    RouteWorld.Inv limits { w with
      ledger := Ledger.step d w.ledger a, handlers := handlers, releases := releases } := by
  refine ⟨step_sound h.sound a, ?_, h.limit, ?_⟩
  · intro u
    have hsum : ((openCount (Ledger.step d w.ledger a).tables u +
        RouteWorld.inProgress { w with handlers := handlers, releases := releases } u : Nat) : ℤ) =
        (openCount w.ledger.tables u + w.inProgress u : Nat) := congrArg Nat.cast (hbalance u)
    push_cast at hsum
    change w.limiter.inflight u = _
    rw [h.counter u, ← hsum]
    rfl
  · intro x hx hphase
    exact step_stored h.sound (h.seen x (hhandlers x hx hphase) hphase) a

/-- A release pays for a request in progress. -/
theorem Inv.of_release (h : w.Inv limits) {userId : String} {handlers : List Handler}
    {releases : List String}
    (hbalance : ∀ u, RouteWorld.inProgress { w with handlers := handlers, releases := releases } u +
      (if userId = u then 1 else 0) = w.inProgress u)
    (hhandlers : ∀ x ∈ handlers, x ∈ w.handlers) :
    RouteWorld.Inv limits { w with
      limiter := w.limiter.releaseReserve userId, handlers := handlers, releases := releases } := by
  have hpos : 0 < w.limiter.inflight userId := by
    have hcounter := h.counter userId
    have hprogress := hbalance userId
    rw [if_pos rfl] at hprogress
    omega
  have hinflight := LocalFallbackLimiter.releaseReserve_inflight hpos
  refine ⟨h.sound, ?_, ?_, fun x hx => h.seen x (hhandlers x hx)⟩
  · intro u
    have hcounter := h.counter u
    have hprogress := hbalance u
    change (w.limiter.releaseReserve userId).inflight u = openCount w.ledger.tables u +
      (RouteWorld.inProgress { w with handlers := handlers, releases := releases } u : Nat)
    rw [hinflight]
    by_cases hu : userId = u
    · subst hu
      rw [if_pos rfl] at hprogress
      rw [Function.update_self]
      omega
    · rw [if_neg hu, add_zero] at hprogress
      rw [Function.update_of_ne (Ne.symm hu), hcounter, hprogress]
  · intro u
    have hlimit := h.limit u
    change (w.limiter.releaseReserve userId).inflight u ≤ _
    rw [hinflight]
    by_cases hu : u = userId
    · subst hu
      rw [Function.update_self]
      omega
    · rw [Function.update_of_ne hu]
      exact hlimit

theorem reserve_inv (h : w.Inv limits) {i : Nat} {raced : Bool} {settings : Settings}
    {clock : Clock} {breaker : BreakerAnswer}
    (hm : w.Matched d (.reserve i raced settings clock breaker)) :
    (w.step d limits (.reserve i raced settings clock breaker)).Inv limits := by
  rw [step]
  split
  · next request bumped hi =>
    have herased : ∀ x ∈ w.handlers.eraseIdx i, x.phase = .reserve false → x ∈ w.handlers :=
      fun x hx _ => List.mem_of_mem_eraseIdx hx
    have hprogress := inProgress_erase hi
    have heffect : ReserveEffect d w.ledger
        (reserveAction raced settings clock breaker request) request :=
      reserveEffect h.sound raced request
    cases heffect with
    | refused hr hopen =>
      simp only [hr]
      cases bumped with
      | true =>
        refine h.of_ledger ?_ ?_
        · intro u
          have hmoved := inProgress_set hi .release u
          rw [share_of_counted rfl u, share_of_counted rfl u] at hmoved
          rw [hopen u]
          exact congrArg _ (Nat.add_right_cancel hmoved)
        · intro x hx hphase
          rcases List.mem_or_eq_of_mem_set hx with hold | rfl
          · exact hold
          · cases hphase
      | false =>
        refine h.of_ledger ?_ herased
        intro u
        rw [hopen u, ← hprogress u, share_of_not_counted rfl u]
        rfl
    | created hr hfresh hopen =>
      simp only [hr]
      cases bumped with
      | true =>
        refine h.of_ledger ?_ herased
        intro u
        rw [hopen u, ← hprogress u, share_of_counted rfl u]
        ring
      | false =>
        -- the handler found its key, so the transaction does too
        obtain ⟨row, hrow⟩ := h.seen _ (List.mem_of_getElem? hi) rfl
        rw [hfresh] at hrow
        cases hrow
    | replayed hr hrow hfp hopen =>
      simp only [hr]
      cases bumped with
      | true => exact absurd hfp (hm request hi _ hrow)
      | false =>
        refine h.of_ledger ?_ herased
        intro u
        rw [hopen u, ← hprogress u, share_of_not_counted rfl u]
        rfl
  · exact h

theorem release_inv (h : w.Inv limits) (i : Nat) : (w.step d limits (.release i)).Inv limits := by
  rw [step]
  split
  · next request hi =>
    refine h.of_release ?_ fun x hx => List.mem_of_mem_eraseIdx hx
    intro u
    rw [← inProgress_erase hi u, share_of_counted rfl u]
  · exact h

theorem settle_inv (h : w.Inv limits) {settings : Settings} {clock : Clock}
    {request : SettleRequest} (hm : w.Matched d (.settle settings clock request)) :
    (w.step d limits (.settle settings clock request)).Inv limits := by
  have hkeep : ∀ x ∈ w.handlers, x.phase = .reserve false → x ∈ w.handlers := fun _ hx _ => hx
  have hreleases : ((Ledger.step d w.ledger (.settle settings clock request)).outside.calls.drop
      w.ledger.outside.calls.length).filterMap releasedUser =
        releasedBy d w.ledger (.settle settings clock request) := rfl
  rw [step]
  simp only [hreleases]
  have heffect : SettleEffect d w.ledger (.settle settings clock request) request :=
    settleEffect h.sound request
  cases heffect with
  | unchanged hopen hreleased =>
    refine h.of_ledger ?_ hkeep
    intro u
    rw [hopen u, hreleased, List.append_nil]
  | @closed operation hload hopen hreleased =>
    refine h.of_ledger ?_ hkeep
    intro u
    have hcount := hopen u
    rw [hreleased, inProgress, inProgress, List.countP_append, List.countP_singleton]
    simp only [decide_eq_true_eq]
    omega
  | late hout hload hstatus =>
    obtain ⟨hexpired, hsettled⟩ := hm hout _ hload
    rcases hstatus with he | ⟨hs, hreplays⟩
    · exact absurd he hexpired
    · rw [hsettled hs] at hreplays
      cases hreplays

theorem releaseSettled_inv (h : w.Inv limits) (i : Nat) :
    (w.step d limits (.releaseSettled i)).Inv limits := by
  rw [step]
  split
  · next userId hi =>
    refine h.of_release ?_ fun x hx => hx
    intro u
    have hended := countP_ended (fun v : String => v = u) hi
    simp only [inProgress]
    simp only [decide_eq_true_eq] at hended
    omega
  · exact h

theorem sweep_inv (h : w.Inv limits) {clock : Clock} {plan : SweepPlan} {batchSize : Nat}
    (hm : w.Matched d (.sweep clock plan batchSize)) :
    (w.step d limits (.sweep clock plan batchSize)).Inv limits := by
  rw [step]
  refine h.of_ledger ?_ fun _ hx _ => hx
  intro u
  rw [sweep_openCount h.sound hm u]

theorem matched_inv (h : w.Inv limits) {a : RouteAction} (hm : w.Matched d a) :
    (w.step d limits a).Inv limits := by
  cases a with
  | arrive request => exact arrive_inv h request
  | lookup i => exact lookup_inv h i
  | check i monotonic time => exact check_inv h i monotonic time
  | reserve i raced settings clock breaker => exact reserve_inv h hm
  | release i => exact release_inv h i
  | settle settings clock request => exact settle_inv h hm
  | releaseSettled i => exact releaseSettled_inv h i
  | sweep clock plan batchSize => exact sweep_inv h hm

end Step

/-! ## Runs -/

/-- A sidecar that has not reserved anything yet. -/
structure Fresh (w : RouteWorld) : Prop where
  ledger : NoOperations w.ledger
  inflight : ∀ u, w.limiter.inflight u = 0
  handlers : w.handlers = []
  releases : w.releases = []

theorem Fresh.inv (h : w.Fresh) : w.Inv limits := by
  refine ⟨h.ledger.sound, ?_, ?_, ?_⟩
  · intro u
    rw [h.inflight u, openCount, h.ledger.escrowLedger, inProgress, h.handlers, h.releases]
    rfl
  · intro u
    rw [h.inflight u]
    exact le_max_left 0 _
  · intro x hx
    rw [h.handlers] at hx
    cases hx

/-- The sample ledger behind a fresh limiter. -/
def sample : RouteWorld := ⟨sampleWorld, .initial 0, [], []⟩

/-- A reserve in all its phases. -/
def sampleReserving : List RouteAction :=
  [.arrive sampleReserve, .lookup 0, .check 0 1 1767225600,
    .reserve 0 false Settings.default (sampleClock 0) .closed]

/-- The sweep after the reservation has expired. -/
def sampleExpiring : List RouteAction :=
  sampleReserving ++ [.sweep (sampleClock 10) ⟨fun _ => false, fun _ => 0⟩ 10]

/-- An expired reservation is never released: the counter stays at one with nothing open. -/
theorem expired_keeps_counter :
    let w := sampleExpiring.foldl (step sampleDeployment LimiterSettings.default) sample
    w.limiter.inflight "user-1" = 1 ∧ openCount w.ledger.tables "user-1" = 0 ∧
      w.inProgress "user-1" = 0 ∧ ¬ w.InflightExact LimiterSettings.default := by
  intro w
  have hcounter : w.limiter.inflight "user-1" = 1 := by decide +kernel
  have hopen : openCount w.ledger.tables "user-1" = 0 := by decide +kernel
  have hidle : w.inProgress "user-1" = 0 := by decide +kernel
  refine ⟨hcounter, hopen, hidle, ?_⟩
  intro h
  have hexact := h.counter "user-1"
  rw [hcounter, hopen, hidle] at hexact
  cases hexact

/-- From a fresh sidecar, the counters are exact in every state of a run whose counted
requests are not answered as replays, whose settlements meet open operations and whose
sweeps expire nothing. -/
theorem run_inflight_exact (d : Deployment) (limits : LimiterSettings) (w : RouteWorld)
    (hw : w.Fresh) (actions : List RouteAction)
    (h : Along (step d limits) (Matched d) w actions) :
    Throughout (step d limits) (InflightExact limits) w actions := by
  have hinv : Throughout (step d limits) (Inv limits) w actions :=
    throughout_of_along hw.inv (fun _ _ hm hinv => matched_inv hinv hm) h
  exact hinv.imp fun _ => Inv.exact

theorem run_inflight_exact_sample :
    let w := sampleReserving.foldl (step sampleDeployment LimiterSettings.default) sample
    w.limiter.inflight "user-1" = 1 ∧
      Throughout (step sampleDeployment LimiterSettings.default)
        (InflightExact LimiterSettings.default) sample sampleReserving := by
  refine ⟨by decide +kernel, run_inflight_exact _ _ _ ⟨⟨rfl, rfl⟩, fun _ => rfl, rfl, rfl⟩ _
    ⟨trivial, trivial, trivial, ?_, trivial⟩⟩
  intro request _ row hrow
  have hempty : ((sampleReserving.take 3).foldl (step sampleDeployment LimiterSettings.default)
      sample).ledger.tables.escrowLedger.rows = [] := List.isEmpty_iff.mp (by decide +kernel)
  have hmem : row ∈ ((sampleReserving.take 3).foldl
      (step sampleDeployment LimiterSettings.default) sample).ledger.tables.escrowLedger.rows :=
    Table.mem_of_find? hrow
  rw [hempty] at hmem
  cases hmem

end RouteWorld

end Governor.Operations
