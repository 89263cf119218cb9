import Mathlib
import Governor.Gateway.Dispatch

/-!
# What becomes of a dispatched call

The sweep tells an operation whose provider call may be running from one that was never
dispatched by the dispatch activity in the ledger, and the gateway records none. So an
operation that is dispatched and not settled in time is refunded like any other. A call that
completes settles the smaller of the provider's cost and its own estimate.
-/

namespace Governor.Gateway

open Ledger

namespace GatewayWorld

variable {d : Deployment} {w : GatewayWorld}

/-- The ledger of the gateway moves by transactions. -/
theorem step_ledger {I : LedgerWorld → Prop} (hI : ∀ w a, I w → I (Ledger.step d w a))
    (h : I w.ledger) (a : GatewayAction) : I (w.step d a).ledger := by
  cases a with
  | sweep clock plan batchSize => exact hI _ _ h
  | reserve i raced settings clock breaker lost =>
    rw [GatewayWorld.step]
    split
    · simp only
      split
      · exact hI _ _ h
      · exact hI _ _ h
    · exact h
  | settle i settings clock lost =>
    rw [GatewayWorld.step]
    split
    · simp only
      split
      · split
        · exact hI _ _ h
        · exact hI _ _ h
      · exact h
    · exact h
  | call | fail => exact h
  | dispatch | answer =>
    rw [GatewayWorld.step]
    split
    · exact h
    · exact h

/-! ## Refunds -/

/-- No operation whose provider was called is expired. -/
def NoRefund (w : GatewayWorld) : Prop :=
  ∀ key ∈ w.dispatched, ∀ row, w.ledger.tables.escrowLedger.find? key = some row →
    row.status ≠ .expired

/-- A sweep claims no dispatched operation without dispatch activity, and no provider is called
for an operation that is expired already. -/
def SparesDispatched (w : GatewayWorld) : GatewayAction → Prop
  | .dispatch i => ∀ call uuid status, w.calls[i]? = some ⟨call, uuid, .dispatch status⟩ →
      ∀ row, w.ledger.tables.escrowLedger.find? (opKey call uuid) = some row →
        row.status ≠ .expired
  | .sweep clock plan batchSize => ∀ r ∈ sweepBatch w.ledger.tables clock plan batchSize,
      hasDispatchActivity w.ledger.tables r = false → r.idempotencyKey ∉ w.dispatched
  | _ => True

/-- Only a sweep expires an operation. -/
theorem expired_of_not_sweep {w : LedgerWorld} (hw : Sound w) {a : Action}
    (ha : a.isSweep = false) {key : String} {row : EscrowRow}
    (hrow : (Ledger.step d w a).tables.escrowLedger.find? key = some row)
    (hexpired : row.status = .expired) : w.tables.escrowLedger.find? key = some row := by
  have hc := (body_committed (d := d) hw a).1
  generalize (Ledger.step d w a).tables = db' at hc hrow
  generalize respond d w a = response at hc
  have hmoved : ∀ {c : Change}, Move d w.tables c db' → c.new.status ≠ .expired →
      w.tables.escrowLedger.find? key = some row := by
    intro c hmove hne
    rw [hmove.new, Table.find?_put] at hrow
    split_ifs at hrow
    · obtain rfl := Option.some.inj hrow
      exact absurd hexpired hne
    · exact hrow
  cases hc with
  | raised _ hidle =>
    rw [hidle.escrowLedger] at hrow
    exact hrow
  | replayed => exact hrow
  | reserved _ hmove => exact hmoved hmove (fun h => nomatch h)
  | settled hsettle =>
    cases hsettle with
    | replayed => exact hrow
    | settled _ _ _ _ hmove => exact hmoved hmove (fun h => nomatch h)
    | @recorded operation ps _ hload ho hmove =>
      refine hmoved hmove ?_
      intro h
      have hstatus : ∀ outcome : SettleOutcome, outcome.status ≠ .expired := by
        intro outcome
        cases outcome <;> simp [SettleOutcome.status]
      exact hstatus _ h
  | swept => cases ha

/-- Beside a transaction that is not a sweep, the dispatched operations stay spared. -/
theorem NoRefund.ledger (h : w.NoRefund) (hw : Sound w.ledger) {a : Action}
    (ha : a.isSweep = false) (calls : List OpenCall) (outcomes : List GovernedDispatchOutcome) :
    NoRefund { w with
      ledger := Ledger.step d w.ledger a, calls := calls, outcomes := outcomes } := by
  intro key hkey row hrow hexpired
  exact h key hkey row (expired_of_not_sweep hw ha hrow hexpired) hexpired

theorem reserveAction_not_sweep (raced : Bool) (settings : Settings) (clock : Clock)
    (breaker : BreakerAnswer) (request : ReserveRequest) :
    (reserveAction raced settings clock breaker request).isSweep = false := by
  cases raced <;> rfl

theorem reserve_noRefund (h : w.NoRefund) (hw : Sound w.ledger) (i : Nat) (raced lost : Bool)
    (settings : Settings) (clock : Clock) (breaker : BreakerAnswer) :
    (w.step d (.reserve i raced settings clock breaker lost)).NoRefund := by
  rw [step]
  split
  · have hsweep := reserveAction_not_sweep raced settings clock breaker
    simp only
    split
    · exact h.ledger hw (hsweep _) _ _
    · exact h.ledger hw (hsweep _) _ _
  · exact h

theorem settle_noRefund (h : w.NoRefund) (hw : Sound w.ledger) (i : Nat) (settings : Settings)
    (clock : Clock) (lost : Bool) : (w.step d (.settle i settings clock lost)).NoRefund := by
  rw [step]
  split
  · simp only
    split
    · split
      · exact h.ledger hw rfl _ _
      · exact h.ledger hw rfl _ _
    · exact h
  · exact h

theorem answer_noRefund (h : w.NoRefund) (i : Nat) (result : ProviderDispatchResult) :
    (w.step d (.answer i result)).NoRefund := by
  rw [step]
  split
  · exact h
  · exact h

theorem dispatch_noRefund_iff (h : w.NoRefund) (i : Nat) :
    (w.step d (.dispatch i)).NoRefund ↔ w.SparesDispatched (.dispatch i) := by
  rw [step, SparesDispatched]
  split
  · next call uuid status hi =>
    constructor
    · intro hnext call' uuid' status' hi' row hrow
      rw [hi] at hi'
      obtain ⟨rfl, rfl, -⟩ := OpenCall.mk.inj (Option.some.inj hi')
      exact hnext _ (List.mem_append_right _ (List.mem_singleton.mpr rfl)) row hrow
    · intro hspares key hkey row hrow
      rcases List.mem_append.mp hkey with hkey | hkey
      · exact h key hkey row hrow
      · rw [List.mem_singleton.mp hkey] at hrow
        exact hspares call uuid status hi row hrow
  · next hnone =>
    constructor
    · intro _ call uuid status hi
      exact absurd hi (hnone call uuid status)
    · exact fun _ => h

theorem sweep_noRefund_iff (h : w.NoRefund) (hw : Sound w.ledger) (clock : Clock)
    (plan : SweepPlan) (batchSize : Nat) :
    (w.step d (.sweep clock plan batchSize)).NoRefund ↔
      w.SparesDispatched (.sweep clock plan batchSize) := by
  obtain ⟨hclaimed, hothers⟩ := sweep_find? (d := d) hw clock plan batchSize
  constructor
  · intro hnext r hr hidle hkey
    have hexpire : (sweepChange w.ledger.tables clock r).new = r.expire clock.utcnow := by
      rw [sweepChange, hidle]
      rfl
    have hfind := hclaimed r hr
    rw [hexpire] at hfind
    exact hnext r.idempotencyKey hkey _ hfind rfl
  · intro hspares key hkey row hrow hexpired
    change (Ledger.step d w.ledger (.sweep clock plan batchSize)).tables.escrowLedger.find? key =
      some row at hrow
    by_cases hbatch : ∃ r ∈ sweepBatch w.ledger.tables clock plan batchSize,
        r.idempotencyKey = key
    · obtain ⟨r, hr, rfl⟩ := hbatch
      rw [hclaimed r hr] at hrow
      obtain rfl := Option.some.inj hrow
      by_cases hactive : hasDispatchActivity w.ledger.tables r = true
      · rw [sweepChange, if_pos hactive] at hexpired
        cases hexpired
      · exact hspares r hr (Bool.eq_false_iff.mpr hactive) hkey
    · push Not at hbatch
      rw [hothers key hbatch] at hrow
      exact h key hkey row hrow hexpired

/-- From a state without refunds, a step makes none exactly when it spares what is dispatched. -/
theorem step_noRefund_iff (hw : Sound w.ledger) (h : w.NoRefund) (a : GatewayAction) :
    (w.step d a).NoRefund ↔ w.SparesDispatched a := by
  cases a with
  | call call uuid => exact iff_of_true h trivial
  | reserve i raced settings clock breaker lost =>
    exact iff_of_true (reserve_noRefund h hw i raced lost settings clock breaker) trivial
  | dispatch i => exact dispatch_noRefund_iff h i
  | answer i result => exact iff_of_true (answer_noRefund h i result) trivial
  | settle i settings clock lost =>
    exact iff_of_true (settle_noRefund h hw i settings clock lost) trivial
  | fail i => exact iff_of_true h trivial
  | sweep clock plan batchSize => exact sweep_noRefund_iff h hw clock plan batchSize

/-- The sample's call, whose reserve expires before its provider answers. -/
def sampleExpiring : List GatewayAction :=
  sampleDispatching ++ [.sweep (sampleClock 10) ⟨fun _ => false, fun _ => 0⟩ 10]

/-- An operation whose provider was called is refunded. -/
theorem dispatched_call_refunded :
    sample.Quiet ∧ ¬ NoRefund (sampleExpiring.foldl (step sampleDeployment) sample) := by
  refine ⟨sample_quiet, fun h => ?_⟩
  have hdispatched : "op-1" ∈
      (sampleExpiring.foldl (step sampleDeployment) sample).dispatched := by decide +kernel
  have hstatus : ((sampleExpiring.foldl (step sampleDeployment)
      sample).ledger.tables.escrowLedger.find? "op-1").map EscrowRow.status = some .expired := by
    decide +kernel
  obtain ⟨row, hrow, hexpired⟩ := Option.map_eq_some_iff.mp hstatus
  exact h "op-1" hdispatched row hrow hexpired

/-- From a quiet gateway over any ledger, no dispatched operation is ever expired exactly when
every sweep spares the dispatched operations and no expired operation is dispatched. -/
theorem run_no_refund_iff (d : Deployment) (w : GatewayWorld) (hw : w.Quiet)
    (actions : List GatewayAction) :
    Throughout (step d) NoRefund w actions ↔ Along (step d) SparesDispatched w actions := by
  have hstart : w.NoRefund := by
    intro key hkey
    rw [hw.dispatched] at hkey
    cases hkey
  have hkeeps : ∀ (w : GatewayWorld) a, Sound w.ledger → Sound (w.step d a).ledger :=
    fun _ a hs => step_ledger (I := Sound) (fun _ a hs => step_sound hs a) hs a
  exact throughout_iff_along (I := fun w => Sound w.ledger) hw.sound hstart hkeeps
    fun _ a hs h => step_noRefund_iff hs h a

theorem run_no_refund_iff_sample :
    Throughout (step sampleDeployment) NoRefund sample (sampleDispatching ++ sampleUnanswered) := by
  refine (run_no_refund_iff sampleDeployment sample sample_quiet _).mpr
    ⟨trivial, trivial, ?_, trivial, trivial, trivial⟩
  have hopen : ∀ row ∈ ((sampleDispatching.take 2).foldl (step sampleDeployment)
      sample).ledger.tables.escrowLedger.rows, row.status ≠ .expired := by decide +kernel
  intro call uuid status _ row hrow
  exact hopen row (Table.mem_of_find? hrow)

/-! ## Settled costs -/

/-- A settled operation records its drift. -/
def DriftRecorded (r : EscrowRow) : Prop :=
  r.status = .settled → r.driftAmount = r.actualAmount - r.reservedAmount

theorem driftRecorded_kept : KeptByUpdates DriftRecorded where
  settle _ _ _ := fun _ => rfl
  record request now ho _ := by
    intro hsettled
    have hstatus : request.outcome.status = .settled := hsettled
    cases hout : request.outcome with
    | settled => exact absurd hout ho
    | inFlight =>
      rw [hout] at hstatus
      cases hstatus
    | providerTimeout =>
      rw [hout] at hstatus
      cases hstatus
  strand _ _ := fun h => nomatch h
  expire _ _ := fun h => nomatch h

/-- What every step of the gateway keeps. -/
structure LedgerInv (w : LedgerWorld) : Prop where
  sound : Sound w
  drift : ∀ r ∈ w.tables.escrowLedger.rows, DriftRecorded r

theorem LedgerInv.step {w : LedgerWorld} (h : LedgerInv w) (a : Action) :
    LedgerInv (Ledger.step d w a) :=
  ⟨step_sound h.sound a, step_rows driftRecorded_kept h.sound h.drift a
    fun _ _ _ _ _ hsettled => nomatch hsettled⟩

/-- The settlement of the call is accepted and its answer comes back. -/
def Completes (d : Deployment) (w : GatewayWorld) (i : Nat) (settings : Settings)
    (clock : Clock) : Prop :=
  (w.step d (.settle i settings clock false)).outcomes ≠ w.outcomes

/-- The call's operation is settled at the smaller of the provider's cost and the estimate. Its
drift is what this exceeds the reserve by; against a reserve of the estimate there is none, and
the drift enforcement of the settlement does nothing. -/
structure SettledClamped (d : Deployment) (db db' : Database) (settings : Settings) (clock : Clock)
    (call : GovernedCall) (key : String) (result : ProviderDispatchResult)
    (operation row : EscrowRow) : Prop where
  before : db.escrowLedger.find? key = some operation
  stored : db'.escrowLedger.find? key = some row
  status : row.status = .settled
  actualAmount : row.actualAmount =
    quantizeMoney (Decimal.min result.actualCost call.estimatedCost)
  driftAmount : row.driftAmount = row.actualAmount - row.reservedAmount
  reservedAmount : row.reservedAmount = operation.reservedAmount
  unenforced : row.reservedAmount = quantizeMoney call.estimatedCost →
    enforceDrift d settings clock operation row.driftAmount = pure ()

/-- Against a reserve of the estimate the clamped cost has no drift to enforce. -/
theorem enforceDrift_clamped {call : GovernedCall} {result : ProviderDispatchResult}
    {settings : Settings} {clock : Clock} {operation : EscrowRow} {drift reserved : Money}
    (hdrift : drift =
      quantizeMoney (Decimal.min result.actualCost call.estimatedCost) - reserved)
    (hreserved : reserved = quantizeMoney call.estimatedCost) :
    enforceDrift d settings clock operation drift = pure () := by
  have hle : quantizeMoney (Decimal.min result.actualCost call.estimatedCost) ≤
      quantizeMoney call.estimatedCost :=
    quantizeMoney_mono (Decimal.min_le_right _ _)
  have hneg : drift ≤ 0 := by
    rw [hdrift, hreserved]
    exact sub_nonpos.mpr hle
  have hexcess : max 0 drift = 0 := max_eq_left hneg
  rw [enforceDrift, hexcess, if_pos rfl]

theorem settle_clamped (h : LedgerInv w.ledger) {i : Nat} {settings : Settings} {clock : Clock}
    {call : GovernedCall} {uuid : String} {status : EscrowStatus}
    {result : ProviderDispatchResult}
    (hi : w.calls[i]? = some ⟨call, uuid, .settle status result⟩)
    (hdone : w.Completes d i settings clock) :
    ∃ operation row, SettledClamped d w.ledger.tables
      (w.step d (.settle i settings clock false)).ledger.tables settings clock call
      (opKey call uuid) result operation row := by
  unfold Completes at hdone
  rw [step] at hdone ⊢
  simp only [hi] at hdone ⊢
  cases hrequest : OpenCall.settleRequest ⟨call, uuid, .settle status result⟩ result with
  | none =>
    rw [hrequest] at hdone
    exact absurd rfl hdone
  | some request =>
    have hkey : request.idempotencyKey = some (opKey call uuid) ∧ request.outcome = .settled ∧
        request.actualCost = Decimal.min result.actualCost call.estimatedCost := by
      unfold OpenCall.settleRequest at hrequest
      split_ifs at hrequest
      obtain rfl := Option.some.inj hrequest
      exact ⟨rfl, rfl, rfl⟩
    obtain ⟨hkey, hout, hcost⟩ := hkey
    simp only [hrequest] at hdone ⊢
    have hc := (body_committed (d := d) h.sound (.settle settings clock request)).1
    have hnext := h.step (d := d) (.settle settings clock request)
    generalize hr : respond d w.ledger (.settle settings clock request) = r at hc hdone ⊢
    generalize Ledger.step d w.ledger (.settle settings clock request) = w' at hc hnext hdone ⊢
    generalize hdb : w'.tables = db' at hc
    cases hc with
    | raised => exact absurd rfl hdone
    | reserved ha => rcases ha with ha | ha <;> cases ha
    | settled hsettle =>
      cases hsettle with
      | @replayed operation hload haccepts ho hs hreplays =>
        have hop : opKey call uuid = operation.idempotencyKey := haccepts.key _ hkey
        have hfind := find?_of_loadOperationForUpdate hload
        rw [← hop] at hfind
        have hamount : operation.actualAmount = quantizeMoney request.actualCost := by
          unfold settlementReplays at hreplays
          simp only [Bool.and_eq_true, decide_eq_true_eq] at hreplays
          exact hreplays.2
        have hdrift := h.drift operation (Table.mem_of_find? hfind) hs
        rw [hcost] at hamount
        refine ⟨operation, operation, hfind, ?_, hs, hamount, hdrift, rfl, ?_⟩
        · simp only [hdb]
          exact hfind
        · intro hreserved
          rw [hamount] at hdrift
          exact enforceDrift_clamped hdrift hreserved
      | @settled operation ps _ hload haccepts ho hns hmove =>
        have hop : opKey call uuid = operation.idempotencyKey := haccepts.key _ hkey
        have hfind := find?_of_loadOperationForUpdate hload
        rw [← hop] at hfind
        have hamount : (settledRow clock operation request).actualAmount =
            quantizeMoney (Decimal.min result.actualCost call.estimatedCost) := by
          rw [← hcost]
          rfl
        refine ⟨operation, settledRow clock operation request, hfind, ?_, rfl, hamount, rfl, rfl, ?_⟩
        · simp only [hdb, hmove.new, hop]
          exact Table.find?_put_self _ _
        · intro hreserved
          have hdrift : (settledRow clock operation request).driftAmount =
              quantizeMoney (Decimal.min result.actualCost call.estimatedCost) -
                (settledRow clock operation request).reservedAmount := by
            rw [← hamount]
            rfl
          exact enforceDrift_clamped hdrift hreserved
      | recorded _ ho => exact absurd hout ho

/-- The sample's call, answered by its provider at the given cost. -/
def sampleAnswered (cost : Decimal) : List GatewayAction :=
  sampleDispatching ++ [.answer 0 (sampleResult cost)]

theorem sampleAnswered_completes :
    ((sampleAnswered ⟨2, 0⟩).foldl (step sampleDeployment) sample).Completes sampleDeployment 0
      Settings.default (sampleClock 0) := by
  have hnone : ((sampleAnswered ⟨2, 0⟩).foldl (step sampleDeployment)
      sample).outcomes.length = 0 := by decide +kernel
  have hone : (((sampleAnswered ⟨2, 0⟩).foldl (step sampleDeployment) sample).step
      sampleDeployment (.settle 0 Settings.default (sampleClock 0) false)).outcomes.length =
      1 := by decide +kernel
  intro heq
  rw [heq, hnone] at hone
  cases hone

/-- A call that completes at twice its estimate is settled at the estimate. -/
theorem overrun_is_clamped :
    let w := (sampleAnswered ⟨2, 0⟩).foldl (step sampleDeployment) sample
    w.Completes sampleDeployment 0 Settings.default (sampleClock 0) ∧
      ((w.step sampleDeployment
        (.settle 0 Settings.default (sampleClock 0) false)).ledger.tables.escrowLedger.find?
          "op-1").map EscrowRow.actualAmount = some 1000000000000 ∧
      quantizeMoney (sampleResult ⟨2, 0⟩).actualCost = 2000000000000 := by
  exact ⟨sampleAnswered_completes, by decide +kernel, by decide +kernel⟩

/-- In every run from a ledger without operations, a call that completes settles its operation
at the smaller of the provider's cost and its estimate, and against a reserve of the estimate
the drift enforcement does nothing. -/
theorem run_settles_clamped (d : Deployment) (w : GatewayWorld) (hops : NoOperations w.ledger)
    (actions : List GatewayAction) (i : Nat) (settings : Settings) (clock : Clock)
    (call : GovernedCall) (uuid : String) (status : EscrowStatus)
    (result : ProviderDispatchResult)
    (hi : (actions.foldl (step d) w).calls[i]? = some ⟨call, uuid, .settle status result⟩)
    (hdone : (actions.foldl (step d) w).Completes d i settings clock) :
    ∃ operation row, SettledClamped d (actions.foldl (step d) w).ledger.tables
      ((actions.foldl (step d) w).step d (.settle i settings clock false)).ledger.tables
      settings clock call (opKey call uuid) result operation row := by
  have hinit : LedgerInv w.ledger := by
    refine ⟨hops.sound, ?_⟩
    intro r hr
    rw [hops.escrowLedger] at hr
    cases hr
  have hinv : LedgerInv (actions.foldl (step d) w).ledger :=
    foldl_invariant (I := fun w : GatewayWorld => LedgerInv w.ledger) hinit
      (fun _ a h => step_ledger (I := LedgerInv) (fun _ a h => h.step a) h a) actions
  exact settle_clamped hinv hi hdone

theorem run_settles_clamped_sample :
    let w := (sampleAnswered ⟨2, 0⟩).foldl (step sampleDeployment) sample
    ∃ operation row, SettledClamped sampleDeployment w.ledger.tables
      (w.step sampleDeployment (.settle 0 Settings.default (sampleClock 0) false)).ledger.tables
      Settings.default (sampleClock 0) sampleCall "op-1" (sampleResult ⟨2, 0⟩) operation row := by
  intro w
  refine run_settles_clamped sampleDeployment sample ⟨rfl, rfl⟩ (sampleAnswered ⟨2, 0⟩) 0
    Settings.default (sampleClock 0) sampleCall "0123456789abcdef" .reserved
    (sampleResult ⟨2, 0⟩) (by decide +kernel) sampleAnswered_completes

end GatewayWorld

end Governor.Gateway
