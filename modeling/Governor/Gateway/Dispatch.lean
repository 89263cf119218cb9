import Mathlib
import Governor.Core.Run
import Governor.Ledger.Refinement

/-!
# Governed dispatch

A gateway call reserves at the sidecar, calls the provider and settles, each over the network.
Calls run concurrently with each other and with the reconciler's sweeps, and every call can
fail between any two of its steps. The gateway looks at nothing of the reserve's answer but
whether it is an error, and it records nothing at the sidecar before it calls the provider.
-/

namespace Governor.Gateway

open Ledger

/-! ## Calls -/

/-- The arguments of `execute_governed_dispatch` that the sidecar sees. -/
structure GovernedCall where
  userId : String
  traceId : String
  model : String
  estimatedCost : Decimal
  idempotencyKey : Option String
  /-- `Field(..., ge=0)`. -/
  estimatedCost_nonneg : 0 ≤ estimatedCost.coeff
  deriving DecidableEq

/-- `ProviderDispatchResult`. -/
structure ProviderDispatchResult where
  providerRequestId : String
  providerName : String
  model : String
  responseText : String
  inputTokens : Int
  outputTokens : Int
  latencyMs : Int
  actualCost : Decimal
  deriving DecidableEq

/-- `GovernedDispatchOutcome`. -/
structure GovernedDispatchOutcome where
  idempotencyKey : String
  reserveStatus : EscrowStatus
  settleStatus : EscrowStatus
  actualCost : Decimal
  providerRequestId : String
  providerName : String
  model : String
  responseText : String
  inputTokens : Int
  outputTokens : Int
  latencyMs : Int

/-- Where a call is. -/
inductive CallPhase where
  /-- Before `POST /reserve`. -/
  | reserve
  /-- Before `provider_router.dispatch`. -/
  | dispatch (reserveStatus : EscrowStatus)
  /-- In `provider_router.dispatch`. -/
  | provider (reserveStatus : EscrowStatus)
  /-- Before `POST /settle`. -/
  | settle (reserveStatus : EscrowStatus) (result : ProviderDispatchResult)
  deriving DecidableEq

/-- Whether the call goes on to the provider next. -/
def CallPhase.dispatching : CallPhase → Bool
  | .dispatch _ => true
  | _ => false

/-- A call in progress, with the `uuid4` of its key. -/
structure OpenCall where
  call : GovernedCall
  uuid : String
  phase : CallPhase
  deriving DecidableEq

/-- `op_key`. -/
def opKey (call : GovernedCall) (uuid : String) : String :=
  orElse call.idempotencyKey ("gw-" ++ uuid)

theorem opKey_ne_empty (call : GovernedCall) (uuid : String) : opKey call uuid ≠ "" := by
  unfold opKey orElse
  split_ifs with h
  · cases hk : call.idempotencyKey with
    | none =>
      rw [hk] at h
      cases h
    | some key =>
      rw [hk] at h
      simpa [truthy] using h
  · intro hempty
    have hlength := congrArg String.length hempty
    rw [String.length_append] at hlength
    have hprefix : "gw-".length = 3 := rfl
    have hzero : "".length = 0 := rfl
    omega

def OpenCall.key (p : OpenCall) : String := opKey p.call p.uuid

/-- `reserve_payload`, as the sidecar parses it. -/
def GovernedCall.reserveRequest (call : GovernedCall) (key : String) : ReserveRequest where
  userId := call.userId
  traceId := call.traceId
  idempotencyKey := key
  model := call.model
  estimatedCost := call.estimatedCost
  traceCap := none
  tenantId := none
  sessionId := none
  agentRunId := none
  workflowStep := none
  policyVersion := "v1"
  runBudget := none
  sessionBudget := none
  tenantBudget := none
  userBudget := none
  requiresManualApproval := false
  manualApprovalId := none
  highCostTool := none
  estimatedCost_nonneg := call.estimatedCost_nonneg

/-- The cost that the gateway settles. -/
def GovernedCall.actualCost (call : GovernedCall) (result : ProviderDispatchResult) : Decimal :=
  Decimal.min result.actualCost call.estimatedCost

/-- `settle_payload`, as the sidecar parses it; a negative cost does not parse. -/
def OpenCall.settleRequest (p : OpenCall) (result : ProviderDispatchResult) :
    Option SettleRequest :=
  if h : 0 ≤ (p.call.actualCost result).coeff then
    some {
      idempotencyKey := some p.key
      outcome := .settled
      actualCost := p.call.actualCost result
      dispatchAttemptKey := none
      providerName := some result.providerName
      model := some result.model
      providerRequestId := some result.providerRequestId
      reason := none
      tenantId := none
      sessionId := none
      agentRunId := none
      workflowStep := none
      loopSignature := none
      promptTemplateVersion := none
      systemContextHash := none
      toolName := none
      toolInput := none
      rawToolOutput := none
      idempotencyKey_nonempty := fun hempty => opKey_ne_empty _ _ (Option.some.inj hempty)
      actualCost_nonneg := h }
  else none

/-- What the call returns. -/
def OpenCall.outcome (p : OpenCall) (reserveStatus settleStatus : EscrowStatus)
    (result : ProviderDispatchResult) : GovernedDispatchOutcome where
  idempotencyKey := p.key
  reserveStatus := reserveStatus
  settleStatus := settleStatus
  actualCost := p.call.actualCost result
  providerRequestId := result.providerRequestId
  providerName := result.providerName
  model := result.model
  responseText := result.responseText
  inputTokens := result.inputTokens
  outputTokens := result.outputTokens
  latencyMs := result.latencyMs

/-! ## The gateway, the sidecar and the reconciler -/

/-- The sidecar's ledger and the gateway's calls. -/
structure GatewayWorld where
  ledger : LedgerWorld
  calls : List OpenCall
  /-- The keys of the provider calls made so far. -/
  dispatched : List String
  /-- What the completed calls returned. -/
  outcomes : List GovernedDispatchOutcome

/-- What happens next. -/
inductive GatewayAction where
  /-- A call of `execute_governed_dispatch`. -/
  | call (call : GovernedCall) (uuid : String)
  /-- `POST /reserve` reaches the ledger; `lost` when the answer does not come back. -/
  | reserve (i : Nat) (raced : Bool) (settings : Settings) (clock : Clock)
      (breaker : BreakerAnswer) (lost : Bool)
  /-- The provider is called. -/
  | dispatch (i : Nat)
  /-- The provider answers. -/
  | answer (i : Nat) (result : ProviderDispatchResult)
  /-- `POST /settle` reaches the ledger; `lost` when the answer does not come back. -/
  | settle (i : Nat) (settings : Settings) (clock : Clock) (lost : Bool)
  /-- The call ends by an exception: a request that is refused before the ledger or does not
  arrive, a provider that fails or times out, a crash. -/
  | fail (i : Nat)
  /-- The reconciler. -/
  | sweep (clock : Clock) (plan : SweepPlan) (batchSize : Nat)

namespace GatewayWorld

/-- One step. -/
def step (d : Deployment) (w : GatewayWorld) : GatewayAction → GatewayWorld
  | .call call uuid => { w with calls := w.calls ++ [⟨call, uuid, .reserve⟩] }
  | .reserve i raced settings clock breaker lost =>
    match w.calls[i]? with
    | some ⟨call, uuid, .reserve⟩ =>
      let request := call.reserveRequest (opKey call uuid)
      let a := reserveAction raced settings clock breaker request
      let ledger := Ledger.step d w.ledger a
      match respond d w.ledger a, lost with
      | .ok (.operation result), false =>
        { w with ledger := ledger, calls := w.calls.set i ⟨call, uuid, .dispatch result.status⟩ }
      | _, _ => { w with ledger := ledger, calls := w.calls.eraseIdx i }
    | _ => w
  | .dispatch i =>
    match w.calls[i]? with
    | some ⟨call, uuid, .dispatch reserveStatus⟩ =>
      { w with
        calls := w.calls.set i ⟨call, uuid, .provider reserveStatus⟩
        dispatched := w.dispatched ++ [opKey call uuid] }
    | _ => w
  | .answer i result =>
    match w.calls[i]? with
    | some ⟨call, uuid, .provider reserveStatus⟩ =>
      { w with calls := w.calls.set i ⟨call, uuid, .settle reserveStatus result⟩ }
    | _ => w
  | .settle i settings clock lost =>
    match w.calls[i]? with
    | some ⟨call, uuid, .settle reserveStatus result⟩ =>
      let p : OpenCall := ⟨call, uuid, .settle reserveStatus result⟩
      match p.settleRequest result with
      | some request =>
        let a := Action.settle settings clock request
        let ledger := Ledger.step d w.ledger a
        match respond d w.ledger a, lost with
        | .ok (.operation settled), false =>
          { w with
            ledger := ledger
            calls := w.calls.eraseIdx i
            outcomes := w.outcomes ++ [p.outcome reserveStatus settled.status result] }
        | _, _ => { w with ledger := ledger, calls := w.calls.eraseIdx i }
      | none => { w with calls := w.calls.eraseIdx i }
    | _ => w
  | .fail i => { w with calls := w.calls.eraseIdx i }
  | .sweep clock plan batchSize =>
    { w with ledger := Ledger.step d w.ledger (.sweep clock plan batchSize) }

/-- The calls under a key that go on to the provider next. -/
def pending (w : GatewayWorld) (key : String) : Nat :=
  w.calls.countP fun p => p.key = key && p.phase.dispatching

/-! ## Provider calls under one key -/

/-- At most one provider call has been made under each key. -/
def DispatchedOnce (w : GatewayWorld) : Prop := ∀ key, w.dispatched.count key ≤ 1

/-- The reserve is not answered as a replay of a key under which a provider call was made or
another call goes on to the provider. -/
def NoSpentReplay (d : Deployment) (w : GatewayWorld) : GatewayAction → Prop
  | .reserve i raced _ _ _ lost => raced = false → lost = false →
      ∀ call uuid, w.calls[i]? = some ⟨call, uuid, .reserve⟩ →
        ∀ row, w.ledger.tables.escrowLedger.find? (opKey call uuid) = some row →
          row.requestFingerprint =
            fingerprintReserveRequest d (call.reserveRequest (opKey call uuid)) →
          opKey call uuid ∉ w.dispatched ∧
            ∀ p ∈ w.calls, p.key = opKey call uuid → p.phase.dispatching = false
  | _ => True

/-- What every such step keeps. -/
structure OnceInv (w : GatewayWorld) : Prop where
  sound : Sound w.ledger
  once : ∀ key, w.dispatched.count key + w.pending key ≤ 1
  /-- The operation of a provider call that was made or comes next is stored. -/
  stored : ∀ key, 0 < w.dispatched.count key + w.pending key →
    ∃ row, w.ledger.tables.escrowLedger.find? key = some row

section Once

variable {d : Deployment} {w w' : GatewayWorld} {i : Nat} {call : GovernedCall} {uuid : String}
  {phase : CallPhase}

/-- A call that ends is pending no more. -/
theorem pending_erase (hi : w.calls[i]? = some ⟨call, uuid, phase⟩) (key : String) :
    w.pending key = (w.calls.eraseIdx i).countP (fun p => p.key = key && p.phase.dispatching) +
      if opKey call uuid = key && phase.dispatching then 1 else 0 :=
  countP_ended _ hi

/-- A call that moves on is pending by its new phase. -/
theorem pending_set (hi : w.calls[i]? = some ⟨call, uuid, phase⟩) (phase' : CallPhase)
    (key : String) :
    (w.calls.set i ⟨call, uuid, phase'⟩).countP (fun p => p.key = key && p.phase.dispatching) +
      (if opKey call uuid = key && phase.dispatching then 1 else 0) =
      w.pending key + if opKey call uuid = key && phase'.dispatching then 1 else 0 :=
  countP_moved _ hi _

/-- A step that makes no call pending and no provider call keeps the invariant. -/
theorem OnceInv.shrink (h : w.OnceInv) (hsound : Sound w'.ledger)
    (hstored : ∀ key, (∃ row, w.ledger.tables.escrowLedger.find? key = some row) →
      ∃ row, w'.ledger.tables.escrowLedger.find? key = some row)
    (hle : ∀ key, w'.dispatched.count key + w'.pending key ≤
      w.dispatched.count key + w.pending key) : w'.OnceInv where
  sound := hsound
  once key := le_trans (hle key) (h.once key)
  stored key hpos := hstored key (h.stored key (lt_of_lt_of_le hpos (hle key)))

theorem call_onceInv (h : w.OnceInv) (call : GovernedCall) (uuid : String) :
    (w.step d (.call call uuid)).OnceInv := by
  refine h.shrink h.sound (fun _ hrow => hrow) ?_
  intro key
  simp [step, pending, CallPhase.dispatching]

theorem erase_onceInv (h : w.OnceInv) (i : Nat) :
    OnceInv { w with calls := w.calls.eraseIdx i } := by
  refine h.shrink h.sound (fun _ hrow => hrow) ?_
  intro key
  refine Nat.add_le_add_left ?_ _
  exact List.Sublist.countP_le (List.eraseIdx_sublist _ _)

/-- A transaction of the ledger beside a call that ends. -/
theorem ledger_onceInv (h : w.OnceInv) (a : Action) :
    OnceInv { w with ledger := Ledger.step d w.ledger a } :=
  h.shrink (step_sound h.sound a) (fun _ hrow => step_stored h.sound hrow a) fun _ => le_refl _

/-- A reserve that comes back leaves its call the only one under its key. -/
theorem reserved_onceInv (h : w.OnceInv) {a : Action} {status : EscrowStatus}
    (hi : w.calls[i]? = some ⟨call, uuid, .reserve⟩)
    (hzero : w.dispatched.count (opKey call uuid) + w.pending (opKey call uuid) = 0)
    (hrow : ∃ row, (Ledger.step d w.ledger a).tables.escrowLedger.find? (opKey call uuid) =
      some row) :
    OnceInv { w with
      ledger := Ledger.step d w.ledger a
      calls := w.calls.set i ⟨call, uuid, .dispatch status⟩ } := by
  have hpending : ∀ key, pending { w with calls := w.calls.set i ⟨call, uuid, .dispatch status⟩ }
      key = w.pending key + if opKey call uuid = key then 1 else 0 := by
    intro key
    have hmoved := pending_set hi (.dispatch status) key
    simp only [CallPhase.dispatching, Bool.and_false, Bool.false_eq_true, ite_false, add_zero,
      Bool.and_true, decide_eq_true_eq] at hmoved
    exact hmoved
  refine ⟨step_sound h.sound a, ?_, ?_⟩
  · intro key
    have honce := h.once key
    change w.dispatched.count key + pending { w with
      calls := w.calls.set i ⟨call, uuid, .dispatch status⟩ } key ≤ 1
    rw [hpending]
    split_ifs with hkey
    · subst hkey
      omega
    · omega
  · intro key hpos
    change 0 < w.dispatched.count key + pending { w with
      calls := w.calls.set i ⟨call, uuid, .dispatch status⟩ } key at hpos
    rw [hpending] at hpos
    split_ifs at hpos with hkey
    · subst hkey
      exact hrow
    · exact step_stored h.sound (h.stored key hpos) a

theorem reserve_onceInv (h : w.OnceInv) {raced lost : Bool} {settings : Settings} {clock : Clock}
    {breaker : BreakerAnswer}
    (hm : w.NoSpentReplay d (.reserve i raced settings clock breaker lost)) :
    (w.step d (.reserve i raced settings clock breaker lost)).OnceInv := by
  rw [step]
  split
  · next call uuid hi =>
    have hended : ∀ a, OnceInv { w with
        ledger := Ledger.step d w.ledger a, calls := w.calls.eraseIdx i } :=
      fun a => erase_onceInv (ledger_onceInv h a) i
    have hc := reserveAction_committed (d := d) h.sound raced settings clock breaker
      (call.reserveRequest (opKey call uuid))
    generalize ha : reserveAction raced settings clock breaker
      (call.reserveRequest (opKey call uuid)) = a at hc
    simp only [ha]
    cases lost with
    | true =>
      split
      · next hlost => cases hlost
      · exact hended a
    | false =>
      generalize hr : respond d w.ledger a = r at hc
      generalize hdb : (Ledger.step d w.ledger a).tables = db' at hc
      cases hc with
      | refused => exact hended a
      | created hmove =>
        refine reserved_onceInv h hi ?_ ?_
        · by_contra hpos
          obtain ⟨row, hrow⟩ := h.stored _ (Nat.pos_of_ne_zero hpos)
          have hfresh : w.ledger.tables.escrowLedger.find? (opKey call uuid) = none := hmove.old
          rw [hfresh] at hrow
          cases hrow
        · rw [hdb, hmove.new]
          exact ⟨_, Table.find?_put_self _ _⟩
      | replayed hraced hfind hfp =>
        obtain ⟨hnot, hcalls⟩ := hm hraced rfl call uuid hi _ hfind hfp
        have hnone : w.pending (opKey call uuid) = 0 := by
          rw [pending, List.countP_eq_zero]
          intro p hp
          by_cases hkey : p.key = opKey call uuid
          · simp [hcalls p hp hkey]
          · simp [hkey]
        refine reserved_onceInv h hi ?_ ?_
        · rw [hnone, List.count_eq_zero.mpr hnot]
        · rw [hdb]
          exact ⟨_, hfind⟩
  · exact h

/-- The provider call of a pending call. -/
theorem dispatch_onceInv (h : w.OnceInv) (i : Nat) : (w.step d (.dispatch i)).OnceInv := by
  rw [step]
  split
  · next call uuid status hi =>
    refine h.shrink h.sound (fun _ hrow => hrow) ?_
    intro key
    have hmoved := pending_set hi (.provider status) key
    have hbefore : (CallPhase.dispatch status).dispatching = true := rfl
    have hafter : (CallPhase.provider status).dispatching = false := rfl
    simp only [hbefore, hafter, Bool.and_false, Bool.false_eq_true, ite_false, add_zero,
      Bool.and_true, decide_eq_true_eq] at hmoved
    change (w.dispatched ++ [opKey call uuid]).count key +
      (w.calls.set i ⟨call, uuid, .provider status⟩).countP
        (fun p => p.key = key && p.phase.dispatching) ≤ _
    rw [List.count_append, List.count_singleton]
    simp only [beq_iff_eq]
    omega
  · exact h

theorem answer_onceInv (h : w.OnceInv) (i : Nat) (result : ProviderDispatchResult) :
    (w.step d (.answer i result)).OnceInv := by
  rw [step]
  split
  · next call uuid status hi =>
    refine h.shrink h.sound (fun _ hrow => hrow) ?_
    intro key
    have hmoved := pending_set hi (.settle status result) key
    simp only [CallPhase.dispatching, Bool.and_false, Bool.false_eq_true, ite_false,
      add_zero] at hmoved
    exact Nat.add_le_add_left (le_of_eq hmoved) _
  · exact h

theorem settle_onceInv (h : w.OnceInv) (i : Nat) (settings : Settings) (clock : Clock)
    (lost : Bool) : (w.step d (.settle i settings clock lost)).OnceInv := by
  rw [step]
  split
  · next call uuid status result hi =>
    simp only
    split
    · next request hrequest =>
      have hended := erase_onceInv (ledger_onceInv (d := d) h (.settle settings clock request)) i
      split
      · exact ⟨hended.sound, hended.once, hended.stored⟩
      · exact hended
    · exact erase_onceInv h i
  · exact h

theorem step_onceInv (h : w.OnceInv) {a : GatewayAction} (hm : w.NoSpentReplay d a) :
    (w.step d a).OnceInv := by
  cases a with
  | call call uuid => exact call_onceInv h call uuid
  | reserve i raced settings clock breaker lost => exact reserve_onceInv h hm
  | dispatch i => exact dispatch_onceInv h i
  | answer i result => exact answer_onceInv h i result
  | settle i settings clock lost => exact settle_onceInv h i settings clock lost
  | fail i => exact erase_onceInv h i
  | sweep clock plan batchSize => exact ledger_onceInv h (.sweep clock plan batchSize)

end Once

/-- A gateway without calls, at any state of the ledger. -/
structure Quiet (w : GatewayWorld) : Prop where
  sound : Sound w.ledger
  calls : w.calls = []
  dispatched : w.dispatched = []

theorem Quiet.onceInv {w : GatewayWorld} (h : w.Quiet) : w.OnceInv := by
  have hzero : ∀ key, w.dispatched.count key + w.pending key = 0 := by
    intro key
    rw [h.dispatched, pending, h.calls]
    rfl
  refine ⟨h.sound, fun key => by rw [hzero key]; exact Nat.zero_le 1, fun key hpos => ?_⟩
  rw [hzero key] at hpos
  exact absurd hpos (lt_irrefl 0)

/-! ## A sample gateway -/

/-- The sample ledger behind a gateway without calls. -/
def sample : GatewayWorld := ⟨sampleWorld, [], [], []⟩

theorem sample_quiet : sample.Quiet := ⟨NoOperations.sound ⟨rfl, rfl⟩, rfl, rfl⟩

/-- A call that reserves as the ledger's sample does. -/
def sampleCall : GovernedCall :=
  ⟨"user-1", "trace-1", "gpt-4o-mini", ⟨1, 0⟩, some "op-1", sampleReserve.estimatedCost_nonneg⟩

/-- A provider's answer at the given cost. -/
def sampleResult (cost : Decimal) : ProviderDispatchResult :=
  ⟨"provider-1", "openai", "gpt-4o-mini", "answer", 10, 20, 300, cost⟩

/-- The call up to the provider. -/
def sampleDispatching : List GatewayAction :=
  [.call sampleCall "0123456789abcdef",
    .reserve 0 false Settings.default (sampleClock 0) .closed false, .dispatch 0]

/-- The rest of the call; the answer to its settlement is lost. -/
def sampleUnanswered : List GatewayAction :=
  [.answer 0 (sampleResult ⟨1, 0⟩), .settle 0 Settings.default (sampleClock 0) true]

/-- A retry after a lost settlement is answered as a replay and calls the provider again. -/
theorem retry_dispatches_again :
    sample.Quiet ∧ ¬ DispatchedOnce
      ((sampleDispatching ++ sampleUnanswered ++ sampleDispatching).foldl (step sampleDeployment)
        sample) := by
  refine ⟨sample_quiet, fun h => ?_⟩
  have htwice : ((sampleDispatching ++ sampleUnanswered ++ sampleDispatching).foldl
      (step sampleDeployment) sample).dispatched = ["op-1", "op-1"] := by decide +kernel
  have honce := h "op-1"
  rw [htwice] at honce
  exact absurd honce (by decide)

/-- From a quiet gateway over any ledger, at most one provider call is made under each key in
every run in which no reserve is answered as a replay of a key that is spent. -/
theorem run_dispatched_once (d : Deployment) (w : GatewayWorld) (hw : w.Quiet)
    (actions : List GatewayAction) (h : Along (step d) (NoSpentReplay d) w actions) :
    Throughout (step d) DispatchedOnce w actions := by
  have hinv : Throughout (step d) OnceInv w actions :=
    throughout_of_along hw.onceInv (fun _ _ hm hinv => step_onceInv hinv hm) h
  exact hinv.imp fun w hw key => le_trans (Nat.le_add_right _ _) (hw.once key)

theorem run_dispatched_once_sample :
    ((sampleDispatching ++ sampleUnanswered).foldl (step sampleDeployment) sample).dispatched =
      ["op-1"] ∧
    Throughout (step sampleDeployment) DispatchedOnce sample
      (sampleDispatching ++ sampleUnanswered) := by
  refine ⟨by decide +kernel, run_dispatched_once sampleDeployment sample sample_quiet _
    ⟨trivial, ?_, trivial, trivial, trivial, trivial⟩⟩
  intro _ _ call uuid _ row hrow
  cases hrow

end GatewayWorld

end Governor.Gateway
