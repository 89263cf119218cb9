import Mathlib
import Governor.Core.Run
import Governor.Finance.Schema
import Governor.Finance.Amounts

/-!
# The payment rail of ClaimGate

`submit_payment` reads the store, asks the bank and saves the instruction, in three steps that
nothing holds together. The theorem says when calls that overlap, and calls that are cut off at
any step and made again, ask the bank at most once for an idempotency key.
-/

namespace Governor.Sector

open Ledger (Decimal)

/-! ## Instructions -/

/-- `PaymentStatus`. -/
inductive PaymentStatus where
  | pending | submitted | completed | failed | blocked
  deriving DecidableEq

/-- The value of a status. -/
def PaymentStatus.text : PaymentStatus → String
  | .pending => "PENDING"
  | .submitted => "SUBMITTED"
  | .completed => "COMPLETED"
  | .failed => "FAILED"
  | .blocked => "BLOCKED"

/-- `PaymentInstruction`. -/
structure PaymentInstruction where
  paymentId : String
  claimId : String
  idempotencyKey : String
  amount : Decimal
  currency : String
  payeeId : String
  status : PaymentStatus
  rail : String
  reference : Option String
  crystalId : Option String
  externalRef : Option String
  deriving DecidableEq

/-- The arguments of `submit_payment`, and the identifier it draws. -/
structure PaymentCall where
  claimId : String
  amount : Decimal
  currency : String
  payeeId : String
  idempotencyKey : String
  gateDecision : String
  crystalId : Option String
  paymentId : String

namespace PaymentCall

/-- The call asks the bank when the store has nothing for its key. -/
def pays (call : PaymentCall) : Bool :=
  call.gateDecision = "APPROVED" && Ledger.truthy call.crystalId

/-- The instruction that is blocked. -/
def blocked (call : PaymentCall) (reference : String) : PaymentInstruction where
  paymentId := call.paymentId
  claimId := call.claimId
  idempotencyKey := call.idempotencyKey
  amount := call.amount
  currency := call.currency
  payeeId := call.payeeId
  status := .blocked
  rail := "ach_stub"
  reference := some reference
  crystalId := none
  externalRef := none

/-- The instruction that `submit_payment` builds, in a given `payment_rail_mode()`. -/
def instruction (mode : String) (call : PaymentCall) : PaymentInstruction :=
  if call.gateDecision ≠ "APPROVED" then
    let decision := call.gateDecision
    call.blocked s!"blocked:{decision}"
  else if !Ledger.truthy call.crystalId then call.blocked "no_governance_crystal"
  else
    let crystalId := call.crystalId.getD ""
    { call.blocked s!"crystal:{crystalId}" with
      status := .pending
      rail := if mode ≠ "sandbox" then mode else "ach_sandbox"
      crystalId := call.crystalId }

end PaymentCall

/-! ## The bank -/

/-- `RailDispatchResult`. -/
structure RailDispatchResult where
  externalRef : String
  rail : String
  status : PaymentStatus

/-- What the bank answers. -/
structure BankReply where
  /-- The identifier in the answer, if there is one. -/
  reference : Option String
  /-- The answer's status is `PENDING`. -/
  pending : Bool

/-- `dispatch_payment`, with what becomes of the request to the bank: an answer, or the text of
the exception. -/
def dispatchPayment (mode : String) (bank : Except String BankReply) (p : PaymentInstruction) :
    Except String RailDispatchResult :=
  if mode = "sandbox" then .ok ⟨"sandbox-" ++ p.paymentId, "ach_sandbox", .completed⟩
  else if mode = "fednow" ∨ mode = "fednow_sandbox" then
    bank.map fun reply => ⟨reply.reference.getD p.paymentId, mode,
      if reply.pending then .submitted else .completed⟩
  else if mode ∈ ["clearinghouse", "ach", "clearinghouse_sandbox"] then
    bank.map fun reply => ⟨reply.reference.getD p.paymentId,
      if mode = "clearinghouse_sandbox" then mode else "clearinghouse", .completed⟩
  else .error s!"unsupported PAYMENT_RAIL_MODE: {mode}"

/-- The instruction once the bank was asked. -/
def PaymentInstruction.settle (p : PaymentInstruction) :
    Except String RailDispatchResult → PaymentInstruction
  | .ok result =>
    let externalRef := result.externalRef
    { p with
      status := result.status
      rail := result.rail
      externalRef := some externalRef
      reference := some s!"external:{externalRef}" }
  | .error exn => { p with
      status := .failed
      reference := some s!"rail_error:{exn}" }

/-! ## The store -/

/-- `payment_idempotency`. -/
abbrev PaymentTable := Table PaymentInstruction.idempotencyKey

/-- The row of an instruction, with the amount as `NUMERIC(24, 12)`. -/
def PaymentInstruction.row (p : PaymentInstruction) : PaymentInstruction :=
  { p with amount := ⟨Finance.quantizeMoney p.amount, -12⟩ }

/-- `PostgresPaymentStore.get`; without a driver there is nothing to find. -/
def PaymentTable.get (t : PaymentTable) (connected : Bool) (key : String) :
    Option PaymentInstruction :=
  if connected then t.find? key else none

/-- `PostgresPaymentStore.save`: a row that is there keeps what it is about. -/
def PaymentTable.save (t : PaymentTable) (p : PaymentInstruction) : PaymentTable :=
  match t.find? p.idempotencyKey with
  | none => t.put p.row
  | some existing => t.put { existing with
      status := p.status
      reference := p.reference
      crystalId := p.crystalId
      externalRef := p.externalRef }

/-! ## Calls that overlap -/

/-- Where a worker stands in `submit_payment`. -/
inductive PaymentStage where
  | idle
  /-- The call has begun. -/
  | called (call : PaymentCall)
  /-- The store had nothing for the key. -/
  | missed (call : PaymentCall)
  /-- The instruction is to be saved. -/
  | ready (p : PaymentInstruction)

/-- The store, the workers of all processes, and what the bank was asked for. -/
structure PaymentWorld where
  payments : PaymentTable
  workers : Nat → PaymentStage
  dispatched : List PaymentInstruction

/-- What happens next to a worker. -/
inductive PaymentAction where
  /-- `submit_payment` is called. -/
  | call (call : PaymentCall)
  /-- `store.get`. -/
  | get (connected : Bool)
  /-- `dispatch_payment`, or a blocked instruction is built. -/
  | dispatch (bank : Except String BankReply)
  /-- `store.save`. -/
  | save
  /-- The process crashes, or a statement raises. -/
  | crash

namespace PaymentWorld

/-- Set the stage of a worker. -/
def setStage (w : PaymentWorld) (i : Nat) (stage : PaymentStage) : PaymentWorld :=
  { w with workers := Function.update w.workers i stage }

/-- One step of worker `i`; a step that the worker is not at leaves the state. -/
def step (mode : String) (w : PaymentWorld) (i : Nat) (a : PaymentAction) : PaymentWorld :=
  match a, w.workers i with
  | .call call, .idle => w.setStage i (.called call)
  | .get connected, .called call =>
    match w.payments.get connected call.idempotencyKey with
    | some _ => w.setStage i .idle
    | none => w.setStage i (.missed call)
  | .dispatch bank, .missed call =>
    let p := call.instruction mode
    if call.pays then
      { w with dispatched := w.dispatched ++ [p] }.setStage i
        (.ready (p.settle (dispatchPayment mode bank p)))
    else w.setStage i (.ready p)
  | .save, .ready p => { w with payments := w.payments.save p }.setStage i .idle
  | .crash, _ => w.setStage i .idle
  | _, _ => w

end PaymentWorld

/-! ## One dispatch for a key -/

/-- The keys that the bank was asked for. -/
def PaymentWorld.keys (w : PaymentWorld) : List String :=
  w.dispatched.map PaymentInstruction.idempotencyKey

/-- A worker that found nothing for its key and is about to ask the bank. -/
def PaymentWorld.AboutToPay (w : PaymentWorld) (i : Nat) (key : String) : Prop :=
  ∃ call, w.workers i = .missed call ∧ call.pays = true ∧ call.idempotencyKey = key

/-- A call that pays and finds nothing for its key is alone: no other call that found nothing is
about to ask the bank, and the bank was not asked for the key yet. -/
def ReadsAlone (w : PaymentWorld) (a : Nat × PaymentAction) : Prop :=
  ∀ connected call, a.2 = .get connected → w.workers a.1 = .called call →
    w.payments.get connected call.idempotencyKey = none → call.pays = true →
    call.idempotencyKey ∉ w.keys ∧ ∀ j, ¬ w.AboutToPay j call.idempotencyKey

/-- The bank was asked at most once for a key, and will be. -/
structure DispatchedOnce (w : PaymentWorld) : Prop where
  once : w.keys.Nodup
  unasked : ∀ i key, w.AboutToPay i key → key ∉ w.keys
  alone : ∀ i j key, w.AboutToPay i key → w.AboutToPay j key → i = j

section Once

variable {mode : String} {w : PaymentWorld} {i : Nat} {stage : PaymentStage}

theorem PaymentCall.instruction_key (call : PaymentCall) :
    (call.instruction mode).idempotencyKey = call.idempotencyKey := by
  unfold PaymentCall.instruction
  split_ifs <;> rfl

theorem setStage_workers (j : Nat) :
    (w.setStage i stage).workers j = if j = i then stage else w.workers j :=
  Function.update_apply w.workers i stage j

theorem aboutToPay_setStage {j : Nat} {key : String} :
    (w.setStage i stage).AboutToPay j key ↔
      if j = i then ∃ call, stage = .missed call ∧ call.pays = true ∧ call.idempotencyKey = key
      else w.AboutToPay j key := by
  unfold PaymentWorld.AboutToPay
  rw [setStage_workers]
  split_ifs <;> rfl

/-- A step after which no new worker is about to ask the bank keeps the invariant. -/
theorem DispatchedOnce.setStage (h : DispatchedOnce w) (hstage : ∀ call, stage ≠ .missed call) :
    DispatchedOnce (w.setStage i stage) := by
  have hback : ∀ j key, (w.setStage i stage).AboutToPay j key → w.AboutToPay j key := by
    intro j key hj
    rw [aboutToPay_setStage] at hj
    split_ifs at hj
    · obtain ⟨call, hcall, -⟩ := hj
      exact absurd hcall (hstage call)
    · exact hj
  exact ⟨h.once, fun j key hj => h.unasked j key (hback j key hj),
    fun j k key hj hk => h.alone j k key (hback j key hj) (hback k key hk)⟩

/-- What the store holds does not matter to the invariant. -/
theorem DispatchedOnce.withPayments (h : DispatchedOnce w) (payments : PaymentTable) :
    DispatchedOnce { w with payments := payments } := ⟨h.once, h.unasked, h.alone⟩

/-- A read that finds nothing, of a call that is alone. -/
theorem DispatchedOnce.missed (h : DispatchedOnce w) {call : PaymentCall}
    (halone : call.pays = true →
      call.idempotencyKey ∉ w.keys ∧ ∀ j, ¬ w.AboutToPay j call.idempotencyKey) :
    DispatchedOnce (w.setStage i (.missed call)) := by
  have hself : ∀ j key, (w.setStage i (.missed call)).AboutToPay j key →
      j = i ∧ call.pays = true ∧ call.idempotencyKey = key ∨ j ≠ i ∧ w.AboutToPay j key := by
    intro j key hj
    rw [aboutToPay_setStage] at hj
    split_ifs at hj with hij
    · obtain ⟨call', hcall, hpays, hkey⟩ := hj
      obtain rfl := PaymentStage.missed.inj hcall
      exact Or.inl ⟨hij, hpays, hkey⟩
    · exact Or.inr ⟨hij, hj⟩
  refine ⟨h.once, fun j key hj => ?_, fun j k key hj hk => ?_⟩
  · rcases hself j key hj with ⟨-, hpays, rfl⟩ | ⟨-, hold⟩
    · exact (halone hpays).1
    · exact h.unasked j key hold
  · rcases hself j key hj with ⟨rfl, hpays, rfl⟩ | ⟨-, hjold⟩
    · rcases hself k _ hk with ⟨rfl, -⟩ | ⟨-, hkold⟩
      · rfl
      · exact absurd hkold ((halone hpays).2 k)
    · rcases hself k key hk with ⟨rfl, hpays, rfl⟩ | ⟨-, hkold⟩
      · exact absurd hjold ((halone hpays).2 j)
      · exact h.alone j k key hjold hkold

/-- A call that is alone asks the bank. -/
theorem DispatchedOnce.dispatch (h : DispatchedOnce w) {call : PaymentCall} (p : PaymentInstruction)
    (hmissed : w.workers i = .missed call) (hpays : call.pays = true) :
    DispatchedOnce ({ w with dispatched := w.dispatched ++ [call.instruction mode] }.setStage i
      (.ready p)) := by
  have habout : w.AboutToPay i call.idempotencyKey := ⟨call, hmissed, hpays, rfl⟩
  have hkeys : (w.dispatched ++ [call.instruction mode]).map PaymentInstruction.idempotencyKey =
      w.keys ++ [call.idempotencyKey] := by
    rw [List.map_append, List.map_singleton, PaymentCall.instruction_key]
    rfl
  have hback : ∀ j key, ({ w with dispatched := w.dispatched ++ [call.instruction mode] }.setStage i
      (.ready p)).AboutToPay j key → j ≠ i ∧ w.AboutToPay j key := by
    intro j key hj
    rw [aboutToPay_setStage] at hj
    split_ifs at hj with hij
    · obtain ⟨call', hcall, -⟩ := hj
      cases hcall
    · exact ⟨hij, hj⟩
  refine ⟨?_, fun j key hj => ?_, fun j k key hj hk => ?_⟩
  · change ((w.dispatched ++ [call.instruction mode]).map _).Nodup
    rw [hkeys, List.nodup_append]
    refine ⟨h.once, List.nodup_singleton _, ?_⟩
    intro a ha b hb hab
    rw [List.mem_singleton.mp hb] at hab
    exact h.unasked i _ habout (hab ▸ ha)
  · obtain ⟨hne, hold⟩ := hback j key hj
    change key ∉ (w.dispatched ++ [call.instruction mode]).map _
    rw [hkeys, List.mem_append, List.mem_singleton]
    rintro (hasked | rfl)
    · exact h.unasked j key hold hasked
    · exact hne (h.alone j i _ hold habout)
  · exact h.alone j k key (hback j key hj).2 (hback k key hk).2

/-- Every step whose reads are alone keeps the invariant. -/
theorem DispatchedOnce.step (h : DispatchedOnce w) (a : Nat × PaymentAction)
    (halone : ReadsAlone w a) : DispatchedOnce (w.step mode a.1 a.2) := by
  obtain ⟨i, a⟩ := a
  unfold PaymentWorld.step
  split
  · exact h.setStage (by simp)
  · next connected call ha hcalled =>
    split
    · exact h.setStage (by simp)
    · next hnone => exact h.missed (halone connected call ha hcalled hnone)
  · next bank call ha hmissed =>
    simp only
    split_ifs with hpays
    · exact h.dispatch _ hmissed hpays
    · exact h.setStage (by simp)
  · exact (h.withPayments _).setStage (by simp)
  · exact h.setStage (by simp)
  · exact h

/-- In every run whose reads are alone the bank is asked at most once for each key. -/
theorem run_dispatchedOnce {start : PaymentWorld} (hidle : ∀ i, start.workers i = .idle)
    (hunasked : start.dispatched = []) (mode : String) (actions : List (Nat × PaymentAction))
    (halone : Along (fun w a => w.step mode a.1 a.2) ReadsAlone start actions) :
    Throughout (fun w a => PaymentWorld.step mode w a.1 a.2) (fun w => w.keys.Nodup) start
      actions := by
  have hnobody : ∀ i key, ¬ start.AboutToPay i key := by
    rintro i key ⟨call, hcall, -⟩
    rw [hidle i] at hcall
    cases hcall
  have hstart : DispatchedOnce start :=
    ⟨by simp [PaymentWorld.keys, hunasked], fun i key hi => absurd hi (hnobody i key),
      fun i j key hi => absurd hi (hnobody i key)⟩
  exact (throughout_of_along hstart (fun w a hC hI => hI.step a hC) halone).imp fun w hw => hw.once

end Once

/-! ## Two calls for one key -/

/-- Nothing is stored and nobody is at work. -/
def emptyRail : PaymentWorld := ⟨Table.empty, fun _ => .idle, []⟩

/-- An approved payout with its crystal. -/
def approvedPayment (paymentId : String) : PaymentCall where
  claimId := "CLM-1"
  amount := ⟨100000, -2⟩
  currency := "USD"
  payeeId := "payee-default"
  idempotencyKey := "idem-1"
  gateDecision := "APPROVED"
  crystalId := some "crys_1"
  paymentId := paymentId

/-- A call, and its retry once the instruction is saved. -/
def retriedPayment : List (Nat × PaymentAction) :=
  [(0, .call (approvedPayment "pay_1")), (0, .get true), (0, .dispatch (.error "timeout")),
    (0, .save), (1, .call (approvedPayment "pay_2")), (1, .get true)]

/-- A retry after the save does not ask the bank again. -/
theorem run_dispatchedOnce_retried :
    Throughout (fun w a => PaymentWorld.step "sandbox" w a.1 a.2) (fun w => w.keys.Nodup) emptyRail
      retriedPayment := by
  have hnobody : ∀ j key, ¬ (emptyRail.setStage 0
      (.called (approvedPayment "pay_1"))).AboutToPay j key := by
    rintro j key ⟨call, hcall, -⟩
    rw [setStage_workers] at hcall
    split_ifs at hcall
    cases hcall
  refine run_dispatchedOnce (fun _ => rfl) rfl "sandbox" retriedPayment
    ⟨?_, ?_, ?_, ?_, ?_, ?_, trivial⟩
  · rintro _ _ ⟨⟩
  · rintro _ _ - - - -
    exact ⟨List.not_mem_nil, fun j => hnobody j _⟩
  · rintro _ _ ⟨⟩
  · rintro _ _ ⟨⟩
  · rintro _ _ ⟨⟩
  · rintro _ _ ⟨⟩ ⟨⟩ hnone
    exact absurd hnone (by decide +kernel)

/-- Two calls that both read before either saves. -/
def overlappingPayments : List (Nat × PaymentAction) :=
  [(0, .call (approvedPayment "pay_1")), (1, .call (approvedPayment "pay_2")), (0, .get true),
    (1, .get true), (0, .dispatch (.error "timeout")), (1, .dispatch (.error "timeout"))]

/-- A process that crashes after it asked the bank, and a retry. -/
def cutOffPayment : List (Nat × PaymentAction) :=
  [(0, .call (approvedPayment "pay_1")), (0, .get true), (0, .dispatch (.error "timeout")),
    (0, .crash), (1, .call (approvedPayment "pay_2")), (1, .get true),
    (1, .dispatch (.error "timeout"))]

/-- Both ask the bank twice for the key. -/
theorem bank_asked_twice :
    (overlappingPayments.foldl (fun w a => w.step "sandbox" a.1 a.2) emptyRail).keys =
      ["idem-1", "idem-1"] ∧
    (cutOffPayment.foldl (fun w a => w.step "sandbox" a.1 a.2) emptyRail).keys =
      ["idem-1", "idem-1"] := by
  decide +kernel

end Governor.Sector
