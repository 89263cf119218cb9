import Mathlib
import Governor.Sector.Covered
import Governor.Sector.Payments
import Governor.Sector.PolicyRules

/-!
# Payments and their crystals

`POST /claim/evaluate` governs a payout under its claim and submits the payment under the caller's
idempotency key. The amount comes from the evaluation of the request, the crystal from the first
request for the claim. The theorem says when every payment that the bank was asked for is the one
of the crystal that it names.
-/

namespace Governor.Sector

open Finance
open Ledger (Clock Decimal Hash PyDecimal)

/-! ## The store of a process -/

/-- `get` of the payment store, or `none` where it raises. -/
def getPayment (kind : StoreKind) (connection : Connection) (payments : PaymentTable)
    (key : String) : Option (Option PaymentInstruction) :=
  match kind, connection with
  | .memory, _ => some (payments.find? key)
  | .postgres, .absent => some (payments.get false key)
  | .postgres, .opened => some (payments.get true key)
  | .postgres, .broken => none

/-- `save` of the payment store, or `none` where it raises. -/
def savePayment (kind : StoreKind) (connection : Connection) (payments : PaymentTable)
    (p : PaymentInstruction) : Option PaymentTable :=
  match kind, connection with
  | .memory, _ => some (payments.put p)
  | .postgres, .opened => some (payments.save p)
  | .postgres, .absent | .postgres, .broken => none

/-! ## Evaluating a claim -/

/-- ClaimGate as it is deployed. -/
structure GateSettings where
  deployment : Deployment
  floats : FloatArithmetic
  /-- `DEFAULT_POLICIES`. -/
  policies : List PolicyContext
  store : StoreKind
  /-- `payment_rail_mode()`. -/
  railMode : String

/-- A request, and what becomes of everything that it asks for. -/
structure GateCall where
  payout : PayoutCall
  crystallize : Exchange
  commit : Exchange
  /-- The connection that the store is read over. -/
  read : Connection
  paymentId : String
  bank : Except String BankReply
  /-- The connection that the store is written over. -/
  write : Connection

/-- The spine, the payments of the store, and what the bank was asked for. -/
structure GateWorld where
  spine : FinanceWorld
  payments : PaymentTable
  dispatched : List PaymentInstruction

/-- `PayoutResponse`, without the fields that the webhook fills in. -/
structure PayoutResponse where
  claimId : String
  decision : String
  gateScore : PyFloat
  netPayable : String
  reason : Option String
  crystalId : Option String
  siuReferralId : String
  siuState : String
  paymentId : Option String
  paymentStatus : Option String
  rulesApplied : List String

/-- What a request is answered with. -/
inductive PayoutReply where
  | ok (body : PayoutResponse)
  /-- `HTTPException(status_code=404)`. -/
  | notFound (detail : String)
  /-- An exception that nothing catches. -/
  | raised

/-- `payout_facets`. -/
def payoutFacets (d : Deployment) (request : PayoutRequest) (amount : PyDecimal)
    (result : PayoutEvaluation) : Facets :=
  [("claim_id", .str request.claimId),
    ("payout_amount", .str amount.str),
    ("net_payable", .str result.netPayable.str),
    ("currency", .str request.currency),
    ("gate_decision", .str result.decision),
    ("gate_score", .float result.score),
    ("claim_fingerprint", .str (canonicalFingerprint d "claim_gate" request.claimId
      [("amount", .str result.netPayable.str), ("currency", .str request.currency)]).val)] ++
  (if request.policyNumber = "" then [] else [("policy_number", .str request.policyNumber)]) ++
  [("siu_referral_id", .str result.siuReferral.referralId)]

/-- The arguments of `govern_operation`. -/
def payoutCall (d : Deployment) (request : PayoutRequest) (amount : PyDecimal)
    (result : PayoutEvaluation) : GovernCall where
  operationId := request.claimId
  facets := payoutFacets d request amount result
  decision := result.decision
  reserveAmount := some result.netPayable
  accountId := request.accountId
  policyId := some request.policyId
  outcome := some "paid"

/-- The answer to a request that was evaluated. -/
def payoutResponse (request : PayoutRequest) (result : PayoutEvaluation)
    (crystalId : Option String) (payment : Option PaymentInstruction) : PayoutResponse where
  claimId := request.claimId
  decision := result.decision
  gateScore := result.score
  netPayable := result.netPayable.str
  reason := result.reason
  crystalId := crystalId
  siuReferralId := result.siuReferral.referralId
  siuState := result.siuReferral.state.text
  paymentId := payment.map PaymentInstruction.paymentId
  paymentStatus := payment.map fun p => p.status.text
  rulesApplied := (result.policyTrace.map PolicyEvaluationTrace.rulesApplied).getD []

namespace GateCall

variable (settings : GateSettings)

/-- The arguments of `submit_payment`. -/
def payment (call : GateCall) (result : PayoutEvaluation) (crystalId : Option String) :
    PaymentCall where
  claimId := call.payout.request.claimId
  amount := result.netPayable
  currency := call.payout.request.currency
  payeeId := call.payout.request.payeeId
  idempotencyKey := call.payout.request.idempotencyKey.getD ""
  gateDecision := result.decision
  crystalId := crystalId
  paymentId := call.paymentId

/-- `submit_payment`, or `none` where it raises. -/
def submitPayment (call : GateCall) (payment : PaymentCall) (w : GateWorld) :
    Option PaymentInstruction × GateWorld :=
  match getPayment settings.store call.read w.payments payment.idempotencyKey with
  | none => (none, w)
  | some (some existing) => (some existing, w)
  | some none =>
    let p := payment.instruction settings.railMode
    let w := if payment.pays then { w with dispatched := w.dispatched ++ [p] } else w
    let instr := if payment.pays then p.settle (dispatchPayment settings.railMode call.bank p)
      else p
    match savePayment settings.store call.write w.payments instr with
    | none => (none, w)
    | some payments => (some instr, { w with payments := payments })

/-- The call of the request to the spine. -/
def governed (call : GateCall) (amount : PyDecimal) (result : PayoutEvaluation) : GovernCall :=
  payoutCall settings.deployment call.payout.request amount result

/-- What governing the request returns. -/
def governs (call : GateCall) (amount : PyDecimal) (result : PayoutEvaluation) (w : GateWorld) :
    Except String (Option String) × FinanceWorld :=
  claimGate.governOperation settings.deployment (call.governed settings amount result)
    call.crystallize call.commit w.spine

/-- `_run_evaluation` after the request is governed. -/
def pay (call : GateCall) (result : PayoutEvaluation) (crystalId : Option String)
    (w : GateWorld) : PayoutReply × GateWorld :=
  let request := call.payout.request
  if Ledger.truthy request.idempotencyKey then
    let (payment, w) := call.submitPayment settings (call.payment result crystalId) w
    (payment.elim .raised fun p => .ok (payoutResponse request result crystalId (some p)), w)
  else (.ok (payoutResponse request result crystalId none), w)

/-- `_run_evaluation` after the evaluation. -/
def govern (call : GateCall) (amount : PyDecimal) (result : PayoutEvaluation) (w : GateWorld) :
    PayoutReply × GateWorld :=
  match call.governs settings amount result w with
  | (.error _, spine) => (.raised, { w with spine := spine })
  | (.ok crystalId, spine) => call.pay settings result crystalId { w with spine := spine }

/-- `_run_evaluation`. -/
def runEvaluation (w : GateWorld) (call : GateCall) : PayoutReply × GateWorld :=
  let request := call.payout.request
  match request.payoutAmount, resolvePolicy settings.policies request.policyNumber with
  | none, _ => (.raised, w)
  | some _, none =>
    let policyNumber := request.policyNumber
    (.notFound s!"unknown policy: {policyNumber}", w)
  | some amount, some policy =>
    match call.payout.evaluate settings.floats policy with
    | none => (.raised, w)
    | some result => call.govern settings amount result w

/-- The state after `POST /claim/evaluate`. -/
def evaluate (w : GateWorld) (call : GateCall) : GateWorld := (call.runEvaluation settings w).2

/-- The amount and the evaluation of a request that comes to be governed. -/
def evaluated (call : GateCall) : Option (PyDecimal × PayoutEvaluation) := do
  let amount ← call.payout.request.payoutAmount
  let policy ← resolvePolicy settings.policies call.payout.request.policyNumber
  let result ← call.payout.evaluate settings.floats policy
  pure (amount, result)

end GateCall

/-! ## Payments that are backed -/

/-- The facets of a crystal name the amount and the currency of a payment. -/
structure NamesPayment (facets : Facets) (p : PaymentInstruction) : Prop where
  netPayable : ∃ net : Decimal, facets.lookup "net_payable" = some (.str net.str) ∧
    net.value = p.amount.value
  currency : facets.lookup "currency" = some (.str p.currency)

/-- The payment names a committed crystal of its amount and currency. -/
def BackedBy (db : Database) (p : PaymentInstruction) : Prop :=
  ∃ crystalId c, p.crystalId = some crystalId ∧
    db.governanceCrystals.find? crystalId = some c ∧ c.terminalState = some .committed ∧
    NamesPayment c.facets p

/-- Every payment that the bank was asked for is backed, and no crystal is named under two keys. -/
structure PaymentsBacked (w : GateWorld) : Prop where
  backed : ∀ p ∈ w.dispatched, BackedBy w.spine.tables p
  apart : w.dispatched.Pairwise fun p q => p.idempotencyKey ≠ q.idempotencyKey →
    p.crystalId ≠ q.crystalId

namespace GateCall

variable (settings : GateSettings)

/-- A request that sends a payment if it is governed: it is approved and names a key for which the
store has nothing. -/
structure Payable (call : GateCall) (w : GateWorld) (amount : PyDecimal)
    (result : PayoutEvaluation) : Prop where
  evaluated : call.evaluated settings = some (amount, result)
  approved : result.decision = "APPROVED"
  keyed : Ledger.truthy call.payout.request.idempotencyKey = true
  missed : getPayment settings.store call.read w.payments
    (call.payment result none).idempotencyKey = some none

/-- The payment that is sent for the crystal. -/
def instruction (call : GateCall) (result : PayoutEvaluation) (crystalId : String) :
    PaymentInstruction :=
  (call.payment result (some crystalId)).instruction settings.railMode

/-- A payment that will be sent is the one of the crystal that the commit finds: the crystal is not
closed otherwise, has the amount and the currency of the payment, and is not named by a payment
under another key. -/
def PaysItsCrystal (w : GateWorld) (call : GateCall) : Prop :=
  ∀ amount result, call.Payable settings w amount result → ∀ at' c,
    commitState settings.deployment claimGate (call.governed settings amount result)
      call.crystallize call.commit w.spine = some at' →
    findCrystal at'.tables "claim_gate" call.payout.request.claimId = some c → c.crystalId ≠ "" →
    CommitAccepted settings.deployment call.commit.clock at'.tables (PlatformManifest.commitRequest
      (call.governed settings amount result) c.crystalId result.netPayable) c →
    (c.terminalState = none ∨ c.terminalState = some .committed) ∧
      NamesPayment c.facets (call.instruction settings result c.crystalId) ∧
      ∀ q ∈ w.dispatched, q.crystalId = some c.crystalId →
        q.idempotencyKey = (call.instruction settings result c.crystalId).idempotencyKey

end GateCall

section Backed

variable {settings : GateSettings} {call : GateCall} {w : GateWorld} {amount : PyDecimal}
  {result : PayoutEvaluation} {crystalId : String}

theorem PaymentCall.instruction_crystalId {mode : String} {payment : PaymentCall}
    (h : payment.pays = true) : (payment.instruction mode).crystalId = payment.crystalId := by
  simp only [PaymentCall.pays, Bool.and_eq_true, decide_eq_true_eq] at h
  simp [PaymentCall.instruction, h.1, h.2]

theorem GateCall.instruction_amount :
    (call.instruction settings result crystalId).amount = result.netPayable := by
  unfold GateCall.instruction PaymentCall.instruction
  split_ifs <;> rfl

theorem GateCall.instruction_currency :
    (call.instruction settings result crystalId).currency = call.payout.request.currency := by
  unfold GateCall.instruction PaymentCall.instruction
  split_ifs <;> rfl

theorem GateCall.payment_pays (happroved : result.decision = "APPROVED") (hid : crystalId ≠ "") :
    (call.payment result (some crystalId)).pays = true := by
  simp [PaymentCall.pays, GateCall.payment, happroved, Ledger.truthy, hid]

theorem GateCall.instruction_crystalId (happroved : result.decision = "APPROVED")
    (hid : crystalId ≠ "") :
    (call.instruction settings result crystalId).crystalId = some crystalId :=
  PaymentCall.instruction_crystalId (GateCall.payment_pays happroved hid)

/-- The payment does not reach the spine. -/
theorem GateCall.submitPayment_spine (payment : PaymentCall) :
    (call.submitPayment settings payment w).2.spine = w.spine := by
  unfold GateCall.submitPayment
  split
  · rfl
  · rfl
  · simp only
    split <;> split_ifs <;> rfl

/-- The bank is asked when the store has nothing and the call pays. -/
theorem GateCall.submitPayment_dispatched (payment : PaymentCall) :
    (call.submitPayment settings payment w).2.dispatched =
      if getPayment settings.store call.read w.payments payment.idempotencyKey = some none ∧
          payment.pays = true then w.dispatched ++ [payment.instruction settings.railMode]
      else w.dispatched := by
  unfold GateCall.submitPayment
  split
  · next hget => simp [hget]
  · next hget => simp [hget]
  · next hget =>
    simp only [hget, true_and]
    split <;> split_ifs <;> rfl

theorem GateCall.evaluate_of_none (h : call.evaluated settings = none) :
    call.evaluate settings w = w := by
  unfold GateCall.evaluated at h
  unfold GateCall.evaluate GateCall.runEvaluation
  cases hamount : call.payout.request.payoutAmount with
  | none => simp only [hamount]
  | some amount =>
    cases hpolicy : resolvePolicy settings.policies call.payout.request.policyNumber with
    | none => simp only [hamount, hpolicy]
    | some policy =>
      cases hresult : call.payout.evaluate settings.floats policy with
      | none => simp only [hamount, hpolicy, hresult]
      | some result => simp [hamount, hpolicy, hresult] at h

theorem GateCall.evaluated_eq_some (h : call.evaluated settings = some (amount, result)) :
    call.payout.request.payoutAmount = some amount ∧ ∃ policy,
      resolvePolicy settings.policies call.payout.request.policyNumber = some policy ∧
        call.payout.evaluate settings.floats policy = some result := by
  obtain ⟨amount', hamount, h⟩ := Option.bind_eq_some_iff.mp h
  obtain ⟨policy, hpolicy, h⟩ := Option.bind_eq_some_iff.mp h
  obtain ⟨result', hresult, h⟩ := Option.bind_eq_some_iff.mp h
  obtain ⟨rfl, rfl⟩ := Prod.mk.inj (Option.some.inj h)
  exact ⟨hamount, policy, hpolicy, hresult⟩

theorem GateCall.runEvaluation_of_some (h : call.evaluated settings = some (amount, result)) :
    call.runEvaluation settings w = call.govern settings amount result w := by
  obtain ⟨hamount, policy, hpolicy, hresult⟩ := GateCall.evaluated_eq_some h
  simp [GateCall.runEvaluation, hamount, hpolicy, hresult]

theorem GateCall.evaluate_of_some (h : call.evaluated settings = some (amount, result)) :
    call.evaluate settings w = (call.govern settings amount result w).2 :=
  congrArg Prod.snd (GateCall.runEvaluation_of_some h)

theorem GateCall.pay_spine (id : Option String) :
    (call.pay settings result id w).2.spine = w.spine := by
  unfold GateCall.pay
  simp only
  split_ifs
  · exact call.submitPayment_spine _
  · rfl

theorem GateCall.pay_dispatched (id : Option String) :
    (call.pay settings result id w).2.dispatched =
      if Ledger.truthy call.payout.request.idempotencyKey = true then
        (call.submitPayment settings (call.payment result id) w).2.dispatched
      else w.dispatched := by
  unfold GateCall.pay
  simp only
  split_ifs <;> rfl

theorem GateCall.govern_spine :
    (call.govern settings amount result w).2.spine = (call.governs settings amount result w).2 := by
  unfold GateCall.govern
  split
  · next hgoverns => rw [hgoverns]
  · next hgoverns => rw [GateCall.pay_spine, hgoverns]

/-- The bank is asked for one payment at most, under the crystal that the spine returned. -/
theorem GateCall.govern_dispatched (h : call.evaluated settings = some (amount, result)) :
    (∃ crystalId, call.Payable settings w amount result ∧ crystalId ≠ "" ∧
      (call.governs settings amount result w).1 = .ok (some crystalId) ∧
      (call.govern settings amount result w).2.dispatched =
        w.dispatched ++ [call.instruction settings result crystalId]) ∨
    (∀ crystalId, call.Payable settings w amount result → crystalId ≠ "" →
      (call.governs settings amount result w).1 ≠ .ok (some crystalId)) ∧
      (call.govern settings amount result w).2.dispatched = w.dispatched := by
  unfold GateCall.govern
  cases call.governs settings amount result w with
  | mk r spine =>
  cases r with
  | error message => exact Or.inr ⟨fun _ _ _ => by simp, rfl⟩
  | ok id =>
    simp only [GateCall.pay_dispatched, GateCall.submitPayment_dispatched]
    split_ifs with hkeyed hpays
    · obtain ⟨hmissed, hpays⟩ := hpays
      simp only [PaymentCall.pays, GateCall.payment, Bool.and_eq_true] at hpays
      obtain ⟨crystalId, rfl, hid⟩ : ∃ crystalId, id = some crystalId ∧ crystalId ≠ "" := by
        simpa [Ledger.truthy, Option.any_eq_true] using hpays.2
      exact Or.inl ⟨crystalId, ⟨h, of_decide_eq_true hpays.1, hkeyed, hmissed⟩, hid, rfl, rfl⟩
    · refine Or.inr ⟨fun crystalId hpayable hid hok => hpays ?_, rfl⟩
      obtain rfl := Except.ok.inj hok
      exact ⟨hpayable.missed, GateCall.payment_pays hpayable.approved hid⟩
    · exact Or.inr ⟨fun _ hpayable => absurd hpayable.keyed hkeyed, rfl⟩

/-- A backed payment stays backed when another crystal is opened. -/
theorem BackedBy.opens {db db' : Database} {p : PaymentInstruction} {c : CrystalRow}
    {e : EscrowRow} (h : BackedBy db p) (hopens : Opens db c e db') : BackedBy db' p := by
  obtain ⟨id, x, hid, hfind, hx⟩ := h
  have hne : id ≠ c.crystalId := by
    rintro rfl
    rw [hopens.newCrystal] at hfind
    cases hfind
  refine ⟨id, x, hid, ?_, hx⟩
  rw [hopens.crystals, Table.find?_put, if_neg hne]
  exact hfind

/-- The crystal of a backed payment is closed, so that no closing is about it. -/
theorem BackedBy.closes {db db' : Database} {p : PaymentInstruction} {x : Resolution}
    (h : BackedBy db p) (hcloses : Closes db x db') : BackedBy db' p := by
  obtain ⟨id, c, hid, hfind, hstate, hnames⟩ := h
  have hne : id ≠ x.crystal.crystalId := by
    rintro rfl
    rw [hcloses.crystal] at hfind
    obtain rfl := Option.some.inj hfind
    rw [hcloses.terminalState] at hstate
    cases hstate
  refine ⟨id, c, hid, ?_, hstate, hnames⟩
  rw [hcloses.crystals, Table.find?_put, CrystalRow.close_crystalId, if_neg hne]
  exact hfind

/-- A backed payment stays backed. -/
theorem GateCall.governs_backed (hw : Sound w.spine)
    (hbacked : ∀ p ∈ w.dispatched, BackedBy w.spine.tables p) :
    ∀ p ∈ w.dispatched, BackedBy (call.governs settings amount result w).2.tables p := by
  intro p hp
  exact (governOperation_keeps (I := fun spine => Sound spine ∧ BackedBy spine.tables p)
    (fun spine a h => ⟨step_sound h.1 a, step_invariant (I := fun db => BackedBy db p)
      (fun _ ho hb => hb.opens ho) (fun _ hc hb => hb.closes hc) h.1 h.2 a⟩)
    ⟨hw, hbacked p hp⟩ _ _ _ _).2

/-- What a request that is evaluated leaves at the spine is sound. -/
theorem GateCall.evaluate_sound (hw : Sound w.spine) :
    Sound (call.evaluate settings w).spine := by
  cases hevaluated : call.evaluated settings with
  | none =>
    rw [GateCall.evaluate_of_none hevaluated]
    exact hw
  | some pair =>
    obtain ⟨amount, result⟩ := pair
    rw [GateCall.evaluate_of_some hevaluated, GateCall.govern_spine]
    exact governOperation_keeps (I := Sound) (fun _ a h => step_sound h a) hw _ _ _ _

/-- Payments that were dispatched and one more. -/
theorem paymentsBacked_append {spine : FinanceWorld} {payments payments' : PaymentTable}
    {dispatched : List PaymentInstruction} {p : PaymentInstruction}
    (h : PaymentsBacked ⟨spine, payments, dispatched⟩) :
    PaymentsBacked ⟨spine, payments', dispatched ++ [p]⟩ ↔
      BackedBy spine.tables p ∧
        ∀ q ∈ dispatched, q.crystalId = p.crystalId → q.idempotencyKey = p.idempotencyKey := by
  constructor
  · rintro ⟨hbacked, hapart⟩
    refine ⟨hbacked p (by simp), fun q hq hsame => ?_⟩
    by_contra hkey
    exact (List.pairwise_append.mp hapart).2.2 q hq p (by simp) hkey hsame
  · rintro ⟨hp, hsame⟩
    refine ⟨fun q hq => ?_, List.pairwise_append.mpr ⟨h.apart, List.pairwise_singleton _ _, ?_⟩⟩
    · rcases List.mem_append.mp hq with hq | hq
      · exact h.backed q hq
      · rwa [List.mem_singleton.mp hq]
    · intro q hq p' hp' hkey hcrystal
      obtain rfl := List.mem_singleton.mp hp'
      exact hkey (hsame q hq hcrystal)

theorem settled_committed {c : CrystalRow} : (settled c).terminalState = some .committed ↔
    c.terminalState = none ∨ c.terminalState = some .committed := by
  unfold settled
  split_ifs with hopen
  · exact iff_of_true rfl (Or.inl hopen)
  · exact (or_iff_right hopen).symm

theorem settled_facets (c : CrystalRow) : (settled c).facets = c.facets := by
  unfold settled
  split_ifs <;> rfl

/-- A payment is backed by the crystal that it names when that is committed for it. -/
theorem backedBy_iff {db : Database} {p : PaymentInstruction} {c : CrystalRow}
    (hcrystal : p.crystalId = some crystalId)
    (hfind : db.governanceCrystals.find? crystalId = some (settled c)) :
    BackedBy db p ↔ (c.terminalState = none ∨ c.terminalState = some .committed) ∧
      NamesPayment c.facets p := by
  rw [← settled_committed, ← settled_facets c]
  constructor
  · rintro ⟨id, c', hid, hfind', hrest⟩
    obtain rfl := Option.some.inj (hcrystal.symm.trans hid)
    obtain rfl := Option.some.inj (hfind.symm.trans hfind')
    exact hrest
  · exact fun h => ⟨crystalId, settled c, hcrystal, hfind, h⟩

/-- An approved request asks the spine to commit what it pays. -/
theorem GateCall.approved_committed (call : GateCall) (settings : GateSettings)
    (amount : PyDecimal) (happroved : result.decision = "APPROVED") :
    claimGate.shouldCommit (call.governed settings amount result) = true ∧
      claimGate.reserve (call.governed settings amount result) = some result.netPayable := by
  have hcommits : claimGate.shouldCommit (call.governed settings amount result) = true := by
    simp [PlatformManifest.shouldCommit, claimGate, GateCall.governed, payoutCall, happroved]
  refine ⟨hcommits, ?_⟩
  rw [PlatformManifest.reserve, if_pos hcommits]
  rfl

/-- A request keeps the payments backed exactly when it pays its own crystal. -/
theorem evaluate_backed_iff (hw : Sound w.spine) (hbacked : PaymentsBacked w) :
    PaymentsBacked (call.evaluate settings w) ↔ call.PaysItsCrystal settings w := by
  cases hevaluated : call.evaluated settings with
  | none =>
    rw [GateCall.evaluate_of_none hevaluated]
    refine iff_of_true hbacked fun amount result hpayable => ?_
    rw [hpayable.evaluated] at hevaluated
    cases hevaluated
  | some pair =>
    obtain ⟨amount, result⟩ := pair
    have hkept : ∀ p ∈ w.dispatched, BackedBy (call.governs settings amount result w).2.tables p :=
      GateCall.governs_backed hw hbacked.backed
    have hspine : (call.govern settings amount result w).2.spine =
        (call.governs settings amount result w).2 := GateCall.govern_spine
    rw [GateCall.evaluate_of_some hevaluated]
    generalize hnext : (call.govern settings amount result w).2 = next at hspine
    obtain ⟨spine, payments, dispatched⟩ := next
    obtain rfl : spine = _ := hspine
    rcases call.govern_dispatched (w := w) hevaluated with
      ⟨crystalId, hpayable, hid, hreturned, hdispatched⟩ | ⟨hnone, hdispatched⟩
    · -- the bank is asked under the crystal that the commit found
      rw [hnext] at hdispatched
      obtain rfl : dispatched = _ := hdispatched
      obtain ⟨hcommits, hreserve⟩ := call.approved_committed settings amount hpayable.approved
      obtain ⟨at', c, hat, hfind, rfl, haccepted⟩ :=
        (governOperation_returns_iff hw hcommits hreserve).mp hreturned
      have hsettled : (call.governs settings amount result w).2.tables.governanceCrystals.find?
          c.crystalId = some (settled c) :=
        governOperation_settles hw hcommits hreserve hreturned hat hfind
      have hnames : (call.instruction settings result c.crystalId).crystalId = some c.crystalId :=
        GateCall.instruction_crystalId hpayable.approved hid
      have hbefore : PaymentsBacked
          ⟨(call.governs settings amount result w).2, payments, w.dispatched⟩ :=
        ⟨hkept, hbacked.apart⟩
      rw [paymentsBacked_append hbefore, backedBy_iff hnames hsettled, hnames, and_assoc]
      constructor
      · intro h amount' result' hpayable' at'' c' hat' hfind' _ _
        obtain ⟨rfl, rfl⟩ := Prod.mk.inj
          (Option.some.inj (hevaluated.symm.trans hpayable'.evaluated))
        obtain rfl := Option.some.inj (hat.symm.trans hat')
        obtain rfl := Option.some.inj (hfind.symm.trans hfind')
        exact h
      · exact fun h => h amount result hpayable at' c hat hfind hid haccepted
    · -- the bank is not asked
      rw [hnext] at hdispatched
      obtain rfl : dispatched = _ := hdispatched
      refine iff_of_true ⟨hkept, hbacked.apart⟩ ?_
      intro amount' result' hpayable at' c hat hfind hid haccepted
      obtain ⟨rfl, rfl⟩ := Prod.mk.inj
        (Option.some.inj (hevaluated.symm.trans hpayable.evaluated))
      obtain ⟨hcommits, hreserve⟩ := call.approved_committed settings amount hpayable.approved
      exact absurd ((governOperation_returns_iff hw hcommits hreserve).mpr
        ⟨at', c, hat, hfind, rfl, haccepted⟩) (hnone c.crystalId hpayable hid)

/-- The first payout of a claim pays its crystal. -/
theorem GateCall.paysItsCrystal_of_new (hw : Sound w.spine) (hbacked : PaymentsBacked w)
    (hnew : findCrystal (run settings.deployment w.spine call.crystallize.meanwhile).tables
      "claim_gate" call.payout.request.claimId = none) (halone : call.commit.meanwhile = []) :
    call.PaysItsCrystal settings w := by
  intro amount result hpayable at' c hat hfind hid _
  obtain ⟨-, -, -, -, w', crystalId, hcrystallize, rfl⟩ := commitState_eq_some hat
  rw [halone] at hfind
  change findCrystal w'.tables "claim_gate" call.payout.request.claimId = some c at hfind
  have hw' := crystallize_sound hw hcrystallize
  obtain ⟨r, answer, hr, rfl, hcommitted⟩ := spineCrystallize_ok hw hcrystallize
  obtain ⟨reserved, -, rfl⟩ := Option.map_eq_some_iff.mp hr
  obtain ⟨c', prev, horizon, hseal, hopens⟩ := hcommitted.opens_of_new hnew
  have hstored : c' ∈ w'.tables.governanceCrystals.rows := by
    refine Table.mem_of_find? (k := c'.crystalId) ?_
    rw [hopens.crystals, Table.find?_put_self]
  have hcrystal : c'.platform = "claim_gate" ∧ c'.operationId = call.payout.request.claimId ∧
      c'.facets = (call.governed settings amount result).facets := by
    rw [hseal]
    exact ⟨rfl, rfl, rfl⟩
  obtain ⟨hplatform, hoperation, hfacets⟩ := hcrystal
  have hfound := findCrystal_of_mem hw'.agrees hstored
  rw [hplatform, hoperation] at hfound
  obtain rfl := Option.some.inj (hfound.symm.trans hfind)
  refine ⟨Or.inl hopens.terminalState, ?_, fun q hq hnames => ?_⟩
  · rw [hfacets]
    refine ⟨⟨result.netPayable, rfl, ?_⟩, ?_⟩
    · rw [GateCall.instruction_amount]
    · rw [GateCall.instruction_currency]
      rfl
  · -- a payment that names the crystal was sent before the crystal was opened
    obtain ⟨id, x, hx, hstill, -⟩ := run_invariant (d := settings.deployment)
      (I := fun db => BackedBy db q) (fun _ ho hb => hb.opens ho) (fun _ hc hb => hb.closes hc)
      hw (hbacked.backed q hq) call.crystallize.meanwhile
    obtain rfl := Option.some.inj (hnames.symm.trans hx)
    rw [hopens.newCrystal] at hstill
    cases hstill

/-- In every run of requests the payments are backed exactly when every request pays its own
crystal. -/
theorem run_paymentsBacked_iff {start : GateWorld} (hstart : NoCrystals start.spine)
    (hunasked : start.dispatched = []) (settings : GateSettings) (calls : List GateCall) :
    Throughout (fun w call => GateCall.evaluate settings w call) PaymentsBacked start calls ↔
      Along (fun w call => GateCall.evaluate settings w call)
        (fun w call => call.PaysItsCrystal settings w) start calls := by
  refine throughout_iff_along (I := fun w => Sound w.spine) hstart.sound ?_
    (fun w call hw => GateCall.evaluate_sound hw) (fun w call => evaluate_backed_iff)
  refine ⟨?_, ?_⟩
  · simp [hunasked]
  · simp [hunasked]

end Backed

/-! ## A claim that is evaluated twice -/

/-- An evaluation of the claim on 2025-06-01, under an idempotency key. -/
def payoutOf (payoutAmount : Decimal) (key siuId paymentId : String) (seconds : Int) :
    GateCall where
  payout := {
    request := {
      claimId := "CLM-1"
      payoutAmount := some (.finite payoutAmount)
      currency := "USD"
      policyNumber := "POL-AUTO-001"
      lossDate := .date 739403
      siuFlag := false
      fraudSignals := []
      accountId := "carrier-default"
      policyId := "claim-high-us"
      payeeId := "payee-default"
      idempotencyKey := some key }
    today := 739403
    siuId := siuId }
  crystallize := promptExchange seconds
  commit := promptExchange (seconds + 1)
  read := .opened
  paymentId := paymentId
  bank := .error "timeout"
  write := .opened

/-- A payout of 1500.00, of which the deductible leaves 1000.00. -/
def firstPayout : GateCall := payoutOf ⟨150000, -2⟩ "idem-1" "000000000001" "pay_1" 0

/-- The facets of the first payout. -/
def firstPayoutFacets : Facets :=
  [("claim_id", .str "CLM-1"), ("payout_amount", .str "1500.00"), ("net_payable", .str "1000.00"),
    ("currency", .str "USD"), ("gate_decision", .str "APPROVED"), ("gate_score", .float fullScore),
    ("claim_fingerprint",
      .str "734a9644924b6ab871be2b2889f58de901b309b587bfbd08bfc356c615da64ce"),
    ("policy_number", .str "POL-AUTO-001"), ("siu_referral_id", .str "siu_000000000001")]

def firstPayoutFingerprint : Hash :=
  ⟨"9828fd5332f466445cdb2644bc1d1ec5f8323045deb079eb2b52b074db71e86a", by decide +kernel⟩

def firstPayoutCreated : Hash :=
  ⟨"c6443ca301cb6d0dfbe280f13ed171a53d36f77af2d3b1939049d50801d2e71b", by decide +kernel⟩

/-- The texts that the first payout hashes, with their SHA-256 digests. -/
def payoutDigests : List (String × Hash) :=
  [(fingerprintPayload "claim_gate" "CLM-1" [("amount", .str "1000.00"), ("currency", .str "USD")],
      ⟨"734a9644924b6ab871be2b2889f58de901b309b587bfbd08bfc356c615da64ce", by decide +kernel⟩),
    (fingerprintPayload "claim_gate" "CLM-1" [("amount", .str "2000.00"), ("currency", .str "USD")],
      ⟨"af1030bdd08ee3b90ca9bd25374e44ad0c56713a8a47b5ed1225facdb2a7b5d1", by decide +kernel⟩),
    (fingerprintPayload "claim_gate" "CLM-1" firstPayoutFacets, firstPayoutFingerprint),
    (crystalPayload sampleCrystalId "claim_gate" "CLM-1" "high" firstPayoutFacets
      firstPayoutFingerprint none,
      ⟨"3cd6bb709140303e88e0a38022667db910086ce2399bbbcdbae2c2410aba892f", by decide +kernel⟩),
    (eventPayload 1 "CLM-1" (some sampleCrystalId) "carrier-default" "CRYSTAL_CREATED"
      "-1000.000000000000" (.obj [("platform", .str "claim_gate"), ("risk_tier", .str "high")])
      Ledger.genesisHash.val "2026-01-01 00:00:00+00", firstPayoutCreated),
    (eventPayload 2 "CLM-1" (some sampleCrystalId) "carrier-default" "COMMITTED_FINAL"
      "1000.000000000000" (.obj [("outcome", .str "paid")]) firstPayoutCreated.val
      "2026-01-01 00:00:01+00",
      ⟨"d188bd43c3504905175ff25eb8b1595cba606071740ac78b5a2200752de51c8b", by decide +kernel⟩)]

/-- ClaimGate with its policies, a Postgres store and the sandbox rail. -/
def gateSettings : GateSettings where
  deployment := .ofDigests payoutDigests fun t =>
    if t = sampleStart then "2026-01-01 00:00:00+00" else "2026-01-01 00:00:01+00"
  floats := plainFloats
  policies := defaultPolicies
  store := .postgres
  railMode := "sandbox"

/-- Nothing was paid yet. -/
def gateWorld : GateWorld := ⟨carrierWorld, Table.empty, []⟩

/-- The first payout pays its crystal, and an evaluation without a key pays nothing. -/
theorem run_paymentsBacked_first :
    Throughout (fun w call => GateCall.evaluate gateSettings w call) PaymentsBacked gateWorld
      [firstPayout, payoutOf ⟨150000, -2⟩ "" "000000000002" "pay_2" 2] := by
  have hempty : NoCrystals gateWorld.spine := ⟨rfl, rfl, rfl⟩
  have hnothing : PaymentsBacked gateWorld := ⟨by simp [gateWorld], by simp [gateWorld]⟩
  refine (run_paymentsBacked_iff hempty rfl gateSettings _).mpr ⟨?_, ?_, trivial⟩
  · exact GateCall.paysItsCrystal_of_new hempty.sound hnothing rfl rfl
  · rintro amount result ⟨-, -, hkeyed, -⟩
    exact absurd hkeyed (by decide)

/-- The claim is evaluated again, with 2500.00 and another key. -/
def laterPayout : GateCall := payoutOf ⟨250000, -2⟩ "idem-2" "000000000002" "pay_2" 2

/-- The payment of 2000.00 is sent under the crystal of 1000.00. -/
theorem later_payout_names_first_crystal :
    ([firstPayout, laterPayout].foldl (fun w call => call.evaluate gateSettings w)
        gateWorld).dispatched.map (fun p => (p.idempotencyKey, p.amount, p.crystalId)) =
      [("idem-1", ⟨100000, -2⟩, some sampleCrystalId),
        ("idem-2", ⟨200000, -2⟩, some sampleCrystalId)] ∧
    ¬ PaymentsBacked ([firstPayout, laterPayout].foldl
      (fun w call => call.evaluate gateSettings w) gateWorld) := by
  have hdispatched : ([firstPayout, laterPayout].foldl (fun w call => call.evaluate gateSettings w)
      gateWorld).dispatched.map (fun p => (p.idempotencyKey, p.amount, p.crystalId)) =
        [("idem-1", ⟨100000, -2⟩, some sampleCrystalId),
          ("idem-2", ⟨200000, -2⟩, some sampleCrystalId)] := by
    decide +kernel
  refine ⟨hdispatched, fun hbacked => ?_⟩
  have hapart := List.Pairwise.map (S := fun p q : String × Decimal × Option String =>
    p.1 ≠ q.1 → p.2.2 ≠ q.2.2) (fun p : PaymentInstruction => (p.idempotencyKey, p.amount, p.crystalId))
    (fun _ _ h => h) hbacked.apart
  rw [hdispatched] at hapart
  exact absurd hapart (by decide)

end Governor.Sector
