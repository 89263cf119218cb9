import Mathlib
import Governor.Sector.Payouts

/-!
# Notifications of loss and the payments they make

Six vendors notify ClaimGate of losses, each with its own names for the fields. A notification is
brought into one form, evaluated like any other claim and paid under an idempotency key that is
made from the vendor's own identifier. The theorem says when the payment that a call gets back is
the one that it asked for. The write-back to the vendor, which follows the evaluation, is left out.
-/

namespace Governor.Sector

open Ledger (PyDecimal)

/-! ## Reading a notification -/

/-- The fields of a JSON object. -/
abbrev Fields := List (String × Json)

/-- What the adapters read values with. -/
structure FnolReader where
  /-- `Decimal(text)`, or `none` where it raises. -/
  decimal : String → Option PyDecimal
  /-- `date.fromisoformat(text)`, or the text of the `ValueError`. -/
  date : String → Except String Int
  /-- `str` of a float, a list or a dict. -/
  repr : Json → String

/-- `str(value)`. -/
def FnolReader.str (reader : FnolReader) : Json → String
  | .str s => s
  | .null => "None"
  | .bool true => "True"
  | .bool false => "False"
  | .int n => n.repr
  | value => reader.repr value

/-- `bool(value)`. -/
def truthyJson : Json → Bool
  | .null => false
  | .bool b => b
  | .int n => n ≠ 0
  | .float x => x.text ≠ "0.0".toList && x.text ≠ "-0.0".toList
  | .str s => s ≠ ""
  | .arr xs => !xs.isEmpty
  | .obj fields => !fields.isEmpty

/-- `list(value)`, or `none` where it raises. -/
def listJson : Json → Option (List Json)
  | .str s => some (s.toList.map fun c => .str c.toString)
  | .arr xs => some xs
  | .obj fields => some (fields.map fun f => .str f.1)
  | _ => none

/-- `fields.get(key, fields.get(key', …))`: the field of the first key that is there. -/
def firstField (fields : Fields) (keys : List String) : Option Json :=
  keys.findSome? fun key => fields.lookup key

/-- `fields.get(key) or fields.get(key')`. -/
def eitherField (key key' : String) (fields : Fields) : Json :=
  let value := (fields.lookup key).getD .null
  if truthyJson value then value else (fields.lookup key').getD .null

/-- `NormalizedFnol`. -/
structure NormalizedFnol where
  vendor : String
  claimId : String
  policyNumber : String
  lossDate : Int
  reportedAmount : PyDecimal
  currency : String
  lossType : String
  claimantId : String
  rawVendorId : String
  fraudSignals : List Json

/-- Why a notification is not evaluated. -/
inductive FnolError where
  /-- A `ValueError`, answered with `HTTPException(status_code=422)`. -/
  | unprocessable (detail : String)
  /-- An exception that nothing catches. -/
  | raised

/-- Where a vendor puts what a notification says, and what it says where the field is missing. -/
structure FnolShape where
  vendor : String
  envelope : List String
  claimId : Fields → Json
  policyNumber : List String
  defaultPolicy : String
  lossDate : List String
  reportedAmount : List String
  currency : String
  defaultCurrency : String
  lossType : List String
  defaultLossType : String
  claimantId : List String
  rawVendorId : List String
  fraudSignals : List String

/-- An adapter on a payload that arrives on a given day. -/
def FnolShape.read (shape : FnolShape) (reader : FnolReader) (today : Int) (payload : Fields) :
    Except FnolError NormalizedFnol := do
  let fields ← match (firstField payload shape.envelope).getD (.obj payload) with
    | .obj fields => pure fields
    | _ => throw .raised
  let text := fun keys default => reader.str ((firstField fields keys).getD (.str default))
  let lossDate ← match firstField fields shape.lossDate with
    | none => pure today
    | some value =>
      match reader.date (String.ofList ((reader.str value).toList.take 10)) with
      | .ok day => pure day
      | .error detail => throw (.unprocessable detail)
  let reportedAmount ← match reader.decimal (text shape.reportedAmount "0") with
    | some amount => pure amount
    | none => throw .raised
  let fraudSignals ← match listJson ((firstField fields shape.fraudSignals).getD (.arr [])) with
    | some signals => pure signals
    | none => throw .raised
  pure {
    vendor := shape.vendor
    claimId := reader.str (shape.claimId fields)
    policyNumber := text shape.policyNumber shape.defaultPolicy
    lossDate := lossDate
    reportedAmount := reportedAmount
    currency := text [shape.currency] shape.defaultCurrency
    lossType := text shape.lossType shape.defaultLossType
    claimantId := text shape.claimantId "unknown"
    rawVendorId := text shape.rawVendorId ""
    fraudSignals := fraudSignals }

/-! ## The vendors -/

/-- `from_guidewire`. -/
def fromGuidewire : FnolShape where
  vendor := "guidewire"
  envelope := ["claim"]
  claimId := eitherField "claimNumber" "id"
  policyNumber := ["policyNumber"]
  defaultPolicy := "POL-AUTO-001"
  lossDate := ["lossDate"]
  reportedAmount := ["reportedAmount"]
  currency := "currency"
  defaultCurrency := "USD"
  lossType := ["lossType"]
  defaultLossType := "collision"
  claimantId := ["claimantId"]
  rawVendorId := ["id"]
  fraudSignals := ["fraudIndicators"]

/-- `from_snapsheet`. -/
def fromSnapsheet : FnolShape where
  vendor := "snapsheet"
  envelope := ["data"]
  claimId := eitherField "claim_number" "id"
  policyNumber := ["policy_number"]
  defaultPolicy := "POL-AUTO-001"
  lossDate := ["date_of_loss"]
  reportedAmount := ["reserve_amount", "amount"]
  currency := "currency_code"
  defaultCurrency := "USD"
  lossType := ["loss_type"]
  defaultLossType := "unknown"
  claimantId := ["claimant_id"]
  rawVendorId := ["id"]
  fraudSignals := ["flags"]

/-- `from_majesco`; a claim reference that is there is taken even if it is empty. -/
def fromMajesco : FnolShape where
  vendor := "majesco"
  envelope := ["claimEvent"]
  claimId fields := (firstField fields ["claimRef", "claimId"]).getD .null
  policyNumber := ["policyRef"]
  defaultPolicy := "POL-PROP-001"
  lossDate := ["incidentDate"]
  reportedAmount := ["estimatedLoss"]
  currency := "currency"
  defaultCurrency := "USD"
  lossType := ["perilCode"]
  defaultLossType := "property"
  claimantId := ["insuredId"]
  rawVendorId := ["eventId"]
  fraudSignals := ["siuFlags"]

/-- `from_acturis`. -/
def fromActuris : FnolShape where
  vendor := "acturis"
  envelope := ["notification", "claimNotification"]
  claimId := eitherField "claimReference" "claimRef"
  policyNumber := ["policyReference"]
  defaultPolicy := "POL-MOTOR-UK-001"
  lossDate := ["dateOfLoss", "lossDate"]
  reportedAmount := ["estimatedAmount", "reserveAmount"]
  currency := "currencyCode"
  defaultCurrency := "GBP"
  lossType := ["perilType"]
  defaultLossType := "motor"
  claimantId := ["policyholderId"]
  rawVendorId := ["notificationId"]
  fraudSignals := ["fraudFlags"]

/-- `from_ice`. -/
def fromIce : FnolShape where
  vendor := "ice"
  envelope := ["claimNotification", "notification"]
  claimId := eitherField "claimReference" "claimNumber"
  policyNumber := ["policyNumber", "policyReference"]
  defaultPolicy := "POL-MOTOR-UK-001"
  lossDate := ["dateOfLoss", "incidentDate"]
  reportedAmount := ["estimatedReserve", "reserveAmount"]
  currency := "currency"
  defaultCurrency := "GBP"
  lossType := ["perilCode", "claimType"]
  defaultLossType := "motor"
  claimantId := ["insuredId", "policyholderId"]
  rawVendorId := ["notificationId", "eventId"]
  fraudSignals := ["fraudIndicators", "referralFlags"]

/-- `from_ssp`. -/
def fromSsp : FnolShape where
  vendor := "ssp"
  envelope := ["claim", "event"]
  claimId := eitherField "claimNumber" "claimRef"
  policyNumber := ["policyNumber"]
  defaultPolicy := "POL-MOTOR-UK-001"
  lossDate := ["dateOfLoss"]
  reportedAmount := ["initialReserve", "amount"]
  currency := "currency"
  defaultCurrency := "GBP"
  lossType := ["claimType"]
  defaultLossType := "motor"
  claimantId := ["insuredPartyId"]
  rawVendorId := ["eventId"]
  fraudSignals := ["referralFlags"]

/-- `_ADAPTERS`, by the vendor of each. -/
def fnolAdapters : List FnolShape :=
  [fromGuidewire, fromSnapsheet, fromMajesco, fromActuris, fromIce, fromSsp]

/-- `normalize_fnol`; `vendor.lower()` is exact for the letters of the vendors. -/
def normalizeFnol (reader : FnolReader) (today : Int) (vendor : String) (payload : Fields) :
    Except FnolError NormalizedFnol :=
  match fnolAdapters.find? fun shape => shape.vendor = vendor.toLower with
  | none => .error (.unprocessable s!"unsupported FNOL vendor: {vendor}")
  | some shape => shape.read reader today payload

/-! ## The webhook -/

/-- `idempotency_key` of a notification. -/
def NormalizedFnol.idempotencyKey (fnol : NormalizedFnol) : String :=
  "fnol-" ++ fnol.vendor ++ "-" ++ fnol.rawVendorId

/-- A text among the fraud signals; `PayoutRequest` admits nothing else. -/
def signalText : Json → Option String
  | .str s => some s
  | _ => none

/-- The `PayoutRequest` of a notification, unless its fraud signals are no texts. -/
def NormalizedFnol.request (fnol : NormalizedFnol) : Option PayoutRequest :=
  (fnol.fraudSignals.mapM signalText).map fun signals => {
    claimId := fnol.claimId
    payoutAmount := some fnol.reportedAmount
    currency := fnol.currency
    policyNumber := fnol.policyNumber
    lossDate := .date fnol.lossDate
    siuFlag := false
    fraudSignals := signals
    accountId := "carrier-default"
    policyId := "claim-high-us"
    payeeId := fnol.claimantId
    idempotencyKey := some fnol.idempotencyKey }

/-- A notification, and what becomes of everything that its evaluation asks for. -/
structure FnolCall where
  vendor : String
  payload : Fields
  today : Int
  siuId : String
  crystallize : Exchange
  commit : Exchange
  read : Connection
  paymentId : String
  bank : Except String BankReply
  write : Connection

namespace FnolCall

variable (reader : FnolReader) (call : FnolCall)

/-- The notification in the form that all vendors share. -/
def normalized : Except FnolError NormalizedFnol :=
  normalizeFnol reader call.today call.vendor call.payload

/-- The evaluation that the webhook runs. -/
def gateCall : Except FnolError GateCall := do
  let fnol ← call.normalized reader
  match fnol.request with
  | none => throw .raised
  | some request => pure {
      payout := ⟨request, call.today, call.siuId⟩
      crystallize := call.crystallize
      commit := call.commit
      read := call.read
      paymentId := call.paymentId
      bank := call.bank
      write := call.write }

end FnolCall

/-- What the webhook answers, up to the write-back. -/
inductive FnolReply where
  | refused (e : FnolError)
  | evaluated (reply : PayoutReply)

/-- `fnol_webhook`. -/
def fnolWebhook (settings : GateSettings) (reader : FnolReader) (w : GateWorld)
    (call : FnolCall) : FnolReply × GateWorld :=
  match call.gateCall reader with
  | .error e => (.refused e, w)
  | .ok gate =>
    let (reply, w) := gate.runEvaluation settings w
    (.evaluated reply, w)

/-! ## Payments that belong to their requests -/

/-- The instruction is about what the call asks for. -/
structure Belongs (p : PaymentInstruction) (payment : PaymentCall) : Prop where
  claimId : p.claimId = payment.claimId
  amount : p.amount.value = payment.amount.value
  currency : p.currency = payment.currency
  payeeId : p.payeeId = payment.payeeId

namespace GateCall

variable (settings : GateSettings) (call : GateCall)

/-- A row that the call finds under its key is about what the call asks for. -/
def StoredBelongs (payment : PaymentCall) (w : GateWorld) : Prop :=
  ∀ row, getPayment settings.store call.read w.payments payment.idempotencyKey = some (some row) →
    Belongs row payment

/-- The instruction that `submit_payment` returns is about what the call asks for, and a key that
was used for something else is rejected. -/
structure ReplyBelongs (payment : PaymentCall) (w : GateWorld) : Prop where
  returned : ∀ p, (call.submitPayment settings payment w).1 = some p → Belongs p payment
  rejected : ∀ row,
    getPayment settings.store call.read w.payments payment.idempotencyKey = some (some row) →
    ¬ Belongs row payment → (call.submitPayment settings payment w).1 = none

/-- The call of `submit_payment` that an evaluation comes to, and the state that it finds. -/
def submitted (w : GateWorld) : Option (PaymentCall × GateWorld) :=
  match call.evaluated settings with
  | none => none
  | some (amount, result) =>
    match call.governs settings amount result w with
    | (.error _, _) => none
    | (.ok crystalId, spine) =>
      if Ledger.truthy call.payout.request.idempotencyKey then
        some (call.payment result crystalId, { w with spine := spine })
      else none

end GateCall

/-- A notification comes to `submit_payment` with what it says, and gets back an instruction about
that. -/
def WebhookBelongs (settings : GateSettings) (reader : FnolReader) (w : GateWorld)
    (n : FnolCall) : Prop :=
  ∀ fnol gate payment w', n.normalized reader = .ok fnol → n.gateCall reader = .ok gate →
    gate.submitted settings w = some (payment, w') →
    (payment.claimId = fnol.claimId ∧ payment.currency = fnol.currency ∧
      payment.payeeId = fnol.claimantId) ∧ gate.ReplyBelongs settings payment w'

/-- A row under the key of the notification is about what the notification asks for. -/
def WebhookStored (settings : GateSettings) (reader : FnolReader) (w : GateWorld)
    (n : FnolCall) : Prop :=
  ∀ gate payment w', n.gateCall reader = .ok gate →
    gate.submitted settings w = some (payment, w') → gate.StoredBelongs settings payment w

/-- Notifications of different claims are paid under different keys. -/
def KeysApart (reader : FnolReader) (n n' : FnolCall) : Prop :=
  ∀ gate gate', n.gateCall reader = .ok gate → n'.gateCall reader = .ok gate' →
    gate.payout.request.claimId ≠ gate'.payout.request.claimId →
    gate.payout.request.idempotencyKey ≠ gate'.payout.request.idempotencyKey

/-- Notifications of one vendor with the same identifier are about the same claim. -/
def IdentifiersApart (reader : FnolReader) (n n' : FnolCall) : Prop :=
  ∀ fnol fnol', n.normalized reader = .ok fnol → n'.normalized reader = .ok fnol' →
    fnol.request.isSome → fnol'.request.isSome → fnol.vendor = fnol'.vendor →
    fnol.rawVendorId = fnol'.rawVendorId → fnol.claimId = fnol'.claimId

section Replies

variable {settings : GateSettings} {reader : FnolReader} {call : GateCall} {w : GateWorld}
  {payment : PaymentCall} {n n' : FnolCall}

theorem PaymentInstruction.settle_belongs {p : PaymentInstruction} (h : Belongs p payment)
    (result : Except String RailDispatchResult) : Belongs (p.settle result) payment := by
  cases result with
  | ok result => exact ⟨h.claimId, h.amount, h.currency, h.payeeId⟩
  | error exn => exact ⟨h.claimId, h.amount, h.currency, h.payeeId⟩

theorem PaymentCall.instruction_belongs (mode : String) (payment : PaymentCall) :
    Belongs (payment.instruction mode) payment := by
  unfold PaymentCall.instruction
  split_ifs <;> exact ⟨rfl, rfl, rfl, rfl⟩

/-- A stored row is returned as it is. -/
theorem GateCall.submitPayment_stored {row : PaymentInstruction}
    (h : getPayment settings.store call.read w.payments payment.idempotencyKey =
      some (some row)) : (call.submitPayment settings payment w).1 = some row := by
  simp only [GateCall.submitPayment, h]

/-- What is returned was stored, or is about what the call asks for. -/
theorem GateCall.submitPayment_returned {p : PaymentInstruction}
    (h : (call.submitPayment settings payment w).1 = some p) :
    getPayment settings.store call.read w.payments payment.idempotencyKey = some (some p) ∨
      Belongs p payment := by
  unfold GateCall.submitPayment at h
  split at h
  · cases h
  · next row hget =>
    obtain rfl := Option.some.inj h
    exact Or.inl hget
  · right
    have hnew := payment.instruction_belongs settings.railMode
    simp only at h
    split at h
    · cases h
    · obtain rfl := Option.some.inj h
      split_ifs
      · exact PaymentInstruction.settle_belongs hnew _
      · exact hnew

theorem GateCall.replyBelongs_iff :
    call.ReplyBelongs settings payment w ↔ call.StoredBelongs settings payment w := by
  constructor
  · intro h row hrow
    exact h.returned row (GateCall.submitPayment_stored hrow)
  · intro h
    refine ⟨fun p hp => ?_, fun row hrow hother => absurd (h row hrow) hother⟩
    rcases GateCall.submitPayment_returned hp with hstored | hbelongs
    · exact h p hstored
    · exact hbelongs

/-- The evaluation of a notification is that of its request. -/
theorem FnolCall.gateCall_eq_ok {gate : GateCall} (h : n.gateCall reader = .ok gate) :
    ∃ fnol, n.normalized reader = .ok fnol ∧ fnol.request = some gate.payout.request := by
  unfold FnolCall.gateCall at h
  cases hn : n.normalized reader with
  | error e =>
    rw [hn] at h
    cases h
  | ok fnol =>
    rw [hn] at h
    cases hrequest : fnol.request with
    | none =>
      simp only [hrequest, bind, Except.bind] at h
      cases h
    | some request =>
      simp only [hrequest, bind, Except.bind] at h
      obtain rfl := Except.ok.inj h
      exact ⟨fnol, rfl, hrequest⟩

theorem FnolCall.gateCall_of_request {fnol : NormalizedFnol} {request : PayoutRequest}
    (hn : n.normalized reader = .ok fnol) (hrequest : fnol.request = some request) :
    ∃ gate, n.gateCall reader = .ok gate ∧ gate.payout.request = request := by
  simp only [FnolCall.gateCall, hn, hrequest, bind, Except.bind]
  exact ⟨_, rfl, rfl⟩

theorem NormalizedFnol.request_fields {fnol : NormalizedFnol} {request : PayoutRequest}
    (h : fnol.request = some request) :
    request.claimId = fnol.claimId ∧ request.currency = fnol.currency ∧
      request.payeeId = fnol.claimantId ∧ request.idempotencyKey = some fnol.idempotencyKey := by
  obtain ⟨signals, -, rfl⟩ := Option.map_eq_some_iff.mp h
  exact ⟨rfl, rfl, rfl, rfl⟩

/-- What `submit_payment` is called with, and the store that it finds. -/
theorem GateCall.submitted_eq_some {w' : GateWorld}
    (h : call.submitted settings w = some (payment, w')) :
    payment.claimId = call.payout.request.claimId ∧
      payment.currency = call.payout.request.currency ∧
      payment.payeeId = call.payout.request.payeeId ∧ w'.payments = w.payments := by
  unfold GateCall.submitted at h
  split at h
  · cases h
  · split at h
    · cases h
    · split_ifs at h
      obtain ⟨rfl, rfl⟩ := Prod.mk.inj (Option.some.inj h)
      exact ⟨rfl, rfl, rfl, rfl⟩

/-- The payment of an evaluation is the one that `submit_payment` makes. -/
theorem GateCall.evaluate_submitted {w' : GateWorld}
    (h : call.submitted settings w = some (payment, w')) :
    call.evaluate settings w = (call.submitPayment settings payment w').2 := by
  unfold GateCall.submitted at h
  split at h
  · cases h
  · next amount result hevaluated =>
    rw [GateCall.evaluate_of_some hevaluated]
    split at h
    · cases h
    · next crystalId spine hgoverns =>
      split_ifs at h with hkeyed
      obtain ⟨rfl, rfl⟩ := Prod.mk.inj (Option.some.inj h)
      simp only [GateCall.govern, hgoverns, GateCall.pay, hkeyed, if_true]

theorem webhookBelongs_iff :
    WebhookBelongs settings reader w n ↔ WebhookStored settings reader w n := by
  constructor
  · intro h gate payment w' hgate hsubmitted
    obtain ⟨fnol, hn, -⟩ := FnolCall.gateCall_eq_ok hgate
    have hstored := GateCall.replyBelongs_iff.mp (h fnol gate payment w' hn hgate hsubmitted).2
    rwa [GateCall.StoredBelongs, (GateCall.submitted_eq_some hsubmitted).2.2.2] at hstored
  · intro h fnol gate payment w' hn hgate hsubmitted
    obtain ⟨fnol', hn', hrequest⟩ := FnolCall.gateCall_eq_ok hgate
    obtain rfl := Except.ok.inj (hn.symm.trans hn')
    obtain ⟨hclaim, hcurrency, hpayee, -⟩ := NormalizedFnol.request_fields hrequest
    obtain ⟨hclaim', hcurrency', hpayee', hpayments⟩ := GateCall.submitted_eq_some hsubmitted
    refine ⟨⟨hclaim'.trans hclaim, hcurrency'.trans hcurrency, hpayee'.trans hpayee⟩, ?_⟩
    rw [GateCall.replyBelongs_iff, GateCall.StoredBelongs, hpayments]
    exact h gate payment w' hgate hsubmitted

/-- The text before the first hyphen and the text after it. -/
theorem hyphen_inj {v v' r r' : List Char} (hv : '-' ∉ v) (hv' : '-' ∉ v')
    (h : v ++ '-' :: r = v' ++ '-' :: r') : v = v' ∧ r = r' := by
  have htake : ∀ (u t : List Char), '-' ∉ u → (u ++ '-' :: t).takeWhile (· ≠ '-') = u := by
    intro u t hu
    rw [List.takeWhile_append_of_pos]
    · simp
    · intro c hc
      simpa using fun heq : c = '-' => hu (heq ▸ hc)
  have heq : v = v' := by rw [← htake v r hv, h, htake v' r' hv']
  subst heq
  exact ⟨rfl, (List.cons.inj (List.append_cancel_left h)).2⟩

theorem FnolShape.read_vendor {shape : FnolShape} {today : Int} {payload : Fields}
    {fnol : NormalizedFnol} (h : shape.read reader today payload = .ok fnol) :
    fnol.vendor = shape.vendor := by
  unfold FnolShape.read at h
  simp only [bind, Except.bind, pure, Except.pure, throw, throwThe, MonadExceptOf.throw] at h
  repeat' split at h
  all_goals cases h
  all_goals rfl

/-- A vendor that is normalized has no hyphen in its name. -/
theorem FnolCall.vendor_no_hyphen {fnol : NormalizedFnol} (h : n.normalized reader = .ok fnol) :
    '-' ∉ fnol.vendor.toList := by
  have hnames : ∀ shape ∈ fnolAdapters, '-' ∉ shape.vendor.toList := by
    simp only [fnolAdapters, List.forall_mem_cons]
    decide
  unfold FnolCall.normalized normalizeFnol at h
  split at h
  · cases h
  · next shape hshape =>
    rw [FnolShape.read_vendor h]
    exact hnames shape (List.mem_of_find?_eq_some hshape)

/-- Two notifications have the same key exactly when they have the vendor and its identifier in
common. -/
theorem idempotencyKey_inj {fnol fnol' : NormalizedFnol} (h : n.normalized reader = .ok fnol)
    (h' : n'.normalized reader = .ok fnol') :
    fnol.idempotencyKey = fnol'.idempotencyKey ↔
      fnol.vendor = fnol'.vendor ∧ fnol.rawVendorId = fnol'.rawVendorId := by
  constructor
  · intro hkey
    have hchars := congrArg String.toList hkey
    simp only [NormalizedFnol.idempotencyKey, String.toList_append, List.append_assoc] at hchars
    obtain ⟨hvendor, hraw⟩ := hyphen_inj (FnolCall.vendor_no_hyphen h)
      (FnolCall.vendor_no_hyphen h') (List.append_cancel_left hchars)
    exact ⟨String.toList_inj.mp hvendor, String.toList_inj.mp hraw⟩
  · rintro ⟨hvendor, hraw⟩
    rw [NormalizedFnol.idempotencyKey, NormalizedFnol.idempotencyKey, hvendor, hraw]

theorem keysApart_iff : KeysApart reader n n' ↔ IdentifiersApart reader n n' := by
  constructor
  · intro h fnol fnol' hn hn' hsome hsome' hvendor hraw
    obtain ⟨request, hrequest⟩ := Option.isSome_iff_exists.mp hsome
    obtain ⟨request', hrequest'⟩ := Option.isSome_iff_exists.mp hsome'
    obtain ⟨gate, hgate, rfl⟩ := FnolCall.gateCall_of_request hn hrequest
    obtain ⟨gate', hgate', rfl⟩ := FnolCall.gateCall_of_request hn' hrequest'
    obtain ⟨hclaim, -, -, hkey⟩ := NormalizedFnol.request_fields hrequest
    obtain ⟨hclaim', -, -, hkey'⟩ := NormalizedFnol.request_fields hrequest'
    have hsame := (idempotencyKey_inj hn hn').mpr ⟨hvendor, hraw⟩
    by_contra hne
    refine h gate gate' hgate hgate' ?_ ?_
    · rwa [hclaim, hclaim']
    · rw [hkey, hkey', hsame]
  · intro h gate gate' hgate hgate' hne hsame
    obtain ⟨fnol, hn, hrequest⟩ := FnolCall.gateCall_eq_ok hgate
    obtain ⟨fnol', hn', hrequest'⟩ := FnolCall.gateCall_eq_ok hgate'
    obtain ⟨hclaim, -, -, hkey⟩ := NormalizedFnol.request_fields hrequest
    obtain ⟨hclaim', -, -, hkey'⟩ := NormalizedFnol.request_fields hrequest'
    rw [hkey, hkey', Option.some.injEq, idempotencyKey_inj hn hn'] at hsame
    refine hne ?_
    rw [hclaim, hclaim']
    exact h fnol fnol' hn hn' (by rw [hrequest]; rfl) (by rw [hrequest']; rfl) hsame.1 hsame.2

end Replies

/-- A payment belongs to its request exactly when the row that is found under its key, if there is
one, is about the same claim, amount, currency and payee, also for a notification; and two
notifications of different claims have different keys exactly when they do not have the vendor and
its identifier in common. -/
theorem replies_belong_iff (settings : GateSettings) (reader : FnolReader) (w : GateWorld)
    (call : GateCall) (payment : PaymentCall) (n n' : FnolCall) :
    (call.ReplyBelongs settings payment w ↔ call.StoredBelongs settings payment w) ∧
    (WebhookBelongs settings reader w n ↔ WebhookStored settings reader w n) ∧
    (KeysApart reader n n' ↔ IdentifiersApart reader n n') :=
  ⟨GateCall.replyBelongs_iff, webhookBelongs_iff, keysApart_iff⟩

/-! ## Two losses of one vendor -/

/-- Surroundings that read the amount and the date of the sample's notifications. -/
def noticeReader : FnolReader where
  decimal text := if text = "1500.00" then some (.finite ⟨150000, -2⟩) else none
  date text := if text = "2025-06-01" then .ok 739403 else .error "Invalid isoformat string"
  repr _ := ""

/-- A notification of Majesco without an `eventId`. -/
def lossNotice (claimRef insuredId siuId paymentId : String) : FnolCall where
  vendor := "majesco"
  payload := [("claimEvent", .obj [("claimRef", .str claimRef), ("insuredId", .str insuredId),
    ("policyRef", .str "POL-AUTO-001"), ("incidentDate", .str "2025-06-01"),
    ("estimatedLoss", .str "1500.00")])]
  today := 739403
  siuId := siuId
  crystallize := promptExchange 0
  commit := promptExchange 1
  read := .opened
  paymentId := paymentId
  bank := .error "timeout"
  write := .opened

def firstLoss : FnolCall := lossNotice "CLM-1" "INS-1" "000000000001" "pay_1"

def secondLoss : FnolCall := lossNotice "CLM-2" "INS-2" "000000000002" "pay_2"

/-- The state after the first notification. -/
def afterFirstLoss : GateWorld := (fnolWebhook gateSettings noticeReader gateWorld firstLoss).2

theorem exists_of_toOption_map {ε α β : Type} {e : Except ε α} {f : α → β} {b : β}
    (h : e.toOption.map f = some b) : ∃ a, e = .ok a ∧ f a = b := by
  cases e with
  | error e => cases h
  | ok a => exact ⟨a, rfl, Option.some.inj h⟩

/-- The second claim has the key of the first, and gets its payment back. -/
theorem second_claim_gets_first_payment :
    ¬ WebhookBelongs gateSettings noticeReader afterFirstLoss secondLoss ∧
      ¬ KeysApart noticeReader firstLoss secondLoss := by
  obtain ⟨gate, hgate, hrequest⟩ := exists_of_toOption_map (e := firstLoss.gateCall noticeReader)
    (f := fun gate => (gate.payout.request.claimId, gate.payout.request.idempotencyKey))
    (b := ("CLM-1", some "fnol-majesco-")) (by decide +kernel)
  obtain ⟨gate', hgate', hsecond⟩ :=
    exists_of_toOption_map (e := secondLoss.gateCall noticeReader)
    (f := fun gate => ((gate.payout.request.claimId, gate.payout.request.idempotencyKey),
      (gate.submitted gateSettings afterFirstLoss).map fun s => (s.1.claimId,
        (gate.submitPayment gateSettings s.1 s.2).1.map PaymentInstruction.claimId)))
    (b := (("CLM-2", some "fnol-majesco-"), some ("CLM-2", some "CLM-1"))) (by decide +kernel)
  obtain ⟨hclaim, hkey⟩ := Prod.mk.inj hrequest
  obtain ⟨hrequest', hreturned⟩ := Prod.mk.inj hsecond
  obtain ⟨hclaim', hkey'⟩ := Prod.mk.inj hrequest'
  constructor
  · intro h
    obtain ⟨⟨payment, w⟩, hsubmitted, hanswer⟩ := Option.map_eq_some_iff.mp hreturned
    obtain ⟨hasked, hanswer⟩ := Prod.mk.inj hanswer
    obtain ⟨p, hp, hpaid⟩ := Option.map_eq_some_iff.mp hanswer
    obtain ⟨fnol, hn, -⟩ := FnolCall.gateCall_eq_ok hgate'
    have hbelongs := (h fnol gate' payment w hn hgate' hsubmitted).2.returned p hp
    have hclaims := hpaid.symm.trans (hbelongs.claimId.trans hasked)
    revert hclaims
    decide
  · intro h
    refine h gate gate' hgate hgate' ?_ (hkey.trans hkey'.symm)
    rw [hclaim, hclaim']
    decide

end Governor.Sector
