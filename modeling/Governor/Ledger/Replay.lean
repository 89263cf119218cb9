import Mathlib
import Governor.Core.JsonInjective
import Governor.Ledger.Idempotency

/-!
# What a replayed reserve is compared by

A reserve whose key is stored is answered from its row if the fingerprints agree. The fingerprint
covers the user, the trace, the model, the cost and the cap; the row holds the execution identity
and the policy version as well, which the fingerprint leaves out.
-/

namespace Governor.Ledger

variable {d : Deployment} {w : LedgerWorld} {original request : ReserveRequest} {r : EscrowRow}

/-! ## The request behind a row -/

/-- The columns that a reserve sets and no later transaction changes. -/
structure ReservedBy (d : Deployment) (original : ReserveRequest) (r : EscrowRow) : Prop where
  idempotencyKey : r.idempotencyKey = original.idempotencyKey
  userId : r.userId = original.userId
  traceId : r.traceId = original.traceId
  model : r.model = original.model
  requestFingerprint : r.requestFingerprint = fingerprintReserveRequest d original
  identity : r.identity = reservedIdentity d original
  policyVersion : r.policyVersion = (reservedIdentity d original).map fun _ => original.policyVersion
  reservedAmount : r.reservedAmount = quantizeMoney original.estimatedCost

theorem reservedBy_new (settings : Settings) (clock : Clock) (request : ReserveRequest) :
    ReservedBy d request (reserveChange d settings clock request).new :=
  ⟨rfl, rfl, rfl, rfl, rfl, rfl, rfl, rfl⟩

theorem ReservedBy.settled (h : ReservedBy d original r) (clock : Clock)
    (request : SettleRequest) : ReservedBy d original (settledRow clock r request) :=
  ⟨h.1, h.2, h.3, h.4, h.5, h.6, h.7, h.8⟩

theorem ReservedBy.record (h : ReservedBy d original r) (request : SettleRequest)
    (now : Timestamp) : ReservedBy d original (r.record request now) :=
  ⟨h.1, h.2, h.3, h.4, h.5, h.6, h.7, h.8⟩

theorem ReservedBy.swept (h : ReservedBy d original r) (db : Database) (clock : Clock) :
    ReservedBy d original (sweepChange db clock r).new := by
  unfold sweepChange
  split_ifs <;> exact ⟨h.1, h.2, h.3, h.4, h.5, h.6, h.7, h.8⟩

/-- Every stored row was reserved by a request of the run. -/
def Requested (d : Deployment) (actions : List Action) (db : Database) : Prop :=
  ∀ key r, db.escrowLedger.find? key = some r →
    ∃ original, (∃ a ∈ actions, a.reserves = some original) ∧ ReservedBy d original r

theorem Requested.put {actions : List Action} {db db' : Database} {row : EscrowRow}
    (h : Requested d actions db)
    (hrow : ∃ original, (∃ a ∈ actions, a.reserves = some original) ∧ ReservedBy d original row)
    (hdb' : db'.escrowLedger = db.escrowLedger.put row) : Requested d actions db' := by
  intro key r hr
  rw [hdb', Table.find?_put] at hr
  split_ifs at hr
  · exact Option.some.inj hr ▸ hrow
  · exact h key r hr

theorem step_requested {actions : List Action} {a : Action} (ha : a ∈ actions) (hw : Sound w)
    (h : Requested d actions w.tables) : Requested d actions (step d w a).tables := by
  have hcommitted := (body_committed (d := d) hw a).1
  generalize hafter : (step d w a).tables = after at hcommitted
  generalize respond d w a = response at hcommitted
  cases hcommitted with
  | raised _ hidle =>
    intro key r hr
    rw [hidle.escrowLedger] at hr
    exact h key r hr
  | replayed => exact h
  | reserved hreserve hmove =>
    refine h.put ⟨_, ⟨a, ha, ?_⟩, reservedBy_new _ _ _⟩ hmove.new
    rcases hreserve with rfl | rfl <;> rfl
  | settled hsettle =>
    cases hsettle with
    | replayed => exact h
    | settled hload _ _ _ hmove =>
      obtain ⟨original, hran, ho⟩ := h _ _ (find?_of_loadOperationForUpdate hload)
      exact h.put ⟨original, hran, ho.settled _ _⟩ hmove.new
    | recorded hload _ hmove =>
      obtain ⟨original, hran, ho⟩ := h _ _ (find?_of_loadOperationForUpdate hload)
      exact h.put ⟨original, hran, ho.record _ _⟩ hmove.new
  | @swept clock plan batchSize =>
    intro key r hr
    obtain ⟨hclaimed, hothers⟩ := sweep_find? (d := d) hw clock plan batchSize
    rw [hafter] at hclaimed hothers
    by_cases hkey : ∃ o ∈ sweepBatch w.tables clock plan batchSize, o.idempotencyKey = key
    · obtain ⟨o, ho, rfl⟩ := hkey
      obtain rfl := Option.some.inj ((hclaimed o ho).symm.trans hr)
      obtain ⟨original, hran, hby⟩ := h _ o (Table.find?_of_mem (mem_sweepBatch ho).1)
      exact ⟨original, hran, hby.swept _ _⟩
    · rw [hothers key fun o ho he => hkey ⟨o, ho, he⟩] at hr
      exact h key r hr

theorem run_requested (hops : NoOperations w) (actions : List Action) :
    Requested d actions (run d w actions).tables := by
  have hstart : Sound w ∧ Requested d actions w.tables := by
    refine ⟨hops.sound, fun key r hr => ?_⟩
    have hmem := Table.mem_of_find? hr
    rw [hops.escrowLedger] at hmem
    cases hmem
  have hkept : ∀ as ⊆ actions, ∀ w, Sound w ∧ Requested d actions w.tables →
      Sound (run d w as) ∧ Requested d actions (run d w as).tables := by
    intro as has
    induction as with
    | nil => exact fun w hw => hw
    | cons a as ih =>
      obtain ⟨ha, has⟩ := List.cons_subset.mp has
      exact fun w hw => ih has _ ⟨step_sound hw.1 a, step_requested ha hw.1 hw.2⟩
  exact (hkept actions (List.Subset.refl _) w hstart).2

/-! ## Fingerprints -/

/-- The cap of a request as its fingerprint has it. -/
def capText (cap : Option Money) : Json := cap.elim .null fun c => .str (decimalStr c)

/-- The text that a request's fingerprint hashes. -/
def fingerprintText (request : ReserveRequest) : String :=
  Json.dumps Json.spaced (.obj [
    ("estimated_cost", .str (decimalStr (quantizeMoney request.estimatedCost))),
    ("model", .str request.model),
    ("trace_cap", capText (request.traceCap.map quantizeMoney)),
    ("trace_id", .str request.traceId),
    ("user_id", .str request.userId)])

theorem fingerprintReserveRequest_eq (d : Deployment) (request : ReserveRequest) :
    fingerprintReserveRequest d request = d.sha256 (fingerprintText request) := by
  unfold fingerprintReserveRequest fingerprintText
  cases request.traceCap <;> rfl

theorem same_capText {cap cap' : Option Money} (h : Json.Same (capText cap) (capText cap')) :
    cap = cap' := by
  cases cap with
  | none =>
    cases cap' with
    | none => rfl
    | some m => simp [Json.Same, Json.sortKeys, capText] at h
  | some m =>
    cases cap' with
    | none => simp [Json.Same, Json.sortKeys, capText] at h
    | some m' => exact congrArg some (decimalStr_injective (Json.same_str.mp h))

/-- The two requests have one fingerprint only if they have one text. -/
def FingerprintsApart (d : Deployment) (original request : ReserveRequest) : Prop :=
  d.sha256 (fingerprintText original) = d.sha256 (fingerprintText request) →
    fingerprintText original = fingerprintText request

/-- The requests agree in the user, the trace, the model, the cost and the cap. -/
structure SameTerms (original request : ReserveRequest) : Prop where
  userId : request.userId = original.userId
  traceId : request.traceId = original.traceId
  model : request.model = original.model
  estimatedCost : quantizeMoney request.estimatedCost = quantizeMoney original.estimatedCost
  traceCap : request.traceCap.map quantizeMoney = original.traceCap.map quantizeMoney

theorem fingerprintText_eq_iff :
    fingerprintText original = fingerprintText request ↔ SameTerms original request := by
  constructor
  · intro h
    have hkeys : ["estimated_cost", "model", "trace_cap", "trace_id", "user_id"].Nodup := by
      decide
    have hvalue := fun k v u =>
      ((Json.dumps_eq_iff _ _ _).mp h).value hkeys (k := k) (v := v) (w := u)
    have hcost : decimalStr (quantizeMoney original.estimatedCost) =
        decimalStr (quantizeMoney request.estimatedCost) :=
      Json.same_str.mp (hvalue "estimated_cost" _ _ (by simp) (by simp))
    exact {
      userId := (Json.same_str.mp (hvalue "user_id" _ _ (by simp) (by simp))).symm
      traceId := (Json.same_str.mp (hvalue "trace_id" _ _ (by simp) (by simp))).symm
      model := (Json.same_str.mp (hvalue "model" _ _ (by simp) (by simp))).symm
      estimatedCost := (decimalStr_injective hcost).symm
      traceCap := (same_capText (hvalue "trace_cap" _ _ (by simp) (by simp))).symm }
  · rintro ⟨huser, htrace, hmodel, hcost, hcap⟩
    rw [fingerprintText, fingerprintText, huser, htrace, hmodel, hcost, hcap]

theorem fingerprint_eq_iff (hapart : FingerprintsApart d original request) :
    fingerprintReserveRequest d original = fingerprintReserveRequest d request ↔
      SameTerms original request := by
  rw [fingerprintReserveRequest_eq, fingerprintReserveRequest_eq, ← fingerprintText_eq_iff]
  exact ⟨hapart, fun he => by rw [he]⟩

/-! ## Replays -/

/-- The execution identity and the policy version of a request are those that the row holds. -/
structure SameIdentity (request : ReserveRequest) (r : EscrowRow) : Prop where
  identity : ∀ i ∈ r.identity, identityFromReserve request = i
  policyVersion : ∀ v ∈ r.policyVersion, request.policyVersion = v

/-- A replayed reserve is answered only if it is the stored one in all that is governed, and
raises a conflict otherwise. -/
structure BindsIdentity (original : ReserveRequest) (r : EscrowRow) (request : ReserveRequest)
    (response : Except Exn Response) : Prop where
  replay : ∀ result, response = .ok result → SameTerms original request ∧ SameIdentity request r
  conflict : ¬ (SameTerms original request ∧ SameIdentity request r) →
    ∃ m, response = .error (.conflictError m)

/-- The sample reserve, repeated by another run under another policy version. -/
def sampleOtherRun : ReserveRequest :=
  { sampleReserve with agentRunId := some "run-2", policyVersion := "v2" }

/-- The reserve of the sample. -/
def sampleReserved : List Action :=
  [.reserve Settings.default (sampleClock 0) .closed sampleReserve]

end Governor.Ledger
