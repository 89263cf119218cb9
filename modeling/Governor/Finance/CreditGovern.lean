import Mathlib
import Governor.Finance.AlgoFreeze

/-!
# CreditGovern and its crystals

`POST /credit/evaluate` opens a crystal that reserves the exposure, asks the inference rail for
a score and commits the crystal with the facets of the decision. The facets at the commit carry
three more keys than those at the crystallize, so their fingerprints differ; and when the rail's
circuit is open the crystal is not touched. Only an exception of another kind closes it.
-/

namespace Governor.Finance

open Ledger (Clock Decimal Money)

/-! ## The platform -/

/-- `CreditRequest`; the validator has read `exposure_amount` as a decimal. -/
structure CreditRequest where
  applicationId : String
  exposureAmount : String
  exposure : Decimal
  modelVersionId : String
  deskId : String
  featureSnapshotHash : String

/-- `RailOutcome`. -/
structure RailOutcome where
  decision : String
  score : PyFloat
  explanationId : String

/-- What the inference rail does with an application. -/
inductive RailResult where
  | scored (outcome : RailOutcome)
  /-- `RailCircuitOpenError`. -/
  | circuitOpen
  /-- Any other exception. -/
  | raised (message : String)

/-- A row of `credit_evaluations`. -/
structure CreditEvaluation where
  applicationId : String
  decision : String
  exposureAmount : String
  modelVersionId : String
  deskId : String
  score : PyFloat
  explanationId : String
  crystalId : Option String

/-- `0.0`. -/
def zeroScore : PyFloat := ⟨"0.0".toList, Eq.refl true⟩

/-- `EvaluateResponse`. -/
structure EvaluateResponse where
  applicationId : String
  decision : String
  score : PyFloat
  explanationId : String
  crystalId : Option String
  reason : Option String

/-- How `evaluate` raises. -/
inductive EvaluateError where
  /-- 409, `INSUFFICIENT_EXPOSURE`. -/
  | insufficientExposure
  /-- 503, `RAIL_CIRCUIT_OPEN`. -/
  | railCircuitOpen
  /-- 503, `spine commit failed`. -/
  | spineCommitFailed (exn : AdapterError)
  /-- The rail's exception, raised again. -/
  | railError (message : String)

/-- `_APPROVED_MODELS`. -/
def approvedModels : List String := ["credit-model-v3", "credit-model-v4"]

/-- The facets at the crystallize. -/
def CreditRequest.facets (req : CreditRequest) : Facets :=
  [("application_id", .str req.applicationId), ("exposure_amount", .str req.exposureAmount),
    ("model_version_id", .str req.modelVersionId), ("desk_id", .str req.deskId)]

/-- The facets at the commit. -/
def CreditRequest.commitFacets (req : CreditRequest) (outcome : RailOutcome) : Facets :=
  req.facets ++ [("feature_snapshot_hash", .str req.featureSnapshotHash),
    ("score", .float outcome.score), ("explanation_id", .str outcome.explanationId)]

/-- The request that reserves the exposure. -/
def CreditRequest.crystallize (req : CreditRequest) : CrystallizeRequest where
  platform := creditGovernConfig.name
  operationId := req.applicationId
  accountId := req.deskId
  riskTier := creditGovernConfig.defaultRiskTier
  facets := req.facets
  policyId := creditGovernConfig.defaultPolicyId
  reservedExposure := req.exposure
  parentCrystalId := none

/-- `str(exposure) if outcome.decision == "APPROVE" else "0"`, as the sidecar reads it. -/
def CreditRequest.committed (req : CreditRequest) (outcome : RailOutcome) : Decimal :=
  if outcome.decision = "APPROVE" then req.exposure else ⟨0, 0⟩

/-- The request that commits the decision. -/
def CreditRequest.commit (req : CreditRequest) (outcome : RailOutcome) (crystalId : String) :
    CommitRequest where
  crystalId := crystalId
  facets := req.commitFacets outcome
  committedExposure := req.committed outcome
  outcome := String.ofList (outcome.decision.toList.map Char.toLower)
  lateAuthority := false

/-- The platform's rows and the spine. -/
structure CreditWorld where
  evaluations : Table CreditEvaluation.applicationId
  spine : FinanceWorld

/-- One call of `evaluate` in spine mode: what the rail does, and what becomes of the requests
to the spine. -/
structure EvaluateCall where
  request : CreditRequest
  rail : RailResult
  crystallize : List Attempt
  commit : List Attempt
  strand : List Attempt

/-- The part of `evaluate` after the rail has scored the application. -/
def commitDecision (d : Deployment) (call : EvaluateCall) (crystalId : String)
    (outcome : RailOutcome) (w : CreditWorld) :
    Except EvaluateError EvaluateResponse × CreditWorld :=
  let req := call.request
  match spineCommit d (req.commit outcome crystalId) call.commit w.spine with
  | (.error exn, spine) => (.error (.spineCommitFailed exn), ⟨w.evaluations, spine⟩)
  | (.ok (), spine) =>
    (.ok ⟨req.applicationId, outcome.decision, outcome.score, outcome.explanationId,
        some crystalId, if outcome.decision ≠ "BLOCKED" then none else some "RAIL_BLOCKED"⟩,
      ⟨w.evaluations.insertIfAbsent ⟨req.applicationId, outcome.decision, req.exposureAmount,
        req.modelVersionId, req.deskId, outcome.score, outcome.explanationId, some crystalId⟩,
        spine⟩)

/-- The part of `evaluate` after the crystal was opened. -/
def scoreWithRail (d : Deployment) (call : EvaluateCall) (crystalId : String) (w : CreditWorld) :
    Except EvaluateError EvaluateResponse × CreditWorld :=
  match call.rail with
  | .scored outcome => commitDecision d call crystalId outcome w
  | .circuitOpen => (.error .railCircuitOpen, w)
  | .raised message =>
    (.error (.railError message), ⟨w.evaluations,
      (spineStrand d ⟨crystalId, "strand", message⟩ call.strand w.spine).2⟩)

/-- `evaluate` in spine mode. -/
def evaluate (d : Deployment) (call : EvaluateCall) (w : CreditWorld) :
    Except EvaluateError EvaluateResponse × CreditWorld :=
  let req := call.request
  if req.modelVersionId ∉ approvedModels then
    (.ok ⟨req.applicationId, "BLOCKED", zeroScore, "", none, some "MODEL_VERSION_MISMATCH"⟩, w)
  else
    match spineCrystallize d req.crystallize call.crystallize w.spine with
    | (.error _, spine) => (.error .insufficientExposure, ⟨w.evaluations, spine⟩)
    | (.ok crystalId, spine) => scoreWithRail d call crystalId ⟨w.evaluations, spine⟩

/-! ## Which crystals are closed -/

/-- A crystal that is stranded, or committed with the facets and the exposure of the decision. -/
def SettledRow (d : Deployment) (call : EvaluateCall) (c : CrystalRow) (e : EscrowRow) : Prop :=
  c.terminalState = some .stranded ∨
    c.terminalState = some .committed ∧ ∀ outcome, call.rail = .scored outcome →
      verifyCommitFingerprint d c (call.request.commitFacets outcome) = true ∧
        e.committedExposure = quantizeMoney (call.request.committed outcome)

/-- The crystal of the call is settled. -/
def Settled (d : Deployment) (call : EvaluateCall) (crystalId : String) (db : Database) : Prop :=
  ∃ c e, crystalJoin db crystalId = some (c, e) ∧ SettledRow d call c e

/-- The spine stays reachable after the crystallize. -/
structure StaysReachable (call : EvaluateCall) : Prop where
  commit : call.commit ≠ [] ∧ ∀ t ∈ call.commit, Reachable t
  strand : call.strand ≠ [] ∧ ∀ t ∈ call.strand, Reachable t

/-- The texts of the two sets of facets of a decision have different digests, as they are
different texts. -/
def DigestsDiffer (d : Deployment) (req : CreditRequest) : Prop :=
  ∀ outcome, d.sha256 (fingerprintPayload "credit_govern" req.applicationId req.facets) =
      d.sha256 (fingerprintPayload "credit_govern" req.applicationId (req.commitFacets outcome)) →
    fingerprintPayload "credit_govern" req.applicationId req.facets =
      fingerprintPayload "credit_govern" req.applicationId (req.commitFacets outcome)

/-- The facets at the commit have a key that those at the crystallize lack. -/
theorem commitFacets_payload_ne (req : CreditRequest) (outcome : RailOutcome) :
    fingerprintPayload "credit_govern" req.applicationId (req.commitFacets outcome) ≠
      fingerprintPayload "credit_govern" req.applicationId req.facets := by
  intro h
  have hscore : ("score", Json.float outcome.score) ∈ req.commitFacets outcome := by
    simp [CreditRequest.commitFacets]
  obtain ⟨v, hv, -⟩ := (fingerprintPayload_facets h).mem hscore
  simp [CreditRequest.facets] at hv

section Settles

variable {d : Deployment} {call : EvaluateCall} {crystalId : String}

theorem settled_iff_row {db : Database} {c : CrystalRow} {e : EscrowRow}
    (hjoin : crystalJoin db crystalId = some (c, e)) :
    Settled d call crystalId db ↔ SettledRow d call c e := by
  constructor
  · rintro ⟨c', e', hjoin', hrow⟩
    rw [hjoin] at hjoin'
    obtain ⟨rfl, rfl⟩ := Prod.mk.inj (Option.some.inj hjoin')
    exact hrow
  · intro hrow
    exact ⟨c, e, hjoin, hrow⟩

/-- A commit with other facets than the crystal's changes nothing. -/
theorem step_commit_mismatch {w : FinanceWorld} (hw : Sound w) (settings : Settings)
    (clock : Clock) {request : CommitRequest} {c : CrystalRow}
    (hfind : w.tables.governanceCrystals.find? request.crystalId = some c)
    (hmismatch : verifyCommitFingerprint d c request.facets = false) :
    (step d w (.commit settings clock request)).tables = w.tables := by
  have hcommit := commit_committed (d := d) hw settings clock request
  generalize respond d w (.commit settings clock request) = r at hcommit
  generalize (step d w (.commit settings clock request)).tables = db' at hcommit ⊢
  cases hcommit with
  | refused => rfl
  | replayed => rfl
  | committed hjoin haccepted _ =>
    have hfind' := (hw.agrees.join hjoin).1
    rw [hfind] at hfind'
    obtain rfl := Option.some.inj hfind'
    have hsame := decide_eq_true (commitRefusal_none haccepted)
    rw [verifyCommitFingerprint, hsame] at hmismatch
    cases hmismatch

/-- An open crystal is stranded by the first attempt that reaches the spine. -/
theorem spineStrand_settles {w : FinanceWorld} (hw : Sound w) {c : CrystalRow} {reason : String}
    (hfind : w.tables.governanceCrystals.find? crystalId = some c) (hopen : c.terminalState = none)
    {ts : List Attempt} (hts : ts ≠ [] ∧ ∀ t ∈ ts, Reachable t) :
    Settled d call crystalId
      (spineStrand d ⟨crystalId, "strand", reason⟩ ts w).2.tables := by
  obtain ⟨t, rest, rfl⟩ := List.exists_cons_of_ne_nil hts.1
  obtain ⟨e, hjoin⟩ := hw.agrees.join_of_find? hfind
  have hstrand := (body_committed (d := d) hw
    (.adjudicate t.clock ⟨crystalId, "strand", reason⟩)).1
  generalize hr : respond d w (.adjudicate t.clock ⟨crystalId, "strand", reason⟩) = r at hstrand
  generalize hdb : (step d w (.adjudicate t.clock ⟨crystalId, "strand", reason⟩)).tables = db'
    at hstrand
  cases hstrand with
  | adjudicate h =>
    cases h with
    | refused hclosings => simp [adjudicateClosings, hjoin, hopen] at hclosings
    | replayed hjoin' hterminal =>
      rw [hjoin] at hjoin'
      obtain ⟨rfl, rfl⟩ := Prod.mk.inj (Option.some.inj hjoin')
      exact absurd hopen hterminal
    | stranded _ hjoin' hcloses =>
      rw [spineStrand, readReply,
        requestWithRetry_reachable (hts.2 t List.mem_cons_self) hr, hdb]
      obtain ⟨-, hid, -⟩ := hw.agrees.join hjoin'
      have hclosed := hcloses.isClosed.join (hcloses.agrees hw.agrees)
      rw [CrystalRow.close_crystalId, hid] at hclosed
      exact ⟨_, _, hclosed, Or.inl rfl⟩

theorem commitDecision_spine (outcome : RailOutcome) (w : CreditWorld) :
    (commitDecision d call crystalId outcome w).2.spine =
      (spineCommit d (call.request.commit outcome crystalId) call.commit w.spine).2 := by
  simp only [commitDecision]
  generalize spineCommit d (call.request.commit outcome crystalId) call.commit w.spine = r
  obtain ⟨r, spine⟩ := r
  cases r <;> rfl

/-- The rest of the call settles its open crystal exactly when the rail raises. -/
theorem scoreWithRail_settles_open {w : CreditWorld} (hw : Sound w.spine) {c : CrystalRow}
    (hfind : w.spine.tables.governanceCrystals.find? crystalId = some c)
    (hopen : c.terminalState = none)
    (hmismatch : ∀ outcome, verifyCommitFingerprint d c (call.request.commitFacets outcome) = false)
    (hreachable : StaysReachable call) :
    Settled d call crystalId (scoreWithRail d call crystalId w).2.spine.tables ↔
      ∃ message, call.rail = .raised message := by
  obtain ⟨e, hjoin⟩ := hw.agrees.join_of_find? hfind
  have hunsettled : ¬ Settled d call crystalId w.spine.tables := by
    rw [settled_iff_row hjoin, SettledRow, hopen]
    simp
  unfold scoreWithRail
  cases hrail : call.rail with
  | scored outcome =>
    have hsame : (spineCommit d (call.request.commit outcome crystalId) call.commit
        w.spine).2.tables = w.spine.tables := by
      refine (spineCommit_keeps
        (I := fun w' => Sound w' ∧ w'.tables = w.spine.tables) ?_ ?_ ⟨hw, rfl⟩).2
      · intro t ht w' hw'
        rw [(hreachable.commit.2 t ht).alone]
        exact hw'
      · rintro t - w' ⟨hsound, htables⟩
        have hfind' : w'.tables.governanceCrystals.find?
            (call.request.commit outcome crystalId).crystalId = some c := by
          rw [htables]
          exact hfind
        have hsame := step_commit_mismatch (d := d) hsound t.settings t.clock hfind'
          (hmismatch outcome)
        exact ⟨step_sound hsound _, hsame.trans htables⟩
    simp only [commitDecision_spine, hsame, hunsettled, reduceCtorEq, exists_false]
  | circuitOpen => simp only [hunsettled, reduceCtorEq, exists_false]
  | raised message =>
    simp only [RailResult.raised.injEq, exists_eq', iff_true]
    exact spineStrand_settles hw hfind hopen hreachable.strand

/-- The rest of the call leaves a closed crystal as it is. -/
theorem scoreWithRail_settles_closed {w : CreditWorld} (hw : Sound w.spine) {c : CrystalRow}
    {e : EscrowRow} (hclosed : IsClosed w.spine.tables c e) (hid : c.crystalId = crystalId) :
    Settled d call crystalId (scoreWithRail d call crystalId w).2.spine.tables ↔
      Settled d call crystalId w.spine.tables := by
  generalize hI : (fun w : FinanceWorld => Sound w ∧ IsClosed w.tables c e) = I
  have hstep : ∀ w a, I w → I (step d w a) := by
    intro w a h
    rw [← hI] at h ⊢
    exact ⟨step_sound h.1 a, h.2.run (d := d) h.1 [a]⟩
  have hmeanwhile : ∀ (t : Attempt) w, I w → I (run d w t.meanwhile) :=
    fun t _ h => foldl_invariant h hstep t.meanwhile
  have hbefore : I w.spine := by
    rw [← hI]
    exact ⟨hw, hclosed⟩
  have hkept : I (scoreWithRail d call crystalId w).2.spine := by
    unfold scoreWithRail
    cases call.rail with
    | scored outcome =>
      simp only [commitDecision_spine]
      exact spineCommit_keeps (fun t _ => hmeanwhile t) (fun t _ w h => hstep w _ h) hbefore
    | circuitOpen => exact hbefore
    | raised message =>
      exact spineStrand_keeps (fun t _ => hmeanwhile t) (fun t _ w h => hstep w _ h) hbefore
  rw [← hI] at hkept
  subst hid
  rw [settled_iff_row (hkept.2.join hkept.1.agrees), settled_iff_row (hclosed.join hw.agrees)]

end Settles

/-- When the crystallize of a call succeeded in a reachable state and the spine stays reachable, the
crystal is settled at the end exactly when it was settled before the rail was asked, or it was open
and the rail raised something else than that its circuit is open. -/
theorem evaluate_settles_iff {d : Deployment} {w : FinanceWorld} (hw : NoCrystals w)
    (actions : List Action) (evaluations : Table CreditEvaluation.applicationId)
    {call : EvaluateCall} {crystalId : String} {spine : FinanceWorld}
    (happroved : call.request.modelVersionId ∈ approvedModels)
    (hopened : spineCrystallize d call.request.crystallize call.crystallize (run d w actions) =
      (.ok crystalId, spine))
    (hreachable : StaysReachable call) (hdigests : DigestsDiffer d call.request) :
    Settled d call crystalId
        (evaluate d call ⟨evaluations, run d w actions⟩).2.spine.tables ↔
      Settled d call crystalId spine.tables ∨
        (spine.tables.governanceCrystals.find? crystalId).map CrystalRow.terminalState =
            some none ∧ ∃ message, call.rail = .raised message := by
  obtain ⟨hsound, c, hfind, hplatform, hop, hfp⟩ :=
    spineCrystallize_ok (run_sound hw.sound actions) hopened
  have hevaluate : (evaluate d call ⟨evaluations, run d w actions⟩).2 =
      (scoreWithRail d call crystalId ⟨evaluations, spine⟩).2 := by
    simp only [evaluate, happroved, not_true_eq_false, ite_false, hopened]
  obtain ⟨e, hjoin⟩ := hsound.agrees.join_of_find? hfind
  rw [hevaluate, hfind, Option.map_some, Option.some.injEq]
  by_cases hopen : c.terminalState = none
  · have hmismatch : ∀ outcome,
        verifyCommitFingerprint d c (call.request.commitFacets outcome) = false := by
      intro outcome
      rw [verifyCommitFingerprint, decide_eq_false_iff_not, hfp, hplatform, hop]
      intro hsame
      exact commitFacets_payload_ne call.request outcome (hdigests outcome hsame.symm).symm
    have hunsettled : ¬ Settled d call crystalId spine.tables := by
      rw [settled_iff_row hjoin, SettledRow, hopen]
      simp
    rw [scoreWithRail_settles_open hsound hfind hopen hmismatch hreachable]
    simp [hunsettled, hopen]
  · obtain ⟨-, hid, he, hec, -, -⟩ := hsound.agrees.join hjoin
    have hclosed : IsClosed spine.tables c e := ⟨hid ▸ hfind, he, hopen, hec⟩
    rw [scoreWithRail_settles_closed hsound hclosed hid]
    simp [hopen]

/-! ## An approved application -/

/-- The policy of the migrations for credit decisions. -/
def creditHighUs : InstrumentPolicy where
  policyId := "credit-high-us"
  riskClassification := "high"
  maxExposurePerCommit := 250000 * 1000000000000
  commitHorizonMs := 300000
  allowAutoExpire := false
  enabled := true

/-- The sample's desk with the policy. -/
def creditWorld : FinanceWorld where
  tables := { sampleWorld.tables with
    instrumentPolicyRegistry := Table.empty.put creditHighUs }
  outside := ⟨0⟩

/-- An application for ten units. -/
def creditApplication : CreditRequest where
  applicationId := "app-1"
  exposureAmount := "10"
  exposure := ⟨10, 0⟩
  modelVersionId := "credit-model-v3"
  deskId := "desk-default"
  featureSnapshotHash := ""

/-- What the mock rail answers to it. -/
def autoApprove : RailOutcome := ⟨"APPROVE", ⟨"0.82".toList, Eq.refl true⟩, "exp-auto-approve"⟩

/-- A call with a spine that answers at once. -/
def creditCall (rail : RailResult) : EvaluateCall where
  request := creditApplication
  rail := rail
  crystallize := [promptAttempt 0]
  commit := [promptAttempt 1]
  strand := [promptAttempt 1]

def creditFingerprint : Ledger.Hash :=
  ⟨"cb28a82d5007903b861da0e7656f78598ead920d189034e96046860248316c07", by decide +kernel⟩

def creditCreated : Ledger.Hash :=
  ⟨"d6cea882530cf339f2be09de2b7a6f1ce33cdf57df60aae6f30f723ec48dff9e", by decide +kernel⟩

/-- The texts that the calls hash, with their SHA-256 digests. -/
def creditDigests : List (String × Ledger.Hash) :=
  [(fingerprintPayload "credit_govern" "app-1" creditApplication.facets, creditFingerprint),
    (fingerprintPayload "credit_govern" "app-1" (creditApplication.commitFacets autoApprove),
      ⟨"7147fc4cdda006bcfcdbdf89e22ea3301ab55c8a3765414208af04c5b1f9ee26", by decide +kernel⟩),
    (crystalPayload sampleCrystalId "credit_govern" "app-1" "high" creditApplication.facets
      creditFingerprint none,
      ⟨"c8fee5075bbb47401c6fd1348fd221e1b4e0e50de0b464e838adcb16308d1449", by decide +kernel⟩),
    (decisionPayload 1 "app-1" (some sampleCrystalId) "desk-default" "CRYSTAL_CREATED"
      "-10.000000000000" [("platform", .str "credit_govern"), ("risk_tier", .str "high")]
      Ledger.genesisHash "2026-01-01 00:00:00+00", creditCreated),
    (decisionPayload 2 "app-1" (some sampleCrystalId) "desk-default" "STRANDED_HOLD" "0E-12"
      [("reason", .str "timeout"), ("source", .str "adjudicate")] creditCreated
      "2026-01-01 00:00:01+00",
      ⟨"6d67da586cdcd27d1b46b360c17da4b5e5d6b1cf946db79360475d19c72a0e1f", by decide +kernel⟩)]

def creditDeployment : Deployment := .ofDigests creditDigests fun t =>
  if t = sampleStart then "2026-01-01 00:00:00+00" else "2026-01-01 00:00:01+00"

/-- The digest of the application's facets is that of no other text in the table. -/
theorem creditDeployment_digestsDiffer : DigestsDiffer creditDeployment creditApplication := by
  intro outcome hsame
  have hfirst : creditDeployment.sha256 (fingerprintPayload "credit_govern" "app-1"
      creditApplication.facets) = creditFingerprint := by
    decide +kernel
  have hmem := Deployment.ofDigests_mem (hsame.symm.trans hfirst) (by decide +kernel)
  have hunique : ∀ p ∈ creditDigests, p.2 = creditFingerprint → p.1 = fingerprintPayload
      "credit_govern" "app-1" creditApplication.facets := by
    decide +kernel
  exact (hunique _ hmem rfl).symm

theorem creditCall_reachable (rail : RailResult) : StaysReachable (creditCall rail) := by
  have hprompt : ∀ seconds, ∀ t ∈ [promptAttempt seconds], Reachable t := by
    intro seconds t ht
    rw [List.mem_singleton.mp ht]
    exact ⟨rfl, rfl, rfl⟩
  exact ⟨⟨List.cons_ne_nil _ _, hprompt 1⟩, ⟨List.cons_ne_nil _ _, hprompt 1⟩⟩

/-- The crystallize of the sample succeeds. -/
theorem creditApplication_crystallized :
    (spineCrystallize creditDeployment creditApplication.crystallize [promptAttempt 0]
      creditWorld).1 = .ok sampleCrystalId := by
  decide +kernel

theorem evaluate_settles_timeout :
    Settled creditDeployment (creditCall (.raised "timeout")) sampleCrystalId
      (evaluate creditDeployment (creditCall (.raised "timeout"))
        ⟨Table.empty, creditWorld⟩).2.spine.tables := by
  refine (evaluate_settles_iff (w := creditWorld) ⟨rfl, rfl, rfl⟩ [] Table.empty
    (by decide : "credit-model-v3" ∈ approvedModels)
    (Prod.ext creditApplication_crystallized rfl) (creditCall_reachable _)
    creditDeployment_digestsDiffer).mpr (Or.inr ⟨?_, "timeout", rfl⟩)
  decide +kernel

/-- An approved application ends with its crystal open and its exposure reserved. -/
theorem approved_credit_left_open :
    (spineCrystallize creditDeployment creditApplication.crystallize [promptAttempt 0]
      creditWorld).1 = .ok sampleCrystalId ∧
    ¬ Settled creditDeployment (creditCall (.scored autoApprove)) sampleCrystalId
      (evaluate creditDeployment (creditCall (.scored autoApprove))
        ⟨Table.empty, creditWorld⟩).2.spine.tables := by
  refine ⟨creditApplication_crystallized, ?_⟩
  rintro ⟨c, e, hjoin, hrow⟩
  have hopen : (crystalJoin (evaluate creditDeployment (creditCall (.scored autoApprove))
      ⟨Table.empty, creditWorld⟩).2.spine.tables sampleCrystalId).map (fun p => p.1.terminalState) =
      some none := by
    decide +kernel
  rw [hjoin, Option.map_some, Option.some.injEq] at hopen
  have hnone : c.terminalState = none := hopen
  rw [SettledRow, hnone] at hrow
  simp at hrow

end Governor.Finance
