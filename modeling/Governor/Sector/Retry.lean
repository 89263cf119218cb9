import Mathlib
import Governor.Sector.Payouts

/-!
# Payouts that are submitted again

The commit of a payout can be lost after its crystallize was answered. The caller then submits the
same request again: the claim is evaluated from scratch, its crystal is found, and the commit
compares the facets of the new evaluation with those of the crystal. The theorem says when that
commit goes through.
-/

namespace Governor.Sector

open Finance
open Ledger (Decimal Hash PyDecimal)

/-! ## The facets of an evaluation -/

section Facets

variable {d : Deployment} {request : PayoutRequest} {amount : PyDecimal}
  {result : PayoutEvaluation}

/-- Which keys are missing depends on the keys only. -/
theorem lookup_isNone_congr {fs gs : Facets} (h : fs.map Prod.fst = gs.map Prod.fst)
    (key : String) : (fs.lookup key).isNone = (gs.lookup key).isNone := by
  induction fs generalizing gs with
  | nil =>
    obtain rfl := List.map_eq_nil_iff.mp h.symm
    rfl
  | cons f fs ih =>
    cases gs with
    | nil => cases h
    | cons g gs =>
      obtain ⟨hkey, hrest⟩ := List.cons.inj h
      rw [List.lookup_cons, List.lookup_cons, hkey]
      cases key == g.1 with
      | true => rfl
      | false => exact ih hrest

/-- A facet is there or missing whatever was evaluated. -/
theorem payoutFacets_keys (amount amount' : PyDecimal) (result result' : PayoutEvaluation) :
    (payoutFacets d request amount result).map Prod.fst =
      (payoutFacets d request amount' result').map Prod.fst := by
  unfold payoutFacets
  split_ifs <;> rfl

theorem payoutFacets_nodup : ((payoutFacets d request amount result).map Prod.fst).Nodup := by
  unfold payoutFacets
  split_ifs <;> simp

theorem payoutFacets_referral :
    ("siu_referral_id", Json.str result.siuReferral.referralId) ∈
      payoutFacets d request amount result := by
  unfold payoutFacets
  simp

/-- The text that is hashed for the facets of an evaluation. -/
def facetsText (d : Deployment) (request : PayoutRequest) (amount : PyDecimal)
    (result : PayoutEvaluation) : String :=
  fingerprintPayload "claim_gate" request.claimId (payoutFacets d request amount result)

/-- Two evaluations that differ in their referral only have one text when they do not. -/
theorem facetsText_withReferral (siuId : String) :
    facetsText d request amount (result.withReferral siuId) = facetsText d request amount result ↔
      "siu_" ++ siuId = result.siuReferral.referralId := by
  constructor
  · intro h
    have hsame := (fingerprintPayload_facets h).value payoutFacets_nodup payoutFacets_referral
      payoutFacets_referral
    exact Json.same_str.mp hsame
  · intro h
    have heq : result.withReferral siuId = result := by
      rw [PayoutEvaluation.withReferral, h]
    rw [heq]

/-- The referral of an evaluation is named by the digits that were drawn for it. -/
theorem evaluate_referral {floats : FloatArithmetic} {policy : PolicyContext} {call : PayoutCall}
    (h : call.evaluate floats policy = some result) :
    result.siuReferral.referralId = "siu_" ++ call.siuId := by
  obtain ⟨amount, -, h⟩ := Option.bind_eq_some_iff.mp h
  obtain ⟨loss, -, h⟩ := Option.bind_eq_some_iff.mp h
  unfold evaluatePayout at h
  rw [evaluateSiu_siuId call.siuId call.siuId] at h
  simp only at h
  split at h
  · obtain rfl := Option.some.inj h
    rfl
  · obtain rfl := Option.some.inj h
    rfl
  · obtain ⟨trace, -, rfl⟩ := Option.map_eq_some_iff.mp h
    rfl

end Facets

/-! ## A payout that is left half done -/

namespace GateCall

variable (settings : GateSettings)

/-- The spine when the crystallize of a request arrives. -/
def asked (call : GateCall) (w : GateWorld) : FinanceWorld :=
  run settings.deployment w.spine call.crystallize.meanwhile

/-- The spine when the commit of a request arrives that found its crystal. -/
def served (call : GateCall) (w : GateWorld) : FinanceWorld :=
  run settings.deployment (call.asked settings w) call.commit.meanwhile

/-- An approved request opened the crystal of its claim, and its commit was lost. -/
structure HalfDone (call : GateCall) (w : GateWorld) (amount : PyDecimal)
    (result : PayoutEvaluation) (c : CrystalRow) : Prop where
  sound : Sound w.spine
  evaluated : call.evaluated settings = some (amount, result)
  approved : result.decision = "APPROVED"
  newClaim : findCrystal (call.asked settings w).tables "claim_gate"
    call.payout.request.claimId = none
  opened : ∃ spine, claimGate.crystallize settings.deployment (call.governed settings amount result)
      call.crystallize w.spine = (.ok c.crystalId, spine) ∧
    spine.tables.governanceCrystals.find? c.crystalId = some c
  lost : call.commit.delivery = .lost

/-- The request is submitted again, to a spine that answers, before the horizon of the crystal
and while that is open. -/
structure Resubmits (first retry : GateCall) (w : GateWorld) (c : CrystalRow) : Prop where
  request : retry.payout.request = first.payout.request
  crystallizeAnswered : retry.crystallize.delivery = .answered
  crystallizeWritable : retry.crystallize.halted = false
  unguarded : retry.crystallize.guardrail = none
  enforce : retry.crystallize.enforce = first.crystallize.enforce
  visible : retry.crystallize.raced = false
  commitAnswered : retry.commit.delivery = .answered
  commitWritable : retry.commit.halted = false
  inTime : isHorizonExpired c retry.commit.clock.utcnow = false
  waiting : (retry.served settings w).tables.governanceCrystals.find? c.crystalId = some c

/-- The request commits the crystal and answers with it. -/
structure Completes (retry : GateCall) (w : GateWorld) (c : CrystalRow) : Prop where
  committed : (retry.evaluate settings w).spine.tables.governanceCrystals.find? c.crystalId =
    some (c.close .committed)
  returned : ∀ body, (retry.runEvaluation settings w).1 = .ok body →
    body.crystalId = some c.crystalId

/-- The request draws the referral of the first one, on a day of the policy, and no mesh rule
blocks its commit. -/
structure Repeats (first retry : GateCall) (w : GateWorld) : Prop where
  referral : retry.payout.siuId = first.payout.siuId
  covered : ∀ policy day,
    resolvePolicy settings.policies retry.payout.request.policyNumber = some policy →
    retry.payout.request.lossDate.day retry.payout.today = some day →
      policy.effectiveDate ≤ day ∧ day ≤ policy.expirationDate
  unblocked : meshBlockReason (retry.served settings w).tables "claim_gate" = none

/-- The crystal of a request, as a spine holds it that let the request pass. -/
structure OwnCrystal (call : GateCall) (amount : PyDecimal) (result : PayoutEvaluation)
    (c : CrystalRow) (db : Database) : Prop where
  platform : c.platform = "claim_gate"
  operationId : c.operationId = call.payout.request.claimId
  fingerprint : c.requestFingerprint =
    settings.deployment.sha256 (facetsText settings.deployment call.payout.request amount result)
  terminalState : c.terminalState = none
  stored : Holds db c
  guard : call.crystallize.enforce = true →
    GuardAllows db "claim_gate" (call.governed settings amount result).facets

end GateCall

/-! ## The first request -/

section Kept

variable {d : Deployment} {w : FinanceWorld} {db db' : Database} {platform : String}
  {facets facets' : Facets} {c : CrystalRow}

theorem GuardAllows.of_registry (h : GuardAllows db platform facets)
    (hsame : db'.platformRegistry = db.platformRegistry) : GuardAllows db' platform facets := by
  obtain ⟨registry, record, hregistry, hrest⟩ := h
  exact ⟨registry, record, hsame.trans hregistry, hrest⟩

/-- The guard reads the keys of the facets only. -/
theorem GuardAllows.of_keys (h : GuardAllows db platform facets)
    (hkeys : facets'.map Prod.fst = facets.map Prod.fst) : GuardAllows db platform facets' := by
  obtain ⟨registry, record, hregistry, hfind, henabled, hmissing⟩ := h
  exact ⟨registry, record, hregistry, hfind, henabled,
    (List.filter_congr fun key _ => lookup_isNone_congr hkeys key).trans hmissing⟩

/-- A crystal that is open later was open before. -/
theorem open_of_later (hw : Sound w) (hholds : Holds w.tables c) (hopen : c.terminalState = none)
    {actions : List Action}
    (h : (run d w actions).tables.governanceCrystals.find? c.crystalId = some c) :
    w.tables.governanceCrystals.find? c.crystalId = some c := by
  obtain ⟨state, hfind⟩ := hholds
  cases state with
  | none =>
    rw [← hopen] at hfind
    exact hfind
  | some state =>
    obtain ⟨e, hjoin⟩ := hw.agrees.join_of_find? hfind
    obtain ⟨-, -, he, hid, -⟩ := hw.agrees.join hjoin
    have hclosed : IsClosed w.tables { c with terminalState := some state } e :=
      ⟨hfind, he, Option.some_ne_none _, hid⟩
    have hlater := run_invariant (d := d) (I := fun db => IsClosed db _ e)
      (fun _ ho hs => hs.opens ho) (fun _ hc hs => hs.closes hc) hw hclosed actions
    have hstill := congrArg (Option.map CrystalRow.terminalState) (hlater.crystal.symm.trans h)
    simp [hopen] at hstill

end Kept

section Retry

variable {settings : GateSettings} {call : GateCall} {w : GateWorld} {amount : PyDecimal}
  {result : PayoutEvaluation} {c : CrystalRow}

theorem GateCall.OwnCrystal.kept {spine : FinanceWorld} (hspine : Sound spine)
    (h : call.OwnCrystal settings amount result c spine.tables) (actions : List Action) :
    call.OwnCrystal settings amount result c
      (run settings.deployment spine actions).tables where
  platform := h.platform
  operationId := h.operationId
  fingerprint := h.fingerprint
  terminalState := h.terminalState
  stored := run_invariant (I := fun db => Holds db c) (fun _ ho hs => hs.opens ho)
    (fun _ hc hs => hs.closes hc) hspine h.stored actions
  guard := fun henforce => run_invariant (I := fun db => GuardAllows db "claim_gate"
      (call.governed settings amount result).facets)
    (fun _ ho hs => hs.of_registry ho.registries.platformRegistry)
    (fun _ hc hs => hs.of_registry hc.registries.platformRegistry) hspine (h.guard henforce) actions

/-- Without its commit an approved request leaves what its crystallize left. -/
theorem GateCall.evaluate_lost {spine : FinanceWorld} {crystalId : String}
    (hevaluated : call.evaluated settings = some (amount, result))
    (happroved : result.decision = "APPROVED")
    (hcrystallize : claimGate.crystallize settings.deployment
      (call.governed settings amount result) call.crystallize w.spine = (.ok crystalId, spine))
    (hlost : call.commit.delivery = .lost) :
    (call.evaluate settings w).spine = run settings.deployment spine call.commit.meanwhile := by
  obtain ⟨hcommits, hreserve⟩ := call.approved_committed settings amount happroved
  rw [GateCall.evaluate_of_some hevaluated, GateCall.govern_spine, GateCall.governs,
    governOperation_snd rfl hcrystallize, if_pos hcommits, PlatformManifest.commit, hreserve,
    Option.map_some, spineCommit_snd, if_pos (Or.inl hlost)]

/-- What the first request leaves at the spine. -/
theorem GateCall.HalfDone.left (h : call.HalfDone settings w amount result c) :
    Sound (call.evaluate settings w).spine ∧
      call.OwnCrystal settings amount result c (call.evaluate settings w).spine.tables := by
  obtain ⟨spine, hcrystallize, hstored⟩ := h.opened
  have hspine : Sound spine := crystallize_sound h.sound hcrystallize
  rw [GateCall.evaluate_lost h.evaluated h.approved hcrystallize h.lost]
  refine ⟨run_sound hspine _, GateCall.OwnCrystal.kept hspine ?_ _⟩
  obtain ⟨r, answer, hr, hid, hrespond, hworld⟩ := spineCrystallize_respond hcrystallize
  obtain ⟨reserved, -, rfl⟩ := Option.map_eq_some_iff.mp hr
  have hasked : Sound (call.asked settings w) := run_sound h.sound _
  have hc := (body_committed (d := settings.deployment) hasked
    (.crystallize call.crystallize.enforce call.crystallize.raced call.crystallize.clock
      call.crystallize.uuid (claimGate.crystallizeRequest
        (call.governed settings amount result) reserved))).1
  change respond settings.deployment (call.asked settings w) _ = _ at hrespond
  change spine = step settings.deployment (call.asked settings w) _ at hworld
  rw [hrespond, ← hworld] at hc
  have hguard : call.crystallize.enforce = true → GuardAllows (call.asked settings w).tables
      "claim_gate" (call.governed settings amount result).facets := by
    intro henforce
    rw [henforce] at hrespond
    exact guardAllows_of_ok hrespond
  generalize spine.tables = db at hc hstored ⊢
  cases hc with
  | crystallize hc =>
    cases hc with
    | replayed _ hfind => exact absurd (hfind.symm.trans h.newClaim) (by simp)
    | @opened c' prev horizon _ _ hseal hopens =>
      rw [← hid, hopens.crystals, Table.find?_put_self] at hstored
      obtain rfl := Option.some.inj hstored
      refine ⟨?_, ?_, ?_, hopens.terminalState, Opens.holds hopens, fun henforce =>
        (hguard henforce).of_registry hopens.registries.platformRegistry⟩
      all_goals
        rw [hseal]
        rfl

/-! ## The second request -/

variable {first retry : GateCall} {w' : GateWorld}

/-- What holds of a request that is submitted again, whatever is evaluated. -/
theorem GateCall.Resubmits.asked (h : first.Resubmits settings retry w' c)
    (hw' : Sound w'.spine) (hown : first.OwnCrystal settings amount result c w'.spine.tables) :
    (retry.asked settings w').tables.governanceCrystals.find? c.crystalId = some c :=
  open_of_later (run_sound hw' _) (hown.kept hw' _).stored hown.terminalState h.waiting

/-- The crystallize of the second request finds the crystal. -/
theorem GateCall.Resubmits.crystallizes (h : first.Resubmits settings retry w' c)
    (hw' : Sound w'.spine) (hown : first.OwnCrystal settings amount result c w'.spine.tables)
    (amount' : PyDecimal) (result' : PayoutEvaluation) :
    claimGate.crystallize settings.deployment (retry.governed settings amount' result')
      retry.crystallize w'.spine = (.ok c.crystalId, retry.asked settings w') := by
  have hasked := GateCall.OwnCrystal.kept hw' hown retry.crystallize.meanwhile
  have hfind := findCrystal_of_mem (run_sound hw' retry.crystallize.meanwhile).agrees
    (Table.mem_of_find? (h.asked hw' hown))
  rw [hown.platform, hown.operationId, ← h.request] at hfind
  obtain ⟨reserved, hreserve⟩ : ∃ reserved,
      claimGate.reserve (retry.governed settings amount' result') = some reserved := by
    unfold PlatformManifest.reserve
    split_ifs
    · exact ⟨_, rfl⟩
    · exact ⟨_, rfl⟩
  generalize hr : claimGate.crystallizeRequest (retry.governed settings amount' result') reserved =
    r
  have hguard : retry.crystallize.enforce = true →
      GuardAllows (retry.asked settings w').tables r.platform r.facets := by
    intro henforce
    rw [← hr]
    refine (hasked.guard (h.enforce ▸ henforce)).of_keys ?_
    simp only [PlatformManifest.crystallizeRequest, GateCall.governed, payoutCall, h.request]
    exact payoutFacets_keys ..
  have hfound : findCrystal (retry.asked settings w').tables r.platform r.operationId = some c := by
    rw [← hr]
    exact hfind
  obtain ⟨hanswer, hsame⟩ := crystallize_found (d := settings.deployment) hguard hfound
    retry.crystallize.clock retry.crystallize.uuid
  rw [← h.visible] at hanswer hsame
  have hserved := spineCrystallize_answered h.crystallizeAnswered h.crystallizeWritable
    h.unguarded hanswer
  rw [PlatformManifest.crystallize, hreserve, Option.map_some, hr, hserved]
  exact congrArg (Prod.mk _) hsame

/-- A second request that is not approved leaves the crystal open. -/
theorem GateCall.Resubmits.evaluate_unapproved (h : first.Resubmits settings retry w' c)
    (hw' : Sound w'.spine) (hown : first.OwnCrystal settings amount result c w'.spine.tables)
    (hunapproved : ∀ amount' result', retry.evaluated settings = some (amount', result') →
      result'.decision ≠ "APPROVED") :
    (retry.evaluate settings w').spine.tables.governanceCrystals.find? c.crystalId = some c := by
  cases hevaluated : retry.evaluated settings with
  | none =>
    rw [GateCall.evaluate_of_none hevaluated]
    exact open_of_later hw' hown.stored hown.terminalState (h.asked hw' hown)
  | some pair =>
    obtain ⟨amount', result'⟩ := pair
    have hkeeps : claimGate.shouldCommit (retry.governed settings amount' result') = false := by
      simp [PlatformManifest.shouldCommit, claimGate, GateCall.governed, payoutCall,
        hunapproved amount' result' hevaluated]
    rw [GateCall.evaluate_of_some hevaluated, GateCall.govern_spine, GateCall.governs,
      governOperation_snd rfl (h.crystallizes hw' hown amount' result'), hkeeps, if_neg (by simp)]
    exact h.asked hw' hown

/-- The commit request of the second evaluation. -/
def GateCall.commitOf (settings : GateSettings) (retry : GateCall) (amount : PyDecimal)
    (result : PayoutEvaluation) (c : CrystalRow) : CommitRequest :=
  PlatformManifest.commitRequest (retry.governed settings amount result) c.crystalId
    result.netPayable

/-- The answer to a request names the crystal that governing it returned. -/
theorem GateCall.govern_crystalId {id : Option String} {body : PayoutResponse}
    (hreturned : (call.governs settings amount result w).1 = .ok id)
    (h : (call.govern settings amount result w).1 = .ok body) : body.crystalId = id := by
  unfold GateCall.govern at h
  generalize call.governs settings amount result w = r at hreturned h
  obtain ⟨r, spine⟩ := r
  obtain rfl : r = .ok id := hreturned
  simp only [GateCall.pay] at h
  split_ifs at h
  · generalize (call.submitPayment settings _ _).1 = payment at h
    cases payment with
    | none => cases h
    | some p =>
      obtain rfl := PayoutReply.ok.inj h
      rfl
  · obtain rfl := PayoutReply.ok.inj h
    rfl

/-- An approved second request completes exactly when its commit is not refused. -/
theorem GateCall.Resubmits.completes_iff (h : first.Resubmits settings retry w' c)
    (hw' : Sound w'.spine) (hown : first.OwnCrystal settings amount result c w'.spine.tables)
    {amount' : PyDecimal} {result' : PayoutEvaluation}
    (hevaluated : retry.evaluated settings = some (amount', result'))
    (happroved : result'.decision = "APPROVED") (hamount : 0 ≤ quantizeMoney result'.netPayable) :
    retry.Completes settings w' c ↔
      commitRefusal settings.deployment retry.commit.clock (retry.served settings w').tables c
        (retry.commitOf settings amount' result' c) = none := by
  have hrun : Sound (retry.served settings w') := run_sound (run_sound hw' _) _
  obtain ⟨hcommits, hreserve⟩ := retry.approved_committed settings amount' happroved
  have hcrystallize := h.crystallizes hw' hown amount' result'
  obtain ⟨e, hjoin⟩ := hrun.agrees.join_of_find? h.waiting
  constructor
  · intro hcompletes
    have hcommitted := hcompletes.committed
    have hc := commit_committed (d := settings.deployment) hrun retry.commit.clock
      (retry.commitOf settings amount' result' c)
    have hfinal : (retry.evaluate settings w').spine = step settings.deployment
        (retry.served settings w')
        (.commit retry.commit.clock (retry.commitOf settings amount' result' c)) := by
      rw [GateCall.evaluate_of_some hevaluated, GateCall.govern_spine, GateCall.governs,
        governOperation_snd rfl hcrystallize, if_pos hcommits, PlatformManifest.commit, hreserve,
        Option.map_some, spineCommit_snd, h.commitAnswered, h.commitWritable, if_neg (by simp)]
      rfl
    rw [hfinal] at hcommitted
    generalize respond settings.deployment (retry.served settings w') _ = r at hc
    generalize (step settings.deployment (retry.served settings w') _).tables = db'
      at hc hcommitted
    cases hc with
    | refused =>
      rw [h.waiting, Option.some.injEq] at hcommitted
      have hclosed := congrArg CrystalRow.terminalState hcommitted
      rw [hown.terminalState] at hclosed
      cases hclosed
    | replayed hjoin' hterminal =>
      obtain ⟨rfl, rfl⟩ := Prod.mk.inj (Option.some.inj (hjoin.symm.trans hjoin'))
      exact absurd hown.terminalState hterminal
    | committed hjoin' haccepted =>
      obtain ⟨rfl, rfl⟩ := Prod.mk.inj (Option.some.inj (hjoin.symm.trans hjoin'))
      exact haccepted
  · intro haccepted
    have hat : commitState settings.deployment claimGate (retry.governed settings amount' result')
        retry.crystallize retry.commit w'.spine = some (retry.served settings w') := by
      have hmissing : claimGate.validateFacets
          (retry.governed settings amount' result').facets = [] := rfl
      simp only [commitState, hmissing, hcommits, h.commitAnswered, h.commitWritable, and_self,
        ite_true, hcrystallize]
      rfl
    have hfind := findCrystal_of_mem hrun.agrees (Table.mem_of_find? h.waiting)
    rw [hown.platform, hown.operationId, ← h.request] at hfind
    have hreturned : (retry.governs settings amount' result' w').1 = .ok (some c.crystalId) :=
      (governOperation_returns_iff hw' hcommits hreserve).mpr
        ⟨_, c, hat, hfind, rfl, Or.inr ⟨haccepted, hamount⟩⟩
    refine ⟨?_, fun body hbody => ?_⟩
    · have hsettles := governOperation_settles hw' hcommits hreserve hreturned hat hfind
      rw [settled, if_pos hown.terminalState] at hsettles
      rw [GateCall.evaluate_of_some hevaluated, GateCall.govern_spine]
      exact hsettles
    · rw [GateCall.runEvaluation_of_some hevaluated] at hbody
      exact GateCall.govern_crystalId hreturned hbody

/-- A commit without late authority is accepted when its facets are those of the crystal, within
the horizon and not blocked. -/
theorem commitRefusal_eq_none_iff {d : Deployment} {clock : Ledger.Clock} {db : Database}
    {request : CommitRequest} (hlate : request.lateAuthority = false) :
    commitRefusal d clock db c request = none ↔
      canonicalFingerprint d c.platform c.operationId request.facets = c.requestFingerprint ∧
        isHorizonExpired c clock.utcnow = false ∧ meshBlockReason db c.platform = none := by
  unfold commitRefusal verifyCommitFingerprint
  rw [hlate]
  split_ifs with hfp hexpired hstrand
  · simp_all
  · simp_all
  · simp_all
  · simp_all

theorem LossDate.day_isSome {loss : LossDate} {today day : Int} (h : loss.day today = some day)
    (today' : Int) : ∃ day', loss.day today' = some day' := by
  cases loss with
  | absent => exact ⟨today', rfl⟩
  | date day => exact ⟨day, rfl⟩
  | unreadable => cases h

theorem quantizeMoney_nonneg {x : Decimal} (h : 0 ≤ x.coeff) : 0 ≤ quantizeMoney x := by
  unfold quantizeMoney roundHalfUp
  split_ifs
  · exact mul_nonneg h (by positivity)
  · exact mul_nonneg (Int.sign_nonneg_iff.mpr h) (by positivity)

/-- What an approved evaluation pays is stored as an amount that is not negative. -/
theorem approved_quantized {floats : FloatArithmetic} {policy : PolicyContext} {call : PayoutCall}
    (h : call.evaluate floats policy = some result) (happroved : result.decision = "APPROVED") :
    0 ≤ quantizeMoney result.netPayable := by
  obtain ⟨amount, day, -, happrovable⟩ := evaluate_approved h happroved
  have hvalue : 0 ≤ result.netPayable.value := by
    rw [happrovable.net_eq]
    exact excess_nonneg policy.deductible
  refine quantizeMoney_nonneg ?_
  by_contra hneg
  have hcoeff : (result.netPayable.coeff : ℚ) < 0 := by exact_mod_cast not_le.mp hneg
  exact absurd hvalue (not_le.mpr (mul_neg_of_neg_of_pos hcoeff (by positivity)))

/-- The retry of a half-done payout completes exactly when it draws the referral of the first
request, on a day of the policy, and no mesh rule blocks it. -/
theorem GateCall.retry_completes_iff (hfirst : first.HalfDone settings w amount result c)
    (hretry : first.Resubmits settings retry (first.evaluate settings w) c)
    (hcollision : settings.deployment.sha256 (facetsText settings.deployment first.payout.request
          amount (result.withReferral retry.payout.siuId)) =
        settings.deployment.sha256
          (facetsText settings.deployment first.payout.request amount result) →
      facetsText settings.deployment first.payout.request amount
          (result.withReferral retry.payout.siuId) =
        facetsText settings.deployment first.payout.request amount result) :
    retry.Completes settings (first.evaluate settings w) c ↔
      first.Repeats settings retry (first.evaluate settings w) := by
  obtain ⟨hw', hown⟩ := hfirst.left
  generalize first.evaluate settings w = w' at hretry hw' hown ⊢
  obtain ⟨hamount, policy, hpolicy, hresult⟩ := GateCall.evaluated_eq_some hfirst.evaluated
  obtain ⟨-, loss, hloss, -⟩ := evaluate_approved hresult hfirst.approved
  obtain ⟨day, hday⟩ := LossDate.day_isSome hloss retry.payout.today
  rw [← hretry.request] at hday
  by_cases hcovered : policy.effectiveDate ≤ day ∧ day ≤ policy.expirationDate
  · have hagain := evaluate_again hresult hfirst.approved hretry.request hday hcovered.1 hcovered.2
    have hevaluated : retry.evaluated settings =
        some (amount, result.withReferral retry.payout.siuId) := by
      simp [GateCall.evaluated, hretry.request, hamount, hpolicy, hagain]
    have hfits : canonicalFingerprint settings.deployment c.platform c.operationId
        (retry.commitOf settings amount (result.withReferral retry.payout.siuId) c).facets =
          c.requestFingerprint ↔ retry.payout.siuId = first.payout.siuId := by
      have htext : canonicalFingerprint settings.deployment c.platform c.operationId
          (retry.commitOf settings amount (result.withReferral retry.payout.siuId) c).facets =
          settings.deployment.sha256 (facetsText settings.deployment first.payout.request amount
            (result.withReferral retry.payout.siuId)) := by
        rw [hown.platform, hown.operationId, ← hretry.request]
        rfl
      have hdigits : "siu_" ++ retry.payout.siuId = result.siuReferral.referralId ↔
          retry.payout.siuId = first.payout.siuId := by
        rw [evaluate_referral hresult]
        exact ⟨fun h => by simpa using h, congrArg _⟩
      rw [htext, hown.fingerprint, ← hdigits, ← facetsText_withReferral]
      exact ⟨hcollision, congrArg _⟩
    have hpaid : 0 ≤ quantizeMoney result.netPayable :=
      approved_quantized hresult hfirst.approved
    rw [hretry.completes_iff hw' hown hevaluated hfirst.approved hpaid,
      commitRefusal_eq_none_iff rfl, hfits, hown.platform]
    constructor
    · rintro ⟨hsame, -, hunblocked⟩
      refine ⟨hsame, fun policy' day' hpolicy' hday' => ?_, hunblocked⟩
      rw [hretry.request, hpolicy] at hpolicy'
      obtain rfl := Option.some.inj hpolicy'
      obtain rfl := Option.some.inj (hday.symm.trans hday')
      exact hcovered
    · rintro ⟨hsame, -, hunblocked⟩
      exact ⟨hsame, hretry.inTime, hunblocked⟩
  · rw [← hretry.request] at hpolicy
    refine iff_of_false (fun hcompletes => ?_) fun hrepeats => ?_
    · have hopen := hretry.evaluate_unapproved hw' hown fun amount' result' h happroved => by
        obtain ⟨-, policy', hpolicy', hresult'⟩ := GateCall.evaluated_eq_some h
        obtain rfl := Option.some.inj (hpolicy.symm.trans hpolicy')
        obtain ⟨_, day', hday', happrovable⟩ := evaluate_approved hresult' happroved
        obtain rfl := Option.some.inj (hday.symm.trans hday')
        exact hcovered ⟨happrovable.effective, happrovable.unexpired⟩
      rw [hcompletes.committed, Option.some.injEq] at hopen
      have hclosed := congrArg CrystalRow.terminalState hopen
      rw [hown.terminalState] at hclosed
      cases hclosed
    · exact hcovered (hrepeats.covered policy day hpolicy hday)

end Retry

/-! ## A payout whose commit is lost -/

/-- The first payout, with its commit lost. -/
def lostPayout : GateCall :=
  { firstPayout with commit := { promptExchange 1 with delivery := .lost } }

/-- The payout as it is submitted again. -/
def payoutAgain (siuId : String) : GateCall := payoutOf ⟨150000, -2⟩ "idem-1" siuId "pay_2" 0

/-- The facets of the payout under another referral. -/
def againFacets : Facets :=
  firstPayoutFacets.dropLast ++ [("siu_referral_id", .str "siu_000000000002")]

def againFingerprint : Hash :=
  ⟨"cb6c48f7e9b11a78d522e5fb91dc9675c7df02ce2bd14455d74d705522f0f177", by decide +kernel⟩

/-- The texts that the payout and its retry hash, with their SHA-256 digests. -/
def retryDigests : List (String × Hash) :=
  (fingerprintPayload "claim_gate" "CLM-1" againFacets, againFingerprint) :: payoutDigests

/-- ClaimGate, with the digests of both referrals. -/
def retrySettings : GateSettings :=
  { gateSettings with
    deployment := .ofDigests retryDigests gateSettings.deployment.timestampText }

/-- The evaluation of the payout. -/
def lostEvaluation : PyDecimal × PayoutEvaluation :=
  (lostPayout.evaluated retrySettings).get (by decide +kernel)

theorem lostPayout_evaluated :
    lostPayout.evaluated retrySettings = some (lostEvaluation.1, lostEvaluation.2) :=
  (Option.some_get (by decide +kernel : (lostPayout.evaluated retrySettings).isSome = true)).symm

/-- The spine once the crystallize of the payout is answered. -/
def lostSpine : FinanceWorld :=
  (claimGate.crystallize retrySettings.deployment
    (lostPayout.governed retrySettings lostEvaluation.1 lostEvaluation.2) lostPayout.crystallize
    gateWorld.spine).2

/-- The crystal of the payout. -/
def lostCrystal : CrystalRow :=
  (lostSpine.tables.governanceCrystals.find? sampleCrystalId).get (by decide +kernel)

theorem lostCrystal_find? :
    lostSpine.tables.governanceCrystals.find? sampleCrystalId = some lostCrystal :=
  (Option.some_get (by decide +kernel :
    (lostSpine.tables.governanceCrystals.find? sampleCrystalId).isSome = true)).symm

theorem lostCrystal_crystalId : lostCrystal.crystalId = sampleCrystalId :=
  Table.find?_some_key lostCrystal_find?

theorem lostCrystal_inTime : isHorizonExpired lostCrystal (sampleClock 1).utcnow = false := by
  decide +kernel

theorem lostPayout_halfDone : lostPayout.HalfDone retrySettings gateWorld lostEvaluation.1
    lostEvaluation.2 lostCrystal where
  sound := NoCrystals.sound ⟨rfl, rfl, rfl⟩
  evaluated := lostPayout_evaluated
  approved := by decide +kernel
  newClaim := rfl
  opened := ⟨lostSpine, Prod.ext (by decide +kernel) rfl,
    by rw [lostCrystal_crystalId, lostCrystal_find?]⟩
  lost := rfl

theorem lostPayout_spine : (lostPayout.evaluate retrySettings gateWorld).spine = lostSpine := by
  obtain ⟨spine, hcrystallize, -⟩ := lostPayout_halfDone.opened
  rw [GateCall.evaluate_lost lostPayout_halfDone.evaluated lostPayout_halfDone.approved
    hcrystallize rfl, lostSpine, hcrystallize]
  rfl

theorem payoutAgain_resubmits (siuId : String) : lostPayout.Resubmits retrySettings
    (payoutAgain siuId) (lostPayout.evaluate retrySettings gateWorld) lostCrystal where
  request := rfl
  crystallizeAnswered := rfl
  crystallizeWritable := rfl
  unguarded := rfl
  enforce := rfl
  visible := rfl
  commitAnswered := rfl
  commitWritable := rfl
  inTime := lostCrystal_inTime
  waiting := by
    change (lostPayout.evaluate retrySettings gateWorld).spine.tables.governanceCrystals.find?
      lostCrystal.crystalId = some lostCrystal
    rw [lostPayout_spine, lostCrystal_crystalId, lostCrystal_find?]

/-- The day of the loss is one of every policy. -/
theorem lossDay_covered :
    ∀ p ∈ defaultPolicies, p.effectiveDate ≤ 739403 ∧ 739403 ≤ p.expirationDate := by
  decide +kernel

/-- A retry that draws the same digits completes. -/
theorem payoutAgain_completes : (payoutAgain "000000000001").Completes retrySettings
    (lostPayout.evaluate retrySettings gateWorld) lostCrystal := by
  have hsame : "siu_" ++ (payoutAgain "000000000001").payout.siuId =
      lostEvaluation.2.siuReferral.referralId := by decide +kernel
  refine (GateCall.retry_completes_iff lostPayout_halfDone (payoutAgain_resubmits _)
    fun _ => (facetsText_withReferral _).mpr hsame).mpr ⟨rfl, ?_, ?_⟩
  · intro policy day hpolicy hday
    obtain rfl : 739403 = day := Option.some.inj hday
    exact lossDay_covered policy (List.mem_of_find?_eq_some hpolicy)
  · change meshBlockReason (lostPayout.evaluate retrySettings gateWorld).spine.tables
      "claim_gate" = none
    rw [lostPayout_spine]
    rfl

theorem againFacets_eq : payoutFacets retrySettings.deployment lostPayout.payout.request
    lostEvaluation.1 (lostEvaluation.2.withReferral "000000000002") = againFacets := by
  have hamount : lostEvaluation.1.str = "1500.00" := by decide +kernel
  have hnet : lostEvaluation.2.netPayable = ⟨100000, -2⟩ := by decide +kernel
  have hdecision : lostEvaluation.2.decision = "APPROVED" := by decide +kernel
  have hscore : lostEvaluation.2.score = fullScore := by decide +kernel
  have hclaim : (canonicalFingerprint retrySettings.deployment "claim_gate" "CLM-1"
      [("amount", .str "1000.00"), ("currency", .str "USD")]).val =
        "734a9644924b6ab871be2b2889f58de901b309b587bfbd08bfc356c615da64ce" := by
    decide +kernel
  have hclaimId : lostPayout.payout.request.claimId = "CLM-1" := rfl
  have hcurrency : lostPayout.payout.request.currency = "USD" := rfl
  have hpolicyNumber : lostPayout.payout.request.policyNumber = "POL-AUTO-001" := rfl
  have hnetText : Decimal.str ⟨100000, -2⟩ = "1000.00" := by decide +kernel
  simp only [payoutFacets, PayoutEvaluation.withReferral, hamount, hnet, hdecision, hscore,
    hclaimId, hcurrency, hpolicyNumber, hclaim, hnetText]
  rw [if_neg (by decide)]
  rfl

/-- The text of the first evaluation has another digest. -/
theorem againFingerprint_ne {text : String}
    (h : text ≠ fingerprintPayload "claim_gate" "CLM-1" againFacets) :
    retrySettings.deployment.sha256 text ≠ againFingerprint := by
  intro heq
  have hmem : (text, againFingerprint) ∈ retryDigests :=
    Deployment.ofDigests_mem heq (by decide +kernel)
  rcases List.mem_cons.mp hmem with hhead | htail
  · exact h (Prod.mk.inj hhead).1
  · have hnot : againFingerprint ∉ payoutDigests.map Prod.snd := by decide +kernel
    exact hnot (List.mem_map_of_mem (f := Prod.snd) htail)

/-- A retry draws other digits, and the commit of its facets is refused. -/
theorem payoutAgain_refused :
    ¬ (payoutAgain "000000000002").Completes retrySettings
      (lostPayout.evaluate retrySettings gateWorld) lostCrystal := by
  obtain ⟨hw, hown⟩ := lostPayout_halfDone.left
  have hretry := payoutAgain_resubmits "000000000002"
  obtain ⟨hamount, policy, hpolicy, hresult⟩ := GateCall.evaluated_eq_some lostPayout_evaluated
  have hevaluated : (payoutAgain "000000000002").evaluated retrySettings =
      some (lostEvaluation.1, lostEvaluation.2.withReferral "000000000002") := by
    obtain ⟨heffective, hunexpired⟩ := lossDay_covered policy (List.mem_of_find?_eq_some hpolicy)
    have hagain : (payoutAgain "000000000002").payout.evaluate retrySettings.floats policy =
        some (lostEvaluation.2.withReferral "000000000002") :=
      evaluate_again hresult lostPayout_halfDone.approved rfl rfl heffective hunexpired
    have hpolicy' : resolvePolicy retrySettings.policies
        (payoutAgain "000000000002").payout.request.policyNumber = some policy := hpolicy
    have hamount' : (payoutAgain "000000000002").payout.request.payoutAmount =
        some lostEvaluation.1 := hamount
    simp [GateCall.evaluated, hamount', hpolicy', hagain]
  have hpaid := approved_quantized hresult lostPayout_halfDone.approved
  rw [hretry.completes_iff hw hown hevaluated lostPayout_halfDone.approved hpaid,
    commitRefusal_eq_none_iff rfl, hown.fingerprint, hown.platform, hown.operationId]
  rintro ⟨hsame, -⟩
  have hagain : retrySettings.deployment.sha256
      (fingerprintPayload "claim_gate" "CLM-1" againFacets) = againFingerprint := by
    simp [retrySettings, Deployment.ofDigests, retryDigests]
  have hother : "siu_" ++ "000000000002" ≠ lostEvaluation.2.siuReferral.referralId := by
    decide +kernel
  refine againFingerprint_ne (fun htext => hother ?_) (hsame.symm.trans ?_)
  · rw [← facetsText_withReferral, htext, facetsText, againFacets_eq]
    rfl
  · rw [← hagain, ← againFacets_eq]
    rfl

end Governor.Sector
