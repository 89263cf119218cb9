import Mathlib
import Governor.Finance.Expiry

/-!
# The platforms' side of the spine

The platforms of the fleet reach the spine through two helpers that turn every exception into
`None`. The last part says when the spine opens a crystal for a request: the conditions under
which `crystallize_operation` does not raise.
-/

namespace Governor.Finance

open Ledger (Clock Decimal Money)

/-! ## Helpers -/

/-- `PlatformConfig`, as far as the helpers read it. -/
structure PlatformConfig where
  name : String
  defaultRiskTier : String
  defaultPolicyId : Option String

/-- `ALGOFREEZE_CONFIG`. -/
def algofreezeConfig : PlatformConfig := ⟨"algofreeze", "critical", some "algo-critical-us"⟩

/-- `SUBLEDGER_CONFIG`. -/
def subledgerConfig : PlatformConfig := ⟨"subledger_sync", "high", none⟩

/-- `ASSET_LEDGER_CONFIG`. -/
def assetLedgerConfig : PlatformConfig := ⟨"asset_ledger", "high", none⟩

/-- `CREDIT_GOVERN_CONFIG`. -/
def creditGovernConfig : PlatformConfig := ⟨"credit_govern", "high", some "credit-high-us"⟩

/-- The decimal that the sidecar reads from the text of an amount, if it can be read. -/
abbrev DecimalReader := String → Option Decimal

/-- `reserved_exposure: str = "0"`. -/
def defaultReserve : Decimal := ⟨0, 0⟩

/-- The request that the helpers send for an operation of a platform. -/
def PlatformConfig.request (config : PlatformConfig) (operationId : String) (facets : Facets) :
    CrystallizeRequest where
  platform := config.name
  operationId := operationId
  accountId := "desk-default"
  riskTier := config.defaultRiskTier
  facets := facets
  policyId := config.defaultPolicyId
  reservedExposure := defaultReserve
  parentCrystalId := none

/-- A request whose body the sidecar cannot read: it is refused without a transaction. -/
def refuseWithRetry (d : Deployment) :
    Nat → List Attempt → FinanceWorld → Except AdapterError Unit × FinanceWorld
  | 0, _, w => (.error .spineAdapterError, w)
  | _ + 1, [], w => (.error .spineAdapterError, w)
  | n + 1, t :: ts, w =>
    match t.delivery with
    | .answered => (.error (.httpStatusError 422), run d w t.meanwhile)
    | _ => refuseWithRetry d n ts (run d w t.meanwhile)

namespace SpineHelpers

/-- `crystallize`. -/
def crystallize (d : Deployment) (config : PlatformConfig) (operationId : String)
    (facets : Facets) (ts : List Attempt) (w : FinanceWorld) : Option String × FinanceWorld :=
  let r := spineCrystallize d (config.request operationId facets) ts w
  (r.1.toOption, r.2)

/-- `adapter.commit` for the crystal of the operation. -/
def commit (d : Deployment) (crystalId : String) (facets : Facets)
    (committedExposure : Option Decimal) (outcome : String) (ts : List Attempt)
    (w : FinanceWorld) : Except AdapterError Unit × FinanceWorld :=
  match committedExposure with
  | none => refuseWithRetry d 3 ts w
  | some committed => spineCommit d ⟨crystalId, facets, committed, outcome, false⟩ ts w

/-- `crystallize_and_commit`. -/
def crystallizeAndCommit (d : Deployment) (config : PlatformConfig) (operationId : String)
    (facets : Facets) (committedExposure : Option Decimal) (outcome : String)
    (ts ts' : List Attempt) (w : FinanceWorld) : Option String × FinanceWorld :=
  match spineCrystallize d (config.request operationId facets) ts w with
  | (.error _, w') => (none, w')
  | (.ok crystalId, w') =>
    match commit d crystalId facets committedExposure outcome ts' w' with
    | (.error _, w'') => (none, w'')
    | (.ok (), w'') => (some crystalId, w'')

section Keeps

variable {d : Deployment} {I : FinanceWorld → Prop} {ts ts' : List Attempt} {w : FinanceWorld}

theorem refuseWithRetry_keeps (hstep : ∀ w a, I w → I (step d w a)) (h : I w) (n : Nat) :
    I (refuseWithRetry d n ts w).2 := by
  induction n generalizing ts w with
  | zero => exact h
  | succ n ih =>
    cases ts with
    | nil => exact h
    | cons t ts =>
      have hrun : I (run d w t.meanwhile) := foldl_invariant h hstep t.meanwhile
      simp only [refuseWithRetry]
      cases t.delivery with
      | answered => exact hrun
      | lost => exact ih hrun
      | unanswered => exact ih hrun

theorem crystallize_keeps (hstep : ∀ w a, I w → I (step d w a)) (h : I w)
    (config : PlatformConfig) (operationId : String) (facets : Facets) :
    I (crystallize d config operationId facets ts w).2 :=
  requestWithRetry_keeps (fun t _ _ hw => foldl_invariant hw hstep t.meanwhile)
    (fun _ _ w hw => hstep w _ hw) h

theorem commit_keeps (hstep : ∀ w a, I w → I (step d w a)) (h : I w) (crystalId : String)
    (facets : Facets) (committedExposure : Option Decimal) (outcome : String) :
    I (commit d crystalId facets committedExposure outcome ts w).2 := by
  unfold commit
  split
  · exact refuseWithRetry_keeps hstep h 3
  · exact requestWithRetry_keeps (fun t _ _ hw => foldl_invariant hw hstep t.meanwhile)
      (fun _ _ w hw => hstep w _ hw) h

/-- What every transaction of the spine keeps is kept by the helper, whatever the spine does. -/
theorem crystallizeAndCommit_keeps (hstep : ∀ w a, I w → I (step d w a)) (h : I w)
    (config : PlatformConfig) (operationId : String) (facets : Facets)
    (committedExposure : Option Decimal) (outcome : String) :
    I (crystallizeAndCommit d config operationId facets committedExposure outcome ts ts' w).2 := by
  have hcrystallize : I (spineCrystallize d (config.request operationId facets) ts w).2 :=
    crystallize_keeps hstep h config operationId facets
  unfold crystallizeAndCommit
  generalize spineCrystallize d (config.request operationId facets) ts w = r at hcrystallize ⊢
  obtain ⟨r, w'⟩ := r
  cases r with
  | error exn => exact hcrystallize
  | ok crystalId =>
    have hcommit : I (commit d crystalId facets committedExposure outcome ts' w').2 :=
      commit_keeps hstep hcrystallize crystalId facets committedExposure outcome
    simp only
    generalize commit d crystalId facets committedExposure outcome ts' w' = r' at hcommit ⊢
    obtain ⟨r', w''⟩ := r'
    cases r' <;> exact hcommit

end Keeps

end SpineHelpers

/-! ## Requests that the spine accepts -/

/-- The platform is allowed and the facets pass its schema. -/
def PlatformAllows (db : Database) (platform : String) (facets : Facets) : Prop :=
  ∀ registry, db.platformRegistry = some registry → ∃ record, registry.find? platform = some record ∧
    record.enabled = true ∧ record.facetSchema.bind (facetError platform facets) = none

/-- The request names an enabled policy that allows its reserve. -/
def PolicyAllows (db : Database) (policyId : Option String) (reservedExposure : Decimal) : Prop :=
  ∃ pid pol, policyId = some pid ∧ pid ≠ "" ∧ db.instrumentPolicyRegistry.find? pid = some pol ∧
    pol.enabled = true ∧ exceedsMoney reservedExposure pol.maxExposurePerCommit = false

/-- A request without a reserve that the spine answers with a new crystal. -/
structure Accepts (db : Database) (uuid : String) (request : CrystallizeRequest) : Prop where
  platform : PlatformAllows db request.platform request.facets
  policy : PolicyAllows db request.policyId request.reservedExposure
  reserve : quantizeMoney request.reservedExposure = 0
  newOperation : findCrystal db request.platform request.operationId = none
  newCrystal : db.governanceCrystals.find? ("crys_" ++ uuid) = none
  newEscrow : db.commitEscrowLedger.find? request.operationId = none

section Accepts

variable {d : Deployment} {s : FinanceSession} {E : Exn → FinanceSession → Prop}

theorem wp_assertPlatformAllowed_of_allows {platform : String} {facets : Facets}
    {Q : PlatformRecord → FinanceSession → Prop} (hallows : PlatformAllows s.working platform facets)
    (h : ∀ record, record.facetSchema.bind (facetError platform facets) = none → Q record s) :
    Tx.wp (assertPlatformAllowed platform) Q E s := by
  simp only [assertPlatformAllowed, Tx.wp_bind, Tx.wp_read]
  split
  · exact h _ rfl
  · next registry hregistry =>
    obtain ⟨record, hfind, henabled, hfacets⟩ := hallows registry hregistry
    rw [hfind]
    simp only [henabled, ite_true, Tx.wp_pure]
    exact h record hfacets

theorem wp_policyHorizon_of_allows {policyId : Option String} {reservedExposure : Decimal}
    {Q : Option Int → FinanceSession → Prop}
    (hallows : PolicyAllows s.working policyId reservedExposure) (h : ∀ horizon, Q horizon s) :
    Tx.wp (policyHorizon policyId reservedExposure) Q E s := by
  obtain ⟨pid, pol, rfl, hne, hfind, henabled, hexceeds⟩ := hallows
  have htruthy : Ledger.truthy (some pid) = true := by simp [Ledger.truthy, hne]
  simp only [policyHorizon, htruthy, ite_true, Tx.wp_bind, Tx.wp_read, Option.getD_some, hfind,
    henabled, hexceeds]
  exact h _

theorem wp_insertCrystal_of_new {c : CrystalRow} {Q : Unit → FinanceSession → Prop}
    (hnew : s.working.governanceCrystals.find? c.crystalId = none)
    (hop : findCrystal s.working c.platform c.operationId = none)
    (hpolicy : ∀ pid, c.policyId = some pid →
      (s.working.instrumentPolicyRegistry.find? pid).isSome)
    (h : Q () { s with working := { s.working with
      governanceCrystals := s.working.governanceCrystals.put c } }) :
    Tx.wp (insertCrystal c) Q E s := by
  have hins : s.working.governanceCrystals.insert? c =
      some (s.working.governanceCrystals.put c) := Table.insert?_eq_some.mpr ⟨hnew, rfl⟩
  have hunique : (s.working.governanceCrystals.rows.any fun x =>
      x.platform = c.platform && x.operationId = c.operationId) = false := by
    rw [List.any_eq_false]
    intro x hx hsame
    exact List.find?_eq_none.mp hop x hx hsame
  have hreferenced : (c.policyId.any fun p =>
      (s.working.instrumentPolicyRegistry.find? p).isNone) = false := by
    cases hp : c.policyId with
    | none => rfl
    | some pid => simpa using hpolicy pid hp
  simp only [insertCrystal, Tx.wp_bind, Tx.wp_read, hins, hunique, hreferenced]
  exact h

theorem wp_insertEscrow_of_new {e : EscrowRow} {Q : Unit → FinanceSession → Prop}
    (hnew : s.working.commitEscrowLedger.find? e.operationId = none)
    (hreserved : 0 ≤ e.reservedExposure)
    (h : Q () { s with working := { s.working with
      commitEscrowLedger := s.working.commitEscrowLedger.put e } }) :
    Tx.wp (insertEscrow e) Q E s := by
  have hins : s.working.commitEscrowLedger.insert? e =
      some (s.working.commitEscrowLedger.put e) := Table.insert?_eq_some.mpr ⟨hnew, rfl⟩
  simp only [insertEscrow, Tx.wp_bind, Tx.wp_read, if_neg (not_lt.mpr hreserved), hins]
  exact h

/-- A request that the spine accepts returns. -/
theorem wp_crystallizeOperation_of_accepts {raced : Bool} {clock : Clock} {uuid : String}
    {request : CrystallizeRequest} {Q : CrystallizeResult → FinanceSession → Prop}
    (hids : IdsDrawn s) (haccepts : Accepts s.working uuid request) (h : ∀ result s', Q result s') :
    Tx.wp (crystallizeOperation d raced clock uuid request) Q E s := by
  obtain ⟨pid, pol, hpid, hne, hfind, -⟩ := haccepts.policy
  have hnone : (if raced then none else
      findCrystal s.working request.platform request.operationId) = none := by
    rw [haccepts.newOperation, ite_self]
  have heffective : ∀ record, effectivePolicyId record request.policyId = some pid := by
    intro record
    simp [effectivePolicyId, hpid]
  simp only [crystallizeOperation, Tx.wp_bind]
  refine wp_assertPlatformAllowed_of_allows haccepts.platform fun record _ => ?_
  simp only [validatePlatformFacets, Tx.wp_bind]
  refine wp_assertPlatformAllowed_of_allows haccepts.platform fun record' hfacets => ?_
  simp only [hfacets, Tx.wp_pure, Tx.wp_read, hnone, crystallizeNew, Tx.wp_bind, heffective]
  refine wp_policyHorizon_of_allows (hpid ▸ haccepts.policy) fun horizon => ?_
  simp only [Tx.wp_read, haccepts.reserve, reserveExposure, lt_self_iff_false, ite_false,
    Tx.wp_pure]
  refine wp_insertCrystal_of_new haccepts.newCrystal haccepts.newOperation ?_ ?_
  · rintro _ ⟨⟩
    rw [hfind]
    rfl
  · refine wp_insertEscrow_of_new haccepts.newEscrow haccepts.reserve.ge ?_
    refine wp_appendDecisionEvent hids fun s' _ => ?_
    simp only [Tx.wp_commit, Tx.wp_pure]
    exact h _ _

end Accepts

/-- The crystal that the spine opens for a request it accepts. -/
theorem crystallize_accepted {d : Deployment} {w : FinanceWorld} (hw : Sound w) {uuid : String}
    {request : CrystallizeRequest} (haccepts : Accepts w.tables uuid request) (raced : Bool)
    (clock : Clock) :
    ∃ policyId prev horizon, Opens w.tables
      (sealCrystal d clock uuid request policyId prev horizon)
      (openEscrow request ("crys_" ++ uuid))
      (step d w (.crystallize raced clock uuid request)).tables ∧
      respond d w (.crystallize raced clock uuid request) = .ok (.crystallized
        ⟨"crys_" ++ uuid, request.operationId, .crystallized,
          (sealCrystal d clock uuid request policyId prev horizon).horizonExpiresAt⟩) := by
  have hreturns : ∃ body, respond d w (.crystallize raced clock uuid request) = .ok body := by
    apply Tx.run_of_wp (R := fun r _ => ∃ body, r = .ok body)
    simp only [Action.body, Tx.wp_bind]
    exact wp_crystallizeOperation_of_accepts hw.drawn haccepts fun _ _ => ⟨_, rfl⟩
  obtain ⟨body, hbody⟩ := hreturns
  have hc := (body_committed (d := d) hw (.crystallize raced clock uuid request)).1
  generalize hr : respond d w (.crystallize raced clock uuid request) = r at hc
  generalize (step d w (.crystallize raced clock uuid request)).tables = db' at hc ⊢
  rw [hbody] at hr
  cases hc with
  | crystallize h =>
    cases h with
    | refused => cases hr
    | replayed _ hfind _ =>
      rw [haccepts.newOperation] at hfind
      cases hfind
    | opened hseal hopens =>
      subst hseal
      exact ⟨_, _, _, hopens, rfl⟩

end Governor.Finance
