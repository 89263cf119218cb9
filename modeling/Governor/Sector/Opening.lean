import Mathlib
import Governor.Sector.Bound

/-!
# Requests that open a crystal

What the spine must hold for a crystallize to open a crystal, and what becomes of the crystal: it
is closed once at most, and otherwise stays as it was made.
-/

namespace Governor.Sector

open Finance
open Ledger (Clock Decimal)

/-! ## Requests that the spine accepts -/

/-- The platform guard lets the facets pass. -/
def GuardAllows (db : Database) (platform : String) (facets : Facets) : Prop :=
  ∃ registry record, db.platformRegistry = some registry ∧ registry.find? platform = some record ∧
    record.enabled = true ∧
    ((record.facetSchema.map FacetSchema.required).getD []).filter
      (fun key => (facets.lookup key).isNone) = []

/-- A request without a reserve that the spine answers with a new crystal. -/
structure Accepts (db : Database) (enforce : Bool) (uuid : String) (policy : InstrumentPolicy)
    (request : CrystallizeRequest) : Prop where
  guard : enforce = true → GuardAllows db request.platform request.facets
  policyId : request.policyId = some policy.policyId
  named : policy.policyId ≠ ""
  registered : db.instrumentPolicyRegistry.find? policy.policyId = some policy
  enabled : policy.enabled = true
  allowed : exceedsMoney request.reservedExposure policy.maxExposurePerCommit = false
  reserve : quantizeMoney request.reservedExposure = 0
  newOperation : findCrystal db request.platform request.operationId = none
  newCrystal : db.governanceCrystals.find? ("crys_" ++ uuid) = none
  newEscrow : db.commitEscrowLedger.find? request.operationId = none

section Accepts

variable {d : Deployment} {s : FinanceSession} {E : Exn → FinanceSession → Prop}

theorem wp_assertPlatformAllowed_of_allows {enforce : Bool} {platform : String} {facets : Facets}
    {Q : Unit → FinanceSession → Prop}
    (hallows : enforce = true → GuardAllows s.working platform facets) (h : Q () s) :
    Tx.wp (assertPlatformAllowed enforce platform facets) Q E s := by
  cases enforce with
  | false => exact h
  | true =>
    obtain ⟨registry, record, hregistry, hfind, henabled, hmissing⟩ := hallows rfl
    simp only [assertPlatformAllowed, ite_true, Tx.wp_bind, Tx.wp_read, hregistry,
      Option.bind_some, hfind, Option.filter_some, henabled, hmissing, Tx.wp_pure]
    exact h

/-- A request that the spine accepts opens its crystal. -/
theorem wp_crystallizeOperation_of_accepts {enforce raced : Bool} {clock : Clock} {uuid : String}
    {policy : InstrumentPolicy} {request : CrystallizeRequest}
    {Q : CrystallizeResult → FinanceSession → Prop} (hids : IdsDrawn s)
    (haccepts : Accepts s.working enforce uuid policy request)
    (h : ∀ result s', result.horizonExpiresAt =
      clock.utcnow + policy.commitHorizonMs * 1000 → Q result s') :
    Tx.wp (crystallizeOperation d raced clock uuid request) Q E s := by
  have hnone : (if raced then none else
      findCrystal s.working request.platform request.operationId) = none := by
    rw [haccepts.newOperation, ite_self]
  have htruthy : Ledger.truthy (some policy.policyId) = true := by
    simp [Ledger.truthy, haccepts.named]
  simp only [crystallizeOperation, Tx.wp_bind, Tx.wp_read, hnone, crystallizeNew, policyHorizon,
    haccepts.policyId, htruthy, ite_true, Option.getD_some, haccepts.registered, Option.filter_some,
    haccepts.enabled, haccepts.allowed, Bool.false_eq_true, ite_false, Tx.wp_pure,
    haccepts.reserve, reserveBalance, lt_self_iff_false]
  refine wp_insertCrystal_of_new haccepts.newCrystal haccepts.newOperation ?_ ?_
  · rintro _ ⟨⟩
    rw [haccepts.registered]
    rfl
  · refine wp_insertEscrow_of_new haccepts.newEscrow haccepts.reserve.ge ?_
    refine wp_appendEvent hids fun s' _ => ?_
    simp only [Tx.wp_commit, Tx.wp_pure]
    exact h _ _ rfl

/-- The crystal that the spine opens for a request it accepts. -/
theorem crystallize_accepted {w : FinanceWorld} (hw : Sound w) {enforce : Bool} {uuid : String}
    {policy : InstrumentPolicy} {request : CrystallizeRequest}
    (haccepts : Accepts w.tables enforce uuid policy request) (raced : Bool) (clock : Clock) :
    ∃ c prev horizon, c = sealCrystal d clock uuid request request.policyId prev horizon ∧
      c.horizonExpiresAt = clock.utcnow + policy.commitHorizonMs * 1000 ∧
      Opens w.tables c (openEscrow request c.crystalId)
        (step d w (.crystallize enforce raced clock uuid request)).tables ∧
      respond d w (.crystallize enforce raced clock uuid request) = .ok (.crystallized
        ⟨c.crystalId, request.operationId, .crystallized, c.horizonExpiresAt⟩) := by
  have hreturns : ∃ result, respond d w (.crystallize enforce raced clock uuid request) =
      .ok (.crystallized result) ∧
      result.horizonExpiresAt = clock.utcnow + policy.commitHorizonMs * 1000 := by
    apply Tx.run_of_wp (R := fun (r : Except Exn Response) _ => ∃ result,
      r = .ok (.crystallized result) ∧
        result.horizonExpiresAt = clock.utcnow + policy.commitHorizonMs * 1000)
    simp only [Action.body, Tx.wp_bind]
    refine wp_assertPlatformAllowed_of_allows haccepts.guard ?_
    exact wp_crystallizeOperation_of_accepts hw.drawn haccepts fun result _ h => ⟨result, rfl, h⟩
  obtain ⟨result, hresult, hhorizon⟩ := hreturns
  have hc := (body_committed (d := d) hw (.crystallize enforce raced clock uuid request)).1
  generalize hr : respond d w (.crystallize enforce raced clock uuid request) = r at hc
  generalize (step d w (.crystallize enforce raced clock uuid request)).tables = db' at hc ⊢
  rw [hresult] at hr
  subst hr
  cases hc with
  | crystallize h =>
    cases h with
    | replayed _ hfind =>
      rw [haccepts.newOperation] at hfind
      cases hfind
    | @opened c prev horizon _ _ hseal hopens =>
      exact ⟨c, prev, horizon, hseal, hhorizon, hopens, rfl⟩

/-- An operation whose crystallize arrives at a spine that accepts it opens its crystal. -/
theorem crystallize_new {m : PlatformManifest} {g : GovernCall} {t : Exchange} {w : FinanceWorld}
    {policy : InstrumentPolicy} {reserved : Decimal} (hw : Sound w)
    (hreserve : m.reserve g = some reserved) (hdelivery : t.delivery ≠ .lost)
    (hrefusal : t.refusal t.guardrail = none)
    (haccepts : Accepts (run d w t.meanwhile).tables t.enforce t.uuid policy
      (m.crystallizeRequest g reserved)) :
    Sound (m.crystallize d g t w).2 ∧ ∃ c prev horizon,
      c = sealCrystal d t.clock t.uuid (m.crystallizeRequest g reserved)
        (m.crystallizeRequest g reserved).policyId prev horizon ∧
      Opens (run d w t.meanwhile).tables c
        (openEscrow (m.crystallizeRequest g reserved) c.crystalId)
        (m.crystallize d g t w).2.tables := by
  have hrun := run_sound (d := d) hw t.meanwhile
  have hsent : (m.crystallize d g t w).2 = step d (run d w t.meanwhile)
      (.crystallize t.enforce t.raced t.clock t.uuid (m.crystallizeRequest g reserved)) := by
    rw [PlatformManifest.crystallize, hreserve, Option.map_some, spineCrystallize_snd,
      if_neg (by simp [hdelivery, hrefusal])]
  obtain ⟨c, prev, horizon, hseal, -, hopens, -⟩ :=
    crystallize_accepted (d := d) hrun haccepts t.raced t.clock
  rw [hsent]
  exact ⟨step_sound hrun _, c, prev, horizon, hseal, hopens⟩

/-- A crystallize of an operation that has a crystal answers with it and changes nothing. -/
theorem crystallize_found {w : FinanceWorld} {enforce : Bool} {request : CrystallizeRequest}
    {existing : CrystalRow}
    (hguard : enforce = true → GuardAllows w.tables request.platform request.facets)
    (hfind : findCrystal w.tables request.platform request.operationId = some existing)
    (clock : Clock) (uuid : String) : respond d w (.crystallize enforce false clock uuid request) =
      .ok (.crystallized
        ⟨existing.crystalId, request.operationId, .replay, existing.horizonExpiresAt⟩) ∧
      step d w (.crystallize enforce false clock uuid request) = w := by
  apply Tx.run_of_wp (R := fun (r : Except Exn Response) w' => r = .ok (.crystallized
    ⟨existing.crystalId, request.operationId, .replay, existing.horizonExpiresAt⟩) ∧ w' = w)
  simp only [Action.body, Tx.wp_bind]
  refine wp_assertPlatformAllowed_of_allows hguard ?_
  simp [crystallizeOperation, Tx.wp_bind, Tx.wp_read, Tx.wp_pure, hfind]

/-- A request that is answered was let pass. -/
theorem guardAllows_of_ok {w : FinanceWorld} {raced : Bool} {clock : Clock} {uuid : String}
    {request : CrystallizeRequest} {body : Response}
    (h : respond d w (.crystallize true raced clock uuid request) = .ok body) :
    GuardAllows w.tables request.platform request.facets := by
  by_contra hguard
  have hraises : ∃ exn, respond d w (.crystallize true raced clock uuid request) = .error exn := by
    apply Tx.run_of_wp (R := fun (r : Except Exn Response) _ => ∃ exn, r = .error exn)
    simp only [Action.body, assertPlatformAllowed, ite_true, Tx.wp_bind, Tx.wp_read]
    split
    · exact ⟨_, rfl⟩
    · next record hrecord =>
      obtain ⟨hrecord, henabled⟩ := Option.filter_eq_some_iff.mp hrecord
      obtain ⟨registry, hregistry, hfind⟩ := Option.bind_eq_some_iff.mp hrecord
      rw [Tx.wp_ite, if_neg fun hmissing =>
        hguard ⟨registry, record, hregistry, hfind, henabled, hmissing⟩]
      exact ⟨_, rfl⟩
  obtain ⟨exn, hexn⟩ := hraises
  rw [h] at hexn
  cases hexn

/-- A crystallize of a new operation opens its crystal. -/
theorem CrystallizeCommitted.opens_of_new {raced : Bool} {clock : Clock}
    {uuid : String} {request : CrystallizeRequest} {db db' : Database} {answer : CrystallizeResult}
    (h : CrystallizeCommitted d raced clock uuid request db (.ok (.crystallized answer)) db')
    (hnew : findCrystal db request.platform request.operationId = none) :
    ∃ c prev horizon, c = sealCrystal d clock uuid request request.policyId prev horizon ∧
      Opens db c (openEscrow request c.crystalId) db' := by
  cases h with
  | replayed _ hfind => exact absurd (hfind.symm.trans hnew) (by simp)
  | opened _ hseal hopens => exact ⟨_, _, _, hseal, hopens⟩

end Accepts

/-! ## Crystals that are held -/

/-- The crystal is stored as it was made, open or closed. -/
def Holds (db : Database) (c : CrystalRow) : Prop :=
  ∃ state, db.governanceCrystals.find? c.crystalId = some { c with terminalState := state }

section Holds

variable {db db' : Database} {c x : CrystalRow} {e : EscrowRow} {r : Resolution}

theorem holds_of_find? {crystalId : String}
    (h : db.governanceCrystals.find? crystalId = some c) : Holds db c := by
  obtain rfl := Table.find?_some_key h
  exact ⟨c.terminalState, h⟩

theorem Opens.holds (h : Opens db c e db') : Holds db' c := by
  have hfind : db'.governanceCrystals.find? c.crystalId = some c := by
    rw [h.crystals, Table.find?_put_self]
  exact holds_of_find? hfind

theorem Holds.opens (h : Holds db x) (hopens : Opens db c e db') : Holds db' x := by
  obtain ⟨state, hfind⟩ := h
  have hne : x.crystalId ≠ c.crystalId := by
    intro hid
    rw [hid, hopens.newCrystal] at hfind
    cases hfind
  refine ⟨state, ?_⟩
  rw [hopens.crystals, Table.find?_put, if_neg hne]
  exact hfind

theorem Holds.closes (h : Holds db x) (hcloses : Closes db r db') : Holds db' x := by
  obtain ⟨state, hfind⟩ := h
  by_cases hid : x.crystalId = r.crystal.crystalId
  · have hstored := hcloses.crystal
    rw [← hid, hfind] at hstored
    have hcrystal := Option.some.inj hstored
    refine ⟨some r.closing.state, ?_⟩
    rw [hcloses.crystals, Table.find?_put, CrystalRow.close_crystalId, if_pos hid, ← hcrystal]
    rfl
  · refine ⟨state, ?_⟩
    rw [hcloses.crystals, Table.find?_put, CrystalRow.close_crystalId, if_neg hid]
    exact hfind

/-- The crystal that is held for an operation is the one found for it. -/
theorem Holds.findCrystal (hdb : Agrees db) (h : Holds db x) :
    ∃ state, findCrystal db x.platform x.operationId = some { x with terminalState := state } := by
  obtain ⟨state, hfind⟩ := h
  exact ⟨state, findCrystal_of_mem hdb (Table.mem_of_find? hfind)⟩

end Holds

end Governor.Sector
