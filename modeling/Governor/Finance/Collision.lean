import Mathlib
import Governor.Finance.Refinement

/-!
# Operation ids across platforms

`governance_crystals` is keyed by platform and operation, `commit_escrow_ledger` by the
operation alone. Two spines that differ in the operation of another platform are compared:
`crystallize_operation` never opens a crystal for an operation id that the other platform has
used, so the two answer alike only where the request is refused anyway.
-/

namespace Governor.Finance

open Ledger (Timestamp Hash Decimal Money Clock truthy)

variable {d : Deployment}

/-! ## The checks of a crystallize -/

/-- The record of a platform that may crystallize. -/
def allowedPlatform (db : Database) (platform : String) : Option PlatformRecord :=
  match db.platformRegistry with
  | none => some ⟨platform, true, none, none⟩
  | some registry => (registry.find? platform).filter PlatformRecord.enabled

/-- The policy is enabled and covers the reserve. -/
def policyAllows (db : Database) (policyId : Option String) (reservedExposure : Decimal) : Bool :=
  if truthy policyId then
    (db.instrumentPolicyRegistry.find? (policyId.getD "")).any fun pol =>
      pol.enabled && !exceedsMoney reservedExposure pol.maxExposurePerCommit
  else true

/-- A policy that the crystal names is in the registry. -/
def policyKnown (db : Database) (policyId : Option String) : Bool :=
  policyId.all fun p => (db.instrumentPolicyRegistry.find? p).isSome

/-- The reserve is zero, or an active account covers it. -/
def reserveFunded (db : Database) (accountId : String) (reserved : Money) : Bool :=
  if 0 < reserved then
    (db.accountLedgers.find? accountId).any fun a => a.active && reserved ≤ a.balance
  else 0 ≤ reserved

theorem reserveFunded_nonneg {db : Database} {accountId : String} {reserved : Money}
    (h : reserveFunded db accountId reserved = true) : 0 ≤ reserved := by
  unfold reserveFunded at h
  split_ifs at h with hpos
  · exact hpos.le
  · simpa using h

/-- The checks that `crystallize_operation` and the constraints of `governance_crystals` make of
a request, the key of the operation apart. -/
def admits (db : Database) (uuid : String) (request : CrystallizeRequest) : Bool :=
  (allowedPlatform db request.platform).any fun record =>
    (record.facetSchema.bind (facetError request.platform request.facets)).isNone &&
    policyAllows db (effectivePolicyId record request.policyId) request.reservedExposure &&
    policyKnown db (effectivePolicyId record request.policyId) &&
    reserveFunded db request.accountId (quantizeMoney request.reservedExposure) &&
    (db.governanceCrystals.find? ("crys_" ++ uuid)).isNone

theorem admits_iff {db : Database} {u : String} {r : CrystallizeRequest} {record : PlatformRecord}
    (hrecord : allowedPlatform db r.platform = some record) :
    admits db u r = true ↔
      (record.facetSchema.bind (facetError r.platform r.facets)).isNone = true ∧
      policyAllows db (effectivePolicyId record r.policyId) r.reservedExposure = true ∧
      policyKnown db (effectivePolicyId record r.policyId) = true ∧
      reserveFunded db r.accountId (quantizeMoney r.reservedExposure) = true ∧
      (db.governanceCrystals.find? ("crys_" ++ u)).isNone = true := by
  simp only [admits, hrecord, Option.any_some, Bool.and_eq_true, and_assoc]

section Checks

variable {E : Exn → FinanceSession → Prop} {s : FinanceSession}

theorem wp_assertPlatformAllowed_of {platform : String}
    {Q : PlatformRecord → FinanceSession → Prop}
    (h : ∀ record, allowedPlatform s.working platform = some record → Q record s)
    (hE : ∀ exn, allowedPlatform s.working platform = none → E exn s) :
    Tx.wp (assertPlatformAllowed platform) Q E s := by
  simp only [assertPlatformAllowed, Tx.wp_bind, Tx.wp_read]
  cases hreg : s.working.platformRegistry with
  | none => exact h _ (by simp [allowedPlatform, hreg])
  | some registry =>
    cases hfind : registry.find? platform with
    | none =>
      simp only [hfind, Tx.wp_raise]
      exact hE _ (by simp [allowedPlatform, hreg, hfind])
    | some record =>
      simp only [hfind, Tx.wp_ite, Tx.wp_pure, Tx.wp_raise]
      split_ifs with henabled
      · exact h record (by simp [allowedPlatform, hreg, hfind, Option.filter, henabled])
      · exact hE _ (by simp [allowedPlatform, hreg, hfind, Option.filter, henabled])

theorem wp_validatePlatformFacets_of {platform : String} {facets : Facets}
    {record : PlatformRecord} {Q : Unit → FinanceSession → Prop}
    (hrecord : allowedPlatform s.working platform = some record)
    (h : (record.facetSchema.bind (facetError platform facets)).isNone = true → Q () s)
    (hE : ∀ exn, (record.facetSchema.bind (facetError platform facets)).isNone = false →
      E exn s) :
    Tx.wp (validatePlatformFacets platform facets) Q E s := by
  simp only [validatePlatformFacets, Tx.wp_bind]
  refine wp_assertPlatformAllowed_of (fun record' hrecord' => ?_) fun exn hnone => ?_
  · obtain rfl := Option.some.inj (hrecord.symm.trans hrecord')
    split
    · next hnone => exact h (by rw [hnone]; rfl)
    · next message hsome => exact hE _ (by rw [hsome]; rfl)
  · rw [hrecord] at hnone
    cases hnone

theorem wp_policyHorizon_of {policyId : Option String} {reservedExposure : Decimal}
    {Q : Option Int → FinanceSession → Prop}
    (h : ∀ horizon, policyAllows s.working policyId reservedExposure = true → Q horizon s)
    (hE : ∀ exn, policyAllows s.working policyId reservedExposure = false → E exn s) :
    Tx.wp (policyHorizon policyId reservedExposure) Q E s := by
  unfold policyHorizon
  split_ifs with htruthy
  · simp only [Tx.wp_bind, Tx.wp_read]
    cases hfind : s.working.instrumentPolicyRegistry.find? (policyId.getD "") with
    | none => exact hE _ (by simp [policyAllows, htruthy, hfind])
    | some pol =>
      simp only [Tx.wp_ite, Tx.wp_raise, Tx.wp_pure]
      split_ifs with hdisabled hexceeds
      · exact hE _ (by simp_all [policyAllows])
      · exact hE _ (by simp [policyAllows, htruthy, hfind, hexceeds])
      · exact h _ (by simp_all [policyAllows])
  · exact h _ (by simp [policyAllows, htruthy])

/-- The reserve is taken when it is funded; a negative one is left to the escrow row. -/
theorem wp_reserveExposure_of {accountId : String} {reserved : Money}
    {Q : Unit → FinanceSession → Prop}
    (h : ∀ accounts, (reserveFunded s.working accountId reserved = true ∨ reserved < 0) →
      Q () { s with working := { s.working with accountLedgers := accounts } })
    (hE : ∀ exn, reserveFunded s.working accountId reserved = false → E exn s) :
    Tx.wp (reserveExposure accountId reserved) Q E s := by
  unfold reserveExposure
  split_ifs with hpos
  · simp only [Tx.wp_bind, Tx.wp_read]
    cases hfind : s.working.accountLedgers.find? accountId with
    | none => exact hE _ (by simp [reserveFunded, hpos, hfind])
    | some account =>
      simp only [Tx.wp_ite, Tx.wp_raise, Tx.wp_write]
      split_ifs with hinactive hshort
      · exact hE _ (by simp_all [reserveFunded])
      · exact hE _ (by simp [reserveFunded, hpos, hfind, hshort])
      · exact h _ (Or.inl (by simp_all [reserveFunded]))
  · refine h s.working.accountLedgers ?_
    rcases lt_or_ge reserved 0 with hneg | hnonneg
    · exact Or.inr hneg
    · exact Or.inl (by simp [reserveFunded, hpos, hnonneg])

theorem wp_insertCrystal_of {c : CrystalRow} {Q : Unit → FinanceSession → Prop}
    (hnew : findCrystal s.working c.platform c.operationId = none)
    (h : (s.working.governanceCrystals.find? c.crystalId).isNone = true →
      policyKnown s.working c.policyId = true →
      Q () { s with working := { s.working with
        governanceCrystals := s.working.governanceCrystals.put c } })
    (hE : ∀ exn, ((s.working.governanceCrystals.find? c.crystalId).isNone = false ∨
      policyKnown s.working c.policyId = false) → E exn s) :
    Tx.wp (insertCrystal c) Q E s := by
  simp only [insertCrystal, Tx.wp_bind, Tx.wp_read]
  split
  · next hins =>
    refine hE _ (Or.inl ?_)
    cases hfind : s.working.governanceCrystals.find? c.crystalId with
    | none =>
      have hput := Table.insert?_eq_some.mpr ⟨hfind, rfl⟩
      rw [hins] at hput
      cases hput
    | some _ => rfl
  · next t hins =>
    obtain ⟨hfresh, rfl⟩ := Table.insert?_eq_some.mp hins
    rw [findCrystal, List.find?_eq_none] at hnew
    have hunique : (s.working.governanceCrystals.rows.any fun x =>
        x.platform = c.platform && x.operationId = c.operationId) = false := by
      rw [List.any_eq_false]
      exact hnew
    have hknown : (c.policyId.any fun p => (s.working.instrumentPolicyRegistry.find? p).isNone) =
        !policyKnown s.working c.policyId := by
      cases c.policyId <;> simp [policyKnown]
    simp only [hunique, hknown, Bool.false_eq_true, ite_false, Tx.wp_ite, Tx.wp_raise, Tx.wp_write]
    split_ifs with hfk
    · exact hE _ (Or.inr (by simpa using hfk))
    · exact h (by rw [hfresh]; rfl) (by simpa using hfk)

theorem wp_insertEscrow_of {e : EscrowRow} {Q : Unit → FinanceSession → Prop}
    (h : 0 ≤ e.reservedExposure → s.working.commitEscrowLedger.find? e.operationId = none →
      Q () { s with working := { s.working with
        commitEscrowLedger := s.working.commitEscrowLedger.put e } })
    (hE : ∀ exn, e.reservedExposure < 0 ∨
      s.working.commitEscrowLedger.find? e.operationId ≠ none → E exn s) :
    Tx.wp (insertEscrow e) Q E s := by
  simp only [insertEscrow, Tx.wp_bind, Tx.wp_read]
  split_ifs with hneg
  · exact hE _ (Or.inl hneg)
  · split
    · next hins =>
      refine hE _ (Or.inr fun hfind => ?_)
      have hput := Table.insert?_eq_some.mpr ⟨hfind, rfl⟩
      rw [hins] at hput
      cases hput
    · next t hins =>
      obtain ⟨hfresh, rfl⟩ := Table.insert?_eq_some.mp hins
      exact h (not_lt.mp hneg) hfresh

end Checks

/-- A new operation is opened exactly when the request is admitted and no crystal of any platform
has its operation id. -/
theorem crystallize_isOk_iff {w : FinanceWorld} (hw : Sound w) (raced : Bool) (clock : Clock)
    (uuid : String) (request : CrystallizeRequest)
    (hnew : findCrystal w.tables request.platform request.operationId = none) :
    (respond d w (.crystallize raced clock uuid request)).isOk = true ↔
      admits w.tables uuid request = true ∧
        w.tables.commitEscrowLedger.find? request.operationId = none := by
  apply Tx.run_of_wp (R := fun r _ => r.isOk = true ↔ admits w.tables uuid request = true ∧
    w.tables.commitEscrowLedger.find? request.operationId = none)
  have hseen : (if raced then none else findCrystal w.tables request.platform
      request.operationId) = none := by
    rw [hnew, ite_self]
  have hrefused : ∀ {exn : Exn}, ¬ (admits w.tables uuid request = true ∧
      w.tables.commitEscrowLedger.find? request.operationId = none) →
      ((Except.error exn : Except Exn Response).isOk = true ↔
        admits w.tables uuid request = true ∧
          w.tables.commitEscrowLedger.find? request.operationId = none) :=
    fun h => iff_of_false (by simp [Except.isOk, Except.toBool]) h
  simp only [Action.body, crystallizeOperation, Tx.wp_bind]
  refine wp_assertPlatformAllowed_of (fun record hrecord => ?_)
    fun exn hnone => hrefused (by simp_all [admits])
  have hadmits := admits_iff (u := uuid) (r := request) hrecord
  refine wp_validatePlatformFacets_of hrecord (fun hfacets => ?_)
    fun exn hfacets => hrefused (by simp [hadmits, hfacets])
  simp only [Tx.wp_read, hseen, crystallizeNew, Tx.wp_bind]
  refine wp_policyHorizon_of (fun horizon hallows => ?_)
    fun exn hallows => hrefused (by simp [hadmits, hallows])
  refine wp_reserveExposure_of (fun accounts hfunded => ?_)
    fun exn hfunded => hrefused (by simp [hadmits, hfunded])
  refine wp_insertCrystal_of hnew (fun hfresh hknown => ?_) fun exn hrejected => hrefused ?_
  · refine wp_insertEscrow_of (fun hnonneg hescrow => ?_) fun exn hrejected => hrefused ?_
    · refine wp_appendDecisionEvent hw.drawn fun s' _ => ?_
      simp only [Tx.wp_commit, Tx.wp_pure]
      have hreserved := hfunded.resolve_right (not_lt.mpr hnonneg)
      exact iff_of_true rfl ⟨hadmits.mpr ⟨hfacets, hallows, hknown, hreserved, hfresh⟩, hescrow⟩
    · rintro ⟨hadmitted, hescrow⟩
      rcases hrejected with hneg | hused
      · exact absurd (reserveFunded_nonneg (hadmits.mp hadmitted).2.2.2.1) (not_le.mpr hneg)
      · exact hused hescrow
  · rintro ⟨hadmitted, -⟩
    obtain ⟨-, -, hknown, -, hfresh⟩ := hadmits.mp hadmitted
    rcases hrejected with hused | hunknown
    · exact absurd (hused.symm.trans hfresh) (by decide)
    · exact absurd (hunknown.symm.trans hknown) (by decide)

/-! ## Two spines -/

/-- The second database has an operation of one platform, its crystal and its escrow row, that
the first has not; the accounts and the registries are the same. -/
structure Beside (db db' : Database) (c : CrystalRow) (e : EscrowRow) : Prop where
  operationId : e.operationId = c.operationId
  newCrystal : db.governanceCrystals.find? c.crystalId = none
  newEscrow : db.commitEscrowLedger.find? e.operationId = none
  crystals : ∀ r, r ∈ db'.governanceCrystals.rows ↔ r = c ∨ r ∈ db.governanceCrystals.rows
  escrows : ∀ key, db'.commitEscrowLedger.find? key =
    if key = e.operationId then some e else db.commitEscrowLedger.find? key
  accounts : db'.accountLedgers = db.accountLedgers
  registries : SameRegistries db db'

/-- A crystallize that takes nothing from its account leaves such a pair behind. -/
theorem Opens.beside {db db' : Database} {c : CrystalRow} {e : EscrowRow} (h : Opens db c e db')
    (haccounts : db'.accountLedgers = db.accountLedgers) : Beside db db' c e where
  operationId := h.operationId
  newCrystal := h.newCrystal
  newEscrow := h.newEscrow
  crystals := by
    intro r
    rw [h.crystals, Table.rows_put_of_fresh h.newCrystal, List.mem_append, List.mem_singleton,
      or_comm]
  escrows := by
    intro key
    rw [h.escrows, Table.find?_put]
  accounts := haccounts
  registries := h.registries

/-- A new operation whose crystallize succeeds is opened. -/
theorem crystallize_opens {w : FinanceWorld} (hw : Sound w) (raced : Bool) (clock : Clock)
    (uuid : String) (request : CrystallizeRequest)
    (hnew : findCrystal w.tables request.platform request.operationId = none)
    (hok : (respond d w (.crystallize raced clock uuid request)).isOk = true) :
    ∃ c e, Opens w.tables c e (step d w (.crystallize raced clock uuid request)).tables ∧
      c.platform = request.platform ∧ c.operationId = request.operationId := by
  have hc := (body_committed (d := d) hw (.crystallize raced clock uuid request)).1
  generalize respond d w (.crystallize raced clock uuid request) = response at hok hc
  generalize (step d w (.crystallize raced clock uuid request)).tables = db' at hc ⊢
  cases hc with
  | crystallize h =>
    cases h with
    | refused => cases hok
    | replayed _ hfind => exact absurd (hnew.symm.trans hfind) (Option.some_ne_none _).symm
    | opened hseal hopens => exact ⟨_, _, hopens, by rw [hseal]; rfl, by rw [hseal]; rfl⟩

/-- What a crystallize that succeeds produces: its answer, the balances, the crystal of the
operation and the escrow row. -/
structure Produced where
  response : Response
  balance : String → Option Money
  crystal : Option CrystalRow
  escrow : Option EscrowRow

/-- What a crystallize produces, if it succeeds. -/
def produced (d : Deployment) (w : FinanceWorld) (raced : Bool) (clock : Clock) (uuid : String)
    (request : CrystallizeRequest) : Option Produced :=
  let after := (step d w (.crystallize raced clock uuid request)).tables
  match respond d w (.crystallize raced clock uuid request) with
  | .ok response => some {
      response := response
      balance := fun a => (after.accountLedgers.find? a).map Account.balance
      crystal := findCrystal after request.platform request.operationId
      escrow := after.commitEscrowLedger.find? request.operationId }
  | .error _ => none

theorem produced_eq_none_iff {w : FinanceWorld} {raced : Bool} {clock : Clock} {uuid : String}
    {request : CrystallizeRequest} :
    produced d w raced clock uuid request = none ↔
      (respond d w (.crystallize raced clock uuid request)).isOk = false := by
  unfold produced
  cases respond d w (.crystallize raced clock uuid request) <;>
    simp [Except.isOk, Except.toBool]

/-- A crystallize of an operation that its platform has not used produces the same with and
without an operation of another platform under its id, exactly when it is refused without it. -/
theorem produced_eq_iff_not_admits (d : Deployment) {w w' : FinanceWorld} (hw : Sound w)
    (hw' : Sound w') {c : CrystalRow} {e : EscrowRow} (hbeside : Beside w.tables w'.tables c e)
    (raced : Bool) (clock : Clock) (uuid : String) (request : CrystallizeRequest)
    (hnew : findCrystal w.tables request.platform request.operationId = none)
    (hplatform : c.platform ≠ request.platform) (hop : c.operationId = request.operationId) :
    produced d w raced clock uuid request = produced d w' raced clock uuid request ↔
      admits w.tables uuid request = false := by
  have hkey : e.operationId = request.operationId := hbeside.operationId.trans hop
  have hnew' : findCrystal w'.tables request.platform request.operationId = none := by
    rw [findCrystal, List.find?_eq_none] at hnew ⊢
    intro r hr
    rcases (hbeside.crystals r).mp hr with rfl | hr
    · simp [hplatform]
    · exact hnew r hr
  have hrefused : produced d w' raced clock uuid request = none := by
    rw [produced_eq_none_iff, ← Bool.not_eq_true, crystallize_isOk_iff hw' _ _ _ _ hnew',
      hbeside.escrows, if_pos hkey.symm]
    exact fun h => Option.some_ne_none e h.2
  have hfree : w.tables.commitEscrowLedger.find? request.operationId = none := by
    rw [← hkey]
    exact hbeside.newEscrow
  rw [hrefused, produced_eq_none_iff, ← Bool.not_eq_true, crystallize_isOk_iff hw _ _ _ _ hnew,
    and_iff_left hfree, Bool.not_eq_true]

/-! ## A sample -/

/-- A credit decision under the operation id of the sample's wire, without a reserve. -/
def sampleOther : CrystallizeRequest := { sampleCrystallize with
  platform := "credit_govern"
  riskTier := "high"
  reservedExposure := ⟨0, 0⟩ }

/-- The identifier drawn for the crystal of the credit decision. -/
def otherUuid : String := "00000000000040008000000000000002"

/-- The digest of the facets of the credit decision. -/
def otherFingerprint : Hash :=
  ⟨"10b806988f7ad8f6e53194eef17c25450255159f9ecc18e79513caf41d4d57df", by decide +kernel⟩

/-- The sample's surroundings, with the texts that the credit decision hashes. -/
def otherDeployment : Deployment :=
  .ofDigests ([(fingerprintPayload "credit_govern" "op-1" sampleFacets, otherFingerprint),
    (crystalPayload ("crys_" ++ otherUuid) "credit_govern" "op-1" "high" sampleFacets
      otherFingerprint none,
      ⟨"96a040f4f7ea64261e34da7d3610dfd2590ff6902ec8d8c8a827756e00c8aab1", by decide +kernel⟩),
    (decisionPayload 1 "op-1" (some ("crys_" ++ otherUuid)) "desk-default"
      DecisionType.crystalCreated.text "0E-12"
      [("platform", .str "credit_govern"), ("risk_tier", .str "high")] Ledger.genesisHash
      "2026-01-01 00:00:00+00",
      ⟨"6b7f957a7104b111a7c455bcb4182aa40ed4a433b34fd64d2037f441e2290995", by decide +kernel⟩)] ++
    sampleDigests) sampleDeployment.timestampText

/-- The sample's spine after the credit decision. -/
def otherWorld : FinanceWorld :=
  step otherDeployment sampleWorld (.crystallize false (sampleClock 0) otherUuid sampleOther)

theorem sampleWorld_sound : Sound sampleWorld := NoCrystals.sound ⟨rfl, rfl, rfl⟩

theorem otherWorld_beside : ∃ c e, Beside sampleWorld.tables otherWorld.tables c e ∧
    c.platform = "credit_govern" ∧ c.operationId = "op-1" := by
  obtain ⟨c, e, hopens, hplatform, hop⟩ := crystallize_opens (d := otherDeployment)
    sampleWorld_sound false (sampleClock 0) otherUuid sampleOther rfl (by decide +kernel)
  refine ⟨c, e, hopens.beside ?_, hplatform, hop⟩
  rfl

theorem produced_eq_iff_not_admits_sample :
    produced otherDeployment sampleWorld false (sampleClock 0) sampleUuid sampleCrystallize =
        produced otherDeployment otherWorld false (sampleClock 0) sampleUuid sampleCrystallize ↔
      admits sampleWorld.tables sampleUuid sampleCrystallize = false := by
  obtain ⟨c, e, hbeside, hplatform, hop⟩ := otherWorld_beside
  exact produced_eq_iff_not_admits otherDeployment sampleWorld_sound
    (step_sound sampleWorld_sound _) hbeside false (sampleClock 0) sampleUuid sampleCrystallize rfl
    (by rw [hplatform]; decide) hop

/-- The sample's wire is crystallized, but not once the credit decision has the operation id. -/
theorem wire_blocked_by_other :
    produced otherDeployment sampleWorld false (sampleClock 0) sampleUuid sampleCrystallize ≠
        produced otherDeployment otherWorld false (sampleClock 0) sampleUuid sampleCrystallize ∧
      respond otherDeployment otherWorld sampleOpen =
        .error (.integrityError "commit_escrow_ledger_pkey") := by
  have hrefused : respond otherDeployment otherWorld sampleOpen =
      .error (.integrityError "commit_escrow_ledger_pkey") := by decide +kernel
  refine ⟨fun h => ?_, hrefused⟩
  have hnone : produced otherDeployment otherWorld false (sampleClock 0) sampleUuid
      sampleCrystallize = none := by
    rw [produced_eq_none_iff]
    exact congrArg Except.isOk hrefused
  rw [hnone, produced_eq_none_iff] at h
  revert h
  decide +kernel

end Governor.Finance
