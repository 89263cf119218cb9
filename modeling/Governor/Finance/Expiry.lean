import Mathlib
import Governor.Finance.Exposure

/-!
# High-risk policies and expiry

The reconciler counts three kinds of violation after every sweep. Two of the counts are zero in
every run. The third looks for expired crystals whose registered policy is of high risk and
forbids expiry; the sweep decides by the risk tier that the caller sent, and the two need not
agree.
-/

namespace Governor.Finance

open Ledger (Clock SweepPlan Hash)

variable {d : Deployment}

/-! ## The probe -/

/-- Whether the registered policy of a crystal is of high risk and forbids expiry. -/
def forbidsExpiry (db : Database) (c : CrystalRow) : Bool :=
  (c.policyId.bind db.instrumentPolicyRegistry.find?).any fun p =>
    (p.riskClassification = "critical" || p.riskClassification = "high") && !p.allowAutoExpire

/-- The counts of `assert_crystal_ops_invariants`. -/
structure CrystalViolations where
  committedWithoutCrystal : Nat
  highRiskAutoExpired : Nat
  duplicateCommits : Nat
  deriving DecidableEq, Repr

/-- `sum(violations.values())`. -/
def CrystalViolations.total (v : CrystalViolations) : Nat :=
  v.committedWithoutCrystal + v.highRiskAutoExpired + v.duplicateCommits

/-- The counts as Python prints the dict. -/
def CrystalViolations.text (v : CrystalViolations) : String :=
  "\x7b'committed_without_crystal': " ++ toString v.committedWithoutCrystal ++
    ", 'high_risk_auto_expired': " ++ toString v.highRiskAutoExpired ++
    ", 'duplicate_commits': " ++ toString v.duplicateCommits ++ "\x7d"

/-- The three queries of `assert_crystal_ops_invariants`. -/
def crystalViolations (db : Database) : CrystalViolations where
  committedWithoutCrystal := db.commitEscrowLedger.rows.countP fun e =>
    e.status = .committed && !db.governanceCrystals.rows.any fun c =>
      c.crystalId = e.crystalId && c.terminalState = some .committed
  highRiskAutoExpired := db.governanceCrystals.rows.countP fun c =>
    c.terminalState = some .expired && forbidsExpiry db c
  duplicateCommits := (db.decisionEvents.rows.map DecisionEvent.operationId).dedup.countP
    fun operationId => 1 < finalEvents db operationId

/-- `CrystalOpsInvariantError`. -/
structure CrystalOpsInvariantError where
  message : String
  deriving DecidableEq, Repr

/-- `assert_crystal_ops_invariants`. -/
def assertCrystalOpsInvariants (db : Database) :
    Except CrystalOpsInvariantError CrystalViolations :=
  if (crystalViolations db).total ≠ 0 then
    .error ⟨"crystal ops violations: " ++ (crystalViolations db).text⟩
  else .ok (crystalViolations db)

/-- No crystal expired against its policy, and the probe does not raise. -/
structure HighRiskHeld (w : FinanceWorld) : Prop where
  unexpired : ∀ c ∈ w.tables.governanceCrystals.rows, forbidsExpiry w.tables c = true →
    c.terminalState ≠ some .expired
  silent : ∃ v, assertCrystalOpsInvariants w.tables = .ok v

/-! ## Counts that are always zero -/

/-- A committed escrow row has its committed crystal. -/
theorem Agrees.committedWithoutCrystal_eq {db : Database} (h : Agrees db) :
    (crystalViolations db).committedWithoutCrystal = 0 := by
  simp only [crystalViolations, List.countP_eq_zero]
  intro e he hviolates
  simp only [Bool.and_eq_true, decide_eq_true_eq, Bool.not_eq_true', List.any_eq_false] at hviolates
  obtain ⟨hcommitted, hnone⟩ := hviolates
  obtain ⟨c, hc, -⟩ := h.known e he
  obtain ⟨e', he', hid, hstatus⟩ := h.paired c (Table.mem_of_find? hc)
  have hcid := Table.find?_some_key hc
  have heq := h.escrow_unique he (Table.mem_of_find? he') (hcid.symm.trans hid.symm)
  have hterminal : c.terminalState = some .committed := by
    apply statusOf_injective
    rw [← hstatus, ← heq, hcommitted]
    rfl
  exact hnone c (Table.mem_of_find? hc) (by simp [hcid, hterminal])

/-- An operation is finally committed at most once. -/
def CommittedOnce (db : Database) : Prop := ∀ operationId, finalEvents db operationId ≤ 1

theorem CommittedOnce.duplicateCommits_eq {db : Database} (h : CommittedOnce db) :
    (crystalViolations db).duplicateCommits = 0 := by
  simp only [crystalViolations, List.countP_eq_zero]
  intro operationId _ hviolates
  have hle := h operationId
  have hlt := of_decide_eq_true hviolates
  omega

theorem silent_iff {db : Database} (hdb : Agrees db) (honce : CommittedOnce db) :
    (∃ v, assertCrystalOpsInvariants db = .ok v) ↔
      ∀ c ∈ db.governanceCrystals.rows, forbidsExpiry db c = true →
        c.terminalState ≠ some .expired := by
  have hcount : (crystalViolations db).total = 0 ↔
      ∀ c ∈ db.governanceCrystals.rows, forbidsExpiry db c = true →
        c.terminalState ≠ some .expired := by
    rw [CrystalViolations.total, hdb.committedWithoutCrystal_eq, honce.duplicateCommits_eq]
    simp only [crystalViolations, zero_add, add_zero, List.countP_eq_zero, Bool.and_eq_true,
      decide_eq_true_eq, not_and]
    exact forall₂_congr fun c _ => ⟨fun h hf he => h he hf, fun h he hf => h hf he⟩
  rw [← hcount, assertCrystalOpsInvariants]
  split_ifs with htotal
  · simp [htotal]
  · simp [not_not.mp htotal]

/-! ## What a sweep expires -/

/-- A sweep expires no crystal whose policy forbids it. -/
def SparesHighRisk (db : Database) : Action → Prop
  | .sweep clock plan batchSize => ∀ p ∈ horizonBatch db clock plan batchSize,
    forbidsExpiry db p.1 = true → shouldStrandOnExpiry p.1.riskTier = true
  | _ => True

/-- A crystal afterwards was there before or was closed. -/
theorem ClosesAll.mem_crystals {xs : List Resolution} {db db' : Database}
    (h : ClosesAll db xs db') {c : CrystalRow} (hc : c ∈ db'.governanceCrystals.rows) :
    c ∈ db.governanceCrystals.rows ∨ ∃ x ∈ xs, c = x.crystal.close x.closing.state := by
  induction xs generalizing db with
  | nil =>
    obtain rfl : db' = db := h
    exact Or.inl hc
  | cons x xs ih =>
    obtain ⟨mid, hx, hrest⟩ := h
    rcases ih hrest with hmid | ⟨y, hy, rfl⟩
    · have hfind := Table.find?_of_mem hmid
      rw [hx.crystals, Table.find?_put] at hfind
      split_ifs at hfind
      · exact Or.inr ⟨x, List.mem_cons_self, (Option.some.inj hfind).symm⟩
      · exact Or.inl (Table.mem_of_find? hfind)
    · exact Or.inr ⟨y, List.mem_cons_of_mem _ hy, rfl⟩

theorem ClosesAll.registries {xs : List Resolution} {db db' : Database}
    (h : ClosesAll db xs db') : db'.instrumentPolicyRegistry = db.instrumentPolicyRegistry :=
  h.keeps (I := fun mid => mid.instrumentPolicyRegistry = db.instrumentPolicyRegistry)
    (fun hx hmid => hx.registries.instrumentPolicyRegistry.trans hmid) rfl

theorem forbidsExpiry_congr {db db' : Database} {c c' : CrystalRow}
    (h : db'.instrumentPolicyRegistry = db.instrumentPolicyRegistry)
    (hpolicy : c'.policyId = c.policyId) : forbidsExpiry db' c' = forbidsExpiry db c := by
  rw [forbidsExpiry, h, hpolicy, forbidsExpiry]

/-- What a transaction expires is a crystal of a sweep's batch whose tier does not strand. -/
theorem mem_closings_expired {db : Database} {a : Action} {x : Resolution}
    (hspares : SparesHighRisk db a) (hx : x ∈ closings d db a) (hexpired : x.closing = .expired) :
    forbidsExpiry db x.crystal = false := by
  cases a with
  | crystallize => cases hx
  | commit settings clock request =>
    obtain ⟨c, e, -, -, -, -, rfl⟩ := mem_commitClosings.mp hx
    cases hexpired
  | adjudicate clock request =>
    obtain ⟨c, e, -, -, -, rfl⟩ := mem_adjudicateClosings.mp hx
    cases hexpired
  | sweep clock plan batchSize =>
    obtain ⟨p, hp, rfl⟩ := List.mem_map.mp hx
    rw [Bool.eq_false_iff]
    intro hforbids
    have hstrand := hspares p hp hforbids
    simp [sweepResolution, sweepStrands, hstrand] at hexpired

theorem step_unexpired_iff {w : FinanceWorld} (hw : Sound w)
    (h : ∀ c ∈ w.tables.governanceCrystals.rows, forbidsExpiry w.tables c = true →
      c.terminalState ≠ some .expired) (a : Action) :
    (∀ c ∈ (step d w a).tables.governanceCrystals.rows,
      forbidsExpiry (step d w a).tables c = true → c.terminalState ≠ some .expired) ↔
      SparesHighRisk w.tables a := by
  constructor
  · intro h'
    cases a with
    | sweep clock plan batchSize =>
      intro p hp hforbids
      by_contra hstrand
      have hopen := hw.agrees.isOpen_of_mem_horizonBatch hp
      have hexpired : (sweepResolution p).closing = .expired := by
        simp [sweepResolution, sweepStrands, hstrand, hopen.status]
      have hmem : sweepResolution p ∈ closings d w.tables (.sweep clock plan batchSize) :=
        List.mem_map_of_mem hp
      obtain ⟨-, -, hclosed⟩ := step_closing hw hmem
      refine h' _ (Table.mem_of_find? hclosed.crystal) ?_ ?_
      · cases step_moved (d := d) hw (.sweep clock plan batchSize) with
        | opened hnone _ =>
          rw [hnone] at hmem
          cases hmem
        | closed hall => exact (forbidsExpiry_congr hall.registries rfl).trans hforbids
      · rw [hexpired]
        rfl
    | _ => trivial
  · intro hspares c hc hforbids hexpired
    cases step_moved (d := d) hw a with
    | opened _ hopens =>
      have hsame := hopens.registries.instrumentPolicyRegistry
      have hfind := Table.find?_of_mem hc
      rw [hopens.crystals, Table.find?_put] at hfind
      split_ifs at hfind
      · obtain rfl := Option.some.inj hfind
        rw [hopens.terminalState] at hexpired
        cases hexpired
      · rw [forbidsExpiry_congr hsame rfl] at hforbids
        exact h c (Table.mem_of_find? hfind) hforbids hexpired
    | closed hall =>
      rw [forbidsExpiry_congr hall.registries rfl] at hforbids
      rcases hall.mem_crystals hc with hc | ⟨x, hx, rfl⟩
      · exact h c hc hforbids hexpired
      · have hclosing : x.closing = .expired := by
          have hstate := Option.some.inj hexpired
          cases hk : x.closing <;> rw [hk] at hstate <;> first | rfl | cases hstate
        have hsame : forbidsExpiry w.tables (x.crystal.close x.closing.state) =
            forbidsExpiry w.tables x.crystal := rfl
        rw [hsame, mem_closings_expired hspares hx hclosing] at hforbids
        cases hforbids

theorem step_highRiskHeld_iff {w : FinanceWorld} (hw : Sound w) (honce : CommittedOnce w.tables)
    (h : HighRiskHeld w) (a : Action) :
    HighRiskHeld (step d w a) ↔ SparesHighRisk w.tables a := by
  have hsilent := silent_iff (step_sound (d := d) hw a).agrees
    (fun operationId => step_finalEvents_le hw (honce operationId) a)
  rw [← step_unexpired_iff (d := d) hw h.unexpired a]
  exact ⟨fun h' => h'.unexpired, fun h' => ⟨h', hsilent.mpr h'⟩⟩

/-- Throughout a run no crystal expires against its policy and the probe stays silent, exactly
when no sweep of the run claims an overdue crystal whose policy forbids expiry and whose tier,
as the caller sent it, does not strand. -/
theorem run_highRiskHeld_iff {w : FinanceWorld} (hw : NoCrystals w) (actions : List Action) :
    Throughout (step d) HighRiskHeld w actions ↔
      Along (step d) (fun w a => SparesHighRisk w.tables a) w actions := by
  have honce : CommittedOnce w.tables := by
    intro operationId
    simp [finalEvents, hw.decisionEvents]
  have hheld : HighRiskHeld w := by
    have hunexpired : ∀ c ∈ w.tables.governanceCrystals.rows, forbidsExpiry w.tables c = true →
        c.terminalState ≠ some .expired := by
      simp [hw.governanceCrystals]
    exact ⟨hunexpired, (silent_iff hw.sound.agrees honce).mpr hunexpired⟩
  refine throughout_iff_along (I := fun w => Sound w ∧ CommittedOnce w.tables)
    ⟨hw.sound, honce⟩ hheld ?_ ?_
  · rintro w a ⟨hw, honce⟩
    exact ⟨step_sound hw a, fun operationId => step_finalEvents_le hw (honce operationId) a⟩
  · rintro w a ⟨hw, honce⟩ h
    exact step_highRiskHeld_iff hw honce h a

/-! ## A standard wire under a critical policy -/

/-- The policy of the migrations for critical wires. -/
def wireCriticalUs : InstrumentPolicy where
  policyId := "wire-critical-us"
  riskClassification := "critical"
  maxExposurePerCommit := 1000000000 * 1000000000000
  commitHorizonMs := 30000
  allowAutoExpire := false
  enabled := true

/-- The sample's desk with the policy. -/
def policyWorld : FinanceWorld where
  tables := { sampleWorld.tables with
    instrumentPolicyRegistry := Table.empty.put wireCriticalUs }
  outside := ⟨0⟩

/-- The sample's wire, sent with another tier. -/
def policyOpen (riskTier : String) : Action :=
  .crystallize false (sampleClock 0) sampleUuid
    { sampleCrystallize with riskTier := riskTier, policyId := some "wire-critical-us" }

/-- A sweep a second after the policy's horizon, with no row locked. -/
def policySweep : Action := .sweep (sampleClock 31) ⟨fun _ => false, fun _ => 0⟩ 100

/-- The digest of the event that creates the standard wire. -/
def standardCreated : Hash :=
  ⟨"e591bb2606dea4b329ed935a8e5a18fb8c5a3a7980a7ee413ebfe2d59bdc9b65", by decide +kernel⟩

/-- The texts that are hashed when the wire is opened and swept, with their SHA-256 digests. -/
def policyDigests : List (String × Hash) :=
  sampleDigests ++
  [(crystalPayload sampleCrystalId "wire_match" "op-1" "standard" sampleFacets sampleFingerprint
      none, standardCrystalHash),
    (samplePayload 1 .crystalCreated "-10.000000000000"
      [("platform", .str "wire_match"), ("risk_tier", .str "standard")] Ledger.genesisHash
      "2026-01-01 00:00:00+00", standardCreated),
    (samplePayload 2 .horizonExpired "10.000000000000" [("reason", .str "horizon_sweep")]
      standardCreated "2026-01-01 00:00:31+00",
      ⟨"083fd5fe52be8380c73239a687bfc6efd1506ee683192f3f923e25ac19171cfc", by decide +kernel⟩),
    (samplePayload 2 .strandedHold "0E-12" [("reason", .str "horizon_sweep")] sampleCreated
      "2026-01-01 00:00:31+00",
      ⟨"dc33666afd1d315bf0ab9e3d8447ffe2dc4e90b50c94f896d0aec05901c77e0f", by decide +kernel⟩)]

def policyDeployment : Deployment := .ofDigests policyDigests fun t =>
  if t = sampleStart then "2026-01-01 00:00:00+00" else "2026-01-01 00:00:31+00"

theorem policyWorld_noCrystals : NoCrystals policyWorld := ⟨rfl, rfl, rfl⟩

theorem run_highRiskHeld_sample :
    Throughout (step policyDeployment) HighRiskHeld policyWorld
      [policyOpen "critical", policySweep] := by
  refine (run_highRiskHeld_iff policyWorld_noCrystals _).mpr ⟨trivial, ?_, trivial⟩
  intro p hp _
  have htiers : ∀ p ∈ horizonBatch
      (step policyDeployment policyWorld (policyOpen "critical")).tables (sampleClock 31)
      ⟨fun _ => false, fun _ => 0⟩ 100, shouldStrandOnExpiry p.1.riskTier = true := by
    decide +kernel
  exact htiers p hp

/-- A standard wire under the critical policy expires and the probe raises. -/
theorem standard_wire_expires :
    ¬ Throughout (step policyDeployment) HighRiskHeld policyWorld
      [policyOpen "standard", policySweep] := by
  intro h
  obtain ⟨v, hsilent⟩ := h.last.silent
  have hraises : (assertCrystalOpsInvariants (run policyDeployment policyWorld
      [policyOpen "standard", policySweep]).tables).toOption = none := by
    decide +kernel
  have hsilent' : assertCrystalOpsInvariants (run policyDeployment policyWorld
      [policyOpen "standard", policySweep]).tables = .ok v := hsilent
  rw [hsilent'] at hraises
  cases hraises

end Governor.Finance
