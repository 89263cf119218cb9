import Mathlib
import Governor.Sector.Security

/-!
# The posture mesh

PostureReconcile evaluates the posture of an asset and governs it under one operation for each
asset. An open crystal with the facet `match_state = DRIFT` blocks the commits of the egress
platform. The crystal of an asset is the one of its first posture; the theorem says when that
tells the same as the latest postures.
-/

namespace Governor.Sector

open Finance
open Ledger (Clock Decimal Hash)

/-! ## Rows of the moves -/

section Rows

variable {db db' : Database} {c c' : CrystalRow} {e : EscrowRow} {x : Resolution}

theorem opens_mem_crystals (h : Opens db c e db') :
    c' ∈ db'.governanceCrystals.rows ↔ c' = c ∨ c' ∈ db.governanceCrystals.rows := by
  rw [Table.mem_rows_iff, h.crystals, Table.find?_put, Table.mem_rows_iff]
  split_ifs with hid
  · rw [hid, h.newCrystal]
    simp [eq_comm]
  · exact (or_iff_right fun heq => hid (congrArg CrystalRow.crystalId heq)).symm

theorem closes_mem_crystals (h : Closes db x db') :
    c' ∈ db'.governanceCrystals.rows ↔ c' = x.crystal.close x.closing.state ∨
      c' ∈ db.governanceCrystals.rows ∧ c'.crystalId ≠ x.crystal.crystalId := by
  rw [Table.mem_rows_iff, h.crystals, Table.find?_put, Table.mem_rows_iff,
    CrystalRow.close_crystalId]
  split_ifs with hid
  · simp [hid, eq_comm]
  · have hne : c' ≠ x.crystal.close x.closing.state := by
      rintro rfl
      exact hid (CrystalRow.close_crystalId _ _)
    simp [hid, hne]

end Rows

/-! ## PostureReconcile -/

/-- `PostureRecord`. -/
structure PostureRecord where
  assetId : String
  cveCount : Int
  patchLagDays : Int
  criticalCves : Int
  accountId : String

/-- `POSTURE_PATCH_LAG_DAYS` and `POSTURE_CRITICAL_CVE_THRESHOLD`. -/
structure PostureSettings where
  patchLagDays : Int
  criticalCves : Int

def postureReconcile : PlatformManifest where
  name := "posture_reconcile"
  defaultPolicyId := "posture-high-us"
  defaultRiskTier := "high"
  requiredFacetKeys := ["asset_id", "match_state"]
  commitDecisions := ["MATCHED"]

/-- `evaluate_posture`. -/
def PostureSettings.evaluate (settings : PostureSettings) (r : PostureRecord) : String × String :=
  if settings.criticalCves ≤ r.criticalCves ∨ settings.patchLagDays < r.patchLagDays then
    ("DRIFT", s!"cves={r.criticalCves},lag={r.patchLagDays}")
  else ("MATCHED", "posture within tolerance")

/-- The posture is out of tolerance. -/
def PostureSettings.drifts (settings : PostureSettings) (r : PostureRecord) : Bool :=
  (settings.evaluate r).1 = "DRIFT"

/-- The operation of an asset. -/
def postureOperation (assetId : String) : String := s!"posture-{assetId}"

/-- The call that `/posture/ingest` makes. -/
def postureCall (env : SecurityEnv) (settings : PostureSettings) (r : PostureRecord) : GovernCall :=
  let (matchState, reference) := settings.evaluate r
  securityCall env (postureOperation r.assetId) [
    ("asset_id", .str r.assetId),
    ("cve_count", .int r.cveCount),
    ("patch_lag_days", .int r.patchLagDays),
    ("critical_cves", .int r.criticalCves),
    ("match_state", .str matchState),
    ("reference", .str reference)] matchState r.accountId

/-- The answer of `/posture/ingest`. -/
inductive PostureReply where
  | ok (body : Facets)
  /-- `HTTPException(status_code=422)`. -/
  | unprocessable (detail : Facets)
  /-- A `ValueError` that nothing catches. -/
  | raised (message : String)

/-- A request to PostureReconcile, and what becomes of its requests to the spine. -/
structure PostureIngest where
  record : PostureRecord
  crystallize : Exchange
  commit : Exchange

/-- `POST /posture/ingest`. -/
def ingest (env : SecurityEnv) (settings : PostureSettings) (w : FinanceWorld)
    (call : PostureIngest) : PostureReply × FinanceWorld :=
  let (matchState, reference) := settings.evaluate call.record
  match postureReconcile.governOperation env.deployment (postureCall env settings call.record)
      call.crystallize call.commit w with
  | (.error message, w') => (.raised message, w')
  | (.ok crystalId, w') =>
    if matchState = "DRIFT" then
      (.unprocessable [("match_state", .str matchState), ("reference", .str reference)], w')
    else
      (.ok [("match_state", .str matchState), ("crystal_id", crystalId.elim .null .str),
        ("reference", .str reference)], w')

/-- The spine after a sequence of ingests. -/
def ingestAll (env : SecurityEnv) (settings : PostureSettings) (w : FinanceWorld)
    (calls : List PostureIngest) : FinanceWorld :=
  calls.foldl (fun w call => (ingest env settings w call).2) w

/-- The first request about an asset. -/
def firstPosture (calls : List PostureIngest) (assetId : String) : Option PostureIngest :=
  calls.find? fun call => call.record.assetId = assetId

/-- The latest request about an asset. -/
def latestPosture (calls : List PostureIngest) (assetId : String) : Option PostureIngest :=
  firstPosture calls.reverse assetId

/-- Some asset is out of tolerance by the posture that is picked for it. -/
def SomeDrift (settings : PostureSettings) (pick : String → Option PostureIngest) : Prop :=
  ∃ assetId call, pick assetId = some call ∧ settings.drifts call.record = true

/-! ## The spine of the migrations -/

/-- The rules of `crystal_mesh_rules`. -/
def shippedRules : List MeshRule :=
  [⟨"posture_reconcile", "match_state", "DRIFT", "egress_govern", true, true⟩,
    ⟨"posture_reconcile", "match_state", "DRIFT", "incident_response_gate", true, true⟩,
    ⟨"threat_proxy", "threat_decision", "BLOCKED", "egress_govern", true, true⟩,
    ⟨"threat_proxy", "threat_decision", "BLOCKED", "incident_response_gate", true, true⟩,
    ⟨"identity_govern", "identity_decision", "VIOLATION", "incident_response_gate", true, true⟩,
    ⟨"identity_govern", "identity_decision", "VIOLATION", "egress_govern", true, true⟩,
    ⟨"egress_govern", "egress_decision", "DENIED", "incident_response_gate", true, true⟩]

/-- The policy of postures. -/
def posturePolicy : InstrumentPolicy :=
  ⟨"posture-high-us", "high", 10000000000000000000, 300000, false, true⟩

/-- The record of PostureReconcile in the platform registry. -/
def postureRecord : PlatformRecord :=
  ⟨"posture_reconcile", true, some "posture-high-us", some ⟨["asset_id", "match_state"], []⟩⟩

/-- The spine has the rules, the policy and the platform of the migrations. -/
structure PostureReady (db : Database) : Prop where
  rules : db.crystalMeshRules = shippedRules
  policy : db.instrumentPolicyRegistry.find? "posture-high-us" = some posturePolicy
  platform : ∃ registry, db.platformRegistry = some registry ∧
    registry.find? "posture_reconcile" = some postureRecord

/-- The spine is reachable for an ingest: both requests are answered at once and served alone, the
commit before the horizon of a new crystal. -/
structure Prompt (call : PostureIngest) : Prop where
  crystallizeAnswered : call.crystallize.delivery = .answered
  crystallizeWritable : call.crystallize.halted = false
  unguarded : call.crystallize.guardrail = none
  visible : call.crystallize.raced = false
  crystallizeAlone : call.crystallize.meanwhile = []
  commitAnswered : call.commit.delivery = .answered
  commitWritable : call.commit.halted = false
  commitAlone : call.commit.meanwhile = []
  inTime : call.commit.clock.utcnow < call.crystallize.clock.utcnow + 300000000

/-- The fingerprints of an asset's postures tell the facets apart. -/
def FingerprintsApart (env : SecurityEnv) (settings : PostureSettings)
    (calls : List PostureIngest) : Prop :=
  ∀ a ∈ calls, ∀ b ∈ calls, a.record.assetId = b.record.assetId →
    (postureCall env settings a.record).fingerprint env.deployment postureReconcile =
      (postureCall env settings b.record).fingerprint env.deployment postureReconcile →
    Json.Same (.obj (postureCall env settings a.record).facets)
      (.obj (postureCall env settings b.record).facets)


/-! ## What the spine holds of the postures -/

/-- A crystal of a posture: open when it drifts, else committed. -/
structure PostureCrystal (env : SecurityEnv) (settings : PostureSettings) (call : PostureIngest)
    (c : CrystalRow) : Prop where
  platform : c.platform = "posture_reconcile"
  operationId : c.operationId = postureOperation call.record.assetId
  facets : c.facets = (postureCall env settings call.record).facets
  fingerprint : c.requestFingerprint =
    (postureCall env settings call.record).fingerprint env.deployment postureReconcile
  crystalId : c.crystalId = "crys_" ++ call.crystallize.uuid
  terminalState : c.terminalState =
    if settings.drifts call.record then none else some .committed

/-- The crystals are those of the first postures. -/
structure Ingested (env : SecurityEnv) (settings : PostureSettings) (calls : List PostureIngest)
    (w : FinanceWorld) : Prop where
  sound : Sound w
  ready : PostureReady w.tables
  crystals : ∀ c ∈ w.tables.governanceCrystals.rows, ∃ call,
    firstPosture calls call.record.assetId = some call ∧ PostureCrystal env settings call c
  stored : ∀ call, firstPosture calls call.record.assetId = some call →
    ∃ c ∈ w.tables.governanceCrystals.rows, PostureCrystal env settings call c

section Evaluate

variable {env : SecurityEnv} {settings : PostureSettings}

theorem postureOperation_injective : Function.Injective postureOperation := by
  intro a b h
  have hlist := congrArg String.toList h
  simp only [postureOperation, String.toList_append, List.append_cancel_left_eq] at hlist
  exact String.toList_inj.mp hlist

theorem postureCall_facets (r : PostureRecord) :
    postureReconcile.validateFacets (postureCall env settings r).facets = [] := rfl

theorem postureCall_matchState (r : PostureRecord) :
    (postureCall env settings r).facets.lookup "match_state" =
      some (.str (settings.evaluate r).1) := rfl

theorem postureCall_mem_matchState (r : PostureRecord) :
    ("match_state", .str (settings.evaluate r).1) ∈ (postureCall env settings r).facets := by
  obtain ⟨_, _, hfacets, -⟩ := List.lookup_eq_some_iff.mp (postureCall_matchState r)
  rw [hfacets]
  exact List.mem_append_right _ List.mem_cons_self

/-- A posture in tolerance is matched. -/
theorem evaluate_of_not_drifts {r : PostureRecord} (h : settings.drifts r = false) :
    (settings.evaluate r).1 = "MATCHED" := by
  unfold PostureSettings.drifts at h
  unfold PostureSettings.evaluate at h ⊢
  split_ifs at h ⊢
  · simp at h
  · rfl

/-- A posture is committed unless it drifts. -/
theorem postureCall_shouldCommit (r : PostureRecord) :
    postureReconcile.shouldCommit (postureCall env settings r) = !settings.drifts r := by
  have hdecision : (postureCall env settings r).decision = (settings.evaluate r).1 := rfl
  simp only [PlatformManifest.shouldCommit, hdecision, PostureSettings.drifts]
  unfold PostureSettings.evaluate
  split_ifs <;> simp [postureReconcile]

/-- Every request of PostureReconcile reserves nothing. -/
theorem postureCall_reserve (r : PostureRecord) :
    postureReconcile.reserve (postureCall env settings r) = some defaultReserve := by
  unfold PlatformManifest.reserve
  split_ifs <;> rfl

theorem ingest_snd (w : FinanceWorld) (call : PostureIngest) :
    (ingest env settings w call).2 = (postureReconcile.governOperation env.deployment
      (postureCall env settings call.record) call.crystallize call.commit w).2 := by
  simp only [ingest]
  generalize postureReconcile.governOperation env.deployment
    (postureCall env settings call.record) call.crystallize call.commit w = r
  obtain ⟨r, w'⟩ := r
  cases r with
  | error message => rfl
  | ok crystalId =>
    simp only
    split_ifs <;> rfl

end Evaluate

section Step

variable {env : SecurityEnv} {settings : PostureSettings} {calls : List PostureIngest}
  {call : PostureIngest} {w : FinanceWorld}

/-- A first posture is that of a request about the asset. -/
theorem firstPosture_some {assetId : String} {first : PostureIngest}
    (h : firstPosture calls assetId = some first) :
    first ∈ calls ∧ first.record.assetId = assetId :=
  ⟨List.mem_of_find?_eq_some h, by simpa using List.find?_some h⟩

theorem firstPosture_concat (calls : List PostureIngest) (call : PostureIngest)
    (assetId : String) :
    firstPosture (calls ++ [call]) assetId =
      (firstPosture calls assetId).or (if call.record.assetId = assetId then some call else none) := by
  simp only [firstPosture, List.find?_append, List.find?_singleton, decide_eq_true_eq]

theorem postureReady_run {w : FinanceWorld} (hw : Sound w) (h : PostureReady w.tables)
    (a : Action) : PostureReady (step env.deployment w a).tables := by
  have hkeeps : ∀ {db db' : Database}, SameRegistries db db' → PostureReady db → PostureReady db' :=
    fun hs hr => ⟨hs.crystalMeshRules.trans hr.rules, hs.instrumentPolicyRegistry ▸ hr.policy,
      hs.platformRegistry ▸ hr.platform⟩
  exact step_invariant (fun _ ho => hkeeps ho.registries) (fun _ hc => hkeeps hc.registries) hw h a

/-- No rule blocks the commits of postures. -/
theorem PostureReady.unblocked {db : Database} (h : PostureReady db) :
    meshBlockReason db "posture_reconcile" = none := by
  simp [meshBlockReason, h.rules, shippedRules]

theorem PostureReady.guard {db : Database} (h : PostureReady db) (r : PostureRecord) :
    GuardAllows db "posture_reconcile" (postureCall env settings r).facets := by
  obtain ⟨registry, hregistry, hfind⟩ := h.platform
  exact ⟨registry, postureRecord, hregistry, hfind, rfl, rfl⟩

/-- The request that an ingest sends. -/
def postureRequest (env : SecurityEnv) (settings : PostureSettings) (r : PostureRecord) :
    CrystallizeRequest :=
  postureReconcile.crystallizeRequest (postureCall env settings r) defaultReserve

/-- An ingest whose crystallize is answered with a crystal goes on to the commit unless it drifts. -/
theorem ingest_answered (hprompt : Prompt call) {result : CrystallizeResult}
    (h : respond env.deployment w (.crystallize call.crystallize.enforce false
      call.crystallize.clock call.crystallize.uuid (postureRequest env settings call.record)) =
        .ok (.crystallized result)) :
    (ingest env settings w call).2 =
      if settings.drifts call.record then
        step env.deployment w (.crystallize call.crystallize.enforce false call.crystallize.clock
          call.crystallize.uuid (postureRequest env settings call.record))
      else step env.deployment
        (step env.deployment w (.crystallize call.crystallize.enforce false call.crystallize.clock
          call.crystallize.uuid (postureRequest env settings call.record)))
        (.commit call.commit.clock (PlatformManifest.commitRequest
          (postureCall env settings call.record) result.crystalId defaultReserve)) := by
  have hanswer : postureReconcile.crystallize env.deployment (postureCall env settings call.record)
      call.crystallize w = (.ok result.crystalId, step env.deployment w
        (.crystallize call.crystallize.enforce false call.crystallize.clock
          call.crystallize.uuid (postureRequest env settings call.record))) := by
    rw [PlatformManifest.crystallize, postureCall_reserve, Option.map_some]
    have hserved := spineCrystallize_answered hprompt.crystallizeAnswered
      hprompt.crystallizeWritable hprompt.unguarded
      (by rw [hprompt.visible, hprompt.crystallizeAlone]; exact h)
    rwa [hprompt.visible, hprompt.crystallizeAlone] at hserved
  rw [ingest_snd, governOperation_snd (postureCall_facets call.record) hanswer,
    postureCall_shouldCommit, PlatformManifest.commit, postureCall_reserve, Option.map_some,
    spineCommit_snd, hprompt.commitAnswered, hprompt.commitWritable, hprompt.commitAlone]
  cases settings.drifts call.record <;> simp [run]

/-- The spine accepts the first posture of an asset. -/
theorem Ingested.accepts (hw : Ingested env settings calls w)
    (hnew : firstPosture calls call.record.assetId = none)
    (hfresh : ∀ a ∈ calls, a.crystallize.uuid ≠ call.crystallize.uuid) :
    Accepts w.tables call.crystallize.enforce call.crystallize.uuid posturePolicy
      (postureRequest env settings call.record) := by
  have hunknown : ∀ c ∈ w.tables.governanceCrystals.rows,
      c.operationId ≠ postureOperation call.record.assetId := by
    intro c hc hop
    obtain ⟨first, hfirst, hcrystal⟩ := hw.crystals c hc
    have hasset := postureOperation_injective (hcrystal.operationId.symm.trans hop)
    rw [hasset, hnew] at hfirst
    cases hfirst
  have hguard : GuardAllows w.tables "posture_reconcile"
      (postureCall env settings call.record).facets := hw.ready.guard call.record
  refine ⟨fun _ => hguard, rfl, by decide, hw.ready.policy, rfl,
    (by decide : exceedsMoney defaultReserve posturePolicy.maxExposurePerCommit = false),
    (by decide : quantizeMoney defaultReserve = 0), ?_, ?_, ?_⟩
  · refine List.find?_eq_none.mpr fun c hc => ?_
    intro hsame
    simp only [Bool.and_eq_true, decide_eq_true_eq] at hsame
    exact hunknown c hc hsame.2
  · cases hfind : w.tables.governanceCrystals.find? ("crys_" ++ call.crystallize.uuid) with
    | none => rfl
    | some c =>
      obtain ⟨first, hfirst, hcrystal⟩ := hw.crystals c (Table.mem_of_find? hfind)
      have hid := hcrystal.crystalId.symm.trans (Table.find?_some_key hfind)
      have huuid : first.crystallize.uuid = call.crystallize.uuid := by
        have hlist := congrArg String.toList hid
        simp only [String.toList_append, List.append_cancel_left_eq] at hlist
        exact String.toList_inj.mp hlist
      exact absurd huuid (hfresh first (firstPosture_some hfirst).1)
  · cases hfind : w.tables.commitEscrowLedger.find?
        (postureRequest env settings call.record).operationId with
    | none => rfl
    | some e =>
      obtain ⟨c, hc, hop⟩ := hw.sound.agrees.known e (Table.mem_of_find? hfind)
      exact absurd (hop.trans (Table.find?_some_key hfind)) (hunknown c (Table.mem_of_find? hc))

/-- The first posture of an asset opens a crystal, and a commit closes it unless it drifts. -/
theorem Ingested.first (hw : Ingested env settings calls w) (hprompt : Prompt call)
    (hnew : firstPosture calls call.record.assetId = none)
    (hfresh : ∀ a ∈ calls, a.crystallize.uuid ≠ call.crystallize.uuid) :
    Sound (ingest env settings w call).2 ∧ PostureReady (ingest env settings w call).2.tables ∧
      ∃ c, PostureCrystal env settings call c ∧
        ∀ c', c' ∈ (ingest env settings w call).2.tables.governanceCrystals.rows ↔
          c' = c ∨ c' ∈ w.tables.governanceCrystals.rows := by
  obtain ⟨c, prev, horizon, hseal, hhorizon, hopens, hanswer⟩ :=
    crystallize_accepted (d := env.deployment) hw.sound (hw.accepts hnew hfresh) false
      call.crystallize.clock
  rw [ingest_answered hprompt hanswer]
  generalize hmid : step env.deployment w (.crystallize call.crystallize.enforce false
    call.crystallize.clock call.crystallize.uuid (postureRequest env settings call.record)) = mid
    at hopens ⊢
  have hmidSound : Sound mid := hmid ▸ step_sound hw.sound _
  have hmidReady : PostureReady mid.tables := hmid ▸ postureReady_run hw.sound hw.ready _
  have hfields : c.platform = "posture_reconcile" ∧
      c.operationId = postureOperation call.record.assetId ∧
      c.facets = (postureCall env settings call.record).facets ∧
      c.requestFingerprint =
        (postureCall env settings call.record).fingerprint env.deployment postureReconcile ∧
      c.crystalId = "crys_" ++ call.crystallize.uuid := by
    rw [hseal]
    exact ⟨rfl, rfl, rfl, rfl, rfl⟩
  obtain ⟨hplatform, hop, hfacets, hfp, hid⟩ := hfields
  cases hdrifts : settings.drifts call.record with
  | true =>
    rw [if_pos rfl]
    refine ⟨hmidSound, hmidReady, c, ⟨hplatform, hop, hfacets, hfp, hid, ?_⟩,
      fun c' => opens_mem_crystals hopens⟩
    rw [hopens.terminalState, hdrifts, if_pos rfl]
  | false =>
    rw [if_neg (by simp)]
    have hfind : mid.tables.governanceCrystals.find? c.crystalId = some c := by
      rw [hopens.crystals, Table.find?_put_self]
    obtain ⟨e, hjoin⟩ := hmidSound.agrees.join_of_find? hfind
    generalize hrequest : PlatformManifest.commitRequest (postureCall env settings call.record)
      c.crystalId defaultReserve = request
    have hjoinr : crystalJoin mid.tables request.crystalId = some (c, e) := by
      rw [← hrequest]
      exact hjoin
    have hc := commit_committed (d := env.deployment) hmidSound call.commit.clock request
    refine ⟨step_sound hmidSound _, postureReady_run hmidSound hmidReady _, ?_⟩
    generalize respond env.deployment mid (.commit call.commit.clock request) = r at hc
    generalize (step env.deployment mid (.commit call.commit.clock request)).tables = db' at hc ⊢
    cases hc with
    | refused hclosings =>
      refine absurd hclosings (commitClosings_ne_nil hjoinr hopens.terminalState ?_ ?_ ?_ ?_)
      · rw [hfp, ← hrequest, hplatform, hop]
        rfl
      · rw [isHorizonExpired, hhorizon, decide_eq_false_iff_not, not_le]
        exact hprompt.inTime
      · rw [hplatform]
        exact hmidReady.unblocked
      · rw [← hrequest]
        exact (by decide : (0 : Int) ≤ quantizeMoney defaultReserve)
    | replayed hjoin' hterminal =>
      obtain ⟨rfl, rfl⟩ := Prod.mk.inj (Option.some.inj (hjoinr.symm.trans hjoin'))
      exact absurd hopens.terminalState hterminal
    | committed hjoin' _ hcloses =>
      obtain ⟨rfl, rfl⟩ := Prod.mk.inj (Option.some.inj (hjoinr.symm.trans hjoin'))
      refine ⟨c.close .committed, ⟨hplatform, hop, hfacets, hfp, hid, by rw [hdrifts]; rfl⟩,
        fun c' => ?_⟩
      rw [closes_mem_crystals hcloses]
      refine or_congr_right ?_
      rw [opens_mem_crystals hopens]
      constructor
      · rintro ⟨rfl | hmem, hne⟩
        · exact absurd rfl hne
        · exact hmem
      · intro hmem
        refine ⟨Or.inr hmem, fun heq => ?_⟩
        have hstored := Table.find?_of_mem hmem
        rw [heq, hopens.newCrystal] at hstored
        cases hstored

/-- A later posture of an asset changes nothing. -/
theorem Ingested.later (hw : Ingested env settings calls w) (hprompt : Prompt call)
    {first : PostureIngest} (hfirst : firstPosture calls call.record.assetId = some first)
    (hapart : FingerprintsApart env settings [first, call]) :
    Sound (ingest env settings w call).2 ∧ (ingest env settings w call).2.tables = w.tables := by
  obtain ⟨-, hasset⟩ := firstPosture_some hfirst
  obtain ⟨c, hc, hcrystal⟩ := hw.stored first (by rw [hasset]; exact hfirst)
  have hfound : findCrystal w.tables (postureRequest env settings call.record).platform
      (postureRequest env settings call.record).operationId = some c := by
    have hown := findCrystal_of_mem hw.sound.agrees hc
    rwa [hcrystal.platform, hcrystal.operationId, hasset] at hown
  have hallows : call.crystallize.enforce = true → GuardAllows w.tables "posture_reconcile"
      (postureCall env settings call.record).facets := fun _ => hw.ready.guard call.record
  obtain ⟨hanswer, hsame⟩ := crystallize_found (d := env.deployment) hallows hfound
    call.crystallize.clock call.crystallize.uuid
  have htables := congrArg World.tables hsame
  rw [ingest_answered hprompt hanswer]
  generalize hmid : step env.deployment w (.crystallize call.crystallize.enforce false
    call.crystallize.clock call.crystallize.uuid (postureRequest env settings call.record)) = mid
    at htables ⊢
  have hmidSound : Sound mid := hmid ▸ step_sound hw.sound _
  cases hdrifts : settings.drifts call.record with
  | true =>
    rw [if_pos rfl]
    exact ⟨hmidSound, htables⟩
  | false =>
    rw [if_neg (by simp)]
    generalize hrequest : PlatformManifest.commitRequest (postureCall env settings call.record)
      c.crystalId defaultReserve = request
    refine ⟨step_sound hmidSound _, ?_⟩
    have hcommit := commit_committed (d := env.deployment) hmidSound call.commit.clock request
    rw [htables] at hcommit
    generalize respond env.deployment mid (.commit call.commit.clock request) = r at hcommit
    generalize (step env.deployment mid (.commit call.commit.clock request)).tables = db'
      at hcommit ⊢
    cases hcommit with
    | refused => rfl
    | replayed => rfl
    | committed hjoin haccepted hcloses =>
      -- only an open crystal is closed, and that of a drift has other facets
      obtain ⟨hfind, -⟩ := hw.sound.agrees.join hjoin
      have hid : request.crystalId = c.crystalId := by rw [← hrequest]; rfl
      rw [hid, Table.find?_of_mem hc] at hfind
      obtain rfl := Option.some.inj hfind
      have hopen := hcloses.terminalState
      simp only [hcrystal.terminalState, ite_eq_left_iff, reduceCtorEq, imp_false,
        not_not] at hopen
      have hfp : (postureCall env settings call.record).fingerprint env.deployment
          postureReconcile = (postureCall env settings first.record).fingerprint env.deployment
          postureReconcile := by
        have haccept := commitRefusal_none haccepted
        rw [hcrystal.platform, hcrystal.operationId, hcrystal.fingerprint, hasset,
          ← hrequest] at haccept
        exact haccept
      have hsame := hapart call (by simp) first (by simp) hasset.symm hfp
      have hkeys : ((postureCall env settings first.record).facets.map Prod.fst).Nodup :=
        (by decide : ["asset_id", "cve_count", "patch_lag_days", "critical_cves", "match_state",
          "reference"].Nodup)
      have hstates := Json.same_str.mp (hsame.value hkeys
        (postureCall_mem_matchState call.record)
        (postureCall_mem_matchState first.record))
      have hdrift : (settings.evaluate first.record).1 = "DRIFT" := of_decide_eq_true hopen
      rw [evaluate_of_not_drifts hdrifts, hdrift] at hstates
      exact absurd hstates (by decide)

/-- The first posture of an asset stays its first. -/
theorem firstPosture_concat_of_some {assetId : String} {first : PostureIngest}
    (h : firstPosture calls assetId = some first) (call : PostureIngest) :
    firstPosture (calls ++ [call]) assetId = some first := by
  rw [firstPosture_concat, h, Option.some_or]

/-- One ingest leaves the crystals those of the first postures. -/
theorem Ingested.ingest (hw : Ingested env settings calls w) (hprompt : Prompt call)
    (hfresh : ∀ a ∈ calls, a.crystallize.uuid ≠ call.crystallize.uuid)
    (hapart : FingerprintsApart env settings (calls ++ [call])) :
    Ingested env settings (calls ++ [call]) (Sector.ingest env settings w call).2 := by
  cases hfirst : firstPosture calls call.record.assetId with
  | none =>
    obtain ⟨hsound, hready, c, hcrystal, hrows⟩ := hw.first hprompt hfirst hfresh
    have hself : firstPosture (calls ++ [call]) call.record.assetId = some call := by
      rw [firstPosture_concat, hfirst, if_pos rfl, Option.none_or]
    refine ⟨hsound, hready, fun c' hc' => ?_, fun a ha => ?_⟩
    · rcases (hrows c').mp hc' with rfl | hold
      · exact ⟨call, hself, hcrystal⟩
      · obtain ⟨a, ha, hstored⟩ := hw.crystals c' hold
        exact ⟨a, firstPosture_concat_of_some ha call, hstored⟩
    · cases hprior : firstPosture calls a.record.assetId with
      | some b =>
        rw [firstPosture_concat_of_some hprior call, Option.some.injEq] at ha
        subst ha
        obtain ⟨c', hc', hstored⟩ := hw.stored b hprior
        exact ⟨c', (hrows c').mpr (Or.inr hc'), hstored⟩
      | none =>
        rw [firstPosture_concat, hprior, Option.none_or, Option.ite_none_right_eq_some,
          Option.some.injEq] at ha
        obtain ⟨-, rfl⟩ := ha
        exact ⟨c, (hrows c).mpr (Or.inl rfl), hcrystal⟩
  | some first =>
    have hpair : FingerprintsApart env settings [first, call] := by
      have hmem : ∀ a ∈ [first, call], a ∈ calls ++ [call] := by
        rintro a (- | ⟨-, - | ⟨-, ⟨⟩⟩⟩)
        · exact List.mem_append_left _ (firstPosture_some hfirst).1
        · exact List.mem_append_right _ List.mem_cons_self
      exact fun a ha b hb => hapart a (hmem a ha) b (hmem b hb)
    obtain ⟨hsound, htables⟩ := hw.later hprompt hfirst hpair
    refine ⟨hsound, htables ▸ hw.ready, fun c hc => ?_, fun a ha => ?_⟩
    · rw [htables] at hc
      obtain ⟨a, ha, hstored⟩ := hw.crystals c hc
      exact ⟨a, firstPosture_concat_of_some ha call, hstored⟩
    · rw [htables]
      cases hprior : firstPosture calls a.record.assetId with
      | some b =>
        rw [firstPosture_concat_of_some hprior call, Option.some.injEq] at ha
        exact ha ▸ hw.stored b (by rw [← hprior, ha])
      | none =>
        rw [firstPosture_concat, hprior, Option.none_or, Option.ite_none_right_eq_some,
          Option.some.injEq] at ha
        obtain ⟨-, rfl⟩ := ha
        rw [hfirst] at hprior
        cases hprior

theorem PostureCrystal.isNone_iff {c : CrystalRow} (h : PostureCrystal env settings call c) :
    c.terminalState.isNone = true ↔ settings.drifts call.record = true := by
  rw [h.terminalState]
  cases settings.drifts call.record <;> simp

/-- The latest open crystal of any platform is that of a first posture that drifts. -/
theorem Ingested.openParent (hw : Ingested env settings calls w) {platform : String}
    {facets : Facets}
    (h : openParentFacets w.tables.governanceCrystals.rows platform = some facets) :
    ∃ first, firstPosture calls first.record.assetId = some first ∧
      settings.drifts first.record = true ∧
      facets = (postureCall env settings first.record).facets := by
  obtain ⟨c, hlast, rfl⟩ := Option.map_eq_some_iff.mp h
  obtain ⟨hc, hopen⟩ := List.mem_filter.mp (lastBy_mem hlast)
  rw [Bool.and_eq_true] at hopen
  obtain ⟨first, hfirst, hcrystal⟩ := hw.crystals c hc
  exact ⟨first, hfirst, hcrystal.isNone_iff.mp hopen.2, hcrystal.facets⟩

/-- The open crystals block the egress platform exactly when some first posture drifts. -/
theorem Ingested.blocked_iff (hw : Ingested env settings calls w) :
    meshBlockReason w.tables "egress_govern" ≠ none ↔ SomeDrift settings (firstPosture calls) := by
  rw [meshBlockReason, Ne, Option.map_eq_none_iff, hw.ready.rules, List.find?_eq_none]
  simp only [not_forall, not_not]
  constructor
  · rintro ⟨rule, -, hblocks⟩
    unfold MeshRule.blocks at hblocks
    split at hblocks
    · cases hblocks
    · rename_i facets hopen
      obtain ⟨first, hfirst, hdrifts, -⟩ := hw.openParent hopen
      exact ⟨first.record.assetId, first, hfirst, hdrifts⟩
  · rintro ⟨assetId, call, hfirst, hdrifts⟩
    obtain ⟨-, rfl⟩ := firstPosture_some hfirst
    obtain ⟨c, hc, hcrystal⟩ := hw.stored call hfirst
    have hopen : openParentFacets w.tables.governanceCrystals.rows "posture_reconcile" ≠ none := by
      rw [openParentFacets, Ne, Option.map_eq_none_iff]
      refine lastBy_ne_none (List.ne_nil_of_mem (List.mem_filter.mpr ⟨hc, ?_⟩))
      rw [hcrystal.platform, decide_eq_true rfl, hcrystal.isNone_iff.mpr hdrifts]
      rfl
    obtain ⟨facets, hfacets⟩ := Option.ne_none_iff_exists'.mp hopen
    obtain ⟨first, -, hdrift, rfl⟩ := hw.openParent hfacets
    refine ⟨⟨"posture_reconcile", "match_state", "DRIFT", "egress_govern", true, true⟩,
      by simp [shippedRules], ?_⟩
    simp only [MeshRule.blocks, hfacets, postureCall_matchState]
    exact hdrift

end Step

/-! ## Runs -/

section Runs

variable {env : SecurityEnv} {settings : PostureSettings} {start : FinanceWorld}
  {calls : List PostureIngest}

/-- The crystals after a run are those of the first postures. -/
theorem ingestAll_ingested (hstart : NoCrystals start) (hready : PostureReady start.tables)
    (hprompt : ∀ call ∈ calls, Prompt call)
    (huuids : (calls.map fun call => call.crystallize.uuid).Nodup)
    (hapart : FingerprintsApart env settings calls) :
    Ingested env settings calls (ingestAll env settings start calls) := by
  induction calls using List.reverseRecOn with
  | nil =>
    refine ⟨hstart.sound, hready, fun c hc => ?_, fun call h => by cases h⟩
    rw [ingestAll, List.foldl_nil, hstart.governanceCrystals] at hc
    cases hc
  | append_singleton before call ih =>
    have hbefore : ∀ a ∈ before, a ∈ before ++ [call] := fun a ha => List.mem_append_left _ ha
    rw [List.map_append, List.nodup_append] at huuids
    obtain ⟨hnodup, -, hne⟩ := huuids
    have hw := ih (fun a ha => hprompt a (hbefore a ha)) hnodup
      fun a ha b hb => hapart a (hbefore a ha) b (hbefore b hb)
    rw [ingestAll, List.foldl_concat]
    exact hw.ingest (hprompt call (by simp))
      (fun a ha => hne _ (List.mem_map_of_mem ha) _ (by simp)) hapart

/-- After each request of a run the mesh follows the latest postures exactly when some asset's
latest posture drifts just as some asset's first one does. -/
theorem ingestAll_meshFollows_iff (hstart : NoCrystals start) (hready : PostureReady start.tables)
    (hprompt : ∀ call ∈ calls, Prompt call)
    (huuids : (calls.map fun call => call.crystallize.uuid).Nodup)
    (hapart : FingerprintsApart env settings calls) :
    (∀ before, before <+: calls →
      (meshBlockReason (ingestAll env settings start before).tables "egress_govern" ≠ none ↔
        SomeDrift settings (latestPosture before))) ↔
    ∀ before, before <+: calls →
      (SomeDrift settings (firstPosture before) ↔ SomeDrift settings (latestPosture before)) := by
  refine forall_congr' fun before => forall_congr' fun hearlier => ?_
  have hw : Ingested env settings before (ingestAll env settings start before) :=
    ingestAll_ingested hstart hready (fun a ha => hprompt a (hearlier.subset ha))
      ((hearlier.map _).sublist.nodup huuids)
      fun a ha b hb => hapart a (hearlier.subset ha) b (hearlier.subset hb)
  rw [hw.blocked_iff]

end Runs

/-! ## A patched host -/

/-- The spine of the migrations with the policy and the platform of postures. -/
def postureWorld : FinanceWorld where
  tables := {
    accountLedgers := Table.empty.put
      ⟨"tenant-default", 100000000000000000000, true, none, none⟩
    instrumentPolicyRegistry := Table.empty.put posturePolicy
    platformRegistry := some (Table.empty.put postureRecord)
    governanceCrystals := Table.empty
    commitEscrowLedger := Table.empty
    decisionEvents := Table.empty
    crystalMeshRules := shippedRules
    guardrailIncidents := [] }
  outside := ⟨0⟩

/-- The defaults of the thresholds. -/
def postureDefaults : PostureSettings := ⟨30, 1⟩

/-- A host with a critical vulnerability. -/
def driftingHost : PostureIngest :=
  ⟨⟨"host-1", 1, 0, 1, tenantDefault⟩, promptExchange 0, promptExchange 0⟩

/-- The same host once it is patched. -/
def patchedHost : PostureIngest :=
  ⟨⟨"host-1", 0, 0, 0, tenantDefault⟩,
    { promptExchange 1 with uuid := "00000000000040008000000000000002" }, promptExchange 1⟩

def driftFacets : Facets :=
  [("asset_id", .str "host-1"), ("cve_count", .int 1), ("patch_lag_days", .int 0),
    ("critical_cves", .int 1), ("match_state", .str "DRIFT"), ("reference", .str "cves=1,lag=0")]

def patchedFacets : Facets :=
  [("asset_id", .str "host-1"), ("cve_count", .int 0), ("patch_lag_days", .int 0),
    ("critical_cves", .int 0), ("match_state", .str "MATCHED"),
    ("reference", .str "posture within tolerance")]

def driftFingerprint : Hash :=
  ⟨"bfa6ceca252b202b8035ec641e5c8f57c3bec88fe10e26746984e111db94c47a", by decide +kernel⟩

/-- The texts that the two requests hash, with their SHA-256 digests. -/
def hostDigests : List (String × Hash) :=
  [(fingerprintPayload "posture_reconcile" "posture-host-1" driftFacets, driftFingerprint),
    (crystalPayload sampleCrystalId "posture_reconcile" "posture-host-1" "high" driftFacets
      driftFingerprint none,
      ⟨"62ca063f27740ad266c057a8733bc552114198bc12a60cf99dd7b0f2b7c92c01", by decide +kernel⟩),
    (eventPayload 1 "posture-host-1" (some sampleCrystalId) tenantDefault "CRYSTAL_CREATED"
      "0E-12" (.obj [("platform", .str "posture_reconcile"), ("risk_tier", .str "high")])
      Ledger.genesisHash.val "2026-01-01 00:00:00+00",
      ⟨"611aa6df158af4b75ac8817c7c75a3be39543cae0f746c752bf3767229880f9b", by decide +kernel⟩),
    (fingerprintPayload "posture_reconcile" "posture-host-1" patchedFacets,
      ⟨"811f76985e2197b66abc310cf2aec32b53dbd6694bafa69a12029077bc755f48", by decide +kernel⟩)]

/-- The platform of the hosts. -/
def hostEnv : SecurityEnv :=
  tenantEnv (.ofDigests hostDigests fun _ => "2026-01-01 00:00:00+00")

/-- Another host without vulnerabilities. -/
def cleanHost : PostureIngest :=
  ⟨⟨"host-2", 0, 0, 0, tenantDefault⟩,
    { promptExchange 1 with uuid := "00000000000040008000000000000002" }, promptExchange 1⟩

/-- The mesh follows the postures of two hosts. -/
theorem ingestAll_meshFollows_hosts :
    meshBlockReason (ingestAll hostEnv postureDefaults postureWorld
        [driftingHost, cleanHost]).tables "egress_govern" ≠ none ↔
      SomeDrift postureDefaults (latestPosture [driftingHost, cleanHost]) := by
  refine (ingestAll_meshFollows_iff ⟨rfl, rfl, rfl⟩ ⟨rfl, rfl, _, rfl, rfl⟩ ?_ (by decide)
    ?_).mpr ?_ _ List.prefix_rfl
  · rintro call (- | ⟨-, - | ⟨-, ⟨⟩⟩⟩) <;>
      exact ⟨rfl, rfl, rfl, rfl, rfl, rfl, rfl, rfl, by decide⟩
  · rintro a (- | ⟨-, - | ⟨-, ⟨⟩⟩⟩) b (- | ⟨-, - | ⟨-, ⟨⟩⟩⟩) hasset _
    · rfl
    · exact absurd hasset (by decide)
    · exact absurd hasset (by decide)
    · rfl
  · intro before hearlier
    -- the hosts are ingested once each
    have honce : ∀ assetId, firstPosture before assetId = latestPosture before assetId := by
      intro assetId
      have hmem : before ∈ [driftingHost, cleanHost].inits := (List.mem_inits _ _).mpr hearlier
      rcases hmem with - | ⟨-, - | ⟨-, - | ⟨-, ⟨⟩⟩⟩⟩
      · rfl
      · rfl
      · by_cases hdrifting : "host-1" = assetId
        · subst hdrifting
          rfl
        · by_cases hclean : "host-2" = assetId
          · subst hclean
            rfl
          · simp [latestPosture, firstPosture, driftingHost, cleanHost, hdrifting, hclean]
    rw [funext honce]

/-- A host that drifted once blocks the egress platform after it is patched. -/
theorem patched_host_blocks :
    meshBlockReason (ingestAll hostEnv postureDefaults postureWorld
      [driftingHost, patchedHost]).tables "egress_govern" =
        some "mesh block: posture_reconcile.match_state=DRIFT" ∧
    ¬ SomeDrift postureDefaults (latestPosture [driftingHost, patchedHost]) := by
  refine ⟨by decide +kernel, ?_⟩
  rintro ⟨assetId, call, hlatest, hdrifts⟩
  obtain ⟨hmem, hasset⟩ := firstPosture_some hlatest
  have hhost : assetId = "host-1" := by
    simp only [List.reverse_cons, List.reverse_nil, List.nil_append, List.cons_append,
      List.mem_cons, List.not_mem_nil, or_false] at hmem
    rcases hmem with rfl | rfl <;> exact hasset.symm
  subst hhost
  have hpatched : latestPosture [driftingHost, patchedHost] "host-1" = some patchedHost := by
    rfl
  rw [hpatched] at hlatest
  obtain rfl := Option.some.inj hlatest
  exact absurd hdrifts (by decide)

end Governor.Sector
