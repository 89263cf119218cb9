import Mathlib
import Governor.Sector.Bound
import Governor.Sector.PolicyRules

/-!
# The triggers of ParametricOracle

A trigger request names an oracle, the payload that the oracle reported and a hash of both, and
besides these the metric and the threshold. The hash is checked against the source and the payload;
the decision compares the metric of the request with its threshold. The theorem says for which two
requests under one attestation the decision follows from what is attested.
-/

namespace Governor.Ledger.PyDecimal

/-- `x < y`, or `none` where the comparison with `NaN` raises `InvalidOperation`. -/
def less : PyDecimal → PyDecimal → Option Bool
  | nan, _ | _, nan => none
  | finite x, finite y => some (x.lt y)
  | finite _, infinity negative => some !negative
  | infinity negative, finite _ => some negative
  | infinity negative, infinity negative' => some (negative && !negative')

end Governor.Ledger.PyDecimal

namespace Governor.Sector

open Finance
open Ledger (Decimal Hash PyDecimal)

/-! ## A trigger -/

/-- `TriggerRequest`. -/
structure TriggerRequest where
  eventId : String
  metricValue : String
  threshold : String
  oracleSource : String
  oraclePayload : String
  oracleAttestationHash : String
  payoutReserve : String
  accountId : String
  policyId : String

/-- `TriggerEvaluation`. -/
structure TriggerEvaluation where
  triggered : Bool
  decision : String
  reason : Option String
  score : PyFloat

/-- `TriggerResponse`. -/
structure TriggerResponse where
  eventId : String
  decision : String
  triggerScore : PyFloat
  reason : Option String
  crystalId : Option String

/-- What a request is answered with. -/
inductive TriggerReply where
  | ok (body : TriggerResponse)
  /-- `HTTPException(status_code=422)`. -/
  | unprocessable (detail : String)
  /-- An exception that nothing catches. -/
  | raised

def parametricOracle : PlatformManifest where
  name := "parametric_oracle"
  defaultPolicyId := "parametric-cat-us"
  defaultRiskTier := "critical"
  requiredFacetKeys := ["event_id", "oracle_attestation_hash"]
  commitDecisions := ["TRIGGERED"]

/-- The platform as it is deployed. -/
structure OracleEnv where
  deployment : Deployment
  /-- `Decimal(text)`, or `none` where it raises. -/
  decimal : String → Option PyDecimal
  /-- The decimal that the spine reads from the text of a reserve. -/
  spineDecimal : DecimalReader

namespace OracleEnv

/-- The text that is attested. -/
def attestedText (source payload : String) : String := s!"{source}:{payload}"

/-- `verify_oracle_attestation`. -/
def verifyOracleAttestation (env : OracleEnv) (source payload attestationHash : String) : Bool :=
  attestationHash = (env.deployment.sha256 (attestedText source payload)).val

/-- `evaluate_trigger`, or `none` where the comparison raises. -/
def evaluateTrigger (metricValue threshold : PyDecimal) (oracleVerified : Bool) :
    Option TriggerEvaluation :=
  if oracleVerified = false then
    some ⟨false, "REJECTED", some "oracle_unverified", ⟨"0.0".toList, Eq.refl true⟩⟩
  else
    (metricValue.less threshold).map fun below =>
      if below then
        ⟨false, "BELOW_THRESHOLD", some "metric_below_threshold", ⟨"0.2".toList, Eq.refl true⟩⟩
      else ⟨true, "TRIGGERED", none, ⟨"1.0".toList, Eq.refl true⟩⟩

/-- `trigger_facets`. -/
def triggerFacets (env : OracleEnv) (r : TriggerRequest) (metricValue threshold : PyDecimal)
    (result : TriggerEvaluation) : Facets :=
  [("event_id", .str r.eventId),
    ("metric_value", .str metricValue.str),
    ("threshold", .str threshold.str),
    ("oracle_source", .str r.oracleSource),
    ("oracle_attestation_hash", .str r.oracleAttestationHash),
    ("trigger_decision", .str result.decision),
    ("trigger_score", .float result.score),
    ("trigger_fingerprint", .str (canonicalFingerprint env.deployment "parametric_oracle" r.eventId
      [("metric", .str metricValue.str), ("threshold", .str threshold.str),
        ("oracle", .str r.oracleSource)]).val)]

/-- The arguments of `govern_operation`. -/
def triggerCall (env : OracleEnv) (r : TriggerRequest) (metricValue threshold : PyDecimal)
    (result : TriggerEvaluation) : GovernCall where
  operationId := r.eventId
  facets := env.triggerFacets r metricValue threshold result
  decision := result.decision
  reserveAmount :=
    if result.triggered then env.spineDecimal r.payoutReserve else some defaultReserve
  accountId := r.accountId
  policyId := some r.policyId
  outcome := some "triggered"

/-- `POST /trigger/evaluate` after the trigger is evaluated. -/
def answer (env : OracleEnv) (r : TriggerRequest) (g : GovernCall) (result : TriggerEvaluation)
    (t t' : Exchange) (w : FinanceWorld) : TriggerReply × FinanceWorld :=
  match parametricOracle.governOperation env.deployment g t t' w with
  | (.error _, w') => (.raised, w')
  | (.ok crystalId, w') =>
    (.ok ⟨r.eventId, result.decision, result.score, result.reason, crystalId⟩, w')

/-- `POST /trigger/evaluate`. -/
def evaluate (env : OracleEnv) (r : TriggerRequest) (t t' : Exchange) (w : FinanceWorld) :
    TriggerReply × FinanceWorld :=
  if env.verifyOracleAttestation r.oracleSource r.oraclePayload r.oracleAttestationHash = false then
    (.unprocessable "oracle attestation mismatch", w)
  else
    match env.decimal r.metricValue, env.decimal r.threshold with
    | some metric, some threshold =>
      match evaluateTrigger metric threshold true with
      | none => (.raised, w)
      | some result =>
        env.answer r (env.triggerCall r metric threshold result) result t t' w
    | _, _ => (.raised, w)

/-! ## What the decision rests on -/

/-- The request states numbers that compare, and the metric is below the threshold or not. -/
def Compares (env : OracleEnv) (r : TriggerRequest) (below : Bool) : Prop :=
  ∃ metric threshold, env.decimal r.metricValue = some metric ∧
    env.decimal r.threshold = some threshold ∧ metric.less threshold = some below

/-- The requests state the same number as their threshold. -/
def SameThreshold (env : OracleEnv) (r r' : TriggerRequest) : Prop :=
  ∃ threshold threshold', env.decimal r.threshold = some threshold ∧
    env.decimal r'.threshold = some threshold' ∧ threshold.less threshold' = some false ∧
    threshold'.less threshold = some false

/-- The request is answered with the decision. -/
def Decides (env : OracleEnv) (r : TriggerRequest) (decision : String) : Prop :=
  ∃ t t' w body, (env.evaluate r t t' w).1 = .ok body ∧ body.decision = decision

/-- Two requests agree on what was attested, and under one threshold on the decision. -/
structure AttestedAlike (env : OracleEnv) (r r' : TriggerRequest) : Prop where
  oracleSource : r.oracleSource = r'.oracleSource
  oraclePayload : r.oraclePayload = r'.oraclePayload
  decision : env.SameThreshold r r' → ∀ decision decision', env.Decides r decision →
    env.Decides r' decision' → decision = decision'

section Decisions

variable {env : OracleEnv} {r r' : TriggerRequest}

/-- A governed trigger has the facets that the manifest asks for, so it is answered. -/
theorem answer_ok (env : OracleEnv) (r : TriggerRequest) (metric threshold : PyDecimal)
    (result : TriggerEvaluation) (t t' : Exchange) (w : FinanceWorld) :
    ∃ crystalId, (env.answer r (env.triggerCall r metric threshold result) result t t' w).1 =
      .ok ⟨r.eventId, result.decision, result.score, result.reason, crystalId⟩ := by
  have hfacets : parametricOracle.validateFacets
      (env.triggerCall r metric threshold result).facets = [] := by
    rfl
  unfold answer PlatformManifest.governOperation
  simp only [hfacets, ite_true]
  split
  · next hlost =>
    split at hlost
    · cases hlost
    · split_ifs at hlost
      · split at hlost <;> cases hlost
      · cases hlost
  · exact ⟨_, rfl⟩

/-- A request with a genuine attestation is decided by the numbers that it states. -/
theorem decides_iff
    (hverified : env.verifyOracleAttestation r.oracleSource r.oraclePayload
      r.oracleAttestationHash = true) {decision : String} :
    env.Decides r decision ↔ ∃ below, env.Compares r below ∧
      decision = if below then "BELOW_THRESHOLD" else "TRIGGERED" := by
  unfold Decides evaluate
  simp only [hverified, Bool.true_eq_false, if_false]
  constructor
  · rintro ⟨t, t', w, body, hreply, rfl⟩
    split at hreply
    · next metric threshold hmetric hthreshold =>
      cases hless : metric.less threshold with
      | none =>
        simp only [evaluateTrigger, hless, Bool.true_eq_false, if_false, Option.map_none] at hreply
        cases hreply
      | some below =>
        refine ⟨below, ⟨metric, threshold, hmetric, hthreshold, hless⟩, ?_⟩
        simp only [evaluateTrigger, hless, Bool.true_eq_false, if_false, Option.map_some] at hreply
        obtain ⟨crystalId, hanswer⟩ := env.answer_ok r metric threshold _ t t' w
        rw [hanswer] at hreply
        obtain rfl := TriggerReply.ok.inj hreply
        cases below <;> rfl
    · cases hreply
  · rintro ⟨below, ⟨metric, threshold, hmetric, hthreshold, hless⟩, rfl⟩
    simp only [hmetric, hthreshold, evaluateTrigger, hless, Bool.true_eq_false, if_false,
      Option.map_some]
    obtain ⟨crystalId, hanswer⟩ := env.answer_ok r metric threshold
      (if below then
        ⟨false, "BELOW_THRESHOLD", some "metric_below_threshold", ⟨"0.2".toList, Eq.refl true⟩⟩
      else ⟨true, "TRIGGERED", none, ⟨"1.0".toList, Eq.refl true⟩⟩)
      (promptExchange 0) (promptExchange 0) carrierWorld
    exact ⟨_, _, _, _, hanswer, by cases below <;> rfl⟩

/-- One attested text has only one source of a given length. -/
theorem attestedText_eq_iff {source payload source' payload' : String}
    (h : attestedText source payload = attestedText source' payload') :
    source = source' ∧ payload = payload' ↔ source.length = source'.length := by
  have hlist : source.toList ++ ':' :: payload.toList =
      source'.toList ++ ':' :: payload'.toList := by
    have htext := congrArg String.toList h
    simp only [attestedText, String.toList_append, List.append_assoc] at htext
    exact htext
  constructor
  · rintro ⟨rfl, -⟩
    rfl
  · intro hlength
    obtain ⟨hsource, hrest⟩ := List.append_inj hlist hlength
    exact ⟨String.toList_inj.mp hsource, String.toList_inj.mp (List.cons.inj hrest).2⟩

end Decisions

/-- Two requests under one attestation are decided by what is attested exactly when their sources
are equally long and, under one threshold, both metrics are below it or neither is. -/
theorem attestedAlike_iff (env : OracleEnv) {r r' : TriggerRequest}
    (hverified : env.verifyOracleAttestation r.oracleSource r.oraclePayload
      r.oracleAttestationHash = true)
    (hverified' : env.verifyOracleAttestation r'.oracleSource r'.oraclePayload
      r'.oracleAttestationHash = true)
    (hhash : r.oracleAttestationHash = r'.oracleAttestationHash)
    (hcollision : env.deployment.sha256 (attestedText r.oracleSource r.oraclePayload) =
        env.deployment.sha256 (attestedText r'.oracleSource r'.oraclePayload) →
      attestedText r.oracleSource r.oraclePayload =
        attestedText r'.oracleSource r'.oraclePayload) :
    env.AttestedAlike r r' ↔ r.oracleSource.length = r'.oracleSource.length ∧
      (env.SameThreshold r r' → ∀ below below', env.Compares r below → env.Compares r' below' →
        below = below') := by
  have htext : attestedText r.oracleSource r.oraclePayload =
      attestedText r'.oracleSource r'.oraclePayload := by
    unfold verifyOracleAttestation at hverified hverified'
    rw [decide_eq_true_iff] at hverified hverified'
    refine hcollision (Subtype.ext ?_)
    rw [← hverified, ← hverified', hhash]
  rw [← attestedText_eq_iff htext]
  constructor
  · intro h
    refine ⟨⟨h.oracleSource, h.oraclePayload⟩, fun hsame below below' hbelow hbelow' => ?_⟩
    have hdecision := h.decision hsame _ _ ((decides_iff hverified).mpr ⟨below, hbelow, rfl⟩)
      ((decides_iff hverified').mpr ⟨below', hbelow', rfl⟩)
    revert hdecision
    cases below <;> cases below' <;> decide
  · rintro ⟨⟨hsource, hpayload⟩, hside⟩
    refine ⟨hsource, hpayload, fun hsame decision decision' hdecides hdecides' => ?_⟩
    obtain ⟨below, hbelow, rfl⟩ := (decides_iff hverified).mp hdecides
    obtain ⟨below', hbelow', rfl⟩ := (decides_iff hverified').mp hdecides'
    rw [hside hsame below below' hbelow hbelow']

end OracleEnv

/-! ## One reading, two metrics -/

/-- `Decimal` and the spine, on the numbers that the requests state. -/
def readMetric (text : String) : Option Decimal :=
  [("4.0", ⟨40, -1⟩), ("6.5", ⟨65, -1⟩), ("7.2", ⟨72, -1⟩), ("1000", ⟨1000, 0⟩)].lookup text

def quakeText : String := "usgs-feed:\x7b\"magnitude\": 4.0\x7d"

def quakeHash : Hash :=
  ⟨"79c40d66c6127214eb120928ac1c853fe1ae245f14f669737d806e61ce36cbb1", by decide +kernel⟩

/-- The platform, with the digest of the reading. -/
def quakeEnv : OracleEnv where
  deployment := .ofDigests [(quakeText, quakeHash)] fun _ => "2026-01-01 00:00:00+00"
  decimal text := (readMetric text).map .finite
  spineDecimal := readMetric

/-- A request under the oracle's reading of a magnitude of 4.0. -/
def quakeTrigger (metricValue : String) : TriggerRequest where
  eventId := "evt-1"
  metricValue := metricValue
  threshold := "6.5"
  oracleSource := "usgs-feed"
  oraclePayload := "\x7b\"magnitude\": 4.0\x7d"
  oracleAttestationHash := quakeHash.val
  payoutReserve := "1000"
  accountId := "carrier-default"
  policyId := "parametric-cat-us"

theorem quakeTrigger_verified (metricValue : String) :
    quakeEnv.verifyOracleAttestation (quakeTrigger metricValue).oracleSource
      (quakeTrigger metricValue).oraclePayload
      (quakeTrigger metricValue).oracleAttestationHash = true := by
  change quakeEnv.verifyOracleAttestation "usgs-feed" "\x7b\"magnitude\": 4.0\x7d" quakeHash.val =
    true
  decide +kernel

/-- A request and its repetition are decided alike. -/
theorem attestedAlike_repeated :
    quakeEnv.AttestedAlike (quakeTrigger "4.0") (quakeTrigger "4.0") := by
  refine (quakeEnv.attestedAlike_iff (quakeTrigger_verified _) (quakeTrigger_verified _) rfl
    fun _ => rfl).mpr ⟨rfl, ?_⟩
  rintro - below below' ⟨m, t, hm, ht, hless⟩ ⟨m', t', hm', ht', hless'⟩
  rw [hm] at hm'
  rw [ht] at ht'
  obtain rfl := Option.some.inj hm'
  obtain rfl := Option.some.inj ht'
  rw [hless] at hless'
  exact Option.some.inj hless'

/-- Under one reading the trigger stays below the threshold or pays, as the caller states the
metric. -/
theorem metric_outside_attestation :
    quakeEnv.Decides (quakeTrigger "4.0") "BELOW_THRESHOLD" ∧
      quakeEnv.Decides (quakeTrigger "7.2") "TRIGGERED" ∧
      ¬ quakeEnv.AttestedAlike (quakeTrigger "4.0") (quakeTrigger "7.2") := by
  have hbelow : quakeEnv.Decides (quakeTrigger "4.0") "BELOW_THRESHOLD" :=
    (OracleEnv.decides_iff (quakeTrigger_verified _)).mpr
      ⟨true, ⟨.finite ⟨40, -1⟩, .finite ⟨65, -1⟩, by decide, by decide, by decide⟩, rfl⟩
  have habove : quakeEnv.Decides (quakeTrigger "7.2") "TRIGGERED" :=
    (OracleEnv.decides_iff (quakeTrigger_verified _)).mpr
      ⟨false, ⟨.finite ⟨72, -1⟩, .finite ⟨65, -1⟩, by decide, by decide, by decide⟩, rfl⟩
  refine ⟨hbelow, habove, fun h => ?_⟩
  have hthreshold : quakeEnv.SameThreshold (quakeTrigger "4.0") (quakeTrigger "7.2") :=
    ⟨.finite ⟨65, -1⟩, .finite ⟨65, -1⟩, by decide, by decide, by decide, by decide⟩
  exact absurd (h.decision hthreshold _ _ hbelow habove) (by decide)

end Governor.Sector
