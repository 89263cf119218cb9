import Mathlib
import Governor.Finance.Amounts
import Governor.Sector.Covered

/-!
# The cybersecurity platforms

EgressGovern, IncidentResponseGate, IdentityGovern, ThreatProxy and ContentGuard decide a request
by their own rules, govern the decision, and answer by the decision alone: what
`govern_operation` returned is put into the answer and not looked at. The last part says when an
answer of success is nevertheless backed by a committed crystal and no mesh block.
-/

namespace Governor.Sector

open Finance
open Ledger (Decimal Hash)

/-! ## Surroundings -/

/-- The settings of the platforms, and what they call of Python's text functions, `urllib` and
`re`. -/
structure SecurityEnv where
  deployment : Deployment
  strip : String → String
  lower : String → String
  upper : String → String
  /-- `urlparse(url).hostname`. -/
  hostname : String → Option String
  /-- `re.compile(pattern).match(text)`. -/
  reMatch : String → String → Bool
  /-- `re.compile(pattern).search(text)`. -/
  reSearch : String → String → Bool
  /-- `re.compile(pattern).sub(replacement, text)`. -/
  reSub : String → String → String → String
  /-- `EGRESS_ALLOWLIST`. -/
  egressAllowlist : String
  /-- `THREAT_SCORE_THRESHOLD`. -/
  threatScoreThreshold : Decimal

/-- The answer of a handler. -/
inductive HandlerReply where
  | ok (body : Facets)
  /-- `HTTPException(status_code=403)`. -/
  | forbidden (detail : Facets)
  /-- A `ValueError` that nothing catches. -/
  | raised (message : String)

/-- The default of `account_id`. -/
def tenantDefault : String := "tenant-default"

/-- A call of `govern_operation` without a reserve and with the default policy. -/
def securityCall (env : SecurityEnv) (operationId : String) (facets : Facets) (decision : String)
    (accountId : String) : GovernCall where
  operationId := operationId
  facets := facets
  decision := decision
  reserveAmount := some defaultReserve
  accountId := accountId
  policyId := none
  outcome := some (env.lower decision)

/-- Govern the decision and answer by it. -/
def answerGoverned (env : SecurityEnv) (m : PlatformManifest) (g : GovernCall) (granted : Bool)
    (body : Json → Facets) (detail : Facets) (t t' : Exchange) (w : FinanceWorld) :
    HandlerReply × FinanceWorld :=
  match m.governOperation env.deployment g t t' w with
  | (.error message, w') => (.raised message, w')
  | (.ok crystalId, w') =>
    if granted then (.ok (body (crystalId.elim .null .str)), w') else (.forbidden detail, w')

/-! ## EgressGovern -/

/-- `DEFAULT_ALLOWLIST`. -/
def defaultAllowlist : List String :=
  ["api.openai.com", "api.anthropic.com", "sidecar.cybersecuritygovernor.svc.cluster.local"]

/-- `EgressRequest`. -/
structure EgressRequest where
  flowId : String
  destinationHost : String
  destinationPort : Int
  protocol : String
  accountId : String

def egressGovern : PlatformManifest where
  name := "egress_govern"
  defaultPolicyId := "egress-critical-us"
  defaultRiskTier := "critical"
  requiredFacetKeys := ["flow_id", "destination_host", "egress_decision"]
  commitDecisions := ["ALLOWED"]

namespace SecurityEnv

/-- `allowlist`. -/
def allowlist (env : SecurityEnv) : List String :=
  if env.strip env.egressAllowlist = "" then defaultAllowlist
  else ((env.egressAllowlist.splitOn ",").filter fun h => env.strip h ≠ "").map fun h =>
    env.lower (env.strip h)

/-- `normalize_host`. -/
def normalizeHost (env : SecurityEnv) (host : String) : String :=
  let host := env.lower (env.strip host)
  if "://".toList <:+: host.toList then
    env.lower (if Ledger.truthy (env.hostname host) then (env.hostname host).getD "" else host)
  else String.ofList (host.toList.takeWhile fun c => c ≠ ':')

/-- `evaluate_egress`: the decision and its reference. -/
def evaluateEgress (env : SecurityEnv) (r : EgressRequest) : String × String :=
  let host := env.normalizeHost r.destinationHost
  if host ∈ env.allowlist then ("ALLOWED", s!"allowlisted:{host}")
  else ("DENIED", s!"host not in allowlist: {host}")

/-- The call that `/egress/evaluate` makes. -/
def egressCall (env : SecurityEnv) (r : EgressRequest) : GovernCall :=
  let (decision, reference) := env.evaluateEgress r
  securityCall env r.flowId [
    ("flow_id", .str r.flowId),
    ("destination_host", .str (env.normalizeHost r.destinationHost)),
    ("destination_port", .int r.destinationPort),
    ("protocol", .str r.protocol),
    ("egress_decision", .str decision),
    ("reference", .str reference)] decision r.accountId

/-- `POST /egress/evaluate`. -/
def egressEvaluate (env : SecurityEnv) (r : EgressRequest) :
    Exchange → Exchange → FinanceWorld → HandlerReply × FinanceWorld :=
  let (decision, reference) := env.evaluateEgress r
  answerGoverned env egressGovern (env.egressCall r) (decision = "ALLOWED")
    (fun crystalId => [("decision", .str decision), ("crystal_id", crystalId),
      ("reference", .str reference)])
    [("decision", .str decision), ("reference", .str reference)]

end SecurityEnv

/-! ## IncidentResponseGate -/

/-- `HIGH_RISK_ACTIONS`. -/
def highRiskActions : List String :=
  ["isolate_host", "revoke_credentials", "block_egress", "wipe_endpoint"]

/-- `ALLOWED_SEVERITIES`. -/
def allowedSeverities : List String := ["LOW", "MEDIUM", "HIGH", "CRITICAL"]

/-- `IncidentRequest`. -/
structure IncidentRequest where
  incidentId : String
  actionType : String
  severity : String
  playbookId : String
  approver : Option String
  accountId : String

def incidentResponseGate : PlatformManifest where
  name := "incident_response_gate"
  defaultPolicyId := "ir-critical-us"
  defaultRiskTier := "critical"
  requiredFacetKeys := ["incident_id", "action_type", "ir_decision"]
  commitDecisions := ["AUTHORIZED"]

namespace SecurityEnv

/-- `evaluate_incident`. -/
def evaluateIncident (env : SecurityEnv) (r : IncidentRequest) : String × String :=
  let severity := env.upper r.severity
  let action := env.strip (env.lower r.actionType)
  if severity ∉ allowedSeverities then ("DENIED", s!"invalid severity: {r.severity}")
  else if action ∈ highRiskActions ∧ severity ≠ "CRITICAL" then
    ("DENIED", s!"action {action} requires CRITICAL severity")
  else if action ∈ highRiskActions ∧ Ledger.truthy r.approver = false then
    ("DENIED", "high-risk action requires approver")
  else ("AUTHORIZED", s!"playbook:{r.playbookId}")

/-- The call that `/incident/authorize` makes. -/
def incidentCall (env : SecurityEnv) (r : IncidentRequest) : GovernCall :=
  let (decision, reference) := env.evaluateIncident r
  securityCall env s!"{r.incidentId}-{r.actionType}" [
    ("incident_id", .str r.incidentId),
    ("action_type", .str r.actionType),
    ("severity", .str (env.upper r.severity)),
    ("playbook_id", .str r.playbookId),
    ("ir_decision", .str decision),
    ("reference", .str reference)] decision r.accountId

/-- `POST /incident/authorize`. -/
def incidentAuthorize (env : SecurityEnv) (r : IncidentRequest) :
    Exchange → Exchange → FinanceWorld → HandlerReply × FinanceWorld :=
  let (decision, reference) := env.evaluateIncident r
  answerGoverned env incidentResponseGate (env.incidentCall r) (decision = "AUTHORIZED")
    (fun crystalId => [("decision", .str decision), ("crystal_id", crystalId),
      ("reference", .str reference)])
    [("decision", .str decision), ("reference", .str reference)]

end SecurityEnv

/-! ## IdentityGovern -/

/-- The pattern of `_PRINCIPAL_RE`. -/
def principalPattern : String := "^cluster\\.local/ns/[\\w-]+/sa/[\\w-]+$|^[\\w.@+-]+$"

/-- `IdentityRequest`. -/
structure IdentityRequest where
  principal : String
  workloadSa : String
  roleSet : List String
  accountId : String

def identityGovern : PlatformManifest where
  name := "identity_govern"
  defaultPolicyId := "identity-high-us"
  defaultRiskTier := "high"
  requiredFacetKeys := ["principal", "workload_sa", "identity_decision"]
  commitDecisions := ["VERIFIED"]

namespace SecurityEnv

/-- `_role_hash`. -/
def roleHash (env : SecurityEnv) (roles : List String) : Hash :=
  env.deployment.sha256 (String.intercalate ","
    (((roles.filter fun r => env.strip r ≠ "").map fun r => env.lower (env.strip r)).insertionSort
      fun a b => a ≤ b))

/-- `evaluate_identity`. -/
def evaluateIdentity (env : SecurityEnv) (r : IdentityRequest) : String × String :=
  let principal := env.strip r.principal
  let workloadSa := env.strip r.workloadSa
  if env.reMatch principalPattern principal = false then ("VIOLATION", "invalid principal format")
  else
    let suffix := if "sa/".toList <+: workloadSa.toList then workloadSa else s!"sa/{workloadSa}"
    if suffix.toList <:+ principal.toList ∨ principal = workloadSa then
      ("VERIFIED", s!"principal matches workload:{workloadSa}")
    else ("VIOLATION", s!"principal {principal} does not match workload {workloadSa}")

/-- The call that `/identity/verify` makes: one operation for each principal. -/
def identityCall (env : SecurityEnv) (r : IdentityRequest) : GovernCall :=
  let (decision, reference) := env.evaluateIdentity r
  let digest := String.ofList ((env.deployment.sha256 r.principal).val.toList.take 16)
  securityCall env s!"id-{digest}" [
    ("principal", .str r.principal),
    ("workload_sa", .str r.workloadSa),
    ("role_set_hash", .str (env.roleHash r.roleSet).val),
    ("identity_decision", .str decision),
    ("reference", .str reference)] decision r.accountId

/-- `POST /identity/verify`. -/
def identityVerify (env : SecurityEnv) (r : IdentityRequest) :
    Exchange → Exchange → FinanceWorld → HandlerReply × FinanceWorld :=
  let (decision, reference) := env.evaluateIdentity r
  answerGoverned env identityGovern (env.identityCall r) (decision = "VERIFIED")
    (fun crystalId => [("decision", .str decision), ("crystal_id", crystalId),
      ("role_set_hash", .str (env.roleHash r.roleSet).val)])
    [("decision", .str decision), ("reference", .str reference)]

end SecurityEnv

/-! ## ThreatProxy -/

/-- `ThreatRequest`, with the entropy as `Decimal(str(payload_entropy))`. -/
structure ThreatRequest where
  requestId : String
  payloadEntropy : Decimal
  anomalySignals : List String
  dataClass : String
  accountId : String

/-- `signal_weight`. -/
def signalWeight : List (String × Decimal) :=
  [("prompt_injection", ⟨35, -2⟩), ("tool_abuse", ⟨4, -1⟩), ("credential_spray", ⟨5, -1⟩),
    ("lateral_movement", ⟨45, -2⟩), ("exfil_pattern", ⟨55, -2⟩)]

def threatProxy : PlatformManifest where
  name := "threat_proxy"
  defaultPolicyId := "threat-critical-us"
  defaultRiskTier := "critical"
  requiredFacetKeys := ["request_id", "threat_score", "threat_decision"]
  commitDecisions := ["CLEARED"]

/-- `min(x, 1.0)`. -/
def atMostOne (x : Decimal) : Decimal := if Decimal.lt ⟨10, -1⟩ x then ⟨10, -1⟩ else x

namespace SecurityEnv

/-- `score_threat`: the score and the signals. -/
def scoreThreat (env : SecurityEnv) (r : ThreatRequest) : Decimal × String :=
  let base : Decimal := ⟨1, -1⟩
  let base := if env.lower r.dataClass ∈ ["secret", "pii", "pci"] then base.plus ⟨25, -2⟩ else base
  let base := base.plus ((atMostOne r.payloadEntropy).times ⟨3, -1⟩)
  let base := r.anomalySignals.foldl
    (fun base signal => base.plus ((signalWeight.lookup (env.lower signal)).getD ⟨15, -2⟩)) base
  let signals := String.intercalate "," r.anomalySignals
  (atMostOne base, if signals = "" then "none" else signals)

/-- The decision of `/threat/score`. -/
def threatDecision (env : SecurityEnv) (r : ThreatRequest) : String :=
  if (env.scoreThreat r).1.lt env.threatScoreThreshold then "CLEARED" else "BLOCKED"

/-- The call that `/threat/score` makes. -/
def threatCall (env : SecurityEnv) (r : ThreatRequest) : GovernCall :=
  let (score, signals) := env.scoreThreat r
  securityCall env r.requestId [
    ("request_id", .str r.requestId),
    ("threat_score", .str score.str),
    ("threshold", .str env.threatScoreThreshold.str),
    ("signals", .str signals),
    ("threat_decision", .str (env.threatDecision r))] (env.threatDecision r) r.accountId

/-- `POST /threat/score`. -/
def threatScore (env : SecurityEnv) (r : ThreatRequest) :
    Exchange → Exchange → FinanceWorld → HandlerReply × FinanceWorld :=
  let score := (env.scoreThreat r).1.str
  let decision := env.threatDecision r
  answerGoverned env threatProxy (env.threatCall r) (decision = "CLEARED")
    (fun crystalId => [("threat_score", .str score), ("decision", .str decision),
      ("crystal_id", crystalId)])
    [("threat_score", .str score), ("decision", .str decision)]

end SecurityEnv

/-! ## ContentGuard -/

/-- `ContentEvaluateRequest`. -/
structure ContentRequest where
  contentId : String
  principalId : String
  channel : String
  textBody : String
  classificationHint : String

/-- The names and the patterns of `_DEFAULT_PATTERNS`. -/
def contentPatterns : List (String × String) :=
  [("pii_ssn", "\\b\\d\x7b3\x7d-\\d\x7b2\x7d-\\d\x7b4\x7d\\b"),
    ("secret_api_key", "\\bsk-[a-zA-Z0-9]\x7b20,\x7d\\b"),
    ("pii_pan", "\\b\\d\x7b4\x7d[- ]?\\d\x7b4\x7d[- ]?\\d\x7b4\x7d[- ]?\\d\x7b4\x7d\\b")]

/-- `ContentEvaluation`. -/
structure ContentEvaluation where
  decision : String
  riskScore : PyFloat
  matchedPatterns : List String
  redactedBody : Option String
  reason : Option String

def contentGuard : PlatformManifest where
  name := "content_guard"
  defaultPolicyId := "content-high-us"
  defaultRiskTier := "high"
  requiredFacetKeys := ["content_decision", "principal_id"]
  commitDecisions := ["ALLOWED", "REDACTED"]

namespace SecurityEnv

/-- `_redact_matches`. -/
def redactMatches (env : SecurityEnv) (text : String) : String :=
  contentPatterns.foldl (fun redacted (name, pattern) =>
    env.reSub pattern s!"[REDACTED:{name}]" redacted) text

/-- `evaluate_content`. -/
def evaluateContent (env : SecurityEnv) (r : ContentRequest) : ContentEvaluation :=
  if r.principalId = "" ∨ r.principalId = "unknown" then
    ⟨"BLOCKED", ⟨"1.0".toList, Eq.refl true⟩, [], none, some "unknown principal"⟩
  else
    let matched := (contentPatterns.filter fun p => env.reSearch p.2 r.textBody).map Prod.fst
    let names := String.intercalate ", " matched
    if matched = [] then ⟨"ALLOWED", ⟨"0.05".toList, Eq.refl true⟩, [], none, none⟩
    else if "secret_api_key" ∈ matched ∨ "pii_ssn" ∈ matched then
      ⟨"BLOCKED", ⟨"0.95".toList, Eq.refl true⟩, matched, none,
        some s!"sensitive pattern blocked: {names}"⟩
    else if "pii_pan" ∈ matched ∧ env.lower r.classificationHint ∈ ["restricted", "confidential"]
      then ⟨"BLOCKED", ⟨"0.9".toList, Eq.refl true⟩, matched, none,
        some "payment card data blocked on restricted classification"⟩
    else if "pii_pan" ∈ matched ∧ env.lower r.channel ∈ ["publish", "email", "api"] then
      ⟨"REDACTED", ⟨"0.6".toList, Eq.refl true⟩, matched, some (env.redactMatches r.textBody),
        some "payment card data redacted"⟩
    else ⟨"BLOCKED", ⟨"0.85".toList, Eq.refl true⟩, matched, none,
      some s!"content blocked: {names}"⟩

/-- The call that `/content/evaluate` makes. -/
def contentCall (env : SecurityEnv) (r : ContentRequest) : GovernCall :=
  let result := env.evaluateContent r
  securityCall env r.contentId ([
    ("principal_id", .str r.principalId),
    ("channel", .str r.channel),
    ("classification_hint", .str r.classificationHint),
    ("content_decision", .str result.decision),
    ("matched_patterns", .arr (result.matchedPatterns.map .str)),
    ("risk_score", .float result.riskScore)] ++
    (result.redactedBody.map fun body => ("redacted_body", Json.str body)).toList)
    result.decision tenantDefault

/-- `POST /content/evaluate`: content that is blocked is not governed. -/
def contentEvaluate (env : SecurityEnv) (r : ContentRequest) (t t' : Exchange) (w : FinanceWorld) :
    HandlerReply × FinanceWorld :=
  let result := env.evaluateContent r
  let patterns : Json := .arr (result.matchedPatterns.map .str)
  let detail : Facets := [("content_id", .str r.contentId), ("decision", .str result.decision),
    ("reason", result.reason.elim .null .str), ("matched_patterns", patterns)]
  let body (crystalId : Json) : Facets :=
    [("content_id", .str r.contentId), ("decision", .str result.decision),
      ("risk_score", .float result.riskScore), ("matched_patterns", patterns),
      ("redacted_body", result.redactedBody.elim .null .str),
      ("reason", result.reason.elim .null .str), ("crystal_id", crystalId)]
  if result.decision ∈ ["ALLOWED", "REDACTED"] then
    answerGoverned env contentGuard (env.contentCall r) (result.decision ≠ "BLOCKED") body detail
      t t' w
  else if result.decision = "BLOCKED" then (.forbidden detail, w)
  else (.ok (body .null), w)

end SecurityEnv

/-! ## Requests to the platforms -/

/-- A request to one of the platforms. -/
inductive SecurityRequest where
  | egress (r : EgressRequest)
  | incident (r : IncidentRequest)
  | identity (r : IdentityRequest)
  | threat (r : ThreatRequest)
  | content (r : ContentRequest)

namespace SecurityRequest

def manifest : SecurityRequest → PlatformManifest
  | .egress _ => egressGovern
  | .incident _ => incidentResponseGate
  | .identity _ => identityGovern
  | .threat _ => threatProxy
  | .content _ => contentGuard

/-- The operation that the request governs. -/
def call (env : SecurityEnv) : SecurityRequest → GovernCall
  | .egress r => env.egressCall r
  | .incident r => env.incidentCall r
  | .identity r => env.identityCall r
  | .threat r => env.threatCall r
  | .content r => env.contentCall r

/-- The handler of the request. -/
def handle (env : SecurityEnv) : SecurityRequest → Exchange → Exchange → FinanceWorld →
    HandlerReply × FinanceWorld
  | .egress r => env.egressEvaluate r
  | .incident r => env.incidentAuthorize r
  | .identity r => env.identityVerify r
  | .threat r => env.threatScore r
  | .content r => env.contentEvaluate r

/-- The rules of the platform decide for the request. -/
def granted (env : SecurityEnv) (r : SecurityRequest) : Bool :=
  (r.call env).decision ∈ r.manifest.commitDecisions

end SecurityRequest

/-! ## Answers of success -/

/-- An answer of success comes with a committed crystal of the operation and its facets, and with
no mesh block of the platform when the spine was asked last. -/
def FailsClosed (env : SecurityEnv) (r : SecurityRequest) (t t' : Exchange) (w : FinanceWorld) :
    Prop :=
  ∀ body, (r.handle env t t' w).1 = .ok body →
    CommittedFor env.deployment r.manifest (r.call env) (r.handle env t t' w).2.tables ∧
    meshBlockReason (lastAsked env.deployment r.manifest (r.call env) t t' w).tables
      r.manifest.name = none

section Answers

variable {env : SecurityEnv} {m : PlatformManifest} {g : GovernCall} {t t' : Exchange}
  {w : FinanceWorld}

/-- A governed handler answers by its decision. -/
theorem answerGoverned_ok (hfacets : m.validateFacets g.facets = []) (granted : Bool)
    (body : Json → Facets) (detail : Facets) :
    (answerGoverned env m g granted body detail t t' w).2 =
        (m.governOperation env.deployment g t t' w).2 ∧
      ((∃ b, (answerGoverned env m g granted body detail t t' w).1 = .ok b) ↔ granted = true) := by
  have hok : ∃ x, (m.governOperation env.deployment g t t' w).1 = .ok x := by
    unfold PlatformManifest.governOperation
    simp only [hfacets, ite_true]
    split
    · exact ⟨_, rfl⟩
    · split_ifs
      · split <;> exact ⟨_, rfl⟩
      · exact ⟨_, rfl⟩
  obtain ⟨x, hx⟩ := hok
  unfold answerGoverned
  generalize m.governOperation env.deployment g t t' w = r at hx ⊢
  obtain ⟨r, w'⟩ := r
  simp only at hx
  subst hx
  cases granted <;> simp

/-- ContentGuard knows three decisions. -/
theorem evaluateContent_decision (env : SecurityEnv) (r : ContentRequest) :
    (env.evaluateContent r).decision = "ALLOWED" ∨ (env.evaluateContent r).decision = "REDACTED" ∨
      (env.evaluateContent r).decision = "BLOCKED" := by
  simp only [SecurityEnv.evaluateContent]
  split_ifs <;> simp

namespace SecurityRequest

/-- Every platform submits the facets that its manifest requires. -/
theorem call_facets (env : SecurityEnv) (r : SecurityRequest) :
    r.manifest.validateFacets (r.call env).facets = [] := by
  cases r <;> rfl

/-- Every platform governs without a reserve. -/
theorem call_reserve (env : SecurityEnv) (r : SecurityRequest) :
    (r.call env).reserveAmount = some defaultReserve := by
  cases r <;> rfl

/-- The answer is a success exactly when the platform's rules grant the request, and then the
operation was governed. -/
theorem handle_ok (env : SecurityEnv) (r : SecurityRequest) (t t' : Exchange) (w : FinanceWorld) :
    ((∃ b, (r.handle env t t' w).1 = .ok b) ↔ r.granted env = true) ∧
      (r.granted env = true → (r.handle env t t' w).2 =
        (r.manifest.governOperation env.deployment (r.call env) t t' w).2) := by
  have hgoverned := fun granted body detail =>
    (answerGoverned_ok (call_facets env r) granted body detail :
      (answerGoverned env r.manifest (r.call env) granted body detail t t' w).2 = _ ∧ _)
  cases r with
  | egress r =>
    obtain ⟨hworld, hok⟩ := hgoverned (decide ((env.evaluateEgress r).1 = "ALLOWED")) _ _
    exact ⟨hok.trans (by simp [granted, call, manifest, SecurityEnv.egressCall, securityCall,
      egressGovern]), fun _ => hworld⟩
  | incident r =>
    obtain ⟨hworld, hok⟩ := hgoverned (decide ((env.evaluateIncident r).1 = "AUTHORIZED")) _ _
    exact ⟨hok.trans (by simp [granted, call, manifest, SecurityEnv.incidentCall, securityCall,
      incidentResponseGate]), fun _ => hworld⟩
  | identity r =>
    obtain ⟨hworld, hok⟩ := hgoverned (decide ((env.evaluateIdentity r).1 = "VERIFIED")) _ _
    exact ⟨hok.trans (by simp [granted, call, manifest, SecurityEnv.identityCall, securityCall,
      identityGovern]), fun _ => hworld⟩
  | threat r =>
    obtain ⟨hworld, hok⟩ := hgoverned (decide (env.threatDecision r = "CLEARED")) _ _
    exact ⟨hok.trans (by simp [granted, call, manifest, SecurityEnv.threatCall, securityCall,
      threatProxy]), fun _ => hworld⟩
  | content r =>
    have hdecision : ((content r).call env).decision = (env.evaluateContent r).decision := rfl
    have hhandle : (content r).handle env t t' w = env.contentEvaluate r t t' w := rfl
    have hgranted : (content r).granted env =
        decide ((env.evaluateContent r).decision ∈ ["ALLOWED", "REDACTED"]) := rfl
    rw [hgranted, hhandle]
    unfold SecurityEnv.contentEvaluate
    by_cases hin : (env.evaluateContent r).decision ∈ ["ALLOWED", "REDACTED"]
    · simp only [hin, ite_true, decide_true, iff_true, forall_const]
      have hne : (env.evaluateContent r).decision ≠ "BLOCKED" := by
        intro hblocked
        rw [hblocked] at hin
        exact absurd hin (by decide)
      obtain ⟨hworld, hok⟩ := hgoverned
        (decide ((env.evaluateContent r).decision ≠ "BLOCKED")) _ _
      exact ⟨hok.mpr (decide_eq_true hne), hworld⟩
    · have hblocked : (env.evaluateContent r).decision = "BLOCKED" := by
        rcases evaluateContent_decision env r with h | h | h
        · exact absurd (by simp [h]) hin
        · exact absurd (by simp [h]) hin
        · exact h
      simp [hblocked]

end SecurityRequest

end Answers

/-- In every reachable state of the spine and whatever it does, a platform fails closed exactly
when its rules refuse the request or the spine covers the operation. -/
theorem run_failsClosed_iff {start : FinanceWorld} (hstart : NoCrystals start)
    (actions : List Action) (env : SecurityEnv) (r : SecurityRequest) (t t' : Exchange) :
    FailsClosed env r t t' (run env.deployment start actions) ↔
      (r.granted env = true →
        Covered env.deployment r.manifest (r.call env) t t' (run env.deployment start actions)) := by
  have hw := run_sound (d := env.deployment) hstart.sound actions
  obtain ⟨hok, hworld⟩ := r.handle_ok env t t' (run env.deployment start actions)
  have hcovered : r.granted env = true →
      (CommittedFor env.deployment r.manifest (r.call env) (r.manifest.governOperation
          env.deployment (r.call env) t t' (run env.deployment start actions)).2.tables ∧
        meshBlockReason (lastAsked env.deployment r.manifest (r.call env) t t'
          (run env.deployment start actions)).tables r.manifest.name = none ↔
        Covered env.deployment r.manifest (r.call env) t t' (run env.deployment start actions)) :=
    fun hgranted => governOperation_committed_iff hw (r.call_facets env) hgranted
      (r.call_reserve env)
  constructor
  · intro hclosed hgranted
    obtain ⟨body, hbody⟩ := hok.mpr hgranted
    refine (hcovered hgranted).mp ?_
    rw [← hworld hgranted]
    exact hclosed body hbody
  · intro hcover body hbody
    have hgranted := hok.mp ⟨body, hbody⟩
    rw [hworld hgranted]
    exact (hcovered hgranted).mpr (hcover hgranted)

/-! ## An egress under a mesh block -/

/-- The platforms on plain text, with the settings' defaults. -/
def tenantEnv (deployment : Deployment) : SecurityEnv where
  deployment := deployment
  strip text := text
  lower text := String.ofList (text.toList.map Char.toLower)
  upper text := String.ofList (text.toList.map Char.toUpper)
  hostname _ := none
  reMatch _ _ := true
  reSearch _ _ := false
  reSub _ _ text := text
  egressAllowlist := ""
  threatScoreThreshold := ⟨75, -2⟩

/-- The spine of the migrations, with two policies and one mesh rule. -/
def tenantWorld : FinanceWorld where
  tables := {
    accountLedgers := Table.empty.put
      ⟨"tenant-default", 100000000000000000000, true, none, none⟩
    instrumentPolicyRegistry := (Table.empty.put
      ⟨"egress-critical-us", "critical", 1000000000000000000, 15000, false, true⟩).put
      ⟨"threat-critical-us", "critical", 2000000000000000000, 10000, false, true⟩
    platformRegistry := none
    governanceCrystals := Table.empty
    commitEscrowLedger := Table.empty
    decisionEvents := Table.empty
    crystalMeshRules := [⟨"threat_proxy", "threat_decision", "BLOCKED", "egress_govern", true, true⟩]
    guardrailIncidents := [] }
  outside := ⟨0⟩

/-- A request with two strong signals. -/
def exfiltration : ThreatRequest where
  requestId := "req-1"
  payloadEntropy := ⟨0, -1⟩
  anomalySignals := ["exfil_pattern", "credential_spray"]
  dataClass := "internal"
  accountId := tenantDefault

/-- A flow to a host of the allowlist. -/
def allowedFlow : SecurityRequest :=
  .egress ⟨"flow-1", "api.openai.com", 443, "https", tenantDefault⟩

/-- The identifier drawn for the flow's crystal. -/
def flowExchange : Exchange :=
  { promptExchange 1 with uuid := "00000000000040008000000000000002" }

def threatFacets : Facets :=
  [("request_id", .str "req-1"), ("threat_score", .str "1.0"), ("threshold", .str "0.75"),
    ("signals", .str "exfil_pattern,credential_spray"), ("threat_decision", .str "BLOCKED")]

def flowFacets : Facets :=
  [("flow_id", .str "flow-1"), ("destination_host", .str "api.openai.com"),
    ("destination_port", .int 443), ("protocol", .str "https"),
    ("egress_decision", .str "ALLOWED"), ("reference", .str "allowlisted:api.openai.com")]

def threatFingerprint : Hash :=
  ⟨"09c55990436f1b4d63f67944f357dc12c3fa3e4924cfa4f9ce11b15ae9af4834", by decide +kernel⟩

def flowFingerprint : Hash :=
  ⟨"f437828fec1cc0552a742b1b13217c52391ebc2898faf732e3e5a57142e34276", by decide +kernel⟩

def threatCrystalHash : Hash :=
  ⟨"00207e42e06cc18d2b56021d57f9fb4e49b17a2d69179cfcc52c27827fe65762", by decide +kernel⟩

def threatCreated : Hash :=
  ⟨"84fe662c535a4d1835681b45b271ff5da30c95fb3a8576d0a7bce369da99c5a7", by decide +kernel⟩

def flowCreated : Hash :=
  ⟨"bec4711cd79ced719b259494766b165a95f60a8e6ffabea66ac1a0172deeed5b", by decide +kernel⟩

def flowCrystalId : String := "crys_" ++ flowExchange.uuid

/-- The text of the event that creates the flow's crystal. -/
def flowCreatedPayload (eventId : Int) (prevHash : Hash) : String :=
  eventPayload eventId "flow-1" (some flowCrystalId) tenantDefault "CRYSTAL_CREATED" "0E-12"
    (.obj [("platform", .str "egress_govern"), ("risk_tier", .str "critical")]) prevHash.val
    "2026-01-01 00:00:01+00"

/-- The texts that the two requests hash, with their SHA-256 digests. -/
def tenantDigests : List (String × Hash) :=
  [(fingerprintPayload "threat_proxy" "req-1" threatFacets, threatFingerprint),
    (crystalPayload sampleCrystalId "threat_proxy" "req-1" "critical" threatFacets
      threatFingerprint none, threatCrystalHash),
    (eventPayload 1 "req-1" (some sampleCrystalId) tenantDefault "CRYSTAL_CREATED" "0E-12"
      (.obj [("platform", .str "threat_proxy"), ("risk_tier", .str "critical")])
      Ledger.genesisHash.val "2026-01-01 00:00:00+00", threatCreated),
    (fingerprintPayload "egress_govern" "flow-1" flowFacets, flowFingerprint),
    (crystalPayload flowCrystalId "egress_govern" "flow-1" "critical" flowFacets
      flowFingerprint (some threatCrystalHash),
      ⟨"77758f40ed3f305ee50aaa2e2ab555f6c369ec839620e31de1a5ec031407e55c", by decide +kernel⟩),
    (flowCreatedPayload 2 threatCreated,
      ⟨"96000f4b467500dbd7280a826951a27a9848eba35edc95b55121a27b68d017e9", by decide +kernel⟩),
    (crystalPayload flowCrystalId "egress_govern" "flow-1" "critical" flowFacets
      flowFingerprint none,
      ⟨"de2c681559e3d3073d587c3642818870267a0aa264c85ee0a1079d65ac5d0c92", by decide +kernel⟩),
    (flowCreatedPayload 1 Ledger.genesisHash, flowCreated),
    (eventPayload 2 "flow-1" (some flowCrystalId) tenantDefault "COMMITTED_FINAL" "0E-12"
      (.obj [("outcome", .str "allowed")]) flowCreated.val "2026-01-01 00:00:01+00",
      ⟨"26082093b0d9207ed2c4f08d893d27d80e2873c7d7f33e820ca8198d755b7273", by decide +kernel⟩)]

/-- The platforms of the tenant. -/
def tenant : SecurityEnv :=
  tenantEnv (.ofDigests tenantDigests fun t =>
    if t = sampleStart then "2026-01-01 00:00:00+00" else "2026-01-01 00:00:01+00")

/-- Without a block the flow is let through with a committed crystal. -/
theorem run_failsClosed_flow :
    FailsClosed tenant allowedFlow flowExchange (promptExchange 1)
      (run tenant.deployment tenantWorld []) := by
  refine (run_failsClosed_iff ⟨rfl, rfl, rfl⟩ [] tenant _ _ _).mpr fun _ => ⟨?_, ?_⟩
  · decide +kernel
  · have hrow : (findCrystal (lastAsked tenant.deployment allowedFlow.manifest
        (allowedFlow.call tenant) flowExchange (promptExchange 1)
        (run tenant.deployment tenantWorld [])).tables "egress_govern" "flow-1").map (fun c =>
          (c.requestFingerprint, c.terminalState,
            isHorizonExpired c (promptExchange 1).clock.utcnow)) =
        some ((allowedFlow.call tenant).fingerprint tenant.deployment allowedFlow.manifest, none,
          false) := by
      decide +kernel
    obtain ⟨c, hc, hfields⟩ := Option.map_eq_some_iff.mp hrow
    obtain ⟨hfp, hopen, hhorizon⟩ := Prod.mk.inj hfields |>.imp_right Prod.mk.inj
    refine ⟨c, hc, hfp, Or.inr ⟨hopen, ?_, by decide, rfl, hhorizon⟩⟩
    exact ⟨flowCrystalId, by decide +kernel⟩

/-- The threat that was scored. -/
def blockedThreat : Action :=
  .crystallize false false (sampleClock 0) sampleUuid
    (threatProxy.crystallizeRequest (tenant.threatCall exfiltration) defaultReserve)

/-- A threat blocks the commits of the egress platform, and a flow is allowed all the same. -/
theorem blocked_egress_allowed :
    (∃ body, (allowedFlow.handle tenant flowExchange (promptExchange 1)
      (run tenant.deployment tenantWorld [blockedThreat])).1 = .ok body) ∧
    meshBlockReason (run tenant.deployment tenantWorld [blockedThreat]).tables "egress_govern" =
      some "mesh block: threat_proxy.threat_decision=BLOCKED" ∧
    ¬ FailsClosed tenant allowedFlow flowExchange (promptExchange 1)
      (run tenant.deployment tenantWorld [blockedThreat]) := by
  have hallowed : ∃ body, (allowedFlow.handle tenant flowExchange (promptExchange 1)
      (run tenant.deployment tenantWorld [blockedThreat])).1 = .ok body :=
    (allowedFlow.handle_ok tenant _ _ _).1.mpr (by decide +kernel)
  have hblocks : meshBlockReason (lastAsked tenant.deployment allowedFlow.manifest
      (allowedFlow.call tenant) flowExchange (promptExchange 1)
      (run tenant.deployment tenantWorld [blockedThreat])).tables "egress_govern" ≠ none := by
    decide +kernel
  refine ⟨hallowed, by decide +kernel, ?_⟩
  intro hclosed
  obtain ⟨body, hbody⟩ := hallowed
  exact hblocks (hclosed body hbody).2

end Governor.Sector
