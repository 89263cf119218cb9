import Mathlib
import Governor.Finance.Fleet
import Governor.Sector.Refinement

/-!
# Governed operations of the sector platforms

`GovernedPlatform.govern_operation` crystallizes an operation and, for the decisions of its
manifest, commits it, each by one request to the spine. A request that is lost, refused or
unanswered makes it return `None`. What the spine's transactions keep is kept by the call, and an
answered request says what its transaction did.
-/

namespace Governor.Sector

open Finance
open Ledger (Clock Decimal Hash Money)

/-! ## Requests to the spine -/

/-- The refusals of `check_crystallize`. -/
inductive GuardrailRefusal where
  | guardrailError (detail : String)
  | circuitOpenError (detail : String)

/-- The reply to a crystallize that the guardrails refuse. -/
def GuardrailRefusal.reply : GuardrailRefusal → HttpReply
  | .guardrailError detail => .error 429 detail
  | .circuitOpenError detail => .error 503 detail

/-- What happens around one request to the spine. -/
structure Exchange where
  /-- What the spine does for others before the request arrives. -/
  meanwhile : List Action
  delivery : Delivery
  /-- The spine is in diagnostic mode. -/
  halted : Bool
  guardrail : Option GuardrailRefusal
  /-- The platform guard is enforced. -/
  enforce : Bool
  /-- A concurrent crystal of the same operation is not visible yet. -/
  raced : Bool
  clock : Clock
  /-- The identifier that the spine draws for a new crystal. -/
  uuid : String

/-- The status codes of `routes_crystallize`. -/
def crystallizeStatus : Exn → Nat
  | .conflictError _ | .insufficientExposureError _ => 409
  | .platformNotRegisteredError _ | .facetValidationError _ => 422
  | _ => 500

/-- A route, once its gates are passed. -/
def route (d : Deployment) (status : Exn → Nat) (refusal : Option HttpReply) (w : FinanceWorld)
    (a : Action) : HttpReply × FinanceWorld :=
  match refusal with
  | some reply => (reply, w)
  | none =>
    match respond d w a with
    | .ok body => (.ok body, step d w a)
    | .error exn => (errorReply status exn, step d w a)

/-- The reply of the gates of a route. -/
def Exchange.refusal (t : Exchange) (guardrail : Option GuardrailRefusal) : Option HttpReply :=
  if t.halted then some (.error 503 "diagnostic mode: writes halted")
  else guardrail.map GuardrailRefusal.reply

/-- One request over HTTP; an action of `none` stands for a body that cannot be read. -/
def post (d : Deployment) (status : Exn → Nat) (refusal : Option HttpReply) (a : Option Action)
    (t : Exchange) (w : FinanceWorld) : Except AdapterError HttpReply × FinanceWorld :=
  let w := run d w t.meanwhile
  let r : HttpReply × FinanceWorld := match a with
    | none => (.error 422 "Input should be a valid decimal", w)
    | some a => route d status refusal w a
  match t.delivery with
  | .lost => (.error .spineAdapterError, w)
  | .unanswered => (.error .spineAdapterError, r.2)
  | .answered => (.ok r.1, r.2)

/-- `SpineAdapter.crystallize` in spine mode: the identifier of the crystal. -/
def spineCrystallize (d : Deployment) (request : Option CrystallizeRequest) (t : Exchange)
    (w : FinanceWorld) : Except AdapterError String × FinanceWorld :=
  readReply httpCrystallize (post d crystallizeStatus (t.refusal t.guardrail)
    (request.map fun r => .crystallize t.enforce t.raced t.clock t.uuid r) t w)

/-- `SpineAdapter.commit` in spine mode. -/
def spineCommit (d : Deployment) (request : Option CommitRequest) (t : Exchange)
    (w : FinanceWorld) : Except AdapterError Unit × FinanceWorld :=
  readReply httpCommit (post d commitStatus (t.refusal none)
    (request.map fun r => .commit t.clock r) t w)

/-! ## Governing an operation -/

/-- `PlatformManifest`, as far as `GovernedPlatform` reads it. -/
structure PlatformManifest where
  name : String
  defaultPolicyId : String
  defaultRiskTier : String
  requiredFacetKeys : List String
  commitDecisions : List String

/-- The arguments of `govern_operation`. -/
structure GovernCall where
  operationId : String
  facets : Facets
  decision : String
  /-- The decimal that the spine reads from the text of the amount, if it can be read. -/
  reserveAmount : Option Decimal
  accountId : String
  policyId : Option String
  outcome : Option String

namespace PlatformManifest

/-- `PlatformManifest.validate_facets`. -/
def validateFacets (m : PlatformManifest) (facets : Facets) : List String :=
  m.requiredFacetKeys.filter fun key => (facets.lookup key).isNone

/-- `should_commit`. -/
def shouldCommit (m : PlatformManifest) (g : GovernCall) : Bool := g.decision ∈ m.commitDecisions

/-- `reserve`. -/
def reserve (m : PlatformManifest) (g : GovernCall) : Option Decimal :=
  if m.shouldCommit g then g.reserveAmount else some defaultReserve

/-- The body of the crystallize request. -/
def crystallizeRequest (m : PlatformManifest) (g : GovernCall) (reserved : Decimal) :
    CrystallizeRequest where
  platform := m.name
  operationId := g.operationId
  accountId := g.accountId
  riskTier := m.defaultRiskTier
  facets := g.facets
  policyId := if Ledger.truthy g.policyId then g.policyId else some m.defaultPolicyId
  reservedExposure := reserved
  parentCrystalId := none

/-- The body of the commit request. -/
def commitRequest (g : GovernCall) (crystalId : String) (reserved : Decimal) : CommitRequest where
  crystalId := crystalId
  facets := g.facets
  committedExposure := reserved
  outcome := if Ledger.truthy g.outcome then g.outcome.getD "" else g.decision.toLower
  lateAuthority := false

/-- The crystallize of an operation. -/
def crystallize (d : Deployment) (m : PlatformManifest) (g : GovernCall) (t : Exchange)
    (w : FinanceWorld) : Except AdapterError String × FinanceWorld :=
  spineCrystallize d ((m.reserve g).map (m.crystallizeRequest g)) t w

/-- The commit of an operation. -/
def commit (d : Deployment) (m : PlatformManifest) (g : GovernCall) (crystalId : String)
    (t : Exchange) (w : FinanceWorld) : Except AdapterError Unit × FinanceWorld :=
  spineCommit d ((m.reserve g).map (commitRequest g crystalId)) t w

/-- `GovernedPlatform.govern_operation` in spine mode. -/
def governOperation (d : Deployment) (m : PlatformManifest) (g : GovernCall) (t t' : Exchange)
    (w : FinanceWorld) : Except String (Option String) × FinanceWorld :=
  let missing := m.validateFacets g.facets
  if missing = [] then
    match m.crystallize d g t w with
    | (.error _, w') => (.ok none, w')
    | (.ok crystalId, w') =>
      if m.shouldCommit g then
        match m.commit d g crystalId t' w' with
        | (.error _, w'') => (.ok none, w'')
        | (.ok (), w'') => (.ok (some crystalId), w'')
      else (.ok (some crystalId), w')
  else
    let keys := String.intercalate ", " missing
    (.error s!"missing required facets: {keys}", w)

end PlatformManifest

/-! ## The stores of the platforms -/

/-- What `platform_connection()` gives. -/
inductive Connection where
  | absent | opened
  /-- It raises. -/
  | broken

/-- A store keeps its rows in memory or in Postgres. -/
inductive StoreKind where
  | memory | postgres

/-! ## What the requests do -/

section Requests

variable {d : Deployment} {t t' : Exchange} {w w' : FinanceWorld}

theorem route_keeps {I : FinanceWorld → Prop} {status : Exn → Nat} {refusal : Option HttpReply}
    {a : Action} (h : I w) (hstep : I (step d w a)) : I (route d status refusal w a).2 := by
  unfold route
  split
  · exact h
  · split
    · exact hstep
    · exact hstep

/-- What the spine's transactions keep is kept by a request, whatever becomes of it. -/
theorem post_keeps {I : FinanceWorld → Prop} (hstep : ∀ w a, I w → I (step d w a)) (h : I w)
    (status : Exn → Nat) (refusal : Option HttpReply) (a : Option Action) (t : Exchange) :
    I (post d status refusal a t w).2 := by
  have hrun : I (run d w t.meanwhile) := foldl_invariant h hstep t.meanwhile
  unfold post
  cases a with
  | none => cases t.delivery <;> exact hrun
  | some a =>
    have hroute : I (route d status refusal (run d w t.meanwhile) a).2 :=
      route_keeps hrun (hstep _ a hrun)
    cases t.delivery with
    | lost => exact hrun
    | unanswered => exact hroute
    | answered => exact hroute

/-- What the crystallize leaves, and the spine's transactions keep, holds after the operation. -/
theorem governOperation_after {I : FinanceWorld → Prop} (hstep : ∀ w a, I w → I (step d w a))
    {m : PlatformManifest} {g : GovernCall} (hfacets : m.validateFacets g.facets = [])
    (h : I (m.crystallize d g t w).2) (t' : Exchange) : I (m.governOperation d g t t' w).2 := by
  unfold PlatformManifest.governOperation
  generalize m.crystallize d g t w = r at h ⊢
  obtain ⟨r, w'⟩ := r
  cases r with
  | error exn =>
    simp only [hfacets, ite_true]
    exact h
  | ok crystalId =>
    have hcommit : I (m.commit d g crystalId t' w').2 := post_keeps hstep h _ _ _ t'
    simp only [hfacets, ite_true]
    generalize m.commit d g crystalId t' w' = r' at hcommit ⊢
    obtain ⟨r', w''⟩ := r'
    split_ifs
    · cases r' <;> exact hcommit
    · exact h

theorem governOperation_keeps {I : FinanceWorld → Prop} (hstep : ∀ w a, I w → I (step d w a))
    (h : I w) (m : PlatformManifest) (g : GovernCall) (t t' : Exchange) :
    I (m.governOperation d g t t' w).2 := by
  by_cases hfacets : m.validateFacets g.facets = []
  · exact governOperation_after hstep hfacets (post_keeps hstep h _ _ _ t) t'
  · simp only [PlatformManifest.governOperation, if_neg hfacets]
    exact h

/-- A request is answered with what its operation returned. -/
theorem post_ok {status : Exn → Nat} {refusal : Option HttpReply} {a : Option Action}
    {body : Response} (hrefusal : ∀ reply body, refusal = some reply → reply ≠ .ok body)
    (h : post d status refusal a t w = (.ok (.ok body), w')) :
    t.delivery = .answered ∧ refusal = none ∧ ∃ a', a = some a' ∧
      respond d (run d w t.meanwhile) a' = .ok body ∧ w' = step d (run d w t.meanwhile) a' := by
  unfold post at h
  cases hdelivery : t.delivery with
  | lost =>
    rw [hdelivery] at h
    cases h
  | unanswered =>
    rw [hdelivery] at h
    cases h
  | answered =>
    rw [hdelivery] at h
    obtain ⟨hreply, hworld⟩ := Prod.mk.inj h
    cases a with
    | none => cases hreply
    | some a =>
      simp only [Except.ok.injEq] at hreply hworld
      unfold route at hreply hworld
      cases refusal with
      | some reply => exact absurd hreply (hrefusal reply body rfl)
      | none =>
        cases hr : respond d (run d w t.meanwhile) a with
        | error exn =>
          rw [hr] at hreply
          simp only [errorReply] at hreply
          split_ifs at hreply
        | ok body' =>
          rw [hr] at hreply hworld
          exact ⟨rfl, rfl, a, rfl, hr.trans (congrArg _ (HttpReply.ok.inj hreply)), hworld.symm⟩

theorem Exchange.refusal_ne_ok (t : Exchange) (guardrail : Option GuardrailRefusal)
    (reply : HttpReply) (body : Response) (h : t.refusal guardrail = some reply) :
    reply ≠ .ok body := by
  unfold Exchange.refusal at h
  split_ifs at h
  · obtain rfl := Option.some.inj h
    simp
  · obtain ⟨g, -, rfl⟩ := Option.map_eq_some_iff.mp h
    cases g <;> simp [GuardrailRefusal.reply]

/-- A crystallize that is answered with a crystal reached the spine. -/
theorem spineCrystallize_respond {request : Option CrystallizeRequest} {crystalId : String}
    (h : spineCrystallize d request t w = (.ok crystalId, w')) :
    ∃ r result, request = some r ∧ result.crystalId = crystalId ∧
      respond d (run d w t.meanwhile) (.crystallize t.enforce t.raced t.clock t.uuid r) =
        .ok (.crystallized result) ∧
      w' = step d (run d w t.meanwhile) (.crystallize t.enforce t.raced t.clock t.uuid r) := by
  unfold spineCrystallize readReply at h
  generalize hpost : post d crystallizeStatus _ _ t w = r at h
  obtain ⟨r, w''⟩ := r
  obtain ⟨hread, rfl⟩ := Prod.mk.inj h
  cases r with
  | error exn => cases hread
  | ok reply =>
    simp only [Except.bind] at hread
    unfold httpCrystallize at hread
    split at hread
    · next result =>
      obtain ⟨-, -, a, ha, hrespond, hworld⟩ := post_ok (t.refusal_ne_ok t.guardrail) hpost
      obtain ⟨r, rfl, rfl⟩ := Option.map_eq_some_iff.mp ha
      exact ⟨r, result, rfl, Except.ok.inj hread, hrespond, hworld⟩
    · cases hread
    · cases hread

/-- A crystallize that is answered with a crystal found it or opened it. -/
theorem spineCrystallize_ok {request : Option CrystallizeRequest} {crystalId : String}
    (hw : Sound w) (h : spineCrystallize d request t w = (.ok crystalId, w')) :
    ∃ r result, request = some r ∧ result.crystalId = crystalId ∧
      CrystallizeCommitted d t.raced t.clock t.uuid r (run d w t.meanwhile).tables
        (.ok (.crystallized result)) w'.tables := by
  obtain ⟨r, result, hr, hid, hrespond, rfl⟩ := spineCrystallize_respond h
  have hc := (body_committed (d := d) (run_sound (d := d) hw t.meanwhile)
    (.crystallize t.enforce t.raced t.clock t.uuid r)).1
  rw [hrespond] at hc
  refine ⟨r, result, hr, hid, ?_⟩
  cases hc with
  | crystallize h => exact h

theorem commit_committed (hw : Sound w) (clock : Clock) (request : CommitRequest) :
    CommitCommitted d clock request w.tables (respond d w (.commit clock request))
      (step d w (.commit clock request)).tables := by
  have hc := (body_committed (d := d) hw (.commit clock request)).1
  generalize respond d w (.commit clock request) = r at hc ⊢
  generalize (step d w (.commit clock request)).tables = db' at hc ⊢
  cases hc with
  | commit h => exact h

/-- A commit that is answered found its crystal closed or closed it. -/
theorem spineCommit_ok {request : Option CommitRequest} (hw : Sound w)
    (h : spineCommit d request t w = (.ok (), w')) :
    t.delivery = .answered ∧ t.halted = false ∧ ∃ r body, request = some r ∧
      CommitCommitted d t.clock r (run d w t.meanwhile).tables (.ok body) w'.tables := by
  unfold spineCommit readReply at h
  generalize hpost : post d commitStatus _ _ t w = r at h
  obtain ⟨r, w''⟩ := r
  obtain ⟨hread, rfl⟩ := Prod.mk.inj h
  cases r with
  | error exn => cases hread
  | ok reply =>
    simp only [Except.bind] at hread
    unfold httpCommit at hread
    split at hread
    · next body =>
      obtain ⟨hdelivery, hrefusal, a, ha, hrespond, rfl⟩ := post_ok (t.refusal_ne_ok none) hpost
      obtain ⟨r, rfl, rfl⟩ := Option.map_eq_some_iff.mp ha
      have hc := commit_committed (d := d) (run_sound (d := d) hw t.meanwhile) t.clock r
      rw [hrespond] at hc
      refine ⟨hdelivery, ?_, r, body, rfl, hc⟩
      cases hhalted : t.halted with
      | false => rfl
      | true => simp [Exchange.refusal, hhalted] at hrefusal
    · split_ifs at hread

/-- The spine after an operation whose crystallize was answered with a crystal. -/
theorem governOperation_snd {m : PlatformManifest} {g : GovernCall} {crystalId : String}
    (hfacets : m.validateFacets g.facets = [])
    (h : m.crystallize d g t w = (.ok crystalId, w')) :
    (m.governOperation d g t t' w).2 =
      if m.shouldCommit g then (m.commit d g crystalId t' w').2 else w' := by
  simp only [PlatformManifest.governOperation, hfacets, ite_true, h]
  split_ifs
  · generalize m.commit d g crystalId t' w' = r
    obtain ⟨r, w''⟩ := r
    cases r <;> rfl
  · rfl

/-- A crystallize that reaches a spine that takes writes, and is answered. -/
theorem spineCrystallize_answered {request : CrystallizeRequest} {result : CrystallizeResult}
    (hanswered : t.delivery = .answered) (hwritable : t.halted = false)
    (hunguarded : t.guardrail = none)
    (h : respond d (run d w t.meanwhile) (.crystallize t.enforce t.raced t.clock t.uuid request) =
      .ok (.crystallized result)) :
    spineCrystallize d (some request) t w = (.ok result.crystalId,
      step d (run d w t.meanwhile) (.crystallize t.enforce t.raced t.clock t.uuid request)) := by
  simp [spineCrystallize, readReply, post, hanswered, Exchange.refusal, hwritable, hunguarded,
    route, h, Except.bind, httpCrystallize]

/-- A crystallize changes the spine when it arrives and is not refused, whether or not it is
answered. -/
theorem spineCrystallize_snd (request : CrystallizeRequest) (t : Exchange) (w : FinanceWorld) :
    (spineCrystallize d (some request) t w).2 =
      if t.delivery = .lost ∨ (t.refusal t.guardrail).isSome then run d w t.meanwhile
      else step d (run d w t.meanwhile)
        (.crystallize t.enforce t.raced t.clock t.uuid request) := by
  simp only [spineCrystallize, readReply, post, Option.map_some]
  cases t.delivery <;> cases t.refusal t.guardrail <;> simp [route] <;> split <;> rfl

end Requests

end Governor.Sector
