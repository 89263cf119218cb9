import Mathlib
import Governor.Sector.Platform

/-!
# Crystals of the submitted facets

`govern_operation` returns the crystal of the operation. The theorem says when it is the crystal
of the facets that were submitted, committed with the reserve that was asked for: the spine
answers a crystallize with the operation's crystal whatever the facets are, and a commit of a
closed crystal whatever it was closed with.
-/

namespace Governor.Sector

open Finance
open Ledger (Clock Decimal Hash Money)

/-! ## Crystals of the submitted facets -/

section Bound

variable {d : Deployment} {m : PlatformManifest} {g : GovernCall} {t t' : Exchange}
  {w : FinanceWorld}

/-- The fingerprint of the submitted facets. -/
def GovernCall.fingerprint (d : Deployment) (m : PlatformManifest) (g : GovernCall) : Hash :=
  canonicalFingerprint d m.name g.operationId g.facets

/-- The crystal was committed with exactly the reserve of the call. -/
def CommittedReserve (m : PlatformManifest) (g : GovernCall) (c : CrystalRow) (e : EscrowRow) :
    Prop :=
  c.terminalState = some .committed ∧
    some e.committedExposure = (m.reserve g).map quantizeMoney

/-- The crystal has the submitted facets, and a decision that commits is committed with the
reserve of the call. -/
def BoundTo (d : Deployment) (m : PlatformManifest) (g : GovernCall) (crystalId : String)
    (db : Database) : Prop :=
  ∃ c e, crystalJoin db crystalId = some (c, e) ∧ c.requestFingerprint = g.fingerprint d m ∧
    (m.shouldCommit g = true → CommittedReserve m g c e)

/-- What a caller of the spine expects of one operation: a returned crystal is bound to the call,
and a crystallize of known operation with other facets raises. -/
def OperationBound (d : Deployment) (m : PlatformManifest) (g : GovernCall) (t t' : Exchange)
    (w : FinanceWorld) : Prop :=
  (∀ crystalId, (m.governOperation d g t t' w).1 = .ok (some crystalId) →
    BoundTo d m g crystalId (m.governOperation d g t t' w).2.tables) ∧
  ∀ reserved existing,
    findCrystal (run d w t.meanwhile).tables m.name g.operationId = some existing →
    existing.requestFingerprint ≠ g.fingerprint d m →
    ∃ exn, respond d (run d w t.meanwhile)
      (.crystallize false t.raced t.clock t.uuid (m.crystallizeRequest g reserved)) = .error exn

/-- A crystal of the operation that the crystallize sees has the submitted facets. -/
def SameFacets (d : Deployment) (m : PlatformManifest) (g : GovernCall) (t : Exchange)
    (w : FinanceWorld) : Prop :=
  t.raced = false → ∀ existing,
    findCrystal (run d w t.meanwhile).tables m.name g.operationId = some existing →
      existing.requestFingerprint = g.fingerprint d m

/-- The state in which the commit of the operation is served, if one is. -/
def commitState (d : Deployment) (m : PlatformManifest) (g : GovernCall) (t t' : Exchange)
    (w : FinanceWorld) : Option FinanceWorld :=
  if m.validateFacets g.facets = [] ∧ m.shouldCommit g = true ∧ t'.delivery = .answered ∧
      t'.halted = false then
    match m.crystallize d g t w with
    | (.ok _, w') => some (run d w' t'.meanwhile)
    | (.error _, _) => none
  else none

/-- A crystal of the operation that is closed before its commit was committed with exactly the
reserve of the call. -/
def ClosedAsAsked (d : Deployment) (m : PlatformManifest) (g : GovernCall) (t t' : Exchange)
    (w : FinanceWorld) : Prop :=
  ∀ at' c e, commitState d m g t t' w = some at' →
    findCrystal at'.tables m.name g.operationId = some c →
    crystalJoin at'.tables c.crystalId = some (c, e) → c.terminalState ≠ none →
    CommittedReserve m g c e

/-- The crystal found for an operation is stored. -/
theorem findCrystal_mem {db : Database} {platform operationId : String} {c : CrystalRow}
    (h : findCrystal db platform operationId = some c) :
    c ∈ db.governanceCrystals.rows ∧ c.platform = platform ∧ c.operationId = operationId := by
  have hsame := List.find?_some h
  simp only [Bool.and_eq_true, decide_eq_true_eq] at hsame
  exact ⟨List.mem_of_find?_eq_some h, hsame.1, hsame.2⟩

/-- The crystal of an operation is the one that is found for it. -/
theorem findCrystal_of_mem {db : Database} (hdb : Agrees db) {c : CrystalRow}
    (hc : c ∈ db.governanceCrystals.rows) :
    findCrystal db c.platform c.operationId = some c := by
  cases hfind : findCrystal db c.platform c.operationId with
  | none => exact absurd (List.find?_eq_none.mp hfind c hc) (by simp)
  | some c' =>
    obtain ⟨hmem, -, hop⟩ := findCrystal_mem hfind
    rw [hdb.crystal_unique hmem hc hop]

/-- A crystallize that sees a crystal of its operation answers with it. -/
theorem respond_crystallize_found {request : CrystallizeRequest} {existing : CrystalRow}
    (hfind : findCrystal w.tables request.platform request.operationId = some existing)
    (clock : Clock) (uuid : String) :
    respond d w (.crystallize false false clock uuid request) = .ok (.crystallized
      ⟨existing.crystalId, request.operationId, .replay, existing.horizonExpiresAt⟩) := by
  apply Tx.run_of_wp (R := fun (r : Except Exn Response) _ => r = .ok (.crystallized
    ⟨existing.crystalId, request.operationId, .replay, existing.horizonExpiresAt⟩))
  simp [Action.body, assertPlatformAllowed, crystallizeOperation, Tx.wp_bind, Tx.wp_read,
    Tx.wp_pure, hfind]

/-- A crystallize that does not see the crystal of its operation raises. -/
theorem respond_crystallize_raced (hw : Sound w) {request : CrystallizeRequest}
    {existing : CrystalRow}
    (hfind : findCrystal w.tables request.platform request.operationId = some existing)
    (clock : Clock) (uuid : String) :
    ∃ exn, respond d w (.crystallize false true clock uuid request) = .error exn := by
  have hc := (body_committed (d := d) hw (.crystallize false true clock uuid request)).1
  generalize respond d w (.crystallize false true clock uuid request) = r at hc ⊢
  generalize (step d w (.crystallize false true clock uuid request)).tables = db' at hc
  cases hc with
  | crystallize h =>
    cases h with
    | refused => exact ⟨_, rfl⟩
    | replayed hraced => cases hraced
    | opened _ _ hopens =>
      -- the escrow row of the operation is in the way
      obtain ⟨hmem, -, hop⟩ := findCrystal_mem hfind
      obtain ⟨e, he, -⟩ := hw.agrees.paired existing hmem
      have hnew : w.tables.commitEscrowLedger.find? request.operationId = none := hopens.newEscrow
      rw [← hop, he] at hnew
      cases hnew

/-- Crystallizes with other facets raise exactly when there are none to find. -/
theorem replaysRefused_iff (hw : Sound w) :
    (∀ reserved existing,
      findCrystal (run d w t.meanwhile).tables m.name g.operationId = some existing →
      existing.requestFingerprint ≠ g.fingerprint d m →
      ∃ exn, respond d (run d w t.meanwhile)
        (.crystallize false t.raced t.clock t.uuid (m.crystallizeRequest g reserved)) =
          .error exn) ↔ SameFacets d m g t w := by
  have hrun := run_sound (d := d) hw t.meanwhile
  constructor
  · intro hrefused hraced existing hfind
    by_contra hne
    obtain ⟨exn, hexn⟩ := hrefused defaultReserve existing hfind hne
    rw [hraced, respond_crystallize_found (by exact hfind)] at hexn
    cases hexn
  · intro hsame reserved existing hfind hne
    cases hraced : t.raced with
    | false => exact absurd (hsame hraced existing hfind) hne
    | true => exact respond_crystallize_raced hrun (by exact hfind) _ _

/-- The crystal that a crystallize returns is stored for the request when it has its facets. -/
theorem CrystallizeCommitted.storedFor {raced : Bool} {clock : Clock} {uuid : String}
    {request : CrystallizeRequest} {db db' : Database} {result : CrystallizeResult}
    (h : CrystallizeCommitted d raced clock uuid request db (.ok (.crystallized result)) db')
    (hsame : raced = false → ∀ existing,
      findCrystal db request.platform request.operationId = some existing →
      existing.requestFingerprint =
        canonicalFingerprint d request.platform request.operationId request.facets) :
    StoredFor d request result.crystalId db' := by
  cases h with
  | replayed hraced hfind =>
    obtain ⟨hmem, hplatform, hop⟩ := findCrystal_mem hfind
    exact ⟨_, Table.find?_of_mem hmem, hplatform, hop, hsame hraced _ hfind⟩
  | @opened c prev horizon _ _ hseal hopens =>
    have hfind : db'.governanceCrystals.find? c.crystalId = some c := by
      rw [hopens.crystals, Table.find?_put_self]
    refine ⟨c, hfind, ?_, ?_, ?_⟩
    all_goals
      rw [hseal]
      rfl

theorem run_storedFor {request : CrystallizeRequest} {crystalId : String} (hw : Sound w)
    (h : StoredFor d request crystalId w.tables) (actions : List Action) :
    StoredFor d request crystalId (run d w actions).tables :=
  run_invariant (I := StoredFor d request crystalId) (fun _ ho hs => hs.opens ho)
    (fun _ hc hs => hs.closes hc) hw h actions

/-- With the facets of the call, the crystal that is returned for an answered crystallize. -/
theorem crystallize_stored (hw : Sound w) (hsame : SameFacets d m g t w) {crystalId : String}
    {w' : FinanceWorld} (h : m.crystallize d g t w = (.ok crystalId, w')) :
    Sound w' ∧ ∃ reserved, m.reserve g = some reserved ∧
      StoredFor d (m.crystallizeRequest g reserved) crystalId w'.tables := by
  have hsound : Sound w' := by
    have hkept : Sound (m.crystallize d g t w).2 :=
      post_keeps (I := Sound) (fun _ a hs => step_sound hs a) hw _ _ _ t
    rwa [h] at hkept
  obtain ⟨r, result, hr, rfl, hcommitted⟩ := spineCrystallize_ok hw h
  obtain ⟨reserved, hreserved, rfl⟩ := Option.map_eq_some_iff.mp hr
  exact ⟨hsound, reserved, hreserved, hcommitted.storedFor hsame⟩

/-- A stored crystal of the call, joined with its escrow row. -/
theorem join_storedFor {db : Database} (hdb : Agrees db) {request : CrystallizeRequest}
    {crystalId : String} (h : StoredFor d request crystalId db) :
    ∃ c e, crystalJoin db crystalId = some (c, e) ∧ c.crystalId = crystalId ∧
      findCrystal db request.platform request.operationId = some c ∧
      c.requestFingerprint =
        canonicalFingerprint d request.platform request.operationId request.facets := by
  obtain ⟨c, hfind, hplatform, hop, hfp⟩ := h
  obtain ⟨e, hjoin⟩ := hdb.join_of_find? hfind
  have hfound := findCrystal_of_mem hdb (Table.mem_of_find? hfind)
  rw [hplatform, hop] at hfound
  exact ⟨c, e, hjoin, Table.find?_some_key hfind, hfound, hfp⟩

/-- The requests behind a returned crystal. -/
theorem governOperation_some {crystalId : String}
    (h : (m.governOperation d g t t' w).1 = .ok (some crystalId)) :
    m.validateFacets g.facets = [] ∧ ∃ w', m.crystallize d g t w = (.ok crystalId, w') ∧
      if m.shouldCommit g then
        m.commit d g crystalId t' w' = (.ok (), (m.governOperation d g t t' w).2)
      else (m.governOperation d g t t' w).2 = w' := by
  unfold PlatformManifest.governOperation at h ⊢
  by_cases hmissing : m.validateFacets g.facets = []
  · refine ⟨hmissing, ?_⟩
    simp only [hmissing, ite_true] at h ⊢
    cases hcrystallize : m.crystallize d g t w with
    | mk r w' =>
      rw [hcrystallize] at h
      cases r with
      | error exn => cases h
      | ok id =>
        simp only at h ⊢
        split_ifs at h ⊢
        · cases hcommit : m.commit d g id t' w' with
          | mk r' w'' =>
            rw [hcommit] at h
            cases r' with
            | error exn => cases h
            | ok u =>
              obtain rfl : id = crystalId := by simpa using h
              exact ⟨w', rfl, hcommit⟩
        · obtain rfl : id = crystalId := by simpa using h
          exact ⟨w', rfl, rfl⟩
  · simp only [if_neg hmissing] at h
    cases h

/-- A commit that finds its crystal closed is answered and changes nothing. -/
theorem spineCommit_closed (hw : Sound w) {request : CommitRequest} {c : CrystalRow}
    {e : EscrowRow} (hanswered : t.delivery = .answered) (hwritable : t.halted = false)
    (hjoin : crystalJoin (run d w t.meanwhile).tables request.crystalId = some (c, e))
    (hterminal : c.terminalState ≠ none) :
    ∃ w', spineCommit d (some request) t w = (.ok (), w') ∧
      w'.tables = (run d w t.meanwhile).tables := by
  have hc := commit_committed (d := d) (run_sound (d := d) hw t.meanwhile) t.clock request
  refine ⟨step d (run d w t.meanwhile) (.commit t.clock request), ?_, ?_⟩
  · cases hr : respond d (run d w t.meanwhile) (.commit t.clock request) with
    | ok body =>
      simp [spineCommit, readReply, post, route, Exchange.refusal, hanswered, hwritable, hr,
        Except.bind, httpCommit]
    | error exn =>
      rw [hr] at hc
      generalize (step d (run d w t.meanwhile) (.commit t.clock request)).tables = db' at hc
      cases hc with
      | refused _ hopen => exact absurd (hopen c e hjoin) hterminal
  · generalize respond d (run d w t.meanwhile) (.commit t.clock request) = r at hc
    generalize (step d (run d w t.meanwhile) (.commit t.clock request)).tables = db' at hc ⊢
    cases hc with
    | refused => rfl
    | replayed => rfl
    | committed hjoin' _ hcloses =>
      rw [hjoin] at hjoin'
      obtain ⟨rfl, rfl⟩ := Prod.mk.inj (Option.some.inj hjoin')
      exact absurd hcloses.terminalState hterminal

/-- With the facets of the call, what is returned is bound to the call exactly when a crystal
that its commit finds closed was committed with the reserve of the call. -/
theorem boundTo_iff (hw : Sound w) (hsame : SameFacets d m g t w) :
    (∀ crystalId, (m.governOperation d g t t' w).1 = .ok (some crystalId) →
      BoundTo d m g crystalId (m.governOperation d g t t' w).2.tables) ↔
      ClosedAsAsked d m g t t' w := by
  constructor
  · intro hbound at' c e hat hfind hjoin hterminal
    unfold commitState at hat
    split_ifs at hat with hsent
    obtain ⟨hmissing, hshould, hanswered, hwritable⟩ := hsent
    cases hcrystallize : m.crystallize d g t w with
    | mk r w' =>
      rw [hcrystallize] at hat
      cases r with
      | error exn => cases hat
      | ok crystalId =>
        obtain rfl := Option.some.inj hat
        obtain ⟨hw', reserved, hreserved, hstored⟩ := crystallize_stored hw hsame hcrystallize
        obtain ⟨c', e', hjoin', hid, hfind', -⟩ :=
          join_storedFor (run_sound hw' t'.meanwhile).agrees (run_storedFor hw' hstored t'.meanwhile)
        obtain rfl := Option.some.inj (hfind.symm.trans hfind')
        rw [hid] at hjoin
        have hserved : crystalJoin (run d w' t'.meanwhile).tables
            (PlatformManifest.commitRequest g crystalId reserved).crystalId = some (c, e) := hjoin
        obtain ⟨w'', hcommit, htables⟩ := spineCommit_closed hw' hanswered hwritable hserved hterminal
        have hgovern : m.governOperation d g t t' w = (.ok (some crystalId), w'') := by
          simp only [PlatformManifest.governOperation, hmissing, ite_true, hcrystallize, hshould,
            PlatformManifest.commit, hreserved, Option.map_some, hcommit]
        obtain ⟨c'', e'', hjoin'', -, hcommitted⟩ := hbound crystalId (by rw [hgovern])
        rw [hgovern, htables, hjoin] at hjoin''
        obtain ⟨rfl, rfl⟩ := Prod.mk.inj (Option.some.inj hjoin'')
        exact hcommitted hshould
  · intro hclosed crystalId hreturned
    obtain ⟨hmissing, w', hcrystallize, hrest⟩ := governOperation_some hreturned
    obtain ⟨hw', reserved, hreserved, hstored⟩ := crystallize_stored hw hsame hcrystallize
    cases hshould : m.shouldCommit g with
    | false =>
      simp only [hshould, Bool.false_eq_true, ite_false] at hrest
      obtain ⟨c, e, hjoin, -, -, hfp⟩ := join_storedFor hw'.agrees hstored
      rw [hrest]
      exact ⟨c, e, hjoin, hfp, by simp [hshould]⟩
    | true =>
      simp only [hshould, ite_true] at hrest
      obtain ⟨c, e, hjoin, hid, hfind, hfp⟩ :=
        join_storedFor (run_sound hw' t'.meanwhile).agrees (run_storedFor hw' hstored t'.meanwhile)
      obtain ⟨hanswered, hwritable, r, body, hr, hcommit⟩ := spineCommit_ok hw' hrest
      rw [hreserved] at hr
      obtain rfl := Option.some.inj hr
      have hat : commitState d m g t t' w = some (run d w' t'.meanwhile) := by
        simp [commitState, hmissing, hshould, hanswered, hwritable, hcrystallize]
      generalize (m.governOperation d g t t' w).2.tables = db' at hcommit ⊢
      cases hcommit with
      | replayed hjoin' hterminal =>
        obtain ⟨rfl, rfl⟩ := Prod.mk.inj (Option.some.inj (hjoin.symm.trans hjoin'))
        exact ⟨c, e, hjoin, hfp, fun _ => hclosed _ c e hat hfind (hid ▸ hjoin) hterminal⟩
      | committed hjoin' haccepted hcloses =>
        obtain ⟨rfl, rfl⟩ := Prod.mk.inj (Option.some.inj (hjoin.symm.trans hjoin'))
        have hjoined := hcloses.isClosed.join
          (hcloses.agrees (run_sound (d := d) hw' t'.meanwhile).agrees)
        rw [CrystalRow.close_crystalId, hid] at hjoined
        exact ⟨_, _, hjoined, hfp, fun _ => ⟨rfl, by rw [hreserved]; rfl⟩⟩

/-- In every reachable state of the spine an operation is bound to its facets exactly when the
crystallize sees no crystal of the operation with other facets, and the commit none that is closed
otherwise than asked. -/
theorem run_operationBound_iff {start : FinanceWorld} (hstart : NoCrystals start)
    (actions : List Action) (m : PlatformManifest) (g : GovernCall) (t t' : Exchange) :
    OperationBound d m g t t' (run d start actions) ↔
      SameFacets d m g t (run d start actions) ∧ ClosedAsAsked d m g t t' (run d start actions) := by
  have hw := run_sound (d := d) hstart.sound actions
  rw [OperationBound, replaysRefused_iff hw, and_comm]
  exact and_congr_right fun hsame => boundTo_iff hw hsame

end Bound

/-! ## A claim that is evaluated twice -/

/-- The manifest of ClaimGate. -/
def claimGate : PlatformManifest where
  name := "claim_gate"
  defaultPolicyId := "claim-high-us"
  defaultRiskTier := "high"
  requiredFacetKeys := ["claim_id"]
  commitDecisions := ["APPROVED"]

/-- An approved claim that pays an amount. -/
def paidClaim (amount : String) (reserve : Decimal) : GovernCall where
  operationId := "CLM-1"
  facets := [("claim_id", .str "CLM-1"), ("net_payable", .str amount)]
  decision := "APPROVED"
  reserveAmount := some reserve
  accountId := "carrier-default"
  policyId := some "claim-high-us"
  outcome := some "paid"

/-- The spine of the migrations, with the account and the policy of the claims. -/
def carrierWorld : FinanceWorld where
  tables := {
    accountLedgers := Table.empty.put
      ⟨"carrier-default", 100000000000000000000, true, none, none⟩
    instrumentPolicyRegistry := Table.empty.put
      ⟨"claim-high-us", "high", 5000000000000000000, 300000, false, true⟩
    platformRegistry := none
    governanceCrystals := Table.empty
    commitEscrowLedger := Table.empty
    decisionEvents := Table.empty
    crystalMeshRules := []
    guardrailIncidents := [] }
  outside := ⟨0⟩

/-- A request that is answered at once. -/
def promptExchange (seconds : Int) : Exchange where
  meanwhile := []
  delivery := .answered
  halted := false
  guardrail := none
  enforce := false
  raced := false
  clock := sampleClock seconds
  uuid := sampleUuid

def paidFingerprint : Hash :=
  ⟨"0a925be6ff06957104a4f1bc120446b597fa3ac34395989938cb3bbab302bc2e", by decide +kernel⟩

def paidCreated : Hash :=
  ⟨"34d87244ba74121e514ab044cb47a3d1443c1e07144a01e13da4440735c18d17", by decide +kernel⟩

/-- The texts that the two evaluations hash, with their SHA-256 digests. -/
def paidDigests : List (String × Hash) :=
  [(fingerprintPayload "claim_gate" "CLM-1" (paidClaim "900" ⟨900, 0⟩).facets, paidFingerprint),
    (fingerprintPayload "claim_gate" "CLM-1" (paidClaim "100" ⟨100, 0⟩).facets,
      ⟨"c01b595c1fad30ac8ea71dd5bedd4cd4bffb323dc0005535e023810943453748", by decide +kernel⟩),
    (crystalPayload sampleCrystalId "claim_gate" "CLM-1" "high" (paidClaim "900" ⟨900, 0⟩).facets
      paidFingerprint none,
      ⟨"eaa4d7a0245278a24866360c17dcf8d7f469c13de52db30ddf46904db7fd9a45", by decide +kernel⟩),
    (eventPayload 1 "CLM-1" (some sampleCrystalId) "carrier-default" "CRYSTAL_CREATED"
      "-900.000000000000" (.obj [("platform", .str "claim_gate"), ("risk_tier", .str "high")])
      Ledger.genesisHash.val "2026-01-01 00:00:00+00", paidCreated),
    (eventPayload 2 "CLM-1" (some sampleCrystalId) "carrier-default" "COMMITTED_FINAL"
      "900.000000000000" (.obj [("outcome", .str "paid")]) paidCreated.val
      "2026-01-01 00:00:01+00",
      ⟨"144b45a5065a987c41512db5ee8824f3d391357baa1869364402a334ed554e21", by decide +kernel⟩)]

/-- The surroundings of the claims. -/
def carrierDeployment : Deployment :=
  .ofDigests paidDigests fun t =>
    if t = sampleStart then "2026-01-01 00:00:00+00" else "2026-01-01 00:00:01+00"

/-- The first evaluation is bound to its facets. -/
theorem run_operationBound_first :
    OperationBound carrierDeployment claimGate (paidClaim "900" ⟨900, 0⟩) (promptExchange 0)
      (promptExchange 1) (run carrierDeployment carrierWorld []) := by
  refine (run_operationBound_iff ⟨rfl, rfl, rfl⟩ [] _ _ _ _).mpr ⟨?_, ?_⟩
  · intro _ existing hfind
    cases hfind
  · intro at' c e hat hfind _ hterminal
    have hopen : (commitState carrierDeployment claimGate (paidClaim "900" ⟨900, 0⟩)
        (promptExchange 0) (promptExchange 1) carrierWorld).bind (fun w =>
          (findCrystal w.tables "claim_gate" "CLM-1").bind CrystalRow.terminalState) = none := by
      decide +kernel
    change commitState carrierDeployment claimGate _ _ _ carrierWorld = _ at hat
    change findCrystal _ "claim_gate" "CLM-1" = _ at hfind
    rw [hat, Option.bind_some, hfind] at hopen
    exact absurd hopen hterminal

/-- The two transactions of the first evaluation. -/
def firstEvaluation : List Action :=
  [.crystallize false false (sampleClock 0) sampleUuid
      (claimGate.crystallizeRequest (paidClaim "900" ⟨900, 0⟩) ⟨900, 0⟩),
    .commit (sampleClock 1)
      (PlatformManifest.commitRequest (paidClaim "900" ⟨900, 0⟩) sampleCrystalId ⟨900, 0⟩)]

/-- A claim that was paid is evaluated again with another amount: the call returns the crystal of
the first amount. -/
theorem second_evaluation_returns_first_crystal :
    (claimGate.governOperation carrierDeployment (paidClaim "100" ⟨100, 0⟩) (promptExchange 2)
      (promptExchange 3) (run carrierDeployment carrierWorld firstEvaluation)).1 =
        .ok (some sampleCrystalId) ∧
    ¬ OperationBound carrierDeployment claimGate (paidClaim "100" ⟨100, 0⟩) (promptExchange 2)
      (promptExchange 3) (run carrierDeployment carrierWorld firstEvaluation) := by
  have hreturned : (claimGate.governOperation carrierDeployment (paidClaim "100" ⟨100, 0⟩)
      (promptExchange 2) (promptExchange 3)
      (run carrierDeployment carrierWorld firstEvaluation)).1 = .ok (some sampleCrystalId) := by
    decide +kernel
  refine ⟨hreturned, ?_⟩
  rintro ⟨hbound, -⟩
  obtain ⟨c, e, hjoin, hfp, -⟩ := hbound _ hreturned
  have hother : (crystalJoin (claimGate.governOperation carrierDeployment
      (paidClaim "100" ⟨100, 0⟩) (promptExchange 2) (promptExchange 3)
      (run carrierDeployment carrierWorld firstEvaluation)).2.tables sampleCrystalId).map
        (fun p => p.1.requestFingerprint) ≠
      some ((paidClaim "100" ⟨100, 0⟩).fingerprint carrierDeployment claimGate) := by
    decide +kernel
  rw [hjoin] at hother
  exact hother (congrArg some hfp)

end Governor.Sector
