import Mathlib
import Governor.Finance.Platform

/-!
# The standalone adapter

With the spine disabled `SpineAdapter` keeps its crystals in a dict and makes the checks of
`commit_operation` itself. Here a sequence of calls is run in both modes side by side. A coupling
says what the two stores have in common, and the main result says along which sequences the two
modes take the same commits and refuse those that the protocol refuses.
-/

namespace Governor.Finance

open Ledger (Clock Timestamp Hash Money truthy)

/-! ## Calls of the adapter -/

/-- The arguments of `SpineAdapter.crystallize`; the policy and the reserve are the defaults. -/
structure CrystalArguments where
  operationId : String
  riskTier : String
  facets : Facets
  accountId : String
  parentCrystalId : Option String

/-- The request that the arguments make up. -/
def CrystalArguments.request (arguments : CrystalArguments) (platform : String) :
    CrystallizeRequest where
  platform := platform
  operationId := arguments.operationId
  accountId := arguments.accountId
  riskTier := arguments.riskTier
  facets := arguments.facets
  policyId := none
  reservedExposure := defaultReserve
  parentCrystalId := arguments.parentCrystalId

/-- `CommitOutcome`, with the default exposure. -/
structure CommitOutcome where
  crystalId : String
  facets : Facets
  outcome : String
  /-- Whether the metadata grants late authority. -/
  lateAuthority : Bool

/-- The request that the outcome makes up. -/
def CommitOutcome.request (outcome : CommitOutcome) : CommitRequest :=
  ⟨outcome.crystalId, outcome.facets, ⟨0, 0⟩, outcome.outcome, outcome.lateAuthority⟩

/-- A call of the adapter, with the clock that it reads and the identifier that it draws. -/
inductive AdapterCall where
  | crystallize (clock : Clock) (uuid : String) (arguments : CrystalArguments)
  | commit (settings : Settings) (clock : Clock) (outcome : CommitOutcome)
  | strand (clock : Clock) (crystalId reason : String)

/-- The transaction of the spine that serves the call. -/
def AdapterCall.action (platform : String) : AdapterCall → Action
  | .crystallize clock uuid arguments => .crystallize false clock uuid (arguments.request platform)
  | .commit settings clock outcome => .commit settings clock outcome.request
  | .strand clock crystalId reason => .adjudicate clock ⟨crystalId, "strand", reason⟩

/-! ## Local mode -/

/-- `LocalCrystalStore`. -/
abbrev LocalCrystalStore := Table CrystalRow.crystalId

namespace LocalAdapter

/-- `SpineAdapter.crystallize` in local mode. -/
def crystallize (d : Deployment) (platform : String) (clock : Clock) (uuid : String)
    (arguments : CrystalArguments) (store : LocalCrystalStore) : LocalCrystalStore :=
  store.put (sealCrystal d clock uuid (arguments.request platform) none none none)

/-- `SpineAdapter.commit` in local mode. -/
def commit (d : Deployment) (clock : Clock) (outcome : CommitOutcome) (store : LocalCrystalStore) :
    Except AdapterError Unit :=
  match store.find? outcome.crystalId with
  | none => .error (.surpriseCommitBlocked s!"unknown crystal: {outcome.crystalId}")
  | some crystal =>
    if !verifyCommitFingerprint d crystal outcome.facets then
      .error (.surpriseCommitBlocked "fingerprint mismatch")
    else if isHorizonExpired crystal clock.utcnow && !outcome.lateAuthority then
      if shouldStrandOnExpiry crystal.riskTier then .error (.horizonStranded "horizon expired")
      else .ok ()
    else .ok ()

/-- `SpineAdapter.strand` in local mode. -/
def strand (crystalId : String) (store : LocalCrystalStore) : Except AdapterError Unit :=
  match store.find? crystalId with
  | none => .error (.surpriseCommitBlocked s!"unknown crystal: {crystalId}")
  | some _ => .ok ()

end LocalAdapter

/-! ## Both modes side by side -/

/-- The store of local mode and the spine of spine mode. -/
structure PairWorld where
  store : LocalCrystalStore
  spine : FinanceWorld

section Pair

variable (d : Deployment) (platform : String)

/-- One call in both modes. Neither a commit nor a strand changes the local store. -/
def pairStep (w : PairWorld) (call : AdapterCall) : PairWorld where
  store := match call with
    | .crystallize clock uuid arguments =>
      LocalAdapter.crystallize d platform clock uuid arguments w.store
    | _ => w.store
  spine := step d w.spine (call.action platform)

/-- Local mode takes a commit. -/
def LocalAccepts (w : PairWorld) (clock : Clock) (outcome : CommitOutcome) : Prop :=
  LocalAdapter.commit d clock outcome w.store = .ok ()

/-- Spine mode takes a commit. -/
def SpineAccepts (w : PairWorld) (settings : Settings) (clock : Clock) (outcome : CommitOutcome) :
    Prop :=
  httpCommit (route d commitStatus false w.spine (.commit settings clock outcome.request)).1 = .ok ()

/-- A commit past the horizon of a crystal, without late authority. -/
def Late (crystal : CrystalRow) (clock : Clock) (outcome : CommitOutcome) : Prop :=
  isHorizonExpired crystal clock.utcnow = true ∧ outcome.lateAuthority = false

instance (crystal : CrystalRow) (clock : Clock) (outcome : CommitOutcome) :
    Decidable (Late crystal clock outcome) := inferInstanceAs (Decidable (_ ∧ _))

/-- A commit that the protocol refuses: with the wrong facets, too late, or after a strand. -/
def Refusable (w : PairWorld) (clock : Clock) (outcome : CommitOutcome) : Prop :=
  (∃ crystal, w.store.find? outcome.crystalId = some crystal ∧
    (verifyCommitFingerprint d crystal outcome.facets = false ∨ Late crystal clock outcome)) ∨
  ∃ crystal, w.spine.tables.governanceCrystals.find? outcome.crystalId = some crystal ∧
    crystal.terminalState = some .stranded

/-- Both modes take the commit or both refuse it, and a commit that the protocol refuses is refused
by both. -/
def CommitsAgree (w : PairWorld) : AdapterCall → Prop
  | .commit settings clock outcome =>
    (LocalAccepts d w clock outcome ↔ SpineAccepts d w settings clock outcome) ∧
    (Refusable d w clock outcome →
      ¬ LocalAccepts d w clock outcome ∧ ¬ SpineAccepts d w settings clock outcome)
  | _ => True

/-- The operation and the drawn identifier are new to the adapter. -/
def FreshCall (w : PairWorld) : AdapterCall → Prop
  | .crystallize _ uuid arguments => ∀ crystal ∈ w.store.rows,
    crystal.operationId ≠ arguments.operationId ∧ crystal.crystalId ≠ "crys_" ++ uuid
  | _ => True

/-- The commits on which the modes agree: an open crystal is not of a low tier and late, a committed
one is committed again with its facets and in time, no commit follows a strand, and a crystal that
the spine had refused is refused locally as well. -/
def AgreeableCommit (w : PairWorld) : AdapterCall → Prop
  | .commit _ clock outcome => ∀ crystal, w.store.find? outcome.crystalId = some crystal →
    match (w.spine.tables.governanceCrystals.find? outcome.crystalId).map
      CrystalRow.terminalState with
    | none => verifyCommitFingerprint d crystal outcome.facets = true →
      Late crystal clock outcome ∧ shouldStrandOnExpiry crystal.riskTier = true
    | some none => verifyCommitFingerprint d crystal outcome.facets = true →
      Late crystal clock outcome → shouldStrandOnExpiry crystal.riskTier = true
    | some (some .committed) => verifyCommitFingerprint d crystal outcome.facets = true ∧
      ¬ Late crystal clock outcome
    | some (some _) => False
  | _ => True

end Pair

/-! ## The coupling -/

/-- The platform has no default policy, so that horizons are those of the risk tiers. -/
def NoDefaultPolicy (platform : String) (db : Database) : Prop :=
  ∀ registry record, db.platformRegistry = some registry → registry.find? platform = some record →
    truthy record.defaultPolicyId = false

/-- Two crystals with the same terms of commitment. -/
structure SameTerms (l c : CrystalRow) : Prop where
  platform : l.platform = c.platform
  operationId : l.operationId = c.operationId
  fingerprint : l.requestFingerprint = c.requestFingerprint
  horizon : l.horizonExpiresAt = c.horizonExpiresAt
  riskTier : l.riskTier = c.riskTier

/-- What the two modes have in common after the same calls. -/
structure Coupled (platform : String) (w : PairWorld) : Prop where
  sound : Sound w.spine
  rules : w.spine.tables.crystalMeshRules = []
  unpoliced : NoDefaultPolicy platform w.spine.tables
  stored : ∀ crystalId c, w.spine.tables.governanceCrystals.find? crystalId = some c →
    ∃ l, w.store.find? crystalId = some l ∧ SameTerms l c
  unswept : ∀ crystalId c, w.spine.tables.governanceCrystals.find? crystalId = some c →
    c.terminalState ≠ some .expired

section Terms

variable {d : Deployment} {l c : CrystalRow}

theorem SameTerms.trans {l c c' : CrystalRow} (h : SameTerms l c) (h' : SameTerms c c') :
    SameTerms l c' :=
  ⟨h.platform.trans h'.platform, h.operationId.trans h'.operationId,
    h.fingerprint.trans h'.fingerprint, h.horizon.trans h'.horizon, h.riskTier.trans h'.riskTier⟩

theorem SameTerms.verify (h : SameTerms l c) (facets : Facets) :
    verifyCommitFingerprint d l facets = verifyCommitFingerprint d c facets := by
  simp only [verifyCommitFingerprint, h.platform, h.operationId, h.fingerprint]

theorem SameTerms.late (h : SameTerms l c) {clock : Clock} {outcome : CommitOutcome} :
    Late l clock outcome ↔ Late c clock outcome := by
  simp only [Late, isHorizonExpired, h.horizon]

end Terms

section Commits

variable {d : Deployment} {platform : String} {w : PairWorld} {settings : Settings} {clock : Clock}
  {outcome : CommitOutcome}

theorem localAccepts_iff {l : CrystalRow} (hfind : w.store.find? outcome.crystalId = some l) :
    LocalAccepts d w clock outcome ↔ verifyCommitFingerprint d l outcome.facets = true ∧
      (Late l clock outcome → shouldStrandOnExpiry l.riskTier = false) := by
  simp only [LocalAccepts, LocalAdapter.commit, hfind, Late]
  cases verifyCommitFingerprint d l outcome.facets <;>
    cases isHorizonExpired l clock.utcnow <;> cases outcome.lateAuthority <;>
      cases shouldStrandOnExpiry l.riskTier <;> simp

theorem not_localAccepts (hfind : w.store.find? outcome.crystalId = none) :
    ¬ LocalAccepts d w clock outcome := by
  simp [LocalAccepts, LocalAdapter.commit, hfind]

theorem not_spineAccepts (hw : Sound w.spine)
    (hfind : w.spine.tables.governanceCrystals.find? outcome.crystalId = none) :
    ¬ SpineAccepts d w settings clock outcome := by
  rw [SpineAccepts, httpCommit_route]
  rintro ⟨r, hr⟩
  have hc := commit_committed (d := d) hw settings clock outcome.request
  rw [hr] at hc
  generalize (step d w.spine (.commit settings clock outcome.request)).tables = db' at hc
  cases hc with
  | replayed hjoin _ =>
    have hstored := (hw.agrees.join hjoin).1
    exact absurd (hfind.symm.trans hstored) (by simp)
  | committed hjoin _ _ =>
    have hstored := (hw.agrees.join hjoin).1
    exact absurd (hfind.symm.trans hstored) (by simp)

/-- Without mesh rules the checks of `commit_operation` are the facets and the horizon. -/
theorem commitRefusal_eq_none_iff {db : Database} (hrules : db.crystalMeshRules = [])
    {c : CrystalRow} : commitRefusal d clock db c outcome.request = none ↔
      verifyCommitFingerprint d c outcome.facets = true ∧ ¬ Late c clock outcome := by
  have hmesh : meshBlockReason db c.platform = none := by simp [meshBlockReason, hrules]
  simp only [commitRefusal, hmesh, Late, CommitOutcome.request]
  cases verifyCommitFingerprint d c outcome.facets <;>
    cases isHorizonExpired c clock.utcnow <;> cases outcome.lateAuthority <;>
      cases shouldStrandOnExpiry c.riskTier <;> simp

theorem spineAccepts_iff (hw : Coupled platform w) {c : CrystalRow}
    (hfind : w.spine.tables.governanceCrystals.find? outcome.crystalId = some c) :
    SpineAccepts d w settings clock outcome ↔ c.terminalState ≠ none ∨
      verifyCommitFingerprint d c outcome.facets = true ∧ ¬ Late c clock outcome := by
  obtain ⟨e, hjoin⟩ := hw.sound.agrees.join_of_find? hfind
  rw [SpineAccepts, httpCommit_route, ← commitRefusal_eq_none_iff hw.rules]
  have hc := commit_committed (d := d) hw.sound settings clock outcome.request
  generalize respond d w.spine (.commit settings clock outcome.request) = r at hc ⊢
  generalize (step d w.spine (.commit settings clock outcome.request)).tables = db' at hc
  have hsame : ∀ {c' e'}, crystalJoin w.spine.tables outcome.request.crystalId = some (c', e') →
      c' = c := fun hjoin' => (Prod.mk.inj (Option.some.inj (hjoin'.symm.trans hjoin))).1
  cases hc with
  | refused hclosings hopen =>
    have hnone := hopen c e hjoin
    have hzero : (0 : Money) ≤ quantizeMoney outcome.request.committedExposure :=
      (by decide : (0 : Money) ≤ quantizeMoney ⟨0, 0⟩)
    have hjoin' : crystalJoin w.spine.tables outcome.request.crystalId = some (c, e) := hjoin
    have hrefused : commitRefusal d clock w.spine.tables c outcome.request ≠ none := by
      intro hnone'
      simp [commitClosings, hjoin', hnone, hnone', hzero] at hclosings
    simp [hnone, hrefused]
  | replayed hjoin' hterminal =>
    obtain rfl := hsame hjoin'
    simp [hterminal]
  | committed hjoin' haccepted _ =>
    obtain rfl := hsame hjoin'
    simp [haccepted]

/-- Coupled modes agree on a commit exactly when it is an agreeable one. -/
theorem commitsAgree_iff (hw : Coupled platform w) (call : AdapterCall) :
    CommitsAgree d w call ↔ AgreeableCommit d w call := by
  cases call with
  | crystallize clock uuid arguments => exact Iff.rfl
  | strand clock crystalId reason => exact Iff.rfl
  | commit settings clock outcome =>
    simp only [CommitsAgree, AgreeableCommit, Refusable]
    cases hstore : w.store.find? outcome.crystalId with
    | none =>
      have hspine : w.spine.tables.governanceCrystals.find? outcome.crystalId = none := by
        by_contra hne
        obtain ⟨c, hc⟩ := Option.ne_none_iff_exists'.mp hne
        obtain ⟨l, hl, -⟩ := hw.stored _ c hc
        rw [hstore] at hl
        cases hl
      simp [not_localAccepts hstore, not_spineAccepts hw.sound hspine]
    | some l =>
      simp only [Option.some.injEq, forall_eq', exists_eq_left', localAccepts_iff hstore]
      cases hspine : w.spine.tables.governanceCrystals.find? outcome.crystalId with
      | none =>
        have hrefused : ¬ SpineAccepts d w settings clock outcome :=
          not_spineAccepts hw.sound hspine
        simp only [hrefused, Option.map_none]
        by_cases hlate : Late l clock outcome <;>
          cases verifyCommitFingerprint d l outcome.facets <;>
            cases shouldStrandOnExpiry l.riskTier <;> simp [hlate]
      | some c =>
        obtain ⟨l', hl', hterms⟩ := hw.stored _ c hspine
        rw [hstore] at hl'
        obtain rfl := Option.some.inj hl'
        have hunswept := hw.unswept _ c hspine
        simp only [spineAccepts_iff hw hspine, ← hterms.verify, ← hterms.late, Option.map_some,
          Option.some.injEq, exists_eq_left']
        cases hstate : c.terminalState with
        | none =>
          by_cases hlate : Late l clock outcome <;>
            cases verifyCommitFingerprint d l outcome.facets <;>
              cases shouldStrandOnExpiry l.riskTier <;> simp [hlate]
        | some state =>
          cases state with
          | committed =>
            by_cases hlate : Late l clock outcome <;>
              cases verifyCommitFingerprint d l outcome.facets <;>
                cases shouldStrandOnExpiry l.riskTier <;> simp [hlate]
          | stranded => simp
          | expired => exact absurd hstate hunswept

end Commits

/-! ## Calls keep the coupling -/

section Opening

variable {d : Deployment} {clock : Clock} {uuid platform : String} {arguments : CrystalArguments}
  {s : FinanceSession} {E : Exn → FinanceSession → Prop}

/-- The platform's record names no policy. -/
theorem wp_assertPlatformAllowed_unpoliced {Q : PlatformRecord → FinanceSession → Prop}
    (hpolicy : NoDefaultPolicy platform s.working) (hE : Aborts E s)
    (h : ∀ record, truthy record.defaultPolicyId = false → Q record s) :
    Tx.wp (assertPlatformAllowed platform) Q E s := by
  simp only [assertPlatformAllowed, Tx.wp_bind, Tx.wp_read]
  split
  · exact h _ rfl
  · next registry hregistry =>
    split
    · exact hE _ _ (Proceeds.refl s)
    · next record hfind =>
      split_ifs
      · exact h _ (hpolicy registry record hregistry hfind)
      · exact hE _ _ (Proceeds.refl s)

/-- A crystallize without a policy raises, finds the crystal, or stores one with the horizon of its
risk tier. -/
theorem crystallize_unpoliced {w : FinanceWorld} (hw : Sound w)
    (hpolicy : NoDefaultPolicy platform w.tables) :
    (step d w (.crystallize false clock uuid (arguments.request platform))).tables.governanceCrystals
        = w.tables.governanceCrystals ∨
    ∃ prev, (step d w
        (.crystallize false clock uuid (arguments.request platform))).tables.governanceCrystals =
      w.tables.governanceCrystals.put
        (sealCrystal d clock uuid (arguments.request platform) none prev none) := by
  apply Tx.run_of_wp (R := fun _ (w' : FinanceWorld) =>
    w'.tables.governanceCrystals = w.tables.governanceCrystals ∨
    ∃ prev, w'.tables.governanceCrystals = w.tables.governanceCrystals.put
      (sealCrystal d clock uuid (arguments.request platform) none prev none))
  generalize hsession : (⟨w.tables, w.tables, w.outside⟩ : FinanceSession) = s
  have hE : Aborts (fun _ s' => s'.committed.governanceCrystals = w.tables.governanceCrystals ∨
      ∃ prev, s'.committed.governanceCrystals = w.tables.governanceCrystals.put
        (sealCrystal d clock uuid (arguments.request platform) none prev none)) s := by
    intro exn s' hproceeds
    rw [hproceeds.committed, ← hsession]
    exact Or.inl rfl
  have hworking : s.working = w.tables := by rw [← hsession]
  have hids : IdsDrawn s := by
    rw [← hsession]
    exact hw.drawn
  simp only [Action.body, crystallizeOperation, Tx.wp_bind]
  refine wp_assertPlatformAllowed_unpoliced (hworking ▸ hpolicy) hE fun record hrecord => ?_
  refine wp_validatePlatformFacets hE ?_
  have hnone : effectivePolicyId record (arguments.request platform).policyId = none := by
    simp [effectivePolicyId, hrecord, CrystalArguments.request]
  simp only [Tx.wp_read, hnone]
  split
  · rw [Tx.wp_ite]
    split_ifs
    · exact hE (.conflictError "") s (Proceeds.refl s)
    · rw [← hsession]
      exact Or.inl rfl
  · -- no policy is read, so the horizon is that of the risk tier
    have hhorizon : policyHorizon none (arguments.request platform).reservedExposure =
        (pure none : FinanceTx (Option Int)) := rfl
    simp only [crystallizeNew, hhorizon, Tx.wp_bind, Tx.wp_pure, Tx.wp_read]
    refine wp_reserveExposure hE fun accounts _ => ?_
    refine wp_insertCrystal (fun exn s' hp => hE exn s' ⟨hp.committed, hp.sequence⟩) fun _ => ?_
    refine wp_insertEscrow (fun exn s' hp => hE exn s' ⟨hp.committed, hp.sequence⟩) fun _ _ => ?_
    refine wp_appendDecisionEvent hids fun s' happended => ?_
    simp only [Tx.wp_commit, Tx.wp_pure]
    rw [happended.frame, ← hworking]
    exact Or.inr ⟨_, rfl⟩

end Opening

section Calls

variable {d : Deployment} {platform : String} {w : PairWorld}

/-- A transaction that closes at most one crystal keeps its terms. -/
theorem Coupled.closed (hw : Coupled platform w) {a : Action}
    (hclosed : (step d w.spine a).tables = w.spine.tables ∨ ∃ x, x.closing.state ≠ .expired ∧
      Closes w.spine.tables x (step d w.spine a).tables) :
    Coupled platform ⟨w.store, step d w.spine a⟩ := by
  have hsound := step_sound (d := d) hw.sound a
  rcases hclosed with hsame | ⟨x, hexpired, hcloses⟩
  · refine ⟨hsound, ?_, ?_, ?_, ?_⟩
    all_goals simp only [hsame]
    · exact hw.rules
    · exact hw.unpoliced
    · exact hw.stored
    · exact hw.unswept
  · have hold : ∀ crystalId c,
        (step d w.spine a).tables.governanceCrystals.find? crystalId = some c →
        (∃ c', w.spine.tables.governanceCrystals.find? crystalId = some c' ∧ SameTerms c' c) ∧
          c.terminalState ≠ some .expired := by
      intro crystalId c hc
      rw [hcloses.crystals, Table.find?_put, CrystalRow.close_crystalId] at hc
      split_ifs at hc with hid
      · obtain rfl := Option.some.inj hc
        refine ⟨⟨x.crystal, hid ▸ hcloses.crystal, rfl, rfl, rfl, rfl, rfl⟩, ?_⟩
        exact fun hstate => hexpired (Option.some.inj hstate)
      · exact ⟨⟨c, hc, rfl, rfl, rfl, rfl, rfl⟩, hw.unswept crystalId c hc⟩
    refine ⟨hsound, hcloses.registries.crystalMeshRules.trans hw.rules, ?_, ?_, ?_⟩
    · intro registry record hregistry
      exact hw.unpoliced registry record (hcloses.registries.platformRegistry.symm.trans hregistry)
    · intro crystalId c hc
      obtain ⟨⟨c', hc', hterms'⟩, -⟩ := hold crystalId c hc
      obtain ⟨l, hl, hterms⟩ := hw.stored crystalId c' hc'
      exact ⟨l, hl, hterms.trans hterms'⟩
    · intro crystalId c hc
      exact (hold crystalId c hc).2

/-- A crystallize stores the same terms in both modes, unless the spine refuses it. -/
theorem Coupled.crystallized (hw : Coupled platform w) {clock : Clock} {uuid : String}
    {arguments : CrystalArguments}
    (hfresh : FreshCall w (.crystallize clock uuid arguments)) :
    Coupled platform (pairStep d platform w (.crystallize clock uuid arguments)) := by
  have hsound := step_sound (d := d) hw.sound
    (.crystallize false clock uuid (arguments.request platform))
  have hregistries : SameRegistries w.spine.tables
      (step d w.spine (.crystallize false clock uuid (arguments.request platform))).tables := by
    cases step_moved (d := d) hw.sound
      (.crystallize false clock uuid (arguments.request platform)) with
    | opened _ hopens => exact hopens.registries
    | closed hclosed =>
      rw [show (step d w.spine (.crystallize false clock uuid (arguments.request platform))).tables =
        w.spine.tables from hclosed]
      exact ⟨rfl, rfl, rfl⟩
  have hsealed : ∀ prev, (sealCrystal d clock uuid (arguments.request platform) none prev
      none).crystalId = "crys_" ++ uuid ∧ SameTerms
        (sealCrystal d clock uuid (arguments.request platform) none none none)
        (sealCrystal d clock uuid (arguments.request platform) none prev none) ∧
      (sealCrystal d clock uuid (arguments.request platform) none prev none).terminalState = none :=
    fun prev => ⟨rfl, ⟨rfl, rfl, rfl, rfl, rfl⟩, rfl⟩
  have hmoved := @crystallize_unpoliced d clock uuid platform arguments _ hw.sound hw.unpoliced
  simp only [pairStep, LocalAdapter.crystallize, AdapterCall.action]
  generalize step d w.spine (.crystallize false clock uuid (arguments.request platform)) = spine
    at hsound hregistries hmoved ⊢
  generalize hlocal : sealCrystal d clock uuid (arguments.request platform) none none none = l
    at hsealed ⊢
  have hid : l.crystalId = "crys_" ++ uuid := hlocal ▸ rfl
  -- a crystal that was there keeps its local counterpart, since the drawn identifier is new
  have hold : ∀ crystalId c, w.spine.tables.governanceCrystals.find? crystalId = some c →
      (∃ l', (w.store.put l).find? crystalId = some l' ∧ SameTerms l' c) ∧
        c.terminalState ≠ some .expired := by
    intro crystalId c hc
    obtain ⟨l', hl', hterms⟩ := hw.stored crystalId c hc
    have hne : crystalId ≠ l.crystalId := by
      rintro rfl
      exact (hfresh l' (Table.mem_of_find? hl')).2 ((Table.find?_some_key hl').trans hid)
    refine ⟨⟨l', ?_, hterms⟩, hw.unswept crystalId c hc⟩
    rw [Table.find?_put, if_neg hne]
    exact hl'
  have hstored : ∀ crystalId c, spine.tables.governanceCrystals.find? crystalId = some c →
      (∃ l', (w.store.put l).find? crystalId = some l' ∧ SameTerms l' c) ∧
        c.terminalState ≠ some .expired := by
    intro crystalId c hc
    rcases hmoved with hsame | ⟨prev, hput⟩
    · rw [hsame] at hc
      exact hold crystalId c hc
    · obtain ⟨hkey, hterms, hopen⟩ := hsealed prev
      rw [hput, Table.find?_put, hkey] at hc
      split_ifs at hc with hnew
      · obtain rfl := Option.some.inj hc
        refine ⟨⟨l, ?_, hterms⟩, by simp [hopen]⟩
        rw [Table.find?_put, hid, if_pos hnew]
      · exact hold crystalId c hc
  refine ⟨hsound, hregistries.crystalMeshRules.trans hw.rules, ?_, ?_, ?_⟩
  · intro registry record hregistry
    exact hw.unpoliced registry record (hregistries.platformRegistry.symm.trans hregistry)
  · exact fun crystalId c hc => (hstored crystalId c hc).1
  · exact fun crystalId c hc => (hstored crystalId c hc).2

theorem pairStep_coupled (hw : Coupled platform w) {call : AdapterCall} (hfresh : FreshCall w call) :
    Coupled platform (pairStep d platform w call) := by
  cases call with
  | crystallize clock uuid arguments => exact hw.crystallized hfresh
  | commit settings clock outcome =>
    refine hw.closed ?_
    have hc := commit_committed (d := d) hw.sound settings clock outcome.request
    generalize respond d w.spine (.commit settings clock outcome.request) = r at hc
    generalize hdb : (step d w.spine (.commit settings clock outcome.request)).tables = db' at hc
    cases hc with
    | refused => exact Or.inl hdb
    | replayed => exact Or.inl hdb
    | committed hjoin haccepted hcloses =>
      refine Or.inr ⟨_, ?_, hdb ▸ hcloses⟩
      simp [Closing.state]
  | strand clock crystalId reason =>
    refine hw.closed ?_
    have hc := (body_committed (d := d) hw.sound
      (.adjudicate clock ⟨crystalId, "strand", reason⟩)).1
    generalize respond d w.spine (.adjudicate clock ⟨crystalId, "strand", reason⟩) = r at hc
    generalize hdb : (step d w.spine
      (.adjudicate clock ⟨crystalId, "strand", reason⟩)).tables = db' at hc
    cases hc with
    | adjudicate hc =>
      cases hc with
      | refused => exact Or.inl hdb
      | replayed => exact Or.inl hdb
      | stranded hstrand hjoin hcloses =>
        refine Or.inr ⟨_, ?_, hdb ▸ hcloses⟩
        simp [Closing.state]

end Calls

/-- For every sequence of calls with fresh operations, on a spine without crystals, mesh rules and
default policies: the two modes agree on every commit exactly when every commit is agreeable. -/
theorem run_commitsAgree_iff {d : Deployment} {platform : String} {w : PairWorld}
    (hspine : NoCrystals w.spine)
    (hrules : w.spine.tables.crystalMeshRules = [])
    (hpolicy : NoDefaultPolicy platform w.spine.tables) {calls : List AdapterCall}
    (hfresh : Along (pairStep d platform) FreshCall w calls) :
    Along (pairStep d platform) (CommitsAgree d) w calls ↔
      Along (pairStep d platform) (AgreeableCommit d) w calls := by
  have hstart : Coupled platform w := by
    have hnone : ∀ crystalId, w.spine.tables.governanceCrystals.find? crystalId = none := by
      intro crystalId
      rw [Table.find?_eq_none, hspine.governanceCrystals]
      simp
    refine ⟨hspine.sound, hrules, hpolicy, ?_, ?_⟩
    · intro crystalId c hc
      rw [hnone] at hc
      cases hc
    · intro crystalId c hc
      rw [hnone] at hc
      cases hc
  have hcoupled : Throughout (pairStep d platform) (Coupled platform) w calls :=
    throughout_of_along hstart (fun _ _ hfresh hw => pairStep_coupled hw hfresh) hfresh
  exact along_congr hcoupled fun w call hw => commitsAgree_iff hw call

/-! ## A wire of the standard tier -/

/-- An adapter and a spine that have just started. -/
def pairWorld : PairWorld where
  store := Table.empty
  spine := ⟨{ sampleWorld.tables with crystalMeshRules := [] }, ⟨0⟩⟩

/-- Crystallize a wire of the standard tier. -/
def standardOpen : AdapterCall :=
  .crystallize (sampleClock 0) sampleUuid ⟨"op-1", "standard", sampleFacets, "desk-default", none⟩

/-- Commit it some seconds later. -/
def standardClose (seconds : Int) : AdapterCall :=
  .commit .default (sampleClock seconds) ⟨sampleCrystalId, sampleFacets, "committed", false⟩

/-- The texts that the wire hashes, with their SHA-256 digests. -/
def standardFreeDigests : List (String × Hash) :=
  [(fingerprintPayload "wire_match" "op-1" sampleFacets, sampleFingerprint),
    (crystalPayload sampleCrystalId "wire_match" "op-1" "standard" sampleFacets sampleFingerprint
      none, standardCrystalHash),
    (samplePayload 1 .crystalCreated "0E-12"
      [("platform", .str "wire_match"), ("risk_tier", .str "standard")] Ledger.genesisHash
      "2026-01-01 00:00:00+00", standardFreeCreated),
    (samplePayload 2 .committedFinal "0E-12"
      [("outcome", .str "committed"), ("drift_enforced", .bool false),
        ("drift_amount", .str "0")] standardFreeCreated "2026-01-01 00:00:01+00",
      ⟨"5c3f66759783cecba20cd95328104b5a661a92eb140b7784a462265efd044b8d", by decide +kernel⟩)]

/-- The surroundings of the wire. -/
def standardDeployment : Deployment :=
  .ofDigests standardFreeDigests fun t =>
    if t = sampleStart then "2026-01-01 00:00:00+00" else "2026-01-01 00:00:01+00"

/-- The modes after the wire is crystallized. -/
def standardOpened : PairWorld := pairStep standardDeployment "wire_match" pairWorld standardOpen

/-- Both modes take a commit in time. -/
theorem run_commitsAgree_prompt :
    Along (pairStep standardDeployment "wire_match") (CommitsAgree standardDeployment) pairWorld
      [standardOpen, standardClose 1] := by
  have hfresh : Along (pairStep standardDeployment "wire_match") FreshCall pairWorld
      [standardOpen, standardClose 1] := by
    refine ⟨?_, trivial, trivial⟩
    intro crystal hcrystal
    cases hcrystal
  have hpolicy : NoDefaultPolicy "wire_match" pairWorld.spine.tables := by
    intro registry record hregistry
    cases hregistry
  refine (run_commitsAgree_iff ⟨rfl, rfl, rfl⟩ rfl hpolicy hfresh).mpr ⟨trivial, ?_, trivial⟩
  intro crystal hfind
  have hopen : (standardOpened.spine.tables.governanceCrystals.find? sampleCrystalId).map
      CrystalRow.terminalState = some none := by decide +kernel
  have htimely : (standardOpened.store.find? sampleCrystalId).map
      (fun crystal => isHorizonExpired crystal (sampleClock 1).utcnow) = some false := by
    decide +kernel
  rw [show standardOpened.store.find? sampleCrystalId = some crystal from hfind] at htimely
  rw [standardOpened] at hopen
  simp only [hopen]
  intro _ hlate
  exact absurd (hlate.1.symm.trans (Option.some.inj htimely)) (by simp)

/-- An hour late, local mode takes the commit and the spine refuses it. -/
theorem late_standard_commit_disagrees :
    LocalAccepts standardDeployment standardOpened (sampleClock 3601)
      ⟨sampleCrystalId, sampleFacets, "committed", false⟩ ∧
    ¬ SpineAccepts standardDeployment standardOpened .default (sampleClock 3601)
      ⟨sampleCrystalId, sampleFacets, "committed", false⟩ ∧
    ¬ Along (pairStep standardDeployment "wire_match") (CommitsAgree standardDeployment) pairWorld
      [standardOpen, standardClose 3601] := by
  have hlocal : LocalAccepts standardDeployment standardOpened (sampleClock 3601)
      ⟨sampleCrystalId, sampleFacets, "committed", false⟩ := by
    unfold LocalAccepts
    decide +kernel
  have hspine : ¬ SpineAccepts standardDeployment standardOpened .default (sampleClock 3601)
      ⟨sampleCrystalId, sampleFacets, "committed", false⟩ := by
    unfold SpineAccepts
    decide +kernel
  refine ⟨hlocal, hspine, ?_⟩
  rintro ⟨-, ⟨hagree, -⟩, -⟩
  exact hspine (hagree.mp hlocal)

end Governor.Finance
