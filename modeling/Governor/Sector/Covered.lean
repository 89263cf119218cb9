import Mathlib
import Governor.Sector.Opening

/-!
# Operations that end committed

A platform that ignores what `govern_operation` returned acts on its decision alone. The theorem
says, from what the platform finds when it turns to the spine for the last time, when the
operation ends with a committed crystal and without a mesh block.
-/

namespace Governor.Sector

open Finance
open Ledger (Clock Decimal Hash)

/-! ## Operations that end committed -/

section Covered

variable {d : Deployment} {m : PlatformManifest} {g : GovernCall} {t t' : Exchange}
  {w w' : FinanceWorld}

/-- The spine holds a committed crystal of the operation with the submitted facets. -/
def CommittedFor (d : Deployment) (m : PlatformManifest) (g : GovernCall) (db : Database) : Prop :=
  ∃ c ∈ db.governanceCrystals.rows, c.platform = m.name ∧ c.operationId = g.operationId ∧
    c.requestFingerprint = g.fingerprint d m ∧ c.terminalState = some .committed

/-- The state of the spine when the platform turns to it for the last time: for the commit, or,
without a crystal to commit, to give up. -/
def lastAsked (d : Deployment) (m : PlatformManifest) (g : GovernCall) (t t' : Exchange)
    (w : FinanceWorld) : FinanceWorld :=
  match m.crystallize d g t w with
  | (.ok _, w') => run d w' t'.meanwhile
  | (.error _, w') => w'

/-- The crystallize was answered with a crystal, and the commit reaches a spine that takes writes
before the crystal's horizon. -/
def CommitArrives (d : Deployment) (m : PlatformManifest) (g : GovernCall) (t t' : Exchange)
    (w : FinanceWorld) (c : CrystalRow) : Prop :=
  (∃ crystalId, (m.crystallize d g t w).1 = .ok crystalId) ∧ t'.delivery ≠ .lost ∧
    t'.halted = false ∧ isHorizonExpired c t'.clock.utcnow = false

/-- When the platform turns to the spine for the last time no mesh rule blocks it, and the crystal
of the operation has the submitted facets and is committed, or open with its commit arriving. -/
def Covered (d : Deployment) (m : PlatformManifest) (g : GovernCall) (t t' : Exchange)
    (w : FinanceWorld) : Prop :=
  meshBlockReason (lastAsked d m g t t' w).tables m.name = none ∧
  ∃ c, findCrystal (lastAsked d m g t t' w).tables m.name g.operationId = some c ∧
    c.requestFingerprint = g.fingerprint d m ∧
    (c.terminalState = some .committed ∨
      c.terminalState = none ∧ CommitArrives d m g t t' w c)

/-- The identifier is that of the operation's crystal. -/
def HeldFor (platform operationId crystalId : String) (db : Database) : Prop :=
  ∃ c, db.governanceCrystals.find? crystalId = some c ∧ c.platform = platform ∧
    c.operationId = operationId

theorem HeldFor.opens {platform operationId crystalId : String} {db db' : Database}
    {c : CrystalRow} {e : EscrowRow} (h : HeldFor platform operationId crystalId db)
    (hopens : Opens db c e db') : HeldFor platform operationId crystalId db' := by
  obtain ⟨x, hfind, hx⟩ := h
  have hne : crystalId ≠ c.crystalId := by
    rintro rfl
    rw [hopens.newCrystal] at hfind
    cases hfind
  exact ⟨x, by rw [hopens.crystals, Table.find?_put, if_neg hne]; exact hfind, hx⟩

theorem HeldFor.closes {platform operationId crystalId : String} {db db' : Database}
    {x : Resolution} (h : HeldFor platform operationId crystalId db) (hcloses : Closes db x db') :
    HeldFor platform operationId crystalId db' := by
  obtain ⟨c, hfind, hc⟩ := h
  by_cases hself : crystalId = x.crystal.crystalId
  · subst hself
    rw [hcloses.crystal] at hfind
    obtain rfl := Option.some.inj hfind
    refine ⟨x.crystal.close x.closing.state, ?_, hc⟩
    rw [hcloses.crystals, Table.find?_put, CrystalRow.close_crystalId, if_pos rfl]
  · refine ⟨c, ?_, hc⟩
    rw [hcloses.crystals, Table.find?_put, CrystalRow.close_crystalId, if_neg hself]
    exact hfind

theorem CrystallizeCommitted.heldFor {raced : Bool} {clock : Clock} {uuid : String}
    {request : CrystallizeRequest} {db db' : Database} {result : CrystallizeResult}
    (h : CrystallizeCommitted d raced clock uuid request db (.ok (.crystallized result)) db') :
    HeldFor request.platform request.operationId result.crystalId db' := by
  cases h with
  | replayed hraced hfind =>
    obtain ⟨hmem, hplatform, hop⟩ := findCrystal_mem hfind
    exact ⟨_, Table.find?_of_mem hmem, hplatform, hop⟩
  | @opened c prev horizon _ _ hseal hopens =>
    refine ⟨c, ?_, ?_, ?_⟩
    · rw [hopens.crystals, Table.find?_put_self]
    all_goals
      rw [hseal]
      rfl

theorem crystallize_sound (hw : Sound w) {r : Except AdapterError String}
    (h : m.crystallize d g t w = (r, w')) : Sound w' := by
  have hkept : Sound (m.crystallize d g t w).2 :=
    post_keeps (I := Sound) (fun _ a hs => step_sound hs a) hw _ _ _ t
  rwa [h] at hkept

/-- The crystallize behind the state in which a commit is served. -/
theorem commitState_eq_some {at' : FinanceWorld} (h : commitState d m g t t' w = some at') :
    m.validateFacets g.facets = [] ∧ m.shouldCommit g = true ∧ t'.delivery = .answered ∧
      t'.halted = false ∧ ∃ w' crystalId, m.crystallize d g t w = (.ok crystalId, w') ∧
        at' = run d w' t'.meanwhile := by
  unfold commitState at h
  split_ifs at h with hsent
  obtain ⟨hmissing, hcommits, hanswered, hwritable⟩ := hsent
  cases hcrystallize : m.crystallize d g t w with
  | mk r w' =>
    rw [hcrystallize] at h
    cases r with
    | error exn => cases h
    | ok crystalId =>
      exact ⟨hmissing, hcommits, hanswered, hwritable, w', crystalId, rfl,
        (Option.some.inj h).symm⟩

/-- The crystal that a crystallize is answered with, when the commit is sent. -/
theorem crystallize_held (hw : Sound w) {crystalId : String}
    (h : m.crystallize d g t w = (.ok crystalId, w')) (t' : Exchange) :
    Sound (run d w' t'.meanwhile) ∧ ∃ c e,
      crystalJoin (run d w' t'.meanwhile).tables crystalId = some (c, e) ∧
      c.crystalId = crystalId ∧
      findCrystal (run d w' t'.meanwhile).tables m.name g.operationId = some c := by
  have hsound : Sound w' := crystallize_sound hw h
  obtain ⟨r, result, hr, rfl, hcommitted⟩ := spineCrystallize_ok hw h
  obtain ⟨reserved, -, rfl⟩ := Option.map_eq_some_iff.mp hr
  have hrun := run_sound (d := d) hsound t'.meanwhile
  obtain ⟨c, hfind, hplatform, hop⟩ := run_invariant (d := d)
    (I := HeldFor m.name g.operationId result.crystalId) (fun _ ho hs => hs.opens ho)
    (fun _ hc hs => hs.closes hc) hsound hcommitted.heldFor t'.meanwhile
  obtain ⟨e, hjoin⟩ := hrun.agrees.join_of_find? hfind
  have hfound := findCrystal_of_mem hrun.agrees (Table.mem_of_find? hfind)
  rw [hplatform, hop] at hfound
  exact ⟨hrun, c, e, hjoin, Table.find?_some_key hfind, hfound⟩

/-- A commit changes the spine when it arrives, whether or not it is answered. -/
theorem spineCommit_snd (request : CommitRequest) (t : Exchange) (w : FinanceWorld) :
    (spineCommit d (some request) t w).2 =
      if t.delivery = .lost ∨ t.halted = true then run d w t.meanwhile
      else step d (run d w t.meanwhile) (.commit t.clock request) := by
  simp only [spineCommit, readReply, post, Option.map_some, Exchange.refusal, Option.map_none]
  cases t.delivery <;> cases t.halted <;> simp [route] <;> split <;> rfl

/-- A committed crystal of an operation is the one found for it. -/
theorem committedFor_iff {db : Database} (hdb : Agrees db) :
    CommittedFor d m g db ↔ ∃ c, findCrystal db m.name g.operationId = some c ∧
      c.requestFingerprint = g.fingerprint d m ∧ c.terminalState = some .committed := by
  constructor
  · rintro ⟨c, hc, hplatform, hop, hrest⟩
    have hfound := findCrystal_of_mem hdb hc
    rw [hplatform, hop] at hfound
    exact ⟨c, hfound, hrest⟩
  · rintro ⟨c, hfind, hrest⟩
    obtain ⟨hc, hplatform, hop⟩ := findCrystal_mem hfind
    exact ⟨c, hc, hplatform, hop, hrest⟩

/-- The crystal found for an operation once its own is closed. -/
theorem findCrystal_closed {db db' : Database} {x : Resolution} (hdb : Agrees db)
    (h : Closes db x db') :
    findCrystal db' x.crystal.platform x.crystal.operationId =
      some (x.crystal.close x.closing.state) := by
  have hmem : x.crystal.close x.closing.state ∈ db'.governanceCrystals.rows :=
    Table.mem_of_find? h.isClosed.crystal
  exact findCrystal_of_mem (h.agrees hdb) hmem

/-- A commit without an amount of an open crystal, with its facets, within its horizon and not
blocked, closes it. -/
theorem commitClosings_ne_nil {db : Database} {clock : Clock} {c : CrystalRow} {e : EscrowRow}
    {request : CommitRequest} (hjoin : crystalJoin db request.crystalId = some (c, e))
    (hopen : c.terminalState = none)
    (hfp : c.requestFingerprint =
      canonicalFingerprint d c.platform c.operationId request.facets)
    (hhorizon : isHorizonExpired c clock.utcnow = false)
    (hmesh : meshBlockReason db c.platform = none)
    (hamount : 0 ≤ quantizeMoney request.committedExposure) :
    commitClosings d db clock request ≠ [] := by
  have haccepted : commitRefusal d clock db c request = none := by
    simp [commitRefusal, verifyCommitFingerprint, hfp, hhorizon, hmesh]
  simp [commitClosings, hjoin, hopen, haccepted, hamount]

/-- An accepted commit was within the horizon, unless late authority was claimed. -/
theorem commitRefusal_horizon {db : Database} {clock : Clock} {c : CrystalRow}
    {request : CommitRequest} (h : commitRefusal d clock db c request = none)
    (hlate : request.lateAuthority = false) : isHorizonExpired c clock.utcnow = false := by
  unfold commitRefusal at h
  by_contra hexpired
  rw [Bool.not_eq_false] at hexpired
  simp only [hexpired, hlate, Bool.not_false, Bool.and_self, ite_true] at h
  split_ifs at h

/-- The operation ends with a committed crystal of its facets, and no mesh block when the spine is
asked last, exactly when the operation is covered. -/
theorem governOperation_committed_iff (hw : Sound w) (hfacets : m.validateFacets g.facets = [])
    (hcommits : m.shouldCommit g = true) (hreserve : g.reserveAmount = some defaultReserve) :
    CommittedFor d m g (m.governOperation d g t t' w).2.tables ∧
      meshBlockReason (lastAsked d m g t t' w).tables m.name = none ↔ Covered d m g t t' w := by
  rw [and_comm, Covered]
  refine and_congr_right fun hmesh => ?_
  have hreserved : m.reserve g = some defaultReserve := by
    rw [PlatformManifest.reserve, if_pos hcommits, hreserve]
  cases hcrystallize : m.crystallize d g t w with
  | mk r w' =>
  have hsound : Sound w' := crystallize_sound hw hcrystallize
  cases r with
  | error exn =>
    have hlast : lastAsked d m g t t' w = w' := by simp only [lastAsked, hcrystallize]
    have hfinal : (m.governOperation d g t t' w).2 = w' := by
      simp only [PlatformManifest.governOperation, hfacets, ite_true, hcrystallize]
    rw [hfinal, hlast, committedFor_iff hsound.agrees]
    constructor
    · rintro ⟨c, hfind, hfp, hstate⟩
      exact ⟨c, hfind, hfp, Or.inl hstate⟩
    · rintro ⟨c, hfind, hfp, hstate | ⟨-, ⟨_, hanswer⟩, -⟩⟩
      · exact ⟨c, hfind, hfp, hstate⟩
      · rw [hcrystallize] at hanswer
        cases hanswer
  | ok crystalId =>
    have hlast : lastAsked d m g t t' w = run d w' t'.meanwhile := by
      simp only [lastAsked, hcrystallize]
    have hanswer : ∃ id, (m.crystallize d g t w).1 = .ok id := ⟨crystalId, by rw [hcrystallize]⟩
    have hfinal : (m.governOperation d g t t' w).2 = (m.commit d g crystalId t' w').2 := by
      rw [governOperation_snd hfacets hcrystallize, if_pos hcommits]
    obtain ⟨hrun, c, e, hjoin, hid, hfind⟩ := crystallize_held hw hcrystallize t'
    obtain ⟨-, hplatform, hop⟩ := findCrystal_mem hfind
    rw [hlast] at hmesh ⊢
    rw [hfinal, PlatformManifest.commit, hreserved, Option.map_some, spineCommit_snd]
    generalize hr : PlatformManifest.commitRequest g crystalId defaultReserve = request
    have hrid : request.crystalId = crystalId := by rw [← hr]; rfl
    have hjoinr : crystalJoin (run d w' t'.meanwhile).tables request.crystalId = some (c, e) := by
      rw [hrid]
      exact hjoin
    simp only [hfind, Option.some.injEq, exists_eq_left']
    split_ifs with hstops
    · -- no commit arrives
      rw [committedFor_iff hrun.agrees]
      simp only [hfind, Option.some.injEq, exists_eq_left']
      refine and_congr_right fun _ => (or_iff_left ?_).symm
      rintro ⟨-, -, hdelivery, hhalted, -⟩
      rcases hstops with hlost | hhalts
      · exact hdelivery hlost
      · rw [hhalted] at hhalts
        cases hhalts
    · rw [not_or, Bool.not_eq_true] at hstops
      have hc := commit_committed (d := d) hrun t'.clock request
      generalize respond d (run d w' t'.meanwhile) (.commit t'.clock request) = r at hc
      generalize (step d (run d w' t'.meanwhile) (.commit t'.clock request)).tables = db' at hc ⊢
      cases hc with
      | refused hclosings =>
        rw [committedFor_iff hrun.agrees]
        simp only [hfind, Option.some.injEq, exists_eq_left']
        refine and_congr_right fun hfp => (or_iff_left ?_).symm
        rintro ⟨hopen, -, -, -, hhorizon⟩
        refine commitClosings_ne_nil hjoinr hopen ?_ hhorizon (hplatform ▸ hmesh) ?_ hclosings
        · rw [hfp, ← hr, hplatform, hop]
          rfl
        · rw [← hr]
          exact (by decide : (0 : Int) ≤ quantizeMoney defaultReserve)
      | replayed hjoin' hterminal =>
        obtain ⟨rfl, rfl⟩ := Prod.mk.inj (Option.some.inj (hjoinr.symm.trans hjoin'))
        rw [committedFor_iff hrun.agrees]
        simp only [hfind, Option.some.injEq, exists_eq_left']
        exact and_congr_right fun hfp => (or_iff_left fun h => hterminal h.1).symm
      | committed hjoin' haccepted hcloses =>
        obtain ⟨rfl, rfl⟩ := Prod.mk.inj (Option.some.inj (hjoinr.symm.trans hjoin'))
        have hclosed := findCrystal_closed hrun.agrees hcloses
        simp only [hplatform, hop] at hclosed
        rw [committedFor_iff (hcloses.agrees hrun.agrees)]
        simp only [hclosed, Option.some.injEq, exists_eq_left']
        refine and_congr_right fun hfp => iff_of_true rfl (Or.inr ⟨hcloses.terminalState, hanswer,
          hstops.1, hstops.2, commitRefusal_horizon haccepted ?_⟩)
        rw [← hr]
        rfl

end Covered

/-! ## The crystal that is returned -/

section Returned

variable {d : Deployment} {m : PlatformManifest} {g : GovernCall} {t t' : Exchange}
  {w w' : FinanceWorld} {c : CrystalRow} {e : EscrowRow}

/-- A commit of the crystal is answered: the crystal is closed, or nothing refuses to close it. -/
def CommitAccepted (d : Deployment) (clock : Clock) (db : Database) (request : CommitRequest)
    (c : CrystalRow) : Prop :=
  c.terminalState ≠ none ∨
    commitRefusal d clock db c request = none ∧ 0 ≤ quantizeMoney request.committedExposure

/-- The crystal once its commit is answered. -/
def settled (c : CrystalRow) : CrystalRow :=
  if c.terminalState = none then c.close .committed else c

/-- A commit is answered exactly when it reaches a spine that takes writes and accepts it. -/
theorem spineCommit_ok_iff (hw : Sound w) {request : CommitRequest}
    (hjoin : crystalJoin (run d w t.meanwhile).tables request.crystalId = some (c, e)) :
    (spineCommit d (some request) t w).1 = .ok () ↔ t.delivery = .answered ∧ t.halted = false ∧
      CommitAccepted d t.clock (run d w t.meanwhile).tables request c := by
  constructor
  · intro h
    obtain ⟨hanswered, hwritable, r, body, hr, hcommit⟩ := spineCommit_ok hw (Prod.ext h rfl)
    obtain rfl := Option.some.inj hr
    refine ⟨hanswered, hwritable, ?_⟩
    generalize (spineCommit d (some request) t w).2.tables = db' at hcommit
    cases hcommit with
    | replayed hjoin' hterminal =>
      obtain ⟨rfl, rfl⟩ := Prod.mk.inj (Option.some.inj (hjoin.symm.trans hjoin'))
      exact Or.inl hterminal
    | committed hjoin' haccepted hcloses =>
      obtain ⟨rfl, rfl⟩ := Prod.mk.inj (Option.some.inj (hjoin.symm.trans hjoin'))
      exact Or.inr ⟨haccepted, hcloses.committed _ rfl⟩
  · rintro ⟨hanswered, hwritable, haccepted⟩
    have hc := commit_committed (d := d) (run_sound (d := d) hw t.meanwhile) t.clock request
    cases hr : respond d (run d w t.meanwhile) (.commit t.clock request) with
    | ok body =>
      simp [spineCommit, readReply, post, route, Exchange.refusal, hanswered, hwritable, hr,
        Except.bind, httpCommit]
    | error exn =>
      rw [hr] at hc
      generalize (step d (run d w t.meanwhile) (.commit t.clock request)).tables = db' at hc
      cases hc with
      | refused hclosings hopen =>
        rcases haccepted with hterminal | ⟨hnone, hamount⟩
        · exact absurd (hopen c e hjoin) hterminal
        · simp [commitClosings, hjoin, hopen c e hjoin, hnone, hamount] at hclosings

/-- An answered commit leaves its crystal closed. -/
theorem spineCommit_settles (hw : Sound w) {request : CommitRequest}
    (hjoin : crystalJoin (run d w t.meanwhile).tables request.crystalId = some (c, e))
    (h : spineCommit d (some request) t w = (.ok (), w')) :
    w'.tables.governanceCrystals.find? c.crystalId = some (settled c) := by
  obtain ⟨-, -, r, body, hr, hcommit⟩ := spineCommit_ok hw h
  obtain rfl := Option.some.inj hr
  generalize w'.tables = db' at hcommit ⊢
  cases hcommit with
  | replayed hjoin' hterminal =>
    obtain ⟨rfl, rfl⟩ := Prod.mk.inj (Option.some.inj (hjoin.symm.trans hjoin'))
    rw [settled, if_neg hterminal]
    obtain ⟨hfind, hid, -⟩ := (run_sound (d := d) hw t.meanwhile).agrees.join hjoin
    rwa [hid]
  | committed hjoin' haccepted hcloses =>
    obtain ⟨rfl, rfl⟩ := Prod.mk.inj (Option.some.inj (hjoin.symm.trans hjoin'))
    rw [settled, if_pos hcloses.terminalState]
    exact hcloses.isClosed.crystal

/-- What is returned for an operation that commits is the operation's crystal, when the commit
that finds it is accepted. -/
theorem governOperation_returns_iff (hw : Sound w) (hcommits : m.shouldCommit g = true)
    {reserved : Decimal} (hreserve : m.reserve g = some reserved) {crystalId : String} :
    (m.governOperation d g t t' w).1 = .ok (some crystalId) ↔
      ∃ at' c, commitState d m g t t' w = some at' ∧
        findCrystal at'.tables m.name g.operationId = some c ∧ c.crystalId = crystalId ∧
        CommitAccepted d t'.clock at'.tables
          (PlatformManifest.commitRequest g crystalId reserved) c := by
  constructor
  · intro h
    obtain ⟨hmissing, w', hcrystallize, hrest⟩ := governOperation_some h
    simp only [hcommits, ite_true, PlatformManifest.commit, hreserve, Option.map_some] at hrest
    obtain ⟨-, c, e, hjoin, hid, hfind⟩ := crystallize_held hw hcrystallize t'
    have hw' : Sound w' := crystallize_sound hw hcrystallize
    obtain ⟨hanswered, hwritable, haccepted⟩ :=
      (spineCommit_ok_iff (c := c) (e := e) hw' hjoin).mp (congrArg Prod.fst hrest)
    refine ⟨run d w' t'.meanwhile, c, ?_, hfind, hid, haccepted⟩
    simp [commitState, hmissing, hcommits, hanswered, hwritable, hcrystallize]
  · rintro ⟨at', c, hat, hfind, rfl, haccepted⟩
    obtain ⟨hmissing, -, hanswered, hwritable, w', crystalId, hcrystallize, rfl⟩ :=
      commitState_eq_some hat
    obtain ⟨-, c', e, hjoin, hid, hfind'⟩ := crystallize_held hw hcrystallize t'
    obtain rfl := Option.some.inj (hfind.symm.trans hfind')
    subst hid
    have hw' : Sound w' := crystallize_sound hw hcrystallize
    have hok : (spineCommit d (some (PlatformManifest.commitRequest g c.crystalId reserved)) t'
        w').1 = .ok () := (spineCommit_ok_iff hw' hjoin).mpr
      ⟨hanswered, hwritable, haccepted⟩
    simp only [PlatformManifest.governOperation, hmissing, ite_true, hcrystallize, hcommits,
      PlatformManifest.commit, hreserve, Option.map_some]
    generalize spineCommit d _ t' w' = r at hok
    obtain ⟨r, w''⟩ := r
    obtain rfl : r = .ok () := hok
    rfl

/-- The crystal that is returned for an operation that commits is closed in the end. -/
theorem governOperation_settles (hw : Sound w) (hcommits : m.shouldCommit g = true)
    {reserved : Decimal} (hreserve : m.reserve g = some reserved) {crystalId : String}
    (h : (m.governOperation d g t t' w).1 = .ok (some crystalId)) {at' : FinanceWorld}
    (hat : commitState d m g t t' w = some at')
    (hfind : findCrystal at'.tables m.name g.operationId = some c) :
    (m.governOperation d g t t' w).2.tables.governanceCrystals.find? crystalId =
      some (settled c) := by
  obtain ⟨-, w', hcrystallize, hrest⟩ := governOperation_some h
  simp only [hcommits, ite_true, PlatformManifest.commit, hreserve, Option.map_some] at hrest
  obtain ⟨-, -, -, -, w'', crystalId', hcrystallize', rfl⟩ := commitState_eq_some hat
  obtain ⟨hid', rfl⟩ := Prod.mk.inj (hcrystallize.symm.trans hcrystallize')
  obtain ⟨-, c', e, hjoin, hid, hfind'⟩ := crystallize_held hw hcrystallize t'
  obtain rfl := Option.some.inj (hfind.symm.trans hfind')
  rw [← hid]
  exact spineCommit_settles (crystallize_sound hw hcrystallize) (by exact hjoin) hrest

end Returned

end Governor.Sector
