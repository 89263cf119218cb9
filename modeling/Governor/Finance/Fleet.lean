import Mathlib
import Governor.Finance.AlgoFreeze
import Governor.Finance.Subledger

/-!
# Actions of the fleet and their crystals

AlgoFreeze routes an order, AssetLedger records a charge and SubledgerSync marks a match, each
around one call of `crystallize_and_commit`. The helper answers `None` when the spine refuses or
fails, and none of the three platforms looks at its answer. The last part says for each request
when the action is nevertheless backed by a committed crystal.
-/

namespace Governor.Finance

open Ledger (Decimal Hash)

/-! ## Calls of the helper -/

/-- The arguments of `crystallize_and_commit`, and what becomes of its requests. -/
structure HelperCall where
  config : PlatformConfig
  operationId : String
  facets : Facets
  committedExposure : Option Decimal
  outcome : String
  crystallize : List Attempt
  commit : List Attempt

namespace HelperCall

/-- `crystallize_and_commit`. -/
def run (d : Deployment) (h : HelperCall) (w : FinanceWorld) : Option String × FinanceWorld :=
  SpineHelpers.crystallizeAndCommit d h.config h.operationId h.facets h.committedExposure h.outcome
    h.crystallize h.commit w

/-- The spine holds a committed crystal for the operation, with its facets. -/
def Backed (d : Deployment) (h : HelperCall) (db : Database) : Prop :=
  ∃ c ∈ db.governanceCrystals.rows, c.platform = h.config.name ∧ c.operationId = h.operationId ∧
    c.requestFingerprint = canonicalFingerprint d h.config.name h.operationId h.facets ∧
    c.terminalState = some .committed

/-- The spine answers both requests, and the crystal that it names is neither stranded nor
expired. -/
def Granted (d : Deployment) (h : HelperCall) (w : FinanceWorld) : Prop :=
  ∃ crystalId w' w'',
    spineCrystallize d (h.config.request h.operationId h.facets) h.crystallize w =
      (.ok crystalId, w') ∧
    SpineHelpers.commit d crystalId h.facets h.committedExposure h.outcome h.commit w' =
      (.ok (), w'') ∧
    ∀ c, w''.tables.governanceCrystals.find? crystalId = some c →
      c.terminalState ≠ some .stranded ∧ c.terminalState ≠ some .expired

end HelperCall

/-! ## What the helper's answer means -/

section Answers

variable {d : Deployment}

theorem StoredFor.opens {request : CrystallizeRequest} {crystalId : String} {db db' : Database}
    {c : CrystalRow} {e : EscrowRow} (h : StoredFor d request crystalId db)
    (hopens : Opens db c e db') : StoredFor d request crystalId db' := by
  obtain ⟨x, hfind, hx⟩ := h
  have hne : crystalId ≠ c.crystalId := by
    rintro rfl
    rw [hopens.newCrystal] at hfind
    cases hfind
  refine ⟨x, ?_, hx⟩
  rw [hopens.crystals, Table.find?_put, if_neg hne]
  exact hfind

theorem StoredFor.closes {request : CrystallizeRequest} {crystalId : String} {db db' : Database}
    {x : Resolution} (h : StoredFor d request crystalId db) (hcloses : Closes db x db') :
    StoredFor d request crystalId db' := by
  obtain ⟨c, hfind, hc⟩ := h
  by_cases hself : crystalId = x.crystal.crystalId
  · subst hself
    rw [hcloses.crystal] at hfind
    obtain rfl := Option.some.inj hfind
    refine ⟨x.crystal.close x.closing.state, ?_, hc⟩
    rw [hcloses.crystals, Table.find?_put, CrystalRow.close_crystalId, if_pos rfl]
  · refine ⟨c, ?_, hc⟩
    rw [hcloses.crystals, Table.find?_put, CrystalRow.close_crystalId, if_neg hself]
    exact hfind

/-- A commit that is answered leaves the crystal closed. -/
theorem spineCommit_ok {request : CommitRequest} {ts : List Attempt} {w w' : FinanceWorld}
    (hw : Sound w) (h : spineCommit d request ts w = (.ok (), w')) :
    ∃ c e, IsClosed w'.tables c e ∧ c.crystalId = request.crystalId := by
  unfold spineCommit readReply at h
  generalize hanswer : requestWithRetry d commitStatus _ 3 ts w = r at h
  obtain ⟨r, w''⟩ := r
  obtain ⟨hread, rfl⟩ := Prod.mk.inj h
  cases r with
  | error exn => cases hread
  | ok reply =>
    obtain ⟨t, -, before, hbefore, hroute⟩ :=
      requestWithRetry_answer (I := Sound) (fun _ a hs => step_sound hs a) hw hanswer
    simp only [Except.bind] at hread
    unfold httpCommit at hread
    split at hread
    · next body =>
      obtain ⟨hrespond, rfl⟩ := route_ok hroute
      have hcommit := commit_committed (d := d) hbefore t.settings t.clock request
      rw [hrespond] at hcommit
      generalize (step d before (.commit t.settings t.clock request)).tables = db' at hcommit ⊢
      cases hcommit with
      | replayed hjoin hterminal =>
        obtain ⟨hfind, hid, hescrow, hec, -⟩ := hbefore.agrees.join hjoin
        exact ⟨_, _, ⟨hid ▸ hfind, hescrow, hterminal, hec⟩, hid⟩
      | committed hjoin _ hcloses =>
        exact ⟨_, _, hcloses.isClosed, (hbefore.agrees.join hjoin).2.1⟩
    · split_ifs at hread

theorem refuseWithRetry_ne_ok (n : Nat) (ts : List Attempt) (w : FinanceWorld) :
    (refuseWithRetry d n ts w).1 ≠ .ok () := by
  induction n generalizing ts w with
  | zero => simp [refuseWithRetry]
  | succ n ih =>
    cases ts with
    | nil => simp [refuseWithRetry]
    | cons t ts =>
      simp only [refuseWithRetry]
      cases t.delivery with
      | answered => simp
      | lost => exact ih _ _
      | unanswered => exact ih _ _

variable {h : HelperCall} {w : FinanceWorld}

/-- When both requests are answered the crystal is stored for the action and closed. -/
theorem HelperCall.answered {crystalId : String} {w' w'' : FinanceWorld} (hw : Sound w)
    (hcrystallize : spineCrystallize d (h.config.request h.operationId h.facets) h.crystallize w =
      (.ok crystalId, w'))
    (hcommit : SpineHelpers.commit d crystalId h.facets h.committedExposure h.outcome h.commit w' =
      (.ok (), w'')) :
    Sound w'' ∧ ∃ c e, IsClosed w''.tables c e ∧ c.crystalId = crystalId ∧
      c.platform = h.config.name ∧ c.operationId = h.operationId ∧
      c.requestFingerprint = canonicalFingerprint d h.config.name h.operationId h.facets := by
  obtain ⟨hsound, hstored⟩ := spineCrystallize_ok hw hcrystallize
  have hkept : Sound w'' ∧
      StoredFor d (h.config.request h.operationId h.facets) crystalId w''.tables := by
    have hworld := congrArg Prod.snd hcommit
    simp only at hworld
    rw [← hworld]
    exact SpineHelpers.commit_keeps
      (I := fun w => Sound w ∧ StoredFor d (h.config.request h.operationId h.facets) crystalId
        w.tables)
      (fun w a hw => ⟨step_sound hw.1 a, step_invariant (fun _ ho hs => hs.opens ho)
        (fun _ hc hs => hs.closes hc) hw.1 hw.2 a⟩)
      ⟨hsound, hstored⟩ crystalId h.facets h.committedExposure h.outcome
  have hclosed : ∃ c e, IsClosed w''.tables c e ∧ c.crystalId = crystalId := by
    unfold SpineHelpers.commit at hcommit
    split at hcommit
    · exact absurd (congrArg Prod.fst hcommit) (refuseWithRetry_ne_ok _ _ _)
    · exact spineCommit_ok hsound hcommit
  obtain ⟨c, e, hclosed, hid⟩ := hclosed
  obtain ⟨c', hfind, hc'⟩ := hkept.2
  have hsame := hclosed.crystal
  rw [hid, hfind] at hsame
  obtain rfl := Option.some.inj hsame
  exact ⟨hkept.1, c', e, hclosed, hid, hc'⟩

/-- Crystals of the same operation are the same crystal. -/
theorem Agrees.crystal_unique {db : Database} (hdb : Agrees db) {c c' : CrystalRow}
    (hc : c ∈ db.governanceCrystals.rows) (hc' : c' ∈ db.governanceCrystals.rows)
    (hop : c.operationId = c'.operationId) : c = c' := by
  obtain ⟨e, he, hid, -⟩ := hdb.paired c hc
  obtain ⟨e', he', hid', -⟩ := hdb.paired c' hc'
  rw [hop, he'] at he
  obtain rfl := Option.some.inj he
  exact List.inj_on_of_nodup_map db.governanceCrystals.nodup hc hc' (hid.symm.trans hid')

/-- Everything that the spine's transactions keep is kept from one world to the other. -/
def Follows (d : Deployment) (w w' : FinanceWorld) : Prop :=
  ∀ I : FinanceWorld → Prop, (∀ w a, I w → I (step d w a)) → I w → I w'

theorem Follows.refl (w : FinanceWorld) : Follows d w w := fun _ _ h => h

theorem Follows.trans {w' w'' : FinanceWorld} (h : Follows d w w') (h' : Follows d w' w'') :
    Follows d w w'' :=
  fun I hstep hI => h' I hstep (h I hstep hI)

theorem Follows.sound {w' : FinanceWorld} (h : Follows d w w') (hw : Sound w) : Sound w' :=
  h Sound (fun _ a hs => step_sound hs a) hw

theorem HelperCall.run_follows (h : HelperCall) (w : FinanceWorld) :
    Follows d w (h.run d w).2 :=
  fun _ hstep hI => SpineHelpers.crystallizeAndCommit_keeps hstep hI h.config h.operationId h.facets
    h.committedExposure h.outcome

/-- Two answers and a committed crystal are a grant. -/
theorem HelperCall.granted_of_committed {c : String}
    (hcrystallize : (spineCrystallize d (h.config.request h.operationId h.facets) h.crystallize
      w).1 = .ok c)
    (hcommit : (SpineHelpers.commit d c h.facets h.committedExposure h.outcome h.commit
      (spineCrystallize d (h.config.request h.operationId h.facets) h.crystallize w).2).1 = .ok ())
    (hstate : ((SpineHelpers.commit d c h.facets h.committedExposure h.outcome h.commit
      (spineCrystallize d (h.config.request h.operationId h.facets) h.crystallize
        w).2).2.tables.governanceCrystals.find? c).map CrystalRow.terminalState =
      some (some .committed)) :
    h.Granted d w := by
  refine ⟨c, _, _, Prod.ext hcrystallize rfl, Prod.ext hcommit rfl, ?_⟩
  intro row hfind
  rw [hfind, Option.map_some, Option.some.injEq] at hstate
  rw [hstate]
  simp

/-- The helper returns an identifier when both requests are answered. -/
theorem HelperCall.run_some {crystalId : String} (hrun : (h.run d w).1 = some crystalId) :
    ∃ w', spineCrystallize d (h.config.request h.operationId h.facets) h.crystallize w =
        (.ok crystalId, w') ∧
      SpineHelpers.commit d crystalId h.facets h.committedExposure h.outcome h.commit w' =
        (.ok (), (h.run d w).2) := by
  unfold HelperCall.run SpineHelpers.crystallizeAndCommit at hrun ⊢
  generalize spineCrystallize d (h.config.request h.operationId h.facets) h.crystallize w = r
    at hrun ⊢
  obtain ⟨r, w'⟩ := r
  cases r with
  | error exn => cases hrun
  | ok id =>
    simp only at hrun ⊢
    cases hcommit : SpineHelpers.commit d id h.facets h.committedExposure h.outcome h.commit w' with
    | mk r w'' =>
      rw [hcommit] at hrun
      cases r with
      | error exn => cases hrun
      | ok u =>
        obtain rfl := Option.some.inj hrun
        exact ⟨w', rfl, hcommit⟩

/-- The helper answers with a crystal that backs the action, and goes on to back it, exactly when
the spine grants the action. -/
theorem HelperCall.governed_iff (hw : Sound w) {later : FinanceWorld}
    (hlater : Follows d (h.run d w).2 later) :
    (h.run d w).1 ≠ none ∧ h.Backed d later.tables ↔ h.Granted d w := by
  constructor
  · rintro ⟨hrun, c, hc, -, hop, -, hcommitted⟩
    obtain ⟨crystalId, hrun⟩ := Option.ne_none_iff_exists'.mp hrun
    obtain ⟨w', hcrystallize, hcommit⟩ := HelperCall.run_some hrun
    obtain ⟨hsound, c', e, hclosed, hid, -, hop', -⟩ := HelperCall.answered hw hcrystallize hcommit
    -- the closed crystal is still there, and it is the one of the operation
    have hkept : Sound later ∧ IsClosed later.tables c' e :=
      hlater (fun w => Sound w ∧ IsClosed w.tables c' e)
        (fun w a hw => ⟨step_sound hw.1 a, hw.2.run hw.1 [a]⟩) ⟨hsound, hclosed⟩
    obtain rfl := hkept.1.agrees.crystal_unique hc (Table.mem_of_find? hkept.2.crystal)
      (hop.trans hop'.symm)
    refine ⟨crystalId, w', _, hcrystallize, hcommit, ?_⟩
    intro c'' hfind
    have hsame := hclosed.crystal
    rw [hid, hfind] at hsame
    obtain rfl := Option.some.inj hsame
    rw [hcommitted]
    simp
  · rintro ⟨crystalId, w', w'', hcrystallize, hcommit, hopen⟩
    have hrun : h.run d w = (some crystalId, w'') := by
      simp only [HelperCall.run, SpineHelpers.crystallizeAndCommit, hcrystallize, hcommit]
    rw [hrun] at hlater ⊢
    obtain ⟨hsound, c, e, hclosed, hid, hplatform, hop, hfp⟩ :=
      HelperCall.answered hw hcrystallize hcommit
    have hkept : Sound later ∧ IsClosed later.tables c e :=
      hlater (fun w => Sound w ∧ IsClosed w.tables c e)
        (fun w a hw => ⟨step_sound hw.1 a, hw.2.run hw.1 [a]⟩) ⟨hsound, hclosed⟩
    have hstate := hopen c (hid ▸ hclosed.crystal)
    refine ⟨by simp, c, Table.mem_of_find? hkept.2.crystal, hplatform, hop, hfp, ?_⟩
    cases hterminal : c.terminalState with
    | none => exact absurd hterminal hclosed.terminalState
    | some state =>
      rw [hterminal] at hstate
      cases state with
      | committed => rfl
      | stranded => exact absurd rfl hstate.1
      | expired => exact absurd rfl hstate.2

end Answers

/-! ## The three platforms -/

/-- The order passes the version check, the feed check and the gate. -/
def Desk.routes (desk : Desk) (call : OrderCall) : Bool :=
  call.body.runtimeSha = desk.approvedSha && !desk.feed.isDegraded call.checkedAt &&
    desk.controller.allowsEgress

/-- The helper's call for an order. -/
def orderCall (read : DecimalReader) (desk : Desk) (call : OrderCall) : HelperCall :=
  ⟨algofreezeConfig, call.body.orderId, desk.routedFacets call.body call.sealedAt,
    read call.body.notional, "routed", call.crystallize, call.commit⟩

/-- The helper's call for a charge. -/
def chargeCall (call : DepreciationCall) (row : ChargeRow) : HelperCall :=
  ⟨assetLedgerConfig, row.operationId, row.facets, some row.charge, "depreciated",
    call.crystallize row.assetId, call.commit row.assetId⟩

/-- The helper's call for a match. -/
def matchCall (call : MatchCall) (hash mirror : Hash) : HelperCall :=
  ⟨subledgerConfig, matchOperationId hash, matchFacets call.txn hash mirror call.fxHash,
    some ⟨0, 0⟩, "matched", call.crystallize, call.commit⟩

/-- An order is routed with a crystal that backs it; one that the spine refuses is not routed and
leaves the desk as it is. -/
def OrderGoverned (d : Deployment) (read : DecimalReader) (call : OrderCall) (w : DeskWorld) :
    Prop :=
  ((submitOrder d read call w).1 = .routed call.body.orderId →
    (orderCall read w.desk call).Backed d (submitOrder d read call w).2.spine.tables) ∧
  (w.desk.routes call = true → ((orderCall read w.desk call).run d w.spine).1 = none →
    (submitOrder d read call w).1 ≠ .routed call.body.orderId ∧
      (submitOrder d read call w).2.desk = w.desk)

/-- Every recorded charge has a crystal that backs it, and none was refused by the spine. -/
def DepreciationGoverned {σ : Type} (S : AssetStore σ) (d : Deployment) (call : DepreciationCall)
    (w : PlatformWorld σ) : Prop :=
  (∀ p ∈ (runDepreciation S d call w).1.1,
    (chargeCall call p.1).Backed d (runDepreciation S d call w).2.spine.tables) ∧
  ∀ p ∈ (runDepreciation S d call w).1.1, p.2 ≠ none

/-- A pair is marked with a crystal that backs the match; one that the spine refuses is not marked
and leaves the store as it is. -/
def MatchGoverned (kind : StoreKind) (env : SubledgerEnv) (call : MatchCall)
    (w : PlatformWorld SubledgerTable) : Prop :=
  (∀ hash mirror fx crystalId, (runMatch kind env call w).1 = .matched hash mirror fx crystalId →
    (matchCall call hash mirror).Backed env.deployment (runMatch kind env call w).2.spine.tables) ∧
  ∀ hash mirror, matchOf env call.txn w.store = some (hash, mirror) →
    ((matchCall call hash mirror).run env.deployment w.spine).1 = none →
    (∀ fx crystalId, (runMatch kind env call w).1 ≠ .matched hash mirror fx crystalId) ∧
      (runMatch kind env call w).2.store = w.store

/-- The spine grants every charge of a run. -/
def ChargesGranted {σ : Type} (S : AssetStore σ) (d : Deployment) (call : DepreciationCall) :
    List (AssetRow Decimal) → PlatformWorld σ → Prop
  | [], _ => True
  | asset :: assets, w =>
    match depreciateAsset S d call asset w with
    | (.error _, _) => True
    | (.ok charged, w') =>
      (∀ p, charged = some p → (chargeCall call p.1).Granted d w.spine) ∧
        ChargesGranted S d call assets w'

section Platforms

variable {d : Deployment}

theorem orderGoverned_iff {read : DecimalReader} {call : OrderCall} {w : DeskWorld}
    (hw : Sound w.spine) : OrderGoverned d read call w ↔
      (w.desk.routes call = true → (orderCall read w.desk call).Granted d w.spine) := by
  by_cases hroutes : w.desk.routes call = true
  · have hparts := hroutes
    simp only [Desk.routes, Bool.and_eq_true, decide_eq_true_eq, Bool.not_eq_true'] at hparts
    obtain ⟨⟨hversion, hdegraded⟩, hgate⟩ := hparts
    have hrouted : submitOrder d read call w = _ :=
      submitOrder_routed hversion (by simp [hdegraded]) hgate
    have hgoverned := HelperCall.governed_iff (h := orderCall read w.desk call) hw
      (Follows.refl ((orderCall read w.desk call).run d w.spine).2)
    simp only [OrderGoverned, hrouted, hroutes, forall_const, ne_eq, not_true_eq_false,
      false_and, imp_false]
    rw [← hgoverned, and_comm]
    rfl
  · have hrefused : ∃ detail, (submitOrder d read call w).1 = .refused detail := by
      simp only [Desk.routes, Bool.and_eq_true, decide_eq_true_eq, Bool.not_eq_true', not_and_or]
        at hroutes
      by_cases hversion : call.body.runtimeSha = w.desk.approvedSha
      · by_cases hdegraded : w.desk.feed.isDegraded call.checkedAt = true
        · rw [submitOrder_degraded hversion hdegraded]
          exact ⟨_, rfl⟩
        · have hgate : ¬ w.desk.controller.allowsEgress = true := by
            rcases hroutes with (hversion' | hdegraded') | hgate
            · exact absurd hversion hversion'
            · exact absurd (by simpa using hdegraded) hdegraded'
            · exact hgate
          rw [submitOrder_blocked hversion hdegraded hgate]
          exact ⟨_, rfl⟩
      · rw [submitOrder_mismatch hversion]
        exact ⟨_, rfl⟩
    obtain ⟨detail, hrefused⟩ := hrefused
    simp [OrderGoverned, hrefused, hroutes]

theorem matchGoverned_iff {kind : StoreKind} {env : SubledgerEnv} {call : MatchCall}
    {w : PlatformWorld SubledgerTable} (hw : Sound w.spine) :
    MatchGoverned kind env call w ↔ ∀ hash mirror,
      matchOf env call.txn w.store = some (hash, mirror) →
        (matchCall call hash mirror).Granted env.deployment w.spine := by
  cases hrecord : toRecord env call.txn with
  | none =>
    have hmatch : matchOf env call.txn w.store = none := by simp [matchOf, hrecord]
    simp [MatchGoverned, runMatch, hrecord, hmatch]
  | some record =>
    cases hmatch : matchOf env call.txn w.store with
    | none => simp [MatchGoverned, runMatch, hrecord, hmatch]
    | some p =>
      obtain ⟨hash, mirror⟩ := p
      have hrun : runMatch kind env call w =
          (.matched hash mirror call.fxHash ((matchCall call hash mirror).run env.deployment
              w.spine).1,
            ⟨markMatched kind hash mirror call.fxHash w.store,
              ((matchCall call hash mirror).run env.deployment w.spine).2⟩) := by
        simp only [runMatch, hrecord, hmatch]
        rfl
      have hgoverned := HelperCall.governed_iff (h := matchCall call hash mirror) hw
        (Follows.refl ((matchCall call hash mirror).run env.deployment w.spine).2)
      constructor
      · rintro ⟨hbacked, hrefused⟩ hash' mirror' hsame
        obtain ⟨rfl, rfl⟩ := Prod.mk.inj (Option.some.inj hsame)
        refine hgoverned.mp ⟨?_, ?_⟩
        · intro hnone
          exact (hrefused hash mirror hmatch hnone).1 _ _ (by rw [hrun])
        · have hafter := hbacked hash mirror _ _ (by rw [hrun])
          rwa [hrun] at hafter
      · intro hgrants
        obtain ⟨hsome, hbacked⟩ := hgoverned.mpr (hgrants hash mirror rfl)
        refine ⟨?_, ?_⟩
        · intro hash' mirror' fx crystalId hreply
          rw [hrun] at hreply ⊢
          obtain ⟨rfl, rfl, -⟩ := MatchReply.matched.inj hreply
          exact hbacked
        · intro hash' mirror' hsame hnone
          obtain ⟨rfl, rfl⟩ := Prod.mk.inj (Option.some.inj (hmatch.symm.trans hsame))
          exact absurd hnone hsome

/-- What a recorded charge leaves behind. -/
theorem depreciateAsset_spine {σ : Type} (S : AssetStore σ) (call : DepreciationCall)
    (asset : AssetRow Decimal) (w : PlatformWorld σ) :
    (∃ row, (depreciateAsset S d call asset w).1 =
        .ok (some (row, ((chargeCall call row).run d w.spine).1)) ∧
      (depreciateAsset S d call asset w).2.spine = ((chargeCall call row).run d w.spine).2) ∨
    ((∀ p, (depreciateAsset S d call asset w).1 ≠ .ok (some p)) ∧
      (depreciateAsset S d call asset w).2.spine = w.spine) := by
  unfold depreciateAsset
  split
  · exact Or.inr ⟨by simp, rfl⟩
  · split_ifs
    · exact Or.inr ⟨by simp, rfl⟩
    · split
      · exact Or.inr ⟨by simp, rfl⟩
      · next row store _ => exact Or.inl ⟨row, rfl, rfl⟩

theorem depreciateAsset_follows {σ : Type} (S : AssetStore σ) (call : DepreciationCall)
    (asset : AssetRow Decimal) (w : PlatformWorld σ) :
    Follows d w.spine (depreciateAsset S d call asset w).2.spine := by
  rcases depreciateAsset_spine (d := d) S call asset w with ⟨row, -, hspine⟩ | ⟨-, hspine⟩
  · rw [hspine]
    exact HelperCall.run_follows _ _
  · rw [hspine]
    exact Follows.refl _

theorem depreciateAssets_follows {σ : Type} (S : AssetStore σ) (call : DepreciationCall)
    (assets : List (AssetRow Decimal)) (w : PlatformWorld σ) :
    Follows d w.spine (depreciateAssets S d call assets w).2.spine := by
  induction assets generalizing w with
  | nil => exact Follows.refl _
  | cons asset assets ih =>
    have hone := depreciateAsset_follows (d := d) S call asset w
    unfold depreciateAssets
    cases hasset : depreciateAsset S d call asset w with
    | mk r w' =>
      rw [hasset] at hone
      cases r with
      | error exn => exact hone
      | ok charged => exact hone.trans (ih w')

/-- The charges of the loop are governed exactly when the spine grants each of them. -/
theorem depreciateAssets_governed_iff {σ : Type} (S : AssetStore σ) (call : DepreciationCall)
    (assets : List (AssetRow Decimal)) {w : PlatformWorld σ} (hw : Sound w.spine) :
    ((∀ p ∈ (depreciateAssets S d call assets w).1.1,
        (chargeCall call p.1).Backed d (depreciateAssets S d call assets w).2.spine.tables) ∧
      ∀ p ∈ (depreciateAssets S d call assets w).1.1, p.2 ≠ none) ↔
    ChargesGranted S d call assets w := by
  induction assets generalizing w with
  | nil => simp [depreciateAssets, ChargesGranted]
  | cons asset assets ih =>
    have hone := depreciateAsset_spine (d := d) S call asset w
    have hfollows := depreciateAsset_follows (d := d) S call asset w
    unfold depreciateAssets ChargesGranted
    cases hasset : depreciateAsset S d call asset w with
    | mk r w' =>
      rw [hasset] at hone hfollows
      cases r with
      | error exn => simp
      | ok charged =>
        have hrest := ih (hfollows.sound hw)
        have hlater := depreciateAssets_follows (d := d) S call assets w'
        simp only at hone hrest ⊢
        rw [← hrest]
        rcases hone with ⟨row, hcharged, hspine⟩ | ⟨hnone, -⟩
        · obtain rfl := Except.ok.inj hcharged
          rw [hspine] at hlater
          have hgoverned := HelperCall.governed_iff (h := chargeCall call row) hw hlater
          simp only [Option.toList_some, List.singleton_append, List.forall_mem_cons,
            Option.some.injEq, forall_eq', ← hgoverned]
          tauto
        · cases charged with
          | none => simp
          | some p => exact absurd rfl (hnone p)

end Platforms

/-! ## Requests to the fleet -/

/-- The platforms' own state and the spine. -/
structure FleetWorld (σ : Type) where
  desk : Desk
  assets : σ
  subledger : SubledgerTable
  spine : FinanceWorld

/-- A request whose action is irreversible. -/
inductive FleetRequest where
  | submitOrder (call : OrderCall)
  | runDepreciation (call : DepreciationCall)
  | runMatch (call : MatchCall)

section Fleet

variable {σ : Type} (S : AssetStore σ) (kind : StoreKind) (env : SubledgerEnv)

/-- The actions of a request are taken with committed crystals that back them. -/
def ActionsGoverned (w : FleetWorld σ) : FleetRequest → Prop
  | .submitOrder call => OrderGoverned env.deployment env.read call ⟨w.desk, w.spine⟩
  | .runDepreciation call => DepreciationGoverned S env.deployment call ⟨w.assets, w.spine⟩
  | .runMatch call => MatchGoverned kind env call ⟨w.subledger, w.spine⟩

/-- The spine grants every action that a request takes. -/
def SpineGrants (w : FleetWorld σ) : FleetRequest → Prop
  | .submitOrder call => w.desk.routes call = true →
    (orderCall env.read w.desk call).Granted env.deployment w.spine
  | .runDepreciation call =>
    ChargesGranted S env.deployment call (S.listAssets w.assets) ⟨w.assets, w.spine⟩
  | .runMatch call => ∀ hash mirror, matchOf env call.txn w.subledger = some (hash, mirror) →
    (matchCall call hash mirror).Granted env.deployment w.spine

end Fleet

/-- For every request in every reachable state of the spine, whatever the spine does, the actions
are governed exactly when the spine grants each of them. -/
theorem run_actionsGoverned_iff {σ : Type} (S : AssetStore σ) (kind : StoreKind)
    (env : SubledgerEnv) {w : FleetWorld σ} {spine : FinanceWorld} (hw : NoCrystals spine)
    (actions : List Action) (hspine : w.spine = run env.deployment spine actions)
    (request : FleetRequest) :
    ActionsGoverned S kind env w request ↔ SpineGrants S env w request := by
  have hsound : Sound w.spine := hspine ▸ run_sound hw.sound actions
  cases request with
  | submitOrder call => exact orderGoverned_iff hsound
  | runDepreciation call => exact depreciateAssets_governed_iff S call _ hsound
  | runMatch call => exact matchGoverned_iff hsound

/-! ## An order with the spine up and down -/

/-- A fleet that has just started, beside the desk's spine. -/
def sampleFleet : FleetWorld MemoryAssets where
  desk := freezeWorld.desk
  assets := ⟨Table.empty, []⟩
  subledger := Table.empty
  spine := freezeWorld.spine

/-- An order with the approved version. -/
def approvedOrder (notional : String) (crystallize commit : List Attempt) : OrderCall where
  body := ⟨"ord-1", "approved-sha-v1", notional⟩
  checkedAt := 0
  sealedAt := 0
  crystallize := crystallize
  commit := commit

/-- The facets of the order. -/
def approvedFacets (notional : String) : Facets :=
  sampleFleet.desk.routedFacets ⟨"ord-1", "approved-sha-v1", notional⟩ 0

def freeFingerprint : Hash :=
  ⟨"8d0ed94059e12b30bb3127489e13ba140892892e8cc1296e83c5553edccb59bc", by decide +kernel⟩

/-- The texts that an order without a notional hashes, with their SHA-256 digests. -/
def freeOrderDigests : List (String × Hash) :=
  [(fingerprintPayload "algofreeze" "ord-1" (approvedFacets "0"), freeFingerprint),
    (crystalPayload sampleCrystalId "algofreeze" "ord-1" "critical" (approvedFacets "0")
      freeFingerprint none,
      ⟨"31cbcd2bff45fbf793430a3430b3bc355b17ae7a5331d5beaa9334fea8519007", by decide +kernel⟩),
    (decisionPayload 1 "ord-1" (some sampleCrystalId) "desk-default" "CRYSTAL_CREATED" "0E-12"
      [("platform", .str "algofreeze"), ("risk_tier", .str "critical")] Ledger.genesisHash
      "2026-01-01 00:00:00+00", rogueCreated),
    (decisionPayload 2 "ord-1" (some sampleCrystalId) "desk-default" "COMMITTED_FINAL" "0E-12"
      [("outcome", .str "routed"), ("drift_enforced", .bool false), ("drift_amount", .str "0")]
      rogueCreated "2026-01-01 00:00:01+00",
      ⟨"961847fcd4fd67d666adf56cee6ca9568d943f59fd4637817478e27420d07331", by decide +kernel⟩)]

/-- The surroundings of the order. -/
def orderEnv : SubledgerEnv where
  deployment := .ofDigests freeOrderDigests fun t =>
    if t = sampleStart then "2026-01-01 00:00:00+00" else "2026-01-01 00:00:01+00"
  read := readZero
  normalize text := text.toLower

/-- With a spine that answers, the order is routed with a committed crystal. -/
theorem run_actionsGoverned_sample :
    ActionsGoverned memoryAssetStore .memory orderEnv sampleFleet
      (.submitOrder (approvedOrder "0" [promptAttempt 0] [promptAttempt 1])) := by
  refine (run_actionsGoverned_iff memoryAssetStore .memory orderEnv
    (w := sampleFleet) ⟨rfl, rfl, rfl⟩ [] rfl _).mpr ?_
  intro _
  exact HelperCall.granted_of_committed (c := sampleCrystalId) (by decide +kernel)
    (by decide +kernel) (by decide +kernel)

/-- A request that the network loses. -/
def lostAttempt : Attempt :=
  { promptAttempt 0 with delivery := .lost }

/-- With a spine that no request reaches, the order is routed all the same. -/
theorem unreachable_order_routed :
    (submitOrder orderEnv.deployment orderEnv.read (approvedOrder "0" [lostAttempt] [])
      ⟨sampleFleet.desk, sampleFleet.spine⟩).1 = .routed "ord-1" ∧
    ¬ ActionsGoverned memoryAssetStore .memory orderEnv sampleFleet
      (.submitOrder (approvedOrder "0" [lostAttempt] [])) := by
  have hrouted : (submitOrder orderEnv.deployment orderEnv.read
      (approvedOrder "0" [lostAttempt] []) ⟨sampleFleet.desk, sampleFleet.spine⟩).1 =
        .routed "ord-1" := by
    decide +kernel
  have hnone : (submitOrder orderEnv.deployment orderEnv.read
      (approvedOrder "0" [lostAttempt] [])
        ⟨sampleFleet.desk, sampleFleet.spine⟩).2.spine.tables.governanceCrystals.rows.length =
        0 := by
    decide +kernel
  refine ⟨hrouted, ?_⟩
  rintro ⟨hbacked, -⟩
  obtain ⟨c, hc, -⟩ := hbacked hrouted
  have hpos := List.length_pos_of_mem hc
  rw [hnone] at hpos
  cases hpos

end Governor.Finance
