import Mathlib
import Governor.Finance.Fleet

/-!
# Drift of the platforms' commits

`enforce_drift_on_commit` locks the account of a commit that exceeds its reserve by more than the
tolerances. `crystallize_and_commit` reserves nothing, so the whole amount of an order or a charge
is drift. The main result says exactly which commits of the two platforms leave the desk alone.
-/

namespace Governor.Finance

open Ledger (Clock Decimal Money Hash decimalStr)

/-! ## Commits that lock no account -/

/-- No account is locked, and no drift enforcement is recorded. -/
structure Unlocked (db db' : Database) : Prop where
  active : ∀ accountId, (db'.accountLedgers.find? accountId).map Account.active =
    (db.accountLedgers.find? accountId).map Account.active
  incidents : db'.guardrailIncidents = db.guardrailIncidents
  events : ∀ r ∈ db'.decisionEvents.rows, r.eventType = DecisionType.driftEnforced.text →
    r ∈ db.decisionEvents.rows

theorem Unlocked.refl (db : Database) : Unlocked db db := ⟨fun _ => rfl, rfl, fun _ hr _ => hr⟩

theorem Unlocked.trans {db db' db'' : Database} (h : Unlocked db db') (h' : Unlocked db' db'') :
    Unlocked db db'' where
  active accountId := (h'.active accountId).trans (h.active accountId)
  incidents := h'.incidents.trans h.incidents
  events r hr htype := h.events r (h'.events r hr htype) htype

/-- The amount that a commit may take when a reserve is held for it. -/
def WithinTolerance (settings : Settings) (reserved committed : Money) : Prop :=
  committed ≤ reserved ∨ driftExceedsTolerance settings (committed - reserved) reserved = false

instance (settings : Settings) (reserved committed : Money) :
    Decidable (WithinTolerance settings reserved committed) := inferInstanceAs (Decidable (_ ∨ _))

/-- Without a reserve only the absolute tolerance is left. -/
theorem withinTolerance_zero {settings : Settings} {committed : Money} :
    WithinTolerance settings 0 committed ↔
      committed ≤ max 0 (quantizeMoney settings.driftAbsoluteTolerance) := by
  rw [WithinTolerance, le_max_iff, sub_zero]
  refine or_congr_right ?_
  unfold driftExceedsTolerance
  split_ifs with hdrift hreserved
  · simp [hdrift]
  · simp [hdrift]
  · exact absurd (le_refl 0) hreserved

section Enforcement

variable {d : Deployment} {settings : Settings} {clock : Clock} {c : CrystalRow} {e : EscrowRow}
  {s : FinanceSession} {E : Exn → FinanceSession → Prop}

/-- An event that is no enforcement locks nothing. -/
theorem Appended.unlocked {draft : DecisionDraft} {s' : FinanceSession}
    (h : Appended d draft s s') (htype : draft.eventType.text ≠ DecisionType.driftEnforced.text) :
    Unlocked s.working s'.working := by
  refine ⟨?_, ?_, ?_⟩
  · intro accountId
    rw [h.frame]
  · rw [h.frame]
  · intro r hr hr'
    rw [h.rows, List.mem_append, List.mem_singleton] at hr
    rcases hr with hr | rfl
    · exact hr
    · exact absurd hr' htype

/-- A refund changes the balance only. -/
theorem unlocked_credit (db : Database) (accountId : String) (amount : Money) :
    Unlocked db { db with
      accountLedgers := db.accountLedgers.update accountId (Account.credit amount)
        (Account.credit_accountId amount) } := by
  refine ⟨?_, rfl, fun _ hr _ => hr⟩
  intro other
  rw [Table.find?_update]
  split_ifs with hsame
  · rw [hsame, Option.map_map]
    rfl
  · rfl

/-- What drift enforcement leaves behind. -/
structure Enforced (settings : Settings) (reserved committed : Money) (db db' : Database) :
    Prop where
  within : WithinTolerance settings reserved committed → Unlocked db db'
  beyond : ¬ WithinTolerance settings reserved committed →
    db'.guardrailIncidents.length = db.guardrailIncidents.length + 1

theorem Enforced.unlocked_iff {reserved committed : Money} {db db' : Database}
    (h : Enforced settings reserved committed db db') :
    Unlocked db db' ↔ WithinTolerance settings reserved committed := by
  refine ⟨fun hunlocked => ?_, h.within⟩
  by_contra hbeyond
  have hlength := h.beyond hbeyond
  rw [hunlocked.incidents] at hlength
  omega

theorem Enforced.trans {reserved committed : Money} {db db' db'' db₀ : Database}
    (h₀ : Unlocked db₀ db) (h : Enforced settings reserved committed db db')
    (h' : Unlocked db' db'') : Enforced settings reserved committed db₀ db'' where
  within hwithin := (h₀.trans (h.within hwithin)).trans h'
  beyond hbeyond := by rw [h'.incidents, h.beyond hbeyond, h₀.incidents]

theorem wp_enforceDriftOnCommit_enforced {committed : Money}
    {Q : List (String × Json) → FinanceSession → Prop} (hids : IdsDrawn s)
    (h : ∀ s' drift, IdsDrawn s' → Enforced settings e.reservedExposure committed s.working
      s'.working → Q drift s') :
    Tx.wp (enforceDriftOnCommit d settings clock c e committed) Q E s := by
  unfold enforceDriftOnCommit
  simp only [Tx.wp_ite, Tx.wp_pure, Tx.wp_bind, Tx.wp_write]
  have hquiet : ∀ {db'}, WithinTolerance settings e.reservedExposure committed →
      Unlocked s.working db' → Enforced settings e.reservedExposure committed s.working db' :=
    fun hwithin hunlocked => ⟨fun _ => hunlocked, fun hbeyond => absurd hwithin hbeyond⟩
  have hpositive : ¬ max 0 (committed - e.reservedExposure) ≤ 0 →
      0 < committed - e.reservedExposure := by
    intro hdrift
    by_contra hle
    exact hdrift (max_le (le_refl 0) (not_lt.mp hle))
  split_ifs with hdrift hexceeds
  · refine h s _ hids (hquiet (Or.inl ?_) (Unlocked.refl _))
    have hle := (le_max_right 0 (committed - e.reservedExposure)).trans hdrift
    linarith
  · rw [max_eq_right (hpositive hdrift).le] at hexceeds
    refine wp_appendDecisionEvent hids fun s' ha => h s' _ (ha.idsDrawn hids) ?_
    refine hquiet (Or.inr (by simpa using hexceeds)) (ha.unlocked ?_)
    exact (by decide : DecisionType.driftTolerated.text ≠ DecisionType.driftEnforced.text)
  · rw [max_eq_right (hpositive hdrift).le] at hexceeds
    refine wp_appendDecisionEvent hids fun s' ha => h s' _ (ha.idsDrawn hids) ?_
    refine ⟨fun hwithin => ?_, fun _ => ?_⟩
    · rcases hwithin with hle | hwithin
      · have hdrift' := hpositive hdrift
        linarith
      · exact absurd (by simpa using hwithin) hexceeds
    · rw [ha.frame, List.length_append, List.length_singleton]

/-- A commit of an open crystal enforces drift against the reserve of its escrow row. -/
theorem wp_commitOpen_enforced {request : CommitRequest} {Q : CommitResult → FinanceSession → Prop}
    (hids : IdsDrawn s) (hE : ∀ exn s', E exn s')
    (h : ∀ s' result, s'.committed = s'.working →
      Enforced settings e.reservedExposure (quantizeMoney request.committedExposure) s.working
        s'.working → Q result s') :
    Tx.wp (commitOpen d settings clock c e request) Q E s := by
  have hrefund : ∀ {Q : Unit → FinanceSession → Prop} {amount : Money},
      (∀ accounts, Unlocked s.working { s.working with accountLedgers := accounts } →
        Q () { s with working := { s.working with accountLedgers := accounts } }) →
      Tx.wp (refundAccount e.accountId amount) Q E s := by
    intro Q amount hQ
    simp only [refundAccount, creditAccount, Tx.wp_ite, Tx.wp_write, Tx.wp_pure]
    split_ifs
    · exact hQ _ (unlocked_credit _ _ _)
    · exact hQ _ (Unlocked.refl _)
  simp only [commitOpen, Tx.wp_bind]
  refine hrefund fun accounts haccounts => ?_
  simp only [commitEscrow, Tx.wp_ite, Tx.wp_raise, Tx.wp_write, closeCrystal]
  split_ifs
  · exact hE _ _
  · refine wp_enforceDriftOnCommit_enforced hids fun s₁ drift hids₁ henforced => ?_
    refine wp_appendDecisionEvent hids₁ fun s₂ happended => ?_
    simp only [Tx.wp_commit, Tx.wp_pure]
    refine h _ _ rfl (Enforced.trans ?_ henforced (happended.unlocked ?_))
    · exact ⟨haccounts.active, haccounts.incidents, haccounts.events⟩
    · exact (by decide : DecisionType.committedFinal.text ≠ DecisionType.driftEnforced.text)

/-- A commit that is answered with `COMMITTED` enforces drift. -/
theorem commit_enforced {w : FinanceWorld} (hw : Sound w) {request : CommitRequest}
    {operationId : String} (hjoin : crystalJoin w.tables request.crystalId = some (c, e))
    (hrespond : respond d w (.commit settings clock request) =
      .ok (.closed ⟨operationId, request.crystalId, .committed⟩)) :
    Enforced settings e.reservedExposure (quantizeMoney request.committedExposure) w.tables
      (step d w (.commit settings clock request)).tables := by
  revert hrespond
  apply Tx.run_of_wp (R := fun (r : Except Exn Response) (w' : FinanceWorld) =>
    r = .ok (.closed ⟨operationId, request.crystalId, .committed⟩) →
      Enforced settings e.reservedExposure (quantizeMoney request.committedExposure) w.tables
        w'.tables)
  simp only [Action.body, commitOperation, Tx.wp_bind, Tx.wp_read, hjoin, Tx.wp_ite]
  split_ifs
  · intro hreplay
    simp at hreplay
  · split
    · intro hrefused
      simp at hrefused
    · refine wp_commitOpen_enforced hw.drawn (fun _ _ hrefused => by simp at hrefused) ?_
      intro s' result hcommitted henforced _
      rw [hcommitted]
      exact henforced

end Enforcement

/-! ## The reserve of a platform's crystals -/

/-- The exposure that is reserved for a crystal. -/
def heldReserve (db : Database) (crystalId : String) : Money :=
  ((crystalJoin db crystalId).map fun p => p.2.reservedExposure).getD 0

/-- A transaction that reserves nothing for the operations of a platform. -/
def Action.ReservesNothing (platform : String) : Action → Prop
  | .crystallize _ _ _ request =>
    request.platform = platform → quantizeMoney request.reservedExposure = 0
  | _ => True

/-- No crystal of the platform has a reserve. -/
def Unreserved (platform : String) (db : Database) : Prop :=
  ∀ crystalId c, db.governanceCrystals.find? crystalId = some c → c.platform = platform →
    ∀ e, db.commitEscrowLedger.find? c.operationId = some e → e.reservedExposure = 0

section Reserves

variable {d : Deployment} {platform : String}

theorem Unreserved.heldReserve {db : Database} (h : Unreserved platform db) (hdb : Agrees db)
    {crystalId : String} {c : CrystalRow}
    (hfind : db.governanceCrystals.find? crystalId = some c) (hplatform : c.platform = platform) :
    heldReserve db crystalId = 0 := by
  obtain ⟨e, hjoin⟩ := hdb.join_of_find? hfind
  obtain ⟨-, -, hescrow, -, hop, -⟩ := hdb.join hjoin
  rw [Finance.heldReserve, hjoin]
  exact h crystalId c hfind hplatform e (hop ▸ hescrow)

theorem Unreserved.opens {db db' : Database} {c : CrystalRow} {e : EscrowRow}
    (h : Unreserved platform db) (hdb : Agrees db) (hopens : Opens db c e db')
    (hreserved : c.platform = platform → e.reservedExposure = 0) : Unreserved platform db' := by
  intro crystalId x hx hplatform y hy
  rw [hopens.crystals, Table.find?_put] at hx
  rw [hopens.escrows, Table.find?_put] at hy
  split_ifs at hx with hid
  · obtain rfl := Option.some.inj hx
    rw [if_pos hopens.operationId.symm] at hy
    obtain rfl := Option.some.inj hy
    exact hreserved hplatform
  · -- an operation that has a crystal has an escrow row, and the new one has none
    have hop : x.operationId ≠ e.operationId := by
      intro hop
      obtain ⟨e', he', -⟩ := hdb.paired x (Table.mem_of_find? hx)
      rw [hop, hopens.newEscrow] at he'
      cases he'
    rw [if_neg hop] at hy
    exact h crystalId x hx hplatform y hy

theorem Unreserved.closes {db db' : Database} {x : Resolution} (h : Unreserved platform db)
    (hcloses : Closes db x db') : Unreserved platform db' := by
  have hold : ∀ crystalId c, db'.governanceCrystals.find? crystalId = some c → ∃ c',
      db.governanceCrystals.find? crystalId = some c' ∧ c'.platform = c.platform ∧
        c'.operationId = c.operationId := by
    intro crystalId c hc
    rw [hcloses.crystals, Table.find?_put, CrystalRow.close_crystalId] at hc
    split_ifs at hc with hid
    · obtain rfl := Option.some.inj hc
      exact ⟨x.crystal, hid ▸ hcloses.crystal, rfl, rfl⟩
    · exact ⟨c, hc, rfl, rfl⟩
  intro crystalId c hc hplatform e he
  obtain ⟨c', hc', hplatform', hop'⟩ := hold crystalId c hc
  rw [hcloses.escrows, Table.find?_put, Closing.row_operationId] at he
  split_ifs at he with hop
  · obtain rfl := Option.some.inj he
    rw [Closing.row_reservedExposure]
    exact h crystalId c' hc' (hplatform'.trans hplatform) _ ((hop'.trans hop) ▸ hcloses.escrow)
  · exact h crystalId c' hc' (hplatform'.trans hplatform) e (hop' ▸ he)

theorem step_unreserved {w : FinanceWorld} (hw : Sound w) (h : Unreserved platform w.tables)
    {a : Action} (ha : a.ReservesNothing platform) : Unreserved platform (step d w a).tables := by
  have hmoved := (body_committed (d := d) hw a).1
  generalize respond d w a = r at hmoved
  generalize (step d w a).tables = db' at hmoved ⊢
  have hclosings : ∀ {xs}, ClosesAll w.tables xs db' → Unreserved platform db' :=
    fun hall => hall.keeps (fun hcloses hI => hI.closes hcloses) h
  cases hmoved with
  | crystallize hc =>
    cases hc with
    | refused => exact h
    | replayed => exact h
    | opened hseal hopens =>
      refine h.opens hw.agrees hopens fun hplatform => ha ?_
      rw [← hplatform, hseal]
      rfl
  | commit hc => exact hclosings hc.closesAll
  | adjudicate hc => exact hclosings hc.closesAll
  | sweep hc => exact hclosings hc

theorem run_unreserved {w : FinanceWorld} (hw : Sound w) (h : Unreserved platform w.tables)
    {actions : List Action} (hactions : ∀ a ∈ actions, a.ReservesNothing platform) :
    Sound (run d w actions) ∧ Unreserved platform (run d w actions).tables := by
  induction actions generalizing w with
  | nil => exact ⟨hw, h⟩
  | cons a actions ih =>
    exact ih (step_sound hw a) (step_unreserved hw h (hactions a List.mem_cons_self))
      fun b hb => hactions b (List.mem_cons_of_mem _ hb)

end Reserves

/-! ## Orders and charges -/

/-- The actions of the fleet that commit an amount. -/
inductive AmountAction where
  | order (desk : Desk) (call : OrderCall)
  | charge (call : DepreciationCall) (row : ChargeRow)

/-- The helper's call for the action. -/
def AmountAction.helperCall (read : DecimalReader) : AmountAction → HelperCall
  | .order desk call => orderCall read desk call
  | .charge call row => chargeCall call row

/-- The commit that the helper requests. -/
def HelperCall.commitAction (h : HelperCall) (crystalId : String) (committed : Decimal)
    (settings : Settings) (clock : Clock) : Action :=
  .commit settings clock ⟨crystalId, h.facets, committed, h.outcome, false⟩

/-- The spine answers the crystallize of a call with a crystal, serves others, and answers the commit
of the call's amount with `COMMITTED`. -/
structure CommitAnswered (d : Deployment) (h : HelperCall) (w w' : FinanceWorld)
    (others : List Action) (crystalId : String) (committed : Decimal) (settings : Settings)
    (clock : Clock) : Prop where
  crystallize : spineCrystallize d (h.config.request h.operationId h.facets) h.crystallize w =
    (.ok crystalId, w')
  amount : h.committedExposure = some committed
  commit : ∃ operationId, respond d (run d w' others)
    (h.commitAction crystalId committed settings clock) =
      .ok (.closed ⟨operationId, crystalId, .committed⟩)

/-- Everyone who crystallizes for the platform reserves nothing, as the helper does. -/
structure OwnRequests (h : HelperCall) (earlier others : List Action) : Prop where
  earlier : ∀ a ∈ earlier, a.ReservesNothing h.config.name
  meanwhile : ∀ t ∈ h.crystallize, ∀ a ∈ t.meanwhile, a.ReservesNothing h.config.name
  others : ∀ a ∈ others, a.ReservesNothing h.config.name

section Orders

variable {d : Deployment} {read : DecimalReader} {h : HelperCall} {w w' : FinanceWorld}
  {earlier others : List Action} {crystalId : String}

/-- The crystal of the call stays stored. -/
theorem storedFor_later (hw : NoCrystals w)
    (hcrystallize : spineCrystallize d (h.config.request h.operationId h.facets) h.crystallize
      (run d w earlier) = (.ok crystalId, w')) (others : List Action) :
    StoredFor d (h.config.request h.operationId h.facets) crystalId
      (run d w' others).tables := by
  obtain ⟨hsound, hstored⟩ := spineCrystallize_ok (run_sound hw.sound earlier) hcrystallize
  exact run_invariant (fun _ hopens hI => hI.opens hopens) (fun _ hcloses hI => hI.closes hcloses)
    hsound hstored others

/-- The crystals that the helper opens have no reserve. -/
theorem OwnRequests.heldReserve (hown : OwnRequests h earlier others) (hw : NoCrystals w)
    (hcrystallize : spineCrystallize d (h.config.request h.operationId h.facets) h.crystallize
      (run d w earlier) = (.ok crystalId, w')) :
    heldReserve (run d w' others).tables crystalId = 0 := by
  have hstart : Unreserved h.config.name w.tables := by
    intro id c hfind
    have hmem := Table.mem_of_find? hfind
    rw [hw.governanceCrystals] at hmem
    cases hmem
  have hbefore := run_unreserved (d := d) hw.sound hstart hown.earlier
  have hdefault : quantizeMoney defaultReserve = 0 := by decide
  have hafter : Sound w' ∧ Unreserved h.config.name w'.tables := by
    have hworld := congrArg Prod.snd hcrystallize
    simp only at hworld
    rw [← hworld]
    exact spineCrystallize_keeps (I := fun w => Sound w ∧ Unreserved h.config.name w.tables)
      (fun t ht w hw => run_unreserved hw.1 hw.2 (hown.meanwhile t ht))
      (fun t ht w hw => ⟨step_sound hw.1 _, step_unreserved hw.1 hw.2 fun _ => hdefault⟩) hbefore
  obtain ⟨hsound, hlater⟩ := run_unreserved (d := d) hafter.1 hafter.2 hown.others
  obtain ⟨c, hfind, hplatform, -⟩ := storedFor_later hw hcrystallize others
  exact hlater.heldReserve hsound.agrees hfind hplatform

end Orders

/-- For every order and every charge, in every reachable state of the spine and whatever others do
before the commit: a commit that is answered with `COMMITTED` leaves the desk alone exactly when
the amount is within the tolerance of what is reserved for it. The platforms reserve nothing, so
that is the absolute tolerance. -/
theorem run_unlocked_iff {d : Deployment} {read : DecimalReader} (action : AmountAction)
    {w w' : FinanceWorld} (hw : NoCrystals w) {earlier others : List Action} {crystalId : String}
    {committed : Decimal} {settings : Settings} {clock : Clock}
    (hanswered : CommitAnswered d (action.helperCall read) (run d w earlier) w' others crystalId
      committed settings clock) :
    (Unlocked (run d w' others).tables (step d (run d w' others)
        ((action.helperCall read).commitAction crystalId committed settings clock)).tables ↔
      WithinTolerance settings (heldReserve (run d w' others).tables crystalId)
        (quantizeMoney committed)) ∧
    (OwnRequests (action.helperCall read) earlier others →
      (Unlocked (run d w' others).tables (step d (run d w' others)
          ((action.helperCall read).commitAction crystalId committed settings clock)).tables ↔
        quantizeMoney committed ≤ max 0 (quantizeMoney settings.driftAbsoluteTolerance))) := by
  have hsound : Sound (run d w' others) :=
    run_sound (spineCrystallize_ok (run_sound hw.sound earlier) hanswered.crystallize).1 others
  obtain ⟨c, hfind, -⟩ := storedFor_later hw hanswered.crystallize others
  obtain ⟨e, hjoin⟩ := hsound.agrees.join_of_find? hfind
  obtain ⟨operationId, hrespond⟩ := hanswered.commit
  have hheld : heldReserve (run d w' others).tables crystalId = e.reservedExposure := by
    rw [heldReserve, hjoin]
    rfl
  have henforced := (commit_enforced hsound hjoin hrespond).unlocked_iff
  rw [← hheld] at henforced
  refine ⟨henforced, fun hown => henforced.trans ?_⟩
  rw [hown.heldReserve hw hanswered.crystallize]
  exact withinTolerance_zero

/-! ## An order of ten units -/

def tenFingerprint : Hash :=
  ⟨"4b834e756dcb1eacda8c4598cc777f142aab718c50a61baa75690c2063ec16a7", by decide +kernel⟩

/-- The digest of the event that locks the desk for the order. -/
def tenLocked : Hash :=
  ⟨"5ffdbcd85b99708ff725d67fd915e1e9e461b76c59a9970b0dfdc635df04eb5b", by decide +kernel⟩

/-- The texts that an order of ten units hashes, with their SHA-256 digests. -/
def tenOrderDigests : List (String × Hash) :=
  [(fingerprintPayload "algofreeze" "ord-1" (approvedFacets "10"), tenFingerprint),
    (crystalPayload sampleCrystalId "algofreeze" "ord-1" "critical" (approvedFacets "10")
      tenFingerprint none,
      ⟨"20fb270db06b5ecefeb82038418ab9f5b3fcfa31c660f006b4d320ec2f6d8ae5", by decide +kernel⟩),
    (decisionPayload 1 "ord-1" (some sampleCrystalId) "desk-default" "CRYSTAL_CREATED" "0E-12"
      [("platform", .str "algofreeze"), ("risk_tier", .str "critical")] Ledger.genesisHash
      "2026-01-01 00:00:00+00", rogueCreated),
    (decisionPayload 2 "ord-1" (some sampleCrystalId) "desk-default" "DRIFT_ENFORCED" "0E-12"
      [("drift_amount", .str "10.000000000000")] rogueCreated "2026-01-01 00:00:01+00", tenLocked),
    (decisionPayload 3 "ord-1" (some sampleCrystalId) "desk-default" "COMMITTED_FINAL"
      "10.000000000000"
      [("outcome", .str "routed"), ("drift_enforced", .bool true),
        ("drift_amount", .str "10.000000000000")] tenLocked "2026-01-01 00:00:01+00",
      ⟨"992cd4c5af5c956d78985be584cd19f014a9d1bc1acf317237a959b367b62a77", by decide +kernel⟩)]

/-- The surroundings of the order. -/
def tenDeployment : Deployment :=
  .ofDigests tenOrderDigests fun t =>
    if t = sampleStart then "2026-01-01 00:00:00+00" else "2026-01-01 00:00:01+00"

/-- The amounts of the two orders. -/
def readAmount : DecimalReader := fun text =>
  if text = "10" then some ⟨10, 0⟩ else if text = "0" then some ⟨0, 0⟩ else none

/-- An order with the approved version, on a spine that answers. -/
def promptOrder (notional : String) : AmountAction :=
  .order sampleFleet.desk (approvedOrder notional [promptAttempt 0] [promptAttempt 1])

/-- The spine once the order has its crystal. -/
def promptSpine (d : Deployment) (notional : String) : FinanceWorld :=
  (spineCrystallize d (algofreezeConfig.request "ord-1" (approvedFacets notional))
    [promptAttempt 0] freezeWorld.spine).2

/-- An order of nothing leaves the desk alone. -/
theorem run_unlocked_free :
    Unlocked (promptSpine orderEnv.deployment "0").tables
      (step orderEnv.deployment (promptSpine orderEnv.deployment "0")
        (((promptOrder "0").helperCall readAmount).commitAction sampleCrystalId ⟨0, 0⟩ .default
          (sampleClock 1))).tables := by
  have hanswered : CommitAnswered orderEnv.deployment ((promptOrder "0").helperCall readAmount)
      (run orderEnv.deployment freezeWorld.spine []) (promptSpine orderEnv.deployment "0") []
      sampleCrystalId ⟨0, 0⟩ .default (sampleClock 1) :=
    ⟨Prod.ext (by decide +kernel) rfl, by decide +kernel, "ord-1", by decide +kernel⟩
  have hown : OwnRequests ((promptOrder "0").helperCall readAmount) [] [] := by
    refine ⟨by simp, ?_, by simp⟩
    intro t ht a ha
    obtain rfl : t = promptAttempt 0 := List.mem_singleton.mp ht
    cases ha
  exact ((run_unlocked_iff (promptOrder "0") ⟨rfl, rfl, rfl⟩ hanswered).2 hown).mpr
    (by decide +kernel)

/-- An order of ten units is routed and committed, and locks the desk of every platform. -/
theorem ten_units_lock_desk :
    CommitAnswered tenDeployment ((promptOrder "10").helperCall readAmount) freezeWorld.spine
      (promptSpine tenDeployment "10") [] sampleCrystalId ⟨10, 0⟩ .default (sampleClock 1) ∧
    (submitOrder tenDeployment readAmount (approvedOrder "10" [promptAttempt 0] [promptAttempt 1])
      freezeWorld).1 = .routed "ord-1" ∧
    ((submitOrder tenDeployment readAmount (approvedOrder "10" [promptAttempt 0] [promptAttempt 1])
      freezeWorld).2.spine.tables.accountLedgers.find? "desk-default").map Account.active =
        some false ∧
    ¬ Unlocked (promptSpine tenDeployment "10").tables
      (step tenDeployment (promptSpine tenDeployment "10")
        (((promptOrder "10").helperCall readAmount).commitAction sampleCrystalId ⟨10, 0⟩ .default
          (sampleClock 1))).tables := by
  refine ⟨⟨Prod.ext (by decide +kernel) rfl, by decide +kernel, "ord-1", by decide +kernel⟩,
    by decide +kernel, by decide +kernel, ?_⟩
  intro hunlocked
  have hactive := hunlocked.active "desk-default"
  revert hactive
  decide +kernel

end Governor.Finance
