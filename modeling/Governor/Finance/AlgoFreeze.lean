import Mathlib
import Governor.Finance.Platform

/-!
# AlgoFreeze and its mesh children

A desk is frozen by an order with an unapproved version, and a crystal with the facet
`freeze_state = FROZEN` tells the spine. A mesh rule blocks the commits of a child platform
while the newest open crystal of the desk carries that facet. The controller stays frozen; the
crystal does not stay the newest open one. The last part says under which steps it does.
-/

namespace Governor.Finance

open Ledger (Clock Decimal)

/-! ## The freeze controller -/

/-- `FreezeState`. -/
inductive FreezeState where
  | active | degraded | frozen
  deriving DecidableEq, Repr

/-- `FreezeController`. -/
structure FreezeController where
  state : FreezeState
  reason : Option String

namespace FreezeController

/-- `FreezeController()`. -/
def init : FreezeController := ⟨.active, none⟩

def freeze (reason : String) (_ : FreezeController) : FreezeController := ⟨.frozen, some reason⟩

def degrade (reason : String) (c : FreezeController) : FreezeController :=
  if c.state ≠ .frozen then ⟨.degraded, some reason⟩ else c

def unfreeze (_ : FreezeController) : FreezeController := ⟨.active, none⟩

def allowsEgress (c : FreezeController) : Bool := c.state = .active

end FreezeController

/-- `FeedHeartbeat` with a gap of two seconds, in microseconds of the monotonic clock. -/
structure FeedHeartbeat where
  lastPacketAt : Int

/-- `is_degraded`. -/
def FeedHeartbeat.isDegraded (f : FeedHeartbeat) (now : Int) : Bool :=
  2000000 < now - f.lastPacketAt

/-! ## Orders -/

/-- `OrderRequest`. -/
structure OrderRequest where
  orderId : String
  runtimeSha : String
  notional : String

/-- A row of `platform_events`. -/
structure PlatformEvent where
  eventType : String
  operationId : String
  metadata : Facets

/-- The state of the AlgoFreeze process. -/
structure Desk where
  approvedSha : String
  controller : FreezeController
  feed : FeedHeartbeat
  blockedAttempts : Nat
  events : List PlatformEvent

/-- A desk that has just started. -/
def Desk.start (now : Int) : Desk := ⟨"approved-sha-v1", .init, ⟨now⟩, 0, []⟩

/-- `append_platform_event`. -/
def Desk.append (eventType operationId : String) (metadata : Facets) (desk : Desk) : Desk :=
  { desk with events := desk.events ++ [⟨eventType, operationId, metadata⟩] }

/-- `_base_facets`. -/
def Desk.baseFacets (desk : Desk) (runtimeSha : String) (now : Int) : Facets :=
  [("runtime_sha", .str runtimeSha), ("desk_id", .str "desk-default"),
    ("deploy_sha", .str runtimeSha), ("approved_sha", .str desk.approvedSha),
    ("freeze_policy_version", .str "algofreeze-v1"),
    ("feed_health_vector", .obj [("degraded", .bool (desk.feed.isDegraded now))])]

/-- The facets of a desk that is not active. -/
def Desk.haltedFacets (desk : Desk) (runtimeSha : String) (now : Int) (state : String) : Facets :=
  desk.baseFacets runtimeSha now ++ [("freeze_state", .str state)]

/-- The facets of an order that is routed. -/
def Desk.routedFacets (desk : Desk) (body : OrderRequest) (now : Int) : Facets :=
  desk.baseFacets body.runtimeSha now ++
    [("freeze_state", .str "ACTIVE"), ("notional", .str body.notional)]

/-- What `submit_order` answers. -/
inductive OrderReply where
  | routed (orderId : String)
  /-- `HTTPException` with status 403. -/
  | refused (detail : String)
  deriving DecidableEq, Repr

/-- The desk and the spine. -/
structure DeskWorld where
  desk : Desk
  spine : FinanceWorld

/-- One call of `submit_order`: the two reads of the monotonic clock, and what becomes of the
requests to the spine. -/
structure OrderCall where
  body : OrderRequest
  checkedAt : Int
  sealedAt : Int
  crystallize : List Attempt
  commit : List Attempt

/-- Crystallize the facets of a halted desk; whether that succeeds is not looked at. -/
def haltOrder (d : Deployment) (call : OrderCall) (eventType : String) (facets : Facets)
    (detail : String) (w : DeskWorld) : OrderReply × DeskWorld :=
  let r := SpineHelpers.crystallize d algofreezeConfig call.body.orderId facets call.crystallize
    w.spine
  (.refused detail, ⟨w.desk.append eventType call.body.orderId facets, r.2⟩)

/-- `submit_order`. -/
def submitOrder (d : Deployment) (read : DecimalReader) (call : OrderCall) (w : DeskWorld) :
    OrderReply × DeskWorld :=
  let desk := w.desk
  if call.body.runtimeSha ≠ desk.approvedSha then
    let desk := { desk with controller := desk.controller.freeze "VERSION_MISMATCH" }
    haltOrder d call "VERSION_MISMATCH_FREEZE"
      (desk.haltedFacets call.body.runtimeSha call.sealedAt "FROZEN")
      "VERSION_MISMATCH: desk frozen" ⟨desk, w.spine⟩
  else if desk.feed.isDegraded call.checkedAt then
    let desk := { desk with controller := desk.controller.degrade "FEED_DEGRADED" }
    haltOrder d call "FEED_DEGRADED"
      (desk.haltedFacets call.body.runtimeSha call.sealedAt "DEGRADED")
      "FEED_DEGRADED: desk frozen" ⟨desk, w.spine⟩
  else if !desk.controller.allowsEgress then
    let reason := desk.controller.reason
    let desk := { desk with blockedAttempts := desk.blockedAttempts + 1 }
    (.refused ("FROZEN: " ++ reason.getD "None"),
      ⟨desk.append "EGRESS_BLOCKED" call.body.orderId [("reason", reason.elim .null .str)],
        w.spine⟩)
  else
    let facets := desk.routedFacets call.body call.sealedAt
    let r := SpineHelpers.crystallizeAndCommit d algofreezeConfig call.body.orderId facets
      (read call.body.notional) "routed" call.crystallize call.commit w.spine
    (.routed call.body.orderId, ⟨desk.append "ORDER_ROUTED" call.body.orderId facets, r.2⟩)

section Orders

variable {d : Deployment} {read : DecimalReader} {call : OrderCall} {w : DeskWorld}

/-- The desk, frozen or degraded by an order. -/
def Desk.halt (desk : Desk) (controller : FreezeController) : Desk :=
  { desk with controller := controller }

theorem submitOrder_mismatch (hversion : call.body.runtimeSha ≠ w.desk.approvedSha) :
    submitOrder d read call w = haltOrder d call "VERSION_MISMATCH_FREEZE"
      (w.desk.haltedFacets call.body.runtimeSha call.sealedAt "FROZEN")
      "VERSION_MISMATCH: desk frozen"
      ⟨w.desk.halt (w.desk.controller.freeze "VERSION_MISMATCH"), w.spine⟩ := by
  unfold submitOrder
  exact if_pos hversion

theorem submitOrder_degraded (hversion : call.body.runtimeSha = w.desk.approvedSha)
    (hdegraded : w.desk.feed.isDegraded call.checkedAt = true) :
    submitOrder d read call w = haltOrder d call "FEED_DEGRADED"
      (w.desk.haltedFacets call.body.runtimeSha call.sealedAt "DEGRADED")
      "FEED_DEGRADED: desk frozen"
      ⟨w.desk.halt (w.desk.controller.degrade "FEED_DEGRADED"), w.spine⟩ := by
  unfold submitOrder
  exact (if_neg (not_not.mpr hversion)).trans (if_pos hdegraded)

theorem submitOrder_blocked (hversion : call.body.runtimeSha = w.desk.approvedSha)
    (hdegraded : ¬ w.desk.feed.isDegraded call.checkedAt = true)
    (hgate : ¬ w.desk.controller.allowsEgress = true) :
    submitOrder d read call w = (.refused ("FROZEN: " ++ w.desk.controller.reason.getD "None"),
      ⟨Desk.append "EGRESS_BLOCKED" call.body.orderId
        [("reason", w.desk.controller.reason.elim .null .str)]
        { w.desk with blockedAttempts := w.desk.blockedAttempts + 1 }, w.spine⟩) := by
  unfold submitOrder
  have hclosed : (!w.desk.controller.allowsEgress) = true := by simpa using hgate
  exact (if_neg (not_not.mpr hversion)).trans ((if_neg hdegraded).trans (if_pos hclosed))

theorem submitOrder_routed (hversion : call.body.runtimeSha = w.desk.approvedSha)
    (hdegraded : ¬ w.desk.feed.isDegraded call.checkedAt = true)
    (hgate : w.desk.controller.allowsEgress = true) :
    submitOrder d read call w = (.routed call.body.orderId,
      ⟨w.desk.append "ORDER_ROUTED" call.body.orderId (w.desk.routedFacets call.body call.sealedAt),
        (SpineHelpers.crystallizeAndCommit d algofreezeConfig call.body.orderId
          (w.desk.routedFacets call.body call.sealedAt) (read call.body.notional) "routed"
          call.crystallize call.commit w.spine).2⟩) := by
  unfold submitOrder
  have hopen : ¬ (!w.desk.controller.allowsEgress) = true := by simpa using hgate
  exact (if_neg (not_not.mpr hversion)).trans ((if_neg hdegraded).trans (if_neg hopen))

end Orders

/-- `feed_packet`. -/
def feedPacket (now : Int) (desk : Desk) : Desk :=
  let desk := { desk with feed := ⟨now⟩ }
  if desk.controller.state = .degraded then
    { desk with controller := desk.controller.unfreeze }
  else desk

/-- `set_approved_version`. -/
def setApprovedVersion (approvedSha : String) (desk : Desk) : Desk :=
  { desk with approvedSha := approvedSha }

/-- One call of the desk's API, or a transaction of the spine for anyone else. -/
inductive DeskAction where
  | submitOrder (call : OrderCall)
  | feedPacket (now : Int)
  | setApprovedVersion (approvedSha : String)
  | spine (a : Action)

/-- The world after one call. -/
def deskStep (d : Deployment) (read : DecimalReader) (w : DeskWorld) : DeskAction → DeskWorld
  | .submitOrder call => (submitOrder d read call w).2
  | .feedPacket now => ⟨feedPacket now w.desk, w.spine⟩
  | .setApprovedVersion approvedSha => ⟨setApprovedVersion approvedSha w.desk, w.spine⟩
  | .spine a => ⟨w.desk, step d w.spine a⟩

/-! ## The block -/

/-- The mesh rule that a frozen desk relies on. -/
def freezeRule (child : String) : MeshRule :=
  ⟨"algofreeze", "freeze_state", "FROZEN", child, true, true⟩

/-- While the controller is frozen the mesh has a reason to block the child, and every commit of
the child that passes the other checks is refused. -/
def ChildBlocked (d : Deployment) (child : String) (w : DeskWorld) : Prop :=
  w.desk.controller.state = .frozen →
    meshBlockReason w.spine.tables child ≠ none ∧
    ∀ settings clock request c e, crystalJoin w.spine.tables request.crystalId = some (c, e) →
      c.platform = child → c.terminalState = none →
      verifyCommitFingerprint d c request.facets = true →
      (isHorizonExpired c clock.utcnow && !request.lateAuthority) = false →
      ∃ reason, respond d w.spine (.commit settings clock request) =
        .error (.surpriseCommitBlockedError reason)

/-- A commit that the checks refuse raises what they say. -/
theorem respond_commit_of_refusal {d : Deployment} {w : FinanceWorld} {settings : Settings}
    {clock : Clock} {request : CommitRequest} {c : CrystalRow} {e : EscrowRow} {exn : Exn}
    (hjoin : crystalJoin w.tables request.crystalId = some (c, e)) (hopen : c.terminalState = none)
    (hrefusal : commitRefusal d clock w.tables c request = some exn) :
    respond d w (.commit settings clock request) = .error exn := by
  apply Tx.run_of_wp (R := fun r _ => r = .error exn)
  simp only [Action.body, commitOperation, Tx.wp_bind, Tx.wp_read, hjoin, hopen,
    Option.isSome_none, Bool.false_eq_true, ite_false, hrefusal, Tx.wp_raise]

theorem meshBlockReason_ne_none {db : Database} {rule : MeshRule} {child : String}
    (hrule : rule ∈ db.crystalMeshRules) (hchild : rule.childPlatform = child)
    (hactive : rule.blockCommit = true ∧ rule.enabled = true)
    (hblocks : rule.blocks db.governanceCrystals.rows = true) :
    meshBlockReason db child ≠ none := by
  intro hnone
  rw [meshBlockReason, Option.map_eq_none_iff, List.find?_eq_none] at hnone
  refine hnone rule (List.mem_filter.mpr ⟨hrule, ?_⟩) hblocks
  simp [hchild, hactive]

/-- The child is blocked while the newest open crystal of the desk is a frozen one. -/
theorem childBlocked_of_blocks {d : Deployment} {child : String} {w : DeskWorld}
    (hrule : freezeRule child ∈ w.spine.tables.crystalMeshRules)
    (hblocks : w.desk.controller.state = .frozen →
      (freezeRule child).blocks w.spine.tables.governanceCrystals.rows = true) :
    ChildBlocked d child w := by
  intro hfrozen
  have hreason : meshBlockReason w.spine.tables child ≠ none :=
    meshBlockReason_ne_none hrule rfl ⟨rfl, rfl⟩ (hblocks hfrozen)
  refine ⟨hreason, ?_⟩
  intro settings clock request c e hjoin hchild hopen hfingerprint hhorizon
  obtain ⟨reason, hsome⟩ := Option.ne_none_iff_exists'.mp hreason
  refine ⟨reason, respond_commit_of_refusal hjoin hopen ?_⟩
  simp [commitRefusal, hfingerprint, hhorizon, hchild, hsome]

/-! ## Steps that keep the block -/

/-- The desk has a crystal for the order already. -/
def OrderKnown (db : Database) (orderId : String) : Prop :=
  findCrystal db "algofreeze" orderId ≠ none

/-- The freeze is announced: the spine is reached, it opens a crystal for the order, and the crystal
is later than every open one of the desk. -/
def Announced (db : Database) (request : CrystallizeRequest) :
    List Attempt → Prop
  | [] => False
  | t :: _ => Reachable t ∧ Accepts db t.uuid request ∧
    ∀ c ∈ db.governanceCrystals.rows, c.platform = "algofreeze" → c.terminalState = none →
      c.crystallizedAt < t.clock.currentTimestamp

/-- The crystals that a transaction does not close. -/
def keptCrystals (d : Deployment) (db : Database) (a : Action) : List CrystalRow :=
  db.governanceCrystals.rows.filter fun c =>
    c.crystalId ∉ (closings d db a).map fun x => x.crystal.crystalId

/-- The step keeps a frozen crystal the newest open one of a frozen desk. -/
def KeepsBlock (d : Deployment) (child : String) (w : DeskWorld) : DeskAction → Prop
  | .submitOrder call =>
    (∀ t ∈ call.crystallize, Reachable t) ∧
    if call.body.runtimeSha ≠ w.desk.approvedSha then
      Announced w.spine.tables (algofreezeConfig.request call.body.orderId
        (w.desk.haltedFacets call.body.runtimeSha call.sealedAt "FROZEN")) call.crystallize ∨
      w.desk.controller.state = .frozen ∧ OrderKnown w.spine.tables call.body.orderId
    else w.desk.feed.isDegraded call.checkedAt = true → w.desk.controller.state = .frozen →
      OrderKnown w.spine.tables call.body.orderId
  | .feedPacket _ => True
  | .setApprovedVersion _ => True
  | .spine a => w.desk.controller.state = .frozen →
    (∀ raced clock uuid request, a = .crystallize raced clock uuid request →
      request.platform ≠ "algofreeze") ∧
    (freezeRule child).blocks (keptCrystals d w.spine.tables a) = true

section Open

variable {db db' : Database} {platform : String}

/-- Whether a crystal is an open one of a platform. -/
def isOpenOf (platform : String) (c : CrystalRow) : Bool :=
  c.platform = platform && c.terminalState.isNone

theorem Opens.openOf_eq {c : CrystalRow} {e : EscrowRow} (h : Opens db c e db') :
    db'.governanceCrystals.rows.filter (isOpenOf platform) =
      db.governanceCrystals.rows.filter (isOpenOf platform) ++
        if c.platform = platform then [c] else [] := by
  rw [h.crystals, Table.rows_put_of_fresh h.newCrystal, List.filter_append]
  by_cases hp : c.platform = platform <;> simp [isOpenOf, hp, h.terminalState]

theorem ClosesAll.openOf_eq {xs : List Resolution} (h : ClosesAll db xs db') :
    db'.governanceCrystals.rows.filter (isOpenOf platform) =
      (db.governanceCrystals.rows.filter fun c =>
        c.crystalId ∉ xs.map fun x => x.crystal.crystalId).filter (isOpenOf platform) := by
  induction xs generalizing db with
  | nil =>
    obtain rfl : db' = db := h
    simp
  | cons x xs ih =>
    obtain ⟨mid, hx, hrest⟩ := h
    have hstored : db.governanceCrystals.find? (x.crystal.close x.closing.state).crystalId ≠
        none := by
      rw [CrystalRow.close_crystalId, hx.crystal]
      exact Option.some_ne_none _
    have hclosed : isOpenOf platform (x.crystal.close x.closing.state) = false := by
      simp [isOpenOf, CrystalRow.close]
    have hmid := Table.filter_put_of_neg hstored hclosed
    rw [← hx.crystals, CrystalRow.close_crystalId] at hmid
    rw [ih hrest, List.filter_comm, hmid]
    simp only [List.filter_filter]
    apply List.filter_congr
    intro c _
    rw [Bool.eq_iff_iff]
    simp only [List.map_cons, List.mem_cons, not_or, Bool.and_eq_true, decide_eq_true_eq]
    tauto

/-- A rule looks at the open crystals of its parent only. -/
theorem MeshRule.blocks_congr {rule : MeshRule} {rows rows' : List CrystalRow}
    (h : rows.filter (isOpenOf rule.parentPlatform) = rows'.filter (isOpenOf rule.parentPlatform)) :
    rule.blocks rows = rule.blocks rows' := by
  have hfacets : openParentFacets rows rule.parentPlatform =
      openParentFacets rows' rule.parentPlatform := by
    change (lastBy _ (rows.filter (isOpenOf _))).map _ = (lastBy _ (rows'.filter (isOpenOf _))).map _
    rw [h]
  rw [MeshRule.blocks, hfacets, MeshRule.blocks]

end Open

section Steps

variable {d : Deployment} {read : DecimalReader} {child : String}

/-- A transaction of the spine keeps the block under the step's condition. -/
theorem step_blocks {w : FinanceWorld} (hw : Sound w) {a : Action}
    (hother : ∀ raced clock uuid request, a = .crystallize raced clock uuid request →
      request.platform ≠ "algofreeze")
    (hkept : (freezeRule child).blocks (keptCrystals d w.tables a) = true) :
    (freezeRule child).blocks (step d w a).tables.governanceCrystals.rows = true := by
  have hclosed : ∀ {db'}, ClosesAll w.tables (closings d w.tables a) db' →
      (freezeRule child).blocks db'.governanceCrystals.rows = true := by
    intro db' hall
    rw [MeshRule.blocks_congr hall.openOf_eq]
    exact hkept
  have hc := (body_committed (d := d) hw a).1
  generalize respond d w a = r at hc
  generalize (step d w a).tables = db' at hc ⊢
  cases hc with
  | crystallize h =>
    cases h with
    | refused => exact hclosed rfl
    | replayed => exact hclosed rfl
    | opened hseal hopens =>
      have hplatform := hother _ _ _ _ rfl
      have hnone : (freezeRule child).blocks w.tables.governanceCrystals.rows = true := hclosed rfl
      rw [← hnone]
      apply MeshRule.blocks_congr
      rw [hopens.openOf_eq, hseal]
      exact (congrArg _ (if_neg hplatform)).trans (List.append_nil _)
  | commit h => exact hclosed h.closesAll
  | adjudicate h => exact hclosed h.closesAll
  | sweep h => exact hclosed h

/-- A crystallize for an operation that the platform has a crystal of changes nothing. -/
theorem step_crystallize_known {w : FinanceWorld} (hw : Sound w) {raced : Bool} {clock : Clock}
    {uuid : String} {request : CrystallizeRequest}
    (hknown : findCrystal w.tables request.platform request.operationId ≠ none) :
    (step d w (.crystallize raced clock uuid request)).tables = w.tables := by
  have hc := (body_committed (d := d) hw (.crystallize raced clock uuid request)).1
  generalize respond d w (.crystallize raced clock uuid request) = r at hc
  generalize (step d w (.crystallize raced clock uuid request)).tables = db' at hc ⊢
  cases hc with
  | crystallize h =>
    cases h with
    | refused => rfl
    | replayed => rfl
    | opened _ hopens =>
      obtain ⟨existing, hfind⟩ := Option.ne_none_iff_exists'.mp hknown
      have hmem := List.mem_of_find?_eq_some hfind
      have hop : existing.operationId = request.operationId := by
        have hsame := List.find?_some hfind
        simp only [Bool.and_eq_true, decide_eq_true_eq] at hsame
        exact hsame.2
      obtain ⟨e, he, -⟩ := hw.agrees.paired existing hmem
      have hnew := hopens.newEscrow
      rw [hop] at he
      exact absurd (hnew.symm.trans he) (by simp)

/-- The rules of the mesh are never changed. -/
theorem step_crystalMeshRules {w : FinanceWorld} (hw : Sound w) (a : Action) :
    (step d w a).tables.crystalMeshRules = w.tables.crystalMeshRules :=
  step_invariant (I := fun db => db.crystalMeshRules = w.tables.crystalMeshRules)
    (fun _ h hdb => h.registries.crystalMeshRules.trans hdb)
    (fun _ h hdb => h.registries.crystalMeshRules.trans hdb) hw rfl a

/-- The spine is sound and the rule is there. -/
structure MeshReady (child : String) (w : FinanceWorld) : Prop where
  sound : Sound w
  rule : freezeRule child ∈ w.tables.crystalMeshRules

theorem MeshReady.step {w : FinanceWorld} (h : MeshReady child w) (a : Action) :
    MeshReady child (Finance.step d w a) :=
  ⟨step_sound h.sound a, by rw [step_crystalMeshRules h.sound]; exact h.rule⟩

/-- The invariant of a desk whose child stays blocked. -/
structure BlockHeld (child : String) (w : DeskWorld) : Prop where
  ready : MeshReady child w.spine
  blocks : w.desk.controller.state = .frozen →
    (freezeRule child).blocks w.spine.tables.governanceCrystals.rows = true

/-- A halted order leaves the crystals as they are when the desk has a crystal for it. -/
theorem crystallize_known_tables {w : FinanceWorld} (hw : Sound w) {orderId : String}
    {facets : Facets} {ts : List Attempt} (hreachable : ∀ t ∈ ts, Reachable t)
    (hknown : OrderKnown w.tables orderId) :
    (SpineHelpers.crystallize d algofreezeConfig orderId facets ts w).2.tables = w.tables := by
  have hkeeps : Sound (SpineHelpers.crystallize d algofreezeConfig orderId facets ts w).2 ∧
      (SpineHelpers.crystallize d algofreezeConfig orderId facets ts w).2.tables = w.tables := by
    refine requestWithRetry_keeps (I := fun w' => Sound w' ∧ w'.tables = w.tables) ?_ ?_ ⟨hw, rfl⟩
    · intro t ht w' hw'
      rw [(hreachable t ht).alone]
      exact hw'
    · rintro t - w' ⟨hsound, htables⟩
      refine ⟨step_sound hsound _, ?_⟩
      rw [step_crystallize_known hsound (by rw [htables]; exact hknown), htables]
  exact hkeeps.2

/-- An announced freeze puts its crystal before all others. -/
theorem crystallize_announced {w : FinanceWorld} (hw : Sound w) {orderId : String}
    {facets : Facets} {ts : List Attempt} (hfrozen : facets.lookup "freeze_state" = some (.str "FROZEN"))
    (h : Announced w.tables (algofreezeConfig.request orderId facets) ts) :
    (freezeRule child).blocks
      (SpineHelpers.crystallize d algofreezeConfig orderId facets ts w).2.tables.governanceCrystals.rows
      = true := by
  cases ts with
  | nil => cases h
  | cons t ts =>
    obtain ⟨hreachable, haccepts, hlatest⟩ := h
    obtain ⟨policyId, prev, horizon, hopens, hrespond⟩ :=
      crystallize_accepted (d := d) hw haccepts t.raced t.clock
    have hworld : (SpineHelpers.crystallize d algofreezeConfig orderId facets (t :: ts) w).2 =
        step d w (.crystallize t.raced t.clock t.uuid (algofreezeConfig.request orderId facets)) := by
      rw [SpineHelpers.crystallize, spineCrystallize, readReply,
        requestWithRetry_reachable hreachable hrespond]
    rw [hworld]
    generalize hc : sealCrystal d t.clock t.uuid (algofreezeConfig.request orderId facets) policyId
      prev horizon = c at hopens
    have hplatform : c.platform = "algofreeze" := by rw [← hc]; rfl
    have hfacets : c.facets = facets := by rw [← hc]; rfl
    have hat : c.crystallizedAt = t.clock.currentTimestamp := by rw [← hc]; rfl
    have hlast : openParentFacets (step d w (.crystallize t.raced t.clock t.uuid
        (algofreezeConfig.request orderId facets))).tables.governanceCrystals.rows "algofreeze" =
        some facets := by
      change (lastBy CrystalRow.crystallizedAt (List.filter (isOpenOf "algofreeze") _)).map _ = _
      rw [hopens.openOf_eq, if_pos hplatform, lastBy_concat, Option.map_some, hfacets]
      intro x hx
      obtain ⟨hmem, hopen⟩ := List.mem_filter.mp hx
      simp only [isOpenOf, Bool.and_eq_true, decide_eq_true_eq, Option.isNone_iff_eq_none] at hopen
      rw [hat]
      exact hlatest x hmem hopen.1 hopen.2
    simp [MeshRule.blocks, freezeRule, hlast, hfrozen]

theorem Desk.haltedFacets_state (desk : Desk) (runtimeSha : String) (now : Int) (state : String) :
    (desk.haltedFacets runtimeSha now state).lookup "freeze_state" = some (.str state) := by
  simp [Desk.haltedFacets, Desk.baseFacets, List.lookup]

theorem FreezeController.degrade_frozen {c : FreezeController} {reason : String}
    (h : (c.degrade reason).state = .frozen) : c.state = .frozen := by
  by_contra hne
  simp [FreezeController.degrade, hne] at h

theorem submitOrder_blockHeld {w : DeskWorld} (h : BlockHeld child w) {call : OrderCall}
    (hcond : KeepsBlock d child w (.submitOrder call)) :
    BlockHeld child (submitOrder d read call w).2 := by
  obtain ⟨hreachable, hcond⟩ := hcond
  have hready : ∀ config operationId facets, MeshReady child
      (SpineHelpers.crystallize d config operationId facets call.crystallize w.spine).2 :=
    SpineHelpers.crystallize_keeps (fun _ a hw => hw.step a) h.ready
  have hsame : ∀ facets, OrderKnown w.spine.tables call.body.orderId →
      (SpineHelpers.crystallize d algofreezeConfig call.body.orderId facets call.crystallize
        w.spine).2.tables = w.spine.tables :=
    fun _ => crystallize_known_tables h.ready.sound hreachable
  by_cases hversion : call.body.runtimeSha = w.desk.approvedSha
  · rw [if_neg (not_not.mpr hversion)] at hcond
    by_cases hdegraded : w.desk.feed.isDegraded call.checkedAt = true
    · rw [submitOrder_degraded hversion hdegraded]
      refine ⟨hready _ _ _, fun hfrozen => ?_⟩
      have hbefore := FreezeController.degrade_frozen hfrozen
      have hblocks := h.blocks hbefore
      rw [← hsame _ (hcond hdegraded hbefore)] at hblocks
      exact hblocks
    · by_cases hgate : w.desk.controller.allowsEgress = true
      · rw [submitOrder_routed hversion hdegraded hgate]
        refine ⟨SpineHelpers.crystallizeAndCommit_keeps (fun _ a hw => hw.step a) h.ready _ _ _ _ _,
          fun hfrozen => ?_⟩
        have hactive : w.desk.controller.state = .active := of_decide_eq_true hgate
        exact absurd (hactive.symm.trans hfrozen) (by simp)
      · rw [submitOrder_blocked hversion hdegraded hgate]
        exact ⟨h.ready, h.blocks⟩
  · rw [if_pos hversion] at hcond
    rw [submitOrder_mismatch hversion]
    refine ⟨hready _ _ _, fun _ => ?_⟩
    rcases hcond with hannounced | ⟨hfrozen, hknown⟩
    · exact crystallize_announced h.ready.sound (Desk.haltedFacets_state _ _ _ _) hannounced
    · have hblocks := h.blocks hfrozen
      rw [← hsame _ hknown] at hblocks
      exact hblocks

/-- One call keeps the invariant under its condition. -/
theorem deskStep_blockHeld {w : DeskWorld} {a : DeskAction} (hcond : KeepsBlock d child w a)
    (h : BlockHeld child w) : BlockHeld child (deskStep d read w a) := by
  cases a with
  | submitOrder call => exact submitOrder_blockHeld h hcond
  | feedPacket now =>
    refine ⟨h.ready, fun hfrozen => h.blocks ?_⟩
    simp only [deskStep, feedPacket] at hfrozen
    split_ifs at hfrozen
    · cases hfrozen
    · exact hfrozen
  | setApprovedVersion approvedSha => exact ⟨h.ready, h.blocks⟩
  | spine a =>
    refine ⟨h.ready.step a, fun hfrozen => ?_⟩
    obtain ⟨hother, hkept⟩ := hcond hfrozen
    exact step_blocks h.ready.sound hother hkept

end Steps

/-- In every run of the desk's calls and the spine's transactions whose steps keep a frozen crystal
the newest open one of the frozen desk, the child is blocked for as long as the desk is frozen. -/
theorem run_childBlocked {d : Deployment} {read : DecimalReader} {child : String} {w : DeskWorld}
    (hdesk : w.desk.controller = .init) (hspine : NoCrystals w.spine)
    (hrule : freezeRule child ∈ w.spine.tables.crystalMeshRules) {actions : List DeskAction}
    (h : Along (deskStep d read) (KeepsBlock d child) w actions) :
    Throughout (deskStep d read) (ChildBlocked d child) w actions := by
  have hinit : BlockHeld child w := by
    refine ⟨⟨hspine.sound, hrule⟩, fun hfrozen => ?_⟩
    rw [hdesk] at hfrozen
    cases hfrozen
  have hheld := throughout_of_along hinit (fun _ _ hcond hw => deskStep_blockHeld hcond hw) h
  exact hheld.imp fun w hw => childBlocked_of_blocks hw.ready.rule hw.blocks

/-! ## A frozen desk and a sweep -/

/-- The policy of the migrations for algorithmic orders. -/
def algoCriticalUs : InstrumentPolicy where
  policyId := "algo-critical-us"
  riskClassification := "critical"
  maxExposurePerCommit := 1000000000 * 1000000000000
  commitHorizonMs := 5000
  allowAutoExpire := false
  enabled := true

/-- A started desk beside the sample's spine, which has the rule for wires. -/
def freezeWorld : DeskWorld where
  desk := .start 0
  spine := ⟨{ sampleWorld.tables with
    instrumentPolicyRegistry := Table.empty.put algoCriticalUs }, ⟨0⟩⟩

/-- The spine answers at once. -/
def promptAttempt (seconds : Int) : Attempt where
  meanwhile := []
  delivery := .answered
  halted := false
  settings := .default
  clock := sampleClock seconds
  uuid := sampleUuid
  raced := false

/-- An order with an unapproved version. -/
def rogueOrder : OrderCall where
  body := ⟨"ord-1", "rogue-sha", "0"⟩
  checkedAt := 0
  sealedAt := 0
  crystallize := [promptAttempt 0]
  commit := []

/-- The facets that announce the freeze. -/
def rogueFacets : Facets := freezeWorld.desk.haltedFacets "rogue-sha" 0 "FROZEN"

def rogueFingerprint : Ledger.Hash :=
  ⟨"8d12ab109068f0ee4bf1b1e4ee739bc56937708a9507325e022c30add330df1c", by decide +kernel⟩

def rogueCreated : Ledger.Hash :=
  ⟨"4d6172a1ee3330142bf5238e1b995fe6e5d3d7b2257692e1c88b4d8b3a2174fc", by decide +kernel⟩

/-- The texts that are hashed when the order is crystallized and swept, with their SHA-256
digests. -/
def rogueDigests : List (String × Ledger.Hash) :=
  [(fingerprintPayload "algofreeze" "ord-1" rogueFacets, rogueFingerprint),
    (crystalPayload sampleCrystalId "algofreeze" "ord-1" "critical" rogueFacets rogueFingerprint
      none, ⟨"530626c872ca56fb7b90d8697e8253b7305668c67b0f715d23c1582b7dbba49d", by
        decide +kernel⟩),
    (decisionPayload 1 "ord-1" (some sampleCrystalId) "desk-default" "CRYSTAL_CREATED" "0E-12"
      [("platform", .str "algofreeze"), ("risk_tier", .str "critical")] Ledger.genesisHash
      "2026-01-01 00:00:00+00", rogueCreated),
    (decisionPayload 2 "ord-1" (some sampleCrystalId) "desk-default" "STRANDED_HOLD" "0E-12"
      [("reason", .str "horizon_sweep")] rogueCreated "2026-01-01 00:00:06+00",
      ⟨"ffb2bdd8164b7e23681d3bb9a2d7ad7383c119e34511fa7cd84203bbd7925207", by decide +kernel⟩)]

def rogueDeployment : Deployment := .ofDigests rogueDigests fun t =>
  if t = sampleStart then "2026-01-01 00:00:00+00" else "2026-01-01 00:00:06+00"

/-- The sidecar reads the one amount of the order. -/
def readZero : DecimalReader := fun text => if text = "0" then some ⟨0, 0⟩ else none

theorem rogue_announced : Announced freezeWorld.spine.tables
    (algofreezeConfig.request "ord-1" rogueFacets) rogueOrder.crystallize := by
  refine ⟨⟨rfl, rfl, rfl⟩, ⟨?_, ?_, by decide +kernel, rfl, rfl, rfl⟩, ?_⟩
  · rintro registry ⟨⟩
  · exact ⟨"algo-critical-us", algoCriticalUs, rfl, by decide, rfl, rfl, by decide +kernel⟩
  · intro c hc
    cases hc

theorem run_childBlocked_sample :
    Throughout (deskStep rogueDeployment readZero) (ChildBlocked rogueDeployment "wire_match")
      freezeWorld [.submitOrder rogueOrder] := by
  refine run_childBlocked rfl ⟨rfl, rfl, rfl⟩ List.mem_cons_self ⟨⟨?_, ?_⟩, trivial⟩
  · intro t ht
    rw [List.mem_singleton.mp ht]
    exact ⟨rfl, rfl, rfl⟩
  · rw [if_pos (by decide)]
    exact Or.inl rogue_announced

/-- Six seconds later the sweep has stranded the crystal of the freeze, and wires are no longer
blocked although the desk is frozen. -/
theorem swept_freeze_unblocks :
    ¬ Throughout (deskStep rogueDeployment readZero) (ChildBlocked rogueDeployment "wire_match")
      freezeWorld [.submitOrder rogueOrder,
        .spine (.sweep (sampleClock 6) ⟨fun _ => false, fun _ => 0⟩ 100)] := by
  intro h
  have hblocked := h.last
  have hfrozen : ([DeskAction.submitOrder rogueOrder,
      .spine (.sweep (sampleClock 6) ⟨fun _ => false, fun _ => 0⟩ 100)].foldl
      (deskStep rogueDeployment readZero) freezeWorld).desk.controller.state = .frozen := by
    decide +kernel
  have hnone : meshBlockReason ([DeskAction.submitOrder rogueOrder,
      .spine (.sweep (sampleClock 6) ⟨fun _ => false, fun _ => 0⟩ 100)].foldl
      (deskStep rogueDeployment readZero) freezeWorld).spine.tables "wire_match" = none := by
    decide +kernel
  exact (hblocked hfrozen).1 hnone

end Governor.Finance
