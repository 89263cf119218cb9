import Mathlib
import Governor.Finance.DecisionChain
import Governor.Sector.Chain

/-!
# Anchors of the decision chain

`anchor_verified_decision_head` stores the head of a verification that accepts the events. An anchor
outlives the table of events: whatever the table becomes, a verification that accepts it and finds
the anchored hash in it has read the same events up to that hash.
-/

namespace Governor.Finance

open ChainScan
open Sector (same_nullable amountText_injective)
open Ledger (Money genesisHash decimalStr)

/-! ## Anchoring -/

/-- A row of `decision_chain_anchors`. -/
structure Anchor where
  headHash : String
  sealedCount : Int
  totalEvents : Int
  source : String
  deriving DecidableEq, Repr

/-- The anchor of a result: a valid one with a hash; any other raises or is not anchored. -/
def DecisionChainVerificationResult.anchor (r : DecisionChainVerificationResult)
    (source : String) : Option Anchor :=
  if r.valid then
    (r.headHash.filter (· ≠ "")).map fun h => ⟨h, r.sealedCount, r.totalEvents, source⟩
  else none

/-- `INSERT INTO decision_chain_anchors … ON CONFLICT (head_hash) DO NOTHING`. -/
def insertAnchor (a : Anchor) (anchors : List Anchor) : List Anchor :=
  if anchors.any fun x => x.headHash = a.headHash then anchors else anchors ++ [a]

/-- The spine with its verifications and the table of anchors. -/
structure AnchoredSpine where
  verified : Verified FinanceWorld String
  anchors : List Anchor

/-- A step of the spine or of a verification, or the end of an anchoring. -/
inductive AnchoredAction where
  | step (a : VerifiedAction Action)
  /-- `anchor_verified_decision_head`, once its verification has ended. -/
  | anchor (i : Nat) (source : String)

/-- The anchor that the end of an anchoring stores. -/
def AnchoredSpine.result (w : AnchoredSpine) (i : Nat) (source : String) : Option Anchor :=
  match w.verified.verifications[i]? with
  | some ⟨_, _, .ended verdict⟩ => (DecisionChainVerificationResult.of verdict).anchor source
  | _ => none

/-- One step. -/
def anchoredStep (d : Deployment) (loads : String → Option Json) (w : AnchoredSpine) :
    AnchoredAction → AnchoredSpine
  | .step a => { w with verified := verifiedStep d loads w.verified a }
  | .anchor i source =>
    match w.result i source with
    | none => w
    | some a => { w with anchors := insertAnchor a w.anchors }

/-! ## What a hash pins -/

/-- The columns that the hash covers agree, as verification reads them. -/
structure SameDecision (loads : String → Option Json) (r r' : DecisionRow) : Prop where
  eventId : r.eventId = r'.eventId
  operationId : r.operationId = r'.operationId
  crystalId : r.crystalId = r'.crystalId
  accountId : r.accountId = r'.accountId
  eventType : r.eventType = r'.eventType
  exposureDelta : r.exposureDelta.map quantizeMoney = r'.exposureDelta.map quantizeMoney
  metadata : Json.Same (normalizedMetadata loads r.metadata) (normalizedMetadata loads r'.metadata)
  prevHash : r.prevOrGenesis = r'.prevOrGenesis
  recordedAt : r.recordedAt = r'.recordedAt

section Pins

variable {d : Deployment} {loads : String → Option Json} {r r' : DecisionRow}
  {rows rows' : List DecisionRow}

/-- The text that verification hashes determines every column in it. -/
theorem sameDecision_of_payload_eq (h : r.payload loads = r'.payload loads) :
    SameDecision loads r r' := by
  have hsame := (Json.dumps_eq_iff _ _ _).mp h
  have hvalue := fun k v w => hsame.value (by simp) (k := k) (v := v) (w := w)
  refine ⟨?_, ?_, ?_, ?_, ?_, ?_, ?_, ?_, ?_⟩
  · exact Json.same_int.mp
      (hvalue "event_id" (.int r.eventId) (.int r'.eventId) (by simp) (by simp))
  · exact Json.same_str.mp
      (hvalue "operation_id" (.str r.operationId) (.str r'.operationId) (by simp) (by simp))
  · exact same_nullable.mp (hvalue "crystal_id" (r.crystalId.elim .null .str)
      (r'.crystalId.elim .null .str) (by simp) (by simp))
  · exact Json.same_str.mp
      (hvalue "account_id" (.str r.accountId) (.str r'.accountId) (by simp) (by simp))
  · exact Json.same_str.mp
      (hvalue "event_type" (.str r.eventType) (.str r'.eventType) (by simp) (by simp))
  · exact amountText_injective (Json.same_str.mp (hvalue "exposure_delta"
      (.str ((r.exposureDelta.map quantizeMoney).elim "NaN" decimalStr))
      (.str ((r'.exposureDelta.map quantizeMoney).elim "NaN" decimalStr)) (by simp) (by simp)))
  · exact hvalue "metadata" (normalizedMetadata loads r.metadata)
      (normalizedMetadata loads r'.metadata) (by simp) (by simp)
  · exact Json.same_str.mp
      (hvalue "prev_hash" (.str r.prevOrGenesis) (.str r'.prevOrGenesis) (by simp) (by simp))
  · exact Json.same_str.mp
      (hvalue "recorded_at" (.str r.recordedAt) (.str r'.recordedAt) (by simp) (by simp))

/-- The texts that verification hashes. -/
def decisionTexts (loads : String → Option Json) (rows : List DecisionRow) : Set String :=
  { text | ∃ r ∈ rows, text = r.payload loads }

/-- Two chains that end with one hash have the same rows. -/
theorem sameDecisions_of_tip_eq (hsha : ∀ p, d.sha256 p ≠ genesisHash)
    (hinj : Set.InjOn d.sha256 (decisionTexts loads rows ∪ decisionTexts loads rows'))
    (hl : (decisionVerifier d loads).Linked genesisHash.val rows)
    (hl' : (decisionVerifier d loads).Linked genesisHash.val rows')
    (htip : (decisionVerifier d loads).tip genesisHash.val rows =
      (decisionVerifier d loads).tip genesisHash.val rows') :
    List.Forall₂ (SameDecision loads) rows rows' := by
  have hgenesis : ∀ r, (decisionVerifier d loads).digest r ≠ genesisHash.val :=
    fun r he => hsha _ (Subtype.ext he)
  refine Sealing.forall₂_of_tip_eq _ hl hl' htip ?_ (fun x _ => hgenesis x) fun y _ => hgenesis y
  intro x hx y hy he
  have hsame := sameDecision_of_payload_eq
    (hinj (Or.inl ⟨x, hx, rfl⟩) (Or.inr ⟨y, hy, rfl⟩) (Subtype.ext he))
  exact ⟨hsame, hsame.prevHash⟩

end Pins

/-- Every table that verification accepts and that has the hash in it has the given rows up to the
hash, unless SHA-256 collides on the texts that verification hashes. -/
def Pinned (d : Deployment) (loads : String → Option Json) (rows : List DecisionRow)
    (hash : String) : Prop :=
  ∀ rows' : List DecisionRow, ((decisionVerifier d loads).full rows').valid = true →
    Set.InjOn d.sha256 (decisionTexts loads rows ∪ decisionTexts loads rows') →
    ∀ before r after, rows' = before ++ r :: after → r.rowHash = some hash →
      List.Forall₂ (SameDecision loads) rows (before ++ [r])

/-- The anchor names the last of the first events, and pins them. -/
def Anchor.Pins (d : Deployment) (loads : String → Option Json) (events : List DecisionEvent)
    (a : Anchor) : Prop :=
  ∃ accepted last, accepted ++ [last] <+: events ∧ a.headHash = last.rowHash.val ∧
    a.sealedCount = accepted.length + 1 ∧ a.totalEvents ≤ a.sealedCount ∧
    Pinned d loads ((accepted ++ [last]).map (storedDecision d)) a.headHash

/-- The anchors of a spine pin its events, each with a hash of its own. -/
structure AnchorsPin (d : Deployment) (loads : String → Option Json) (w : AnchoredSpine) : Prop where
  distinct : (w.anchors.map Anchor.headHash).Nodup
  pins : ∀ a ∈ w.anchors, a.Pins d loads w.verified.base.tables.decisionEvents.rows

section Runs

variable {d : Deployment} {loads : String → Option Json} {events : List DecisionEvent}

/-- A prefix of a chain is pinned by its last hash. -/
theorem pinned_of_linked (hsha : ∀ p, d.sha256 p ≠ genesisHash) {rows : List DecisionRow}
    {last : DecisionRow} {hash : String}
    (hl : (decisionVerifier d loads).Linked genesisHash.val (rows ++ [last]))
    (hlast : last.rowHash = some hash) : Pinned d loads (rows ++ [last]) hash := by
  rintro rows' hvalid hinj before r after rfl hr
  obtain ⟨hl', -⟩ := Verifier.linked_of_full_valid hvalid
  have hsplit : before ++ r :: after = (before ++ [r]) ++ after := by simp
  rw [hsplit, Sealing.linked_append] at hl'
  refine sameDecisions_of_tip_eq hsha (hinj.mono ?_) hl hl'.1 ?_
  · refine Set.union_subset_union_right _ ?_
    rintro text ⟨x, hx, htext⟩
    exact ⟨x, by rw [hsplit]; exact List.mem_append_left _ hx, htext⟩
  · have hhash : ∀ {xs : List DecisionRow} {x : DecisionRow}, x.rowHash = some hash →
        (decisionVerifier d loads).Linked genesisHash.val (xs ++ [x]) →
        (decisionVerifier d loads).tip genesisHash.val (xs ++ [x]) = hash := by
      intro xs x hx hxs
      rw [Sealing.tip_concat]
      have hdigest := hxs.hash_eq x (by simp)
      exact Option.some.inj (hdigest.symm.trans hx)
    rw [hhash hlast hl, hhash hr hl'.1]

theorem Anchor.Pins.mono {a : Anchor} {events' : List DecisionEvent} (h : a.Pins d loads events)
    (hp : events <+: events') : a.Pins d loads events' := by
  obtain ⟨accepted, last, hprefix, hrest⟩ := h
  exact ⟨accepted, last, hprefix.trans hp, hrest⟩

/-- The result of a verification is anchored at the last event that it accepts. -/
theorem VerifiedLog.anchor_pins {w : Verified FinanceWorld String} (h : VerifiedLog d loads w)
    (hsha : ∀ p, d.sha256 p ≠ genesisHash) {v : Verification String} (hv : v ∈ w.verifications)
    {verdict : Verdict String} (hended : v.stage = .ended verdict) {source : String} {a : Anchor}
    (ha : (DecisionChainVerificationResult.of verdict).anchor source = some a) :
    a.Pins d loads w.base.tables.decisionEvents.rows := by
  obtain ⟨accepted, hprefix, -, htotal, hresult⟩ := h.noFalseAlarm v hv verdict hended
  rw [hresult] at ha
  simp only [DecisionChainVerificationResult.anchor, if_true] at ha
  obtain ⟨hash, hhash, rfl⟩ := Option.map_eq_some_iff.mp ha
  have hhead := Option.eq_some_of_filter_eq_some hhash
  cases accepted using List.reverseRecOn with
  | nil => cases hhead
  | append_singleton accepted last =>
    rw [List.getLast?_concat] at hhead
    obtain rfl := Option.some.inj hhead
    rw [List.length_append, List.length_singleton] at htotal ⊢
    refine ⟨accepted, last, hprefix, rfl, by push_cast; rfl, htotal, ?_⟩
    obtain ⟨rest, hrest⟩ := hprefix
    have hl := h.log.log.linked
    rw [← hrest, List.map_append, Sealing.linked_append] at hl
    rw [List.map_append, List.map_singleton] at hl ⊢
    exact pinned_of_linked hsha hl.1 rfl

theorem nodup_insertAnchor {a : Anchor} {anchors : List Anchor}
    (h : (anchors.map Anchor.headHash).Nodup) :
    ((insertAnchor a anchors).map Anchor.headHash).Nodup := by
  unfold insertAnchor
  split_ifs with hany
  · exact h
  · rw [List.map_append, List.map_singleton]
    refine h.append (List.nodup_singleton _) (List.disjoint_singleton.mpr fun hmem => hany ?_)
    obtain ⟨x, hx, heq⟩ := List.mem_map.mp hmem
    exact List.any_eq_true.mpr ⟨x, hx, decide_eq_true heq⟩

theorem mem_insertAnchor {a x : Anchor} {anchors : List Anchor} (h : x ∈ insertAnchor a anchors) :
    x ∈ anchors ∨ x = a := by
  unfold insertAnchor at h
  split_ifs at h
  · exact Or.inl h
  · exact (List.mem_append.mp h).imp_right List.mem_singleton.mp

/-- Every step keeps the chain, the verifications and what the anchors pin. -/
theorem anchoredStep_keeps {w : AnchoredSpine} (hsha : ∀ p, d.sha256 p ≠ genesisHash)
    (h : VerifiedLog d loads w.verified ∧ AnchorsPin d loads w) (a : AnchoredAction) :
    VerifiedLog d loads (anchoredStep d loads w a).verified ∧
      AnchorsPin d loads (anchoredStep d loads w a) := by
  obtain ⟨hlog, hdistinct, hpins⟩ := h
  cases a with
  | step a =>
    refine ⟨hlog.step hsha a, hdistinct, fun x hx => (hpins x hx).mono ?_⟩
    cases a with
    | act a => exact (DecisionLog.step { hlog.log with grows := List.prefix_rfl } hsha a).grows
    | verify incremental => exact List.prefix_rfl
    | read i =>
      have hbase : (verifiedStep d loads w.verified (.read i)).base = w.verified.base := by
        simp only [verifiedStep, Verified.step]
        cases w.verified.verifications[i]? <;> rfl
      change _ <+: (verifiedStep d loads w.verified (.read i)).base.tables.decisionEvents.rows
      rw [hbase]
  | anchor i source =>
    cases hresult : w.result i source with
    | none =>
      simp only [anchoredStep, hresult]
      exact ⟨hlog, hdistinct, hpins⟩
    | some x =>
      simp only [anchoredStep, hresult]
      refine ⟨hlog, nodup_insertAnchor hdistinct, fun y hy => ?_⟩
      rcases mem_insertAnchor hy with hy | rfl
      · exact hpins y hy
      · unfold AnchoredSpine.result at hresult
        split at hresult
        · next hv => exact hlog.anchor_pins hsha (List.mem_of_getElem? hv) rfl hresult
        · cases hresult

end Runs

/-- In every interleaving of the transactions of the spine, of verifications and of anchorings,
every anchor pins the events up to the one that it names. -/
theorem run_anchorsPin (d : Deployment) (loads : String → Option Json)
    (hsha : ∀ p, d.sha256 p ≠ genesisHash) {w : FinanceWorld}
    (hempty : w.tables.decisionEvents.rows = []) (hids : 0 ≤ w.outside.lastEventId)
    (actions : List AnchoredAction) :
    Throughout (anchoredStep d loads) (AnchorsPin d loads) ⟨⟨w, none, []⟩, []⟩ actions := by
  have hstart : VerifiedLog d loads ⟨w, none, []⟩ := .start hempty hids
  have hall : Throughout (anchoredStep d loads)
      (fun v => VerifiedLog d loads v.verified ∧ AnchorsPin d loads v)
      ⟨⟨w, none, []⟩, []⟩ actions :=
    throughout_of_kept ⟨hstart, List.nodup_nil, fun _ h => (List.not_mem_nil h).elim⟩
      (fun v a h => anchoredStep_keeps hsha h a) actions
  exact hall.imp fun _ h => h.2

/-- The sample's events are verified and anchored. -/
def anchoredSample : List AnchoredAction :=
  verifiedSample.map .step ++ [.anchor 0 "api"]

theorem run_anchorsPin_sample :
    AnchorsPin sampleDeployment (fun _ => none)
      (anchoredSample.foldl (anchoredStep sampleDeployment fun _ => none)
        ⟨⟨sampleWorld, none, []⟩, []⟩) :=
  (run_anchorsPin sampleDeployment (fun _ => none) sampleDeployment_ne_genesis
    (w := sampleWorld) rfl (by decide) anchoredSample).last

end Governor.Finance
