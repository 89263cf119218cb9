import Mathlib
import Governor.Chain.Tamper

/-!
# What a checkpoint protects

Between two verifications anything may happen to the table. The incremental path
trusts the checkpoint for the rows up to its id, and should therefore accept only a
table in which the checkpoint's row still carries the checkpoint's hash. It compares
hashes in the head-and-count shortcut only: the tail scan starts from whatever hash the
row carries now, and starts over when the row is gone. The exact condition under which
an accepted table is as the checkpoint promises follows the three paths.
-/

namespace Governor.Chain

open Ledger

variable {d : Deployment} {schema : ChainSchema} {t : EventTable} {c : VerifyCheckpoint}
  {head g : Hash} {anchor : LedgerEvent}

/-! ## The tail scan behind a checkpoint -/

theorem verifyIncremental_hit (hhit : checkpointHit t c head = true) :
    verifyIncremental d t c head =
      some (⟨true, c.sealedCount, 0, t.rows.length, some head, none, true⟩, none) := by
  rw [verifyIncremental, if_pos hhit]

/-- Past the shortcut, rows that chain from the anchor's own hash are accepted. -/
theorem verifyIncremental_anchored (hhit : checkpointHit t c head = false)
    (hpos : 0 < c.lastVerifiedEventId) (hfind : t.find? c.lastVerifiedEventId = some anchor)
    (hhash : anchor.rowHash = some g)
    (hl : (ledgerSealing d).Linked g (rowsAfter t c.lastVerifiedEventId)) :
    ∃ out, verifyIncremental d t c head = some out ∧
      out.1.sealedCount = c.sealedCount + (rowsAfter t c.lastVerifiedEventId).length ∧
      out.1.totalEvents = t.rows.length := by
  have hstate : verifyLedgerRows d t c.lastVerifiedEventId c.sealedCount =
      anchoredState d c.lastVerifiedEventId c.sealedCount g (rowsAfter t c.lastVerifiedEventId) :=
    verifyLedgerRows_anchored hpos hfind hhash hl
  rw [verifyIncremental, if_neg (by simp [hhit]), hstate]
  exact ⟨_, rfl, rfl, rfl⟩

/-- Past the shortcut, a chain from the genesis hash is accepted without its anchor. -/
theorem verifyIncremental_missing (hhit : checkpointHit t c head = false)
    (hpos : 0 < c.lastVerifiedEventId) (hfind : t.find? c.lastVerifiedEventId = none)
    (hne : orderBy LedgerEvent.eventId t.rows ≠ [])
    (hl : (ledgerSealing d).Linked genesisHash (orderBy LedgerEvent.eventId t.rows)) :
    ∃ out, verifyIncremental d t c head = some out := by
  have hstate := verifyLedgerRows_linked hl
  rw [verifyIncremental, if_neg (by simp [hhit]), verifyLedgerRows_missing hpos hfind, hstate]
  simp only [linkedState, if_neg hne]
  exact ⟨_, rfl⟩

/-- What the tail scan accepted, by whether the anchor is there. -/
theorem linked_of_verifyIncremental
    {out : LedgerChainVerificationResult × Option VerifyCheckpoint}
    (hhit : checkpointHit t c head = false) (hpos : 0 < c.lastVerifiedEventId)
    (hout : verifyIncremental d t c head = some out) :
    (t.find? c.lastVerifiedEventId = none ∧
      (ledgerSealing d).Linked genesisHash (orderBy LedgerEvent.eventId t.rows)) ∨
    ∃ anchor g, t.find? c.lastVerifiedEventId = some anchor ∧ anchor.rowHash = some g ∧
      (ledgerSealing d).Linked g (rowsAfter t c.lastVerifiedEventId) := by
  rw [verifyIncremental, if_neg (by simp [hhit])] at hout
  simp only at hout
  split_ifs at hout with htail
  obtain ⟨head', hhead', -⟩ := Option.map_eq_some_iff.mp hout
  rw [Bool.and_eq_true] at htail
  cases hfind : t.find? c.lastVerifiedEventId with
  | none =>
    rw [verifyLedgerRows_missing hpos hfind] at htail
    exact Or.inl ⟨rfl, (verifyLedgerRows_valid_iff t).mp htail.1⟩
  | some anchor =>
    obtain ⟨g, hg, hl⟩ := linked_of_anchored_valid hpos hfind htail.1 (by simp [hhead'])
    exact Or.inr ⟨anchor, g, rfl, hg, hl⟩

theorem verifyIncremental_flags
    {out : LedgerChainVerificationResult × Option VerifyCheckpoint}
    (hout : verifyIncremental d t c head = some out) :
    out.1.valid = true ∧ out.1.incremental = true := by
  rw [verifyIncremental] at hout
  split_ifs at hout with hhit
  · cases hout
    exact ⟨rfl, rfl⟩
  · simp only at hout
    split_ifs at hout
    obtain ⟨head', -, rfl⟩ := Option.map_eq_some_iff.mp hout
    exact ⟨rfl, rfl⟩

/-- A table of rows that carry their digests has a head, which is the digest of a row. -/
theorem exists_headHash (hsha : ∀ p, d.sha256 p ≠ genesisHash) (hne : t.rows ≠ [])
    (hsealed : ∀ r ∈ t.rows, r.rowHash = some ((ledgerSealing d).digest r)) :
    ∃ r ∈ t.rows, headHash t = some ((ledgerSealing d).digest r) := by
  have hall : (t.rows.filter fun r => r.rowHash ≠ none ∧ r.rowHash ≠ some genesisHash) =
      t.rows := by
    rw [List.filter_eq_self]
    intro r hr
    rw [hsealed r hr, decide_eq_true_eq]
    exact ⟨by simp, fun he => hsha _ (Option.some.inj he)⟩
  obtain ⟨r, hr⟩ := Option.ne_none_iff_exists'.mp
    (lastBy_ne_none (f := LedgerEvent.eventId) hne)
  refine ⟨r, lastBy_mem hr, ?_⟩
  rw [headHash, hall, hr, Option.bind_some]
  exact hsealed r (lastBy_mem hr)

/-- Once the incremental path returns, the verification is valid. -/
theorem verifyLedgerChain_of_incremental
    {out : LedgerChainVerificationResult × Option VerifyCheckpoint}
    (hseal : schema.supportsSeal = true) (hcheckpoints : schema.supportsCheckpoints = true)
    (hne : t.rows ≠ []) (hhead : headHash t = some head)
    (hout : verifyIncremental d t c head = some out) :
    verifyLedgerChain d schema t (some c) true = out := by
  simp [verifyLedgerChain, hseal, hcheckpoints, hne, hhead, hout]

/-- When the incremental path does not return, the full scan decides. -/
theorem verifyLedgerChain_of_no_incremental
    (hseal : schema.supportsSeal = true) (hcheckpoints : schema.supportsCheckpoints = true)
    (hne : t.rows ≠ []) (hhead : headHash t = some head)
    (hnone : verifyIncremental d t c head = none) :
    verifyLedgerChain d schema t (some c) true = verifyFull d t true := by
  simp [verifyLedgerChain, hseal, hcheckpoints, hne, hhead, hnone]

/-! ## Saved checkpoints -/

theorem lastIdOr_mem {rows : List LedgerEvent} (fromEventId : Int) (hne : rows ≠ []) :
    ∃ r ∈ rows, lastIdOr fromEventId rows = r.eventId := by
  cases rows using List.reverseRecOn with
  | nil => exact absurd rfl hne
  | append_singleton rows r => exact ⟨r, by simp, by simp [lastIdOr]⟩

/-- A scan with a head ends at an id that the sequence has given out. -/
theorem lastEventId_pos {fromEventId priorSealed : Int}
    (hids : ∀ r ∈ t.rows, 0 < r.eventId)
    (hvalid : (verifyLedgerRows d t fromEventId priorSealed).valid = true)
    (hhead : (verifyLedgerRows d t fromEventId priorSealed).headHash ≠ none) :
    0 < (verifyLedgerRows d t fromEventId priorSealed).lastEventId := by
  -- from the genesis hash there is a head only if there is a row
  have hscan : ∀ f k, (scanFrom d f k (some genesisHash) (orderBy LedgerEvent.eventId t.rows)).valid
      = true → (scanFrom d f k (some genesisHash)
        (orderBy LedgerEvent.eventId t.rows)).headHash ≠ none →
      0 < (scanFrom d f k (some genesisHash)
        (orderBy LedgerEvent.eventId t.rows)).lastEventId := by
    intro f k hv hh
    rw [scanFrom_linked (scanFrom_valid_iff.mp hv)] at hh ⊢
    have hne : orderBy LedgerEvent.eventId t.rows ≠ [] := by
      intro he
      rw [he] at hh
      simp [linkedState] at hh
    obtain ⟨r, hr, hid⟩ := lastIdOr_mem f hne
    have hpos := hids r ((List.mem_insertionSort _).mp hr)
    rw [← hid] at hpos
    exact hpos
  by_cases hpos : 0 < fromEventId
  · cases hfind : t.find? fromEventId with
    | none =>
      rw [verifyLedgerRows_missing hpos hfind, verifyLedgerRows, if_neg (lt_irrefl 0)]
        at hvalid hhead ⊢
      exact hscan 0 0 hvalid hhead
    | some anchor =>
      obtain ⟨g, hg, hl⟩ := linked_of_anchored_valid hpos hfind hvalid hhead
      rw [verifyLedgerRows_anchored hpos hfind hg hl, anchoredState]
      by_cases hne : rowsAfter t fromEventId = []
      · rw [hne]
        exact hpos
      · obtain ⟨r, hr, hid⟩ := lastIdOr_mem fromEventId hne
        rw [hid]
        exact hids r (List.mem_filter.mp ((List.mem_insertionSort _).mp hr)).1
  · rw [verifyLedgerRows, if_neg hpos] at hvalid hhead ⊢
    exact hscan fromEventId priorSealed hvalid hhead

/-- A checkpoint is saved by a valid scan with a head, where the schema allows it. -/
theorem saved_spec {t₀ : EventTable} {c₀ : Option VerifyCheckpoint}
    (hids : ∀ r ∈ t₀.rows, 0 < r.eventId)
    (hsaved : (verifyLedgerChain d schema t₀ c₀ true).2 = some c) :
    schema.supportsSeal = true ∧ schema.supportsCheckpoints = true ∧
      0 < c.lastVerifiedEventId := by
  have hfull : (verifyFull d t₀ true).2 = some c → 0 < c.lastVerifiedEventId := by
    intro hc
    simp only [verifyFull] at hc
    split_ifs at hc with hvalid
    obtain ⟨head, hhead, rfl⟩ := Option.map_eq_some_iff.mp hc
    simp only [Bool.and_eq_true] at hvalid
    exact lastEventId_pos hids hvalid.1.1 (by simp [hhead])
  have htail : ∀ c' head out, verifyIncremental d t₀ c' head = some out → out.2 = some c →
      0 < c.lastVerifiedEventId := by
    intro c' head out hout hc
    rw [verifyIncremental] at hout
    split_ifs at hout with hhit
    · cases hout
      cases hc
    · simp only at hout
      split_ifs at hout with hvalid
      obtain ⟨head', hhead', rfl⟩ := Option.map_eq_some_iff.mp hout
      rw [Bool.and_eq_true] at hvalid
      cases hc
      exact lastEventId_pos hids hvalid.1 (by simp [hhead'])
  simp only [verifyLedgerChain, Bool.true_and] at hsaved
  split_ifs at hsaved with hseal hempty hcheckpoints
  · refine ⟨by simpa using hseal, hcheckpoints, ?_⟩
    cases hpath : c₀.bind fun c => (headHash t₀).bind (verifyIncremental d t₀ c) with
    | none =>
      rw [hpath] at hsaved
      exact hfull hsaved
    | some out =>
      rw [hpath] at hsaved
      obtain ⟨c', -, hout⟩ := Option.bind_eq_some_iff.mp hpath
      obtain ⟨head, -, hout⟩ := Option.bind_eq_some_iff.mp hout
      exact htail c' head out hout hsaved
  · simp [verifyFull] at hsaved

/-! ## Soundness of the incremental path -/

/-- What the checkpoint promises of an accepted table: its row carries its hash, the later
rows chain from that hash, and every row was counted. -/
structure Promised (d : Deployment) (t : EventTable) (c : VerifyCheckpoint)
    (result : LedgerChainVerificationResult) : Prop where
  anchor : ∃ r, t.find? c.lastVerifiedEventId = some r ∧ r.rowHash = some c.verifiedHeadHash
  tail : (ledgerSealing d).Linked c.verifiedHeadHash (rowsAfter t c.lastVerifiedEventId)
  counted : result.sealedCount = result.totalEvents

/-- A table accepted on the incremental path is as the checkpoint promises. -/
def SoundFor (d : Deployment) (schema : ChainSchema) (t : EventTable) (c : VerifyCheckpoint) :
    Prop :=
  let result := (verifyLedgerChain d schema t (some c) true).1
  result.valid = true → result.incremental = true → Promised d t c result

/-- The table and the checkpoint fit together, path by path: the row of the checkpoint
decides past the shortcut, with the hash it carries now and the number of rows up to it. -/
def Respected (d : Deployment) (t : EventTable) (c : VerifyCheckpoint) (head : Hash) : Prop :=
  if checkpointHit t c head then
    (∃ r, t.find? c.lastVerifiedEventId = some r ∧ r.rowHash = some c.verifiedHeadHash) ∧
      (ledgerSealing d).Linked c.verifiedHeadHash (rowsAfter t c.lastVerifiedEventId)
  else match t.find? c.lastVerifiedEventId with
    | none => ¬ (ledgerSealing d).Linked genesisHash (orderBy LedgerEvent.eventId t.rows)
    | some anchor => ∀ g, anchor.rowHash = some g →
        (ledgerSealing d).Linked g (rowsAfter t c.lastVerifiedEventId) →
          g = c.verifiedHeadHash ∧
            (t.rows.filter fun r => r.eventId ≤ c.lastVerifiedEventId).length = c.sealedCount

theorem headHash_empty (hempty : t.rows = []) : headHash t = none := by
  rw [headHash, hempty]
  rfl

/-- Soundness concerns the incremental path only. -/
theorem soundFor_iff_incremental (hseal : schema.supportsSeal = true)
    (hcheckpoints : schema.supportsCheckpoints = true) :
    SoundFor d schema t c ↔ ∀ head out, headHash t = some head →
      verifyIncremental d t c head = some out → Promised d t c out.1 := by
  by_cases hempty : t.rows = []
  · have hisEmpty : t.rows.isEmpty = true := by rw [hempty]; rfl
    simp [SoundFor, verifyLedgerChain, hseal, hisEmpty, headHash_empty hempty]
  · have hresult : verifyLedgerChain d schema t (some c) true =
        ((headHash t).bind (verifyIncremental d t c)).getD (verifyFull d t true) := by
      simp [verifyLedgerChain, hseal, hcheckpoints, hempty]
    rw [SoundFor, hresult]
    cases hhead : headHash t with
    | none => simp [verifyFull]
    | some head =>
      rw [Option.bind_some]
      cases hpath : verifyIncremental d t c head with
      | none =>
        constructor
        · intro _ head' out hhead' hout
          cases hhead'
          rw [hpath] at hout
          cases hout
        · intro _ _ hincremental
          simp [verifyFull] at hincremental
      | some out =>
        have hflags := verifyIncremental_flags hpath
        constructor
        · intro h head' out' hhead' hout'
          cases hhead'
          rw [hpath] at hout'
          cases hout'
          exact h hflags.1 hflags.2
        · intro h _ _
          exact h head out rfl hpath

/-- The rows up to an id and the rows after it make up the table. -/
theorem length_rowsAfter (t : EventTable) (eventId : Int) :
    (t.rows.filter fun r => r.eventId ≤ eventId).length + (rowsAfter t eventId).length =
      t.rows.length := by
  have hnot : (fun r : LedgerEvent => decide (eventId < r.eventId)) =
      fun r => !decide (r.eventId ≤ eventId) := by
    funext r
    rw [← decide_not]
    simp only [not_le]
  rw [rowsAfter, orderBy, List.length_insertionSort, hnot]
  exact (List.length_eq_length_filter_add fun r : LedgerEvent => decide (r.eventId ≤ eventId)).symm

theorem promised_iff_respected_anchored (hhit : checkpointHit t c head = false)
    (hpos : 0 < c.lastVerifiedEventId) (hfind : t.find? c.lastVerifiedEventId = some anchor) :
    (∀ out, verifyIncremental d t c head = some out → Promised d t c out.1) ↔
      Respected d t c head := by
  have hlength := length_rowsAfter t c.lastVerifiedEventId
  simp only [Respected, hhit, Bool.false_eq_true, ite_false, hfind]
  constructor
  · intro hall g hg hl
    obtain ⟨out, hout, hsealed, htotal⟩ := verifyIncremental_anchored hhit hpos hfind hg hl
    obtain ⟨⟨r, hr, hhash⟩, -, hcounted⟩ := hall out hout
    rw [hfind] at hr
    cases hr
    refine ⟨Option.some.inj (hg.symm.trans hhash), ?_⟩
    rw [hsealed, htotal] at hcounted
    omega
  · intro hresp out hout
    rcases linked_of_verifyIncremental hhit hpos hout with ⟨hnone, -⟩ | ⟨a, g, ha, hg, hl⟩
    · rw [hfind] at hnone
      cases hnone
    · rw [hfind] at ha
      cases ha
      obtain ⟨hgh, hcount⟩ := hresp g hg hl
      obtain ⟨out', hout', hsealed, htotal⟩ := verifyIncremental_anchored hhit hpos hfind hg hl
      rw [hout] at hout'
      cases hout'
      refine ⟨⟨anchor, hfind, hgh ▸ hg⟩, hgh ▸ hl, ?_⟩
      rw [hsealed, htotal]
      omega

theorem promised_iff_respected_missing (hhead : headHash t = some head)
    (hhit : checkpointHit t c head = false) (hpos : 0 < c.lastVerifiedEventId)
    (hfind : t.find? c.lastVerifiedEventId = none) :
    (∀ out, verifyIncremental d t c head = some out → Promised d t c out.1) ↔
      Respected d t c head := by
  simp only [Respected, hhit, Bool.false_eq_true, ite_false, hfind]
  constructor
  · intro hall hl
    have hne : orderBy LedgerEvent.eventId t.rows ≠ [] := by
      intro he
      have hperm := List.perm_insertionSort (fun a b : LedgerEvent => a.eventId ≤ b.eventId) t.rows
      rw [orderBy] at he
      rw [he] at hperm
      rw [headHash_empty hperm.nil_eq.symm] at hhead
      cases hhead
    obtain ⟨out, hout⟩ := verifyIncremental_missing hhit hpos hfind hne hl
    obtain ⟨⟨r, hr, -⟩, -, -⟩ := hall out hout
    rw [hfind] at hr
    cases hr
  · intro hresp out hout
    rcases linked_of_verifyIncremental hhit hpos hout with ⟨-, hl⟩ | ⟨a, g, ha, -, -⟩
    · exact absurd hl hresp
    · rw [hfind] at ha
      cases ha

/-- For a checkpoint that a valid verification of an earlier table saved, the incremental
path is sound on a table exactly when the table respects the checkpoint. -/
theorem incremental_sound_iff_respected {t₀ : EventTable} {c₀ : Option VerifyCheckpoint}
    (hids : ∀ r ∈ t₀.rows, 0 < r.eventId)
    (hsaved : (verifyLedgerChain d schema t₀ c₀ true).2 = some c) :
    SoundFor d schema t c ↔ ∀ head, headHash t = some head → Respected d t c head := by
  obtain ⟨hseal, hcheckpoints, hpos⟩ := saved_spec hids hsaved
  rw [soundFor_iff_incremental hseal hcheckpoints]
  have hpath : ∀ head, headHash t = some head →
      ((∀ out, verifyIncremental d t c head = some out → Promised d t c out.1) ↔
        Respected d t c head) := by
    intro head hhead
    cases hhit : checkpointHit t c head with
    | true =>
      simp only [verifyIncremental_hit hhit, Respected, hhit, ite_true, Option.some.injEq,
        forall_eq']
      have hcounted : c.sealedCount = t.rows.length := by
        simp only [checkpointHit, Bool.and_eq_true, decide_eq_true_eq] at hhit
        exact hhit.2
      exact ⟨fun h => ⟨h.anchor, h.tail⟩, fun h => ⟨h.1, h.2, hcounted⟩⟩
    | false =>
      cases hfind : t.find? c.lastVerifiedEventId with
      | none => exact promised_iff_respected_missing hhead hhit hpos hfind
      | some anchor => exact promised_iff_respected_anchored hhit hpos hfind
  constructor
  · intro h head hhead
    exact (hpath head hhead).mp fun out => h head out hhead
  · intro h head out hhead hout
    exact (hpath head hhead).mpr (h head hhead) out hout

/-! ## A rewritten anchor -/

/-- The sample chain before its second event. -/
def firstTable : EventTable := ⟨[firstRow], by decide⟩

/-- The checkpoint of the sample chain before its second event. -/
def firstCheckpoint : VerifyCheckpoint := ⟨1, firstHash, 1, 1⟩

theorem firstCheckpoint_saved :
    (verifyLedgerChain chainDeployment ⟨true, true⟩ firstTable none true).2 =
      some firstCheckpoint := by
  have hlinked : (ledgerSealing chainDeployment).Linked genesisHash [firstRow] :=
    ⟨sample_linked.1, sample_linked.2.1, trivial⟩
  have hstate := verifyLedgerRows_linked (t := firstTable) hlinked
  have htip : (ledgerSealing chainDeployment).tip genesisHash [firstRow] = firstHash := by
    rw [Sealing.tip_cons, Sealing.tip_nil, firstRow_digest]
  have horder : orderBy LedgerEvent.eventId firstTable.rows = [firstRow] := rfl
  rw [horder, linkedState, if_neg (by simp), htip] at hstate
  have hfull : verifyLedgerChain chainDeployment ⟨true, true⟩ firstTable none true =
      verifyFull chainDeployment firstTable true := by
    simp [verifyLedgerChain, firstTable]
  rw [hfull, verifyFull, hstate]
  rfl

/-- The sample chain before its second event, with the stored hash of its row replaced. -/
def forgedTable : EventTable := ⟨[{ firstRow with rowHash := some laterHash }], by decide⟩

/-- The tail scan takes the replaced hash for the verified one. -/
theorem forged_anchor_accepted :
    (verifyLedgerChain chainDeployment ⟨true, true⟩ firstTable none true).2 =
      some firstCheckpoint ∧
    ¬ SoundFor chainDeployment ⟨true, true⟩ forgedTable firstCheckpoint := by
  refine ⟨firstCheckpoint_saved, ?_⟩
  intro hsound
  obtain ⟨⟨r, hr, hhash⟩, -, -⟩ := hsound (by decide +kernel) (by decide +kernel)
  cases hr
  revert hhash
  decide +kernel

theorem incremental_sound_iff_respected_sample :
    SoundFor chainDeployment ⟨true, true⟩ sampleTable firstCheckpoint := by
  have hids : ∀ r ∈ firstTable.rows, 0 < r.eventId := by
    intro r hr
    rw [List.mem_singleton.mp hr]
    decide
  rw [incremental_sound_iff_respected hids firstCheckpoint_saved]
  intro head hhead
  have hcurrent : headHash sampleTable = some secondHash := by decide +kernel
  have hhit : checkpointHit sampleTable firstCheckpoint secondHash = false := by decide +kernel
  have hfind : sampleTable.find? firstCheckpoint.lastVerifiedEventId = some firstRow := rfl
  rw [hcurrent] at hhead
  cases hhead
  simp only [Respected, hhit, Bool.false_eq_true, ite_false, hfind]
  intro g hg _
  exact ⟨(Option.some.inj hg).symm, rfl⟩

end Governor.Chain
