import Mathlib
import Governor.Core.PyString
import Governor.Sector.Opening

/-!
# Audited claims

ZkClaimAudit seals the facts of a claim under a salted hash and stores the commitment, which the
next seal of the claim replaces; the crystal of the claim stays that of the first seal. A proof is
checked against the stored commitment. The theorem says when every valid proof agrees with the
crystal of its claim.
-/

namespace Governor.Sector

open Finance
open Ledger (Hash)

/-! ## Commitments -/

/-- A `dict` of a request; its objects have distinct keys. -/
structure PyDict where
  fields : List (PyString × PyJson)
  distinct : (JsonValue.obj fields).DistinctKeys

/-- The dict as a value. -/
def PyDict.value (x : PyDict) : PyJson := .obj x.fields

/-- `ClaimCommitment`. -/
structure ClaimCommitment where
  commitmentId : String
  claimId : String
  commitmentHash : Hash
  salt : String
  factCount : Nat

/-- A row of `claim_commitments`. -/
structure CommitmentRow where
  commitment : ClaimCommitment
  privateFacts : PyDict

/-- The primary key. -/
def CommitmentRow.claimId (r : CommitmentRow) : String := r.commitment.claimId

abbrev CommitmentTable := Table CommitmentRow.claimId

/-- `_canonical_facts`. -/
def canonicalFacts (facts : PyJson) : String := PyJson.dumps Json.compact facts

/-- The dict that a commitment covers. -/
def commitmentObject (claimId : String) (facts : PyDict) (salt : String) : PyJson :=
  .obj [
    (codes "claim_id", .str (codes claimId)),
    (codes "facts", facts.value),
    (codes "salt", .str (codes salt))]

/-- The text that a commitment hashes. -/
def commitmentPayload (claimId : String) (facts : PyDict) (salt : String) : String :=
  canonicalFacts (commitmentObject claimId facts salt)

/-- `seal_claim_facts` with the salt that it draws. -/
def sealClaimFacts (d : Deployment) (salt claimId : String) (privateFacts : PyDict) :
    ClaimCommitment :=
  let commitmentHash := d.sha256 (commitmentPayload claimId privateFacts salt)
  ⟨"cc_" ++ String.ofList (commitmentHash.val.toList.take 16), claimId, commitmentHash, salt,
    privateFacts.fields.length⟩

/-- `AuditProofBundle`. -/
structure AuditProofBundle where
  claimId : String
  commitmentHash : Hash
  disclosedFacts : PyDict
  salt : String
  proofHash : Hash
  valid : Bool

/-- `build_audit_proof`. -/
def buildAuditProof (d : Deployment) (claimId : String) (commitment : ClaimCommitment)
    (disclosedFacts : PyDict) : AuditProofBundle where
  claimId := claimId
  commitmentHash := commitment.commitmentHash
  disclosedFacts := disclosedFacts
  salt := commitment.salt
  proofHash := d.sha256
    (commitment.commitmentHash.val ++ ":" ++ canonicalFacts disclosedFacts.value)
  valid := d.sha256 (commitmentPayload claimId disclosedFacts commitment.salt) =
    commitment.commitmentHash

/-- `get` of the commitment store, or `none` where it raises. -/
def getCommitment (kind : StoreKind) (connection : Connection) (commitments : CommitmentTable)
    (claimId : String) : Option (Option ClaimCommitment) :=
  match kind, connection with
  | .memory, _ | .postgres, .opened =>
    some ((commitments.find? claimId).map CommitmentRow.commitment)
  | .postgres, .absent => some none
  | .postgres, .broken => none

/-- `save` of the commitment store, or `none` where it raises. -/
def saveCommitment (kind : StoreKind) (connection : Connection) (commitments : CommitmentTable)
    (r : CommitmentRow) : Option CommitmentTable :=
  match kind, connection with
  | .memory, _ | .postgres, .opened => some (commitments.put r)
  | .postgres, .absent | .postgres, .broken => none

/-! ## Sealing and proving -/

/-- ZkClaimAudit as it is deployed. -/
structure AuditSettings where
  deployment : Deployment
  store : StoreKind

/-- The manifest of ZkClaimAudit. -/
def zkClaimAudit : PlatformManifest where
  name := "zk_claim_audit"
  defaultPolicyId := "zk-audit-us"
  defaultRiskTier := "critical"
  requiredFacetKeys := ["claim_id", "commitment_hash"]
  commitDecisions := ["SEALED", "VERIFIED"]

/-- `SealRequest`, and what becomes of everything that the seal asks for. -/
structure SealCall where
  claimId : String
  privateFacts : PyDict
  accountId : String
  policyId : String
  salt : String
  /-- The connection that the store is written over. -/
  write : Connection
  crystallize : Exchange
  commit : Exchange

/-- `AuditRequest`, and what becomes of everything that the proof asks for. -/
structure ProveCall where
  claimId : String
  disclosedFacts : PyDict
  /-- The connection that the store is read over. -/
  read : Connection
  crystallize : Exchange
  commit : Exchange

/-- The facts of the seal whose crystallize opened a crystal. -/
structure SealedFacts where
  crystalId : String
  facts : PyDict

/-- The store, the spine, and a history of the facts behind each crystal. -/
structure AuditWorld where
  commitments : CommitmentTable
  spine : FinanceWorld
  sealedFacts : Table SealedFacts.crystalId

/-- What a seal is answered with. -/
inductive SealReply where
  | sealed (commitmentId : String) (commitmentHash : Hash) (crystalId : Option String)
  /-- An exception that nothing catches. -/
  | raised

/-- What a proof is answered with. -/
inductive ProveReply where
  | proved (proofHash : Hash) (valid : Bool) (crystalId : Option String)
  /-- `HTTPException(status_code=404)`. -/
  | notFound (detail : String)
  /-- `HTTPException(status_code=422)`. -/
  | unprocessable (detail : String)
  /-- An exception that nothing catches. -/
  | raised
  deriving DecidableEq

/-- The facets of a sealed commitment. -/
def sealFacets (commitment : ClaimCommitment) : Facets :=
  [("claim_id", .str commitment.claimId),
    ("commitment_hash", .str commitment.commitmentHash.val),
    ("fact_count", .int commitment.factCount),
    ("audit_decision", .str "SEALED")]

/-- The facets of a valid proof. -/
def proveFacets (bundle : AuditProofBundle) : Facets :=
  [("claim_id", .str bundle.claimId),
    ("commitment_hash", .str bundle.commitmentHash.val),
    ("proof_hash", .str bundle.proofHash.val),
    ("audit_decision", .str "VERIFIED")]

section Routes

variable (settings : AuditSettings)

/-- The commitment of a seal. -/
def SealCall.commitment (call : SealCall) : ClaimCommitment :=
  sealClaimFacts settings.deployment call.salt call.claimId call.privateFacts

/-- The arguments of `govern_operation` for a seal. -/
def SealCall.governCall (call : SealCall) : GovernCall where
  operationId := call.claimId
  facets := sealFacets (call.commitment settings)
  decision := "SEALED"
  reserveAmount := some defaultReserve
  accountId := call.accountId
  policyId := some call.policyId
  outcome := some "sealed"

/-- The arguments of `govern_operation` for a valid proof. -/
def AuditProofBundle.governCall (bundle : AuditProofBundle) : GovernCall where
  operationId := bundle.claimId ++ "-audit"
  facets := proveFacets bundle
  decision := "VERIFIED"
  reserveAmount := some defaultReserve
  accountId := "carrier-default"
  policyId := none
  outcome := some "verified"

/-- The store after a seal, unless saving raises. -/
def SealCall.saved (call : SealCall) (commitments : CommitmentTable) : Option CommitmentTable :=
  saveCommitment settings.store call.write commitments
    ⟨call.commitment settings, call.privateFacts⟩

/-- The history after a seal: its facts are entered if its crystallize opened a crystal. -/
def SealCall.entered (call : SealCall) (w : AuditWorld) : Table SealedFacts.crystalId :=
  let arrived := run settings.deployment w.spine call.crystallize.meanwhile
  let sent := (zkClaimAudit.crystallize settings.deployment (call.governCall settings)
    call.crystallize w.spine).2
  let crystalId := "crys_" ++ call.crystallize.uuid
  if (arrived.tables.governanceCrystals.find? crystalId).isNone &&
      (sent.tables.governanceCrystals.find? crystalId).isSome then
    w.sealedFacts.put ⟨crystalId, call.privateFacts⟩
  else w.sealedFacts

/-- `POST /audit/seal`. -/
def sealClaim (call : SealCall) (w : AuditWorld) : SealReply × AuditWorld :=
  match call.saved settings w.commitments with
  | none => (.raised, w)
  | some commitments =>
    let commitment := call.commitment settings
    let r := zkClaimAudit.governOperation settings.deployment (call.governCall settings)
      call.crystallize call.commit w.spine
    let w := ⟨commitments, r.2, call.entered settings w⟩
    match r.1 with
    | .error _ => (.raised, w)
    | .ok crystalId => (.sealed commitment.commitmentId commitment.commitmentHash crystalId, w)

/-- `POST /audit/prove`. -/
def proveClaim (call : ProveCall) (w : AuditWorld) : ProveReply × AuditWorld :=
  match getCommitment settings.store call.read w.commitments call.claimId with
  | none => (.raised, w)
  | some none => (.notFound "commitment not found", w)
  | some (some commitment) =>
    let bundle := buildAuditProof settings.deployment call.claimId commitment call.disclosedFacts
    if bundle.valid then
      let r := zkClaimAudit.governOperation settings.deployment bundle.governCall
        call.crystallize call.commit w.spine
      let w := { w with spine := r.2 }
      match r.1 with
      | .error _ => (.raised, w)
      | .ok crystalId => (.proved bundle.proofHash bundle.valid crystalId, w)
    else (.unprocessable "disclosed facts do not match commitment", w)

end Routes

/-- One call of the platform's API. -/
inductive AuditAction where
  | sealClaim (call : SealCall)
  | proveClaim (call : ProveCall)

/-- The world after one call. -/
def auditStep (settings : AuditSettings) (w : AuditWorld) : AuditAction → AuditWorld
  | .sealClaim call => (sealClaim settings call w).2
  | .proveClaim call => (proveClaim settings call w).2

/-! ## Proofs that agree with the crystal -/

/-- The crystal of a claim was sealed with this commitment and, up to the order of the keys, with
these facts. -/
structure SealedAs (w : AuditWorld) (claimId : String) (commitment : ClaimCommitment)
    (facts : PyDict) (c : CrystalRow) (sealed : SealedFacts) : Prop where
  crystal : findCrystal w.spine.tables "zk_claim_audit" claimId = some c
  decision : c.facets.lookup "audit_decision" = some (.str "SEALED")
  commitmentHash : c.facets.lookup "commitment_hash" = some (.str commitment.commitmentHash.val)
  entered : w.sealedFacts.find? c.crystalId = some sealed
  facts : JsonValue.Equal facts.value sealed.facts.value

/-- A valid proof agrees with the crystal of its claim. -/
def ProofAgrees (settings : AuditSettings) (w : AuditWorld) : AuditAction → Prop
  | .sealClaim _ => True
  | .proveClaim call => ∀ proofHash crystalId,
    (proveClaim settings call w).1 = .proved proofHash true crystalId →
    ∃ commitment c sealed,
      getCommitment settings.store call.read w.commitments call.claimId = some (some commitment) ∧
      SealedAs (proveClaim settings call w).2 call.claimId commitment call.disclosedFacts c sealed

/-- A seal that replaces the commitment reaches a spine that opens the crystal of the claim. No
string of the facts splits a surrogate pair. -/
def SealOpens (settings : AuditSettings) (w : AuditWorld) : AuditAction → Prop
  | .sealClaim call => (call.saved settings w.commitments).isSome →
    PyJson.Paired call.privateFacts.value ∧ call.crystallize.delivery ≠ .lost ∧
      call.crystallize.refusal call.crystallize.guardrail = none ∧
      ∃ policy, Accepts (run settings.deployment w.spine call.crystallize.meanwhile).tables
        call.crystallize.enforce call.crystallize.uuid policy
        (zkClaimAudit.crystallizeRequest (call.governCall settings) defaultReserve)
  | .proveClaim call => PyJson.Paired call.disclosedFacts.value

/-- The texts of the sealed and of the disclosed facts do not collide under SHA-256. -/
def ProofApart (settings : AuditSettings) (w : AuditWorld) : AuditAction → Prop
  | .sealClaim _ => True
  | .proveClaim call => ∀ row, w.commitments.find? call.claimId = some row →
    settings.deployment.sha256
        (commitmentPayload call.claimId call.disclosedFacts row.commitment.salt) =
      settings.deployment.sha256
        (commitmentPayload row.claimId row.privateFacts row.commitment.salt) →
    commitmentPayload call.claimId call.disclosedFacts row.commitment.salt =
      commitmentPayload row.claimId row.privateFacts row.commitment.salt

/-- A stored commitment is that of the crystal of its claim. -/
structure Backed (settings : AuditSettings) (w : AuditWorld) (row : CommitmentRow)
    (c : CrystalRow) : Prop where
  holds : Holds w.spine.tables c
  platform : c.platform = "zk_claim_audit"
  operationId : c.operationId = row.claimId
  facets : c.facets = sealFacets row.commitment
  entered : w.sealedFacts.find? c.crystalId = some ⟨c.crystalId, row.privateFacts⟩
  hash : row.commitment.commitmentHash = settings.deployment.sha256
    (commitmentPayload row.claimId row.privateFacts row.commitment.salt)
  paired : PyJson.Paired row.privateFacts.value

/-- Every stored commitment is that of a crystal. -/
structure AllBacked (settings : AuditSettings) (w : AuditWorld) : Prop where
  sound : Sound w.spine
  backed : ∀ row ∈ w.commitments.rows, ∃ c, Backed settings w row c

section Payload

variable {claimId claimId' salt salt' : String} {facts facts' : PyDict}

theorem commitmentObject_keys : [codes "claim_id", codes "facts", codes "salt"].Nodup := by
  simp [codes_strictMono.injective.eq_iff]

theorem commitmentObject_distinctKeys :
    (commitmentObject claimId facts salt).DistinctKeys :=
  ⟨commitmentObject_keys, trivial, facts.distinct, trivial, trivial⟩

theorem commitmentObject_paired (h : PyJson.Paired facts.value) :
    PyJson.Paired (commitmentObject claimId facts salt) := by
  intro s hs
  simp only [commitmentObject, JsonValue.strings, JsonValue.stringsFields, List.mem_cons,
    List.mem_append, List.not_mem_nil, or_false] at hs
  rcases hs with rfl | rfl | rfl | hs | rfl | rfl
  · exact codes_paired _
  · exact codes_paired _
  · exact codes_paired _
  · exact h s hs
  · exact codes_paired _
  · exact codes_paired _

/-- The text of a commitment determines the facts. -/
theorem commitmentPayload_inj (h : PyJson.Paired facts.value) (h' : PyJson.Paired facts'.value)
    (htext : commitmentPayload claimId facts salt = commitmentPayload claimId' facts' salt') :
    JsonValue.Equal facts.value facts'.value := by
  have hequal := (PyJson.dumps_eq_iff_equal Json.compact commitmentObject_distinctKeys
    (commitmentObject_paired h) (commitmentObject_paired h')).mp htext
  exact hequal.value (k := codes "facts") commitmentObject_keys
    (List.mem_cons_of_mem _ List.mem_cons_self) (List.mem_cons_of_mem _ List.mem_cons_self)

end Payload

section Steps

variable {settings : AuditSettings} {w : AuditWorld} {row : CommitmentRow} {c : CrystalRow}

theorem getCommitment_some {kind : StoreKind} {connection : Connection} {t : CommitmentTable}
    {claimId : String} {commitment : ClaimCommitment}
    (h : getCommitment kind connection t claimId = some (some commitment)) :
    ∃ row, t.find? claimId = some row ∧ row.commitment = commitment := by
  unfold getCommitment at h
  split at h
  · exact Option.map_eq_some_iff.mp (Option.some.inj h)
  · exact Option.map_eq_some_iff.mp (Option.some.inj h)
  · cases h
  · cases h

theorem saveCommitment_some {kind : StoreKind} {connection : Connection} {t t' : CommitmentTable}
    (h : saveCommitment kind connection t row = some t') : t' = t.put row := by
  unfold saveCommitment at h
  split at h
  · exact (Option.some.inj h).symm
  · exact (Option.some.inj h).symm
  · cases h
  · cases h

/-- A crystal that is held stays so. -/
theorem step_holds {d : Deployment} (x : FinanceWorld) (a : Action)
    (h : Sound x ∧ Holds x.tables c) :
    Sound (step d x a) ∧ Holds (step d x a).tables c :=
  ⟨step_sound h.1 a,
    step_invariant (I := fun db => Holds db c) (fun _ ho hc => hc.opens ho)
      (fun _ hx hc => hc.closes hx) h.1 h.2 a⟩

/-- A backed commitment stays so while its crystal is held and its facts stay entered. -/
theorem Backed.moved {w' : AuditWorld} (h : Backed settings w row c)
    (hholds : Holds w'.spine.tables c)
    (hentered : w'.sealedFacts.find? c.crystalId = w.sealedFacts.find? c.crystalId) :
    Backed settings w' row c :=
  ⟨hholds, h.platform, h.operationId, h.facets, hentered.trans h.entered, h.hash, h.paired⟩

/-- The world after a seal whose commitment is saved. -/
theorem sealClaim_snd {call : SealCall} {commitments : CommitmentTable}
    (h : call.saved settings w.commitments = some commitments) :
    (sealClaim settings call w).2 = ⟨commitments,
      (zkClaimAudit.governOperation settings.deployment (call.governCall settings)
        call.crystallize call.commit w.spine).2, call.entered settings w⟩ := by
  simp only [sealClaim, h]
  split <;> rfl

/-- The row in memory after a seal. -/
theorem sealClaim_row {call : SealCall} (h : settings.store = .memory) :
    (auditStep settings w (.sealClaim call)).commitments.find? call.claimId =
      some ⟨call.commitment settings, call.privateFacts⟩ := by
  have hsaved : call.saved settings w.commitments =
      some (w.commitments.put ⟨call.commitment settings, call.privateFacts⟩) := by
    rw [SealCall.saved, h, saveCommitment]
  rw [auditStep, sealClaim_snd hsaved]
  exact Table.find?_put_self _ _

theorem sealFacets_required (commitment : ClaimCommitment) :
    zkClaimAudit.validateFacets (sealFacets commitment) = [] := rfl

/-- A crystal that is not stored yet is entered with the facts of the seal that opens it. -/
theorem SealCall.entered_opens {call : SealCall} {e : EscrowRow}
    (hcrystalId : c.crystalId = "crys_" ++ call.crystallize.uuid)
    (h : Opens (run settings.deployment w.spine call.crystallize.meanwhile).tables c e
      (zkClaimAudit.crystallize settings.deployment (call.governCall settings) call.crystallize
        w.spine).2.tables) :
    call.entered settings w = w.sealedFacts.put ⟨c.crystalId, call.privateFacts⟩ := by
  have hstored : (zkClaimAudit.crystallize settings.deployment (call.governCall settings)
      call.crystallize w.spine).2.tables.governanceCrystals.find? c.crystalId = some c := by
    rw [h.crystals, Table.find?_put_self]
  simp only [SealCall.entered, ← hcrystalId, h.newCrystal, hstored, Option.isNone_none,
    Option.isSome_some, Bool.and_self, if_true]

/-- A seal that opens the crystal of its claim leaves every commitment backed. -/
theorem AllBacked.sealClaim (h : AllBacked settings w) {call : SealCall}
    (hopens : SealOpens settings w (.sealClaim call)) :
    AllBacked settings (sealClaim settings call w).2 := by
  cases hsaved : call.saved settings w.commitments with
  | none =>
    simp only [Sector.sealClaim, hsaved]
    exact h
  | some commitments =>
    obtain ⟨hpaired, hdelivery, hrefusal, policy, haccepts⟩ := hopens (by rw [hsaved]; rfl)
    obtain ⟨hsent, c, prev, horizon, hseal, hcrystal⟩ := crystallize_new h.sound
      (m := zkClaimAudit) (g := call.governCall settings) rfl hdelivery hrefusal haccepts
    have hafter : ∀ x, Holds (zkClaimAudit.crystallize settings.deployment
        (call.governCall settings) call.crystallize w.spine).2.tables x →
        Sound (zkClaimAudit.governOperation settings.deployment (call.governCall settings)
          call.crystallize call.commit w.spine).2 ∧
        Holds (zkClaimAudit.governOperation settings.deployment (call.governCall settings)
          call.crystallize call.commit w.spine).2.tables x :=
      fun x hx => governOperation_after (I := fun y => Sound y ∧ Holds y.tables x) step_holds
        (sealFacets_required _) ⟨hsent, hx⟩ call.commit
    rw [sealClaim_snd hsaved]
    refine ⟨(hafter c (Opens.holds hcrystal)).1, ?_⟩
    simp only
    rw [saveCommitment_some hsaved, SealCall.entered_opens (by rw [hseal]; rfl) hcrystal,
      Table.forall_mem_put]
    constructor
    · refine ⟨c, (hafter c (Opens.holds hcrystal)).2, ?_, ?_, ?_, Table.find?_put_self _ _, rfl,
        hpaired⟩
      all_goals
        rw [hseal]
        rfl
    · -- the crystals of the other commitments were there before
      intro row hrow _
      obtain ⟨x, hx⟩ := h.backed row hrow
      have hheld := run_invariant (d := settings.deployment) (I := fun db => Holds db x)
        (fun _ ho hc => hc.opens ho) (fun _ hc hs => hs.closes hc) h.sound hx.holds
        call.crystallize.meanwhile
      have hne : x.crystalId ≠ c.crystalId := by
        intro hid
        obtain ⟨state, hfind⟩ := hheld
        rw [hid, hcrystal.newCrystal] at hfind
        cases hfind
      refine ⟨x, hx.moved (hafter x (hheld.opens hcrystal)).2 ?_⟩
      rw [Table.find?_put, if_neg hne]

/-- The spine after a proof keeps what its transactions keep; the rest stays as it is. -/
theorem proveClaim_keeps {I : FinanceWorld → Prop}
    (hstep : ∀ x a, I x → I (step settings.deployment x a)) (h : I w.spine) (call : ProveCall) :
    I (proveClaim settings call w).2.spine ∧
      (proveClaim settings call w).2.commitments = w.commitments ∧
      (proveClaim settings call w).2.sealedFacts = w.sealedFacts := by
  unfold proveClaim
  cases getCommitment settings.store call.read w.commitments call.claimId with
  | none => exact ⟨h, rfl, rfl⟩
  | some found =>
    cases found with
    | none => exact ⟨h, rfl, rfl⟩
    | some commitment =>
      simp only
      split_ifs
      · have hkept := governOperation_keeps hstep h zkClaimAudit
          (buildAuditProof settings.deployment call.claimId commitment
            call.disclosedFacts).governCall call.crystallize call.commit
        split <;> exact ⟨hkept, rfl, rfl⟩
      · exact ⟨h, rfl, rfl⟩

theorem Backed.proveClaim (hw : Sound w.spine) (h : Backed settings w row c) (call : ProveCall) :
    Sound (proveClaim settings call w).2.spine ∧
      Backed settings (proveClaim settings call w).2 row c := by
  obtain ⟨⟨hsound, hholds⟩, -, hentered⟩ := proveClaim_keeps
    (I := fun x => Sound x ∧ Holds x.tables c) step_holds ⟨hw, h.holds⟩ call
  exact ⟨hsound, h.moved hholds (by rw [hentered])⟩

theorem AllBacked.step (h : AllBacked settings w) {a : AuditAction}
    (ha : SealOpens settings w a) : AllBacked settings (auditStep settings w a) := by
  cases a with
  | sealClaim call => exact h.sealClaim ha
  | proveClaim call =>
    obtain ⟨hsound, hcommitments, -⟩ := proveClaim_keeps (I := Sound)
      (fun _ a hx => step_sound hx a) h.sound call
    refine ⟨hsound, ?_⟩
    intro row hrow
    rw [auditStep, hcommitments] at hrow
    obtain ⟨c, hc⟩ := h.backed row hrow
    exact ⟨c, (hc.proveClaim h.sound call).2⟩

/-- A valid proof is checked against a stored commitment, whose digest is that of the disclosed
facts. -/
theorem proveClaim_proved {call : ProveCall} {proofHash : Hash} {valid : Bool}
    {crystalId : Option String}
    (h : (proveClaim settings call w).1 = .proved proofHash valid crystalId) :
    ∃ row, getCommitment settings.store call.read w.commitments call.claimId =
        some (some row.commitment) ∧ w.commitments.find? call.claimId = some row ∧
      settings.deployment.sha256
        (commitmentPayload call.claimId call.disclosedFacts row.commitment.salt) =
          row.commitment.commitmentHash := by
  unfold proveClaim at h
  cases hget : getCommitment settings.store call.read w.commitments call.claimId with
  | none =>
    rw [hget] at h
    cases h
  | some found =>
    cases found with
    | none =>
      rw [hget] at h
      cases h
    | some commitment =>
      obtain ⟨row, hfind, rfl⟩ := getCommitment_some hget
      simp only [hget] at h
      split_ifs at h with hvalid
      exact ⟨row, rfl, hfind, of_decide_eq_true hvalid⟩

/-- Where every commitment is backed, a valid proof agrees with the crystal of its claim. -/
theorem AllBacked.proofAgrees (h : AllBacked settings w) {a : AuditAction}
    (hpaired : SealOpens settings w a) (hsha : ProofApart settings w a) :
    ProofAgrees settings w a := by
  cases a with
  | sealClaim call => trivial
  | proveClaim call =>
    intro proofHash crystalId hproved
    obtain ⟨row, hget, hfind, hdigest⟩ := proveClaim_proved hproved
    obtain ⟨c, hc⟩ := h.backed row (Table.mem_of_find? hfind)
    have hclaim : row.claimId = call.claimId := Table.find?_some_key hfind
    have htext := hsha row hfind (hdigest.trans hc.hash)
    obtain ⟨hsound, hafter⟩ := hc.proveClaim h.sound call
    obtain ⟨state, hcrystal⟩ := hafter.holds.findCrystal hsound.agrees
    rw [hafter.platform, hafter.operationId, hclaim] at hcrystal
    refine ⟨row.commitment, _, _, hget, hcrystal, ?_, ?_, hafter.entered,
      commitmentPayload_inj hpaired hc.paired htext⟩
    · rw [hc.facets]
      rfl
    · rw [hc.facets]
      rfl

end Steps

/-- The valid proofs of a run agree with the crystals of their claims when every seal that replaces
a commitment opens the crystal of its claim. -/
theorem run_proofsAgree (settings : AuditSettings) {spine : FinanceWorld} (hspine : Sound spine)
    {actions : List AuditAction}
    (hsha : Along (auditStep settings) (ProofApart settings) ⟨Table.empty, spine, Table.empty⟩
      actions)
    (hopens : Along (auditStep settings) (SealOpens settings) ⟨Table.empty, spine, Table.empty⟩
      actions) :
    Along (auditStep settings) (ProofAgrees settings) ⟨Table.empty, spine, Table.empty⟩
      actions := by
  have hstart : AllBacked settings ⟨Table.empty, spine, Table.empty⟩ := by
    refine ⟨hspine, ?_⟩
    intro row hrow
    cases hrow
  have hbacked := throughout_of_along hstart (fun _ _ ha h => h.step ha) hopens
  exact Along.imp hbacked (fun _ _ h ha => h.proofAgrees ha.1 ha.2)
    (along_and.mpr ⟨hopens, hsha⟩)

/-! ## A claim that is sealed and proved -/

/-- The amount of a loss. -/
def lossFacts (amount : String) : PyDict :=
  ⟨[(codes "loss_amount", .str (codes amount))], List.nodup_singleton _, trivial, trivial⟩

/-- The commitment to the amount. -/
def firstCommitment : ClaimCommitment where
  commitmentId := "cc_afa54eea0a096511"
  claimId := "CLM-1"
  commitmentHash :=
    ⟨"afa54eea0a096511544c80e65770947dc71add8a78715789d24a48a2b73cab02", by decide +kernel⟩
  salt := "00112233445566778899aabbccddeeff"
  factCount := 1

def firstSealFingerprint : Hash :=
  ⟨"205354a191306b5a847b8ecd2a0a4143b74a013cb4c3645279465ec3c00d3c98", by decide +kernel⟩

def firstSealHash : Hash :=
  ⟨"eaa93f0f20c5d21fe1ba7c1209b12dd214e52c599ad4be09bcb0f1b998d97ece", by decide +kernel⟩

/-- The texts of the commitment and of its crystal, with their SHA-256 digests. -/
def auditDigests : List (String × Hash) :=
  [(commitmentPayload "CLM-1" (lossFacts "10000") firstCommitment.salt,
      firstCommitment.commitmentHash),
    (fingerprintPayload "zk_claim_audit" "CLM-1" (sealFacets firstCommitment),
      firstSealFingerprint),
    (crystalPayload sampleCrystalId "zk_claim_audit" "CLM-1" "critical"
      (sealFacets firstCommitment) firstSealFingerprint none, firstSealHash)]

/-- ZkClaimAudit with its commitments in memory. -/
def auditSettings : AuditSettings where
  deployment := .ofDigests auditDigests fun t =>
    if t = sampleStart then "2026-01-01 00:00:00+00" else "2026-01-01 00:00:01+00"
  store := .memory

/-- A spine with the account and the policy of the audits. -/
def auditSpine : FinanceWorld :=
  { carrierWorld with
    tables := { carrierWorld.tables with
      instrumentPolicyRegistry := Table.empty.put
        ⟨"zk-audit-us", "critical", 1000000000000000000, 300000, false, true⟩ } }

/-- An amount is sealed under a salt. -/
def sealLoss (amount salt : String) (seconds : Int) : SealCall where
  claimId := "CLM-1"
  privateFacts := lossFacts amount
  accountId := "carrier-default"
  policyId := "zk-audit-us"
  salt := salt
  write := .opened
  crystallize := promptExchange seconds
  commit := promptExchange (seconds + 1)

/-- An amount is disclosed. -/
def proveLoss (amount : String) : ProveCall where
  claimId := "CLM-1"
  disclosedFacts := lossFacts amount
  read := .opened
  crystallize := { promptExchange 4 with uuid := "00000000000040008000000000000002" }
  commit := promptExchange 5

theorem lossFacts_paired (amount : String) : PyJson.Paired (lossFacts amount).value := by
  intro s hs
  simp only [PyDict.value, lossFacts, JsonValue.strings, JsonValue.stringsFields, List.mem_cons,
    List.mem_append, List.not_mem_nil, or_false] at hs
  rcases hs with rfl | rfl <;> exact codes_paired _

/-- The amount is sealed and disclosed. -/
theorem run_proofsAgree_first :
    Along (auditStep auditSettings) (ProofAgrees auditSettings)
      ⟨Table.empty, auditSpine, Table.empty⟩
      [.sealClaim (sealLoss "10000" firstCommitment.salt 0), .proveClaim (proveLoss "10000")] := by
  refine run_proofsAgree auditSettings (NoCrystals.sound ⟨rfl, rfl, rfl⟩) ⟨trivial, ?_, trivial⟩
    ⟨?_, lossFacts_paired _, trivial⟩
  · intro row hrow _
    obtain rfl := Option.some.inj ((sealClaim_row rfl).symm.trans hrow)
    rfl
  · intro _
    refine ⟨lossFacts_paired _, by simp [sealLoss, promptExchange], rfl,
      ⟨"zk-audit-us", "critical", 1000000000000000000, 300000, false, true⟩, ?_⟩
    exact ⟨nofun, rfl, by decide, rfl, rfl, by decide, by decide, rfl, rfl, rfl⟩

end Governor.Sector
