import Mathlib
import Governor.Finance.System

/-!
# Fingerprints determine the facets

`canonical_fingerprint` hashes the canonical text of Python values. Its strings may hold
surrogates, and a high and a low surrogate in a row are written as the one character that they
encode; on all other strings the text determines the platform, the operation and the facets.
-/

namespace Governor.Finance

open Ledger (Hash)

/-- The arguments of `canonical_fingerprint`. -/
structure Fingerprinted where
  platform : PyString
  operationId : PyString
  facets : List (PyString × PyJson)

/-- A `Crystal`, as far as the check of a commit reads it. -/
structure PyCrystal where
  platform : PyString
  operationId : PyString
  requestFingerprint : Hash

namespace Fingerprinted

/-- The dict that `canonical_fingerprint` dumps. -/
def object (x : Fingerprinted) : PyJson :=
  .obj [
    (codes "platform", .str x.platform),
    (codes "operation_id", .str x.operationId),
    (codes "facets", .obj x.facets)]

/-- The text that it hashes. -/
def payload (x : Fingerprinted) : String := PyJson.dumps Json.compact x.object

/-- `canonical_fingerprint`. -/
def canonicalFingerprint (d : Deployment) (x : Fingerprinted) : Hash := d.sha256 x.payload

/-- `seal_crystal`. -/
def sealCrystal (d : Deployment) (x : Fingerprinted) : PyCrystal :=
  ⟨x.platform, x.operationId, x.canonicalFingerprint d⟩

/-- The objects have distinct keys, and no string splits a surrogate pair. -/
structure WellFormed (x : Fingerprinted) : Prop where
  keys : (JsonValue.obj x.facets).DistinctKeys
  platform : x.platform.Paired
  operationId : x.operationId.Paired
  facets : PyJson.Paired (.obj x.facets)

end Fingerprinted

/-- `verify_commit_fingerprint`. -/
def PyCrystal.verifyCommitFingerprint (d : Deployment) (crystal : PyCrystal)
    (commitFacets : List (PyString × PyJson)) : Bool :=
  Fingerprinted.canonicalFingerprint d ⟨crystal.platform, crystal.operationId, commitFacets⟩ =
    crystal.requestFingerprint

/-- Strings without surrogates are fingerprinted as Python's are. -/
theorem fingerprintPayload_eq (platform operationId : String) (facets : Facets) :
    fingerprintPayload platform operationId facets =
      Fingerprinted.payload ⟨codes platform, codes operationId, Json.toPyFields facets⟩ :=
  (Json.dumps_toPy Json.compact _).symm

namespace Fingerprinted

variable {x y : Fingerprinted}

theorem object_keys : [codes "platform", codes "operation_id", codes "facets"].Nodup := by
  simp [codes_strictMono.injective.eq_iff]

theorem WellFormed.object_distinctKeys (h : x.WellFormed) : x.object.DistinctKeys :=
  ⟨object_keys, trivial, trivial, h.keys, trivial⟩

theorem WellFormed.object_paired (h : x.WellFormed) : PyJson.Paired x.object := by
  intro s hs
  simp only [object, JsonValue.strings, JsonValue.stringsFields, List.mem_cons, List.mem_append,
    List.not_mem_nil, or_false] at hs
  rcases hs with rfl | rfl | rfl | rfl | rfl | hs
  · exact codes_paired _
  · exact h.platform
  · exact codes_paired _
  · exact h.operationId
  · exact codes_paired _
  · exact h.facets s hs

theorem object_equal_iff : JsonValue.Equal x.object y.object ↔
    x.platform = y.platform ∧ x.operationId = y.operationId ∧
      JsonValue.Equal (.obj x.facets) (.obj y.facets) := by
  constructor
  · intro h
    have hplatform : JsonValue.Equal (.str x.platform) (.str y.platform) :=
      h.value (k := codes "platform") object_keys (by simp) (by simp)
    have hoperation : JsonValue.Equal (.str x.operationId) (.str y.operationId) :=
      h.value (k := codes "operation_id") object_keys (by simp) (by simp)
    have hfacets : JsonValue.Equal (.obj x.facets) (.obj y.facets) :=
      h.value (k := codes "facets") object_keys (by simp) (by simp)
    exact ⟨JsonValue.equal_str.mp hplatform, JsonValue.equal_str.mp hoperation, hfacets⟩
  · rintro ⟨hplatform, hoperation, hfacets⟩
    have hplatform := JsonValue.equal_str.mpr hplatform
    have hoperation := JsonValue.equal_str.mpr hoperation
    exact .obj (.cons _ hplatform (.cons _ hoperation (.cons _ hfacets .nil))) (List.Perm.refl _)

/-- The text determines the platform, the operation and the facets. -/
theorem payload_eq_iff (hx : x.WellFormed) (hy : y.WellFormed) :
    x.payload = y.payload ↔ x.platform = y.platform ∧ x.operationId = y.operationId ∧
      JsonValue.Equal (.obj x.facets) (.obj y.facets) := by
  rw [payload, payload, PyJson.dumps_eq_iff_equal _ hx.object_distinctKeys hx.object_paired
    hy.object_paired, object_equal_iff]

theorem canonicalFingerprint_eq_iff {d : Deployment} (hx : x.WellFormed) (hy : y.WellFormed)
    (hcollision : d.sha256 x.payload = d.sha256 y.payload → x.payload = y.payload) :
    x.canonicalFingerprint d = y.canonicalFingerprint d ↔
      x.platform = y.platform ∧ x.operationId = y.operationId ∧
        JsonValue.Equal (.obj x.facets) (.obj y.facets) := by
  rw [← payload_eq_iff hx hy]
  exact ⟨hcollision, fun h => congrArg d.sha256 h⟩

end Fingerprinted

/-- Canonical texts are equal when the values are, in key order, the same UTF-16. Without split
surrogate pairs that is equality up to the order of the keys, a fingerprint determines what it is
taken of, and a commit is accepted exactly with the crystallized facets. -/
theorem canonicalText_determines (d : Deployment) :
    (∀ a b : PyJson, PyJson.dumps Json.compact a = PyJson.dumps Json.compact b ↔
      a.sortKeys.map PyString.utf16 = b.sortKeys.map PyString.utf16) ∧
    (∀ a b : PyJson, a.DistinctKeys → b.DistinctKeys → a.Paired → b.Paired →
      (PyJson.dumps Json.compact a = PyJson.dumps Json.compact b ↔ JsonValue.Equal a b)) ∧
    (∀ x y : Fingerprinted, x.WellFormed → y.WellFormed →
      (d.sha256 x.payload = d.sha256 y.payload → x.payload = y.payload) →
      (x.canonicalFingerprint d = y.canonicalFingerprint d ↔
        x.platform = y.platform ∧ x.operationId = y.operationId ∧
          JsonValue.Equal (.obj x.facets) (.obj y.facets))) ∧
    ∀ (x : Fingerprinted) (commitFacets : List (PyString × PyJson)), x.WellFormed →
      { x with facets := commitFacets }.WellFormed →
      (d.sha256 { x with facets := commitFacets }.payload = d.sha256 x.payload →
        { x with facets := commitFacets }.payload = x.payload) →
      ((x.sealCrystal d).verifyCommitFingerprint d commitFacets = true ↔
        JsonValue.Equal (.obj commitFacets) (.obj x.facets)) := by
  refine ⟨PyJson.dumps_eq_iff _, ?_, ?_, ?_⟩
  · intro a b hkeys _ ha hb
    exact PyJson.dumps_eq_iff_equal _ hkeys ha hb
  · intro x y hx hy hcollision
    exact Fingerprinted.canonicalFingerprint_eq_iff hx hy hcollision
  · intro x commitFacets hx hy hcollision
    have hiff := Fingerprinted.canonicalFingerprint_eq_iff hy hx hcollision
    simp only [true_and] at hiff
    exact decide_eq_true_iff.trans hiff

/-! ## A wire and a smile -/

/-- The wire of an amount. -/
def auditedWire (amount : String) : Fingerprinted :=
  ⟨codes "wire_match", codes "wire-1",
    [(codes "amount", .str (codes amount)), (codes "currency", .str (codes "USD"))]⟩

/-- Surroundings with the SHA-256 digests of two wires. -/
def auditedDeployment : Deployment :=
  .ofDigests
    [((auditedWire "7800000.00").payload,
      ⟨"a236468046cddb53ef13f94fb15e13c4d81e0b3e0301319697e8d3c1f5b71ad1", by decide +kernel⟩),
    ((auditedWire "900000000.00").payload,
      ⟨"c353ad6cb7701092d318e5f0402992b5961000f7aa97097c67ae1ef65676ae30", by decide +kernel⟩)]
    fun _ => "2026-01-01 00:00:00+00"

theorem auditedWire_wellFormed (amount : String) : (auditedWire amount).WellFormed := by
  refine ⟨⟨?_, trivial, trivial, trivial⟩, codes_paired _, codes_paired _, ?_⟩
  · simp [auditedWire, codes_strictMono.injective.eq_iff]
  · intro s hs
    simp only [auditedWire, JsonValue.strings, JsonValue.stringsFields, List.mem_cons, List.mem_append,
      List.not_mem_nil, or_false] at hs
    rcases hs with rfl | rfl | rfl | rfl <;> exact codes_paired _

/-- A wire is committed with its own facets and with no other amount. -/
theorem canonicalText_determines_wire :
    ((auditedWire "7800000.00").sealCrystal auditedDeployment).verifyCommitFingerprint auditedDeployment
      (auditedWire "7800000.00").facets = true ∧
    ((auditedWire "7800000.00").sealCrystal auditedDeployment).verifyCommitFingerprint auditedDeployment
      (auditedWire "900000000.00").facets ≠ true := by
  have hverify := (canonicalText_determines auditedDeployment).2.2.2
  have hseven := auditedWire_wellFormed "7800000.00"
  have hnine := auditedWire_wellFormed "900000000.00"
  constructor
  · refine (hverify _ _ hseven hseven fun _ => rfl).mpr ?_
    exact JsonValue.equal_of_sortKeys_eq _ _ rfl
  · have hdigests : auditedDeployment.sha256 (auditedWire "900000000.00").payload ≠
        auditedDeployment.sha256 (auditedWire "7800000.00").payload := by
      decide +kernel
    intro haccepted
    have h := (hverify (auditedWire "7800000.00") (auditedWire "900000000.00").facets hseven hnine
      fun h => absurd h hdigests).mp haccepted
    have hamount : JsonValue.Equal (.str (codes "900000000.00")) (.str (codes "7800000.00")) :=
      h.value (k := codes "amount") hseven.keys.1 List.mem_cons_self List.mem_cons_self
    rw [JsonValue.equal_str, codes_strictMono.injective.eq_iff] at hamount
    exact absurd hamount (by decide)

/-- Facets with a note. -/
def noteFacets (note : PyString) : List (PyString × PyJson) := [(codes "note", .str note)]

/-- A smile, and the two surrogates that encode it in UTF-16. -/
def smile : PyString := [128512]

def splitSmile : PyString := [55357, 56832]

/-- The two notes differ and have one text, so a crystal of the one accepts the other. -/
theorem split_pair_accepted :
    (¬ ∀ a b : PyJson, a.DistinctKeys → b.DistinctKeys →
      (PyJson.dumps Json.compact a = PyJson.dumps Json.compact b ↔ JsonValue.Equal a b)) ∧
    ∀ d : Deployment, (Fingerprinted.sealCrystal d ⟨codes "wire_match", codes "wire-1",
      noteFacets splitSmile⟩).verifyCommitFingerprint d (noteFacets smile) = true := by
  constructor
  · intro hclaim
    have hkeys : ∀ note, (JsonValue.obj (noteFacets note)).DistinctKeys := fun note =>
      ⟨List.nodup_singleton _, trivial, trivial⟩
    have htext : PyJson.dumps Json.compact (.obj (noteFacets splitSmile)) =
        PyJson.dumps Json.compact (.obj (noteFacets smile)) := by
      decide +kernel
    have hequal := (hclaim _ _ (hkeys splitSmile) (hkeys smile)).mp htext
    have hnote : JsonValue.Equal (.str splitSmile) (.str smile) :=
      hequal.value (hkeys smile).1 List.mem_cons_self List.mem_cons_self
    exact absurd (JsonValue.equal_str.mp hnote) (by decide)
  · intro d
    have hpayload : Fingerprinted.payload ⟨codes "wire_match", codes "wire-1", noteFacets smile⟩ =
        Fingerprinted.payload ⟨codes "wire_match", codes "wire-1", noteFacets splitSmile⟩ := by
      decide +kernel
    exact decide_eq_true (congrArg d.sha256 hpayload)

end Governor.Finance
