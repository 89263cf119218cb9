import Mathlib
import Governor.Core.JsonInjective
import Governor.Chain.Log

/-!
# Tamper evidence

The head hash of a table that full verification accepts commits to the whole table:
two accepted tables with the same head hold the same rows, in the columns that the
payload covers. The tables are arbitrary. What is assumed of SHA-256 is that it tells
the payloads of the two tables apart and never hashes one to the genesis hash.
-/

namespace Governor.Chain

open Ledger

variable {d : Deployment} {r r' : LedgerEvent} {t t' : EventTable}

/-- The columns that the payload covers agree, read as verification reads them. -/
structure SamePayload (d : Deployment) (r r' : LedgerEvent) : Prop where
  eventId : r.eventId = r'.eventId
  idempotencyKey : r.idempotencyKey = r'.idempotencyKey
  userId : r.userId = r'.userId
  eventType : r.eventType = r'.eventType
  amountDelta : decimalStr r.amountDelta = decimalStr r'.amountDelta
  metadata : Json.Same (normalizeMetadata d r.metadata) (normalizeMetadata d r'.metadata)
  recordedAt : d.timestampText r.recordedAt = d.timestampText r'.recordedAt
  prevHash : r.prevOrGenesis = r'.prevOrGenesis

/-- The payload and the stored hash agree. -/
structure SameRow (d : Deployment) (r r' : LedgerEvent) : Prop extends SamePayload d r r' where
  rowHash : r.rowHash = r'.rowHash

/-- The canonical text determines everything in it. -/
theorem rowPayload_inj {eventId eventId' : Int}
    {key key' user user' type type' amount amount' time time' : String} {metadata metadata' : Json}
    {prev prev' : Hash}
    (h : rowPayload eventId key user type amount metadata time prev =
      rowPayload eventId' key' user' type' amount' metadata' time' prev') :
    eventId = eventId' ∧ key = key' ∧ user = user' ∧ type = type' ∧ amount = amount' ∧
      Json.Same metadata metadata' ∧ time = time' ∧ prev = prev' := by
  have hsame := (Json.dumps_eq_iff _ _ _).mp h
  have hvalue := fun k v w => hsame.value (by simp) (k := k) (v := v) (w := w)
  have hid := hvalue "event_id" (.int eventId) (.int eventId') (by simp) (by simp)
  have hkey := hvalue "idempotency_key" (.str key) (.str key') (by simp) (by simp)
  have huser := hvalue "user_id" (.str user) (.str user') (by simp) (by simp)
  have htype := hvalue "event_type" (.str type) (.str type') (by simp) (by simp)
  have hamount := hvalue "amount_delta" (.str amount) (.str amount') (by simp) (by simp)
  have hmetadata := hvalue "metadata" metadata metadata' (by simp) (by simp)
  have htime := hvalue "recorded_at" (.str time) (.str time') (by simp) (by simp)
  have hprev := hvalue "prev_hash" (.str prev.val) (.str prev'.val) (by simp) (by simp)
  simp only [Json.same_int, Json.same_str] at hid hkey huser htype hamount htime hprev
  exact ⟨hid, hkey, huser, htype, hamount, hmetadata, htime, Subtype.ext hprev⟩

theorem samePayload_of_payload_eq (h : r.payload d = r'.payload d) : SamePayload d r r' := by
  obtain ⟨hid, hkey, huser, htype, hamount, hmetadata, htime, hprev⟩ := rowPayload_inj h
  rw [normalizeMetadata_idem, normalizeMetadata_idem] at hmetadata
  exact ⟨hid, hkey, huser, htype, hamount, hmetadata, htime, hprev⟩

/-- Two accepted chains with one head end with one hash. -/
theorem tip_eq_of_headHash_eq {xs ys : List LedgerEvent}
    (hhead : (linkedState d 0 0 genesisHash xs).headHash =
      (linkedState d 0 0 genesisHash ys).headHash) :
    (ledgerSealing d).tip genesisHash xs = (ledgerSealing d).tip genesisHash ys := by
  cases xs with
  | nil =>
    cases ys with
    | nil => rfl
    | cons y ys => simp [linkedState] at hhead
  | cons x xs =>
    cases ys with
    | nil => simp [linkedState] at hhead
    | cons y ys => simpa [linkedState] using hhead

/-- The payloads of the rows of two tables. -/
def payloads (d : Deployment) (t t' : EventTable) : Set String :=
  { text | ∃ r ∈ t.rows ++ t'.rows, text = r.payload d }

/-- Full verification is tamper evident: the head hash of an accepted table determines the
sequence of its rows. -/
theorem rows_agree_of_headHash_eq (hinj : Set.InjOn d.sha256 (payloads d t t'))
    (hgenesis : ∀ text ∈ payloads d t t', d.sha256 text ≠ genesisHash)
    (hvalid : (verifyLedgerRows d t 0 0).valid = true)
    (hvalid' : (verifyLedgerRows d t' 0 0).valid = true)
    (hhead : (verifyLedgerRows d t 0 0).headHash = (verifyLedgerRows d t' 0 0).headHash) :
    List.Forall₂ (SameRow d) (orderBy LedgerEvent.eventId t.rows)
      (orderBy LedgerEvent.eventId t'.rows) := by
  have hmem : ∀ r ∈ orderBy LedgerEvent.eventId t.rows, r.payload d ∈ payloads d t t' := by
    intro r hr
    exact ⟨r, List.mem_append_left _ ((List.mem_insertionSort _).mp hr), rfl⟩
  have hmem' : ∀ r ∈ orderBy LedgerEvent.eventId t'.rows, r.payload d ∈ payloads d t t' := by
    intro r hr
    exact ⟨r, List.mem_append_right _ ((List.mem_insertionSort _).mp hr), rfl⟩
  have hlinked := (verifyLedgerRows_valid_iff t).mp hvalid
  have hlinked' := (verifyLedgerRows_valid_iff t').mp hvalid'
  rw [verifyLedgerRows_linked hlinked, verifyLedgerRows_linked hlinked'] at hhead
  -- equal digests: equal payloads, hence equal columns, and both rows carry the digest
  have hdigest : ∀ x ∈ orderBy LedgerEvent.eventId t.rows,
      ∀ y ∈ orderBy LedgerEvent.eventId t'.rows,
      (ledgerSealing d).digest x = (ledgerSealing d).digest y →
        SameRow d x y ∧ (ledgerSealing d).prev x = (ledgerSealing d).prev y := by
    intro x hx y hy he
    have hsame := samePayload_of_payload_eq (hinj (hmem x hx) (hmem' y hy) he)
    have hhash : (ledgerSealing d).hash x = (ledgerSealing d).hash y := by
      rw [hlinked.hash_eq x hx, hlinked'.hash_eq y hy, he]
    exact ⟨⟨hsame, hhash⟩, hsame.prevHash⟩
  exact (ledgerSealing d).forall₂_of_tip_eq hlinked hlinked' (tip_eq_of_headHash_eq hhead) hdigest
    (fun x hx => hgenesis _ (hmem x hx)) (fun y hy => hgenesis _ (hmem' y hy))

/-- The first row of the sample chain. -/
def firstRow : LedgerEvent := (firstDraft.row 1).seal genesisHash firstHash

/-- The second row of the sample chain. -/
def secondRow : LedgerEvent := (secondDraft.row 2).seal firstHash secondHash

theorem firstRow_digest : (ledgerSealing chainDeployment).digest firstRow = firstHash := by
  have hamount : decimalStr firstRow.amountDelta = "1.000000000000" := by decide +kernel
  have hpayload : firstRow.payload chainDeployment =
      samplePayload 1 "op-1" "2026-01-01 00:00:00+00" genesisHash := by
    rw [LedgerEvent.payload, hamount]
    rfl
  rw [ledgerSealing_digest, hpayload, chainDeployment_sha256, chainDigests,
    List.find?_cons_of_pos (by rw [decide_eq_true_eq]), Option.map_some, Option.getD_some]

theorem secondRow_digest : (ledgerSealing chainDeployment).digest secondRow = secondHash := by
  have hamount : decimalStr secondRow.amountDelta = "1.000000000000" := by decide +kernel
  have hpayload : secondRow.payload chainDeployment =
      samplePayload 2 "op-2" "2026-01-01 00:10:00+00" firstHash := by
    rw [LedgerEvent.payload, hamount]
    rfl
  have hne : samplePayload 1 "op-1" "2026-01-01 00:00:00+00" genesisHash ≠
      samplePayload 2 "op-2" "2026-01-01 00:10:00+00" firstHash := by
    intro he
    exact absurd (rowPayload_inj he).1 (by decide)
  rw [ledgerSealing_digest, hpayload, chainDeployment_sha256, chainDigests,
    List.find?_cons_of_neg (by rw [decide_eq_true_eq]; exact hne),
    List.find?_cons_of_pos (by rw [decide_eq_true_eq]), Option.map_some, Option.getD_some]

theorem sample_linked :
    (ledgerSealing chainDeployment).Linked genesisHash [firstRow, secondRow] := by
  refine ⟨rfl, ?_, ?_, ?_, trivial⟩
  · rw [firstRow_digest]
    rfl
  · rw [firstRow_digest]
    rfl
  · rw [secondRow_digest]
    rfl

/-- The sample chain. -/
def sampleTable : EventTable := ⟨[firstRow, secondRow], by decide⟩

/-- The sample chain, stored in the other order and with a null predecessor. -/
def sampleTwin : EventTable := ⟨[secondRow, { firstRow with prevHash := none }], by decide⟩

theorem sample_payload_mem {text : String}
    (h : text ∈ payloads chainDeployment sampleTable sampleTwin) :
    text = firstRow.payload chainDeployment ∨ text = secondRow.payload chainDeployment := by
  obtain ⟨r, hr, rfl⟩ := h
  simp only [sampleTable, sampleTwin, List.cons_append, List.nil_append, List.mem_cons,
    List.not_mem_nil, or_false] at hr
  rcases hr with rfl | rfl | rfl | rfl
  · exact Or.inl rfl
  · exact Or.inr rfl
  · exact Or.inr rfl
  · exact Or.inl rfl

theorem sample_injOn :
    Set.InjOn chainDeployment.sha256 (payloads chainDeployment sampleTable sampleTwin) := by
  have hne : chainDeployment.sha256 (firstRow.payload chainDeployment) ≠
      chainDeployment.sha256 (secondRow.payload chainDeployment) := by
    rw [← ledgerSealing_digest, ← ledgerSealing_digest, firstRow_digest, secondRow_digest]
    decide +kernel
  intro x hx y hy he
  rcases sample_payload_mem hx with rfl | rfl <;> rcases sample_payload_mem hy with rfl | rfl
  · rfl
  · exact absurd he hne
  · exact absurd he.symm hne
  · rfl

theorem rows_agree_of_headHash_eq_sample :
    List.Forall₂ (SameRow chainDeployment) (orderBy LedgerEvent.eventId sampleTable.rows)
      (orderBy LedgerEvent.eventId sampleTwin.rows) := by
  have hvalid : (verifyLedgerRows chainDeployment sampleTable 0 0).valid = true :=
    (verifyLedgerRows_valid_iff sampleTable).mpr sample_linked
  have hvalid' : (verifyLedgerRows chainDeployment sampleTwin 0 0).valid = true :=
    (verifyLedgerRows_valid_iff sampleTwin).mpr sample_linked
  refine rows_agree_of_headHash_eq sample_injOn (fun text _ => chainDeployment_ne_genesis text)
    hvalid hvalid' ?_
  rw [verifyLedgerRows_linked sample_linked, verifyLedgerRows_linked sample_linked]
  rfl

end Governor.Chain
