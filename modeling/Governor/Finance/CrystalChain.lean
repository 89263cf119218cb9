import Mathlib
import Governor.Core.HashChain
import Governor.Finance.Refinement

/-!
# The chain of crystals under concurrency

`crystallize_operation` reads the hash of the latest crystal, and only later inserts its own
crystal and commits. The model runs any number of such transactions in any order of their
statements under `READ COMMITTED`; a statement that has to wait for a lock of another
transaction leaves everything as it is. Nothing locks the end of the chain, so the links form
one chain exactly when no crystal is committed between the two ends of a transaction and the
crystal committed last is also the latest by its timestamp.
-/

namespace Governor.Finance

open Ledger (Clock Hash Money)

/-! ## Statements -/

/-- A call of `crystallize_operation`. -/
structure CrystallizeCall where
  clock : Clock
  uuid : String
  request : CrystallizeRequest
  /-- The order in which the database returns crystals with the same `crystallized_at`. -/
  pick : String → Int

/-- `ORDER BY crystallized_at DESC LIMIT 1`. -/
def latestCrystal (pick : String → Int) (rows : List CrystalRow) : Option CrystalRow :=
  lastBy (fun c => pick c.crystalId)
    (rows.filter fun c => rows.all fun x => x.crystallizedAt ≤ c.crystallizedAt)

/-- The variables of a transaction that has sealed its crystal. -/
structure SealedCrystal where
  call : CrystallizeCall
  crystal : CrystalRow
  /-- The committed crystals among which the predecessor was selected. -/
  seen : List CrystalRow

/-- How far a transaction has come. -/
inductive CrystallizePhase where
  | begun (call : CrystallizeCall)
  /-- The operation has no crystal, and the policy allows the reserve. -/
  | checked (call : CrystallizeCall) (policyId : Option String) (horizon : Option Int)
  /-- The predecessor is selected and the crystal is sealed. -/
  | linked (x : SealedCrystal)
  /-- The account is locked and debited. -/
  | reserved (x : SealedCrystal)
  /-- The crystal is inserted. -/
  | inserted (x : SealedCrystal)
  /-- The escrow row is inserted. -/
  | escrowed (x : SealedCrystal)
  /-- The event is appended under the advisory lock of the decision chain. -/
  | logged (x : SealedCrystal)
  | finished (result : Except Exn CrystallizeResult)

namespace SealedCrystal

def reservedMoney (x : SealedCrystal) : Money := quantizeMoney x.call.request.reservedExposure

def escrow (x : SealedCrystal) : EscrowRow := openEscrow x.call.request x.crystal.crystalId

/-- The event of the new crystal. -/
def event (x : SealedCrystal) : DecisionDraft :=
  crystalEvent x.call.clock x.crystal x.escrow .crystalCreated (-x.reservedMoney)
    [("platform", .str x.call.request.platform), ("risk_tier", .str x.call.request.riskTier)]

/-- What the transaction returns. -/
def result (x : SealedCrystal) : CrystallizeResult :=
  ⟨x.crystal.crystalId, x.call.request.operationId, .crystallized, x.crystal.horizonExpiresAt⟩

/-- The writes of the transaction, published by its commit. -/
def publish (d : Deployment) (x : SealedCrystal) (w : FinanceWorld) : FinanceWorld where
  tables := { w.tables with
    accountLedgers :=
      if 0 < x.reservedMoney then
        w.tables.accountLedgers.update x.call.request.accountId (Account.debit x.reservedMoney)
          (Account.debit_accountId x.reservedMoney)
      else w.tables.accountLedgers
    governanceCrystals := w.tables.governanceCrystals.put x.crystal
    commitEscrowLedger := w.tables.commitEscrowLedger.put x.escrow
    decisionEvents := w.tables.decisionEvents.put
      (x.event.sealed d w.tables.decisionEvents.rows (w.outside.lastEventId + 1)) }
  outside := ⟨w.outside.lastEventId + 1⟩

end SealedCrystal

namespace CrystallizePhase

/-- The crystal that a transaction has sealed. -/
def sealed? : CrystallizePhase → Option SealedCrystal
  | .linked x | .reserved x | .inserted x | .escrowed x | .logged x => some x
  | _ => none

/-- The transaction holds the lock of an account's row. -/
def holdsAccount (accountId : String) : CrystallizePhase → Bool
  | .reserved x | .inserted x | .escrowed x | .logged x =>
    0 < x.reservedMoney && x.call.request.accountId = accountId
  | _ => false

/-- The transaction has inserted this crystal and not committed it. -/
def holdsCrystal (crystalId : String) : CrystallizePhase → Bool
  | .inserted x | .escrowed x | .logged x => x.crystal.crystalId = crystalId
  | _ => false

/-- The transaction has inserted a crystal for this operation and not committed it. -/
def holdsOperation (platform operationId : String) : CrystallizePhase → Bool
  | .inserted x | .escrowed x | .logged x =>
    x.crystal.platform = platform && x.crystal.operationId = operationId
  | _ => false

/-- The transaction has inserted an escrow row for this operation and not committed it. -/
def holdsEscrow (operationId : String) : CrystallizePhase → Bool
  | .escrowed x | .logged x => x.escrow.operationId = operationId
  | _ => false

/-- The transaction holds the advisory lock. -/
def holdsChain : CrystallizePhase → Bool
  | .logged _ => true
  | _ => false

end CrystallizePhase

/-- The committed world and the transactions. -/
structure CrystallizeWorld where
  spine : FinanceWorld
  txs : List CrystallizePhase

namespace CrystallizeWorld

/-- The committed crystals, in the order of their commits. -/
def crystals (w : CrystallizeWorld) : List CrystalRow := w.spine.tables.governanceCrystals.rows

def move (i : Nat) (x : CrystallizePhase) (w : CrystallizeWorld) : CrystallizeWorld :=
  { w with txs := w.txs.set i x }

/-- Execute a statement against the committed tables: an exception ends the transaction. -/
def execute {α : Type} (w : CrystallizeWorld) (i : Nat) (statement : FinanceTx α)
    (next : α → CrystallizePhase) : CrystallizeWorld :=
  match (statement.run w.spine).1 with
  | .error exn => w.move i (.finished (.error exn))
  | .ok a => w.move i (next a)

end CrystallizeWorld

/-- The statements before the predecessor is selected: a replay is answered at once. -/
def checkOperation (d : Deployment) (request : CrystallizeRequest) :
    FinanceTx (CrystallizeResult ⊕ (Option String × Option Int)) := do
  let record ← assertPlatformAllowed request.platform
  validatePlatformFacets request.platform request.facets
  let policyId := effectivePolicyId record request.policyId
  let db ← Tx.read
  match findCrystal db request.platform request.operationId with
  | some existing =>
    if canonicalFingerprint d request.platform request.operationId request.facets ≠
        existing.requestFingerprint then
      Tx.raise (.conflictError "fingerprint mismatch on crystallize replay")
    else
      pure (.inl ⟨existing.crystalId, request.operationId, .replay, existing.horizonExpiresAt⟩)
  | none => do
    let horizon ← policyHorizon policyId request.reservedExposure
    pure (.inr (policyId, horizon))

/-- The crystal that a transaction seals onto the latest of the committed crystals. -/
def sealOnto (d : Deployment) (call : CrystallizeCall) (policyId : Option String)
    (horizon : Option Int) (rows : List CrystalRow) : SealedCrystal where
  call := call
  crystal := sealCrystal d call.clock call.uuid call.request policyId
    ((latestCrystal call.pick rows).map CrystalRow.crystalHash) horizon
  seen := rows

/-- One transaction executes its next statement. -/
def crystallizeStep (d : Deployment) (w : CrystallizeWorld) (i : Nat) : CrystallizeWorld :=
  match w.txs[i]? with
  | some (.begun call) =>
    w.execute i (checkOperation d call.request)
      (Sum.elim (fun result => .finished (.ok result)) fun p => .checked call p.1 p.2)
  | some (.checked call policyId horizon) =>
    w.move i (.linked (sealOnto d call policyId horizon w.crystals))
  | some (.linked x) =>
    if 0 < x.reservedMoney ∧ w.txs.any (·.holdsAccount x.call.request.accountId) then w
    else w.execute i (reserveExposure x.call.request.accountId x.reservedMoney) fun _ =>
      .reserved x
  | some (.reserved x) =>
    if w.txs.any fun t => t.holdsCrystal x.crystal.crystalId ||
        t.holdsOperation x.crystal.platform x.crystal.operationId then w
    else w.execute i (insertCrystal x.crystal) fun _ => .inserted x
  | some (.inserted x) =>
    if w.txs.any (·.holdsEscrow x.escrow.operationId) then w
    else w.execute i (insertEscrow x.escrow) fun _ => .escrowed x
  | some (.escrowed x) =>
    if w.txs.any (·.holdsChain) then w else w.move i (.logged x)
  | some (.logged x) => ⟨x.publish d w.spine, w.txs.set i (.finished (.ok x.result))⟩
  | some (.finished _) => w
  | none => w

/-- The committed world and the calls before their first statements. -/
def CrystallizeWorld.start (spine : FinanceWorld) (calls : List CrystallizeCall) :
    CrystallizeWorld :=
  ⟨spine, calls.map .begun⟩

/-! ## One chain -/

/-- How crystals are chained. -/
def crystalSealing : Sealing CrystalRow (Option Hash) where
  prev := CrystalRow.prevCrystalHash
  hash c := some (some c.crystalHash)
  digest c := some c.crystalHash

/-- No two crystals name the same predecessor, one names none, and the links order them all. -/
structure SingleChain (rows : List CrystalRow) : Prop where
  nodup : (rows.map CrystalRow.prevCrystalHash).Nodup
  first : rows ≠ [] → rows.countP (fun c => c.prevCrystalHash = none) = 1
  ordered : ∃ order, order.Perm rows ∧ crystalSealing.Linked none order

/-- A transaction that commits has seen every committed crystal when it selected the
predecessor, and the one committed last was the latest. -/
def CommitsOnTip (w : CrystallizeWorld) (i : Nat) : Prop :=
  ∀ x, w.txs[i]? = some (.logged x) →
    w.crystals = x.seen ∧ latestCrystal x.call.pick x.seen = x.seen.getLast?

/-- The text that a crystal's hash was computed from. -/
def CrystalRow.payload (c : CrystalRow) : String :=
  crystalPayload c.crystalId c.platform c.operationId c.riskTier c.facets c.requestFingerprint
    c.prevCrystalHash

/-- SHA-256 does not collide on the texts of these crystals. -/
def NoCollision (d : Deployment) (rows : List CrystalRow) : Prop :=
  ∀ c ∈ rows, ∀ c' ∈ rows, d.sha256 c.payload = d.sha256 c'.payload → c.payload = c'.payload

/-! ## One statement -/

theorem latestCrystal_mem {pick : String → Int} {rows : List CrystalRow} {c : CrystalRow}
    (h : latestCrystal pick rows = some c) : c ∈ rows :=
  (List.mem_filter.mp (lastBy_mem h)).1

/-- A crystal that carries its own digest and names the latest of those that were seen. -/
structure WellSealed (d : Deployment) (rows : List CrystalRow) (x : SealedCrystal) : Prop where
  hash : x.crystal.crystalHash = d.sha256 x.crystal.payload
  prev : x.crystal.prevCrystalHash = (latestCrystal x.call.pick x.seen).map CrystalRow.crystalHash
  seen : x.seen <+: rows

/-- The invariant of the run. -/
structure Chained (d : Deployment) (w : CrystallizeWorld) : Prop where
  rows : ∀ c ∈ w.crystals, c.crystalHash = d.sha256 c.payload
  /-- A crystal names one that was committed before it. -/
  back : ∀ xs c ys, w.crystals = xs ++ c :: ys →
    c.prevCrystalHash = none ∨ ∃ p ∈ xs, c.prevCrystalHash = some p.crystalHash
  sealed : ∀ t ∈ w.txs, ∀ x, t.sealed? = some x → WellSealed d w.crystals x
  keys : ∀ crystalId, w.txs.countP (CrystallizePhase.holdsCrystal crystalId) +
    (w.crystals.map CrystalRow.crystalId).count crystalId ≤ 1

theorem CrystallizeWorld.start_chained (d : Deployment) {spine : FinanceWorld}
    (h : NoCrystals spine) (calls : List CrystallizeCall) : Chained d (.start spine calls) := by
  have hempty : (CrystallizeWorld.start spine calls).crystals = [] := h.governanceCrystals
  refine ⟨?_, ?_, ?_, ?_⟩
  · simp [hempty]
  · simp [hempty]
  · intro t ht x hx
    obtain ⟨call, -, rfl⟩ := List.mem_map.mp ht
    cases hx
  · intro crystalId
    have hnone : (calls.map CrystallizePhase.begun).countP
        (CrystallizePhase.holdsCrystal crystalId) = 0 := by
      rw [List.countP_eq_zero]
      intro t ht
      obtain ⟨call, -, rfl⟩ := List.mem_map.mp ht
      simp [CrystallizePhase.holdsCrystal]
    rw [hempty]
    simp [CrystallizeWorld.start, hnone]

section Step

variable {d : Deployment} {w : CrystallizeWorld} {i : Nat} {t t' : CrystallizePhase}
  {x : SealedCrystal}

/-- A transaction moves on and no table changes. -/
theorem Chained.move (hw : Chained d w) (hi : w.txs[i]? = some t)
    (hsealed : ∀ x, t'.sealed? = some x → WellSealed d w.crystals x)
    (hkeys : ∀ crystalId, t'.holdsCrystal crystalId = true → t.holdsCrystal crystalId = true ∨
      w.txs.countP (CrystallizePhase.holdsCrystal crystalId) = 0 ∧
        (w.crystals.map CrystalRow.crystalId).count crystalId = 0) :
    Chained d (w.move i t') := by
  refine ⟨hw.rows, hw.back, ?_, ?_⟩
  · intro y hy x hx
    rcases List.mem_or_eq_of_mem_set hy with hy | rfl
    · exact hw.sealed y hy x hx
    · exact hsealed x hx
  · intro crystalId
    have hmoved := countP_moved (CrystallizePhase.holdsCrystal crystalId) hi t'
    have hbefore := hw.keys crystalId
    have hcrystals : (w.move i t').crystals = w.crystals := rfl
    rw [hcrystals]
    simp only [CrystallizeWorld.move]
    by_cases hheld : t'.holdsCrystal crystalId = true
    · rw [if_pos hheld] at hmoved
      rcases hkeys crystalId hheld with hsame | ⟨hnone, hfree⟩
      · rw [if_pos hsame] at hmoved
        omega
      · omega
    · rw [if_neg hheld] at hmoved
      omega

/-- A statement ends the transaction or takes it to the next phase. -/
theorem Chained.execute {α : Type} {statement : FinanceTx α} {next : α → CrystallizePhase}
    (hw : Chained d w) (hi : w.txs[i]? = some t)
    (hnext : ∀ a, (statement.run w.spine).1 = .ok a → Chained d (w.move i (next a))) :
    Chained d (w.execute i statement next) := by
  unfold CrystallizeWorld.execute
  split
  · exact hw.move hi (by rintro x ⟨⟩) (by intro crystalId h; cases h)
  · next a ha => exact hnext a ha

/-- The crystals after a commit. -/
theorem Chained.publish_crystals (hw : Chained d w) (hi : w.txs[i]? = some (.logged x)) :
    (x.publish d w.spine).tables.governanceCrystals.rows = w.crystals ++ [x.crystal] := by
  have hheld : 0 < w.txs.countP (CrystallizePhase.holdsCrystal x.crystal.crystalId) := by
    rw [List.countP_pos_iff]
    exact ⟨_, List.mem_of_getElem? hi, by simp [CrystallizePhase.holdsCrystal]⟩
  have hkeys := hw.keys x.crystal.crystalId
  have hfree : (w.crystals.map CrystalRow.crystalId).count x.crystal.crystalId = 0 := by omega
  exact Table.rows_put_of_fresh (Table.find?_eq_none.mpr (List.count_eq_zero.mp hfree))

/-- A crystal is committed. -/
theorem Chained.commit (hw : Chained d w) (hi : w.txs[i]? = some (.logged x)) :
    Chained d ⟨x.publish d w.spine, w.txs.set i (.finished (.ok x.result))⟩ := by
  have hcrystals : (CrystallizeWorld.mk (x.publish d w.spine)
      (w.txs.set i (.finished (.ok x.result)))).crystals = w.crystals ++ [x.crystal] :=
    hw.publish_crystals hi
  have hx := hw.sealed _ (List.mem_of_getElem? hi) x rfl
  refine ⟨?_, ?_, ?_, ?_⟩
  · intro c hc
    rw [hcrystals, List.mem_append, List.mem_singleton] at hc
    rcases hc with hc | rfl
    · exact hw.rows c hc
    · exact hx.hash
  · intro xs c ys hsplit
    rw [hcrystals] at hsplit
    cases ys using List.reverseRecOn with
    | nil =>
      obtain ⟨rfl, hlast⟩ := List.append_inj' hsplit rfl
      obtain rfl := List.singleton_inj.mp hlast
      rw [hx.prev]
      cases hlatest : latestCrystal x.call.pick x.seen with
      | none => exact Or.inl rfl
      | some p => exact Or.inr ⟨p, hx.seen.subset (latestCrystal_mem hlatest), rfl⟩
    | append_singleton ys y =>
      rw [← List.cons_append, ← List.append_assoc] at hsplit
      exact hw.back xs c ys (List.append_inj' hsplit rfl).1
  · intro t ht y hy
    rcases List.mem_or_eq_of_mem_set ht with ht | rfl
    · have hold := hw.sealed t ht y hy
      rw [hcrystals]
      exact ⟨hold.hash, hold.prev, hold.seen.trans (List.prefix_append _ _)⟩
    · cases hy
  · intro crystalId
    have hmoved := countP_moved (CrystallizePhase.holdsCrystal crystalId) hi
      (.finished (.ok x.result))
    have hbefore := hw.keys crystalId
    simp only [CrystallizePhase.holdsCrystal, Bool.false_eq_true, ite_false,
      decide_eq_true_eq] at hmoved
    rw [hcrystals, List.map_append, List.map_singleton, List.count_append, List.count_singleton]
    simp only [beq_iff_eq]
    omega

theorem insertCrystal_ok {c : CrystalRow} {spine : FinanceWorld}
    (h : ((insertCrystal c).run spine).1 = .ok ()) :
    spine.tables.governanceCrystals.find? c.crystalId = none := by
  have hspec : ((insertCrystal c).run spine).1 = .ok () →
      spine.tables.governanceCrystals.find? c.crystalId = none := by
    apply Tx.run_of_wp (R := fun r _ => r = .ok () →
      spine.tables.governanceCrystals.find? c.crystalId = none)
    exact wp_insertCrystal (fun exn s' _ hr => by cases hr) fun hnew _ => hnew
  exact hspec h

/-- Every statement keeps the invariant. -/
theorem crystallizeStep_chained (hw : Chained d w) (i : Nat) :
    Chained d (crystallizeStep d w i) := by
  have hkept : ∀ {t x}, w.txs[i]? = some t → t.sealed? = some x → ∀ {t' : CrystallizePhase},
      t'.sealed? = some x → ∀ y, t'.sealed? = some y → WellSealed d w.crystals y := by
    intro t x hi hx t' hx' y hy
    obtain rfl := Option.some.inj (hx'.symm.trans hy)
    exact hw.sealed t (List.mem_of_getElem? hi) x hx
  unfold crystallizeStep
  split
  · next call hi =>
    refine hw.execute hi fun r _ => ?_
    cases r with
    | inl result => exact hw.move hi (by rintro x ⟨⟩) (by intro crystalId h; cases h)
    | inr p => exact hw.move hi (by rintro x ⟨⟩) (by intro crystalId h; cases h)
  · next call policyId horizon hi =>
    refine hw.move hi ?_ (by intro crystalId h; cases h)
    rintro _ ⟨⟩
    exact ⟨rfl, rfl, List.prefix_refl _⟩
  · next x hi =>
    split_ifs
    · exact hw
    · exact hw.execute hi fun _ _ => hw.move hi (hkept hi rfl rfl) (by intro crystalId h; cases h)
  · next x hi =>
    split_ifs with hwaits
    · exact hw
    · refine hw.execute hi fun _ hok => hw.move hi (hkept hi rfl rfl) ?_
      intro crystalId hheld
      obtain rfl : x.crystal.crystalId = crystalId := of_decide_eq_true hheld
      have hnew := Table.find?_eq_none.mp (insertCrystal_ok hok)
      refine Or.inr ⟨?_, List.count_eq_zero.mpr hnew⟩
      rw [List.countP_eq_zero]
      intro t ht hholds
      exact hwaits (List.any_eq_true.mpr ⟨t, ht, by rw [hholds]; rfl⟩)
  · next x hi =>
    split_ifs
    · exact hw
    · exact hw.execute hi fun _ _ => hw.move hi (hkept hi rfl rfl) fun _ h => Or.inl h
  · next x hi =>
    split_ifs
    · exact hw
    · exact hw.move hi (hkept hi rfl rfl) fun _ h => Or.inl h
  · next x hi => exact hw.commit hi
  · exact hw
  · exact hw

/-- A statement leaves the crystals alone, unless it is a commit. -/
theorem crystallizeStep_crystals (hi : ∀ x, w.txs[i]? ≠ some (.logged x)) :
    (crystallizeStep d w i).crystals = w.crystals := by
  have hexecute : ∀ {α : Type} (statement : FinanceTx α) (next : α → CrystallizePhase),
      (w.execute i statement next).crystals = w.crystals := by
    intro α statement next
    unfold CrystallizeWorld.execute
    split <;> rfl
  unfold crystallizeStep
  split
  · exact hexecute _ _
  · rfl
  · split_ifs
    · rfl
    · exact hexecute _ _
  · split_ifs
    · rfl
    · exact hexecute _ _
  · split_ifs
    · rfl
    · exact hexecute _ _
  · split_ifs <;> rfl
  · next x hx => exact absurd hx (hi x)
  · rfl
  · rfl

end Step

/-! ## Links to the tip -/

/-- The text of a crystal names the crystal. -/
theorem CrystalRow.payload_crystalId {c c' : CrystalRow} (h : c.payload = c'.payload) :
    c.crystalId = c'.crystalId := by
  have hsame := (Json.dumps_eq_iff _ _ _).mp h
  have hid := hsame.value (k := "crystal_id") (v := .str c.crystalId) (w := .str c'.crystalId)
    (by simp) (by simp) (by simp)
  exact Json.same_str.mp hid

/-- The hash at the end of the committed crystals. -/
theorem crystalSealing_tip (rows : List CrystalRow) :
    crystalSealing.tip none rows = rows.getLast?.map CrystalRow.crystalHash := by
  cases rows using List.reverseRecOn with
  | nil => rfl
  | append_singleton rows c => rw [Sealing.tip_concat, List.getLast?_concat]; rfl

section Links

variable {d : Deployment} {w : CrystallizeWorld} {i : Nat} {x : SealedCrystal}

/-- Equal hashes mean equal crystals. -/
theorem Chained.hash_inj (hw : Chained d w) (hdigests : NoCollision d w.crystals)
    {c c' : CrystalRow} (hc : c ∈ w.crystals) (hc' : c' ∈ w.crystals)
    (h : c.crystalHash = c'.crystalHash) : c = c' := by
  rw [hw.rows c hc, hw.rows c' hc'] at h
  exact List.inj_on_of_nodup_map w.spine.tables.governanceCrystals.nodup hc hc'
    (CrystalRow.payload_crystalId (hdigests c hc c' hc' h))

/-- The committed crystals form one chain exactly when each links to the one before it. -/
theorem Chained.singleChain_iff (hw : Chained d w) (hdigests : NoCollision d w.crystals) :
    SingleChain w.crystals ↔ crystalSealing.Linked none w.crystals := by
  constructor
  · intro h
    refine crystalSealing.linked_of_nodup_prev ?_ (fun _ _ => rfl) h.nodup
    intro xs c ys hsplit
    exact hw.back xs c ys hsplit
  · intro hlinked
    have hnodup : (w.crystals.map crystalSealing.digest).Nodup := by
      refine (List.Nodup.of_map _ w.spine.tables.governanceCrystals.nodup).map_on ?_
      intro c hc c' hc' h
      exact hw.hash_inj hdigests hc hc' (Option.some.inj h)
    have hprevs : (w.crystals.map CrystalRow.prevCrystalHash).Nodup :=
      hlinked.nodup_prev hnodup (by rintro c - ⟨⟩)
    refine ⟨hprevs, ?_, w.crystals, List.Perm.refl _, hlinked⟩
    intro hne
    obtain ⟨c, rest, hcons⟩ := List.exists_cons_of_ne_nil hne
    have hfirst : c.prevCrystalHash = none := by
      rw [hcons] at hlinked
      exact hlinked.1
    have hcount := List.count_eq_one_of_mem hprevs (a := none)
      (by rw [hcons, List.map_cons, hfirst]; exact List.mem_cons_self)
    rw [List.count, List.countP_map] at hcount
    rw [← hcount]
    congr 1
    funext c
    cases hprev : c.prevCrystalHash <;> simp [hprev]

/-- A transaction commits onto the tip. -/
def LinksToTip (w : CrystallizeWorld) (i : Nat) : Prop :=
  ∀ x, w.txs[i]? = some (.logged x) →
    x.crystal.prevCrystalHash = crystalSealing.tip none w.crystals

/-- A statement keeps the chain exactly when it commits onto the tip. -/
theorem crystallizeStep_linked_iff (hw : Chained d w) (i : Nat) :
    crystalSealing.Linked none (crystallizeStep d w i).crystals ↔
      crystalSealing.Linked none w.crystals ∧ LinksToTip w i := by
  by_cases hcommit : ∃ x, w.txs[i]? = some (.logged x)
  · obtain ⟨x, hi⟩ := hcommit
    have hstep : (crystallizeStep d w i).crystals = w.crystals ++ [x.crystal] := by
      unfold crystallizeStep
      rw [hi]
      exact hw.publish_crystals hi
    have hlinks : LinksToTip w i ↔
        x.crystal.prevCrystalHash = crystalSealing.tip none w.crystals := by
      simp [LinksToTip, hi]
    rw [hstep, Sealing.linked_append, hlinks, Sealing.linked_cons]
    exact and_congr_right fun _ => ⟨fun h => h.1, fun h => ⟨h, rfl, trivial⟩⟩
  · have hnone : ∀ x, w.txs[i]? ≠ some (.logged x) := not_exists.mp hcommit
    have hlinks : LinksToTip w i := fun x hi => absurd hi (hnone x)
    rw [crystallizeStep_crystals hnone, and_iff_left hlinks]

/-- The predecessor that a transaction selected is the tip exactly when it saw all committed
crystals and the one committed last was the latest of them. -/
theorem Chained.linksToTip_iff (hw : Chained d w) (hdigests : NoCollision d w.crystals) (i : Nat) :
    LinksToTip w i ↔ CommitsOnTip w i := by
  refine forall_congr' fun x => forall_congr' fun hi => ?_
  have hx := hw.sealed _ (List.mem_of_getElem? hi) x rfl
  rw [hx.prev, crystalSealing_tip]
  constructor
  · intro h
    cases htip : w.crystals.getLast? with
    | none =>
      have hempty := List.getLast?_eq_none_iff.mp htip
      have hseen : x.seen = [] := List.prefix_nil.mp (hempty ▸ hx.seen)
      rw [hempty, hseen]
      exact ⟨rfl, rfl⟩
    | some tip =>
      rw [htip, Option.map_some] at h
      obtain ⟨p, hlatest, hhash⟩ := Option.map_eq_some_iff.mp h
      have hpseen := latestCrystal_mem hlatest
      obtain rfl : p = tip := hw.hash_inj hdigests (hx.seen.subset hpseen)
        (List.mem_of_getLast? htip) hhash
      have hall : w.crystals = x.seen := by
        obtain ⟨rest, hrest⟩ := hx.seen
        cases rest using List.reverseRecOn with
        | nil => rw [← hrest, List.append_nil]
        | append_singleton rest q =>
          -- the tip would be among those that were seen and again after them
          rw [← hrest, ← List.append_assoc, List.getLast?_concat] at htip
          obtain rfl := Option.some.inj htip
          have hnodup := w.spine.tables.governanceCrystals.nodup
          change (w.crystals.map CrystalRow.crystalId).Nodup at hnodup
          rw [← hrest, List.map_append, List.nodup_append] at hnodup
          exact absurd rfl (hnodup.2.2 _ (List.mem_map_of_mem hpseen) _ (by simp))
      exact ⟨hall, by rw [hlatest, ← hall, htip]⟩
  · rintro ⟨hall, hlatest⟩
    rw [hlatest, hall]

end Links

/-- After any order of the statements of any transactions the committed crystals form a single
chain exactly when every transaction that committed had seen all committed crystals, the last of
them the latest by its timestamp. -/
theorem run_singleChain_iff {d : Deployment} {spine : FinanceWorld} (h : NoCrystals spine)
    (calls : List CrystallizeCall) (schedule : List Nat)
    (hdigests : NoCollision d
      (schedule.foldl (crystallizeStep d) (.start spine calls)).crystals) :
    SingleChain (schedule.foldl (crystallizeStep d) (.start spine calls)).crystals ↔
      Along (crystallizeStep d) CommitsOnTip (.start spine calls) schedule := by
  have hstart := CrystallizeWorld.start_chained d h calls
  have hkeeps : ∀ w i, Chained d w → Chained d (crystallizeStep d w i) :=
    fun w i hw => crystallizeStep_chained hw i
  have hthroughout := throughout_of_last (P := fun w => NoCollision d w.crystals) hstart hkeeps
    (fun w i hw hafter => by
      by_cases hcommit : ∃ x, w.txs[i]? = some (.logged x)
      · obtain ⟨x, hi⟩ := hcommit
        have hstep : (crystallizeStep d w i).crystals = w.crystals ++ [x.crystal] := by
          unfold crystallizeStep
          rw [hi]
          exact hw.publish_crystals hi
        rw [hstep] at hafter
        intro c hc c' hc'
        exact hafter c (List.mem_append_left _ hc) c' (List.mem_append_left _ hc')
      · rwa [crystallizeStep_crystals (not_exists.mp hcommit)] at hafter) hdigests
  have hlinked : crystalSealing.Linked none
      (schedule.foldl (crystallizeStep d) (CrystallizeWorld.start spine calls)).crystals ↔ _ :=
    last_iff_along (P := fun w => crystalSealing.Linked none w.crystals)
      hstart hkeeps (fun w i hw => crystallizeStep_linked_iff hw i)
  have hfirst : crystalSealing.Linked none (CrystallizeWorld.start spine calls).crystals := by
    have hempty : (CrystallizeWorld.start spine calls).crystals = [] := h.governanceCrystals
    rw [hempty]
    trivial
  rw [(foldl_invariant hstart hkeeps schedule).singleChain_iff hdigests, hlinked,
    and_iff_right hfirst]
  exact along_congr hthroughout fun w i hw => hw.1.linksToTip_iff hw.2 i

/-! ## Two wires at once -/

/-- The condition on a commit, read off the number and the identifiers of the crystals. -/
def commitsOnTip (w : CrystallizeWorld) (i : Nat) : Bool :=
  match w.txs[i]? with
  | some (.logged x) => x.seen.length = w.crystals.length &&
    (latestCrystal x.call.pick x.seen).map CrystalRow.crystalId =
      x.seen.getLast?.map CrystalRow.crystalId
  | _ => true

theorem Chained.commitsOnTip_of {d : Deployment} {w : CrystallizeWorld} (hw : Chained d w) {i : Nat}
    (h : commitsOnTip w i = true) : CommitsOnTip w i := by
  intro x hi
  have hx := hw.sealed _ (List.mem_of_getElem? hi) x rfl
  simp only [commitsOnTip, hi, Bool.and_eq_true, decide_eq_true_eq] at h
  obtain ⟨hlength, hids⟩ := h
  refine ⟨(hx.seen.eq_of_length hlength).symm, ?_⟩
  cases hlast : x.seen.getLast? with
  | none =>
    rw [List.getLast?_eq_none_iff] at hlast
    rw [hlast]
    rfl
  | some c =>
    rw [hlast, Option.map_some] at hids
    obtain ⟨p, hlatest, hsame⟩ := Option.map_eq_some_iff.mp hids
    have hp := hx.seen.subset (latestCrystal_mem hlatest)
    have hc := hx.seen.subset (List.mem_of_getLast? hlast)
    rw [hlatest, List.inj_on_of_nodup_map w.spine.tables.governanceCrystals.nodup hp hc hsame]

/-- A standard wire without a reserve. -/
def wireCall (operationId uuid : String) (seconds : Int) : CrystallizeCall where
  clock := sampleClock seconds
  uuid := uuid
  request := { sampleCrystallize with
    operationId := operationId
    riskTier := "standard"
    reservedExposure := ⟨0, 0⟩ }
  pick := fun _ => 0

/-- Two wires, one second apart. -/
def wireCalls : List CrystallizeCall :=
  [wireCall "op-1" sampleUuid 0, wireCall "op-2" "00000000000040008000000000000002" 1]

def secondCrystalId : String := "crys_00000000000040008000000000000002"

def secondFingerprint : Hash :=
  ⟨"81c219185d0f30ec95f8861c66806364de8c380c8b2b4836a3522faba0edb90f", by decide +kernel⟩

/-- The texts that the two wires hash, with their SHA-256 digests. -/
def wireDigests : List (String × Hash) :=
  [(fingerprintPayload "wire_match" "op-1" sampleFacets, sampleFingerprint),
    (fingerprintPayload "wire_match" "op-2" sampleFacets, secondFingerprint),
    (crystalPayload sampleCrystalId "wire_match" "op-1" "standard" sampleFacets sampleFingerprint
      none, standardCrystalHash),
    (crystalPayload secondCrystalId "wire_match" "op-2" "standard" sampleFacets secondFingerprint
      none, ⟨"0fecbe560a279a098d48b8fb5a0cfce0b9529dd2676f918251e8225428bb5606", by
        decide +kernel⟩),
    (crystalPayload secondCrystalId "wire_match" "op-2" "standard" sampleFacets secondFingerprint
      (some standardCrystalHash),
      ⟨"2ee2d487ffc77e017c93f42222090cd4080e2ee8e7f2149e780f738fbc3a98c6", by decide +kernel⟩),
    (decisionPayload 1 "op-1" (some sampleCrystalId) "desk-default" "CRYSTAL_CREATED" "0E-12"
      [("platform", .str "wire_match"), ("risk_tier", .str "standard")] Ledger.genesisHash
      "2026-01-01 00:00:00+00", standardFreeCreated),
    (decisionPayload 2 "op-2" (some secondCrystalId) "desk-default" "CRYSTAL_CREATED" "0E-12"
      [("platform", .str "wire_match"), ("risk_tier", .str "standard")] standardFreeCreated
      "2026-01-01 00:00:01+00",
      ⟨"1495d44df66d2b545a6b3dbdf6e862ee2e90e8c8b7c6a8a48037f99f51e4d502", by decide +kernel⟩)]

def wireDeployment : Deployment := .ofDigests wireDigests fun t =>
  if t = sampleStart then "2026-01-01 00:00:00+00" else "2026-01-01 00:00:01+00"

/-- One wire after the other. -/
def serialSchedule : List Nat := [0, 0, 0, 0, 0, 0, 0, 1, 1, 1, 1, 1, 1, 1]

/-- The second wire selects its predecessor before the first one commits. -/
def overlappingSchedule : List Nat := [0, 0, 1, 1, 0, 0, 0, 0, 0, 1, 1, 1, 1, 1]

theorem run_singleChain_serial :
    SingleChain (serialSchedule.foldl (crystallizeStep wireDeployment)
      (.start sampleWorld wireCalls)).crystals := by
  have hworld : NoCrystals sampleWorld := ⟨rfl, rfl, rfl⟩
  have hdigests : NoCollision wireDeployment (serialSchedule.foldl
      (crystallizeStep wireDeployment) (.start sampleWorld wireCalls)).crystals := by
    unfold NoCollision
    decide +kernel
  refine (run_singleChain_iff hworld wireCalls serialSchedule hdigests).mpr ?_
  have hchained : Throughout (crystallizeStep wireDeployment) (Chained wireDeployment)
      (.start sampleWorld wireCalls) serialSchedule :=
    throughout_of_along (C := fun _ _ => True) (CrystallizeWorld.start_chained _ hworld wireCalls)
      (fun w i _ hw => crystallizeStep_chained hw i) (by decide +kernel)
  have hchecked : Along (crystallizeStep wireDeployment)
      (fun w i => commitsOnTip w i = true) (.start sampleWorld wireCalls) serialSchedule := by
    decide +kernel
  exact Along.imp hchained (fun w i hw h => hw.commitsOnTip_of h) hchecked

/-- Both wires are committed and neither names a predecessor. -/
theorem overlapping_wires_fork :
    (overlappingSchedule.foldl (crystallizeStep wireDeployment)
      (.start sampleWorld wireCalls)).txs.all
      (fun t => t matches .finished (.ok _)) = true ∧
    ¬ SingleChain (overlappingSchedule.foldl (crystallizeStep wireDeployment)
      (.start sampleWorld wireCalls)).crystals := by
  refine ⟨by decide +kernel, ?_⟩
  intro h
  have hnodup := h.nodup
  have hforked : ¬ ((overlappingSchedule.foldl (crystallizeStep wireDeployment)
      (.start sampleWorld wireCalls)).crystals.map CrystalRow.prevCrystalHash).Nodup := by
    decide +kernel
  exact hforked hnodup

end Governor.Finance
