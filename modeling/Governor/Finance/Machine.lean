import Mathlib
import Governor.Finance.System

/-!
# The life of a crystal

A crystal is opened once and closed at most once, in one of four ways. `Opens` and `Closes`
say what the two moves do to the tables that hold exposure and its history. `Agrees` is the
invariant that ties crystals, escrow rows and events together; both moves keep it. The
transactions of the spine are shown elsewhere to commit such moves, so that everything proved
of runs follows from the moves alone.
-/

namespace Governor.Finance

open Ledger (Money Clock)

/-! ## Ways to close a crystal -/

/-- The ways in which a crystal is closed. -/
inductive Closing where
  /-- A commit of an amount. -/
  | committed (amount : Money)
  /-- A manual strand. -/
  | adjudicated (reason : String)
  /-- The sweep holds the reserve. -/
  | stranded
  /-- The sweep gives the reserve back. -/
  | expired
  deriving DecidableEq

namespace Closing

/-- The terminal state of the crystal. -/
def state : Closing → TerminalState
  | .committed _ => .committed
  | .adjudicated _ | .stranded => .stranded
  | .expired => .expired

/-- The escrow row afterwards. -/
def row (e : EscrowRow) : Closing → EscrowRow
  | .committed amount => e.commit amount
  | .adjudicated reason => e.finish .stranded (String.ofList (reason.toList.take 255))
  | .stranded => e.finish .stranded "HORIZON_STRANDED"
  | .expired => e.finish .expired "HORIZON_EXPIRED"

/-- What goes back to the account. -/
def refund (reserved : Money) : Closing → Money
  | .committed amount => max 0 (reserved - amount)
  | .adjudicated _ | .expired => reserved
  | .stranded => 0

/-- The type of the closing event. -/
def eventType : Closing → DecisionType
  | .committed _ => .committedFinal
  | .adjudicated _ | .stranded => .strandedHold
  | .expired => .horizonExpired

/-- The `exposure_delta` of the closing event. -/
def delta (reserved : Money) : Closing → Money
  | .committed amount => amount
  | .adjudicated _ | .stranded => 0
  | .expired => reserved

/-- Whether the closing event names its source. -/
def manual : Closing → Bool
  | .adjudicated _ => true
  | _ => false

variable (k : Closing) (e : EscrowRow)

@[simp] theorem row_operationId : (k.row e).operationId = e.operationId := by cases k <;> rfl

@[simp] theorem row_crystalId : (k.row e).crystalId = e.crystalId := by cases k <;> rfl

@[simp] theorem row_accountId : (k.row e).accountId = e.accountId := by cases k <;> rfl

@[simp] theorem row_reservedExposure : (k.row e).reservedExposure = e.reservedExposure := by
  cases k <;> rfl

@[simp] theorem row_status : (k.row e).status = k.state.status := by cases k <;> rfl

end Closing

/-- A crystal with its escrow row and the way in which it is closed. -/
structure Resolution where
  crystal : CrystalRow
  escrow : EscrowRow
  closing : Closing

/-- What goes back to the account of a closed crystal. -/
def Resolution.refund (x : Resolution) : Money := x.closing.refund x.escrow.reservedExposure

/-! ## Events -/

/-- What one event says about exposure. -/
structure Posting where
  eventType : DecisionType
  amount : Money
  /-- Whether the metadata names a source. -/
  manual : Bool

/-- The columns of an event that say whose exposure moved, by how much and why. -/
structure Entry where
  operationId : String
  crystalId : Option String
  accountId : String
  eventType : String
  amount : Money
  manual : Bool

/-- Whether the metadata of an event names a source; only an adjudication does. -/
def DecisionEvent.manual (r : DecisionEvent) : Bool :=
  match r.metadata with
  | .obj fields => (fields.lookup "source").isSome
  | _ => false

def DecisionEvent.entry (r : DecisionEvent) : Entry :=
  ⟨r.operationId, r.crystalId, r.accountId, r.eventType, r.exposureDelta, r.manual⟩

def DecisionDraft.entry (e : DecisionDraft) : Entry :=
  ⟨e.operationId, e.crystalId, e.accountId, e.eventType.text, e.exposureDelta,
    (e.metadata.lookup "source").isSome⟩

/-- The entry of a posting for a crystal. -/
def Posting.entry (c : CrystalRow) (e : EscrowRow) (p : Posting) : Entry :=
  ⟨c.operationId, some c.crystalId, e.accountId, p.eventType.text, p.amount, p.manual⟩

@[simp] theorem DecisionDraft.sealed_entry (d : Deployment) (e : DecisionDraft)
    (rows : List DecisionEvent) (eventId : Int) :
    (e.sealed d rows eventId).entry = e.entry := rfl

/-- The events are kept and the postings of a crystal are appended. -/
def Logged (rows rows' : List DecisionEvent) (c : CrystalRow) (e : EscrowRow)
    (ps : List Posting) : Prop :=
  ∃ es, rows' = rows ++ es ∧ es.map DecisionEvent.entry = ps.map (Posting.entry c e)

section Logged

variable {rows rows' rows'' : List DecisionEvent} {c : CrystalRow} {e : EscrowRow}
  {ps qs : List Posting}

theorem Logged.refl (rows : List DecisionEvent) (c : CrystalRow) (e : EscrowRow) :
    Logged rows rows c e [] := ⟨[], (List.append_nil rows).symm, rfl⟩

theorem Logged.trans (h : Logged rows rows' c e ps) (h' : Logged rows' rows'' c e qs) :
    Logged rows rows'' c e (ps ++ qs) := by
  obtain ⟨es, rfl, he⟩ := h
  obtain ⟨es', rfl, he'⟩ := h'
  exact ⟨es ++ es', List.append_assoc .., by rw [List.map_append, he, he', List.map_append]⟩

/-- An event afterwards was there before or is one of the postings. -/
theorem Logged.mem (h : Logged rows rows' c e ps) {r : DecisionEvent} (hr : r ∈ rows') :
    r ∈ rows ∨ ∃ p ∈ ps, r.entry = p.entry c e := by
  obtain ⟨es, rfl, he⟩ := h
  rcases List.mem_append.mp hr with hr | hr
  · exact Or.inl hr
  · have hmem : r.entry ∈ ps.map (Posting.entry c e) := he ▸ List.mem_map_of_mem hr
    obtain ⟨p, hp, hpe⟩ := List.mem_map.mp hmem
    exact Or.inr ⟨p, hp, hpe.symm⟩

/-- A quantity of entries, summed over the events, follows the postings. -/
theorem Logged.sum_eq (h : Logged rows rows' c e ps) (g : Entry → ℤ) :
    (rows'.map fun r => g r.entry).sum =
      (rows.map fun r => g r.entry).sum + (ps.map fun p => g (p.entry c e)).sum := by
  obtain ⟨es, rfl, he⟩ := h
  have hes : (es.map fun r => g r.entry) = ps.map fun p => g (p.entry c e) := by
    have hg := congrArg (List.map g) he
    rwa [List.map_map, List.map_map] at hg
  rw [List.map_append, List.sum_append, hes]

/-- The condition is met by some event exactly when it was before or a posting meets it. -/
theorem Logged.any_eq (h : Logged rows rows' c e ps) (g : Entry → Bool) :
    (rows'.any fun r => g r.entry) =
      ((rows.any fun r => g r.entry) || ps.any fun p => g (p.entry c e)) := by
  obtain ⟨es, rfl, he⟩ := h
  have hes : (es.any fun r => g r.entry) = ps.any fun p => g (p.entry c e) := by
    have hg := congrArg (fun l => l.any g) he
    simpa only [List.any_map, Function.comp_def] using hg
  rw [List.any_append, hes]

end Logged

/-- A posting of the drift control moves no exposure. -/
def Posting.IsDrift (p : Posting) : Prop :=
  (p.eventType = .driftTolerated ∨ p.eventType = .driftEnforced) ∧ p.amount = 0 ∧ p.manual = false

/-- The posting of a closing. -/
def Resolution.posting (x : Resolution) : Posting :=
  ⟨x.closing.eventType, x.closing.delta x.escrow.reservedExposure, x.closing.manual⟩

/-- The posting of an opening. -/
def openPosting (e : EscrowRow) : Posting := ⟨.crystalCreated, -e.reservedExposure, false⟩

/-! ## The two moves -/

/-- The tables that no transaction of the spine changes. -/
structure SameRegistries (db db' : Database) : Prop where
  instrumentPolicyRegistry : db'.instrumentPolicyRegistry = db.instrumentPolicyRegistry
  platformRegistry : db'.platformRegistry = db.platformRegistry
  crystalMeshRules : db'.crystalMeshRules = db.crystalMeshRules

/-- An account's balance grows by an amount. -/
abbrev Credited (db db' : Database) (accountId : String) (amount : Money) : Prop :=
  Table.Adds Account.balance db.accountLedgers db'.accountLedgers accountId amount

/-- A crystal is opened and its reserve is taken. -/
structure Opens (db : Database) (c : CrystalRow) (e : EscrowRow) (db' : Database) : Prop where
  newCrystal : db.governanceCrystals.find? c.crystalId = none
  newEscrow : db.commitEscrowLedger.find? e.operationId = none
  terminalState : c.terminalState = none
  status : e.status = .crystallized
  crystalId : e.crystalId = c.crystalId
  operationId : e.operationId = c.operationId
  reserved : 0 ≤ e.reservedExposure
  crystals : db'.governanceCrystals = db.governanceCrystals.put c
  escrows : db'.commitEscrowLedger = db.commitEscrowLedger.put e
  accounts : Credited db db' e.accountId (-e.reservedExposure)
  events : Logged db.decisionEvents.rows db'.decisionEvents.rows c e [openPosting e]
  registries : SameRegistries db db'

/-- A stored crystal that is open, with its escrow row. -/
structure IsOpen (db : Database) (c : CrystalRow) (e : EscrowRow) : Prop where
  crystal : db.governanceCrystals.find? c.crystalId = some c
  escrow : db.commitEscrowLedger.find? e.operationId = some e
  terminalState : c.terminalState = none
  status : e.status = .crystallized
  crystalId : e.crystalId = c.crystalId
  operationId : e.operationId = c.operationId

/-- An open crystal is closed. -/
structure Closes (db : Database) (x : Resolution) (db' : Database) : Prop extends
    IsOpen db x.crystal x.escrow where
  committed : ∀ amount, x.closing = .committed amount → 0 ≤ amount
  crystals : db'.governanceCrystals =
    db.governanceCrystals.put (x.crystal.close x.closing.state)
  escrows : db'.commitEscrowLedger = db.commitEscrowLedger.put (x.closing.row x.escrow)
  accounts : Credited db db' x.escrow.accountId x.refund
  events : ∃ drift, (∀ p ∈ drift, Posting.IsDrift p) ∧
    Logged db.decisionEvents.rows db'.decisionEvents.rows x.crystal x.escrow
      (drift ++ [x.posting])
  registries : SameRegistries db db'

/-- Crystals are closed one after the other. -/
def ClosesAll : Database → List Resolution → Database → Prop
  | db, [], db' => db' = db
  | db, x :: xs, db' => ∃ mid, Closes db x mid ∧ ClosesAll mid xs db'

theorem ClosesAll.single {db db' : Database} {x : Resolution} (h : Closes db x db') :
    ClosesAll db [x] db' := ⟨db', h, rfl⟩

/-- What every closing keeps is kept by a sequence of them. -/
theorem ClosesAll.keeps {I : Database → Prop} (hclose : ∀ {db x db'}, Closes db x db' → I db → I db')
    {xs : List Resolution} {db db' : Database} (h : ClosesAll db xs db') (hI : I db) : I db' := by
  induction xs generalizing db with
  | nil => exact h ▸ hI
  | cons x xs ih =>
    obtain ⟨mid, hx, hrest⟩ := h
    exact ih hrest (hclose hx hI)

/-! ## Crystals, escrow rows and events agree -/

/-- The escrow status that goes with the terminal state of a crystal. -/
def statusOf : Option TerminalState → CommitStatus
  | none => .crystallized
  | some state => state.status

theorem statusOf_injective : Function.Injective statusOf := by
  rintro (_ | _ | _ | _) (_ | _ | _ | _) h <;> first | rfl | cases h

/-- The invariant of the tables. -/
structure Agrees (db : Database) : Prop where
  /-- A crystal has its escrow row, in the status of its terminal state. -/
  paired : ∀ c ∈ db.governanceCrystals.rows, ∃ e,
    db.commitEscrowLedger.find? c.operationId = some e ∧ e.crystalId = c.crystalId ∧
      e.status = statusOf c.terminalState
  /-- An escrow row belongs to a crystal of the same operation. -/
  known : ∀ e ∈ db.commitEscrowLedger.rows, ∃ c,
    db.governanceCrystals.find? e.crystalId = some c ∧ c.operationId = e.operationId
  reserves : ∀ e ∈ db.commitEscrowLedger.rows, 0 ≤ e.reservedExposure
  /-- An event is about a crystal, and about its creation while the crystal is open. -/
  events : ∀ r ∈ db.decisionEvents.rows, ∃ c,
    r.crystalId = some c.crystalId ∧ db.governanceCrystals.find? c.crystalId = some c ∧
      r.operationId = c.operationId ∧
      (c.terminalState = none → r.eventType = DecisionType.crystalCreated.text)

section Agrees

variable {db db' : Database} {c : CrystalRow} {e : EscrowRow} {x : Resolution}

/-- The escrow row of a crystal is the only one that names it. -/
theorem Agrees.escrow_unique (h : Agrees db) {e e' : EscrowRow}
    (he : e ∈ db.commitEscrowLedger.rows) (he' : e' ∈ db.commitEscrowLedger.rows)
    (hid : e.crystalId = e'.crystalId) : e = e' := by
  obtain ⟨c, hc, hop⟩ := h.known e he
  obtain ⟨c', hc', hop'⟩ := h.known e' he'
  rw [hid, hc'] at hc
  obtain rfl := Option.some.inj hc
  have hkey : e.operationId = e'.operationId := hop.symm.trans hop'
  have hfind := Table.find?_of_mem he
  rw [hkey, Table.find?_of_mem he'] at hfind
  exact (Option.some.inj hfind).symm

/-- What the join of a crystal finds. -/
theorem Agrees.join (h : Agrees db) {crystalId : String}
    (hj : crystalJoin db crystalId = some (c, e)) :
    db.governanceCrystals.find? crystalId = some c ∧ c.crystalId = crystalId ∧
      db.commitEscrowLedger.find? e.operationId = some e ∧ e.crystalId = c.crystalId ∧
      e.operationId = c.operationId ∧ e.status = statusOf c.terminalState := by
  unfold crystalJoin at hj
  split at hj
  · next c' e' hc he =>
    obtain ⟨hc', he'⟩ := Prod.mk.inj (Option.some.inj hj)
    subst hc' he'
    have hid := Table.find?_some_key hc
    have hmem := List.mem_of_find?_eq_some he
    have hec : e'.crystalId = crystalId := by simpa using List.find?_some he
    obtain ⟨e, he', hid', hstatus⟩ := h.paired c' (Table.mem_of_find? hc)
    have heq := h.escrow_unique hmem (Table.mem_of_find? he') (hec.trans (hid'.trans hid).symm)
    subst heq
    exact ⟨hc, hid, Table.find?_of_mem hmem, hid', Table.find?_some_key he', hstatus⟩
  · cases hj

/-- A stored crystal joins with its escrow row. -/
theorem Agrees.join_of_find? (h : Agrees db) {crystalId : String}
    (hc : db.governanceCrystals.find? crystalId = some c) :
    ∃ e, crystalJoin db crystalId = some (c, e) := by
  obtain ⟨e, he, hid, -⟩ := h.paired c (Table.mem_of_find? hc)
  have hsome : (db.commitEscrowLedger.rows.find? fun x => x.crystalId = crystalId).isSome := by
    rw [List.find?_isSome]
    exact ⟨e, Table.mem_of_find? he, by simpa using hid.trans (Table.find?_some_key hc)⟩
  obtain ⟨e', he'⟩ := Option.isSome_iff_exists.mp hsome
  exact ⟨e', by simp only [crystalJoin, hc, he']⟩

theorem Agrees.isOpen (h : Agrees db) {crystalId : String}
    (hj : crystalJoin db crystalId = some (c, e)) (ht : c.terminalState = none) :
    IsOpen db c e := by
  obtain ⟨hc, hid, he, hec, hop, hstatus⟩ := h.join hj
  rw [ht] at hstatus
  exact ⟨hid ▸ hc, he, ht, hstatus, hec, hop⟩

/-- An update of the escrow rows that name an open crystal changes its one row. -/
theorem IsOpen.updateWhere_escrow (h : IsOpen db c e) (hdb : Agrees db) (f : EscrowRow → EscrowRow)
    (hf : ∀ r, (f r).operationId = r.operationId) :
    db.commitEscrowLedger.updateWhere (fun r => r.crystalId = c.crystalId) f hf =
      db.commitEscrowLedger.put (f e) := by
  have hmem := Table.mem_of_find? h.escrow
  refine Table.updateWhere_eq_put hmem ?_
  intro r hr
  rw [decide_eq_true_iff]
  constructor
  · intro hid
    exact hdb.escrow_unique hr hmem (hid.trans h.crystalId.symm)
  · rintro rfl
    exact h.crystalId

theorem Opens.agrees (h : Opens db c e db') (hdb : Agrees db) : Agrees db' where
  paired := by
    intro c' hc'
    have hfind := Table.find?_of_mem hc'
    rw [h.crystals, Table.find?_put] at hfind
    rw [h.escrows, Table.find?_put]
    split_ifs at hfind with hid
    · obtain rfl := Option.some.inj hfind
      exact ⟨e, if_pos h.operationId.symm, h.crystalId, by rw [h.status, h.terminalState]; rfl⟩
    · obtain ⟨e', he', hrest⟩ := hdb.paired c' (Table.mem_of_find? hfind)
      have hne : c'.operationId ≠ e.operationId := by
        intro heq
        rw [heq, h.newEscrow] at he'
        cases he'
      exact ⟨e', by rw [if_neg hne]; exact he', hrest⟩
  known := by
    intro e' he'
    have hfind := Table.find?_of_mem he'
    rw [h.escrows, Table.find?_put] at hfind
    rw [h.crystals, Table.find?_put]
    split_ifs at hfind with hid
    · obtain rfl := Option.some.inj hfind
      exact ⟨c, if_pos h.crystalId, h.operationId.symm⟩
    · obtain ⟨c', hc', hop⟩ := hdb.known e' (Table.mem_of_find? hfind)
      have hne : e'.crystalId ≠ c.crystalId := by
        intro heq
        rw [heq, h.newCrystal] at hc'
        cases hc'
      exact ⟨c', by rw [if_neg hne]; exact hc', hop⟩
  reserves := by
    intro e' he'
    have hfind := Table.find?_of_mem he'
    rw [h.escrows, Table.find?_put] at hfind
    split_ifs at hfind
    · obtain rfl := Option.some.inj hfind
      exact h.reserved
    · exact hdb.reserves e' (Table.mem_of_find? hfind)
  events := by
    intro r hr
    rw [h.crystals]
    rcases h.events.mem hr with hr | ⟨p, hp, hentry⟩
    · obtain ⟨c', hid, hc', hrest⟩ := hdb.events r hr
      have hne : c'.crystalId ≠ c.crystalId := by
        intro heq
        rw [heq, h.newCrystal] at hc'
        cases hc'
      exact ⟨c', hid, by rw [Table.find?_put, if_neg hne]; exact hc', hrest⟩
    · obtain rfl := List.mem_singleton.mp hp
      exact ⟨c, congrArg Entry.crystalId hentry, Table.find?_put_self _ _,
        congrArg Entry.operationId hentry, fun _ => congrArg Entry.eventType hentry⟩

theorem Closes.agrees (h : Closes db x db') (hdb : Agrees db) : Agrees db' where
  paired := by
    intro c' hc'
    have hfind := Table.find?_of_mem hc'
    rw [h.crystals, Table.find?_put] at hfind
    rw [h.escrows, Table.find?_put, Closing.row_operationId]
    split_ifs at hfind with hid
    · obtain rfl := Option.some.inj hfind
      refine ⟨x.closing.row x.escrow, if_pos h.operationId.symm, ?_, ?_⟩
      · rw [Closing.row_crystalId]
        exact h.crystalId
      · rw [Closing.row_status]
        rfl
    · obtain ⟨e', he', hid', hstatus⟩ := hdb.paired c' (Table.mem_of_find? hfind)
      have hne : c'.operationId ≠ x.escrow.operationId := by
        intro heq
        rw [heq, h.escrow] at he'
        obtain rfl := Option.some.inj he'
        exact hid (hid'.symm.trans h.crystalId)
      exact ⟨e', by rw [if_neg hne]; exact he', hid', hstatus⟩
  known := by
    intro e' he'
    have hfind := Table.find?_of_mem he'
    rw [h.escrows, Table.find?_put, Closing.row_operationId] at hfind
    rw [h.crystals, Table.find?_put]
    split_ifs at hfind with hid
    · obtain rfl := Option.some.inj hfind
      refine ⟨x.crystal.close x.closing.state, if_pos ?_, ?_⟩
      · rw [Closing.row_crystalId]
        exact h.crystalId
      · rw [Closing.row_operationId]
        exact h.operationId.symm
    · obtain ⟨c', hc', hop⟩ := hdb.known e' (Table.mem_of_find? hfind)
      have hne : e'.crystalId ≠ x.crystal.crystalId := by
        intro heq
        rw [heq, h.crystal] at hc'
        obtain rfl := Option.some.inj hc'
        exact hid (hop.symm.trans h.operationId.symm)
      exact ⟨c', by rw [show (x.crystal.close x.closing.state).crystalId = x.crystal.crystalId from
        rfl, if_neg hne]; exact hc', hop⟩
  reserves := by
    intro e' he'
    have hfind := Table.find?_of_mem he'
    rw [h.escrows, Table.find?_put] at hfind
    split_ifs at hfind
    · obtain rfl := Option.some.inj hfind
      rw [Closing.row_reservedExposure]
      exact hdb.reserves _ (Table.mem_of_find? h.escrow)
    · exact hdb.reserves e' (Table.mem_of_find? hfind)
  events := by
    obtain ⟨drift, -, hlogged⟩ := h.events
    intro r hr
    rw [h.crystals]
    rcases hlogged.mem hr with hr | ⟨p, -, hentry⟩
    · obtain ⟨c', hid, hc', hop, hopen⟩ := hdb.events r hr
      by_cases heq : c'.crystalId = x.crystal.crystalId
      · rw [heq, h.crystal] at hc'
        obtain rfl := Option.some.inj hc'
        refine ⟨x.crystal.close x.closing.state, hid, Table.find?_put_self _ _, hop, ?_⟩
        intro hnone
        cases hnone
      · exact ⟨c', hid, by rw [Table.find?_put]; exact (if_neg heq).trans hc', hop, hopen⟩
    · refine ⟨x.crystal.close x.closing.state, congrArg Entry.crystalId hentry,
        Table.find?_put_self _ _, congrArg Entry.operationId hentry, ?_⟩
      intro hnone
      cases hnone

end Agrees

end Governor.Finance
