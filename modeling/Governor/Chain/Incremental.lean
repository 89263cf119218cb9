import Mathlib
import Governor.Chain.Append

/-!
# Incremental verification of append-only histories

Verifications run beside the appends of any number of transactions. Each reads one
snapshot of the table and of the stored checkpoint; the checkpoint that it computes is
written later, in any order with the others. The invariant ties every checkpoint,
stored or not yet stored, to a prefix of the committed chain. On such a checkpoint the
three paths of `verify_ledger_chain` agree with a full scan.
-/

namespace Governor.Chain

open Ledger

/-! ## Checkpoints of a verified prefix -/

/-- The checkpoint of a chain that ends with the given row. -/
structure Covers (d : Deployment) (before : List LedgerEvent) (last : LedgerEvent)
    (c : VerifyCheckpoint) : Prop where
  linked : (ledgerSealing d).Linked genesisHash (before ++ [last])
  eventId : c.lastVerifiedEventId = last.eventId
  headHash : c.verifiedHeadHash = (ledgerSealing d).digest last
  sealedCount : c.sealedCount = before.length + 1
  totalEvents : c.totalEvents = before.length + 1

/-- The checkpoint describes a verified prefix of the rows. -/
def Verified (d : Deployment) (rows : List LedgerEvent) (c : VerifyCheckpoint) : Prop :=
  ∃ before last rest, rows = before ++ last :: rest ∧ Covers d before last c

/-- What a caller compares: everything but the break and the path taken. -/
def LedgerChainVerificationResult.verdict (r : LedgerChainVerificationResult) :
    Bool × Int × Int × Int × Option Hash :=
  (r.valid, r.sealedCount, r.unsealedCount, r.totalEvents, r.headHash)

variable {d : Deployment} {t : EventTable} {lastId : Int} {c : VerifyCheckpoint}
  {before rest rows : List LedgerEvent} {last : LedgerEvent}

theorem Verified.mono {rows' : List LedgerEvent} (h : Verified d rows c) (hp : rows <+: rows') :
    Verified d rows' c := by
  obtain ⟨before, last, rest, hrows, hcovers⟩ := h
  obtain ⟨added, rfl⟩ := hp
  refine ⟨before, last, rest ++ added, ?_, hcovers⟩
  rw [hrows, List.append_assoc, List.cons_append]

/-- The rows after a row of an ordered table are those with greater ids. -/
theorem rowsAfter_eq (h : EventLog.Ordered ⟨t.rows, lastId⟩)
    (hrows : t.rows = before ++ last :: rest) : rowsAfter t last.eventId = rest := by
  have hinc := h.increasing
  rw [hrows] at hinc
  obtain ⟨-, hlast, hbefore⟩ := List.pairwise_append.mp hinc
  obtain ⟨hrest, hsorted⟩ := List.pairwise_cons.mp hlast
  have hleft : before.filter (fun r => last.eventId < r.eventId) = [] := by
    rw [List.filter_eq_nil_iff]
    intro r hr
    have hlt := hbefore r hr last List.mem_cons_self
    rw [decide_eq_true_eq]
    omega
  have hright : rest.filter (fun r => last.eventId < r.eventId) = rest := by
    rw [List.filter_eq_self]
    intro r hr
    exact decide_eq_true (hrest r hr)
  rw [rowsAfter, hrows, List.filter_append, hleft, List.filter_cons_of_neg (by simp), hright,
    List.nil_append]
  exact List.Pairwise.insertionSort_eq (hsorted.imp fun hab => le_of_lt hab)

theorem lastIdOr_append (fromEventId : Int) (before rest : List LedgerEvent)
    (last : LedgerEvent) :
    lastIdOr fromEventId (before ++ last :: rest) = lastIdOr last.eventId rest := by
  induction before generalizing fromEventId with
  | nil => exact lastIdOr_cons fromEventId last rest
  | cons r rs ih => rw [List.cons_append, lastIdOr_cons, ih]

/-- The anchor row of a covered prefix is there, with the hash of the checkpoint. -/
theorem Covers.find? (hc : Covers d before last c) (hrows : t.rows = before ++ last :: rest) :
    t.find? c.lastVerifiedEventId = some last ∧
      last.rowHash = some ((ledgerSealing d).digest last) := by
  rw [hc.eventId]
  exact ⟨Table.find?_of_mem (by simp [hrows]), hc.linked.hash_eq last (by simp)⟩

/-- Past a verified prefix a chain is a chain from the hash of the prefix. -/
theorem Covers.linked_iff (hc : Covers d before last c) :
    (ledgerSealing d).Linked genesisHash (before ++ last :: rest) ↔
      (ledgerSealing d).Linked ((ledgerSealing d).digest last) rest := by
  have hsplit : before ++ last :: rest = (before ++ [last]) ++ rest := by simp
  rw [hsplit, Sealing.linked_append, Sealing.tip_concat, and_iff_right hc.linked]

/-- From the checkpoint of a prefix, the tail scan of a chain returns what the full scan
returns. -/
theorem verifyLedgerRows_of_covers (h : EventLog.Ordered ⟨t.rows, lastId⟩)
    (hrows : t.rows = before ++ last :: rest) (hc : Covers d before last c)
    (hlinked : (ledgerSealing d).Linked genesisHash t.rows) :
    verifyLedgerRows d t c.lastVerifiedEventId c.sealedCount =
      linkedState d 0 0 genesisHash t.rows := by
  obtain ⟨hfind, hhash⟩ := hc.find? hrows
  have hpos : 0 < last.eventId := h.positive last (by simp [hrows])
  have hafter := rowsAfter_eq h hrows
  have hrest : (ledgerSealing d).Linked ((ledgerSealing d).digest last) rest := by
    rw [hrows] at hlinked
    exact hc.linked_iff.mp hlinked
  rw [hc.eventId] at hfind ⊢
  rw [verifyLedgerRows_anchored hpos hfind hhash (hafter.symm ▸ hrest), hafter, hc.sealedCount,
    anchoredState, linkedState, hrows, lastIdOr_append]
  have hsplit : before ++ last :: rest = (before ++ [last]) ++ rest := by simp
  congr 1
  · simp only [List.length_append, List.length_cons]
    push_cast
    ring
  · rw [if_neg (by simp), hsplit, Sealing.tip_append, Sealing.tip_concat]

/-- The checkpoint that a valid scan of the whole chain saves covers it. -/
theorem verified_checkpoint {head : Hash} (hlinked : (ledgerSealing d).Linked genesisHash rows)
    (hhead : (linkedState d 0 0 genesisHash rows).headHash = some head) :
    Verified d rows ((linkedState d 0 0 genesisHash rows).checkpoint head rows.length) := by
  cases rows using List.reverseRecOn with
  | nil => simp [linkedState] at hhead
  | append_singleton before last =>
    simp only [linkedState, List.append_eq_nil_iff, reduceCtorEq, and_false, ite_false,
      Sealing.tip_concat, Option.some.injEq] at hhead
    refine ⟨before, last, [], rfl, hlinked, ?_, hhead.symm, ?_, ?_⟩
    · exact lastIdOr_append 0 before [] last
    · simp [LedgerVerifyState.checkpoint, linkedState]
    · simp [LedgerVerifyState.checkpoint]

/-! ## The three paths agree -/

/-- The outcome of a verification agrees with a full scan, and what it saves is verified. -/
structure Agrees (d : Deployment) (t : EventTable)
    (out : LedgerChainVerificationResult × Option VerifyCheckpoint) : Prop where
  verdict : out.1.verdict = (verifyFull d t false).1.verdict
  saved : ∀ c ∈ out.2, Verified d t.rows c

/-- The verdict on a chain. -/
theorem verifyFull_verdict (h : EventLog.Ordered ⟨t.rows, lastId⟩)
    (hlinked : (ledgerSealing d).Linked genesisHash t.rows) (save : Bool) :
    (verifyFull d t save).1.verdict = (true, (t.rows.length : Int), 0, (t.rows.length : Int),
      (linkedState d 0 0 genesisHash t.rows).headHash) := by
  have horder : orderBy LedgerEvent.eventId t.rows = t.rows := h.orderBy_eq
  have hfull := verifyLedgerRows_linked (t := t) (horder.symm ▸ hlinked)
  rw [horder] at hfull
  simp [LedgerChainVerificationResult.verdict, verifyFull, hfull, linkedState]

theorem verifyFull_agrees (h : EventLog.Ordered ⟨t.rows, lastId⟩) (save : Bool) :
    Agrees d t (verifyFull d t save) := by
  refine ⟨rfl, ?_⟩
  intro c hc
  have horder : orderBy LedgerEvent.eventId t.rows = t.rows := h.orderBy_eq
  simp only [verifyFull] at hc
  split_ifs at hc with hsave
  · simp only [Bool.and_eq_true] at hsave
    have hlinked := (verifyLedgerRows_valid_iff t).mp hsave.1.1
    rw [verifyLedgerRows_linked hlinked, horder] at hc
    obtain ⟨head, hhead, rfl⟩ := Option.map_eq_some_iff.mp hc
    rw [horder] at hlinked
    exact verified_checkpoint hlinked hhead
  · cases hc

/-- A checkpoint hit means that nothing was appended since. -/
theorem rest_eq_nil_of_hit {head : Hash} (hrows : t.rows = before ++ last :: rest)
    (hc : Covers d before last c) (hhit : checkpointHit t c head = true) :
    rest = [] ∧ head = (ledgerSealing d).digest last := by
  simp only [checkpointHit, Bool.and_eq_true, decide_eq_true_eq] at hhit
  obtain ⟨⟨hhead, htotal⟩, -⟩ := hhit
  rw [hc.totalEvents, hrows, List.length_append, List.length_cons] at htotal
  refine ⟨List.eq_nil_of_length_eq_zero ?_, hhead.symm.trans hc.headHash⟩
  push_cast at htotal
  omega

theorem verifyIncremental_agrees {head : Hash}
    {out : LedgerChainVerificationResult × Option VerifyCheckpoint}
    (h : EventLog.Ordered ⟨t.rows, lastId⟩) (hc : Verified d t.rows c)
    (hout : verifyIncremental d t c head = some out) : Agrees d t out := by
  obtain ⟨before, last, rest, hrows, hcovers⟩ := hc
  rw [verifyIncremental] at hout
  split_ifs at hout with hhit
  · -- the checkpoint answers: it covers the whole table
    obtain ⟨rfl, rfl⟩ := rest_eq_nil_of_hit hrows hcovers hhit
    have hlinked : (ledgerSealing d).Linked genesisHash t.rows := hrows ▸ hcovers.linked
    cases hout
    refine ⟨?_, by simp⟩
    rw [verifyFull_verdict h hlinked, linkedState, hrows]
    simp [LedgerChainVerificationResult.verdict, hcovers.sealedCount, Sealing.tip_concat]
  · -- the tail scan answers: the whole table is a chain, and the scans agree on it
    simp only at hout
    split_ifs at hout with htail
    obtain ⟨head', hhead', rfl⟩ := Option.map_eq_some_iff.mp hout
    rw [Bool.and_eq_true] at htail
    obtain ⟨hfind, hhash⟩ := hcovers.find? hrows
    have hpos : 0 < c.lastVerifiedEventId := by
      rw [hcovers.eventId]
      exact h.positive last (by simp [hrows])
    have hlinked : (ledgerSealing d).Linked genesisHash t.rows := by
      obtain ⟨g, hg, hrest⟩ := linked_of_anchored_valid hpos hfind htail.1 (by simp [hhead'])
      rw [hcovers.eventId, rowsAfter_eq h hrows] at hrest
      rw [hrows, hcovers.linked_iff, Option.some.inj (hhash.symm.trans hg)]
      exact hrest
    have hstate := verifyLedgerRows_of_covers h hrows hcovers hlinked
    rw [hstate] at hhead'
    simp only [hstate]
    refine ⟨?_, ?_⟩
    · rw [verifyFull_verdict h hlinked, hhead']
      simp [LedgerChainVerificationResult.verdict, linkedState]
    · rintro c' hc'
      cases hc'
      exact verified_checkpoint hlinked hhead'

/-- On a verified checkpoint, or none, `verify_ledger_chain` saves verified checkpoints only,
and both modes answer alike. -/
theorem verifyLedgerChain_agrees {stored : Option VerifyCheckpoint}
    (h : EventLog.Ordered ⟨t.rows, lastId⟩) (hstored : ∀ c ∈ stored, Verified d t.rows c)
    (schema : ChainSchema) (incremental : Bool) :
    (verifyLedgerChain d schema t stored incremental).1.verdict =
      (verifyLedgerChain d schema t stored false).1.verdict ∧
    ∀ c ∈ (verifyLedgerChain d schema t stored incremental).2, Verified d t.rows c := by
  have hpath : Agrees d t ((stored.bind fun c =>
      (headHash t).bind (verifyIncremental d t c)).getD (verifyFull d t true)) := by
    cases hsome : stored.bind fun c => (headHash t).bind (verifyIncremental d t c) with
    | none => exact verifyFull_agrees h true
    | some out =>
      obtain ⟨c, hc, hout⟩ := Option.bind_eq_some_iff.mp hsome
      obtain ⟨head, -, hout⟩ := Option.bind_eq_some_iff.mp hout
      exact verifyIncremental_agrees h (hstored c hc) hout
  simp only [verifyLedgerChain, Bool.false_and, Bool.false_eq_true, ite_false]
  split_ifs
  · exact ⟨rfl, by simp⟩
  · exact ⟨rfl, by simp⟩
  · exact ⟨hpath.verdict, hpath.saved⟩
  · exact ⟨rfl, (verifyFull_agrees h false).saved⟩

/-! ## Verification beside the appends -/

/-- The database with the checkpoint row, and the checkpoints still to be written. -/
structure VerifyWorld where
  chain : ChainState
  /-- The row of `ledger_chain_verify_checkpoints`. -/
  stored : Option VerifyCheckpoint
  /-- Checkpoints of verifications that have read and not yet saved. -/
  pending : List VerifyCheckpoint

/-- What happens next. -/
inductive VerifyAction where
  /-- A statement of an appending transaction. -/
  | txn (i : Nat) (a : TxnAction)
  /-- `verify_ledger_chain` reads its snapshot. -/
  | verify (incremental : Bool)
  /-- `_persist_checkpoint` of the verification at the given place. -/
  | persist (i : Nat)

namespace VerifyWorld

/-- No events and no checkpoint. -/
def initial : VerifyWorld := ⟨ChainState.initial, none, []⟩

/-- `verify_ledger_chain` on the present snapshot. -/
def verify (d : Deployment) (schema : ChainSchema) (w : VerifyWorld) (incremental : Bool) :
    LedgerChainVerificationResult × Option VerifyCheckpoint :=
  verifyLedgerChain d schema w.chain.committed w.stored incremental

/-- One step. -/
def step (d : Deployment) (schema : ChainSchema) (w : VerifyWorld) : VerifyAction → VerifyWorld
  | .txn i a => { w with chain := w.chain.step d i a }
  | .verify incremental =>
    { w with pending := w.pending ++ (w.verify d schema incremental).2.toList }
  | .persist i =>
    match w.pending[i]? with
    | none => w
    | some c => { w with stored := some c, pending := w.pending.eraseIdx i }

/-- Steps in the order in which they happen. -/
def run (d : Deployment) (schema : ChainSchema) (w : VerifyWorld) (actions : List VerifyAction) :
    VerifyWorld :=
  actions.foldl (step d schema) w

theorem run_append (d : Deployment) (schema : ChainSchema) (w : VerifyWorld)
    (as bs : List VerifyAction) :
    w.run d schema (as ++ bs) = (w.run d schema as).run d schema bs :=
  List.foldl_append

/-- Transactions alone change the chain alone. -/
theorem run_txns (d : Deployment) (schema : ChainSchema) (w : VerifyWorld)
    (actions : List (Nat × TxnAction)) :
    w.run d schema (actions.map fun a => .txn a.1 a.2) =
      { w with chain := w.chain.run d actions } := by
  induction actions generalizing w with
  | nil => rfl
  | cons a as ih => exact ih (w.step d schema (.txn a.1 a.2))

/-- Every checkpoint, stored or pending, describes a verified prefix of the table. -/
structure Inv (d : Deployment) (w : VerifyWorld) : Prop where
  chain : w.chain.Inv d EventLog.empty
  stored : ∀ c ∈ w.stored, Verified d w.chain.committed.rows c
  pending : ∀ c ∈ w.pending, Verified d w.chain.committed.rows c

variable {schema : ChainSchema} {w : VerifyWorld}

theorem initial_inv : initial.Inv d :=
  ⟨ChainState.initial_inv, by simp [initial], by simp [initial]⟩

theorem Inv.ordered (h : w.Inv d) : w.chain.log.Ordered :=
  h.chain.committed.ordered EventLog.empty_ordered

theorem step_inv (h : w.Inv d) (a : VerifyAction) : (w.step d schema a).Inv d := by
  cases a with
  | txn i a =>
    have hkeeps := ChainState.step_committed_prefix h.chain i a
    refine ⟨ChainState.step_inv EventLog.empty_ordered h.chain i a, ?_, ?_⟩
    · exact fun c hc => (h.stored c hc).mono hkeeps
    · exact fun c hc => (h.pending c hc).mono hkeeps
  | verify incremental =>
    refine ⟨h.chain, h.stored, ?_⟩
    intro c hc
    rcases List.mem_append.mp hc with hc | hc
    · exact h.pending c hc
    · have hsaved := (verifyLedgerChain_agrees h.ordered h.stored schema incremental).2
      exact hsaved c (Option.mem_toList.mp hc)
  | persist i =>
    rw [step]
    split
    · exact h
    · next c hget =>
      refine ⟨h.chain, ?_, ?_⟩
      · rintro c' hc'
        cases hc'
        exact h.pending c (List.mem_of_getElem? hget)
      · exact fun c' hc' => h.pending c' (List.mem_of_mem_eraseIdx hc')

theorem run_inv (h : w.Inv d) (actions : List VerifyAction) : (w.run d schema actions).Inv d := by
  induction actions generalizing w with
  | nil => exact h
  | cons a as ih => exact ih (step_inv h a)

end VerifyWorld

/-- At every point of every run incremental verification answers as full verification does,
whatever checkpoint was written last. -/
theorem run_incremental_eq_full (d : Deployment) (schema : ChainSchema)
    (actions : List VerifyAction) :
    ((VerifyWorld.initial.run d schema actions).verify d schema true).1.verdict =
      ((VerifyWorld.initial.run d schema actions).verify d schema false).1.verdict := by
  have hinv : (VerifyWorld.initial.run d schema actions).Inv d :=
    VerifyWorld.run_inv VerifyWorld.initial_inv actions
  exact (verifyLedgerChain_agrees hinv.ordered hinv.stored schema true).1

end Governor.Chain
