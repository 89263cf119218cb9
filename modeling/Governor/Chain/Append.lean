import Mathlib
import Governor.Chain.Log

/-!
# Concurrent appends

Transactions append through `append_sealed_ledger_event`, statement by statement and
in any interleaving. Every statement reads what is committed at that moment and the
transaction's own writes. The advisory lock is taken before the first statement and
held until commit or rollback; the id sequence is shared and never rolled back.

The invariant says that the holder of the lock is the only transaction with writes,
and that what it sees is a log grown from the start of the run, apart from the row
that it has inserted and not sealed yet.
-/

namespace Governor.Chain

open Ledger

/-! ## The system -/

/-- Where a transaction stands in `append_sealed_ledger_event`. -/
inductive Stage where
  /-- Between two appends. -/
  | ready
  /-- `chain_append_lock` has been entered. -/
  | locked (e : EventDraft)
  /-- The row is inserted, its hash columns still null. -/
  | inserted (e : EventDraft)
  /-- `_seal_last_event` has read a row back. -/
  | selected (e : EventDraft) (row : LedgerEvent)
  /-- `seal_ledger_event` has read the predecessor's hash. -/
  | linked (e : EventDraft) (row : LedgerEvent) (prevHash : Hash)

/-- An open transaction: its stage, and the row versions that it has written. -/
structure AppendTxn where
  stage : Stage
  writes : List LedgerEvent

/-- A transaction that has not written anything. -/
def AppendTxn.idle : AppendTxn := ⟨.ready, []⟩

/-- The table as the transaction sees it. -/
def AppendTxn.visible (txn : AppendTxn) (committed : EventTable) : EventTable :=
  txn.writes.foldl Table.put committed

/-- The database, with every transaction that runs on it. -/
structure ChainState where
  committed : EventTable
  /-- The last id drawn from the sequence. -/
  lastId : Int
  /-- The transaction that holds the advisory lock. -/
  lock : Option Nat
  txns : Nat → AppendTxn

namespace ChainState

/-- No events, no transactions. -/
def initial : ChainState := ⟨Table.empty, 0, none, fun _ => AppendTxn.idle⟩

/-- What transaction `i` sees. -/
def visible (s : ChainState) (i : Nat) : EventTable := (s.txns i).visible s.committed

/-- The lock after transaction `i` has ended. -/
def lockAfter (s : ChainState) (i : Nat) : Option Nat := if s.lock = some i then none else s.lock

/-- `ROLLBACK`: the writes are lost, the ids drawn are not given back. -/
def rollback (s : ChainState) (i : Nat) : ChainState :=
  { s with lock := s.lockAfter i, txns := Function.update s.txns i AppendTxn.idle }

/-- `COMMIT`. -/
def commit (s : ChainState) (i : Nat) : ChainState :=
  { s with
    committed := s.visible i
    lock := s.lockAfter i
    txns := Function.update s.txns i AppendTxn.idle }

/-- `chain_append_lock`: the transaction waits while another one holds the lock. -/
def acquire (s : ChainState) (i : Nat) (e : EventDraft) : ChainState :=
  if s.lock = none ∨ s.lock = some i then
    { s with
      lock := some i
      txns := Function.update s.txns i ⟨.locked e, (s.txns i).writes⟩ }
  else s

/-- The next stage of transaction `i`, with the row version that its statement wrote. -/
def proceed (s : ChainState) (i : Nat) (stage : Stage) (written : Option LedgerEvent) :
    ChainState :=
  { s with txns := Function.update s.txns i ⟨stage, (s.txns i).writes ++ written.toList⟩ }

/-- `INSERT INTO ledger_events`; a duplicate id would abort the transaction. -/
def insertEvent (s : ChainState) (i : Nat) (e : EventDraft) : ChainState :=
  let drawn := { s with lastId := s.lastId + 1 }
  match (s.visible i).insert? (e.row (s.lastId + 1)) with
  | none => drawn.rollback i
  | some _ => drawn.proceed i (.inserted e) (some (e.row (s.lastId + 1)))

/-- The next statement of the append that transaction `i` is in. -/
def advance (d : Deployment) (s : ChainState) (i : Nat) : ChainState :=
  match (s.txns i).stage with
  | .ready => s
  | .locked e => s.insertEvent i e
  | .inserted e =>
    match latestEvent (s.visible i).rows e.idempotencyKey with
    | none => s.proceed i .ready none
    | some row => s.proceed i (.selected e row) none
  | .selected e row =>
    s.proceed i (.linked e row (predecessorHash (s.visible i).rows row.eventId)) none
  | .linked e row prevHash =>
    s.proceed i .ready (((s.visible i).find? row.eventId).map fun r =>
      r.seal prevHash (sealHash d e row prevHash))

end ChainState

/-- What a transaction does next. -/
inductive TxnAction where
  /-- Call `append_sealed_ledger_event`. -/
  | call (e : EventDraft)
  /-- Execute the next statement of the call. -/
  | advance
  /-- Commit, once the call has returned. -/
  | commit
  /-- Roll back, at any statement. -/
  | rollback

/-- One step of transaction `i`. -/
def ChainState.step (d : Deployment) (s : ChainState) (i : Nat) : TxnAction → ChainState
  | .call e =>
    match (s.txns i).stage with
    | .ready => s.acquire i e
    | _ => s
  | .advance => s.advance d i
  | .commit =>
    match (s.txns i).stage with
    | .ready => s.commit i
    | _ => s
  | .rollback => s.rollback i

/-- The steps of any number of transactions, in the order in which they happen. -/
def ChainState.run (d : Deployment) (s : ChainState) (actions : List (Nat × TxnAction)) :
    ChainState :=
  actions.foldl (fun s a => s.step d a.1 a.2) s

/-! ## The invariant -/

/-- The committed log. -/
def ChainState.log (s : ChainState) : EventLog := ⟨s.committed.rows, s.lastId⟩

/-- Rows that grew from a log and keep what is committed. -/
structure Extends (d : Deployment) (start : EventLog) (committed rows : List LedgerEvent)
    (lastId : Int) : Prop where
  grown : start.Grows d ⟨rows, lastId⟩
  keeps : committed <+: rows

/-- The rows seen after the `INSERT` of an event: a log, and the unsealed row. -/
structure Unsealed (d : Deployment) (start : EventLog) (committed : List LedgerEvent)
    (lastId : Int) (e : EventDraft) (rows visible : List LedgerEvent) : Prop where
  before : Extends d start committed rows (lastId - 1)
  visible_eq : visible = rows ++ [e.row lastId]

/-- What the holder of the lock sees, stage by stage. -/
def Stage.View (d : Deployment) (start : EventLog) (committed : List LedgerEvent) (lastId : Int)
    (visible : List LedgerEvent) : Stage → Prop
  | .ready => Extends d start committed visible lastId
  | .locked _ => Extends d start committed visible lastId
  | .inserted e => ∃ rows, Unsealed d start committed lastId e rows visible
  | .selected e row => ∃ rows, Unsealed d start committed lastId e rows visible ∧
      row = e.row lastId
  | .linked e row prevHash => ∃ rows, Unsealed d start committed lastId e rows visible ∧
      row = e.row lastId ∧ prevHash = predecessorHash rows lastId

/-- The state of a run that started from the given log. -/
structure ChainState.Inv (d : Deployment) (start : EventLog) (s : ChainState) : Prop where
  committed : start.Grows d s.log
  idle : ∀ i, s.lock ≠ some i → s.txns i = AppendTxn.idle
  holder : ∀ i, s.lock = some i →
    (s.txns i).stage.View d start s.committed.rows s.lastId (s.visible i).rows

variable {d : Deployment} {start : EventLog} {s : ChainState} {i : Nat}

theorem ChainState.initial_inv : ChainState.initial.Inv d EventLog.empty :=
  ⟨EventLog.Grows.refl, fun _ _ => rfl, fun _ h => nomatch h⟩

namespace ChainState

/-- Without the lock a transaction sees what is committed. -/
theorem Inv.visible_of_not_holder (h : s.Inv d start) (hlock : s.lock ≠ some i) :
    s.visible i = s.committed := by
  rw [visible, h.idle i hlock]
  rfl

/-- A statement of the lock holder: the others are not concerned. -/
theorem Inv.update_holder (h : s.Inv d start) (hlock : s.lock = some i) {lastId : Int}
    (hle : s.lastId ≤ lastId) {txn : AppendTxn}
    (hview : txn.stage.View d start s.committed.rows lastId (txn.visible s.committed).rows) :
    Inv d start { s with lastId := lastId, txns := Function.update s.txns i txn } := by
  refine ⟨h.committed.draw hle, ?_, ?_⟩
  · intro j hj
    have hne : j ≠ i := fun he => hj (he ▸ hlock)
    simp only [Function.update_of_ne hne]
    exact h.idle j hj
  · intro j hj
    have he : j = i := Option.some.inj (hj.symm.trans hlock)
    subst he
    simpa only [visible, Function.update_self] using hview

theorem visible_proceed (s : ChainState) (i : Nat) (stage : Stage) (written : Option LedgerEvent) :
    (s.proceed i stage written).visible i = written.toList.foldl Table.put (s.visible i) := by
  simp only [visible, proceed, Function.update_self, AppendTxn.visible, List.foldl_append]

/-- A step of the lock holder to its next stage. -/
theorem Inv.proceed (h : s.Inv d start) (hlock : s.lock = some i) {stage : Stage}
    {written : Option LedgerEvent}
    (hview : stage.View d start s.committed.rows s.lastId
      (written.toList.foldl Table.put (s.visible i)).rows) :
    (s.proceed i stage written).Inv d start := by
  apply h.update_holder hlock (le_refl s.lastId)
  rw [← visible_proceed s i stage written] at hview
  simpa only [visible, ChainState.proceed, Function.update_self] using hview

/-- A transaction that ends gives the lock back and leaves its writes or nothing. -/
theorem Inv.finish (h : s.Inv d start) (i : Nat) {committed : EventTable}
    (hcommitted : start.Grows d ⟨committed.rows, s.lastId⟩)
    (hother : s.lock ≠ some i → committed = s.committed) :
    Inv d start { s with
      committed := committed
      lock := s.lockAfter i
      txns := Function.update s.txns i AppendTxn.idle } := by
  by_cases hlock : s.lock = some i
  · have hfree : s.lockAfter i = none := if_pos hlock
    refine ⟨hcommitted, ?_, ?_⟩
    · intro j _
      by_cases hj : j = i
      · simp only [hj, Function.update_self]
      · have hne : s.lock ≠ some j := fun he => hj (Option.some.inj (he.symm.trans hlock))
        simp only [Function.update_of_ne hj]
        exact h.idle j hne
    · intro j hj
      simp only [hfree, reduceCtorEq] at hj
  · have hsame : Function.update s.txns i AppendTxn.idle = s.txns := by
      rw [Function.update_eq_self_iff]
      exact (h.idle i hlock).symm
    rw [hsame, lockAfter, if_neg hlock, hother hlock]
    exact h

theorem Inv.rollback (h : s.Inv d start) (i : Nat) : (s.rollback i).Inv d start :=
  h.finish i h.committed fun _ => rfl

/-- A transaction between two appends sees a log that grew from the start. -/
theorem Inv.extends_of_ready (h : s.Inv d start) (hstage : (s.txns i).stage = .ready) :
    Extends d start s.committed.rows (s.visible i).rows s.lastId := by
  by_cases hlock : s.lock = some i
  · have hview := h.holder i hlock
    rwa [hstage] at hview
  · rw [h.visible_of_not_holder hlock]
    exact ⟨h.committed, List.prefix_rfl⟩

theorem Inv.commit (h : s.Inv d start) (hstage : (s.txns i).stage = .ready) :
    (s.commit i).Inv d start :=
  h.finish i (h.extends_of_ready hstage).grown h.visible_of_not_holder

theorem Inv.acquire (h : s.Inv d start) (hstage : (s.txns i).stage = .ready) (e : EventDraft) :
    (s.acquire i e).Inv d start := by
  rw [ChainState.acquire]
  split_ifs with hlock
  · -- whether the lock was free or held, nobody else holds it now
    have hview := h.extends_of_ready hstage
    have hfree : ∀ j, j ≠ i → s.lock ≠ some j := by
      intro j hj he
      rcases hlock with hnone | hself
      · rw [hnone] at he
        cases he
      · exact hj (Option.some.inj (he.symm.trans hself))
    refine ⟨h.committed, ?_, ?_⟩
    · intro j hj
      have hne : j ≠ i := fun he => hj (he ▸ rfl)
      simp only [Function.update_of_ne hne]
      exact h.idle j (hfree j hne)
    · intro j hj
      have he : j = i := (Option.some.inj hj).symm
      subst he
      simp only [visible, Function.update_self]
      exact hview
  · exact h

/-! ## The statements of an append -/

/-- The `INSERT` finds its id free. -/
theorem Inv.insertEvent (h : s.Inv d start) (hstart : start.Ordered) (hlock : s.lock = some i)
    {e : EventDraft} (hstage : (s.txns i).stage = .locked e) :
    (s.insertEvent i e).Inv d start := by
  have hview : Extends d start s.committed.rows (s.visible i).rows s.lastId := by
    have hholder := h.holder i hlock
    rwa [hstage] at hholder
  have hdrawn := (hview.grown.ordered hstart).drawn
  have hfresh : (s.visible i).find? (e.row (s.lastId + 1)).eventId = none := by
    rw [Table.find?_eq_none, List.mem_map]
    rintro ⟨r, hr, he⟩
    have hle : r.eventId ≤ s.lastId := hdrawn r hr
    have hid : r.eventId = s.lastId + 1 := he
    omega
  have hinsert := Table.insert?_eq_some.mpr ⟨hfresh, rfl⟩
  rw [ChainState.insertEvent, hinsert]
  apply h.update_holder hlock (le_of_lt (Int.lt_succ s.lastId))
  refine ⟨(s.visible i).rows, ⟨?_, hview.keeps⟩, ?_⟩
  · rw [add_sub_cancel_right]
    exact hview.grown
  · rw [AppendTxn.visible, List.foldl_append]
    exact Table.rows_put_of_fresh hfresh

/-- The row read back is the one just inserted, though other rows of the operation exist. -/
theorem latestEvent_unsealed (hstart : start.Ordered) {committed rows visible : List LedgerEvent}
    {lastId : Int} {e : EventDraft} (h : Unsealed d start committed lastId e rows visible) :
    latestEvent visible e.idempotencyKey = some (e.row lastId) := by
  have hdrawn := (h.before.grown.ordered hstart).drawn
  rw [h.visible_eq]
  apply latestEvent_append
  intro r hr
  have hle : r.eventId ≤ lastId - 1 := hdrawn r hr
  change r.eventId < lastId
  omega

/-- Sealing the inserted row completes the append. -/
theorem extends_of_sealed (hstart : start.Ordered) {committed rows : List LedgerEvent}
    {lastId : Int} {e : EventDraft} {t : EventTable}
    (h : Unsealed d start committed lastId e rows t.rows) :
    ∃ r, t.find? lastId = some r ∧
      Extends d start committed (t.put (r.seal (predecessorHash rows lastId)
        (sealHash d e (e.row lastId) (predecessorHash rows lastId)))).rows lastId := by
  have hmem : e.row lastId ∈ t.rows := by simp [h.visible_eq]
  have hfind : t.find? lastId = some (e.row lastId) := Table.find?_of_mem hmem
  have hlt : ∀ r ∈ rows, r.eventId < (e.row lastId).eventId := by
    intro r hr
    have hle : r.eventId ≤ lastId - 1 := (h.before.grown.ordered hstart).drawn r hr
    change r.eventId < lastId
    omega
  refine ⟨e.row lastId, hfind, ?_⟩
  have hput : t.update lastId (fun r => r.seal (predecessorHash rows lastId)
      (sealHash d e (e.row lastId) (predecessorHash rows lastId))) (fun _ => rfl) =
      t.put ((e.row lastId).seal (predecessorHash rows lastId)
        (sealHash d e (e.row lastId) (predecessorHash rows lastId))) :=
    Table.update_eq_put hfind
  have hrows : (t.put ((e.row lastId).seal (predecessorHash rows lastId)
      (sealHash d e (e.row lastId) (predecessorHash rows lastId)))).rows =
        rows ++ [e.sealed d rows lastId] := by
    rw [← hput]
    simp only [Table.update, h.visible_eq]
    exact map_update_last _ hlt
  rw [hrows]
  refine ⟨?_, h.before.keeps.trans (List.prefix_append _ _)⟩
  have happend := h.before.grown.append e
  simpa only [EventLog.append, sub_add_cancel] using happend

theorem Inv.advance (h : s.Inv d start) (hstart : start.Ordered) (i : Nat) :
    (s.advance d i).Inv d start := by
  by_cases hlock : s.lock = some i
  · have hview := h.holder i hlock
    rw [ChainState.advance]
    cases hstage : (s.txns i).stage with
    | ready => exact h
    | locked e => exact h.insertEvent hstart hlock hstage
    | inserted e =>
      rw [hstage] at hview
      obtain ⟨rows, hrows⟩ := hview
      simp only [latestEvent_unsealed hstart hrows]
      exact h.proceed hlock ⟨rows, hrows, rfl⟩
    | selected e row =>
      rw [hstage] at hview
      obtain ⟨rows, hrows, rfl⟩ := hview
      refine h.proceed hlock ⟨rows, hrows, rfl, ?_⟩
      rw [hrows.visible_eq]
      exact predecessorHash_append_unsealed rows rfl _
    | linked e row prevHash =>
      rw [hstage] at hview
      obtain ⟨rows, hrows, rfl, rfl⟩ := hview
      obtain ⟨r, hfind, hext⟩ := extends_of_sealed hstart hrows
      have hfind' : (s.visible i).find? (e.row s.lastId).eventId = some r := hfind
      simp only [hfind', Option.map_some]
      exact h.proceed hlock hext
  · rw [ChainState.advance, h.idle i hlock]
    exact h

/-! ## Runs -/

theorem step_inv (hstart : start.Ordered) (h : s.Inv d start) (i : Nat) (a : TxnAction) :
    (s.step d i a).Inv d start := by
  cases a with
  | call e =>
    rw [ChainState.step]
    split
    · next hstage => exact h.acquire hstage e
    · exact h
  | advance => exact h.advance hstart i
  | commit =>
    rw [ChainState.step]
    split
    · next hstage => exact h.commit hstage
    · exact h
  | rollback => exact h.rollback i

theorem acquire_committed (s : ChainState) (i : Nat) (e : EventDraft) :
    (s.acquire i e).committed = s.committed := by
  rw [ChainState.acquire]
  split_ifs <;> rfl

theorem advance_committed (s : ChainState) (i : Nat) :
    (s.advance d i).committed = s.committed := by
  rw [ChainState.advance]
  split
  · rfl
  · rw [ChainState.insertEvent]
    split <;> rfl
  · split <;> rfl
  · rfl
  · rfl

/-- A step never changes or removes a committed row. -/
theorem step_committed_prefix (h : s.Inv d start) (i : Nat) (a : TxnAction) :
    s.committed.rows <+: (s.step d i a).committed.rows := by
  cases a with
  | call e =>
    rw [ChainState.step]
    split
    · rw [acquire_committed]
    · exact List.prefix_rfl
  | advance =>
    rw [ChainState.step, advance_committed]
  | commit =>
    rw [ChainState.step]
    split
    · next hstage => exact (h.extends_of_ready hstage).keeps
    · exact List.prefix_rfl
  | rollback => exact List.prefix_rfl

/-- Whatever the interleaving, the committed rows are a log grown from the start. -/
theorem run_inv (hstart : start.Ordered) (h : s.Inv d start) (actions : List (Nat × TxnAction)) :
    (s.run d actions).Inv d start := by
  induction actions generalizing s with
  | nil => exact h
  | cons a as ih => exact ih (step_inv hstart h a.1 a.2)

end ChainState

/-- The steps of a transaction that appends one event and commits. -/
def appendOne (i : Nat) (e : EventDraft) : List (Nat × TxnAction) :=
  [(i, .call e), (i, .advance), (i, .advance), (i, .advance), (i, .advance), (i, .commit)]

/-- An append that is not disturbed adds its sealed row. -/
theorem run_appendOne (h : s.log.Ordered) (hlock : s.lock = none)
    (hidle : s.txns i = AppendTxn.idle) (e : EventDraft) :
    s.run d (appendOne i e) = { s with
      committed := s.committed.put (e.sealed d s.committed.rows (s.lastId + 1))
      lastId := s.lastId + 1 } := by
  have hlt : ∀ r ∈ s.committed.rows, r.eventId < (e.row (s.lastId + 1)).eventId := by
    intro r hr
    have hle : r.eventId ≤ s.lastId := h.drawn r hr
    change r.eventId < s.lastId + 1
    omega
  have hfresh : ∀ x : LedgerEvent, x.eventId = s.lastId + 1 → s.committed.find? x.eventId = none := by
    intro x hx
    rw [Table.find?_eq_none, List.mem_map]
    rintro ⟨r, hr, he⟩
    have hr' := hlt r hr
    rw [he, hx] at hr'
    exact absurd hr' (lt_irrefl _)
  have hinsert := Table.insert?_eq_some.mpr ⟨hfresh (e.row (s.lastId + 1)) rfl, rfl⟩
  have hrows := Table.rows_put_of_fresh (hfresh (e.row (s.lastId + 1)) rfl)
  have hlatest : latestEvent (s.committed.put (e.row (s.lastId + 1))).rows e.idempotencyKey =
      some (e.row (s.lastId + 1)) := by
    rw [hrows]
    exact latestEvent_append hlt
  have hprev : predecessorHash (s.committed.put (e.row (s.lastId + 1))).rows
      (e.row (s.lastId + 1)).eventId = predecessorHash s.committed.rows (s.lastId + 1) := by
    rw [hrows]
    exact predecessorHash_append_unsealed _ rfl _
  have hfind : (s.committed.put (e.row (s.lastId + 1))).find? (e.row (s.lastId + 1)).eventId =
      some (e.row (s.lastId + 1)) := Table.find?_put_self _ _
  have hput : (s.committed.put (e.row (s.lastId + 1))).put
      (e.sealed d s.committed.rows (s.lastId + 1)) =
        s.committed.put (e.sealed d s.committed.rows (s.lastId + 1)) := Table.put_put rfl
  simp only [ChainState.run, appendOne, List.foldl_cons, List.foldl_nil, ChainState.step, hidle,
    AppendTxn.idle, ChainState.acquire, hlock, true_or, ite_true, ChainState.advance,
    Function.update_self, ChainState.insertEvent, ChainState.visible, AppendTxn.visible,
    hinsert, ChainState.proceed, List.nil_append, Option.toList_some, Option.toList_none,
    List.append_nil, hlatest, hprev, hfind, Option.map_some, List.singleton_append,
    ChainState.commit, ChainState.lockAfter, Function.update_idem]
  rw [← hput, ← hlock]
  congr 1
  rw [Function.update_eq_self_iff]
  exact hidle.symm

/-- After any steps of any transactions the committed table passes full verification, with
every row counted and the last row's hash as the head. -/
theorem run_committed_verifies (hsha : ∀ p, d.sha256 p ≠ genesisHash)
    (actions : List (Nat × TxnAction)) :
    let t := (ChainState.initial.run d actions).committed
    let result := verifyLedgerRows d t 0 0
    result.valid = true ∧ result.sealedCount = t.rows.length ∧ result.unsealedCount = 0 ∧
      result.headHash = (lastBy LedgerEvent.eventId t.rows).bind LedgerEvent.rowHash := by
  intro t result
  have hinv := ChainState.run_inv (d := d) EventLog.empty_ordered ChainState.initial_inv actions
  have hordered := hinv.committed.ordered EventLog.empty_ordered
  have hlinked : (ledgerSealing d).Linked genesisHash t.rows :=
    EventLog.linked_of_grows_empty hsha hinv.committed
  have horder : orderBy LedgerEvent.eventId t.rows = t.rows := hordered.orderBy_eq
  have hlast : lastBy LedgerEvent.eventId t.rows = t.rows.getLast? := hordered.lastBy_eq
  have hresult : result = linkedState d 0 0 genesisHash t.rows := by
    rw [← horder]
    exact verifyLedgerRows_linked (horder.symm ▸ hlinked)
  rw [hresult, hlast]
  refine ⟨rfl, zero_add _, rfl, ?_⟩
  exact headHash_linkedState hlinked

/-- Two transactions: the second waits for the lock, draws id 2 and is rolled back, and
the first then appends again under id 3. -/
def sampleInterleaving : List (Nat × TxnAction) :=
  [(0, .call firstDraft), (0, .advance), (1, .call secondDraft), (0, .advance), (0, .advance),
    (0, .advance), (0, .commit), (1, .call secondDraft), (1, .advance), (1, .advance),
    (0, .call secondDraft), (1, .rollback), (0, .call secondDraft), (0, .advance), (0, .advance),
    (0, .advance), (0, .advance), (0, .commit)]

theorem run_committed_verifies_sample :
    (ChainState.initial.run chainDeployment sampleInterleaving).committed.rows.map
      LedgerEvent.eventId = [1, 3] ∧
    (verifyLedgerRows chainDeployment
      (ChainState.initial.run chainDeployment sampleInterleaving).committed 0 0).valid = true :=
  ⟨by decide +kernel,
    (run_committed_verifies chainDeployment_ne_genesis sampleInterleaving).1⟩

end Governor.Chain
