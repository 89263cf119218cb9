import Mathlib
import Governor.Ledger.Refinement

/-!
# The event log determines an operation

The events of an operation, read in the order of their ids, are the postings of the
moves that it made. Whatever the operation's row says is therefore a function of its
events: the status is the last status event, and the amounts are the sum of the deltas.
-/

namespace Governor.Ledger

/-- The status that an event type announces; other events announce none. -/
def eventStatus (eventType : String) : Option EscrowStatus :=
  if eventType = "RESERVE_CREATED" then some .reserved
  else if eventType = "DISPATCH_STARTED" then some .inFlight
  else if eventType = "PROVIDER_TIMEOUT_RECORDED" then some .providerTimeout
  else if eventType = "STRANDED_HOLD" then some .stranded
  else if eventType = "EXPIRED_SWEEP" then some .expired
  else if eventType = "SETTLED_FINAL" ∨ eventType = "RECONCILED_LATE_SETTLE" then some .settled
  else none

/-- The status after a list of event types. -/
def foldStatus (eventTypes : List String) : Option EscrowStatus :=
  eventTypes.foldl (fun status t => (eventStatus t).or status) none

/-- The events of one operation, in the order of their ids. -/
def eventsOf (db : Database) (idempotencyKey : String) : List LedgerEvent :=
  orderBy LedgerEvent.eventId
    (db.ledgerEvents.rows.filter fun e => e.idempotencyKey = idempotencyKey)

/-- How many events have one of the given types. -/
def countEvents (events : List LedgerEvent) (eventTypes : List EventType) : Nat :=
  events.countP fun e => e.eventType ∈ eventTypes.map EventType.text

/-! ## Trails of postings -/

/-- The postings of the moves that lead to a row, oldest first. -/
inductive Trail : Option EscrowRow → List Posting → Prop
  | none : Trail none []
  | move {o : Option EscrowRow} {r : EscrowRow} {ps qs : List Posting} (h : Trail o ps)
      (ht : Transition o r qs) : Trail (some r) (ps ++ qs)

/-- The event types of a list of postings. -/
def postingTypes (ps : List Posting) : List String := ps.map fun p => p.eventType.text

theorem foldStatus_append (xs ys : List String) :
    foldStatus (xs ++ ys) = ys.foldl (fun status t => (eventStatus t).or status) (foldStatus xs) :=
  List.foldl_append

/-- Events that announce no status leave it alone. -/
theorem foldl_silent {xs : List String} (h : ∀ t ∈ xs, eventStatus t = none)
    (status : Option EscrowStatus) :
    xs.foldl (fun status t => (eventStatus t).or status) status = status := by
  induction xs generalizing status with
  | nil => rfl
  | cons t ts ih =>
    rw [List.foldl_cons, h t List.mem_cons_self]
    exact ih (fun x hx => h x (List.mem_cons_of_mem _ hx)) status

theorem Transition.foldStatus_eq {o : Option EscrowRow} {r : EscrowRow} {ps : List Posting}
    (h : Transition o r ps) (status : Option EscrowStatus) :
    (postingTypes ps).foldl (fun status t => (eventStatus t).or status) status =
      some r.status := by
  cases h with
  | reserved hs | dispatched hc ho hs | timedOut hc ho hs | stranded hc ho hs
  | expired hc ho hs =>
    rw [hs]
    rfl
  | settled hc ho hs ha hadj hnet hfinal hdrift =>
    rename_i o adjustments drift final
    have hquiet : ∀ t ∈ postingTypes drift, eventStatus t = none := by
      intro t ht
      obtain ⟨p, hp, rfl⟩ := List.mem_map.mp ht
      rcases (hdrift p hp).2 with he | he <;> rw [he] <;> decide
    rw [hs, postingTypes, List.map_append, List.map_cons, List.foldl_append, List.foldl_cons]
    change (postingTypes drift).foldl _ _ = _
    rw [foldl_silent hquiet]
    rcases hfinal with rfl | rfl <;> rfl

/-- The status of a row is the fold of its trail. -/
theorem Trail.foldStatus_eq {o : Option EscrowRow} {ps : List Posting} (h : Trail o ps) :
    foldStatus (postingTypes ps) = o.map EscrowRow.status := by
  cases h with
  | none => rfl
  | move h ht =>
    rw [postingTypes, List.map_append, foldStatus_append]
    exact ht.foldStatus_eq _

/-- The postings of a trail add up to what the operation claims. -/
theorem Trail.netAmount_eq {o : Option EscrowRow} {ps : List Posting} (h : Trail o ps) :
    netAmount ps = -(o.map EscrowRow.claimed).getD 0 := by
  induction h with
  | none => rfl
  | move h ht ih =>
    rw [netAmount_append, ih, ht.netAmount_eq, Option.map_some, Option.getD_some]
    ring

/-! ## Counting postings -/

/-- How many postings have one of the given types. -/
def countPostings (ps : List Posting) (eventTypes : List EventType) : Nat :=
  ps.countP fun p => p.eventType ∈ eventTypes

/-- The types that close an operation. -/
def terminalTypes : List EventType := [.settledFinal, .reconciledLateSettle]

theorem countPostings_append (ps qs : List Posting) (ts : List EventType) :
    countPostings (ps ++ qs) ts = countPostings ps ts + countPostings qs ts :=
  List.countP_append

theorem countPostings_eq_zero {ps : List Posting} {ts : List EventType}
    (h : ∀ p ∈ ps, p.eventType ∉ ts) : countPostings ps ts = 0 := by
  rw [countPostings, List.countP_eq_zero]
  simpa using h

/-- Besides its closing event, a settlement posts refunds, corrections and drift only. -/
theorem countPostings_settled {adjustments drift : List Posting} {final : EventType}
    (hadj : ∀ p ∈ adjustments,
      p.eventType = .settlementRefund ∨ p.eventType = .settlementCorrectionDebit)
    (hdrift : ∀ p ∈ drift, p.amount = 0 ∧
      (p.eventType = .driftEnforced ∨ p.eventType = .driftTolerated))
    {ts : List EventType} (hts : ∀ t ∈ ts, t ≠ .settlementRefund ∧
      t ≠ .settlementCorrectionDebit ∧ t ≠ .driftEnforced ∧ t ≠ .driftTolerated) :
    countPostings (adjustments ++ ⟨final, 0⟩ :: drift) ts = if final ∈ ts then 1 else 0 := by
  have hzero : countPostings adjustments ts = 0 := countPostings_eq_zero fun p hp hmem => by
    rcases hadj p hp with he | he
    · exact (hts _ hmem).1 he
    · exact (hts _ hmem).2.1 he
  have hzero' : countPostings drift ts = 0 := countPostings_eq_zero fun p hp hmem => by
    rcases (hdrift p hp).2 with he | he
    · exact (hts _ hmem).2.2.1 he
    · exact (hts _ hmem).2.2.2 he
  rw [countPostings_append, hzero, zero_add, countPostings, List.countP_cons]
  change countPostings drift ts + _ = _
  simp [hzero']

/-- How often a move posts each of the events that occur at most once. -/
theorem Transition.counts {o : Option EscrowRow} {r : EscrowRow} {ps : List Posting}
    (h : Transition o r ps) :
    countPostings ps [.reserveCreated] = (if o = none then 1 else 0) ∧
    countPostings ps [.expiredSweep] = (if r.status = .expired then 1 else 0) ∧
    countPostings ps terminalTypes = (if r.status = .settled then 1 else 0) := by
  cases h with
  | reserved hs | dispatched hc ho hs | timedOut hc ho hs | stranded hc ho hs
  | expired hc ho hs =>
    rw [hs]
    exact ⟨rfl, rfl, rfl⟩
  | settled hc ho hs ha hadj hnet hfinal hdrift =>
    rw [countPostings_settled hadj hdrift (by simp), countPostings_settled hadj hdrift (by simp),
      countPostings_settled hadj hdrift (by simp [terminalTypes]), hs]
    rcases hfinal with rfl | rfl <;> exact ⟨rfl, rfl, rfl⟩

/-- An operation holds its reserve only if it is new or held it before. -/
theorem Transition.held_before {o : Option EscrowRow} {r : EscrowRow} {ps : List Posting}
    (h : Transition o r ps) (hr : r.status.held = true ∨ r.status = .expired) :
    ∀ x ∈ o, x.status.held = true := by
  intro x hx
  cases h with
  | reserved => cases hx
  | dispatched hc ho | timedOut hc ho | stranded hc ho | expired hc ho =>
    obtain rfl := Option.some.inj hx
    exact ho
  | settled hc ho hs =>
    rw [hs] at hr
    rcases hr with hr | hr <;> cases hr

/-- How often each of those events occurs in a whole trail. -/
structure TrailCounts (o : Option EscrowRow) (ps : List Posting) : Prop where
  created : countPostings ps [.reserveCreated] = if o = none then 0 else 1
  expired : countPostings ps [.expiredSweep] ≤ 1
  unexpired : (∀ x ∈ o, x.status.held = true) → countPostings ps [.expiredSweep] = 0
  closed : countPostings ps terminalTypes ≤ 1
  unclosed : (∀ x ∈ o, x.status ≠ .settled) → countPostings ps terminalTypes = 0

theorem Trail.counts {o : Option EscrowRow} {ps : List Posting} (h : Trail o ps) :
    TrailCounts o ps := by
  induction h with
  | none => exact ⟨rfl, Nat.zero_le _, fun _ => rfl, Nat.zero_le _, fun _ => rfl⟩
  | @move o r ps qs h ht ih =>
    obtain ⟨hcreated, hexpired, hclosed⟩ := ht.counts
    have hopen := ih.unclosed fun x hx => Transition.not_settled (Option.mem_def.mp hx ▸ ht)
    constructor
    · rw [countPostings_append, ih.created, hcreated]
      cases o <;> rfl
    · rw [countPostings_append, hexpired]
      by_cases he : r.status = .expired
      · rw [ih.unexpired (ht.held_before (Or.inr he)), if_pos he]
      · rw [if_neg he, add_zero]
        exact ih.expired
    · intro hheld
      have hr := hheld r rfl
      rw [countPostings_append, hexpired, ih.unexpired (ht.held_before (Or.inl hr)), if_neg]
      intro he
      rw [he] at hr
      cases hr
    · rw [countPostings_append, hclosed, hopen]
      split_ifs <;> decide
    · intro hns
      rw [countPostings_append, hclosed, hopen, if_neg (hns r rfl)]

/-! ## Trails in the database -/

variable {d : Deployment} {db db' : Database} {c : Change}

theorem EventType.text_injective : Function.Injective EventType.text := by
  intro a b h
  cases a <;> cases b <;> first | rfl | exact absurd h (by decide)

/-- The type and the amount of an event. -/
def LedgerEvent.posted (e : LedgerEvent) : String × Money := (e.eventType, e.amountDelta)

/-- The type and the amount of a posting. -/
def Posting.posted (p : Posting) : String × Money := (p.eventType.text, p.amount)

/-- The stored events of an operation, in the order of the table. -/
def storedEvents (rows : List LedgerEvent) (key : String) : List LedgerEvent :=
  rows.filter fun e => e.idempotencyKey = key

/-- The events of every operation are the postings of a trail that leads to its row. -/
def Recorded (db : Database) : Prop :=
  ∀ key, ∃ ps, Trail (db.escrowLedger.find? key) ps ∧
    (storedEvents db.ledgerEvents.rows key).map LedgerEvent.posted = ps.map Posting.posted

/-- Postings are added to the events of their own operation only. -/
theorem Logged.storedEvents_eq {rows rows' : List LedgerEvent} {r : EscrowRow}
    {ps : List Posting} (h : Logged rows rows' r ps) (key : String) :
    (storedEvents rows' key).map LedgerEvent.posted =
      (storedEvents rows key).map LedgerEvent.posted ++
        if key = r.idempotencyKey then ps.map Posting.posted else [] := by
  obtain ⟨es, rfl, he⟩ := h
  have hkeys : ∀ e ∈ es, e.idempotencyKey = r.idempotencyKey := by
    intro e hmem
    have hentry : e.entry ∈ ps.map (Posting.entry r) := he ▸ List.mem_map_of_mem hmem
    obtain ⟨p, -, hp⟩ := List.mem_map.mp hentry
    exact (congrArg Prod.fst hp).symm
  have hposted : es.map LedgerEvent.posted = ps.map Posting.posted := by
    have hmap := congrArg (List.map fun x : String × String × String × Money => x.2.2) he
    rw [List.map_map, List.map_map] at hmap
    exact hmap
  rw [storedEvents, List.filter_append, List.map_append, storedEvents]
  congr 1
  split_ifs with hk
  · rw [List.filter_eq_self.mpr fun e hmem => by simp [hkeys e hmem, hk], hposted]
  · rw [List.filter_eq_nil_iff.mpr fun e hmem => by simp [hkeys e hmem, Ne.symm hk], List.map_nil]

theorem Recorded.idle (hidle : Idle db db') (h : Recorded db) : Recorded db' := by
  intro key
  rw [hidle.escrowLedger, hidle.ledgerEvents]
  exact h key

theorem Recorded.move (hmove : Move d db c db') (h : Recorded db) : Recorded db' := by
  intro key
  obtain ⟨ps, htrail, hevents⟩ := h key
  rw [hmove.new, Table.find?_put, hmove.events.storedEvents_eq, hevents]
  split_ifs with hk
  · rw [hk, hmove.old] at htrail
    exact ⟨ps ++ c.postings, htrail.move hmove.valid, by rw [List.map_append]⟩
  · exact ⟨ps, htrail, List.append_nil _⟩

/-- A move into the stranded status posts a hold. -/
theorem Transition.strandedHold_mem {o : Option EscrowRow} {r : EscrowRow} {ps : List Posting}
    (h : Transition o r ps) (hs : r.status = .stranded) :
    ∃ p ∈ ps, p.eventType = .strandedHold := by
  cases h with
  | stranded hc ho hr => exact ⟨_, List.mem_singleton_self _, rfl⟩
  | reserved hr => rw [hr] at hs; cases hs
  | dispatched hc ho hr | timedOut hc ho hr | expired hc ho hr => rw [hr] at hs; cases hs
  | settled hc ho hr => rw [hr] at hs; cases hs

/-- A posting of a move is stored as an event of its operation. -/
theorem Move.exists_event (hmove : Move d db c db') {p : Posting} (hp : p ∈ c.postings) :
    ∃ e ∈ db'.ledgerEvents.rows, e.idempotencyKey = c.new.idempotencyKey ∧
      e.eventType = p.eventType.text := by
  obtain ⟨es, hrows, hentries⟩ := hmove.events
  have hmem : p.entry c.new ∈ es.map LedgerEvent.entry := by
    rw [hentries]
    exact List.mem_map_of_mem hp
  obtain ⟨e, he, heq⟩ := List.mem_map.mp hmem
  refine ⟨e, ?_, congrArg Prod.fst heq, congrArg (fun x => x.2.2.1) heq⟩
  rw [hrows]
  exact List.mem_append_right _ he

/-- With the log in order, the events of an operation need no sorting. -/
theorem eventsOf_eq {w : LedgerWorld} (hw : Sound w) (key : String) :
    eventsOf w.tables key = storedEvents w.tables.ledgerEvents.rows key := by
  have hsorted : (storedEvents w.tables.ledgerEvents.rows key).Pairwise
      fun a b => a.eventId ≤ b.eventId :=
    List.Pairwise.imp (fun hlt => hlt.le)
      (List.Pairwise.sublist List.filter_sublist hw.log.ordered)
  exact hsorted.insertionSort_eq

/-! ## What the log says of an operation -/

/-- What the events of an operation say about its row. -/
structure HistoryExact (events : List LedgerEvent) (r : EscrowRow) : Prop where
  status : foldStatus (events.map LedgerEvent.eventType) = some r.status
  held : r.status.held = true → (events.map LedgerEvent.amountDelta).sum = -r.reservedAmount
  expired : r.status = .expired → (events.map LedgerEvent.amountDelta).sum = 0
  settled : r.status = .settled → (events.map LedgerEvent.amountDelta).sum = -r.actualAmount
  created : countEvents events [.reserveCreated] = 1
  sweeps : countEvents events [.expiredSweep] ≤ 1
  closings : countEvents events [.settledFinal, .reconciledLateSettle] ≤ 1

theorem countEvents_eq {events : List LedgerEvent} {ps : List Posting}
    (h : events.map LedgerEvent.posted = ps.map Posting.posted) (ts : List EventType) :
    countEvents events ts = countPostings ps ts := by
  have hevents : countEvents events ts =
      (events.map LedgerEvent.posted).countP fun x => x.1 ∈ ts.map EventType.text := by
    rw [List.countP_map]
    rfl
  rw [hevents, h, List.countP_map, countPostings]
  congr 1
  funext p
  simp [Posting.posted, EventType.text_injective.eq_iff]

theorem Trail.historyExact {events : List LedgerEvent} {r : EscrowRow} {ps : List Posting}
    (htrail : Trail (some r) ps) (h : events.map LedgerEvent.posted = ps.map Posting.posted) :
    HistoryExact events r := by
  have htypes : events.map LedgerEvent.eventType = postingTypes ps := by
    have hmap := congrArg (List.map Prod.fst) h
    rw [List.map_map, List.map_map] at hmap
    exact hmap
  have hsum : (events.map LedgerEvent.amountDelta).sum = -r.claimed := by
    have hmap := congrArg (List.map Prod.snd) h
    rw [List.map_map, List.map_map] at hmap
    have hnet := htrail.netAmount_eq
    rw [Option.map_some, Option.getD_some] at hnet
    rw [← hnet, netAmount]
    exact congrArg List.sum hmap
  have hcounts := htrail.counts
  constructor
  · rw [htypes, htrail.foldStatus_eq, Option.map_some]
  · intro hs
    rw [hsum, EscrowRow.claimed_of_held hs]
  · intro hs
    rw [hsum, EscrowRow.claimed_of_expired hs, neg_zero]
  · intro hs
    rw [hsum, EscrowRow.claimed_of_settled hs]
  · rw [countEvents_eq h, hcounts.created, if_neg (Option.some_ne_none r)]
  · rw [countEvents_eq h]
    exact hcounts.expired
  · rw [countEvents_eq h]
    exact hcounts.closed

/-- The operation is stored and has one of the given statuses. -/
def HasStatus (key : String) (statuses : List EscrowStatus) (db : Database) : Prop :=
  ∃ r, db.escrowLedger.find? key = some r ∧ r.status ∈ statuses

/-- A set of statuses that no move leaves is never left. -/
theorem run_hasStatus {statuses : List EscrowStatus}
    (hclosed : ∀ {o r ps}, Transition (some o) r ps → o.status ∈ statuses → r.status ∈ statuses)
    {w : LedgerWorld} (hw : Sound w) {key : String} (h : HasStatus key statuses w.tables)
    (actions : List Action) : HasStatus key statuses (run d w actions).tables := by
  refine run_invariant (d := d) (I := HasStatus key statuses) ?_ ?_ hw h actions
  · intro db db' hidle hdb
    rw [HasStatus, hidle.escrowLedger]
    exact hdb
  · intro db c db' _ hmove ⟨r, hr, hs⟩
    rw [HasStatus, hmove.new, Table.find?_put]
    split_ifs with hk
    · have hvalid := hmove.valid
      rw [Change.Valid, ← hmove.old, ← hk, hr] at hvalid
      exact ⟨c.new, rfl, hclosed hvalid hs⟩
    · exact ⟨r, hr, hs⟩

/-- From an expired row the only move is its settlement. -/
theorem Transition.of_expired {o r : EscrowRow} {ps : List Posting}
    (h : Transition (some o) r ps) (ho : o.status = .expired) : r.status = .settled := by
  cases h with
  | dispatched hc hh | timedOut hc hh | stranded hc hh | expired hc hh =>
    rw [ho] at hh
    cases hh
  | settled hc hns hs => exact hs

/-- In every reachable world the events of each operation determine its status and its
amounts; a settled operation stays settled and an expired one can only become settled. -/
theorem run_history_exact (d : Deployment) (w : LedgerWorld) (hops : NoOperations w)
    (actions : List Action) :
    ∀ r ∈ (run d w actions).tables.escrowLedger.rows,
      HistoryExact (eventsOf (run d w actions).tables r.idempotencyKey) r ∧
      (r.status = .settled → ∀ later, HasStatus r.idempotencyKey [.settled]
        (run d w (actions ++ later)).tables) ∧
      (r.status = .expired → ∀ later, HasStatus r.idempotencyKey [.expired, .settled]
        (run d w (actions ++ later)).tables) := by
  have hinit : Recorded w.tables := by
    intro key
    refine ⟨[], ?_, by simp [storedEvents, hops.ledgerEvents]⟩
    rw [Table.find?_eq_none.mpr (by simp [hops.escrowLedger])]
    exact Trail.none
  have hrun := run_invariant (d := d) Recorded.idle (fun _ => Recorded.move) hops.sound hinit
    actions
  have hw := run_sound (d := d) hops.sound actions
  intro r hr
  have hfind := Table.find?_of_mem hr
  refine ⟨?_, ?_, ?_⟩
  · obtain ⟨ps, htrail, hevents⟩ := hrun r.idempotencyKey
    rw [hfind] at htrail
    rw [eventsOf_eq hw]
    exact htrail.historyExact hevents
  · intro hs later
    rw [run_append]
    refine run_hasStatus ?_ hw ⟨r, hfind, by simp [hs]⟩ later
    intro o x ps ht ho
    exact absurd (List.mem_singleton.mp ho) ht.not_settled
  · intro hs later
    rw [run_append]
    refine run_hasStatus ?_ hw ⟨r, hfind, by simp [hs]⟩ later
    intro o x ps ht ho
    rcases List.mem_cons.mp ho with ho | ho
    · exact List.mem_cons_of_mem _ (List.mem_singleton.mpr (ht.of_expired ho))
    · exact absurd (List.mem_singleton.mp ho) ht.not_settled

theorem run_history_exact_sample :
    (eventsOf (run sampleDeployment sampleWorld sampleActions).tables "op-1").map
      LedgerEvent.eventType = ["RESERVE_CREATED", "EXPIRED_SWEEP", "SETTLEMENT_CORRECTION_DEBIT",
        "RECONCILED_LATE_SETTLE"] ∧
    ∀ r ∈ (run sampleDeployment sampleWorld sampleActions).tables.escrowLedger.rows,
      HistoryExact (eventsOf (run sampleDeployment sampleWorld sampleActions).tables
        r.idempotencyKey) r := by
  refine ⟨by decide +kernel, fun r hr => ?_⟩
  exact (run_history_exact sampleDeployment sampleWorld ⟨rfl, rfl⟩ sampleActions r hr).1

end Governor.Ledger
