import Mathlib
import Governor.Ledger.Attribution

/-!
# The life of an operation

An operation moves along a small state machine, and every move is recorded by
postings to the event log. `Move` says what one move does to the tables that hold
money: the operation's row is replaced, its wallet, its trace and its budget scopes
change by what the move releases or claims, and the postings are appended. The
transactions of the ledger are shown elsewhere to commit sequences of such moves;
everything that is proved of runs follows from the moves alone.
-/

namespace Governor.Ledger

/-- What one event says about money. -/
structure Posting where
  eventType : EventType
  amount : Money
  deriving DecidableEq, Repr

/-- The balance effect of a list of postings. -/
def netAmount (ps : List Posting) : Money := (ps.map Posting.amount).sum

@[simp] theorem netAmount_nil : netAmount [] = 0 := rfl

@[simp] theorem netAmount_cons (p : Posting) (ps : List Posting) :
    netAmount (p :: ps) = p.amount + netAmount ps := rfl

@[simp] theorem netAmount_append (ps qs : List Posting) :
    netAmount (ps ++ qs) = netAmount ps + netAmount qs := by
  simp [netAmount]

/-- The reserve an operation still holds. -/
def EscrowRow.heldAmount (r : EscrowRow) : Money := if r.status.held then r.reservedAmount else 0

/-- The cost an operation was settled at. -/
def EscrowRow.settledAmount (r : EscrowRow) : Money :=
  if r.status = .settled then r.actualAmount else 0

/-- What an operation takes out of its wallet. -/
def EscrowRow.claimed (r : EscrowRow) : Money := r.heldAmount + r.settledAmount

theorem EscrowStatus.ne_settled_of_held {s : EscrowStatus} (h : s.held = true) : s ≠ .settled := by
  rintro rfl
  cases h

theorem EscrowRow.heldAmount_of_held {r : EscrowRow} (h : r.status.held = true) :
    r.heldAmount = r.reservedAmount := if_pos h

theorem EscrowRow.heldAmount_of_settled {r : EscrowRow} (h : r.status = .settled) :
    r.heldAmount = 0 := by
  simp [EscrowRow.heldAmount, h, EscrowStatus.held]

theorem EscrowRow.settledAmount_of_ne {r : EscrowRow} (h : r.status ≠ .settled) :
    r.settledAmount = 0 := if_neg h

theorem EscrowRow.claimed_of_held {r : EscrowRow} (h : r.status.held = true) :
    r.claimed = r.reservedAmount := by
  rw [EscrowRow.claimed, r.heldAmount_of_held h,
    r.settledAmount_of_ne (EscrowStatus.ne_settled_of_held h), add_zero]

theorem EscrowRow.claimed_of_settled {r : EscrowRow} (h : r.status = .settled) :
    r.claimed = r.actualAmount := by
  simp [EscrowRow.claimed, EscrowRow.heldAmount, EscrowRow.settledAmount, h, EscrowStatus.held]

theorem EscrowRow.claimed_of_expired {r : EscrowRow} (h : r.status = .expired) :
    r.claimed = 0 := by
  simp [EscrowRow.claimed, EscrowRow.heldAmount, EscrowRow.settledAmount, h, EscrowStatus.held]

/-- The columns that nothing changes once the row is inserted. -/
structure EscrowRow.Continues (o r : EscrowRow) : Prop where
  idempotencyKey : r.idempotencyKey = o.idempotencyKey
  userId : r.userId = o.userId
  traceId : r.traceId = o.traceId
  identity : r.identity = o.identity
  requestFingerprint : r.requestFingerprint = o.requestFingerprint
  reservedAmount : r.reservedAmount = o.reservedAmount

/-- The moves of one operation with the postings that record them. -/
inductive Transition : Option EscrowRow → EscrowRow → List Posting → Prop
  /-- A new operation takes its reserve. -/
  | reserved {r : EscrowRow} (hs : r.status = .reserved) (hr : 0 ≤ r.reservedAmount) :
      Transition none r [⟨.reserveCreated, -r.reservedAmount⟩]
  /-- A dispatch to the provider is recorded. -/
  | dispatched {o r : EscrowRow} (hc : o.Continues r) (ho : o.status.held = true)
      (hs : r.status = .inFlight) : Transition (some o) r [⟨.dispatchStarted, 0⟩]
  /-- A provider timeout is recorded. -/
  | timedOut {o r : EscrowRow} (hc : o.Continues r) (ho : o.status.held = true)
      (hs : r.status = .providerTimeout) :
      Transition (some o) r [⟨.providerTimeoutRecorded, 0⟩]
  /-- An overdue operation with dispatch activity keeps its reserve. -/
  | stranded {o r : EscrowRow} (hc : o.Continues r) (ho : o.status.held = true)
      (hs : r.status = .stranded) : Transition (some o) r [⟨.strandedHold, 0⟩]
  /-- An overdue operation without dispatch activity gives its reserve back. -/
  | expired {o r : EscrowRow} (hc : o.Continues r) (ho : o.status.held = true)
      (hs : r.status = .expired) :
      Transition (some o) r [⟨.expiredSweep, o.reservedAmount⟩]
  /-- The actual cost replaces whatever the operation still holds. -/
  | settled {o r : EscrowRow} {adjustments drift : List Posting} {final : EventType}
      (hc : o.Continues r) (ho : o.status ≠ .settled) (hs : r.status = .settled)
      (ha : 0 ≤ r.actualAmount)
      (hadj : ∀ p ∈ adjustments,
        p.eventType = .settlementRefund ∨ p.eventType = .settlementCorrectionDebit)
      (hnet : netAmount adjustments = o.heldAmount - r.actualAmount)
      (hfinal : final = .settledFinal ∨ final = .reconciledLateSettle)
      (hdrift : ∀ p ∈ drift, p.amount = 0 ∧
        (p.eventType = .driftEnforced ∨ p.eventType = .driftTolerated)) :
      Transition (some o) r (adjustments ++ ⟨final, 0⟩ :: drift)

/-- A move of one operation: its row before, its row after and the postings. -/
structure Change where
  old : Option EscrowRow
  new : EscrowRow
  postings : List Posting

namespace Change

/-- How much a move adds to a quantity of the operation's row. -/
def delta (c : Change) (g : EscrowRow → Money) : Money := g c.new - (c.old.map g).getD 0

/-- What a move charges to the budget scopes: an expiry charges nothing and releases
nothing, every other move follows what the operation claims. -/
def scopeDelta (c : Change) : Money :=
  if c.new.status = .expired then 0 else c.delta EscrowRow.claimed

/-- The move is one of the machine's. -/
def Valid (c : Change) : Prop := Transition c.old c.new c.postings

end Change

/-! ## Facts about the machine -/

section Machine

variable {o : Option EscrowRow} {r : EscrowRow} {ps : List Posting}

/-- A move of an existing operation keeps its fixed columns. -/
theorem Transition.continues {o r : EscrowRow} (h : Transition (some o) r ps) :
    o.Continues r := by
  cases h <;> assumption

theorem sum_zero_amounts {ps : List Posting} (h : ∀ p ∈ ps, p.amount = 0) : netAmount ps = 0 := by
  induction ps with
  | nil => rfl
  | cons p ps ih =>
    rw [netAmount_cons, h p List.mem_cons_self, ih fun q hq => h q (List.mem_cons_of_mem _ hq),
      add_zero]

/-- The postings of a move add up to what the operation gives back. -/
theorem Transition.netAmount_eq (h : Transition o r ps) :
    netAmount ps = (o.map EscrowRow.claimed).getD 0 - r.claimed := by
  cases h with
  | reserved hs hr =>
    rw [EscrowRow.claimed_of_held (by rw [hs]; rfl)]
    simp
  | dispatched hc ho hs | timedOut hc ho hs | stranded hc ho hs =>
    rw [Option.map_some, Option.getD_some, EscrowRow.claimed_of_held ho,
      EscrowRow.claimed_of_held (by rw [hs]; rfl), hc.reservedAmount]
    simp
  | expired hc ho hs =>
    rw [Option.map_some, Option.getD_some, EscrowRow.claimed_of_held ho,
      EscrowRow.claimed_of_expired hs]
    simp
  | settled hc ho hs ha hadj hnet hfinal hdrift =>
    rw [Option.map_some, Option.getD_some, EscrowRow.claimed_of_settled hs, netAmount_append,
      netAmount_cons, sum_zero_amounts fun p hp => (hdrift p hp).1, hnet, EscrowRow.claimed,
      EscrowRow.settledAmount_of_ne ho]
    ring

/-- Nothing moves a settled operation. -/
theorem Transition.not_settled {o r : EscrowRow} {ps : List Posting}
    (h : Transition (some o) r ps) : o.status ≠ .settled := by
  cases h with
  | dispatched hc ho | timedOut hc ho | stranded hc ho | expired hc ho =>
    exact EscrowStatus.ne_settled_of_held ho
  | settled hc ho => exact ho

/-- A move keeps the reserve of its operation from being negative. -/
theorem Transition.reservedAmount_nonneg (h : Transition o r ps)
    (ho : ∀ x ∈ o, 0 ≤ x.reservedAmount) : 0 ≤ r.reservedAmount := by
  cases o with
  | none =>
    cases h with
    | reserved hs hr => exact hr
  | some o =>
    rw [h.continues.reservedAmount]
    exact ho o rfl

/-- Only a reserve lets an operation hold more than before. -/
theorem Transition.heldAmount_le {o : EscrowRow} (h : Transition (some o) r ps)
    (ho : 0 ≤ o.reservedAmount) : r.heldAmount ≤ o.heldAmount := by
  have hres := h.continues.reservedAmount
  cases h with
  | dispatched hc hh hs | timedOut hc hh hs | stranded hc hh hs =>
    rw [EscrowRow.heldAmount_of_held hh, EscrowRow.heldAmount_of_held (by rw [hs]; rfl), hres]
  | expired hc hh hs =>
    rw [EscrowRow.heldAmount_of_held hh]
    simpa [EscrowRow.heldAmount, hs, EscrowStatus.held] using ho
  | settled hc hns hs =>
    rw [EscrowRow.heldAmount_of_settled hs, EscrowRow.heldAmount]
    split_ifs
    · exact ho
    · exact le_refl _

end Machine

namespace Change

variable {c : Change}

theorem Valid.netAmount_eq (h : c.Valid) :
    netAmount c.postings = -c.delta EscrowRow.claimed := by
  rw [Transition.netAmount_eq h, delta]
  ring

/-- Guarding a quantity by a fixed column guards its change. -/
theorem delta_guard (p : EscrowRow → Prop) [DecidablePred p] (g : EscrowRow → Money)
    (h : ∀ o ∈ c.old, p o ↔ p c.new) :
    (c.delta fun r => if p r then g r else 0) = if p c.new then c.delta g else 0 := by
  cases ho : c.old with
  | none =>
    simp only [delta, ho, Option.map_none, Option.getD_none]
    split_ifs <;> rfl
  | some o =>
    have hp := h o ho
    simp only [delta, ho, Option.map_some, Option.getD_some, hp]
    split_ifs <;> rfl

/-- An operation that keeps its hold changes none of its amounts. -/
theorem delta_of_held {o r : EscrowRow} (ps : List Posting) (hc : o.Continues r)
    (ho : o.status.held = true) (hr : r.status.held = true) :
    (Change.mk (some o) r ps).delta EscrowRow.heldAmount = 0 ∧
      (Change.mk (some o) r ps).delta EscrowRow.settledAmount = 0 ∧
      (Change.mk (some o) r ps).scopeDelta = 0 := by
  have hheld : (Change.mk (some o) r ps).delta EscrowRow.heldAmount = 0 := by
    simp only [delta, Option.map_some, Option.getD_some, EscrowRow.heldAmount_of_held ho,
      EscrowRow.heldAmount_of_held hr, hc.reservedAmount, sub_self]
  have hsettled : (Change.mk (some o) r ps).delta EscrowRow.settledAmount = 0 := by
    simp only [delta, Option.map_some, Option.getD_some,
      EscrowRow.settledAmount_of_ne (EscrowStatus.ne_settled_of_held ho),
      EscrowRow.settledAmount_of_ne (EscrowStatus.ne_settled_of_held hr), sub_self]
  refine ⟨hheld, hsettled, ?_⟩
  simp only [scopeDelta, delta, Option.map_some, Option.getD_some, EscrowRow.claimed_of_held ho,
    EscrowRow.claimed_of_held hr, hc.reservedAmount, sub_self, ite_self]

theorem delta_add (f g : EscrowRow → Money) :
    (c.delta fun r => f r + g r) = c.delta f + c.delta g := by
  cases ho : c.old <;> simp only [delta, ho, Option.map_none, Option.getD_none, Option.map_some,
    Option.getD_some] <;> ring

end Change

/-! ## What a move does to the tables -/

/-- One wallet's balance changes by an amount, no other balance changes. -/
def Credited (t t' : Table Wallet.userId) (userId : String) (amount : Money) : Prop :=
  ∀ u, (t'.find? u).map Wallet.balance =
    (t.find? u).map fun w => w.balance + if u = userId then amount else 0

/-- The wallet, where there is one, is not overdrawn. -/
def Solvent (t : Table Wallet.userId) (userId : String) : Prop :=
  ∀ b ∈ (t.find? userId).map Wallet.balance, 0 ≤ b

theorem Credited.refl (t : Table Wallet.userId) (userId : String) : Credited t t userId 0 :=
  Table.Adds.refl t userId

theorem Credited.trans {t t' t'' : Table Wallet.userId} {userId : String} {a b : Money}
    (h : Credited t t' userId a) (h' : Credited t' t'' userId b) :
    Credited t t'' userId (a + b) :=
  Table.Adds.trans h h'

/-- Two tables that were credited alike are solvent alike. -/
theorem Solvent.of_credited {t t' t'' : Table Wallet.userId} {userId : String} {a : Money}
    (hs : Solvent t' userId) (h' : Credited t t' userId a) (h : Credited t t'' userId a) :
    Solvent t'' userId :=
  fun b hb => hs b ((h' userId).trans ((h userId).symm.trans hb))

/-- Updating one wallet changes its balance as the update says. -/
theorem Credited.update (t : Table Wallet.userId) (userId : String) {amount : Money}
    {f : Wallet → Wallet} (hf : ∀ w, (f w).userId = w.userId)
    (hb : ∀ w, (f w).balance = w.balance + amount) :
    Credited t (t.update userId f hf) userId amount :=
  Table.Adds.update t userId hf hb

/-- What a move does to the trace budgets: its trace's totals change by `held` and
`settled`; `opens` says whether the move may open the trace. -/
structure TraceMoved (t t' : Table TraceBudget.traceId) (traceId : String) (held settled : Money)
    (opens : Prop) : Prop where
  /-- A stored trace keeps its cap and follows what its operation holds and cost. -/
  kept : ∀ k b, t.find? k = some b → t'.find? k = some (if k = traceId then
    { b with
      reservedTotal := b.reservedTotal + held
      settledTotal := b.settledTotal + settled } else b)
  /-- A trace is opened for its first operation and counts nothing else. -/
  opened : ∀ k b, t.find? k = none → t'.find? k = some b → opens ∧ k = traceId ∧
    b.reservedTotal = held ∧ b.settledTotal = settled
  /-- A reserve leaves its trace stored and within its cap. -/
  within : opens → ∃ b, t'.find? traceId = some b ∧ b.reservedTotal ≤ b.capAmount

/-- The consumption recorded for a scope, none before its first use. -/
def consumedAt (t : Table BudgetScope.key) (scope : ScopeType × String) : Money :=
  ((t.find? scope).map BudgetScope.consumedAmount).getD 0

/-- The listed scopes are charged an amount, no other scope changes. -/
def Charged (t t' : Table BudgetScope.key) (scopes : List (ScopeType × String))
    (amount : Money) : Prop :=
  ∀ s, consumedAt t' s = consumedAt t s + if s ∈ scopes then amount else 0

/-- The columns of an event that say whose money moved. -/
def LedgerEvent.entry (e : LedgerEvent) : String × String × String × Money :=
  (e.idempotencyKey, e.userId, e.eventType, e.amountDelta)

/-- The entry of a posting for an operation. -/
def Posting.entry (r : EscrowRow) (p : Posting) : String × String × String × Money :=
  (r.idempotencyKey, r.userId, p.eventType.text, p.amount)

/-- The events are kept and the postings of an operation are appended. -/
def Logged (rows rows' : List LedgerEvent) (r : EscrowRow) (ps : List Posting) : Prop :=
  ∃ es, rows' = rows ++ es ∧ es.map LedgerEvent.entry = ps.map (Posting.entry r)

theorem Charged.refl (t : Table BudgetScope.key) (scopes : List (ScopeType × String)) :
    Charged t t scopes 0 := by
  intro s
  simp

theorem Logged.refl (rows : List LedgerEvent) (r : EscrowRow) : Logged rows rows r [] :=
  ⟨[], (List.append_nil rows).symm, rfl⟩

theorem Logged.trans {rows rows' rows'' : List LedgerEvent} {r : EscrowRow} {ps qs : List Posting}
    (h : Logged rows rows' r ps) (h' : Logged rows' rows'' r qs) :
    Logged rows rows'' r (ps ++ qs) := by
  obtain ⟨es, rfl, he⟩ := h
  obtain ⟨es', rfl, he'⟩ := h'
  exact ⟨es ++ es', List.append_assoc .., by rw [List.map_append, he, he', List.map_append]⟩

/-- The scopes of an operation. -/
def EscrowRow.scopes (r : EscrowRow) : List (ScopeType × String) :=
  budgetScopes (identityFromOperation r) r.userId

/-- One move of one operation, as the tables show it. -/
structure Move (d : Deployment) (db : Database) (c : Change) (db' : Database) : Prop where
  valid : c.Valid
  /-- The move starts from the stored row. -/
  old : db.escrowLedger.find? c.new.idempotencyKey = c.old
  /-- The move stores the new row. -/
  new : db'.escrowLedger = db.escrowLedger.put c.new
  wallets : Credited db.userWallets db'.userWallets c.new.userId (netAmount c.postings)
  /-- A wallet that pays has been checked afterwards. -/
  funded : netAmount c.postings < 0 → Solvent db'.userWallets c.new.userId
  traces : TraceMoved db.traceBudgetState db'.traceBudgetState c.new.traceId
    (c.delta EscrowRow.heldAmount) (c.delta EscrowRow.settledAmount) (c.old = none)
  scopes : d.attributionSchema = true →
    Charged db.budgetScopeState db'.budgetScopeState c.new.scopes c.scopeDelta
  events : Logged db.ledgerEvents.rows db'.ledgerEvents.rows c.new c.postings

/-- No table that holds money or its history changes. -/
structure Idle (db db' : Database) : Prop where
  userWallets : db'.userWallets = db.userWallets
  escrowLedger : db'.escrowLedger = db.escrowLedger
  traceBudgetState : db'.traceBudgetState = db.traceBudgetState
  budgetScopeState : db'.budgetScopeState = db.budgetScopeState
  ledgerEvents : db'.ledgerEvents = db.ledgerEvents

theorem Idle.refl (db : Database) : Idle db db := ⟨rfl, rfl, rfl, rfl, rfl⟩

/-- A sequence of moves. -/
def Moves (d : Deployment) : Database → List Change → Database → Prop
  | db, [], db' => Idle db db'
  | db, c :: cs, db' => ∃ mid, Move d db c mid ∧ Moves d mid cs db'

theorem Moves.single {d : Deployment} {db db' : Database} {c : Change} (h : Move d db c db') :
    Moves d db [c] db' := ⟨db', h, Idle.refl db'⟩

/-- What every move and every idle step keeps is kept by a sequence of moves. -/
theorem Moves.keeps {d : Deployment} {I : Database → Prop}
    (hidle : ∀ {db db'}, Idle db db' → I db → I db')
    (hmove : ∀ {db c db'}, Move d db c db' → I db → I db')
    {cs : List Change} {db db' : Database} (h : Moves d db cs db') (hI : I db) : I db' := by
  induction cs generalizing db with
  | nil => exact hidle h hI
  | cons c cs ih =>
    obtain ⟨mid, hm, hrest⟩ := h
    exact ih hrest (hmove hm hI)

/-- An aggregate over the operations follows a move. -/
theorem Move.sum_eq {d : Deployment} {db db' : Database} {c : Change} (h : Move d db c db')
    (g : EscrowRow → Money) :
    db'.escrowLedger.sum g = db.escrowLedger.sum g + c.delta g := by
  rw [h.new, Table.sum_put, h.old, Change.delta]
  omega

/-- A fixed column of a moved row is that of the stored row. -/
theorem Move.continues {d : Deployment} {db db' : Database} {c : Change} (h : Move d db c db') :
    ∀ o ∈ c.old, o.Continues c.new := by
  intro o ho
  have hv := h.valid
  rw [Change.Valid, Option.mem_def.mp ho] at hv
  exact hv.continues

end Governor.Ledger
