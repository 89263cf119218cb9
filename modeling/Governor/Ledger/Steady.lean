import Mathlib
import Governor.Ledger.Refinement

/-!
# Invariants of single statements

An invariant of the session that every statement of the ledger keeps, an append among them,
is kept by the blocks of a transaction that do not commit, and one that a commit keeps as well
by whole transactions, whether they return or raise. Where only the statements on the other
tables keep it, the blocks that leave the operations, the attempts and the loop counters alone
do. The lemmas follow the transactions block by block and leave out only the calls that go
outside the database.
-/

namespace Governor.Ledger

variable {d : Deployment} {J : LedgerSession → Prop} {settings : Settings} {clock : Clock}

/-! ## Blocks that write nothing -/

theorem keeps_assertCircuitClosed (breaker : BreakerAnswer) (key : String) :
    Tx.Keeps J (assertCircuitClosed breaker key) := by
  cases breaker with
  | closed => exact Tx.Keeps.pure _
  | opened => exact Tx.Keeps.raise _
  | unavailable => exact Tx.Keeps.raise _

theorem keeps_enforceNonNegativeWalletBalance (userId : String) :
    Tx.Keeps J (enforceNonNegativeWalletBalance userId) := by
  refine Tx.Keeps.read.bind fun db => ?_
  exact Tx.Keeps.ite _ (Tx.Keeps.raise _) (Tx.Keeps.pure _)

theorem keeps_checkSettlement (operation : EscrowRow) (request : SettleRequest) :
    Tx.Keeps J (checkSettlement d operation request) := by
  refine Tx.Keeps.ite _ (Tx.Keeps.raise _) ?_
  refine Tx.Keeps.ite _ (Tx.Keeps.rethrow _ ?_) (Tx.Keeps.pure _)
  rw [validateSettlementIdentity]
  split
  · exact Tx.Keeps.raise _
  · exact Tx.Keeps.pure _

/-- What neither the events nor their ids can change is kept by an append. -/
theorem keeps_append_of
    (hevents : ∀ {s : LedgerSession} t, J s →
      J { s with working := { s.working with ledgerEvents := t } })
    (hid : ∀ {s : LedgerSession} n, J s →
      J { s with outside := { s.outside with lastEventId := n } }) (e : EventDraft) :
    Tx.Keeps J (appendSealedLedgerEvent d e) := by
  have hseal : Tx.Keeps J (sealLastEvent d e) := by
    refine Tx.Keeps.read.bind fun tables => ?_
    split
    · exact Tx.Keeps.pure _
    · exact Tx.Keeps.read.bind fun _ => fun _ hs => hevents _ hs
  refine Tx.Keeps.bind (fun _ hs => hid _ hs) fun id => Tx.Keeps.read.bind fun tables => ?_
  split
  · exact Tx.Keeps.raise _
  · exact Tx.Keeps.bind (fun _ hs => hevents _ hs) fun _ => hseal

/-! ## Statements on the other tables -/

/-- The tables that tell what became of an operation's dispatch. -/
structure DispatchTables where
  escrowLedger : Table EscrowRow.idempotencyKey
  providerDispatchAttempts : Table DispatchAttempt.attemptKey
  executionLoopState : Table LoopState.scopeKey

/-- The dispatch tables of a database. -/
def Database.dispatch (db : Database) : DispatchTables :=
  ⟨db.escrowLedger, db.providerDispatchAttempts, db.executionLoopState⟩

/-- An invariant of the session that the statements on the other tables keep. -/
structure Elsewhere (d : Deployment) (J : LedgerSession → Prop) : Prop where
  write : ∀ {s} {db : Database}, db.ledgerEvents = s.working.ledgerEvents →
    db.dispatch = s.working.dispatch → J s → J { s with working := db }
  append : ∀ e, Tx.Keeps J (appendSealedLedgerEvent d e)

namespace Elsewhere

theorem keeps_write (h : Elsewhere d J) {f : Database → Database}
    (hf : ∀ db, (f db).ledgerEvents = db.ledgerEvents ∧ (f db).dispatch = db.dispatch) :
    Tx.Keeps J (Tx.write f : LedgerTx Unit) :=
  fun s hs => h.write (hf s.working).1 (hf s.working).2 hs

theorem keeps_applyBudgetScopes (h : Elsewhere d J) (scopes : List (ScopeType × String))
    (caps : ScopeType → Money) (delta : Money) :
    Tx.Keeps J (applyBudgetScopes scopes caps delta) := by
  refine Tx.Keeps.forM scopes fun scope => ?_
  refine (h.keeps_write fun _ => ⟨by rfl, by rfl⟩).bind fun _ => Tx.Keeps.read.bind fun db => ?_
  exact Tx.Keeps.ite _ (h.keeps_write fun _ => ⟨by rfl, by rfl⟩) (Tx.Keeps.raise _)

theorem keeps_claimTrace (h : Elsewhere d J) (traceId : String) (traceCap reservedAmount : Money) :
    Tx.Keeps J (claimTrace traceId traceCap reservedAmount) := by
  refine (h.keeps_write fun _ => ⟨by rfl, by rfl⟩).bind fun _ => Tx.Keeps.read.bind fun db => ?_
  refine Tx.Keeps.ite _ (Tx.Keeps.raise _) ?_
  exact Tx.Keeps.ite _ (h.keeps_write fun _ => ⟨by rfl, by rfl⟩) (Tx.Keeps.raise _)

theorem keeps_debitWallet (h : Elsewhere d J) (userId : String) (reservedAmount : Money) :
    Tx.Keeps J (debitWallet userId reservedAmount) := by
  refine Tx.Keeps.read.bind fun db => ?_
  exact Tx.Keeps.ite _ (h.keeps_write fun _ => ⟨by rfl, by rfl⟩) (Tx.Keeps.raise _)

theorem keeps_reserveLineage (h : Elsewhere d J) (row : EscrowRow) :
    Tx.Keeps J (reserveLineage clock row) := by
  rw [reserveLineage]
  split
  · exact Tx.Keeps.pure _
  · exact h.keeps_write fun _ => ⟨by rfl, by rfl⟩

theorem keeps_refundWallet (h : Elsewhere d J) (operation : EscrowRow) (amount : Money) :
    Tx.Keeps J (refundWallet d clock operation amount) := by
  refine Tx.Keeps.ite _ (Tx.Keeps.pure _) ?_
  exact (h.keeps_write fun _ => ⟨by rfl, by rfl⟩).bind fun _ => h.append _

theorem keeps_correctWallet (h : Elsewhere d J) (operation : EscrowRow) (amount : Money) :
    Tx.Keeps J (correctWallet d clock operation amount) := by
  refine Tx.Keeps.ite _ (Tx.Keeps.pure _) ?_
  exact (h.keeps_write fun _ => ⟨by rfl, by rfl⟩).bind fun _ => h.append _

theorem keeps_settleTrace (h : Elsewhere d J) (operation : EscrowRow) (actualAmount : Money) :
    Tx.Keeps J (settleTrace operation actualAmount) :=
  Tx.Keeps.ite _ (h.keeps_write fun _ => ⟨by rfl, by rfl⟩) (h.keeps_write fun _ => ⟨by rfl, by rfl⟩)

theorem keeps_settleScopes (h : Elsewhere d J) (operation : EscrowRow) (actualAmount : Money) :
    Tx.Keeps J (settleScopes d settings operation actualAmount) := by
  refine Tx.Keeps.ite _ (Tx.Keeps.rethrow _ ?_) (Tx.Keeps.pure _)
  exact Tx.Keeps.ite _ (Tx.Keeps.pure _) (h.keeps_applyBudgetScopes _ _ _)

theorem keeps_settleLineage (h : Elsewhere d J) (operation : EscrowRow) (request : SettleRequest)
    (actualAmount : Money) : Tx.Keeps J (settleLineage d clock operation request actualAmount) :=
  Tx.Keeps.ite _ (h.keeps_write fun _ => ⟨by rfl, by rfl⟩) (Tx.Keeps.pure _)

theorem keeps_enforceDrift (h : Elsewhere d J) (operation : EscrowRow) (driftAmount : Money) :
    Tx.Keeps J (enforceDrift d settings clock operation driftAmount) := by
  refine Tx.Keeps.ite _ (Tx.Keeps.pure _) (Tx.Keeps.ite _ ?_ (h.append _))
  exact (h.keeps_write fun _ => ⟨by rfl, by rfl⟩).bind fun _ => h.append _

end Elsewhere

/-! ## Statements on every table -/

/-- An invariant of the session that the statements of the ledger keep, short of a commit. -/
structure Statements (d : Deployment) (J : LedgerSession → Prop) : Prop where
  /-- Statements on the other tables. -/
  write : ∀ {s} {db : Database}, db.ledgerEvents = s.working.ledgerEvents → J s →
    J { s with working := db }
  append : ∀ e, Tx.Keeps J (appendSealedLedgerEvent d e)

namespace Statements

theorem elsewhere (h : Statements d J) : Elsewhere d J where
  write hlog _ hs := h.write hlog hs
  append := h.append

theorem keeps_write (h : Statements d J) {f : Database → Database}
    (hf : ∀ db, (f db).ledgerEvents = db.ledgerEvents) :
    Tx.Keeps J (Tx.write f : LedgerTx Unit) :=
  fun s hs => h.write (hf s.working) hs

theorem keeps_insertEscrow (h : Statements d J) (row : EscrowRow) :
    Tx.Keeps J (insertEscrow row) := by
  refine Tx.Keeps.read.bind fun db => ?_
  split
  · exact Tx.Keeps.ite _ (h.keeps_write fun _ => by rfl) (Tx.Keeps.raise _)
  · exact Tx.Keeps.raise _

theorem keeps_upsertAttempt (h : Statements d J) (idempotencyKey attemptKey : String)
    (request : SettleRequest) (now : Timestamp) :
    Tx.Keeps J (upsertAttempt idempotencyKey attemptKey request now) := by
  refine Tx.Keeps.read.bind fun db => ?_
  exact Tx.Keeps.ite _ (Tx.Keeps.raise _) (h.keeps_write fun _ => by rfl)

theorem keeps_updateEscrow (h : Statements d J) (key : String) (f : EscrowRow → EscrowRow)
    (hf : ∀ r, (f r).idempotencyKey = r.idempotencyKey) : Tx.Keeps J (updateEscrow key f hf) := by
  refine Tx.Keeps.read.bind fun db => ?_
  exact Tx.Keeps.ite _ (Tx.Keeps.raise _) (h.keeps_write fun _ => by rfl)

theorem keeps_settleAttempt (h : Statements d J) (operation : EscrowRow) (request : SettleRequest) :
    Tx.Keeps J (settleAttempt clock operation request) := by
  rw [settleAttempt]
  split
  · exact h.keeps_upsertAttempt _ _ _ _
  · exact Tx.Keeps.pure _

section Calls

variable (hcall : ∀ {s : LedgerSession} (calls : List ExternalCall), J s →
  J { s with outside := { s.outside with calls := calls } })

include hcall

theorem keeps_callOut (call : ExternalCall) : Tx.Keeps J (callOut call) :=
  fun _ hs => hcall _ hs

theorem keeps_settleOpen (h : Statements d J) (operation : EscrowRow) (request : SettleRequest) :
    Tx.Keeps J (settleOpen d settings clock operation request) := by
  have he := h.elsewhere
  refine (h.keeps_settleAttempt _ _).bind fun _ => (he.keeps_refundWallet _ _).bind fun _ => ?_
  refine (he.keeps_correctWallet _ _).bind fun _ => (he.keeps_settleTrace _ _).bind fun _ => ?_
  refine (he.keeps_settleScopes _ _).bind fun _ => (h.keeps_updateEscrow _ _ _).bind fun _ => ?_
  refine (h.append _).bind fun _ => ?_
  refine (keeps_enforceNonNegativeWalletBalance _).bind fun _ => ?_
  refine (keeps_callOut hcall _).bind fun _ => (he.keeps_settleLineage _ _ _).bind fun _ => ?_
  exact (he.keeps_enforceDrift _ _).bind fun _ => Tx.Keeps.pure _

theorem keeps_finalizeSettlement (h : Statements d J) (operation : EscrowRow)
    (request : SettleRequest) :
    Tx.Keeps J (finalizeSettlement d settings clock operation request) :=
  Tx.Keeps.ite _ (Tx.Keeps.ite _ (Tx.Keeps.pure _) (Tx.Keeps.raise _))
    (h.keeps_settleOpen hcall _ _)

theorem keeps_reportTimeout (request : SettleRequest) : Tx.Keeps J (reportTimeout request) :=
  Tx.Keeps.ite _ (keeps_callOut hcall _) (Tx.Keeps.pure _)

end Calls

end Statements

/-! ## Transactions with their commits -/

/-- An invariant of the session that the statements of the ledger keep. -/
structure Steady (d : Deployment) (J : LedgerSession → Prop) : Prop where
  drawn : ∀ {s}, J s → IdsDrawn s
  /-- Statements on the other tables. -/
  write : ∀ {s} {db : Database}, db.ledgerEvents = s.working.ledgerEvents → J s →
    J { s with working := db }
  commit : ∀ {s}, J s → J { s with committed := s.working }
  append : ∀ {e s s'}, Appended d e s s' → J s → J s'

namespace Steady

theorem statements (h : Steady d J) : Statements d J where
  write := h.write
  append _ := fun _ hs => wp_appendSealedLedgerEvent (h.drawn hs) fun _ happ => h.append happ hs

theorem keeps_commit (h : Steady d J) : Tx.Keeps J (Tx.commit : LedgerTx Unit) :=
  fun _ hs => h.commit hs

theorem keeps_enforceManualApproval (h : Steady d J) (request : ReserveRequest)
    (identity : Identity) (now : Timestamp) :
    Tx.Keeps J (enforceManualApproval settings request identity now) := by
  refine Tx.Keeps.ite _ ?_ (Tx.Keeps.pure _)
  refine (h.statements.keeps_write fun _ => by rfl).bind fun _ => ?_
  exact h.keeps_commit.bind fun _ => Tx.Keeps.raise _

theorem keeps_reserveAttribution (h : Steady d J) (request : ReserveRequest)
    (identity : Option Identity) :
    Tx.Keeps J (reserveAttribution settings clock request identity) := by
  cases identity with
  | none => exact Tx.Keeps.pure _
  | some identity =>
    refine Tx.Keeps.rethrow _ ((h.keeps_enforceManualApproval request identity _).bind fun _ => ?_)
    exact h.statements.elsewhere.keeps_applyBudgetScopes _ _ _

theorem keeps_reserveNew (h : Steady d J) (breaker : BreakerAnswer) (request : ReserveRequest) :
    Tx.Keeps J (reserveNew d settings clock breaker request) := by
  refine (keeps_assertCircuitClosed breaker _).bind fun _ => ?_
  refine (h.keeps_reserveAttribution request _).bind fun _ => ?_
  refine (h.statements.elsewhere.keeps_claimTrace _ _ _).bind fun _ => ?_
  refine (h.statements.elsewhere.keeps_debitWallet _ _).bind fun _ => ?_
  refine (h.statements.keeps_insertEscrow _).bind fun _ => (h.statements.append _).bind fun _ => ?_
  refine (h.statements.elsewhere.keeps_reserveLineage _).bind fun _ => ?_
  exact h.keeps_commit.bind fun _ => Tx.Keeps.pure _

theorem keeps_reserveOperation (h : Steady d J) (breaker : BreakerAnswer)
    (request : ReserveRequest) :
    Tx.Keeps J (reserveOperation d settings clock breaker request) := by
  refine Tx.Keeps.read.bind fun db => ?_
  split
  · exact Tx.Keeps.ite _ (Tx.Keeps.raise _) (Tx.Keeps.pure _)
  · exact h.keeps_reserveNew breaker request

theorem keeps_enforceLoopGuardrail (h : Steady d J) (operation : EscrowRow)
    (request : SettleRequest) (now : Timestamp) :
    Tx.Keeps J (enforceLoopGuardrail operation request settings now) := by
  refine Tx.Keeps.ite _ (Tx.Keeps.read.bind fun db => ?_) (Tx.Keeps.pure _)
  split
  · refine Tx.Keeps.ite _ ?_ (h.statements.keeps_write fun _ => by rfl)
    refine (h.statements.keeps_write fun _ => by rfl).bind fun _ => ?_
    exact h.keeps_commit.bind fun _ => Tx.Keeps.raise _
  · exact h.statements.keeps_write fun _ => by rfl

theorem keeps_recordAttemptState (h : Steady d J) (operation : EscrowRow)
    (request : SettleRequest) :
    Tx.Keeps J (recordAttemptState d settings clock operation request) := by
  refine Tx.Keeps.ite _ (Tx.Keeps.raise _) ?_
  split
  · exact Tx.Keeps.raise _
  · refine Tx.Keeps.bind ?_ fun _ => (h.statements.keeps_upsertAttempt _ _ _ _).bind fun _ => ?_
    · refine Tx.Keeps.ite _ (Tx.Keeps.rethrow _ ?_) (Tx.Keeps.pure _)
      exact h.keeps_enforceLoopGuardrail _ _ _
    · refine (h.statements.keeps_updateEscrow _ _ _).bind fun _ => ?_
      exact (h.statements.append _).bind fun _ => Tx.Keeps.pure _

theorem keeps_sweepExpiredReservations (h : Steady d J) (plan : SweepPlan) (batchSize : Nat) :
    Tx.Keeps J (sweepExpiredReservations d clock plan batchSize) := by
  refine Tx.Keeps.read.bind fun db => (Tx.Keeps.forM _ fun row => ?_).bind fun _ => ?_
  · refine Tx.Keeps.read.bind fun db => Tx.Keeps.ite _ ?_ ?_
    · exact (h.statements.keeps_write fun _ => by rfl).bind fun _ => h.statements.append _
    · refine (h.statements.keeps_write fun _ => by rfl).bind fun _ => ?_
      refine (h.statements.keeps_write fun _ => by rfl).bind fun _ => ?_
      exact (h.statements.keeps_write fun _ => by rfl).bind fun _ => h.statements.append _
  · exact h.keeps_commit.bind fun _ => Tx.Keeps.pure _

section Body

variable (hcall : ∀ {s : LedgerSession} (calls : List ExternalCall), J s →
  J { s with outside := { s.outside with calls := calls } })

include hcall

theorem keeps_settleOperation (h : Steady d J) (operation : EscrowRow)
    (request : SettleRequest) :
    Tx.Keeps J (settleOperation d settings clock operation request) := by
  refine (keeps_checkSettlement _ _).bind fun _ => Tx.Keeps.ite _ ?_ ?_
  · refine (h.statements.keeps_finalizeSettlement hcall _ _).bind fun _ => ?_
    refine h.keeps_commit.bind fun _ => ?_
    exact (Statements.keeps_callOut hcall _).bind fun _ => Tx.Keeps.pure _
  · refine (h.keeps_recordAttemptState _ _).bind fun _ => ?_
    refine (Statements.keeps_reportTimeout hcall _).bind fun _ => ?_
    exact h.keeps_commit.bind fun _ => Tx.Keeps.pure _

theorem keeps_body (h : Steady d J) (a : Action) : Tx.Keeps J (a.body d) := by
  cases a with
  | reserve settings clock breaker request =>
    exact (h.keeps_reserveOperation breaker request).bind fun _ => Tx.Keeps.pure _
  | racedReserve settings clock breaker request =>
    exact (h.keeps_reserveNew breaker request).bind fun _ => Tx.Keeps.pure _
  | settle settings clock request =>
    refine Tx.Keeps.bind (Tx.Keeps.read.bind fun db => ?_) fun _ => Tx.Keeps.pure _
    split
    · exact Tx.Keeps.raise _
    · exact h.keeps_settleOperation hcall _ _
  | sweep clock plan batchSize =>
    exact (h.keeps_sweepExpiredReservations plan batchSize).bind fun _ => Tx.Keeps.pure _

end Body

end Steady

end Governor.Ledger
