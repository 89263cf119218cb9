import Mathlib
import Governor.Ledger.Atomic

/-!
# What a transaction does to the dispatch tables

The operations, the attempts and the loop counters after a settlement, given exactly: a final
settlement stores its attempt, if it names one, and closes the row; an update counts its
signature, stores its attempt and records the dispatch. Everything else that a transaction
writes leaves these tables alone.
-/

namespace Governor.Ledger

variable {d : Deployment} {settings : Settings} {clock : Clock} {operation : EscrowRow}
  {request : SettleRequest} {s : LedgerSession} {E : Exn → LedgerSession → Prop}

/-- The dispatch tables of a transaction's own view. -/
def DispatchIs (t : DispatchTables) (s : LedgerSession) : Prop := s.working.dispatch = t

theorem dispatch_elsewhere (d : Deployment) (t : DispatchTables) :
    Elsewhere d (DispatchIs t) where
  write := by
    intro s db _ hdispatch hs
    exact Eq.trans hdispatch hs
  append := keeps_append_of (fun _ hs => hs) (fun _ hs => hs)

/-! ## Attempts -/

/-- The attempt that a settlement stores, if it names one. -/
def storedAttempt (db : Database) (clock : Clock) (operation : EscrowRow)
    (request : SettleRequest) : Option DispatchAttempt :=
  request.dispatchAttemptKey.map fun key =>
    upsertedAttempt db operation.idempotencyKey key request clock.utcnow

/-- Whether the unique index on provider request ids refuses the attempt. -/
def attemptRefused (db : Database) (clock : Clock) (operation : EscrowRow)
    (request : SettleRequest) : Bool :=
  (storedAttempt db clock operation request).any (attemptIdTaken db)

/-- The attempts with one more stored. -/
def DispatchTables.storeAttempt (t : DispatchTables) (attempt : Option DispatchAttempt) :
    DispatchTables :=
  { t with providerDispatchAttempts :=
      attempt.elim t.providerDispatchAttempts t.providerDispatchAttempts.put }

/-- The exception of the unique index on the attempts. -/
def attemptConflict : Exn :=
  .conflictError "provider_request_id is already attached to a different dispatch attempt"

theorem wp_upsertAttempt_exact {Q : Unit → LedgerSession → Prop} {db : Database}
    (hs : s.working.dispatch = db.dispatch) {key : String}
    (hkey : request.dispatchAttemptKey = some key)
    (hE : attemptRefused db clock operation request = true → E attemptConflict s)
    (h : ∀ s', attemptRefused db clock operation request = false →
      DispatchIs (db.dispatch.storeAttempt (storedAttempt db clock operation request)) s' →
      Q () s') :
    Tx.wp (upsertAttempt operation.idempotencyKey key request clock.utcnow) Q E s := by
  have hattempts : s.working.providerDispatchAttempts = db.providerDispatchAttempts :=
    congrArg DispatchTables.providerDispatchAttempts hs
  have hstored : upsertedAttempt s.working operation.idempotencyKey key request clock.utcnow =
      upsertedAttempt db operation.idempotencyKey key request clock.utcnow := by
    rw [upsertedAttempt, upsertedAttempt, hattempts]
  have htaken : ∀ attempt, attemptIdTaken s.working attempt = attemptIdTaken db attempt := by
    intro attempt
    rw [attemptIdTaken, attemptIdTaken, hattempts]
  simp only [upsertAttempt, Tx.wp_bind, Tx.wp_read, Tx.wp_ite, Tx.wp_raise, Tx.wp_write, hstored,
    htaken]
  simp only [attemptRefused, storedAttempt, hkey, Option.map_some, Option.any_some] at hE h
  split_ifs with ht
  · exact hE ht
  · refine h _ (by simpa using ht) ?_
    simp only [DispatchIs, Database.dispatch, DispatchTables.storeAttempt, Option.elim_some,
      DispatchTables.mk.injEq] at hs ⊢
    rw [hs.2.1]
    exact ⟨hs.1, rfl, hs.2.2⟩

theorem wp_settleAttempt_exact {Q : Unit → LedgerSession → Prop} {db : Database}
    (hs : s.working.dispatch = db.dispatch)
    (hE : attemptRefused db clock operation request = true → E attemptConflict s)
    (h : ∀ s', attemptRefused db clock operation request = false →
      DispatchIs (db.dispatch.storeAttempt (storedAttempt db clock operation request)) s' →
      Q () s') :
    Tx.wp (settleAttempt clock operation request) Q E s := by
  rw [settleAttempt]
  split
  · next key hkey => exact wp_upsertAttempt_exact hs hkey hE h
  · next hnone =>
    have hstored : storedAttempt db clock operation request = none := by
      rw [storedAttempt, hnone, Option.map_none]
    rw [attemptRefused, hstored] at h
    exact h s rfl hs

/-! ## Operations -/

/-- The operations with one row replaced. -/
def DispatchTables.putEscrow (t : DispatchTables) (row : EscrowRow) : DispatchTables :=
  { t with escrowLedger := t.escrowLedger.put row }

/-- Whether the unique index on the operations' provider request ids refuses the row. -/
def escrowIdTaken (t : Table EscrowRow.idempotencyKey) (row : EscrowRow) : Bool :=
  row.providerRequestId.isSome && t.rows.any fun o =>
    o.idempotencyKey ≠ row.idempotencyKey && o.providerRequestId = row.providerRequestId

theorem wp_updateEscrow_exact {Q : Unit → LedgerSession → Prop} {t : DispatchTables}
    (hs : DispatchIs t s) {f : EscrowRow → EscrowRow}
    {hf : ∀ r, (f r).idempotencyKey = r.idempotencyKey}
    (hop : t.escrowLedger.find? operation.idempotencyKey = some operation)
    (hE : ∀ m, escrowIdTaken t.escrowLedger (f operation) = true → E (.integrityError m) s)
    (h : ∀ s', escrowIdTaken t.escrowLedger (f operation) = false →
      DispatchIs (t.putEscrow (f operation)) s' → Q () s') :
    Tx.wp (updateEscrow operation.idempotencyKey f hf) Q E s := by
  obtain rfl : s.working.dispatch = t := hs
  change s.working.escrowLedger.find? operation.idempotencyKey = some operation at hop
  have hothers : ((s.working.escrowLedger.update operation.idempotencyKey f hf).find?
      operation.idempotencyKey).any (fun r => r.providerRequestId.isSome &&
        (s.working.escrowLedger.update operation.idempotencyKey f hf).rows.any fun o =>
          o.idempotencyKey ≠ operation.idempotencyKey &&
            o.providerRequestId = r.providerRequestId) =
      escrowIdTaken s.working.escrowLedger (f operation) := by
    rw [Table.find?_update, if_pos rfl, hop, Option.map_some, Option.any_some, escrowIdTaken, hf]
    congr 1
    rw [Table.update, List.any_map]
    refine List.any_congr rfl fun o => ?_
    by_cases ho : o.idempotencyKey = operation.idempotencyKey
    · simp [ho, hf]
    · simp [ho]
  simp only [updateEscrow, Tx.wp_bind, Tx.wp_read, Tx.wp_ite, Tx.wp_raise, Tx.wp_write, hothers]
  split_ifs with ht
  · exact hE _ ht
  · refine h _ (Bool.eq_false_iff.mpr ht) ?_
    rw [Table.update_eq_put hop]
    rfl

/-! ## Loop counters -/

/-- The counter of the signature that an update carries. -/
def loopCounter (db : Database) (operation : EscrowRow) (request : SettleRequest) :
    Option LoopState :=
  db.executionLoopState.find? (loopScopeKey operation (request.loopSignature.getD ""))

/-- Whether the loop guardrail refuses an update. -/
def loopRefused (d : Deployment) (db : Database) (settings : Settings) (operation : EscrowRow)
    (request : SettleRequest) : Bool :=
  d.attributionSchema && truthy request.loopSignature &&
    (loopCounter db operation request).any fun r => settings.maxLoopRepeats ≤ r.consecutiveCount

/-- The counter after one more update. -/
def countedLoop (operation : EscrowRow) (request : SettleRequest) (counter : Option LoopState) :
    LoopState :=
  counter.elim ⟨loopScopeKey operation (request.loopSignature.getD ""),
    request.loopSignature.getD "", 1⟩ fun r => { r with consecutiveCount := r.consecutiveCount + 1 }

/-- The loop counters after an update that is not refused. -/
def loopsAfter (d : Deployment) (db : Database) (operation : EscrowRow)
    (request : SettleRequest) : Table LoopState.scopeKey :=
  if d.attributionSchema && truthy request.loopSignature then
    db.executionLoopState.put (countedLoop operation request (loopCounter db operation request))
  else db.executionLoopState

/-- The exception of the loop guardrail as the settlement reports it. -/
def guardrailError : Exn := .policyStateError "agent loop guardrail triggered"

theorem wp_recordLoopGuardrail_exact {Q : Unit → LedgerSession → Prop} {db : Database}
    (hs : s.working = db)
    (hE : loopRefused d db settings operation request = true →
      ∀ s' : LedgerSession, s'.working.dispatch = db.dispatch → E guardrailError s')
    (h : ∀ s', loopRefused d db settings operation request = false →
      DispatchIs { db.dispatch with executionLoopState := loopsAfter d db operation request } s' →
      Q () s') :
    Tx.wp (recordLoopGuardrail d settings clock operation request) Q E s := by
  subst hs
  unfold recordLoopGuardrail
  cases hattr : d.attributionSchema with
  | false =>
    simp only [Bool.false_eq_true, ite_false, Tx.wp_pure]
    refine h s (by simp [loopRefused, hattr]) ?_
    simp [DispatchIs, Database.dispatch, loopsAfter, hattr]
  | true =>
    rw [if_pos rfl, Tx.wp_rethrow, enforceLoopGuardrail]
    cases hsig : truthy request.loopSignature with
    | false =>
      simp only [Bool.false_eq_true, ite_false, Tx.wp_pure]
      refine h s (by simp [loopRefused, hsig]) ?_
      simp [DispatchIs, Database.dispatch, loopsAfter, hsig]
    | true =>
      simp only [ite_true, Tx.wp_bind, Tx.wp_read]
      have hcounter : loopCounter s.working operation request = s.working.executionLoopState.find?
        (loopScopeKey operation (request.loopSignature.getD "")) := rfl
      split
      · next row hrow =>
        rw [hrow] at hcounter
        simp only [Tx.wp_ite, appendGuardrailIncident, Tx.wp_bind, Tx.wp_write, Tx.wp_commit,
          Tx.wp_raise]
        split_ifs with hcount
        · exact hE (by simp [loopRefused, hattr, hsig, hcounter, hcount]) _ rfl
        · refine h _ (by simp [loopRefused, hattr, hsig, hcounter, hcount]) ?_
          simp only [DispatchIs, Database.dispatch, loopsAfter, hattr, hsig, Bool.and_self,
            ite_true, hcounter, countedLoop, Option.elim_some]
          rw [Table.update_eq_put hrow]
      · next hnone =>
        rw [hnone] at hcounter
        rw [Tx.wp_write]
        refine h _ (by simp [loopRefused, hcounter]) ?_
        simp [DispatchIs, Database.dispatch, loopsAfter, hattr, hsig, hcounter, countedLoop]

/-! ## The exceptions of the other blocks -/

/-- An exception that neither the attempts' index nor the loop guardrail raises. -/
def Unrelated (e : Exn) : Prop := (∀ m, e ≠ .conflictError m) ∧ e ≠ guardrailError

theorem unrelated_integrityError (m : String) : Unrelated (.integrityError m) := by
  simp [Unrelated, guardrailError]

theorem unrelated_ledgerError (m : String) : Unrelated (.ledgerError m) := by
  simp [Unrelated, guardrailError]

theorem unrelated_traceCapExceededError (m : String) : Unrelated (.traceCapExceededError m) := by
  simp [Unrelated, guardrailError]

theorem raises_append (e : EventDraft) : Tx.Raises Unrelated (appendSealedLedgerEvent d e) := by
  have hseal : Tx.Raises Unrelated (sealLastEvent d e) := by
    refine Tx.Raises.read.bind fun tables => ?_
    split
    · exact Tx.Raises.pure _
    · exact Tx.Raises.read.bind fun _ => Tx.Raises.write _
  refine Tx.Raises.bind (Tx.Raises.external _) fun id => Tx.Raises.read.bind fun tables => ?_
  split
  · exact Tx.Raises.raise (unrelated_integrityError _)
  · exact Tx.Raises.bind (Tx.Raises.write _) fun _ => hseal

theorem raises_refundWallet (amount : Money) :
    Tx.Raises Unrelated (refundWallet d clock operation amount) :=
  Tx.Raises.ite _ (Tx.Raises.pure _) ((Tx.Raises.write _).bind fun _ => raises_append _)

theorem raises_correctWallet (amount : Money) :
    Tx.Raises Unrelated (correctWallet d clock operation amount) :=
  Tx.Raises.ite _ (Tx.Raises.pure _) ((Tx.Raises.write _).bind fun _ => raises_append _)

theorem raises_settleTrace (actualAmount : Money) :
    Tx.Raises Unrelated (settleTrace operation actualAmount) :=
  Tx.Raises.ite _ (Tx.Raises.write _) (Tx.Raises.write _)

theorem raises_settleScopes (actualAmount : Money) :
    Tx.Raises Unrelated (settleScopes d settings operation actualAmount) := by
  refine Tx.Raises.ite _ (Tx.Raises.rethrow
    (?_ : Tx.Raises (fun e => ∃ m, e = .budgetScopeExceededError m) _) ?_) (Tx.Raises.pure _)
  · refine Tx.Raises.ite _ (Tx.Raises.pure _) (Tx.Raises.forM _ fun scope => ?_)
    refine (Tx.Raises.write _).bind fun _ => Tx.Raises.read.bind fun db => ?_
    exact Tx.Raises.ite _ (Tx.Raises.write _) (Tx.Raises.raise ⟨_, rfl⟩)
  · rintro e ⟨m, rfl⟩
    exact unrelated_traceCapExceededError m

theorem raises_enforceNonNegativeWalletBalance (userId : String) :
    Tx.Raises Unrelated (enforceNonNegativeWalletBalance userId) := by
  refine Tx.Raises.read.bind fun db => Tx.Raises.ite _ (Tx.Raises.raise ?_) (Tx.Raises.pure _)
  exact unrelated_ledgerError _

theorem raises_settleLineage (actualAmount : Money) :
    Tx.Raises Unrelated (settleLineage d clock operation request actualAmount) :=
  Tx.Raises.ite _ (Tx.Raises.write _) (Tx.Raises.pure _)

theorem raises_enforceDrift (driftAmount : Money) :
    Tx.Raises Unrelated (enforceDrift d settings clock operation driftAmount) := by
  refine Tx.Raises.ite _ (Tx.Raises.pure _) (Tx.Raises.ite _ ?_ (raises_append _))
  exact (Tx.Raises.write _).bind fun _ => raises_append _

/-! ## Final settlements -/

/-- The dispatch tables after a final settlement of an open operation. -/
def settledTables (db : Database) (clock : Clock) (operation : EscrowRow)
    (request : SettleRequest) : DispatchTables :=
  (db.dispatch.storeAttempt (storedAttempt db clock operation request)).putEscrow
    (settledRow clock operation request)

/-- The operations before or after the row was written. -/
def EscrowWritten (db : Database) (row : EscrowRow) (db' : Database) : Prop :=
  db'.escrowLedger = db.escrowLedger ∨ db'.escrowLedger = db.escrowLedger.put row

theorem wp_settleOpen_exact {Q : OperationResult → LedgerSession → Prop} {db : Database}
    (hs : s.working = db)
    (hop : db.escrowLedger.find? operation.idempotencyKey = some operation)
    (hconflict : attemptRefused db clock operation request = true →
      ∀ s' : LedgerSession, s'.working.escrowLedger = db.escrowLedger → E attemptConflict s')
    (hE : attemptRefused db clock operation request = false → ∀ e s', Unrelated e →
      EscrowWritten db (settledRow clock operation request) s'.working → E e s')
    (h : ∀ s', attemptRefused db clock operation request = false →
      escrowIdTaken db.escrowLedger (settledRow clock operation request) = false →
      DispatchIs (settledTables db clock operation request) s' →
      Q ⟨operation.idempotencyKey, .settled, quantizeMoney request.actualCost⟩ s') :
    Tx.wp (settleOpen d settings clock operation request) Q E s := by
  have hstart : s.working.dispatch = db.dispatch := by rw [hs]
  simp only [settleOpen]
  rw [Tx.wp_bind]
  refine wp_settleAttempt_exact hstart (fun hr => hconflict hr s (by rw [hs])) ?_
  intro s₁ hfree hs₁
  have hbefore := dispatch_elsewhere d
    (db.dispatch.storeAttempt (storedAttempt db clock operation request))
  have hafter := dispatch_elsewhere d (settledTables db clock operation request)
  have hE₁ : ∀ e (s' : LedgerSession), Unrelated e →
      DispatchIs (db.dispatch.storeAttempt (storedAttempt db clock operation request)) s' →
      E e s' := fun e s' he hs' =>
    hE hfree e s' he (Or.inl (congrArg DispatchTables.escrowLedger hs'))
  have hE₂ : ∀ e (s' : LedgerSession), Unrelated e →
      DispatchIs (settledTables db clock operation request) s' → E e s' := fun e s' he hs' =>
    hE hfree e s' he (Or.inr (congrArg DispatchTables.escrowLedger hs'))
  refine (raises_refundWallet _).wp_then (hbefore.keeps_refundWallet _ _) hs₁ hE₁ ?_
  intro _ s₂ hs₂
  refine (raises_correctWallet _).wp_then (hbefore.keeps_correctWallet _ _) hs₂ hE₁ ?_
  intro _ s₃ hs₃
  refine (raises_settleTrace _).wp_then (hbefore.keeps_settleTrace _ _) hs₃ hE₁ ?_
  intro _ s₄ hs₄
  refine (raises_settleScopes _).wp_then (hbefore.keeps_settleScopes _ _) hs₄ hE₁ ?_
  intro _ s₅ hs₅
  rw [Tx.wp_bind]
  refine wp_updateEscrow_exact hs₅ hop (fun m _ => hE₁ _ s₅ (unrelated_integrityError m) hs₅) ?_
  intro s₆ huntaken hs₆
  refine (raises_append _).wp_then (hafter.append _) hs₆ hE₂ ?_
  intro _ s₇ hs₇
  refine (raises_enforceNonNegativeWalletBalance _).wp_then
    (keeps_enforceNonNegativeWalletBalance _) hs₇ hE₂ ?_
  intro _ s₈ hs₈
  rw [Tx.wp_bind, callOut, Tx.wp_external]
  refine (raises_settleLineage _).wp_then (hafter.keeps_settleLineage _ _ _)
    (J := DispatchIs (settledTables db clock operation request)) hs₈ hE₂ ?_
  intro _ s₉ hs₉
  refine (raises_enforceDrift _).wp_then (hafter.keeps_enforceDrift _ _) hs₉ hE₂ ?_
  intro _ s' hs'
  exact h s' hfree huntaken hs'

/-! ## Updates -/

/-- The dispatch tables after an update is recorded. -/
def recordedTables (d : Deployment) (db : Database) (clock : Clock) (operation : EscrowRow)
    (request : SettleRequest) : DispatchTables :=
  ({ db.dispatch with executionLoopState := loopsAfter d db operation request }.storeAttempt
    (storedAttempt db clock operation request)).putEscrow (operation.record request clock.utcnow)

/-- A request that closes its operation. -/
structure Closes (d : Deployment) (db : Database) (request : SettleRequest)
    (operation : EscrowRow) : Prop where
  load : loadOperationForUpdate db request = some operation
  accepts : Accepts d operation request
  outcome : request.outcome = .settled
  opened : operation.status ≠ .settled

/-- A request that gets as far as the loop guardrail. -/
structure Updates (d : Deployment) (db : Database) (request : SettleRequest)
    (operation : EscrowRow) : Prop where
  load : loadOperationForUpdate db request = some operation
  accepts : Accepts d operation request
  outcome : request.outcome ≠ .settled
  opened : ¬ (operation.status = .settled ∨ operation.status = .expired)
  key : request.dispatchAttemptKey.isSome = true

/-- The dispatch tables that a settlement leaves when it returns. -/
inductive SettleDispatch (d : Deployment) (settings : Settings) (clock : Clock)
    (request : SettleRequest) (db : Database) : OperationResult → DispatchTables → Prop
  /-- The request repeats the terminal state of its operation. -/
  | replayed {operation : EscrowRow} (hload : loadOperationForUpdate db request = some operation)
      (haccepts : Accepts d operation request) (ho : request.outcome = .settled)
      (hs : operation.status = .settled) (hr : settlementReplays operation request = true) :
      SettleDispatch d settings clock request db
        ⟨operation.idempotencyKey, .settled, quantizeMoney request.actualCost⟩ db.dispatch
  /-- The request settles an open operation. -/
  | settled {operation : EscrowRow} (hcloses : Closes d db request operation)
      (hfree : attemptRefused db clock operation request = false)
      (huntaken : escrowIdTaken db.escrowLedger (settledRow clock operation request) = false) :
      SettleDispatch d settings clock request db
        ⟨operation.idempotencyKey, .settled, quantizeMoney request.actualCost⟩
        (settledTables db clock operation request)
  /-- The request records dispatch activity. -/
  | recorded {operation : EscrowRow} (hupdates : Updates d db request operation)
      (hallowed : loopRefused d db settings operation request = false)
      (hfree : attemptRefused db clock operation request = false)
      (huntaken : escrowIdTaken db.escrowLedger
        (operation.record request clock.utcnow) = false) :
      SettleDispatch d settings clock request db
        ⟨operation.idempotencyKey, request.outcome.status, operation.actualAmount⟩
        (recordedTables d db clock operation request)

/-- The exception that a settlement raises, and the tables it had written to by then. -/
inductive SettleRaised (d : Deployment) (settings : Settings) (clock : Clock)
    (request : SettleRequest) (db : Database) : Exn → Database → Prop
  /-- The checks refuse the request. -/
  | early {e : Exn} {db' : Database} (he : Unrelated e)
      (hwhy : ∀ operation, loadOperationForUpdate db request = some operation →
        Accepts d operation request →
          request.outcome ≠ .settled ∧ ¬ Updates d db request operation)
      (hescrow : db'.escrowLedger = db.escrowLedger) :
      SettleRaised d settings clock request db e db'
  /-- The request contradicts the terminal state of its operation. -/
  | contradicts {operation : EscrowRow} {m : String} {db' : Database}
      (hload : loadOperationForUpdate db request = some operation)
      (haccepts : Accepts d operation request) (ho : request.outcome = .settled)
      (hs : operation.status = .settled) (hr : settlementReplays operation request = false)
      (hescrow : db'.escrowLedger = db.escrowLedger) :
      SettleRaised d settings clock request db (.conflictError m) db'
  /-- The loop guardrail refuses the update. -/
  | guarded {operation : EscrowRow} {db' : Database} (hupdates : Updates d db request operation)
      (hrefused : loopRefused d db settings operation request = true)
      (hescrow : db'.escrowLedger = db.escrowLedger) :
      SettleRaised d settings clock request db guardrailError db'
  /-- The attempts' unique index refuses the attempt. -/
  | conflicting {operation : EscrowRow} {db' : Database}
      (hreach : Closes d db request operation ∨ Updates d db request operation ∧
        loopRefused d db settings operation request = false)
      (hrefused : attemptRefused db clock operation request = true)
      (hescrow : db'.escrowLedger = db.escrowLedger) :
      SettleRaised d settings clock request db attemptConflict db'
  /-- A later statement raises. -/
  | late {operation row : EscrowRow} {e : Exn} {db' : Database} (he : Unrelated e)
      (hreach : Closes d db request operation ∧ row = settledRow clock operation request ∨
        Updates d db request operation ∧ loopRefused d db settings operation request = false ∧
          row = operation.record request clock.utcnow)
      (hfree : attemptRefused db clock operation request = false)
      (hescrow : EscrowWritten db row db') :
      SettleRaised d settings clock request db e db'

theorem unrelated_of_mismatch {field : String}
    (h : identityMismatch operation request = some field) :
    Unrelated (.policyStateError (field ++ " does not match reserved operation identity")) := by
  refine ⟨by simp, ?_⟩
  obtain ⟨c, hc, rfl⟩ := Option.map_eq_some_iff.mp h
  have hmem := List.mem_of_find?_eq_some hc
  have hne : c.1 ++ " does not match reserved operation identity" ≠
      "agent loop guardrail triggered" := by
    simp only [identityChecks, List.mem_cons, List.not_mem_nil, or_false] at hmem
    rcases hmem with rfl | rfl | rfl | rfl <;> simp only <;> decide
  simpa [guardrailError] using hne

/-- The checks pass, or refuse the request without a conflict. -/
theorem wp_checkSettlement_exact {Q : Unit → LedgerSession → Prop} {db : Database}
    (hload : loadOperationForUpdate db request = some operation)
    (hE : ∀ e, Unrelated e → ¬ Accepts d operation request → E e s)
    (h : Accepts d operation request → Q () s) :
    Tx.wp (checkSettlement d operation request) Q E s := by
  have hkey : ∀ key ∈ request.idempotencyKey, key = operation.idempotencyKey := by
    intro key hk
    rw [loadOperationForUpdate, Option.mem_def.mp hk] at hload
    exact (Table.find?_some_key hload).symm
  have hno : ¬ (request.idempotencyKey.any fun key => key ≠ operation.idempotencyKey) = true := by
    rw [Option.any_eq_true]
    rintro ⟨key, hk, hne⟩
    exact of_decide_eq_true hne (hkey key hk)
  unfold checkSettlement
  rw [if_neg hno]
  split_ifs with hattr
  · rw [Tx.wp_rethrow]
    simp only [validateSettlementIdentity]
    split
    · next field hfield =>
      refine hE _ (unrelated_of_mismatch hfield) fun hacc => ?_
      rw [hacc.identity hattr] at hfield
      cases hfield
    · next hnone => exact h ⟨hkey, fun _ => hnone⟩
  · exact h ⟨hkey, fun hn => absurd hn hattr⟩

theorem wp_recordAttemptState_exact {Q : OperationResult → LedgerSession → Prop} {db : Database}
    (hs : s.working = db) (hload : loadOperationForUpdate db request = some operation)
    (haccepts : Accepts d operation request) (ho : request.outcome ≠ .settled)
    (hE : ∀ e s', SettleRaised d settings clock request db e s'.working → E e s')
    (h : ∀ s', Updates d db request operation →
      loopRefused d db settings operation request = false →
      attemptRefused db clock operation request = false →
      escrowIdTaken db.escrowLedger (operation.record request clock.utcnow) = false →
      DispatchIs (recordedTables d db clock operation request) s' →
      Q ⟨operation.idempotencyKey, request.outcome.status, operation.actualAmount⟩ s') :
    Tx.wp (recordAttemptState d settings clock operation request) Q E s := by
  have hsame : ∀ o, loadOperationForUpdate db request = some o → o = operation :=
    fun o ho' => Option.some.inj (ho'.symm.trans hload)
  have hescrow : s.working.escrowLedger = db.escrowLedger := by rw [hs]
  rw [recordAttemptState]
  split_ifs with hterminal
  · refine hE _ _ (.early (by simp [Unrelated, guardrailError]) ?_ hescrow)
    intro o ho' _
    rw [hsame o ho']
    exact ⟨ho, fun hu => hu.opened hterminal⟩
  split
  · next hnone =>
    refine hE _ _ (.early (by simp [Unrelated, guardrailError]) ?_ hescrow)
    intro o ho' _
    exact ⟨ho, fun hu => by simpa [hnone] using hu.key⟩
  next key hkey =>
  have hupdates : Updates d db request operation :=
    ⟨hload, haccepts, ho, hterminal, by rw [hkey]; rfl⟩
  have hop := find?_of_loadOperationForUpdate hload
  rw [Tx.wp_bind]
  refine wp_recordLoopGuardrail_exact hs (fun hr s' hs' => ?_) fun s₁ hallowed hs₁ => ?_
  · exact hE _ _ (.guarded hupdates hr (congrArg DispatchTables.escrowLedger hs'))
  have hattempts : s₁.working.dispatch =
      ({ db with executionLoopState := loopsAfter d db operation request } : Database).dispatch :=
    hs₁
  rw [Tx.wp_bind]
  refine wp_upsertAttempt_exact hattempts hkey (fun hr => ?_) fun s₂ hfree hs₂ => ?_
  · exact hE _ _ (.conflicting (Or.inr ⟨hupdates, hallowed⟩) hr
      (congrArg DispatchTables.escrowLedger hs₁))
  have hlate : ∀ e (s' : LedgerSession), Unrelated e →
      EscrowWritten db (operation.record request clock.utcnow) s'.working → E e s' :=
    fun e s' he hs' => hE e s' (.late he (Or.inr ⟨hupdates, hallowed, rfl⟩) hfree hs')
  rw [Tx.wp_bind]
  refine wp_updateEscrow_exact hs₂ hop (fun m _ => ?_) fun s₃ huntaken hs₃ => ?_
  · exact hlate _ _ (unrelated_integrityError m)
      (Or.inl (congrArg DispatchTables.escrowLedger hs₂))
  refine (raises_append _).wp_then
    ((dispatch_elsewhere d (recordedTables d db clock operation request)).append _) hs₃ ?_ ?_
  · exact fun e s' he hs' => hlate e s' he (Or.inr (congrArg DispatchTables.escrowLedger hs'))
  · exact fun _ s' hs' => h s' hupdates hallowed hfree huntaken hs'

/-- What a settlement does to the dispatch tables, from any state and for any request. -/
theorem wp_applySettlement_exact {db : Database} (hs : s.working = db) :
    Tx.wp (applySettlement d settings clock request)
      (fun result s' => s'.committed = s'.working ∧
        SettleDispatch d settings clock request db result s'.working.dispatch)
      (fun e s' => SettleRaised d settings clock request db e s'.working) s := by
  have hescrow : s.working.escrowLedger = db.escrowLedger := by rw [hs]
  simp only [applySettlement, Tx.wp_bind, Tx.wp_read, hs]
  split
  · next hnone =>
    refine .early (by simp [Unrelated, guardrailError]) ?_ hescrow
    intro o ho
    rw [hnone] at ho
    cases ho
  next operation hload =>
  have hsame : ∀ o, loadOperationForUpdate db request = some o → o = operation :=
    fun o ho => Option.some.inj (ho.symm.trans hload)
  rw [settleOperation, Tx.wp_bind]
  refine wp_checkSettlement_exact hload (fun e he hna => ?_) fun haccepts => ?_
  · refine .early he ?_ hescrow
    intro o ho hacc
    rw [hsame o ho] at hacc
    exact absurd hacc hna
  split_ifs with ho
  · rw [Tx.wp_bind, finalizeSettlement]
    split_ifs with hset hr
    · have hdone : SettleDispatch d settings clock request db _ _ :=
        .replayed hload haccepts ho hset hr
      rw [← show s.working.dispatch = db.dispatch by rw [hs]] at hdone
      exact ⟨rfl, hdone⟩
    · exact .contradicts hload haccepts ho hset (Bool.eq_false_iff.mpr hr) hescrow
    · have hcloses : Closes d db request operation := ⟨hload, haccepts, ho, hset⟩
      refine wp_settleOpen_exact hs (find?_of_loadOperationForUpdate hload) ?_ ?_ ?_
      · exact fun hr s' hs' => .conflicting (Or.inl hcloses) hr hs'
      · exact fun hfree e s' he hs' => .late he (Or.inl ⟨hcloses, rfl⟩) hfree hs'
      · intro s' hfree huntaken hs'
        have hdone : SettleDispatch d settings clock request db _ _ :=
          .settled hcloses hfree huntaken
        rw [← show s'.working.dispatch = _ from hs'] at hdone
        exact ⟨rfl, hdone⟩
  · rw [Tx.wp_bind]
    refine wp_recordAttemptState_exact hs hload haccepts ho (fun _ _ he => he) ?_
    intro s₁ hupdates hallowed hfree huntaken hs₁
    have hdone := SettleDispatch.recorded hupdates hallowed hfree huntaken
    rw [← show s₁.working.dispatch = _ from hs₁] at hdone
    rw [Tx.wp_bind, reportTimeout]
    split_ifs
    · exact ⟨rfl, hdone⟩
    · exact ⟨rfl, hdone⟩

/-! ## Reserves -/

theorem wp_insertEscrow_exact {row : EscrowRow} {t : DispatchTables}
    {Q : Unit → LedgerSession → Prop} (hs : DispatchIs t s) (hE : ∀ e, E e s)
    (h : ∀ s', t.escrowLedger.find? row.idempotencyKey = none →
      DispatchIs (t.putEscrow row) s' → Q () s') : Tx.wp (insertEscrow row) Q E s := by
  obtain rfl : s.working.dispatch = t := hs
  rw [insertEscrow, Tx.wp_bind, Tx.wp_read]
  split
  · next t ht =>
    obtain ⟨hfresh, rfl⟩ := Table.insert?_eq_some.mp ht
    rw [Tx.wp_ite]
    split_ifs
    · exact h _ hfresh rfl
    · exact hE _
  · exact hE _

/-- A reserve that returns has added its row and written nothing else to these tables. -/
theorem wp_reserveNew_exact {breaker : BreakerAnswer} {reserve : ReserveRequest} {db : Database}
    (hs : s.working = db) :
    Tx.wp (reserveNew d settings clock breaker reserve)
      (fun _ s' => s'.committed = s'.working ∧
        db.escrowLedger.find? reserve.idempotencyKey = none ∧
        DispatchIs (db.dispatch.putEscrow (reserveChange d settings clock reserve).new) s')
      (fun _ s' => EscrowWritten db (reserveChange d settings clock reserve).new s'.working) s := by
  have hbefore := dispatch_elsewhere d db.dispatch
  have hafter := dispatch_elsewhere d
    (db.dispatch.putEscrow (reserveChange d settings clock reserve).new)
  have hstart : DispatchIs db.dispatch s := by rw [DispatchIs, hs]
  have hE : ∀ (_ : Exn) (s' : LedgerSession), DispatchIs db.dispatch s' →
      EscrowWritten db (reserveChange d settings clock reserve).new s'.working :=
    fun _ _ hs' => Or.inl (congrArg DispatchTables.escrowLedger hs')
  have hE' : ∀ (_ : Exn) (s' : LedgerSession), DispatchIs
      (db.dispatch.putEscrow (reserveChange d settings clock reserve).new) s' →
      EscrowWritten db (reserveChange d settings clock reserve).new s'.working :=
    fun _ _ hs' => Or.inr (congrArg DispatchTables.escrowLedger hs')
  have hcontrols : Tx.Keeps (DispatchIs db.dispatch) (reserveAttribution settings clock reserve
      (if d.attributionSchema then some (identityFromReserve reserve) else none)) := by
    split_ifs
    · refine Tx.Keeps.rethrow _ (Tx.Keeps.bind (Tx.Keeps.ite _ ?_ (Tx.Keeps.pure _)) fun _ => ?_)
      · exact Tx.Keeps.bind (fun _ hs => hs) fun _ =>
          Tx.Keeps.bind (fun _ hs => hs) fun _ => Tx.Keeps.raise _
      · exact hbefore.keeps_applyBudgetScopes _ _ _
    · exact Tx.Keeps.pure _
  refine (keeps_assertCircuitClosed breaker _).wp_then hstart hE fun _ s₁ hs₁ => ?_
  refine hcontrols.wp_then hs₁ hE fun _ s₂ hs₂ => ?_
  refine (hbefore.keeps_claimTrace _ _ _).wp_then hs₂ hE fun _ s₃ hs₃ => ?_
  refine (hbefore.keeps_debitWallet _ _).wp_then hs₃ hE fun _ s₄ hs₄ => ?_
  rw [Tx.wp_bind]
  refine wp_insertEscrow_exact hs₄ (fun e => hE e s₄ hs₄) fun s₅ hfresh hs₅ => ?_
  refine (hafter.append _).wp_then hs₅ hE' fun _ s₆ hs₆ => ?_
  refine (hafter.keeps_reserveLineage _).wp_then hs₆ hE' fun _ s₇ hs₇ => ?_
  exact ⟨rfl, hfresh, hs₇⟩

/-! ## Sweeps -/

/-- The attempts and the loop counters are those of `db`, committed and in the session. -/
structure SameAttempts (db : Database) (s : LedgerSession) : Prop where
  working : s.working.providerDispatchAttempts = db.providerDispatchAttempts ∧
    s.working.executionLoopState = db.executionLoopState
  committed : s.committed.providerDispatchAttempts = db.providerDispatchAttempts ∧
    s.committed.executionLoopState = db.executionLoopState

theorem keeps_sweep (db : Database) (plan : SweepPlan) (batchSize : Nat) :
    Tx.Keeps (SameAttempts db) (sweepExpiredReservations d clock plan batchSize) := by
  have hwrite : ∀ f : Database → Database,
      (∀ x, (f x).providerDispatchAttempts = x.providerDispatchAttempts ∧
        (f x).executionLoopState = x.executionLoopState) →
      Tx.Keeps (SameAttempts db) (Tx.write f : LedgerTx Unit) := by
    intro f hf s hs
    refine ⟨⟨?_, ?_⟩, hs.committed⟩
    · exact (hf s.working).1.trans hs.working.1
    · exact (hf s.working).2.trans hs.working.2
  have happend : ∀ e, Tx.Keeps (SameAttempts db) (appendSealedLedgerEvent d e) :=
    keeps_append_of (fun _ hs => ⟨hs.working, hs.committed⟩)
      (fun _ hs => ⟨hs.working, hs.committed⟩)
  refine Tx.Keeps.read.bind fun db => (Tx.Keeps.forM _ fun row => ?_).bind fun _ => ?_
  · refine Tx.Keeps.read.bind fun db => Tx.Keeps.ite _ ?_ ?_
    · exact (hwrite _ fun _ => by exact ⟨rfl, rfl⟩).bind fun _ => happend _
    · refine (hwrite _ fun _ => by exact ⟨rfl, rfl⟩).bind fun _ => ?_
      refine (hwrite _ fun _ => by exact ⟨rfl, rfl⟩).bind fun _ => ?_
      exact (hwrite _ fun _ => by exact ⟨rfl, rfl⟩).bind fun _ => happend _
  · exact Tx.Keeps.bind (fun s hs => ⟨hs.working, hs.working⟩) fun _ => Tx.Keeps.pure _

/-! ## Transactions -/

/-- The session that a transaction leaves, before what it did not commit is rolled back. -/
def sessionAfter (d : Deployment) (w : LedgerWorld) (a : Action) : LedgerSession :=
  (a.body d ⟨w.tables, w.tables, w.outside⟩).2

/-- What holds of a body on both exits holds of its response, its world and its session. -/
theorem of_wp_body {w : LedgerWorld} {a : Action}
    {Q : Response → LedgerSession → Prop} {E : Exn → LedgerSession → Prop}
    (h : Tx.wp (a.body d) Q E ⟨w.tables, w.tables, w.outside⟩) :
    (step d w a).tables = (sessionAfter d w a).committed ∧
      (∀ r, respond d w a = .ok r → Q r (sessionAfter d w a)) ∧
      ∀ e, respond d w a = .error e → E e (sessionAfter d w a) := by
  unfold Tx.wp at h
  unfold respond step sessionAfter Tx.run
  rcases hx : a.body d ⟨w.tables, w.tables, w.outside⟩ with ⟨e | r, s'⟩ <;> rw [hx] at h
  · refine ⟨rfl, nofun, ?_⟩
    rintro e' ⟨⟩
    exact h
  · refine ⟨rfl, ?_, nofun⟩
    rintro r' ⟨⟩
    exact h

/-- What a settlement that returns has committed. -/
theorem settle_returned {w : LedgerWorld} {settings : Settings} {clock : Clock}
    {request : SettleRequest} {r : Response}
    (h : respond d w (.settle settings clock request) = .ok r) :
    (sessionAfter d w (.settle settings clock request)).working =
        (step d w (.settle settings clock request)).tables ∧
      ∃ result, r = .operation result ∧ SettleDispatch d settings clock request w.tables result
        (step d w (.settle settings clock request)).tables.dispatch := by
  have hwp : Tx.wp (Action.body d (.settle settings clock request))
      (fun r s' => s'.committed = s'.working ∧ ∃ result, r = .operation result ∧
        SettleDispatch d settings clock request w.tables result s'.working.dispatch)
      (fun _ _ => True) ⟨w.tables, w.tables, w.outside⟩ := by
    rw [Action.body, Tx.wp_bind]
    refine Tx.wp_mono (wp_applySettlement_exact rfl) ?_ (fun _ _ _ => trivial)
    intro result s' h
    exact ⟨h.1, result, rfl, h.2⟩
  obtain ⟨htables, hok, -⟩ := of_wp_body hwp
  obtain ⟨hcommitted, hdone⟩ := hok r h
  rw [htables, hcommitted]
  exact ⟨rfl, hdone⟩

/-- What a settlement that raises had written by then. -/
theorem settle_raised {w : LedgerWorld} {settings : Settings} {clock : Clock}
    {request : SettleRequest} {e : Exn}
    (h : respond d w (.settle settings clock request) = .error e) :
    SettleRaised d settings clock request w.tables e
      (sessionAfter d w (.settle settings clock request)).working := by
  have hwp : Tx.wp (Action.body d (.settle settings clock request)) (fun _ _ => True)
      (fun e s' => SettleRaised d settings clock request w.tables e s'.working)
      ⟨w.tables, w.tables, w.outside⟩ := by
    rw [Action.body, Tx.wp_bind]
    exact Tx.wp_mono (wp_applySettlement_exact rfl) (fun _ _ _ => trivial) (fun _ _ he => he)
  exact (of_wp_body hwp).2.2 e h

/-- What a reserve that returns has committed, unless it was a replay. -/
structure Reserves (w : LedgerWorld) (row : EscrowRow) (s' : LedgerSession) : Prop where
  committed : s'.committed = s'.working
  fresh : w.tables.escrowLedger.find? row.idempotencyKey = none
  tables : s'.working.dispatch = w.tables.dispatch.putEscrow row

/-- A reserve adds its row, or answers from the row that is there, or raises. -/
theorem reserve_exact (d : Deployment) (w : LedgerWorld) (raced : Bool) (settings : Settings)
    (clock : Clock) (breaker : BreakerAnswer) (reserve : ReserveRequest) :
    Tx.wp (Action.body d (reserveAction raced settings clock breaker reserve))
      (fun _ s' => Reserves w (reserveChange d settings clock reserve).new s' ∨
        s' = ⟨w.tables, w.tables, w.outside⟩)
      (fun _ s' => EscrowWritten w.tables (reserveChange d settings clock reserve).new s'.working)
      ⟨w.tables, w.tables, w.outside⟩ := by
  have hnew : Tx.wp (reserveNew d settings clock breaker reserve)
      (fun _ s' => Reserves w (reserveChange d settings clock reserve).new s' ∨
        s' = ⟨w.tables, w.tables, w.outside⟩)
      (fun _ s' => EscrowWritten w.tables (reserveChange d settings clock reserve).new s'.working)
      ⟨w.tables, w.tables, w.outside⟩ := by
    refine Tx.wp_mono (wp_reserveNew_exact rfl) ?_ (fun _ _ he => he)
    exact fun _ s' ⟨hc, hfresh, ht⟩ => Or.inl ⟨hc, hfresh, ht⟩
  cases raced with
  | true =>
    simp only [reserveAction, ite_true]
    rw [Action.body, Tx.wp_bind]
    exact hnew
  | false =>
    simp only [reserveAction, Bool.false_eq_true, ite_false, Action.body, reserveOperation,
      Tx.wp_bind, Tx.wp_read]
    split
    · next existing _ =>
      unfold replayReserve
      by_cases hfp : existing.requestFingerprint ≠ fingerprintReserveRequest d reserve
      · rw [if_pos hfp]
        exact Or.inl rfl
      · rw [if_neg hfp]
        exact Or.inr rfl
    · exact hnew

/-- A transaction that raises leaves the dispatch tables alone. -/
theorem dispatch_of_raised {w : LedgerWorld} {a : Action} (ha : a.isSweep = false) {e : Exn}
    (h : respond d w a = .error e) : (step d w a).tables.dispatch = w.tables.dispatch := by
  obtain ⟨_, hadded⟩ := raised_changes_nothing d w a ha e h
  rw [hadded]
  rfl

/-- Only a settlement that returns reaches the attempts and the loop counters. -/
theorem step_attempts {w : LedgerWorld} {a : Action}
    (h : ∀ settings clock request r, a = .settle settings clock request →
      respond d w a ≠ .ok r) :
    (step d w a).tables.providerDispatchAttempts = w.tables.providerDispatchAttempts ∧
      (step d w a).tables.executionLoopState = w.tables.executionLoopState := by
  have hreserve : ∀ raced settings clock breaker reserve,
      (step d w (reserveAction raced settings clock breaker reserve)).tables.dispatch =
          w.tables.dispatch ∨
        ∃ row, (step d w (reserveAction raced settings clock breaker reserve)).tables.dispatch =
          w.tables.dispatch.putEscrow row := by
    intro raced settings clock breaker reserve
    obtain ⟨htables, hok, -⟩ :=
      of_wp_body (reserve_exact d w raced settings clock breaker reserve)
    cases hr : respond d w (reserveAction raced settings clock breaker reserve) with
    | error e =>
      refine Or.inl (dispatch_of_raised ?_ hr)
      cases raced <;> rfl
    | ok r =>
      rcases hok r hr with hnew | hsame
      · rw [htables, hnew.committed]
        exact Or.inr ⟨_, hnew.tables⟩
      · rw [htables, hsame]
        exact Or.inl rfl
  have hfields : ∀ {t : DispatchTables}, t = w.tables.dispatch ∨
      (∃ row, t = w.tables.dispatch.putEscrow row) →
      t.providerDispatchAttempts = w.tables.providerDispatchAttempts ∧
        t.executionLoopState = w.tables.executionLoopState := by
    rintro t (rfl | ⟨row, rfl⟩) <;> exact ⟨rfl, rfl⟩
  cases a with
  | reserve settings clock breaker request =>
    exact hfields (hreserve false settings clock breaker request)
  | racedReserve settings clock breaker request =>
    exact hfields (hreserve true settings clock breaker request)
  | settle settings clock request =>
    cases hr : respond d w (.settle settings clock request) with
    | ok r => exact absurd hr (h settings clock request r rfl)
    | error e => exact hfields (Or.inl (dispatch_of_raised rfl hr))
  | sweep clock plan batchSize =>
    have hkeeps : Tx.Keeps (SameAttempts w.tables) (Action.body d (.sweep clock plan batchSize)) :=
      (keeps_sweep w.tables plan batchSize).bind fun _ => Tx.Keeps.pure _
    have hsame := hkeeps ⟨w.tables, w.tables, w.outside⟩ ⟨⟨rfl, rfl⟩, ⟨rfl, rfl⟩⟩
    obtain ⟨htables, hok, herr⟩ := of_wp_body hsame
    rw [htables]
    cases hr : respond d w (.sweep clock plan batchSize) with
    | ok r => exact (hok r hr).committed
    | error e => exact (herr e hr).committed

end Governor.Ledger
