import Mathlib
import Governor.Ledger.Steady

/-!
# A transaction that raises has changed nothing

Everything that a reserve or a settlement writes is committed by one statement near its end,
and nothing raises after it. The two guardrails commit before they raise, each on a path on
which nothing but its own incident has been written: so an exception leaves every table as it
was, apart from incidents that were added.
-/

namespace Governor.Ledger

variable {d : Deployment} {settings : Settings} {clock : Clock}

/-- The committed tables are still those of the start. -/
def Uncommitted (db : Database) (s : LedgerSession) : Prop := s.committed = db

/-- No statement other than a commit reaches the committed tables. -/
theorem uncommitted_statements (d : Deployment) (db : Database) :
    Statements d (Uncommitted db) where
  write _ hs := hs
  append := keeps_append_of (fun _ hs => hs) (fun _ hs => hs)

/-- Every table but `guardrail_incidents` is as it was, and incidents are only added. -/
def OnlyIncidents (db db' : Database) : Prop :=
  ∃ added, db' = { db with guardrailIncidents := db.guardrailIncidents ++ added }

theorem OnlyIncidents.refl (db : Database) : OnlyIncidents db db :=
  ⟨[], by rw [List.append_nil]⟩

/-- The exceptional postcondition of a body that starts from the tables `db`. -/
def Unchanged (db : Database) (_ : Exn) (s : LedgerSession) : Prop :=
  OnlyIncidents db s.committed

theorem unchanged_of_uncommitted (db : Database) (e : Exn) (s : LedgerSession)
    (h : Uncommitted db s) : Unchanged db e s := by
  have hrefl := OnlyIncidents.refl db
  rwa [← h] at hrefl ⊢

section Bodies

variable {db : Database} {s : LedgerSession} {operation : EscrowRow} {request : SettleRequest}

/-! ## The guardrails -/

/-- The approval rule raises with its incident committed and nothing else written. -/
theorem wp_enforceManualApproval_atomic {reserve : ReserveRequest} {identity : Identity}
    {now : Timestamp} {Q : Unit → LedgerSession → Prop} (hw : s.working = db) (h : Q () s) :
    Tx.wp (enforceManualApproval settings reserve identity now) Q (Unchanged db) s := by
  unfold enforceManualApproval
  by_cases hn : (needsApproval settings reserve && !truthy reserve.manualApprovalId) = true
  · rw [if_pos hn]
    simp only [appendGuardrailIncident, Tx.wp_bind, Tx.wp_write, Tx.wp_commit, Tx.wp_raise]
    exact ⟨_, by rw [hw]⟩
  · rw [if_neg hn]
    exact h

/-- The loop guardrail raises with its incident committed and nothing else written. -/
theorem wp_recordLoopGuardrail_atomic {Q : Unit → LedgerSession → Prop}
    (hs : Uncommitted db s) (hw : s.working = db) (h : ∀ s', Uncommitted db s' → Q () s') :
    Tx.wp (recordLoopGuardrail d settings clock operation request) Q (Unchanged db) s := by
  unfold recordLoopGuardrail
  split_ifs
  · rw [Tx.wp_rethrow]
    simp only [enforceLoopGuardrail, appendGuardrailIncident, Tx.wp_ite, Tx.wp_bind, Tx.wp_read,
      Tx.wp_pure]
    split_ifs
    · split
      · simp only [Tx.wp_ite, Tx.wp_bind, Tx.wp_write, Tx.wp_commit, Tx.wp_raise]
        split_ifs
        · exact ⟨_, by rw [hw]⟩
        · exact h _ hs
      · exact h _ hs
    · exact h s hs
  · exact h s hs

/-! ## Reserves and settlements -/

theorem wp_reserveNew_atomic (breaker : BreakerAnswer) (reserve : ReserveRequest)
    (hs : Uncommitted db s) (hw : s.working = db) :
    Tx.wp (reserveNew d settings clock breaker reserve) (fun _ _ => True) (Unchanged db) s := by
  have hst := uncommitted_statements d db
  have hE := unchanged_of_uncommitted db
  have hrest : ∀ {row : EscrowRow} {s' : LedgerSession}, Uncommitted db s' →
      Tx.wp (do
        claimTrace row.traceId row.traceCapAmount row.reservedAmount
        debitWallet row.userId row.reservedAmount
        insertEscrow row
        appendSealedLedgerEvent d (reserveEvent clock reserve row)
        reserveLineage clock row
        Tx.commit
        pure (⟨row.idempotencyKey, .reserved, row.reservedAmount⟩ : OperationResult))
        (fun _ _ => True) (Unchanged db) s' := by
    intro row s₁ hs₁
    refine (hst.elsewhere.keeps_claimTrace _ _ _).wp_then hs₁ hE fun _ s₂ hs₂ => ?_
    refine (hst.elsewhere.keeps_debitWallet _ _).wp_then hs₂ hE fun _ s₃ hs₃ => ?_
    refine (hst.keeps_insertEscrow _).wp_then hs₃ hE fun _ s₄ hs₄ => ?_
    refine (hst.append _).wp_then hs₄ hE fun _ s₅ hs₅ => ?_
    exact (hst.elsewhere.keeps_reserveLineage _).wp_then hs₅ hE fun _ s₆ hs₆ => trivial
  refine (keeps_assertCircuitClosed breaker _).wp_then
    (J := fun s => s.committed = db ∧ s.working = db) ⟨hs, hw⟩
    (fun e s' hs' => hE e s' hs'.1) fun _ s₁ ⟨hs₁, hw₁⟩ => ?_
  rw [Tx.wp_bind]
  cases hattr : d.attributionSchema with
  | false => exact hrest hs₁
  | true =>
    simp only [reserveAttribution, ite_true]
    rw [Tx.wp_rethrow, Tx.wp_bind]
    refine wp_enforceManualApproval_atomic hw₁ ?_
    refine Tx.wp_mono (hst.elsewhere.keeps_applyBudgetScopes _ _ _ s₁ hs₁) (fun _ _ => hrest) ?_
    exact fun _ s' hs' => hE _ s' hs'

/-- A settlement raises before its commit, with an incident committed at most. -/
theorem wp_settleOperation_atomic (hs : Uncommitted db s) (hw : s.working = db) :
    Tx.wp (settleOperation d settings clock operation request) (fun _ _ => True)
      (Unchanged db) s := by
  have hst := uncommitted_statements d db
  have hE := unchanged_of_uncommitted db
  have hfinal : Tx.Keeps (Uncommitted db) (finalizeSettlement d settings clock operation request) :=
    Statements.keeps_finalizeSettlement (fun _ hs => hs) hst operation request
  have htimeout : Tx.Keeps (Uncommitted db) (reportTimeout request) :=
    Statements.keeps_reportTimeout (fun _ hs => hs) request
  refine (keeps_checkSettlement operation request).wp_then (J := fun s =>
    s.committed = db ∧ s.working = db) ⟨hs, hw⟩ (fun e s' hs' => hE e s' hs'.1) ?_
  intro _ s₁ ⟨hs₁, hw₁⟩
  split_ifs
  · exact hfinal.wp_then hs₁ hE fun _ _ _ => trivial
  rw [recordAttemptState]
  split_ifs
  · rw [Tx.wp_bind, Tx.wp_raise]
    exact hE _ _ hs₁
  split
  · rw [Tx.wp_bind, Tx.wp_raise]
    exact hE _ _ hs₁
  simp only [Tx.wp_bind]
  refine wp_recordLoopGuardrail_atomic hs₁ hw₁ fun s₂ hs₂ => ?_
  refine Tx.wp_mono (hst.keeps_upsertAttempt _ _ _ _ s₂ hs₂) (fun _ s₃ hs₃ => ?_) hE
  refine Tx.wp_mono (hst.keeps_updateEscrow _ _ _ s₃ hs₃) (fun _ s₄ hs₄ => ?_) hE
  refine Tx.wp_mono (hst.append _ s₄ hs₄) (fun _ s₅ hs₅ => ?_) hE
  rw [Tx.wp_pure]
  exact Tx.wp_mono (htimeout s₅ hs₅) (fun _ _ _ => trivial) hE

end Bodies

theorem body_atomic {w : LedgerWorld} {a : Action} (ha : a.isSweep = false) :
    Tx.wp (a.body d) (fun _ _ => True) (Unchanged w.tables)
      ⟨w.tables, w.tables, w.outside⟩ := by
  cases a with
  | reserve settings clock breaker request =>
    simp only [Action.body, reserveOperation, Tx.wp_bind, Tx.wp_read]
    split
    · next existing _ =>
      unfold replayReserve
      by_cases hfp : existing.requestFingerprint ≠ fingerprintReserveRequest d request
      · rw [if_pos hfp]
        exact OnlyIncidents.refl _
      · rw [if_neg hfp]
        exact trivial
    · exact wp_reserveNew_atomic breaker request rfl rfl
  | racedReserve settings clock breaker request =>
    rw [Action.body, Tx.wp_bind]
    exact wp_reserveNew_atomic breaker request rfl rfl
  | settle settings clock request =>
    simp only [Action.body, applySettlement, Tx.wp_bind, Tx.wp_read]
    split
    · exact OnlyIncidents.refl _
    · exact wp_settleOperation_atomic rfl rfl
  | sweep => cases ha

/-- Whatever a reserve or a settlement raises, from any state and for any request, every table
but `guardrail_incidents` is afterwards as it was before. -/
theorem raised_changes_nothing (d : Deployment) (w : LedgerWorld) (a : Action)
    (ha : a.isSweep = false) (e : Exn) (he : respond d w a = .error e) :
    OnlyIncidents w.tables (step d w a).tables := by
  have hall : ∀ e, respond d w a = .error e → OnlyIncidents w.tables (step d w a).tables := by
    apply Tx.run_of_wp (R := fun r w' => ∀ e, r = .error e → OnlyIncidents w.tables w'.tables)
    refine Tx.wp_mono (body_atomic ha) ?_ (fun _ _ h _ _ => h)
    intro _ _ _ e he
    cases he
  exact hall e he

/-- A final settlement that raises changes no table at all. -/
theorem final_raised_changes_nothing {w : LedgerWorld} {settings : Settings}
    {clock : Clock} {request : SettleRequest} (ho : request.outcome = .settled) {e : Exn}
    (he : respond d w (.settle settings clock request) = .error e) :
    (step d w (.settle settings clock request)).tables = w.tables := by
  have hst := uncommitted_statements d w.tables
  have hbody : Tx.wp (Action.body d (.settle settings clock request)) (fun _ _ => True)
      (fun _ => Uncommitted w.tables) ⟨w.tables, w.tables, w.outside⟩ := by
    simp only [Action.body, applySettlement, Tx.wp_bind, Tx.wp_read]
    split
    · exact rfl
    · next operation _ =>
      have hfinal : Tx.Keeps (Uncommitted w.tables)
          (finalizeSettlement d settings clock operation request) :=
        Statements.keeps_finalizeSettlement (fun _ hs => hs) hst operation request
      refine (keeps_checkSettlement operation request).wp_then (J := Uncommitted w.tables) rfl
        (fun _ _ hs => hs) fun _ s₁ hs₁ => ?_
      rw [if_pos ho]
      exact hfinal.wp_then hs₁ (fun _ _ hs => hs) fun _ _ _ => trivial
  have hall : ∀ e, respond d w (.settle settings clock request) = .error e →
      (step d w (.settle settings clock request)).tables = w.tables := by
    apply Tx.run_of_wp (R := fun r w' => ∀ e, r = .error e → w'.tables = w.tables)
    refine Tx.wp_mono hbody ?_ (fun _ _ h _ _ => h)
    intro _ _ _ e he
    cases he
  exact hall e he

/-- A reserve that needs an approval it does not name is refused, and leaves its incident. -/
def sampleUnapproved : ReserveRequest := { sampleReserve with requiresManualApproval := true }

theorem raised_changes_nothing_unapproved :
    respond sampleDeployment sampleWorld
        (.reserve Settings.default (sampleClock 0) .closed sampleUnapproved) =
      .error (.policyStateError "manual approval is required for this operation") ∧
    OnlyIncidents sampleWorld.tables (step sampleDeployment sampleWorld
      (.reserve Settings.default (sampleClock 0) .closed sampleUnapproved)).tables :=
  ⟨rfl, raised_changes_nothing sampleDeployment sampleWorld
    (.reserve Settings.default (sampleClock 0) .closed sampleUnapproved) rfl _ rfl⟩

end Governor.Ledger
