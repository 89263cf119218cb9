import Mathlib
import Governor.Ledger.Steady

/-!
# Calls outside the database

A settlement tells the circuit breaker and the guardrails what became of its operation. The
calls are made after everything that can raise, so an accepted settlement makes exactly the
calls of its outcome and a settlement that raises makes none. No other transaction calls out.
-/

namespace Governor.Ledger

/-- Nothing has been called since the calls in `calls`. -/
def Uncalled (calls : List ExternalCall) (s : LedgerSession) : Prop :=
  IdsDrawn s ∧ s.outside.calls = calls

theorem uncalled_steady (d : Deployment) (calls : List ExternalCall) :
    Steady d (Uncalled calls) where
  drawn h := h.1
  write := by
    intro s db hdb h
    refine ⟨?_, h.2⟩
    intro r hr
    change r ∈ db.ledgerEvents.rows at hr
    rw [hdb] at hr
    exact h.1 r hr
  commit h := ⟨h.1, h.2⟩
  append := by
    intro e s s' happ h
    refine ⟨happ.idsDrawn h.1, ?_⟩
    rw [happ.outside]
    exact h.2

/-- The key under which a settlement reports success to the breaker. -/
def successKey (operation : EscrowRow) (request : SettleRequest) : String :=
  orElse request.providerName (orElse (some operation.model) "unknown")

/-- The calls that an accepted settlement makes, in their order. -/
def settleCalls (operation : EscrowRow) (request : SettleRequest) : List ExternalCall :=
  match request.outcome with
  | .settled =>
    (if operation.status = .settled then []
      else [.recordProviderSuccess (successKey operation request)]) ++
      [.releaseInflight operation.userId]
  | .providerTimeout =>
    if truthy request.providerName then [.recordProviderFailure (request.providerName.getD "")]
    else []
  | .inFlight => []

/-- The calls that a transaction makes, given what it returned. -/
def Action.calls (w : LedgerWorld) : Action → Except Exn Response → List ExternalCall
  | .settle _ _ request, .ok _ =>
    ((loadOperationForUpdate w.tables request).map fun operation =>
      settleCalls operation request).getD []
  | _, _ => []

section Settle

variable {d : Deployment} {settings : Settings} {clock : Clock} {operation : EscrowRow}
  {request : SettleRequest} {calls : List ExternalCall} {s : LedgerSession}

theorem wp_callOut {Q : Unit → LedgerSession → Prop} {E : Exn → LedgerSession → Prop}
    (call : ExternalCall) (hs : Uncalled calls s)
    (h : ∀ s', Uncalled (calls ++ [call]) s' → Q () s') : Tx.wp (callOut call) Q E s := by
  apply h
  refine ⟨hs.1, ?_⟩
  change s.outside.calls ++ [call] = calls ++ [call]
  rw [hs.2]

/-- The statements after the call to the breaker do not raise. -/
theorem wp_afterSettle {J : LedgerSession → Prop} {E : Exn → LedgerSession → Prop}
    {actualAmount driftAmount : Money} {result : OperationResult} (h : Steady d J) (hs : J s) :
    Tx.wp (do
      settleLineage d clock operation request actualAmount
      enforceDrift d settings clock operation driftAmount
      pure result) (fun _ => J) E s := by
  have happend : ∀ {e s'}, J s' → Tx.wp (appendSealedLedgerEvent d e) (fun _ => J) E s' :=
    fun hs' => wp_appendSealedLedgerEvent (h.drawn hs') fun _ happ => h.append happ hs'
  have hdrift : ∀ {s'}, J s' →
      Tx.wp (enforceDrift d settings clock operation driftAmount) (fun _ => J) E s' := by
    intro s' hs'
    rw [enforceDrift]
    split_ifs
    · exact hs'
    · rw [Tx.wp_bind]
      exact happend (h.write rfl hs')
    · exact happend hs'
  simp only [Tx.wp_bind, settleLineage]
  split_ifs
  · exact hdrift (h.write rfl hs)
  · exact hdrift hs

/-- An open operation is settled with one call, to the breaker, after everything that can
raise. -/
theorem wp_settleOpen_calls (hs : Uncalled calls s) :
    Tx.wp (settleOpen d settings clock operation request)
      (fun _ => Uncalled (calls ++ [.recordProviderSuccess (successKey operation request)]))
      (fun _ => Uncalled calls) s := by
  have h := uncalled_steady d calls
  have hE : ∀ (e : Exn) s', Uncalled calls s' → Uncalled calls s' := fun _ _ hs' => hs'
  refine (h.statements.keeps_settleAttempt _ _).wp_then hs hE fun _ s₁ hs₁ => ?_
  refine (h.statements.elsewhere.keeps_refundWallet _ _).wp_then hs₁ hE fun _ s₂ hs₂ => ?_
  refine (h.statements.elsewhere.keeps_correctWallet _ _).wp_then hs₂ hE fun _ s₃ hs₃ => ?_
  refine (h.statements.elsewhere.keeps_settleTrace _ _).wp_then hs₃ hE fun _ s₄ hs₄ => ?_
  refine (h.statements.elsewhere.keeps_settleScopes _ _).wp_then hs₄ hE fun _ s₅ hs₅ => ?_
  refine (h.statements.keeps_updateEscrow _ _ _).wp_then hs₅ hE fun _ s₆ hs₆ => ?_
  refine (h.statements.append _).wp_then hs₆ hE fun _ s₇ hs₇ => ?_
  refine (keeps_enforceNonNegativeWalletBalance _).wp_then hs₇ hE ?_
  intro _ s₈ hs₈
  rw [Tx.wp_bind]
  refine wp_callOut _ hs₈ fun s₉ hs₉ => ?_
  exact wp_afterSettle (uncalled_steady d _) hs₉

/-- A settlement makes the calls of its outcome when it is accepted, and none when it
raises. -/
theorem wp_settleOperation_calls (hs : Uncalled calls s) :
    Tx.wp (settleOperation d settings clock operation request)
      (fun _ => Uncalled (calls ++ settleCalls operation request))
      (fun _ => Uncalled calls) s := by
  have h := uncalled_steady d calls
  have hE : ∀ (e : Exn) s', Uncalled calls s' → Uncalled calls s' := fun _ _ hs' => hs'
  refine (keeps_checkSettlement _ _).wp_then hs hE fun _ s₁ hs₁ => ?_
  by_cases hout : request.outcome = .settled
  · rw [if_pos hout, Tx.wp_bind, finalizeSettlement]
    by_cases hset : operation.status = .settled
    · rw [if_pos hset, Tx.wp_ite]
      split_ifs
      · simp only [Tx.wp_pure, Tx.wp_bind, Tx.wp_commit]
        refine wp_callOut _ (h.commit hs₁) fun s₂ hs₂ => ?_
        simpa [settleCalls, hout, hset] using hs₂
      · exact hs₁
    · rw [if_neg hset]
      refine Tx.wp_mono (wp_settleOpen_calls hs₁) ?_ (fun _ _ hs' => hs')
      intro result s₂ hs₂
      simp only [Tx.wp_bind, Tx.wp_commit]
      refine wp_callOut _ ((uncalled_steady d _).commit hs₂) fun s₃ hs₃ => ?_
      simpa [settleCalls, hout, hset] using hs₃
  · rw [if_neg hout]
    refine (h.keeps_recordAttemptState _ _).wp_then hs₁ hE fun _ s₂ hs₂ => ?_
    rw [Tx.wp_bind, reportTimeout, Tx.wp_ite]
    split_ifs with htimeout
    · refine wp_callOut _ hs₂ fun s₃ hs₃ => ?_
      refine (uncalled_steady d _).commit ?_
      simpa [settleCalls, htimeout.1, htimeout.2] using hs₃
    · have hnone : settleCalls operation request = [] := by
        rw [settleCalls]
        split
        · next hcase => exact absurd hcase hout
        · next hcase => exact if_neg fun ht => htimeout ⟨hcase, ht⟩
        · rfl
      rw [hnone, List.append_nil]
      exact h.commit hs₂

end Settle

/-- The calls of every transaction. -/
theorem step_calls {d : Deployment} {w : LedgerWorld} (hw : Sound w) (a : Action) :
    (step d w a).outside.calls = w.outside.calls ++ a.calls w (respond d w a) := by
  have hs : Uncalled w.outside.calls ⟨w.tables, w.tables, w.outside⟩ := ⟨hw.log.drawn, rfl⟩
  have h := uncalled_steady d w.outside.calls
  have hnone : ∀ {s' : LedgerSession}, Uncalled w.outside.calls s' →
      s'.outside.calls = w.outside.calls ++ [] := fun hs' => by rw [hs'.2, List.append_nil]
  apply Tx.run_of_wp
    (R := fun r w' => w'.outside.calls = w.outside.calls ++ a.calls w r) (x := a.body d)
  cases a with
  | reserve settings clock breaker request =>
    refine (h.keeps_reserveOperation breaker request).wp_then hs (fun _ _ hs' => hnone hs') ?_
    exact fun _ _ hs' => hnone hs'
  | racedReserve settings clock breaker request =>
    refine (h.keeps_reserveNew breaker request).wp_then hs (fun _ _ hs' => hnone hs') ?_
    exact fun _ _ hs' => hnone hs'
  | settle settings clock request =>
    simp only [Action.body, applySettlement, Tx.wp_bind, Tx.wp_read]
    cases hload : loadOperationForUpdate w.tables request with
    | none => exact hnone hs
    | some operation =>
      refine Tx.wp_mono (wp_settleOperation_calls hs) ?_ (fun _ _ hs' => hnone hs')
      intro result s' hs'
      simp only [Action.calls, hload]
      exact hs'.2
  | sweep clock plan batchSize =>
    refine (h.keeps_sweepExpiredReservations plan batchSize).wp_then hs
      (fun _ _ hs' => hnone hs') ?_
    exact fun _ _ hs' => hnone hs'

end Governor.Ledger
