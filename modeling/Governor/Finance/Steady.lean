import Mathlib
import Governor.Finance.System

/-!
# Invariants of the event log

The transactions of the spine write the decision events only by appending sealed rows. What every
append keeps, and the statements on the other tables cannot change, holds after every transaction.
-/

namespace Governor.Finance

open Ledger (Clock SweepPlan Decimal Money)

/-- An invariant of the session that statements on the other tables keep. -/
structure Writes (J : FinanceSession → Prop) : Prop where
  write : ∀ {s} {db : Database}, db.decisionEvents = s.working.decisionEvents → J s →
    J { s with working := db }

/-- An invariant of the session that the statements of the spine keep. -/
structure Steady (d : Deployment) (J : FinanceSession → Prop) : Prop extends Writes J where
  drawn : ∀ {s}, J s → IdsDrawn s
  commit : ∀ {s}, J s → J { s with committed := s.working }
  append : ∀ {e s s'}, Appended d e s s' → J s → J s'

section Reads

variable {J : FinanceSession → Prop}

theorem keeps_assertPlatformAllowed (platform : String) :
    Tx.Keeps J (assertPlatformAllowed platform) := by
  refine Tx.Keeps.read.bind fun db => ?_
  split
  · exact Tx.Keeps.pure _
  · split
    · exact Tx.Keeps.raise _
    · exact Tx.Keeps.ite _ (Tx.Keeps.pure _) (Tx.Keeps.raise _)

theorem keeps_validatePlatformFacets (platform : String) (facets : Facets) :
    Tx.Keeps J (validatePlatformFacets platform facets) := by
  refine (keeps_assertPlatformAllowed platform).bind fun record => ?_
  split
  · exact Tx.Keeps.pure _
  · exact Tx.Keeps.raise _

theorem keeps_policyHorizon (policyId : Option String) (reservedExposure : Decimal) :
    Tx.Keeps J (policyHorizon policyId reservedExposure) := by
  refine Tx.Keeps.ite _ (Tx.Keeps.read.bind fun db => ?_) (Tx.Keeps.pure _)
  split
  · exact Tx.Keeps.raise _
  · exact Tx.Keeps.ite _ (Tx.Keeps.raise _) (Tx.Keeps.ite _ (Tx.Keeps.raise _) (Tx.Keeps.pure _))

end Reads

namespace Writes

variable {J : FinanceSession → Prop}

theorem keeps_write (h : Writes J) {f : Database → Database}
    (hf : ∀ db, (f db).decisionEvents = db.decisionEvents) :
    Tx.Keeps J (Tx.write f : FinanceTx Unit) :=
  fun s hs => h.write (hf s.working) hs

theorem keeps_reserveExposure (h : Writes J) (accountId : String) (reserved : Money) :
    Tx.Keeps J (reserveExposure accountId reserved) := by
  refine Tx.Keeps.ite _ (Tx.Keeps.read.bind fun db => ?_) (Tx.Keeps.pure _)
  split
  · exact Tx.Keeps.raise _
  · refine Tx.Keeps.ite _ (Tx.Keeps.raise _) (Tx.Keeps.ite _ (Tx.Keeps.raise _) ?_)
    exact h.keeps_write fun _ => by rfl

theorem keeps_insertCrystal (h : Writes J) (c : CrystalRow) :
    Tx.Keeps J (insertCrystal c) := by
  refine Tx.Keeps.read.bind fun db => ?_
  split
  · exact Tx.Keeps.raise _
  · refine Tx.Keeps.ite _ (Tx.Keeps.raise _) (Tx.Keeps.ite _ (Tx.Keeps.raise _) ?_)
    exact h.keeps_write fun _ => by rfl

theorem keeps_insertEscrow (h : Writes J) (e : EscrowRow) : Tx.Keeps J (insertEscrow e) := by
  refine Tx.Keeps.read.bind fun db => Tx.Keeps.ite _ (Tx.Keeps.raise _) ?_
  split
  · exact Tx.Keeps.raise _
  · exact h.keeps_write fun _ => by rfl

theorem keeps_refundAccount (h : Writes J) (accountId : String) (amount : Money) :
    Tx.Keeps J (refundAccount accountId amount) :=
  Tx.Keeps.ite _ (h.keeps_write fun _ => by rfl) (Tx.Keeps.pure _)

theorem keeps_commitEscrow (h : Writes J) (crystalId : String) (committed : Money) :
    Tx.Keeps J (commitEscrow crystalId committed) :=
  Tx.Keeps.ite _ (Tx.Keeps.raise _) (h.keeps_write fun _ => by rfl)

end Writes

namespace Steady

variable {d : Deployment} {J : FinanceSession → Prop} {clock : Clock}

theorem keeps_commit (h : Steady d J) : Tx.Keeps J (Tx.commit : FinanceTx Unit) :=
  fun _ hs => h.commit hs

theorem keeps_append (h : Steady d J) (e : DecisionDraft) :
    Tx.Keeps J (appendDecisionEvent d e) :=
  fun _ hs => wp_appendDecisionEvent (h.drawn hs) fun _ happended => h.append happended hs

theorem keeps_crystallizeNew (h : Steady d J) (uuid : String) (request : CrystallizeRequest)
    (policyId : Option String) :
    Tx.Keeps J (crystallizeNew d clock uuid request policyId) := by
  refine (keeps_policyHorizon _ _).bind fun horizon => Tx.Keeps.read.bind fun db => ?_
  refine (h.keeps_reserveExposure _ _).bind fun _ => (h.keeps_insertCrystal _).bind fun _ => ?_
  refine (h.keeps_insertEscrow _).bind fun _ => (h.keeps_append _).bind fun _ => ?_
  exact h.keeps_commit.bind fun _ => Tx.Keeps.pure _

theorem keeps_crystallizeOperation (h : Steady d J) (raced : Bool) (uuid : String)
    (request : CrystallizeRequest) :
    Tx.Keeps J (crystallizeOperation d raced clock uuid request) := by
  refine (keeps_assertPlatformAllowed _).bind fun record => ?_
  refine (keeps_validatePlatformFacets _ _).bind fun _ => Tx.Keeps.read.bind fun db => ?_
  split
  · exact Tx.Keeps.ite _ (Tx.Keeps.raise _) (Tx.Keeps.pure _)
  · exact h.keeps_crystallizeNew _ _ _

theorem keeps_enforceDriftOnCommit (h : Steady d J) (settings : Settings) (c : CrystalRow)
    (e : EscrowRow) (committed : Money) :
    Tx.Keeps J (enforceDriftOnCommit d settings clock c e committed) := by
  refine Tx.Keeps.ite _ (Tx.Keeps.pure _) (Tx.Keeps.ite _ ?_ ?_)
  · exact (h.keeps_append _).bind fun _ => Tx.Keeps.pure _
  · refine (h.keeps_write fun _ => by rfl).bind fun _ => ?_
    refine (h.keeps_write fun _ => by rfl).bind fun _ => ?_
    exact (h.keeps_append _).bind fun _ => Tx.Keeps.pure _

theorem keeps_commitOpen (h : Steady d J) (settings : Settings) (c : CrystalRow) (e : EscrowRow)
    (request : CommitRequest) : Tx.Keeps J (commitOpen d settings clock c e request) := by
  refine (h.keeps_refundAccount _ _).bind fun _ => (h.keeps_commitEscrow _ _).bind fun _ => ?_
  refine (h.keeps_write fun _ => by rfl).bind fun _ => ?_
  refine (h.keeps_enforceDriftOnCommit _ _ _ _).bind fun drift => ?_
  exact (h.keeps_append _).bind fun _ => h.keeps_commit.bind fun _ => Tx.Keeps.pure _

theorem keeps_commitOperation (h : Steady d J) (settings : Settings) (request : CommitRequest) :
    Tx.Keeps J (commitOperation d settings clock request) := by
  refine Tx.Keeps.read.bind fun db => ?_
  split
  · exact Tx.Keeps.raise _
  · refine Tx.Keeps.ite _ (Tx.Keeps.pure _) ?_
    split
    · exact Tx.Keeps.raise _
    · exact h.keeps_commitOpen _ _ _ _

theorem keeps_strandOpen (h : Steady d J) (c : CrystalRow) (e : EscrowRow)
    (request : AdjudicateRequest) : Tx.Keeps J (strandOpen d clock c e request) := by
  refine (h.keeps_refundAccount _ _).bind fun _ => ?_
  refine (h.keeps_write fun _ => by rfl).bind fun _ => ?_
  refine (h.keeps_write fun _ => by rfl).bind fun _ => (h.keeps_append _).bind fun _ => ?_
  exact h.keeps_commit.bind fun _ => Tx.Keeps.pure _

theorem keeps_adjudicateOperation (h : Steady d J) (request : AdjudicateRequest) :
    Tx.Keeps J (adjudicateOperation d clock request) := by
  refine Tx.Keeps.ite _ (Tx.Keeps.raise _) (Tx.Keeps.read.bind fun db => ?_)
  split
  · exact Tx.Keeps.raise _
  · exact Tx.Keeps.ite _ (Tx.Keeps.pure _) (h.keeps_strandOpen _ _ _)

theorem keeps_sweepCrystal (h : Steady d J) (p : CrystalRow × EscrowRow) :
    Tx.Keeps J (sweepCrystal d clock p) := by
  refine Tx.Keeps.ite _ ?_ ((h.keeps_write fun _ => by rfl).bind fun _ => ?_)
  all_goals
    refine (h.keeps_write fun _ => by rfl).bind fun _ => ?_
    exact (h.keeps_write fun _ => by rfl).bind fun _ => h.keeps_append _

theorem keeps_sweepExpiredHorizons (h : Steady d J) (plan : SweepPlan) (batchSize : Nat) :
    Tx.Keeps J (sweepExpiredHorizons d clock plan batchSize) := by
  refine Tx.Keeps.read.bind fun db => ?_
  refine (Tx.Keeps.forM _ fun p => h.keeps_sweepCrystal p).bind fun _ => ?_
  exact h.keeps_commit.bind fun _ => Tx.Keeps.pure _

theorem keeps_body (h : Steady d J) (a : Action) : Tx.Keeps J (a.body d) := by
  cases a with
  | crystallize raced clock uuid request =>
    exact (h.keeps_crystallizeOperation raced uuid request).bind fun _ => Tx.Keeps.pure _
  | commit settings clock request =>
    exact (h.keeps_commitOperation settings request).bind fun _ => Tx.Keeps.pure _
  | adjudicate clock request =>
    exact (h.keeps_adjudicateOperation request).bind fun _ => Tx.Keeps.pure _
  | sweep clock plan batchSize =>
    exact (h.keeps_sweepExpiredHorizons plan batchSize).bind fun _ => Tx.Keeps.pure _

end Steady

/-- A property of what is committed and of what a transaction sees holds after the transaction. -/
theorem step_of_steady {d : Deployment} {P : FinanceWorld → Prop}
    (h : Steady d fun s => P ⟨s.committed, s.outside⟩ ∧ P ⟨s.working, s.outside⟩)
    {w : FinanceWorld} (hw : P w) (a : Action) : P (step d w a) :=
  Tx.run_of_wp (R := fun _ w' => P w') (Tx.wp_mono (h.keeps_body a ⟨_, _, _⟩ ⟨hw, hw⟩)
    (fun _ _ hs => hs.1) (fun _ _ hs => hs.1))

end Governor.Finance
