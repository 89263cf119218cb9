import Mathlib
import Governor.Ledger.Refinement

/-!
# Conservation of wallets and trace budgets

Both invariants follow what an operation claims. A wallet is its opening balance less
what its operations claim, and so is the sum of its events; a trace counts what its
operations hold and what they cost. A move changes all of these by the same amounts.
-/

namespace Governor.Ledger

variable {d : Deployment} {db db' : Database} {c : Change}

/-! ## Wallets -/

/-- What the operations of a user claim. -/
def claimedBy (db : Database) (userId : String) : Money :=
  db.escrowLedger.sum fun r => if r.userId = userId then r.claimed else 0

/-- What the events of a user add up to. -/
def postedTo (rows : List LedgerEvent) (userId : String) : Money :=
  (rows.map fun e => if e.userId = userId then e.amountDelta else 0).sum

theorem Move.claimedBy_eq (h : Move d db c db') (userId : String) :
    claimedBy db' userId = claimedBy db userId -
      if userId = c.new.userId then netAmount c.postings else 0 := by
  have hguard : ∀ o ∈ c.old, o.userId = userId ↔ c.new.userId = userId := by
    intro o ho
    rw [(h.continues o ho).userId]
  rw [claimedBy, h.sum_eq, Change.delta_guard (fun r => r.userId = userId) _ hguard,
    h.valid.netAmount_eq, claimedBy]
  by_cases he : userId = c.new.userId
  · simp [he]
  · simp [he, Ne.symm he]

/-- The events of an operation's user grow by its postings. -/
theorem Logged.postedTo_eq {rows rows' : List LedgerEvent} {r : EscrowRow} {ps : List Posting}
    (h : Logged rows rows' r ps) (userId : String) :
    postedTo rows' userId = postedTo rows userId +
      if userId = r.userId then netAmount ps else 0 := by
  obtain ⟨es, rfl, he⟩ := h
  have hnew : postedTo es userId = if userId = r.userId then netAmount ps else 0 := by
    have hentries : postedTo es userId = ((es.map LedgerEvent.entry).map fun x =>
        if x.2.1 = userId then x.2.2.2 else 0).sum := by
      rw [List.map_map]
      rfl
    rw [hentries, he, List.map_map]
    by_cases hu : userId = r.userId
    · rw [if_pos hu, netAmount]
      congr 1
      apply List.map_congr_left
      intro p _
      simp [Posting.entry, hu]
    · rw [if_neg hu]
      apply List.sum_eq_zero
      intro x hx
      obtain ⟨p, -, rfl⟩ := List.mem_map.mp hx
      simp [Posting.entry, Ne.symm hu]
  rw [← hnew, postedTo, postedTo, postedTo, List.map_append, List.sum_append]

/-- The accounts of a database against its opening wallets. -/
structure WalletsBalance (opening : Table Wallet.userId) (db : Database) : Prop where
  /-- A balance is the opening balance less what the user's operations claim. -/
  balance : ∀ u, (db.userWallets.find? u).map Wallet.balance =
    (opening.find? u).map fun w => w.balance - claimedBy db u
  /-- The events say the same. -/
  events : ∀ u, postedTo db.ledgerEvents.rows u = -claimedBy db u
  solvent : ∀ u, Solvent db.userWallets u

theorem WalletsBalance.idle {opening : Table Wallet.userId} (hidle : Idle db db')
    (h : WalletsBalance opening db) : WalletsBalance opening db' := by
  obtain ⟨hbalance, hevents, hsolvent⟩ := h
  constructor
  · intro u
    rw [hidle.userWallets, claimedBy, hidle.escrowLedger]
    exact hbalance u
  · intro u
    rw [hidle.ledgerEvents, claimedBy, hidle.escrowLedger]
    exact hevents u
  · rw [hidle.userWallets]
    exact hsolvent

/-- No move overdraws a wallet. -/
theorem Move.solvent (hmove : Move d db c db') (h : ∀ u, Solvent db.userWallets u) :
    ∀ u, Solvent db'.userWallets u := by
  intro u b hb
  by_cases hneg : u = c.new.userId ∧ netAmount c.postings < 0
  · exact hmove.funded hneg.2 b (hneg.1 ▸ hb)
  · -- no payment: the balance did not go down
    rw [hmove.wallets u] at hb
    obtain ⟨w, hw, rfl⟩ := Option.map_eq_some_iff.mp hb
    have hpos : 0 ≤ w.balance := h u w.balance (by rw [hw]; rfl)
    by_cases hu : u = c.new.userId
    · have hnet : 0 ≤ netAmount c.postings := not_lt.mp fun hn => hneg ⟨hu, hn⟩
      rw [if_pos hu]
      exact add_nonneg hpos hnet
    · rw [if_neg hu, add_zero]
      exact hpos

theorem WalletsBalance.move {opening : Table Wallet.userId} (hmove : Move d db c db')
    (h : WalletsBalance opening db) : WalletsBalance opening db' where
  balance := by
    intro u
    have hcredit : (db'.userWallets.find? u).map Wallet.balance =
        ((db.userWallets.find? u).map Wallet.balance).map fun b =>
          b + if u = c.new.userId then netAmount c.postings else 0 := by
      rw [hmove.wallets u, Option.map_map]
      rfl
    rw [hcredit, h.balance u, Option.map_map, hmove.claimedBy_eq]
    congr 1
    funext w
    simp only [Function.comp_apply]
    ring
  events := by
    intro u
    rw [hmove.events.postedTo_eq, h.events u, hmove.claimedBy_eq]
    ring
  solvent := hmove.solvent h.solvent

/-- What a user's operations claim, in terms of the columns of their rows. -/
theorem claimedBy_eq_sumWhere (db : Database) (userId : String) :
    claimedBy db userId =
      db.escrowLedger.sumWhere (fun r => r.userId = userId && r.status.held)
        EscrowRow.reservedAmount +
      db.escrowLedger.sumWhere (fun r => r.userId = userId && r.status = .settled)
        EscrowRow.actualAmount := by
  rw [Table.sumWhere_eq, Table.sumWhere_eq, ← Table.sum_add, claimedBy]
  apply Table.sum_congr
  intro r _
  by_cases hu : r.userId = userId
  · simp [hu, EscrowRow.claimed, EscrowRow.heldAmount, EscrowRow.settledAmount]
  · simp [hu]

/-- No balance is negative, and each is the opening balance less the held reserves and
the settled costs of its user, and also the opening balance plus the user's events. -/
def WalletsConserved (opening : Table Wallet.userId) (db : Database) : Prop :=
  ∀ wallet ∈ db.userWallets.rows, 0 ≤ wallet.balance ∧
    ∃ first, opening.find? wallet.userId = some first ∧
      wallet.balance = first.balance -
        db.escrowLedger.sumWhere (fun r => r.userId = wallet.userId && r.status.held)
          EscrowRow.reservedAmount -
        db.escrowLedger.sumWhere (fun r => r.userId = wallet.userId && r.status = .settled)
          EscrowRow.actualAmount ∧
      wallet.balance = first.balance +
        db.ledgerEvents.sumWhere (fun e => e.userId = wallet.userId) LedgerEvent.amountDelta

/-- Every run from a ledger without operations conserves its wallets. -/
theorem run_conserves_wallets (d : Deployment) (w : LedgerWorld) (hops : NoOperations w)
    (hwallets : ∀ x ∈ w.tables.userWallets.rows, 0 ≤ x.balance) (actions : List Action) :
    WalletsConserved w.tables.userWallets (run d w actions).tables := by
  have hinit : WalletsBalance w.tables.userWallets w.tables := by
    refine ⟨?_, ?_, ?_⟩
    · intro u
      simp [claimedBy, Table.sum, hops.escrowLedger]
    · intro u
      simp [claimedBy, postedTo, Table.sum, hops.escrowLedger, hops.ledgerEvents]
    · intro u b hb
      obtain ⟨x, hx, rfl⟩ := Option.map_eq_some_iff.mp hb
      exact hwallets x (Table.mem_of_find? hx)
  have hrun := run_invariant (d := d) WalletsBalance.idle (fun _ => WalletsBalance.move)
    hops.sound hinit actions
  intro wallet hmem
  have hfind := Table.find?_of_mem hmem
  have hbalance := hrun.balance wallet.userId
  rw [hfind, Option.map_some] at hbalance
  obtain ⟨first, hfirst, heq⟩ := Option.map_eq_some_iff.mp hbalance.symm
  refine ⟨hrun.solvent wallet.userId _ (by rw [hfind]; rfl), first, hfirst, ?_, ?_⟩
  · rw [← heq, claimedBy_eq_sumWhere]
    ring
  · have hevents := hrun.events wallet.userId
    have hposted : (run d w actions).tables.ledgerEvents.sumWhere
        (fun e => e.userId = wallet.userId) LedgerEvent.amountDelta =
          postedTo (run d w actions).tables.ledgerEvents.rows wallet.userId := by
      rw [Table.sumWhere_eq, Table.sum, postedTo]
      simp only [decide_eq_true_eq]
    rw [← heq, hposted, hevents]
    ring

theorem run_conserves_wallets_sample :
    (run sampleDeployment sampleWorld sampleActions).tables.userWallets.rows.map Wallet.balance =
      [99000000000000] ∧
    WalletsConserved sampleWorld.tables.userWallets
      (run sampleDeployment sampleWorld sampleActions).tables := by
  refine ⟨by decide +kernel, run_conserves_wallets sampleDeployment sampleWorld ⟨rfl, rfl⟩ ?_
    sampleActions⟩
  decide +kernel

/-! ## Trace budgets -/

/-- A quantity of the operations of one trace, added up. -/
def traceSum (db : Database) (traceId : String) (g : EscrowRow → Money) : Money :=
  db.escrowLedger.sum fun r => if r.traceId = traceId then g r else 0

theorem Move.traceSum_eq (h : Move d db c db') (traceId : String) (g : EscrowRow → Money) :
    traceSum db' traceId g =
      traceSum db traceId g + if traceId = c.new.traceId then c.delta g else 0 := by
  have hguard : ∀ o ∈ c.old, o.traceId = traceId ↔ c.new.traceId = traceId := by
    intro o ho
    rw [(h.continues o ho).traceId]
  rw [traceSum, h.sum_eq, Change.delta_guard (fun r => r.traceId = traceId) g hguard, traceSum]
  by_cases he : traceId = c.new.traceId
  · simp [he]
  · simp [he, Ne.symm he]

/-- The trace budgets count the operations of their traces. -/
structure TracesCount (db : Database) : Prop where
  /-- A stored trace counts what its operations hold and cost, within its cap. -/
  stored : ∀ k b, db.traceBudgetState.find? k = some b →
    b.reservedTotal = traceSum db k EscrowRow.heldAmount ∧
      b.settledTotal = traceSum db k EscrowRow.settledAmount ∧ b.reservedTotal ≤ b.capAmount
  /-- An operation's trace is stored. -/
  opened : ∀ r ∈ db.escrowLedger.rows, ∃ b, db.traceBudgetState.find? r.traceId = some b

theorem traceSum_of_unused {traceId : String} (g : EscrowRow → Money)
    (h : ∀ r ∈ db.escrowLedger.rows, r.traceId ≠ traceId) : traceSum db traceId g = 0 := by
  apply List.sum_eq_zero
  intro x hx
  obtain ⟨r, hr, rfl⟩ := List.mem_map.mp hx
  exact if_neg (h r hr)

theorem TracesCount.idle (hidle : Idle db db') (h : TracesCount db) : TracesCount db' := by
  obtain ⟨hstored, hopened⟩ := h
  constructor
  · intro k b hb
    rw [hidle.traceBudgetState] at hb
    simpa only [traceSum, hidle.escrowLedger] using hstored k b hb
  · rw [hidle.escrowLedger, hidle.traceBudgetState]
    exact hopened

/-- Only a reserve raises what a trace holds, and a reserve is checked against the cap. -/
theorem Move.heldDelta_nonpos (hmove : Move d db c db')
    (hres : ∀ r ∈ db.escrowLedger.rows, 0 ≤ r.reservedAmount) (hold : c.old ≠ none) :
    c.delta EscrowRow.heldAmount ≤ 0 := by
  obtain ⟨o, ho⟩ := Option.ne_none_iff_exists'.mp hold
  have hvalid := hmove.valid
  rw [Change.Valid, ho] at hvalid
  have hmem : o ∈ db.escrowLedger.rows := Table.mem_of_find? (hmove.old.trans ho)
  have hle := hvalid.heldAmount_le (hres o hmem)
  rw [Change.delta, ho, Option.map_some, Option.getD_some]
  linarith

theorem TracesCount.move (hres : ∀ r ∈ db.escrowLedger.rows, 0 ≤ r.reservedAmount)
    (hmove : Move d db c db') (h : TracesCount db) : TracesCount db' where
  stored := by
    intro k b hb
    rw [hmove.traceSum_eq, hmove.traceSum_eq]
    cases hf : db.traceBudgetState.find? k with
    | none =>
      obtain ⟨hnew, rfl, hreserved, hsettled⟩ := hmove.traces.opened k b hf hb
      have hunused : ∀ r ∈ db.escrowLedger.rows, r.traceId ≠ c.new.traceId := by
        intro r hr he
        obtain ⟨x, hx⟩ := h.opened r hr
        rw [he, hf] at hx
        cases hx
      obtain ⟨x, hx, hcap⟩ := hmove.traces.within hnew
      obtain rfl := Option.some.inj (hx.symm.trans hb)
      rw [traceSum_of_unused _ hunused, traceSum_of_unused _ hunused, if_pos rfl, if_pos rfl,
        zero_add, zero_add]
      exact ⟨hreserved, hsettled, hcap⟩
    | some o =>
      obtain ⟨hreserved, hsettled, hcap⟩ := h.stored k o hf
      obtain rfl := Option.some.inj (hb.symm.trans (hmove.traces.kept k o hf))
      by_cases hk : k = c.new.traceId
      · subst hk
        simp only [ite_true, hreserved, hsettled, true_and]
        by_cases hold : c.old = none
        · obtain ⟨x, hx, hxcap⟩ := hmove.traces.within hold
          obtain rfl := Option.some.inj (hx.symm.trans (hmove.traces.kept _ o hf))
          simpa only [ite_true, hreserved] using hxcap
        · have hdown := hmove.heldDelta_nonpos hres hold
          linarith
      · simp only [hk, ite_false, add_zero]
        exact ⟨hreserved, hsettled, hcap⟩
  opened := by
    intro r hr
    have hkept : ∀ o ∈ db.escrowLedger.rows, ∃ b, db'.traceBudgetState.find? o.traceId = some b := by
      intro o ho
      obtain ⟨b, hb⟩ := h.opened o ho
      exact ⟨_, hmove.traces.kept _ b hb⟩
    rw [hmove.new, Table.mem_rows_iff, Table.find?_put] at hr
    split_ifs at hr with hk
    · obtain rfl := Option.some.inj hr
      cases hold : c.old with
      | none =>
        obtain ⟨b, hb, -⟩ := hmove.traces.within hold
        exact ⟨b, hb⟩
      | some o =>
        rw [(hmove.continues o hold).traceId]
        exact hkept o (Table.mem_of_find? (hmove.old.trans hold))
    · exact hkept r (Table.mem_of_find? hr)

/-- The caps of the stored traces never change. -/
def CapsKept (before db : Database) : Prop :=
  ∀ k b, before.traceBudgetState.find? k = some b →
    ∃ b', db.traceBudgetState.find? k = some b' ∧ b'.capAmount = b.capAmount

theorem CapsKept.idle {before : Database} (hidle : Idle db db') (h : CapsKept before db) :
    CapsKept before db' := by
  intro k b hb
  rw [hidle.traceBudgetState]
  exact h k b hb

theorem CapsKept.move {before : Database} (hmove : Move d db c db') (h : CapsKept before db) :
    CapsKept before db' := by
  intro k b hb
  obtain ⟨x, hx, hcap⟩ := h k b hb
  refine ⟨_, hmove.traces.kept k x hx, ?_⟩
  split_ifs
  · exact hcap
  · exact hcap

theorem traceSum_heldAmount (db : Database) (traceId : String) :
    traceSum db traceId EscrowRow.heldAmount = db.escrowLedger.sumWhere
      (fun r => r.traceId = traceId && r.status.held) EscrowRow.reservedAmount := by
  rw [Table.sumWhere_eq, traceSum]
  apply Table.sum_congr
  intro r _
  by_cases ht : r.traceId = traceId <;> simp [ht, EscrowRow.heldAmount]

theorem traceSum_settledAmount (db : Database) (traceId : String) :
    traceSum db traceId EscrowRow.settledAmount = db.escrowLedger.sumWhere
      (fun r => r.traceId = traceId && r.status = .settled) EscrowRow.actualAmount := by
  rw [Table.sumWhere_eq, traceSum]
  apply Table.sum_congr
  intro r _
  by_cases ht : r.traceId = traceId <;> simp [ht, EscrowRow.settledAmount]

theorem traceSum_heldAmount_nonneg (hres : ∀ r ∈ db.escrowLedger.rows, 0 ≤ r.reservedAmount)
    (traceId : String) : 0 ≤ traceSum db traceId EscrowRow.heldAmount := by
  apply Table.sum_nonneg
  intro r hr
  unfold EscrowRow.heldAmount
  split_ifs
  · exact hres r hr
  · exact le_refl _
  · exact le_refl _

/-- A ledger whose traces, if any are stored, count nothing yet. -/
def NoTraceUse (w : LedgerWorld) : Prop :=
  ∀ t ∈ w.tables.traceBudgetState.rows,
    t.reservedTotal = 0 ∧ t.settledTotal = 0 ∧ 0 ≤ t.capAmount

theorem NoTraceUse.tracesCount {w : LedgerWorld} (htraces : NoTraceUse w)
    (hops : NoOperations w) : TracesCount w.tables where
  stored := by
    intro k b hb
    obtain ⟨hreserved, hsettled, hcap⟩ := htraces b (Table.mem_of_find? hb)
    simp [traceSum, Table.sum, hops.escrowLedger, hreserved, hsettled, hcap]
  opened := by simp [hops.escrowLedger]

/-- Every trace counts the held reserves and the settled costs of its operations, and
what it holds is not negative and within its cap. -/
def TraceBudgetsExact (db : Database) : Prop :=
  ∀ t ∈ db.traceBudgetState.rows,
    t.reservedTotal = db.escrowLedger.sumWhere
      (fun r => r.traceId = t.traceId && r.status.held) EscrowRow.reservedAmount ∧
    t.settledTotal = db.escrowLedger.sumWhere
      (fun r => r.traceId = t.traceId && r.status = .settled) EscrowRow.actualAmount ∧
    0 ≤ t.reservedTotal ∧ t.reservedTotal ≤ t.capAmount

/-- In every run the trace budgets are exact; from the first reserve of a trace on, the
trace is stored and its cap stays the same. -/
theorem run_keeps_trace_budgets (d : Deployment) (w : LedgerWorld) (hops : NoOperations w)
    (htraces : NoTraceUse w) (actions : List Action) :
    TraceBudgetsExact (run d w actions).tables ∧
    ∀ r ∈ (run d w actions).tables.escrowLedger.rows,
      ∃ t, (run d w actions).tables.traceBudgetState.find? r.traceId = some t ∧
        ∀ later, ∃ t', (run d w (actions ++ later)).tables.traceBudgetState.find? r.traceId =
          some t' ∧ t'.capAmount = t.capAmount := by
  have hinit := htraces.tracesCount hops
  have hrun := run_invariant (d := d) TracesCount.idle TracesCount.move hops.sound hinit actions
  have hsound := run_sound (d := d) hops.sound actions
  constructor
  · intro t ht
    obtain ⟨hreserved, hsettled, hcap⟩ := hrun.stored t.traceId t (Table.find?_of_mem ht)
    refine ⟨hreserved.trans (traceSum_heldAmount _ _), hsettled.trans (traceSum_settledAmount _ _),
      ?_, hcap⟩
    rw [hreserved]
    exact traceSum_heldAmount_nonneg hsound.reserves _
  · intro r hr
    obtain ⟨t, ht⟩ := hrun.opened r hr
    refine ⟨t, ht, fun later => ?_⟩
    have hcaps := run_invariant (d := d) (I := CapsKept (run d w actions).tables) CapsKept.idle
      (fun _ => CapsKept.move) hsound (fun k b hb => ⟨b, hb, rfl⟩) later
    rw [run_append]
    exact hcaps r.traceId t ht

theorem run_keeps_trace_budgets_sample :
    (run sampleDeployment sampleWorld sampleActions).tables.traceBudgetState.rows.map
      TraceBudget.settledTotal = [1000000000000] ∧
    TraceBudgetsExact (run sampleDeployment sampleWorld sampleActions).tables := by
  refine ⟨by decide +kernel, (run_keeps_trace_budgets sampleDeployment sampleWorld ⟨rfl, rfl⟩ ?_
    sampleActions).1⟩
  intro t ht
  cases ht

end Governor.Ledger
