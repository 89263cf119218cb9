import Mathlib
import Governor.Finance.Adapter

/-!
# Crystals close once

A closed crystal and its escrow row never change again, so an operation is committed at most
once and its reserve is given back at most once. A commit that finds its crystal closed
answers without looking at the state or at the facets; the last part says exactly when a
returned commit means what it says.
-/

namespace Governor.Finance

open Ledger (Money Clock)

variable {d : Deployment}

/-! ## Closed crystals stay as they are -/

/-- A crystal with its escrow row, both stored and closed. -/
structure IsClosed (db : Database) (c : CrystalRow) (e : EscrowRow) : Prop where
  crystal : db.governanceCrystals.find? c.crystalId = some c
  escrow : db.commitEscrowLedger.find? e.operationId = some e
  terminalState : c.terminalState ≠ none
  crystalId : e.crystalId = c.crystalId

section Closed

variable {db db' : Database} {c : CrystalRow} {e : EscrowRow} {x : Resolution}

theorem IsClosed.opens {c' : CrystalRow} {e' : EscrowRow} (h : IsClosed db c e)
    (hopens : Opens db c' e' db') : IsClosed db' c e := by
  refine ⟨?_, ?_, h.terminalState, h.crystalId⟩
  · have hne : c.crystalId ≠ c'.crystalId := by
      intro heq
      have hnew := hopens.newCrystal
      rw [← heq, h.crystal] at hnew
      cases hnew
    rw [hopens.crystals, Table.find?_put, if_neg hne]
    exact h.crystal
  · have hne : e.operationId ≠ e'.operationId := by
      intro heq
      have hnew := hopens.newEscrow
      rw [← heq, h.escrow] at hnew
      cases hnew
    rw [hopens.escrows, Table.find?_put, if_neg hne]
    exact h.escrow

theorem IsClosed.closes (h : IsClosed db c e) (hcloses : Closes db x db') : IsClosed db' c e := by
  have hcrystal : c.crystalId ≠ x.crystal.crystalId := by
    intro heq
    have hfind := h.crystal
    rw [heq, hcloses.crystal] at hfind
    obtain rfl := Option.some.inj hfind
    exact h.terminalState hcloses.terminalState
  have hescrow : e.operationId ≠ x.escrow.operationId := by
    intro heq
    have hfind := h.escrow
    rw [heq, hcloses.escrow] at hfind
    obtain rfl := Option.some.inj hfind
    exact hcrystal (h.crystalId.symm.trans hcloses.crystalId)
  refine ⟨?_, ?_, h.terminalState, h.crystalId⟩
  · rw [hcloses.crystals, Table.find?_put, CrystalRow.close_crystalId, if_neg hcrystal]
    exact h.crystal
  · rw [hcloses.escrows, Table.find?_put, Closing.row_operationId, if_neg hescrow]
    exact h.escrow

/-- A closed crystal stays as it is along every run. -/
theorem IsClosed.run {w : FinanceWorld} (hw : Sound w) (h : IsClosed w.tables c e)
    (actions : List Action) : IsClosed (run d w actions).tables c e :=
  run_invariant (I := fun db => IsClosed db c e) (fun _ ho hc => hc.opens ho)
    (fun _ ho hc => hc.closes ho) hw h actions

/-- The rows that a closing leaves behind. -/
theorem Closes.isClosed (h : Closes db x db') :
    IsClosed db' (x.crystal.close x.closing.state) (x.closing.row x.escrow) := by
  refine ⟨?_, ?_, Option.some_ne_none _, ?_⟩
  · rw [h.crystals, Table.find?_put_self]
  · rw [h.escrows, Table.find?_put_self]
  · rw [Closing.row_crystalId]
    exact h.crystalId

theorem ClosesAll.isClosed {xs : List Resolution} (h : ClosesAll db xs db') (hx : x ∈ xs) :
    IsClosed db' (x.crystal.close x.closing.state) (x.closing.row x.escrow) := by
  induction xs generalizing db with
  | nil => cases hx
  | cons y ys ih =>
    obtain ⟨mid, hy, hrest⟩ := h
    rcases List.mem_cons.mp hx with rfl | hx
    · exact hrest.keeps (I := fun db => IsClosed db _ _) (fun hz hc => hc.closes hz) hy.isClosed
    · exact ih hrest hx

/-- What a sequence of closings closes was open before it. -/
theorem ClosesAll.isOpen {xs : List Resolution} (h : ClosesAll db xs db')
    (hnodup : (xs.map fun x => x.crystal.crystalId).Nodup) (hx : x ∈ xs) :
    db.governanceCrystals.find? x.crystal.crystalId = some x.crystal ∧
      x.crystal.terminalState = none := by
  induction xs generalizing db with
  | nil => cases hx
  | cons y ys ih =>
    obtain ⟨mid, hy, hrest⟩ := h
    rw [List.map_cons, List.nodup_cons] at hnodup
    rcases List.mem_cons.mp hx with rfl | hx
    · exact ⟨hy.crystal, hy.terminalState⟩
    · obtain ⟨hfind, hnone⟩ := ih hrest hnodup.2 hx
      have hne : x.crystal.crystalId ≠ y.crystal.crystalId := by
        intro heq
        have hmem : x.crystal.crystalId ∈ ys.map fun x => x.crystal.crystalId :=
          List.mem_map_of_mem (f := fun x : Resolution => x.crystal.crystalId) hx
        exact hnodup.1 (heq ▸ hmem)
      rw [hy.crystals, Table.find?_put, CrystalRow.close_crystalId, if_neg hne] at hfind
      exact ⟨hfind, hnone⟩

end Closed

/-! ## Closings of a run -/

theorem closings_nodup (d : Deployment) (db : Database) (a : Action) :
    ((closings d db a).map fun x => x.crystal.crystalId).Nodup := by
  cases a with
  | crystallize => exact List.nodup_nil
  | commit settings clock request =>
    simp only [closings, commitClosings]
    split
    · exact List.nodup_nil
    · split_ifs
      · exact List.nodup_singleton _
      · exact List.nodup_nil
  | adjudicate clock request =>
    simp only [closings, adjudicateClosings]
    split
    · exact List.nodup_nil
    · split_ifs
      · exact List.nodup_singleton _
      · exact List.nodup_nil
  | sweep clock plan batchSize =>
    rw [closings, List.map_map]
    exact horizonBatch_nodup db clock plan batchSize

/-- A crystal that a transaction closes is open before it and closed after it. -/
theorem step_closing {w : FinanceWorld} (hw : Sound w) {a : Action} {x : Resolution}
    (hx : x ∈ closings d w.tables a) :
    w.tables.governanceCrystals.find? x.crystal.crystalId = some x.crystal ∧
      x.crystal.terminalState = none ∧
      IsClosed (step d w a).tables (x.crystal.close x.closing.state) (x.closing.row x.escrow) := by
  cases step_moved (d := d) hw a with
  | opened hnone _ =>
    rw [hnone] at hx
    cases hx
  | closed h =>
    obtain ⟨hfind, hopen⟩ := h.isOpen (closings_nodup d w.tables a) hx
    exact ⟨hfind, hopen, h.isClosed hx⟩

/-- The crystals closed along a run. -/
abbrev runClosings (d : Deployment) (w : FinanceWorld) (actions : List Action) : List Resolution :=
  outputs (step d) (fun w a => closings d w.tables a) w actions

/-- Nothing closes a closed crystal. -/
theorem runClosings_ne {w : FinanceWorld} (hw : Sound w) {c : CrystalRow} {e : EscrowRow}
    (hc : IsClosed w.tables c e) {actions : List Action} {x : Resolution}
    (hx : x ∈ runClosings d w actions) : x.crystal.crystalId ≠ c.crystalId := by
  induction actions generalizing w with
  | nil => cases hx
  | cons a as ih =>
    rcases List.mem_append.mp hx with hx | hx
    · obtain ⟨hfind, hopen, -⟩ := step_closing hw hx
      intro heq
      rw [heq, hc.crystal] at hfind
      obtain rfl := Option.some.inj hfind
      exact hc.terminalState hopen
    · exact ih (step_sound hw a) (hc.run (d := d) hw [a]) hx

/-- Along a run no crystal is closed twice. -/
theorem runClosings_nodup {w : FinanceWorld} (hw : Sound w) (actions : List Action) :
    ((runClosings d w actions).map fun x => x.crystal.crystalId).Nodup := by
  induction actions generalizing w with
  | nil => exact List.nodup_nil
  | cons a as ih =>
    change ((closings d w.tables a ++ runClosings d (step d w a) as).map _).Nodup
    rw [List.map_append]
    refine List.nodup_append.mpr ⟨closings_nodup d w.tables a, ih (step_sound hw a), ?_⟩
    intro i hi j hj heq
    obtain ⟨x, hx, rfl⟩ := List.mem_map.mp hi
    obtain ⟨y, hy, rfl⟩ := List.mem_map.mp hj
    exact runClosings_ne (step_sound hw a) (step_closing hw hx).2.2 hy heq.symm

/-! ## What goes back to the accounts -/

/-- The balance of an account, where there is one, moves by an amount. -/
def Shifts (db db' : Database) (accountId : String) (amount : Money) : Prop :=
  (db'.accountLedgers.find? accountId).map Account.balance =
    (db.accountLedgers.find? accountId).map fun a => a.balance + amount

/-- The exposure ever reserved by the crystals of an account. -/
def reservedTotal (db : Database) (accountId : String) : Money :=
  db.commitEscrowLedger.sum fun e => if e.accountId = accountId then e.reservedExposure else 0

/-- What the closings give back to an account. -/
def refundTotal (accountId : String) (xs : List Resolution) : Money :=
  (xs.map fun x => if x.escrow.accountId = accountId then x.refund else 0).sum

section Shifts

variable {db db' db'' : Database} {accountId : String} {a b : Money}

theorem Shifts.refl (db : Database) (accountId : String) : Shifts db db accountId 0 := by
  simp [Shifts]

theorem Shifts.trans (h : Shifts db db' accountId a) (h' : Shifts db' db'' accountId b) :
    Shifts db db'' accountId (a + b) := by
  have hmap : ((db'.accountLedgers.find? accountId).map fun x => x.balance + b) =
      ((db'.accountLedgers.find? accountId).map Account.balance).map (· + b) := by
    rw [Option.map_map]
    rfl
  rw [Shifts, h', hmap, h, Option.map_map]
  congr 1
  funext x
  exact add_assoc _ _ _

theorem Credited.shifts {creditedId : String} (h : Credited db db' creditedId a)
    (accountId : String) :
    Shifts db db' accountId (if creditedId = accountId then a else 0) := by
  rw [Shifts, h accountId]
  congr 1
  funext x
  simp only [eq_comm]

theorem Opens.shifts {c : CrystalRow} {e : EscrowRow} (h : Opens db c e db')
    (accountId : String) :
    Shifts db db' accountId (-(reservedTotal db' accountId - reservedTotal db accountId)) := by
  have hsum : -(reservedTotal db' accountId - reservedTotal db accountId) =
      if e.accountId = accountId then -e.reservedExposure else 0 := by
    rw [reservedTotal, h.escrows, Table.sum_put, h.newEscrow, reservedTotal]
    by_cases hid : e.accountId = accountId <;> simp [hid]
  rw [hsum]
  exact Credited.shifts h.accounts accountId

theorem Closes.reservedTotal_eq {x : Resolution} (h : Closes db x db') (accountId : String) :
    reservedTotal db' accountId = reservedTotal db accountId := by
  rw [reservedTotal, h.escrows, Table.sum_put, Closing.row_operationId, h.escrow, reservedTotal]
  simp

theorem Closes.shifts {x : Resolution} (h : Closes db x db') (accountId : String) :
    Shifts db db' accountId (if x.escrow.accountId = accountId then x.refund else 0) :=
  Credited.shifts h.accounts accountId

theorem ClosesAll.shifts {xs : List Resolution} (h : ClosesAll db xs db') (accountId : String) :
    Shifts db db' accountId (refundTotal accountId xs) ∧
      reservedTotal db' accountId = reservedTotal db accountId := by
  induction xs generalizing db with
  | nil =>
    obtain rfl : db' = db := h
    exact ⟨Shifts.refl _ _, rfl⟩
  | cons x xs ih =>
    obtain ⟨mid, hx, hrest⟩ := h
    obtain ⟨hshifts, htotal⟩ := ih hrest
    exact ⟨(hx.shifts accountId).trans hshifts, htotal.trans (hx.reservedTotal_eq accountId)⟩

/-- A transaction moves a balance by what it reserves and what it gives back. -/
theorem step_shifts {w : FinanceWorld} (hw : Sound w) (a : Action) (accountId : String) :
    Shifts w.tables (step d w a).tables accountId
      (refundTotal accountId (closings d w.tables a) -
        (reservedTotal (step d w a).tables accountId - reservedTotal w.tables accountId)) := by
  cases step_moved (d := d) hw a with
  | opened hnone h =>
    rw [hnone]
    simpa [refundTotal] using h.shifts accountId
  | closed h =>
    obtain ⟨hshifts, htotal⟩ := h.shifts accountId
    rw [htotal]
    simpa using hshifts

theorem run_shifts {w : FinanceWorld} (hw : Sound w) (actions : List Action)
    (accountId : String) :
    Shifts w.tables (run d w actions).tables accountId
      (refundTotal accountId (runClosings d w actions) -
        (reservedTotal (run d w actions).tables accountId - reservedTotal w.tables accountId)) := by
  induction actions generalizing w with
  | nil =>
    have hzero : refundTotal accountId (runClosings d w []) -
        (reservedTotal (run d w []).tables accountId - reservedTotal w.tables accountId) = 0 := by
      simp [refundTotal, outputs, run]
    rw [hzero]
    exact Shifts.refl _ _
  | cons a as ih =>
    have hsum := (step_shifts (d := d) hw a accountId).trans (ih (step_sound hw a))
    have hrefunds : refundTotal accountId (runClosings d w (a :: as)) =
        refundTotal accountId (closings d w.tables a) +
          refundTotal accountId (runClosings d (step d w a) as) := by
      simp [refundTotal, outputs]
    have hrun : run d w (a :: as) = run d (step d w a) as := rfl
    rw [hrefunds, hrun]
    convert hsum using 1
    ring

end Shifts

/-- A refund is at most the reserve. -/
theorem Closes.refund_bounds {db db' : Database} {x : Resolution} (h : Closes db x db')
    (hdb : Agrees db) : 0 ≤ x.refund ∧ x.refund ≤ x.escrow.reservedExposure := by
  have hreserved := hdb.reserves _ (Table.mem_of_find? h.escrow)
  have hcommitted := h.committed
  unfold Resolution.refund
  cases hk : x.closing with
  | committed amount =>
    have hamount := hcommitted amount hk
    exact ⟨le_max_left _ _, max_le hreserved (sub_le_self _ hamount)⟩
  | adjudicated reason => exact ⟨hreserved, le_refl _⟩
  | stranded => exact ⟨le_refl _, hreserved⟩
  | expired => exact ⟨hreserved, le_refl _⟩

/-! ## At most one final event -/

/-- The `COMMITTED_FINAL` events of an operation. -/
def finalEvents (db : Database) (operationId : String) : Nat :=
  db.decisionEvents.rows.countP fun r =>
    r.operationId = operationId && r.eventType = DecisionType.committedFinal.text

theorem DecisionType.text_injective : Function.Injective DecisionType.text := by
  intro a b h
  cases a <;> cases b <;> first | rfl | simp [DecisionType.text] at h

/-- Whether an entry is the final event of an operation. -/
def Entry.isFinal (operationId : String) (x : Entry) : Bool :=
  x.operationId = operationId && x.eventType = DecisionType.committedFinal.text

theorem Logged.finalEvents_eq {db db' : Database} {c : CrystalRow} {e : EscrowRow}
    {ps : List Posting} (h : Logged db.decisionEvents.rows db'.decisionEvents.rows c e ps)
    (operationId : String) :
    finalEvents db' operationId = finalEvents db operationId +
      ps.countP fun p => (p.entry c e).isFinal operationId := by
  obtain ⟨es, hrows, hes⟩ := h
  have hcount : es.countP (fun r => r.entry.isFinal operationId) =
      ps.countP fun p => (p.entry c e).isFinal operationId := by
    have hmap := congrArg (List.countP (Entry.isFinal operationId)) hes
    rwa [List.countP_map, List.countP_map] at hmap
  rw [finalEvents, hrows, List.countP_append, ← hcount]
  rfl

/-- An open crystal has no final event. -/
theorem Agrees.finalEvents_of_open {db : Database} (h : Agrees db) {c : CrystalRow}
    {e : EscrowRow} (hopen : IsOpen db c e) : finalEvents db c.operationId = 0 := by
  rw [finalEvents, List.countP_eq_zero]
  intro r hr hfinal
  simp only [Bool.and_eq_true, decide_eq_true_eq] at hfinal
  obtain ⟨c', -, hc', hop, hcreated⟩ := h.events r hr
  obtain ⟨e', he', hid, -⟩ := h.paired c' (Table.mem_of_find? hc')
  have heq : c'.operationId = c.operationId := hop.symm.trans hfinal.1
  rw [heq, ← hopen.operationId, hopen.escrow] at he'
  obtain rfl := Option.some.inj he'
  rw [← hid, hopen.crystalId, hopen.crystal] at hc'
  obtain rfl := Option.some.inj hc'
  have htype := (hcreated hopen.terminalState).symm.trans hfinal.2
  cases DecisionType.text_injective htype

theorem Opens.finalEvents_eq {db db' : Database} {c : CrystalRow} {e : EscrowRow}
    (h : Opens db c e db') (operationId : String) :
    finalEvents db' operationId = finalEvents db operationId := by
  rw [h.events.finalEvents_eq operationId]
  simp [openPosting, Posting.entry, Entry.isFinal, DecisionType.text]

theorem Closes.finalEvents_le {db db' : Database} {x : Resolution} (h : Closes db x db')
    (operationId : String) :
    finalEvents db' operationId ≤ finalEvents db operationId +
      if operationId = x.crystal.operationId then 1 else 0 := by
  obtain ⟨drift, hdrift, hlogged⟩ := h.events
  rw [hlogged.finalEvents_eq operationId, List.countP_append]
  have hnone : (drift.countP fun p =>
      (p.entry x.crystal x.escrow).isFinal operationId) = 0 := by
    rw [List.countP_eq_zero]
    intro p hp
    obtain ⟨htype | htype, -⟩ := hdrift p hp <;>
      simp [Posting.entry, Entry.isFinal, DecisionType.text, htype]
  rw [hnone, zero_add, Nat.add_le_add_iff_left]
  split_ifs with hop
  · exact List.countP_le_length
  · have hop' : x.crystal.operationId ≠ operationId := fun he => hop he.symm
    simp [Posting.entry, Entry.isFinal, hop']

theorem Closes.finalEvents_le_one {db db' : Database} {x : Resolution} (h : Closes db x db')
    (hdb : Agrees db) {operationId : String} (hone : finalEvents db operationId ≤ 1) :
    finalEvents db' operationId ≤ 1 := by
  have hle := h.finalEvents_le operationId
  split_ifs at hle with hop
  · have hzero := hdb.finalEvents_of_open h.toIsOpen
    rw [← hop] at hzero
    omega
  · omega

/-- A transaction keeps that an operation is finally committed at most once. -/
theorem step_finalEvents_le {w : FinanceWorld} (hw : Sound w) {operationId : String}
    (h : finalEvents w.tables operationId ≤ 1) (a : Action) :
    finalEvents (step d w a).tables operationId ≤ 1 := by
  refine step_invariant (I := fun db => finalEvents db operationId ≤ 1) ?_ ?_ hw h a
  · intro db c e db' _ hopens hdb
    rw [hopens.finalEvents_eq]
    exact hdb
  · intro db x db' hagrees hcloses hdb
    exact hcloses.finalEvents_le_one hagrees hdb

/-- An operation is finally committed at most once. -/
theorem run_finalEvents_le {w : FinanceWorld} (hw : NoCrystals w) (actions : List Action)
    (operationId : String) : finalEvents (run d w actions).tables operationId ≤ 1 := by
  have hkeeps : ∀ w a, Sound w ∧ finalEvents w.tables operationId ≤ 1 →
      Sound (step d w a) ∧ finalEvents (step d w a).tables operationId ≤ 1 :=
    fun w a h => ⟨step_sound h.1 a, step_finalEvents_le h.1 h.2 a⟩
  exact (foldl_invariant
    (I := fun w : FinanceWorld => Sound w ∧ finalEvents w.tables operationId ≤ 1)
    ⟨hw.sound, by simp [finalEvents, hw.decisionEvents]⟩ hkeeps actions).2

/-! ## The life of a crystal along a run -/

theorem ClosesAll.refund_bounds {db db' : Database} {xs : List Resolution} {x : Resolution}
    (h : ClosesAll db xs db') (hdb : Agrees db) (hx : x ∈ xs) :
    0 ≤ x.refund ∧ x.refund ≤ x.escrow.reservedExposure := by
  induction xs generalizing db with
  | nil => cases hx
  | cons y ys ih =>
    obtain ⟨mid, hy, hrest⟩ := h
    rcases List.mem_cons.mp hx with rfl | hx
    · exact hy.refund_bounds hdb
    · exact ih hrest (hy.agrees hdb) hx

theorem runClosings_refund {w : FinanceWorld} (hw : Sound w) {actions : List Action}
    {x : Resolution} (hx : x ∈ runClosings d w actions) :
    0 ≤ x.refund ∧ x.refund ≤ x.escrow.reservedExposure := by
  induction actions generalizing w with
  | nil => cases hx
  | cons a as ih =>
    rcases List.mem_append.mp hx with hx | hx
    · cases step_moved (d := d) hw a with
      | opened hnone _ =>
        change x ∈ closings d w.tables a at hx
        rw [hnone] at hx
        cases hx
      | closed h => exact h.refund_bounds hw.agrees hx
    · exact ih (step_sound hw a) hx

/-- The crystals whose reserve was given back along a run, in part or whole. -/
def giveBacks (d : Deployment) (w : FinanceWorld) (actions : List Action) : List Resolution :=
  (runClosings d w actions).filter fun x => 0 < x.refund

/-- Closings that give nothing back do not count. -/
theorem refundTotal_giveBacks {w : FinanceWorld} (hw : Sound w) (actions : List Action)
    (accountId : String) : refundTotal accountId (giveBacks d w actions) =
      refundTotal accountId (runClosings d w actions) := by
  have hall : ∀ x ∈ runClosings d w actions, 0 ≤ x.refund := fun x hx => (runClosings_refund hw hx).1
  unfold giveBacks refundTotal
  generalize runClosings d w actions = xs at hall ⊢
  induction xs with
  | nil => rfl
  | cons x xs ih =>
    have hrest := ih fun y hy => hall y (List.mem_cons_of_mem _ hy)
    have hnonneg := hall x List.mem_cons_self
    by_cases hpos : 0 < x.refund
    · rw [List.filter_cons_of_pos (by simpa using hpos), List.map_cons, List.map_cons,
        List.sum_cons, List.sum_cons, hrest]
    · have hzero : x.refund = 0 := le_antisymm (not_lt.mp hpos) hnonneg
      rw [List.filter_cons_of_neg (by simpa using hpos), List.map_cons, List.sum_cons, hrest, hzero,
        ite_self, zero_add]

/-- The one escrow row of a stored crystal. -/
theorem Agrees.filter_escrow {db : Database} (h : Agrees db) {c : CrystalRow}
    (hc : c ∈ db.governanceCrystals.rows) : ∃ e,
      db.commitEscrowLedger.rows.filter (fun r => r.crystalId = c.crystalId) = [e] ∧
        e.status = statusOf c.terminalState := by
  obtain ⟨e, he, hid, hstatus⟩ := h.paired c hc
  have hmem := Table.mem_of_find? he
  refine ⟨e, ?_, hstatus⟩
  have hnodup := (List.Nodup.of_map _ db.commitEscrowLedger.nodup).filter
    fun r => decide (r.crystalId = c.crystalId)
  have hall : ∀ r ∈ db.commitEscrowLedger.rows.filter (fun r => r.crystalId = c.crystalId), r = e := by
    intro r hr
    obtain ⟨hr, hrid⟩ := List.mem_filter.mp hr
    exact h.escrow_unique hr hmem ((of_decide_eq_true hrid).trans hid.symm)
  have hin : e ∈ db.commitEscrowLedger.rows.filter (fun r => r.crystalId = c.crystalId) :=
    List.mem_filter.mpr ⟨hmem, decide_eq_true hid⟩
  generalize db.commitEscrowLedger.rows.filter (fun r => r.crystalId = c.crystalId) = l
    at hnodup hall hin ⊢
  rw [List.eq_replicate_of_mem hall, List.nodup_replicate] at hnodup
  have hlength : l.length = 1 := le_antisymm hnodup (List.length_pos_of_mem hin)
  rw [List.eq_replicate_of_mem hall, hlength]
  rfl

/-- A closed crystal joins with its escrow row. -/
theorem IsClosed.join {db : Database} {c : CrystalRow} {e : EscrowRow} (h : IsClosed db c e)
    (hdb : Agrees db) : crystalJoin db c.crystalId = some (c, e) := by
  obtain ⟨e', hjoin⟩ := hdb.join_of_find? h.crystal
  obtain ⟨-, -, he', hid, -, -⟩ := hdb.join hjoin
  rw [hjoin, hdb.escrow_unique (Table.mem_of_find? he') (Table.mem_of_find? h.escrow)
    (hid.trans h.crystalId.symm)]

/-- A closed crystal joins with the same rows after any further run. -/
theorem run_closed_join {w : FinanceWorld} (hw : Sound w) {c : CrystalRow} {e : EscrowRow}
    (hjoin : crystalJoin w.tables c.crystalId = some (c, e)) (hclosed : c.terminalState ≠ none)
    (more : List Action) : crystalJoin (run d w more).tables c.crystalId = some (c, e) := by
  obtain ⟨hc, -, he, hid, -, -⟩ := hw.agrees.join hjoin
  have hkept : IsClosed (run d w more).tables c e :=
    IsClosed.run hw ⟨hc, he, hclosed, hid⟩ more
  exact hkept.join (run_sound hw more).agrees

/-- Along every run a crystal has one escrow row, whose status follows the crystal's terminal
state; closed rows never change; an operation is finally committed at most once; and what the
accounts have lost is what was reserved, less what was given back, at most once a crystal and
at most the reserve. -/
theorem run_lifecycle {w : FinanceWorld} (hw : NoCrystals w) (actions : List Action) :
    (∀ c ∈ (run d w actions).tables.governanceCrystals.rows, ∃ e,
      (run d w actions).tables.commitEscrowLedger.rows.filter
        (fun r => r.crystalId = c.crystalId) = [e] ∧
      ∀ t, c.terminalState = t ↔ e.status = statusOf t) ∧
    (∀ c e more, crystalJoin (run d w actions).tables c.crystalId = some (c, e) →
      c.terminalState ≠ none →
      crystalJoin (run d w (actions ++ more)).tables c.crystalId = some (c, e)) ∧
    (∀ operationId, finalEvents (run d w actions).tables operationId ≤ 1) ∧
    ((giveBacks d w actions).map fun x => x.crystal.crystalId).Nodup ∧
    (∀ x ∈ giveBacks d w actions, 0 < x.refund ∧ x.refund ≤ x.escrow.reservedExposure) ∧
    ∀ accountId, Shifts w.tables (run d w actions).tables accountId
      (refundTotal accountId (giveBacks d w actions) -
        reservedTotal (run d w actions).tables accountId) := by
  have hsound := run_sound (d := d) hw.sound actions
  refine ⟨?_, ?_, run_finalEvents_le hw actions, ?_, ?_, ?_⟩
  · intro c hc
    obtain ⟨e, hfilter, hstatus⟩ := hsound.agrees.filter_escrow hc
    refine ⟨e, hfilter, fun t => ⟨?_, ?_⟩⟩
    · rintro rfl
      exact hstatus
    · intro ht
      exact statusOf_injective (hstatus.symm.trans ht)
  · intro c e more hjoin hclosed
    rw [run_append]
    exact run_closed_join hsound hjoin hclosed more
  · exact (runClosings_nodup hw.sound actions).sublist (List.filter_sublist.map _)
  · intro x hx
    obtain ⟨hmem, hpos⟩ := List.mem_filter.mp hx
    exact ⟨of_decide_eq_true hpos, (runClosings_refund hw.sound hmem).2⟩
  · intro accountId
    have hshifts := run_shifts (d := d) hw.sound actions accountId
    have hzero : reservedTotal w.tables accountId = 0 := by
      simp [reservedTotal, Table.sum, hw.commitEscrowLedger]
    rwa [hzero, sub_zero, ← refundTotal_giveBacks hw.sound] at hshifts

theorem sampleWorld_noCrystals : NoCrystals sampleWorld := ⟨rfl, rfl, rfl⟩

theorem run_lifecycle_sample :
    finalEvents (run sampleDeployment sampleWorld [sampleOpen, sampleClose ⟨5, 0⟩]).tables "op-1" ≤ 1 :=
  (run_lifecycle sampleWorld_noCrystals [sampleOpen, sampleClose ⟨5, 0⟩]).2.2.1 "op-1"

/-! ## What a returned commit means -/

/-- The crystal of the request is committed, with the facets of the request. -/
def CommittedFor (d : Deployment) (request : CommitRequest) (db : Database) : Prop :=
  ∃ c e, crystalJoin db request.crystalId = some (c, e) ∧
    c.terminalState = some .committed ∧ e.status = .committed ∧
    canonicalFingerprint d c.platform c.operationId request.facets = c.requestFingerprint

/-- A commit that returns, or that the adapter lets through, leaves its crystal committed with
the facets of the request. -/
def CommitTruthful (d : Deployment) (w : FinanceWorld) (settings : Settings) (clock : Clock)
    (request : CommitRequest) : Prop :=
  (∀ r, respond d w (.commit settings clock request) = .ok r →
    CommittedFor d request (step d w (.commit settings clock request)).tables) ∧
  (httpCommit (route d commitStatus false w (.commit settings clock request)).1 = .ok () →
    CommittedFor d request (route d commitStatus false w (.commit settings clock request)).2.tables)

theorem commit_committed {w : FinanceWorld} (hw : Sound w) (settings : Settings) (clock : Clock)
    (request : CommitRequest) :
    CommitCommitted d clock request w.tables (respond d w (.commit settings clock request))
      (step d w (.commit settings clock request)).tables := by
  have hc := (body_committed (d := d) hw (.commit settings clock request)).1
  generalize respond d w (.commit settings clock request) = r at hc ⊢
  generalize (step d w (.commit settings clock request)).tables = db' at hc ⊢
  cases hc with
  | commit h => exact h

/-- A commit that closes its crystal had the crystal's facets. -/
theorem commitRefusal_none {clock : Clock} {db : Database} {c : CrystalRow}
    {request : CommitRequest} (h : commitRefusal d clock db c request = none) :
    canonicalFingerprint d c.platform c.operationId request.facets = c.requestFingerprint := by
  unfold commitRefusal at h
  split_ifs at h with hfp
  all_goals simpa [verifyCommitFingerprint] using hfp

theorem commitTruthful_iff {w : FinanceWorld} (hw : Sound w) (settings : Settings)
    (clock : Clock) (request : CommitRequest) :
    CommitTruthful d w settings clock request ↔
      ∀ c, w.tables.governanceCrystals.find? request.crystalId = some c →
        ∀ state, c.terminalState = some state →
          state = .committed ∧ verifyCommitFingerprint d c request.facets = true := by
  have hadapter : (httpCommit (route d commitStatus false w (.commit settings clock request)).1 =
      .ok () → CommittedFor d request
        (route d commitStatus false w (.commit settings clock request)).2.tables) ↔
      ∀ r, respond d w (.commit settings clock request) = .ok r →
        CommittedFor d request (step d w (.commit settings clock request)).tables := by
    rw [httpCommit_route, forall_exists_index]
    refine forall_congr' fun r => imp_congr_right fun hr => ?_
    rw [route, if_neg (by simp), hr]
  rw [CommitTruthful, hadapter, and_self]
  have hcommit := commit_committed (d := d) hw settings clock request
  generalize respond d w (.commit settings clock request) = r at hcommit ⊢
  generalize (step d w (.commit settings clock request)).tables = db' at hcommit ⊢
  cases hcommit with
  | refused _ hopen =>
    simp only [reduceCtorEq, false_imp_iff, implies_true, true_iff]
    intro c hc state hstate
    obtain ⟨e, hjoin⟩ := hw.agrees.join_of_find? hc
    rw [hopen c e hjoin] at hstate
    cases hstate
  | replayed hjoin hterminal =>
    obtain ⟨hc, -, -, -, -, hstatus⟩ := hw.agrees.join hjoin
    constructor
    · intro htruthful c' hc' state hstate
      obtain ⟨c, e, hjoin', hcommitted, -, hfp⟩ := htruthful _ rfl
      rw [(hw.agrees.join hjoin').1] at hc'
      obtain rfl := Option.some.inj hc'
      rw [hstate] at hcommitted
      exact ⟨Option.some.inj hcommitted, decide_eq_true hfp⟩
    · intro hcond _ _
      obtain ⟨state, hstate⟩ := Option.ne_none_iff_exists'.mp hterminal
      obtain ⟨rfl, hfp⟩ := hcond _ hc state hstate
      refine ⟨_, _, hjoin, hstate, ?_, of_decide_eq_true hfp⟩
      rw [hstatus, hstate]
      rfl
  | committed hjoin haccepted hcloses =>
    obtain ⟨hc, hid, -, -, -, -⟩ := hw.agrees.join hjoin
    refine iff_of_true ?_ ?_
    · rintro _ -
      have hclosed := hcloses.isClosed.join (hcloses.agrees hw.agrees)
      rw [CrystalRow.close_crystalId, hid] at hclosed
      exact ⟨_, _, hclosed, rfl, rfl, commitRefusal_none haccepted⟩
    · intro c' hc' state hstate
      rw [hc] at hc'
      obtain rfl := Option.some.inj hc'
      have hnone := hcloses.terminalState
      rw [hstate] at hnone
      cases hnone

/-- In every reachable state a commit means what it says exactly when its crystal, if closed
already, was committed and has the facets of the request. -/
theorem run_commitTruthful_iff {w : FinanceWorld} (hw : NoCrystals w) (actions : List Action)
    (settings : Settings) (clock : Clock) (request : CommitRequest) :
    CommitTruthful d (run d w actions) settings clock request ↔
      ∀ c, (run d w actions).tables.governanceCrystals.find? request.crystalId = some c →
        ∀ state, c.terminalState = some state →
          state = .committed ∧ verifyCommitFingerprint d c request.facets = true :=
  commitTruthful_iff (run_sound hw.sound actions) settings clock request

theorem run_commitTruthful_iff_sample :
    CommitTruthful sampleDeployment (run sampleDeployment sampleWorld [sampleOpen])
      Settings.default (sampleClock 1) (sampleCommit ⟨5, 0⟩) := by
  refine (run_commitTruthful_iff sampleWorld_noCrystals [sampleOpen] _ _ _).mpr ?_
  intro c hc state hstate
  have hopen : ((run sampleDeployment sampleWorld [sampleOpen]).tables.governanceCrystals.find?
      (sampleCommit ⟨5, 0⟩).crystalId).bind CrystalRow.terminalState = none := by
    decide +kernel
  rw [hc, Option.bind_some, hstate] at hopen
  cases hopen

/-- A wire that was stranded by hand is answered as committed. -/
theorem stranded_commit_returns : ¬ CommitTruthful sampleDeployment
    (run sampleDeployment sampleWorld [sampleOpen, sampleAdjudicate]) Settings.default
    (sampleClock 1) (sampleCommit ⟨5, 0⟩) := by
  intro h
  have hreturned : respond sampleDeployment
      (run sampleDeployment sampleWorld [sampleOpen, sampleAdjudicate]) (sampleClose ⟨5, 0⟩) =
      .ok (.closed ⟨"op-1", sampleCrystalId, .replay⟩) := by
    decide +kernel
  obtain ⟨c, e, hjoin, hcommitted, -, -⟩ := h.1 _ hreturned
  have hstranded : (crystalJoin (step sampleDeployment
      (run sampleDeployment sampleWorld [sampleOpen, sampleAdjudicate])
      (sampleClose ⟨5, 0⟩)).tables sampleCrystalId).bind (fun p => p.1.terminalState) =
      some .stranded := by
    decide +kernel
  have hjoin' : crystalJoin (step sampleDeployment
      (run sampleDeployment sampleWorld [sampleOpen, sampleAdjudicate])
      (sampleClose ⟨5, 0⟩)).tables sampleCrystalId = some (c, e) := hjoin
  rw [hjoin', Option.bind_some, hcommitted] at hstranded
  cases hstranded

end Governor.Finance
