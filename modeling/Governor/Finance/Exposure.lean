import Mathlib
import Governor.Finance.Lifecycle

/-!
# Exposure is conserved, and the events tell it

An account's balance should be its opening balance less what its crystals hold and what they
were committed at, and the events of the account should add up to the change of its balance.
Each closing contributes a gap to either equation; the equations hold throughout a run exactly
when no closing of the run on a known account leaves a gap.
-/

namespace Governor.Finance

open Ledger (Money Clock)

variable {d : Deployment}

/-! ## What crystals claim -/

/-- Whether the sweep, and not an adjudication, stranded the crystal of an escrow row. -/
def strandedBySweep (db : Database) (e : EscrowRow) : Bool :=
  e.status = .stranded && db.decisionEvents.rows.any fun r =>
    r.crystalId = some e.crystalId && r.eventType = DecisionType.strandedHold.text && !r.manual

/-- Whether an escrow row still holds its reserve. -/
def holdsReserve (db : Database) (e : EscrowRow) : Bool :=
  e.status = .crystallized || strandedBySweep db e

/-- The exposure that the crystals of an account hold. -/
def heldTotal (db : Database) (accountId : String) : Money :=
  db.commitEscrowLedger.sumWhere (fun e => e.accountId = accountId && holdsReserve db e)
    EscrowRow.reservedExposure

/-- The exposure at which the crystals of an account were committed. -/
def committedTotal (db : Database) (accountId : String) : Money :=
  db.commitEscrowLedger.sumWhere (fun e => e.accountId = accountId && e.status = .committed)
    EscrowRow.committedExposure

/-- The sum of the deltas of an account's events. -/
def eventTotal (db : Database) (accountId : String) : Money :=
  db.decisionEvents.sumWhere (fun r => r.accountId = accountId) DecisionEvent.exposureDelta

/-- Every balance is its opening balance less what is held and what was committed. -/
def ExposureConserved (opening : Database) (w : FinanceWorld) : Prop :=
  ∀ accountId, Shifts opening w.tables accountId
    (-heldTotal w.tables accountId - committedTotal w.tables accountId)

/-- The events of every account add up to the change of its balance. -/
def EventsReconstruct (opening : Database) (w : FinanceWorld) : Prop :=
  ∀ accountId, Shifts opening w.tables accountId (eventTotal w.tables accountId)

/-- What one escrow row claims of its account. -/
def claimed (db : Database) (accountId : String) (e : EscrowRow) : Money :=
  if e.accountId = accountId then
    (if holdsReserve db e then e.reservedExposure else 0) +
      if e.status = .committed then e.committedExposure else 0
  else 0

theorem claimedTotal_eq (db : Database) (accountId : String) :
    heldTotal db accountId + committedTotal db accountId =
      db.commitEscrowLedger.sum (claimed db accountId) := by
  rw [heldTotal, committedTotal, Table.sumWhere_eq, Table.sumWhere_eq, ← Table.sum_add]
  apply Table.sum_congr
  intro e _
  unfold claimed
  by_cases hid : e.accountId = accountId <;> simp [hid]

/-- What a closed crystal still claims. -/
def Resolution.claim (x : Resolution) : Money :=
  match x.closing with
  | .committed amount => amount
  | .stranded => x.escrow.reservedExposure
  | .adjudicated _ | .expired => 0

/-- A condition on entries that only a sweep's hold meets. -/
def Entry.isSweepHold (crystalId : String) (x : Entry) : Bool :=
  x.crystalId = some crystalId && x.eventType = DecisionType.strandedHold.text && !x.manual

theorem strandedBySweep_eq (db : Database) (e : EscrowRow) :
    strandedBySweep db e = (decide (e.status = .stranded) &&
      db.decisionEvents.rows.any fun r => r.entry.isSweepHold e.crystalId) := rfl

section Moves

variable {db db' : Database}

/-- Postings about another crystal, or of another type, strand nothing. -/
theorem Logged.strandedBySweep_eq {c : CrystalRow} {e : EscrowRow} {ps : List Posting}
    (h : Logged db.decisionEvents.rows db'.decisionEvents.rows c e ps) {r : EscrowRow}
    (hps : ∀ p ∈ ps, (p.entry c e).isSweepHold r.crystalId = false) :
    strandedBySweep db' r = strandedBySweep db r := by
  have hnone : (ps.any fun p => (p.entry c e).isSweepHold r.crystalId) = false := by
    rw [List.any_eq_false]
    intro p hp
    rw [hps p hp]
    exact Bool.false_ne_true
  rw [Finance.strandedBySweep_eq, Finance.strandedBySweep_eq, h.any_eq, hnone, Bool.or_false]

theorem claimed_congr {r : EscrowRow} (h : strandedBySweep db' r = strandedBySweep db r)
    {accountId : String} : claimed db' accountId r = claimed db accountId r := by
  have hholds : holdsReserve db' r = holdsReserve db r := by rw [holdsReserve, h, holdsReserve]
  unfold claimed
  rw [hholds]

theorem Opens.claimed_sum {c : CrystalRow} {e : EscrowRow} (h : Opens db c e db')
    (accountId : String) :
    db'.commitEscrowLedger.sum (claimed db' accountId) =
      db.commitEscrowLedger.sum (claimed db accountId) +
        if e.accountId = accountId then e.reservedExposure else 0 := by
  have hsame : ∀ r, strandedBySweep db' r = strandedBySweep db r := by
    intro r
    refine h.events.strandedBySweep_eq ?_
    simp [openPosting, Posting.entry, Entry.isSweepHold, DecisionType.text]
  have hclaimed : claimed db' accountId = claimed db accountId := by
    funext r
    exact claimed_congr (hsame r)
  rw [hclaimed, h.escrows, Table.sum_put, h.newEscrow]
  simp [claimed, holdsReserve, h.status]

/-- A crystal that is open was not stranded by a sweep. -/
theorem Agrees.no_sweepHold (h : Agrees db) {c : CrystalRow} {e : EscrowRow}
    (hopen : IsOpen db c e) :
    (db.decisionEvents.rows.any fun r => r.entry.isSweepHold c.crystalId) = false := by
  rw [List.any_eq_false]
  intro r hr hhold
  simp only [Entry.isSweepHold, DecisionEvent.entry, Bool.and_eq_true] at hhold
  obtain ⟨c', hid, hc', -, hcreated⟩ := h.events r hr
  have hnamed := of_decide_eq_true hhold.1.1
  have hheld := of_decide_eq_true hhold.1.2
  have heq : c'.crystalId = c.crystalId := Option.some.inj (hid.symm.trans hnamed)
  rw [heq, hopen.crystal] at hc'
  obtain rfl := Option.some.inj hc'
  have htype := (hcreated hopen.terminalState).symm.trans hheld
  cases DecisionType.text_injective htype

/-- The closed row claims what its closing says. -/
theorem Closes.claimed_row {x : Resolution} (h : Closes db x db') (hdb : Agrees db)
    (accountId : String) :
    claimed db' accountId (x.closing.row x.escrow) =
      if x.escrow.accountId = accountId then x.claim else 0 := by
  have hnone := hdb.no_sweepHold h.toIsOpen
  obtain ⟨drift, hdrift, hlogged⟩ := h.events
  have hdrifted : (drift.any fun p =>
      (p.entry x.crystal x.escrow).isSweepHold x.crystal.crystalId) = false := by
    rw [List.any_eq_false]
    intro p hp
    obtain ⟨htype | htype, -⟩ := hdrift p hp <;>
      simp [Posting.entry, Entry.isSweepHold, DecisionType.text, htype]
  have hheld : (db'.decisionEvents.rows.any fun r =>
      r.entry.isSweepHold x.crystal.crystalId) =
        (x.posting.entry x.crystal x.escrow).isSweepHold x.crystal.crystalId := by
    rw [hlogged.any_eq, hnone, List.any_append, hdrifted, List.any_cons, List.any_nil]
    simp
  simp only [claimed, holdsReserve, strandedBySweep_eq, Closing.row_accountId,
    Closing.row_crystalId, Closing.row_status, Closing.row_reservedExposure, h.crystalId, hheld]
  cases hk : x.closing <;>
    simp [Resolution.claim, Resolution.posting, Posting.entry, Entry.isSweepHold, hk,
      Closing.state, TerminalState.status, Closing.eventType, Closing.manual, Closing.row,
      EscrowRow.commit]

theorem Closes.claimed_sum {x : Resolution} (h : Closes db x db') (hdb : Agrees db)
    (accountId : String) :
    db'.commitEscrowLedger.sum (claimed db' accountId) =
      db.commitEscrowLedger.sum (claimed db accountId) +
        if x.escrow.accountId = accountId then x.claim - x.escrow.reservedExposure else 0 := by
  have hother : ∀ r ∈ db.commitEscrowLedger.rows,
      r.operationId ≠ (x.closing.row x.escrow).operationId →
      claimed db' accountId r = claimed db accountId r := by
    intro r hr hne
    rw [Closing.row_operationId] at hne
    have hid : r.crystalId ≠ x.crystal.crystalId := by
      intro heq
      have hrow := hdb.escrow_unique hr (Table.mem_of_find? h.escrow)
        (heq.trans h.crystalId.symm)
      exact hne (congrArg EscrowRow.operationId hrow)
    have hid' : x.crystal.crystalId ≠ r.crystalId := fun heq => hid heq.symm
    obtain ⟨drift, -, hlogged⟩ := h.events
    have hsame := hlogged.strandedBySweep_eq (r := r) (by
      intro p _
      simp [Posting.entry, Entry.isSweepHold, hid'])
    exact claimed_congr hsame
  rw [h.escrows, Table.sum_put_congr _ _ hother, Closing.row_operationId, h.escrow,
    h.claimed_row hdb]
  have hbefore : claimed db accountId x.escrow =
      if x.escrow.accountId = accountId then x.escrow.reservedExposure else 0 := by
    simp [claimed, holdsReserve, h.status]
  rw [Option.map_some, Option.getD_some, hbefore]
  split_ifs <;> ring

/-! ## What events tell -/

theorem eventTotal_eq (db : Database) (accountId : String) :
    eventTotal db accountId = (db.decisionEvents.rows.map fun r =>
      if r.entry.accountId = accountId then r.entry.amount else 0).sum := by
  rw [eventTotal, Table.sumWhere_eq]
  simp only [decide_eq_true_eq]
  rfl

theorem Logged.eventTotal_eq {c : CrystalRow} {e : EscrowRow} {ps : List Posting}
    (h : Logged db.decisionEvents.rows db'.decisionEvents.rows c e ps) (accountId : String) :
    eventTotal db' accountId = eventTotal db accountId +
      if e.accountId = accountId then (ps.map Posting.amount).sum else 0 := by
  rw [Finance.eventTotal_eq, Finance.eventTotal_eq,
    h.sum_eq fun x => if x.accountId = accountId then x.amount else 0]
  by_cases hid : e.accountId = accountId <;> simp [Posting.entry, hid]

theorem Opens.eventTotal_eq {c : CrystalRow} {e : EscrowRow} (h : Opens db c e db')
    (accountId : String) :
    eventTotal db' accountId = eventTotal db accountId -
      if e.accountId = accountId then e.reservedExposure else 0 := by
  rw [h.events.eventTotal_eq accountId]
  by_cases hid : e.accountId = accountId <;> simp [openPosting, hid, sub_eq_add_neg]

theorem Closes.eventTotal_eq {x : Resolution} (h : Closes db x db') (accountId : String) :
    eventTotal db' accountId = eventTotal db accountId +
      if x.escrow.accountId = accountId then x.closing.delta x.escrow.reservedExposure else 0 := by
  obtain ⟨drift, hdrift, hlogged⟩ := h.events
  have hzero : (drift.map Posting.amount).sum = 0 := by
    apply List.sum_eq_zero
    intro amount hamount
    obtain ⟨p, hp, rfl⟩ := List.mem_map.mp hamount
    exact (hdrift p hp).2.1
  rw [hlogged.eventTotal_eq, List.map_append, List.sum_append, hzero]
  simp [Resolution.posting]

end Moves

/-! ## The gap of a closing -/

theorem mem_commitClosings {db : Database} {clock : Clock} {request : CommitRequest}
    {x : Resolution} :
    x ∈ commitClosings d db clock request ↔ ∃ c e,
      crystalJoin db request.crystalId = some (c, e) ∧ c.terminalState = none ∧
        commitRefusal d clock db c request = none ∧
        0 ≤ quantizeMoney request.committedExposure ∧
        x = ⟨c, e, .committed (quantizeMoney request.committedExposure)⟩ := by
  unfold commitClosings
  split
  · next hnone => simp [hnone]
  · next c e hjoin =>
    split_ifs with h
    · simp_all
    · simp_all

theorem mem_adjudicateClosings {db : Database} {request : AdjudicateRequest} {x : Resolution} :
    x ∈ adjudicateClosings db request ↔ ∃ c e,
      crystalJoin db request.crystalId = some (c, e) ∧ request.action = "strand" ∧
        c.terminalState = none ∧ x = ⟨c, e, .adjudicated request.reason⟩ := by
  unfold adjudicateClosings
  split
  · next hnone => simp [hnone]
  · next c e hjoin =>
    split_ifs with h
    · simp_all
    · simp_all

/-- A sweep strands or expires. -/
theorem sweep_closing {db : Database} {clock : Clock} {plan : Ledger.SweepPlan} {batchSize : Nat}
    {x : Resolution} (hx : x ∈ closings d db (.sweep clock plan batchSize)) :
    x.closing = .stranded ∨ x.closing = .expired := by
  obtain ⟨p, -, rfl⟩ := List.mem_map.mp hx
  unfold sweepResolution
  split_ifs <;> simp

/-- A gap that a sweep never leaves is left by a transaction as a whole exactly when one of its
closings leaves it. -/
theorem closings_sum_eq_zero_iff (db : Database) (gap : Resolution → Money)
    (hsweep : ∀ x, x.closing = .stranded ∨ x.closing = .expired → gap x = 0) (a : Action) :
    ((closings d db a).map gap).sum = 0 ↔ ∀ x ∈ closings d db a, gap x = 0 := by
  have hone : ∀ (p : Prop) [Decidable p] (x : Resolution),
      ((if p then [x] else []).map gap).sum = 0 ↔ ∀ y ∈ (if p then [x] else []), gap y = 0 := by
    intro p _ x
    split_ifs <;> simp
  cases a with
  | crystallize => simp [closings]
  | commit settings clock request =>
    simp only [closings, commitClosings]
    split
    · simp
    · exact hone _ _
  | adjudicate clock request =>
    simp only [closings, adjudicateClosings]
    split
    · simp
    · exact hone _ _
  | sweep clock plan batchSize =>
    have hall : ∀ x ∈ closings d db (.sweep clock plan batchSize), gap x = 0 := by
      intro x hx
      exact hsweep x (sweep_closing hx)
    refine iff_of_true ?_ hall
    apply List.sum_eq_zero
    intro amount hamount
    obtain ⟨x, hx, rfl⟩ := List.mem_map.mp hamount
    exact hall x hx

/-- The sum of a quantity over the closings on an account. -/
def closingTotal (accountId : String) (gap : Resolution → Money) (xs : List Resolution) : Money :=
  (xs.map fun x => if x.escrow.accountId = accountId then gap x else 0).sum

theorem closingTotal_sub (accountId : String) (f g : Resolution → Money) (xs : List Resolution) :
    closingTotal accountId (fun x => f x - g x) xs =
      closingTotal accountId f xs - closingTotal accountId g xs := by
  unfold closingTotal
  induction xs with
  | nil => simp
  | cons x xs ih =>
    simp only [List.map_cons, List.sum_cons, ih]
    split_ifs <;> ring

section Gaps

variable {opening : Database} {w : FinanceWorld} {accountId : String}

/-- A balance moves by one amount only, where there is one. -/
theorem Shifts.iff_eq {db : Database} {a b : Money} (h : Shifts opening db accountId a) :
    Shifts opening db accountId b ↔
      ((db.accountLedgers.find? accountId).isSome → b = a) := by
  unfold Shifts at h ⊢
  rw [h]
  cases hfind : opening.accountLedgers.find? accountId with
  | none =>
    rw [hfind, Option.map_none, Option.map_eq_none_iff] at h
    simp [h]
  | some account =>
    rw [hfind, Option.map_some] at h
    obtain ⟨account', hfind', -⟩ := Option.map_eq_some_iff.mp h
    simp [hfind', eq_comm]

/-- Transactions add no account. -/
theorem step_account_isSome (hw : Sound w) (a : Action) (accountId : String) :
    ((step d w a).tables.accountLedgers.find? accountId).isSome =
      (w.tables.accountLedgers.find? accountId).isSome := by
  have h := congrArg Option.isSome (step_shifts (d := d) hw a accountId)
  simpa using h

/-- A quantity of an account that an opening lowers by the reserve and that a closing changes as
told. -/
structure Tracks (accountId : String) (total : Database → Money) (change : Resolution → Money) :
    Prop where
  opens : ∀ {db c e db'}, Agrees db → Opens db c e db' →
    total db' = total db - if e.accountId = accountId then e.reservedExposure else 0
  closes : ∀ {db x db'}, Agrees db → Closes db x db' →
    total db' = total db + if x.escrow.accountId = accountId then change x else 0

variable {total : Database → Money} {change : Resolution → Money}

theorem Tracks.closesAll (h : Tracks accountId total change) {xs : List Resolution}
    {db db' : Database} (hdb : Agrees db) (hall : ClosesAll db xs db') :
    total db' = total db + closingTotal accountId change xs := by
  induction xs generalizing db with
  | nil =>
    obtain rfl : db' = db := hall
    simp [closingTotal]
  | cons x xs ih =>
    obtain ⟨mid, hx, hrest⟩ := hall
    rw [ih (hx.agrees hdb) hrest, h.closes hdb hx, add_assoc]
    rfl

/-- The quantity moves as the balance does, but for the closings that change it by something
else than what they give back. -/
theorem Tracks.step_shifts (h : Tracks accountId total change) (hw : Sound w) (a : Action) :
    Shifts w.tables (step d w a).tables accountId (total (step d w a).tables - total w.tables -
      closingTotal accountId (fun x => change x - x.refund) (closings d w.tables a)) := by
  cases step_moved (d := d) hw a with
  | opened hnone hopens =>
    have hshifts := Credited.shifts hopens.accounts accountId
    rw [hnone, h.opens hw.agrees hopens]
    convert hshifts using 1
    split_ifs <;> simp [closingTotal]
  | closed hall =>
    have hshifts := (hall.shifts accountId).1
    rw [h.closesAll hw.agrees hall, closingTotal_sub]
    convert hshifts using 1
    change _ = closingTotal accountId Resolution.refund _
    ring

/-- A quantity that agrees with the balance still does after a transaction exactly when every
closing on the account changes it by what it gives back. -/
theorem Tracks.step_iff (h : Tracks accountId total change) (hw : Sound w)
    (hsweep : ∀ x, x.closing = .stranded ∨ x.closing = .expired → change x = x.refund)
    (hfollows : Shifts opening w.tables accountId (total w.tables)) (a : Action) :
    Shifts opening (step d w a).tables accountId (total (step d w a).tables) ↔
      ((w.tables.accountLedgers.find? accountId).isSome →
        ∀ x ∈ closings d w.tables a, x.escrow.accountId = accountId → change x = x.refund) := by
  have hgaps := closings_sum_eq_zero_iff (d := d) w.tables
    (fun x => if x.escrow.accountId = accountId then change x - x.refund else 0) (by
      intro x hx
      simp only [hsweep x hx, sub_self, ite_self]) a
  simp only [ite_eq_right_iff, sub_eq_zero] at hgaps
  rw [(hfollows.trans (h.step_shifts hw a)).iff_eq, step_account_isSome hw, ← hgaps]
  refine imp_congr_right fun _ => ?_
  change _ ↔ closingTotal accountId (fun x => change x - x.refund) (closings d w.tables a) = 0
  constructor
  · intro h
    linarith
  · intro h
    linarith

/-- The same for all accounts at once. -/
theorem Tracks.step_forall_iff {total : String → Database → Money}
    (htracks : ∀ accountId, Tracks accountId (total accountId) change) (hw : Sound w)
    (hsweep : ∀ x, x.closing = .stranded ∨ x.closing = .expired → change x = x.refund)
    (h : ∀ accountId, Shifts opening w.tables accountId (total accountId w.tables))
    (a : Action) :
    (∀ accountId, Shifts opening (step d w a).tables accountId
      (total accountId (step d w a).tables)) ↔
      ∀ x ∈ closings d w.tables a,
        (w.tables.accountLedgers.find? x.escrow.accountId).isSome → change x = x.refund := by
  constructor
  · intro h' x hx haccount
    have hiff := (htracks x.escrow.accountId).step_iff (d := d) hw hsweep (h _) a
    exact hiff.mp (h' x.escrow.accountId) haccount x hx rfl
  · intro h' accountId
    refine ((htracks accountId).step_iff hw hsweep (h accountId) a).mpr ?_
    rintro haccount x hx rfl
    exact h' x hx haccount

end Gaps

/-! ## Conservation of exposure -/

/-- What the crystals of an account claim, as a change of its balance. -/
def claimedChange (accountId : String) (db : Database) : Money :=
  -heldTotal db accountId - committedTotal db accountId

theorem claimedChange_eq (accountId : String) (db : Database) :
    claimedChange accountId db = -db.commitEscrowLedger.sum (claimed db accountId) := by
  rw [← claimedTotal_eq, claimedChange]
  ring

theorem claimedChange_tracks (accountId : String) :
    Tracks accountId (claimedChange accountId)
      (fun x => x.escrow.reservedExposure - x.claim) where
  opens := by
    intro db c e db' _ h
    rw [claimedChange_eq, claimedChange_eq, h.claimed_sum]
    ring
  closes := by
    intro db x db' hdb h
    rw [claimedChange_eq, claimedChange_eq, h.claimed_sum hdb]
    split_ifs <;> ring

/-- A closing gives back what it no longer claims, unless a commit takes more than its reserve. -/
theorem Resolution.unclaimed_eq_refund_iff (x : Resolution) :
    x.escrow.reservedExposure - x.claim = x.refund ↔
      ∀ amount, x.closing = .committed amount → amount ≤ x.escrow.reservedExposure := by
  unfold Resolution.claim Resolution.refund
  cases hk : x.closing with
  | committed amount =>
    simp only [Closing.refund, Closing.committed.injEq, forall_eq']
    constructor
    · intro h
      have hle := le_max_left 0 (x.escrow.reservedExposure - amount)
      linarith
    · intro h
      rw [max_eq_right (sub_nonneg.mpr h)]
  | adjudicated reason => simp [Closing.refund]
  | stranded => simp [Closing.refund]
  | expired => simp [Closing.refund]

/-- The transaction commits no open crystal of a known account beyond its reserve. -/
def WithinReserve (d : Deployment) (db : Database) : Action → Prop
  | .commit _ clock request => ∀ c e, crystalJoin db request.crystalId = some (c, e) →
    c.terminalState = none → commitRefusal d clock db c request = none →
    (db.accountLedgers.find? e.accountId).isSome →
    quantizeMoney request.committedExposure ≤ e.reservedExposure
  | _ => True

theorem withinReserve_iff {db : Database} (hdb : Agrees db) (a : Action) :
    WithinReserve d db a ↔ ∀ x ∈ closings d db a,
      (db.accountLedgers.find? x.escrow.accountId).isSome →
        x.escrow.reservedExposure - x.claim = x.refund := by
  simp only [Resolution.unclaimed_eq_refund_iff]
  cases a with
  | crystallize => simp [WithinReserve, closings]
  | commit settings clock request =>
    simp only [WithinReserve, closings, mem_commitClosings]
    constructor
    · rintro h _ ⟨c, e, hjoin, hopen, haccepted, -, rfl⟩ haccount amount ⟨⟩
      exact h c e hjoin hopen haccepted haccount
    · intro h c e hjoin hopen haccepted haccount
      by_cases hneg : 0 ≤ quantizeMoney request.committedExposure
      · exact h _ ⟨c, e, hjoin, hopen, haccepted, hneg, rfl⟩ haccount _ rfl
      · have hreserved := hdb.reserves e (Table.mem_of_find? (hdb.join hjoin).2.2.1)
        exact (not_le.mp hneg).le.trans hreserved
  | adjudicate clock request =>
    simp only [WithinReserve, closings, mem_adjudicateClosings, true_iff]
    rintro _ ⟨c, e, -, -, -, rfl⟩ _ amount ⟨⟩
  | sweep clock plan batchSize =>
    simp only [WithinReserve, true_iff]
    intro x hx _ amount hamount
    rcases sweep_closing hx with h | h <;> rw [h] at hamount <;> cases hamount

theorem step_exposureConserved_iff {opening : Database} {w : FinanceWorld} (hw : Sound w)
    (h : ExposureConserved opening w) (a : Action) :
    ExposureConserved opening (step d w a) ↔ WithinReserve d w.tables a := by
  have hsweep : ∀ x : Resolution, x.closing = .stranded ∨ x.closing = .expired →
      x.escrow.reservedExposure - x.claim = x.refund := by
    intro x hx
    refine x.unclaimed_eq_refund_iff.mpr fun amount hamount => ?_
    rcases hx with hx | hx <;> rw [hx] at hamount <;> cases hamount
  rw [withinReserve_iff hw.agrees]
  exact Tracks.step_forall_iff claimedChange_tracks hw hsweep h a

theorem NoCrystals.exposureConserved {w : FinanceWorld} (hw : NoCrystals w) :
    ExposureConserved w.tables w := by
  intro accountId
  have hzero : -heldTotal w.tables accountId - committedTotal w.tables accountId = 0 := by
    simp [heldTotal, committedTotal, Table.sumWhere, hw.commitEscrowLedger]
  rw [hzero]
  exact Shifts.refl _ _

/-- The sample's crystal holds ten units. -/
theorem sampleOpen_reserved {c : CrystalRow} {e : EscrowRow}
    (hjoin : crystalJoin (step sampleDeployment sampleWorld sampleOpen).tables sampleCrystalId =
      some (c, e)) : e.reservedExposure = 10000000000000 := by
  have hreserved : (crystalJoin (step sampleDeployment sampleWorld sampleOpen).tables
      sampleCrystalId).map (fun p => p.2.reservedExposure) = some 10000000000000 := by
    decide +kernel
  rw [hjoin, Option.map_some] at hreserved
  exact Option.some.inj hreserved

theorem eventTotal_tracks (accountId : String) :
    Tracks accountId (fun db => eventTotal db accountId)
      (fun x => x.closing.delta x.escrow.reservedExposure) where
  opens _ h := h.eventTotal_eq accountId
  closes _ h := h.eventTotal_eq accountId

/-- The transaction closes no open crystal of a known account in such a way that its event says
something else than what goes back: a commit takes half of the reserve, and a manual strand finds
nothing reserved. -/
def EventsExact (d : Deployment) (db : Database) : Action → Prop
  | .commit _ clock request => ∀ c e, crystalJoin db request.crystalId = some (c, e) →
    c.terminalState = none → commitRefusal d clock db c request = none →
    0 ≤ quantizeMoney request.committedExposure →
    (db.accountLedgers.find? e.accountId).isSome →
    e.reservedExposure = 2 * quantizeMoney request.committedExposure
  | .adjudicate _ request => ∀ c e, crystalJoin db request.crystalId = some (c, e) →
    request.action = "strand" → c.terminalState = none →
    (db.accountLedgers.find? e.accountId).isSome → e.reservedExposure = 0
  | _ => True

/-- The event of a commit tells the refund when the commit takes half of the reserve. -/
theorem Closing.committed_delta_eq_refund_iff {reserved amount : Money} (hreserved : 0 ≤ reserved)
    (hamount : 0 ≤ amount) :
    (Closing.committed amount).delta reserved = (Closing.committed amount).refund reserved ↔
      reserved = 2 * amount := by
  simp only [Closing.delta, Closing.refund]
  rcases max_cases 0 (reserved - amount) with ⟨hmax, hle⟩ | ⟨hmax, hle⟩ <;> rw [hmax] <;>
    constructor <;> intro h <;> linarith

theorem eventsExact_iff {db : Database} (hdb : Agrees db) (a : Action) :
    EventsExact d db a ↔ ∀ x ∈ closings d db a,
      (db.accountLedgers.find? x.escrow.accountId).isSome →
        x.closing.delta x.escrow.reservedExposure = x.refund := by
  cases a with
  | crystallize => simp [EventsExact, closings]
  | commit settings clock request =>
    simp only [EventsExact, closings, mem_commitClosings]
    constructor
    · rintro h _ ⟨c, e, hjoin, hopen, haccepted, hamount, rfl⟩ haccount
      have hreserved := hdb.reserves e (Table.mem_of_find? (hdb.join hjoin).2.2.1)
      exact (Closing.committed_delta_eq_refund_iff hreserved hamount).mpr
        (h c e hjoin hopen haccepted hamount haccount)
    · intro h c e hjoin hopen haccepted hamount haccount
      have hreserved := hdb.reserves e (Table.mem_of_find? (hdb.join hjoin).2.2.1)
      exact (Closing.committed_delta_eq_refund_iff hreserved hamount).mp
        (h _ ⟨c, e, hjoin, hopen, haccepted, hamount, rfl⟩ haccount)
  | adjudicate clock request =>
    simp only [EventsExact, closings, mem_adjudicateClosings]
    constructor
    · rintro h _ ⟨c, e, hjoin, hstrand, hopen, rfl⟩ haccount
      exact (h c e hjoin hstrand hopen haccount).symm
    · intro h c e hjoin hstrand hopen haccount
      exact (h _ ⟨c, e, hjoin, hstrand, hopen, rfl⟩ haccount).symm
  | sweep clock plan batchSize =>
    simp only [EventsExact, true_iff]
    intro x hx _
    rcases sweep_closing hx with h | h <;> rw [Resolution.refund, h] <;> rfl

theorem step_eventsReconstruct_iff {opening : Database} {w : FinanceWorld} (hw : Sound w)
    (h : EventsReconstruct opening w) (a : Action) :
    EventsReconstruct opening (step d w a) ↔ EventsExact d w.tables a := by
  have hsweep : ∀ x : Resolution, x.closing = .stranded ∨ x.closing = .expired →
      x.closing.delta x.escrow.reservedExposure = x.refund := by
    intro x hx
    rcases hx with hx | hx <;> rw [Resolution.refund, hx] <;> rfl
  rw [eventsExact_iff hw.agrees]
  exact Tracks.step_forall_iff eventTotal_tracks hw hsweep h a

theorem NoCrystals.eventsReconstruct {w : FinanceWorld} (hw : NoCrystals w) :
    EventsReconstruct w.tables w := by
  intro accountId
  have hzero : eventTotal w.tables accountId = 0 := by
    simp [eventTotal, Table.sumWhere, hw.decisionEvents]
  rw [hzero]
  exact Shifts.refl _ _

end Governor.Finance
