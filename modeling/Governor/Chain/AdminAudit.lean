import Mathlib
import Governor.Core.HashChain
import Governor.Core.Run
import Governor.Ledger.System

/-!
# The admin audit log under concurrency

`record_admin_action` inserts a row, reads the hash of the latest sealed row and writes both
hashes into its own row, in three statements and without a lock. Each statement sees what is
committed at that moment and what its own transaction has written. The log is one chain as long
as nobody reads a predecessor while another open transaction has a row with a smaller id.
-/

namespace Governor.Chain

open Ledger

/-! ## Rows -/

/-- A row of `admin_audit_log`; the hash columns are null until the row is sealed. -/
structure AuditRow where
  auditId : Int
  actorSubject : String
  actorMethod : String
  actorRoles : String
  action : String
  resource : String
  details : List (String × Json)
  recordedAt : Timestamp
  prevHash : Option Hash
  rowHash : Option Hash

/-- The arguments of `record_admin_action`, with the transaction's timestamp. -/
structure AdminAction where
  subject : String
  method : String
  /-- `",".join(sorted(ctx.roles))`. -/
  actorRoles : String
  action : String
  resource : String
  details : List (String × Json)
  recordedAt : Timestamp

/-- The row that `INSERT` stores. -/
def AdminAction.row (a : AdminAction) (auditId : Int) : AuditRow where
  auditId := auditId
  actorSubject := a.subject
  actorMethod := a.method
  actorRoles := a.actorRoles
  action := a.action
  resource := a.resource
  details := a.details
  recordedAt := a.recordedAt
  prevHash := none
  rowHash := none

/-- `{"actor_roles": actor_roles, **details}`. -/
def AuditRow.metadata (r : AuditRow) : Json :=
  .obj (if r.details.any fun f => f.1 = "actor_roles" then r.details
    else ("actor_roles", .str r.actorRoles) :: r.details)

/-- The `UPDATE` of `_seal_admin_audit_row`. -/
def AuditRow.seal (d : Deployment) (prevHash : Hash) (r : AuditRow) : AuditRow :=
  { r with
    prevHash := some prevHash
    rowHash := some (computeRowHash d r.auditId r.resource r.actorSubject r.action r.actorMethod
      r.metadata (d.timestampText r.recordedAt) prevHash) }

/-- The predecessor's hash: of the sealed row with the greatest id, else genesis. -/
def latestAuditHash (rows : List AuditRow) : Hash :=
  ((lastBy AuditRow.auditId (rows.filter fun r => r.rowHash.isSome)).bind
    AuditRow.rowHash).getD genesisHash

/-! ## Transactions -/

/-- Where a transaction stands in `record_admin_action`. -/
inductive AuditStage where
  /-- Before the call, or after it has returned. -/
  | ready
  /-- The row is inserted. -/
  | inserted (row : AuditRow)
  /-- The predecessor's hash is read. -/
  | linked (row : AuditRow) (prevHash : Hash)

/-- The row that is not sealed yet. -/
def AuditStage.row? : AuditStage → Option AuditRow
  | .ready => none
  | .inserted row | .linked row _ => some row

/-- An open transaction: its stage, and the rows that it has sealed. -/
structure AuditTxn where
  stage : AuditStage
  sealed : List AuditRow

def AuditTxn.idle : AuditTxn := ⟨.ready, []⟩

/-- The rows that the transaction has inserted. -/
def AuditTxn.writes (t : AuditTxn) : List AuditRow := t.sealed ++ t.stage.row?.toList

/-- The rows whose predecessor the transaction has read. -/
def AuditTxn.read (t : AuditTxn) : List AuditRow :=
  t.sealed ++ match t.stage with
    | .linked row _ => [row]
    | _ => []

/-- The table with every transaction that runs on it. -/
structure AuditState where
  /-- The committed rows, in the order of their commits. -/
  committed : List AuditRow
  /-- The last id drawn from the sequence. -/
  lastId : Int
  txns : Nat → AuditTxn

namespace AuditState

/-- No rows, no transactions. -/
def initial : AuditState := ⟨[], 0, fun _ => .idle⟩

/-- The rows that transaction `i` sees. -/
def visible (s : AuditState) (i : Nat) : List AuditRow := s.committed ++ (s.txns i).writes

/-- A statement of transaction `i`. -/
def proceed (s : AuditState) (i : Nat) (t : AuditTxn) : AuditState :=
  { s with txns := Function.update s.txns i t }

end AuditState

/-- What a transaction does next. -/
inductive AuditAction where
  /-- Call `record_admin_action`: the `INSERT`, which draws an id. -/
  | insert (a : AdminAction)
  /-- The `SELECT` of the predecessor's hash. -/
  | select
  /-- The `UPDATE` of the row's own hashes. -/
  | update
  | commit
  | rollback

/-- One step of transaction `i`; a statement that is not its next one changes nothing. -/
def AuditState.step (d : Deployment) (s : AuditState) (a : Nat × AuditAction) : AuditState :=
  match a.2, (s.txns a.1).stage with
  | .insert x, .ready =>
    { s.proceed a.1 ⟨.inserted (x.row (s.lastId + 1)), (s.txns a.1).sealed⟩ with
      lastId := s.lastId + 1 }
  | .select, .inserted row =>
    s.proceed a.1 ⟨.linked row (latestAuditHash (s.visible a.1)), (s.txns a.1).sealed⟩
  | .update, .linked row prevHash =>
    s.proceed a.1 ⟨.ready, (s.txns a.1).sealed ++ [row.seal d prevHash]⟩
  | .commit, .ready =>
    { s.proceed a.1 .idle with committed := s.committed ++ (s.txns a.1).sealed }
  | .rollback, _ => s.proceed a.1 .idle
  | _, _ => s

/-! ## One chain -/

/-- How the rows are chained: by the columns as they are stored. -/
def auditSealing : Sealing AuditRow (Option Hash) where
  prev := AuditRow.prevHash
  hash r := some r.rowHash
  digest := AuditRow.rowHash

/-- Listed by their ids, the first row names genesis and every other row the hash of the row
before it. -/
def OneChain (rows : List AuditRow) : Prop :=
  auditSealing.Linked (some genesisHash) (orderBy AuditRow.auditId rows)

instance decidableAuditLinked :
    ∀ (h : Option Hash) (rows : List AuditRow), Decidable (auditSealing.Linked h rows)
  | _, [] => .isTrue trivial
  | h, r :: rs =>
    have := decidableAuditLinked r.rowHash rs
    decidable_of_iff (r.prevHash = h ∧ auditSealing.Linked r.rowHash rs)
      ⟨fun hl => ⟨hl.1, rfl, hl.2⟩, fun hl => ⟨hl.1, hl.2.2⟩⟩

instance (rows : List AuditRow) : Decidable (OneChain rows) :=
  inferInstanceAs (Decidable (auditSealing.Linked _ _))

/-- A transaction that reads its predecessor's hash has the smallest id of the rows that are
inserted and not committed. -/
def LinksInOrder (s : AuditState) (a : Nat × AuditAction) : Prop :=
  ∀ row, a.2 = .select → (s.txns a.1).stage = .inserted row →
    ∀ j ≠ a.1, ∀ r ∈ (s.txns j).writes, row.auditId < r.auditId

/-- What a transaction sees: rows in the order of their ids, chained as far as they are
sealed. -/
structure Follows (committed : List AuditRow) (lastId : Int) (t : AuditTxn) : Prop where
  drawn : ∀ r ∈ committed ++ t.writes, r.auditId ≤ lastId
  increasing : (committed ++ t.writes).Pairwise fun r r' => r.auditId < r'.auditId
  chained : auditSealing.Linked (some genesisHash) (committed ++ t.sealed)
  hashed : ∀ r ∈ committed ++ t.sealed, r.rowHash.isSome = true
  inserted : ∀ row, t.stage = .inserted row → row.rowHash = none
  linked : ∀ row prevHash, t.stage = .linked row prevHash →
    some prevHash = auditSealing.tip (some genesisHash) (committed ++ t.sealed)

/-- A row whose predecessor one transaction has read comes before the rows of another. -/
def Precedes (t t' : AuditTxn) : Prop :=
  ∀ w ∈ t.read, ∀ r ∈ t'.writes, w.auditId < r.auditId

/-- What holds while predecessors are read in the order of the ids. -/
structure Serial (s : AuditState) : Prop where
  follows : ∀ i, Follows s.committed s.lastId (s.txns i)
  apart : ∀ i j, i ≠ j → Precedes (s.txns i) (s.txns j)

variable {d : Deployment} {s : AuditState} {i : Nat} {t t' : AuditTxn} {lastId lastId' : Int}
  {committed : List AuditRow}

theorem AuditTxn.mem_writes_of_read {w : AuditRow} (h : w ∈ t.read) : w ∈ t.writes := by
  rcases List.mem_append.mp h with h | h
  · exact List.mem_append_left _ h
  · refine List.mem_append_right _ ?_
    cases hstage : t.stage with
    | ready | inserted row =>
      rw [hstage] at h
      cases h
    | linked row prevHash =>
      rw [hstage] at h
      exact h

theorem precedes_idle : Precedes .idle t := nofun

theorem precedes_of_idle : Precedes t .idle := fun _ _ _ hr => by cases hr

theorem serial_initial : Serial .initial := by
  refine ⟨fun _ => ⟨?_, .nil, trivial, ?_, nofun, nofun⟩, fun _ _ _ => precedes_idle⟩
  · exact fun r hr => by cases hr
  · exact fun r hr => by cases hr

/-! ## Statements -/

/-- The predecessor's hash is the end of the chain that the transaction sees. -/
theorem tip_eq_latestAuditHash {rows : List AuditRow}
    (hincreasing : rows.Pairwise fun r r' => r.auditId < r'.auditId)
    (hhashed : ∀ r ∈ rows, r.rowHash.isSome = true) :
    auditSealing.tip (some genesisHash) rows = some (latestAuditHash rows) := by
  rw [latestAuditHash, List.filter_eq_self.mpr hhashed]
  cases rows using List.reverseRecOn with
  | nil => rfl
  | append_singleton rows r =>
    obtain ⟨hash, hr⟩ := Option.isSome_iff_exists.mp (hhashed r (by simp))
    have hlast : ∀ x ∈ rows, x.auditId < r.auditId := fun x hx =>
      (List.pairwise_append.mp hincreasing).2.2 x hx r List.mem_cons_self
    rw [Sealing.tip_concat, lastBy_concat hlast, Option.bind_some, hr]
    exact hr

namespace Follows

theorem mono (h : Follows committed lastId t) (hle : lastId ≤ lastId') :
    Follows committed lastId' t :=
  { h with drawn := fun r hr => (h.drawn r hr).trans hle }

theorem idle (h : Follows committed lastId t) : Follows committed lastId .idle := by
  have hidle : committed ++ AuditTxn.idle.writes = committed := List.append_nil _
  have hsealed : committed ++ AuditTxn.idle.sealed = committed := List.append_nil _
  constructor
  case drawn =>
    rw [hidle]
    exact fun r hr => h.drawn r (List.mem_append_left _ hr)
  case increasing =>
    rw [hidle]
    exact (List.pairwise_append.mp h.increasing).1
  case chained =>
    rw [hsealed]
    exact ((Sealing.linked_append _ _ _ _).mp h.chained).1
  case hashed =>
    rw [hsealed]
    exact fun r hr => h.hashed r (List.mem_append_left _ hr)
  case inserted => exact nofun
  case linked => exact nofun

/-- The `INSERT` draws an id above every other. -/
theorem insert (h : Follows committed lastId t) (hstage : t.stage = .ready) (a : AdminAction) :
    Follows committed (lastId + 1) ⟨.inserted (a.row (lastId + 1)), t.sealed⟩ := by
  have hold : committed ++ t.writes = committed ++ t.sealed := by
    rw [AuditTxn.writes, hstage]
    exact congrArg _ (List.append_nil _)
  have hnew : committed ++ AuditTxn.writes ⟨.inserted (a.row (lastId + 1)), t.sealed⟩ =
      (committed ++ t.writes) ++ [a.row (lastId + 1)] := by
    rw [hold, List.append_assoc]
    rfl
  constructor
  case drawn =>
    rw [hnew]
    intro r hr
    rcases List.mem_append.mp hr with hr | hr
    · exact (h.drawn r hr).trans (le_of_lt (Int.lt_succ lastId))
    · rw [List.mem_singleton.mp hr]
      exact le_refl _
  case increasing =>
    rw [hnew]
    refine List.pairwise_append.mpr ⟨h.increasing, List.pairwise_singleton _ _, ?_⟩
    intro r hr r' hr'
    rw [List.mem_singleton.mp hr']
    exact (h.drawn r hr).trans_lt (Int.lt_succ lastId)
  case chained => exact h.chained
  case hashed => exact h.hashed
  case inserted =>
    rintro row ⟨⟩
    rfl
  case linked => exact nofun

/-- The `SELECT` finds the end of the chain. -/
theorem select (h : Follows committed lastId t) {row : AuditRow} (hstage : t.stage = .inserted row) :
    Follows committed lastId
      ⟨.linked row (latestAuditHash (committed ++ t.writes)), t.sealed⟩ := by
  have hwrites : AuditTxn.writes ⟨.linked row (latestAuditHash (committed ++ t.writes)),
      t.sealed⟩ = t.writes := by
    rw [AuditTxn.writes, AuditTxn.writes, hstage]
    rfl
  constructor
  case drawn =>
    rw [hwrites]
    exact h.drawn
  case increasing =>
    rw [hwrites]
    exact h.increasing
  case chained => exact h.chained
  case hashed => exact h.hashed
  case inserted => exact nofun
  case linked =>
    rintro row' prevHash ⟨⟩
    -- the transaction's own row has no hash yet
    have hvisible : committed ++ t.writes = (committed ++ t.sealed) ++ [row] := by
      rw [AuditTxn.writes, hstage, List.append_assoc]
      rfl
    have hlatest : latestAuditHash (committed ++ t.writes) =
        latestAuditHash (committed ++ t.sealed) := by
      rw [hvisible, latestAuditHash, latestAuditHash, List.filter_append,
        List.filter_cons_of_neg (by simp [h.inserted row hstage]), List.filter_nil,
        List.append_nil]
    have hincreasing := h.increasing
    rw [hvisible] at hincreasing
    rw [hlatest]
    exact (tip_eq_latestAuditHash (List.pairwise_append.mp hincreasing).1 h.hashed).symm

/-- The `UPDATE` makes the row the end of the chain. -/
theorem update (h : Follows committed lastId t) {row : AuditRow} {prevHash : Hash}
    (hstage : t.stage = .linked row prevHash) :
    Follows committed lastId ⟨.ready, t.sealed ++ [row.seal d prevHash]⟩ := by
  have hold : committed ++ t.writes = (committed ++ t.sealed) ++ [row] := by
    rw [AuditTxn.writes, hstage, List.append_assoc]
    rfl
  have hnew : committed ++ (t.sealed ++ [row.seal d prevHash]) =
      (committed ++ t.sealed) ++ [row.seal d prevHash] := (List.append_assoc _ _ _).symm
  have hwrites : committed ++ AuditTxn.writes ⟨.ready, t.sealed ++ [row.seal d prevHash]⟩ =
      (committed ++ t.sealed) ++ [row.seal d prevHash] := by
    rw [AuditTxn.writes, ← hnew]
    exact congrArg _ (List.append_nil _)
  have hincreasing := h.increasing
  have hdrawn := h.drawn
  rw [hold] at hincreasing hdrawn
  constructor
  case drawn =>
    rw [hwrites]
    intro r hr
    rcases List.mem_append.mp hr with hr | hr
    · exact hdrawn r (List.mem_append_left _ hr)
    · rw [List.mem_singleton.mp hr]
      exact hdrawn row (by simp)
  case increasing =>
    rw [hwrites]
    obtain ⟨hbefore, -, hcross⟩ := List.pairwise_append.mp hincreasing
    refine List.pairwise_append.mpr ⟨hbefore, List.pairwise_singleton _ _, ?_⟩
    intro r hr r' hr'
    rw [List.mem_singleton.mp hr']
    exact hcross r hr row List.mem_cons_self
  case chained =>
    rw [hnew, Sealing.linked_append]
    exact ⟨h.chained, h.linked row prevHash hstage, rfl, trivial⟩
  case hashed =>
    rw [hnew]
    intro r hr
    rcases List.mem_append.mp hr with hr | hr
    · exact h.hashed r hr
    · rw [List.mem_singleton.mp hr]
      rfl
  case inserted => exact nofun
  case linked => exact nofun

/-- The `COMMIT` leaves its rows at the end of the table. -/
theorem commit (h : Follows committed lastId t) (hstage : t.stage = .ready) :
    Follows (committed ++ t.sealed) lastId .idle := by
  have hold : committed ++ t.writes = committed ++ t.sealed := by
    rw [AuditTxn.writes, hstage]
    exact congrArg _ (List.append_nil _)
  have hwrites : committed ++ t.sealed ++ AuditTxn.idle.writes = committed ++ t.writes := by
    rw [hold]
    exact List.append_nil _
  have hsealed : committed ++ t.sealed ++ AuditTxn.idle.sealed = committed ++ t.sealed :=
    List.append_nil _
  constructor
  case drawn =>
    rw [hwrites]
    exact h.drawn
  case increasing =>
    rw [hwrites]
    exact h.increasing
  case chained =>
    rw [hsealed]
    exact h.chained
  case hashed =>
    rw [hsealed]
    exact h.hashed
  case inserted => exact nofun
  case linked => exact nofun

end Follows

/-! ## Steps -/

/-- A statement of one transaction, with the ids that it draws. -/
theorem Serial.proceed (h : Serial s) (i : Nat) (hle : s.lastId ≤ lastId)
    (ht : Follows s.committed lastId t)
    (hfirst : ∀ j ≠ i, Precedes t (s.txns j)) (hlater : ∀ j ≠ i, Precedes (s.txns j) t) :
    Serial { s.proceed i t with lastId := lastId } := by
  constructor
  case follows =>
    intro j
    by_cases hj : j = i
    · subst hj
      simpa only [AuditState.proceed, Function.update_self] using ht
    · simpa only [AuditState.proceed, Function.update_of_ne hj] using (h.follows j).mono hle
  case apart =>
    intro j k hjk
    by_cases hj : j = i
    · subst hj
      simpa only [AuditState.proceed, Function.update_self, Function.update_of_ne hjk.symm]
        using hfirst k hjk.symm
    · by_cases hk : k = i
      · subst hk
        simpa only [AuditState.proceed, Function.update_self, Function.update_of_ne hj]
          using hlater j hj
      · simpa only [AuditState.proceed, Function.update_of_ne hj, Function.update_of_ne hk]
          using h.apart j k hjk

/-- Of two open transactions at most one has read a predecessor. -/
theorem Serial.read_eq_nil (h : Serial s) {j : Nat} (hij : i ≠ j) {w : AuditRow}
    (hw : w ∈ (s.txns i).read) : (s.txns j).read = [] := by
  rw [List.eq_nil_iff_forall_not_mem]
  intro w' hw'
  have hless := h.apart i j hij w hw w' (AuditTxn.mem_writes_of_read hw')
  have hless' := h.apart j i hij.symm w' hw' w (AuditTxn.mem_writes_of_read hw)
  omega

/-- What the other transactions see when one commits. -/
theorem Serial.commit_other (h : Serial s) (hstage : (s.txns i).stage = .ready) {j : Nat}
    (hij : i ≠ j) :
    Follows (s.committed ++ (s.txns i).sealed) s.lastId (s.txns j) := by
  have hi := h.follows i
  have hj := h.follows j
  have hwrites : (s.txns i).writes = (s.txns i).sealed := by
    rw [AuditTxn.writes, hstage]
    exact List.append_nil _
  cases hsealed : (s.txns i).sealed with
  | nil => rwa [List.append_nil]
  | cons w ws =>
    have hmem : w ∈ (s.txns i).read :=
      List.mem_append_left _ (hsealed ▸ List.mem_cons_self)
    obtain ⟨hnone, hstage'⟩ := List.append_eq_nil_iff.mp (h.read_eq_nil hij hmem)
    rw [← hsealed]
    have hincreasing := hi.increasing
    have hdrawn := hi.drawn
    rw [hwrites] at hincreasing hdrawn
    constructor
    case drawn =>
      intro r hr
      rcases List.mem_append.mp hr with hr | hr
      · exact hdrawn r hr
      · exact hj.drawn r (List.mem_append_right _ hr)
    case increasing =>
      obtain ⟨-, hown, hcross⟩ := List.pairwise_append.mp hj.increasing
      refine List.pairwise_append.mpr ⟨hincreasing, hown, ?_⟩
      intro r hr r' hr'
      rcases List.mem_append.mp hr with hr | hr
      · exact hcross r hr r' hr'
      · exact h.apart i j hij r (List.mem_append_left _ hr) r' hr'
    case chained =>
      rw [hnone, List.append_nil]
      exact hi.chained
    case hashed =>
      rw [hnone, List.append_nil]
      exact hi.hashed
    case inserted => exact hj.inserted
    case linked =>
      intro row prevHash hlinked
      rw [hlinked] at hstage'
      cases hstage'

theorem Serial.commit (h : Serial s) (hstage : (s.txns i).stage = .ready) :
    Serial { s.proceed i .idle with committed := s.committed ++ (s.txns i).sealed } := by
  constructor
  case follows =>
    intro j
    by_cases hj : j = i
    · subst hj
      simpa only [AuditState.proceed, Function.update_self] using (h.follows j).commit hstage
    · simpa only [AuditState.proceed, Function.update_of_ne hj]
        using h.commit_other hstage (Ne.symm hj)
  case apart =>
    exact (h.proceed i (le_refl _) (h.follows i).idle (fun _ _ => precedes_idle)
      (fun _ _ => precedes_of_idle)).apart

/-- A step that reads in the order of the ids keeps the rows serial. -/
theorem step_serial (h : Serial s) {a : Nat × AuditAction} (hread : LinksInOrder s a) :
    Serial (s.step d a) := by
  obtain ⟨i, action⟩ := a
  have hi := h.follows i
  have hafter : ∀ {j}, j ≠ i → ∀ {t}, t.writes = (s.txns i).writes → Precedes (s.txns j) t := by
    intro j hj t hwrites w hw r hr
    exact h.apart j i hj w hw r (hwrites ▸ hr)
  cases action with
  | insert x =>
    cases hstage : (s.txns i).stage with
    | ready =>
      simp only [AuditState.step, hstage]
      refine h.proceed i (le_of_lt (Int.lt_succ _)) (hi.insert hstage x) ?_ ?_
      · intro j hj w hw
        refine h.apart i j hj.symm w ?_
        rw [AuditTxn.read, hstage]
        exact hw
      · intro j hj w hw r hr
        have hdrawn := (h.follows j).drawn w
          (List.mem_append_right _ (AuditTxn.mem_writes_of_read hw))
        rcases List.mem_append.mp hr with hr | hr
        · exact h.apart j i hj w hw r (List.mem_append_left _ hr)
        · rw [List.mem_singleton.mp hr]
          exact hdrawn.trans_lt (Int.lt_succ _)
    | inserted | linked =>
      simp only [AuditState.step, hstage]
      exact h
  | select =>
    cases hstage : (s.txns i).stage with
    | inserted row =>
      simp only [AuditState.step, hstage]
      refine h.proceed i (le_refl _) (hi.select hstage) ?_ ?_
      · intro j hj w hw
        rcases List.mem_append.mp hw with hw | hw
        · exact h.apart i j hj.symm w (List.mem_append_left _ hw)
        · rw [List.mem_singleton.mp hw]
          exact hread row rfl hstage j hj
      · exact fun j hj => hafter hj (by rw [AuditTxn.writes, AuditTxn.writes, hstage]; rfl)
    | ready | linked =>
      simp only [AuditState.step, hstage]
      exact h
  | update =>
    cases hstage : (s.txns i).stage with
    | linked row prevHash =>
      simp only [AuditState.step, hstage]
      have hrow : row ∈ (s.txns i).read := by
        rw [AuditTxn.read, hstage]
        exact List.mem_append_right _ List.mem_cons_self
      refine h.proceed i (le_refl _) (hi.update hstage) ?_ ?_
      · intro j hj w hw r hr
        rw [AuditTxn.read, List.append_nil] at hw
        rcases List.mem_append.mp hw with hw | hw
        · exact h.apart i j hj.symm w (List.mem_append_left _ hw) r hr
        · rw [List.mem_singleton.mp hw]
          exact h.apart i j hj.symm row hrow r hr
      · intro j hj w hw r hr
        rw [AuditTxn.writes, AuditStage.row?, Option.toList_none, List.append_nil] at hr
        rcases List.mem_append.mp hr with hr | hr
        · exact h.apart j i hj w hw r (List.mem_append_left _ hr)
        · rw [List.mem_singleton.mp hr]
          exact h.apart j i hj w hw row (AuditTxn.mem_writes_of_read hrow)
    | ready | inserted =>
      simp only [AuditState.step, hstage]
      exact h
  | commit =>
    cases hstage : (s.txns i).stage with
    | ready =>
      simp only [AuditState.step, hstage]
      exact h.commit hstage
    | inserted | linked =>
      simp only [AuditState.step, hstage]
      exact h
  | rollback =>
    exact h.proceed i (le_refl _) hi.idle (fun _ _ => precedes_idle) (fun _ _ => precedes_of_idle)

/-- In every run whose predecessors are all read in the order of the ids, the committed rows are
one chain in every state. -/
theorem run_oneChain (d : Deployment) (actions : List (Nat × AuditAction))
    (hreads : Along (AuditState.step d) LinksInOrder .initial actions) :
    Throughout (AuditState.step d) (fun s => OneChain s.committed) .initial actions := by
  refine (throughout_of_along serial_initial (fun s a ha hs => step_serial hs ha) hreads).imp ?_
  intro s hs
  have hsorted := (List.pairwise_append.mp (hs.follows 0).increasing).1
  have hchained := ((Sealing.linked_append _ _ _ _).mp (hs.follows 0).chained).1
  rwa [OneChain, orderBy, List.Pairwise.insertionSort_eq (hsorted.imp fun hlt => le_of_lt hlt)]

/-- An admin clears the diagnostic mode. -/
def sampleAdminAction (subject : String) : AdminAction :=
  ⟨subject, "oidc", "financial_admin", "diagnostic.clear", "/internal/diagnostic/clear", [],
    sampleStart⟩

/-- The second of two transactions inserts its row early and reads after the first has
committed. -/
def waitingAdmins : List (Nat × AuditAction) :=
  [(0, .insert (sampleAdminAction "admin-1")), (1, .insert (sampleAdminAction "admin-2")),
    (0, .select), (0, .update), (0, .commit), (1, .select), (1, .update), (1, .commit)]

theorem run_oneChain_waiting :
    Throughout (AuditState.step sampleDeployment) (fun s => OneChain s.committed) .initial
      waitingAdmins := by
  refine run_oneChain sampleDeployment waitingAdmins ?_
  simp only [waitingAdmins, Along, LinksInOrder, reduceCtorEq, false_implies, implies_true,
    true_and, and_true, true_implies]
  refine ⟨?_, ?_⟩
  · rintro row ⟨⟩ j hj r hr
    by_cases h : j = 1
    · subst h
      obtain rfl := List.mem_singleton.mp hr
      decide
    · simp [AuditState.step, AuditState.proceed, AuditState.initial, AuditTxn.writes,
        AuditTxn.idle, AuditStage.row?, h, hj] at hr
  · rintro row ⟨⟩ j hj r hr
    by_cases h : j = 0
    · subst h
      cases hr
    · simp [AuditState.step, AuditState.proceed, AuditState.initial, AuditTxn.writes,
        AuditTxn.idle, AuditStage.row?, h, hj] at hr

/-- Both transactions read before either commits. -/
def overlappingAdmins : List (Nat × AuditAction) :=
  [(0, .insert (sampleAdminAction "admin-1")), (1, .insert (sampleAdminAction "admin-2")),
    (0, .select), (1, .select), (0, .update), (1, .update), (1, .commit), (0, .commit)]

/-- Two admin actions that overlap both name genesis, and the log forks. -/
theorem overlapping_admins_fork :
    (orderBy AuditRow.auditId (overlappingAdmins.foldl (AuditState.step sampleDeployment)
        .initial).committed).map (fun r => (r.auditId, r.actorSubject, r.prevHash)) =
      [(1, "admin-1", some genesisHash), (2, "admin-2", some genesisHash)] ∧
    ¬ OneChain (overlappingAdmins.foldl (AuditState.step sampleDeployment) .initial).committed := by
  decide +kernel

end Governor.Chain
