import Mathlib
import Governor.Core.HashChain
import Governor.Core.Run

/-!
# Verifying a hash chain that grows

A verifier scans the rows of a chain in the order of their ids, from the start or from an anchor
row, skips the rows without a hash and stops at the first row that does not continue the chain. A
valid scan leaves a checkpoint, from which a later verification goes on. A verification issues
several statements, and each of them reads the table as it is then. While the table only grows by
sealed rows, every verification accepts the chain up to some row, whatever is appended between its
statements and whichever checkpoint it starts from.
-/

namespace Governor.ChainScan

/-! ## Scanning -/

/-- How rows are chained and ordered. -/
structure Verifier (ρ η : Type) extends Sealing ρ η where
  id : ρ → Int
  /-- The hash that a chain starts from. -/
  genesis : η
  /-- A hash that a test takes for none. -/
  blank : η → Bool

/-- Why a row does not continue the chain. -/
inductive Mismatch where
  | prevHash | rowHash
  deriving DecidableEq, Repr

/-- The variables of a scan. -/
structure Scan (η : Type) where
  sealedCount : Int
  unsealedCount : Int
  /-- The hash that the next row has to name; none after an anchor without one. -/
  lastSealed : Option η
  head : Option η
  firstBreak : Option (Int × Mismatch)
  lastId : Int
  deriving DecidableEq, Repr

/-- No row was skipped and none broke the chain. -/
def Scan.valid {η : Type} (s : Scan η) : Bool := s.firstBreak.isNone && s.unsealedCount = 0

/-- A verified prefix of a chain. -/
structure Checkpoint (η : Type) where
  lastVerifiedId : Int
  verifiedHead : η
  sealedCount : Int
  totalEvents : Int
  deriving DecidableEq, Repr

/-- What a verification returns. -/
structure Verdict (η : Type) where
  valid : Bool
  sealedCount : Int
  unsealedCount : Int
  totalEvents : Int
  headHash : Option η
  firstBreak : Option (Int × Mismatch)
  /-- It went on from a checkpoint. -/
  incremental : Bool
  deriving DecidableEq, Repr

/-- The next statement of a verification. -/
inductive Stage (η : Type) where
  | count
  | head (total : Int)
  | load (total : Int) (head : Option η)
  | anchor (total : Int) (c : Checkpoint η)
  | tail (total : Int) (s : Scan η)
  | all (total : Int)
  | save (c : Checkpoint η) (v : Verdict η)
  | ended (v : Verdict η)
  deriving DecidableEq, Repr

/-- What a scan returns. -/
def Scan.verdict {η : Type} (s : Scan η) (total : Int) (incremental : Bool) : Verdict η where
  valid := s.valid
  sealedCount := s.sealedCount
  unsealedCount := s.unsealedCount
  totalEvents := total
  headHash := s.head
  firstBreak := s.firstBreak
  incremental := incremental

/-- The checkpoint that a verification writes next. -/
def Stage.saves {η : Type} : Stage η → Option (Checkpoint η)
  | .save c _ => some c
  | _ => none

namespace Verifier

section Definitions

variable {ρ η : Type} [DecidableEq η] (V : Verifier ρ η)

/-- The hash of a row that counts as sealed. -/
def sealedHash (r : ρ) : Option η := (V.hash r).filter (· ≠ V.genesis)

/-- Scan the rows one after the other. -/
def scan : Scan η → List ρ → Scan η
  | s, [] => s
  | s, r :: rs =>
    match V.sealedHash r with
    | none => scan { s with lastId := V.id r, unsealedCount := s.unsealedCount + 1 } rs
    | some h =>
      if some (V.prev r) ≠ s.lastSealed then
        { s with lastId := V.id r, firstBreak := some (V.id r, .prevHash) }
      else if h ≠ V.digest r then
        { s with lastId := V.id r, firstBreak := some (V.id r, .rowHash) }
      else scan { s with
        lastId := V.id r
        sealedCount := s.sealedCount + 1
        lastSealed := some h
        head := some h } rs

/-- A scan that goes on after a hash. -/
def start (lastId priorSealed : Int) (lastSealed : Option η) : Scan η where
  sealedCount := priorSealed
  unsealedCount := 0
  lastSealed := lastSealed
  head := lastSealed.filter (· ≠ V.genesis)
  firstBreak := none
  lastId := lastId

/-- A scan that goes on after an anchor row, or from the start when the row is missing. -/
def origin (rows : List ρ) (fromId priorSealed : Int) : Scan η :=
  if 0 < fromId then
    match rows.find? fun r => V.id r = fromId with
    | none => V.start 0 0 (some V.genesis)
    | some anchor => V.start fromId priorSealed (V.hash anchor)
  else V.start fromId priorSealed (some V.genesis)

/-- Scan what comes after the last row of a scan. -/
def goOn (s : Scan η) (rows : List ρ) : Scan η :=
  V.scan s (if 0 < s.lastId then rows.filter fun r => s.lastId < V.id r else rows)

/-- The hash of the last sealed row. -/
def head (rows : List ρ) : Option η := (rows.filterMap V.sealedHash).getLast?

/-- The checkpoint of a valid scan. -/
def checkpoint (s : Scan η) (total : Int) : Option (Checkpoint η) :=
  if s.valid then
    (s.head.filter fun h => !V.blank h).map fun h => ⟨s.lastId, h, s.sealedCount, total⟩
  else none

/-- A verification after its next statement. -/
def next (incremental : Bool) (rows : List ρ) (stored : Option (Checkpoint η)) :
    Stage η → Stage η
  | .count =>
    if rows.length = 0 then .ended ⟨true, 0, 0, 0, none, none, false⟩ else .head rows.length
  | .head total => if incremental then .load total (V.head rows) else .all total
  | .load total head =>
    match stored, head.filter fun h => !V.blank h with
    | some c, some h =>
      if c.verifiedHead = h ∧ total = c.totalEvents ∧ c.sealedCount = total then
        .ended ⟨true, c.sealedCount, 0, total, some h, none, true⟩
      else .anchor total c
    | _, _ => .all total
  | .anchor total c => .tail total (V.origin rows c.lastVerifiedId c.sealedCount)
  | .tail total s =>
    match V.checkpoint (V.goOn s rows) total with
    | some c => .save c ((V.goOn s rows).verdict total true)
    | none => .all total
  | .all total =>
    let s := V.goOn (V.start 0 0 (some V.genesis)) rows
    match if incremental then V.checkpoint s total else none with
    | some c => .save c (s.verdict total false)
    | none => .ended (s.verdict total false)
  | .save _ v => .ended v
  | .ended v => .ended v

/-- The verdict of a full verification. -/
def full (rows : List ρ) : Verdict η :=
  (V.goOn (V.start 0 0 (some V.genesis)) rows).verdict rows.length false

/-- A chain as appending builds it. -/
structure Log (rows : List ρ) : Prop where
  increasing : rows.Pairwise fun a b => V.id a < V.id b
  positive : ∀ r ∈ rows, 0 < V.id r
  linked : V.Linked V.genesis rows
  apart : ∀ r ∈ rows, V.digest r ≠ V.genesis

/-- The scan of a whole chain. -/
def reached (rows : List ρ) : Scan η where
  sealedCount := rows.length
  unsealedCount := 0
  lastSealed := some (V.tip V.genesis rows)
  head := rows.getLast?.map V.digest
  firstBreak := none
  lastId := (rows.getLast?.map V.id).getD 0

/-- The checkpoint describes a prefix of the rows. -/
structure Covers (before rows : List ρ) (c : Checkpoint η) : Prop where
  isPrefix : before <+: rows
  lastId : c.lastVerifiedId = (V.reached before).lastId
  head : some c.verifiedHead = (V.reached before).head
  count : c.sealedCount = before.length

/-- The verdict accepts a prefix of the rows. -/
def Accepts (rows : List ρ) (v : Verdict η) : Prop :=
  ∃ before, before <+: rows ∧ v.totalEvents ≤ before.length ∧
    v = (V.reached before).verdict v.totalEvents v.incremental

/-- What a verification has found out about the rows so far. -/
def Sound (rows : List ρ) (begun : Nat) : Stage η → Prop
  | .count => begun ≤ rows.length
  | .head total | .load total _ | .all total => begun ≤ total ∧ total ≤ rows.length
  | .anchor total c => (begun ≤ total ∧ total ≤ rows.length) ∧ ∃ before, V.Covers before rows c
  | .tail total s => (begun ≤ total ∧ total ≤ rows.length) ∧
    ∃ before, before <+: rows ∧ s = V.reached before
  | .save c v => (∃ before, V.Covers before rows c) ∧ begun ≤ v.totalEvents ∧ V.Accepts rows v
  | .ended v => begun ≤ v.totalEvents ∧ V.Accepts rows v

end Definitions

/-! ## Chains -/

section Rows

variable {ρ η : Type} {V : Verifier ρ η} {rows before rest : List ρ} {last : ρ}

/-- The rows after a row of an ordered list. -/
theorem Log.filter_after (hlog : V.Log (before ++ last :: rest)) :
    ((before ++ last :: rest).filter fun r => V.id last < V.id r) = rest := by
  obtain ⟨-, hlast, hbefore⟩ := List.pairwise_append.mp hlog.increasing
  obtain ⟨hrest, -⟩ := List.pairwise_cons.mp hlast
  have hleft : (before.filter fun r => V.id last < V.id r) = [] := by
    rw [List.filter_eq_nil_iff]
    intro r hr
    have hlt := hbefore r hr last List.mem_cons_self
    simpa using hlt.le
  have hright : (rest.filter fun r => V.id last < V.id r) = rest :=
    List.filter_eq_self.mpr fun r hr => decide_eq_true (hrest r hr)
  rw [List.filter_append, hleft, List.filter_cons_of_neg (by simp), hright, List.nil_append]

/-- The row of an id of an ordered list. -/
theorem Log.find?_eq (hlog : V.Log (before ++ last :: rest)) :
    ((before ++ last :: rest).find? fun r => V.id r = V.id last) = some last := by
  rw [List.find?_append, List.find?_eq_none.mpr, Option.none_or,
    List.find?_cons_of_pos (by simp)]
  intro r hr
  have hlt := (List.pairwise_append.mp hlog.increasing).2.2 r hr last List.mem_cons_self
  simpa using hlt.ne

theorem log_nil : V.Log [] :=
  ⟨.nil, fun _ h => (List.not_mem_nil h).elim, trivial, fun _ h => (List.not_mem_nil h).elim⟩

/-- A row that is sealed onto the end of a chain continues it. -/
theorem Log.concat (hlog : V.Log rows) {r : ρ} (hid : ∀ x ∈ rows, V.id x < V.id r)
    (hpos : 0 < V.id r) (hprev : V.prev r = V.tip V.genesis rows)
    (hhash : V.hash r = some (V.digest r)) (hapart : V.digest r ≠ V.genesis) :
    V.Log (rows ++ [r]) where
  increasing := by
    refine List.pairwise_append.mpr ⟨hlog.increasing, List.pairwise_singleton _ _, ?_⟩
    intro x hx y hy
    rw [List.mem_singleton.mp hy]
    exact hid x hx
  positive := by
    intro x hx
    rcases List.mem_append.mp hx with hx | hx
    · exact hlog.positive x hx
    · rw [List.mem_singleton.mp hx]
      exact hpos
  linked := (Sealing.linked_append _ _ _ _).mpr ⟨hlog.linked, hprev, hhash, trivial⟩
  apart := by
    intro x hx
    rcases List.mem_append.mp hx with hx | hx
    · exact hlog.apart x hx
    · rw [List.mem_singleton.mp hx]
      exact hapart

end Rows

/-! ## Scans of a chain -/

section Scans

variable {ρ η : Type} {V : Verifier ρ η} {rows before : List ρ} {h : η} {s : Scan η}
  {c : Checkpoint η}

theorem reached_concat (before : List ρ) (last : ρ) :
    V.reached (before ++ [last]) =
      ⟨before.length + 1, 0, some (V.digest last), some (V.digest last), none, V.id last⟩ := by
  simp [reached, Sealing.tip_append]

/-- A scan of a chain leaves a checkpoint of the chain. -/
theorem covers_of_checkpoint {total : Int}
    (h : V.checkpoint (V.reached rows) total = some c) : V.Covers rows rows c := by
  unfold checkpoint at h
  split_ifs at h
  obtain ⟨head, hhead, rfl⟩ := Option.map_eq_some_iff.mp h
  exact ⟨List.prefix_rfl, rfl, (Option.eq_some_of_filter_eq_some hhead).symm, rfl⟩

variable [DecidableEq η]

/-- Every row of a chain is sealed with its digest. -/
theorem sealedHash_of_linked (hl : V.Linked h rows) (happart : ∀ r ∈ rows, V.digest r ≠ V.genesis)
    {r : ρ} (hr : r ∈ rows) : V.sealedHash r = some (V.digest r) := by
  rw [sealedHash, hl.hash_eq r hr]
  exact Option.filter_some_pos (decide_eq_true (happart r hr))

/-- Over a chain the scan counts every row and ends at the last one. -/
theorem scan_of_linked (hs : s.lastSealed = some h) (hl : V.Linked h rows)
    (happart : ∀ r ∈ rows, V.digest r ≠ V.genesis) :
    V.scan s rows = { s with
      sealedCount := s.sealedCount + rows.length
      lastSealed := some (V.tip h rows)
      head := (rows.getLast?.map V.digest).or s.head
      lastId := (rows.getLast?.map V.id).getD s.lastId } := by
  induction rows generalizing h s with
  | nil =>
    cases s
    subst hs
    simp [scan]
  | cons r rs ih =>
    have hsealed := sealedHash_of_linked hl happart List.mem_cons_self
    obtain ⟨hprev, -, hrest⟩ := hl
    rw [scan, hsealed]
    simp only [hprev, hs, ne_eq, not_true_eq_false, ite_false]
    rw [ih rfl hrest fun x hx => happart x (List.mem_cons_of_mem _ hx)]
    cases rs with
    | nil => simp
    | cons x xs =>
      have hlast : ∀ {β : Type} (f : ρ → β), ∃ b, (x :: xs).getLast?.map f = some b := by
        intro β f
        rw [List.getLast?_eq_some_getLast (List.cons_ne_nil x xs)]
        exact ⟨_, rfl⟩
      obtain ⟨b, hb⟩ := hlast V.digest
      obtain ⟨n, hn⟩ := hlast V.id
      rw [List.getLast?_cons_cons, hb, hn]
      simp only [List.length_cons, Sealing.tip_cons, Option.some_or, Option.getD_some,
        Nat.cast_add, Nat.cast_one]
      congr 1
      ring

/-- The last sealed row of a chain is its last row. -/
theorem Log.head (hlog : V.Log rows) : V.head rows = rows.getLast?.map V.digest := by
  have hall : rows.filterMap V.sealedHash = rows.map V.digest := by
    rw [← List.filterMap_eq_map]
    exact List.filterMap_congr fun r hr => sealedHash_of_linked hlog.linked hlog.apart hr
  rw [Verifier.head, hall, List.getLast?_map]

theorem reached_nil : V.reached [] = V.start 0 0 (some V.genesis) := by
  simp [reached, start, Option.filter]

/-- A scan of a prefix goes on to the end of the chain. -/
theorem Log.goOn_reached (hlog : V.Log rows) (hp : before <+: rows) :
    V.goOn (V.reached before) rows = V.reached rows := by
  obtain ⟨rest, rfl⟩ := hp
  have hrest := (Sealing.linked_append _ _ _ _).mp hlog.linked
  have hrows : (if 0 < (V.reached before).lastId then
      (before ++ rest).filter fun r => (V.reached before).lastId < V.id r
      else before ++ rest) = rest := by
    cases before using List.reverseRecOn with
    | nil => rfl
    | append_singleton before last =>
      rw [reached_concat, if_pos (hlog.positive last (by simp))]
      rw [List.append_assoc, List.singleton_append] at hlog ⊢
      exact hlog.filter_after
  rw [goOn, hrows, scan_of_linked rfl hrest.2 fun r hr => hlog.apart r (by simp [hr])]
  have hlast : ∀ {β : Type} (f : ρ → β), (before ++ rest).getLast?.map f =
      (rest.getLast?.map f).or (before.getLast?.map f) := by
    intro β f
    rw [List.getLast?_append]
    cases rest.getLast? <;> rfl
  have hid : ((before ++ rest).getLast?.map V.id).getD 0 =
      (rest.getLast?.map V.id).getD ((before.getLast?.map V.id).getD 0) := by
    rw [hlast]
    cases rest.getLast? <;> rfl
  simp only [reached, hid, Sealing.tip_append, List.length_append, Nat.cast_add]
  rw [hlast]

/-- The anchor of a checkpoint leads to the prefix that it describes. -/
theorem Log.origin_covers (hlog : V.Log rows) (hc : V.Covers before rows c) :
    V.origin rows c.lastVerifiedId c.sealedCount = V.reached before := by
  obtain ⟨⟨rest, rfl⟩, hid, hhead, hcount⟩ := hc
  cases before using List.reverseRecOn with
  | nil => cases hhead
  | append_singleton before last =>
    have hpos : 0 < V.id last := hlog.positive last (by simp)
    have hhash := hlog.linked.hash_eq last (by simp)
    have happart : V.digest last ≠ V.genesis := hlog.apart last (by simp)
    rw [reached_concat] at hid ⊢
    rw [List.append_assoc, List.singleton_append] at hlog ⊢
    rw [origin, hid, if_pos hpos, hlog.find?_eq]
    simp [start, hhash, hcount, Option.filter, happart]

end Scans

/-! ## Arbitrary rows -/

section Arbitrary

variable {ρ η : Type} [DecidableEq η] {V : Verifier ρ η} {rows : List ρ} {s : Scan η}

/-- A scan never takes back a row that it skipped. -/
theorem unsealedCount_le_scan : s.unsealedCount ≤ (V.scan s rows).unsealedCount := by
  induction rows generalizing s with
  | nil => exact le_rfl
  | cons r rs ih =>
    rw [scan]
    split
    · exact (Int.le_add_one le_rfl).trans ih
    · split_ifs
      · exact le_rfl
      · exact le_rfl
      · exact ih

/-- Rows that a scan accepts form a chain. -/
theorem linked_of_scan_valid {h : η} (hvalid : (V.scan s rows).valid = true)
    (hs : s.lastSealed = some h) (hsealed : 0 ≤ s.unsealedCount) :
    V.Linked h rows ∧ ∀ r ∈ rows, V.digest r ≠ V.genesis := by
  induction rows generalizing h s with
  | nil => exact ⟨trivial, fun _ h => (List.not_mem_nil h).elim⟩
  | cons r rs ih =>
    rw [scan] at hvalid
    split at hvalid
    · -- a skipped row is counted to the end
      have hzero := (Bool.and_eq_true_iff.mp hvalid).2
      rw [decide_eq_true_eq] at hzero
      have hle : s.unsealedCount + 1 ≤ 0 := hzero ▸ unsealedCount_le_scan
      omega
    · next hash hhash =>
      obtain ⟨hsome, hgenesis⟩ := Option.filter_eq_some_iff.mp hhash
      split_ifs at hvalid with hprev hdigest
      · exact absurd (Bool.and_eq_true_iff.mp hvalid).1 (by simp)
      · exact absurd (Bool.and_eq_true_iff.mp hvalid).1 (by simp)
      · rw [not_not] at hprev hdigest
        rw [hs] at hprev
        subst hdigest
        obtain ⟨hl, happart⟩ := ih hvalid rfl hsealed
        refine ⟨⟨Option.some.inj hprev, hsome, hl⟩, fun x hx => ?_⟩
        rcases List.mem_cons.mp hx with rfl | hx
        · exact of_decide_eq_true hgenesis
        · exact happart x hx

/-- Rows that a full verification accepts form a chain. -/
theorem linked_of_full_valid (hvalid : (V.full rows).valid = true) :
    V.Linked V.genesis rows ∧ ∀ r ∈ rows, V.digest r ≠ V.genesis :=
  linked_of_scan_valid hvalid rfl le_rfl

end Arbitrary

/-! ## Verifications -/

section Stages

variable {ρ η : Type} {V : Verifier ρ η} {rows rows' before : List ρ} {begun : Nat}
  {stage : Stage η} {v : Verdict η} {c : Checkpoint η}

theorem Covers.mono (h : V.Covers before rows c) (hp : rows <+: rows') :
    V.Covers before rows' c :=
  ⟨h.isPrefix.trans hp, h.lastId, h.head, h.count⟩

theorem Accepts.mono (h : V.Accepts rows v) (hp : rows <+: rows') : V.Accepts rows' v := by
  obtain ⟨before, hbefore, htotal, hv⟩ := h
  exact ⟨before, hbefore.trans hp, htotal, hv⟩

/-- What is found out stays true while rows are appended. -/
theorem Sound.mono (h : V.Sound rows begun stage) (hp : rows <+: rows') :
    V.Sound rows' begun stage := by
  have hlength : (rows.length : Int) ≤ rows'.length := Int.ofNat_le.mpr hp.length_le
  cases stage with
  | count => exact Nat.le_trans h hp.length_le
  | head total | load total head | all total => exact ⟨h.1, h.2.trans hlength⟩
  | anchor total c =>
    obtain ⟨⟨hbegun, htotal⟩, before, hc⟩ := h
    exact ⟨⟨hbegun, htotal.trans hlength⟩, before, hc.mono hp⟩
  | tail total s =>
    obtain ⟨⟨hbegun, htotal⟩, before, hbefore, hs⟩ := h
    exact ⟨⟨hbegun, htotal.trans hlength⟩, before, hbefore.trans hp, hs⟩
  | save c v =>
    obtain ⟨⟨before, hc⟩, hbegun, hv⟩ := h
    exact ⟨⟨before, hc.mono hp⟩, hbegun, hv.mono hp⟩
  | ended v => exact ⟨h.1, h.2.mono hp⟩

/-- The verdict of a scan of the whole chain. -/
theorem accepts_reached {total : Int} (htotal : total ≤ rows.length) (incremental : Bool) :
    V.Accepts rows ((V.reached rows).verdict total incremental) :=
  ⟨rows, List.prefix_rfl, htotal, rfl⟩

/-- A checkpoint that answers for the chain accepts the prefix that it describes. -/
theorem Covers.accepts {total : Int} (hc : V.Covers before rows c)
    (hcount : c.sealedCount = total) :
    V.Accepts rows ⟨true, c.sealedCount, 0, total, some c.verifiedHead, none, true⟩ := by
  refine ⟨before, hc.isPrefix, by simp only [← hcount, hc.count, le_refl], ?_⟩
  rw [hc.head, hc.count]
  rfl

/-- Every statement of a verification keeps to what the rows are. -/
theorem Sound.next [DecidableEq η] (h : V.Sound rows begun stage) (hlog : V.Log rows)
    {stored : Option (Checkpoint η)} (hstored : ∀ c ∈ stored, ∃ before, V.Covers before rows c)
    (incremental : Bool) : V.Sound rows begun (V.next incremental rows stored stage) := by
  cases stage with
  | count =>
    rw [Verifier.next]
    split_ifs with hempty
    · obtain rfl := List.eq_nil_of_length_eq_zero hempty
      refine ⟨?_, [], List.prefix_rfl, le_rfl, rfl⟩
      exact Int.ofNat_le.mpr h
    · exact ⟨Int.ofNat_le.mpr h, le_rfl⟩
  | head total =>
    rw [Verifier.next]
    split_ifs <;> exact h
  | load total head =>
    cases stored with
    | none => exact h
    | some c =>
      obtain ⟨before, hc⟩ := hstored c rfl
      cases hhash : head.filter fun h => !V.blank h with
      | none =>
        simp only [Verifier.next, hhash]
        exact h
      | some hash =>
        simp only [Verifier.next, hhash]
        split_ifs with hanswers
        · obtain ⟨rfl, -, hcount⟩ := hanswers
          exact ⟨h.1, hc.accepts hcount⟩
        · exact ⟨h, before, hc⟩
  | anchor total c =>
    obtain ⟨htotal, before, hc⟩ := h
    exact ⟨htotal, before, hc.isPrefix, hlog.origin_covers hc⟩
  | tail total s =>
    obtain ⟨htotal, before, hbefore, rfl⟩ := h
    rw [Verifier.next, hlog.goOn_reached hbefore]
    split
    · next c hc =>
      exact ⟨⟨rows, covers_of_checkpoint hc⟩, htotal.1, accepts_reached htotal.2 true⟩
    · exact htotal
  | all total =>
    simp only [Verifier.next, ← reached_nil, hlog.goOn_reached (List.nil_prefix)]
    split
    · next c hc =>
      refine ⟨⟨rows, ?_⟩, h.1, accepts_reached h.2 false⟩
      split_ifs at hc
      exact covers_of_checkpoint hc
    · exact ⟨h.1, accepts_reached h.2 false⟩
  | save c v => exact h.2
  | ended v => exact h

end Stages

end Verifier

/-! ## A table and its verifications -/

/-- A verification in progress or ended. -/
structure Verification (η : Type) where
  incremental : Bool
  /-- How many rows there were when it began. -/
  begun : Nat
  stage : Stage η
  deriving DecidableEq, Repr

/-- A system with a table, the stored checkpoint and the verifications of the table. -/
structure Verified (σ η : Type) where
  base : σ
  stored : Option (Checkpoint η)
  verifications : List (Verification η)

/-- The system goes on, a verification begins, or one issues its next statement. -/
inductive VerifiedAction (α : Type) where
  | act (a : α)
  | verify (incremental : Bool)
  | read (i : Nat)

namespace Verified

section Steps

variable {ρ η σ α : Type} [DecidableEq η] (V : Verifier ρ η) (rows : σ → List ρ)
  (act : σ → α → σ)

/-- One step of the system and the verifications. -/
def step (w : Verified σ η) : VerifiedAction α → Verified σ η
  | .act a => { w with base := act w.base a }
  | .verify incremental => { w with
      verifications := w.verifications ++ [⟨incremental, (rows w.base).length, .count⟩] }
  | .read i =>
    match w.verifications[i]? with
    | none => w
    | some v => { w with
        stored := v.stage.saves.or w.stored
        verifications := w.verifications.set i
          { v with stage := V.next v.incremental (rows w.base) w.stored v.stage } }

/-- Every verification keeps to what the rows are, and the checkpoint describes them. -/
structure Kept (w : Verified σ η) : Prop where
  log : V.Log (rows w.base)
  stored : ∀ c ∈ w.stored, ∃ before, V.Covers before (rows w.base) c
  verifications : ∀ v ∈ w.verifications, V.Sound (rows w.base) v.begun v.stage

variable {V rows act} {w : Verified σ η}

theorem Kept.step (h : Kept V rows w) (a : VerifiedAction α)
    (hlog : ∀ a, V.Log (rows (act w.base a)))
    (hgrows : ∀ a, rows w.base <+: rows (act w.base a)) : Kept V rows (w.step V rows act a) := by
  obtain ⟨hnow, hstored, hverifications⟩ := h
  cases a with
  | act a =>
    refine ⟨hlog a, fun c hc => ?_, fun v hv => (hverifications v hv).mono (hgrows a)⟩
    obtain ⟨before, hcovers⟩ := hstored c hc
    exact ⟨before, hcovers.mono (hgrows a)⟩
  | verify incremental =>
    refine ⟨hnow, hstored, fun v hv => ?_⟩
    rcases List.mem_append.mp hv with hv | hv
    · exact hverifications v hv
    · rw [List.mem_singleton.mp hv]
      exact Nat.le_refl _
  | read i =>
    cases hv : w.verifications[i]? with
    | none =>
      simp only [Verified.step, hv]
      exact ⟨hnow, hstored, hverifications⟩
    | some v =>
      simp only [Verified.step, hv]
      have hsound := hverifications v (List.mem_of_getElem? hv)
      refine ⟨hnow, fun c hc => ?_, fun u hu => ?_⟩
      · rcases Option.or_eq_some_iff.mp hc with hsaves | ⟨-, hc⟩
        · cases hstage : v.stage with
          | save saved verdict =>
            rw [hstage] at hsaves hsound
            obtain rfl := Option.some.inj hsaves
            exact hsound.1
          | _ =>
            rw [hstage] at hsaves
            cases hsaves
        · exact hstored c hc
      · rcases List.mem_or_eq_of_mem_set hu with hu | rfl
        · exact hverifications u hu
        · exact hsound.next hnow hstored v.incremental

end Steps

end Verified

end Governor.ChainScan
