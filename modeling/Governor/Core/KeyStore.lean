import Mathlib
import Governor.Core.Run

/-!
# Key stores with expiry

A store that several processes share holds numbers and sets under keys, and each key can expire.
A command is executed at once, but a routine issues several commands, and those of concurrent
routines interleave. The reply to a command can get lost after its execution or before it.
-/

namespace Governor.KeyStore

/-! ## Commands -/

/-- What a key holds. -/
inductive Value (μ : Type) where
  | int (n : Int)
  | members (ms : List μ)
  deriving DecidableEq, Repr

/-- What a key holds, and the time from which on it is gone. -/
structure Entry (μ τ : Type) where
  value : Value μ
  expiresAt : Option τ
  deriving DecidableEq, Repr

abbrev Store (κ μ τ : Type) := κ → Option (Entry μ τ)

/-- A command on the store. -/
inductive Command (κ μ τ : Type) where
  | exists (key : κ)
  | incr (key : κ)
  | decr (key : κ)
  | expire (key : κ) (period : τ)
  | set (key : κ) (n : Int) (period : τ)
  | delete (keys : List κ)
  | sadd (key : κ) (member : μ)
  | scard (key : κ)

/-- The keys that a command may change. -/
def Command.writes {κ μ τ : Type} : Command κ μ τ → List κ
  | .exists _ | .scard _ => []
  | .incr key | .decr key | .expire key _ | .set key _ _ | .sadd key _ => [key]
  | .delete keys => keys

section Execution

variable {κ μ τ : Type} [DecidableEq κ] [LinearOrder τ]

/-- A key without an expiry time does not expire. -/
def Entry.live (now : τ) (e : Entry μ τ) : Bool := e.expiresAt.all fun t => now < t

/-- What a key holds now. -/
def Store.get (s : Store κ μ τ) (now : τ) (key : κ) : Option (Entry μ τ) :=
  (s key).filter (Entry.live now)

/-- `INCRBY`: a number keeps its expiry, a missing key starts at zero without one. -/
def Store.add (s : Store κ μ τ) (now : τ) (key : κ) (d : Int) : Option Int × Store κ μ τ :=
  match s.get now key with
  | none => (some d, Function.update s key (some ⟨.int d, none⟩))
  | some ⟨.int n, expiresAt⟩ =>
    (some (n + d), Function.update s key (some ⟨.int (n + d), expiresAt⟩))
  | some ⟨.members _, _⟩ => (none, s)

/-- The reply to a command and the store after it; `none` for a key of the other kind and for a
period that is not positive. -/
def exec [DecidableEq μ] [Zero τ] [Add τ] (now : τ) (s : Store κ μ τ) :
    Command κ μ τ → Option Int × Store κ μ τ
  | .exists key => (some (if (s.get now key).isSome then 1 else 0), s)
  | .incr key => s.add now key 1
  | .decr key => s.add now key (-1)
  | .expire key period =>
    match s.get now key with
    | none => (some 0, s)
    | some e =>
      if period ≤ 0 then (some 1, Function.update s key none)
      else (some 1, Function.update s key (some { e with expiresAt := some (now + period) }))
  | .set key n period =>
    if period ≤ 0 then (none, s)
    else (some 1, Function.update s key (some ⟨.int n, some (now + period)⟩))
  | .delete keys =>
    (some ((keys.dedup.filter fun key => (s.get now key).isSome).length),
      fun key => if key ∈ keys then none else s key)
  | .sadd key member =>
    match s.get now key with
    | none => (some 1, Function.update s key (some ⟨.members [member], none⟩))
    | some ⟨.members ms, expiresAt⟩ =>
      if member ∈ ms then (some 0, s)
      else (some 1, Function.update s key (some ⟨.members (ms ++ [member]), expiresAt⟩))
    | some ⟨.int _, _⟩ => (none, s)
  | .scard key =>
    match s.get now key with
    | none => (some 0, s)
    | some ⟨.members ms, _⟩ => (some ms.length, s)
    | some ⟨.int _, _⟩ => (none, s)

variable {now : τ} {s : Store κ μ τ} {key other : κ} {n : Int}

theorem Store.add_other (h : other ≠ key) (d : Int) : (s.add now key d).2 other = s other := by
  unfold Store.add
  split
  · exact Function.update_of_ne h _ _
  · exact Function.update_of_ne h _ _
  · rfl

/-- A command leaves the keys that it does not write. -/
theorem exec_other [DecidableEq μ] [Zero τ] [Add τ] {c : Command κ μ τ} (h : other ∉ c.writes) :
    (exec now s c).2 other = s other := by
  cases c with
  | «exists» key => rfl
  | incr key | decr key => exact Store.add_other (by simpa [Command.writes] using h) _
  | expire key period =>
    have hne : other ≠ key := by simpa [Command.writes] using h
    simp only [exec]
    split
    · rfl
    · split_ifs
      · exact Function.update_of_ne hne _ _
      · exact Function.update_of_ne hne _ _
  | set key n period =>
    have hne : other ≠ key := by simpa [Command.writes] using h
    simp only [exec]
    split_ifs
    · rfl
    · exact Function.update_of_ne hne _ _
  | delete keys => exact if_neg h
  | sadd key member =>
    have hne : other ≠ key := by simpa [Command.writes] using h
    simp only [exec]
    split
    · exact Function.update_of_ne hne _ _
    · split_ifs
      · rfl
      · exact Function.update_of_ne hne _ _
    · rfl
  | scard key =>
    simp only [exec]
    split <;> rfl

end Execution

/-! ## Counters -/

section Counters

variable {κ μ τ : Type}

/-- The key holds a number, expired or not; zero stands for a missing key as well. -/
def Store.Number (s : Store κ μ τ) (key : κ) (n : Int) : Prop :=
  (n = 0 ∧ s key = none) ∨ ∃ expiresAt, s key = some ⟨.int n, expiresAt⟩

/-- The key does not expire before the deadline. -/
def Store.Lasts [LE τ] (s : Store κ μ τ) (key : κ) (deadline : τ) : Prop :=
  ∀ e ∈ s key, ∀ t ∈ e.expiresAt, deadline ≤ t

theorem Store.Number.of_eq {s s' : Store κ μ τ} {key : κ} {n : Int} (h : s.Number key n)
    (heq : s' key = s key) : s'.Number key n := by
  unfold Store.Number
  rwa [heq]

theorem Store.Lasts.of_eq [LE τ] {s s' : Store κ μ τ} {key : κ} {deadline : τ}
    (h : s.Lasts key deadline) (heq : s' key = s key) : s'.Lasts key deadline := by
  unfold Store.Lasts
  rwa [heq]

variable [LinearOrder τ] {now deadline : τ} {s : Store κ μ τ} {key : κ} {n : Int}

/-- A key is read before its deadline. -/
theorem Store.Lasts.get (h : s.Lasts key deadline) (hnow : now < deadline) :
    s.get now key = s key := by
  unfold Store.get
  cases hs : s key with
  | none => rfl
  | some e =>
    refine Option.filter_some_pos ?_
    unfold Entry.live
    rw [Option.all_eq_true]
    exact fun t ht => decide_eq_true (hnow.trans_le (h e hs t ht))

variable [DecidableEq κ]

/-- A number that has not expired replies with its next value. -/
theorem Store.Number.add (h : s.Number key n) (hlive : s.get now key = s key) (d : Int) :
    (s.add now key d).1 = some (n + d) ∧ (s.add now key d).2.Number key (n + d) := by
  unfold Store.add
  rw [hlive]
  rcases h with ⟨rfl, hs⟩ | ⟨expiresAt, hs⟩
  · rw [hs]
    exact ⟨by simp, Or.inr ⟨none, by simp⟩⟩
  · rw [hs]
    exact ⟨rfl, Or.inr ⟨expiresAt, by simp⟩⟩

/-- A number that has expired starts again. -/
theorem Store.add_gone (hgone : s.get now key = none) (d : Int) :
    (s.add now key d).1 = some d ∧ (s.add now key d).2.Number key d := by
  unfold Store.add
  rw [hgone]
  exact ⟨rfl, Or.inr ⟨none, by simp⟩⟩

theorem Store.Lasts.add (h : s.Lasts key deadline) (hnow : now < deadline) (d : Int) :
    (s.add now key d).2.Lasts key deadline := by
  unfold Store.add
  rw [h.get hnow]
  split
  · intro e he t ht
    obtain rfl : (⟨.int d, none⟩ : Entry μ τ) = e := by simpa using he
    cases ht
  · next m expiresAt hs =>
    intro e he t ht
    obtain rfl : (⟨.int (m + d), expiresAt⟩ : Entry μ τ) = e := by simpa using he
    exact h _ hs t ht
  · exact h

variable [DecidableEq μ] [Zero τ] [Add τ] {period : τ}

theorem Store.Number.expire (h : s.Number key n) (hlive : s.get now key = s key)
    (hperiod : 0 < period) : (exec now s (.expire key period)).2.Number key n := by
  simp only [exec, hlive, if_neg (not_le.mpr hperiod)]
  rcases h with ⟨rfl, hs⟩ | ⟨expiresAt, hs⟩
  · rw [hs]
    exact Or.inl ⟨rfl, hs⟩
  · rw [hs]
    exact Or.inr ⟨some (now + period), by simp⟩

theorem Store.Lasts.expire (h : s.Lasts key deadline) (hperiod : 0 < period)
    (hlater : deadline ≤ now + period) :
    (exec now s (.expire key period)).2.Lasts key deadline := by
  simp only [exec, if_neg (not_le.mpr hperiod)]
  split
  · exact h
  · next e₀ _ =>
    intro e he t ht
    obtain rfl : ({ e₀ with expiresAt := some (now + period) } : Entry μ τ) = e := by
      simpa using he
    exact hlater.trans (Option.some.inj ht).le

end Counters

/-! ## Sets -/

section Sets

variable {κ μ τ : Type}

/-- The key holds a set, expired or not; the empty set stands for a missing key as well. -/
def Store.Members (s : Store κ μ τ) (key : κ) (ms : List μ) : Prop :=
  (ms = [] ∧ s key = none) ∨ ∃ expiresAt, s key = some ⟨.members ms, expiresAt⟩

theorem Store.Members.of_eq {s s' : Store κ μ τ} {key : κ} {ms : List μ} (h : s.Members key ms)
    (heq : s' key = s key) : s'.Members key ms := by
  unfold Store.Members
  rwa [heq]

variable [LinearOrder τ] [DecidableEq κ] [DecidableEq μ] [Zero τ] [Add τ] {now period : τ}
  {s : Store κ μ τ} {key : κ} {ms : List μ}

/-- A set that has not expired takes the member in once. -/
theorem Store.Members.sadd (h : s.Members key ms) (hlive : s.get now key = s key) (m : μ) :
    ∃ ms', (exec now s (.sadd key m)).2.Members key ms' ∧ (ms.Nodup → ms'.Nodup) ∧
      ms'.toFinset = insert m ms.toFinset := by
  simp only [exec, hlive]
  rcases h with ⟨rfl, hs⟩ | ⟨expiresAt, hs⟩
  · rw [hs]
    exact ⟨[m], Or.inr ⟨none, by simp⟩, fun _ => List.nodup_singleton m, rfl⟩
  · rw [hs]
    by_cases hmem : m ∈ ms
    · simp only [if_pos hmem]
      exact ⟨ms, Or.inr ⟨expiresAt, hs⟩, id, by simp [hmem]⟩
    · simp only [if_neg hmem]
      refine ⟨ms ++ [m], Or.inr ⟨expiresAt, by simp⟩, fun hnodup => ?_, ?_⟩
      · exact hnodup.append (List.nodup_singleton m) (List.disjoint_singleton.mpr hmem)
      · ext x
        simp

/-- A set that has not expired tells its size. -/
theorem Store.Members.scard (h : s.Members key ms) (hlive : s.get now key = s key) :
    exec now s (.scard key) = (some (ms.length : Int), s) := by
  simp only [exec, hlive]
  rcases h with ⟨rfl, hs⟩ | ⟨expiresAt, hs⟩
  · rw [hs]
    rfl
  · rw [hs]

theorem Store.Members.expire (h : s.Members key ms) (hlive : s.get now key = s key)
    (hperiod : 0 < period) : (exec now s (.expire key period)).2.Members key ms := by
  simp only [exec, hlive, if_neg (not_le.mpr hperiod)]
  rcases h with ⟨rfl, hs⟩ | ⟨expiresAt, hs⟩
  · rw [hs]
    exact Or.inl ⟨rfl, hs⟩
  · rw [hs]
    exact Or.inr ⟨some (now + period), by simp⟩

end Sets

/-! ## Concurrent routines -/

/-- What becomes of a command: its reply arrives, or gets lost after or before its execution. -/
inductive Fate where
  | answered | lost | unsent
  deriving DecidableEq, Repr

/-- The code of a routine: at each stage the next command, unless it has ended, and the stage
after a reply; `none` stands for an exception. -/
structure Routine (κ μ τ ρ : Type) where
  next : ρ → Option (Command κ μ τ)
  resume : ρ → Option Int → ρ

/-- A store and the routines that run on it. -/
structure Shared (κ μ τ ρ : Type) where
  store : Store κ μ τ
  running : List ρ

section Concurrency

variable {κ μ τ ρ : Type} [DecidableEq κ] [DecidableEq μ] [LinearOrder τ] [Zero τ] [Add τ]

/-- One of the routines issues its next command. -/
def Routine.issue (code : Routine κ μ τ ρ) (now : τ) (i : Nat) (fate : Fate)
    (w : Shared κ μ τ ρ) : Shared κ μ τ ρ :=
  match w.running[i]? with
  | none => w
  | some r =>
    match code.next r with
    | none => w
    | some c =>
      let e := exec now w.store c
      match fate with
      | .answered => ⟨e.2, w.running.set i (code.resume r e.1)⟩
      | .lost => ⟨e.2, w.running.set i (code.resume r none)⟩
      | .unsent => ⟨w.store, w.running.set i (code.resume r none)⟩

/-- What issuing a command does. -/
inductive Routine.Issued (code : Routine κ μ τ ρ) (now : τ) (i : Nat) (fate : Fate)
    (w : Shared κ μ τ ρ) : Shared κ μ τ ρ → Prop
  | idle : Issued code now i fate w w
  | executed {r : ρ} {c : Command κ μ τ} {reply : Option Int} (hr : w.running[i]? = some r)
      (hc : code.next r = some c) (hreply : reply = (exec now w.store c).1 ∨ reply = none)
      (hfate : fate = .answered → reply = (exec now w.store c).1) :
      Issued code now i fate w ⟨(exec now w.store c).2, w.running.set i (code.resume r reply)⟩
  | unsent {r : ρ} {c : Command κ μ τ} (hr : w.running[i]? = some r)
      (hc : code.next r = some c) (hfate : fate ≠ .answered) :
      Issued code now i fate w ⟨w.store, w.running.set i (code.resume r none)⟩

theorem Routine.issued (code : Routine κ μ τ ρ) (now : τ) (i : Nat) (fate : Fate)
    (w : Shared κ μ τ ρ) : code.Issued now i fate w (code.issue now i fate w) := by
  unfold Routine.issue
  split
  · exact .idle
  · next r hr =>
    split
    · exact .idle
    · next c hc =>
      cases fate with
      | answered => exact .executed hr hc (Or.inl rfl) fun _ => rfl
      | lost => exact .executed hr hc (Or.inr rfl) nofun
      | unsent => exact .unsent hr hc nofun

end Concurrency

end Governor.KeyStore
