import Mathlib.Tactic.Common

/-!
# Database transactions with exceptions

A transaction works on a copy of the tables. `commit` publishes the copy, an
exception leaves the session as it is, and the session's owner then rolls back to
the last committed tables. State outside the database, such as a sequence, is
never rolled back. The weakest-precondition rules execute a transaction
symbolically, one rule for each statement.
-/

namespace Governor

variable {σ τ ε α β : Type}

/-- What survives a transaction: the committed tables and the state outside them. -/
structure World (σ τ : Type) where
  /-- The committed tables. -/
  tables : σ
  /-- State that no rollback reaches. -/
  outside : τ

/-- An open session: the last committed tables and the transaction's own copy. -/
structure Session (σ τ : Type) where
  /-- The tables a rollback returns to. -/
  committed : σ
  /-- The tables as this transaction sees them. -/
  working : σ
  /-- State that no rollback reaches. -/
  outside : τ

/-- A transaction body; an exception keeps the session it was raised in. -/
def Tx (σ τ ε α : Type) : Type := Session σ τ → Except ε α × Session σ τ

namespace Tx

instance : Monad (Tx σ τ ε) where
  pure a := fun s => (.ok a, s)
  bind x f := fun s =>
    match x s with
    | (.ok a, s') => f a s'
    | (.error e, s') => (.error e, s')

/-- `raise`. -/
def raise (e : ε) : Tx σ τ ε α := fun s => (.error e, s)

/-- Read the transaction's own view of the tables. -/
def read : Tx σ τ ε σ := fun s => (.ok s.working, s)

/-- Execute one statement on the transaction's own view. -/
def write (f : σ → σ) : Tx σ τ ε Unit := fun s => (.ok (), { s with working := f s.working })

/-- `session.commit()`. -/
def commit : Tx σ τ ε Unit := fun s => (.ok (), { s with committed := s.working })

/-- Use the state outside the database. -/
def external (f : τ → α × τ) : Tx σ τ ε α :=
  fun s => (.ok (f s.outside).1, { s with outside := (f s.outside).2 })

/-- `try … except` that translates the exception and raises it again. -/
def rethrow (h : ε → ε) (x : Tx σ τ ε α) : Tx σ τ ε α := fun s =>
  match x s with
  | (.ok a, s') => (.ok a, s')
  | (.error e, s') => (.error (h e), s')

/-- Run a body on a fresh session and roll back whatever it did not commit. -/
def run (x : Tx σ τ ε α) (w : World σ τ) : Except ε α × World σ τ :=
  let r := x ⟨w.tables, w.tables, w.outside⟩
  (r.1, ⟨r.2.committed, r.2.outside⟩)

/-- `Q` holds of a returned value and `E` of a raised exception. -/
def wp (x : Tx σ τ ε α) (Q : α → Session σ τ → Prop) (E : ε → Session σ τ → Prop)
    (s : Session σ τ) : Prop :=
  match x s with
  | (.ok a, s') => Q a s'
  | (.error e, s') => E e s'

variable {Q : α → Session σ τ → Prop} {E : ε → Session σ τ → Prop} {s : Session σ τ}

@[simp] theorem wp_pure (a : α) : wp (pure a) Q E s ↔ Q a s := Iff.rfl

@[simp] theorem wp_raise (e : ε) : wp (raise e) Q E s ↔ E e s := Iff.rfl

@[simp] theorem wp_read {Q : σ → Session σ τ → Prop} : wp read Q E s ↔ Q s.working s := Iff.rfl

@[simp] theorem wp_write {Q : Unit → Session σ τ → Prop} (f : σ → σ) :
    wp (write f) Q E s ↔ Q () { s with working := f s.working } := Iff.rfl

@[simp] theorem wp_commit {Q : Unit → Session σ τ → Prop} :
    wp commit Q E s ↔ Q () { s with committed := s.working } := Iff.rfl

@[simp] theorem wp_external (f : τ → α × τ) :
    wp (external f) Q E s ↔ Q (f s.outside).1 { s with outside := (f s.outside).2 } := Iff.rfl

@[simp] theorem wp_bind {Q : β → Session σ τ → Prop} (x : Tx σ τ ε α) (f : α → Tx σ τ ε β) :
    wp (x >>= f) Q E = wp x (fun a => wp (f a) Q E) E := by
  funext s
  have hb : (x >>= f) s = match x s with
    | (.ok a, s') => f a s'
    | (.error e, s') => (.error e, s') := rfl
  unfold wp
  rw [hb]
  rcases x s with ⟨e | a, s'⟩ <;> rfl

@[simp] theorem wp_rethrow (h : ε → ε) (x : Tx σ τ ε α) :
    wp (rethrow h x) Q E = wp x Q fun e => E (h e) := by
  funext s
  unfold wp rethrow
  rcases x s with ⟨e | a, s'⟩ <;> rfl

@[simp] theorem wp_ite (c : Prop) [Decidable c] (x y : Tx σ τ ε α) :
    wp (if c then x else y) Q E s ↔ if c then wp x Q E s else wp y Q E s := by
  split <;> rfl

/-- A transaction that meets a stronger postcondition meets a weaker one. -/
theorem wp_mono {Q' : α → Session σ τ → Prop} {E' : ε → Session σ τ → Prop} {x : Tx σ τ ε α}
    (h : wp x Q E s) (hQ : ∀ a s', Q a s' → Q' a s') (hE : ∀ e s', E e s' → E' e s') :
    wp x Q' E' s := by
  unfold wp at h ⊢
  rcases hx : x s with ⟨e | a, s'⟩ <;> rw [hx] at h
  · exact hE _ _ h
  · exact hQ _ _ h

/-- A loop keeps whatever each of its bodies keeps, on both exits. -/
theorem wp_forM {γ : Type} {f : γ → Tx σ τ ε Unit} {I : Session σ τ → Prop} (l : List γ)
    (hI : I s) (hbody : ∀ x ∈ l, ∀ s, I s → wp (f x) (fun _ => I) E s) :
    wp (l.forM f) (fun _ => I) E s := by
  induction l generalizing s with
  | nil => exact hI
  | cons x xs ih =>
    change wp (f x >>= fun _ => xs.forM f) (fun _ => I) E s
    rw [wp_bind]
    refine wp_mono (hbody x List.mem_cons_self s hI) ?_ (fun _ _ h => h)
    intro _ s' hs'
    exact ih hs' fun y hy => hbody y (List.mem_cons_of_mem _ hy)

/-! ## Invariants of the session -/

/-- The body keeps an invariant of the session, whether it returns or raises. -/
def Keeps (J : Session σ τ → Prop) (x : Tx σ τ ε α) : Prop :=
  ∀ s, J s → wp x (fun _ => J) (fun _ => J) s

section Keeps

variable {J : Session σ τ → Prop} {x : Tx σ τ ε α}

theorem Keeps.pure (a : α) : Keeps J (Pure.pure a : Tx σ τ ε α) := fun _ h => h

theorem Keeps.raise (e : ε) : Keeps J (Tx.raise e : Tx σ τ ε α) := fun _ h => h

theorem Keeps.read : Keeps J (Tx.read : Tx σ τ ε σ) := fun _ h => h

theorem Keeps.bind {f : α → Tx σ τ ε β} (hx : Keeps J x) (hf : ∀ a, Keeps J (f a)) :
    Keeps J (x >>= f) := by
  intro s hs
  rw [wp_bind]
  exact wp_mono (hx s hs) (fun a s' hs' => hf a s' hs') (fun _ _ h => h)

/-- After a body that keeps the invariant, the rest starts from it. -/
theorem Keeps.wp_then {f : α → Tx σ τ ε β} {Q : β → Session σ τ → Prop} (hx : Keeps J x)
    (hs : J s) (hE : ∀ e s', J s' → E e s') (hf : ∀ a s', J s' → wp (f a) Q E s') :
    wp (x >>= f) Q E s := by
  rw [wp_bind]
  exact wp_mono (hx s hs) hf hE

theorem Keeps.ite (c : Prop) [Decidable c] {y : Tx σ τ ε α} (hx : Keeps J x) (hy : Keeps J y) :
    Keeps J (if c then x else y) := by
  split
  · exact hx
  · exact hy

theorem Keeps.rethrow (h : ε → ε) (hx : Keeps J x) : Keeps J (Tx.rethrow h x) := by
  intro s hs
  rw [wp_rethrow]
  exact hx s hs

theorem Keeps.forM {γ : Type} {f : γ → Tx σ τ ε Unit} (l : List γ) (hf : ∀ x, Keeps J (f x)) :
    Keeps J (l.forM f) :=
  fun _ hs => wp_forM l hs fun x _ s' hs' => hf x s' hs'

end Keeps

/-! ## The exceptions of a body -/

/-- Every exception that the body raises satisfies `P`. -/
def Raises (P : ε → Prop) (x : Tx σ τ ε α) : Prop :=
  ∀ s, wp x (fun _ _ => True) (fun e _ => P e) s

section Raises

variable {P : ε → Prop} {x : Tx σ τ ε α}

theorem Raises.pure (a : α) : Raises P (Pure.pure a : Tx σ τ ε α) := fun _ => trivial

theorem Raises.raise {e : ε} (he : P e) : Raises P (Tx.raise e : Tx σ τ ε α) := fun _ => he

theorem Raises.read : Raises P (Tx.read : Tx σ τ ε σ) := fun _ => trivial

theorem Raises.write (f : σ → σ) : Raises P (Tx.write f : Tx σ τ ε Unit) := fun _ => trivial

theorem Raises.external (f : τ → α × τ) : Raises P (Tx.external f : Tx σ τ ε α) :=
  fun _ => trivial

theorem Raises.bind {f : α → Tx σ τ ε β} (hx : Raises P x) (hf : ∀ a, Raises P (f a)) :
    Raises P (x >>= f) := by
  intro s
  rw [wp_bind]
  exact wp_mono (hx s) (fun a s' _ => hf a s') (fun _ _ h => h)

theorem Raises.ite (c : Prop) [Decidable c] {y : Tx σ τ ε α} (hx : Raises P x)
    (hy : Raises P y) : Raises P (if c then x else y) := by
  split
  · exact hx
  · exact hy

/-- Translating the exceptions that the body raises. -/
theorem Raises.rethrow {P' : ε → Prop} {h : ε → ε} (hx : Raises P' x)
    (hP : ∀ e, P' e → P (h e)) : Raises P (Tx.rethrow h x) := by
  intro s
  rw [wp_rethrow]
  exact wp_mono (hx s) (fun _ _ h => h) (fun e _ he => hP e he)

theorem Raises.forM {γ : Type} {f : γ → Tx σ τ ε Unit} (l : List γ) (hf : ∀ x, Raises P (f x)) :
    Raises P (l.forM f) := by
  intro s
  exact wp_forM (I := fun _ => True) l trivial fun x _ s' _ => hf x s'

/-- After a body that keeps an invariant and raises only some exceptions. -/
theorem Raises.wp_then {J : Session σ τ → Prop} {f : α → Tx σ τ ε β}
    {Q : β → Session σ τ → Prop} (hr : Raises P x) (hx : Keeps J x) (hs : J s)
    (hE : ∀ e s', P e → J s' → E e s') (hf : ∀ a s', J s' → wp (f a) Q E s') :
    wp (x >>= f) Q E s := by
  rw [wp_bind]
  have hkeeps := hx s hs
  have hraises := hr s
  unfold wp at hkeeps hraises ⊢
  rcases hxs : x s with ⟨e | a, s'⟩ <;> rw [hxs] at hkeeps hraises
  · exact hE e s' hraises hkeeps
  · exact hf a s' hkeeps

end Raises

/-- What holds of a body on both exits holds of the world it leaves behind. -/
theorem run_of_wp {x : Tx σ τ ε α} {w : World σ τ} {R : Except ε α → World σ τ → Prop}
    (h : wp x (fun a s => R (.ok a) ⟨s.committed, s.outside⟩)
      (fun e s => R (.error e) ⟨s.committed, s.outside⟩) ⟨w.tables, w.tables, w.outside⟩) :
    R (x.run w).1 (x.run w).2 := by
  unfold wp at h
  unfold run
  rcases hx : x ⟨w.tables, w.tables, w.outside⟩ with ⟨e | a, s'⟩ <;> rw [hx] at h <;> exact h

end Tx

end Governor
