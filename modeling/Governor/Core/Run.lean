import Mathlib.Tactic.Common
import Mathlib.Data.List.Perm.Basic

/-!
# Runs of a step function

A run folds a step function over a list of actions. `Throughout` says that a property
holds in every state of a run, `Along` that every step of the run meets a condition on
the state before it. The rules below carry an invariant along a run and say when a
property that single steps may break holds throughout.
-/

namespace Governor

variable {σ α : Type} (step : σ → α → σ)

/-- The property holds in every state of the run, the first and the last included. -/
def Throughout (P : σ → Prop) : σ → List α → Prop
  | s, [] => P s
  | s, a :: as => P s ∧ Throughout P (step s a) as

/-- Every step of the run meets the condition, read in the state before the step. -/
def Along (C : σ → α → Prop) : σ → List α → Prop
  | _, [] => True
  | s, a :: as => C s a ∧ Along C (step s a) as

instance instDecidableAlong {C : σ → α → Prop} [∀ s a, Decidable (C s a)] :
    ∀ s as, Decidable (Along step C s as)
  | _, [] => .isTrue trivial
  | s, a :: as => @instDecidableAnd _ _ (inferInstanceAs (Decidable (C s a)))
      (instDecidableAlong (step s a) as)

/-- What the steps of the run put out, in order. -/
def outputs {β : Type} (f : σ → α → List β) : σ → List α → List β
  | _, [] => []
  | s, a :: as => f s a ++ outputs f (step s a) as

variable {step} {P I : σ → Prop} {C : σ → α → Prop} {s : σ} {as : List α}

/-- What holds throughout holds at the start. -/
theorem Throughout.head (h : Throughout step P s as) : P s := by
  cases as with
  | nil => exact h
  | cons a as => exact h.1

/-- What holds at the start and is kept by every step holds at the end. -/
theorem foldl_invariant (hI : I s) (hkeeps : ∀ s a, I s → I (step s a)) (as : List α) :
    I (as.foldl step s) := by
  induction as generalizing s with
  | nil => exact hI
  | cons a as ih => exact ih (hkeeps s a hI)

/-- What every step keeps holds throughout. -/
theorem throughout_of_kept (hI : I s) (hkeeps : ∀ s a, I s → I (step s a)) (as : List α) :
    Throughout step I s as := by
  induction as generalizing s with
  | nil => exact hI
  | cons a as ih => exact ⟨hI, ih (hkeeps s a hI)⟩

/-- What every step that meets the condition keeps holds throughout. -/
theorem throughout_of_along (hI : I s) (hkeeps : ∀ s a, C s a → I s → I (step s a))
    (h : Along step C s as) : Throughout step I s as := by
  induction as generalizing s with
  | nil => exact hI
  | cons a as ih => exact ⟨hI, ih (hkeeps s a h.1 hI) h.2⟩

/-- Where an invariant decides which steps keep the property, it holds throughout exactly
when every step is one of those. -/
theorem throughout_iff_along (hI : I s) (hP : P s) (hkeeps : ∀ s a, I s → I (step s a))
    (hstep : ∀ s a, I s → P s → (P (step s a) ↔ C s a)) :
    Throughout step P s as ↔ Along step C s as := by
  induction as generalizing s with
  | nil => exact ⟨fun _ => trivial, fun _ => hP⟩
  | cons a as ih =>
    constructor
    · intro h
      have hnext : P (step s a) := h.2.head
      exact ⟨(hstep s a hI hP).mp hnext, (ih (hkeeps s a hI) hnext).mp h.2⟩
    · intro h
      have hnext : P (step s a) := (hstep s a hI hP).mpr h.1
      exact ⟨hP, (ih (hkeeps s a hI) hnext).mpr h.2⟩

/-- Where an invariant that only the good steps keep decides which steps are good, the property
holds throughout exactly along the good steps. -/
theorem throughout_iff_along_of_kept (hI : I s) (hP : ∀ s, I s → P s)
    (hstep : ∀ s a, I s → (P (step s a) ↔ C s a)) (hkeeps : ∀ s a, I s → C s a → I (step s a)) :
    Throughout step P s as ↔ Along step C s as := by
  induction as generalizing s with
  | nil => exact ⟨fun _ => trivial, fun _ => hP s hI⟩
  | cons a as ih =>
    constructor
    · intro h
      have hnext : P (step s a) := h.2.head
      have hgood := (hstep s a hI).mp hnext
      exact ⟨hgood, (ih (hkeeps s a hI hgood)).mp h.2⟩
    · intro h
      exact ⟨hP s hI, (ih (hkeeps s a hI h.1)).mpr h.2⟩

/-- Where a step can break the property for good, it holds at the end exactly when no step
breaks it. -/
theorem last_iff_along (hI : I s) (hkeeps : ∀ s a, I s → I (step s a))
    (hstep : ∀ s a, I s → (P (step s a) ↔ P s ∧ C s a)) :
    P (as.foldl step s) ↔ P s ∧ Along step C s as := by
  induction as generalizing s with
  | nil => simp [Along]
  | cons a as ih =>
    rw [List.foldl_cons, ih (hkeeps s a hI), hstep s a hI, Along, and_assoc]

/-- What no step can restore holds throughout, with the invariant, when it holds at the end. -/
theorem throughout_of_last (hI : I s) (hkeeps : ∀ s a, I s → I (step s a))
    (hback : ∀ s a, I s → P (step s a) → P s) (h : P (as.foldl step s)) :
    Throughout step (fun s => I s ∧ P s) s as := by
  induction as generalizing s with
  | nil => exact ⟨hI, h⟩
  | cons a as ih =>
    have hrest := ih (hkeeps s a hI) h
    have hnext : P (step s a) := hrest.head.2
    exact ⟨⟨hI, hback s a hI hnext⟩, hrest⟩

/-- Two conditions that an invariant of the run makes equivalent are met along the same runs. -/
theorem along_congr {C' : σ → α → Prop} (h : Throughout step I s as)
    (hcongr : ∀ s a, I s → (C s a ↔ C' s a)) : Along step C s as ↔ Along step C' s as := by
  induction as generalizing s with
  | nil => exact Iff.rfl
  | cons a as ih => exact and_congr (hcongr s a h.1) (ih h.2)

theorem along_append {bs : List α} :
    Along step C s (as ++ bs) ↔ Along step C s as ∧ Along step C (as.foldl step s) bs := by
  induction as generalizing s with
  | nil => exact ⟨fun h => ⟨trivial, h⟩, fun h => h.2⟩
  | cons a as ih =>
    rw [List.cons_append, Along, Along, List.foldl_cons, ih, and_assoc]

theorem along_and {C' : σ → α → Prop} :
    Along step (fun s a => C s a ∧ C' s a) s as ↔ Along step C s as ∧ Along step C' s as := by
  induction as generalizing s with
  | nil => exact ⟨fun _ => ⟨trivial, trivial⟩, fun _ => trivial⟩
  | cons a as ih => rw [Along, Along, Along, ih, and_and_and_comm]

theorem Along.imp {C' : σ → α → Prop} (hI : Throughout step I s as)
    (himp : ∀ s a, I s → C s a → C' s a) (h : Along step C s as) : Along step C' s as := by
  induction as generalizing s with
  | nil => trivial
  | cons a as ih => exact ⟨himp s a hI.1 h.1, ih hI.2 h.2⟩

theorem Throughout.imp (hPI : ∀ s, I s → P s) (h : Throughout step I s as) :
    Throughout step P s as := by
  induction as generalizing s with
  | nil => exact hPI s h
  | cons a as ih => exact ⟨hPI s h.1, ih h.2⟩

/-- What a state says about the step that led to it holds along the run. -/
theorem Throughout.along (h : Throughout step P s as)
    (himp : ∀ s, ∀ a ∈ as, P (step s a) → C s a) : Along step C s as := by
  induction as generalizing s with
  | nil => trivial
  | cons a as ih =>
    exact ⟨himp s a List.mem_cons_self h.2.head,
      ih h.2 fun s b hb => himp s b (List.mem_cons_of_mem a hb)⟩

theorem Throughout.last (h : Throughout step P s as) : P (as.foldl step s) := by
  induction as generalizing s with
  | nil => exact h
  | cons a as ih => exact ih h.2

/-! ## Outputs of a run -/

section Outputs

variable {β γ : Type} {f : σ → α → List β} {b : β}

/-- An output is one of some step whose condition was met. -/
theorem Along.of_mem_outputs {Q : β → Prop} (hI : I s) (hkeeps : ∀ s a, I s → I (step s a))
    (h : Along step C s as) (hQ : ∀ s a, I s → C s a → ∀ b ∈ f s a, Q b)
    (hb : b ∈ outputs step f s as) : Q b := by
  induction as generalizing s with
  | nil => cases hb
  | cons a as ih =>
    rcases List.mem_append.mp hb with hb | hb
    · exact hQ s a hI h.1 b hb
    · exact ih (hkeeps s a hI) h.2 hb

/-- Outputs are ordered as the actions that put them out. -/
theorem pairwise_outputs {R : α → α → Prop} {S : β → β → Prop} (has : as.Pairwise R)
    (hone : ∀ s a, (f s a).Pairwise S)
    (htwo : ∀ s s' a a', R a a' → ∀ b ∈ f s a, ∀ b' ∈ f s' a', S b b') :
    (outputs step f s as).Pairwise S := by
  have hlater : ∀ {s s' a as}, (∀ a' ∈ as, R a a') → ∀ b ∈ f s a,
      ∀ b' ∈ outputs step f s' as, S b b' := by
    intro s s' a as hR b hb b' hb'
    induction as generalizing s' with
    | nil => cases hb'
    | cons a' as ih =>
      rcases List.mem_append.mp hb' with hb' | hb'
      · exact htwo s s' a a' (hR a' List.mem_cons_self) b hb b' hb'
      · exact ih (fun x hx => hR x (List.mem_cons_of_mem _ hx)) hb'
  induction as generalizing s with
  | nil => exact .nil
  | cons a as ih =>
    obtain ⟨hR, hrest⟩ := List.pairwise_cons.mp has
    exact List.pairwise_append.mpr ⟨hone s a, ih hrest, fun b hb => hlater hR b hb⟩

/-- A component that every step moves by what the step puts out is moved by the outputs of the
run. -/
theorem foldl_outputs {g : σ → γ} {h : γ → β → γ} (hI : I s)
    (hkeeps : ∀ s a, I s → I (step s a))
    (hstep : ∀ s a, I s → g (step s a) = (f s a).foldl h (g s)) :
    g (as.foldl step s) = (outputs step f s as).foldl h (g s) := by
  induction as generalizing s with
  | nil => rfl
  | cons a as ih =>
    rw [List.foldl_cons, ih (hkeeps s a hI), outputs, List.foldl_append, hstep s a hI]

end Outputs

/-! ## Processes in progress -/

section Processes

variable {ρ : Type} {l : List ρ} {i : Nat} {a : ρ} (p : ρ → Bool)

/-- A process that ends is counted no more. -/
theorem countP_ended (h : l[i]? = some a) :
    l.countP p = (l.eraseIdx i).countP p + if p a then 1 else 0 := by
  obtain ⟨hi, rfl⟩ := List.getElem?_eq_some_iff.mp h
  rw [← (List.getElem_cons_eraseIdx_perm hi).countP_eq p, List.countP_cons]

/-- A process that moves on is counted as what it becomes. -/
theorem countP_moved (h : l[i]? = some a) (b : ρ) :
    (l.set i b).countP p + (if p a then 1 else 0) = l.countP p + if p b then 1 else 0 := by
  obtain ⟨hi, -⟩ := List.getElem?_eq_some_iff.mp h
  rw [(List.set_perm_cons_eraseIdx hi b).countP_eq p, List.countP_cons, countP_ended p h]
  omega

end Processes

end Governor
