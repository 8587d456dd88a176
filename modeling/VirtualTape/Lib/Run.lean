import Mathlib.Algebra.Ring.Nat

/-!
# Runs of a labelled step relation

A finite run lists the labels of its steps, oldest first. An execution goes on for ever and may rest
between steps. An invariant is shown for one step and then holds along every run; something happens
eventually if a rank falls as long as it has not happened.
-/

namespace VirtualTape

variable {σ ε : Type} {step step' : σ → ε → σ → Prop} {s t u : σ} {es : List ε} {e : ε}

/-- Finitely many steps from one state to another, with their labels. -/
inductive Run (step : σ → ε → σ → Prop) (s : σ) : List ε → σ → Prop
  /-- No step. -/
  | nil : Run step s [] s
  /-- One step more. -/
  | snoc {es : List ε} {t : σ} {e : ε} {u : σ} (before : Run step s es t) (last : step t e u) :
      Run step s (es ++ [e]) u

namespace Run

/-- What every step keeps holds at the end of a run that starts with it. -/
theorem invariant {Inv : σ → Prop} (run : Run step s es t) (start : Inv s)
    (keep : ∀ {a e b}, Inv a → step a e b → Inv b) : Inv t := by
  induction run with
  | nil => exact start
  | snoc _ last ih => exact keep ih last

/-- An invariant that also speaks about the labels so far. -/
theorem history {Inv : List ε → σ → Prop} (run : Run step s es t) (start : Inv [] s)
    (keep : ∀ {past a e b}, Inv past a → step a e b → Inv (past ++ [e]) b) : Inv es t := by
  induction run with
  | nil => exact start
  | snoc _ last ih => exact keep ih last

/-- A run of one step relation is a run of every larger one. -/
theorem mono (run : Run step s es t) (imp : ∀ {a e b}, step a e b → step' a e b) :
    Run step' s es t := by
  induction run with
  | nil => exact .nil
  | snoc _ last ih => exact .snoc ih (imp last)

/-- A step before a run. -/
theorem cons (first : step s e t) (run : Run step t es u) : Run step s (e :: es) u := by
  induction run with
  | nil => exact .snoc .nil first
  | snoc _ last ih => exact .snoc ih last

end Run

/-- A run without end: at each time either a step with its label, or nothing. -/
structure Execution (step : σ → ε → σ → Prop) where
  /-- The state at each time. -/
  state : ℕ → σ
  /-- The label of the step taken at each time, if one is taken. -/
  event : ℕ → Option ε
  /-- Without a step nothing changes. -/
  rests : ∀ n, event n = none → state (n + 1) = state n
  /-- A label stands for a step. -/
  moves : ∀ n e, event n = some e → step (state n) e (state (n + 1))

namespace Execution

/-- What every step keeps holds at all times if it holds at the start. -/
theorem invariant {Inv : σ → Prop} (x : Execution step) (start : Inv (x.state 0))
    (keep : ∀ {a e b}, Inv a → step a e b → Inv b) (n : ℕ) : Inv (x.state n) := by
  induction n with
  | zero => exact start
  | succ n ih =>
    cases here : x.event n with
    | none => rwa [x.rests n here]
    | some e => exact keep ih (x.moves n e here)

/-- What every step keeps holds at all later times. -/
theorem invariant_from (x : Execution step) (Inv : σ → Prop) {m n : ℕ} (start : Inv (x.state m))
    (keep : ∀ k e, m ≤ k → x.event k = some e → Inv (x.state k) → Inv (x.state (k + 1)))
    (later : m ≤ n) : Inv (x.state n) := by
  induction n, later using Nat.le_induction with
  | base => exact start
  | succ k later ih =>
    cases here : x.event k with
    | none => rwa [x.rests k here]
    | some e => exact keep k e later here ih

/-- The labels of the steps before a time. -/
def labels (x : Execution step) : ℕ → List ε
  | 0 => []
  | n + 1 => x.labels n ++ (x.event n).toList

/-- What happens before a time is a run. -/
theorem run (x : Execution step) (n : ℕ) : Run step (x.state 0) (x.labels n) (x.state n) := by
  induction n with
  | zero => exact .nil
  | succ n ih =>
    cases here : x.event n with
    | none => simpa [labels, here, x.rests n here] using ih
    | some e => simpa [labels, here] using Run.snoc ih (x.moves n e here)

end Execution

/-- If, as long as something has not happened, a rank gets smaller some time, then it happens. -/
theorem eventually_of_rank {P : ℕ → Prop} (rank : ℕ → ℕ)
    (falls : ∀ n, ¬ P n → ∃ m, n ≤ m ∧ (P m ∨ rank m < rank n)) (n : ℕ) : ∃ m, n ≤ m ∧ P m := by
  induction bound : rank n using Nat.strong_induction_on generalizing n with
  | _ r ih =>
    by_cases now : P n
    · exact ⟨n, Nat.le_refl n, now⟩
    · obtain ⟨m, later, done | less⟩ := falls n now
      · exact ⟨m, later, done⟩
      · obtain ⟨k, after, done⟩ := ih (rank m) (bound ▸ less) m rfl
        exact ⟨k, Nat.le_trans later after, done⟩

end VirtualTape
