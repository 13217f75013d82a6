import Mathlib.Data.List.Basic

/-!
# Runs of a step function

A system takes one step for each event. A property of its states holds throughout a run when it
holds of every state of the run; a condition on the steps is met when it holds before each of them.

* `throughout_iff`: a property that one step keeps exactly when the step meets a condition.
-/

namespace DataChat.Runs

variable {σ ε : Type}

def run (step : σ → ε → σ) : σ → List ε → σ := List.foldl step

/-- The property holds of every state of the run. -/
def Throughout (step : σ → ε → σ) (P : σ → Prop) : σ → List ε → Prop
  | s, [] => P s
  | s, e :: es => P s ∧ Throughout step P (step s e) es

/-- Every step of the run meets the condition. -/
def Met (step : σ → ε → σ) (C : σ → ε → Prop) : σ → List ε → Prop
  | _, [] => True
  | s, e :: es => C s e ∧ Met step C (step s e) es

variable {step : σ → ε → σ} {P I : σ → Prop} {C : σ → ε → Prop}

/-- What holds throughout a run holds at its end. -/
theorem Throughout.last {s : σ} {es : List ε} (h : Throughout step P s es) :
    P (run step s es) := by
  induction es generalizing s with
  | nil => exact h
  | cons e es ih => exact ih h.2

theorem Throughout.imp {Q : σ → Prop} (himp : ∀ s, P s → Q s) {s : σ} {es : List ε}
    (h : Throughout step P s es) : Throughout step Q s es := by
  induction es generalizing s with
  | nil => exact himp s h
  | cons e es ih => exact ⟨himp s h.1, ih h.2⟩

/-- An invariant holds throughout a run. -/
theorem throughout_of_invariant (hstep : ∀ s e, I s → I (step s e)) {s : σ} (h : I s)
    (es : List ε) : Throughout step I s es := by
  induction es generalizing s with
  | nil => exact h
  | cons e es ih => exact ⟨h, ih (hstep s e h)⟩

/-- The same for a run whose events meet a condition. -/
theorem throughout_of_events {es : List ε} (hstep : ∀ s, ∀ e ∈ es, I s → I (step s e)) {s : σ}
    (h : I s) : Throughout step I s es := by
  induction es generalizing s with
  | nil => exact h
  | cons e es ih =>
    refine ⟨h, ih (fun s e' he' => hstep s e' (List.mem_cons_of_mem _ he')) ?_⟩
    exact hstep s e List.mem_cons_self h

/-- The property holds throughout a run exactly when every step meets the condition, if that is so
for each step from a state with the invariant. -/
theorem throughout_iff (hinvariant : ∀ s e, I s → P s → I (step s e))
    (hstep : ∀ s e, I s → P s → (P (step s e) ↔ C s e)) {s : σ} (hI : I s) (hP : P s)
    (es : List ε) : Throughout step P s es ↔ Met step C s es := by
  induction es generalizing s with
  | nil => exact iff_of_true hP trivial
  | cons e es ih =>
    have hiff := hstep s e hI hP
    constructor
    · rintro ⟨-, hrest⟩
      have hP' : P (step s e) := by
        cases es with
        | nil => exact hrest
        | cons e' es => exact hrest.1
      exact ⟨hiff.mp hP', (ih (hinvariant s e hI hP) hP').mp hrest⟩
    · rintro ⟨hC, hrest⟩
      have hP' := hiff.mpr hC
      exact ⟨hP, (ih (hinvariant s e hI hP) hP').mpr hrest⟩

end DataChat.Runs
