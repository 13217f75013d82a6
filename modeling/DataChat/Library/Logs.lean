/-!
# Logs of what a system has answered

A system answers each event and moves on. Its log keeps, for each event, the state in which it was
answered and the answer.

* `mem_log`: what an entry says.
* `Entrywise`: what holds of each entry and of those before it.
-/

namespace DataChat.Logs

variable {σ ε α : Type}

structure Entry (σ ε α : Type) where
  state : σ
  event : ε
  answer : α

/-- One event: the answer, and the next state. -/
abbrev Step (σ ε α : Type) := σ → ε → α × σ

def log (step : Step σ ε α) : σ → List ε → List (Entry σ ε α)
  | _, [] => []
  | s, e :: es => ⟨s, e, (step s e).1⟩ :: log step (step s e).2 es

theorem mem_log {step : Step σ ε α} {s : σ} {es : List ε} {entry : Entry σ ε α}
    (h : entry ∈ log step s es) : entry.answer = (step entry.state entry.event).1 := by
  induction es generalizing s with
  | nil => cases h
  | cons e es ih =>
    rcases List.mem_cons.mp h with rfl | h
    · rfl
    · exact ih h

/-- The property holds of each entry and of those before it. -/
def Entrywise (P : List (Entry σ ε α) → Entry σ ε α → Prop) (entries : List (Entry σ ε α)) :
    Prop :=
  ∀ before entry rest, entries = before ++ entry :: rest → P before entry

end DataChat.Logs
