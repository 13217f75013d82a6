import Mathlib.Data.List.Basic

/-!
# Three-valued logic

The truth values of SQL: true, false and unknown, which is `none`. A condition holds when it is
true, so the lemmas say when a connective is.

* `and_true_iff`, `or_true_iff`, `not_true_iff`.
* `any_true_iff`, `any_false_iff`: a disjunction of many.
-/

namespace DataChat

abbrev Truth := Option Bool

namespace Truth

def not : Truth → Truth := Option.map Bool.not

def and : Truth → Truth → Truth
  | some false, _ => some false
  | _, some false => some false
  | some true, some true => some true
  | _, _ => none

def or : Truth → Truth → Truth
  | some true, _ => some true
  | _, some true => some true
  | some false, some false => some false
  | _, _ => none

/-- The disjunction of a list. -/
def any : List Truth → Truth := List.foldr or (some false)

@[simp]
theorem not_true_iff {a : Truth} : a.not = some true ↔ a = some false := by
  rcases a with - | - | - <;> simp [Truth.not]

@[simp]
theorem and_true_iff {a b : Truth} : a.and b = some true ↔ a = some true ∧ b = some true := by
  rcases a with - | - | - <;> rcases b with - | - | - <;> simp [Truth.and]

@[simp]
theorem or_true_iff {a b : Truth} : a.or b = some true ↔ a = some true ∨ b = some true := by
  rcases a with - | - | - <;> rcases b with - | - | - <;> simp [Truth.or]

@[simp]
theorem or_false_iff {a b : Truth} : a.or b = some false ↔ a = some false ∧ b = some false := by
  rcases a with - | - | - <;> rcases b with - | - | - <;> simp [Truth.or]

theorem any_true_iff {as : List Truth} : any as = some true ↔ some true ∈ as := by
  induction as with
  | nil => simp [any]
  | cons a as ih =>
    have hcons : any (a :: as) = a.or (any as) := rfl
    rw [hcons, or_true_iff, ih, List.mem_cons]
    exact or_congr_left eq_comm

theorem any_false_iff {as : List Truth} : any as = some false ↔ ∀ a ∈ as, a = some false := by
  induction as with
  | nil => simp [any]
  | cons a as ih =>
    have hcons : any (a :: as) = a.or (any as) := rfl
    rw [hcons, or_false_iff, ih, List.forall_mem_cons]

end Truth

end DataChat
