import Mathlib.Logic.Basic

/-!
# Attributes that are read, worked on and written back

A session reads a record, changes attributes of its own copy, and at its end writes those that
it changed: an attribute whose value is the one that was read is not written. When other
sessions write in between, their values survive in the attributes that are not written.
-/

namespace DataChat

variable {α : Type} [DecidableEq α]

/-- The stored value after a session that has read `loaded` ends with `assigned`. -/
def writeBack (loaded assigned stored : α) : α := if assigned = loaded then stored else assigned

/-- Nothing was written in between. -/
@[simp] theorem writeBack_stored (loaded assigned : α) :
    writeBack loaded assigned loaded = assigned := by
  unfold writeBack
  split
  · rename_i h
    exact h.symm
  · rfl

/-- The session has not changed the attribute. -/
@[simp] theorem writeBack_loaded (loaded stored : α) : writeBack loaded loaded stored = stored :=
  if_pos rfl

/-- A value that neither the session assigns nor is stored is not there afterwards. -/
theorem writeBack_eq_iff {loaded assigned stored v : α} (h : assigned ≠ v) :
    writeBack loaded assigned stored = v ↔ assigned = loaded ∧ stored = v := by
  unfold writeBack
  split
  · rename_i heq
    simp [heq]
  · rename_i hne
    simp [h, hne]

end DataChat
