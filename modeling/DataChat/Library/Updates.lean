import Mathlib.Data.List.Basic
import Mathlib.Data.List.Induction
import Mathlib.Data.List.TakeWhile

/-!
# Sequences of partial updates

A partial update sets some attributes of a record and leaves the others. After a sequence of
them each attribute has the value of the last update that set it.

* `lastSet`: that value, if some update set the attribute; `lastSet_snoc` reads it from the end.
* `foldl_attribute`: what a run of updates leaves in an attribute.
-/

namespace DataChat.Updates

variable {υ σ β : Type}

/-- What the last update that sets the attribute sets it to. -/
def lastSet (set : υ → Option β) (updates : List υ) : Option β := (updates.filterMap set).getLast?

@[simp] theorem lastSet_nil (set : υ → Option β) : lastSet set [] = none := rfl

theorem lastSet_snoc (set : υ → Option β) (updates : List υ) (u : υ) :
    lastSet set (updates ++ [u]) = (set u).or (lastSet set updates) := by
  unfold lastSet
  rw [List.filterMap_append]
  cases h : set u with
  | none => simp [h]
  | some v => simp [h]

theorem lastSet_append (set : υ → Option β) (us vs : List υ) :
    lastSet set (us ++ vs) = (lastSet set vs).or (lastSet set us) := by
  induction vs using List.reverseRecOn with
  | nil => rw [List.append_nil, lastSet_nil, Option.none_or]
  | append_singleton vs v ih =>
    rw [← List.append_assoc, lastSet_snoc, lastSet_snoc, ih, Option.or_assoc]

theorem lastSet_singleton (set : υ → Option β) (u : υ) : lastSet set [u] = set u := by
  have h := lastSet_snoc set [] u
  rwa [List.nil_append, lastSet_nil, Option.or_none] at h

/-- A run of updates, each of which writes what it sets. -/
theorem foldl_attribute (set : υ → Option β) (read : σ → β) {step : σ → υ → σ}
    (hstep : ∀ s u, read (step s u) = (set u).getD (read s)) (s : σ) (updates : List υ) :
    read (updates.foldl step s) = (lastSet set updates).getD (read s) := by
  induction updates using List.reverseRecOn with
  | nil => rfl
  | append_singleton us u ih =>
    rw [List.foldl_append, List.foldl_cons, List.foldl_nil, hstep, ih, lastSet_snoc]
    cases set u with
    | none => rfl
    | some v => rfl

theorem lastSet_map {γ : Type} (g : β → γ) (set : υ → Option β) (updates : List υ) :
    lastSet (fun u => (set u).map g) updates = (lastSet set updates).map g := by
  induction updates using List.reverseRecOn with
  | nil => rfl
  | append_singleton us u ih =>
    rw [lastSet_snoc, lastSet_snoc, ih]
    cases set u <;> rfl

/-- When the last one that sets the attribute sets it to a value, so does the last one that sets
it to a value. -/
theorem lastSet_join {set : υ → Option (Option β)} {updates : List υ} {v : β}
    (h : lastSet set updates = some (some v)) :
    lastSet (fun u => (set u).join) updates = some v := by
  induction updates using List.reverseRecOn with
  | nil => cases h
  | append_singleton us u ih =>
    rw [lastSet_snoc] at h ⊢
    cases hu : set u with
    | none =>
      rw [hu, Option.none_or] at h
      exact ih h
    | some w =>
      rw [hu, Option.some_or] at h
      rw [Option.some.inj h]
      rfl

theorem lastSet_congr {set set' : υ → Option β} {updates : List υ}
    (h : ∀ u ∈ updates, set u = set' u) : lastSet set updates = lastSet set' updates := by
  unfold lastSet
  rw [List.filterMap_congr h]

theorem lastSet_eq_none_iff {set : υ → Option β} {updates : List υ} :
    lastSet set updates = none ↔ ∀ u ∈ updates, set u = none := by
  unfold lastSet
  rw [List.getLast?_eq_none_iff, List.filterMap_eq_nil_iff]

/-- The updates after the last one that sets the attribute. -/
def sinceSet (set : υ → Option β) (updates : List υ) : List υ :=
  (updates.reverse.takeWhile (fun u => (set u).isNone)).reverse

/-- The last update that sets the attribute, and those after it. -/
theorem split_of_lastSet {set : υ → Option β} {updates : List υ} {v : β}
    (h : lastSet set updates = some v) :
    ∃ front u, updates = front ++ u :: sinceSet set updates ∧ set u = some v ∧
      ∀ w ∈ sinceSet set updates, set w = none := by
  have hnone : ∀ w ∈ sinceSet set updates, set w = none := by
    intro w hw
    have hw' := List.mem_takeWhile_imp (List.mem_reverse.mp hw)
    exact Option.isNone_iff_eq_none.mp hw'
  have hsplit : updates = (updates.reverse.dropWhile (fun u => (set u).isNone)).reverse ++
      sinceSet set updates := by
    unfold sinceSet
    rw [← List.reverse_append, List.takeWhile_append_dropWhile, List.reverse_reverse]
  cases hrest : updates.reverse.dropWhile (fun u => (set u).isNone) with
  | nil =>
    rw [hrest, List.reverse_nil, List.nil_append] at hsplit
    rw [hsplit, lastSet_eq_none_iff.mpr hnone] at h
    cases h
  | cons u front =>
    have hset : (set u).isNone = false := by
      have hne : updates.reverse.dropWhile (fun u => (set u).isNone) ≠ [] := by
        rw [hrest]
        exact List.cons_ne_nil u front
      have hhead := List.head_dropWhile_not (fun u => (set u).isNone) hne
      simpa [hrest] using hhead
    rw [hrest, List.reverse_cons, List.append_assoc, List.singleton_append] at hsplit
    refine ⟨front.reverse, u, hsplit, ?_, hnone⟩
    have hsince : lastSet set (sinceSet set updates) = none := lastSet_eq_none_iff.mpr hnone
    have hlast : lastSet set (u :: sinceSet set updates) = set u := by
      rw [← List.singleton_append, lastSet_append, hsince, Option.none_or, lastSet_singleton]
    rw [hsplit, lastSet_append, hlast] at h
    cases hu : set u with
    | none =>
      rw [hu] at hset
      cases hset
    | some w =>
      rw [hu, Option.some_or] at h
      exact h

end DataChat.Updates
