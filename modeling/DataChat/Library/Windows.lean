import Mathlib.Data.List.Basic

/-!
# Windows over a sequence

A walk over the positions below `length` cuts windows `[start, stop)`, none wider than `size`.
The next window begins after the start of the last one and no later than its end, and the walk is
over when a window reaches `length`. Whatever the rule that picks the ends and the next starts, the
starts increase (`Walk.starts_increase`) and no position is left out (`Walk.covers`).
-/

namespace DataChat.Windows

/-- The windows that a walk cuts from `start` on. -/
inductive Walk (size length : Nat) : Nat → List (Nat × Nat) → Prop where
  | last {start : Nat} (hstart : start < length) (hsize : length ≤ start + size) :
      Walk size length start [(start, length)]
  | next {start stop start' : Nat} {windows : List (Nat × Nat)} (hstart : start < stop)
      (hsize : stop ≤ start + size) (hstop : stop < length) (hafter : start < start')
      (hgap : start' ≤ stop) (hrest : Walk size length start' windows) :
      Walk size length start ((start, stop) :: windows)

variable {size length start : Nat} {windows : List (Nat × Nat)}

theorem Walk.bounds (h : Walk size length start windows) {window : Nat × Nat}
    (hmem : window ∈ windows) :
    start ≤ window.1 ∧ window.1 < window.2 ∧ window.2 ≤ length ∧
      window.2 ≤ window.1 + size := by
  induction h with
  | last hstart hsize =>
    obtain rfl := List.mem_singleton.mp hmem
    exact ⟨Nat.le_refl _, hstart, Nat.le_refl _, hsize⟩
  | next hstart hsize hstop hafter hgap hrest ih =>
    rcases List.mem_cons.mp hmem with rfl | hmem
    · exact ⟨Nat.le_refl _, hstart, Nat.le_of_lt hstop, hsize⟩
    · obtain ⟨hle, hrest⟩ := ih hmem
      exact ⟨by omega, hrest⟩

theorem Walk.starts_increase (h : Walk size length start windows) :
    windows.Pairwise (fun window later => window.1 < later.1) := by
  induction h with
  | last hstart hsize => exact List.pairwise_singleton _ _
  | next hstart hsize hstop hafter hgap hrest ih =>
    refine List.pairwise_cons.mpr ⟨?_, ih⟩
    intro later hlater
    have hbounds := (hrest.bounds hlater).1
    show _ < later.1
    omega

/-- Every position from the start on lies in a window. -/
theorem Walk.covers (h : Walk size length start windows) {i : Nat} (hi : start ≤ i)
    (hlength : i < length) : ∃ window ∈ windows, window.1 ≤ i ∧ i < window.2 := by
  induction h with
  | last hstart hsize => exact ⟨_, List.mem_singleton_self _, hi, hlength⟩
  | @next start stop start' windows hstart hsize hstop hafter hgap hrest ih =>
    by_cases hin : i < stop
    · exact ⟨_, List.mem_cons_self, hi, hin⟩
    · obtain ⟨window, hmem, hwindow⟩ := ih (by omega)
      exact ⟨window, List.mem_cons_of_mem _ hmem, hwindow⟩

end DataChat.Windows
