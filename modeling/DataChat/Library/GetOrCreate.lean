import DataChat.Library.Relational

/-!
# Tables that get one row at most

A row is created unless it is there. Between the query and the insertion others may have created
it: only the key of the table keeps the row single.

* `eq_nil_or_singleton`, `filter_eq_singleton`: a query by a unique key.
* `Grown.insert`: a second insertion would repeat the key.
-/

namespace DataChat.GetOrCreate

open Relational

variable {ρ κ : Type} {P Q : ρ → Prop} {rows rows' : List ρ} {row : ρ}

/-- Rows that are all one row, in a table without repetitions. -/
theorem eq_nil_or_singleton (hnodup : rows.Nodup) (hone : ∀ a ∈ rows, ∀ b ∈ rows, a = b) :
    rows = [] ∨ ∃ row, rows = [row] := by
  match rows with
  | [] => exact .inl rfl
  | [row] => exact .inr ⟨row, rfl⟩
  | a :: b :: _ =>
    have hab := hone a (by simp) b (by simp)
    subst hab
    simp at hnodup

/-- A query by a unique key finds the row that is there, and no other. -/
theorem filter_eq_singleton {key : ρ → κ} (hkey : PrimaryKey key rows) {p : ρ → Bool}
    (hsame : ∀ a b, p a = true → p b = true → key a = key b) (hmem : row ∈ rows)
    (hp : p row = true) : rows.filter p = [row] := by
  have hone : ∀ a ∈ rows.filter p, ∀ b ∈ rows.filter p, a = b := by
    intro a ha b hb
    obtain ⟨ha, hpa⟩ := List.mem_filter.mp ha
    obtain ⟨hb, hpb⟩ := List.mem_filter.mp hb
    exact hkey.eq_of_key ha hb (hsame a b hpa hpb)
  have hrow : row ∈ rows.filter p := List.mem_filter.mpr ⟨hmem, hp⟩
  rcases eq_nil_or_singleton ((List.Nodup.of_map _ hkey).filter p) hone with hnil | ⟨other, hother⟩
  · exact absurd hrow (hnil ▸ List.not_mem_nil)
  · rw [hother] at hrow ⊢
    rw [List.mem_singleton.mp hrow]

/-- One row, at most, was appended, and it has the property. -/
def Grown (P : ρ → Prop) (rows rows' : List ρ) : Prop :=
  rows' = rows ∨ ∃ row, P row ∧ rows' = rows ++ [row]

theorem Grown.refl (P : ρ → Prop) (rows : List ρ) : Grown P rows rows := .inl rfl

theorem Grown.subset (h : Grown P rows rows') : rows ⊆ rows' := by
  rcases h with rfl | ⟨row, -, rfl⟩
  · exact List.Subset.refl _
  · exact List.subset_append_left _ _

theorem Grown.mono (h : Grown P rows rows') (himp : ∀ row, P row → Q row) : Grown Q rows rows' := by
  rcases h with rfl | ⟨row, hrow, rfl⟩
  · exact .inl rfl
  · exact .inr ⟨row, himp row hrow, rfl⟩

/-- Rows with the property have one key. -/
theorem Grown.insert {key : ρ → κ} (h : Grown P rows rows')
    (hkey : PrimaryKey key (rows' ++ [row])) (hrow : P row)
    (hsame : ∀ other, P other → key other = key row) : Grown P rows (rows' ++ [row]) := by
  rcases h with rfl | ⟨other, hother, rfl⟩
  · exact .inr ⟨row, hrow, rfl⟩
  · refine absurd ?_ hkey.fresh
    rw [← hsame other hother]
    exact List.mem_map_of_mem (by simp)

theorem Grown.mem (h : Grown P rows rows') (hrow : row ∈ rows') : row ∈ rows ∨ P row := by
  rcases h with rfl | ⟨other, hother, rfl⟩
  · exact .inl hrow
  · rcases List.mem_append.mp hrow with hrow | hrow
    · exact .inl hrow
    · rw [List.mem_singleton.mp hrow]
      exact .inr hother

/-! ## References of a row that is created -/

variable {γ : Type} {reference : γ → Option κ} {children : List γ} {key : ρ → κ}
  {parents parents' : List ρ}

theorem foreignKey_parents (h : ForeignKey reference children key parents)
    (hsub : parents ⊆ parents') : ForeignKey reference children key parents' :=
  fun child hchild k hk => List.map_subset key hsub (h child hchild k hk)

theorem foreignKey_append (h : ForeignKey reference children key parents) {child : γ}
    {parent : ρ} (hparent : parent ∈ parents) (hreference : reference child = some (key parent)) :
    ForeignKey reference (children ++ [child]) key parents := by
  intro other hother k hk
  rcases List.mem_append.mp hother with hmem | hmem
  · exact h other hmem k hk
  · rw [List.mem_singleton.mp hmem, hreference] at hk
    rw [← Option.some.inj hk]
    exact List.mem_map_of_mem hparent

end DataChat.GetOrCreate
