import Mathlib.Data.List.Nodup
import Mathlib.Data.List.Basic

/-!
# Tables with declared constraints

A table is a list of rows. `PrimaryKey`, `UniqueKey` and `ForeignKey` are the constraints that a
relational database keeps; a null value is `none` and is exempt from the last two.

* `PrimaryKey.eq_of_key`, `UniqueKey.eq_of_value`: rows that a constraint does not tell apart are
  one row.
* `PrimaryKey.sublist`, `UniqueKey.sublist`: both survive the deletion of rows.
* `foreignKey_cascade`: deleting the rows whose parent is gone restores a foreign key.
* `lookup_eq_some_iff`: looking a row up by its primary key.
* `filter_filter_of_agree`: a deletion that spares the selected rows.
* `regroup`: parents with their children are read back from the rows that store them.
-/

namespace DataChat.Relational

variable {ρ γ κ σ : Type}

/-- The rows have distinct keys. -/
def PrimaryKey (key : ρ → κ) (rows : List ρ) : Prop := (rows.map key).Nodup

/-- No two rows have the same value, unless it is null. -/
def UniqueKey (value : ρ → Option σ) (rows : List ρ) : Prop :=
  rows.Pairwise (fun a b => ∀ v ∈ value a, value b ≠ some v)

/-- Each reference that is not null is the key of a parent. -/
def ForeignKey (reference : γ → Option κ) (children : List γ) (key : ρ → κ)
    (parents : List ρ) : Prop :=
  ∀ child ∈ children, ∀ k ∈ reference child, k ∈ parents.map key

instance [DecidableEq κ] (key : ρ → κ) (rows : List ρ) : Decidable (PrimaryKey key rows) :=
  inferInstanceAs (Decidable (rows.map key).Nodup)

instance [DecidableEq σ] (value : ρ → Option σ) (rows : List ρ) :
    Decidable (UniqueKey value rows) :=
  inferInstanceAs (Decidable (rows.Pairwise (fun a b => ∀ v ∈ value a, value b ≠ some v)))

instance [DecidableEq κ] (reference : γ → Option κ) (children : List γ) (key : ρ → κ)
    (parents : List ρ) : Decidable (ForeignKey reference children key parents) :=
  inferInstanceAs (Decidable (∀ child ∈ children, ∀ k ∈ reference child, k ∈ parents.map key))

/-! ## Rows that a constraint does not tell apart -/

theorem PrimaryKey.eq_of_key {key : ρ → κ} {rows : List ρ} (h : PrimaryKey key rows) {a b : ρ}
    (ha : a ∈ rows) (hb : b ∈ rows) (hkey : key a = key b) : a = b :=
  List.inj_on_of_nodup_map h ha hb hkey

/-- A search that only accepts one key finds the row with this key. -/
theorem PrimaryKey.find?_eq_some {key : ρ → κ} {rows : List ρ} (h : PrimaryKey key rows) {row : ρ}
    (hrow : row ∈ rows) {p : ρ → Bool} (hp : p row = true)
    (hkey : ∀ other, p other = true → key other = key row) : rows.find? p = some row := by
  cases hfound : rows.find? p with
  | none => exact absurd hp (List.find?_eq_none.mp hfound row hrow)
  | some found =>
    have hmatch := List.find?_some hfound
    rw [h.eq_of_key (List.mem_of_find?_eq_some hfound) hrow (hkey found hmatch)]

theorem UniqueKey.eq_of_value {value : ρ → Option σ} {rows : List ρ} (h : UniqueKey value rows)
    {a b : ρ} (ha : a ∈ rows) (hb : b ∈ rows) {v : σ} (hva : value a = some v)
    (hvb : value b = some v) : a = b := by
  unfold UniqueKey at h
  induction rows with
  | nil => exact absurd ha List.not_mem_nil
  | cons row rows ih =>
    rw [List.pairwise_cons] at h
    rcases List.mem_cons.mp ha with ha' | ha'
    · rcases List.mem_cons.mp hb with hb' | hb'
      · rw [ha', hb']
      · rw [ha'] at hva
        exact absurd hvb (h.1 b hb' v hva)
    · rcases List.mem_cons.mp hb with hb' | hb'
      · rw [hb'] at hvb
        exact absurd hva (h.1 a ha' v hvb)
      · exact ih h.2 ha' hb'

/-- The keys of rows that were appended are new. -/
theorem PrimaryKey.fresh_of_mem {key : ρ → κ} {rows added : List ρ} {row : ρ}
    (h : PrimaryKey key (rows ++ added)) (hrow : row ∈ added) : key row ∉ rows.map key := by
  unfold PrimaryKey at h
  rw [List.map_append, List.nodup_append] at h
  intro hmem
  exact h.2.2 (key row) hmem (key row) (List.mem_map_of_mem hrow) rfl

theorem PrimaryKey.fresh {key : ρ → κ} {rows : List ρ} {row : ρ}
    (h : PrimaryKey key (rows ++ [row])) : key row ∉ rows.map key :=
  h.fresh_of_mem (List.mem_singleton_self row)

/-! ## Insertions -/

/-- A row may be added when its key is new. -/
theorem primaryKey_append {key : ρ → κ} {rows : List ρ} {row : ρ} (h : PrimaryKey key rows) :
    PrimaryKey key (rows ++ [row]) ↔ ∀ other ∈ rows, key other ≠ key row := by
  unfold PrimaryKey at h ⊢
  rw [List.map_append, List.nodup_append]
  constructor
  · rintro ⟨-, -, hdistinct⟩ other hother
    exact hdistinct (key other) (List.mem_map_of_mem hother) (key row) (by simp)
  · intro hfresh
    refine ⟨h, by simp, fun k hk k' hk' => ?_⟩
    obtain ⟨other, hother, rfl⟩ := List.mem_map.mp hk
    obtain rfl : k' = key row := by simpa using hk'
    exact hfresh other hother

theorem filter_append_of_not {p : ρ → Bool} {rows added : List ρ}
    (hadded : ∀ row ∈ added, p row = false) : (rows ++ added).filter p = rows.filter p := by
  have hnone : added.filter p = [] := by
    rw [List.filter_eq_nil_iff]
    intro row hrow
    rw [hadded row hrow]
    exact Bool.false_ne_true
  rw [List.filter_append, hnone, List.append_nil]

theorem filter_append_of_new {p : ρ → Bool} {rows added : List ρ}
    (hrows : ∀ row ∈ rows, p row = false) (hadded : ∀ row ∈ added, p row = true) :
    (rows ++ added).filter p = added := by
  have hnone : rows.filter p = [] := by
    rw [List.filter_eq_nil_iff]
    intro row hrow
    rw [hrows row hrow]
    exact Bool.false_ne_true
  rw [List.filter_append, hnone, List.filter_eq_self.mpr hadded, List.nil_append]

/-! ## Deletions -/

theorem PrimaryKey.sublist {key : ρ → κ} {rows rows' : List ρ} (h : PrimaryKey key rows)
    (hsub : rows'.Sublist rows) : PrimaryKey key rows' :=
  List.Nodup.sublist (hsub.map key) h

theorem UniqueKey.sublist {value : ρ → Option σ} {rows rows' : List ρ}
    (h : UniqueKey value rows) (hsub : rows'.Sublist rows) : UniqueKey value rows' :=
  List.Pairwise.sublist hsub h

/-- Fewer children need no more parents. -/
theorem ForeignKey.subset {reference : γ → Option κ} {children children' : List γ} {key : ρ → κ}
    {parents : List ρ} (h : ForeignKey reference children key parents)
    (hsub : children' ⊆ children) : ForeignKey reference children' key parents :=
  fun child hchild => h child (hsub hchild)

/-- A deletion that spares the selected rows leaves the same of them. -/
theorem filter_filter_of_agree {p q : ρ → Bool} {rows rows' : List ρ}
    (hagree : rows'.filter p = rows.filter p)
    (hspared : ∀ row ∈ rows, p row = true → q row = true) :
    (rows'.filter q).filter p = rows.filter p := by
  rw [List.filter_filter]
  have hcomm : rows'.filter (fun row => p row && q row) = (rows'.filter p).filter q := by
    rw [List.filter_filter]
    exact List.filter_congr (fun row _ => Bool.and_comm _ _)
  rw [hcomm, hagree, List.filter_eq_self]
  intro row hrow
  obtain ⟨hmem, hp⟩ := List.mem_filter.mp hrow
  exact hspared row hmem hp

variable [DecidableEq κ]

/-- The parent of a row is there. -/
def hasParent (reference : γ → Option κ) (key : ρ → κ) (parents : List ρ) (child : γ) : Bool :=
  decide (∀ k ∈ reference child, k ∈ parents.map key)

/-- `ON DELETE CASCADE`. -/
theorem foreignKey_cascade (reference : γ → Option κ) (children : List γ) (key : ρ → κ)
    (parents : List ρ) :
    ForeignKey reference (children.filter (hasParent reference key parents)) key parents := by
  intro child hchild
  have hparent := (List.mem_filter.mp hchild).2
  exact of_decide_eq_true hparent

/-! ## Lookups -/

/-- The row with a primary key. -/
def lookup (key : ρ → κ) (rows : List ρ) (k : κ) : Option ρ :=
  rows.find? (fun row => key row = k)

theorem lookup_some {key : ρ → κ} {rows : List ρ} {k : κ} {row : ρ}
    (h : lookup key rows k = some row) : row ∈ rows ∧ key row = k :=
  ⟨List.mem_of_find?_eq_some h, by simpa using List.find?_some h⟩

theorem lookup_eq_some_iff {key : ρ → κ} {rows : List ρ} (h : PrimaryKey key rows) {k : κ}
    {row : ρ} : lookup key rows k = some row ↔ row ∈ rows ∧ key row = k := by
  refine ⟨lookup_some, fun ⟨hmem, hkey⟩ => ?_⟩
  obtain ⟨found, hfound⟩ : ∃ found, lookup key rows k = some found := by
    rw [← Option.isSome_iff_exists, lookup, List.find?_isSome]
    exact ⟨row, hmem, by simpa using hkey⟩
  obtain ⟨hmem', hkey'⟩ := lookup_some hfound
  rw [hfound, h.eq_of_key hmem' hmem (hkey'.trans hkey.symm)]

/-! ## Parents with their children -/

/-- The children of a parent are found among all children by their references. -/
theorem children_of_block {key : ρ → κ} {reference : γ → κ} {blocks : List (ρ × List γ)}
    (hkey : PrimaryKey key (blocks.map Prod.fst))
    (hchild : ∀ block ∈ blocks, ∀ child ∈ block.2, reference child = key block.1) :
    ∀ block ∈ blocks, (blocks.flatMap Prod.snd).filter
      (fun child => reference child = key block.1) = block.2 := by
  induction blocks with
  | nil => exact fun block hblock => absurd hblock List.not_mem_nil
  | cons first rest ih =>
    unfold PrimaryKey at hkey
    rw [List.map_cons, List.map_cons, List.nodup_cons] at hkey
    obtain ⟨hfresh, hrest⟩ := hkey
    have hapart : ∀ block ∈ rest, key first.1 ≠ key block.1 := by
      intro block hblock heq
      apply hfresh
      rw [heq]
      exact List.mem_map_of_mem (List.mem_map_of_mem hblock)
    have hfirst := hchild first List.mem_cons_self
    have hchildRest : ∀ block ∈ rest, ∀ child ∈ block.2, reference child = key block.1 :=
      fun block hblock => hchild block (List.mem_cons_of_mem _ hblock)
    intro block hblock
    rw [List.flatMap_cons, List.filter_append]
    rcases List.mem_cons.mp hblock with rfl | hblock
    · have hall : block.2.filter (fun child => reference child = key block.1) = block.2 :=
        List.filter_eq_self.mpr (fun child hc => decide_eq_true (hfirst child hc))
      have hnone : (rest.flatMap Prod.snd).filter
          (fun child => reference child = key block.1) = [] := by
        rw [List.filter_eq_nil_iff]
        intro child hc
        obtain ⟨other, hother, hc⟩ := List.mem_flatMap.mp hc
        rw [hchildRest other hother child hc]
        simpa using Ne.symm (hapart other hother)
      rw [hall, hnone, List.append_nil]
    · have hnone : first.2.filter (fun child => reference child = key block.1) = [] := by
        rw [List.filter_eq_nil_iff]
        intro child hc
        rw [hfirst child hc]
        simpa using hapart block hblock
      rw [hnone, List.nil_append]
      exact ih hrest hchildRest block hblock

/-- Parents with their children are read back from the rows that store them. -/
theorem regroup {key : ρ → κ} {reference : γ → κ} {blocks : List (ρ × List γ)}
    (hkey : PrimaryKey key (blocks.map Prod.fst))
    (hchild : ∀ block ∈ blocks, ∀ child ∈ block.2, reference child = key block.1) :
    (blocks.map Prod.fst).map (fun parent =>
      (parent, (blocks.flatMap Prod.snd).filter (fun child => reference child = key parent))) =
      blocks := by
  rw [List.map_map]
  refine (List.map_congr_left (fun block hblock => ?_)).trans (List.map_id blocks)
  show (block.1, _) = block
  rw [children_of_block hkey hchild block hblock]

end DataChat.Relational
