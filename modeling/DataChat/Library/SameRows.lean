import DataChat.Library.OrderBy
import DataChat.Library.Relational

/-!
# Tables that agree on selected rows

Two tables hold the same selected rows when one selection is a reordering of the other; which rows
are selected may differ from one table to the other. What a query finds is then the same, as long
as the query asks for selected rows only.

* `SameRows.filter`, `SameRows.filterMap`: the rows of a query, and of a query that joins.
* `SameRows.find?`, `SameRows.lookup`: single rows.
* `orderedBy_congr`: the orders in which the rows may come.
-/

namespace DataChat.Relational

variable {ρ σ κ : Type} {p p' q q' : ρ → Bool} {rows rows' : List ρ}

/-- The selected rows of two tables are the same, in some order. -/
def SameRows (p p' : ρ → Bool) (rows rows' : List ρ) : Prop :=
  (rows.filter p).Perm (rows'.filter p')

theorem SameRows.refl (p : ρ → Bool) (rows : List ρ) : SameRows p p rows rows :=
  List.Perm.refl _

theorem SameRows.symm (h : SameRows p p' rows rows') : SameRows p' p rows' rows :=
  List.Perm.symm h

theorem SameRows.of_eq (h : rows'.filter p = rows.filter p) : SameRows p p rows rows' := by
  unfold SameRows
  rw [h]

theorem SameRows.mem (h : SameRows p p' rows rows') {row : ρ} (hrow : row ∈ rows)
    (hp : p row = true) : row ∈ rows' ∧ p' row = true :=
  List.mem_filter.mp (h.mem_iff.mp (List.mem_filter.mpr ⟨hrow, hp⟩))

/-- A query for selected rows finds the same. -/
theorem SameRows.filter (h : SameRows p p' rows rows')
    (hq : ∀ row ∈ rows, q row = true → p row = true ∧ q' row = true)
    (hq' : ∀ row ∈ rows', q' row = true → p' row = true ∧ q row = true) :
    SameRows q q' rows rows' := by
  have hselected : rows.filter q = (rows.filter p).filter q := by
    rw [List.filter_filter]
    refine List.filter_congr (fun row hrow => ?_)
    cases hcase : q row with
    | false => rfl
    | true => rw [(hq row hrow hcase).1, Bool.and_self]
  have hselected' : rows'.filter q' = (rows'.filter p').filter q' := by
    rw [List.filter_filter]
    refine List.filter_congr (fun row hrow => ?_)
    cases hcase : q' row with
    | false => rfl
    | true => rw [(hq' row hrow hcase).1, Bool.and_self]
  have hagree : (rows'.filter p').filter q' = (rows'.filter p').filter q := by
    refine List.filter_congr (fun row hrow => ?_)
    have hmem := (List.mem_filter.mp hrow).1
    have hmem' := (List.mem_filter.mp (h.mem_iff.mpr hrow)).1
    rw [Bool.eq_iff_iff]
    exact ⟨fun hcase => (hq' row hmem hcase).2, fun hcase => (hq row hmem' hcase).2⟩
  unfold SameRows
  rw [hselected, hselected', hagree]
  exact List.Perm.filter q h

/-- A query that joins other tables finds the same. -/
theorem SameRows.filterMap (h : SameRows p p' rows rows') {f f' : ρ → Option σ}
    (hf : ∀ row ∈ rows, ∀ v, f row = some v → p row = true ∧ f' row = some v)
    (hf' : ∀ row ∈ rows', ∀ v, f' row = some v → p' row = true ∧ f row = some v) :
    (rows.filterMap f).Perm (rows'.filterMap f') := by
  have hselected : rows.filterMap f = (rows.filter p).filterMap f := by
    rw [List.filterMap_filter]
    refine List.filterMap_congr (fun row hrow => ?_)
    cases hcase : f row with
    | none => rw [ite_self]
    | some v => rw [if_pos (hf row hrow v hcase).1]
  have hselected' : rows'.filterMap f' = (rows'.filter p').filterMap f' := by
    rw [List.filterMap_filter]
    refine List.filterMap_congr (fun row hrow => ?_)
    cases hcase : f' row with
    | none => rw [ite_self]
    | some v => rw [if_pos (hf' row hrow v hcase).1]
  have hagree : (rows'.filter p').filterMap f' = (rows'.filter p').filterMap f := by
    refine List.filterMap_congr (fun row hrow => ?_)
    have hmem := (List.mem_filter.mp hrow).1
    have hmem' := (List.mem_filter.mp (h.mem_iff.mpr hrow)).1
    ext v
    exact ⟨fun hcase => (hf' row hmem v hcase).2, fun hcase => (hf row hmem' v hcase).2⟩
  rw [hselected, hselected', hagree]
  exact List.Perm.filterMap f h

/-- The selected rows of views of the tables. -/
theorem SameRows.map {view : ρ → σ} {r r' : σ → Bool}
    (h : SameRows (fun row => r (view row)) (fun row => r' (view row)) rows rows') :
    SameRows r r' (rows.map view) (rows'.map view) := by
  unfold SameRows
  rw [List.filter_map, List.filter_map]
  exact List.Perm.map view h

/-! ## Single rows -/

theorem filter_length_le_one {key : ρ → κ} (h : PrimaryKey key rows) {k : κ}
    (hp : ∀ row, p row = true → key row = k) : (rows.filter p).length ≤ 1 := by
  have hsub : PrimaryKey key (rows.filter p) := h.sublist List.filter_sublist
  have hkeys : ∀ row ∈ rows.filter p, key row = k := fun row hrow =>
    hp row (List.mem_filter.mp hrow).2
  match hrows : rows.filter p with
  | [] => simp
  | [row] => simp
  | first :: second :: rest =>
    rw [hrows] at hsub hkeys
    have hfirst := hkeys first List.mem_cons_self
    have hsecond := hkeys second (List.mem_cons_of_mem _ List.mem_cons_self)
    unfold PrimaryKey at hsub
    simp [hfirst, hsecond] at hsub

/-- A query for the row with a key finds the same. -/
theorem SameRows.find? (h : SameRows q q rows rows') {key : ρ → κ} (hkey : PrimaryKey key rows)
    {k : κ} (hq : ∀ row, q row = true → key row = k) : rows.find? q = rows'.find? q := by
  have hshort := filter_length_le_one hkey hq
  have hsame : rows.filter q = rows'.filter q := by
    have hlength := List.Perm.length_eq h
    match hrows : rows.filter q, hrows' : rows'.filter q with
    | [], [] => rfl
    | [row], [row'] =>
      unfold SameRows at h
      rw [hrows, hrows'] at h
      exact List.Perm.eq_singleton h
    | [], _ :: _ => simp [hrows, hrows'] at hlength
    | _ :: _, [] => simp [hrows, hrows'] at hlength
    | [_], _ :: _ :: _ => simp [hrows, hrows'] at hlength
    | _ :: _ :: _, _ :: _ => simp [hrows] at hshort
  rw [← List.head?_filter, ← List.head?_filter, hsame]

variable [DecidableEq κ]

/-- A selected row is found by its key in both tables. -/
theorem SameRows.lookup (h : SameRows p p' rows rows') {key : ρ → κ}
    (hkey : PrimaryKey key rows') {k : κ} {row : ρ} (hfound : lookup key rows k = some row)
    (hp : p row = true) : lookup key rows' k = some row ∧ p' row = true := by
  obtain ⟨hrow, hk⟩ := lookup_some hfound
  obtain ⟨hrow', hp'⟩ := h.mem hrow hp
  exact ⟨(lookup_eq_some_iff hkey).mpr ⟨hrow', hk⟩, hp'⟩

end DataChat.Relational

namespace DataChat

variable {ρ K : Type} [LinearOrder K] {key : ρ → K} {rows rows' : List ρ}

/-- The same rows may come in the same orders. -/
theorem orderedBy_congr (h : rows.Perm rows') {result : List ρ} :
    OrderedBy key rows result ↔ OrderedBy key rows' result :=
  ⟨fun hordered => ⟨hordered.perm.trans h, hordered.sorted⟩,
    fun hordered => ⟨hordered.perm.trans h.symm, hordered.sorted⟩⟩

end DataChat
