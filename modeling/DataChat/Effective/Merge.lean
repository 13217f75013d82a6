import DataChat.Effective.Definitions
import DataChat.Library.Groups
import Mathlib.Data.List.Induction

/-!
# What the merge computes

The loops fill a dictionary of tables that is keyed by concatenated names. `Merged` describes an
entry by the rows that went into it, in their order: the first row gives the identity, flags are
joined by `or`, row filters are collected, and each column is `mergedColumn` of its grants.

* `mergeColumns_get`: what the inner loop has made of a column.
* `mergePermissions_get`: what the outer loop has made of a table.
* `filteredSchema_some`, `filteredSchema_none`: the schema.
-/

namespace DataChat.Effective

open Platform

/-! ## Columns -/

/-- The column that is made of a list of grants: identity from the first one, the first mask. -/
def mergedColumn : List ColumnRow → Option AllowedColumn
  | [] => none
  | first :: rest =>
    some
      { column_id := first.column.id
        name := first.column.column_name
        data_type := first.column.data_type
        can_read := true
        can_filter := (first :: rest).any (fun row => row.permission.can_filter)
        can_aggregate := (first :: rest).any (fun row => row.permission.can_aggregate)
        mask_type := (first :: rest).findSome? (fun row => row.permission.mask_type) }

@[simp] theorem mergedColumn_eq_none {grants : List ColumnRow} :
    mergedColumn grants = none ↔ grants = [] := by
  cases grants with
  | nil => simp [mergedColumn]
  | cons first rest => simp [mergedColumn]

/-- The grants of a column under a name. -/
def isGrantOf (name : String) (row : ColumnRow) : Bool :=
  row.permission.can_read && decide (row.column.column_name = name)

/-- One grant more. -/
theorem mergedColumn_append (grants : List ColumnRow) (row : ColumnRow) :
    mergedColumn (grants ++ [row]) =
      match mergedColumn grants with
      | none => some
          { column_id := row.column.id
            name := row.column.column_name
            data_type := row.column.data_type
            can_read := true
            can_filter := row.permission.can_filter
            can_aggregate := row.permission.can_aggregate
            mask_type := row.permission.mask_type }
      | some existing => some
          { existing with
            can_filter := existing.can_filter || row.permission.can_filter
            can_aggregate := existing.can_aggregate || row.permission.can_aggregate
            mask_type :=
              if existing.mask_type = none ∧ row.permission.mask_type ≠ none then
                row.permission.mask_type
              else existing.mask_type } := by
  cases grants with
  | nil => simp [mergedColumn]
  | cons first rest =>
    have hmask : (first :: (rest ++ [row])).findSome? (fun r => r.permission.mask_type) =
        ((first :: rest).findSome? (fun r => r.permission.mask_type)).or
          row.permission.mask_type := by
      rw [← List.cons_append, List.findSome?_append]
      simp
    simp only [List.cons_append, mergedColumn, hmask, List.any_cons, List.any_append,
      List.any_nil, Bool.or_false, Bool.or_assoc]
    cases (first :: rest).findSome? (fun r => r.permission.mask_type) with
    | none => cases row.permission.mask_type <;> simp
    | some mask => simp

theorem mergeColumn_get {columns : Dict String AllowedColumn} {grants : List ColumnRow}
    {name : String} (h : columns.get name = mergedColumn grants) (row : ColumnRow) :
    (mergeColumn columns row).get name =
      mergedColumn (grants ++ if isGrantOf name row then [row] else []) := by
  unfold mergeColumn
  by_cases hread : row.permission.can_read = false
  · simp [hread, isGrantOf, h]
  · rw [if_neg hread]
    have hreadable : row.permission.can_read = true := Bool.not_eq_false _ ▸ hread
    by_cases hname : row.column.column_name = name
    · rw [if_pos (by simp [isGrantOf, hreadable, hname]), mergedColumn_append, ← h, ← hname]
      cases columns.get row.column.column_name with
      | none => simp
      | some existing => simp
    · rw [if_neg (by simp [isGrantOf, hname]), List.append_nil, ← h]
      have hother : name ≠ row.column.column_name := fun heq => hname heq.symm
      cases columns.get row.column.column_name with
      | none => exact Dict.get_set_ne _ _ hother
      | some existing => exact Dict.get_set_ne _ _ hother

/-- The inner loop adds the grants of its rows. -/
theorem mergeColumns_get {columns : Dict String AllowedColumn} {grants : List ColumnRow}
    {name : String} (h : columns.get name = mergedColumn grants) (rows : List ColumnRow) :
    (rows.foldl mergeColumn columns).get name =
      mergedColumn (grants ++ rows.filter (isGrantOf name)) := by
  induction rows generalizing columns grants with
  | nil => simpa using h
  | cons row rows ih =>
    rw [List.foldl_cons, ih (mergeColumn_get h row), List.append_assoc]
    congr 2
    by_cases hgrant : isGrantOf name row
    · simp [hgrant]
    · simp [hgrant]

/-- The list under a key has the rows with that key, in their order. -/
theorem columnsByPermission_get (columnRows : List ColumnRow) (permissionId : Uuid) :
    ((columnsByPermission columnRows).get permissionId).getD [] =
      columnRows.filter (fun row => row.permission.table_permission_id = permissionId) := by
  have h := Groups.getD_foldl_append (fun row : ColumnRow => row.permission.table_permission_id) id
    columnRows permissionId
  rw [List.map_id] at h
  exact h

/-! ## Tables -/

/-- The grants that a table permission contains for a column name. -/
def grantsOf (columnRows : List ColumnRow) (row : PermissionRow) (name : String) :
    List ColumnRow :=
  (columnRows.filter (fun c => c.permission.table_permission_id = row.permission.id)).filter
    (isGrantOf name)

/-- The readable rows under a qualified name. -/
def rowsNamed (name : String) (rows : List PermissionRow) : List PermissionRow :=
  (readable rows).filter (fun row => qualifiedName row = name)

/-- The entry is what the rows make of it. -/
structure Merged (columnRows : List ColumnRow) (rows : List PermissionRow)
    (allowedTable : AllowedTable) : Prop where
  identity : (rows.head?).map (fun row =>
    (row.table.id, row.schema.schema_name, row.table.table_name)) =
      some (allowedTable.table_id, allowedTable.schema_name, allowedTable.table_name)
  can_read : allowedTable.can_read = rows.any (fun row => row.permission.can_read)
  can_insert : allowedTable.can_insert = rows.any (fun row => row.permission.can_insert)
  can_update : allowedTable.can_update = rows.any (fun row => row.permission.can_update)
  can_delete : allowedTable.can_delete = rows.any (fun row => row.permission.can_delete)
  row_filters : allowedTable.row_filters =
    (rows.map (fun row => row.permission.row_filter)).filter hasRules
  columns : ∀ name, allowedTable.columns.get name =
    mergedColumn (rows.flatMap (fun row => grantsOf columnRows row name))

/-- One row more under the name of an entry. -/
theorem mergePermission_self {columnRows : List ColumnRow} {rows : List PermissionRow}
    {existing : Option AllowedTable} {row : PermissionRow} {allowedTable : AllowedTable}
    (hnone : existing = none → rows = [])
    (hsome : ∀ t ∈ existing, Merged columnRows rows t)
    (h : allowedTable =
      { mergeFlags existing row with
        row_filters := mergeRowFilter (mergeFlags existing row).row_filters
          row.permission.row_filter
        columns := (((columnsByPermission columnRows).get row.permission.id).getD []).foldl
          mergeColumn (mergeFlags existing row).columns }) :
    Merged columnRows (rows ++ [row]) allowedTable := by
  have hfilters : ∀ filters : List JsonObject, mergeRowFilter filters row.permission.row_filter =
      filters ++ [row.permission.row_filter].filter hasRules := by
    intro filters
    unfold mergeRowFilter
    by_cases hrules : hasRules row.permission.row_filter <;> simp [hrules]
  cases existing with
  | none =>
    rw [hnone rfl, List.nil_append]
    subst h
    constructor
    · rfl
    · simp [mergeFlags]
    · simp [mergeFlags]
    · simp [mergeFlags]
    · simp [mergeFlags]
    · simp only [hfilters, mergeFlags, List.map_cons, List.map_nil, List.nil_append]
    · intro name
      have hempty : (Dict.empty : Dict String AllowedColumn).get name = mergedColumn [] := rfl
      simp only [mergeFlags, mergeColumns_get hempty, columnsByPermission_get, List.nil_append,
        List.flatMap_cons, List.flatMap_nil, List.append_nil, grantsOf]
  | some t =>
    have hmerged := hsome t rfl
    subst h
    constructor
    · have hidentity := hmerged.identity
      cases rows with
      | nil => cases hidentity
      | cons first rest => exact hidentity
    · simp [mergeFlags, hmerged.can_read]
    · simp [mergeFlags, hmerged.can_insert]
    · simp [mergeFlags, hmerged.can_update]
    · simp [mergeFlags, hmerged.can_delete]
    · simp only [hfilters, mergeFlags, hmerged.row_filters, List.map_append, List.map_cons,
        List.map_nil, List.filter_append]
    · intro name
      simp only [mergeFlags, mergeColumns_get (hmerged.columns name), columnsByPermission_get,
        List.flatMap_append, List.flatMap_cons, List.flatMap_nil, List.append_nil, grantsOf]

/-- What the outer loop has made of a name. -/
theorem mergePermissions_get (columnRows : List ColumnRow) (rows : List PermissionRow)
    (name : String) :
    let entry := (rows.foldl (mergePermission (columnsByPermission columnRows)) Dict.empty).get name
    (entry = none → rows.filter (fun row => qualifiedName row = name) = []) ∧
      ∀ t ∈ entry, Merged columnRows (rows.filter (fun row => qualifiedName row = name)) t := by
  induction rows using List.reverseRecOn with
  | nil => exact ⟨fun _ => rfl, fun t ht => by cases ht⟩
  | append_singleton rows row ih =>
    dsimp only at ih ⊢
    rw [List.foldl_append, List.foldl_cons, List.foldl_nil, List.filter_append]
    dsimp only [mergePermission]
    by_cases hname : qualifiedName row = name
    · subst hname
      rw [Dict.get_set_self]
      have hone : [row].filter (fun r => qualifiedName r = qualifiedName row) = [row] := by simp
      rw [hone]
      refine ⟨fun hnone => (by cases hnone), fun t ht => ?_⟩
      exact mergePermission_self ih.1 ih.2 (Option.some.inj ht).symm
    · have hnone : [row].filter (fun r => qualifiedName r = name) = [] := by simp [hname]
      rw [Dict.get_set_ne _ _ (Ne.symm hname), hnone, List.append_nil]
      exact ih

/-! ## The schema -/

variable {connectionId : Uuid} {permissionRows : List PermissionRow} {columnRows : List ColumnRow}
  {name : String}

/-- A dictionary without entries finds nothing. -/
theorem dict_isEmpty_iff {columns : Dict String AllowedColumn} :
    columns.items.isEmpty = true ↔ ∀ column, columns.get column = none := by
  constructor
  · intro h column
    rw [Dict.get_eq_none_iff]
    unfold Dict.keys
    rw [List.isEmpty_iff.mp h]
    exact List.not_mem_nil
  · intro h
    cases hitems : columns.items with
    | nil => rfl
    | cons item rest =>
      have hget : columns.get item.1 = some item.2 := by
        rw [Dict.get_eq_some_iff, hitems]
        exact List.mem_cons_self
      rw [h item.1] at hget
      cases hget

theorem filteredSchema_some {t : AllowedTable}
    (h : (filteredSchema connectionId permissionRows columnRows).tables.get name = some t) :
    Merged columnRows (rowsNamed name permissionRows) t ∧
      ∃ column, t.columns.get column ≠ none := by
  unfold filteredSchema at h
  rw [Dict.get_filterItems, Option.filter_eq_some_iff] at h
  obtain ⟨hentry, hcolumns⟩ := h
  refine ⟨(mergePermissions_get columnRows (readable permissionRows) name).2 t hentry, ?_⟩
  by_contra hall
  push Not at hall
  have hempty := dict_isEmpty_iff.mpr hall
  simp [hempty] at hcolumns

theorem filteredSchema_none (connectionId : Uuid)
    (h : (filteredSchema connectionId permissionRows columnRows).tables.get name = none)
    (column : String) :
    (rowsNamed name permissionRows).flatMap (fun row => grantsOf columnRows row column) = [] := by
  unfold filteredSchema at h
  rw [Dict.get_filterItems] at h
  have hloop := mergePermissions_get columnRows (readable permissionRows) name
  dsimp only at hloop
  cases hentry : ((readable permissionRows).foldl
      (mergePermission (columnsByPermission columnRows)) Dict.empty).get name with
  | none =>
    have hrows : rowsNamed name permissionRows = [] := hloop.1 hentry
    rw [hrows]
    rfl
  | some t =>
    rw [hentry, Option.filter_some] at h
    have hempty : t.columns.items.isEmpty = true := by
      by_contra hne
      have hitems : t.columns.items = [] := by simpa using h
      exact hne (List.isEmpty_iff.mpr hitems)
    have hcolumn := (hloop.2 t hentry).columns column
    rw [dict_isEmpty_iff.mp hempty column] at hcolumn
    exact mergedColumn_eq_none.mp hcolumn.symm

/-- An entry for each name under which something is granted. -/
theorem filteredSchema_exists {column : String} {row : PermissionRow} {grant : ColumnRow}
    (hrow : row ∈ rowsNamed name permissionRows) (hgrant : grant ∈ grantsOf columnRows row column) :
    ∃ t, (filteredSchema connectionId permissionRows columnRows).tables.get name = some t := by
  by_contra hnone
  push Not at hnone
  have hempty := filteredSchema_none connectionId
    (Option.eq_none_iff_forall_ne_some.mpr hnone) column
  have hmem : grant ∈ (rowsNamed name permissionRows).flatMap
      (fun row => grantsOf columnRows row column) := List.mem_flatMap.mpr ⟨row, hrow, hgrant⟩
  rw [hempty] at hmem
  cases hmem

end DataChat.Effective
