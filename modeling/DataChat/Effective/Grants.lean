import DataChat.Effective.Merge

/-!
# The grants of a user

What the constraints of the store say about the rows that the queries join.

* `mem_effective_iff`, `mem_grantsOf_iff`: the joined rows.
* `same_table`: rows that the sort order does not tell apart are about one table.
* `grant_unique`: a table permission grants a column at most once.
* `grantsOf_head`: hence its grant does not depend on the order of the rows.
* `mergedGrants_head`, `mergedGrants_mask`: the grants that are merged into a column come from
  the first row, and the first masked row, under the concatenated name.
-/

namespace DataChat.Effective

open Platform Relational

variable {store : Store} {user : User} {connectionId : Uuid} {collation : Collation}

/-! ## Joined rows -/

theorem joinTable_eq_some {permission : TablePermission} {row : PermissionRow} :
    joinTable store permission = some row ↔
      row.permission = permission ∧ row.table ∈ store.tables ∧
        row.table.id = permission.table_id ∧ row.schema ∈ store.schemas ∧
        row.schema.id = row.table.schema_id := by
  unfold joinTable
  rw [Option.bind_eq_some_iff]
  constructor
  · rintro ⟨table, htable, hschema⟩
    obtain ⟨schema, hlookup, rfl⟩ := Option.map_eq_some_iff.mp hschema
    obtain ⟨hmem, hid⟩ := lookup_some htable
    obtain ⟨hmem', hid'⟩ := lookup_some hlookup
    exact ⟨rfl, hmem, hid, hmem', hid'⟩
  · rintro ⟨rfl, hmem, hid, hmem', hid'⟩
    refine ⟨row.table, (lookup_eq_some_iff store.keys.tables).mpr ⟨hmem, hid⟩, ?_⟩
    rw [(lookup_eq_some_iff store.keys.schemas).mpr ⟨hmem', hid'⟩]
    rfl

theorem mem_effective_iff {row : PermissionRow} :
    row ∈ effectiveTablePermissions store user connectionId ↔
      row.permission ∈ store.table_permissions ∧ row.table ∈ store.tables ∧
        row.table.id = row.permission.table_id ∧ row.schema ∈ store.schemas ∧
        row.schema.id = row.table.schema_id ∧
        isEffective user.tenant_id user.id connectionId (getUserRoleIds store user.id) row =
          true := by
  unfold effectiveTablePermissions
  rw [List.mem_filter, List.mem_filterMap]
  constructor
  · rintro ⟨⟨permission, hpermission, hjoin⟩, heffective⟩
    obtain ⟨rfl, htable, hid, hschema, hid'⟩ := joinTable_eq_some.mp hjoin
    exact ⟨hpermission, htable, hid, hschema, hid', heffective⟩
  · rintro ⟨hpermission, htable, hid, hschema, hid', heffective⟩
    exact ⟨⟨row.permission, hpermission,
      joinTable_eq_some.mpr ⟨rfl, htable, hid, hschema, hid'⟩⟩, heffective⟩

/-- Rows with one sort key are about one table. -/
theorem same_table {row row' : PermissionRow}
    (h : row ∈ effectiveTablePermissions store user connectionId)
    (h' : row' ∈ effectiveTablePermissions store user connectionId)
    (hkey : tableKey collation row = tableKey collation row') :
    row.table = row'.table ∧ row.schema = row'.schema := by
  obtain ⟨-, htable, -, hschema, hschemaId, heffective⟩ := mem_effective_iff.mp h
  obtain ⟨-, htable', -, hschema', hschemaId', heffective'⟩ := mem_effective_iff.mp h'
  obtain ⟨-, -, -, hconnection, -, -, hschemaConnection, -⟩ := of_decide_eq_true heffective
  obtain ⟨-, -, -, hconnection', -, -, hschemaConnection', -⟩ := of_decide_eq_true heffective'
  have hnames := Prod.mk.inj (toLex.injective hkey)
  have hschemaName := collation.injective hnames.1
  have htableName := collation.injective hnames.2
  have hsameSchema : row.schema = row'.schema := by
    apply store.keys.uq_database_schemas_connection_name.eq_of_value hschema hschema' rfl
    rw [hschemaConnection, hschemaConnection', hschemaName]
  refine ⟨?_, hsameSchema⟩
  have hsameId : row.table.schema_id = row'.table.schema_id := by
    rw [← hschemaId, ← hschemaId', hsameSchema]
  apply store.keys.uq_database_tables_connection_schema_name.eq_of_value htable htable' rfl
  rw [hconnection, hconnection', hsameId, htableName]

/-- Rows about one table have one sort key. -/
theorem tableKey_eq (collation : Collation) {row row' : PermissionRow}
    (h : row ∈ effectiveTablePermissions store user connectionId)
    (h' : row' ∈ effectiveTablePermissions store user connectionId)
    (hid : row.table.id = row'.table.id) :
    tableKey collation row = tableKey collation row' ∧ qualifiedName row = qualifiedName row' := by
  obtain ⟨-, htable, -, hschema, hschemaId, -⟩ := mem_effective_iff.mp h
  obtain ⟨-, htable', -, hschema', hschemaId', -⟩ := mem_effective_iff.mp h'
  have hsameTable := store.keys.tables.eq_of_key htable htable' hid
  have hsameSchema : row.schema = row'.schema := by
    apply store.keys.schemas.eq_of_key hschema hschema'
    rw [hschemaId, hschemaId', hsameTable]
  unfold tableKey qualifiedName
  rw [hsameTable, hsameSchema]
  exact ⟨rfl, rfl⟩

/-! ## Column grants -/

/-- The column rows of a tenant. -/
def tenantColumns (store : Store) (tenantId : Uuid) : List ColumnRow :=
  (store.column_permissions.filterMap (joinColumn store)).filter (fun row =>
    row.column.tenant_id = tenantId)

/-- The grant that a readable table permission contains for a column name. -/
def grantOf (store : Store) (tenantId : Uuid) (row : PermissionRow) (name : String) :
    Option ColumnRow :=
  if row.permission.can_read then (grantsOf (tenantColumns store tenantId) row name).head?
  else none

theorem mem_grantsOf_iff {tenantId : Uuid} {row : PermissionRow} {name : String}
    {grant : ColumnRow} :
    grant ∈ grantsOf (tenantColumns store tenantId) row name ↔
      grant.permission ∈ store.column_permissions ∧ grant.column ∈ store.columns ∧
        grant.column.id = grant.permission.column_id ∧ grant.column.tenant_id = tenantId ∧
        grant.permission.table_permission_id = row.permission.id ∧
        grant.permission.can_read = true ∧ grant.column.column_name = name := by
  unfold grantsOf tenantColumns isGrantOf
  simp only [List.mem_filter, List.mem_filterMap, decide_eq_true_eq, Bool.and_eq_true]
  constructor
  · rintro ⟨⟨⟨⟨permission, hpermission, hjoin⟩, htenant⟩, hparent⟩, hread, hname⟩
    obtain ⟨column, hlookup, rfl⟩ := Option.map_eq_some_iff.mp hjoin
    obtain ⟨hmem, hid⟩ := lookup_some hlookup
    exact ⟨hpermission, hmem, hid, htenant, hparent, hread, hname⟩
  · rintro ⟨hpermission, hmem, hid, htenant, hparent, hread, hname⟩
    refine ⟨⟨⟨⟨grant.permission, hpermission, ?_⟩, htenant⟩, hparent⟩, hread, hname⟩
    unfold joinColumn
    rw [(lookup_eq_some_iff store.keys.columns).mpr ⟨hmem, hid⟩]
    rfl

variable {permissionRows : List PermissionRow} {columnRows : List ColumnRow}

/-- The column rows that the database returns contain the grants of each readable row. -/
theorem Returned.mem_grantsOf (h : Returned collation store user connectionId permissionRows
    columnRows) {row : PermissionRow} (hrow : row ∈ readable permissionRows) {name : String}
    {grant : ColumnRow} :
    grant ∈ grantsOf columnRows row name ↔
      grant ∈ grantsOf (tenantColumns store user.tenant_id) row name := by
  unfold grantsOf
  rw [List.mem_filter, List.mem_filter, List.mem_filter, List.mem_filter, h.columns.mem_iff]
  unfold effectiveColumnPermissions tenantColumns
  rw [List.mem_filter, List.mem_filter]
  simp only [decide_eq_true_eq]
  constructor
  · rintro ⟨⟨⟨hmem, -, htenant⟩, hparent⟩, hgrant⟩
    exact ⟨⟨⟨hmem, htenant⟩, hparent⟩, hgrant⟩
  · rintro ⟨⟨⟨hmem, htenant⟩, hparent⟩, hgrant⟩
    have hid : grant.permission.table_permission_id ∈
        (readable permissionRows).map (fun row => row.permission.id) := by
      rw [hparent]
      exact List.mem_map.mpr ⟨row, hrow, rfl⟩
    exact ⟨⟨⟨hmem, hid, htenant⟩, hparent⟩, hgrant⟩

/-- The column of a grant belongs to the table of the permission. -/
theorem grant_table (hcolumns : ColumnsOfTable store.toTables) {tenantId : Uuid}
    {row : PermissionRow} (hrow : row.permission ∈ store.table_permissions) {name : String}
    {grant : ColumnRow} (hgrant : grant ∈ grantsOf (tenantColumns store tenantId) row name) :
    grant.column.table_id = row.permission.table_id := by
  obtain ⟨hpermission, hcolumn, hid, -, hparent, -, -⟩ := mem_grantsOf_iff.mp hgrant
  exact hcolumns grant.permission hpermission row.permission hrow hparent.symm grant.column hcolumn
    hid

/-- A permission grants a column once. -/
theorem grant_unique (hcolumns : ColumnsOfTable store.toTables) {tenantId : Uuid}
    {row : PermissionRow} (hrow : row.permission ∈ store.table_permissions) {name : String}
    {grant grant' : ColumnRow} (hgrant : grant ∈ grantsOf (tenantColumns store tenantId) row name)
    (hgrant' : grant' ∈ grantsOf (tenantColumns store tenantId) row name) : grant = grant' := by
  have htable := grant_table hcolumns hrow hgrant
  have htable' := grant_table hcolumns hrow hgrant'
  obtain ⟨hpermission, hcolumn, hid, -, hparent, -, hname⟩ := mem_grantsOf_iff.mp hgrant
  obtain ⟨hpermission', hcolumn', hid', -, hparent', -, hname'⟩ := mem_grantsOf_iff.mp hgrant'
  have hsameColumn : grant.column = grant'.column := by
    apply store.keys.uq_database_columns_table_name.eq_of_value hcolumn hcolumn' rfl
    rw [htable, htable', hname, hname']
  have hsamePermission : grant.permission = grant'.permission := by
    apply store.keys.uq_column_permissions_table_permission_column.eq_of_value hpermission
      hpermission' rfl
    rw [hparent, hparent', ← hid, ← hid', hsameColumn]
  cases grant
  cases grant'
  rw [ColumnRow.mk.injEq]
  exact ⟨hsamePermission, hsameColumn⟩

/-- Lists whose elements are all the same have one head, however often it occurs. -/
theorem head?_eq_of_mem_iff {α : Type} {l l' : List α} (hmem : ∀ a, a ∈ l ↔ a ∈ l')
    (hsame : ∀ a ∈ l', ∀ b ∈ l', a = b) : l.head? = l'.head? := by
  cases l with
  | nil =>
    cases l' with
    | nil => rfl
    | cons b l' => exact absurd ((hmem b).mpr List.mem_cons_self) List.not_mem_nil
  | cons a l =>
    cases l' with
    | nil => exact absurd ((hmem a).mp List.mem_cons_self) List.not_mem_nil
    | cons b l' =>
      have heq := hsame a ((hmem a).mp List.mem_cons_self) b List.mem_cons_self
      rw [List.head?_cons, List.head?_cons, heq]

theorem findSome?_eq_head? {α β : Type} {l : List α} (hsame : ∀ a ∈ l, ∀ b ∈ l, a = b)
    (f : α → Option β) : l.findSome? f = l.head?.bind f := by
  induction l with
  | nil => rfl
  | cons a l ih =>
    rw [List.findSome?_cons, List.head?_cons, Option.bind_some]
    cases ha : f a with
    | some b => rfl
    | none =>
      rw [List.findSome?_eq_none_iff]
      intro b hb
      rw [← hsame a List.mem_cons_self b (List.mem_cons_of_mem a hb)]
      exact ha

/-- The grants of a readable row, whichever rows the database returns. -/
theorem grantsOf_head (hcolumns : ColumnsOfTable store.toTables)
    (h : Returned collation store user connectionId permissionRows columnRows)
    {row : PermissionRow} (hrow : row ∈ readable permissionRows) (name : String) :
    (grantsOf columnRows row name).head? = grantOf store user.tenant_id row name ∧
      ∀ a ∈ grantsOf columnRows row name, ∀ b ∈ grantsOf columnRows row name, a = b := by
  obtain ⟨hmem, hread⟩ := List.mem_filter.mp hrow
  have hpermission := (mem_effective_iff.mp (h.tables.mem_iff.mp hmem)).1
  have hiff : ∀ grant, grant ∈ grantsOf columnRows row name ↔
      grant ∈ grantsOf (tenantColumns store user.tenant_id) row name :=
    fun grant => h.mem_grantsOf hrow
  constructor
  · unfold grantOf
    rw [if_pos hread]
    exact head?_eq_of_mem_iff hiff (fun a ha b hb => grant_unique hcolumns hpermission ha hb)
  · intro a ha b hb
    exact grant_unique hcolumns hpermission ((hiff a).mp ha) ((hiff b).mp hb)

/-! ## The grants under a concatenated name -/

theorem findSome?_flatMap {α β γ : Type} (l : List α) (g : α → List β) (f : β → Option γ) :
    (l.flatMap g).findSome? f = l.findSome? (fun a => (g a).findSome? f) := by
  induction l with
  | nil => rfl
  | cons a l ih =>
    rw [List.flatMap_cons, List.findSome?_append, List.findSome?_cons, ih]
    cases (g a).findSome? f <;> rfl

theorem findSome?_filter_congr {α β : Type} {p : α → Bool} {l : List α} {f g : α → Option β}
    (h : ∀ a ∈ l, (if p a then f a else none) = g a) :
    (l.filter p).findSome? f = l.findSome? g := by
  induction l with
  | nil => rfl
  | cons a l ih =>
    have htail := ih (fun b hb => h b (List.mem_cons_of_mem a hb))
    have hhead := h a List.mem_cons_self
    by_cases hp : p a
    · rw [if_pos hp] at hhead
      rw [List.filter_cons_of_pos hp, List.findSome?_cons, List.findSome?_cons, hhead, htail]
    · rw [if_neg hp] at hhead
      rw [List.filter_cons_of_neg hp, List.findSome?_cons, ← hhead, htail]

/-- The grant of a row, if the row has the name. -/
def namedGrant (store : Store) (tenantId : Uuid) (name column : String) (row : PermissionRow) :
    Option ColumnRow :=
  if qualifiedName row = name then grantOf store tenantId row column else none

/-- The grants that are merged into a column, in their order. -/
def mergedGrants (columnRows : List ColumnRow) (permissionRows : List PermissionRow)
    (name column : String) : List ColumnRow :=
  (rowsNamed name permissionRows).flatMap (fun row => grantsOf columnRows row column)

variable {permissionRows' : List PermissionRow} {columnRows' : List ColumnRow}
  {name column : String}

theorem Merged.get_column {t : AllowedTable}
    (h : Merged columnRows (rowsNamed name permissionRows) t) (column : String) :
    t.columns.get column = mergedColumn (mergedGrants columnRows permissionRows name column) :=
  h.columns column

/-- A table is absent when nothing is granted under its name. -/
theorem filteredSchema_absent_iff :
    (filteredSchema connectionId permissionRows columnRows).tables.get name = none ↔
      ∀ column, mergedGrants columnRows permissionRows name column = [] := by
  refine ⟨fun h column => filteredSchema_none connectionId h column, fun h => ?_⟩
  cases hentry : (filteredSchema connectionId permissionRows columnRows).tables.get name with
  | none => rfl
  | some t =>
    obtain ⟨hmerged, column, hcolumn⟩ := filteredSchema_some hentry
    rw [hmerged.get_column column, h column] at hcolumn
    exact absurd rfl hcolumn

theorem rowsNamed_eq_filter (name : String) (rows : List PermissionRow) :
    rowsNamed name rows =
      rows.filter (fun row => row.permission.can_read && decide (qualifiedName row = name)) := by
  unfold rowsNamed readable
  rw [List.filter_filter]
  refine List.filter_congr (fun row _ => ?_)
  rw [Bool.and_comm]

theorem namedGrant_head (hcolumns : ColumnsOfTable store.toTables)
    (h : Returned collation store user connectionId permissionRows columnRows)
    {row : PermissionRow} (hrow : row ∈ permissionRows) :
    (if row.permission.can_read && decide (qualifiedName row = name) then
      (grantsOf columnRows row column).head? else none) =
      namedGrant store user.tenant_id name column row := by
  unfold namedGrant
  by_cases hread : row.permission.can_read
  · have hreadable : row ∈ readable permissionRows := List.mem_filter.mpr ⟨hrow, hread⟩
    rw [(grantsOf_head hcolumns h hreadable column).1, hread]
    simp
  · have hnone : grantOf store user.tenant_id row column = none := by
      unfold grantOf
      rw [if_neg hread]
    simp [hread, hnone]

/-- The first grant under a name, -/
theorem mergedGrants_head (name column : String) (hcolumns : ColumnsOfTable store.toTables)
    (h : Returned collation store user connectionId permissionRows columnRows) :
    (mergedGrants columnRows permissionRows name column).head? =
      permissionRows.findSome? (namedGrant store user.tenant_id name column) := by
  unfold mergedGrants
  rw [List.head?_flatMap, rowsNamed_eq_filter]
  exact findSome?_filter_congr (fun row hrow => namedGrant_head hcolumns h hrow)

/-- and the first mask. -/
theorem mergedGrants_mask (name column : String) (hcolumns : ColumnsOfTable store.toTables)
    (h : Returned collation store user connectionId permissionRows columnRows) :
    (mergedGrants columnRows permissionRows name column).findSome?
        (fun g => g.permission.mask_type) =
      permissionRows.findSome? (fun row =>
        (namedGrant store user.tenant_id name column row).bind
          (fun g => g.permission.mask_type)) := by
  unfold mergedGrants
  rw [findSome?_flatMap, rowsNamed_eq_filter]
  refine findSome?_filter_congr (fun row hrow => ?_)
  rw [← namedGrant_head hcolumns h hrow]
  by_cases hread : row.permission.can_read
  · have hreadable : row ∈ readable permissionRows := List.mem_filter.mpr ⟨hrow, hread⟩
    rw [findSome?_eq_head? (grantsOf_head hcolumns h hreadable column).2]
    split <;> rfl
  · simp [hread]

theorem mem_rowsNamed {row : PermissionRow} :
    row ∈ rowsNamed name permissionRows ↔
      row ∈ permissionRows ∧ row.permission.can_read = true ∧ qualifiedName row = name := by
  unfold rowsNamed readable
  rw [List.mem_filter, List.mem_filter, decide_eq_true_eq, and_assoc]

theorem mem_mergedGrants
    (h : Returned collation store user connectionId permissionRows columnRows)
    {grant : ColumnRow} :
    grant ∈ mergedGrants columnRows permissionRows name column ↔
      ∃ row ∈ effectiveTablePermissions store user connectionId,
        row.permission.can_read = true ∧ qualifiedName row = name ∧
          grant ∈ grantsOf (tenantColumns store user.tenant_id) row column := by
  unfold mergedGrants
  rw [List.mem_flatMap]
  constructor
  · rintro ⟨row, hrow, hgrant⟩
    obtain ⟨hmem, hread, hname⟩ := mem_rowsNamed.mp hrow
    have hreadable : row ∈ readable permissionRows := List.mem_filter.mpr ⟨hmem, hread⟩
    exact ⟨row, h.tables.mem_iff.mp hmem, hread, hname, (h.mem_grantsOf hreadable).mp hgrant⟩
  · rintro ⟨row, hrow, hread, hname, hgrant⟩
    have hmem := h.tables.mem_iff.mpr hrow
    have hreadable : row ∈ readable permissionRows := List.mem_filter.mpr ⟨hmem, hread⟩
    exact ⟨row, mem_rowsNamed.mpr ⟨hmem, hread, hname⟩, (h.mem_grantsOf hreadable).mpr hgrant⟩

/-- The same grants are merged, in some order. -/
theorem mergedGrants_any (h : Returned collation store user connectionId permissionRows columnRows)
    (h' : Returned collation store user connectionId permissionRows' columnRows')
    (p : ColumnRow → Bool) :
    (mergedGrants columnRows permissionRows name column).any p =
      (mergedGrants columnRows' permissionRows' name column).any p := by
  rw [Bool.eq_iff_iff, List.any_eq_true, List.any_eq_true]
  simp only [mem_mergedGrants h, mem_mergedGrants h']

end DataChat.Effective
