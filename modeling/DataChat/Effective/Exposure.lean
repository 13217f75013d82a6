import DataChat.Effective.RowOrder

/-!
# Does merging grants expose more than a single grant?

An entry of the schema merges all grants under one concatenated name. It says which table it is
about; its row filters are the filters of all the grants, and its columns are all their columns.

* `exposed_column`: a column of an entry comes from the first table that grants it.
* `schemaCovered_iff`: every entry is covered by grants on its own table exactly when the first
  table under each concatenated name has all the columns granted under that name.
* `firstTableGrants_of_distinct`: that is so when different tables have different concatenated
  names, in particular when no schema has a dot in its name.
-/

namespace DataChat.Effective

open Platform Relational Outcome

/-! ## What a schema may expose -/

/-- The column permission lets the holder of the table permission read the column. -/
structure GrantsRead (store : Store) (row : PermissionRow) (columnId : Uuid)
    (permission : ColumnPermission) : Prop where
  mem : permission ∈ store.column_permissions
  parent : permission.table_permission_id = row.permission.id
  column : permission.column_id = columnId
  can_read : permission.can_read = true

/-- An entry exposes nothing that its user is not granted. What it means that a row satisfies a
filter with rules is left open; a filter without rules is satisfied by every row. -/
structure EntryCovered {Row : Type} (satisfies : Row → JsonObject → Prop) (store : Store)
    (user : User) (connectionId : Uuid) (t : AllowedTable) : Prop where
  columns : ∀ name column, t.columns.get name = some column →
    ∃ stored ∈ store.columns, stored.id = column.column_id ∧ stored.table_id = t.table_id
  rows : ∀ r, (∀ rowFilter ∈ t.row_filters, satisfies r rowFilter) →
    ∀ name column, t.columns.get name = some column →
      ∃ row ∈ effectiveTablePermissions store user connectionId,
        row.permission.can_read = true ∧ row.table.id = t.table_id ∧
        (hasRules row.permission.row_filter = true → satisfies r row.permission.row_filter) ∧
        ∃ permission, GrantsRead store row column.column_id permission
  masks : ∀ name column, t.columns.get name = some column → column.mask_type = none →
    ∀ row ∈ effectiveTablePermissions store user connectionId, row.permission.can_read = true →
      ∀ permission, GrantsRead store row column.column_id permission →
        permission.mask_type = none

/-- All entries are covered, whatever rows the database returns. -/
def SchemaCovered {Row : Type} (satisfies : Row → JsonObject → Prop) (collation : Collation)
    (store : Store) (user : User) (connectionId : Uuid) : Prop :=
  ∀ permissionRows columnRows allowed,
    Returned collation store user connectionId permissionRows columnRows →
    buildPermissionFilteredSchema store user connectionId permissionRows columnRows =
      .ok allowed →
    ∀ name t, allowed.tables.get name = some t → EntryCovered satisfies store user connectionId t

/-- The first of the readable tables with a concatenated name. -/
def IsFirst (collation : Collation) (store : Store) (user : User) (connectionId : Uuid)
    (first : PermissionRow) : Prop :=
  first ∈ effectiveTablePermissions store user connectionId ∧ first.permission.can_read = true ∧
    ∀ other ∈ effectiveTablePermissions store user connectionId,
      other.permission.can_read = true → qualifiedName other = qualifiedName first →
        tableKey collation first ≤ tableKey collation other

/-- Each column that is granted under a concatenated name is granted on the first table with that
name. -/
def FirstTableGrants (collation : Collation) (store : Store) (user : User)
    (connectionId : Uuid) : Prop :=
  ∀ first, IsFirst collation store user connectionId first →
    ∀ row ∈ effectiveTablePermissions store user connectionId,
      qualifiedName row = qualifiedName first →
      ∀ column, grantOf store user.tenant_id row column ≠ none →
        ∃ own ∈ effectiveTablePermissions store user connectionId,
          own.table.id = first.table.id ∧ grantOf store user.tenant_id own column ≠ none

/-! ## Where an entry comes from -/

variable {store : Store} {user : User} {connectionId : Uuid} {collation : Collation}
  {permissionRows : List PermissionRow} {columnRows : List ColumnRow} {name : String}
  {t : AllowedTable}

theorem grantOf_readable {tenantId : Uuid} {row : PermissionRow} {column : String}
    (h : grantOf store tenantId row column ≠ none) : row.permission.can_read = true := by
  by_contra hread
  unfold grantOf at h
  rw [if_neg hread] at h
  exact h rfl

/-- The table of an entry is the first one with its name. -/
theorem entry_first
    (h : Returned collation store user connectionId permissionRows columnRows)
    (hmerged : Merged columnRows (rowsNamed name permissionRows) t) :
    ∃ first, IsFirst collation store user connectionId first ∧ qualifiedName first = name ∧
      first.table.id = t.table_id := by
  have hidentity := hmerged.identity
  rw [rowsNamed_identity] at hidentity
  obtain ⟨first, hmem, hfirst, hleast⟩ := h.tables.findSome?_eq_some hidentity
  unfold identityOf at hfirst
  split at hfirst
  · rename_i hcondition
    rw [Bool.and_eq_true, decide_eq_true_eq] at hcondition
    obtain ⟨hread, hname⟩ := hcondition
    refine ⟨first, ⟨hmem, hread, fun other hother hread' hname' => ?_⟩, hname,
      (Prod.mk.inj (Option.some.inj hfirst)).1⟩
    apply hleast other hother
    simp [identityOf, hread', hname', hname]
  · cases hfirst

/-- A column of an entry comes from the first table with the name that grants it. -/
theorem exposed_column (hcolumns : ColumnsOfTable store.toTables)
    (h : Returned collation store user connectionId permissionRows columnRows)
    (hmerged : Merged columnRows (rowsNamed name permissionRows) t) {columnName : String}
    {column : AllowedColumn} (hcolumn : t.columns.get columnName = some column) :
    ∃ source ∈ effectiveTablePermissions store user connectionId, ∃ grant,
      namedGrant store user.tenant_id name columnName source = some grant ∧
        grant.column.id = column.column_id ∧
        ∀ other ∈ effectiveTablePermissions store user connectionId,
          namedGrant store user.tenant_id name columnName other ≠ none →
            tableKey collation source ≤ tableKey collation other := by
  rw [hmerged.get_column] at hcolumn
  have hhead := mergedGrants_head name columnName hcolumns h
  cases hgrants : mergedGrants columnRows permissionRows name columnName with
  | nil =>
    rw [hgrants] at hcolumn
    cases hcolumn
  | cons grant rest =>
    rw [hgrants] at hcolumn hhead
    obtain ⟨source, hsource, hnamed, hleast⟩ := h.tables.findSome?_eq_some hhead.symm
    refine ⟨source, hsource, grant, hnamed, ?_, hleast⟩
    rw [← Option.some.inj hcolumn]

theorem grant_column_table (hcolumns : ColumnsOfTable store.toTables) {row : PermissionRow}
    (hrow : row ∈ effectiveTablePermissions store user connectionId) {column : String}
    {grant : ColumnRow} (hgrant : namedGrant store user.tenant_id name column row = some grant) :
    grant.column ∈ store.columns ∧ grant.column.table_id = row.table.id := by
  obtain ⟨hpermission, -, hid, -⟩ := mem_effective_iff.mp hrow
  have hmem := (namedGrant_some hgrant).2.2
  refine ⟨(mem_grantsOf_iff.mp hmem).2.1, ?_⟩
  rw [grant_table hcolumns hpermission hmem, hid]

/-! ## When entries are covered -/

variable {Row : Type} {satisfies : Row → JsonObject → Prop}

theorem firstTableGrants_of_covered {connection : DatabaseConnection}
    (hcolumns : ColumnsOfTable store.toTables)
    (hconnection : getDatabaseConnection store user connectionId = .ok connection)
    (h : SchemaCovered satisfies collation store user connectionId) :
    FirstTableGrants collation store user connectionId := by
  intro first hfirst row hrow hname column hgrant
  obtain ⟨hmemFirst, hreadFirst, hleastFirst⟩ := hfirst
  obtain ⟨permissionRows, hordered⟩ := exists_orderedBy (tableKey collation)
    (effectiveTablePermissions store user connectionId)
  obtain ⟨columnRows, hreturned⟩ := exists_returned hordered
  have hcovered := h permissionRows columnRows _ hreturned
    (build_ok_iff.mpr ⟨⟨connection, hconnection⟩, rfl⟩)
  -- the column is in an entry
  obtain ⟨grant, hgrant⟩ := Option.ne_none_iff_exists'.mp hgrant
  have hnamed : namedGrant store user.tenant_id (qualifiedName first) column row =
      some grant := by
    unfold namedGrant
    rw [if_pos hname, hgrant]
  have hmem : grant ∈ mergedGrants columnRows permissionRows (qualifiedName first) column :=
    (mem_mergedGrants hreturned).mpr ⟨row, hrow, grantOf_readable (by rw [hgrant]; simp), hname,
      (namedGrant_some hnamed).2.2⟩
  obtain ⟨t, ht⟩ : ∃ t, (filteredSchema connectionId permissionRows columnRows).tables.get
      (qualifiedName first) = some t := by
    rw [← Option.ne_none_iff_exists']
    intro hnone
    rw [filteredSchema_absent_iff.mp hnone column] at hmem
    cases hmem
  obtain ⟨hmerged, -⟩ := filteredSchema_some ht
  obtain ⟨merged, hmergedColumn⟩ : ∃ merged, t.columns.get column = some merged := by
    rw [← Option.ne_none_iff_exists', hmerged.get_column]
    intro hnone
    rw [mergedColumn_eq_none.mp hnone] at hmem
    cases hmem
  -- its source is on the table of the entry
  obtain ⟨source, hsource, grant', hnamed', hid, -⟩ :=
    exposed_column hcolumns hreturned hmerged hmergedColumn
  obtain ⟨stored, hstored, hstoredId, hstoredTable⟩ :=
    (hcovered _ t ht).columns column merged hmergedColumn
  obtain ⟨hcolumnMem, hcolumnTable⟩ := grant_column_table hcolumns hsource hnamed'
  have hsame : stored = grant'.column :=
    store.keys.columns.eq_of_key hstored hcolumnMem (hstoredId.trans hid.symm)
  -- and the table of the entry is the first one
  obtain ⟨first', ⟨hmemFirst', hreadFirst', hleastFirst'⟩, hname', htable⟩ :=
    entry_first hreturned hmerged
  have hkey : tableKey collation first = tableKey collation first' :=
    le_antisymm (hleastFirst first' hmemFirst' hreadFirst' hname')
      (hleastFirst' first hmemFirst hreadFirst hname'.symm)
  have hsameTable := (same_table hmemFirst hmemFirst' hkey).1
  refine ⟨source, hsource, ?_, ?_⟩
  · rw [← hcolumnTable, ← hsame, hstoredTable, ← htable, hsameTable]
  · rw [(namedGrant_some hnamed').2.1]
    exact Option.some_ne_none grant'

/-- The source of each column is on the table of the entry. -/
theorem source_table (hcolumns : ColumnsOfTable store.toTables)
    (hfirst : FirstTableGrants collation store user connectionId)
    (h : Returned collation store user connectionId permissionRows columnRows)
    (hmerged : Merged columnRows (rowsNamed name permissionRows) t) {columnName : String}
    {column : AllowedColumn} (hcolumn : t.columns.get columnName = some column) :
    ∃ source ∈ effectiveTablePermissions store user connectionId, ∃ grant,
      namedGrant store user.tenant_id name columnName source = some grant ∧
        grant.column.id = column.column_id ∧ source.table.id = t.table_id := by
  obtain ⟨source, hsource, grant, hnamed, hid, hleast⟩ :=
    exposed_column hcolumns h hmerged hcolumn
  obtain ⟨hname, hgrant, -⟩ := namedGrant_some hnamed
  obtain ⟨first, hisFirst, hfirstName, htable⟩ := entry_first h hmerged
  have hgranted : grantOf store user.tenant_id source columnName ≠ none := by
    rw [hgrant]
    exact Option.some_ne_none grant
  obtain ⟨own, hown, hownTable, hownGrant⟩ :=
    hfirst first hisFirst source hsource (hname.trans hfirstName.symm) columnName hgranted
  obtain ⟨hkey, hownName⟩ := tableKey_eq collation hown hisFirst.1 hownTable
  have hbefore : tableKey collation source ≤ tableKey collation first := by
    rw [← hkey]
    apply hleast own hown
    unfold namedGrant
    rwa [if_pos (hownName.trans hfirstName)]
  have hafter : tableKey collation first ≤ tableKey collation source :=
    hisFirst.2.2 source hsource (grantOf_readable hgranted) (hname.trans hfirstName.symm)
  have hsame := (same_table hsource hisFirst.1 (le_antisymm hbefore hafter)).1
  refine ⟨source, hsource, grant, hnamed, hid, ?_⟩
  rw [hsame, htable]

/-- A grant of a stored column is merged under the name of its table. -/
theorem merged_of_grantsRead (hcolumns : ColumnsOfTable store.toTables)
    (h : Returned collation store user connectionId permissionRows columnRows)
    {source row : PermissionRow} {grant : ColumnRow} {columnName : String}
    {permission : ColumnPermission}
    (hsource : source ∈ effectiveTablePermissions store user connectionId)
    (hnamed : namedGrant store user.tenant_id name columnName source = some grant)
    (hrow : row ∈ effectiveTablePermissions store user connectionId)
    (hread : row.permission.can_read = true)
    (hpermission : GrantsRead store row grant.column.id permission) :
    (⟨permission, grant.column⟩ : ColumnRow) ∈
      mergedGrants columnRows permissionRows name columnName := by
  obtain ⟨hname, -, hgrant⟩ := namedGrant_some hnamed
  obtain ⟨-, hcolumnMem, -, htenant, -, -, hcolumnName⟩ := mem_grantsOf_iff.mp hgrant
  obtain ⟨hrowMem, -, hrowId, -⟩ := mem_effective_iff.mp hrow
  have htable : row.table.id = source.table.id := by
    rw [← (grant_column_table hcolumns hsource hnamed).2, hrowId]
    exact (hcolumns permission hpermission.mem row.permission hrowMem hpermission.parent.symm
      grant.column hcolumnMem hpermission.column.symm).symm
  obtain ⟨-, hrowName⟩ := tableKey_eq collation hrow hsource htable
  exact (mem_mergedGrants h).mpr ⟨row, hrow, hread, hrowName.trans hname,
    mem_grantsOf_iff.mpr ⟨hpermission.mem, hcolumnMem, hpermission.column.symm, htenant,
      hpermission.parent, hpermission.can_read, hcolumnName⟩⟩

theorem covered_of_firstTableGrants (hcolumns : ColumnsOfTable store.toTables)
    (hfirst : FirstTableGrants collation store user connectionId) :
    SchemaCovered satisfies collation store user connectionId := by
  intro permissionRows columnRows allowed h hbuild name t ht
  rw [← (build_ok_iff.mp hbuild).2] at ht
  obtain ⟨hmerged, -⟩ := filteredSchema_some ht
  refine ⟨?_, ?_, ?_⟩
  · intro columnName column hcolumn
    obtain ⟨source, hsource, grant, hnamed, hid, htable⟩ :=
      source_table hcolumns hfirst h hmerged hcolumn
    obtain ⟨hmem, hcolumnTable⟩ := grant_column_table hcolumns hsource hnamed
    exact ⟨grant.column, hmem, hid, hcolumnTable.trans htable⟩
  · intro r hsatisfies columnName column hcolumn
    obtain ⟨source, hsource, grant, hnamed, hid, htable⟩ :=
      source_table hcolumns hfirst h hmerged hcolumn
    obtain ⟨hname, hgrant, hgrantMem⟩ := namedGrant_some hnamed
    have hread : source.permission.can_read = true :=
      grantOf_readable (by rw [hgrant]; exact Option.some_ne_none grant)
    refine ⟨source, hsource, hread, htable, fun hrules => ?_, grant.permission, ?_⟩
    · apply hsatisfies
      rw [hmerged.row_filters, List.mem_filter]
      have hmem := mem_rowsNamed.mpr ⟨h.tables.mem_iff.mpr hsource, hread, hname⟩
      exact ⟨List.mem_map.mpr ⟨source, hmem, rfl⟩, hrules⟩
    · obtain ⟨hpermission, -, hcolumnId, -, hparent, hgrantRead, -⟩ :=
        mem_grantsOf_iff.mp hgrantMem
      exact ⟨hpermission, hparent, hcolumnId.symm.trans hid, hgrantRead⟩
  · intro columnName column hcolumn hunmasked row hrow hread permission hpermission
    obtain ⟨source, hsource, grant, hnamed, hid, -⟩ := exposed_column hcolumns h hmerged hcolumn
    rw [← hid] at hpermission
    have hmem := merged_of_grantsRead hcolumns h hsource hnamed hrow hread hpermission
    have hmask := mergedColumn_mask (mergedGrants columnRows permissionRows name columnName)
    rw [← hmerged.get_column, hcolumn, Option.bind_some, hunmasked] at hmask
    exact List.findSome?_eq_none_iff.mp hmask.symm _ hmem

variable {newUuid : Nat → Uuid}

/-- Entries are covered exactly when the first table under each name has all columns that are
granted under it. -/
theorem schemaCovered_iff {connection : DatabaseConnection} (h : Reachable newUuid store)
    (hconnection : getDatabaseConnection store user connectionId = .ok connection) :
    SchemaCovered satisfies collation store user connectionId ↔
      FirstTableGrants collation store user connectionId := by
  have hcolumns := reachable_columnsOfTable h
  constructor
  · exact firstTableGrants_of_covered hcolumns hconnection
  · exact covered_of_firstTableGrants hcolumns

/-! ## Names without dots -/

/-- Tables with different identifiers have different concatenated names. -/
theorem firstTableGrants_of_distinct
    (h : ∀ row ∈ effectiveTablePermissions store user connectionId,
      ∀ row' ∈ effectiveTablePermissions store user connectionId,
        qualifiedName row = qualifiedName row' → row.table.id = row'.table.id) :
    FirstTableGrants collation store user connectionId := by
  intro first hfirst row hrow hname column hgrant
  exact ⟨row, hrow, h row hrow first hfirst.1 hname, hgrant⟩

theorem append_dot_injective {a a' b b' : List Char} (ha : '.' ∉ a) (ha' : '.' ∉ a')
    (h : a ++ '.' :: b = a' ++ '.' :: b') : a = a' ∧ b = b' := by
  induction a generalizing a' with
  | nil =>
    cases a' with
    | nil => exact ⟨rfl, (List.cons.inj h).2⟩
    | cons c a' =>
      have hdot : '.' = c := (List.cons.inj h).1
      exact absurd (hdot ▸ List.mem_cons_self) ha'
  | cons c a ih =>
    cases a' with
    | nil =>
      have hdot : c = '.' := (List.cons.inj h).1
      exact absurd (hdot ▸ List.mem_cons_self) ha
    | cons c' a' =>
      obtain ⟨hhead, htail⟩ := List.cons.inj h
      obtain ⟨hsame, hrest⟩ := ih (fun hmem => ha (List.mem_cons_of_mem c hmem))
        (fun hmem => ha' (List.mem_cons_of_mem c' hmem)) htail
      exact ⟨by rw [hhead, hsame], hrest⟩

/-- A concatenated name determines the table when schema names have no dots. -/
theorem firstTableGrants_of_no_dot
    (h : ∀ row ∈ effectiveTablePermissions store user connectionId,
      '.' ∉ row.schema.schema_name.toList) :
    FirstTableGrants codePoints store user connectionId := by
  apply firstTableGrants_of_distinct
  intro row hrow row' hrow' hname
  have hchars : row.schema.schema_name.toList ++ '.' :: row.table.table_name.toList =
      row'.schema.schema_name.toList ++ '.' :: row'.table.table_name.toList := by
    have htexts := congrArg String.toList hname
    unfold qualifiedName at htexts
    simpa [String.toList_append] using htexts
  obtain ⟨hschema, htable⟩ := append_dot_injective (h row hrow) (h row' hrow') hchars
  have hkey : tableKey codePoints row = tableKey codePoints row' := by
    unfold tableKey
    rw [String.toList_inj.mp hschema, String.toList_inj.mp htable]
  rw [(same_table hrow hrow' hkey).1]

/-- A table with a single row, which satisfies every filter. -/
def anyFilter (_ : Unit) (_ : JsonObject) : Prop := True

/-- The rows of a table with e-mail addresses, and the filters for a single address. -/
def hasEmail (email : String) (rowFilter : JsonObject) : Prop :=
  rowFilter = (emailFilter email).modelDump

/-- The user and one of his roles have a grant each, with different filters. -/
theorem shopShared_covered :
    SchemaCovered hasEmail codePoints shopShared shopMember "connection" := by
  obtain ⟨connection, hconnection⟩ := shop_connection shopShared (by decide +kernel)
  apply (schemaCovered_iff shopShared_reachable hconnection).mpr
  apply firstTableGrants_of_no_dot
  decide +kernel

/-! ## Two tables with one name -/

def dottedDiscovery : SchemaDiscoveryResult where
  schemas :=
    [⟨"a", [⟨"a", "b.c", "table", none, [],
      [{ column_name := "x", data_type := "text", ordinal_position := 1, is_nullable := true }]⟩]⟩,
     ⟨"a.b", [⟨"a.b", "c", "table", none, [],
      [{ column_name := "y", data_type := "text", ordinal_position := 1, is_nullable := true }]⟩]⟩]
  schema_count := 2
  table_count := 2
  column_count := 2

/-- The member may read one column of a table. -/
def columnGrant (table column : Nat) : TablePermissionCreate where
  role_id := none
  user_id := some "member"
  connection_id := "connection"
  table_id := shopUuid table
  columns := [{ column_id := shopUuid column, hidden_unmasked := fun _ => rfl }]
  max_length := Nat.le_of_ble_eq_true rfl
  subject := Bool.false_ne_true

def dottedCached : Store :=
  (synchronizeDatabaseSchema shopUuid 0 shopAccounts shopAdmin "connection"
    (.ok dottedDiscovery)).1

def dottedGranted : Store :=
  createdStore (createPermission shopUuid dottedCached shopAdmin (columnGrant 1 2))

def dottedGrantedTwice : Store :=
  createdStore (createPermission shopUuid dottedGranted shopAdmin (columnGrant 4 5))

theorem dottedGrantedTwice_reachable : Reachable shopUuid dottedGrantedTwice := by
  have haccounts : Platform.Step shopUuid Store.empty shopAccounts :=
    Platform.Step.accounts _ _ _ _ (storeOf_ok (by decide +kernel))
  obtain ⟨response, hcreated⟩ := createdStore_ok
    (createPermission shopUuid dottedCached shopAdmin (columnGrant 1 2)) (by decide +kernel)
  obtain ⟨response', hcreated'⟩ := createdStore_ok
    (createPermission shopUuid dottedGranted shopAdmin (columnGrant 4 5)) (by decide +kernel)
  have hcached : Reachable shopUuid dottedCached :=
    (Reachable.empty.step haccounts).step (Step.synchronize _ _ _ _)
  exact (hcached.step (Step.createPermission _ _ _ hcreated)).step
    (Step.createPermission _ _ _ hcreated')

/-- The column `y` of the table `c` in the schema `a.b` is merged into the table `b.c` of the
schema `a`. -/
theorem dotted_not_covered :
    Reachable shopUuid dottedGrantedTwice ∧
      ¬ SchemaCovered anyFilter codePoints dottedGrantedTwice shopMember "connection" := by
  refine ⟨dottedGrantedTwice_reachable, fun h => ?_⟩
  obtain ⟨connection, hconnection⟩ := shop_connection dottedGrantedTwice (by decide +kernel)
  have hgrants := firstTableGrants_of_covered
    (reachable_columnsOfTable dottedGrantedTwice_reachable) hconnection h
  have hnames : (effectiveTablePermissions dottedGrantedTwice shopMember "connection").map
      (fun row => (row.schema.schema_name, row.table.table_name)) =
        [("a", "b.c"), ("a.b", "c")] := by
    decide +kernel
  have hread : ∀ row ∈ effectiveTablePermissions dottedGrantedTwice shopMember "connection",
      row.permission.can_read = true := by
    decide +kernel
  have hgranted : ∀ row ∈ effectiveTablePermissions dottedGrantedTwice shopMember "connection",
      (grantOf dottedGrantedTwice "tenant" row "y").isSome =
        decide (row.schema.schema_name = "a.b") := by
    decide +kernel
  obtain ⟨first, rows, hrows, hfirst, htail⟩ := List.map_eq_cons_iff.mp hnames
  obtain ⟨row, rest, hrest, hrow, hnil⟩ := List.map_eq_cons_iff.mp htail
  obtain rfl := List.map_eq_nil_iff.mp hnil
  rw [hrest] at hrows
  obtain ⟨hfirstSchema, hfirstTable⟩ := Prod.mk.inj hfirst
  obtain ⟨hrowSchema, hrowTable⟩ := Prod.mk.inj hrow
  have hmemFirst : first ∈ effectiveTablePermissions dottedGrantedTwice shopMember
      "connection" := by
    rw [hrows]
    exact List.mem_cons_self
  have hmemRow : row ∈ effectiveTablePermissions dottedGrantedTwice shopMember "connection" := by
    rw [hrows]
    exact List.mem_cons_of_mem _ List.mem_cons_self
  have hisFirst : IsFirst codePoints dottedGrantedTwice shopMember "connection" first := by
    refine ⟨hmemFirst, hread first hmemFirst, fun other hother _ _ => ?_⟩
    rw [hrows] at hother
    rcases List.mem_cons.mp hother with rfl | hother
    · exact le_refl _
    · rw [List.mem_singleton.mp hother]
      apply le_of_lt
      apply Prod.Lex.toLex_lt_toLex.mpr
      left
      rw [hfirstSchema, hrowSchema]
      have hlt : ("a" : String) < "a.b" := by decide +kernel
      exact hlt
  have hrowName : qualifiedName row = qualifiedName first := by
    unfold qualifiedName
    rw [hfirstSchema, hfirstTable, hrowSchema, hrowTable]
    decide +kernel
  have hrowGrant : grantOf dottedGrantedTwice "tenant" row "y" ≠ none := by
    rw [← Option.isSome_iff_ne_none, hgranted row hmemRow, hrowSchema]
    decide
  obtain ⟨own, hown, hownTable, hownGrant⟩ :=
    hgrants first hisFirst row hmemRow hrowName "y" hrowGrant
  have hschemas : ∀ r ∈ effectiveTablePermissions dottedGrantedTwice shopMember "connection",
      ∀ r' ∈ effectiveTablePermissions dottedGrantedTwice shopMember "connection",
        r.table.id = r'.table.id → r.schema.schema_name = r'.schema.schema_name := by
    decide +kernel
  have hownSome : (grantOf dottedGrantedTwice "tenant" own "y").isSome = true :=
    Option.isSome_iff_ne_none.mpr hownGrant
  rw [hgranted own hown, hschemas own hown first hmemFirst hownTable, hfirstSchema] at hownSome
  exact absurd hownSome (by decide)

end DataChat.Effective
