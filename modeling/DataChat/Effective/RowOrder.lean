import DataChat.Effective.Grants

/-!
# Does the schema depend on the order of the rows?

The database sorts the permission rows by schema and table. Two grants on one table, one to the
user and one to a role, come in either order, and the merge keeps the first mask it meets.

* `sameSchema_of_masksAgree`: everything but the mask is the same for each order.
* `schemaDetermined_iff`: the schema is determined exactly when the masks that may come first
  agree.
-/

namespace DataChat.Effective

open Platform Relational Outcome

/-! ## Schemas up to the order of their items -/

structure SameTable (a b : AllowedTable) : Prop where
  identity : (a.table_id, a.schema_name, a.table_name) = (b.table_id, b.schema_name, b.table_name)
  flags : (a.can_read, a.can_insert, a.can_update, a.can_delete) =
    (b.can_read, b.can_insert, b.can_update, b.can_delete)
  columns : ∀ name, a.columns.get name = b.columns.get name
  row_filters : ∀ rowFilter, rowFilter ∈ a.row_filters ↔ rowFilter ∈ b.row_filters

/-- The same tables, with the row filters as sets. -/
structure SameSchema (a b : AllowedSchema) : Prop where
  connection_id : a.connection_id = b.connection_id
  absent : ∀ name, a.tables.get name = none ↔ b.tables.get name = none
  present : ∀ name t t', a.tables.get name = some t → b.tables.get name = some t' → SameTable t t'

/-- Whatever rows the database returns, the service builds the same schema. -/
def SchemaDetermined (collation : Collation) (store : Store) (user : User)
    (connectionId : Uuid) : Prop :=
  ∀ permissionRows columnRows permissionRows' columnRows' allowed allowed',
    Returned collation store user connectionId permissionRows columnRows →
    Returned collation store user connectionId permissionRows' columnRows' →
    buildPermissionFilteredSchema store user connectionId permissionRows columnRows =
      .ok allowed →
    buildPermissionFilteredSchema store user connectionId permissionRows' columnRows' =
      .ok allowed' →
    SameSchema allowed allowed'

/-- The mask under which a readable table permission grants a column. -/
def maskOf (store : Store) (tenantId : Uuid) (row : PermissionRow) (name : String) :
    Option String :=
  (grantOf store tenantId row name).bind (fun grant => grant.permission.mask_type)

/-- Two grants of a column of one table that both mask it do so in the same way, unless a table
that is sorted before and has the same concatenated name masks a column of that name. -/
def MasksAgree (collation : Collation) (store : Store) (user : User) (connectionId : Uuid) :
    Prop :=
  ∀ row ∈ effectiveTablePermissions store user connectionId,
    ∀ row' ∈ effectiveTablePermissions store user connectionId, row.table.id = row'.table.id →
      ∀ name mask mask', maskOf store user.tenant_id row name = some mask →
        maskOf store user.tenant_id row' name = some mask' →
        (∀ other ∈ effectiveTablePermissions store user connectionId,
          qualifiedName other = qualifiedName row →
          maskOf store user.tenant_id other name ≠ none →
          tableKey collation row ≤ tableKey collation other) →
        mask = mask'

variable {store : Store} {user : User} {connectionId : Uuid} {collation : Collation}
  {permissionRows permissionRows' : List PermissionRow}
  {columnRows columnRows' : List ColumnRow} {name column : String}

/-! ## When the masks agree -/

/-- A merged column is determined by the first grant, the first mask and the flags. -/
theorem mergedColumn_congr {grants grants' : List ColumnRow}
    (hcolumn : grants.head?.map ColumnRow.column = grants'.head?.map ColumnRow.column)
    (hfilter : grants.any (fun g => g.permission.can_filter) =
      grants'.any (fun g => g.permission.can_filter))
    (haggregate : grants.any (fun g => g.permission.can_aggregate) =
      grants'.any (fun g => g.permission.can_aggregate))
    (hmask : grants.findSome? (fun g => g.permission.mask_type) =
      grants'.findSome? (fun g => g.permission.mask_type)) :
    mergedColumn grants = mergedColumn grants' := by
  cases grants with
  | nil =>
    cases grants' with
    | nil => rfl
    | cons first' rest' => cases hcolumn
  | cons first rest =>
    cases grants' with
    | nil => cases hcolumn
    | cons first' rest' =>
      have hsame : first.column = first'.column := Option.some.inj hcolumn
      simp only [mergedColumn, hfilter, haggregate, hmask, hsame]

theorem mergedColumn_mask (grants : List ColumnRow) :
    (mergedColumn grants).bind AllowedColumn.mask_type =
      grants.findSome? (fun g => g.permission.mask_type) := by
  cases grants with
  | nil => rfl
  | cons first rest => rfl

theorem namedGrant_some {tenantId : Uuid} {row : PermissionRow} {grant : ColumnRow}
    (h : namedGrant store tenantId name column row = some grant) :
    qualifiedName row = name ∧ grantOf store tenantId row column = some grant ∧
      grant ∈ grantsOf (tenantColumns store tenantId) row column := by
  unfold namedGrant at h
  split at h
  · rename_i hname
    refine ⟨hname, h, ?_⟩
    unfold grantOf at h
    split at h
    · exact List.mem_of_mem_head? h
    · cases h
  · cases h

/-- Grants of tables that are sorted alike are of the same column. -/
theorem same_column (hcolumns : ColumnsOfTable store.toTables) {row row' : PermissionRow}
    (hrow : row ∈ effectiveTablePermissions store user connectionId)
    (hrow' : row' ∈ effectiveTablePermissions store user connectionId)
    (hkey : tableKey collation row = tableKey collation row') {grant grant' : ColumnRow}
    (hnamed : namedGrant store user.tenant_id name column row = some grant)
    (hnamed' : namedGrant store user.tenant_id name column row' = some grant') :
    grant.column = grant'.column := by
  have hmem := (namedGrant_some hnamed).2.2
  have hmem' := (namedGrant_some hnamed').2.2
  obtain ⟨hpermission, -, hid, -⟩ := mem_effective_iff.mp hrow
  obtain ⟨hpermission', -, hid', -⟩ := mem_effective_iff.mp hrow'
  obtain ⟨-, hcolumn, -, -, -, -, hname⟩ := mem_grantsOf_iff.mp hmem
  obtain ⟨-, hcolumn', -, -, -, -, hname'⟩ := mem_grantsOf_iff.mp hmem'
  apply store.keys.uq_database_columns_table_name.eq_of_value hcolumn hcolumn' rfl
  rw [grant_table hcolumns hpermission hmem, grant_table hcolumns hpermission' hmem', ← hid,
    ← hid', (same_table hrow hrow' hkey).1, hname, hname']

/-- The first grant of a column is of the same column in each order. -/
theorem column_determined (hcolumns : ColumnsOfTable store.toTables)
    (h : Returned collation store user connectionId permissionRows columnRows)
    (h' : Returned collation store user connectionId permissionRows' columnRows') :
    (mergedGrants columnRows permissionRows name column).head?.map ColumnRow.column =
      (mergedGrants columnRows' permissionRows' name column).head?.map ColumnRow.column := by
  rw [mergedGrants_head name column hcolumns h, mergedGrants_head name column hcolumns h',
    List.map_findSome?, List.map_findSome?]
  refine findSome?_determined_iff.mpr ?_ _ _ h.tables h'.tables
  intro row hrow row' hrow' hkey hgrant hgrant' _
  obtain ⟨found, hfound⟩ := Option.ne_none_iff_exists'.mp hgrant
  obtain ⟨found', hfound'⟩ := Option.ne_none_iff_exists'.mp hgrant'
  obtain ⟨grant, hnamed, rfl⟩ := Option.map_eq_some_iff.mp hfound
  obtain ⟨grant', hnamed', rfl⟩ := Option.map_eq_some_iff.mp hfound'
  have hsame := same_column hcolumns hrow hrow' hkey hnamed hnamed'
  rw [hfound, hfound', hsame]

theorem maskOf_of_named {tenantId : Uuid} {row : PermissionRow} {mask : String} :
    (namedGrant store tenantId name column row).bind (fun g => g.permission.mask_type) =
        some mask ↔
      qualifiedName row = name ∧ maskOf store tenantId row column = some mask := by
  unfold namedGrant maskOf
  by_cases hname : qualifiedName row = name <;> simp [hname]

/-- The first mask of each column is the same in each order exactly when the masks that may come
first agree. -/
theorem masksAgree_iff :
    MasksAgree collation store user connectionId ↔
      ∀ name column permissionRows permissionRows',
        OrderedBy (tableKey collation) (effectiveTablePermissions store user connectionId)
          permissionRows →
        OrderedBy (tableKey collation) (effectiveTablePermissions store user connectionId)
          permissionRows' →
        permissionRows.findSome? (fun row =>
            (namedGrant store user.tenant_id name column row).bind
              (fun g => g.permission.mask_type)) =
          permissionRows'.findSome? (fun row =>
            (namedGrant store user.tenant_id name column row).bind
              (fun g => g.permission.mask_type)) := by
  constructor
  · intro hagree name column
    refine findSome?_determined_iff.mpr ?_
    intro row hrow row' hrow' hkey hmask hmask' hleast
    obtain ⟨mask, hm⟩ := Option.ne_none_iff_exists'.mp hmask
    obtain ⟨mask', hm'⟩ := Option.ne_none_iff_exists'.mp hmask'
    obtain ⟨hname, hmaskOf⟩ := maskOf_of_named.mp hm
    obtain ⟨-, hmaskOf'⟩ := maskOf_of_named.mp hm'
    have hid : row.table.id = row'.table.id := by rw [(same_table hrow hrow' hkey).1]
    have heq := hagree row hrow row' hrow' hid column mask mask' hmaskOf hmaskOf'
      (fun other hother hnameOther hmaskOther => by
        apply hleast other hother
        obtain ⟨m, hmOther⟩ := Option.ne_none_iff_exists'.mp hmaskOther
        rw [maskOf_of_named.mpr ⟨hnameOther.trans hname, hmOther⟩]
        exact Option.some_ne_none m)
    rw [hm, hm', heq]
  · intro hall row hrow row' hrow' hid column mask mask' hmaskOf hmaskOf' hleast
    obtain ⟨hkey, hnames⟩ := tableKey_eq collation hrow hrow' hid
    have hm := maskOf_of_named.mpr ⟨rfl, hmaskOf⟩
    have hm' := maskOf_of_named.mpr ⟨hnames.symm, hmaskOf'⟩
    have heq := findSome?_determined_iff.mp (hall (qualifiedName row) column) row hrow row' hrow'
      hkey (by rw [hm]; exact Option.some_ne_none mask)
      (by rw [hm']; exact Option.some_ne_none mask')
      (fun other hother hother' => by
        obtain ⟨m, hmOther⟩ := Option.ne_none_iff_exists'.mp hother'
        obtain ⟨hnameOther, hmaskOther⟩ := maskOf_of_named.mp hmOther
        apply hleast other hother hnameOther
        rw [hmaskOther]
        exact Option.some_ne_none m)
    rw [hm, hm'] at heq
    exact Option.some.inj heq

/-! ## The schema -/

theorem rowsNamed_any (h : permissionRows.Perm permissionRows') (p : PermissionRow → Bool) :
    (rowsNamed name permissionRows).any p = (rowsNamed name permissionRows').any p := by
  rw [Bool.eq_iff_iff, List.any_eq_true, List.any_eq_true]
  simp only [mem_rowsNamed, h.mem_iff]

/-- What an entry takes from its first row. -/
def identityOf (name : String) (row : PermissionRow) : Option (Uuid × String × String) :=
  if row.permission.can_read && decide (qualifiedName row = name) then
    some (row.table.id, row.schema.schema_name, row.table.table_name)
  else none

theorem rowsNamed_identity (name : String) (rows : List PermissionRow) :
    (rowsNamed name rows).head?.map (fun row =>
      (row.table.id, row.schema.schema_name, row.table.table_name)) =
        rows.findSome? (identityOf name) := by
  rw [rowsNamed_eq_filter]
  induction rows with
  | nil => rfl
  | cons row rows ih =>
    rw [List.findSome?_cons, List.filter_cons]
    by_cases hrow : row.permission.can_read && decide (qualifiedName row = name)
    · simp [identityOf, hrow]
    · have hnone : identityOf name row = none := by
        unfold identityOf
        rw [if_neg hrow]
      rw [if_neg hrow, hnone, ih]

/-- The first row of a name is about the same table in each order. -/
theorem identity_determined (name : String)
    (h : Returned collation store user connectionId permissionRows columnRows)
    (h' : Returned collation store user connectionId permissionRows' columnRows') :
    permissionRows.findSome? (identityOf name) = permissionRows'.findSome? (identityOf name) := by
  refine findSome?_determined_iff.mpr ?_ _ _ h.tables h'.tables
  intro row hrow row' hrow' hkey hsome hsome' _
  obtain ⟨htable, hschema⟩ := same_table hrow hrow' hkey
  unfold identityOf at hsome hsome' ⊢
  split at hsome
  · split at hsome'
    · rename_i hread hread'
      rw [if_pos hread, if_pos hread', htable, hschema]
    · exact absurd rfl hsome'
  · exact absurd rfl hsome

/-- Identity, flags and row filters are the same in each order. -/
theorem sameTable_of_merged {t t' : AllowedTable}
    (h : Returned collation store user connectionId permissionRows columnRows)
    (h' : Returned collation store user connectionId permissionRows' columnRows')
    (hmerged : Merged columnRows (rowsNamed name permissionRows) t)
    (hmerged' : Merged columnRows' (rowsNamed name permissionRows') t')
    (hsame : ∀ column, t.columns.get column = t'.columns.get column) : SameTable t t' := by
  have hperm : permissionRows.Perm permissionRows' := h.tables.perm.trans h'.tables.perm.symm
  refine ⟨?_, ?_, hsame, fun rowFilter => ?_⟩
  · have hidentity := identity_determined name h h'
    rw [← rowsNamed_identity, ← rowsNamed_identity] at hidentity
    rw [hmerged.identity, hmerged'.identity] at hidentity
    exact Option.some.inj hidentity
  · simp only [hmerged.can_read, hmerged.can_insert, hmerged.can_update, hmerged.can_delete,
      hmerged'.can_read, hmerged'.can_insert, hmerged'.can_update, hmerged'.can_delete,
      rowsNamed_any hperm]
  · rw [hmerged.row_filters, hmerged'.row_filters, List.mem_filter, List.mem_filter,
      List.mem_map, List.mem_map]
    simp only [mem_rowsNamed, hperm.mem_iff]

theorem sameSchema_of_masksAgree (hcolumns : ColumnsOfTable store.toTables)
    (hagree : MasksAgree collation store user connectionId)
    (h : Returned collation store user connectionId permissionRows columnRows)
    (h' : Returned collation store user connectionId permissionRows' columnRows') :
    SameSchema (filteredSchema connectionId permissionRows columnRows)
      (filteredSchema connectionId permissionRows' columnRows') := by
  refine ⟨rfl, fun name => ?_, fun name t t' ht ht' => ?_⟩
  · rw [filteredSchema_absent_iff, filteredSchema_absent_iff]
    simp only [List.eq_nil_iff_forall_not_mem, mem_mergedGrants h, mem_mergedGrants h']
  · obtain ⟨hmerged, -⟩ := filteredSchema_some ht
    obtain ⟨hmerged', -⟩ := filteredSchema_some ht'
    refine sameTable_of_merged h h' hmerged hmerged' (fun column => ?_)
    rw [hmerged.get_column, hmerged'.get_column]
    apply mergedColumn_congr (column_determined hcolumns h h') (mergedGrants_any h h' _)
      (mergedGrants_any h h' _)
    rw [mergedGrants_mask name column hcolumns h, mergedGrants_mask name column hcolumns h']
    exact masksAgree_iff.mp hagree name column _ _ h.tables h'.tables

theorem masksAgree_of_determined {connection : DatabaseConnection}
    (hcolumns : ColumnsOfTable store.toTables)
    (hconnection : getDatabaseConnection store user connectionId = .ok connection)
    (h : SchemaDetermined collation store user connectionId) :
    MasksAgree collation store user connectionId := by
  refine masksAgree_iff.mpr (fun name column rows rows' hrows hrows' => ?_)
  obtain ⟨columnRows, hreturned⟩ := exists_returned hrows
  obtain ⟨columnRows', hreturned'⟩ := exists_returned hrows'
  have hsame := h rows columnRows rows' columnRows' _ _ hreturned hreturned'
    (build_ok_iff.mpr ⟨⟨connection, hconnection⟩, rfl⟩)
    (build_ok_iff.mpr ⟨⟨connection, hconnection⟩, rfl⟩)
  rw [← mergedGrants_mask name column hcolumns hreturned,
    ← mergedGrants_mask name column hcolumns hreturned', ← mergedColumn_mask, ← mergedColumn_mask]
  cases hentry : (filteredSchema connectionId rows columnRows).tables.get name with
  | none =>
    have hentry' := (hsame.absent name).mp hentry
    rw [filteredSchema_absent_iff.mp hentry column, filteredSchema_absent_iff.mp hentry' column]
  | some t =>
    obtain ⟨t', hentry'⟩ : ∃ t',
        (filteredSchema connectionId rows' columnRows').tables.get name = some t' := by
      rw [← Option.ne_none_iff_exists']
      intro hnone
      rw [(hsame.absent name).mpr hnone] at hentry
      cases hentry
    have htable := hsame.present name t t' hentry hentry'
    rw [← (filteredSchema_some hentry).1.get_column, ← (filteredSchema_some hentry').1.get_column,
      htable.columns column]

variable {newUuid : Nat → Uuid}

/-- The schema is the same for each order exactly when the masks agree. -/
theorem schemaDetermined_iff {connection : DatabaseConnection} (h : Reachable newUuid store)
    (hconnection : getDatabaseConnection store user connectionId = .ok connection) :
    SchemaDetermined collation store user connectionId ↔
      MasksAgree collation store user connectionId := by
  have hcolumns := reachable_columnsOfTable h
  constructor
  · exact masksAgree_of_determined hcolumns hconnection
  · intro hagree rows columnRows rows' columnRows' allowed allowed' hrows hrows' hbuild hbuild'
    rw [← (build_ok_iff.mp hbuild).2, ← (build_ok_iff.mp hbuild').2]
    exact sameSchema_of_masksAgree hcolumns hagree hrows hrows'

/-! ## A column with two masks -/

/-- Texts sorted by code points. -/
def codePoints : Collation := ⟨String, inferInstance, id, Function.injective_id⟩

def storeOf (run : Service Store) : Store :=
  match run with
  | .ok store => store
  | .error _ => Store.empty

theorem storeOf_ok {run : Service Store} (h : run.isOk = true) : run = .ok (storeOf run) := by
  cases run with
  | ok store => rfl
  | error raised => cases h

def createdStore (run : Service (Store × TablePermissionResponse)) : Store :=
  storeOf (run.map Prod.fst)

theorem createdStore_ok (run : Service (Store × TablePermissionResponse))
    (h : run.isOk = true) : ∃ response, run = .ok (createdStore run, response) := by
  cases run with
  | ok result => exact ⟨result.2, rfl⟩
  | error raised => cases h

def shopUuid (n : Nat) : Uuid := "uuid-" ++ toString n

def shopAdmin : User := ⟨"admin", "tenant", true⟩

def shopMember : User := ⟨"member", "tenant", false⟩

def shopConnection : DatabaseConnection := ⟨"connection", "tenant", "postgresql", "pending", none⟩

def shopAccounts : Store :=
  storeOf { Store.empty.toTables with
    users := [shopAdmin, shopMember]
    roles := [⟨"analyst", "tenant"⟩]
    user_roles := [⟨"member", "analyst"⟩]
    connections := [shopConnection] }.checked

def shopDiscovery : SchemaDiscoveryResult where
  schemas := [⟨"public", [⟨"public", "users", "table", none, [],
    [{ column_name := "email", data_type := "text", ordinal_position := 1,
       is_nullable := true }]⟩]⟩]
  schema_count := 1
  table_count := 1
  column_count := 1

def shopCached : Store :=
  (synchronizeDatabaseSchema shopUuid 0 shopAccounts shopAdmin "connection"
    (.ok shopDiscovery)).1

/-- The member reads the e-mail address, fully masked, -/
def memberGrant : TablePermissionCreate where
  user_id := some "member"
  connection_id := "connection"
  table_id := shopUuid 1
  columns := [{ column_id := shopUuid 2, mask_type := some .full, hidden_unmasked := by decide }]
  max_length := by decide
  subject := by decide

/-- and so does each analyst, hashed. -/
def analystGrant : TablePermissionCreate where
  role_id := some "analyst"
  connection_id := "connection"
  table_id := shopUuid 1
  columns := [{ column_id := shopUuid 2, mask_type := some .hash, hidden_unmasked := by decide }]
  max_length := by decide
  subject := by decide

def shopGranted : Store := createdStore (createPermission shopUuid shopCached shopAdmin memberGrant)

def shopGrantedTwice : Store :=
  createdStore (createPermission shopUuid shopGranted shopAdmin analystGrant)

theorem shopCached_reachable : Reachable shopUuid shopCached := by
  have haccounts : Platform.Step shopUuid Store.empty shopAccounts :=
    Platform.Step.accounts _ _ _ _ (storeOf_ok (by decide +kernel))
  exact (Reachable.empty.step haccounts).step (Step.synchronize _ _ _ _)

theorem shopGranted_reachable : Reachable shopUuid shopGranted := by
  obtain ⟨response, hcreated⟩ := createdStore_ok
    (createPermission shopUuid shopCached shopAdmin memberGrant) (by decide +kernel)
  exact shopCached_reachable.step (Step.createPermission _ _ _ hcreated)

theorem shopGrantedTwice_reachable : Reachable shopUuid shopGrantedTwice := by
  obtain ⟨response, hcreated⟩ := createdStore_ok
    (createPermission shopUuid shopGranted shopAdmin analystGrant) (by decide +kernel)
  exact shopGranted_reachable.step (Step.createPermission _ _ _ hcreated)

/-- The connection of a store, whatever its status. -/
theorem shop_connection (store : Store)
    (h : (getDatabaseConnection store shopMember "connection").isOk = true) :
    ∃ connection, getDatabaseConnection store shopMember "connection" = .ok connection := by
  cases hrun : getDatabaseConnection store shopMember "connection" with
  | ok connection => exact ⟨connection, rfl⟩
  | error raised =>
    rw [hrun] at h
    cases h

/-- The rows of one e-mail address. -/
def emailFilter (email : String) : RowFilterGroup where
  rules :=
    [{ column_id := shopUuid 2
       operator := .equals
       value := .string email
       literal_value := fun _ => rfl
       context_value := fun h => absurd rfl h
       list_value := by rintro (h | h) <;> cases h }]
  max_length := Nat.le_of_ble_eq_true rfl

theorem shown_unmasked : true = false → (none : Option ColumnMaskType) = none := fun _ => rfl

/-- The member reads one row, fully masked, and each analyst reads another one as it is. -/
def shopShared : Store :=
  createdStore (createPermission shopUuid
    (createdStore (createPermission shopUuid shopCached shopAdmin
      { memberGrant with row_filter := emailFilter "member@example.org" }))
    shopAdmin
    { analystGrant with
      row_filter := emailFilter "shop@example.org"
      columns := [{ column_id := shopUuid 2, hidden_unmasked := shown_unmasked }] })

theorem shopShared_reachable : Reachable shopUuid shopShared := by
  obtain ⟨response, hcreated⟩ := createdStore_ok (createPermission shopUuid shopCached shopAdmin
    { memberGrant with row_filter := emailFilter "member@example.org" }) (by decide +kernel)
  obtain ⟨response', hcreated'⟩ := createdStore_ok (createPermission shopUuid
    (createdStore (createPermission shopUuid shopCached shopAdmin
      { memberGrant with row_filter := emailFilter "member@example.org" })) shopAdmin
    { analystGrant with
      row_filter := emailFilter "shop@example.org"
      columns := [{ column_id := shopUuid 2, hidden_unmasked := shown_unmasked }] })
    (by decide +kernel)
  exact (shopCached_reachable.step (Step.createPermission _ _ _ hcreated)).step
    (Step.createPermission _ _ _ hcreated')

theorem mask_stored {row : PermissionRow} {mask : String}
    (h : maskOf store user.tenant_id row name = some mask) :
    ∃ permission ∈ store.column_permissions, permission.mask_type = some mask := by
  obtain ⟨grant, hgrant, hmask⟩ := Option.bind_eq_some_iff.mp h
  unfold grantOf at hgrant
  split at hgrant
  · have hmem := mem_grantsOf_iff.mp (List.mem_of_mem_head? hgrant)
    exact ⟨grant.permission, hmem.1, hmask⟩
  · cases hgrant

/-- Of two grants of the e-mail address only one masks it. -/
theorem shopShared_determined :
    SchemaDetermined codePoints shopShared shopMember "connection" := by
  obtain ⟨connection, hconnection⟩ := shop_connection shopShared (by decide +kernel)
  refine (schemaDetermined_iff shopShared_reachable hconnection).mpr ?_
  have hfull : ∀ permission ∈ shopShared.column_permissions,
      permission.mask_type = none ∨ permission.mask_type = some "full" := by
    decide +kernel
  have hmasks : ∀ row name mask, maskOf shopShared shopMember.tenant_id row name = some mask →
      mask = "full" := by
    intro row name mask hmask
    obtain ⟨permission, hpermission, hstored⟩ := mask_stored hmask
    rcases hfull permission hpermission with hnone | hsome
    · rw [hnone] at hstored
      cases hstored
    · exact (Option.some.inj (hsome.symm.trans hstored)).symm
  intro row _ row' _ _ name mask mask' hmask hmask' _
  rw [hmasks row name mask hmask, hmasks row' name mask' hmask']

/-- The member is granted the e-mail address with two masks: which one he gets is for the
database to choose. -/
theorem shopGrantedTwice_not_determined :
    Reachable shopUuid shopGrantedTwice ∧
      ¬ SchemaDetermined codePoints shopGrantedTwice shopMember "connection" := by
  refine ⟨shopGrantedTwice_reachable, fun h => ?_⟩
  obtain ⟨connection, hconnection⟩ :=
    shop_connection shopGrantedTwice (by decide +kernel)
  have hagree := masksAgree_of_determined (reachable_columnsOfTable shopGrantedTwice_reachable)
    hconnection h
  have hmasks : (effectiveTablePermissions shopGrantedTwice shopMember "connection").map
      (fun row => (row.table.id, maskOf shopGrantedTwice "tenant" row "email")) =
        [(shopUuid 1, some "full"), (shopUuid 1, some "hash")] := by
    decide +kernel
  obtain ⟨row, rows, hrows, hrow, htail⟩ := List.map_eq_cons_iff.mp hmasks
  obtain ⟨row', rest, hrest, hrow', -⟩ := List.map_eq_cons_iff.mp htail
  obtain ⟨hid, hmask⟩ := Prod.mk.inj hrow
  obtain ⟨hid', hmask'⟩ := Prod.mk.inj hrow'
  have hmem : row ∈ effectiveTablePermissions shopGrantedTwice shopMember "connection" := by
    rw [hrows]
    exact List.mem_cons_self
  have hmem' : row' ∈ effectiveTablePermissions shopGrantedTwice shopMember "connection" := by
    rw [hrows, hrest]
    exact List.mem_cons_of_mem _ List.mem_cons_self
  have hsame := hagree row hmem row' hmem' (hid.trans hid'.symm) "email" "full" "hash" hmask
    hmask' (fun other hother _ _ => by
      have hall : ∀ r ∈ effectiveTablePermissions shopGrantedTwice shopMember "connection",
          r.table.id = shopUuid 1 := by
        decide +kernel
      exact le_of_eq (tableKey_eq codePoints hmem hother
        ((hall row hmem).trans (hall other hother).symm)).1)
  exact absurd hsame (by decide)

end DataChat.Effective
