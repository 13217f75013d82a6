import DataChat.Effective.Grants
import DataChat.Platform.Frames
import DataChat.Tenants.Noninterference

/-!
# The schema of a connection

A schema is built from the rows of one connection: its tables and columns, and the permissions on
them. Whether a row is below a connection is read off the rows above it, so the joins of the two
queries have to stay below the connection as well.

* `schema_sameConnection`: stores with the same rows of a connection have the same schemas of it.
-/

namespace DataChat.Tenants

open Relational Platform

variable {F : Type} {connectionId : Uuid} {store store' : Store} {user : User}

/-- The joined row of a permission on the connection is found in both stores. -/
theorem joinTable_sameConnection (h : SameConnection connectionId store.toTables store'.toTables)
    {permission : TablePermission} {row : Effective.PermissionRow}
    (hjoin : Effective.joinTable store permission = some row)
    (htable : row.table.connection_id = connectionId)
    (hschema : row.schema.connection_id = connectionId) :
    Effective.joinTable store' permission = some row := by
  obtain ⟨table, hlookup, hjoin⟩ := Option.bind_eq_some_iff.mp hjoin
  obtain ⟨schema, hlookupSchema, rfl⟩ := Option.map_eq_some_iff.mp hjoin
  have htable' := (SameRows.lookup (SameRows.of_eq h.rows.tables) store'.keys.tables hlookup
    (decide_eq_true htable)).1
  have hschema' := (SameRows.lookup (SameRows.of_eq h.rows.schemas) store'.keys.schemas
    hlookupSchema (decide_eq_true hschema)).1
  unfold Effective.joinTable
  rw [htable', Option.bind_some, hschema', Option.map_some]

theorem tablePermissions_sameConnection
    (h : SameConnection connectionId store.toTables store'.toTables) :
    (Effective.effectiveTablePermissions store user connectionId).Perm
      (Effective.effectiveTablePermissions store' user connectionId) := by
  have hone : ∀ {first second : Store},
      SameConnection connectionId first.toTables second.toTables → ∀ permission row,
        (Effective.joinTable first permission).filter
            (Effective.isEffective user.tenant_id user.id connectionId
              (Effective.getUserRoleIds store user.id)) = some row →
          decide (permission.connection_id = connectionId) = true ∧
            (Effective.joinTable second permission).filter
              (Effective.isEffective user.tenant_id user.id connectionId
                (Effective.getUserRoleIds store user.id)) = some row := by
    intro first second hsame permission row hrow
    obtain ⟨hjoin, heffective⟩ := Option.filter_eq_some_iff.mp hrow
    obtain ⟨-, hpermission, -, htable, -, -, hschema, -⟩ := of_decide_eq_true heffective
    obtain ⟨hsamePermission, -⟩ := Effective.joinTable_eq_some.mp hjoin
    rw [hsamePermission] at hpermission
    refine ⟨decide_eq_true hpermission, Option.filter_eq_some_iff.mpr ⟨?_, heffective⟩⟩
    exact joinTable_sameConnection hsame hjoin htable hschema
  have hroles : Effective.getUserRoleIds store' user.id =
      Effective.getUserRoleIds store user.id := by
    unfold Effective.getUserRoleIds
    rw [h.rows.user_roles]
  unfold Effective.effectiveTablePermissions
  rw [hroles, List.filter_filterMap, List.filter_filterMap]
  exact SameRows.filterMap (SameRows.of_eq h.rows.table_permissions)
    (fun permission _ row => hone h permission row)
    (fun permission _ row => hone h.symm permission row)

/-- The columns of a permission on the connection are below the connection. -/
theorem column_below (h : Consistent store.toTables) {permission : TablePermission}
    (hpermission : permission ∈ store.table_permissions)
    (hconnection : permission.connection_id = connectionId) {granted : ColumnPermission}
    (hgranted : granted ∈ store.column_permissions)
    (hparent : permission.id = granted.table_permission_id) {column : DatabaseColumn}
    (hcolumn : column ∈ store.columns) (hid : column.id = granted.column_id) :
    (below store.toTables connectionId).columns column = true := by
  refine (below_closed h).column_permissions_column granted hgranted ?_ column hcolumn hid
  exact decide_eq_true (mem_ids_below.mpr ⟨permission, hpermission, hconnection, hparent⟩)

/-- The joined row of a permission on the connection is found in both stores. -/
theorem joinColumn_sameConnection (h : SameConnection connectionId store.toTables store'.toTables)
    (hconsistent : Consistent store.toTables) {permission : TablePermission}
    (hpermission : permission ∈ store.table_permissions)
    (hconnection : permission.connection_id = connectionId) {granted : ColumnPermission}
    (hgranted : granted ∈ store.column_permissions)
    (hparent : permission.id = granted.table_permission_id) {row : Effective.ColumnRow}
    (hjoin : Effective.joinColumn store granted = some row) :
    Effective.joinColumn store' granted = some row := by
  obtain ⟨column, hlookup, rfl⟩ := Option.map_eq_some_iff.mp hjoin
  obtain ⟨hcolumn, hid⟩ := lookup_some hlookup
  have hbelow := column_below hconsistent hpermission hconnection hgranted hparent hcolumn hid
  have hlookup' := (SameRows.lookup (SameRows.of_eq h.rows.columns) store'.keys.columns hlookup
    hbelow).1
  unfold Effective.joinColumn
  rw [hlookup', Option.map_some]

theorem columnPermissions_sameConnection
    (h : SameConnection connectionId store.toTables store'.toTables)
    (hconsistent : Consistent store.toTables) (hconsistent' : Consistent store'.toTables)
    (tenantId : Uuid) {permissionIds : List Uuid}
    (hids : ∀ id ∈ permissionIds, ∃ permission ∈ store.table_permissions,
      permission.connection_id = connectionId ∧ permission.id = id) :
    (Effective.effectiveColumnPermissions store tenantId permissionIds).Perm
      (Effective.effectiveColumnPermissions store' tenantId permissionIds) := by
  have hids' : ∀ id ∈ permissionIds, ∃ permission ∈ store'.table_permissions,
      permission.connection_id = connectionId ∧ permission.id = id := by
    intro id hid
    obtain ⟨permission, hmem, hconnection, hpermissionId⟩ := hids id hid
    have hrows := SameRows.of_eq h.rows.table_permissions
    exact ⟨permission, (hrows.mem hmem (decide_eq_true hconnection)).1, hconnection, hpermissionId⟩
  have hone : ∀ {first second : Store},
      SameConnection connectionId first.toTables second.toTables → Consistent first.toTables →
      (∀ id ∈ permissionIds, ∃ permission ∈ first.table_permissions,
        permission.connection_id = connectionId ∧ permission.id = id) →
      ∀ granted ∈ first.column_permissions, ∀ row,
        (Effective.joinColumn first granted).filter (fun row =>
            row.permission.table_permission_id ∈ permissionIds ∧
              row.column.tenant_id = tenantId) = some row →
          (below first.toTables connectionId).column_permissions granted = true ∧
            (Effective.joinColumn second granted).filter (fun row =>
              row.permission.table_permission_id ∈ permissionIds ∧
                row.column.tenant_id = tenantId) = some row := by
    intro first second hsame hfirst hparents granted hgranted row hrow
    obtain ⟨hjoin, hfilter⟩ := Option.filter_eq_some_iff.mp hrow
    have hsamePermission : row.permission = granted := by
      obtain ⟨column, -, rfl⟩ := Option.map_eq_some_iff.mp hjoin
      rfl
    obtain ⟨permission, hpermission, hconnection, hparent⟩ :=
      hparents _ (of_decide_eq_true hfilter).1
    rw [hsamePermission] at hparent
    refine ⟨decide_eq_true (mem_ids_below.mpr ⟨permission, hpermission, hconnection, hparent⟩),
      Option.filter_eq_some_iff.mpr ⟨?_, hfilter⟩⟩
    exact joinColumn_sameConnection hsame hfirst hpermission hconnection hgranted hparent hjoin
  unfold Effective.effectiveColumnPermissions
  rw [List.filter_filterMap, List.filter_filterMap]
  have hsame := h.symm
  have hbelow := h.below_eq
  refine SameRows.filterMap (SameRows.of_eq h.rows.column_permissions)
    (hone h hconsistent hids) ?_
  rw [← hbelow]
  exact hone hsame hconsistent' hids'

/-- The permissions of a schema are on its connection. -/
theorem readable_onConnection {collation : Effective.Collation}
    {permissionRows : List Effective.PermissionRow}
    (h : OrderedBy (Effective.tableKey collation)
      (Effective.effectiveTablePermissions store user connectionId) permissionRows) :
    ∀ id ∈ (Effective.readable permissionRows).map (fun row => row.permission.id),
      ∃ permission ∈ store.table_permissions,
        permission.connection_id = connectionId ∧ permission.id = id := by
  intro id hid
  obtain ⟨row, hrow, rfl⟩ := List.mem_map.mp hid
  have hmem := h.mem_iff.mp (List.mem_filter.mp hrow).1
  obtain ⟨hjoined, heffective⟩ := List.mem_filter.mp hmem
  obtain ⟨permission, hpermission, hjoin⟩ := List.mem_filterMap.mp hjoined
  obtain ⟨rfl, -⟩ := Effective.joinTable_eq_some.mp hjoin
  exact ⟨row.permission, hpermission, (of_decide_eq_true heffective).2.1, rfl⟩

theorem returned_sameConnection (h : SameConnection connectionId store.toTables store'.toTables)
    (hconsistent : Consistent store.toTables) (hconsistent' : Consistent store'.toTables)
    {collation : Effective.Collation} {permissionRows : List Effective.PermissionRow}
    {columnRows : List Effective.ColumnRow}
    (hreturned : Effective.Returned collation store user connectionId permissionRows columnRows) :
    Effective.Returned collation store' user connectionId permissionRows columnRows := by
  have hcolumns := columnPermissions_sameConnection h hconsistent hconsistent' user.tenant_id
    (readable_onConnection hreturned.tables)
  constructor
  · exact (orderedBy_congr (tablePermissions_sameConnection h)).mp hreturned.tables
  · exact (orderedBy_congr hcolumns).mp hreturned.columns

theorem getDatabaseConnection_sameConnection
    (h : SameConnection connectionId store.toTables store'.toTables) :
    getDatabaseConnection store' user connectionId =
      getDatabaseConnection store user connectionId := by
  have hfind : ∀ connections : List DatabaseConnection,
      connections.find? (fun connection =>
        connection.id = connectionId ∧ connection.tenant_id = user.tenant_id) =
      (connections.filter (fun connection => connection.id = connectionId)).find?
        (fun connection => connection.tenant_id = user.tenant_id) := by
    intro connections
    rw [List.find?_filter]
    simp
  unfold getDatabaseConnection
  rw [hfind, hfind, h.connections]

theorem schema_sameConnection {state state' : PlatformState F} {collation : Effective.Collation}
    {result : Service AllowedSchema}
    (h : SameConnection connectionId state.store.toTables state'.store.toTables)
    (hconsistent : Consistent state.store.toTables)
    (hconsistent' : Consistent state'.store.toTables)
    (hresult : MayBuild collation state user connectionId result) :
    MayBuild collation state' user connectionId result := by
  obtain ⟨permissionRows, columnRows, hreturned, rfl⟩ := hresult
  refine ⟨permissionRows, columnRows, ?_, ?_⟩
  · exact returned_sameConnection h hconsistent hconsistent' hreturned
  · unfold Effective.buildPermissionFilteredSchema
    rw [getDatabaseConnection_sameConnection h]

end DataChat.Tenants
