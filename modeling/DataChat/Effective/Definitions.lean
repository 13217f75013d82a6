import DataChat.Library.OrderBy
import DataChat.Platform.Reachability
import Mathlib.Data.Prod.Lex
import Mathlib.Data.String.Basic
import Mathlib.Order.WithBot

/-!
# The permission-filtered schema of a user

`repositories/effective_permissions.py` and
`services/database/effective_permission_service.py`. The queries are sorted, but not by all that
tells their rows apart, so the rows that they return are arguments of the service, and `Returned`
says which rows the database may return.
-/

namespace DataChat.Effective

open Platform Relational

/-! ## Queries -/

/-- A row of `get_effective_table_permissions`. -/
structure PermissionRow where
  permission : TablePermission
  table : DatabaseTable
  schema : DatabaseSchema

/-- A row of `get_effective_column_permissions`. -/
structure ColumnRow where
  permission : ColumnPermission
  column : DatabaseColumn

def getUserRoleIds (store : Store) (userId : Uuid) : List Uuid :=
  (store.user_roles.filter (fun userRole => userRole.user_id = userId)).map UserRole.role_id

/-- The two joins, for one table permission. -/
def joinTable (store : Store) (permission : TablePermission) : Option PermissionRow :=
  (lookup DatabaseTable.id store.tables permission.table_id).bind (fun table =>
    (lookup DatabaseSchema.id store.schemas table.schema_id).map (fun schema =>
      ⟨permission, table, schema⟩))

/-- The `WHERE` clause. -/
def isEffective (tenantId userId connectionId : Uuid) (roleIds : List Uuid)
    (row : PermissionRow) : Bool :=
  decide (row.permission.tenant_id = tenantId ∧ row.permission.connection_id = connectionId ∧
    row.table.tenant_id = tenantId ∧ row.table.connection_id = connectionId ∧
    row.table.is_enabled = true ∧
    row.schema.tenant_id = tenantId ∧ row.schema.connection_id = connectionId ∧
    (row.permission.user_id = some userId ∨ ∃ id ∈ row.permission.role_id, id ∈ roleIds))

/-- The rows of `get_effective_table_permissions` for a user. -/
def effectiveTablePermissions (store : Store) (user : User) (connectionId : Uuid) :
    List PermissionRow :=
  (store.table_permissions.filterMap (joinTable store)).filter
    (isEffective user.tenant_id user.id connectionId (getUserRoleIds store user.id))

/-- The join, for one column permission. -/
def joinColumn (store : Store) (permission : ColumnPermission) : Option ColumnRow :=
  (lookup DatabaseColumn.id store.columns permission.column_id).map (fun column =>
    ⟨permission, column⟩)

/-- The rows of `get_effective_column_permissions`. -/
def effectiveColumnPermissions (store : Store) (tenantId : Uuid)
    (tablePermissionIds : List Uuid) : List ColumnRow :=
  (store.column_permissions.filterMap (joinColumn store)).filter (fun row =>
    row.permission.table_permission_id ∈ tablePermissionIds ∧ row.column.tenant_id = tenantId)

/-- How the database sorts texts. Different texts have different sort keys. -/
structure Collation where
  Key : Type
  order : LinearOrder Key
  key : String → Key
  injective : Function.Injective key

instance (collation : Collation) : LinearOrder collation.Key := collation.order

/-- `ORDER BY DatabaseSchema.schema_name, DatabaseTable.table_name`. -/
def tableKey (collation : Collation) (row : PermissionRow) : collation.Key ×ₗ collation.Key :=
  toLex (collation.key row.schema.schema_name, collation.key row.table.table_name)

/-- `ORDER BY DatabaseColumn.table_id, DatabaseColumn.ordinal_position`; nulls come last. -/
def columnKey (row : ColumnRow) : Uuid ×ₗ WithTop Int :=
  toLex (row.column.table_id, match row.column.ordinal_position with
    | some position => (position : WithTop Int)
    | none => ⊤)

def readable (rows : List PermissionRow) : List PermissionRow :=
  rows.filter (fun row => row.permission.can_read)

/-- The database may return these rows to the service. -/
structure Returned (collation : Collation) (store : Store) (user : User) (connectionId : Uuid)
    (permissionRows : List PermissionRow) (columnRows : List ColumnRow) : Prop where
  tables : OrderedBy (tableKey collation) (effectiveTablePermissions store user connectionId)
    permissionRows
  columns : OrderedBy columnKey
    (effectiveColumnPermissions store user.tenant_id
      ((readable permissionRows).map (fun row => row.permission.id)))
    columnRows

/-- For each order of the permission rows there are column rows. -/
theorem exists_returned {collation : Collation} {store : Store} {user : User}
    {connectionId : Uuid} {permissionRows : List PermissionRow}
    (h : OrderedBy (tableKey collation) (effectiveTablePermissions store user connectionId)
      permissionRows) :
    ∃ columnRows, Returned collation store user connectionId permissionRows columnRows := by
  obtain ⟨columnRows, hcolumns⟩ := exists_orderedBy columnKey
    (effectiveColumnPermissions store user.tenant_id
      ((readable permissionRows).map (fun row => row.permission.id)))
  exact ⟨columnRows, h, hcolumns⟩

/-! ## Merging -/

/-- The truth value of a JSON value in Python. -/
def truthy : Json → Bool
  | .null => false
  | .bool b => b
  | .number _ magnitude =>
    !((magnitude.toList.takeWhile (fun c => c ≠ 'e' ∧ c ≠ 'E')).all
      (fun c => c = '0' ∨ c = '.'))
  | .string s => s ≠ ""
  | .array items => !items.isEmpty
  | .object fields => !fields.isEmpty

/-- `if row_filter.get("rules", [])`. -/
def hasRules (rowFilter : JsonObject) : Bool :=
  match rowFilter.get "rules" with
  | some rules => truthy rules
  | none => false

def mergeRowFilter (existingFilters : List JsonObject) (rowFilter : JsonObject) :
    List JsonObject :=
  if hasRules rowFilter then existingFilters ++ [rowFilter] else existingFilters

/-- The dictionary of lists that `setdefault(..., []).append(...)` builds. -/
def columnsByPermission (columnRows : List ColumnRow) : Dict Uuid (List ColumnRow) :=
  columnRows.foldl (fun d row =>
    d.set row.permission.table_permission_id
      ((d.get row.permission.table_permission_id).getD [] ++ [row])) Dict.empty

def qualifiedName (row : PermissionRow) : String :=
  row.schema.schema_name ++ "." ++ row.table.table_name

/-- One pass of the loop over the columns of a permission. -/
def mergeColumn (columns : Dict String AllowedColumn) (row : ColumnRow) :
    Dict String AllowedColumn :=
  if row.permission.can_read = false then columns
  else
    match columns.get row.column.column_name with
    | none =>
      columns.set row.column.column_name
        { column_id := row.column.id
          name := row.column.column_name
          data_type := row.column.data_type
          can_read := true
          can_filter := row.permission.can_filter
          can_aggregate := row.permission.can_aggregate
          mask_type := row.permission.mask_type }
    | some existing =>
      columns.set row.column.column_name
        { existing with
          can_filter := existing.can_filter || row.permission.can_filter
          can_aggregate := existing.can_aggregate || row.permission.can_aggregate
          mask_type :=
            if existing.mask_type = none ∧ row.permission.mask_type ≠ none then
              row.permission.mask_type
            else existing.mask_type }

/-- The entry of a table before the row filter and the columns of the permission are merged. -/
def mergeFlags (existing : Option AllowedTable) (row : PermissionRow) : AllowedTable :=
  match existing with
  | none =>
    { table_id := row.table.id
      schema_name := row.schema.schema_name
      table_name := row.table.table_name
      can_read := row.permission.can_read
      can_insert := row.permission.can_insert
      can_update := row.permission.can_update
      can_delete := row.permission.can_delete
      columns := Dict.empty
      row_filters := [] }
  | some allowedTable =>
    { allowedTable with
      can_read := allowedTable.can_read || row.permission.can_read
      can_insert := allowedTable.can_insert || row.permission.can_insert
      can_update := allowedTable.can_update || row.permission.can_update
      can_delete := allowedTable.can_delete || row.permission.can_delete }

/-- One pass of the loop over the readable permissions. -/
def mergePermission (columns : Dict Uuid (List ColumnRow)) (tables : Dict String AllowedTable)
    (row : PermissionRow) : Dict String AllowedTable :=
  let allowedTable := mergeFlags (tables.get (qualifiedName row)) row
  tables.set (qualifiedName row)
    { allowedTable with
      row_filters := mergeRowFilter allowedTable.row_filters row.permission.row_filter
      columns := ((columns.get row.permission.id).getD []).foldl mergeColumn
        allowedTable.columns }

/-- The schema that the service builds from the rows; entries without columns are deleted. -/
def filteredSchema (connectionId : Uuid) (permissionRows : List PermissionRow)
    (columnRows : List ColumnRow) : AllowedSchema where
  connection_id := connectionId
  tables := ((readable permissionRows).foldl (mergePermission (columnsByPermission columnRows))
    Dict.empty).filterItems (fun item => !item.2.columns.items.isEmpty)

def buildPermissionFilteredSchema (store : Store) (currentUser : User) (connectionId : Uuid)
    (permissionRows : List PermissionRow) (columnRows : List ColumnRow) :
    Service AllowedSchema := do
  let _ ← getDatabaseConnection store currentUser connectionId
  pure (filteredSchema connectionId permissionRows columnRows)

theorem build_ok_iff {store : Store} {user : User} {connectionId : Uuid}
    {permissionRows : List PermissionRow} {columnRows : List ColumnRow} {allowed : AllowedSchema} :
    buildPermissionFilteredSchema store user connectionId permissionRows columnRows =
        .ok allowed ↔
      (∃ connection, getDatabaseConnection store user connectionId = .ok connection) ∧
        filteredSchema connectionId permissionRows columnRows = allowed := by
  unfold buildPermissionFilteredSchema
  rw [Outcome.bind_ok_iff]
  constructor
  · rintro ⟨connection, hconnection, hpure⟩
    exact ⟨⟨connection, hconnection⟩, Outcome.pure_ok_iff.mp hpure⟩
  · rintro ⟨⟨connection, hconnection⟩, rfl⟩
    exact ⟨connection, hconnection, rfl⟩

end DataChat.Effective
