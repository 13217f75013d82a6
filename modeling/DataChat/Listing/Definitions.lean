import DataChat.Effective.Definitions
import DataChat.Library.Groups
import DataChat.Platform.Mirror

/-!
# Listing the cached schemas

`repositories/database_schema.py` and `services/database/metadata_query_service.py`: what the
endpoints of `api/routes/database_schema.py` show of the last synchronisation. The queries are
sorted, so the rows that they return are arguments of the services, and `Returned` says which rows
the database may return.
-/

namespace DataChat.Listing

open Platform Relational
open Effective (Collation)

structure DatabaseColumnResponse where
  id : Uuid
  column_name : String
  data_type : String
  ordinal_position : Option Int
  is_nullable : Option Bool
  is_primary_key : Bool
  is_foreign_key : Bool
  is_sensitive : Bool
  referenced_schema : Option String
  referenced_table : Option String
  referenced_column : Option String
  description : Option String
  sample_values : List Json

structure DatabaseTableResponse where
  id : Uuid
  schema_id : Uuid
  schema_name : String
  table_name : String
  table_type : String
  description : Option String
  estimated_row_count : Option Int
  primary_key_columns : List String
  is_enabled : Bool
  is_sensitive : Bool
  columns : List DatabaseColumnResponse

/-! ## Queries -/

/-- The rows of `list_cached_schemas`, which are counted by the second query. -/
def cachedSchemaRows (store : Store) (tenantId connectionId : Uuid) : List DatabaseSchema :=
  store.schemas.filter (fun schema =>
    schema.tenant_id = tenantId ∧ schema.connection_id = connectionId)

/-- The join, for one table. -/
def joinSchema (store : Store) (table : DatabaseTable) : Option (DatabaseTable × DatabaseSchema) :=
  (lookup DatabaseSchema.id store.schemas table.schema_id).map (fun schema => (table, schema))

/-- The `WHERE` clause. -/
def isCached (tenantId connectionId : Uuid) (schemaName : Option String)
    (row : DatabaseTable × DatabaseSchema) : Bool :=
  decide (row.1.tenant_id = tenantId ∧ row.1.connection_id = connectionId ∧
    row.2.tenant_id = tenantId ∧ row.2.connection_id = connectionId ∧
    ∀ name ∈ schemaName, row.2.schema_name = name)

/-- The rows of the first query of `list_cached_tables`, which are counted by the second. -/
def cachedTableRows (store : Store) (tenantId connectionId : Uuid) (schemaName : Option String) :
    List (DatabaseTable × String) :=
  ((store.tables.filterMap (joinSchema store)).filter
    (isCached tenantId connectionId schemaName)).map (fun row => (row.1, row.2.schema_name))

/-- The rows of its third query. -/
def cachedColumnRows (store : Store) (tenantId : Uuid) (tableIds : List Uuid) :
    List DatabaseColumn :=
  store.columns.filter (fun column => column.tenant_id = tenantId ∧ column.table_id ∈ tableIds)

/-- `ORDER BY DatabaseSchema.schema_name, DatabaseTable.table_name`. -/
def tableKey (collation : Collation) (row : DatabaseTable × String) :
    collation.Key ×ₗ collation.Key :=
  toLex (collation.key row.2, collation.key row.1.table_name)

/-- Nulls come last. -/
def positionKey (column : DatabaseColumn) : WithTop Int :=
  match column.ordinal_position with
  | some position => (position : WithTop Int)
  | none => ⊤

/-- `ORDER BY DatabaseColumn.table_id, DatabaseColumn.ordinal_position`. -/
def columnKey (column : DatabaseColumn) : Uuid ×ₗ WithTop Int :=
  toLex (column.table_id, positionKey column)

/-- The database may return these rows to `list_cached_tables`. -/
structure Returned (collation : Collation) (store : Store) (tenantId connectionId : Uuid)
    (schemaName : Option String) (tableRows : List (DatabaseTable × String))
    (columnRows : List DatabaseColumn) : Prop where
  tables : OrderedBy (tableKey collation)
    (cachedTableRows store tenantId connectionId schemaName) tableRows
  columns : OrderedBy columnKey
    (cachedColumnRows store tenantId (tableRows.map (fun row => row.1.id))) columnRows

/-! ## Services -/

/-- The schemas and their number, once the rows of the first query are sorted. -/
def getCachedSchemas (store : Store) (currentUser : User) (connectionId : Uuid)
    (schemaRows : List DatabaseSchema) : Service (List DatabaseSchema × Nat) := do
  let _ ← getDatabaseConnection store currentUser connectionId
  pure (schemaRows, (cachedSchemaRows store currentUser.tenant_id connectionId).length)

/-- `DatabaseColumnResponse.model_validate`. -/
def columnResponse (column : DatabaseColumn) : DatabaseColumnResponse where
  id := column.id
  column_name := column.column_name
  data_type := column.data_type
  ordinal_position := column.ordinal_position
  is_nullable := column.is_nullable
  is_primary_key := column.is_primary_key
  is_foreign_key := column.is_foreign_key
  is_sensitive := column.is_sensitive
  referenced_schema := column.referenced_schema
  referenced_table := column.referenced_table
  referenced_column := column.referenced_column
  description := column.description
  sample_values := column.sample_values

/-- The dictionary of lists that `setdefault(..., []).append(...)` builds. -/
def columnsByTable (columnRows : List DatabaseColumn) : Dict Uuid (List DatabaseColumn) :=
  columnRows.foldl (fun d column =>
    d.set column.table_id ((d.get column.table_id).getD [] ++ [column])) Dict.empty

def tableResponse (table : DatabaseTable) (schemaName : String) (columns : List DatabaseColumn) :
    DatabaseTableResponse where
  id := table.id
  schema_id := table.schema_id
  schema_name := schemaName
  table_name := table.table_name
  table_type := table.table_type
  description := table.description
  estimated_row_count := table.estimated_row_count
  primary_key_columns := table.primary_key_columns
  is_enabled := table.is_enabled
  is_sensitive := table.is_sensitive
  columns := columns.map columnResponse

def getCachedTables (store : Store) (currentUser : User) (connectionId : Uuid)
    (schemaName : Option String) (tableRows : List (DatabaseTable × String))
    (columnRows : List DatabaseColumn) : Service (List DatabaseTableResponse × Nat) := do
  let _ ← getDatabaseConnection store currentUser connectionId
  let columnsByTable := columnsByTable columnRows
  let items := tableRows.map (fun row =>
    tableResponse row.1 row.2 ((columnsByTable.get row.1.id).getD []))
  pure (items, (cachedTableRows store currentUser.tenant_id connectionId schemaName).length)

/-! ## What the services may return or raise -/

/-- `get_cached_schemas`. -/
def MayListSchemas (collation : Collation) (store : Store) (currentUser : User)
    (connectionId : Uuid) (result : Service (List DatabaseSchema × Nat)) : Prop :=
  ∃ schemaRows, OrderedBy (fun schema => collation.key schema.schema_name)
      (cachedSchemaRows store currentUser.tenant_id connectionId) schemaRows ∧
    result = getCachedSchemas store currentUser connectionId schemaRows

/-- `get_cached_tables`. -/
def MayListTables (collation : Collation) (store : Store) (currentUser : User)
    (connectionId : Uuid) (schemaName : Option String)
    (result : Service (List DatabaseTableResponse × Nat)) : Prop :=
  ∃ tableRows columnRows,
    Returned collation store currentUser.tenant_id connectionId schemaName tableRows columnRows ∧
      result = getCachedTables store currentUser connectionId schemaName tableRows columnRows

end DataChat.Listing
