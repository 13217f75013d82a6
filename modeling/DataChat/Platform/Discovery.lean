import DataChat.Library.Dict
import DataChat.Platform.Mirror
import Mathlib.Algebra.GroupWithZero.Nat

/-!
# Reading the catalogue of a source database

`services/database/schema_discovery.py` without the connection to the source: the rows of the six
catalogue queries become schemas with their tables and columns.

* `buildDiscoveryResult_counted`: the counts of a discovery are those of its schemas, tables and
  columns.
-/

namespace DataChat.Platform

/-! ## The rows of the catalogue -/

structure SchemaRecord where
  schema_name : String

structure TableRecord where
  table_schema : String
  table_name : String
  table_type : String

structure ColumnRecord where
  table_schema : String
  table_name : String
  column_name : String
  data_type : String
  ordinal_position : Int
  is_nullable : String

structure PrimaryKeyRecord where
  table_schema : String
  table_name : String
  column_name : String

structure ForeignKeyRecord where
  table_schema : String
  table_name : String
  column_name : String
  referenced_schema : String
  referenced_table : String
  referenced_column : String

structure RowCountRecord where
  table_schema : String
  table_name : String
  estimated_row_count : Option Int

structure CatalogueRows where
  schema_rows : List SchemaRecord
  table_rows : List TableRecord
  column_rows : List ColumnRecord
  primary_key_rows : List PrimaryKeyRecord
  foreign_key_rows : List ForeignKeyRecord
  row_count_rows : List RowCountRecord

/-! ## Schemas, tables and columns -/

/-- `groups.setdefault(key, []).append(value)`. -/
def appendTo {κ ν : Type} [DecidableEq κ] (groups : Dict κ (List ν)) (key : κ) (value : ν) :
    Dict κ (List ν) :=
  groups.set key ((groups.get key).getD [] ++ [value])

def primaryKeys (rows : CatalogueRows) : Dict (String × String) (List String) :=
  rows.primary_key_rows.foldl (fun keys row =>
    appendTo keys (row.table_schema, row.table_name) row.column_name) Dict.empty

def foreignKeys (rows : CatalogueRows) :
    Dict (String × String × String) (String × String × String) :=
  rows.foreign_key_rows.foldl (fun keys row =>
    keys.set (row.table_schema, row.table_name, row.column_name)
      (row.referenced_schema, row.referenced_table, row.referenced_column)) Dict.empty

def estimatedRowCounts (rows : CatalogueRows) : Dict (String × String) (Option Int) :=
  rows.row_count_rows.foldl (fun counts row =>
    counts.set (row.table_schema, row.table_name) row.estimated_row_count) Dict.empty

def discoveredColumn (rows : CatalogueRows) (row : ColumnRecord) : DiscoveredColumn :=
  let tableKey := (row.table_schema, row.table_name)
  let foreignKey := (foreignKeys rows).get (row.table_schema, row.table_name, row.column_name)
  { column_name := row.column_name
    data_type := row.data_type
    ordinal_position := row.ordinal_position
    is_nullable := row.is_nullable = "YES"
    is_primary_key := row.column_name ∈ ((primaryKeys rows).get tableKey).getD []
    is_foreign_key := foreignKey.isSome
    referenced_schema := foreignKey.map (fun key => key.1)
    referenced_table := foreignKey.map (fun key => key.2.1)
    referenced_column := foreignKey.map (fun key => key.2.2) }

def discoveredColumns (rows : CatalogueRows) :
    Dict (String × String) (List DiscoveredColumn) :=
  rows.column_rows.foldl (fun columns row =>
    appendTo columns (row.table_schema, row.table_name) (discoveredColumn rows row)) Dict.empty

def discoveredTable (rows : CatalogueRows) (row : TableRecord) : DiscoveredTable :=
  let tableKey := (row.table_schema, row.table_name)
  { schema_name := row.table_schema
    table_name := row.table_name
    table_type := row.table_type
    estimated_row_count := ((estimatedRowCounts rows).get tableKey).getD none
    primary_key_columns := ((primaryKeys rows).get tableKey).getD []
    columns := ((discoveredColumns rows).get tableKey).getD [] }

def discoveredTables (rows : CatalogueRows) : Dict String (List DiscoveredTable) :=
  rows.table_rows.foldl (fun tables row =>
    appendTo tables row.table_schema (discoveredTable rows row)) Dict.empty

def buildDiscoveryResult (rows : CatalogueRows) : SchemaDiscoveryResult :=
  let schemas := rows.schema_rows.map (fun row =>
    ⟨row.schema_name, ((discoveredTables rows).get row.schema_name).getD []⟩)
  { schemas := schemas
    schema_count := schemas.length
    table_count := (schemas.map (fun schema : DiscoveredSchema => schema.tables.length)).sum
    column_count := (schemas.map (fun schema : DiscoveredSchema =>
      (schema.tables.map (fun table => table.columns.length)).sum)).sum }

/-- A discovery comes with its own counts. -/
theorem buildDiscoveryResult_counted (rows : CatalogueRows) :
    (buildDiscoveryResult rows).Counted := by
  unfold SchemaDiscoveryResult.Counted SchemaDiscoveryResult.counts
  rw [List.length_flatMap, List.length_flatMap]
  dsimp only [buildDiscoveryResult]
  congr 1
  generalize rows.schema_rows.map (fun row =>
    (⟨row.schema_name, ((discoveredTables rows).get row.schema_name).getD []⟩ :
      DiscoveredSchema)) = schemas
  induction schemas with
  | nil => rfl
  | cons schema schemas ih =>
    rw [List.map_cons, List.sum_cons, ih, List.flatMap_cons, List.map_append, List.sum_append]

end DataChat.Platform
