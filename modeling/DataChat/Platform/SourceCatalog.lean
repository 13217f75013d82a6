import DataChat.Library.OrderBy
import DataChat.Library.Text
import DataChat.Platform.Discovery
import Mathlib.Data.List.ProdSigma
import Mathlib.Data.Prod.Lex
import Mathlib.Data.String.Basic

/-!
# The catalogue of a source database

The tables of a PostgreSQL database with their columns and constraints, the views of its
`information_schema`, and what the catalogue queries of `services/database/schema_discovery.py`
return. The connecting role sees every object, and names compare by their characters, which is
the collation of catalogue names.

Nothing is asked of the names of constraints: two tables may use one name, and so may a foreign
key and the primary key of another table.

* `SourceCatalog.Answers`: the rows are such as the queries may return.
* `exists_answers`: there are such rows.
-/

namespace DataChat.Platform

/-! ## Tables and constraints -/

structure SourceColumn where
  column_name : String
  data_type : String
  ordinal_position : Int
  is_nullable : Bool

inductive TableType
  | baseTable
  | view
  | foreign
  | localTemporary

def TableType.name : TableType → String
  | baseTable => "BASE TABLE"
  | view => "VIEW"
  | foreign => "FOREIGN"
  | localTemporary => "LOCAL TEMPORARY"

/-- A primary key or a unique constraint, with its columns in key order. -/
structure SourceKey where
  constraint_name : String
  columns : List String
  columns_ne : columns ≠ []

/-- A foreign key: each of its columns with the one that it refers to, by position. -/
structure SourceForeignKey where
  constraint_name : String
  referenced_schema : String
  referenced_table : String
  pairs : List (String × String)
  pairs_ne : pairs ≠ []

def SourceForeignKey.columns (key : SourceForeignKey) : List String := key.pairs.map Prod.fst

def SourceForeignKey.referenced_columns (key : SourceForeignKey) : List String :=
  key.pairs.map Prod.snd

theorem SourceForeignKey.columns_ne (key : SourceForeignKey) : key.columns ≠ [] := by
  simpa [SourceForeignKey.columns] using key.pairs_ne

theorem SourceForeignKey.referenced_columns_ne (key : SourceForeignKey) :
    key.referenced_columns ≠ [] := by
  simpa [SourceForeignKey.referenced_columns] using key.pairs_ne

structure SourceCheck where
  constraint_name : String
  columns : List String

structure SourceTable where
  table_schema : String
  table_name : String
  table_type : TableType
  columns : List SourceColumn
  primary_key : Option SourceKey
  uniques : List SourceKey
  foreign_keys : List SourceForeignKey
  checks : List SourceCheck
  names_nodup : (columns.map SourceColumn.column_name).Nodup
  positions_nodup : (columns.map SourceColumn.ordinal_position).Nodup

def SourceTable.key (table : SourceTable) : String × String :=
  (table.table_schema, table.table_name)

structure SourceCatalog where
  schemata : List String
  tables : List SourceTable
  schemata_nodup : schemata.Nodup
  tables_nodup : (tables.map SourceTable.key).Nodup
  schema_mem : ∀ table ∈ tables, table.table_schema ∈ schemata

/-! ## The views of the information schema -/

inductive ConstraintType
  | primaryKey
  | unique
  | foreignKey
  | check
  deriving DecidableEq

structure TableConstraint where
  constraint_schema : String
  constraint_name : String
  table_schema : String
  table_name : String
  constraint_type : ConstraintType

structure KeyColumnUsage where
  constraint_schema : String
  constraint_name : String
  table_schema : String
  table_name : String
  column_name : String
  ordinal_position : Nat

structure ConstraintColumnUsage where
  constraint_schema : String
  constraint_name : String
  table_schema : String
  table_name : String
  column_name : String

namespace SourceTable

/-- A constraint belongs to the schema of its table. -/
def constraint (table : SourceTable) (type : ConstraintType) (name : String) : TableConstraint :=
  ⟨table.table_schema, name, table.table_schema, table.table_name, type⟩

def constraints (table : SourceTable) : List TableConstraint :=
  table.primary_key.toList.map (fun key => table.constraint .primaryKey key.constraint_name) ++
    table.uniques.map (fun key => table.constraint .unique key.constraint_name) ++
    table.foreign_keys.map (fun key => table.constraint .foreignKey key.constraint_name) ++
    table.checks.map (fun check => table.constraint .check check.constraint_name)

/-- Positions in a key count from one. -/
def usagesOf (table : SourceTable) (name : String) (columns : List String) : List KeyColumnUsage :=
  (columns.zipIdx 1).map (fun column =>
    ⟨table.table_schema, name, table.table_schema, table.table_name, column.1, column.2⟩)

def keyColumns (table : SourceTable) : List KeyColumnUsage :=
  table.primary_key.toList.flatMap (fun key => table.usagesOf key.constraint_name key.columns) ++
    (table.uniques.flatMap (fun key => table.usagesOf key.constraint_name key.columns) ++
      table.foreign_keys.flatMap (fun key => table.usagesOf key.constraint_name key.columns))

/-- Keys and checks use columns of their own table, foreign keys those that they refer to. -/
def usedColumns (table : SourceTable) : List ConstraintColumnUsage :=
  let own := fun (name : String) (columns : List String) =>
    columns.map (fun column => (⟨table.table_schema, name, table.table_schema, table.table_name,
      column⟩ : ConstraintColumnUsage))
  table.primary_key.toList.flatMap (fun key => own key.constraint_name key.columns) ++
    table.uniques.flatMap (fun key => own key.constraint_name key.columns) ++
    table.checks.flatMap (fun check => own check.constraint_name check.columns) ++
    table.foreign_keys.flatMap (fun key => key.referenced_columns.map (fun column =>
      ⟨table.table_schema, key.constraint_name, key.referenced_schema, key.referenced_table,
        column⟩))

def tableRow (table : SourceTable) : TableRecord :=
  ⟨table.table_schema, table.table_name, table.table_type.name⟩

def columnRow (table : SourceTable) (column : SourceColumn) : ColumnRecord :=
  { table_schema := table.table_schema
    table_name := table.table_name
    column_name := column.column_name
    data_type := column.data_type
    ordinal_position := column.ordinal_position
    is_nullable := if column.is_nullable then "YES" else "NO" }

end SourceTable

namespace SourceCatalog

def tableConstraints (catalog : SourceCatalog) : List TableConstraint :=
  catalog.tables.flatMap SourceTable.constraints

def keyColumnUsage (catalog : SourceCatalog) : List KeyColumnUsage :=
  catalog.tables.flatMap SourceTable.keyColumns

def constraintColumnUsage (catalog : SourceCatalog) : List ConstraintColumnUsage :=
  catalog.tables.flatMap SourceTable.usedColumns

end SourceCatalog

/-! ## The catalogue queries -/

/-- `text LIKE pattern`, for a pattern without escapes. -/
def like : List Char → List Char → Bool
  | [], text => text.isEmpty
  | '%' :: pattern, text => text.tails.any (like pattern)
  | '_' :: pattern, text => if text.isEmpty then false else like pattern text.tail
  | c :: pattern, text => if text.head? = some c then like pattern text.tail else false

def systemSchemas : List String := ["pg_catalog", "information_schema", "pg_toast"]

/-- The condition on schemas that three of the queries share. -/
def isListed (schema : String) : Bool :=
  schema ∉ systemSchemas && ! like "pg_temp_%".toList schema.toList &&
    ! like "pg_toast_temp_%".toList schema.toList

def caseTableType (tableType : String) : String :=
  if tableType = "BASE TABLE" then "table"
  else if tableType = "VIEW" then "view"
  else asciiLower tableType

/-- A row of the joined views. -/
abbrev JoinedRow := TableConstraint × KeyColumnUsage × ConstraintColumnUsage

/-- The conditions of the two joins. -/
def JoinedRow.matching (row : JoinedRow) : Bool :=
  row.1.constraint_name = row.2.1.constraint_name ∧
    row.1.constraint_schema = row.2.1.constraint_schema ∧
    row.1.constraint_name = row.2.2.constraint_name ∧
    row.1.constraint_schema = row.2.2.constraint_schema

def KeyColumnUsage.record (usage : KeyColumnUsage) : PrimaryKeyRecord :=
  ⟨usage.table_schema, usage.table_name, usage.column_name⟩

def JoinedRow.record (row : JoinedRow) : ForeignKeyRecord where
  table_schema := row.1.table_schema
  table_name := row.1.table_name
  column_name := row.2.1.column_name
  referenced_schema := row.2.2.table_schema
  referenced_table := row.2.2.table_name
  referenced_column := row.2.2.column_name

namespace SourceCatalog

def schemaQuery (catalog : SourceCatalog) : List String := catalog.schemata.filter isListed

def tableQuery (catalog : SourceCatalog) : List TableRecord :=
  ((catalog.tables.map SourceTable.tableRow).filter (fun row => isListed row.table_schema)).map
    (fun row => { row with table_type := caseTableType row.table_type })

def columnQuery (catalog : SourceCatalog) : List ColumnRecord :=
  (catalog.tables.flatMap (fun table => table.columns.map table.columnRow)).filter
    (fun row => isListed row.table_schema)

def primaryKeyNames (catalog : SourceCatalog) : List String :=
  (catalog.tableConstraints.filter (fun constraint =>
    constraint.constraint_type = .primaryKey)).map TableConstraint.constraint_name

def primaryKeyQuery (catalog : SourceCatalog) : List KeyColumnUsage :=
  catalog.keyColumnUsage.filter (fun usage =>
    usage.constraint_name ∈ catalog.primaryKeyNames ∧ usage.table_schema ∉ systemSchemas)

def foreignKeyQuery (catalog : SourceCatalog) : List JoinedRow :=
  ((catalog.tableConstraints ×ˢ catalog.keyColumnUsage ×ˢ catalog.constraintColumnUsage).filter
    JoinedRow.matching).filter (fun row =>
      row.1.constraint_type = .foreignKey ∧ row.1.table_schema ∉ systemSchemas)

end SourceCatalog

/-! ### In which orders the rows come -/

def TableRecord.sortKey (row : TableRecord) : Lex (String × String) :=
  toLex (row.table_schema, row.table_name)

def ColumnRecord.sortKey (row : ColumnRecord) : Lex (String × Lex (String × Int)) :=
  toLex (row.table_schema, toLex (row.table_name, row.ordinal_position))

def KeyColumnUsage.sortKey (usage : KeyColumnUsage) : Lex (String × Lex (String × Nat)) :=
  toLex (usage.table_schema, toLex (usage.table_name, usage.ordinal_position))

def JoinedRow.sortKey (row : JoinedRow) : Lex (String × Lex (String × Nat)) :=
  toLex (row.1.table_schema, toLex (row.1.table_name, row.2.1.ordinal_position))

/-- The row counts are statistics and may be anything. -/
structure SourceCatalog.Answers (catalog : SourceCatalog) (rows : CatalogueRows) : Prop where
  schemas : ∃ names, OrderedBy id catalog.schemaQuery names ∧
    rows.schema_rows = names.map SchemaRecord.mk
  tables : OrderedBy TableRecord.sortKey catalog.tableQuery rows.table_rows
  columns : OrderedBy ColumnRecord.sortKey catalog.columnQuery rows.column_rows
  primary_keys : ∃ usages, OrderedBy KeyColumnUsage.sortKey catalog.primaryKeyQuery usages ∧
    rows.primary_key_rows = usages.map KeyColumnUsage.record
  foreign_keys : ∃ joined, OrderedBy JoinedRow.sortKey catalog.foreignKeyQuery joined ∧
    rows.foreign_key_rows = joined.map JoinedRow.record

/-- Any order of the joined rows belongs to some answers. -/
theorem exists_answers (catalog : SourceCatalog) {joined : List JoinedRow}
    (hjoined : OrderedBy JoinedRow.sortKey catalog.foreignKeyQuery joined) :
    ∃ rows, catalog.Answers rows ∧ rows.foreign_key_rows = joined.map JoinedRow.record := by
  obtain ⟨names, hnames⟩ := exists_orderedBy id catalog.schemaQuery
  obtain ⟨tables, htables⟩ := exists_orderedBy TableRecord.sortKey catalog.tableQuery
  obtain ⟨columns, hcolumns⟩ := exists_orderedBy ColumnRecord.sortKey catalog.columnQuery
  obtain ⟨usages, husages⟩ := exists_orderedBy KeyColumnUsage.sortKey catalog.primaryKeyQuery
  let rows : CatalogueRows := ⟨names.map SchemaRecord.mk, tables, columns,
    usages.map KeyColumnUsage.record, joined.map JoinedRow.record, []⟩
  exact ⟨rows, ⟨⟨names, hnames, rfl⟩, htables, hcolumns, ⟨usages, husages, rfl⟩,
    ⟨joined, hjoined, rfl⟩⟩, rfl⟩

end DataChat.Platform
