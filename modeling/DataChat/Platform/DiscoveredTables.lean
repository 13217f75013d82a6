import DataChat.Library.Groups
import DataChat.Platform.SourceCatalog

/-!
# Discovered tables and the tables of the source

`build_discovery_result` on the answers to the catalogue queries: what should be discovered, and
the part of it that holds whatever the keys are called. Each listed table is discovered once, with
each of its columns once, in ordinal order.

* `discovered_once`: the discovered tables are the listed ones.
* `found_columns_once`, `found_in_order`: the columns of a discovered table.
-/

namespace DataChat.Platform

/-! ## What should be discovered -/

def SourceCatalog.listedTables (catalog : SourceCatalog) : List SourceTable :=
  catalog.tables.filter (fun table => isListed table.table_schema)

def SourceTable.primaryKeyColumns (table : SourceTable) : List String :=
  table.primary_key.toList.flatMap SourceKey.columns

/-- The foreign keys of the table that the column belongs to. -/
def SourceTable.foreignKeysOf (table : SourceTable) (column : String) : List SourceForeignKey :=
  table.foreign_keys.filter (fun key => column ∈ key.columns)

/-- The key pairs the column with the schema, table and column. -/
def SourceForeignKey.Pairs (key : SourceForeignKey) (column : String)
    (target : String × String × String) : Prop :=
  ∃ referenced, (column, referenced) ∈ key.pairs ∧
    target = (key.referenced_schema, key.referenced_table, referenced)

def DiscoveredTable.key (table : DiscoveredTable) : String × String :=
  (table.schema_name, table.table_name)

/-- What the discovered column says of the source, keys apart. -/
def DiscoveredColumn.source (column : DiscoveredColumn) : SourceColumn :=
  ⟨column.column_name, column.data_type, column.ordinal_position, column.is_nullable⟩

def DiscoveredColumn.References (column : DiscoveredColumn)
    (target : String × String × String) : Prop :=
  column.is_foreign_key = true ∧ column.referenced_schema = some target.1 ∧
    column.referenced_table = some target.2.1 ∧ column.referenced_column = some target.2.2

structure TableDiscovered (table : SourceTable) (found : DiscoveredTable) : Prop where
  columns_once : (found.columns.map DiscoveredColumn.source).Perm table.columns
  in_order : found.columns.Pairwise (fun a b => a.ordinal_position < b.ordinal_position)
  key_order : found.primary_key_columns = table.primaryKeyColumns
  is_primary : ∀ column ∈ found.columns,
    column.is_primary_key = true ↔ column.column_name ∈ table.primaryKeyColumns
  is_foreign : ∀ column ∈ found.columns, ∀ key, table.foreignKeysOf column.column_name = [key] →
    ∃ target, key.Pairs column.column_name target ∧ column.References target

def SchemaDiscoveryResult.tables (discovery : SchemaDiscoveryResult) : List DiscoveredTable :=
  discovery.schemas.flatMap DiscoveredSchema.tables

structure KeysDiscovered (catalog : SourceCatalog) (discovery : SchemaDiscoveryResult) :
    Prop where
  tables_once : (discovery.tables.map DiscoveredTable.key).Perm
    (catalog.listedTables.map SourceTable.key)
  in_schema : ∀ schema ∈ discovery.schemas, ∀ found ∈ schema.tables,
    found.schema_name = schema.schema_name
  tables : ∀ table ∈ catalog.listedTables, ∀ found ∈ discovery.tables,
    found.key = table.key → TableDiscovered table found

/-! ## The tables -/

section Answered

variable {catalog : SourceCatalog} {rows : CatalogueRows}

theorem tableQuery_keys (catalog : SourceCatalog) :
    catalog.tableQuery.map (fun row => (row.table_schema, row.table_name)) =
      catalog.listedTables.map SourceTable.key := by
  unfold SourceCatalog.tableQuery SourceCatalog.listedTables
  rw [List.map_map, List.filter_map, List.map_map]
  rfl

theorem discoveredTables_get (rows : CatalogueRows) (schema : String) :
    ((discoveredTables rows).get schema).getD [] =
      (rows.table_rows.filter (fun row => row.table_schema = schema)).map
        (discoveredTable rows) :=
  Groups.getD_foldl_append TableRecord.table_schema (discoveredTable rows) rows.table_rows schema

theorem discovered_tables (rows : CatalogueRows) :
    (buildDiscoveryResult rows).tables =
      ((rows.schema_rows.map SchemaRecord.schema_name).flatMap (fun schema =>
        rows.table_rows.filter (fun row => row.table_schema = schema))).map
          (discoveredTable rows) := by
  unfold SchemaDiscoveryResult.tables buildDiscoveryResult
  simp only [List.flatMap_map, List.map_flatMap, discoveredTables_get]

theorem discovered_in_schema (rows : CatalogueRows) :
    ∀ schema ∈ (buildDiscoveryResult rows).schemas, ∀ found ∈ schema.tables,
      found.schema_name = schema.schema_name := by
  intro schema hschema found hfound
  obtain ⟨row, -, rfl⟩ := List.mem_map.mp hschema
  rw [discoveredTables_get] at hfound
  obtain ⟨tableRow, htable, rfl⟩ := List.mem_map.mp hfound
  exact of_decide_eq_true (List.mem_filter.mp htable).2

/-- Every listed table is under its schema, once. -/
theorem discovered_perm (h : catalog.Answers rows) :
    (buildDiscoveryResult rows).tables.Perm (rows.table_rows.map (discoveredTable rows)) := by
  obtain ⟨names, hnames, hrows⟩ := h.schemas
  rw [discovered_tables, hrows, List.map_map]
  have hid : names.map (SchemaRecord.schema_name ∘ SchemaRecord.mk) = names := List.map_id names
  rw [hid]
  have hnodup : names.Nodup := hnames.perm.nodup_iff.mpr (catalog.schemata_nodup.filter _)
  refine (Groups.flatMap_filter_perm hnodup ?_).map _
  intro row hrow
  have hquery := h.tables.mem_iff.mp hrow
  have hkey : (row.table_schema, row.table_name) ∈ catalog.listedTables.map SourceTable.key := by
    rw [← tableQuery_keys]
    exact List.mem_map_of_mem hquery
  obtain ⟨table, htable, he⟩ := List.mem_map.mp hkey
  obtain ⟨htable, hlisted⟩ := List.mem_filter.mp htable
  have hschema : table.table_schema = row.table_schema := (Prod.mk.inj he).1
  rw [hnames.mem_iff, ← hschema]
  exact List.mem_filter.mpr ⟨catalog.schema_mem table htable, hlisted⟩

theorem discovered_once (h : catalog.Answers rows) :
    ((buildDiscoveryResult rows).tables.map DiscoveredTable.key).Perm
      (catalog.listedTables.map SourceTable.key) := by
  rw [← tableQuery_keys]
  refine ((discovered_perm h).map _).trans ?_
  rw [List.map_map]
  exact h.tables.perm.map _

/-- A discovered table is made from the rows with its key. -/
theorem eq_of_discovered (h : catalog.Answers rows) {found : DiscoveredTable}
    (hfound : found ∈ (buildDiscoveryResult rows).tables) :
    found.primary_key_columns = ((primaryKeys rows).get found.key).getD [] ∧
      found.columns = ((discoveredColumns rows).get found.key).getD [] := by
  obtain ⟨row, -, rfl⟩ := List.mem_map.mp ((discovered_perm h).mem_iff.mp hfound)
  exact ⟨rfl, rfl⟩

/-! ## The columns -/

def ColumnRecord.tableKey (row : ColumnRecord) : String × String :=
  (row.table_schema, row.table_name)

theorem mem_listedTables {table : SourceTable} :
    table ∈ catalog.listedTables ↔ table ∈ catalog.tables ∧ isListed table.table_schema = true :=
  List.mem_filter

theorem not_mem_systemSchemas {schema : String} (h : isListed schema = true) :
    schema ∉ systemSchemas := by
  unfold isListed at h
  simp only [Bool.and_eq_true, decide_eq_true_eq] at h
  exact h.1.1

/-- The rows of the column query for a listed table are its columns. -/
theorem columnQuery_filter {table : SourceTable} (htable : table ∈ catalog.listedTables) :
    catalog.columnQuery.filter (fun row => row.tableKey = table.key) =
      table.columns.map table.columnRow := by
  obtain ⟨hmem, hlisted⟩ := mem_listedTables.mp htable
  unfold SourceCatalog.columnQuery
  rw [List.filter_filter]
  have hkey : ∀ other ∈ catalog.tables, ∀ row ∈ other.columns.map other.columnRow,
      ColumnRecord.tableKey row = other.key := by
    intro other _ row hrow
    obtain ⟨column, -, rfl⟩ := List.mem_map.mp hrow
    rfl
  rw [← Groups.filter_flatMap_of_key catalog.tables_nodup hkey hmem]
  refine List.filter_congr (fun row _ => ?_)
  by_cases hrow : row.tableKey = table.key
  · have hschema : row.table_schema = table.table_schema := (Prod.mk.inj hrow).1
    simp [hrow, hschema, hlisted]
  · simp [hrow]

theorem discoveredColumns_get (rows : CatalogueRows) (table : SourceTable) :
    ((discoveredColumns rows).get table.key).getD [] =
      (rows.column_rows.filter (fun row => row.tableKey = table.key)).map
        (discoveredColumn rows) :=
  Groups.getD_foldl_append ColumnRecord.tableKey (discoveredColumn rows) rows.column_rows table.key

theorem source_discoveredColumn (rows : CatalogueRows) (table : SourceTable)
    (column : SourceColumn) :
    (discoveredColumn rows (table.columnRow column)).source = column := by
  obtain ⟨name, type, position, nullable⟩ := column
  cases nullable <;> rfl

section Columns

variable {table : SourceTable} {found : DiscoveredTable} (h : catalog.Answers rows)
  (htable : table ∈ catalog.listedTables)
  (hfound : found ∈ (buildDiscoveryResult rows).tables) (hkey : found.key = table.key)

include h htable hfound hkey

/-- The columns of a discovered table, from the rows of its columns in their order. -/
theorem found_columns : ∃ columnRows,
    OrderedBy ColumnRecord.sortKey (table.columns.map table.columnRow) columnRows ∧
      found.columns = columnRows.map (discoveredColumn rows) := by
  refine ⟨rows.column_rows.filter (fun row => row.tableKey = table.key), ?_, ?_⟩
  · rw [← columnQuery_filter htable]
    exact h.columns.filter _
  · rw [(eq_of_discovered h hfound).2, hkey, discoveredColumns_get]

theorem found_columns_once :
    (found.columns.map DiscoveredColumn.source).Perm table.columns := by
  obtain ⟨columnRows, hordered, hcolumns⟩ := found_columns h htable hfound hkey
  rw [hcolumns]
  refine ((hordered.perm.map _).map _).trans ?_
  rw [List.map_map, List.map_map]
  have hsource : (DiscoveredColumn.source ∘ discoveredColumn rows) ∘ table.columnRow = id := by
    funext column
    exact source_discoveredColumn rows table column
  rw [hsource, List.map_id]

theorem found_in_order :
    found.columns.Pairwise (fun a b => a.ordinal_position < b.ordinal_position) := by
  obtain ⟨columnRows, hordered, hcolumns⟩ := found_columns h htable hfound hkey
  rw [hcolumns, List.pairwise_map]
  -- the positions are distinct, and among the rows of one table they decide the order
  have hnodup : (columnRows.map ColumnRecord.ordinal_position).Nodup := by
    rw [(hordered.perm.map _).nodup_iff, List.map_map]
    exact table.positions_nodup
  have hdistinct : columnRows.Pairwise (fun a b => a.ordinal_position ≠ b.ordinal_position) :=
    List.pairwise_map.mp hnodup
  refine (hordered.sorted.and hdistinct).imp_of_mem (fun {a b} ha hb hab => ?_)
  obtain ⟨column, -, rfl⟩ := List.mem_map.mp (hordered.mem_iff.mp ha)
  obtain ⟨column', -, rfl⟩ := List.mem_map.mp (hordered.mem_iff.mp hb)
  obtain ⟨hle, hne⟩ := hab
  have hle' : column.ordinal_position ≤ column'.ordinal_position := by
    simpa [ColumnRecord.sortKey, SourceTable.columnRow, Prod.Lex.toLex_le_toLex] using hle
  exact lt_of_le_of_ne hle' hne

/-- A discovered column is made from a column of its table. -/
theorem exists_column {column : DiscoveredColumn} (hcolumn : column ∈ found.columns) :
    ∃ sourceColumn ∈ table.columns,
      column = discoveredColumn rows (table.columnRow sourceColumn) := by
  obtain ⟨columnRows, hordered, hcolumns⟩ := found_columns h htable hfound hkey
  rw [hcolumns] at hcolumn
  obtain ⟨row, hrow, rfl⟩ := List.mem_map.mp hcolumn
  obtain ⟨sourceColumn, hsource, rfl⟩ := List.mem_map.mp (hordered.mem_iff.mp hrow)
  exact ⟨sourceColumn, hsource, rfl⟩

theorem mem_found_columns {sourceColumn : SourceColumn} (hsource : sourceColumn ∈ table.columns) :
    discoveredColumn rows (table.columnRow sourceColumn) ∈ found.columns := by
  obtain ⟨columnRows, hordered, hcolumns⟩ := found_columns h htable hfound hkey
  rw [hcolumns]
  exact List.mem_map_of_mem (hordered.mem_iff.mpr (List.mem_map_of_mem hsource))

end Columns

end Answered

end DataChat.Platform
