import DataChat.Library.SameRows
import DataChat.Listing.Definitions

/-!
# The listing of a discovery

Where the cache mirrors a discovery, the services list the discovery, sorted by the names.

* `getCachedTables_lists`: the tables, with their columns.
* `getCachedSchemas_lists`: the schemas.
-/

namespace DataChat.Listing

open Platform Relational
open Effective (Collation)

/-! ## What is to be listed -/

/-- The name of the schema is the one that is asked for, if one is. -/
def Named (schemaName : Option String) (name : String) : Bool :=
  decide (∀ wanted ∈ schemaName, name = wanted)

/-- The discovered tables, each with the name of its schema. -/
def tablesUnder (discovery : SchemaDiscoveryResult) (schemaName : Option String) :
    List (String × DiscoveredTable) :=
  (discovery.schemas.flatMap (fun schema =>
    schema.tables.map (fun table => (schema.schema_name, table)))).filter
      (fun found => Named schemaName found.1)

def foundKey (collation : Collation) (found : String × DiscoveredTable) :
    collation.Key ×ₗ collation.Key :=
  toLex (collation.key found.1, collation.key found.2.table_name)

/-- What is listed of a discovered column. -/
def shownColumn (id : Uuid) (column : DiscoveredColumn) : DatabaseColumnResponse where
  id := id
  column_name := column.column_name
  data_type := column.data_type
  ordinal_position := some column.ordinal_position
  is_nullable := some column.is_nullable
  is_primary_key := column.is_primary_key
  is_foreign_key := column.is_foreign_key
  is_sensitive := false
  referenced_schema := column.referenced_schema
  referenced_table := column.referenced_table
  referenced_column := column.referenced_column
  description := none
  sample_values := []

/-- The item lists the discovered table, with its columns by their positions. -/
structure Lists (found : String × DiscoveredTable) (item : DatabaseTableResponse) : Prop where
  schema_name : item.schema_name = found.1
  table_name : item.table_name = found.2.table_name
  table_type : item.table_type = found.2.table_type
  description : item.description = none
  estimated_row_count : item.estimated_row_count = found.2.estimated_row_count
  primary_key_columns : item.primary_key_columns = found.2.primary_key_columns
  is_enabled : item.is_enabled = true
  is_sensitive : item.is_sensitive = false
  columns : ∃ columns, OrderedBy DiscoveredColumn.ordinal_position found.2.columns columns ∧
    List.Forall₂ (fun column shown => shown = shownColumn shown.id column) columns item.columns

variable {collation : Collation} {store : Store} {user : User} {connectionId : Uuid}
  {schemaName : Option String} {discovery : SchemaDiscoveryResult}

/-! ## Tables -/

section Tables

variable {tenantId : Uuid}

/-- The schema of a cached table is cached. -/
theorem schema_of_cached (h : Consistent store.toTables) {table : DatabaseTable}
    (htable : table ∈ cachedTables store.toTables tenantId connectionId) :
    ∃ schema ∈ cachedSchemas store.toTables tenantId connectionId, schema.id = table.schema_id ∧
      joinSchema store table = some (table, schema) := by
  obtain ⟨hmem, hof⟩ := List.mem_filter.mp htable
  obtain ⟨htenant, hconnection⟩ := of_decide_eq_true hof
  obtain ⟨schema, hschema, hid⟩ :=
    List.mem_map.mp (store.references.tables_schema table hmem table.schema_id rfl)
  obtain ⟨htenant', hconnection'⟩ := h.tables_schema table hmem schema hschema hid
  refine ⟨schema, List.mem_filter.mpr ⟨hschema, decide_eq_true ⟨?_, ?_⟩⟩, hid, ?_⟩
  · rw [htenant', htenant]
  · rw [hconnection', hconnection]
  · unfold joinSchema
    rw [(lookup_eq_some_iff store.keys.schemas).mpr ⟨hschema, hid⟩]
    rfl

/-- A cached table with the name of its schema. -/
def namedTable (store : Store) (table : DatabaseTable) : Option (DatabaseTable × String) :=
  (joinSchema store table).map (fun row => (row.1, row.2.schema_name))

/-- The query joins each cached table with its schema. -/
theorem cachedTableRows_eq (h : Consistent store.toTables) :
    cachedTableRows store tenantId connectionId schemaName =
      ((cachedTables store.toTables tenantId connectionId).filterMap (namedTable store)).filter
        (fun row => Named schemaName row.2) := by
  unfold cachedTableRows cachedTables
  rw [List.filter_filterMap, List.filter_filterMap, List.map_filterMap, List.filterMap_filter]
  refine List.filterMap_congr (fun table htable => ?_)
  unfold namedTable
  by_cases hof : table.isOf tenantId connectionId = true
  · obtain ⟨schema, hschema, -, hjoin⟩ :=
      schema_of_cached h (List.mem_filter.mpr ⟨htable, hof⟩)
    obtain ⟨htenant, hconnection⟩ := of_decide_eq_true hof
    obtain ⟨htenant', hconnection'⟩ := of_decide_eq_true (List.mem_filter.mp hschema).2
    have hcached : isCached tenantId connectionId schemaName (table, schema) =
        Named schemaName schema.schema_name := by
      simp [isCached, Named, htenant, hconnection, htenant', hconnection']
    rw [if_pos hof, hjoin, Option.map_some, Option.filter_some, Option.filter_some, hcached]
    split <;> rfl
  · rw [if_neg hof, Option.map_eq_none_iff, Option.filter_eq_none_iff]
    rintro row hjoin hcached
    obtain ⟨schema, -, rfl⟩ := Option.map_eq_some_iff.mp hjoin
    obtain ⟨htenant, hconnection, -⟩ := of_decide_eq_true hcached
    exact hof (decide_eq_true ⟨htenant, hconnection⟩)

/-- The cached tables, schema by schema. -/
def tablesBySchema (t : Tables) (tenantId connectionId : Uuid) : List (DatabaseTable × String) :=
  (cachedSchemas t tenantId connectionId).flatMap (fun schema =>
    ((cachedTables t tenantId connectionId).filter (fun table =>
      table.schema_id = schema.id)).map (fun table => (table, schema.schema_name)))

theorem namedTables_perm (h : Consistent store.toTables) :
    ((cachedTables store.toTables tenantId connectionId).filterMap (namedTable store)).Perm
      (tablesBySchema store.toTables tenantId connectionId) := by
  have hkeys : ((cachedSchemas store.toTables tenantId connectionId).map
      DatabaseSchema.id).Nodup :=
    store.keys.schemas.sublist List.filter_sublist
  have hparents : ∀ table ∈ cachedTables store.toTables tenantId connectionId,
      table.schema_id ∈ (cachedSchemas store.toTables tenantId connectionId).map
        DatabaseSchema.id := by
    intro table htable
    obtain ⟨schema, hschema, hid, -⟩ := schema_of_cached h htable
    exact List.mem_map.mpr ⟨schema, hschema, hid⟩
  have hgroups := Groups.flatMap_filter_perm hkeys hparents
  refine (hgroups.symm.filterMap _).trans (List.Perm.of_eq ?_)
  rw [List.filterMap_flatMap, List.flatMap_map]
  refine List.flatMap_congr (fun schema hschema => ?_)
  have hlookup := (lookup_eq_some_iff store.keys.schemas).mpr
    ⟨(List.mem_filter.mp hschema).1, rfl⟩
  rw [← List.filterMap_eq_map]
  refine List.filterMap_congr (fun table htable => ?_)
  have hid := of_decide_eq_true (List.mem_filter.mp htable).2
  unfold namedTable joinSchema
  rw [hid, hlookup]
  rfl

/-! ## The rows and the discovery -/

/-- The row is made from the discovered table, and the columns below it from its columns. -/
def Stands (t : Tables) (tenantId connectionId : Uuid) (row : DatabaseTable × String)
    (found : String × DiscoveredTable) : Prop :=
  row.2 = found.1 ∧
    ∃ schemaId, (tableBlock t tenantId row.1).Of tenantId connectionId schemaId found.2

theorem rows_stand (hmirrors : Mirrors tenantId connectionId store.toTables discovery) :
    List.Forall₂ (Stands store.toTables tenantId connectionId)
      ((tablesBySchema store.toTables tenantId connectionId).filter
        (fun row => Named schemaName row.2))
      (tablesUnder discovery schemaName) := by
  have hblocks : List.Forall₂ (fun schema found =>
      (schemaBlock store.toTables tenantId connectionId schema).Of tenantId connectionId found)
      (cachedSchemas store.toTables tenantId connectionId) discovery.schemas :=
    List.forall₂_map_left_iff.mp hmirrors
  refine List.rel_filter ?_ (List.rel_flatMap hblocks (fun schema found hblock => ?_))
  · rintro row found ⟨hname, -⟩
    show Named schemaName row.2 = true ↔ Named schemaName found.1 = true
    rw [hname]
  · obtain ⟨hschema, htables⟩ := hblock
    rw [List.forall₂_map_left_iff, List.forall₂_map_right_iff]
    have hname : schema.schema_name = found.schema_name :=
      congrArg DatabaseSchema.schema_name hschema
    have hstands := List.forall₂_map_left_iff.mp htables
    exact hstands.imp (fun table discovered hof => ⟨hname, _, hof⟩)

/-- The rows of the query stand for the discovered tables, in some order. -/
theorem sorted_stand (h : Consistent store.toTables)
    (hmirrors : Mirrors tenantId connectionId store.toTables discovery)
    {tableRows : List (DatabaseTable × String)}
    (hrows : OrderedBy (tableKey collation)
      (cachedTableRows store tenantId connectionId schemaName) tableRows) :
    ∃ sorted, OrderedBy (foundKey collation) (tablesUnder discovery schemaName) sorted ∧
      List.Forall₂ (Stands store.toTables tenantId connectionId) tableRows sorted := by
  have hperm : (cachedTableRows store tenantId connectionId schemaName).Perm
      ((tablesBySchema store.toTables tenantId connectionId).filter
        (fun row => Named schemaName row.2)) := by
    rw [cachedTableRows_eq h]
    exact (namedTables_perm h).filter _
  refine ((orderedBy_congr hperm).mp hrows).forall₂ (rows_stand hmirrors) ?_
  rintro row found row' found' ⟨hname, _, hblock, -⟩ ⟨hname', _, hblock', -⟩ hle
  have htable : row.1.table_name = found.2.table_name := congrArg DatabaseTable.table_name hblock
  have htable' : row'.1.table_name = found'.2.table_name :=
    congrArg DatabaseTable.table_name hblock'
  unfold tableKey at hle
  unfold foundKey
  rw [← hname, ← hname', ← htable, ← htable']
  exact hle

/-- The columns of a listed table stand for those of the discovery, by their positions. -/
theorem columns_stand {tableIds : List Uuid} {columnRows : List DatabaseColumn}
    (hrows : OrderedBy columnKey (cachedColumnRows store tenantId tableIds) columnRows)
    {table : DatabaseTable} (hlisted : table.id ∈ tableIds) {discovered : List DiscoveredColumn}
    (hcolumns : ColumnsOf tenantId table.id (tableBlock store.toTables tenantId table).2
      discovered) :
    ∃ columns, OrderedBy DiscoveredColumn.ordinal_position discovered columns ∧
      List.Forall₂ (fun column shown => shown = shownColumn shown.id column) columns
        ((((columnsByTable columnRows).get table.id).getD []).map columnResponse) := by
  have hget : ((columnsByTable columnRows).get table.id).getD [] =
      columnRows.filter (fun column => column.table_id = table.id) := by
    have happended := Groups.getD_foldl_append DatabaseColumn.table_id id columnRows table.id
    rw [List.map_id] at happended
    exact happended
  have hbelow : (cachedColumnRows store tenantId tableIds).filter
      (fun column => column.table_id = table.id) =
        (tableBlock store.toTables tenantId table).2 := by
    unfold cachedColumnRows tableBlock
    rw [List.filter_filter]
    refine List.filter_congr (fun column _ => ?_)
    by_cases hid : column.table_id = table.id <;> simp [hid, hlisted]
  have hordered := hrows.filter (fun column => column.table_id = table.id)
  rw [hbelow, ← hget] at hordered
  have hkey : ∀ (row : DatabaseColumn) (column : DiscoveredColumn) (row' : DatabaseColumn)
      (column' : DiscoveredColumn), row = column.row tenantId table.id row.id →
        row' = column'.row tenantId table.id row'.id → columnKey row ≤ columnKey row' →
          column.ordinal_position ≤ column'.ordinal_position := by
    intro row column row' column' hrow hrow' hle
    rw [hrow, hrow'] at hle
    rcases Prod.Lex.toLex_le_toLex.mp hle with hlt | ⟨-, hposition⟩
    · exact absurd hlt (lt_irrefl _)
    · exact WithTop.coe_le_coe.mp hposition
  obtain ⟨columns, hsorted, hstand⟩ := hordered.forall₂ hcolumns hkey
  refine ⟨columns, hsorted, List.forall₂_map_right_iff.mpr ?_⟩
  refine List.Forall₂.flip (hstand.imp (fun row column hrow => ?_))
  show columnResponse row = shownColumn row.id column
  rw [hrow]
  rfl

/-- Where the cache mirrors a discovery, its tables are listed by the names of their schemas and
their own, with their columns by their positions. -/
theorem getCachedTables_lists (h : Consistent store.toTables)
    (hmirrors : Mirrors user.tenant_id connectionId store.toTables discovery)
    {connection : DatabaseConnection}
    (hconnection : getDatabaseConnection store user connectionId = .ok connection)
    {tableRows : List (DatabaseTable × String)} {columnRows : List DatabaseColumn}
    (hreturned : Returned collation store user.tenant_id connectionId schemaName tableRows
      columnRows) :
    ∃ items sorted,
      getCachedTables store user connectionId schemaName tableRows columnRows =
        .ok (items, items.length) ∧
      OrderedBy (foundKey collation) (tablesUnder discovery schemaName) sorted ∧
      List.Forall₂ Lists sorted items := by
  obtain ⟨sorted, hsorted, hstand⟩ := sorted_stand h hmirrors hreturned.tables
  refine ⟨tableRows.map (fun row =>
    tableResponse row.1 row.2 (((columnsByTable columnRows).get row.1.id).getD [])), sorted, ?_,
    hsorted, ?_⟩
  · unfold getCachedTables
    rw [hconnection, List.length_map, hreturned.tables.perm.length_eq]
    rfl
  · rw [List.forall₂_map_right_iff]
    have hlisted := (List.forall₂_and_left tableRows sorted).mpr
      ⟨fun row hrow => List.mem_map_of_mem (f := fun row => row.1.id) hrow, hstand⟩
    refine List.Forall₂.flip (hlisted.imp (fun row found hrow => ?_))
    obtain ⟨hmem, hname, schemaId, hblock, hcolumns⟩ := hrow
    exact ⟨hname, congrArg DatabaseTable.table_name hblock, congrArg DatabaseTable.table_type hblock,
      congrArg DatabaseTable.description hblock,
      congrArg DatabaseTable.estimated_row_count hblock,
      congrArg DatabaseTable.primary_key_columns hblock,
      congrArg DatabaseTable.is_enabled hblock, congrArg DatabaseTable.is_sensitive hblock,
      columns_stand hreturned.columns hmem hcolumns⟩

end Tables

/-! ## Schemas -/

/-- Where the cache mirrors a discovery, its schemas are listed by their names. -/
theorem getCachedSchemas_lists
    (hmirrors : Mirrors user.tenant_id connectionId store.toTables discovery)
    {connection : DatabaseConnection}
    (hconnection : getDatabaseConnection store user connectionId = .ok connection)
    {schemaRows : List DatabaseSchema}
    (hrows : OrderedBy (fun schema => collation.key schema.schema_name)
      (cachedSchemaRows store user.tenant_id connectionId) schemaRows) :
    getCachedSchemas store user connectionId schemaRows = .ok (schemaRows, schemaRows.length) ∧
      OrderedBy collation.key (discovery.schemas.map DiscoveredSchema.schema_name)
        (schemaRows.map DatabaseSchema.schema_name) := by
  have hnames : (cachedSchemaRows store user.tenant_id connectionId).map
      DatabaseSchema.schema_name = discovery.schemas.map DiscoveredSchema.schema_name := by
    have hblocks := List.forall₂_map_left_iff.mp hmirrors
    rw [← List.forall₂_eq_eq_eq, List.forall₂_map_left_iff, List.forall₂_map_right_iff]
    exact hblocks.imp (fun schema found hof => congrArg DatabaseSchema.schema_name hof.1)
  constructor
  · unfold getCachedSchemas
    rw [hconnection, hrows.perm.length_eq]
    rfl
  · rw [← hnames]
    exact ⟨hrows.perm.map _, List.pairwise_map.mpr hrows.sorted⟩

end DataChat.Listing
