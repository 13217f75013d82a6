import DataChat.Platform.CacheSession
import DataChat.Platform.Selections

/-!
# The cache mirrors the discovery

The cached rows of a connection, read as a tree of schemas with their tables and columns, are those
of the last discovery.

* `clear_tables`: clearing leaves no table of the connection, since tables agree with their schemas.
* `mirrors_of_written`: the rows that the loops have written, read as a tree.
* `cache_mirrors`: what a call of `cache_discovered_metadata` stores, whatever happens in between.
-/

namespace DataChat.Platform

open Relational Outcome Transactions

variable {tenantId connectionId : Uuid} {newUuid : Nat → Uuid} {store : Store}
  {discovery : SchemaDiscoveryResult} {caching : Caching}

/-! ## The cache as a tree -/

def cachedSchemas (t : Tables) (tenantId connectionId : Uuid) : List DatabaseSchema :=
  t.schemas.filter (DatabaseSchema.isOf tenantId connectionId)

def cachedTables (t : Tables) (tenantId connectionId : Uuid) : List DatabaseTable :=
  t.tables.filter (DatabaseTable.isOf tenantId connectionId)

/-- The columns of the tenant whose table is on the connection. -/
def cachedColumns (t : Tables) (tenantId connectionId : Uuid) : List DatabaseColumn :=
  t.columns.filter (fun column => column.tenant_id = tenantId ∧
    column.table_id ∈ (t.tables.filter (fun table =>
      table.connection_id = connectionId)).map DatabaseTable.id)

/-- A table of the cache with the columns of the tenant below it. -/
def tableBlock (t : Tables) (tenantId : Uuid) (table : DatabaseTable) : TableBlock :=
  (table, t.columns.filter (fun column =>
    column.tenant_id = tenantId ∧ column.table_id = table.id))

/-- A schema of the cache with the tables of the tenant and the connection below it. -/
def schemaBlock (t : Tables) (tenantId connectionId : Uuid) (schema : DatabaseSchema) :
    SchemaBlock :=
  (schema, ((cachedTables t tenantId connectionId).filter (fun table =>
    table.schema_id = schema.id)).map (tableBlock t tenantId))

/-- The cached schemas, tables and columns are those of the discovery, in its order and with its
attributes. -/
def Mirrors (tenantId connectionId : Uuid) (t : Tables) (discovery : SchemaDiscoveryResult) :
    Prop :=
  List.Forall₂ (SchemaBlock.Of tenantId connectionId)
    ((cachedSchemas t tenantId connectionId).map (schemaBlock t tenantId connectionId))
    discovery.schemas

/-- How many schemas, tables and columns have been discovered. -/
def SchemaDiscoveryResult.counts (discovery : SchemaDiscoveryResult) : CachedCounts where
  cached_schema_count := discovery.schemas.length
  cached_table_count := (discovery.schemas.flatMap DiscoveredSchema.tables).length
  cached_column_count := ((discovery.schemas.flatMap DiscoveredSchema.tables).flatMap
    DiscoveredTable.columns).length

/-- The counts that a discovery comes with are those of its schemas, tables and columns, as
`build_discovery_result` makes them. -/
def SchemaDiscoveryResult.Counted (discovery : SchemaDiscoveryResult) : Prop :=
  ⟨discovery.schema_count, discovery.table_count, discovery.column_count⟩ = discovery.counts

/-- How many of them are stored. -/
def storedCounts (t : Tables) (tenantId connectionId : Uuid) : CachedCounts where
  cached_schema_count := (cachedSchemas t tenantId connectionId).length
  cached_table_count := (cachedTables t tenantId connectionId).length
  cached_column_count := (cachedColumns t tenantId connectionId).length

/-! ## After clearing -/

/-- No table of the connection is left. -/
theorem clear_tables (h : Consistent store.toTables) :
    ∀ table ∈ (clearConnectionMetadata store tenantId connectionId).tables,
      table.isOf tenantId connectionId = false := by
  intro table htable
  have hcleared := h.sub (clear_sub store tenantId connectionId)
  have hparent := (clearConnectionMetadata store tenantId connectionId).references.tables_schema
    table htable table.schema_id rfl
  obtain ⟨schema, hschema, hid⟩ := List.mem_map.mp hparent
  have hnot := clear_schemas store tenantId connectionId schema hschema
  obtain ⟨htenant, hconnection⟩ := hcleared.tables_schema table htable schema hschema hid
  unfold DatabaseSchema.isOf at hnot
  rw [htenant, hconnection] at hnot
  exact hnot

/-! ## After the loops -/

/-- The store after the loops: rows have been added to one without rows of the connection. -/
structure Written (tenantId connectionId : Uuid) (base : Store) (blocks : List SchemaBlock)
    (store : Store) : Prop where
  consistent : Consistent base.toTables
  noSchema : ∀ s ∈ base.schemas, s.isOf tenantId connectionId = false
  noTable : ∀ d ∈ base.tables, d.isOf tenantId connectionId = false
  placed : ∀ block ∈ blocks, block.Placed tenantId connectionId
  schemas : store.schemas = base.schemas ++ blocks.map Prod.fst
  tables : store.tables = base.tables ++ (blocks.flatMap Prod.snd).map Prod.fst
  columns : store.columns = base.columns ++ (blocks.flatMap Prod.snd).flatMap Prod.snd

section

variable {base : Store} {blocks : List SchemaBlock}
  (h : Written tenantId connectionId base blocks store)

include h

theorem Written.placedTable {table : TableBlock} (htable : table ∈ blocks.flatMap Prod.snd) :
    ∃ block ∈ blocks, table.Placed tenantId connectionId block.1.id := by
  obtain ⟨block, hblock, hmem⟩ := List.mem_flatMap.mp htable
  exact ⟨block, hblock, (h.placed block hblock).tables table hmem⟩

theorem Written.isOf_table {table : TableBlock} (htable : table ∈ blocks.flatMap Prod.snd) :
    table.1.isOf tenantId connectionId = true := by
  obtain ⟨block, -, hplaced⟩ := h.placedTable htable
  exact decide_eq_true ⟨hplaced.tenant, hplaced.connection⟩

theorem Written.cachedSchemas :
    cachedSchemas store.toTables tenantId connectionId = blocks.map Prod.fst := by
  unfold Platform.cachedSchemas
  rw [h.schemas]
  refine filter_append_of_new h.noSchema (fun s hs => ?_)
  obtain ⟨block, hblock, rfl⟩ := List.mem_map.mp hs
  exact decide_eq_true ⟨(h.placed block hblock).tenant, (h.placed block hblock).connection⟩

theorem Written.cachedTables :
    cachedTables store.toTables tenantId connectionId =
      (blocks.flatMap Prod.snd).map Prod.fst := by
  unfold Platform.cachedTables
  rw [h.tables]
  refine filter_append_of_new h.noTable (fun d hd => ?_)
  obtain ⟨table, htable, rfl⟩ := List.mem_map.mp hd
  exact h.isOf_table htable

/-- The columns of a new table are those that were written below it. -/
theorem Written.tableBlock {table : TableBlock} (htable : table ∈ blocks.flatMap Prod.snd) :
    tableBlock store.toTables tenantId table.1 = table := by
  have hkey := store.keys.tables
  rw [h.tables] at hkey
  have hnew : table.1 ∈ (blocks.flatMap Prod.snd).map Prod.fst := List.mem_map_of_mem htable
  have hbase : base.columns.filter (fun column =>
      column.tenant_id = tenantId ∧ column.table_id = table.1.id) = [] := by
    rw [List.filter_eq_nil_iff]
    intro c hc hmatch
    have hparent := base.references.columns_table c hc c.table_id rfl
    rw [(of_decide_eq_true hmatch).2] at hparent
    exact hkey.fresh_of_mem hnew hparent
  have htenant : ∀ c ∈ (blocks.flatMap Prod.snd).flatMap Prod.snd, c.tenant_id = tenantId := by
    intro c hc
    obtain ⟨other, hother, hc⟩ := List.mem_flatMap.mp hc
    obtain ⟨block, -, hplaced⟩ := h.placedTable hother
    exact (hplaced.columns c hc).1
  have hown : ((blocks.flatMap Prod.snd).flatMap Prod.snd).filter
      (fun c => c.table_id = table.1.id) = table.2 := by
    refine children_of_block (hkey.sublist (List.sublist_append_right _ _)) ?_ table htable
    intro other hother c hc
    obtain ⟨block, -, hplaced⟩ := h.placedTable hother
    exact (hplaced.columns c hc).2
  unfold Platform.tableBlock
  rw [h.columns, List.filter_append, hbase, List.nil_append]
  refine Prod.ext rfl ((List.filter_congr (fun c hc => ?_)).trans hown)
  simp [htenant c hc]

/-- The tree that was written is read back. -/
theorem Written.schemaBlocks :
    (Platform.cachedSchemas store.toTables tenantId connectionId).map
      (schemaBlock store.toTables tenantId connectionId) = blocks := by
  have hkey := store.keys.schemas
  rw [h.schemas] at hkey
  have hregroup : (blocks.map Prod.fst).map (fun schema =>
      (schema, (blocks.flatMap Prod.snd).filter (fun table =>
        table.1.schema_id = schema.id))) = blocks :=
    regroup (hkey.sublist (List.sublist_append_right _ _))
      (fun block hblock table htable => ((h.placed block hblock).tables table htable).schema)
  rw [h.cachedSchemas]
  refine (List.map_congr_left (fun s _ => ?_)).trans hregroup
  unfold schemaBlock
  rw [h.cachedTables, List.filter_map, List.map_map]
  refine Prod.ext rfl ?_
  refine (List.map_congr_left (fun table htable => ?_)).trans (List.map_id _)
  exact h.tableBlock (List.mem_filter.mp htable).1

theorem Written.cachedColumns :
    cachedColumns store.toTables tenantId connectionId =
      (blocks.flatMap Prod.snd).flatMap Prod.snd := by
  have hkey := store.keys.tables
  unfold Platform.cachedColumns
  rw [h.columns]
  refine filter_append_of_new ?_ ?_
  · intro c hc
    rw [decide_eq_false_iff_not]
    rintro ⟨htenant, hon⟩
    obtain ⟨d, hd, hid⟩ := List.mem_map.mp hon
    obtain ⟨hdMem, hconnection⟩ := List.mem_filter.mp hd
    -- the table of an old column is an old table
    obtain ⟨old, hold, holdId⟩ :=
      List.mem_map.mp (base.references.columns_table c hc c.table_id rfl)
    have holdMem : old ∈ store.tables := by
      rw [h.tables]
      exact List.mem_append_left _ hold
    have hsame : d = old := hkey.eq_of_key hdMem holdMem (hid.trans holdId.symm)
    have hof : old.isOf tenantId connectionId = true := by
      rw [← hsame]
      refine decide_eq_true ⟨?_, of_decide_eq_true hconnection⟩
      rw [hsame, h.consistent.columns_table c hc old hold holdId, htenant]
    rw [h.noTable old hold] at hof
    cases hof
  · intro c hc
    obtain ⟨table, htable, hc⟩ := List.mem_flatMap.mp hc
    obtain ⟨block, -, hplaced⟩ := h.placedTable htable
    have hmem : table.1 ∈ store.tables := by
      rw [h.tables]
      exact List.mem_append_right _ (List.mem_map_of_mem htable)
    obtain ⟨htenant, htableId⟩ := hplaced.columns c hc
    refine decide_eq_true ⟨htenant, List.mem_map.mpr ⟨table.1, ?_, htableId.symm⟩⟩
    exact List.mem_filter.mpr ⟨hmem, decide_eq_true hplaced.connection⟩

end

theorem counts_of_written {blocks : List SchemaBlock}
    (h : List.Forall₂ (SchemaBlock.Of tenantId connectionId) blocks discovery.schemas) :
    blocks.length = discovery.counts.cached_schema_count ∧
      (blocks.flatMap Prod.snd).length = discovery.counts.cached_table_count ∧
      ((blocks.flatMap Prod.snd).flatMap Prod.snd).length =
        discovery.counts.cached_column_count := by
  have htables : List.Forall₂
      (fun (table : TableBlock) discovered =>
        ∃ schemaId, table.Of tenantId connectionId schemaId discovered)
      (blocks.flatMap Prod.snd) (discovery.schemas.flatMap DiscoveredSchema.tables) :=
    List.rel_flatMap h (fun block _ hblock => hblock.2.imp fun _ _ htable => ⟨block.1.id, htable⟩)
  have hcolumns : List.Forall₂ (fun (_ : DatabaseColumn) (_ : DiscoveredColumn) => True)
      ((blocks.flatMap Prod.snd).flatMap Prod.snd)
      ((discovery.schemas.flatMap DiscoveredSchema.tables).flatMap DiscoveredTable.columns) := by
    refine List.rel_flatMap htables (fun table discovered htable => ?_)
    obtain ⟨schemaId, -, hrows⟩ := htable
    exact hrows.imp fun _ _ _ => trivial
  exact ⟨h.length_eq, htables.length_eq, hcolumns.length_eq⟩

/-- What a successful run of the loops leaves, in terms of the cleared store. -/
theorem cache_written (h : Consistent store.toTables)
    (hrun : cacheDiscoveredMetadata newUuid store tenantId connectionId discovery = .ok caching) :
    ∃ blocks,
      List.Forall₂ (SchemaBlock.Of tenantId connectionId) blocks discovery.schemas ∧
      Written tenantId connectionId (clearConnectionMetadata store tenantId connectionId) blocks
        caching.store ∧
      caching.split.1 = discovery.counts := by
  obtain ⟨blocks, hblocks, happends⟩ := cache_ok hrun
  obtain ⟨hschemas, htables, hcolumns⟩ := counts_of_written hblocks
  refine ⟨blocks, hblocks, ⟨h.sub (clear_sub _ _ _), clear_schemas _ _ _, clear_tables h,
    placed_of_written hblocks, ?_, ?_, ?_⟩, ?_⟩
  · rw [happends.rows]
  · rw [happends.rows]
  · rw [happends.rows]
  · unfold Caching.split
    rw [happends.schema_count, happends.table_count, happends.column_count, List.length_map,
      List.length_map, hschemas, htables, hcolumns]
    simp

/-! ## The other connections -/

/-- The rows of the other connections. -/
def elsewhere (t : Tables) (connectionId : Uuid) : Selection where
  schemas s := s.connection_id ≠ connectionId
  tables d := d.connection_id ≠ connectionId
  columns c := c.table_id ∈
    (t.tables.filter (fun d => d.connection_id ≠ connectionId)).map DatabaseTable.id
  table_permissions p := p.connection_id ≠ connectionId
  column_permissions c := c.table_permission_id ∈
    (t.table_permissions.filter (fun p => p.connection_id ≠ connectionId)).map TablePermission.id

theorem mem_ids_elsewhere {ρ : Type} {key connection : ρ → Uuid} {rows : List ρ} {id : Uuid} :
    id ∈ (rows.filter (fun row => connection row ≠ connectionId)).map key ↔
      ∃ row ∈ rows, connection row ≠ connectionId ∧ key row = id := by
  simp only [List.mem_map, List.mem_filter, decide_eq_true_eq, and_assoc]

/-- The parents of rows of other connections are on other connections. -/
theorem elsewhere_closed (h : Consistent store.toTables) :
    (elsewhere store.toTables connectionId).Closed store.toTables where
  tables_schema := by
    intro d hd hsel s hs hid
    have hagree := (h.tables_schema d hd s hs hid).2
    unfold elsewhere at hsel ⊢
    rw [decide_eq_true_eq] at hsel ⊢
    rw [hagree]
    exact hsel
  columns_table := by
    intro c hc hsel d hd hid
    obtain ⟨other, hother, hne, hotherId⟩ := mem_ids_elsewhere.mp (of_decide_eq_true hsel)
    have hsame : d = other := store.keys.tables.eq_of_key hd hother (hid.trans hotherId.symm)
    rw [hsame]
    exact decide_eq_true hne
  permissions_table := by
    intro p hp hsel d hd hid
    have hagree := (h.permissions_table p hp d hd hid).2
    unfold elsewhere at hsel ⊢
    rw [decide_eq_true_eq] at hsel ⊢
    rw [hagree]
    exact hsel
  column_permissions_permission := by
    intro c hc hsel p hp hid
    obtain ⟨other, hother, hne, hotherId⟩ := mem_ids_elsewhere.mp (of_decide_eq_true hsel)
    have hsame : p = other :=
      store.keys.table_permissions.eq_of_key hp hother (hid.trans hotherId.symm)
    rw [hsame]
    exact decide_eq_true hne
  column_permissions_column := by
    intro c hc hsel column hcolumn hid
    obtain ⟨p, hp, hne, hpid⟩ := mem_ids_elsewhere.mp (of_decide_eq_true hsel)
    obtain ⟨d, hd, hdid⟩ := List.mem_map.mp (store.references.permissions_table p hp p.table_id rfl)
    have htable := h.columns_permission c hc p hp hpid column hcolumn hid
    refine decide_eq_true (mem_ids_elsewhere.mpr ⟨d, hd, ?_, hdid.trans htable.symm⟩)
    rw [(h.permissions_table p hp d hd hdid).2]
    exact hne

theorem cache_elsewhere (h : Consistent store.toTables)
    (hrun : cacheDiscoveredMetadata newUuid store tenantId connectionId discovery = .ok caching) :
    Keeps (elsewhere store.toTables connectionId) store.toTables caching.store.toTables := by
  refine cache_keeps (elsewhere_closed h) ⟨?_, ?_⟩ ?_ hrun
  · intro s hs
    exact decide_eq_false (fun hof => of_decide_eq_true hs hof.2)
  · intro d hd
    exact decide_eq_false (fun hof => of_decide_eq_true hd hof.2)
  · intro c _ hnone
    refine decide_eq_false (fun hmem => ?_)
    obtain ⟨d, hd, hne, hid⟩ := mem_ids_elsewhere.mp hmem
    exact hnone d hd (decide_eq_true hne) hid

/-! ## A call -/

/-- The cache of the connection is that of the discovery, the counts are right, and nothing has
changed on the other connections. -/
structure Mirrored (tenantId connectionId : Uuid) (before : Tables)
    (discovery : SchemaDiscoveryResult) (counts : CachedCounts) (t : Tables) : Prop where
  mirrors : Mirrors tenantId connectionId t discovery
  stored : counts = storedCounts t tenantId connectionId
  discovered : counts = discovery.counts
  declared : discovery.Counted →
    counts = ⟨discovery.schema_count, discovery.table_count, discovery.column_count⟩
  others : Keeps (elsewhere before connectionId) before t

/-- A call of `cache_discovered_metadata` stores the discovery when it returns, and nothing when it
raises. -/
theorem cache_mirrors (disturbed : Disturbed) (tenantId connectionId : Uuid)
    (discovery : SchemaDiscoveryResult) (hreach : Reachable newUuid store) :
    (∀ counts stored,
      call (cacheInSession disturbed newUuid tenantId connectionId discovery) store =
        (.ok counts, stored) →
      Mirrored tenantId connectionId store.toTables discovery counts stored.toTables) ∧
    ∀ raised stored,
      call (cacheInSession disturbed newUuid tenantId connectionId discovery) store =
        (.error raised, stored) → stored = store := by
  have hconsistent := reachable_consistent hreach
  constructor
  · intro counts stored hrun
    obtain ⟨hcounts, rfl⟩ := Prod.mk.inj hrun
    obtain ⟨caching, hcache, hsplit, hsession⟩ := cacheInSession_ok (Prod.ext hcounts rfl)
    obtain ⟨blocks, hblocks, hwritten, hdiscovered⟩ := cache_written hconsistent hcache
    obtain ⟨hschemas, htables, hcolumns⟩ := counts_of_written hblocks
    have hstored := congrArg Session.committed hsession
    dsimp only at hstored ⊢
    rw [hstored]
    have hcounted := hsplit.trans hdiscovered
    refine ⟨?_, ?_, hcounted, fun hdeclared => hcounted.trans hdeclared.symm,
      cache_elsewhere hconsistent hcache⟩
    · unfold Mirrors
      rw [hwritten.schemaBlocks]
      exact hblocks
    · rw [hcounted]
      unfold storedCounts
      rw [hwritten.cachedSchemas, hwritten.cachedTables, hwritten.cachedColumns, List.length_map,
        List.length_map, hschemas, htables, hcolumns]
  · intro raised stored hrun
    obtain ⟨hraised, rfl⟩ := Prod.mk.inj hrun
    exact (cacheInSession_error (Prod.ext hraised rfl)).1

theorem checked_of {t : Tables} (hkeys : Keys t) (hreferences : References t) :
    t.checked = .ok ⟨t, hkeys, hreferences⟩ := by
  unfold Tables.checked
  rw [dif_pos ⟨hkeys, hreferences⟩]
  rfl

def warehouseAdmin : User := ⟨"admin", "tenant", true⟩

/-- A tenant with two connections. -/
def warehouseTables : Tables :=
  { Store.empty.toTables with
    users := [warehouseAdmin]
    connections := [⟨"warehouse", "tenant", "postgresql", "pending", none⟩,
      ⟨"support", "tenant", "postgresql", "pending", none⟩] }

def warehouseStore : Store := ⟨warehouseTables, by decide +kernel, by decide +kernel⟩

theorem warehouse_reachable : Reachable (fun n => toString n) warehouseStore := by
  have haccounts : Step (fun n => toString n) Store.empty warehouseStore := by
    refine Step.accounts warehouseTables.users [] [] warehouseTables.connections ?_
    exact checked_of warehouseStore.keys warehouseStore.references
  exact Reachable.empty.step haccounts

def ordersDiscovery (columns : List DiscoveredColumn) : SchemaDiscoveryResult where
  schemas := [⟨"sales", [⟨"sales", "orders", "table", some 12, ["id"], columns⟩]⟩]
  schema_count := 1
  table_count := 1
  column_count := columns.length

def idColumn : DiscoveredColumn :=
  { column_name := "id", data_type := "uuid", ordinal_position := 1, is_nullable := false,
    is_primary_key := true }

def warehouseDiscovery : SchemaDiscoveryResult :=
  ordersDiscovery [idColumn,
    { column_name := "total", data_type := "numeric", ordinal_position := 2, is_nullable := true }]

/-- Both connections are cached, one of them with a column that is dropped later. -/
def cachedWarehouse : Store :=
  (synchronizeDatabaseSchema (fun n => toString n) 1
    (synchronizeDatabaseSchema (fun n => toString n) 0 warehouseStore warehouseAdmin "support"
      (.ok (ordersDiscovery [idColumn]))).1 warehouseAdmin "warehouse"
    (.ok (ordersDiscovery [idColumn,
      { column_name := "price", data_type := "numeric", ordinal_position := 2,
        is_nullable := true }]))).1

theorem cached_reachable : Reachable (fun n => toString n) cachedWarehouse :=
  (warehouse_reachable.step (Step.synchronize _ _ _ _)).step (Step.synchronize _ _ _ _)

def warehouseCache : Program Raised Store CachedCounts :=
  cacheInSession (fun _ _ => none) (fun n => toString n) "tenant" "warehouse" warehouseDiscovery

/-- The discovery replaces what was cached of this connection. -/
theorem warehouse_mirrored :
    ∃ stored, call warehouseCache cachedWarehouse = (.ok ⟨1, 1, 2⟩, stored) ∧
      Mirrored "tenant" "warehouse" cachedWarehouse.toTables warehouseDiscovery ⟨1, 1, 2⟩
        stored.toTables := by
  have hrun := call_eq (show (call warehouseCache cachedWarehouse).1 = .ok ⟨1, 1, 2⟩ by
    decide +kernel)
  exact ⟨_, hrun, (cache_mirrors (fun _ _ => none) "tenant" "warehouse" warehouseDiscovery
    cached_reachable).1 _ _ hrun⟩

end DataChat.Platform
