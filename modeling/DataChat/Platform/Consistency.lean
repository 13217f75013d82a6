import DataChat.Platform.Reachability

/-!
# Rows and their parents agree

The services write a cached row with the tenant and the connection of its parent, and a permission
with those of its table. No foreign key asks for this.

* `cache_consistent`: what the cache writes agrees with its parents.
* `reachable_consistent`: in every reachable store, rows and their parents agree.
-/

namespace DataChat.Platform

open Relational Outcome

/-- The tenants and connections of rows and of their parents agree. -/
structure Consistent (t : Tables) : Prop where
  tables_schema : ∀ d ∈ t.tables, ∀ s ∈ t.schemas, s.id = d.schema_id →
    s.tenant_id = d.tenant_id ∧ s.connection_id = d.connection_id
  columns_table : ∀ c ∈ t.columns, ∀ d ∈ t.tables, d.id = c.table_id → d.tenant_id = c.tenant_id
  permissions_table : ∀ p ∈ t.table_permissions, ∀ d ∈ t.tables, d.id = p.table_id →
    d.tenant_id = p.tenant_id ∧ d.connection_id = p.connection_id
  columns_permission : ColumnsOfTable t

theorem Consistent.sub {t t' : Tables} (h : Consistent t) (hsub : t'.Sub t) : Consistent t' where
  tables_schema := fun d hd s hs =>
    h.tables_schema d (hsub.tables.subset hd) s (hsub.schemas.subset hs)
  columns_table := fun c hc d hd =>
    h.columns_table c (hsub.columns.subset hc) d (hsub.tables.subset hd)
  permissions_table := fun p hp d hd =>
    h.permissions_table p (hsub.table_permissions.subset hp) d (hsub.tables.subset hd)
  columns_permission := h.columns_permission.sub hsub

/-! ## The rows of the cache -/

/-- The table stands below the schema, and its columns below it. -/
structure TableBlock.Placed (tenantId connectionId schemaId : Uuid) (block : TableBlock) :
    Prop where
  tenant : block.1.tenant_id = tenantId
  connection : block.1.connection_id = connectionId
  schema : block.1.schema_id = schemaId
  columns : ∀ c ∈ block.2, c.tenant_id = tenantId ∧ c.table_id = block.1.id

structure SchemaBlock.Placed (tenantId connectionId : Uuid) (block : SchemaBlock) : Prop where
  tenant : block.1.tenant_id = tenantId
  connection : block.1.connection_id = connectionId
  tables : ∀ table ∈ block.2, table.Placed tenantId connectionId block.1.id

variable {tenantId connectionId : Uuid}

theorem ColumnsOf.placed {tableId : Uuid} {rows : List DatabaseColumn}
    {discovered : List DiscoveredColumn} (h : ColumnsOf tenantId tableId rows discovered) :
    ∀ row ∈ rows, row.tenant_id = tenantId ∧ row.table_id = tableId := by
  have hboth : List.Forall₂ (fun (row : DatabaseColumn) (column : DiscoveredColumn) =>
      (row.tenant_id = tenantId ∧ row.table_id = tableId) ∧
        row = column.row tenantId tableId row.id) rows discovered := by
    refine List.Forall₂.imp (fun row column hrow => ⟨?_, hrow⟩) h
    rw [hrow]
    exact ⟨rfl, rfl⟩
  exact ((List.forall₂_and_left _ _).mp hboth).1

theorem TableBlock.Of.placed {schemaId : Uuid} {block : TableBlock} {discovered : DiscoveredTable}
    (h : block.Of tenantId connectionId schemaId discovered) :
    block.Placed tenantId connectionId schemaId := by
  obtain ⟨hrow, hcolumns⟩ := h
  refine ⟨?_, ?_, ?_, hcolumns.placed⟩
  · rw [hrow]
    rfl
  · rw [hrow]
    rfl
  · rw [hrow]
    rfl

theorem SchemaBlock.Of.placed {block : SchemaBlock} {discovered : DiscoveredSchema}
    (h : block.Of tenantId connectionId discovered) : block.Placed tenantId connectionId := by
  obtain ⟨hrow, htables⟩ := h
  refine ⟨?_, ?_, ?_⟩
  · rw [hrow]
    rfl
  · rw [hrow]
    rfl
  · exact ((List.forall₂_and_left _ _).mp (htables.imp fun _ _ htable => ⟨htable.placed, htable⟩)).1

theorem placed_of_written {blocks : List SchemaBlock} {discovered : List DiscoveredSchema}
    (h : List.Forall₂ (SchemaBlock.Of tenantId connectionId) blocks discovered) :
    ∀ block ∈ blocks, block.Placed tenantId connectionId :=
  ((List.forall₂_and_left _ _).mp (h.imp fun _ _ hblock => ⟨hblock.placed, hblock⟩)).1

variable {newUuid : Nat → Uuid} {store store' : Store} {caching : Caching}

/-- What the cache writes agrees with its parents. -/
theorem cache_consistent {discovery : SchemaDiscoveryResult} (h : Consistent store.toTables)
    (hrun : cacheDiscoveredMetadata newUuid store tenantId connectionId discovery = .ok caching) :
    Consistent caching.store.toTables := by
  obtain ⟨blocks, hblocks, happends⟩ := cache_ok hrun
  have hplaced := placed_of_written hblocks
  have hcolumns := cache_columnsOfTable h.columns_permission hrun
  have hcleared := h.sub (clear_sub store tenantId connectionId)
  have href := (clearConnectionMetadata store tenantId connectionId).references
  have hkeySchemas := caching.store.keys.schemas
  have hkeyTables := caching.store.keys.tables
  rw [happends.rows] at hkeySchemas hkeyTables hcolumns ⊢
  dsimp only at hkeySchemas hkeyTables
  refine ⟨?_, ?_, ?_, hcolumns⟩
  · intro d hd s hs hid
    rcases List.mem_append.mp hd with hold | hnew
    · rcases List.mem_append.mp hs with hs' | hs'
      · exact hcleared.tables_schema d hold s hs' hid
      · have hparent := href.tables_schema d hold d.schema_id rfl
        rw [← hid] at hparent
        exact absurd hparent (hkeySchemas.fresh_of_mem hs')
    · obtain ⟨table, htable, rfl⟩ := List.mem_map.mp hnew
      obtain ⟨block, hblock, htable⟩ := List.mem_flatMap.mp htable
      have htablePlaced := (hplaced block hblock).tables table htable
      have hsame : s = block.1 := by
        apply hkeySchemas.eq_of_key hs
        · exact List.mem_append_right _ (List.mem_map_of_mem hblock)
        · rw [hid, htablePlaced.schema]
      rw [hsame, (hplaced block hblock).tenant, (hplaced block hblock).connection]
      exact ⟨htablePlaced.tenant.symm, htablePlaced.connection.symm⟩
  · intro c hc d hd hid
    rcases List.mem_append.mp hc with hold | hnew
    · rcases List.mem_append.mp hd with hd' | hd'
      · exact hcleared.columns_table c hold d hd' hid
      · have hparent := href.columns_table c hold c.table_id rfl
        rw [← hid] at hparent
        exact absurd hparent (hkeyTables.fresh_of_mem hd')
    · obtain ⟨table, htable, hc⟩ := List.mem_flatMap.mp hnew
      obtain ⟨block, hblock, htableMem⟩ := List.mem_flatMap.mp htable
      have htablePlaced := (hplaced block hblock).tables table htableMem
      have hsame : d = table.1 := by
        apply hkeyTables.eq_of_key hd
        · exact List.mem_append_right _ (List.mem_map_of_mem htable)
        · rw [hid, (htablePlaced.columns c hc).2]
      rw [hsame, htablePlaced.tenant, (htablePlaced.columns c hc).1]
  · intro p hp d hd hid
    rcases List.mem_append.mp hd with hold | hnew
    · exact hcleared.permissions_table p hp d hold hid
    · have hparent := href.permissions_table p hp p.table_id rfl
      rw [← hid] at hparent
      exact absurd hparent (hkeyTables.fresh_of_mem hnew)

/-! ## Runs -/

theorem step_consistent (hstep : Step newUuid store store') (h : Consistent store.toTables) :
    Consistent store'.toTables := by
  have hcolumns := step_columnsOfTable hstep h.columns_permission
  cases hstep with
  | accounts users roles userRoles connections hchecked =>
    rw [checked_ok hchecked] at hcolumns ⊢
    exact ⟨h.tables_schema, h.columns_table, h.permissions_table, hcolumns⟩
  | createPermission currentUser request response hcreate =>
    obtain ⟨⟨table, htable⟩, -, hcreated⟩ := createPermission_ok hcreate
    obtain ⟨hmem, hid, htenant, hconnection⟩ := validateTable_ok htable
    have hpermission := (createTablePermission_ok hcreated).1
    rw [createTablePermission_tables hcreated] at hcolumns ⊢
    refine ⟨h.tables_schema, h.columns_table, fun p hp d hd hdid => ?_, hcolumns⟩
    rcases List.mem_append.mp hp with hold | hnew
    · exact h.permissions_table p hold d hd hdid
    · rw [List.mem_singleton.mp hnew, hpermission] at hdid ⊢
      have hsame : d = table := store.keys.tables.eq_of_key hd hmem (hdid.trans hid.symm)
      rw [hsame]
      exact ⟨htenant, hconnection⟩
  | synchronize now currentUser connectionId source =>
    refine synchronize_keeps now currentUser source (fun _ _ _ _ hstatus => ?_) cache_consistent h
    exact ⟨hstatus.tables_schema, hstatus.columns_table, hstatus.permissions_table,
      hstatus.columns_permission⟩
  | removeConnection currentUser connectionId hremove =>
    exact h.sub (removeDatabaseConnection_sub hremove)

theorem reachable_consistent (h : Reachable newUuid store) : Consistent store.toTables := by
  induction h with
  | empty =>
    refine ⟨?_, ?_, ?_, ?_⟩ <;> exact fun row hrow => absurd hrow List.not_mem_nil
  | step _ hstep ih => exact step_consistent hstep ih

end DataChat.Platform
