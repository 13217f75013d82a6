import DataChat.Platform.Definitions

/-!
# The metadata cache

`services/database/metadata_cache.py` and `services/database/schema_sync_service.py`: the cached
rows of a connection are deleted, and the discovered schemas, tables and columns are written with
new identifiers. What the source database answers is an argument.

* `clear_schemas`: no schema of the connection is left.
* `cache_unreferenced`: no table permission refers to a table that has been written.
-/

namespace DataChat.Platform

open Relational Outcome

/-! ## Discovered metadata -/

structure DiscoveredColumn where
  column_name : String
  data_type : String
  ordinal_position : Int
  is_nullable : Bool
  is_primary_key : Bool := false
  is_foreign_key : Bool := false
  referenced_schema : Option String := none
  referenced_table : Option String := none
  referenced_column : Option String := none

structure DiscoveredTable where
  schema_name : String
  table_name : String
  table_type : String
  estimated_row_count : Option Int
  primary_key_columns : List String
  columns : List DiscoveredColumn

structure DiscoveredSchema where
  schema_name : String
  tables : List DiscoveredTable

structure SchemaDiscoveryResult where
  schemas : List DiscoveredSchema
  schema_count : Nat
  table_count : Nat
  column_count : Nat

/-! ## Clearing and writing the cache -/

/-- The schema belongs to the connection and to the tenant. -/
def DatabaseSchema.isOf (tenantId connectionId : Uuid) (schema : DatabaseSchema) : Bool :=
  decide (schema.tenant_id = tenantId ∧ schema.connection_id = connectionId)

def DatabaseTable.isOf (tenantId connectionId : Uuid) (table : DatabaseTable) : Bool :=
  decide (table.tenant_id = tenantId ∧ table.connection_id = connectionId)

def clearConnectionMetadata (store : Store) (tenantId connectionId : Uuid) : Store :=
  let schemaIds := (store.schemas.filter (DatabaseSchema.isOf tenantId connectionId)).map
    DatabaseSchema.id
  if schemaIds = [] then store
  else
    let tableIds := (store.tables.filter (fun table =>
      table.isOf tenantId connectionId ∧ table.schema_id ∈ schemaIds)).map DatabaseTable.id
    let withoutColumns :=
      if tableIds = [] then store
      else store.deleteColumns (fun column =>
        column.tenant_id = tenantId ∧ column.table_id ∈ tableIds)
    (withoutColumns.deleteTables (DatabaseTable.isOf tenantId connectionId)).deleteSchemas
      (DatabaseSchema.isOf tenantId connectionId)

/-- The state of the loops: the rows written so far, and how many there are of each kind. -/
structure Caching where
  store : Store
  cached_schema_count : Nat
  cached_table_count : Nat
  cached_column_count : Nat

/-- The columns wait for the next flush. Nothing reads the table in between, so they are inserted
at once. -/
def cacheColumn (newUuid : Nat → Uuid) (tenantId tableId : Uuid) (caching : Caching)
    (discovered : DiscoveredColumn) : Service Caching := do
  let store ← caching.store.insertColumn
    { id := newUuid caching.store.generated
      tenant_id := tenantId
      table_id := tableId
      column_name := discovered.column_name
      data_type := discovered.data_type
      ordinal_position := some discovered.ordinal_position
      is_nullable := some discovered.is_nullable
      is_primary_key := discovered.is_primary_key
      is_foreign_key := discovered.is_foreign_key
      is_sensitive := false
      referenced_schema := discovered.referenced_schema
      referenced_table := discovered.referenced_table
      referenced_column := discovered.referenced_column
      description := none
      sample_values := [] }
  pure { caching with
    store := store, cached_column_count := caching.cached_column_count + 1 }

def cacheTable (newUuid : Nat → Uuid) (tenantId connectionId schemaId : Uuid)
    (caching : Caching) (discovered : DiscoveredTable) : Service Caching := do
  let tableId := newUuid caching.store.generated
  let store ← caching.store.insertTable
    { id := tableId
      tenant_id := tenantId
      connection_id := connectionId
      schema_id := schemaId
      table_name := discovered.table_name
      table_type := discovered.table_type
      description := none
      estimated_row_count := discovered.estimated_row_count
      primary_key_columns := discovered.primary_key_columns
      is_enabled := true
      is_sensitive := false
      table_metadata := [] }
  discovered.columns.foldlM (cacheColumn newUuid tenantId tableId)
    { caching with store := store, cached_table_count := caching.cached_table_count + 1 }

def cacheSchema (newUuid : Nat → Uuid) (tenantId connectionId : Uuid) (caching : Caching)
    (discovered : DiscoveredSchema) : Service Caching := do
  let schemaId := newUuid caching.store.generated
  let store ← caching.store.insertSchema
    { id := schemaId
      tenant_id := tenantId
      connection_id := connectionId
      schema_name := discovered.schema_name
      description := none }
  discovered.tables.foldlM (cacheTable newUuid tenantId connectionId schemaId)
    { caching with store := store, cached_schema_count := caching.cached_schema_count + 1 }

def cacheDiscoveredMetadata (newUuid : Nat → Uuid) (store : Store) (tenantId connectionId : Uuid)
    (discovery : SchemaDiscoveryResult) : Service Caching :=
  discovery.schemas.foldlM (cacheSchema newUuid tenantId connectionId)
    ⟨clearConnectionMetadata store tenantId connectionId, 0, 0, 0⟩

/-! ### The rows that the loops write -/

def DiscoveredColumn.row (tenantId tableId id : Uuid) (discovered : DiscoveredColumn) :
    DatabaseColumn where
  id := id
  tenant_id := tenantId
  table_id := tableId
  column_name := discovered.column_name
  data_type := discovered.data_type
  ordinal_position := some discovered.ordinal_position
  is_nullable := some discovered.is_nullable
  is_primary_key := discovered.is_primary_key
  is_foreign_key := discovered.is_foreign_key
  is_sensitive := false
  referenced_schema := discovered.referenced_schema
  referenced_table := discovered.referenced_table
  referenced_column := discovered.referenced_column
  description := none
  sample_values := []

def DiscoveredTable.row (tenantId connectionId schemaId id : Uuid)
    (discovered : DiscoveredTable) : DatabaseTable where
  id := id
  tenant_id := tenantId
  connection_id := connectionId
  schema_id := schemaId
  table_name := discovered.table_name
  table_type := discovered.table_type
  description := none
  estimated_row_count := discovered.estimated_row_count
  primary_key_columns := discovered.primary_key_columns
  is_enabled := true
  is_sensitive := false
  table_metadata := []

def DiscoveredSchema.row (tenantId connectionId id : Uuid) (discovered : DiscoveredSchema) :
    DatabaseSchema where
  id := id
  tenant_id := tenantId
  connection_id := connectionId
  schema_name := discovered.schema_name
  description := none

/-- A table with its columns. -/
abbrev TableBlock := DatabaseTable × List DatabaseColumn

/-- A schema with its tables. -/
abbrev SchemaBlock := DatabaseSchema × List TableBlock

/-- The rows have the attributes of the discovered columns. -/
def ColumnsOf (tenantId tableId : Uuid) (rows : List DatabaseColumn)
    (discovered : List DiscoveredColumn) : Prop :=
  List.Forall₂ (fun row column => row = column.row tenantId tableId row.id) rows discovered

def TableBlock.Of (tenantId connectionId schemaId : Uuid) (block : TableBlock)
    (discovered : DiscoveredTable) : Prop :=
  block.1 = discovered.row tenantId connectionId schemaId block.1.id ∧
    ColumnsOf tenantId block.1.id block.2 discovered.columns

def SchemaBlock.Of (tenantId connectionId : Uuid) (block : SchemaBlock)
    (discovered : DiscoveredSchema) : Prop :=
  block.1 = discovered.row tenantId connectionId block.1.id ∧
    List.Forall₂ (TableBlock.Of tenantId connectionId block.1.id) block.2 discovered.tables

/-- The loops have added these rows, and have counted them. -/
structure Appends (caching : Caching) (schemas : List DatabaseSchema) (tables : List DatabaseTable)
    (columns : List DatabaseColumn) (caching' : Caching) : Prop where
  rows : caching'.store.toTables = { caching.store.toTables with
    schemas := caching.store.schemas ++ schemas
    tables := caching.store.tables ++ tables
    columns := caching.store.columns ++ columns
    generated := caching'.store.generated }
  schema_count : caching'.cached_schema_count = caching.cached_schema_count + schemas.length
  table_count : caching'.cached_table_count = caching.cached_table_count + tables.length
  column_count : caching'.cached_column_count = caching.cached_column_count + columns.length

section

variable {tenantId connectionId : Uuid} {newUuid : Nat → Uuid}
  {caching caching' caching'' : Caching} {schemas schemas' : List DatabaseSchema}
  {tables tables' : List DatabaseTable} {columns columns' : List DatabaseColumn}

theorem Appends.refl (caching : Caching) : Appends caching [] [] [] caching where
  rows := by simp
  schema_count := rfl
  table_count := rfl
  column_count := rfl

theorem Appends.trans (h : Appends caching schemas tables columns caching')
    (h' : Appends caching' schemas' tables' columns' caching'') :
    Appends caching (schemas ++ schemas') (tables ++ tables') (columns ++ columns') caching'' where
  rows := by
    rw [h'.rows, h.rows]
    simp only [List.append_assoc]
  schema_count := by
    rw [h'.schema_count, h.schema_count, List.length_append]
    omega
  table_count := by
    rw [h'.table_count, h.table_count, List.length_append]
    omega
  column_count := by
    rw [h'.column_count, h.column_count, List.length_append]
    omega

theorem cacheColumn_ok {tableId : Uuid} {discovered : DiscoveredColumn}
    (h : cacheColumn newUuid tenantId tableId caching discovered = .ok caching') :
    ∃ row, row = discovered.row tenantId tableId row.id ∧
      Appends caching [] [] [row] caching' := by
  obtain ⟨store, hinsert, hpure⟩ := bind_ok_iff.mp h
  rw [← pure_ok_iff.mp hpure]
  refine ⟨discovered.row tenantId tableId (newUuid caching.store.generated), rfl, ?_, rfl, rfl, rfl⟩
  dsimp only
  rw [checked_ok hinsert]
  simp only [List.append_nil]
  rfl

theorem cacheTable_ok {schemaId : Uuid} {discovered : DiscoveredTable}
    (h : cacheTable newUuid tenantId connectionId schemaId caching discovered = .ok caching') :
    ∃ block : TableBlock, block.Of tenantId connectionId schemaId discovered ∧
      Appends caching [] [block.1] block.2 caching' := by
  obtain ⟨store, hinsert, hloop⟩ := bind_ok_iff.mp h
  let row := discovered.row tenantId connectionId schemaId (newUuid caching.store.generated)
  have hfirst : Appends caching [] [row] []
      { caching with store := store, cached_table_count := caching.cached_table_count + 1 } := by
    refine ⟨?_, rfl, rfl, rfl⟩
    dsimp only
    rw [checked_ok hinsert]
    simp only [List.append_nil]
    rfl
  obtain ⟨columns, hcolumns, happends⟩ := foldlM_ok_collect
    (Q := fun caching columns caching' => Appends caching [] [] columns caching') Appends.refl
    (fun _ _ _ _ _ h h' => h.trans h') (fun column _ _ _ hpass => cacheColumn_ok hpass) hloop
  exact ⟨(row, columns), ⟨rfl, hcolumns⟩, hfirst.trans happends⟩

theorem cacheSchema_ok {discovered : DiscoveredSchema}
    (h : cacheSchema newUuid tenantId connectionId caching discovered = .ok caching') :
    ∃ block : SchemaBlock, block.Of tenantId connectionId discovered ∧
      Appends caching [block.1] (block.2.map Prod.fst) (block.2.flatMap Prod.snd) caching' := by
  obtain ⟨store, hinsert, hloop⟩ := bind_ok_iff.mp h
  let row := discovered.row tenantId connectionId (newUuid caching.store.generated)
  have hfirst : Appends caching [row] [] []
      { caching with store := store, cached_schema_count := caching.cached_schema_count + 1 } := by
    refine ⟨?_, rfl, rfl, rfl⟩
    dsimp only
    rw [checked_ok hinsert]
    simp only [List.append_nil]
    rfl
  obtain ⟨blocks, hblocks, happends⟩ := foldlM_ok_collect
    (Q := fun caching (blocks : List TableBlock) caching' =>
      Appends caching [] (blocks.map Prod.fst) (blocks.flatMap Prod.snd) caching') Appends.refl
    (fun _ _ _ _ _ h h' => by simpa using h.trans h')
    (fun table _ _ _ hpass => by simpa using cacheTable_ok hpass) hloop
  exact ⟨(row, blocks), ⟨rfl, hblocks⟩, hfirst.trans happends⟩

/-- What the cache has written when it returns. -/
theorem cache_ok {store : Store} {discovery : SchemaDiscoveryResult}
    (h : cacheDiscoveredMetadata newUuid store tenantId connectionId discovery = .ok caching) :
    ∃ blocks : List SchemaBlock,
      List.Forall₂ (SchemaBlock.Of tenantId connectionId) blocks discovery.schemas ∧
      Appends ⟨clearConnectionMetadata store tenantId connectionId, 0, 0, 0⟩
        (blocks.map Prod.fst) ((blocks.flatMap Prod.snd).map Prod.fst)
        ((blocks.flatMap Prod.snd).flatMap Prod.snd) caching := by
  refine foldlM_ok_collect
    (Q := fun caching (blocks : List SchemaBlock) caching' => Appends caching
      (blocks.map Prod.fst) ((blocks.flatMap Prod.snd).map Prod.fst)
      ((blocks.flatMap Prod.snd).flatMap Prod.snd) caching') Appends.refl ?_ ?_ h
  · intro s block s' blocks s'' h h'
    simpa using h.trans h'
  · intro schema _ s s' hpass
    simpa using cacheSchema_ok hpass

end

/-! ### What the cache leaves behind -/

theorem clear_sub (store : Store) (tenantId connectionId : Uuid) :
    (clearConnectionMetadata store tenantId connectionId).toTables.Sub store.toTables := by
  dsimp only [clearConnectionMetadata]
  split
  · exact Tables.Sub.refl _
  · refine (delete_sub _ _ _).trans ((delete_sub _ _ _).trans ?_)
    split
    · exact Tables.Sub.refl _
    · exact delete_sub _ _ _

/-- No schema of the connection is left. -/
theorem clear_schemas (store : Store) (tenantId connectionId : Uuid) :
    ∀ schema ∈ (clearConnectionMetadata store tenantId connectionId).schemas,
      schema.isOf tenantId connectionId = false := by
  intro schema hschema
  dsimp only [clearConnectionMetadata] at hschema
  split at hschema
  · rename_i hnone
    rw [List.map_eq_nil_iff, List.filter_eq_nil_iff] at hnone
    exact eq_false_of_ne_true (hnone schema hschema)
  · have hremains := (cascade_sub _).schemas.subset hschema
    have hkept := (List.mem_filter.mp hremains).2
    simpa using hkept

theorem clear_connections (store : Store) (tenantId connectionId : Uuid) :
    (clearConnectionMetadata store tenantId connectionId).connections = store.connections := by
  dsimp only [clearConnectionMetadata]
  split
  · rfl
  · split <;> rfl

/-- No table permission refers to a cached table of the connection. -/
def Unreferenced (tenantId connectionId : Uuid) (t : Tables) : Prop :=
  ∀ permission ∈ t.table_permissions, ∀ table ∈ t.tables, table.id = permission.table_id →
    ∀ schema ∈ t.schemas, schema.id = table.schema_id →
      schema.isOf tenantId connectionId = false

variable {tenantId connectionId : Uuid} {store : Store} {newUuid : Nat → Uuid}
  {caching : Caching}

/-- After the cache has been written, no permission refers to it: a table that was added has no
permissions yet, and a schema that was added has no other tables. -/
theorem cache_unreferenced {discovery : SchemaDiscoveryResult}
    (h : cacheDiscoveredMetadata newUuid store tenantId connectionId discovery = .ok caching) :
    Unreferenced tenantId connectionId caching.store.toTables := by
  obtain ⟨blocks, -, happends⟩ := cache_ok h
  have hschemas := caching.store.keys.schemas
  have htables := caching.store.keys.tables
  rw [happends.rows] at hschemas htables ⊢
  let cleared := clearConnectionMetadata store tenantId connectionId
  intro permission hpermission table htable hid schema hschema hschemaId
  rcases List.mem_append.mp htable with hold | hnew
  · rcases List.mem_append.mp hschema with holdSchema | hnewSchema
    · exact clear_schemas store tenantId connectionId schema holdSchema
    · have hparent := cleared.references.tables_schema table hold table.schema_id rfl
      rw [← hschemaId] at hparent
      exact absurd hparent (hschemas.fresh_of_mem hnewSchema)
  · have hparent :=
      cleared.references.permissions_table permission hpermission permission.table_id rfl
    rw [← hid] at hparent
    exact absurd hparent (htables.fresh_of_mem hnew)

theorem cache_connections {discovery : SchemaDiscoveryResult}
    (h : cacheDiscoveredMetadata newUuid store tenantId connectionId discovery = .ok caching) :
    caching.store.connections = store.connections := by
  obtain ⟨blocks, -, happends⟩ := cache_ok h
  rw [happends.rows]
  exact clear_connections store tenantId connectionId

/-! ## Synchronisation -/

def requireTenantAdministrator (user : User) : Service Unit :=
  if user.is_tenant_admin then pure ()
  else throw (.tenantAdministratorRequiredError "Tenant administrator access is required.")

def getDatabaseConnection (store : Store) (currentUser : User) (connectionId : Uuid) :
    Service DatabaseConnection :=
  match store.connections.find? (fun connection =>
      connection.id = connectionId ∧ connection.tenant_id = currentUser.tenant_id) with
  | some connection => pure connection
  | none => throw (.databaseConnectionNotFoundError "Database connection was not found.")

/-- `connection_service.remove_database_connection`. -/
def removeDatabaseConnection (store : Store) (currentUser : User) (connectionId : Uuid) :
    Service Store := do
  requireTenantAdministrator currentUser
  let connection ← getDatabaseConnection store currentUser connectionId
  pure (store.deleteConnections (fun c => c.id = connection.id))

/-- How the source database may fail to answer: with a `SchemaDiscoveryError`, or with an
exception that nobody catches. -/
inductive SourceFailure
  | schemaDiscoveryError (message : String)
  | otherException

def discoverDatabaseSchema (connection : DatabaseConnection)
    (source : Except SourceFailure SchemaDiscoveryResult) :
    Except SourceFailure SchemaDiscoveryResult :=
  if connection.database_type ≠ "postgresql" then
    throw (.schemaDiscoveryError "Schema discovery is currently available for PostgreSQL.")
  else source

/-- `save_connection` after new values of `schema_sync_status` and `last_schema_sync_at`. -/
def Store.saveSyncStatus (store : Store) (connectionId : Uuid) (status : String)
    (synchronizedAt : Option Datetime) : Store :=
  let connections := store.connections.map (fun connection =>
    if connection.id = connectionId then
      { connection with schema_sync_status := status, last_schema_sync_at := synchronizedAt }
    else connection)
  have hids : connections.map DatabaseConnection.id =
      store.connections.map DatabaseConnection.id := by
    rw [List.map_map]
    refine List.map_congr_left (fun connection _ => ?_)
    simp only [Function.comp_apply]
    split <;> rfl
  { toTables := { store.toTables with connections := connections }
    keys := { store.keys with
      connections := by
        have hkey := store.keys.connections
        unfold PrimaryKey at hkey ⊢
        rwa [hids] }
    references := { store.references with
      schemas_connection := fun child hchild k hk =>
        hids ▸ store.references.schemas_connection child hchild k hk
      tables_connection := fun child hchild k hk =>
        hids ▸ store.references.tables_connection child hchild k hk
      permissions_connection := fun child hchild k hk =>
        hids ▸ store.references.permissions_connection child hchild k hk } }

structure SchemaSyncResult where
  connection : DatabaseConnection
  schema_count : Nat
  table_count : Nat
  column_count : Nat
  synchronized_at : Datetime

/-- The committed store after the call, and how the call ends. -/
def synchronizeDatabaseSchema (newUuid : Nat → Uuid) (now : Datetime) (store : Store)
    (currentUser : User) (connectionId : Uuid)
    (source : Except SourceFailure SchemaDiscoveryResult) : Store × Service SchemaSyncResult :=
  match requireTenantAdministrator currentUser,
      getDatabaseConnection store currentUser connectionId with
  | .error raised, _ => (store, .error raised)
  | .ok _, .error raised => (store, .error raised)
  | .ok _, .ok connection =>
    let processing := store.saveSyncStatus connection.id "processing" none
    match discoverDatabaseSchema connection source with
    | .error (.schemaDiscoveryError message) =>
      (processing.saveSyncStatus connection.id "failed" none,
        .error (.schemaDiscoveryError message))
    | .error .otherException => (processing, .error .otherException)
    | .ok discovery =>
      match cacheDiscoveredMetadata newUuid processing currentUser.tenant_id connection.id
          discovery with
      -- the transaction of the cache is rolled back
      | .error raised => (processing, .error raised)
      | .ok caching =>
        (caching.store.saveSyncStatus connection.id "completed" (some now),
          .ok { connection := { connection with
                  schema_sync_status := "completed", last_schema_sync_at := some now }
                schema_count := caching.cached_schema_count
                table_count := caching.cached_table_count
                column_count := caching.cached_column_count
                synchronized_at := now })

/-- Whatever becomes of a call, the tables keep a property that the statuses do not concern and
that the cache keeps. -/
theorem synchronize_keeps {P : Tables → Prop} (now : Datetime) (currentUser : User)
    (source : Except SourceFailure SchemaDiscoveryResult)
    (hstatus : ∀ (store : Store) id status synchronizedAt, P store.toTables →
      P (store.saveSyncStatus id status synchronizedAt).toTables)
    (hcache : ∀ {store tenantId connectionId discovery caching}, P (Store.toTables store) →
      cacheDiscoveredMetadata newUuid store tenantId connectionId discovery = .ok caching →
      P caching.store.toTables) (h : P store.toTables) :
    P (synchronizeDatabaseSchema newUuid now store currentUser connectionId source).1.toTables := by
  unfold synchronizeDatabaseSchema
  split
  · exact h
  · exact h
  · rename_i connection _ _
    have hprocessing := hstatus store connection.id "processing" none h
    dsimp only
    split
    · exact hstatus _ _ _ _ hprocessing
    · exact hprocessing
    · split
      · exact hprocessing
      · rename_i caching hcaching
        exact hstatus _ _ _ _ (hcache hprocessing hcaching)

/-- Removing a connection only deletes rows. -/
theorem removeDatabaseConnection_sub {store' : Store} {currentUser : User}
    (h : removeDatabaseConnection store currentUser connectionId = .ok store') :
    store'.toTables.Sub store.toTables := by
  unfold removeDatabaseConnection at h
  obtain ⟨-, -, h⟩ := bind_ok_iff.mp h
  obtain ⟨connection, -, h⟩ := bind_ok_iff.mp h
  rw [← pure_ok_iff.mp h]
  exact delete_sub _ _ _

theorem getDatabaseConnection_ok {currentUser : User} {connection : DatabaseConnection}
    (h : getDatabaseConnection store currentUser connectionId = .ok connection) :
    connection ∈ store.connections ∧ connection.id = connectionId ∧
      connection.tenant_id = currentUser.tenant_id := by
  unfold getDatabaseConnection at h
  split at h
  · rename_i found hfound
    have hmem := List.mem_of_find?_eq_some hfound
    have hmatch := List.find?_some hfound
    rw [← pure_ok_iff.mp h]
    exact ⟨hmem, by simpa using hmatch⟩
  · exact absurd h throw_ne_ok

theorem getDatabaseConnection_exists {currentUser : User} :
    (∃ connection, getDatabaseConnection store currentUser connectionId = .ok connection) ↔
      ∃ connection ∈ store.connections,
        connection.id = connectionId ∧ connection.tenant_id = currentUser.tenant_id := by
  constructor
  · rintro ⟨connection, h⟩
    exact ⟨connection, getDatabaseConnection_ok h⟩
  · rintro ⟨connection, hmem, hmatch⟩
    unfold getDatabaseConnection
    split
    · rename_i found _
      exact ⟨found, rfl⟩
    · rename_i hnone
      have hnot := List.find?_eq_none.mp hnone connection hmem
      simp [hmatch] at hnot

theorem saveSyncStatus_connections (id : Uuid) (status : String) (at_ : Option Datetime)
    {tenant : Uuid} :
    (∃ connection ∈ (store.saveSyncStatus id status at_).connections,
        connection.id = connectionId ∧ connection.tenant_id = tenant) ↔
      ∃ connection ∈ store.connections,
        connection.id = connectionId ∧ connection.tenant_id = tenant := by
  have hsame : ∀ connection : DatabaseConnection, (if connection.id = id then
      { connection with schema_sync_status := status, last_schema_sync_at := at_ }
      else connection).id = connection.id ∧ (if connection.id = id then
      { connection with schema_sync_status := status, last_schema_sync_at := at_ }
      else connection).tenant_id = connection.tenant_id := by
    intro connection
    split <;> exact ⟨rfl, rfl⟩
  unfold Store.saveSyncStatus
  simp only [List.mem_map, exists_exists_and_eq_and, hsame]

/-- A call that succeeds has written the cache of the connection. -/
theorem synchronize_ok {now : Datetime} {currentUser : User}
    {source : Except SourceFailure SchemaDiscoveryResult} {result : SchemaSyncResult}
    (h : (synchronizeDatabaseSchema newUuid now store currentUser connectionId source).2 =
      .ok result) :
    ∃ connection discovery caching,
      getDatabaseConnection store currentUser connectionId = .ok connection ∧
      source = .ok discovery ∧
      cacheDiscoveredMetadata newUuid (store.saveSyncStatus connection.id "processing" none)
        currentUser.tenant_id connection.id discovery = .ok caching ∧
      (synchronizeDatabaseSchema newUuid now store currentUser connectionId source).1 =
        caching.store.saveSyncStatus connection.id "completed" (some now) := by
  unfold synchronizeDatabaseSchema at h ⊢
  split at h
  · cases h
  · cases h
  · rename_i connection hadmin hconnection
    dsimp only at h ⊢
    split at h
    · cases h
    · cases h
    · rename_i discovery hdiscovery
      split at h
      · cases h
      · rename_i caching hcaching
        have hsource : source = .ok discovery := by
          unfold discoverDatabaseSchema at hdiscovery
          exact (guard_ok_iff.mp hdiscovery).2
        exact ⟨connection, discovery, caching, hconnection, hsource, hcaching, rfl⟩

end DataChat.Platform
