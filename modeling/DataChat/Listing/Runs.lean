import DataChat.Effective.RowOrder
import DataChat.Listing.Discovered
import DataChat.Platform.Frames

/-!
# The cache over a run

What the cache is for: a connection shows the schemas that its last successful synchronisation has
discovered. `Known` is that, and nothing else; the tables refine it over all requests of all users.

* `handle_refines`: a request keeps the tables and what is known together.
* `listing_shows_known`: what the endpoints list, at any time.
-/

namespace DataChat.Listing

open Platform Relational Outcome
open Effective (Collation)

/-! ## What is known -/

/-- The last discovery on each connection. -/
abbrev Known := Uuid → SchemaDiscoveryResult

def nothingDiscovered : SchemaDiscoveryResult := ⟨[], 0, 0, 0⟩

/-- What becomes known by a request, and on which connection. -/
def learned (newUuid : Nat → Uuid) (store : Store) (currentUser : User) :
    AccessRequest → Option (Uuid × SchemaDiscoveryResult)
  | .createConnection databaseType =>
    (createConnection newUuid store currentUser databaseType).toOption.map
      (fun _ => (newUuid store.generated, nothingDiscovered))
  | .synchronize now connectionId (.ok discovery) =>
    (synchronizeDatabaseSchema newUuid now store currentUser connectionId
      (.ok discovery)).2.toOption.map (fun _ => (connectionId, discovery))
  | _ => none

def Known.record (known : Known) : Option (Uuid × SchemaDiscoveryResult) → Known
  | some (connectionId, discovery) => Function.update known connectionId discovery
  | none => known

/-- The cache of each connection is what is known of it. -/
def Refines (t : Tables) (known : Known) : Prop :=
  ∀ connection ∈ t.connections,
    Mirrors connection.tenant_id connection.id t (known connection.id)

variable {newUuid : Nat → Uuid} {store : Store} {currentUser : User} {known : Known}
  {tenantId connectionId : Uuid} {discovery : SchemaDiscoveryResult} {t t' t'' : Tables}

/-! ## Requests that leave the cache alone -/

/-- The cached rows are the same, on the same connections or fewer. -/
structure SameCache (t t' : Tables) : Prop where
  connections : ∀ connection' ∈ t'.connections, ∃ connection ∈ t.connections,
    connection.id = connection'.id ∧ connection.tenant_id = connection'.tenant_id
  schemas : t'.schemas = t.schemas
  tables : t'.tables = t.tables
  columns : t'.columns = t.columns

theorem SameCache.refl (t : Tables) : SameCache t t :=
  ⟨fun connection h => ⟨connection, h, rfl, rfl⟩, rfl, rfl, rfl⟩

theorem SameCache.trans (h : SameCache t t') (h' : SameCache t' t'') : SameCache t t'' where
  connections := by
    intro connection'' hmem
    obtain ⟨connection', hmem', hid', htenant'⟩ := h'.connections connection'' hmem
    obtain ⟨connection, hmem, hid, htenant⟩ := h.connections connection' hmem'
    exact ⟨connection, hmem, hid.trans hid', htenant.trans htenant'⟩
  schemas := h'.schemas.trans h.schemas
  tables := h'.tables.trans h.tables
  columns := h'.columns.trans h.columns

theorem SameCache.saveSyncStatus (store : Store) (id : Uuid) (status : String)
    (synchronizedAt : Option Datetime) :
    SameCache store.toTables (store.saveSyncStatus id status synchronizedAt).toTables :=
  ⟨fun _ => saveSyncStatus_mem, rfl, rfl, rfl⟩

theorem mirrors_congr (hschemas : t'.schemas = t.schemas) (htables : t'.tables = t.tables)
    (hcolumns : t'.columns = t.columns) :
    Mirrors tenantId connectionId t' discovery ↔ Mirrors tenantId connectionId t discovery := by
  have htable : tableBlock t' tenantId = tableBlock t tenantId := by
    funext table
    simp only [tableBlock, hcolumns]
  have hblock : schemaBlock t' tenantId connectionId = schemaBlock t tenantId connectionId := by
    funext schema
    simp only [schemaBlock, cachedTables, htables, htable]
  unfold Mirrors
  rw [hblock, cachedSchemas, cachedSchemas, hschemas]

theorem Refines.sameCache (h : Refines t known) (hsame : SameCache t t') : Refines t' known := by
  intro connection' hmem'
  obtain ⟨connection, hmem, hid, htenant⟩ := hsame.connections connection' hmem'
  rw [mirrors_congr hsame.schemas hsame.tables hsame.columns, ← hid, ← htenant]
  exact h connection hmem

/-- A synchronisation that raises leaves the cache alone. -/
theorem synchronize_sameCache {now : Datetime}
    {source : Except SourceFailure SchemaDiscoveryResult} {raised : Raised}
    (h : (synchronizeDatabaseSchema newUuid now store currentUser connectionId source).2 =
      .error raised) :
    SameCache store.toTables
      (synchronizeDatabaseSchema newUuid now store currentUser connectionId source).1.toTables := by
  revert h
  unfold synchronizeDatabaseSchema
  split
  · exact fun _ => SameCache.refl _
  · exact fun _ => SameCache.refl _
  · rename_i connection _ _
    have hprocessing := SameCache.saveSyncStatus store connection.id "processing" none
    dsimp only
    split
    · exact fun _ => hprocessing.trans (SameCache.saveSyncStatus _ _ _ _)
    · exact fun _ => hprocessing
    · split
      · exact fun _ => hprocessing
      · intro h
        cases h

/-! ## Requests about other connections -/

/-- The cache of a connection is below it. -/
theorem mirrors_sameConnection (h : SameConnection connectionId t t') :
    Mirrors tenantId connectionId t' discovery ↔ Mirrors tenantId connectionId t discovery := by
  have hschemas : cachedSchemas t' tenantId connectionId =
      cachedSchemas t tenantId connectionId :=
    filter_eq_of_narrower h.rows.schemas (fun s hs => decide_eq_true (of_decide_eq_true hs).2)
  have htables : cachedTables t' tenantId connectionId = cachedTables t tenantId connectionId :=
    filter_eq_of_narrower h.rows.tables (fun d hd => decide_eq_true (of_decide_eq_true hd).2)
  have hcolumns : ∀ table ∈ cachedTables t tenantId connectionId,
      tableBlock t' tenantId table = tableBlock t tenantId table := by
    intro table htable
    obtain ⟨hmem, hof⟩ := List.mem_filter.mp htable
    refine Prod.ext rfl (filter_eq_of_narrower h.rows.columns (fun c hc => decide_eq_true ?_))
    exact mem_ids_below.mpr ⟨table, hmem, (of_decide_eq_true hof).2, (of_decide_eq_true hc).2.symm⟩
  have hblock : schemaBlock t' tenantId connectionId = schemaBlock t tenantId connectionId := by
    funext schema
    unfold schemaBlock
    rw [htables]
    refine Prod.ext rfl (List.map_congr_left (fun table htable => ?_))
    exact hcolumns table (List.mem_filter.mp htable).1
  unfold Mirrors
  rw [hblock, hschemas]

/-- What is known of other connections need not change. -/
theorem record_other {learnt : Option (Uuid × SchemaDiscoveryResult)}
    (h : ∀ found ∈ learnt, found.1 ≠ connectionId) :
    known.record learnt connectionId = known connectionId := by
  cases learnt with
  | none => rfl
  | some found => exact Function.update_of_ne (h found rfl).symm _ _

/-! ## Steps -/

/-- A new connection has no cache. -/
theorem mirrors_fresh (h : connectionId ∉ store.connections.map DatabaseConnection.id) :
    Mirrors tenantId connectionId store.toTables nothingDiscovered := by
  have hnone : cachedSchemas store.toTables tenantId connectionId = [] := by
    rw [cachedSchemas, List.filter_eq_nil_iff]
    intro schema hschema hof
    apply h
    rw [← (of_decide_eq_true hof).2]
    exact store.references.schemas_connection schema hschema _ rfl
  unfold Mirrors
  rw [hnone]
  exact List.Forall₂.nil

/-- The cache that a synchronisation has written. -/
theorem mirrors_written {caching : Caching} (h : Consistent store.toTables)
    (hrun : cacheDiscoveredMetadata newUuid store tenantId connectionId discovery = .ok caching) :
    Mirrors tenantId connectionId caching.store.toTables discovery := by
  obtain ⟨blocks, hblocks, hwritten, -⟩ := cache_written h hrun
  unfold Mirrors
  rw [hwritten.schemaBlocks]
  exact hblocks

/-- A request keeps the cache of a connection that it is not about. -/
theorem other_refines (hconsistent : Consistent store.toTables) (h : Refines store.toTables known)
    (request : AccessRequest) {connection : DatabaseConnection}
    (hmem : connection ∈ store.connections) (hother : request.connection ≠ some connection.id)
    {learnt : Option (Uuid × SchemaDiscoveryResult)}
    (hlearnt : ∀ found ∈ learnt, found.1 ≠ connection.id) :
    Mirrors connection.tenant_id connection.id
      (handle newUuid store currentUser request).toTables
      (known.record learnt connection.id) := by
  have hsame : SameConnection connection.id store.toTables
      (handle newUuid store currentUser request).toTables :=
    handle_sameConnection request hconsistent (List.mem_map_of_mem hmem) hother
  rw [record_other hlearnt, mirrors_sameConnection hsame]
  exact h connection hmem

theorem createConnection_refines (hconsistent : Consistent store.toTables)
    (h : Refines store.toTables known) (databaseType : String) :
    Refines (handle newUuid store currentUser (.createConnection databaseType)).toTables
      (known.record (learned newUuid store currentUser (.createConnection databaseType))) := by
  cases hrun : createConnection newUuid store currentUser databaseType with
  | error e =>
    simp only [handle, learned, hrun]
    exact h
  | ok stored =>
    obtain ⟨⟨⟩, -, hchecked⟩ := bind_ok_iff.mp hrun
    have htables := checked_ok hchecked
    have hhandle : handle newUuid store currentUser (.createConnection databaseType) = stored := by
      simp only [handle, hrun]
      rfl
    have hlearned : learned newUuid store currentUser (.createConnection databaseType) =
        some (newUuid store.generated, nothingDiscovered) := by
      simp only [learned, hrun]
      rfl
    have hkey := stored.keys.connections
    rw [htables] at hkey
    have hfresh := PrimaryKey.fresh hkey
    rw [hlearned]
    intro connection hmem
    have hmem' := hmem
    rw [hhandle, htables] at hmem'
    rcases List.mem_append.mp hmem' with hold | hnew
    · have hne : newUuid store.generated ≠ connection.id := by
        intro hid
        apply hfresh
        show newUuid store.generated ∈ _
        rw [hid]
        exact List.mem_map_of_mem hold
      have hother : (AccessRequest.createConnection databaseType).connection ≠
          some connection.id := (Option.some_ne_none _).symm
      refine other_refines hconsistent h _ hold hother ?_
      rintro found ⟨⟩
      exact hne
    · rw [List.mem_singleton.mp hnew]
      show Mirrors _ _ _ (Function.update known _ _ _)
      rw [Function.update_self, hhandle]
      refine (mirrors_congr ?_ ?_ ?_).mpr (mirrors_fresh hfresh)
      all_goals rw [htables]

theorem removeConnection_refines (hconsistent : Consistent store.toTables)
    (h : Refines store.toTables known) (connectionId : Uuid) :
    Refines (handle newUuid store currentUser (.removeConnection connectionId)).toTables known := by
  cases hrun : removeDatabaseConnection store currentUser connectionId with
  | error e =>
    simp only [handle, hrun]
    exact h
  | ok stored =>
    obtain ⟨⟨⟩, -, hrest⟩ := bind_ok_iff.mp hrun
    obtain ⟨removed, hremoved, hpure⟩ := bind_ok_iff.mp hrest
    obtain ⟨-, hid, -⟩ := getDatabaseConnection_ok hremoved
    have hhandle : handle newUuid store currentUser (.removeConnection connectionId) =
        store.deleteConnections (fun c => c.id = removed.id) := by
      simp only [handle, hrun]
      exact (pure_ok_iff.mp hpure).symm
    intro connection hmem
    have hmem' := hmem
    rw [hhandle] at hmem'
    obtain ⟨hold, hkept⟩ := List.mem_filter.mp hmem'
    have hne : connection.id ≠ connectionId := by
      intro hsame
      rw [hid] at hkept
      simp [hsame] at hkept
    have hother : (AccessRequest.removeConnection connectionId).connection ≠
        some connection.id := fun hsame => hne (Option.some.inj hsame).symm
    have hnone : ∀ found ∈ (none : Option (Uuid × SchemaDiscoveryResult)),
        found.1 ≠ connection.id := by simp
    exact other_refines hconsistent h (.removeConnection connectionId) hold hother hnone

/-- The connections after a synchronisation are the old ones. -/
theorem synchronize_connections {now : Datetime}
    {source : Except SourceFailure SchemaDiscoveryResult} {connection' : DatabaseConnection}
    (hmem : connection' ∈ (synchronizeDatabaseSchema newUuid now store currentUser connectionId
      source).1.connections) :
    ∃ connection ∈ store.connections, connection.id = connection'.id ∧
      connection.tenant_id = connection'.tenant_id := by
  revert hmem
  refine synchronize_cases (P := fun store' => connection' ∈ store'.connections →
    ∃ connection ∈ store.connections, connection.id = connection'.id ∧
      connection.tenant_id = connection'.tenant_id) now connectionId source
    (fun hmem => ⟨connection', hmem, rfl, rfl⟩) (fun connection _ _ _ => ?_)
    (fun connection _ _ _ discovery caching hcaching => ?_)
  · have hprocessing := SameCache.saveSyncStatus store connection.id "processing" none
    exact ⟨hprocessing.connections connection',
      (hprocessing.trans (SameCache.saveSyncStatus _ _ "failed" none)).connections connection'⟩
  · intro hmem
    obtain ⟨first, hfirst, hid, htenant⟩ := saveSyncStatus_mem hmem
    rw [cache_connections hcaching] at hfirst
    obtain ⟨original, horiginal, hid', htenant'⟩ := saveSyncStatus_mem hfirst
    exact ⟨original, horiginal, hid'.trans hid, htenant'.trans htenant⟩

theorem synchronize_refines (hconsistent : Consistent store.toTables)
    (h : Refines store.toTables known) (now : Datetime) (connectionId : Uuid)
    (source : Except SourceFailure SchemaDiscoveryResult) :
    Refines (handle newUuid store currentUser (.synchronize now connectionId source)).toTables
      (known.record
        (learned newUuid store currentUser (.synchronize now connectionId source))) := by
  cases hresult : (synchronizeDatabaseSchema newUuid now store currentUser connectionId
      source).2 with
  | error raised =>
    have hlearned : learned newUuid store currentUser (.synchronize now connectionId source) =
        none := by
      cases source with
      | error failure => rfl
      | ok discovery =>
        simp only [learned, hresult]
        rfl
    rw [hlearned]
    exact h.sameCache (synchronize_sameCache hresult)
  | ok result =>
    obtain ⟨connection, discovery, caching, hconnection, rfl, hcaching, hstore⟩ :=
      synchronize_ok hresult
    obtain ⟨hmem, rfl, htenant⟩ := getDatabaseConnection_ok hconnection
    have hlearned : learned newUuid store currentUser
        (.synchronize now connection.id (.ok discovery)) = some (connection.id, discovery) := by
      simp only [learned, hresult]
      rfl
    rw [hlearned]
    intro connection' hmem'
    obtain ⟨original, horiginal, hid, htenant'⟩ := synchronize_connections hmem'
    rw [← hid, ← htenant']
    by_cases hsame : original.id = connection.id
    · have hone := store.keys.connections.eq_of_key horiginal hmem hsame
      have hprocessing : Consistent
          (store.saveSyncStatus connection.id "processing" none).toTables :=
        ⟨hconsistent.tables_schema, hconsistent.columns_table, hconsistent.permissions_table,
          hconsistent.columns_permission⟩
      rw [hone, htenant]
      show Mirrors _ _ (synchronizeDatabaseSchema newUuid now store currentUser connection.id
        (.ok discovery)).1.toTables (Function.update known _ _ _)
      rw [Function.update_self, hstore]
      exact (mirrors_congr rfl rfl rfl).mpr (mirrors_written hprocessing hcaching)
    · have hother : (AccessRequest.synchronize now connection.id (.ok discovery)).connection ≠
          some original.id := fun heq => hsame (Option.some.inj heq).symm
      refine other_refines hconsistent h _ horiginal hother ?_
      rintro found ⟨⟩ heq
      exact hsame heq.symm

theorem createPermission_sameCache (creation : TablePermissionCreate) :
    SameCache store.toTables
      (storedAfter store (createPermission newUuid store currentUser creation)).toTables := by
  cases hcreate : createPermission newUuid store currentUser creation with
  | error raised => exact SameCache.refl _
  | ok result =>
    have htables := createTablePermission_tables (createPermission_ok hcreate).2.2
    show SameCache store.toTables result.1.toTables
    rw [htables]
    exact ⟨fun connection hmem => ⟨connection, hmem, rfl, rfl⟩, rfl, rfl, rfl⟩

/-- A request keeps the cache and what is known together. -/
theorem handle_refines (hconsistent : Consistent store.toTables) (h : Refines store.toTables known)
    (request : AccessRequest) :
    Refines (handle newUuid store currentUser request).toTables
      (known.record (learned newUuid store currentUser request)) := by
  cases request with
  | createConnection databaseType => exact createConnection_refines hconsistent h databaseType
  | updateConnection connectionId =>
    refine h.sameCache ?_
    show SameCache store.toTables (((updateConnection store currentUser
      connectionId).toOption.getD store)).toTables
    cases hrun : updateConnection store currentUser connectionId with
    | error e => exact SameCache.refl _
    | ok stored =>
      obtain ⟨⟨⟩, -, hrest⟩ := bind_ok_iff.mp hrun
      obtain ⟨connection, -, hpure⟩ := bind_ok_iff.mp hrest
      rw [← pure_ok_iff.mp hpure]
      exact SameCache.saveSyncStatus _ _ _ _
  | removeConnection connectionId => exact removeConnection_refines hconsistent h connectionId
  | synchronize now connectionId source =>
    exact synchronize_refines hconsistent h now connectionId source
  | createPermission creation => exact h.sameCache (createPermission_sameCache creation)

/-! ## What is listed -/

/-- The store and what is known after a request of a user. -/
def watch (newUuid : Nat → Uuid) (s : Store × Known) (request : User × AccessRequest) :
    Store × Known :=
  (handle newUuid s.1 request.1 request.2, s.2.record (learned newUuid s.1 request.1 request.2))

/-- The schemas are those of the discovery, by their names. -/
def SchemasShown (collation : Collation) (discovery : SchemaDiscoveryResult)
    (items : List DatabaseSchema) : Prop :=
  OrderedBy collation.key (discovery.schemas.map DiscoveredSchema.schema_name)
    (items.map DatabaseSchema.schema_name)

/-- The tables are those of the discovery, by the names of their schemas and their own. -/
def TablesShown (collation : Collation) (discovery : SchemaDiscoveryResult)
    (schemaName : Option String) (items : List DatabaseTableResponse) : Prop :=
  ∃ sorted, OrderedBy (foundKey collation) (tablesUnder discovery schemaName) sorted ∧
    List.Forall₂ Lists sorted items

/-- All items come with their number when the connection is of the tenant of the user. -/
def Answered {α : Type} (store : Store) (user : User) (connectionId : Uuid)
    (Shown : List α → Prop) (result : Service (List α × Nat)) : Prop :=
  ((∃ connection ∈ store.connections,
      connection.id = connectionId ∧ connection.tenant_id = user.tenant_id) →
    ∃ items, result = .ok (items, items.length) ∧ Shown items) ∧
  ((¬ ∃ connection ∈ store.connections,
      connection.id = connectionId ∧ connection.tenant_id = user.tenant_id) →
    result = .error (.databaseConnectionNotFoundError "Database connection was not found."))

theorem getDatabaseConnection_error {user : User} (h : ¬ ∃ connection ∈ store.connections,
      connection.id = connectionId ∧ connection.tenant_id = user.tenant_id) :
    getDatabaseConnection store user connectionId =
      .error (.databaseConnectionNotFoundError "Database connection was not found.") := by
  unfold getDatabaseConnection
  split
  · rename_i connection hfound
    have hmatch := List.find?_some hfound
    exact absurd ⟨connection, List.mem_of_find?_eq_some hfound, of_decide_eq_true hmatch⟩ h
  · rfl

theorem schemas_answered {collation : Collation} {user : User}
    (h : Refines store.toTables known) {result : Service (List DatabaseSchema × Nat)}
    (hresult : MayListSchemas collation store user connectionId result) :
    Answered store user connectionId (SchemasShown collation (known connectionId)) result := by
  obtain ⟨schemaRows, hrows, rfl⟩ := hresult
  constructor
  · intro hexists
    obtain ⟨connection, hconnection⟩ := getDatabaseConnection_exists.mpr hexists
    obtain ⟨hmem, rfl, htenant⟩ := getDatabaseConnection_ok hconnection
    have hmirrors := h connection hmem
    rw [htenant] at hmirrors
    exact ⟨schemaRows, getCachedSchemas_lists hmirrors hconnection hrows⟩
  · intro hnone
    unfold getCachedSchemas
    rw [getDatabaseConnection_error hnone]
    rfl

theorem tables_answered {collation : Collation} {user : User} {schemaName : Option String}
    (hconsistent : Consistent store.toTables) (h : Refines store.toTables known)
    {result : Service (List DatabaseTableResponse × Nat)}
    (hresult : MayListTables collation store user connectionId schemaName result) :
    Answered store user connectionId (TablesShown collation (known connectionId) schemaName)
      result := by
  obtain ⟨tableRows, columnRows, hreturned, rfl⟩ := hresult
  constructor
  · intro hexists
    obtain ⟨connection, hconnection⟩ := getDatabaseConnection_exists.mpr hexists
    obtain ⟨hmem, rfl, htenant⟩ := getDatabaseConnection_ok hconnection
    have hmirrors := h connection hmem
    rw [htenant] at hmirrors
    obtain ⟨items, sorted, hitems, hsorted, hlists⟩ :=
      getCachedTables_lists hconsistent hmirrors hconnection hreturned
    exact ⟨items, hitems, sorted, hsorted, hlists⟩
  · intro hnone
    unfold getCachedTables
    rw [getDatabaseConnection_error hnone]
    rfl

/-- At any time, the endpoints list what the last successful synchronisation of the connection has
discovered, sorted and complete, to the users of its tenant, and nothing to others. -/
theorem listing_shows_known (newUuid : Nat → Uuid) (store : Store) (known : Known)
    (hconsistent : Consistent store.toTables) (h : Refines store.toTables known)
    (requests : List (User × AccessRequest)) :
    Runs.Throughout (watch newUuid)
      (fun s => ∀ collation user connectionId,
        (∀ result, MayListSchemas collation s.1 user connectionId result →
          Answered s.1 user connectionId (SchemasShown collation (s.2 connectionId)) result) ∧
        ∀ schemaName result, MayListTables collation s.1 user connectionId schemaName result →
          Answered s.1 user connectionId (TablesShown collation (s.2 connectionId) schemaName)
            result)
      (store, known) requests := by
  have hrun : Runs.Throughout (watch newUuid)
      (fun s => Consistent s.1.toTables ∧ Refines s.1.toTables s.2) (store, known) requests := by
    apply Runs.throughout_of_invariant
    · rintro ⟨store', known'⟩ request ⟨hconsistent', h'⟩
      exact ⟨handle_consistent request.2 hconsistent', handle_refines hconsistent' h' request.2⟩
    · exact ⟨hconsistent, h⟩
  refine hrun.imp (fun s hs collation user connectionId => ⟨fun result hresult => ?_,
    fun schemaName result hresult => ?_⟩)
  · exact schemas_answered hs.2 hresult
  · exact tables_answered hs.1 hs.2 hresult

/-- The warehouse after its first synchronisation. -/
def warehouseWatched : Store × Known :=
  Runs.run (watch (fun n => toString n)) (warehouseStore, fun _ => nothingDiscovered)
    [(⟨"admin", "tenant", true⟩, .synchronize 0 "warehouse" (.ok warehouseDiscovery))]

theorem warehouse_listed :
    ∃ result, MayListTables Effective.codePoints warehouseWatched.1 ⟨"user", "tenant", false⟩
        "warehouse" none result ∧
      ∃ items, result = .ok (items, items.length) ∧
        TablesShown Effective.codePoints warehouseDiscovery none items := by
  have hrefines : Refines warehouseStore.toTables (fun _ => nothingDiscovered) := by
    intro connection hmem
    rcases List.mem_cons.mp hmem with rfl | hmem
    · exact List.Forall₂.nil
    · rw [List.mem_singleton.mp hmem]
      exact List.Forall₂.nil
  obtain ⟨tableRows, htables⟩ := exists_orderedBy (tableKey Effective.codePoints)
    (cachedTableRows warehouseWatched.1 "tenant" "warehouse" none)
  obtain ⟨columnRows, hcolumns⟩ := exists_orderedBy columnKey
    (cachedColumnRows warehouseWatched.1 "tenant" (tableRows.map (fun row => row.1.id)))
  have hresult := (⟨tableRows, columnRows, ⟨htables, hcolumns⟩, rfl⟩ :
    MayListTables Effective.codePoints warehouseWatched.1 ⟨"user", "tenant", false⟩ "warehouse"
      none _)
  have hlisted := (listing_shows_known (fun n => toString n) warehouseStore
    (fun _ => nothingDiscovered) (reachable_consistent warehouse_reachable) hrefines
    [(⟨"admin", "tenant", true⟩, .synchronize 0 "warehouse" (.ok warehouseDiscovery))]).last
  obtain ⟨items, hitems, hshown⟩ := ((hlisted Effective.codePoints ⟨"user", "tenant", false⟩
    "warehouse").2 none _ hresult).1 (by decide +kernel)
  exact ⟨_, hresult, items, hitems, hshown⟩

end DataChat.Listing
