import DataChat.Library.Session
import DataChat.Platform.Consistency

/-!
# The metadata cache in a session

`clear_connection_metadata` and `cache_discovered_metadata` statement by statement. Besides the
constraints, anything may make the database refuse a statement (`Disturbed`).

* `follows_write`: up to its commit, the cache follows `cacheDiscoveredMetadata`.
* `cacheInSession_ok`, `cacheInSession_error`: what is stored when the cache returns, and when it
  raises.
* `onlyRaises_cache`: which exceptions it raises.
-/

namespace DataChat.Platform

open Relational Outcome Transactions

inductive Statement
  | selectSchemas | selectTables | deleteColumns | deleteTables | deleteSchemas | insertSchema
  | insertTable | insertColumn | flush | commit
deriving DecidableEq, Repr

/-- The exceptions that a statement meets in a store, constraints apart. -/
abbrev Disturbed := Statement → Store → Option Raised

/-- Nothing goes wrong but what the constraints forbid. -/
def Disturbed.Never (disturbed : Disturbed) : Prop :=
  ∀ statement store, disturbed statement store = none

def execute (disturbed : Disturbed) (statement : Statement) (f : Store → Service Store) :
    Program Raised Store Unit := do
  let store ← read
  match disturbed statement store with
  | some raised => throw raised
  | none =>
    match f store with
    | .ok store' => write (fun _ => store')
    | .error raised => throw raised

/-- `if table_ids: ...`. -/
def deleteColumnsInSession (disturbed : Disturbed) (tenantId : Uuid) (tableIds : List Uuid) :
    Program Raised Store Unit :=
  if tableIds = [] then pure ()
  else execute disturbed .deleteColumns (fun store => pure (store.deleteColumns (fun column =>
    column.tenant_id = tenantId ∧ column.table_id ∈ tableIds)))

/-- `if schema_ids: ...`. -/
def deleteCachedInSession (disturbed : Disturbed) (tenantId connectionId : Uuid)
    (schemaIds : List Uuid) : Program Raised Store Unit :=
  if schemaIds = [] then pure ()
  else do
    execute disturbed .selectTables pure
    let store ← read
    deleteColumnsInSession disturbed tenantId ((store.tables.filter (fun table =>
      table.isOf tenantId connectionId ∧ table.schema_id ∈ schemaIds)).map DatabaseTable.id)
    execute disturbed .deleteTables (fun store =>
      pure (store.deleteTables (DatabaseTable.isOf tenantId connectionId)))
    execute disturbed .deleteSchemas (fun store =>
      pure (store.deleteSchemas (DatabaseSchema.isOf tenantId connectionId)))

def clearInSession (disturbed : Disturbed) (tenantId connectionId : Uuid) :
    Program Raised Store Unit := do
  execute disturbed .selectSchemas pure
  let store ← read
  deleteCachedInSession disturbed tenantId connectionId
    ((store.schemas.filter (DatabaseSchema.isOf tenantId connectionId)).map DatabaseSchema.id)
  execute disturbed .flush pure

structure CachedCounts where
  cached_schema_count : Nat
  cached_table_count : Nat
  cached_column_count : Nat
deriving DecidableEq, Repr

def cacheColumnInSession (disturbed : Disturbed) (newUuid : Nat → Uuid) (tenantId tableId : Uuid)
    (counts : CachedCounts) (discovered : DiscoveredColumn) :
    Program Raised Store CachedCounts := do
  let store ← read
  execute disturbed .insertColumn (fun current =>
    current.insertColumn (discovered.row tenantId tableId (newUuid store.generated)))
  pure { counts with cached_column_count := counts.cached_column_count + 1 }

def cacheTableInSession (disturbed : Disturbed) (newUuid : Nat → Uuid)
    (tenantId connectionId schemaId : Uuid) (counts : CachedCounts)
    (discovered : DiscoveredTable) : Program Raised Store CachedCounts := do
  let store ← read
  let tableId := newUuid store.generated
  execute disturbed .insertTable (fun current =>
    current.insertTable (discovered.row tenantId connectionId schemaId tableId))
  discovered.columns.foldlM (cacheColumnInSession disturbed newUuid tenantId tableId)
    { counts with cached_table_count := counts.cached_table_count + 1 }

def cacheSchemaInSession (disturbed : Disturbed) (newUuid : Nat → Uuid)
    (tenantId connectionId : Uuid) (counts : CachedCounts) (discovered : DiscoveredSchema) :
    Program Raised Store CachedCounts := do
  let store ← read
  let schemaId := newUuid store.generated
  execute disturbed .insertSchema (fun current =>
    current.insertSchema (discovered.row tenantId connectionId schemaId))
  discovered.tables.foldlM
    (cacheTableInSession disturbed newUuid tenantId connectionId schemaId)
    { counts with cached_schema_count := counts.cached_schema_count + 1 }

/-- All that comes before the commit has succeeded. -/
def writeInSession (disturbed : Disturbed) (newUuid : Nat → Uuid) (tenantId connectionId : Uuid)
    (discovery : SchemaDiscoveryResult) : Program Raised Store CachedCounts := do
  clearInSession disturbed tenantId connectionId
  let counts ← discovery.schemas.foldlM
    (cacheSchemaInSession disturbed newUuid tenantId connectionId) ⟨0, 0, 0⟩
  execute disturbed .commit pure
  pure counts

def cacheInSession (disturbed : Disturbed) (newUuid : Nat → Uuid) (tenantId connectionId : Uuid)
    (discovery : SchemaDiscoveryResult) : Program Raised Store CachedCounts := do
  let counts ← writeInSession disturbed newUuid tenantId connectionId discovery
  commit
  pure counts

/-! ## What the session does at once -/

variable {disturbed : Disturbed} {newUuid : Nat → Uuid} {tenantId connectionId : Uuid}
  {session session' : Session Store} {discovery : SchemaDiscoveryResult}

/-- The counts and the store of the loops. -/
def Caching.split (caching : Caching) : CachedCounts × Store :=
  (⟨caching.cached_schema_count, caching.cached_table_count, caching.cached_column_count⟩,
    caching.store)

theorem follows_execute (statement : Statement) (f : Store → Service Store) :
    Follows disturbed.Never (execute disturbed statement f) session
      (Prod.mk () <$> f session.current) := by
  apply follows_read
  cases hdisturbed : disturbed statement session.current with
  | some raised =>
    constructor
    · intro a session' h
      cases h
    · intro e session' h
      obtain ⟨-, rfl⟩ := Prod.mk.inj h
      refine ⟨rfl, fun hnever => ?_⟩
      rw [hnever statement session.current] at hdisturbed
      cases hdisturbed
  | none =>
    cases hf : f session.current with
    | error raised =>
      constructor
      · intro a session' h
        cases h
      · intro e session' h
        obtain ⟨he, rfl⟩ := Prod.mk.inj h
        exact ⟨rfl, fun _ => congrArg _ (Except.error.inj he)⟩
    | ok store' =>
      constructor
      · intro a session' h
        obtain ⟨-, rfl⟩ := Prod.mk.inj h
        exact ⟨rfl, rfl⟩
      · intro e session' h
        cases h

/-- A statement that no constraint refuses. -/
theorem follows_execute_pure (statement : Statement) (f : Store → Store) :
    Follows disturbed.Never (execute disturbed statement (fun store => pure (f store))) session
      (.ok ((), f session.current)) :=
  follows_execute statement (fun store => pure (f store))

theorem follows_deleteColumns (tableIds : List Uuid) :
    Follows disturbed.Never (deleteColumnsInSession disturbed tenantId tableIds) session
      (.ok ((), if tableIds = [] then session.current
        else session.current.deleteColumns (fun column =>
          column.tenant_id = tenantId ∧ column.table_id ∈ tableIds))) := by
  unfold deleteColumnsInSession
  split
  · exact follows_pure ()
  · exact follows_execute_pure .deleteColumns _

theorem follows_deleteCached :
    Follows disturbed.Never (deleteCachedInSession disturbed tenantId connectionId
        ((session.current.schemas.filter (DatabaseSchema.isOf tenantId connectionId)).map
          DatabaseSchema.id)) session
      (.ok ((), clearConnectionMetadata session.current tenantId connectionId)) := by
  unfold deleteCachedInSession
  dsimp only [clearConnectionMetadata]
  split
  · exact follows_pure ()
  · refine follows_then (follows_execute_pure .selectTables id) (follows_read ?_)
    refine follows_then (follows_deleteColumns _) ?_
    exact follows_then (follows_execute_pure .deleteTables _)
      (follows_execute_pure .deleteSchemas _)

theorem follows_clear :
    Follows disturbed.Never (clearInSession disturbed tenantId connectionId) session
      (.ok ((), clearConnectionMetadata session.current tenantId connectionId)) := by
  unfold clearInSession
  refine follows_then (follows_execute_pure .selectSchemas id) (follows_read ?_)
  exact follows_then follows_deleteCached (follows_execute_pure .flush id)

theorem follows_cacheColumn {tableId : Uuid} (caching : Caching) (discovered : DiscoveredColumn)
    (committed : Store) :
    Follows disturbed.Never
      (cacheColumnInSession disturbed newUuid tenantId tableId caching.split.1 discovered)
      ⟨committed, caching.split.2⟩
      (Caching.split <$> cacheColumn newUuid tenantId tableId caching discovered) := by
  unfold cacheColumnInSession cacheColumn
  apply follows_read
  rw [map_bind]
  refine follows_bind (follows_execute .insertColumn _) (fun store _ => ?_)
  exact follows_pure _

theorem follows_cacheTable {schemaId : Uuid} (caching : Caching) (discovered : DiscoveredTable)
    (committed : Store) :
    Follows disturbed.Never (cacheTableInSession disturbed newUuid tenantId connectionId schemaId
        caching.split.1 discovered) ⟨committed, caching.split.2⟩
      (Caching.split <$>
        cacheTable newUuid tenantId connectionId schemaId caching discovered) := by
  unfold cacheTableInSession cacheTable
  apply follows_read
  rw [map_bind]
  refine follows_bind (follows_execute .insertTable _) (fun store _ => ?_)
  exact follows_foldlM (fun c column => follows_cacheColumn c column committed) discovered.columns
    { caching with store := store, cached_table_count := caching.cached_table_count + 1 }

theorem follows_cacheSchema (caching : Caching) (discovered : DiscoveredSchema)
    (committed : Store) :
    Follows disturbed.Never (cacheSchemaInSession disturbed newUuid tenantId connectionId
        caching.split.1 discovered) ⟨committed, caching.split.2⟩
      (Caching.split <$> cacheSchema newUuid tenantId connectionId caching discovered) := by
  unfold cacheSchemaInSession cacheSchema
  apply follows_read
  rw [map_bind]
  refine follows_bind (follows_execute .insertSchema _) (fun store _ => ?_)
  exact follows_foldlM (fun c table => follows_cacheTable c table committed) discovered.tables
    { caching with store := store, cached_schema_count := caching.cached_schema_count + 1 }

theorem follows_write :
    Follows disturbed.Never (writeInSession disturbed newUuid tenantId connectionId discovery)
      session (Caching.split <$>
        cacheDiscoveredMetadata newUuid session.current tenantId connectionId discovery) := by
  have hcommit : ∀ caching : Caching, Follows disturbed.Never
      (do
        execute disturbed .commit pure
        pure caching.split.1)
      ⟨session.committed, caching.split.2⟩ (.ok caching.split) :=
    fun caching => follows_then (follows_execute_pure .commit id) (follows_pure _)
  refine follows_then follows_clear (follows_bind ?_ (fun caching _ => hcommit caching))
  exact follows_foldlM (fun caching schema =>
    follows_cacheSchema caching schema session.committed) discovery.schemas
    ⟨clearConnectionMetadata session.current tenantId connectionId, 0, 0, 0⟩

/-- A cache that returns has stored what it has written. -/
theorem cacheInSession_ok {counts : CachedCounts}
    (h : exec (cacheInSession disturbed newUuid tenantId connectionId discovery) session =
      (.ok counts, session')) :
    ∃ caching, cacheDiscoveredMetadata newUuid session.current tenantId connectionId discovery =
      .ok caching ∧ counts = caching.split.1 ∧ session' = ⟨caching.store, caching.store⟩ := by
  obtain ⟨houtcome, hcommitted⟩ := follows_commit_ok follows_write h
  cases hcache : cacheDiscoveredMetadata newUuid session.current tenantId connectionId
      discovery with
  | error e =>
    rw [hcache] at houtcome
    cases houtcome
  | ok caching =>
    rw [hcache] at houtcome
    have hsplit : caching.split = (counts, session'.current) := Except.ok.inj houtcome
    obtain ⟨hcounts, hcurrent⟩ := Prod.mk.inj hsplit
    obtain ⟨committed, current⟩ := session'
    dsimp only at hcommitted hcurrent
    refine ⟨caching, rfl, hcounts.symm, ?_⟩
    rw [hcommitted, ← hcurrent]

/-- A cache that raises has stored nothing. -/
theorem cacheInSession_error {raised : Raised}
    (h : exec (cacheInSession disturbed newUuid tenantId connectionId discovery) session =
      (.error raised, session')) :
    session'.committed = session.committed ∧ (disturbed.Never →
      cacheDiscoveredMetadata newUuid session.current tenantId connectionId discovery =
        .error raised) := by
  obtain ⟨hcommitted, houtcome⟩ := follows_commit_error follows_write h
  refine ⟨hcommitted, fun hnever => ?_⟩
  cases hcache : cacheDiscoveredMetadata newUuid session.current tenantId connectionId
      discovery with
  | error e =>
    have herror := houtcome hnever
    rw [hcache] at herror
    exact congrArg _ (Except.error.inj herror)
  | ok caching =>
    have herror := houtcome hnever
    rw [hcache] at herror
    cases herror

/-! ## The exceptions of the cache -/

theorem checked_error {t : Tables} {raised : Raised} (h : t.checked = .error raised) :
    raised = .integrityError := by
  unfold Tables.checked at h
  split at h
  · cases h
  · exact (Except.error.inj h).symm

section

variable {P : Raised → Prop} (hintegrity : P .integrityError)
  (hdisturbed : ∀ statement store, ∀ raised ∈ disturbed statement store, P raised)

include hdisturbed

theorem onlyRaises_execute {statement : Statement} {f : Store → Service Store}
    (hf : ∀ store raised, f store = .error raised → P raised) :
    OnlyRaises P (execute disturbed statement f) := by
  refine onlyRaises_bind onlyRaises_read (fun store => ?_)
  cases h : disturbed statement store with
  | some raised => exact onlyRaises_throw (hdisturbed statement store raised h)
  | none =>
    cases hstore : f store with
    | ok store' => exact onlyRaises_write _
    | error raised => exact onlyRaises_throw (hf store raised hstore)

theorem onlyRaises_execute_pure (statement : Statement) (f : Store → Store) :
    OnlyRaises P (execute disturbed statement (fun store => pure (f store))) :=
  onlyRaises_execute hdisturbed (fun _ _ h => by cases h)

theorem onlyRaises_clear : OnlyRaises P (clearInSession disturbed tenantId connectionId) := by
  unfold clearInSession
  refine onlyRaises_bind (onlyRaises_execute_pure hdisturbed .selectSchemas id) (fun _ => ?_)
  refine onlyRaises_bind onlyRaises_read (fun store => ?_)
  refine onlyRaises_bind ?_ (fun _ => onlyRaises_execute_pure hdisturbed .flush id)
  unfold deleteCachedInSession
  split
  · exact onlyRaises_pure ()
  · refine onlyRaises_bind (onlyRaises_execute_pure hdisturbed .selectTables id) (fun _ => ?_)
    refine onlyRaises_bind onlyRaises_read (fun store => ?_)
    refine onlyRaises_bind ?_ (fun _ => ?_)
    · unfold deleteColumnsInSession
      split
      · exact onlyRaises_pure ()
      · exact onlyRaises_execute_pure hdisturbed .deleteColumns _
    · exact onlyRaises_bind (onlyRaises_execute_pure hdisturbed .deleteTables _)
        (fun _ => onlyRaises_execute_pure hdisturbed .deleteSchemas _)

include hintegrity

theorem onlyRaises_insert {statement : Statement} {t : Store → Tables} :
    OnlyRaises P (execute disturbed statement (fun store => (t store).checked)) := by
  refine onlyRaises_execute hdisturbed (fun store raised h => ?_)
  rw [checked_error h]
  exact hintegrity

/-- The cache raises what the database raises. -/
theorem onlyRaises_cache :
    OnlyRaises P (cacheInSession disturbed newUuid tenantId connectionId discovery) := by
  have hcolumn : ∀ tableId counts discovered,
      OnlyRaises P (cacheColumnInSession disturbed newUuid tenantId tableId counts discovered) := by
    intro tableId counts discovered
    refine onlyRaises_bind onlyRaises_read (fun store => ?_)
    exact onlyRaises_bind (onlyRaises_insert hintegrity hdisturbed) (fun _ => onlyRaises_pure _)
  have htable : ∀ schemaId counts discovered, OnlyRaises P
      (cacheTableInSession disturbed newUuid tenantId connectionId schemaId counts discovered) := by
    intro schemaId counts discovered
    refine onlyRaises_bind onlyRaises_read (fun store => ?_)
    exact onlyRaises_bind (onlyRaises_insert hintegrity hdisturbed)
      (fun _ => onlyRaises_foldlM (hcolumn _) _ _)
  have hschema : ∀ counts discovered, OnlyRaises P
      (cacheSchemaInSession disturbed newUuid tenantId connectionId counts discovered) := by
    intro counts discovered
    refine onlyRaises_bind onlyRaises_read (fun store => ?_)
    exact onlyRaises_bind (onlyRaises_insert hintegrity hdisturbed)
      (fun _ => onlyRaises_foldlM (htable _) _ _)
  have hwrite :
      OnlyRaises P (writeInSession disturbed newUuid tenantId connectionId discovery) := by
    refine onlyRaises_bind (onlyRaises_clear hdisturbed) (fun _ => ?_)
    refine onlyRaises_bind (onlyRaises_foldlM hschema _ _) (fun counts => ?_)
    exact onlyRaises_bind (onlyRaises_execute_pure hdisturbed .commit id)
      (fun _ => onlyRaises_pure _)
  exact onlyRaises_bind hwrite
    (fun _ => onlyRaises_bind onlyRaises_commit (fun _ => onlyRaises_pure _))

end

end DataChat.Platform
