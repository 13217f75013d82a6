import DataChat.Connection.Histories
import DataChat.Platform.Discovery

/-!
# Does a synchronisation end in a final status?

`synchronize_database_schema` stores the status `processing` before it reads the source database.
Only a `SchemaDiscoveryError` makes it store `failed`. The credentials are read and decrypted before
the `try` block that turns errors into such a `SchemaDiscoveryError`, the source is closed after it,
and the cache raises errors of its own: then `processing` stays.

* `discover_failed_iff`, `discover_ok_iff`: when the discovery fails with a `SchemaDiscoveryError`,
  and when it returns.
* `endsFinal_processing`: what follows the commit of `processing`.
* `endsFinal_iff`: exactly when a call leaves a status that is final.
* `warehouse_stays_processing`: a connection whose host has been set to null.
-/

namespace DataChat.Connection

open Relational Outcome Platform Transactions

/-! ## The source database -/

/-- The exceptions of the calls in the `try` block of `discover_postgresql_schema`. -/
inductive SourceError
  | timeoutError | postgresError | osError | valueError | other
deriving DecidableEq, Repr

/-- What becomes of the calls to a source database. -/
structure SourceDatabase where
  connect : PostgresqlParameters → Bool → Except SourceError Unit
  schema_rows : Except SourceError (List SchemaRecord)
  table_rows : Except SourceError (List TableRecord)
  column_rows : Except SourceError (List ColumnRecord)
  primary_key_rows : Except SourceError (List PrimaryKeyRecord)
  foreign_key_rows : Except SourceError (List ForeignKeyRecord)
  row_count_rows : Except SourceError (List RowCountRecord)
  /-- `close` returns. -/
  closes : Bool

/-- The six queries, one after the other. -/
def SourceDatabase.fetch (source : SourceDatabase) : Except SourceError CatalogueRows := do
  let schemaRows ← source.schema_rows
  let tableRows ← source.table_rows
  let columnRows ← source.column_rows
  let primaryKeyRows ← source.primary_key_rows
  let foreignKeyRows ← source.foreign_key_rows
  let rowCountRows ← source.row_count_rows
  pure ⟨schemaRows, tableRows, columnRows, primaryKeyRows, foreignKeyRows, rowCountRows⟩

/-- The `except` clauses. -/
def handled : SourceError → Raised
  | .timeoutError => .schemaDiscoveryError "Schema discovery timed out."
  | .postgresError | .osError | .valueError => .schemaDiscoveryError "Schema discovery failed."
  | .other => .otherException

def discoverPostgresqlSchema (fernet : Fernet) (makeUrl : MakeUrl) (source : SourceDatabase)
    (connection : ConnectionRow) : Service SchemaDiscoveryResult := do
  let parameters ← buildPostgresqlParameters fernet makeUrl connection
  match source.connect parameters connection.ssl_enabled with
  | .error error => throw (handled error)
  | .ok () =>
    -- the `finally` clause: an exception of `close` takes the place of any other
    if source.closes then
      match source.fetch with
      | .error error => throw (handled error)
      | .ok rows => pure (buildDiscoveryResult rows)
    else throw .otherException

/-! ## The call -/

/-- The three calls of `save_connection`. -/
inductive Save
  | processing | failed | completed
deriving DecidableEq, Repr

/-- How `save_connection` may end: the commit or the refresh after it may fail. -/
inductive SaveOutcome
  | saved | notCommitted | notRefreshed
deriving DecidableEq, Repr

/-- What a synchronisation meets. -/
structure Surroundings where
  fernet : Fernet
  makeUrl : MakeUrl
  newUuid : Nat → Uuid
  now : Datetime
  /-- The columns of a connection row that the store leaves out. No step writes them. -/
  details : Uuid → ConnectionRow
  source : SourceDatabase
  /-- The database refuses a statement of the cache. -/
  refuses : Statement → Store → Bool
  saves : Save → SaveOutcome

namespace Surroundings

def disturbed (around : Surroundings) : Disturbed :=
  fun statement store => if around.refuses statement store then some .otherException else none

/-- `discover_database_schema`. -/
def discover (around : Surroundings) (connection : DatabaseConnection) :
    Service SchemaDiscoveryResult :=
  if connection.database_type ≠ "postgresql" then
    throw (.schemaDiscoveryError "Schema discovery is currently available for PostgreSQL.")
  else
    discoverPostgresqlSchema around.fernet around.makeUrl around.source
      (around.details connection.id)

/-- The assignments to the two attributes, and `save_connection`. -/
def saveStatus (around : Surroundings) (save : Save) (connectionId : Uuid) (status : String)
    (synchronizedAt : Option Datetime) : Program Raised Store Unit := do
  write (fun store => store.saveSyncStatus connectionId status synchronizedAt)
  match around.saves save with
  | .saved => commit
  | .notCommitted => throw .otherException
  | .notRefreshed => do
    commit
    throw .otherException

/-- The body of the `try` block. -/
def discoverAndCache (around : Surroundings) (tenantId : Uuid) (connection : DatabaseConnection) :
    Program Raised Store CachedCounts := do
  let discovery ← returning (around.discover connection)
  cacheInSession around.disturbed around.newUuid tenantId connection.id discovery

/-- The `except` clause. -/
def saveFailure (around : Surroundings) (connectionId : Uuid) :
    Raised → Program Raised Store CachedCounts
  | .schemaDiscoveryError message => do
    around.saveStatus .failed connectionId "failed" none
    throw (.schemaDiscoveryError message)
  | raised => throw raised

/-- What comes after the `try` statement. -/
def complete (around : Surroundings) (connection : DatabaseConnection) (counts : CachedCounts) :
    Program Raised Store SchemaSyncResult := do
  around.saveStatus .completed connection.id "completed" (some around.now)
  pure { connection := { connection with
           schema_sync_status := "completed", last_schema_sync_at := some around.now }
         schema_count := counts.cached_schema_count
         table_count := counts.cached_table_count
         column_count := counts.cached_column_count
         synchronized_at := around.now }

/-- What comes after the connection has been found. -/
def synchronizeConnection (around : Surroundings) (tenantId : Uuid)
    (connection : DatabaseConnection) : Program Raised Store SchemaSyncResult := do
  around.saveStatus .processing connection.id "processing" none
  let counts ← tryCatch (around.discoverAndCache tenantId connection)
    (around.saveFailure connection.id)
  around.complete connection counts

/-- `synchronize_database_schema`. -/
def synchronize (around : Surroundings) (currentUser : User) (connectionId : Uuid) :
    Program Raised Store SchemaSyncResult := do
  returning (requireTenantAdministrator currentUser)
  let store ← read
  let connection ← returning (getDatabaseConnection store currentUser connectionId)
  around.synchronizeConnection currentUser.tenant_id connection

end Surroundings

/-! ## When discovery fails, and when it returns -/

variable {around : Surroundings} {store : Store} {connection : DatabaseConnection}
  {tenantId : Uuid}

/-- Connecting or reading fails with an exception that is handled. -/
def Surroundings.ReadingFails (around : Surroundings) (row : ConnectionRow) : Prop :=
  ∃ parameters,
    buildPostgresqlParameters around.fernet around.makeUrl row = .ok parameters ∧
    ((∃ error, around.source.connect parameters row.ssl_enabled = .error error ∧
        error ≠ .other) ∨
      (around.source.connect parameters row.ssl_enabled = .ok () ∧ around.source.closes = true ∧
        ∃ error, around.source.fetch = .error error ∧ error ≠ .other))

/-- The catalogue is read, and the source is closed. -/
def Surroundings.Reads (around : Surroundings) (row : ConnectionRow) (rows : CatalogueRows) :
    Prop :=
  ∃ parameters,
    buildPostgresqlParameters around.fernet around.makeUrl row = .ok parameters ∧
    around.source.connect parameters row.ssl_enabled = .ok () ∧ around.source.closes = true ∧
    around.source.fetch = .ok rows

def isDiscoveryError : Raised → Bool
  | .schemaDiscoveryError _ => true
  | _ => false

theorem isDiscoveryError_handled {error : SourceError} :
    isDiscoveryError (handled error) = true ↔ error ≠ .other := by
  cases error <;> simp [handled, isDiscoveryError]

theorem decryptSecret_error {fernet : Fernet} {token : String} {raised : Raised}
    (h : decryptSecret fernet token = .error raised) : isDiscoveryError raised = false := by
  unfold decryptSecret at h
  split at h
  · rw [← Except.error.inj h]
    rfl
  · split at h
    · cases h
    · rw [← Except.error.inj h]
      rfl

/-- Credentials that cannot be read are no error of the discovery. -/
theorem buildParameters_error {fernet : Fernet} {makeUrl : MakeUrl} {row : ConnectionRow}
    {raised : Raised} (h : buildPostgresqlParameters fernet makeUrl row = .error raised) :
    isDiscoveryError raised = false := by
  unfold buildPostgresqlParameters at h
  split at h
  · rcases bind_error_iff.mp h with h | ⟨text, -, h⟩
    · exact decryptSecret_error h
    · split at h
      · rw [← Except.error.inj h]
        rfl
      · unfold urlParameters at h
        split at h
        · rw [← Except.error.inj h]
          rfl
        · split at h
          · rw [← Except.error.inj h]
            rfl
          · cases h
  · split at h
    · rw [← Except.error.inj h]
      rfl
    · rcases bind_error_iff.mp h with h | ⟨password, -, h⟩
      · exact decryptSecret_error h
      · cases h

/-- Connecting and reading, once the parameters are there. -/
theorem discover_of_build {parameters : PostgresqlParameters}
    (htype : connection.database_type = "postgresql")
    (hbuild : buildPostgresqlParameters around.fernet around.makeUrl
      (around.details connection.id) = .ok parameters) :
    around.discover connection =
      match around.source.connect parameters (around.details connection.id).ssl_enabled with
      | .error error => .error (handled error)
      | .ok () =>
        if around.source.closes then
          match around.source.fetch with
          | .error error => .error (handled error)
          | .ok rows => .ok (buildDiscoveryResult rows)
        else .error .otherException := by
  unfold Surroundings.discover discoverPostgresqlSchema
  rw [if_neg (not_not.mpr htype), hbuild]
  rfl

theorem discover_of_build_error {raised : Raised}
    (htype : connection.database_type = "postgresql")
    (hbuild : buildPostgresqlParameters around.fernet around.makeUrl
      (around.details connection.id) = .error raised) :
    around.discover connection = .error raised := by
  unfold Surroundings.discover discoverPostgresqlSchema
  rw [if_neg (not_not.mpr htype), hbuild]
  rfl

theorem discover_failed_iff :
    (∃ raised, around.discover connection = .error raised ∧ isDiscoveryError raised = true) ↔
      connection.database_type ≠ "postgresql" ∨
        around.ReadingFails (around.details connection.id) := by
  by_cases htype : connection.database_type = "postgresql"
  · refine Iff.trans ?_ (or_iff_right (not_not.mpr htype)).symm
    unfold Surroundings.ReadingFails
    cases hbuild : buildPostgresqlParameters around.fernet around.makeUrl
        (around.details connection.id) with
    | error raised =>
      have hnot := buildParameters_error hbuild
      rw [discover_of_build_error htype hbuild]
      simp [hnot]
    | ok parameters =>
      rw [discover_of_build htype hbuild]
      cases hconnect : around.source.connect parameters
          (around.details connection.id).ssl_enabled with
      | error error => simp [hconnect, isDiscoveryError_handled]
      | ok _ =>
        cases hcloses : around.source.closes with
        | false => simp [hconnect, isDiscoveryError]
        | true =>
          cases hfetch : around.source.fetch with
          | error error => simp [hconnect, isDiscoveryError_handled]
          | ok rows => simp [hconnect]
  · unfold Surroundings.discover
    rw [if_pos htype]
    exact iff_of_true ⟨_, rfl, rfl⟩ (.inl htype)

theorem discover_ok_iff {discovery : SchemaDiscoveryResult} :
    around.discover connection = .ok discovery ↔
      connection.database_type = "postgresql" ∧
        ∃ rows, around.Reads (around.details connection.id) rows ∧
          buildDiscoveryResult rows = discovery := by
  by_cases htype : connection.database_type = "postgresql"
  · refine Iff.trans ?_ (and_iff_right htype).symm
    unfold Surroundings.Reads
    cases hbuild : buildPostgresqlParameters around.fernet around.makeUrl
        (around.details connection.id) with
    | error raised =>
      rw [discover_of_build_error htype hbuild]
      simp
    | ok parameters =>
      rw [discover_of_build htype hbuild]
      cases hconnect : around.source.connect parameters
          (around.details connection.id).ssl_enabled with
      | error error => simp [hconnect]
      | ok _ =>
        cases hcloses : around.source.closes with
        | false => simp
        | true =>
          cases hfetch : around.source.fetch with
          | error error => simp
          | ok rows => simp [hconnect]
  · unfold Surroundings.discover
    rw [if_pos htype]
    refine iff_of_false throw_ne_ok (fun h => htype h.1)

/-! ## The stored status -/

/-- The `schema_sync_status` of a connection. -/
def statusOf (t : Tables) (connectionId : Uuid) : Option String :=
  (lookup DatabaseConnection.id t.connections connectionId).map
    DatabaseConnection.schema_sync_status

theorem statusOf_saved {connectionId : Uuid} (status : String) (synchronizedAt : Option Datetime)
    (h : ∃ connection ∈ store.connections, connection.id = connectionId) :
    statusOf (store.saveSyncStatus connectionId status synchronizedAt).toTables connectionId =
      some status := by
  obtain ⟨found, hmem, rfl⟩ := h
  have hrow : { found with
      schema_sync_status := status, last_schema_sync_at := synchronizedAt } ∈
      (store.saveSyncStatus found.id status synchronizedAt).connections := by
    refine List.mem_map.mpr ⟨found, hmem, ?_⟩
    rw [if_pos rfl]
  have hkey := (store.saveSyncStatus found.id status synchronizedAt).keys.connections
  unfold statusOf
  rw [(lookup_eq_some_iff hkey).mpr ⟨hrow, rfl⟩]
  rfl

theorem exists_saved {connectionId : Uuid} (status : String) (synchronizedAt : Option Datetime)
    (h : ∃ connection ∈ store.connections, connection.id = connectionId) :
    ∃ connection ∈ (store.saveSyncStatus connectionId status synchronizedAt).connections,
      connection.id = connectionId := by
  obtain ⟨found, hmem, rfl⟩ := h
  refine ⟨_, List.mem_map_of_mem hmem, ?_⟩
  rw [if_pos rfl]

/-- The status is final, and it is that of the way the call ended. -/
def EndsFinal {α : Type} (connectionId : Uuid) (result : Service α × Store) : Prop :=
  (statusOf result.2.toTables connectionId = some "completed" ∨
      statusOf result.2.toTables connectionId = some "failed") ∧
    (statusOf result.2.toTables connectionId = some "completed" ↔ result.1.isOk = true)

instance {α : Type} (connectionId : Uuid) (result : Service α × Store) :
    Decidable (EndsFinal connectionId result) :=
  inferInstanceAs (Decidable (_ ∧ _))

theorem endsFinal_returned {α : Type} {connectionId : Uuid} {stored : Store} {a : α} :
    EndsFinal connectionId ((.ok a : Service α), stored) ↔
      statusOf stored.toTables connectionId = some "completed" := by
  unfold EndsFinal
  constructor
  · intro h
    exact h.2.mpr rfl
  · intro h
    exact ⟨.inl h, iff_of_true h rfl⟩

theorem endsFinal_raised {α : Type} {connectionId : Uuid} {stored : Store} {raised : Raised} :
    EndsFinal connectionId ((.error raised : Service α), stored) ↔
      statusOf stored.toTables connectionId = some "failed" := by
  have hraised : ¬ (Except.error raised : Service α).isOk = true := Bool.false_ne_true
  constructor
  · rintro ⟨hcompleted | hfailed, hiff⟩
    · exact absurd (hiff.mp hcompleted) hraised
    · exact hfailed
  · intro h
    refine ⟨.inr h, iff_of_false (fun hcompleted => ?_) hraised⟩
    rw [h] at hcompleted
    simp at hcompleted

/-! ## How a call ends -/

/-- The call ends with a status that is final. -/
inductive Surroundings.Settles (around : Surroundings) (currentUser : User) (connectionId : Uuid)
    (store : Store) : Prop
  /-- The call is refused, or `processing` is not committed, and the last call has failed. -/
  | untouched
      (before : statusOf store.toTables connectionId = some "failed")
      (unsaved : requireTenantAdministrator currentUser = .ok () →
        (∃ connection, getDatabaseConnection store currentUser connectionId = .ok connection) →
        around.saves .processing = .notCommitted)
  /-- An error that is handled, and `failed` is committed. -/
  | failed (connection : DatabaseConnection)
      (administrator : requireTenantAdministrator currentUser = .ok ())
      (found : getDatabaseConnection store currentUser connectionId = .ok connection)
      (processing : around.saves .processing = .saved)
      (discovery : connection.database_type ≠ "postgresql" ∨
        around.ReadingFails (around.details connectionId))
      (saved : around.saves .failed ≠ .notCommitted)
  /-- No step raises. -/
  | completed (connection : DatabaseConnection) (rows : CatalogueRows)
      (administrator : requireTenantAdministrator currentUser = .ok ())
      (found : getDatabaseConnection store currentUser connectionId = .ok connection)
      (processing : around.saves .processing = .saved)
      (postgresql : connection.database_type = "postgresql")
      (reads : around.Reads (around.details connectionId) rows)
      (caches : (call (cacheInSession around.disturbed around.newUuid currentUser.tenant_id
          connectionId (buildDiscoveryResult rows))
        (store.saveSyncStatus connectionId "processing" none)).1.isOk = true)
      (saved : around.saves .completed = .saved)

variable {currentUser : User} {connectionId : Uuid}

theorem exec_saveStatus {save : Save} {status : String} {synchronizedAt : Option Datetime}
    (session : Transactions.Session Store) :
    exec (around.saveStatus save connectionId status synchronizedAt) session =
      let saved := session.current.saveSyncStatus connectionId status synchronizedAt
      match around.saves save with
      | .saved => (.ok (), ⟨saved, saved⟩)
      | .notCommitted => (.error .otherException, ⟨session.committed, saved⟩)
      | .notRefreshed => (.error .otherException, ⟨saved, saved⟩) := by
  unfold Surroundings.saveStatus
  rw [exec_bind, exec_write]
  cases around.saves save <;> rfl

/-- The attempt, when the source database cannot be read. -/
theorem exec_attempt_of_error {raised : Raised} (session : Transactions.Session Store)
    (h : around.discover connection = .error raised) :
    exec (tryCatch (around.discoverAndCache tenantId connection)
        (around.saveFailure connection.id)) session =
      exec (around.saveFailure connection.id raised) session := by
  rw [exec_tryCatch]
  unfold Surroundings.discoverAndCache
  rw [exec_bind, exec_returning, h]

theorem disturbed_otherException (statement : Statement) (current : Store) :
    ∀ raised ∈ around.disturbed statement current, isDiscoveryError raised = false := by
  intro raised h
  unfold Surroundings.disturbed at h
  split at h
  · rw [← Option.some.inj h]
    rfl
  · cases h

/-- The attempt, when it can: no exception of the cache is handled. -/
theorem exec_attempt_of_ok {discovery : SchemaDiscoveryResult}
    (session : Transactions.Session Store)
    (h : around.discover connection = .ok discovery) :
    exec (tryCatch (around.discoverAndCache tenantId connection)
        (around.saveFailure connection.id)) session =
      exec (cacheInSession around.disturbed around.newUuid tenantId connection.id discovery)
        session := by
  rw [exec_tryCatch]
  unfold Surroundings.discoverAndCache
  rw [exec_bind, exec_returning, h]
  dsimp only
  rcases hcache : exec (cacheInSession around.disturbed around.newUuid tenantId connection.id
      discovery) session with ⟨raised | counts, session'⟩
  · have hnot : isDiscoveryError raised = false :=
      onlyRaises_cache (P := fun raised => isDiscoveryError raised = false) rfl
        disturbed_otherException session raised session' hcache
    unfold Surroundings.saveFailure
    cases raised <;> first | rfl | cases hnot
  · rfl

/-- A committed `processing` becomes final in two ways. -/
theorem endsFinal_processing {current : Store}
    (hexists : ∃ c ∈ current.connections, c.id = connection.id)
    (hstatus : statusOf current.toTables connection.id = some "processing") :
    EndsFinal connection.id (call (do
        let counts ← tryCatch (around.discoverAndCache tenantId connection)
          (around.saveFailure connection.id)
        around.complete connection counts) current) ↔
      ((∃ raised, around.discover connection = .error raised ∧ isDiscoveryError raised = true) ∧
          around.saves .failed ≠ .notCommitted) ∨
        ∃ discovery, around.discover connection = .ok discovery ∧
          (call (cacheInSession around.disturbed around.newUuid tenantId connection.id discovery)
            current).1.isOk = true ∧
          around.saves .completed = .saved := by
  have hstays : ¬ statusOf current.toTables connection.id = some "failed" := by
    rw [hstatus]
    simp
  unfold call
  rw [exec_bind]
  cases hdiscover : around.discover connection with
  | error raised =>
    rw [exec_attempt_of_error _ hdiscover]
    cases raised with
    | schemaDiscoveryError message =>
      have hfailed := statusOf_saved "failed" none hexists
      unfold Surroundings.saveFailure
      rw [exec_bind, exec_saveStatus]
      cases hsave : around.saves .failed <;> simp [endsFinal_raised, hstays, hfailed,
        isDiscoveryError]
    | _ =>
      unfold Surroundings.saveFailure
      simp [endsFinal_raised, hstays, isDiscoveryError]
  | ok discovery =>
    rw [exec_attempt_of_ok _ hdiscover]
    rcases hcache : exec (cacheInSession around.disturbed around.newUuid tenantId connection.id
        discovery) ⟨current, current⟩ with ⟨raised | counts, session'⟩
    · obtain ⟨hcommitted, -⟩ := cacheInSession_error hcache
      have hraised : ¬ (Except.error raised : Service CachedCounts).isOk = true :=
        Bool.false_ne_true
      dsimp only at hcommitted
      simp [endsFinal_raised, hcommitted, hstays, hcache, hraised]
    · obtain ⟨caching, hcaching, -, rfl⟩ := cacheInSession_ok hcache
      have hsame := cache_connections hcaching
      have hcompleted := statusOf_saved "completed" (some around.now) (hsame ▸ hexists)
      have hkept : statusOf caching.store.toTables connection.id = some "processing" := by
        unfold statusOf at hstatus ⊢
        rw [hsame]
        exact hstatus
      have hreturned : (Except.ok counts : Service CachedCounts).isOk = true := rfl
      unfold Surroundings.complete
      dsimp only
      rw [exec_bind, exec_saveStatus]
      cases hsave : around.saves .completed <;> simp [endsFinal_raised, endsFinal_returned,
        hcompleted, hkept, hcache, hreturned]

/-- A call that is refused leaves the status as it was. -/
theorem settles_refused
    (h : ¬ (requireTenantAdministrator currentUser = .ok () ∧
      ∃ connection, getDatabaseConnection store currentUser connectionId = .ok connection)) :
    around.Settles currentUser connectionId store ↔
      statusOf store.toTables connectionId = some "failed" := by
  constructor
  · intro hsettles
    cases hsettles with
    | untouched before => exact before
    | failed connection administrator found => exact absurd ⟨administrator, connection, found⟩ h
    | completed connection _ administrator found =>
      exact absurd ⟨administrator, connection, found⟩ h
  · intro hbefore
    exact .untouched hbefore (fun administrator found => absurd ⟨administrator, found⟩ h)

section

variable (hadmin : requireTenantAdministrator currentUser = .ok ())
  (hconnection : getDatabaseConnection store currentUser connectionId = .ok connection)

include hadmin hconnection

theorem settles_unsaved (h : around.saves .processing ≠ .saved) :
    around.Settles currentUser connectionId store ↔
      around.saves .processing = .notCommitted ∧
        statusOf store.toTables connectionId = some "failed" := by
  constructor
  · intro hsettles
    cases hsettles with
    | untouched before unsaved => exact ⟨unsaved hadmin ⟨connection, hconnection⟩, before⟩
    | failed _ _ _ processing => exact absurd processing h
    | completed _ _ _ _ processing => exact absurd processing h
  · rintro ⟨hsave, hbefore⟩
    exact .untouched hbefore (fun _ _ => hsave)

theorem settles_saved (h : around.saves .processing = .saved) :
    around.Settles currentUser connectionId store ↔
      ((connection.database_type ≠ "postgresql" ∨
          around.ReadingFails (around.details connection.id)) ∧
        around.saves .failed ≠ .notCommitted) ∨
        ∃ discovery, (connection.database_type = "postgresql" ∧
            ∃ rows, around.Reads (around.details connection.id) rows ∧
              buildDiscoveryResult rows = discovery) ∧
          (call (cacheInSession around.disturbed around.newUuid currentUser.tenant_id
            connection.id discovery)
            (store.saveSyncStatus connection.id "processing" none)).1.isOk = true ∧
          around.saves .completed = .saved := by
  obtain ⟨-, rfl, -⟩ := getDatabaseConnection_ok hconnection
  constructor
  · intro hsettles
    cases hsettles with
    | untouched _ unsaved =>
      have hnot := unsaved hadmin ⟨connection, hconnection⟩
      rw [h] at hnot
      cases hnot
    | failed found _ hfound _ discovery saved =>
      rw [hconnection] at hfound
      obtain rfl := Except.ok.inj hfound
      exact .inl ⟨discovery, saved⟩
    | completed found rows _ hfound _ postgresql reads caches saved =>
      rw [hconnection] at hfound
      obtain rfl := Except.ok.inj hfound
      exact .inr ⟨_, ⟨postgresql, rows, reads, rfl⟩, caches, saved⟩
  · rintro (⟨discovery, saved⟩ | ⟨_, ⟨postgresql, rows, reads, rfl⟩, caches, saved⟩)
    · exact .failed connection hadmin hconnection h discovery saved
    · exact .completed connection rows hadmin hconnection h postgresql reads caches saved

end

/-- The committed status after a call is final, and `completed` exactly when the call returned, if
and only if the call settles. -/
theorem endsFinal_iff (around : Surroundings) (currentUser : User) (connectionId : Uuid)
    (store : Store) :
    EndsFinal connectionId (call (around.synchronize currentUser connectionId) store) ↔
      around.Settles currentUser connectionId store := by
  unfold call Surroundings.synchronize
  rw [exec_bind, exec_returning]
  cases hadmin : requireTenantAdministrator currentUser with
  | error raised =>
    rw [settles_refused (fun h => by rw [hadmin] at h; cases h.1)]
    exact endsFinal_raised
  | ok _ =>
    dsimp only
    rw [exec_bind, exec_read]
    dsimp only
    rw [exec_bind, exec_returning]
    cases hconnection : getDatabaseConnection store currentUser connectionId with
    | error raised =>
      rw [settles_refused (fun h => by rw [hconnection] at h; cases h.2.choose_spec)]
      exact endsFinal_raised
    | ok connection =>
      obtain ⟨hmem, hid, -⟩ := getDatabaseConnection_ok hconnection
      have hexists : ∃ c ∈ store.connections, c.id = connection.id := ⟨connection, hmem, rfl⟩
      have hprocessing := statusOf_saved "processing" none hexists
      unfold Surroundings.synchronizeConnection
      dsimp only
      rw [exec_bind, exec_saveStatus]
      cases hsave : around.saves .processing with
      | saved =>
        rw [settles_saved hadmin hconnection hsave, ← discover_failed_iff]
        simp only [← discover_ok_iff]
        rw [← hid]
        exact endsFinal_processing (exists_saved "processing" none hexists) hprocessing
      | notCommitted =>
        have hunsaved : around.saves .processing ≠ .saved := by simp [hsave]
        rw [settles_unsaved hadmin hconnection hunsaved, and_iff_right hsave]
        exact endsFinal_raised
      | notRefreshed =>
        have hunsaved : around.saves .processing ≠ .saved := by simp [hsave]
        rw [settles_unsaved hadmin hconnection hunsaved, endsFinal_raised, ← hid, hprocessing]
        simp [hsave]

/-! ## A host that has been set to null -/

def warehouseRow (host : Option String) : ConnectionRow where
  id := "warehouse"
  tenant_id := "tenant"
  name := "Warehouse"
  database_type := "postgresql"
  host := host
  port := some 5432
  database_name := some "sales"
  username := some "reader"
  encrypted_password := some "tsecret"
  encrypted_connection_string := none
  ssl_enabled := true
  status := "pending"
  last_tested_at := none
  last_test_message := none
  schema_sync_status := "pending"
  last_schema_sync_at := none
  is_active := true

/-- A source database with one schema. No call fails. -/
def emptySource : SourceDatabase where
  connect _ _ := .ok ()
  schema_rows := .ok [⟨"public"⟩]
  table_rows := .ok []
  column_rows := .ok []
  primary_key_rows := .ok []
  foreign_key_rows := .ok []
  row_count_rows := .ok []
  closes := true

def warehouseSurroundings (host : Option String) : Surroundings where
  fernet := letterFernet
  makeUrl := salesUrl
  newUuid n := toString n
  now := 0
  details _ := warehouseRow host
  source := emptySource
  refuses _ _ := false
  saves _ := .saved

theorem warehouse_stays_processing :
    let result := call ((warehouseSurroundings none).synchronize salesAdmin "warehouse")
      warehouseStore
    statusOf result.2.toTables "warehouse" = some "processing" ∧
      ¬ EndsFinal "warehouse" result := by
  decide +kernel

/-- With a host the call returns. -/
example : EndsFinal "warehouse" (call
    ((warehouseSurroundings (some "host")).synchronize salesAdmin "warehouse") warehouseStore) := by
  decide +kernel

end DataChat.Connection
