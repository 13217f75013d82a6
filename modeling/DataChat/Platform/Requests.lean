import DataChat.Library.Runs
import DataChat.Platform.Ownership

/-!
# Requests that change what users may read

The endpoints of `api/routes/database_connections.py` and `api/routes/permissions.py` that write
the modelled tables, each in one transaction of its own, or, for a synchronisation, in several.

* `handle_consistent`, `handle_separate`: rows and their parents keep agreeing, and no foreign key
  comes to cross tenants.
* `deleteConnections_keeps`: what the removal of a connection leaves alone.
-/

namespace DataChat.Platform

open Relational Outcome

/-! ## Requests -/

inductive AccessRequest
  | createConnection (databaseType : String)
  | updateConnection (connectionId : Uuid)
  | removeConnection (connectionId : Uuid)
  | synchronize (now : Datetime) (connectionId : Uuid)
      (source : Except SourceFailure SchemaDiscoveryResult)
  | createPermission (request : TablePermissionCreate)

/-- The connection that a request is about, unless it is a new one. -/
def AccessRequest.connection : AccessRequest → Option Uuid
  | .createConnection _ => none
  | .updateConnection connectionId => some connectionId
  | .removeConnection connectionId => some connectionId
  | .synchronize _ connectionId _ => some connectionId
  | .createPermission request => some request.connection_id

/-- `create_database_connection`, on the modelled columns. -/
def createConnection (newUuid : Nat → Uuid) (store : Store) (currentUser : User)
    (databaseType : String) : Service Store := do
  requireTenantAdministrator currentUser
  Tables.checked { store.toTables with
    connections := store.connections ++
      [{ id := newUuid store.generated
         tenant_id := currentUser.tenant_id
         database_type := databaseType
         schema_sync_status := "pending"
         last_schema_sync_at := none }]
    generated := store.generated + 1 }

/-- `update_database_connection`, on the modelled columns. -/
def updateConnection (store : Store) (currentUser : User) (connectionId : Uuid) :
    Service Store := do
  requireTenantAdministrator currentUser
  let connection ← getDatabaseConnection store currentUser connectionId
  pure (store.saveSyncStatus connection.id "pending" none)

/-- What is stored after a request. -/
def handle (newUuid : Nat → Uuid) (store : Store) (currentUser : User) : AccessRequest → Store
  | .createConnection databaseType =>
    (createConnection newUuid store currentUser databaseType).toOption.getD store
  | .updateConnection connectionId =>
    (updateConnection store currentUser connectionId).toOption.getD store
  | .removeConnection connectionId =>
    (removeDatabaseConnection store currentUser connectionId).toOption.getD store
  | .synchronize now connectionId source =>
    (synchronizeDatabaseSchema newUuid now store currentUser connectionId source).1
  | .createPermission request =>
    storedAfter store (createPermission newUuid store currentUser request)

variable {newUuid : Nat → Uuid} {store store' : Store} {currentUser : User}

theorem administrator_of_ok (h : requireTenantAdministrator currentUser = .ok ()) :
    currentUser.is_tenant_admin = true := by
  unfold requireTenantAdministrator at h
  split at h
  · assumption
  · exact absurd h throw_ne_ok

/-- Whatever a request does to the store is one of these, and an administrator does it. -/
theorem handle_cases {P : Store → Prop} (request : AccessRequest) (hsame : P store)
    (hcreateConnection : ∀ databaseType id store', currentUser.is_tenant_admin = true →
      store'.toTables = { store.toTables with
        connections := store.connections ++
          [⟨id, currentUser.tenant_id, databaseType, "pending", none⟩]
        generated := store.generated + 1 } → P store')
    (hupdate : ∀ connection ∈ store.connections, request = .updateConnection connection.id →
      connection.tenant_id = currentUser.tenant_id → currentUser.is_tenant_admin = true →
        P (store.saveSyncStatus connection.id "pending" none))
    (hremove : ∀ connection ∈ store.connections, request = .removeConnection connection.id →
      connection.tenant_id = currentUser.tenant_id → currentUser.is_tenant_admin = true →
        P (store.deleteConnections (fun c => c.id = connection.id)))
    (hsynchronize : ∀ now connectionId source, request = .synchronize now connectionId source →
      currentUser.is_tenant_admin = true →
        P (synchronizeDatabaseSchema newUuid now store currentUser connectionId source).1)
    (hcreatePermission : ∀ creation response store', request = .createPermission creation →
      createPermission newUuid store currentUser creation = .ok (store', response) →
        currentUser.is_tenant_admin = true → P store') :
    P (handle newUuid store currentUser request) := by
  cases request with
  | createConnection databaseType =>
    simp only [handle]
    cases hrun : createConnection newUuid store currentUser databaseType with
    | error e => exact hsame
    | ok stored =>
      obtain ⟨⟨⟩, hadmin, hchecked⟩ := bind_ok_iff.mp hrun
      exact hcreateConnection _ _ _ (administrator_of_ok hadmin) (checked_ok hchecked)
  | updateConnection connectionId =>
    simp only [handle]
    cases hrun : updateConnection store currentUser connectionId with
    | error e => exact hsame
    | ok stored =>
      obtain ⟨⟨⟩, hadmin, hrest⟩ := bind_ok_iff.mp hrun
      obtain ⟨connection, hconnection, hpure⟩ := bind_ok_iff.mp hrest
      obtain ⟨hmem, rfl, htenant⟩ := getDatabaseConnection_ok hconnection
      rw [← pure_ok_iff.mp hpure]
      exact hupdate connection hmem rfl htenant (administrator_of_ok hadmin)
  | removeConnection connectionId =>
    simp only [handle]
    cases hrun : removeDatabaseConnection store currentUser connectionId with
    | error e => exact hsame
    | ok stored =>
      obtain ⟨⟨⟩, hadmin, hrest⟩ := bind_ok_iff.mp hrun
      obtain ⟨connection, hconnection, hpure⟩ := bind_ok_iff.mp hrest
      obtain ⟨hmem, rfl, htenant⟩ := getDatabaseConnection_ok hconnection
      rw [← pure_ok_iff.mp hpure]
      exact hremove connection hmem rfl htenant (administrator_of_ok hadmin)
  | synchronize now connectionId source =>
    by_cases hadmin : currentUser.is_tenant_admin = true
    · exact hsynchronize now connectionId source rfl hadmin
    · have hrequire : requireTenantAdministrator currentUser = .error
          (.tenantAdministratorRequiredError "Tenant administrator access is required.") :=
        if_neg hadmin
      simp only [handle, synchronizeDatabaseSchema, hrequire]
      exact hsame
  | createPermission creation =>
    simp only [handle]
    cases hrun : createPermission newUuid store currentUser creation with
    | error e => exact hsame
    | ok result =>
      obtain ⟨⟨⟩, hadmin, -⟩ := bind_ok_iff.mp hrun
      exact hcreatePermission creation result.2 result.1 rfl hrun (administrator_of_ok hadmin)

/-! ## Rows and their parents -/

theorem synchronize_consistent (now : Datetime) (connectionId : Uuid)
    (source : Except SourceFailure SchemaDiscoveryResult) (h : Consistent store.toTables) :
    Consistent
      (synchronizeDatabaseSchema newUuid now store currentUser connectionId source).1.toTables := by
  have hstep : Step newUuid store _ := .synchronize now currentUser connectionId source
  exact step_consistent hstep h

theorem handle_consistent (request : AccessRequest) (h : Consistent store.toTables) :
    Consistent (handle newUuid store currentUser request).toTables := by
  refine handle_cases (P := fun store' => Consistent store'.toTables) request h ?_ ?_ ?_ ?_ ?_
  · intro databaseType id stored _ htables
    rw [htables]
    exact ⟨h.tables_schema, h.columns_table, h.permissions_table, h.columns_permission⟩
  · intro connection _ _ _ _
    exact ⟨h.tables_schema, h.columns_table, h.permissions_table, h.columns_permission⟩
  · intro connection _ _ _ _
    exact h.sub (delete_sub _ _ _)
  · intro now connectionId source _ _
    exact synchronize_consistent now connectionId source h
  · intro creation response stored _ hcreate _
    exact step_consistent (.createPermission currentUser creation response hcreate) h

/-! ## No foreign key crosses tenants -/

theorem Separate.sub {t t' : Tables} (h : Separate t) (hsub : t'.Sub t) : Separate t' where
  user_roles := fun row hrow user huser huid role hrole =>
    h.user_roles row (hsub.user_roles.subset hrow) user (hsub.users.subset huser) huid role
      (hsub.roles.subset hrole)
  schemas_connection := fun s hs k hk c hc =>
    h.schemas_connection s (hsub.schemas.subset hs) k hk c (hsub.connections.subset hc)
  tables_connection := fun d hd k hk c hc =>
    h.tables_connection d (hsub.tables.subset hd) k hk c (hsub.connections.subset hc)
  tables_schema := fun d hd k hk s hs =>
    h.tables_schema d (hsub.tables.subset hd) k hk s (hsub.schemas.subset hs)
  columns_table := fun c hc k hk d hd =>
    h.columns_table c (hsub.columns.subset hc) k hk d (hsub.tables.subset hd)
  permissions_role := fun p hp k hk role hrole =>
    h.permissions_role p (hsub.table_permissions.subset hp) k hk role (hsub.roles.subset hrole)
  permissions_user := fun p hp k hk user huser =>
    h.permissions_user p (hsub.table_permissions.subset hp) k hk user (hsub.users.subset huser)
  permissions_connection := fun p hp k hk c hc =>
    h.permissions_connection p (hsub.table_permissions.subset hp) k hk c
      (hsub.connections.subset hc)
  permissions_table := fun p hp k hk d hd =>
    h.permissions_table p (hsub.table_permissions.subset hp) k hk d (hsub.tables.subset hd)
  column_permissions := fun row hrow p hp hid column hcolumn =>
    h.column_permissions row (hsub.column_permissions.subset hrow) p
      (hsub.table_permissions.subset hp) hid column (hsub.columns.subset hcolumn)

/-- The children of a reference stay within their tenant when the parents do. -/
theorem WithinTenant.parents {γ ρ : Type} {owner : γ → Uuid} {reference : γ → Option Uuid}
    {children : List γ} {owner' : ρ → Uuid} {key : ρ → Uuid} {parents parents' : List ρ}
    (h : WithinTenant owner reference children owner' key parents)
    (hsame : ∀ parent' ∈ parents', ∃ parent ∈ parents,
      key parent = key parent' ∧ owner' parent = owner' parent') :
    WithinTenant owner reference children owner' key parents' := by
  intro child hchild k hk parent' hparent' hkey
  obtain ⟨parent, hparent, hkey', howner⟩ := hsame parent' hparent'
  rw [← howner]
  exact h child hchild k hk parent hparent (hkey'.trans hkey)

/-- The rows of a reference to a new parent stay within their tenant when no child has it. -/
theorem WithinTenant.fresh {γ ρ : Type} {owner : γ → Uuid} {reference : γ → Option Uuid}
    {children : List γ} {owner' : ρ → Uuid} {key : ρ → Uuid} {parents added : List ρ}
    (h : WithinTenant owner reference children owner' key parents)
    (hreferences : ForeignKey reference children key parents)
    (hkey : PrimaryKey key (parents ++ added)) :
    WithinTenant owner reference children owner' key (parents ++ added) := by
  intro child hchild k hk parent hparent hid
  rcases List.mem_append.mp hparent with hold | hnew
  · exact h child hchild k hk parent hold hid
  · have hexisting := hreferences child hchild k hk
    rw [← hid] at hexisting
    exact absurd hexisting (hkey.fresh_of_mem hnew)

theorem WithinTenant.append {γ ρ : Type} {owner : γ → Uuid} {reference : γ → Option Uuid}
    {children added : List γ} {owner' : ρ → Uuid} {key : ρ → Uuid} {parents : List ρ}
    (h : WithinTenant owner reference children owner' key parents)
    (hadded : WithinTenant owner reference added owner' key parents) :
    WithinTenant owner reference (children ++ added) owner' key parents := by
  intro child hchild
  rcases List.mem_append.mp hchild with hold | hnew
  · exact h child hold
  · exact hadded child hnew

theorem saveSyncStatus_mem {id : Uuid} {status : String} {synchronizedAt : Option Datetime}
    {connection' : DatabaseConnection}
    (h : connection' ∈ (store.saveSyncStatus id status synchronizedAt).connections) :
    ∃ connection ∈ store.connections, connection.id = connection'.id ∧
      connection.tenant_id = connection'.tenant_id := by
  obtain ⟨connection, hmem, rfl⟩ := List.mem_map.mp h
  refine ⟨connection, hmem, ?_⟩
  split <;> exact ⟨rfl, rfl⟩

theorem separate_saveSyncStatus (h : Separate store.toTables) (id : Uuid) (status : String)
    (synchronizedAt : Option Datetime) :
    Separate (store.saveSyncStatus id status synchronizedAt).toTables := by
  exact { h with
    schemas_connection := h.schemas_connection.parents (fun _ => saveSyncStatus_mem)
    tables_connection := h.tables_connection.parents (fun _ => saveSyncStatus_mem)
    permissions_connection := h.permissions_connection.parents (fun _ => saveSyncStatus_mem) }

theorem separate_createConnection (h : Separate store.toTables) {connection : DatabaseConnection}
    (htables : store'.toTables = { store.toTables with
      connections := store.connections ++ [connection], generated := store.generated + 1 }) :
    Separate store'.toTables := by
  have hkey := store'.keys.connections
  have hreferences := store.references
  rw [htables] at hkey ⊢
  exact { h with
    schemas_connection := h.schemas_connection.fresh hreferences.schemas_connection hkey
    tables_connection := h.tables_connection.fresh hreferences.tables_connection hkey
    permissions_connection :=
      h.permissions_connection.fresh hreferences.permissions_connection hkey }

/-- What the cache writes belongs to the tenant of the connection. -/
theorem cache_separate {tenantId connectionId : Uuid} {discovery : SchemaDiscoveryResult}
    {caching : Caching} (hconsistent : Consistent store.toTables) (h : Separate store.toTables)
    (hconnection : ∀ connection ∈ store.connections, connection.id = connectionId →
      connection.tenant_id = tenantId)
    (hrun : cacheDiscoveredMetadata newUuid store tenantId connectionId discovery = .ok caching) :
    Separate caching.store.toTables := by
  have hafter := cache_consistent hconsistent hrun
  obtain ⟨blocks, hblocks, happends⟩ := cache_ok hrun
  have hplaced := placed_of_written hblocks
  have hcleared := h.sub (clear_sub store tenantId connectionId)
  have href := (clearConnectionMetadata store tenantId connectionId).references
  have hconnections := clear_connections store tenantId connectionId
  have hkeyColumns := caching.store.keys.columns
  have hkeyTables := caching.store.keys.tables
  rw [happends.rows] at hafter hkeyColumns hkeyTables ⊢
  dsimp only at hkeyColumns hkeyTables
  have hown : ∀ connection ∈ (clearConnectionMetadata store tenantId connectionId).connections,
      connection.id = connectionId → connection.tenant_id = tenantId := by
    rw [hconnections]
    exact hconnection
  refine
    { hcleared with
      schemas_connection := hcleared.schemas_connection.append ?_
      tables_connection := hcleared.tables_connection.append ?_
      tables_schema := fun d hd k hk s hs hid =>
        (hafter.tables_schema d hd s hs (hid.trans (Option.some.inj hk).symm)).1
      columns_table := fun c hc k hk d hd hid =>
        hafter.columns_table c hc d hd (hid.trans (Option.some.inj hk).symm)
      permissions_table := hcleared.permissions_table.fresh href.permissions_table hkeyTables
      column_permissions := fun row hrow p hp hpid column hcolumn hcid => ?_ }
  · intro s hs k hk connection hmem hid
    obtain ⟨block, hblock, rfl⟩ := List.mem_map.mp hs
    have hid' : connection.id = connectionId :=
      hid.trans ((Option.some.inj hk).symm.trans (hplaced block hblock).connection)
    rw [hown connection hmem hid', (hplaced block hblock).tenant]
  · intro d hd k hk connection hmem hid
    obtain ⟨table, htable, rfl⟩ := List.mem_map.mp hd
    obtain ⟨block, hblock, htable⟩ := List.mem_flatMap.mp htable
    have htablePlaced := (hplaced block hblock).tables table htable
    have hid' : connection.id = connectionId :=
      hid.trans ((Option.some.inj hk).symm.trans htablePlaced.connection)
    rw [hown connection hmem hid', htablePlaced.tenant]
  · rcases List.mem_append.mp hcolumn with hold | hnew
    · exact hcleared.column_permissions row hrow p hp hpid column hold hcid
    · have hexisting := href.column_permissions_column row hrow row.column_id rfl
      rw [← hcid] at hexisting
      exact absurd hexisting (hkeyColumns.fresh_of_mem hnew)

/-- What a synchronisation leaves: new statuses, and a new cache if it succeeds. -/
theorem synchronize_cases {P : Store → Prop} (now : Datetime) (connectionId : Uuid)
    (source : Except SourceFailure SchemaDiscoveryResult) (hsame : P store)
    (hstatus : ∀ connection ∈ store.connections, connection.id = connectionId →
      connection.tenant_id = currentUser.tenant_id →
        P (store.saveSyncStatus connection.id "processing" none) ∧
          P ((store.saveSyncStatus connection.id "processing" none).saveSyncStatus connection.id
            "failed" none))
    (hcached : ∀ connection ∈ store.connections, connection.id = connectionId →
      connection.tenant_id = currentUser.tenant_id → ∀ discovery caching,
        cacheDiscoveredMetadata newUuid (store.saveSyncStatus connection.id "processing" none)
          currentUser.tenant_id connection.id discovery = .ok caching →
        P (caching.store.saveSyncStatus connection.id "completed" (some now))) :
    P (synchronizeDatabaseSchema newUuid now store currentUser connectionId source).1 := by
  unfold synchronizeDatabaseSchema
  split
  · exact hsame
  · exact hsame
  · rename_i connection _ hconnection
    obtain ⟨hmem, hid, htenant⟩ := getDatabaseConnection_ok hconnection
    have hstatuses := hstatus connection hmem hid htenant
    dsimp only
    split
    · exact hstatuses.2
    · exact hstatuses.1
    · split
      · exact hstatuses.1
      · rename_i discovery _ _ caching hcaching
        exact hcached connection hmem hid htenant discovery caching hcaching

theorem synchronize_separate (now : Datetime) (connectionId : Uuid)
    (source : Except SourceFailure SchemaDiscoveryResult) (hconsistent : Consistent store.toTables)
    (h : Separate store.toTables) :
    Separate
      (synchronizeDatabaseSchema newUuid now store currentUser connectionId source).1.toTables := by
  refine synchronize_cases (P := fun store' => Separate store'.toTables) now connectionId source h
    (fun connection _ _ _ => ?_) (fun connection hmem _ htenant discovery caching hcaching => ?_)
  · have hprocessing := separate_saveSyncStatus h connection.id "processing" none
    exact ⟨hprocessing, separate_saveSyncStatus hprocessing _ _ _⟩
  · refine separate_saveSyncStatus (cache_separate ?_ (separate_saveSyncStatus h _ _ _) ?_
      hcaching) _ _ _
    · exact ⟨hconsistent.tables_schema, hconsistent.columns_table, hconsistent.permissions_table,
        hconsistent.columns_permission⟩
    · intro connection' hconnection' hid
      obtain ⟨original, horiginal, hsameId, hsameTenant⟩ := saveSyncStatus_mem hconnection'
      have hsame : original = connection :=
        store.keys.connections.eq_of_key horiginal hmem (hsameId.trans hid)
      rw [← hsameTenant, hsame, htenant]

theorem validateSubject_ok {tenantId : Uuid} {roleId userId : Option Uuid}
    (h : validatePermissionSubject store tenantId roleId userId = .ok ()) :
    (∀ id ∈ roleId, ∃ role ∈ store.roles, role.id = id ∧ role.tenant_id = tenantId) ∧
      ∀ id ∈ userId, ∃ user ∈ store.users, user.id = id ∧ user.tenant_id = tenantId := by
  unfold validatePermissionSubject at h
  obtain ⟨hrole, h⟩ := guard_ok_iff.mp h
  obtain ⟨huser, -⟩ := guard_ok_iff.mp h
  exact ⟨fun id hid => by_contra (fun hnone => hrole ⟨id, hid, hnone⟩),
    fun id hid => by_contra (fun hnone => huser ⟨id, hid, hnone⟩)⟩

theorem createPermission_subject {creation : TablePermissionCreate}
    {response : TablePermissionResponse}
    (h : createPermission newUuid store currentUser creation = .ok (store', response)) :
    validatePermissionSubject store currentUser.tenant_id creation.role_id creation.user_id =
      .ok () := by
  unfold createPermission at h
  obtain ⟨-, -, h⟩ := bind_ok_iff.mp h
  obtain ⟨-, -, h⟩ := bind_ok_iff.mp h
  obtain ⟨-, -, h⟩ := bind_ok_iff.mp h
  obtain ⟨⟨⟩, hsubject, -⟩ := bind_ok_iff.mp h
  exact hsubject

/-- The subject, the table and the columns of a new permission belong to the administrator's
tenant. -/
theorem createPermission_separate {creation : TablePermissionCreate}
    {response : TablePermissionResponse} (h : Separate store.toTables)
    (hcreate : createPermission newUuid store currentUser creation = .ok (store', response)) :
    Separate store'.toTables := by
  obtain ⟨hroles, husers⟩ := validateSubject_ok (createPermission_subject hcreate)
  obtain ⟨⟨table, htable⟩, -, hcreated⟩ := createPermission_ok hcreate
  obtain ⟨hmem, hid, htenant, hconnection⟩ := validateTable_ok htable
  obtain ⟨hrows, hgranted⟩ := create_rows hcreate
  have hpermission := (createTablePermission_ok hcreated).1
  have hkey := store'.keys.table_permissions
  have href := store.references
  rw [createTablePermission_tables hcreated] at hkey ⊢
  refine
    { h with
      permissions_role := h.permissions_role.append ?_
      permissions_user := h.permissions_user.append ?_
      permissions_connection := h.permissions_connection.append ?_
      permissions_table := h.permissions_table.append ?_
      column_permissions := fun row hrow p hp hpid column hcolumn hcid => ?_ }
  · intro p hp k hk role hrole hkeyRole
    rw [List.mem_singleton.mp hp, hpermission] at hk ⊢
    obtain ⟨valid, hvalid, hvalidId, hvalidTenant⟩ := hroles k hk
    rw [store.keys.roles.eq_of_key hrole hvalid (hkeyRole.trans hvalidId.symm), hvalidTenant]
  · intro p hp k hk user huser hkeyUser
    rw [List.mem_singleton.mp hp, hpermission] at hk ⊢
    obtain ⟨valid, hvalid, hvalidId, hvalidTenant⟩ := husers k hk
    rw [store.keys.users.eq_of_key huser hvalid (hkeyUser.trans hvalidId.symm), hvalidTenant]
  · intro p hp k hk connection hconnectionMem hkeyConnection
    rw [List.mem_singleton.mp hp, hpermission] at hk ⊢
    -- the connection of the permission is that of its table
    have hsame : connection.id = table.connection_id :=
      hkeyConnection.trans ((Option.some.inj hk).symm.trans hconnection.symm)
    rw [h.tables_connection table hmem _ rfl connection hconnectionMem hsame, htenant]
  · intro p hp k hk d hd hkeyTable
    rw [List.mem_singleton.mp hp, hpermission] at hk ⊢
    have hsame : d = table := store.keys.tables.eq_of_key hd hmem
      (hkeyTable.trans ((Option.some.inj hk).symm.trans hid.symm))
    rw [hsame, htenant]
  · rcases List.mem_append.mp hrow with hold | hadded
    · rcases List.mem_append.mp hp with hbefore | hnew
      · exact h.column_permissions row hold p hbefore hpid column hcolumn hcid
      · have hexisting := href.column_permissions_permission row hold row.table_permission_id rfl
        rw [← hpid] at hexisting
        exact absurd hexisting (hkey.fresh_of_mem hnew)
    · have hnew : p = response.permission := hkey.eq_of_key hp
        (List.mem_append_right _ (List.mem_singleton_self _)) (hpid.trans (hrows.parent row hadded))
      have hpair : (row.column_id, row.can_read) ∈
          creation.columns.map (fun c => (c.column_id, c.can_read)) := by
        rw [← hgranted.columns]
        exact List.mem_map.mpr ⟨row, hadded, rfl⟩
      obtain ⟨input, hinput, hsamePair⟩ := List.mem_map.mp hpair
      obtain ⟨valid, hvalid, hvalidId, hvalidTenant⟩ := hgranted.found input hinput
      have hsame : column = valid := store.keys.columns.eq_of_key hcolumn hvalid
        (hcid.trans ((Prod.mk.inj hsamePair).1.symm.trans hvalidId.symm))
      rw [hsame, hvalidTenant, hnew, hgranted.tenant]

theorem handle_separate (request : AccessRequest) (hconsistent : Consistent store.toTables)
    (h : Separate store.toTables) :
    Separate (handle newUuid store currentUser request).toTables := by
  refine handle_cases (P := fun store' => Separate store'.toTables) request h ?_ ?_ ?_ ?_ ?_
  · intro databaseType id stored _ htables
    exact separate_createConnection h htables
  · intro connection _ _ _ _
    exact separate_saveSyncStatus h _ _ _
  · intro connection _ _ _ _
    exact h.sub (delete_sub _ _ _)
  · intro now connectionId source _ _
    exact synchronize_separate now connectionId source hconsistent h
  · intro creation response stored _ hcreate _
    exact createPermission_separate h hcreate

end DataChat.Platform
