import DataChat.Platform.Permissions

/-!
# Runs of the platform

The steps that change the modelled tables: the services above, and any change of the accounts and
of the connections that the constraints admit, for these are kept by services and scripts that
are not modelled.

* `step_columnsOfTable`: each step keeps `ColumnsOfTable`.
* `reachable_columnsOfTable`: in every reachable store, a permission exposes columns of its own
  table only.
-/

namespace DataChat.Platform

open Relational Outcome

/-! ## Steps -/

inductive Step (newUuid : Nat → Uuid) : Store → Store → Prop
  | accounts {store store' : Store} (users : List User) (roles : List Role)
      (userRoles : List UserRole) (connections : List DatabaseConnection)
      (h : { store.toTables with
        users := users, roles := roles, user_roles := userRoles,
        connections := connections }.checked = .ok store') : Step newUuid store store'
  | createPermission {store store' : Store} (currentUser : User)
      (request : TablePermissionCreate) (response : TablePermissionResponse)
      (h : createPermission newUuid store currentUser request = .ok (store', response)) :
      Step newUuid store store'
  | synchronize {store : Store} (now : Datetime) (currentUser : User) (connectionId : Uuid)
      (source : Except SourceFailure SchemaDiscoveryResult) :
      Step newUuid store
        (synchronizeDatabaseSchema newUuid now store currentUser connectionId source).1
  | removeConnection {store store' : Store} (currentUser : User) (connectionId : Uuid)
      (h : removeDatabaseConnection store currentUser connectionId = .ok store') :
      Step newUuid store store'

/-- The stores that runs lead to. -/
inductive Reachable (newUuid : Nat → Uuid) : Store → Prop
  | empty : Reachable newUuid Store.empty
  | step {store store' : Store} (h : Reachable newUuid store) (hstep : Step newUuid store store') :
      Reachable newUuid store'

/-! ## The columns of a permission -/

/-- The column of each column permission belongs to the table of its table permission. -/
def ColumnsOfTable (t : Tables) : Prop :=
  ∀ c ∈ t.column_permissions, ∀ permission ∈ t.table_permissions,
    permission.id = c.table_permission_id → ∀ column ∈ t.columns, column.id = c.column_id →
      column.table_id = permission.table_id

variable {newUuid : Nat → Uuid} {store store' : Store}

theorem ColumnsOfTable.sub {t t' : Tables} (h : ColumnsOfTable t) (hsub : t'.Sub t) :
    ColumnsOfTable t' := by
  intro c hc permission hpermission hparent column hcolumn hid
  apply h c (hsub.column_permissions.subset hc) permission
    (hsub.table_permissions.subset hpermission) hparent column
  · exact hsub.columns.subset hcolumn
  · exact hid

/-- A column that the cache adds has no permissions yet. -/
theorem cache_columnsOfTable {tenantId connectionId : Uuid} {discovery : SchemaDiscoveryResult}
    {caching : Caching} (h : ColumnsOfTable store.toTables)
    (hrun : cacheDiscoveredMetadata newUuid store tenantId connectionId discovery = .ok caching) :
    ColumnsOfTable caching.store.toTables := by
  obtain ⟨blocks, -, happends⟩ := cache_ok hrun
  have hkey := caching.store.keys.columns
  rw [happends.rows] at hkey ⊢
  let cleared := clearConnectionMetadata store tenantId connectionId
  have hcleared : ColumnsOfTable cleared.toTables := h.sub (clear_sub store tenantId connectionId)
  intro c hc permission hpermission hparent column hcolumn hid
  rcases List.mem_append.mp hcolumn with hold | hnew
  · exact hcleared c hc permission hpermission hparent column hold hid
  · have hexisting := cleared.references.column_permissions_column c hc c.column_id rfl
    rw [← hid] at hexisting
    exact absurd hexisting (hkey.fresh_of_mem hnew)

/-- The columns of a new permission have been checked, and no other permission has its columns. -/
theorem createPermission_columnsOfTable {currentUser : User} {request : TablePermissionCreate}
    {response : TablePermissionResponse} (h : ColumnsOfTable store.toTables)
    (hcreate : createPermission newUuid store currentUser request = .ok (store', response)) :
    ColumnsOfTable store'.toTables := by
  have hcreated := (create_rows hcreate).1
  have hkey := store'.keys.table_permissions
  rw [hcreated.table_permissions] at hkey
  intro c hc permission hpermission hparent column hcolumn hid
  rw [hcreated.column_permissions] at hc
  rw [hcreated.table_permissions] at hpermission
  rw [hcreated.columns] at hcolumn
  rcases List.mem_append.mp hc with hold | hadded
  · have hexisting :=
      store.references.column_permissions_permission c hold c.table_permission_id rfl
    rcases List.mem_append.mp hpermission with hbefore | hnew
    · exact h c hold permission hbefore hparent column hcolumn hid
    · rw [List.mem_singleton.mp hnew] at hparent
      rw [← hparent] at hexisting
      exact absurd hexisting hkey.fresh
  · have hsame : permission = response.permission := by
      apply hkey.eq_of_key hpermission (List.mem_append_right _ (List.mem_singleton_self _))
      rw [hparent, hcreated.parent c hadded]
    rw [hsame, hcreated.table]
    exact hcreated.validated c hadded column hcolumn hid

theorem step_columnsOfTable (hstep : Step newUuid store store')
    (h : ColumnsOfTable store.toTables) : ColumnsOfTable store'.toTables := by
  cases hstep with
  | accounts users roles userRoles connections hchecked =>
    rw [checked_ok hchecked]
    exact h
  | createPermission currentUser request response hcreate =>
    exact createPermission_columnsOfTable h hcreate
  | synchronize now currentUser connectionId source =>
    exact synchronize_keeps now currentUser source (fun _ _ _ _ hstatus => hstatus)
      cache_columnsOfTable h
  | removeConnection currentUser connectionId hremove =>
    exact h.sub (removeDatabaseConnection_sub hremove)

theorem reachable_columnsOfTable (h : Reachable newUuid store) :
    ColumnsOfTable store.toTables := by
  induction h with
  | empty =>
    intro c hc
    exact absurd hc List.not_mem_nil
  | step _ hstep ih => exact step_columnsOfTable hstep ih

end DataChat.Platform
