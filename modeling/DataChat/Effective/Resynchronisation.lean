import DataChat.Effective.RowOrder

/-!
# Does a second synchronisation keep the access rules?

A synchronisation deletes the cached rows of the connection and writes them again with new
identifiers. The permissions refer to the old identifiers, and are deleted with the rows.

* `synchronized_no_access`: after a successful synchronisation no user is granted anything on the
  connection.
* `accessKept_iff`: so it keeps the access rules exactly when nothing had been granted before.
-/

namespace DataChat.Effective

open Platform Relational Outcome

/-! ## Schemas up to new identifiers -/

def renameText (rename : Uuid → Uuid) : Json → Json
  | .string text => .string (rename text)
  | value => value

def renameRule (rename : Uuid → Uuid) : Json → Json
  | .object fields => .object (fields.map (fun field =>
      if field.1 = "column_id" then (field.1, renameText rename field.2) else field))
  | rule => rule

/-- The row filter with the identifiers of its columns renamed. -/
def renameRowFilter (rename : Uuid → Uuid) (rowFilter : JsonObject) : JsonObject :=
  rowFilter.map (fun field =>
    match field with
    | ("rules", .array rules) => ("rules", .array (rules.map (renameRule rename)))
    | field => field)

structure TableRenamed (rename : Uuid → Uuid) (a b : AllowedTable) : Prop where
  table_id : b.table_id = rename a.table_id
  names : (b.schema_name, b.table_name) = (a.schema_name, a.table_name)
  flags : (b.can_read, b.can_insert, b.can_update, b.can_delete) =
    (a.can_read, a.can_insert, a.can_update, a.can_delete)
  columns : ∀ name, b.columns.get name =
    (a.columns.get name).map (fun c => { c with column_id := rename c.column_id })
  row_filters : ∀ rowFilter, rowFilter ∈ b.row_filters ↔
    rowFilter ∈ a.row_filters.map (renameRowFilter rename)

/-- The same access rules, with other identifiers of tables and columns. -/
structure SchemaRenamed (rename : Uuid → Uuid) (a b : AllowedSchema) : Prop where
  connection_id : b.connection_id = a.connection_id
  absent : ∀ name, a.tables.get name = none ↔ b.tables.get name = none
  present : ∀ name t t', a.tables.get name = some t → b.tables.get name = some t' →
    TableRenamed rename t t'

/-- Every user of the tenant sees in the second store what he sees in the first. -/
def AccessKept (collation : Collation) (store store' : Store) (tenantId connectionId : Uuid) :
    Prop :=
  ∀ user ∈ store.users, user.tenant_id = tenantId →
    ∀ permissionRows columnRows permissionRows' columnRows' allowed allowed',
      Returned collation store user connectionId permissionRows columnRows →
      Returned collation store' user connectionId permissionRows' columnRows' →
      buildPermissionFilteredSchema store user connectionId permissionRows columnRows =
        .ok allowed →
      buildPermissionFilteredSchema store' user connectionId permissionRows' columnRows' =
        .ok allowed' →
      ∃ rename, Function.Injective rename ∧ SchemaRenamed rename allowed allowed'

/-- No user of the tenant may read a column on the connection, himself or in a role. -/
def NothingGranted (store : Store) (tenantId connectionId : Uuid) : Prop :=
  ∀ user ∈ store.users, user.tenant_id = tenantId →
    ∀ row ∈ effectiveTablePermissions store user connectionId,
      ∀ column, grantOf store tenantId row column = none

/-! ## After a synchronisation -/

variable {newUuid : Nat → Uuid} {now : Datetime} {store : Store} {currentUser user : User}
  {connectionId : Uuid} {source : Except SourceFailure SchemaDiscoveryResult}
  {result : SchemaSyncResult} {collation : Collation}

/-- No permission applies to the new cache. -/
theorem synchronized_no_access
    (h : (synchronizeDatabaseSchema newUuid now store currentUser connectionId source).2 =
      .ok result) (htenant : user.tenant_id = currentUser.tenant_id) :
    effectiveTablePermissions
      (synchronizeDatabaseSchema newUuid now store currentUser connectionId source).1 user
      connectionId = [] := by
  obtain ⟨connection, discovery, caching, hconnection, -, hcache, hstore⟩ := synchronize_ok h
  have hid := (getDatabaseConnection_ok hconnection).2.1
  have hunreferenced := cache_unreferenced hcache
  rw [List.eq_nil_iff_forall_not_mem]
  intro row hrow
  rw [hstore] at hrow
  obtain ⟨hpermission, htable, htableId, hschema, hschemaId, heffective⟩ :=
    mem_effective_iff.mp hrow
  obtain ⟨-, -, -, -, -, hschemaTenant, hschemaConnection, -⟩ := of_decide_eq_true heffective
  have hnot := hunreferenced row.permission hpermission row.table htable htableId row.schema
    hschema hschemaId
  have hof : row.schema.isOf currentUser.tenant_id connection.id = true := by
    unfold DatabaseSchema.isOf
    rw [decide_eq_true_eq, hschemaTenant, hschemaConnection, htenant, hid]
    exact ⟨rfl, rfl⟩
  rw [hof] at hnot
  cases hnot

/-- The connection is still there. -/
theorem synchronized_connection
    (h : (synchronizeDatabaseSchema newUuid now store currentUser connectionId source).2 =
      .ok result) (htenant : user.tenant_id = currentUser.tenant_id) :
    (∃ connection, getDatabaseConnection store user connectionId = .ok connection) ∧
      ∃ connection, getDatabaseConnection
        (synchronizeDatabaseSchema newUuid now store currentUser connectionId source).1 user
        connectionId = .ok connection := by
  obtain ⟨connection, discovery, caching, hconnection, -, hcache, hstore⟩ := synchronize_ok h
  have hfound := getDatabaseConnection_ok hconnection
  rw [getDatabaseConnection_exists, getDatabaseConnection_exists, hstore, htenant,
    saveSyncStatus_connections, cache_connections hcache, saveSyncStatus_connections]
  exact ⟨⟨connection, hfound⟩, connection, hfound⟩

/-- Without rows there are no tables. -/
theorem absent_of_no_rows {columnRows : List ColumnRow} (name : String) :
    (filteredSchema connectionId [] columnRows).tables.get name = none :=
  filteredSchema_absent_iff.mpr (fun _ => rfl)

theorem nothingGranted_of_kept
    (h : (synchronizeDatabaseSchema newUuid now store currentUser connectionId source).2 =
      .ok result)
    (hkept : AccessKept collation store
      (synchronizeDatabaseSchema newUuid now store currentUser connectionId source).1
      currentUser.tenant_id connectionId) :
    NothingGranted store currentUser.tenant_id connectionId := by
  intro user huser htenant row hrow column
  by_contra hgrant
  obtain ⟨grant, hgrant⟩ := Option.ne_none_iff_exists'.mp hgrant
  obtain ⟨hbefore, hafter⟩ := synchronized_connection h htenant
  obtain ⟨permissionRows, hordered⟩ := exists_orderedBy (tableKey collation)
    (effectiveTablePermissions store user connectionId)
  obtain ⟨columnRows, hreturned⟩ := exists_returned hordered
  have hordered' : OrderedBy (tableKey collation) (effectiveTablePermissions
      (synchronizeDatabaseSchema newUuid now store currentUser connectionId source).1 user
      connectionId) [] := by
    rw [synchronized_no_access h htenant]
    exact orderedBy_nil.mpr rfl
  obtain ⟨columnRows', hreturned'⟩ := exists_returned hordered'
  obtain ⟨rename, -, hsame⟩ := hkept user huser htenant permissionRows columnRows [] columnRows' _
    _ hreturned hreturned' (build_ok_iff.mpr ⟨hbefore, rfl⟩) (build_ok_iff.mpr ⟨hafter, rfl⟩)
  have habsent := (hsame.absent (qualifiedName row)).mpr (absent_of_no_rows (qualifiedName row))
  have hnamed : namedGrant store user.tenant_id (qualifiedName row) column row = some grant := by
    unfold namedGrant
    rw [if_pos rfl, htenant, hgrant]
  have hread : row.permission.can_read = true := by
    by_contra hnot
    unfold grantOf at hgrant
    rw [if_neg hnot] at hgrant
    cases hgrant
  have hmem := (mem_mergedGrants hreturned).mpr ⟨row, hrow, hread, rfl,
    (namedGrant_some hnamed).2.2⟩
  rw [filteredSchema_absent_iff.mp habsent column] at hmem
  cases hmem

theorem kept_of_nothingGranted
    (h : (synchronizeDatabaseSchema newUuid now store currentUser connectionId source).2 =
      .ok result)
    (hnothing : NothingGranted store currentUser.tenant_id connectionId) :
    AccessKept collation store
      (synchronizeDatabaseSchema newUuid now store currentUser connectionId source).1
      currentUser.tenant_id connectionId := by
  intro user huser htenant permissionRows columnRows permissionRows' columnRows' allowed allowed'
    hreturned hreturned' hbuild hbuild'
  rw [← (build_ok_iff.mp hbuild).2, ← (build_ok_iff.mp hbuild').2]
  have hbefore : ∀ name,
      (filteredSchema connectionId permissionRows columnRows).tables.get name = none := by
    intro name
    refine filteredSchema_absent_iff.mpr (fun column => ?_)
    rw [List.eq_nil_iff_forall_not_mem]
    intro grant hmem
    obtain ⟨row, hrow, hread, -, hgrant⟩ := (mem_mergedGrants hreturned).mp hmem
    have hnone := hnothing user huser htenant row hrow column
    unfold grantOf at hnone
    rw [if_pos hread, List.head?_eq_none_iff, ← htenant] at hnone
    rw [hnone] at hgrant
    cases hgrant
  have hafter : ∀ name,
      (filteredSchema connectionId permissionRows' columnRows').tables.get name = none := by
    intro name
    have hrows := hreturned'.tables
    rw [synchronized_no_access h htenant] at hrows
    rw [orderedBy_nil.mp hrows]
    exact absent_of_no_rows name
  refine ⟨id, Function.injective_id, rfl, fun name => ?_, fun name t t' ht _ => ?_⟩
  · rw [hbefore name, hafter name]
  · rw [hbefore name] at ht
    cases ht

/-- A second synchronisation keeps the access rules exactly when there are none. -/
theorem accessKept_iff
    (h : (synchronizeDatabaseSchema newUuid now store currentUser connectionId source).2 =
      .ok result) :
    AccessKept collation store
        (synchronizeDatabaseSchema newUuid now store currentUser connectionId source).1
        currentUser.tenant_id connectionId ↔
      NothingGranted store currentUser.tenant_id connectionId :=
  ⟨nothingGranted_of_kept h, kept_of_nothingGranted h⟩

/-! ## The catalogue has not changed -/

theorem resynchronised (store : Store)
    (h : (synchronizeDatabaseSchema shopUuid 1 store shopAdmin "connection"
      (.ok shopDiscovery)).2.isOk = true) :
    ∃ result, (synchronizeDatabaseSchema shopUuid 1 store shopAdmin "connection"
      (.ok shopDiscovery)).2 = .ok result := by
  cases hrun : (synchronizeDatabaseSchema shopUuid 1 store shopAdmin "connection"
      (.ok shopDiscovery)).2 with
  | ok result => exact ⟨result, rfl⟩
  | error raised =>
    rw [hrun] at h
    cases h

/-- Before the first permission there is nothing to lose. -/
theorem shopCached_kept :
    AccessKept codePoints shopCached
      (synchronizeDatabaseSchema shopUuid 1 shopCached shopAdmin "connection"
        (.ok shopDiscovery)).1 "tenant" "connection" := by
  obtain ⟨result, hresult⟩ := resynchronised shopCached (by decide +kernel)
  refine (accessKept_iff hresult).mpr (fun user huser _ row hrow => ?_)
  have hnone : ∀ user ∈ shopCached.users,
      (effectiveTablePermissions shopCached user "connection").length = 0 := by
    decide +kernel
  rw [List.length_eq_zero_iff.mp (hnone user huser)] at hrow
  cases hrow

/-- The member loses his grant when the same catalogue is synchronised again. -/
theorem shopGranted_not_kept :
    Reachable shopUuid shopGranted ∧
      (synchronizeDatabaseSchema shopUuid 1 shopGranted shopAdmin "connection"
        (.ok shopDiscovery)).2.isOk = true ∧
      ¬ AccessKept codePoints shopGranted
        (synchronizeDatabaseSchema shopUuid 1 shopGranted shopAdmin "connection"
          (.ok shopDiscovery)).1 "tenant" "connection" := by
  have hok : (synchronizeDatabaseSchema shopUuid 1 shopGranted shopAdmin "connection"
      (.ok shopDiscovery)).2.isOk = true := by
    decide +kernel
  refine ⟨shopGranted_reachable, hok, fun h => ?_⟩
  obtain ⟨result, hresult⟩ := resynchronised shopGranted hok
  have hnothing := nothingGranted_of_kept hresult h
  have hgranted : ∃ row ∈ effectiveTablePermissions shopGranted shopMember "connection",
      (grantOf shopGranted "tenant" row "email").isSome = true := by
    decide +kernel
  obtain ⟨row, hrow, hsome⟩ := hgranted
  have hmember : shopGranted.users = [shopAdmin, shopMember] := rfl
  have hmem : shopMember ∈ shopGranted.users := by
    rw [hmember]
    exact List.mem_cons_of_mem _ List.mem_cons_self
  have hnone : grantOf shopGranted "tenant" row "email" = none :=
    hnothing shopMember hmem rfl row hrow "email"
  rw [hnone] at hsome
  cases hsome

end DataChat.Effective
