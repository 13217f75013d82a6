import DataChat.Platform.Requests

/-!
# What a request leaves alone

* `deleteConnections_keeps`: the removal of connections spares the rows below other connections.
* `handle_agrees`: a request of a user who is not an administrator of the tenant leaves the rows of
  the tenant alone.
* `handle_sameConnection`: a request about one connection leaves the rows of another alone.
-/

namespace DataChat.Platform

open Relational Outcome

variable {store : Store} {selection : Selection}

/-- The removal of connections leaves a selection alone that has no row below them, cascades
included. Only the connections themselves are fewer. -/
theorem deleteConnections_keeps (hclosed : selection.Closed store.toTables)
    {p : DatabaseConnection → Bool}
    (hschemas : ∀ s ∈ store.schemas, selection.schemas s = true →
      ∀ c ∈ store.connections, c.id = s.connection_id → p c = false)
    (htables : ∀ d ∈ store.tables, selection.tables d = true →
      ∀ c ∈ store.connections, c.id = d.connection_id → p c = false)
    (hpermissions : ∀ permission ∈ store.table_permissions,
      selection.table_permissions permission = true →
        ∀ c ∈ store.connections, c.id = permission.connection_id → p c = false) :
    Keeps selection store.toTables
      { (store.deleteConnections p).toTables with connections := store.connections } := by
  have href := store.references
  let remaining : Tables :=
    { store.toTables with connections := store.connections.filter (fun c => !p c) }
  have hspared : (store.connections.filter (fun c => !p c)).filter (fun c => !p c) =
      store.connections.filter (fun c => !p c) := by
    rw [List.filter_filter]
    simp
  have hparent : ∀ {γ : Type} {reference : γ → Uuid} {child : γ},
      reference child ∈ store.connections.map DatabaseConnection.id →
      (∀ c ∈ store.connections, c.id = reference child → p c = false) →
      hasParent (fun row => some (reference row)) DatabaseConnection.id
        (store.connections.filter (fun c => !p c)) child = true := by
    intro γ reference child hexists hnot
    refine hasParent_of_kept hspared (fun k hk => Option.some.inj hk ▸ hexists)
      (fun k hk c hc hid => ?_)
    rw [hnot c hc (hid.trans (Option.some.inj hk).symm)]
    rfl
  have hschemasKept : remaining.cascade.schemas.filter selection.schemas =
      store.schemas.filter selection.schemas :=
    filter_filter_of_agree rfl (fun s hs hsel =>
      hparent (href.schemas_connection s hs _ rfl) (hschemas s hs hsel))
  have htablesKept : remaining.cascade.tables.filter selection.tables =
      store.tables.filter selection.tables := by
    refine filter_filter_of_agree (filter_filter_of_agree rfl fun d hd hsel => ?_) ?_
    · exact hparent (href.tables_connection d hd _ rfl) (htables d hd hsel)
    · intro d hd hsel
      refine hasParent_of_kept hschemasKept (href.tables_schema d hd) (fun k hk s hs hid => ?_)
      exact hclosed.tables_schema d hd hsel s hs (hid.trans (Option.some.inj hk).symm)
  have hcolumnsKept : remaining.cascade.columns.filter selection.columns =
      store.columns.filter selection.columns := by
    refine filter_filter_of_agree rfl (fun c hc hsel => ?_)
    refine hasParent_of_kept htablesKept (href.columns_table c hc) (fun k hk d hd hid => ?_)
    exact hclosed.columns_table c hc hsel d hd (hid.trans (Option.some.inj hk).symm)
  have hpermissionsKept : remaining.cascade.table_permissions.filter selection.table_permissions =
      store.table_permissions.filter selection.table_permissions := by
    refine filter_filter_of_agree (filter_filter_of_agree (filter_filter_of_agree
      (filter_filter_of_agree rfl ?_) ?_) ?_) ?_
    · exact fun p hp _ => hasParent_of_same rfl (href.permissions_role p hp)
    · exact fun p hp _ => hasParent_of_same rfl (href.permissions_user p hp)
    · exact fun p hp hsel => hparent (href.permissions_connection p hp _ rfl) (hpermissions p hp hsel)
    · intro p hp hsel
      refine hasParent_of_kept htablesKept (href.permissions_table p hp) (fun k hk d hd hid => ?_)
      exact hclosed.permissions_table p hp hsel d hd (hid.trans (Option.some.inj hk).symm)
  refine ⟨rfl, rfl, ?_, rfl, hschemasKept, htablesKept, hcolumnsKept, hpermissionsKept, ?_⟩
  · show (store.user_roles.filter _).filter _ = store.user_roles
    rw [List.filter_filter, List.filter_eq_self]
    intro r hr
    rw [Bool.and_eq_true]
    exact ⟨hasParent_of_same rfl (href.user_roles_role r hr),
      hasParent_of_same rfl (href.user_roles_user r hr)⟩
  · refine filter_filter_of_agree (filter_filter_of_agree rfl ?_) ?_
    · intro c hc hsel
      refine hasParent_of_kept hpermissionsKept (href.column_permissions_permission c hc) ?_
      intro k hk p hp hid
      exact hclosed.column_permissions_permission c hc hsel p hp
        (hid.trans (Option.some.inj hk).symm)
    · intro c hc hsel
      refine hasParent_of_kept hcolumnsKept (href.column_permissions_column c hc) ?_
      intro k hk column hcolumn hid
      exact hclosed.column_permissions_column c hc hsel column hcolumn
        (hid.trans (Option.some.inj hk).symm)

/-- Tables with the same selected rows have the same rows of a narrower selection. -/
theorem filter_eq_of_narrower {ρ : Type} {p q : ρ → Bool} {rows rows' : List ρ}
    (h : rows'.filter p = rows.filter p) (hq : ∀ row, q row = true → p row = true) :
    rows'.filter q = rows.filter q := by
  have hnarrow : ∀ all : List ρ, all.filter q = (all.filter p).filter q := by
    intro all
    rw [List.filter_filter]
    refine List.filter_congr (fun row _ => ?_)
    cases hcase : q row with
    | false => rfl
    | true => rw [hq row hcase, Bool.and_self]
  rw [hnarrow rows', hnarrow rows, h]

/-! ## The rows of a tenant -/

section Tenant

variable {tenantId : Uuid} {t t' t'' : Tables}

theorem Tables.Agree.trans (h : t.Agree tenantId t') (h' : t'.Agree tenantId t'') :
    t.Agree tenantId t'' where
  users := List.Perm.trans h.users h'.users
  roles := List.Perm.trans h.roles h'.roles
  user_roles := List.Perm.trans h.user_roles h'.user_roles
  connections := List.Perm.trans h.connections h'.connections
  schemas := List.Perm.trans h.schemas h'.schemas
  tables := List.Perm.trans h.tables h'.tables
  columns := List.Perm.trans h.columns h'.columns
  table_permissions := List.Perm.trans h.table_permissions h'.table_permissions
  column_permissions := List.Perm.trans h.column_permissions h'.column_permissions

/-- An update that concerns no selected row. -/
theorem filter_map_of_not {ρ : Type} {p : ρ → Bool} {f : ρ → ρ} {rows : List ρ}
    (hsame : ∀ row ∈ rows, p (f row) = p row) (hnot : ∀ row ∈ rows, p row = true → f row = row) :
    (rows.map f).filter p = rows.filter p := by
  rw [List.filter_map]
  have hfilter : rows.filter (p ∘ f) = rows.filter p := List.filter_congr hsame
  rw [hfilter]
  refine (List.map_congr_left (fun row hrow => ?_)).trans (List.map_id _)
  obtain ⟨hmem, hp⟩ := List.mem_filter.mp hrow
  exact hnot row hmem hp

theorem saveSyncStatus_agrees {id : Uuid} (status : String) (synchronizedAt : Option Datetime)
    (hother : ∀ c ∈ store.connections, c.id = id → c.tenant_id ≠ tenantId) :
    store.toTables.Agree tenantId (store.saveSyncStatus id status synchronizedAt).toTables := by
  refine { Tables.Agree.refl tenantId store.toTables with
    connections := SameRows.of_eq (filter_map_of_not (fun c _ => ?_) (fun c hc hown => ?_)) }
  · split <;> rfl
  · exact if_neg (fun hid => hother c hc hid (of_decide_eq_true hown))

theorem createConnection_agrees {store' : Store} {connection : DatabaseConnection} {generated : Nat}
    (hother : connection.tenant_id ≠ tenantId)
    (htables : store'.toTables = { store.toTables with
      connections := store.connections ++ [connection], generated := generated }) :
    store.toTables.Agree tenantId store'.toTables := by
  rw [htables]
  refine { Tables.Agree.refl tenantId store.toTables with
    connections := SameRows.of_eq (filter_append_of_not (fun c hc => ?_)) }
  rw [List.mem_singleton.mp hc]
  exact decide_eq_false hother

theorem deleteConnections_agrees (h : Separate store.toTables) {p : DatabaseConnection → Bool}
    (hother : ∀ c ∈ store.connections, p c = true → c.tenant_id ≠ tenantId) :
    store.toTables.Agree tenantId (store.deleteConnections p).toTables := by
  have hspared : ∀ c ∈ store.connections, c.tenant_id = tenantId → p c = false := by
    intro c hc htenant
    by_contra hdeleted
    exact hother c hc (by simpa using hdeleted) htenant
  have hclosed : (ownedBy store.toTables tenantId).Closed store.toTables := ownedBy_closed h
  have hkeeps := deleteConnections_keeps hclosed (p := p)
    (fun s hs hsel c hc hid => hspared c hc
      ((h.schemas_connection s hs _ rfl c hc hid).trans (of_decide_eq_true hsel)))
    (fun d hd hsel c hc hid => hspared c hc
      ((h.tables_connection d hd _ rfl c hc hid).trans (of_decide_eq_true hsel)))
    (fun permission hpermission hsel c hc hid => hspared c hc
      ((h.permissions_connection permission hpermission _ rfl c hc hid).trans
        (of_decide_eq_true hsel)))
  have hagree := agree_of_keeps hkeeps
  refine { hagree with
    connections := SameRows.of_eq (filter_filter_of_agree rfl (fun c hc hown => ?_)) }
  rw [hspared c hc (of_decide_eq_true hown)]
  rfl

theorem synchronize_agrees {newUuid : Nat → Uuid} {currentUser : User} (now : Datetime)
    (connectionId : Uuid) (source : Except SourceFailure SchemaDiscoveryResult)
    (hseparate : Separate store.toTables) (hother : currentUser.tenant_id ≠ tenantId) :
    store.toTables.Agree tenantId
      (synchronizeDatabaseSchema newUuid now store currentUser connectionId source).1.toTables := by
  have hown : ∀ connection ∈ store.connections, connection.tenant_id = currentUser.tenant_id →
      ∀ c ∈ store.connections, c.id = connection.id → c.tenant_id ≠ tenantId := by
    intro connection hconnection htenant c hc hid
    rw [store.keys.connections.eq_of_key hc hconnection hid, htenant]
    exact hother
  have hown' : ∀ connection ∈ store.connections, connection.tenant_id = currentUser.tenant_id →
      ∀ c ∈ (store.saveSyncStatus connection.id "processing" none).connections,
        c.id = connection.id → c.tenant_id ≠ tenantId := by
    intro connection hconnection htenant c hc hid
    obtain ⟨original, horiginal, hsameId, hsameTenant⟩ := saveSyncStatus_mem hc
    rw [← hsameTenant]
    exact hown connection hconnection htenant original horiginal (hsameId.trans hid)
  refine synchronize_cases (P := fun store' => store.toTables.Agree tenantId store'.toTables) now
    connectionId source (Tables.Agree.refl _ _) (fun connection hmem _ htenant => ?_)
    (fun connection hmem _ htenant discovery caching hcaching => ?_)
  · have hprocessing := saveSyncStatus_agrees "processing" none (hown connection hmem htenant)
    exact ⟨hprocessing, hprocessing.trans
      (saveSyncStatus_agrees "failed" none (hown' connection hmem htenant))⟩
  · have hprocessing := saveSyncStatus_agrees "processing" none (hown connection hmem htenant)
    have hkeeps := cache_keeps
      (ownedBy_closed (separate_saveSyncStatus hseparate connection.id "processing" none))
      (ownedBy_avoids _ (Ne.symm hother) connection.id) (fun c hc _ => ?_) hcaching
    · refine (hprocessing.trans (agree_of_keeps hkeeps)).trans (saveSyncStatus_agrees _ _ ?_)
      rw [cache_connections hcaching]
      exact hown' connection hmem htenant
    · rw [← hc] at hother
      exact decide_eq_false hother

/-- Only an administrator of the tenant changes its rows. -/
theorem handle_agrees {newUuid : Nat → Uuid} {currentUser : User} (request : AccessRequest)
    (hseparate : Separate store.toTables)
    (hother : currentUser.is_tenant_admin = true → currentUser.tenant_id ≠ tenantId) :
    store.toTables.Agree tenantId (handle newUuid store currentUser request).toTables := by
  refine handle_cases (P := fun store' => store.toTables.Agree tenantId store'.toTables) request
    (Tables.Agree.refl _ _) ?_ ?_ ?_ ?_ ?_
  · intro databaseType id stored hadmin htables
    exact createConnection_agrees (hother hadmin) htables
  · intro connection hmem _ htenant hadmin
    refine saveSyncStatus_agrees _ _ (fun c hc hid => ?_)
    rw [store.keys.connections.eq_of_key hc hmem hid, htenant]
    exact hother hadmin
  · intro connection hmem _ htenant hadmin
    refine deleteConnections_agrees hseparate (fun c hc hid => ?_)
    rw [store.keys.connections.eq_of_key hc hmem (of_decide_eq_true hid), htenant]
    exact hother hadmin
  · intro now connectionId source _ hadmin
    exact synchronize_agrees now connectionId source hseparate (hother hadmin)
  · intro creation response stored _ hcreate hadmin
    have hagree : store.toTables.Agree tenantId
        (storedAfter store (createPermission newUuid store currentUser creation)).toTables :=
      createPermission_agrees (Ne.symm (hother hadmin)) creation
    rw [hcreate] at hagree
    exact hagree

end Tenant

/-! ## The rows of a connection -/

section Connection

variable {connectionId : Uuid} {t t' t'' : Tables}

/-- The rows of a connection. -/
def below (t : Tables) (connectionId : Uuid) : Selection where
  schemas s := s.connection_id = connectionId
  tables d := d.connection_id = connectionId
  columns c := c.table_id ∈
    (t.tables.filter (fun d => d.connection_id = connectionId)).map DatabaseTable.id
  table_permissions p := p.connection_id = connectionId
  column_permissions c := c.table_permission_id ∈
    (t.table_permissions.filter (fun p => p.connection_id = connectionId)).map TablePermission.id

theorem mem_ids_below {ρ : Type} {key connection : ρ → Uuid} {rows : List ρ} {id : Uuid} :
    id ∈ (rows.filter (fun row => connection row = connectionId)).map key ↔
      ∃ row ∈ rows, connection row = connectionId ∧ key row = id := by
  simp only [List.mem_map, List.mem_filter, decide_eq_true_eq, and_assoc]

/-- The parents of the rows of a connection are on the connection. -/
theorem below_closed (h : Consistent store.toTables) :
    (below store.toTables connectionId).Closed store.toTables where
  tables_schema := by
    intro d hd hsel s hs hid
    exact decide_eq_true ((h.tables_schema d hd s hs hid).2.trans (of_decide_eq_true hsel))
  columns_table := by
    intro c hc hsel d hd hid
    obtain ⟨other, hother, hon, hotherId⟩ := mem_ids_below.mp (of_decide_eq_true hsel)
    rw [store.keys.tables.eq_of_key hd hother (hid.trans hotherId.symm)]
    exact decide_eq_true hon
  permissions_table := by
    intro p hp hsel d hd hid
    exact decide_eq_true ((h.permissions_table p hp d hd hid).2.trans (of_decide_eq_true hsel))
  column_permissions_permission := by
    intro c hc hsel p hp hid
    obtain ⟨other, hother, hon, hotherId⟩ := mem_ids_below.mp (of_decide_eq_true hsel)
    rw [store.keys.table_permissions.eq_of_key hp hother (hid.trans hotherId.symm)]
    exact decide_eq_true hon
  column_permissions_column := by
    intro c hc hsel column hcolumn hid
    obtain ⟨p, hp, hon, hpid⟩ := mem_ids_below.mp (of_decide_eq_true hsel)
    obtain ⟨d, hd, hdid⟩ := List.mem_map.mp (store.references.permissions_table p hp p.table_id rfl)
    have htable := h.columns_permission c hc p hp hpid column hcolumn hid
    refine decide_eq_true (mem_ids_below.mpr ⟨d, hd, ?_, hdid.trans htable.symm⟩)
    exact (h.permissions_table p hp d hd hdid).2.trans hon

/-- The accounts and the rows of the connection are the same. -/
structure SameConnection (connectionId : Uuid) (t t' : Tables) : Prop where
  rows : Keeps (below t connectionId) t { t' with connections := t.connections }
  connections : t'.connections.filter (fun c => c.id = connectionId) =
    t.connections.filter (fun c => c.id = connectionId)

theorem SameConnection.refl (connectionId : Uuid) (t : Tables) : SameConnection connectionId t t :=
  ⟨Keeps.refl _ _, rfl⟩

theorem SameConnection.below_eq (h : SameConnection connectionId t t') :
    below t' connectionId = below t connectionId := by
  have htables := h.rows.tables
  have hpermissions := h.rows.table_permissions
  simp only [below] at htables hpermissions ⊢
  rw [htables, hpermissions]

theorem SameConnection.trans (h : SameConnection connectionId t t')
    (h' : SameConnection connectionId t' t'') : SameConnection connectionId t t'' := by
  have hrows' := h'.rows
  rw [h.below_eq] at hrows'
  have hrows := h.rows
  exact ⟨⟨hrows'.users.trans hrows.users, hrows'.roles.trans hrows.roles,
    hrows'.user_roles.trans hrows.user_roles, rfl, hrows'.schemas.trans hrows.schemas,
    hrows'.tables.trans hrows.tables, hrows'.columns.trans hrows.columns,
    hrows'.table_permissions.trans hrows.table_permissions,
    hrows'.column_permissions.trans hrows.column_permissions⟩,
    h'.connections.trans h.connections⟩

theorem SameConnection.symm (h : SameConnection connectionId t t') :
    SameConnection connectionId t' t := by
  have hrows := h.rows
  refine ⟨?_, h.connections.symm⟩
  rw [h.below_eq]
  exact ⟨hrows.users.symm, hrows.roles.symm, hrows.user_roles.symm, rfl, hrows.schemas.symm,
    hrows.tables.symm, hrows.columns.symm, hrows.table_permissions.symm,
    hrows.column_permissions.symm⟩

theorem SameConnection.exists (h : SameConnection connectionId t t')
    (hexists : connectionId ∈ t.connections.map DatabaseConnection.id) :
    connectionId ∈ t'.connections.map DatabaseConnection.id := by
  obtain ⟨connection, hmem, hid⟩ := List.mem_map.mp hexists
  have hrows := SameRows.of_eq h.connections
  exact List.mem_map.mpr ⟨connection, (hrows.mem hmem (decide_eq_true hid)).1, hid⟩

theorem saveSyncStatus_sameConnection (store : Store) {id : Uuid} (status : String)
    (synchronizedAt : Option Datetime) (hother : id ≠ connectionId) :
    SameConnection connectionId store.toTables
      (store.saveSyncStatus id status synchronizedAt).toTables := by
  refine ⟨Keeps.refl _ _, filter_map_of_not (fun c _ => ?_) (fun c _ hid => ?_)⟩
  · split <;> rfl
  · exact if_neg (fun hid' => hother (hid'.symm.trans (of_decide_eq_true hid)))

theorem synchronize_sameConnection {newUuid : Nat → Uuid} {currentUser : User} (now : Datetime)
    {other : Uuid} (source : Except SourceFailure SchemaDiscoveryResult)
    (hconsistent : Consistent store.toTables) (hother : other ≠ connectionId) :
    SameConnection connectionId store.toTables
      (synchronizeDatabaseSchema newUuid now store currentUser other source).1.toTables := by
  refine synchronize_cases
    (P := fun store' => SameConnection connectionId store.toTables store'.toTables) now other
    source (SameConnection.refl _ _) (fun connection _ hid _ => ?_)
    (fun connection _ hid _ discovery caching hcaching => ?_)
  · rw [← hid] at hother
    have hprocessing := saveSyncStatus_sameConnection store "processing" none hother
    exact ⟨hprocessing, hprocessing.trans (saveSyncStatus_sameConnection _ "failed" none hother)⟩
  · rw [← hid] at hother
    have hprocessing := saveSyncStatus_sameConnection store "processing" none hother
    have hconsistent' : Consistent
        (store.saveSyncStatus connection.id "processing" none).toTables :=
      ⟨hconsistent.tables_schema, hconsistent.columns_table, hconsistent.permissions_table,
        hconsistent.columns_permission⟩
    have hclosed : (below store.toTables connectionId).Closed
        (store.saveSyncStatus connection.id "processing" none).toTables := below_closed hconsistent'
    have hkeeps := cache_keeps hclosed
      ⟨fun s hs => decide_eq_false (fun hof => hother (hof.2.symm.trans (of_decide_eq_true hs))),
        fun d hd => decide_eq_false (fun hof => hother (hof.2.symm.trans (of_decide_eq_true hd)))⟩
      (fun c _ hnone => decide_eq_false (fun hmem => ?_)) hcaching
    · have hcached : SameConnection connectionId
          (store.saveSyncStatus connection.id "processing" none).toTables
          caching.store.toTables :=
        ⟨{ hkeeps with connections := rfl }, by rw [cache_connections hcaching]⟩
      exact (hprocessing.trans hcached).trans (saveSyncStatus_sameConnection _ _ _ hother)
    · obtain ⟨d, hd, hon, hdid⟩ := mem_ids_below.mp hmem
      exact hnone d hd (decide_eq_true hon) hdid

theorem createPermission_sameConnection {newUuid : Nat → Uuid} {currentUser : User}
    {store' : Store} {creation : TablePermissionCreate} {response : TablePermissionResponse}
    (hcreate : createPermission newUuid store currentUser creation = .ok (store', response))
    (hother : creation.connection_id ≠ connectionId) :
    SameConnection connectionId store.toTables store'.toTables := by
  have hcreated := (createPermission_ok hcreate).2.2
  obtain ⟨hpermission, -, hparent⟩ := createTablePermission_ok hcreated
  have hkey := store'.keys.table_permissions
  rw [createTablePermission_tables hcreated] at hkey ⊢
  refine ⟨{ Keeps.refl _ store.toTables with
    table_permissions := filter_append_of_not (fun p hp => ?_)
    column_permissions := filter_append_of_not (fun c hc => ?_) }, rfl⟩
  · rw [List.mem_singleton.mp hp, hpermission]
    exact decide_eq_false hother
  · refine decide_eq_false (fun hmem => ?_)
    obtain ⟨p, hp, -, hid⟩ := mem_ids_below.mp hmem
    apply PrimaryKey.fresh hkey
    rw [← hparent c hc, ← hid]
    exact List.mem_map_of_mem hp

/-- A request about one connection leaves the rows of another alone. -/
theorem handle_sameConnection {newUuid : Nat → Uuid} {currentUser : User}
    (request : AccessRequest) (hconsistent : Consistent store.toTables)
    (hexists : connectionId ∈ store.connections.map DatabaseConnection.id)
    (hother : request.connection ≠ some connectionId) :
    SameConnection connectionId store.toTables
      (handle newUuid store currentUser request).toTables := by
  refine handle_cases
    (P := fun store' => SameConnection connectionId store.toTables store'.toTables) request
    (SameConnection.refl _ _) ?_ ?_ ?_ ?_ ?_
  · intro databaseType id stored _ htables
    have hkey := stored.keys.connections
    rw [htables] at hkey ⊢
    refine ⟨⟨rfl, rfl, rfl, rfl, rfl, rfl, rfl, rfl, rfl⟩,
      filter_append_of_not (fun c hc => ?_)⟩
    refine decide_eq_false (fun hid => PrimaryKey.fresh hkey ?_)
    rw [← List.mem_singleton.mp hc, hid]
    exact hexists
  · rintro connection - rfl - -
    exact saveSyncStatus_sameConnection _ _ _ (fun hid => hother (congrArg some hid))
  · rintro connection - rfl - -
    have hspared : ∀ id : Uuid, id = connectionId → ∀ c ∈ store.connections, c.id = id →
        decide (c.id = connection.id) = false := by
      rintro _ rfl c _ rfl
      exact decide_eq_false (fun hid => hother (congrArg some hid.symm))
    refine ⟨deleteConnections_keeps (below_closed hconsistent)
      (fun s _ hsel => hspared _ (of_decide_eq_true hsel))
      (fun d _ hsel => hspared _ (of_decide_eq_true hsel))
      (fun p _ hsel => hspared _ (of_decide_eq_true hsel)), ?_⟩
    refine filter_filter_of_agree rfl (fun c hc hid => ?_)
    simpa using hspared _ (of_decide_eq_true hid) c hc rfl
  · rintro now other source rfl -
    exact synchronize_sameConnection now source hconsistent
      (fun hid => hother (congrArg some hid))
  · rintro creation response stored rfl hcreate -
    exact createPermission_sameConnection hcreate (fun hid => hother (congrArg some hid))

end Connection

end DataChat.Platform
