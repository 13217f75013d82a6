import DataChat.Library.SameRows
import DataChat.Platform.CacheSession
import DataChat.Platform.Selections

/-!
# The rows of a tenant

Most rows name their tenant. A role assignment belongs to the tenant of its user, and a column
permission to that of its table permission.

* `createPermission_agrees`: a permission that an administrator creates changes no row of another
  tenant.
* `cache_agrees`: nor does a call that writes the cache, when no foreign key crosses tenants.
-/

namespace DataChat.Platform

open Relational Outcome Transactions

/-! ## Ownership -/

/-- The user of the assignment belongs to the tenant. -/
def UserRole.isOf (users : List User) (tenantId : Uuid) (row : UserRole) : Bool :=
  decide (∃ user ∈ users, user.id = row.user_id ∧ user.tenant_id = tenantId)

/-- The table permission belongs to the tenant. -/
def ColumnPermission.isOf (permissions : List TablePermission) (tenantId : Uuid)
    (row : ColumnPermission) : Bool :=
  decide (∃ permission ∈ permissions,
    permission.id = row.table_permission_id ∧ permission.tenant_id = tenantId)

/-- The same rows of one tenant. -/
def SameOf {ρ : Type} (owner : ρ → Uuid) (tenantId : Uuid) (rows rows' : List ρ) : Prop :=
  SameRows (fun row => owner row = tenantId) (fun row => owner row = tenantId) rows rows'

/-- The tenant has the same rows. -/
structure Tables.Agree (tenantId : Uuid) (t t' : Tables) : Prop where
  users : SameOf User.tenant_id tenantId t.users t'.users
  roles : SameOf Role.tenant_id tenantId t.roles t'.roles
  user_roles : SameRows (UserRole.isOf t.users tenantId) (UserRole.isOf t'.users tenantId)
    t.user_roles t'.user_roles
  connections : SameOf DatabaseConnection.tenant_id tenantId t.connections t'.connections
  schemas : SameOf DatabaseSchema.tenant_id tenantId t.schemas t'.schemas
  tables : SameOf DatabaseTable.tenant_id tenantId t.tables t'.tables
  columns : SameOf DatabaseColumn.tenant_id tenantId t.columns t'.columns
  table_permissions :
    SameOf TablePermission.tenant_id tenantId t.table_permissions t'.table_permissions
  column_permissions : SameRows (ColumnPermission.isOf t.table_permissions tenantId)
    (ColumnPermission.isOf t'.table_permissions tenantId)
    t.column_permissions t'.column_permissions

/-- The rows of a reference belong to one tenant. -/
def WithinTenant {γ ρ : Type} (owner : γ → Uuid) (reference : γ → Option Uuid)
    (children : List γ) (owner' : ρ → Uuid) (key : ρ → Uuid) (parents : List ρ) : Prop :=
  ∀ child ∈ children, ∀ k ∈ reference child, ∀ parent ∈ parents, key parent = k →
    owner' parent = owner child

/-- No foreign key crosses tenants. -/
structure Separate (t : Tables) : Prop where
  user_roles : ∀ row ∈ t.user_roles, ∀ user ∈ t.users, user.id = row.user_id →
    ∀ role ∈ t.roles, role.id = row.role_id → role.tenant_id = user.tenant_id
  schemas_connection : WithinTenant DatabaseSchema.tenant_id (fun s => some s.connection_id)
    t.schemas DatabaseConnection.tenant_id DatabaseConnection.id t.connections
  tables_connection : WithinTenant DatabaseTable.tenant_id (fun d => some d.connection_id)
    t.tables DatabaseConnection.tenant_id DatabaseConnection.id t.connections
  tables_schema : WithinTenant DatabaseTable.tenant_id (fun d => some d.schema_id)
    t.tables DatabaseSchema.tenant_id DatabaseSchema.id t.schemas
  columns_table : WithinTenant DatabaseColumn.tenant_id (fun c => some c.table_id)
    t.columns DatabaseTable.tenant_id DatabaseTable.id t.tables
  permissions_role : WithinTenant TablePermission.tenant_id TablePermission.role_id
    t.table_permissions Role.tenant_id Role.id t.roles
  permissions_user : WithinTenant TablePermission.tenant_id TablePermission.user_id
    t.table_permissions User.tenant_id User.id t.users
  permissions_connection : WithinTenant TablePermission.tenant_id (fun p => some p.connection_id)
    t.table_permissions DatabaseConnection.tenant_id DatabaseConnection.id t.connections
  permissions_table : WithinTenant TablePermission.tenant_id (fun p => some p.table_id)
    t.table_permissions DatabaseTable.tenant_id DatabaseTable.id t.tables
  column_permissions : ∀ row ∈ t.column_permissions, ∀ permission ∈ t.table_permissions,
    permission.id = row.table_permission_id → ∀ column ∈ t.columns, column.id = row.column_id →
      column.tenant_id = permission.tenant_id

variable {tenantId other : Uuid} {store store' : Store} {newUuid : Nat → Uuid}

theorem SameOf.refl {ρ : Type} (owner : ρ → Uuid) (tenantId : Uuid) (rows : List ρ) :
    SameOf owner tenantId rows rows :=
  SameRows.refl _ rows

theorem Tables.Agree.refl (tenantId : Uuid) (t : Tables) : t.Agree tenantId t where
  users := SameOf.refl _ _ _
  roles := SameOf.refl _ _ _
  user_roles := SameRows.refl _ _
  connections := SameOf.refl _ _ _
  schemas := SameOf.refl _ _ _
  tables := SameOf.refl _ _ _
  columns := SameOf.refl _ _ _
  table_permissions := SameOf.refl _ _ _
  column_permissions := SameRows.refl _ _

theorem Tables.Agree.symm {t t' : Tables} (h : t.Agree tenantId t') : t'.Agree tenantId t where
  users := SameRows.symm h.users
  roles := SameRows.symm h.roles
  user_roles := SameRows.symm h.user_roles
  connections := SameRows.symm h.connections
  schemas := SameRows.symm h.schemas
  tables := SameRows.symm h.tables
  columns := SameRows.symm h.columns
  table_permissions := SameRows.symm h.table_permissions
  column_permissions := SameRows.symm h.column_permissions

theorem UserRole.isOf_iff {users : List User} {row : UserRole} :
    row.isOf users tenantId = true ↔
      ∃ user ∈ users, user.id = row.user_id ∧ user.tenant_id = tenantId :=
  decide_eq_true_iff

theorem ColumnPermission.isOf_iff {permissions : List TablePermission} {row : ColumnPermission} :
    row.isOf permissions tenantId = true ↔ ∃ permission ∈ permissions,
      permission.id = row.table_permission_id ∧ permission.tenant_id = tenantId :=
  decide_eq_true_iff

/-- Whose column permission it is does not depend on the permissions of other tenants. -/
theorem ColumnPermission.isOf_congr {permissions permissions' : List TablePermission}
    (h : SameOf TablePermission.tenant_id tenantId permissions permissions') :
    ColumnPermission.isOf permissions tenantId = ColumnPermission.isOf permissions' tenantId := by
  have himp : ∀ {first second : List TablePermission},
      SameOf TablePermission.tenant_id tenantId first second → ∀ row : ColumnPermission,
        row.isOf first tenantId = true → row.isOf second tenantId = true := by
    intro first second hsame row hrow
    obtain ⟨permission, hmem, hid, htenant⟩ := isOf_iff.mp hrow
    have hmem' := (SameRows.mem hsame hmem (decide_eq_true htenant)).1
    exact isOf_iff.mpr ⟨permission, hmem', hid, htenant⟩
  funext row
  rw [Bool.eq_iff_iff]
  exact ⟨himp h row, himp (SameRows.symm h) row⟩

/-! ## Creating a permission -/

/-- What is stored after a call that commits when it returns. -/
def storedAfter {α : Type} (store : Store) : Service (Store × α) → Store
  | .ok (store', _) => store'
  | .error _ => store

/-- A permission that an administrator creates changes no row of another tenant. -/
theorem createPermission_agrees {currentUser : User} (hother : other ≠ currentUser.tenant_id)
    (request : TablePermissionCreate) :
    store.toTables.Agree other
      (storedAfter store (createPermission newUuid store currentUser request)).toTables := by
  cases hrun : createPermission newUuid store currentUser request with
  | error raised => exact Tables.Agree.refl other store.toTables
  | ok result =>
    obtain ⟨after, response⟩ := result
    have hcreate := (createPermission_ok hrun).2.2
    obtain ⟨hpermission, -, hparent⟩ := createTablePermission_ok hcreate
    have htenant : response.permission.tenant_id = currentUser.tenant_id := by rw [hpermission]
    have hkey := after.keys.table_permissions
    have htables := createTablePermission_tables hcreate
    show store.toTables.Agree other after.toTables
    rw [htables] at hkey ⊢
    dsimp only at hkey
    have hpermissions : SameOf TablePermission.tenant_id other store.table_permissions
        (store.table_permissions ++ [response.permission]) := by
      refine SameRows.of_eq (filter_append_of_not (fun row hrow => ?_))
      rw [List.mem_singleton.mp hrow, htenant]
      exact decide_eq_false hother.symm
    refine { Tables.Agree.refl other store.toTables with
      table_permissions := hpermissions, column_permissions := ?_ }
    dsimp only
    rw [ColumnPermission.isOf_congr hpermissions]
    refine SameRows.of_eq (filter_append_of_not (fun row hrow => ?_))
    rw [Bool.eq_false_iff]
    intro howned
    -- the only permission with this identifier is the new one
    obtain ⟨permission, hmem, hid, hpermissionTenant⟩ := ColumnPermission.isOf_iff.mp howned
    have hnew : response.permission ∈ store.table_permissions ++ [response.permission] := by simp
    have hsame := hkey.eq_of_key hmem hnew (hid.trans (hparent row hrow))
    rw [hsame, htenant] at hpermissionTenant
    exact hother hpermissionTenant.symm

/-! ## Writing the cache -/

/-- The rows of a tenant, as a selection. -/
def ownedBy (t : Tables) (tenantId : Uuid) : Selection where
  schemas s := s.tenant_id = tenantId
  tables d := d.tenant_id = tenantId
  columns c := c.tenant_id = tenantId
  table_permissions p := p.tenant_id = tenantId
  column_permissions := ColumnPermission.isOf t.table_permissions tenantId

/-- The parents of the rows of a tenant are the tenant's. -/
theorem ownedBy_closed (h : Separate store.toTables) :
    (ownedBy store.toTables tenantId).Closed store.toTables where
  tables_schema := by
    intro d hd hsel s hs hid
    have hsame := h.tables_schema d hd d.schema_id rfl s hs hid
    exact decide_eq_true (hsame.trans (of_decide_eq_true hsel))
  columns_table := by
    intro c hc hsel d hd hid
    have hsame := h.columns_table c hc c.table_id rfl d hd hid
    exact decide_eq_true (hsame.trans (of_decide_eq_true hsel))
  permissions_table := by
    intro p hp hsel d hd hid
    have hsame := h.permissions_table p hp p.table_id rfl d hd hid
    exact decide_eq_true (hsame.trans (of_decide_eq_true hsel))
  column_permissions_permission := by
    intro c hc hsel p hp hid
    obtain ⟨permission, hmem, hpermissionId, htenant⟩ := ColumnPermission.isOf_iff.mp hsel
    have hsame := store.keys.table_permissions.eq_of_key hp hmem (hid.trans hpermissionId.symm)
    rw [hsame]
    exact decide_eq_true htenant
  column_permissions_column := by
    intro c hc hsel column hcolumn hid
    obtain ⟨permission, hmem, hpermissionId, htenant⟩ := ColumnPermission.isOf_iff.mp hsel
    have hsame := h.column_permissions c hc permission hmem hpermissionId column hcolumn hid
    exact decide_eq_true (hsame.trans htenant)

theorem ownedBy_avoids (t : Tables) (hother : other ≠ tenantId) (connectionId : Uuid) :
    (ownedBy t other).Avoids tenantId connectionId where
  schemas := by
    intro s hs
    exact decide_eq_false (fun hof => hother ((of_decide_eq_true hs).symm.trans hof.1))
  tables := by
    intro d hd
    exact decide_eq_false (fun hof => hother ((of_decide_eq_true hd).symm.trans hof.1))

theorem agree_of_keeps {t t' : Tables} (h : Keeps (ownedBy t tenantId) t t') :
    t.Agree tenantId t' where
  users := by rw [h.users]; exact SameOf.refl _ _ _
  roles := by rw [h.roles]; exact SameOf.refl _ _ _
  user_roles := by rw [h.user_roles, h.users]; exact SameRows.refl _ _
  connections := by rw [h.connections]; exact SameOf.refl _ _ _
  schemas := SameRows.of_eq h.schemas
  tables := SameRows.of_eq h.tables
  columns := SameRows.of_eq h.columns
  table_permissions := SameRows.of_eq h.table_permissions
  column_permissions := by
    rw [← ColumnPermission.isOf_congr (SameRows.of_eq h.table_permissions)]
    exact SameRows.of_eq h.column_permissions

/-- A call that writes the cache of a tenant changes no row of another tenant. -/
theorem cache_agrees (h : Separate store.toTables) (hother : other ≠ tenantId)
    (disturbed : Disturbed) (connectionId : Uuid) (discovery : SchemaDiscoveryResult) :
    store.toTables.Agree other
      (call (cacheInSession disturbed newUuid tenantId connectionId discovery) store).2.toTables := by
  rcases hrun : call (cacheInSession disturbed newUuid tenantId connectionId discovery) store with
    ⟨outcome, stored⟩
  obtain ⟨houtcome, rfl⟩ := Prod.mk.inj hrun
  cases outcome with
  | error raised =>
    have hcommitted := (cacheInSession_error (Prod.ext houtcome rfl)).1
    dsimp only at hcommitted ⊢
    rw [hcommitted]
    exact Tables.Agree.refl other store.toTables
  | ok counts =>
    obtain ⟨caching, hcache, -, hsession⟩ := cacheInSession_ok (Prod.ext houtcome rfl)
    have hcommitted := congrArg Session.committed hsession
    dsimp only at hcommitted ⊢
    rw [hcommitted]
    refine agree_of_keeps (cache_keeps (ownedBy_closed h) (ownedBy_avoids _ hother connectionId)
      (fun c hc _ => ?_) hcache)
    rw [← hc] at hother
    exact decide_eq_false hother.symm

end DataChat.Platform
