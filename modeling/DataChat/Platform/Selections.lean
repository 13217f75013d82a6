import DataChat.Platform.Consistency

/-!
# Rows that an operation leaves alone

A selection names rows of the cached metadata and of the permissions. When the parents of its rows
belong to it as well, a deletion that spares it leaves it alone, cascades included.

* `delete_keeps`: the deletion of rows outside of a selection.
* `clear_keeps`, `cache_keeps`: clearing and writing the cache of a connection.
-/

namespace DataChat.Platform

open Relational Outcome

/-- Rows of the cached metadata and of the permissions. -/
structure Selection where
  schemas : DatabaseSchema → Bool
  tables : DatabaseTable → Bool
  columns : DatabaseColumn → Bool
  table_permissions : TablePermission → Bool
  column_permissions : ColumnPermission → Bool

/-- The parents of selected rows are selected. -/
structure Selection.Closed (selection : Selection) (t : Tables) : Prop where
  tables_schema : ∀ d ∈ t.tables, selection.tables d = true →
    ∀ s ∈ t.schemas, s.id = d.schema_id → selection.schemas s = true
  columns_table : ∀ c ∈ t.columns, selection.columns c = true →
    ∀ d ∈ t.tables, d.id = c.table_id → selection.tables d = true
  permissions_table : ∀ p ∈ t.table_permissions, selection.table_permissions p = true →
    ∀ d ∈ t.tables, d.id = p.table_id → selection.tables d = true
  column_permissions_permission :
    ∀ c ∈ t.column_permissions, selection.column_permissions c = true →
      ∀ p ∈ t.table_permissions, p.id = c.table_permission_id →
        selection.table_permissions p = true
  column_permissions_column :
    ∀ c ∈ t.column_permissions, selection.column_permissions c = true →
      ∀ column ∈ t.columns, column.id = c.column_id → selection.columns column = true

/-- The selected rows are the same, and so are the accounts and the connections. -/
structure Keeps (selection : Selection) (t t' : Tables) : Prop where
  users : t'.users = t.users
  roles : t'.roles = t.roles
  user_roles : t'.user_roles = t.user_roles
  connections : t'.connections = t.connections
  schemas : t'.schemas.filter selection.schemas = t.schemas.filter selection.schemas
  tables : t'.tables.filter selection.tables = t.tables.filter selection.tables
  columns : t'.columns.filter selection.columns = t.columns.filter selection.columns
  table_permissions : t'.table_permissions.filter selection.table_permissions =
    t.table_permissions.filter selection.table_permissions
  column_permissions : t'.column_permissions.filter selection.column_permissions =
    t.column_permissions.filter selection.column_permissions

variable {selection : Selection} {t t' t'' : Tables} {store : Store}

theorem Keeps.refl (selection : Selection) (t : Tables) : Keeps selection t t :=
  ⟨rfl, rfl, rfl, rfl, rfl, rfl, rfl, rfl, rfl⟩

theorem Keeps.trans (h : Keeps selection t t') (h' : Keeps selection t' t'') :
    Keeps selection t t'' where
  users := h'.users.trans h.users
  roles := h'.roles.trans h.roles
  user_roles := h'.user_roles.trans h.user_roles
  connections := h'.connections.trans h.connections
  schemas := h'.schemas.trans h.schemas
  tables := h'.tables.trans h.tables
  columns := h'.columns.trans h.columns
  table_permissions := h'.table_permissions.trans h.table_permissions
  column_permissions := h'.column_permissions.trans h.column_permissions

theorem Selection.Closed.sub (h : selection.Closed t) (hsub : t'.Sub t) :
    selection.Closed t' where
  tables_schema := fun d hd hsel s hs =>
    h.tables_schema d (hsub.tables.subset hd) hsel s (hsub.schemas.subset hs)
  columns_table := fun c hc hsel d hd =>
    h.columns_table c (hsub.columns.subset hc) hsel d (hsub.tables.subset hd)
  permissions_table := fun p hp hsel d hd =>
    h.permissions_table p (hsub.table_permissions.subset hp) hsel d (hsub.tables.subset hd)
  column_permissions_permission := fun c hc hsel p hp =>
    h.column_permissions_permission c (hsub.column_permissions.subset hc) hsel p
      (hsub.table_permissions.subset hp)
  column_permissions_column := fun c hc hsel column hcolumn =>
    h.column_permissions_column c (hsub.column_permissions.subset hc) hsel column
      (hsub.columns.subset hcolumn)

/-! ## Deletions -/

/-- The parent of a selected row is still there when the selected parents are. -/
theorem hasParent_of_kept {γ ρ : Type} {reference : γ → Option Uuid} {key : ρ → Uuid}
    {parents parents' : List ρ} {p : ρ → Bool} {child : γ}
    (hkept : parents'.filter p = parents.filter p)
    (hexists : ∀ k ∈ reference child, k ∈ parents.map key)
    (hselected : ∀ k ∈ reference child, ∀ parent ∈ parents, key parent = k → p parent = true) :
    hasParent reference key parents' child = true := by
  apply decide_eq_true
  intro k hk
  obtain ⟨parent, hmem, hkey⟩ := List.mem_map.mp (hexists k hk)
  have hkeptMem : parent ∈ parents'.filter p := by
    rw [hkept]
    exact List.mem_filter.mpr ⟨hmem, hselected k hk parent hmem hkey⟩
  exact List.mem_map.mpr ⟨parent, (List.mem_filter.mp hkeptMem).1, hkey⟩

/-- The parent of a row is still there when no parent is gone. -/
theorem hasParent_of_same {γ ρ : Type} {reference : γ → Option Uuid} {key : ρ → Uuid}
    {parents parents' : List ρ} {child : γ} (hsame : parents' = parents)
    (hexists : ∀ k ∈ reference child, k ∈ parents.map key) :
    hasParent reference key parents' child = true := by
  rw [hsame]
  exact decide_eq_true hexists

/-- A deletion that spares the selection leaves it alone. -/
theorem delete_keeps (hclosed : selection.Closed store.toTables) {remaining : Tables}
    (hsub : remaining.Sub store.toTables) (hkeeps : Keeps selection store.toTables remaining) :
    Keeps selection store.toTables (store.delete remaining hsub).toTables := by
  have href := store.references
  have hschemas : remaining.cascade.schemas.filter selection.schemas =
      store.schemas.filter selection.schemas := by
    refine filter_filter_of_agree hkeeps.schemas (fun s hs _ => ?_)
    exact hasParent_of_same hkeeps.connections (href.schemas_connection s hs)
  have htables : remaining.cascade.tables.filter selection.tables =
      store.tables.filter selection.tables := by
    refine filter_filter_of_agree (filter_filter_of_agree hkeeps.tables fun d hd _ => ?_) ?_
    · exact hasParent_of_same hkeeps.connections (href.tables_connection d hd)
    · intro d hd hsel
      refine hasParent_of_kept hschemas (href.tables_schema d hd) (fun k hk s hs hid => ?_)
      exact hclosed.tables_schema d hd hsel s hs (hid.trans (Option.some.inj hk).symm)
  have hcolumns : remaining.cascade.columns.filter selection.columns =
      store.columns.filter selection.columns := by
    refine filter_filter_of_agree hkeeps.columns (fun c hc hsel => ?_)
    refine hasParent_of_kept htables (href.columns_table c hc) (fun k hk d hd hid => ?_)
    exact hclosed.columns_table c hc hsel d hd (hid.trans (Option.some.inj hk).symm)
  have hpermissions : remaining.cascade.table_permissions.filter selection.table_permissions =
      store.table_permissions.filter selection.table_permissions := by
    refine filter_filter_of_agree (filter_filter_of_agree (filter_filter_of_agree
      (filter_filter_of_agree hkeeps.table_permissions ?_) ?_) ?_) ?_
    · exact fun p hp _ => hasParent_of_same hkeeps.roles (href.permissions_role p hp)
    · exact fun p hp _ => hasParent_of_same hkeeps.users (href.permissions_user p hp)
    · exact fun p hp _ => hasParent_of_same hkeeps.connections (href.permissions_connection p hp)
    · intro p hp hsel
      refine hasParent_of_kept htables (href.permissions_table p hp) (fun k hk d hd hid => ?_)
      exact hclosed.permissions_table p hp hsel d hd (hid.trans (Option.some.inj hk).symm)
  refine ⟨hkeeps.users, hkeeps.roles, ?_, hkeeps.connections, hschemas, htables, hcolumns,
    hpermissions, ?_⟩
  · show ((remaining.user_roles.filter _).filter _) = store.user_roles
    rw [hkeeps.user_roles, List.filter_filter, List.filter_eq_self]
    intro r hr
    rw [Bool.and_eq_true]
    exact ⟨hasParent_of_same hkeeps.roles (href.user_roles_role r hr),
      hasParent_of_same hkeeps.users (href.user_roles_user r hr)⟩
  · refine filter_filter_of_agree (filter_filter_of_agree hkeeps.column_permissions ?_) ?_
    · intro c hc hsel
      refine hasParent_of_kept hpermissions (href.column_permissions_permission c hc) ?_
      intro k hk p hp hid
      exact hclosed.column_permissions_permission c hc hsel p hp
        (hid.trans (Option.some.inj hk).symm)
    · intro c hc hsel
      refine hasParent_of_kept hcolumns (href.column_permissions_column c hc) ?_
      intro k hk column hcolumn hid
      exact hclosed.column_permissions_column c hc hsel column hcolumn
        (hid.trans (Option.some.inj hk).symm)

theorem deleteColumns_keeps (hclosed : selection.Closed store.toTables)
    {p : DatabaseColumn → Bool}
    (hspared : ∀ c ∈ store.columns, selection.columns c = true → p c = false) :
    Keeps selection store.toTables (store.deleteColumns p).toTables := by
  refine delete_keeps hclosed _ { Keeps.refl selection store.toTables with columns := ?_ }
  exact filter_filter_of_agree rfl (fun c hc hsel => by rw [hspared c hc hsel]; rfl)

theorem deleteTables_keeps (hclosed : selection.Closed store.toTables) {p : DatabaseTable → Bool}
    (hspared : ∀ d ∈ store.tables, selection.tables d = true → p d = false) :
    Keeps selection store.toTables (store.deleteTables p).toTables := by
  refine delete_keeps hclosed _ { Keeps.refl selection store.toTables with tables := ?_ }
  exact filter_filter_of_agree rfl (fun d hd hsel => by rw [hspared d hd hsel]; rfl)

theorem deleteSchemas_keeps (hclosed : selection.Closed store.toTables)
    {p : DatabaseSchema → Bool}
    (hspared : ∀ s ∈ store.schemas, selection.schemas s = true → p s = false) :
    Keeps selection store.toTables (store.deleteSchemas p).toTables := by
  refine delete_keeps hclosed _ { Keeps.refl selection store.toTables with schemas := ?_ }
  exact filter_filter_of_agree rfl (fun s hs hsel => by rw [hspared s hs hsel]; rfl)

/-! ## Clearing the cache of a connection -/

/-- The selection has no row of the tenant on the connection. -/
structure Selection.Avoids (selection : Selection) (tenantId connectionId : Uuid) : Prop where
  schemas : ∀ s, selection.schemas s = true → s.isOf tenantId connectionId = false
  tables : ∀ d, selection.tables d = true → d.isOf tenantId connectionId = false

variable {tenantId connectionId : Uuid}

/-- Clearing the cache of a connection leaves the selection alone. -/
theorem clear_keeps (hclosed : selection.Closed store.toTables)
    (havoids : selection.Avoids tenantId connectionId) :
    Keeps selection store.toTables
      (clearConnectionMetadata store tenantId connectionId).toTables := by
  have htables : ∀ {s : Store}, s.toTables.Sub store.toTables →
      Keeps selection s.toTables
        ((s.deleteTables (DatabaseTable.isOf tenantId connectionId)).deleteSchemas
          (DatabaseSchema.isOf tenantId connectionId)).toTables := by
    intro s hsub
    have hdeleted : (s.deleteTables (DatabaseTable.isOf tenantId connectionId)).toTables.Sub
        s.toTables := delete_sub _ _ _
    have hfirst := deleteTables_keeps (hclosed.sub hsub) (fun d _ => havoids.tables d)
    exact hfirst.trans (deleteSchemas_keeps ((hclosed.sub hsub).sub hdeleted)
      (fun s _ => havoids.schemas s))
  dsimp only [clearConnectionMetadata]
  split
  · exact Keeps.refl _ _
  · split
    · exact htables (Tables.Sub.refl _)
    · refine (deleteColumns_keeps hclosed ?_).trans (htables (delete_sub _ _ _))
      intro c hc hsel
      -- a selected column belongs to a selected table
      rw [decide_eq_false_iff_not]
      rintro ⟨-, hid⟩
      obtain ⟨d, hd, hdid⟩ := List.mem_map.mp hid
      obtain ⟨hmem, hof⟩ := List.mem_filter.mp hd
      have hof' := (of_decide_eq_true hof).1
      rw [havoids.tables d (hclosed.columns_table c hc hsel d hmem hdid)] at hof'
      cases hof'

/-! ## Writing the cache of a connection -/

theorem Appends.keeps {caching caching' : Caching} {schemas : List DatabaseSchema}
    {tables : List DatabaseTable} {columns : List DatabaseColumn}
    (h : Appends caching schemas tables columns caching')
    (hschemas : ∀ s ∈ schemas, selection.schemas s = false)
    (htables : ∀ d ∈ tables, selection.tables d = false)
    (hcolumns : ∀ c ∈ columns, selection.columns c = false) :
    Keeps selection caching.store.toTables caching'.store.toTables := by
  rw [h.rows]
  exact { Keeps.refl selection caching.store.toTables with
    schemas := filter_append_of_not hschemas
    tables := filter_append_of_not htables
    columns := filter_append_of_not hcolumns }

/-- A selection of other rows is left alone, when it has no column below a new table. -/
theorem cache_keeps {newUuid : Nat → Uuid} {discovery : SchemaDiscoveryResult} {caching : Caching}
    (hclosed : selection.Closed store.toTables)
    (havoids : selection.Avoids tenantId connectionId)
    (hcolumns : ∀ c, c.tenant_id = tenantId →
      (∀ d ∈ store.tables, selection.tables d = true → d.id ≠ c.table_id) →
        selection.columns c = false)
    (hrun : cacheDiscoveredMetadata newUuid store tenantId connectionId discovery = .ok caching) :
    Keeps selection store.toTables caching.store.toTables := by
  have hcleared := clear_keeps hclosed havoids
  obtain ⟨blocks, hblocks, happends⟩ := cache_ok hrun
  have hplaced := placed_of_written hblocks
  have hkey := caching.store.keys.tables
  rw [happends.rows] at hkey
  have hnewTable : ∀ table ∈ blocks.flatMap Prod.snd, ∃ block ∈ blocks,
      table.Placed tenantId connectionId block.1.id := by
    intro table htable
    obtain ⟨block, hblock, hmem⟩ := List.mem_flatMap.mp htable
    exact ⟨block, hblock, (hplaced block hblock).tables table hmem⟩
  refine hcleared.trans (happends.keeps ?_ ?_ ?_)
  · intro s hs
    obtain ⟨block, hblock, rfl⟩ := List.mem_map.mp hs
    by_contra hsel
    have hnot := havoids.schemas _ (by simpa using hsel)
    exact of_decide_eq_false hnot ⟨(hplaced block hblock).tenant, (hplaced block hblock).connection⟩
  · intro d hd
    obtain ⟨table, htable, rfl⟩ := List.mem_map.mp hd
    obtain ⟨block, -, hnew⟩ := hnewTable table htable
    by_contra hsel
    have hnot := havoids.tables _ (by simpa using hsel)
    exact of_decide_eq_false hnot ⟨hnew.tenant, hnew.connection⟩
  · intro c hc
    obtain ⟨table, htable, hc⟩ := List.mem_flatMap.mp hc
    obtain ⟨block, -, hnew⟩ := hnewTable table htable
    obtain ⟨htenant, htableId⟩ := hnew.columns c hc
    refine hcolumns c htenant (fun d hd hsel hid => ?_)
    -- a selected table was not cleared, and its identifier is taken
    have hkept : d ∈ (clearConnectionMetadata store tenantId connectionId).tables := by
      have hmem : d ∈ store.tables.filter selection.tables := List.mem_filter.mpr ⟨hd, hsel⟩
      rw [← hcleared.tables] at hmem
      exact (List.mem_filter.mp hmem).1
    apply hkey.fresh_of_mem (List.mem_map_of_mem htable)
    rw [← htableId, ← hid]
    exact List.mem_map_of_mem hkept

end DataChat.Platform
