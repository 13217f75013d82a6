import DataChat.Effective.Exposure
import DataChat.RowFilter.Definitions

/-!
# Enforcing what has been accepted

The validators of `RowFilterRule` and the checks of `create_permission` say which row filters are
stored. Nothing but `build_filter_group_expression` says which of them can be applied, and it asks
for more: the column of each rule has to be in the entry of the table, and `in` and `not_in` need
a list that is not empty, which the identifier of the tenant or of the user is not.

* `buildFilterGroup_ok_iff`: when the condition of a stored filter can be built.
* `exposes_iff`: which columns are in the entry of a table.
* `created_enforced_iff`: when a permission that has been created can be enforced.
* `accepted_not_enforced`: three that cannot.
-/

namespace DataChat.Effective

open Platform Outcome

/-! ## Building the condition of a stored filter -/

/-- A list operator comes with a list of values that is not empty. -/
def ListsValues (rule : RowFilterRule) : Prop :=
  rule.operator = .in_ ∨ rule.operator = .notIn →
    rule.value_source = .literal ∧ ∃ item items, rule.value = .array (item :: items)

/-- What the rule is compared with. -/
def queryValue (env : RowFilter.Env) (rule : RowFilterRule) : Json :=
  match rule.value_source with
  | .literal => rule.value
  | .tenantId => .string env.tenantId
  | .userId => .string env.userId

variable {env : RowFilter.Env} {t : AllowedTable} {tableReference : String}

theorem operator_supported (operator : RowFilterOperator) :
    operator.value ∈ RowFilter.supportedOperators := by
  cases operator <;> simp [RowFilterOperator.value, RowFilter.supportedOperators]

theorem operator_list_iff (operator : RowFilterOperator) :
    operator.value = "in" ∨ operator.value = "not_in" ↔
      operator = .in_ ∨ operator = .notIn := by
  cases operator <;> simp [RowFilterOperator.value]

theorem resolveFilterValue_dump (rule : RowFilterRule) :
    RowFilter.resolveFilterValue env
        [("column_id", .string rule.column_id), ("operator", .string rule.operator.value),
          ("value_source", .string rule.value_source.value), ("value", rule.value)] =
      .ok (queryValue env rule) := by
  unfold RowFilter.resolveFilterValue queryValue
  cases rule.value_source <;> rfl

theorem buildComparison_ok_iff (column : Sql.Expr) (operator : RowFilterOperator)
    (value : Json) :
    (∃ e, RowFilter.buildComparisonExpression column operator.value value = .ok e) ↔
      (operator = .in_ ∨ operator = .notIn → ∃ item items, value = .array (item :: items)) := by
  unfold RowFilter.buildComparisonExpression
  rw [if_neg (not_not.mpr (operator_supported operator))]
  by_cases hlist : operator = .in_ ∨ operator = .notIn
  · rw [if_pos ((operator_list_iff operator).mpr hlist)]
    split
    · rename_i item items
      refine ⟨fun _ _ => ⟨item, items, rfl⟩, fun _ => ?_⟩
      split
      · exact ⟨_, rfl⟩
      · exact ⟨_, rfl⟩
    · rename_i hother
      constructor
      · rintro ⟨e, he⟩
        exact absurd he throw_ne_ok
      · intro hitems
        obtain ⟨item, items, hvalue⟩ := hitems hlist
        exact absurd hvalue (hother item items)
  · rw [if_neg (fun h => hlist ((operator_list_iff operator).mp h))]
    exact ⟨fun _ h => absurd h hlist, fun _ => ⟨_, rfl⟩⟩

theorem buildRule_ok_iff (rule : RowFilterRule) :
    (∃ e, RowFilter.buildRuleExpression env t tableReference rule.modelDump = .ok e) ↔
      (∃ column, RowFilter.resolveFilterColumn t rule.column_id = .ok column) ∧
        ListsValues rule := by
  have hrule : RowFilter.buildRuleExpression env t tableReference rule.modelDump =
      RowFilter.resolveFilterColumn t rule.column_id >>= fun allowedColumn =>
      RowFilter.resolveFilterValue env
        [("column_id", .string rule.column_id), ("operator", .string rule.operator.value),
          ("value_source", .string rule.value_source.value), ("value", rule.value)] >>= fun value =>
      RowFilter.buildComparisonExpression
        (Sql.columnExpr env.glot allowedColumn.name tableReference) rule.operator.value value := by
    rfl
  rw [hrule, resolveFilterValue_dump]
  have hvalue : (rule.operator = .in_ ∨ rule.operator = .notIn →
      ∃ item items, queryValue env rule = .array (item :: items)) ↔ ListsValues rule := by
    unfold ListsValues queryValue
    refine imp_congr_right (fun _ => ?_)
    cases rule.value_source <;> simp
  rw [← hvalue]
  constructor
  · rintro ⟨e, he⟩
    obtain ⟨column, hcolumn, hrest⟩ := bind_ok_iff.mp he
    exact ⟨⟨column, hcolumn⟩, (buildComparison_ok_iff _ _ _).mp ⟨e, hrest⟩⟩
  · rintro ⟨⟨column, hcolumn⟩, hlist⟩
    obtain ⟨e, he⟩ := (buildComparison_ok_iff
      (Sql.columnExpr env.glot column.name tableReference) rule.operator _).mpr hlist
    exact ⟨e, bind_ok_iff.mpr ⟨column, hcolumn, he⟩⟩

theorem combine_returns {expressions : List Sql.Expr} (hne : expressions ≠ [])
    (match_ : RowFilterMatch) :
    ∃ e, RowFilter.combineExpressions expressions (.string match_.value) = .ok e := by
  cases expressions with
  | nil => exact absurd rfl hne
  | cons first rest => cases match_ <;> exact ⟨_, rfl⟩

theorem buildFilterGroup_ok_iff {group : RowFilterGroup} (hne : group.rules ≠ []) :
    (∃ e, RowFilter.buildFilterGroupExpression env t tableReference group.modelDump = .ok e) ↔
      ∀ rule ∈ group.rules,
        (∃ column, RowFilter.resolveFilterColumn t rule.column_id = .ok column) ∧
          ListsValues rule := by
  have hgroup : RowFilter.buildFilterGroupExpression env t tableReference group.modelDump =
      (group.rules.map RowFilterRule.modelDump).mapM
        (RowFilter.buildRuleExpression env t tableReference) >>= fun expressions =>
      RowFilter.combineExpressions expressions (.string group.match_.value) := by
    obtain ⟨rule, rules, hrules⟩ := List.exists_cons_of_ne_nil hne
    unfold RowFilter.buildFilterGroupExpression RowFilterGroup.modelDump
    rw [hrules]
    rfl
  have hrules : (∃ expressions, (group.rules.map RowFilterRule.modelDump).mapM
        (RowFilter.buildRuleExpression env t tableReference) = .ok expressions) ↔
      ∀ rule ∈ group.rules,
        (∃ column, RowFilter.resolveFilterColumn t rule.column_id = .ok column) ∧
          ListsValues rule := by
    rw [mapM_returns_iff, List.forall_mem_map]
    exact forall₂_congr (fun rule _ => buildRule_ok_iff rule)
  rw [hgroup, ← hrules]
  constructor
  · rintro ⟨e, he⟩
    obtain ⟨expressions, hexpressions, -⟩ := bind_ok_iff.mp he
    exact ⟨expressions, hexpressions⟩
  · rintro ⟨expressions, hexpressions⟩
    have hlength := (mapM_ok_iff.mp hexpressions).length_eq
    rw [List.length_map] at hlength
    have hnonempty : expressions ≠ [] := by
      rintro rfl
      exact hne (List.length_eq_zero_iff.mp hlength)
    obtain ⟨e, he⟩ := combine_returns hnonempty group.match_
    exact ⟨e, bind_ok_iff.mpr ⟨expressions, hexpressions, he⟩⟩

/-! ## The columns of an entry -/

/-- The column is granted under the name of an entry, and no table that is sorted before grants
a column of its name there. -/
def Exposes (collation : Collation) (store : Store) (user : User) (connectionId : Uuid)
    (name : String) (columnId : Uuid) : Prop :=
  ∃ source ∈ effectiveTablePermissions store user connectionId, ∃ column grant,
    namedGrant store user.tenant_id name column source = some grant ∧
      grant.column.id = columnId ∧
      ∀ other ∈ effectiveTablePermissions store user connectionId,
        namedGrant store user.tenant_id name column other ≠ none →
          tableKey collation source ≤ tableKey collation other

theorem resolveFilterColumn_ok_iff {columnId : String} :
    (∃ column, RowFilter.resolveFilterColumn t columnId = .ok column) ↔
      ∃ name column, t.columns.get name = some column ∧ column.column_id = columnId := by
  have hfound : (∃ column, RowFilter.resolveFilterColumn t columnId = .ok column) ↔
      ∃ column ∈ t.columns.values, column.column_id = columnId := by
    unfold RowFilter.resolveFilterColumn
    cases hfind : t.columns.values.find? (fun c => c.column_id = columnId) with
    | none =>
      constructor
      · rintro ⟨column, hcolumn⟩
        exact absurd hcolumn throw_ne_ok
      · rintro ⟨column, hmem, hid⟩
        exact absurd (decide_eq_true hid) (List.find?_eq_none.mp hfind column hmem)
    | some column =>
      have hid := List.find?_some hfind
      exact ⟨fun _ => ⟨column, List.mem_of_find?_eq_some hfind, of_decide_eq_true hid⟩,
        fun _ => ⟨column, rfl⟩⟩
  rw [hfound]
  constructor
  · rintro ⟨column, hmem, hid⟩
    obtain ⟨⟨name, column⟩, hitem, rfl⟩ := List.mem_map.mp hmem
    exact ⟨name, column, (Dict.get_eq_some_iff _ _ _).mpr hitem, hid⟩
  · rintro ⟨name, column, hget, hid⟩
    exact ⟨column, Dict.mem_values_of_get hget, hid⟩

section Entry

variable {store : Store} {user : User} {connectionId : Uuid} {collation : Collation}
  {permissionRows : List PermissionRow} {columnRows : List ColumnRow} {name : String}

theorem exposes_iff (hcolumns : ColumnsOfTable store.toTables)
    (h : Returned collation store user connectionId permissionRows columnRows)
    (hmerged : Merged columnRows (rowsNamed name permissionRows) t) {columnId : Uuid} :
    (∃ columnName column, t.columns.get columnName = some column ∧
        column.column_id = columnId) ↔
      Exposes collation store user connectionId name columnId := by
  constructor
  · rintro ⟨columnName, column, hcolumn, rfl⟩
    obtain ⟨source, hsource, grant, hnamed, hid, hleast⟩ :=
      exposed_column hcolumns h hmerged hcolumn
    exact ⟨source, hsource, columnName, grant, hnamed, hid, hleast⟩
  · rintro ⟨source, hsource, columnName, grant, hnamed, hid, hleast⟩
    have hhead := mergedGrants_head name columnName hcolumns h
    have hne : namedGrant store user.tenant_id name columnName source ≠ none := by
      simp [hnamed]
    cases hfirst : permissionRows.findSome? (namedGrant store user.tenant_id name columnName) with
    | none => exact absurd (h.tables.findSome?_eq_none.mp hfirst source hsource) hne
    | some first =>
      -- the first grant comes from a table that is sorted like the given one
      obtain ⟨other, hother, hnamed', hleast'⟩ := h.tables.findSome?_eq_some hfirst
      have hne' : namedGrant store user.tenant_id name columnName other ≠ none := by
        simp [hnamed']
      have hkey := le_antisymm (hleast other hother hne') (hleast' source hsource hne)
      have hsame := same_column hcolumns hsource hother hkey hnamed hnamed'
      rw [hfirst] at hhead
      obtain ⟨rest, hgrants⟩ := List.head?_eq_some_iff.mp hhead
      have hentry : ∃ column, mergedColumn (first :: rest) = some column ∧
          column.column_id = first.column.id := ⟨_, rfl, rfl⟩
      obtain ⟨column, hcolumn, hcolumnId⟩ := hentry
      refine ⟨columnName, column, ?_, ?_⟩
      · rw [hmerged.get_column, hgrants, hcolumn]
      · rw [hcolumnId, ← hsame, hid]

/-! ## Stored permissions -/

/-- The filter can be applied wherever it stands in the entry. -/
def Enforced (env : RowFilter.Env) (t : AllowedTable) (tableReference : String)
    (rowFilter : JsonObject) : Prop :=
  rowFilter ∈ t.row_filters →
    ∃ e, RowFilter.buildFilterGroupExpression env t tableReference rowFilter = .ok e

theorem hasRules_dump (group : RowFilterGroup) :
    hasRules group.modelDump = true ↔ group.rules ≠ [] := by
  have hget : group.modelDump.get "rules" =
      some (.array (group.rules.map RowFilterRule.modelDump)) := by
    rfl
  unfold hasRules
  rw [hget]
  cases group.rules with
  | nil => simp [truthy]
  | cons rule rules => simp [truthy]

/-- The filter of a permission that the user holds. -/
theorem enforced_iff (hcolumns : ColumnsOfTable store.toTables)
    (h : Returned collation store user connectionId permissionRows columnRows)
    {row : PermissionRow} (hrow : row ∈ rowsNamed name permissionRows)
    (hmerged : Merged columnRows (rowsNamed name permissionRows) t) {group : RowFilterGroup}
    (hgroup : row.permission.row_filter = group.modelDump) :
    Enforced env t tableReference group.modelDump ↔
      ∀ rule ∈ group.rules,
        Exposes collation store user connectionId name rule.column_id ∧ ListsValues rule := by
  by_cases hne : group.rules = []
  · rw [hne]
    constructor
    · intro _ rule hrule
      cases hrule
    · intro _ hmem
      rw [hmerged.row_filters] at hmem
      exact absurd hne ((hasRules_dump group).mp (List.mem_filter.mp hmem).2)
  · have hmem : group.modelDump ∈ t.row_filters := by
      rw [hmerged.row_filters, List.mem_filter]
      exact ⟨List.mem_map.mpr ⟨row, hrow, hgroup⟩, (hasRules_dump group).mpr hne⟩
    have henforced : Enforced env t tableReference group.modelDump ↔
        ∃ e, RowFilter.buildFilterGroupExpression env t tableReference group.modelDump = .ok e :=
      ⟨fun h => h hmem, fun h _ => h⟩
    rw [henforced, buildFilterGroup_ok_iff hne]
    refine forall₂_congr (fun rule _ => ?_)
    rw [resolveFilterColumn_ok_iff, exposes_iff hcolumns h hmerged]

end Entry

/-! ## Permissions that have just been created -/

/-- The user holds no other permission under the name of the table. -/
def HoldsOnly (store : Store) (user : User) (connectionId : Uuid) (row : PermissionRow) : Prop :=
  ∀ other ∈ effectiveTablePermissions store user connectionId,
    qualifiedName other = qualifiedName row → other.permission = row.permission

def ReadsColumn (request : TablePermissionCreate) (columnId : Uuid) : Prop :=
  ∃ column ∈ request.columns, column.column_id = columnId ∧ column.can_read = true

theorem namedGrant_of_mem {store : Store} {tenantId : Uuid} {row : PermissionRow} {column : String}
    {grant : ColumnRow} (hcolumns : ColumnsOfTable store.toTables)
    (hrow : row.permission ∈ store.table_permissions) (hread : row.permission.can_read = true)
    (hgrant : grant ∈ grantsOf (tenantColumns store tenantId) row column) :
    namedGrant store tenantId (qualifiedName row) column row = some grant := by
  unfold namedGrant grantOf
  rw [if_pos rfl, if_pos hread]
  obtain ⟨first, rest, hgrants⟩ := List.exists_cons_of_ne_nil (List.ne_nil_of_mem hgrant)
  have hfirst : first ∈ grantsOf (tenantColumns store tenantId) row column := by
    rw [hgrants]
    exact List.mem_cons_self
  rw [hgrants, grant_unique hcolumns hrow hgrant hfirst]
  rfl

section Creation

variable {newUuid : Nat → Uuid} {store store' : Store} {admin user : User}
  {request : TablePermissionCreate} {response : TablePermissionResponse} {connectionId : Uuid}
  {collation : Collation} {row : PermissionRow}

theorem grant_of_request
    (hcreate : createPermission newUuid store admin request = .ok (store', response))
    (hpermission : row.permission = response.permission) {columnId : Uuid}
    (hreads : ReadsColumn request columnId) :
    ∃ column, ∃ grant ∈ grantsOf (tenantColumns store' admin.tenant_id) row column,
      grant.column.id = columnId := by
  obtain ⟨hcreated, hgranted⟩ := create_rows hcreate
  obtain ⟨input, hinput, rfl, hread⟩ := hreads
  have hpair : (input.column_id, input.can_read) ∈
      response.columns.map (fun c => (c.column_id, c.can_read)) := by
    rw [hgranted.columns]
    exact List.mem_map.mpr ⟨input, hinput, rfl⟩
  obtain ⟨permission, hadded, hsame⟩ := List.mem_map.mp hpair
  obtain ⟨hid, hreadable⟩ := Prod.mk.inj hsame
  obtain ⟨column, hcolumn, hcolumnId, htenant⟩ := hgranted.found input hinput
  refine ⟨column.column_name, ⟨permission, column⟩, mem_grantsOf_iff.mpr ⟨?_, ?_, ?_, htenant, ?_,
    hreadable.trans hread, rfl⟩, hcolumnId⟩
  · rw [hcreated.column_permissions]
    exact List.mem_append_right _ hadded
  · rw [hcreated.columns]
    exact hcolumn
  · exact hcolumnId.trans hid.symm
  · rw [hpermission]
    exact hcreated.parent permission hadded

theorem request_of_grant
    (hcreate : createPermission newUuid store admin request = .ok (store', response))
    (hpermission : row.permission = response.permission) {tenantId : Uuid} {column : String}
    {grant : ColumnRow} (hgrant : grant ∈ grantsOf (tenantColumns store' tenantId) row column) :
    ReadsColumn request grant.column.id := by
  obtain ⟨hcreated, hgranted⟩ := create_rows hcreate
  obtain ⟨hmem, -, hid, -, hparent, hread, -⟩ := mem_grantsOf_iff.mp hgrant
  rw [hcreated.column_permissions] at hmem
  rcases List.mem_append.mp hmem with hold | hadded
  · -- an older row belongs to an older permission
    have hexisting :=
      store.references.column_permissions_permission grant.permission hold _ rfl
    have hkey := store'.keys.table_permissions
    rw [hcreated.table_permissions] at hkey
    rw [hparent, hpermission] at hexisting
    exact absurd hexisting hkey.fresh
  · have hpair : (grant.permission.column_id, grant.permission.can_read) ∈
        request.columns.map (fun c => (c.column_id, c.can_read)) := by
      rw [← hgranted.columns]
      exact List.mem_map.mpr ⟨grant.permission, hadded, rfl⟩
    obtain ⟨input, hinput, hsame⟩ := List.mem_map.mp hpair
    obtain ⟨hinputId, hinputRead⟩ := Prod.mk.inj hsame
    exact ⟨input, hinput, hinputId.trans hid.symm, hinputRead.trans hread⟩

/-- A user without another permission there sees the columns that the request grants. -/
theorem exposes_iff_reads (hcolumns : ColumnsOfTable store'.toTables)
    (hcreate : createPermission newUuid store admin request = .ok (store', response))
    (hrow : row ∈ effectiveTablePermissions store' user connectionId)
    (hpermission : row.permission = response.permission) (hread : request.can_read = true)
    (honly : HoldsOnly store' user connectionId row) (columnId : Uuid) :
    Exposes collation store' user connectionId (qualifiedName row) columnId ↔
      ReadsColumn request columnId := by
  have hgranted := (create_rows hcreate).2
  obtain ⟨hstored, -, htable, -, -, heffective⟩ := mem_effective_iff.mp hrow
  have htenant : admin.tenant_id = user.tenant_id := by
    rw [← hgranted.tenant, ← hpermission]
    exact (of_decide_eq_true heffective).1
  constructor
  · rintro ⟨source, hsource, column, grant, hnamed, rfl, -⟩
    obtain ⟨hname, -, hmem⟩ := namedGrant_some hnamed
    exact request_of_grant hcreate ((honly source hsource hname).trans hpermission) hmem
  · intro hreads
    obtain ⟨column, grant, hgrant, rfl⟩ := grant_of_request hcreate hpermission hreads
    rw [htenant] at hgrant
    have hrowRead : row.permission.can_read = true := by
      rw [hpermission, hgranted.can_read, hread]
    refine ⟨row, hrow, column, grant, namedGrant_of_mem hcolumns hstored hrowRead hgrant, rfl, ?_⟩
    intro other hother hnamed
    obtain ⟨otherGrant, hotherGrant⟩ := Option.ne_none_iff_exists'.mp hnamed
    have hsame := honly other hother (namedGrant_some hotherGrant).1
    have hotherTable := (mem_effective_iff.mp hother).2.2.1
    rw [hsame, ← htable] at hotherTable
    exact (tableKey_eq collation hrow hother hotherTable.symm).1.le

theorem effective_tenant (hgranted : Granted store admin request response.permission
    response.columns) (hrow : row ∈ effectiveTablePermissions store' user connectionId)
    (hpermission : row.permission = response.permission) : admin.tenant_id = user.tenant_id := by
  rw [← hgranted.tenant, ← hpermission]
  exact (of_decide_eq_true (mem_effective_iff.mp hrow).2.2.2.2.2).1

variable {permissionRows : List PermissionRow} {columnRows : List ColumnRow}

/-- A permission with a readable column leads to an entry. -/
theorem created_entry
    (hcreate : createPermission newUuid store admin request = .ok (store', response))
    (hread : request.can_read = true) (hcolumn : ∃ columnId, ReadsColumn request columnId)
    (hrow : row ∈ effectiveTablePermissions store' user connectionId)
    (hpermission : row.permission = response.permission)
    (hreturned : Returned collation store' user connectionId permissionRows columnRows) :
    row ∈ rowsNamed (qualifiedName row) permissionRows ∧
      ∃ t, (filteredSchema connectionId permissionRows columnRows).tables.get (qualifiedName row) =
        some t := by
  have hgranted := (create_rows hcreate).2
  have hrowRead : row.permission.can_read = true := by
    rw [hpermission, hgranted.can_read, hread]
  have hmem : row ∈ permissionRows := hreturned.tables.mem_iff.mpr hrow
  have hnamed : row ∈ rowsNamed (qualifiedName row) permissionRows :=
    mem_rowsNamed.mpr ⟨hmem, hrowRead, rfl⟩
  obtain ⟨columnId, hreads⟩ := hcolumn
  obtain ⟨column, grant, hgrant, -⟩ := grant_of_request hcreate hpermission hreads
  rw [effective_tenant hgranted hrow hpermission] at hgrant
  have hgrant' : grant ∈ grantsOf columnRows row column :=
    (hreturned.mem_grantsOf (List.mem_filter.mpr ⟨hmem, hrowRead⟩)).mpr hgrant
  exact ⟨hnamed, filteredSchema_exists hnamed hgrant'⟩

/-- The row filter of a new permission can be enforced exactly when each of its rules names an
exposed column and compares with a list where its operator needs one. -/
theorem created_enforced_iff {allowed : AllowedSchema} (h : Reachable newUuid store)
    (hcreate : createPermission newUuid store admin request = .ok (store', response))
    (hread : request.can_read = true) (hcolumn : ∃ columnId, ReadsColumn request columnId)
    (hrow : row ∈ effectiveTablePermissions store' user connectionId)
    (hpermission : row.permission = response.permission)
    (hreturned : Returned collation store' user connectionId permissionRows columnRows)
    (hbuild : buildPermissionFilteredSchema store' user connectionId permissionRows columnRows =
      .ok allowed) :
    ∃ t, allowed.tables.get (qualifiedName row) = some t ∧
      (∀ env tableReference,
        Enforced env t tableReference request.row_filter.modelDump ↔
          ∀ rule ∈ request.row_filter.rules,
            Exposes collation store' user connectionId (qualifiedName row) rule.column_id ∧
              ListsValues rule) ∧
      (HoldsOnly store' user connectionId row →
        ∀ columnId, Exposes collation store' user connectionId (qualifiedName row) columnId ↔
          ReadsColumn request columnId) := by
  have hcolumns := reachable_columnsOfTable (h.step (Step.createPermission _ _ _ hcreate))
  obtain ⟨hnamed, t, ht⟩ := created_entry hcreate hread hcolumn hrow hpermission hreturned
  rw [← (build_ok_iff.mp hbuild).2]
  refine ⟨t, ht, ?_, ?_⟩
  · intro env tableReference
    apply enforced_iff hcolumns hreturned hnamed (filteredSchema_some ht).1
    rw [hpermission, (create_rows hcreate).2.row_filter]
  · intro honly columnId
    exact exposes_iff_reads hcolumns hcreate hrow hpermission hread honly columnId

end Creation

/-! ## Permissions with one rule -/

/-- The member reads the e-mail addresses that satisfy a rule. -/
def filteredGrant (rule : RowFilterRule) : TablePermissionCreate where
  user_id := some "member"
  connection_id := "connection"
  table_id := shopUuid 1
  row_filter := { rules := [rule], max_length := Nat.le_of_ble_eq_true rfl }
  columns := [{ column_id := shopUuid 2, hidden_unmasked := shown_unmasked }]
  max_length := Nat.le_of_ble_eq_true rfl
  subject := by exact Bool.false_ne_true

def filteredStore (rule : RowFilterRule) : Store :=
  createdStore (createPermission shopUuid shopCached shopAdmin (filteredGrant rule))

/-- `email = 'ada@example.org'`. -/
def emailRule : RowFilterRule where
  column_id := shopUuid 2
  operator := .equals
  value := .string "ada@example.org"
  literal_value := fun _ => rfl
  context_value := fun h => absurd rfl h
  list_value := by rintro (h | h) <;> cases h

/-- A rule about a column that is not granted. -/
def otherColumnRule : RowFilterRule := { emailRule with column_id := shopUuid 9 }

/-- `email IN ()`. -/
def emptyListRule : RowFilterRule where
  column_id := shopUuid 2
  operator := .in_
  value := .array []
  literal_value := fun _ => rfl
  context_value := fun h => absurd rfl h
  list_value := fun _ _ => rfl

/-- A list operator that compares with the identifier of the user. -/
def userListRule : RowFilterRule where
  column_id := shopUuid 2
  operator := .in_
  value_source := .userId
  literal_value := fun h => by cases h
  context_value := fun _ => rfl
  list_value := fun _ h => by cases h

/-- What evaluation tells about a permission with one rule. -/
structure Accepted (rule : RowFilterRule) : Prop where
  created : (createPermission shopUuid shopCached shopAdmin (filteredGrant rule)).isOk = true
  connection : (getDatabaseConnection (filteredStore rule) shopMember "connection").isOk = true
  effective : (effectiveTablePermissions (filteredStore rule) shopMember "connection").map
    qualifiedName = ["public.users"]

/-- The row of the only permission that the member holds. -/
theorem Accepted.row {rule : RowFilterRule} (h : Accepted rule) :
    ∃ response row, createPermission shopUuid shopCached shopAdmin (filteredGrant rule) =
        .ok (filteredStore rule, response) ∧
      row ∈ effectiveTablePermissions (filteredStore rule) shopMember "connection" ∧
      qualifiedName row = "public.users" ∧ row.permission = response.permission ∧
      HoldsOnly (filteredStore rule) shopMember "connection" row := by
  obtain ⟨response, hcreate⟩ := createdStore_ok
    (createPermission shopUuid shopCached shopAdmin (filteredGrant rule)) h.created
  obtain ⟨row, hrows, hname⟩ := List.map_eq_singleton_iff.mp h.effective
  have hrow : row ∈ effectiveTablePermissions (filteredStore rule) shopMember "connection" := by
    rw [hrows]
    exact List.mem_singleton_self row
  refine ⟨response, row, hcreate, hrow, hname, ?_, ?_⟩
  · have hstored := (mem_effective_iff.mp hrow).1
    have hpermissions := (create_rows hcreate).1.table_permissions
    have hnone : shopCached.table_permissions = [] := by rfl
    rw [hnone] at hpermissions
    unfold filteredStore at hstored
    rw [hpermissions] at hstored
    exact List.mem_singleton.mp hstored
  · intro other hother _
    rw [hrows] at hother
    rw [List.mem_singleton.mp hother]

/-- The rows that the database returns to the member, and the schema that is built from them. -/
theorem Accepted.built {rule : RowFilterRule} (h : Accepted rule) :
    ∃ permissionRows columnRows allowed,
      Returned codePoints (filteredStore rule) shopMember "connection" permissionRows columnRows ∧
      buildPermissionFilteredSchema (filteredStore rule) shopMember "connection" permissionRows
        columnRows = .ok allowed := by
  obtain ⟨permissionRows, hordered⟩ := exists_orderedBy (tableKey codePoints)
    (effectiveTablePermissions (filteredStore rule) shopMember "connection")
  obtain ⟨columnRows, hreturned⟩ := exists_returned hordered
  exact ⟨permissionRows, columnRows, _, hreturned,
    build_ok_iff.mpr ⟨shop_connection (filteredStore rule) h.connection, rfl⟩⟩

/-- The request is accepted, and the member, who holds nothing else, gets an entry for the table
whose row filter cannot be applied. -/
def NotEnforced (rule : RowFilterRule) : Prop :=
  ∃ response row permissionRows columnRows allowed t,
    createPermission shopUuid shopCached shopAdmin (filteredGrant rule) =
      .ok (filteredStore rule, response) ∧
    row ∈ effectiveTablePermissions (filteredStore rule) shopMember "connection" ∧
    row.permission = response.permission ∧
    HoldsOnly (filteredStore rule) shopMember "connection" row ∧
    Returned codePoints (filteredStore rule) shopMember "connection" permissionRows columnRows ∧
    buildPermissionFilteredSchema (filteredStore rule) shopMember "connection" permissionRows
      columnRows = .ok allowed ∧
    allowed.tables.get (qualifiedName row) = some t ∧
    ∀ env tableReference,
      ¬ Enforced env t tableReference (filteredGrant rule).row_filter.modelDump

theorem filteredGrant_reads (rule : RowFilterRule) (columnId : Uuid) :
    ReadsColumn (filteredGrant rule) columnId ↔ columnId = shopUuid 2 := by
  constructor
  · rintro ⟨column, hcolumn, rfl, -⟩
    rw [List.mem_singleton.mp hcolumn]
  · rintro rfl
    exact ⟨_, List.mem_singleton_self _, rfl, rfl⟩

theorem notEnforced_of {rule : RowFilterRule} (h : Accepted rule)
    (hrule : ¬ (rule.column_id = shopUuid 2 ∧ ListsValues rule)) : NotEnforced rule := by
  obtain ⟨response, row, hcreate, hrow, hname, hpermission, honly⟩ := h.row
  obtain ⟨permissionRows, columnRows, allowed, hreturned, hbuild⟩ := h.built
  have hcolumns := reachable_columnsOfTable
    (shopCached_reachable.step (Step.createPermission _ _ _ hcreate))
  obtain ⟨hnamed, t, ht⟩ := created_entry hcreate rfl
    ⟨shopUuid 2, (filteredGrant_reads rule _).mpr rfl⟩ hrow hpermission hreturned
  refine ⟨response, row, permissionRows, columnRows, allowed, t, hcreate, hrow, hpermission, honly,
    hreturned, hbuild, ?_, ?_⟩
  · rw [← (build_ok_iff.mp hbuild).2]
    exact ht
  · intro env tableReference henforced
    have hgroup : row.permission.row_filter = (filteredGrant rule).row_filter.modelDump := by
      rw [hpermission, (create_rows hcreate).2.row_filter]
    have hrules := (enforced_iff hcolumns hreturned hnamed (filteredSchema_some ht).1 hgroup).mp
      henforced rule (List.mem_singleton_self rule)
    rw [exposes_iff_reads hcolumns hcreate hrow hpermission rfl honly, filteredGrant_reads]
      at hrules
    exact hrule hrules

theorem emailRule_accepted : Accepted emailRule :=
  ⟨by decide +kernel, by decide +kernel, by decide +kernel⟩

/-- A comparison with a granted column is enforced. -/
theorem emailRule_enforced :
    ∃ row permissionRows columnRows allowed t,
      Returned codePoints (filteredStore emailRule) shopMember "connection" permissionRows
        columnRows ∧
      buildPermissionFilteredSchema (filteredStore emailRule) shopMember "connection"
        permissionRows columnRows = .ok allowed ∧
      allowed.tables.get (qualifiedName row) = some t ∧
      ∀ env tableReference,
        Enforced env t tableReference (filteredGrant emailRule).row_filter.modelDump := by
  obtain ⟨response, row, hcreate, hrow, hname, hpermission, honly⟩ := emailRule_accepted.row
  obtain ⟨permissionRows, columnRows, allowed, hreturned, hbuild⟩ := emailRule_accepted.built
  obtain ⟨t, ht, henforced, hexposes⟩ := created_enforced_iff shopCached_reachable hcreate rfl
    ⟨shopUuid 2, (filteredGrant_reads emailRule _).mpr rfl⟩ hrow hpermission hreturned hbuild
  refine ⟨row, permissionRows, columnRows, allowed, t, hreturned, hbuild, ht, ?_⟩
  intro env tableReference
  apply (henforced env tableReference).mpr
  intro rule hrule
  rw [List.mem_singleton.mp hrule]
  refine ⟨(hexposes honly _).mpr ((filteredGrant_reads emailRule _).mpr rfl), ?_⟩
  rintro (hin | hnotIn)
  · cases hin
  · cases hnotIn

/-- A rule about another column, an empty list, and a list operator on an identifier. -/
theorem accepted_not_enforced :
    NotEnforced otherColumnRule ∧ NotEnforced emptyListRule ∧ NotEnforced userListRule := by
  refine ⟨?_, ?_, ?_⟩
  · apply notEnforced_of ⟨by decide +kernel, by decide +kernel, by decide +kernel⟩
    rintro ⟨hcolumn, -⟩
    exact absurd hcolumn (by decide +kernel)
  · apply notEnforced_of ⟨by decide +kernel, by decide +kernel, by decide +kernel⟩
    rintro ⟨-, hlist⟩
    obtain ⟨-, item, items, hvalue⟩ := hlist (.inl rfl)
    exact absurd (Json.array.inj hvalue) (List.cons_ne_nil item items).symm
  · apply notEnforced_of ⟨by decide +kernel, by decide +kernel, by decide +kernel⟩
    rintro ⟨-, hlist⟩
    exact absurd (hlist (.inl rfl)).1 (by decide)

end DataChat.Effective
