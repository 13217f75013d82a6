import DataChat.Platform.Metadata

/-!
# The permission service

`schemas/permission.py`, `services/database/permission_service.py` and
`repositories/permissions.py`. A request carries the proofs of what its validators have checked.

* `create_rows`: what has been checked when `create_permission` returns, and what it has written.
-/

namespace DataChat.Platform

open Relational Outcome

/-! ## Requests -/

inductive RowFilterOperator
  | equals | notEquals | greaterThan | greaterThanOrEqual | lessThan | lessThanOrEqual | in_
  | notIn
deriving DecidableEq, Repr

def RowFilterOperator.value : RowFilterOperator → String
  | .equals => "eq"
  | .notEquals => "ne"
  | .greaterThan => "gt"
  | .greaterThanOrEqual => "gte"
  | .lessThan => "lt"
  | .lessThanOrEqual => "lte"
  | .in_ => "in"
  | .notIn => "not_in"

inductive RowFilterValueSource
  | literal | tenantId | userId
deriving DecidableEq, Repr

def RowFilterValueSource.value : RowFilterValueSource → String
  | .literal => "literal"
  | .tenantId => "tenant_id"
  | .userId => "user_id"

inductive ColumnMaskType
  | full | partial_ | email | hash
deriving DecidableEq, Repr

def ColumnMaskType.value : ColumnMaskType → String
  | .full => "full"
  | .partial_ => "partial"
  | .email => "email"
  | .hash => "hash"

/-- `value is None`. -/
def isNone : Json → Bool
  | .null => true
  | _ => false

/-- `isinstance(value, list)`. -/
def isList : Json → Bool
  | .array _ => true
  | _ => false

structure RowFilterRule where
  column_id : Uuid
  operator : RowFilterOperator
  value_source : RowFilterValueSource := .literal
  value : Json := .null
  literal_value : value_source = .literal → isNone value = false
  context_value : value_source ≠ .literal → isNone value = true
  list_value : (operator = .in_ ∨ operator = .notIn) → value_source = .literal →
    isList value = true

inductive RowFilterMatch
  | all | any
deriving DecidableEq, Repr

def RowFilterMatch.value : RowFilterMatch → String
  | .all => "all"
  | .any => "any"

structure RowFilterGroup where
  match_ : RowFilterMatch := .all
  rules : List RowFilterRule := []
  max_length : rules.length ≤ 20

/-- `RowFilterGroup()`. -/
def RowFilterGroup.default : RowFilterGroup := { max_length := by decide }

structure ColumnPermissionInput where
  column_id : Uuid
  can_read : Bool := true
  can_filter : Bool := true
  can_aggregate : Bool := true
  mask_type : Option ColumnMaskType := none
  hidden_unmasked : can_read = false → mask_type = none

structure TablePermissionCreate where
  role_id : Option Uuid := none
  user_id : Option Uuid := none
  connection_id : Uuid
  table_id : Uuid
  can_read : Bool := true
  can_insert : Bool := false
  can_update : Bool := false
  can_delete : Bool := false
  row_filter : RowFilterGroup := RowFilterGroup.default
  columns : List ColumnPermissionInput := []
  max_length : columns.length ≤ 500
  subject : role_id.isSome ≠ user_id.isSome

/-- `model_dump(mode="json")` of a rule. -/
def RowFilterRule.modelDump (rule : RowFilterRule) : Json :=
  .object [("column_id", .string rule.column_id), ("operator", .string rule.operator.value),
    ("value_source", .string rule.value_source.value), ("value", rule.value)]

def RowFilterGroup.modelDump (group : RowFilterGroup) : JsonObject :=
  [("match", .string group.match_.value),
    ("rules", .array (group.rules.map RowFilterRule.modelDump))]

/-! ## Validation -/

def validatePermissionTable (store : Store) (tenantId connectionId tableId : Uuid) :
    Service DatabaseTable :=
  match store.tables.find? (fun table => table.id = tableId ∧ table.tenant_id = tenantId ∧
      table.connection_id = connectionId) with
  | some table => pure table
  | none =>
    throw (.permissionResourceNotFoundError "The selected database table was not found.")

def validatePermissionSubject (store : Store) (tenantId : Uuid) (roleId userId : Option Uuid) :
    Service Unit :=
  if ∃ id ∈ roleId, ¬ ∃ role ∈ store.roles, role.id = id ∧ role.tenant_id = tenantId then
    throw (.permissionResourceNotFoundError "The selected role was not found.")
  else if ∃ id ∈ userId, ¬ ∃ user ∈ store.users, user.id = id ∧ user.tenant_id = tenantId then
    throw (.permissionResourceNotFoundError "The selected user was not found.")
  else pure ()

def validatePermissionColumns (store : Store) (tenantId tableId : Uuid)
    (columnIds : List Uuid) : Service Unit :=
  let validColumnIds := (store.columns.filter (fun column => column.tenant_id = tenantId ∧
    column.table_id = tableId ∧ column.id ∈ columnIds)).map DatabaseColumn.id
  if columnIds = [] then pure ()
  else if ¬ columnIds.Nodup then
    throw (.valueError "Column permissions cannot contain duplicate columns.")
  else if ¬ (validColumnIds ⊆ columnIds ∧ columnIds ⊆ validColumnIds) then
    throw (.permissionResourceNotFoundError "One or more selected columns were not found.")
  else pure ()

/-- `scalar_one_or_none` raises `MultipleResultsFound` on several rows. -/
def findExistingTablePermission (store : Store) (tenantId tableId : Uuid)
    (roleId userId : Option Uuid) : Service (Option TablePermission) :=
  match store.table_permissions.filter (fun permission =>
      permission.tenant_id = tenantId ∧ permission.table_id = tableId ∧
        ((roleId ≠ none ∧ permission.role_id = roleId) ∨
          (userId ≠ none ∧ permission.user_id = userId))) with
  | [] => pure none
  | [permission] => pure (some permission)
  | _ => throw .otherException

/-! ## Creation -/

structure TablePermissionResponse where
  permission : TablePermission
  columns : List ColumnPermission

/-- The row that `create_permission` makes of the input, with the identifiers that
`create_table_permission` sets. -/
def ColumnPermissionInput.toRow (column : ColumnPermissionInput) (id permissionId : Uuid) :
    ColumnPermission where
  id := id
  table_permission_id := permissionId
  column_id := column.column_id
  can_read := column.can_read
  can_filter := column.can_filter
  can_aggregate := column.can_aggregate
  mask_type := column.mask_type.map ColumnMaskType.value

/-- One pass of the loop over the column permissions. -/
def addColumnPermission (newUuid : Nat → Uuid) (permissionId : Uuid)
    (state : Store × List ColumnPermission) (column : ColumnPermissionInput) :
    Service (Store × List ColumnPermission) := do
  let row := column.toRow (newUuid state.1.generated) permissionId
  let store ← state.1.insertColumnPermission row
  pure (store, state.2 ++ [row])

/-- `repositories.permissions.create_table_permission`. Rows get their identifiers when they are
flushed; the permission row is given as a function of its identifier. -/
def createTablePermission (newUuid : Nat → Uuid) (store : Store)
    (permission : Uuid → TablePermission) (columns : List ColumnPermissionInput) :
    Service (Store × TablePermissionResponse) := do
  let saved := permission (newUuid store.generated)
  let store ← store.insertTablePermission saved
  let (store, columnPermissions) ← columns.foldlM (addColumnPermission newUuid saved.id)
    (store, [])
  pure (store, ⟨saved, columnPermissions⟩)

def createPermission (newUuid : Nat → Uuid) (store : Store) (currentUser : User)
    (request : TablePermissionCreate) : Service (Store × TablePermissionResponse) := do
  requireTenantAdministrator currentUser
  let _ ← getDatabaseConnection store currentUser request.connection_id
  let _ ← validatePermissionTable store currentUser.tenant_id request.connection_id
    request.table_id
  validatePermissionSubject store currentUser.tenant_id request.role_id request.user_id
  validatePermissionColumns store currentUser.tenant_id request.table_id
    (request.columns.map ColumnPermissionInput.column_id)
  match ← findExistingTablePermission store currentUser.tenant_id request.table_id
      request.role_id request.user_id with
  | some _ =>
    throw (.duplicateTablePermissionError
      "The permission subject already has access rules for this table.")
  | none =>
    createTablePermission newUuid store
      (fun id =>
        { id := id
          tenant_id := currentUser.tenant_id
          role_id := request.role_id
          user_id := request.user_id
          connection_id := request.connection_id
          table_id := request.table_id
          can_read := request.can_read
          can_insert := request.can_insert
          can_update := request.can_update
          can_delete := request.can_delete
          row_filter := request.row_filter.modelDump })
      request.columns

/-! ## What a successful call has checked -/

variable {store store' : Store} {newUuid : Nat → Uuid}

/-- Each column of a request is a column of the table. -/
theorem validateColumns_ok {tenantId tableId : Uuid} {columnIds : List Uuid}
    (h : validatePermissionColumns store tenantId tableId columnIds = .ok ()) :
    ∀ id ∈ columnIds, ∃ column ∈ store.columns,
      column.id = id ∧ column.tenant_id = tenantId ∧ column.table_id = tableId := by
  intro id hid
  dsimp only [validatePermissionColumns] at h
  split at h
  · rename_i hnil
    rw [hnil] at hid
    cases hid
  · obtain ⟨-, h⟩ := guard_ok_iff.mp h
    obtain ⟨hequal, -⟩ := guard_ok_iff.mp h
    have hsubset := (not_not.mp hequal).2
    obtain ⟨valid, hvalid, hvalidId⟩ := List.mem_map.mp (hsubset hid)
    obtain ⟨hmem, hfilter⟩ := List.mem_filter.mp hvalid
    obtain ⟨htenant, htable, -⟩ := of_decide_eq_true hfilter
    exact ⟨valid, hmem, hvalidId, htenant, htable⟩

/-- The rows that a successful call has added. -/
structure Created (store store' : Store) (request : TablePermissionCreate)
    (permission : TablePermission) (added : List ColumnPermission) : Prop where
  table_permissions : store'.table_permissions = store.table_permissions ++ [permission]
  column_permissions : store'.column_permissions = store.column_permissions ++ added
  columns : store'.columns = store.columns
  table : permission.table_id = request.table_id
  parent : ∀ c ∈ added, c.table_permission_id = permission.id
  validated : ∀ c ∈ added, ∀ column ∈ store.columns, column.id = c.column_id →
    column.table_id = request.table_id

/-- What they take from the request. -/
structure Granted (store : Store) (currentUser : User) (request : TablePermissionCreate)
    (permission : TablePermission) (added : List ColumnPermission) : Prop where
  tenant : permission.tenant_id = currentUser.tenant_id
  can_read : permission.can_read = request.can_read
  row_filter : permission.row_filter = request.row_filter.modelDump
  columns : added.map (fun c => (c.column_id, c.can_read)) =
    request.columns.map (fun c => (c.column_id, c.can_read))
  found : ∀ c ∈ request.columns, ∃ column ∈ store.columns,
    column.id = c.column_id ∧ column.tenant_id = currentUser.tenant_id

/-- Nothing changes but the rows of the two tables of permissions. -/
theorem createTablePermission_tables {permission : Uuid → TablePermission}
    {columns : List ColumnPermissionInput} {response : TablePermissionResponse}
    (h : createTablePermission newUuid store permission columns = .ok (store', response)) :
    store'.toTables = { store.toTables with
      table_permissions := store.table_permissions ++ [response.permission]
      column_permissions := store.column_permissions ++ response.columns
      generated := store'.generated } := by
  unfold createTablePermission at h
  obtain ⟨inserted, hinserted, h⟩ := bind_ok_iff.mp h
  obtain ⟨⟨final, rows⟩, hloop, hpure⟩ := bind_ok_iff.mp h
  obtain ⟨rfl, rfl⟩ := Prod.mk.inj (pure_ok_iff.mp hpure)
  refine foldlM_ok_induction (fun _ state => state.1.toTables = { store.toTables with
      table_permissions := store.table_permissions ++ [permission (newUuid store.generated)]
      column_permissions := store.column_permissions ++ state.2
      generated := state.1.generated }) ?_ ?_ hloop
  · rw [checked_ok hinserted, List.append_nil]
  · intro done column rest state state' _ hstate hpass
    obtain ⟨next, hnext, hpure'⟩ := bind_ok_iff.mp hpass
    rw [← pure_ok_iff.mp hpure']
    dsimp only
    rw [checked_ok hnext, hstate]
    dsimp only
    rw [List.append_assoc]

theorem createTablePermission_ok {permission : Uuid → TablePermission}
    {columns : List ColumnPermissionInput} {response : TablePermissionResponse}
    (h : createTablePermission newUuid store permission columns = .ok (store', response)) :
    response.permission = permission (newUuid store.generated) ∧
      response.columns.map (fun c => (c.column_id, c.can_read)) =
        columns.map (fun c => (c.column_id, c.can_read)) ∧
      ∀ c ∈ response.columns, c.table_permission_id = response.permission.id := by
  unfold createTablePermission at h
  obtain ⟨inserted, -, h⟩ := bind_ok_iff.mp h
  obtain ⟨⟨final, rows⟩, hloop, hpure⟩ := bind_ok_iff.mp h
  obtain ⟨rfl, rfl⟩ := Prod.mk.inj (pure_ok_iff.mp hpure)
  refine ⟨rfl, ?_⟩
  refine foldlM_ok_induction
    (fun done state => state.2.map (fun c => (c.column_id, c.can_read)) =
        done.map (fun c => (c.column_id, c.can_read)) ∧
      ∀ c ∈ state.2, c.table_permission_id = (permission (newUuid store.generated)).id)
    ⟨rfl, fun c hc => absurd hc List.not_mem_nil⟩ ?_ hloop
  intro done column rest state state' _ hstate hpass
  obtain ⟨hgranted, hparent⟩ := hstate
  obtain ⟨next, -, hpure'⟩ := bind_ok_iff.mp hpass
  rw [← pure_ok_iff.mp hpure']
  refine ⟨?_, fun c hc => ?_⟩
  · rw [List.map_append, hgranted, List.map_append]
    rfl
  · rcases List.mem_append.mp hc with hold | hnew
    · exact hparent c hold
    · rw [List.mem_singleton.mp hnew]
      rfl

/-- The steps of a successful call. -/
theorem createPermission_ok {currentUser : User} {request : TablePermissionCreate}
    {response : TablePermissionResponse}
    (h : createPermission newUuid store currentUser request = .ok (store', response)) :
    (∃ table, validatePermissionTable store currentUser.tenant_id request.connection_id
        request.table_id = .ok table) ∧
      validatePermissionColumns store currentUser.tenant_id request.table_id
        (request.columns.map ColumnPermissionInput.column_id) = .ok () ∧
      createTablePermission newUuid store
        (fun id =>
          { id := id
            tenant_id := currentUser.tenant_id
            role_id := request.role_id
            user_id := request.user_id
            connection_id := request.connection_id
            table_id := request.table_id
            can_read := request.can_read
            can_insert := request.can_insert
            can_update := request.can_update
            can_delete := request.can_delete
            row_filter := request.row_filter.modelDump })
        request.columns = .ok (store', response) := by
  unfold createPermission at h
  obtain ⟨-, -, h⟩ := bind_ok_iff.mp h
  obtain ⟨-, -, h⟩ := bind_ok_iff.mp h
  obtain ⟨table, htable, h⟩ := bind_ok_iff.mp h
  obtain ⟨-, -, h⟩ := bind_ok_iff.mp h
  obtain ⟨⟨⟩, hcolumns, h⟩ := bind_ok_iff.mp h
  obtain ⟨existing, -, h⟩ := bind_ok_iff.mp h
  cases existing with
  | some permission => exact absurd h throw_ne_ok
  | none => exact ⟨⟨table, htable⟩, hcolumns, h⟩

theorem validateTable_ok {tenantId connectionId tableId : Uuid} {table : DatabaseTable}
    (h : validatePermissionTable store tenantId connectionId tableId = .ok table) :
    table ∈ store.tables ∧ table.id = tableId ∧ table.tenant_id = tenantId ∧
      table.connection_id = connectionId := by
  unfold validatePermissionTable at h
  split at h
  · rename_i found hfound
    obtain rfl := pure_ok_iff.mp h
    exact ⟨List.mem_of_find?_eq_some hfound, by simpa using List.find?_some hfound⟩
  · exact absurd h throw_ne_ok

theorem create_rows {currentUser : User} {request : TablePermissionCreate}
    {response : TablePermissionResponse}
    (h : createPermission newUuid store currentUser request = .ok (store', response)) :
    Created store store' request response.permission response.columns ∧
      Granted store currentUser request response.permission response.columns := by
  obtain ⟨-, hcolumns, hcreate⟩ := createPermission_ok h
  have htables := createTablePermission_tables hcreate
  obtain ⟨hpermission, hgranted, hparent⟩ := createTablePermission_ok hcreate
  refine ⟨⟨?_, ?_, ?_, ?_, hparent, ?_⟩, ⟨?_, ?_, ?_, hgranted, ?_⟩⟩
  · rw [htables]
  · rw [htables]
  · rw [htables]
  · rw [hpermission]
  · intro c hc column hcolumn hcolumnId
    have hpair : (c.column_id, c.can_read) ∈
        response.columns.map (fun c => (c.column_id, c.can_read)) :=
      List.mem_map.mpr ⟨c, hc, rfl⟩
    rw [hgranted] at hpair
    obtain ⟨input, hinput, hsamePair⟩ := List.mem_map.mp hpair
    obtain ⟨valid, hvalid, hvalidId, -, htable⟩ := validateColumns_ok hcolumns input.column_id
      (List.mem_map.mpr ⟨input, hinput, rfl⟩)
    have hsameColumn : column = valid := by
      apply store.keys.columns.eq_of_key hcolumn hvalid
      rw [hcolumnId, hvalidId, (Prod.mk.inj hsamePair).1]
    rw [hsameColumn, htable]
  · rw [hpermission]
  · rw [hpermission]
  · rw [hpermission]
  · intro input hinput
    obtain ⟨valid, hvalid, hvalidId, htenant, -⟩ := validateColumns_ok hcolumns input.column_id
      (List.mem_map.mpr ⟨input, hinput, rfl⟩)
    exact ⟨valid, hvalid, hvalidId, htenant⟩

end DataChat.Platform
