import DataChat.Core.Permissions
import DataChat.Library.Outcome
import DataChat.Library.Relational
import Mathlib.Tactic.MkIffOfInductiveProp

/-!
# The platform database

The tables of `models/` that decide what a user may read: users and roles, connections, the
metadata cache of each connection, and the permissions. `Keys` and `References` are the
constraints that the models declare, and a `Store` satisfies them. Each statement either is
refused with an `IntegrityError` or leads to a store again: insertions are checked, and deletions
cascade as the foreign keys declare (`ON DELETE CASCADE`).

A UUID is its text. The value of `uuid_generate_v4()` is that of a sequence of which nothing is
assumed: an identifier that is taken already is refused by the primary key.
-/

namespace DataChat.Platform

open Relational

abbrev Uuid := String

/-- A point in time. -/
abbrev Datetime := Int

inductive Raised
  | integrityError
  | tenantAdministratorRequiredError (message : String)
  | databaseConnectionNotFoundError (message : String)
  | permissionResourceNotFoundError (message : String)
  | duplicateTablePermissionError (message : String)
  | duplicateConnectionNameError (message : String)
  | unsupportedDatabaseTypeError (message : String)
  | encryptionError (message : String)
  | attributeError
  | valueError (message : String)
  | schemaDiscoveryError (message : String)
  | otherException
deriving DecidableEq, Repr

abbrev Service := Except Raised

/-! ## Rows -/

structure User where
  id : Uuid
  tenant_id : Uuid
  is_tenant_admin : Bool

structure Role where
  id : Uuid
  tenant_id : Uuid

structure UserRole where
  user_id : Uuid
  role_id : Uuid

structure DatabaseConnection where
  id : Uuid
  tenant_id : Uuid
  database_type : String
  schema_sync_status : String
  last_schema_sync_at : Option Datetime

structure DatabaseSchema where
  id : Uuid
  tenant_id : Uuid
  connection_id : Uuid
  schema_name : String
  description : Option String

structure DatabaseTable where
  id : Uuid
  tenant_id : Uuid
  connection_id : Uuid
  schema_id : Uuid
  table_name : String
  table_type : String
  description : Option String
  estimated_row_count : Option Int
  primary_key_columns : List String
  is_enabled : Bool
  is_sensitive : Bool
  table_metadata : JsonObject

structure DatabaseColumn where
  id : Uuid
  tenant_id : Uuid
  table_id : Uuid
  column_name : String
  data_type : String
  ordinal_position : Option Int
  is_nullable : Option Bool
  is_primary_key : Bool
  is_foreign_key : Bool
  is_sensitive : Bool
  referenced_schema : Option String
  referenced_table : Option String
  referenced_column : Option String
  description : Option String
  sample_values : List Json

structure TablePermission where
  id : Uuid
  tenant_id : Uuid
  role_id : Option Uuid
  user_id : Option Uuid
  connection_id : Uuid
  table_id : Uuid
  can_read : Bool
  can_insert : Bool
  can_update : Bool
  can_delete : Bool
  row_filter : JsonObject

structure ColumnPermission where
  id : Uuid
  table_permission_id : Uuid
  column_id : Uuid
  can_read : Bool
  can_filter : Bool
  can_aggregate : Bool
  mask_type : Option String

structure Tables where
  users : List User
  roles : List Role
  user_roles : List UserRole
  connections : List DatabaseConnection
  schemas : List DatabaseSchema
  tables : List DatabaseTable
  columns : List DatabaseColumn
  table_permissions : List TablePermission
  column_permissions : List ColumnPermission
  /-- How many UUIDs the server has generated. -/
  generated : Nat

/-! ## Constraints -/

/-- The primary keys, the unique constraints and the check constraint. -/
@[mk_iff]
structure Keys (t : Tables) : Prop where
  users : PrimaryKey User.id t.users
  roles : PrimaryKey Role.id t.roles
  user_roles : PrimaryKey (fun r => (r.user_id, r.role_id)) t.user_roles
  connections : PrimaryKey DatabaseConnection.id t.connections
  schemas : PrimaryKey DatabaseSchema.id t.schemas
  tables : PrimaryKey DatabaseTable.id t.tables
  columns : PrimaryKey DatabaseColumn.id t.columns
  table_permissions : PrimaryKey TablePermission.id t.table_permissions
  column_permissions : PrimaryKey ColumnPermission.id t.column_permissions
  uq_database_schemas_connection_name :
    UniqueKey (fun s => some (s.connection_id, s.schema_name)) t.schemas
  uq_database_tables_connection_schema_name :
    UniqueKey (fun d => some (d.connection_id, d.schema_id, d.table_name)) t.tables
  uq_database_columns_table_name :
    UniqueKey (fun c => some (c.table_id, c.column_name)) t.columns
  uq_table_permissions_role_table :
    UniqueKey (fun p => p.role_id.map (fun r => (r, p.table_id))) t.table_permissions
  uq_table_permissions_user_table :
    UniqueKey (fun p => p.user_id.map (fun u => (u, p.table_id))) t.table_permissions
  uq_column_permissions_table_permission_column :
    UniqueKey (fun c => some (c.table_permission_id, c.column_id)) t.column_permissions
  permission_subject : ∀ p ∈ t.table_permissions, p.role_id.isSome ≠ p.user_id.isSome

/-- The foreign keys. -/
@[mk_iff]
structure References (t : Tables) : Prop where
  user_roles_user : ForeignKey (fun r => some r.user_id) t.user_roles User.id t.users
  user_roles_role : ForeignKey (fun r => some r.role_id) t.user_roles Role.id t.roles
  schemas_connection :
    ForeignKey (fun s => some s.connection_id) t.schemas DatabaseConnection.id t.connections
  tables_connection :
    ForeignKey (fun d => some d.connection_id) t.tables DatabaseConnection.id t.connections
  tables_schema : ForeignKey (fun d => some d.schema_id) t.tables DatabaseSchema.id t.schemas
  columns_table : ForeignKey (fun c => some c.table_id) t.columns DatabaseTable.id t.tables
  permissions_role : ForeignKey TablePermission.role_id t.table_permissions Role.id t.roles
  permissions_user : ForeignKey TablePermission.user_id t.table_permissions User.id t.users
  permissions_connection : ForeignKey (fun p => some p.connection_id) t.table_permissions
    DatabaseConnection.id t.connections
  permissions_table :
    ForeignKey (fun p => some p.table_id) t.table_permissions DatabaseTable.id t.tables
  column_permissions_permission : ForeignKey (fun c => some c.table_permission_id)
    t.column_permissions TablePermission.id t.table_permissions
  column_permissions_column :
    ForeignKey (fun c => some c.column_id) t.column_permissions DatabaseColumn.id t.columns

instance (t : Tables) : Decidable (Keys t) := decidable_of_iff' _ (keys_iff t)

instance (t : Tables) : Decidable (References t) := decidable_of_iff' _ (references_iff t)

structure Store extends Tables where
  keys : Keys toTables
  references : References toTables

/-- A store without rows. -/
def Store.empty : Store :=
  ⟨⟨[], [], [], [], [], [], [], [], [], 0⟩, by decide, by decide⟩

/-- The end of a statement that writes: the constraints are checked. -/
def Tables.checked (t : Tables) : Service Store :=
  if h : Keys t ∧ References t then pure ⟨t, h.1, h.2⟩ else throw .integrityError

theorem checked_ok {t : Tables} {store : Store} (h : t.checked = .ok store) :
    store.toTables = t := by
  unfold Tables.checked at h
  split at h
  · rw [← Outcome.pure_ok_iff.mp h]
  · exact absurd h Outcome.throw_ne_ok

/-! ## Insertions -/

def Store.insertSchema (store : Store) (row : DatabaseSchema) : Service Store :=
  { store.toTables with
    schemas := store.schemas ++ [row], generated := store.generated + 1 }.checked

def Store.insertTable (store : Store) (row : DatabaseTable) : Service Store :=
  { store.toTables with
    tables := store.tables ++ [row], generated := store.generated + 1 }.checked

def Store.insertColumn (store : Store) (row : DatabaseColumn) : Service Store :=
  { store.toTables with
    columns := store.columns ++ [row], generated := store.generated + 1 }.checked

def Store.insertTablePermission (store : Store) (row : TablePermission) : Service Store :=
  { store.toTables with
    table_permissions := store.table_permissions ++ [row],
    generated := store.generated + 1 }.checked

def Store.insertColumnPermission (store : Store) (row : ColumnPermission) : Service Store :=
  { store.toTables with
    column_permissions := store.column_permissions ++ [row],
    generated := store.generated + 1 }.checked

/-! ## Deletions -/

/-- The rows that are left when all rows with a missing parent are deleted, from the parents
downwards. -/
def Tables.cascade (t : Tables) : Tables :=
  let userRoles := (t.user_roles.filter
    (hasParent (fun r => some r.user_id) User.id t.users)).filter
    (hasParent (fun r => some r.role_id) Role.id t.roles)
  let schemas := t.schemas.filter
    (hasParent (fun s => some s.connection_id) DatabaseConnection.id t.connections)
  let tables := (t.tables.filter
    (hasParent (fun d => some d.connection_id) DatabaseConnection.id t.connections)).filter
    (hasParent (fun d => some d.schema_id) DatabaseSchema.id schemas)
  let columns := t.columns.filter (hasParent (fun c => some c.table_id) DatabaseTable.id tables)
  let tablePermissions := (((t.table_permissions.filter
    (hasParent TablePermission.role_id Role.id t.roles)).filter
    (hasParent TablePermission.user_id User.id t.users)).filter
    (hasParent (fun p => some p.connection_id) DatabaseConnection.id t.connections)).filter
    (hasParent (fun p => some p.table_id) DatabaseTable.id tables)
  let columnPermissions := (t.column_permissions.filter
    (hasParent (fun c => some c.table_permission_id) TablePermission.id tablePermissions)).filter
    (hasParent (fun c => some c.column_id) DatabaseColumn.id columns)
  { t with
    user_roles := userRoles, schemas := schemas, tables := tables, columns := columns,
    table_permissions := tablePermissions, column_permissions := columnPermissions }

theorem cascade_references (t : Tables) : References t.cascade where
  user_roles_user := (foreignKey_cascade _ _ _ _).subset List.filter_sublist.subset
  user_roles_role := foreignKey_cascade _ _ _ _
  schemas_connection := foreignKey_cascade _ _ _ _
  tables_connection := (foreignKey_cascade _ _ _ _).subset List.filter_sublist.subset
  tables_schema := foreignKey_cascade _ _ _ _
  columns_table := foreignKey_cascade _ _ _ _
  permissions_role := (foreignKey_cascade _ _ _ _).subset
    (((List.filter_sublist.trans List.filter_sublist).trans List.filter_sublist).subset)
  permissions_user := (foreignKey_cascade _ _ _ _).subset
    ((List.filter_sublist.trans List.filter_sublist).subset)
  permissions_connection := (foreignKey_cascade _ _ _ _).subset List.filter_sublist.subset
  permissions_table := foreignKey_cascade _ _ _ _
  column_permissions_permission := (foreignKey_cascade _ _ _ _).subset List.filter_sublist.subset
  column_permissions_column := foreignKey_cascade _ _ _ _

/-- Only rows of the second are left in the first. -/
structure Tables.Sub (t' t : Tables) : Prop where
  users : t'.users.Sublist t.users
  roles : t'.roles.Sublist t.roles
  user_roles : t'.user_roles.Sublist t.user_roles
  connections : t'.connections.Sublist t.connections
  schemas : t'.schemas.Sublist t.schemas
  tables : t'.tables.Sublist t.tables
  columns : t'.columns.Sublist t.columns
  table_permissions : t'.table_permissions.Sublist t.table_permissions
  column_permissions : t'.column_permissions.Sublist t.column_permissions

theorem Keys.sub {t t' : Tables} (h : Keys t) (hsub : t'.Sub t) : Keys t' where
  users := h.users.sublist hsub.users
  roles := h.roles.sublist hsub.roles
  user_roles := h.user_roles.sublist hsub.user_roles
  connections := h.connections.sublist hsub.connections
  schemas := h.schemas.sublist hsub.schemas
  tables := h.tables.sublist hsub.tables
  columns := h.columns.sublist hsub.columns
  table_permissions := h.table_permissions.sublist hsub.table_permissions
  column_permissions := h.column_permissions.sublist hsub.column_permissions
  uq_database_schemas_connection_name :=
    h.uq_database_schemas_connection_name.sublist hsub.schemas
  uq_database_tables_connection_schema_name :=
    h.uq_database_tables_connection_schema_name.sublist hsub.tables
  uq_database_columns_table_name := h.uq_database_columns_table_name.sublist hsub.columns
  uq_table_permissions_role_table :=
    h.uq_table_permissions_role_table.sublist hsub.table_permissions
  uq_table_permissions_user_table :=
    h.uq_table_permissions_user_table.sublist hsub.table_permissions
  uq_column_permissions_table_permission_column :=
    h.uq_column_permissions_table_permission_column.sublist hsub.column_permissions
  permission_subject := fun p hp => h.permission_subject p (hsub.table_permissions.subset hp)

theorem Tables.Sub.trans {t t' t'' : Tables} (h : t''.Sub t') (h' : t'.Sub t) : t''.Sub t where
  users := h.users.trans h'.users
  roles := h.roles.trans h'.roles
  user_roles := h.user_roles.trans h'.user_roles
  connections := h.connections.trans h'.connections
  schemas := h.schemas.trans h'.schemas
  tables := h.tables.trans h'.tables
  columns := h.columns.trans h'.columns
  table_permissions := h.table_permissions.trans h'.table_permissions
  column_permissions := h.column_permissions.trans h'.column_permissions

theorem Tables.Sub.refl (t : Tables) : t.Sub t where
  users := List.Sublist.refl _
  roles := List.Sublist.refl _
  user_roles := List.Sublist.refl _
  connections := List.Sublist.refl _
  schemas := List.Sublist.refl _
  tables := List.Sublist.refl _
  columns := List.Sublist.refl _
  table_permissions := List.Sublist.refl _
  column_permissions := List.Sublist.refl _

theorem cascade_sub (t : Tables) : t.cascade.Sub t where
  users := List.Sublist.refl _
  roles := List.Sublist.refl _
  user_roles := List.filter_sublist.trans List.filter_sublist
  connections := List.Sublist.refl _
  schemas := List.filter_sublist
  tables := List.filter_sublist.trans List.filter_sublist
  columns := List.filter_sublist
  table_permissions := ((List.filter_sublist.trans List.filter_sublist).trans
    List.filter_sublist).trans List.filter_sublist
  column_permissions := List.filter_sublist.trans List.filter_sublist

/-- `DELETE`: what is left of the store when only these rows remain of it. -/
def Store.delete (store : Store) (remaining : Tables) (h : remaining.Sub store.toTables) :
    Store :=
  ⟨remaining.cascade, (store.keys.sub h).sub (cascade_sub remaining), cascade_references remaining⟩

theorem delete_sub (store : Store) (remaining : Tables) (h : remaining.Sub store.toTables) :
    (store.delete remaining h).toTables.Sub store.toTables :=
  (cascade_sub remaining).trans h

def Store.deleteColumns (store : Store) (p : DatabaseColumn → Bool) : Store :=
  store.delete { store.toTables with columns := store.columns.filter (fun c => !p c) }
    { Tables.Sub.refl _ with columns := List.filter_sublist }

def Store.deleteTables (store : Store) (p : DatabaseTable → Bool) : Store :=
  store.delete { store.toTables with tables := store.tables.filter (fun d => !p d) }
    { Tables.Sub.refl _ with tables := List.filter_sublist }

def Store.deleteSchemas (store : Store) (p : DatabaseSchema → Bool) : Store :=
  store.delete { store.toTables with schemas := store.schemas.filter (fun s => !p s) }
    { Tables.Sub.refl _ with schemas := List.filter_sublist }

def Store.deleteConnections (store : Store) (p : DatabaseConnection → Bool) : Store :=
  store.delete { store.toTables with connections := store.connections.filter (fun c => !p c) }
    { Tables.Sub.refl _ with connections := List.filter_sublist }

end DataChat.Platform
