import DataChat.Library.Text
import DataChat.Platform.Metadata

/-!
# The connection service

`schemas/database_connection.py`, `services/database/connection_service.py` and
`services/database/connection_tester.py`, with `core/encryption.py`. The rows have the columns
that these functions read or write; `ssl_settings` and `connection_options` are stored and handed
out, and nothing reads them.

A request carries the proofs of what its validators have checked. An attribute of an update is
`none` when it was not set, and `some none` when it was set to null.
-/

namespace DataChat.Connection

open Relational Outcome Platform

/-! ## Secrets -/

/-- Fernet encryption under the key of the settings. Two encryptions of a text differ, so
`encrypt` also takes the entropy. -/
structure Fernet where
  encrypt : Nat → String → String
  /-- `None` stands for `InvalidToken`. -/
  decrypt : String → Option String
  encrypt_ne_empty : ∀ entropy value, encrypt entropy value ≠ ""
  decrypt_encrypt : ∀ entropy value, decrypt (encrypt entropy value) = some value

def encryptSecret (fernet : Fernet) (entropy : Nat) (value : String) : Service String :=
  if value = "" then throw (.encryptionError "The secret value cannot be empty.")
  else pure (fernet.encrypt entropy value)

def decryptSecret (fernet : Fernet) (encryptedValue : String) : Service String :=
  if encryptedValue = "" then throw (.encryptionError "The encrypted value cannot be empty.")
  else
    match fernet.decrypt encryptedValue with
    | some value => pure value
    | none => throw (.encryptionError "The encrypted value is invalid or corrupted.")

/-! ## Rows and requests -/

structure ConnectionRow where
  id : Uuid
  tenant_id : Uuid
  name : String
  database_type : String
  host : Option String
  port : Option Int
  database_name : Option String
  username : Option String
  encrypted_password : Option String
  encrypted_connection_string : Option String
  ssl_enabled : Bool
  status : String
  last_tested_at : Option Datetime
  last_test_message : Option String
  schema_sync_status : String
  last_schema_sync_at : Option Datetime
  is_active : Bool
deriving DecidableEq

inductive DatabaseType
  | postgresql | mysql | sqlserver | oracle
deriving DecidableEq, Repr

def DatabaseType.value : DatabaseType → String
  | .postgresql => "postgresql"
  | .mysql => "mysql"
  | .sqlserver => "sqlserver"
  | .oracle => "oracle"

/-- `bool(text)`, for an optional text. -/
def isText : Option String → Bool
  | none => false
  | some text => decide (text ≠ "")

/-- `bool(number)`, for an optional number. -/
def isNumber : Option Int → Bool
  | none => false
  | some number => decide (number ≠ 0)

structure DatabaseConnectionCreate where
  name : String
  database_type : DatabaseType
  host : Option String := none
  port : Option Int := none
  database_name : Option String := none
  username : Option String := none
  ssl_enabled : Bool := false
  password : Option String := none
  connection_string : Option String := none
  name_length : 2 ≤ name.length ∧ name.length ≤ 200
  host_length : ∀ text ∈ host, text.length ≤ 255
  port_range : ∀ number ∈ port, 1 ≤ number ∧ number ≤ 65535
  database_name_length : ∀ text ∈ database_name, text.length ≤ 255
  username_length : ∀ text ∈ username, text.length ≤ 255
  password_length : ∀ text ∈ password, text ≠ ""
  connection_string_length : ∀ text ∈ connection_string, text ≠ ""
  /-- `validate_credentials`. -/
  credentials : connection_string ≠ none ∨ (isText host ∧ isNumber port ∧ isText database_name ∧
    isText username ∧ isText password)

structure DatabaseConnectionUpdate where
  name : Option (Option String) := none
  host : Option (Option String) := none
  port : Option (Option Int) := none
  database_name : Option (Option String) := none
  username : Option (Option String) := none
  password : Option String := none
  connection_string : Option String := none
  ssl_enabled : Option (Option Bool) := none
  is_active : Option (Option Bool) := none
  name_length : ∀ set ∈ name, ∀ text ∈ set, 2 ≤ text.length ∧ text.length ≤ 200
  host_length : ∀ set ∈ host, ∀ text ∈ set, text.length ≤ 255
  port_range : ∀ set ∈ port, ∀ number ∈ set, 1 ≤ number ∧ number ≤ 65535
  database_name_length : ∀ set ∈ database_name, ∀ text ∈ set, text.length ≤ 255
  username_length : ∀ set ∈ username, ∀ text ∈ set, text.length ≤ 255
  password_length : ∀ text ∈ password, text ≠ ""
  connection_string_length : ∀ text ∈ connection_string, text ≠ ""

/-! ## The table -/

/-- The primary key and `uq_database_connections_tenant_name`. -/
structure ConnectionKeys (rows : List ConnectionRow) : Prop where
  id : PrimaryKey ConnectionRow.id rows
  uq_database_connections_tenant_name :
    UniqueKey (fun row => some (row.tenant_id, row.name)) rows

instance (rows : List ConnectionRow) : Decidable (ConnectionKeys rows) :=
  decidable_of_iff (PrimaryKey ConnectionRow.id rows ∧
    UniqueKey (fun row => some (row.tenant_id, row.name)) rows)
    ⟨fun h => ⟨h.1, h.2⟩, fun h => ⟨h.id, h.uq_database_connections_tenant_name⟩⟩

structure ConnectionTable where
  rows : List ConnectionRow
  keys : ConnectionKeys rows
deriving DecidableEq

/-- The end of a statement that writes: the constraints are checked. -/
def checkedRows (rows : List ConnectionRow) : Service ConnectionTable :=
  if h : ConnectionKeys rows then pure ⟨rows, h⟩ else throw .integrityError

def getConnectionById (table : ConnectionTable) (tenantId connectionId : Uuid) :
    Option ConnectionRow :=
  table.rows.find? (fun row => row.id = connectionId ∧ row.tenant_id = tenantId)

def getConnectionByName (table : ConnectionTable) (tenantId : Uuid) (name : String) :
    Option ConnectionRow :=
  table.rows.find? (fun row => row.tenant_id = tenantId ∧ row.name = name)

/-- `repositories.connections.save_connection`: the attributes of the row are written. -/
def saveConnection (table : ConnectionTable) (connection : ConnectionRow) :
    Service ConnectionTable :=
  checkedRows (table.rows.map (fun row => if row.id = connection.id then connection else row))

/-! ## Creation -/

/-- `encrypt_secret` of a secret that is given, else the token there is. -/
def encryptGiven (fernet : Fernet) (entropy : Nat) (token : Option String) :
    Option String → Service (Option String)
  | none => pure token
  | some value => some <$> encryptSecret fernet entropy value

/-- The row of a request. -/
def newConnection (fernet : Fernet) (entropy : Nat) (currentUser : User) (id : Uuid)
    (request : DatabaseConnectionCreate) : Service ConnectionRow := do
  let encryptedPassword ← encryptGiven fernet entropy none request.password
  let encryptedConnectionString ← encryptGiven fernet entropy none request.connection_string
  pure
    { id := id
      tenant_id := currentUser.tenant_id
      name := strip request.name
      database_type := request.database_type.value
      host := request.host
      port := request.port
      database_name := request.database_name
      username := request.username
      encrypted_password := encryptedPassword
      encrypted_connection_string := encryptedConnectionString
      ssl_enabled := request.ssl_enabled
      status := "pending"
      last_tested_at := none
      last_test_message := none
      schema_sync_status := "pending"
      last_schema_sync_at := none
      is_active := true }

def duplicateName : Raised :=
  .duplicateConnectionNameError "A database connection with this name already exists."

def createDatabaseConnection (fernet : Fernet) (entropy : Nat) (table : ConnectionTable)
    (currentUser : User) (id : Uuid) (request : DatabaseConnectionCreate) :
    Service (ConnectionTable × ConnectionRow) := do
  requireTenantAdministrator currentUser
  match getConnectionByName table currentUser.tenant_id (strip request.name) with
  | some _ => throw duplicateName
  | none =>
    let connection ← newConnection fernet entropy currentUser id request
    let table ← checkedRows (table.rows ++ [connection])
    pure (table, connection)

/-! ## Update -/

def findDatabaseConnection (table : ConnectionTable) (currentUser : User) (connectionId : Uuid) :
    Service ConnectionRow :=
  match getConnectionById table currentUser.tenant_id connectionId with
  | some connection => pure connection
  | none => throw (.databaseConnectionNotFoundError "Database connection was not found.")

/-- `update_data["name"].strip()`, if the name is set. -/
def assignedName (connection : ConnectionRow) : Option (Option String) → Service String
  | none => pure connection.name
  | some none => throw .attributeError
  | some (some name) => pure (strip name)

/-- The value of a column that is not nullable: the commit refuses a null. -/
def assignedFlag (current : Bool) : Option (Option Bool) → Service Bool
  | none => pure current
  | some none => throw .integrityError
  | some (some value) => pure value

/-- The attributes of the connection after the assignments of `update_database_connection`. -/
def assignUpdate (fernet : Fernet) (entropy : Nat) (connection : ConnectionRow)
    (request : DatabaseConnectionUpdate) : Service ConnectionRow := do
  let name ← assignedName connection request.name
  let encryptedPassword ← encryptGiven fernet entropy connection.encrypted_password
    request.password
  let encryptedConnectionString ← encryptGiven fernet entropy
    connection.encrypted_connection_string request.connection_string
  let sslEnabled ← assignedFlag connection.ssl_enabled request.ssl_enabled
  let isActive ← assignedFlag connection.is_active request.is_active
  pure
    { connection with
      name := name
      host := request.host.getD connection.host
      port := request.port.getD connection.port
      database_name := request.database_name.getD connection.database_name
      username := request.username.getD connection.username
      encrypted_password := encryptedPassword
      encrypted_connection_string := encryptedConnectionString
      ssl_enabled := sslEnabled
      status := "pending"
      last_tested_at := none
      last_test_message := none
      schema_sync_status := "pending"
      last_schema_sync_at := none
      is_active := isActive }

/-- The new name must not be that of another connection of the tenant. -/
def checkName (table : ConnectionTable) (currentUser : User) (connection : ConnectionRow) :
    Option (Option String) → Service Unit
  | none => pure ()
  | some none => throw .attributeError
  | some (some name) =>
    match getConnectionByName table currentUser.tenant_id (strip name) with
    | some existing => if existing.id ≠ connection.id then throw duplicateName else pure ()
    | none => pure ()

def updateDatabaseConnection (fernet : Fernet) (entropy : Nat) (table : ConnectionTable)
    (currentUser : User) (connectionId : Uuid) (request : DatabaseConnectionUpdate) :
    Service ConnectionTable := do
  requireTenantAdministrator currentUser
  let connection ← findDatabaseConnection table currentUser connectionId
  checkName table currentUser connection request.name
  let updated ← assignUpdate fernet entropy connection request
  saveConnection table updated

/-! ## The parameters of a connection -/

/-- What `make_url` reads off a connection string. -/
structure Url where
  host : Option String
  port : Option Int
  database : Option String
  username : Option String
  password : Option String
deriving DecidableEq

/-- `make_url`, which raises an error for what is no URL. -/
abbrev MakeUrl := String → Option Url

structure PostgresqlParameters where
  host : String
  port : Int
  database : String
  user : String
  password : String
deriving DecidableEq

def incompleteString : Raised :=
  .valueError "The stored PostgreSQL connection string is incomplete."

def incompleteDetails : Raised :=
  .valueError "The stored database connection details are incomplete."

/-- The parameters in a connection string. -/
def urlParameters (url : Url) : Service PostgresqlParameters :=
  if !isText url.host || !isText url.database || !isText url.username then
    throw incompleteString
  else if !isText url.password then
    throw (.valueError "The stored PostgreSQL connection string has no password.")
  else
    pure
      { host := url.host.getD ""
        port := if isNumber url.port then url.port.getD 5432 else 5432
        database := url.database.getD ""
        user := url.username.getD ""
        password := url.password.getD "" }

def buildPostgresqlParameters (fernet : Fernet) (makeUrl : MakeUrl) (connection : ConnectionRow) :
    Service PostgresqlParameters := do
  if isText connection.encrypted_connection_string then
    let connectionString ← decryptSecret fernet
      (connection.encrypted_connection_string.getD "")
    match makeUrl connectionString with
    | none => throw .otherException
    | some url => urlParameters url
  else if !(isText connection.host && isNumber connection.port &&
      isText connection.database_name && isText connection.username &&
      isText connection.encrypted_password) then
    throw incompleteDetails
  else
    let password ← decryptSecret fernet (connection.encrypted_password.getD "")
    pure
      { host := connection.host.getD ""
        port := connection.port.getD 0
        database := connection.database_name.getD ""
        user := connection.username.getD ""
        password := password }

end DataChat.Connection
