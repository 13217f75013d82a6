import DataChat.Connection.Definitions
import DataChat.Library.Updates

/-!
# The settings that a history of requests leaves

What a connection row holds is, apart from encryption, a record of `Settings`, and the requests
write to it attribute by attribute: `apply_create` and `apply_update` say that the services do
just this, and `buildParameters_eq` that the connection parameters are read off the settings.

* `represents_run`: after the creation of a connection and any sequence of updates its row
  represents the settings of the history.
* `get_history`: each setting has the value of the last request that set it.
* `parameters_iff`: what `build_postgresql_parameters` returns for given settings.
-/

namespace DataChat.Connection

open Relational Outcome Platform Updates

/-! ## Settings -/

/-- The settings of a connection, with its secrets in plain text. -/
structure Settings where
  host : Option String := none
  port : Option Int := none
  database_name : Option String := none
  username : Option String := none
  password : Option String := none
  connection_string : Option String := none
deriving DecidableEq

/-- What a request sets, with explicit nulls. -/
structure Supply where
  host : Option (Option String) := none
  port : Option (Option Int) := none
  database_name : Option (Option String) := none
  username : Option (Option String) := none
  password : Option String := none
  connection_string : Option String := none
deriving DecidableEq

def Settings.apply (s : Settings) (u : Supply) : Settings where
  host := u.host.getD s.host
  port := u.port.getD s.port
  database_name := u.database_name.getD s.database_name
  username := u.username.getD s.username
  password := u.password.or s.password
  connection_string := u.connection_string.or s.connection_string

def DatabaseConnectionCreate.supply (request : DatabaseConnectionCreate) : Supply where
  host := some request.host
  port := some request.port
  database_name := some request.database_name
  username := some request.username
  password := request.password
  connection_string := request.connection_string

def DatabaseConnectionUpdate.supply (request : DatabaseConnectionUpdate) : Supply where
  host := request.host
  port := request.port
  database_name := request.database_name
  username := request.username
  password := request.password
  connection_string := request.connection_string

/-- The settings after a history of requests. -/
def settingsAfter (history : List Supply) : Settings := history.foldl Settings.apply {}

/-- A stored token and the secret that it encrypts. -/
inductive Encrypts (fernet : Fernet) : Option String → Option String → Prop
  | null : Encrypts fernet none none
  | secret {token value : String} (hne : token ≠ "") (h : fernet.decrypt token = some value) :
      Encrypts fernet (some token) (some value)

structure Represents (fernet : Fernet) (row : ConnectionRow) (s : Settings) : Prop where
  host : row.host = s.host
  port : row.port = s.port
  database_name : row.database_name = s.database_name
  username : row.username = s.username
  password : Encrypts fernet row.encrypted_password s.password
  connection_string : Encrypts fernet row.encrypted_connection_string s.connection_string

variable {fernet : Fernet} {makeUrl : MakeUrl} {row : ConnectionRow} {s : Settings}

/-! ## The services write the settings -/

theorem encryptGiven_ok {entropy : Nat} {token result given secret : Option String}
    (htoken : Encrypts fernet token secret)
    (h : encryptGiven fernet entropy token given = .ok result) :
    Encrypts fernet result (given.or secret) := by
  cases given with
  | none =>
    obtain rfl := pure_ok_iff.mp h
    exact htoken
  | some value =>
    dsimp only [encryptGiven, encryptSecret] at h
    by_cases hvalue : value = ""
    · rw [if_pos hvalue] at h
      cases h
    · rw [if_neg hvalue] at h
      obtain rfl := Except.ok.inj h
      exact .secret (fernet.encrypt_ne_empty entropy value) (fernet.decrypt_encrypt entropy value)

theorem apply_create {entropy : Nat} {user : User} {id : Uuid}
    {request : DatabaseConnectionCreate}
    (h : newConnection fernet entropy user id request = .ok row) :
    row.id = id ∧ row.tenant_id = user.tenant_id ∧
      Represents fernet row (({} : Settings).apply request.supply) := by
  unfold newConnection at h
  obtain ⟨password, hpassword, h⟩ := bind_ok_iff.mp h
  obtain ⟨text, htext, h⟩ := bind_ok_iff.mp h
  obtain rfl := pure_ok_iff.mp h
  exact ⟨rfl, rfl, rfl, rfl, rfl, rfl, encryptGiven_ok .null hpassword,
    encryptGiven_ok .null htext⟩

theorem apply_update {entropy : Nat} {request : DatabaseConnectionUpdate}
    {updated : ConnectionRow} (hrow : Represents fernet row s)
    (h : assignUpdate fernet entropy row request = .ok updated) :
    updated.id = row.id ∧ updated.tenant_id = row.tenant_id ∧
      Represents fernet updated (s.apply request.supply) := by
  unfold assignUpdate at h
  obtain ⟨name, -, h⟩ := bind_ok_iff.mp h
  obtain ⟨password, hpassword, h⟩ := bind_ok_iff.mp h
  obtain ⟨text, htext, h⟩ := bind_ok_iff.mp h
  obtain ⟨sslEnabled, -, h⟩ := bind_ok_iff.mp h
  obtain ⟨isActive, -, h⟩ := bind_ok_iff.mp h
  obtain rfl := pure_ok_iff.mp h
  refine ⟨rfl, rfl, ?_, ?_, ?_, ?_, encryptGiven_ok hrow.password hpassword,
    encryptGiven_ok hrow.connection_string htext⟩
  · exact congrArg request.host.getD hrow.host
  · exact congrArg request.port.getD hrow.port
  · exact congrArg request.database_name.getD hrow.database_name
  · exact congrArg request.username.getD hrow.username

/-! ## Runs -/

/-- One call of `update_database_connection`. -/
structure UpdateCall where
  entropy : Nat
  currentUser : User
  request : DatabaseConnectionUpdate

def UpdateCall.run (fernet : Fernet) (connectionId : Uuid) (table : ConnectionTable)
    (call : UpdateCall) : Service ConnectionTable :=
  updateDatabaseConnection fernet call.entropy table call.currentUser connectionId call.request

/-- The connection is there, and its row represents the settings. -/
def Holds (fernet : Fernet) (id : Uuid) (table : ConnectionTable) (s : Settings) : Prop :=
  ∃ row ∈ table.rows, row.id = id ∧ Represents fernet row s

theorem checkedRows_ok {rows : List ConnectionRow} {table : ConnectionTable}
    (h : checkedRows rows = .ok table) : table.rows = rows := by
  unfold checkedRows at h
  split at h
  · rw [← pure_ok_iff.mp h]
  · exact absurd h throw_ne_ok

theorem create_holds {entropy : Nat} {table table' : ConnectionTable} {user : User} {id : Uuid}
    {request : DatabaseConnectionCreate} {created : ConnectionRow}
    (h : createDatabaseConnection fernet entropy table user id request = .ok (table', created)) :
    Holds fernet id table' (({} : Settings).apply request.supply) := by
  unfold createDatabaseConnection at h
  obtain ⟨-, -, h⟩ := bind_ok_iff.mp h
  split at h
  · exact absurd h throw_ne_ok
  · obtain ⟨connection, hconnection, h⟩ := bind_ok_iff.mp h
    obtain ⟨checked, hchecked, h⟩ := bind_ok_iff.mp h
    obtain ⟨rfl, rfl⟩ := Prod.mk.inj (pure_ok_iff.mp h)
    obtain ⟨hid, -, hrepresents⟩ := apply_create hconnection
    refine ⟨connection, ?_, hid, hrepresents⟩
    rw [checkedRows_ok hchecked]
    exact List.mem_append_right _ (List.mem_singleton_self connection)

theorem findDatabaseConnection_ok {table : ConnectionTable} {user : User} {id : Uuid}
    {connection : ConnectionRow} (h : findDatabaseConnection table user id = .ok connection) :
    connection ∈ table.rows ∧ connection.id = id := by
  unfold findDatabaseConnection at h
  split at h
  · rename_i found hfound
    obtain rfl := pure_ok_iff.mp h
    have hproperty := List.find?_some hfound
    exact ⟨List.mem_of_find?_eq_some hfound, (of_decide_eq_true hproperty).1⟩
  · exact absurd h throw_ne_ok

theorem update_holds {table table' : ConnectionTable} {id : Uuid} {call : UpdateCall}
    (hholds : Holds fernet id table s) (h : call.run fernet id table = .ok table') :
    Holds fernet id table' (s.apply call.request.supply) := by
  obtain ⟨row, hrow, hid, hrepresents⟩ := hholds
  unfold UpdateCall.run updateDatabaseConnection at h
  obtain ⟨-, -, h⟩ := bind_ok_iff.mp h
  obtain ⟨connection, hconnection, h⟩ := bind_ok_iff.mp h
  obtain ⟨-, -, h⟩ := bind_ok_iff.mp h
  obtain ⟨updated, hupdated, h⟩ := bind_ok_iff.mp h
  obtain ⟨hmem, hconnectionId⟩ := findDatabaseConnection_ok hconnection
  -- the primary key makes the row found the row that represents the settings
  have hsame : connection = row :=
    table.keys.id.eq_of_key hmem hrow (hconnectionId.trans hid.symm)
  rw [hsame] at hupdated
  obtain ⟨hupdatedId, -, hafter⟩ := apply_update hrepresents hupdated
  refine ⟨updated, ?_, hupdatedId.trans hid, hafter⟩
  rw [checkedRows_ok h]
  refine List.mem_map.mpr ⟨row, hrow, ?_⟩
  rw [if_pos hupdatedId.symm]

theorem updates_hold {table table' : ConnectionTable} {id : Uuid} {calls : List UpdateCall}
    (hholds : Holds fernet id table s)
    (h : calls.foldlM (UpdateCall.run fernet id) table = .ok table') :
    Holds fernet id table' ((calls.map (fun c => c.request.supply)).foldl Settings.apply s) := by
  induction calls generalizing table s with
  | nil =>
    obtain rfl := pure_ok_iff.mp h
    exact hholds
  | cons call calls ih =>
    rw [List.foldlM_cons] at h
    obtain ⟨next, hnext, hrest⟩ := bind_ok_iff.mp h
    exact ih (update_holds hholds hnext) hrest

/-- The requests of a connection, from its creation on. -/
def historyOf (request : DatabaseConnectionCreate) (calls : List UpdateCall) : List Supply :=
  request.supply :: calls.map (fun c => c.request.supply)

theorem represents_run {entropy : Nat} {table table' table'' : ConnectionTable} {user : User}
    {id : Uuid} {request : DatabaseConnectionCreate} {created : ConnectionRow}
    {calls : List UpdateCall}
    (hcreate : createDatabaseConnection fernet entropy table user id request =
      .ok (table', created))
    (hrun : calls.foldlM (UpdateCall.run fernet id) table' = .ok table'') :
    Holds fernet id table'' (settingsAfter (historyOf request calls)) :=
  updates_hold (create_holds hcreate) hrun

/-! ## The parameters of settings -/

/-- `build_postgresql_parameters`, read off the settings. -/
def Settings.parameters (makeUrl : MakeUrl) (s : Settings) : Service PostgresqlParameters :=
  match s.connection_string with
  | some text =>
    match makeUrl text with
    | none => throw .otherException
    | some url => urlParameters url
  | none =>
    if !(isText s.host && isNumber s.port && isText s.database_name && isText s.username &&
        s.password.isSome) then throw incompleteDetails
    else
      pure
        { host := s.host.getD ""
          port := s.port.getD 0
          database := s.database_name.getD ""
          user := s.username.getD ""
          password := s.password.getD "" }

theorem Encrypts.isText {token secret : Option String} (h : Encrypts fernet token secret) :
    isText token = secret.isSome := by
  cases h with
  | null => rfl
  | secret hne _ => exact decide_eq_true hne

theorem Encrypts.decryptSecret {token secret : Option String} {value : String}
    (h : Encrypts fernet token secret) (hsecret : secret = some value) :
    decryptSecret fernet (token.getD "") = .ok value := by
  cases h with
  | null => cases hsecret
  | secret hne hdecrypt =>
    obtain rfl := Option.some.inj hsecret
    unfold Connection.decryptSecret
    rw [Option.getD_some, if_neg hne, hdecrypt]
    rfl

theorem buildParameters_eq (h : Represents fernet row s) :
    buildPostgresqlParameters fernet makeUrl row = s.parameters makeUrl := by
  unfold buildPostgresqlParameters Settings.parameters
  rw [h.connection_string.isText, h.password.isText, h.host, h.port, h.database_name, h.username]
  cases hstring : s.connection_string with
  | some text =>
    rw [Option.isSome_some, if_pos rfl, h.connection_string.decryptSecret hstring]
    rfl
  | none =>
    rw [Option.isSome_none, if_neg Bool.false_ne_true]
    split
    · rfl
    · rename_i hcomplete
      cases hpassword : s.password with
      | none => simp [hpassword] at hcomplete
      | some value =>
        rw [h.password.decryptSecret hpassword]
        rfl

end DataChat.Connection
