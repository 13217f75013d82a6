import DataChat.Connection.Histories
import DataChat.Library.WriteBack
import Mathlib.Logic.Relation

/-!
# Tests and updates of one connection that overlap

Each call of `update_database_connection` and of `test_stored_database_connection` has a session
of its own. It reads the row; a test then contacts the database with what it has read; at its end
the session writes the attributes it has changed. In between, other sessions end.

A connection whose status is `connected` should have been tested with the settings that are
stored now.

* `trusted_commit_iff`: what must not happen between the reading and the end of a session, for one
  session.
* `connected_was_tested`: what follows for whole runs.
* `overlap_not_trusted`: a test and an update that overlap.
-/

namespace DataChat.Connection

open Outcome Platform

/-! ## Tests -/

structure ConnectionTestResult where
  success : Bool
  message : String
deriving DecidableEq, Repr

/-- What comes of the attempt to connect and to run `SELECT 1`. -/
inductive Contact
  | answers | timeout | fails
deriving DecidableEq, Repr

def testPostgresqlConnection (fernet : Fernet) (makeUrl : MakeUrl) (connection : ConnectionRow)
    (contact : Contact) : Service ConnectionTestResult := do
  let _ ← buildPostgresqlParameters fernet makeUrl connection
  match contact with
  | .answers => pure ⟨true, "Database connection tested successfully."⟩
  | .timeout => pure ⟨false, "Database connection test timed out."⟩
  | .fails => pure ⟨false, "Database connection test failed."⟩

def testDatabaseConnection (fernet : Fernet) (makeUrl : MakeUrl) (connection : ConnectionRow)
    (contact : Contact) : Service ConnectionTestResult :=
  if connection.database_type ≠ "postgresql" then
    throw (.unsupportedDatabaseTypeError
      "Connection testing is currently implemented for PostgreSQL.")
  else testPostgresqlConnection fernet makeUrl connection contact

/-- The test was made, and was successful. -/
def isSuccess : Service ConnectionTestResult → Bool
  | .ok result => result.success
  | .error _ => false

/-- The attributes of the connection when `test_stored_database_connection` saves it. After other
exceptions than `UnsupportedDatabaseTypeError` it saves nothing. -/
def assignTest (testedAt : Datetime) (connection : ConnectionRow) :
    Service ConnectionTestResult → Option ConnectionRow
  | .ok result => some
    { connection with
      status := if result.success then "connected" else "failed"
      last_tested_at := some testedAt
      last_test_message := some result.message }
  | .error (.unsupportedDatabaseTypeError _) => some
    { connection with
      status := "failed"
      last_tested_at := some testedAt
      last_test_message := some "Connection testing is not available for this database type." }
  | .error _ => none

/-! ## Sessions -/

/-- A call that has read the row and has not ended. -/
inductive Session
  | updating (loaded : ConnectionRow) (entropy : Nat) (request : DatabaseConnectionUpdate)
  | testing (loaded : ConnectionRow) (testedAt : Datetime)
  | tested (loaded : ConnectionRow) (testedAt : Datetime) (contact : Contact)

/-- The row as the session has read it. -/
def Session.loaded : Session → ConnectionRow
  | updating loaded _ _ | testing loaded _ | tested loaded _ _ => loaded

/-- The row as the session leaves it, unless it raises before it saves. -/
def Session.assigned (fernet : Fernet) (makeUrl : MakeUrl) : Session → Option ConnectionRow
  | updating loaded entropy request => (assignUpdate fernet entropy loaded request).toOption
  | testing _ _ => none
  | tested loaded testedAt contact =>
    assignTest testedAt loaded (testDatabaseConnection fernet makeUrl loaded contact)

/-- The session is a test that the database has answered. -/
def Session.succeeded (fernet : Fernet) (makeUrl : MakeUrl) : Session → Bool
  | tested loaded _ contact => isSuccess (testDatabaseConnection fernet makeUrl loaded contact)
  | _ => false

/-- `UPDATE` of the columns that the session has changed. -/
def commitRow (loaded assigned stored : ConnectionRow) : ConnectionRow where
  id := stored.id
  tenant_id := stored.tenant_id
  name := writeBack loaded.name assigned.name stored.name
  database_type := writeBack loaded.database_type assigned.database_type stored.database_type
  host := writeBack loaded.host assigned.host stored.host
  port := writeBack loaded.port assigned.port stored.port
  database_name := writeBack loaded.database_name assigned.database_name stored.database_name
  username := writeBack loaded.username assigned.username stored.username
  encrypted_password :=
    writeBack loaded.encrypted_password assigned.encrypted_password stored.encrypted_password
  encrypted_connection_string := writeBack loaded.encrypted_connection_string
    assigned.encrypted_connection_string stored.encrypted_connection_string
  ssl_enabled := writeBack loaded.ssl_enabled assigned.ssl_enabled stored.ssl_enabled
  status := writeBack loaded.status assigned.status stored.status
  last_tested_at := writeBack loaded.last_tested_at assigned.last_tested_at stored.last_tested_at
  last_test_message :=
    writeBack loaded.last_test_message assigned.last_test_message stored.last_test_message
  schema_sync_status :=
    writeBack loaded.schema_sync_status assigned.schema_sync_status stored.schema_sync_status
  last_schema_sync_at :=
    writeBack loaded.last_schema_sync_at assigned.last_schema_sync_at stored.last_schema_sync_at
  is_active := writeBack loaded.is_active assigned.is_active stored.is_active

/-- What a test connects with. -/
structure TestedSettings where
  host : Option String
  port : Option Int
  database_name : Option String
  username : Option String
  password : Option String
  connection_string : Option String
  ssl_enabled : Bool
deriving DecidableEq

def settingsOf (fernet : Fernet) (row : ConnectionRow) : TestedSettings where
  host := row.host
  port := row.port
  database_name := row.database_name
  username := row.username
  password := row.encrypted_password.bind fernet.decrypt
  connection_string := row.encrypted_connection_string.bind fernet.decrypt
  ssl_enabled := row.ssl_enabled

/-! ## Runs -/

/-- The stored row, the sessions that have not ended, and the settings of the last successful
test. -/
structure Shared where
  row : ConnectionRow
  sessions : List Session
  lastSuccess : Option TestedSettings

/-- A connection that has just been created. -/
def Shared.created (row : ConnectionRow) : Shared := ⟨row, [], none⟩

/-- The state after the end of a session. -/
def Shared.commit (fernet : Fernet) (makeUrl : MakeUrl) (s : Shared) (session : Session)
    (assigned : ConnectionRow) (remaining : List Session) : Shared where
  row := commitRow session.loaded assigned s.row
  sessions := remaining
  lastSuccess :=
    if session.succeeded fernet makeUrl then some (settingsOf fernet session.loaded)
    else s.lastSuccess

/-- The steps of the sessions, in any order. Sessions end only in states that `allowed` admits. -/
inductive Advance (fernet : Fernet) (makeUrl : MakeUrl) (allowed : Shared → Session → Prop) :
    Shared → Shared → Prop
  | beginUpdate {s : Shared} (entropy : Nat) (request : DatabaseConnectionUpdate) :
      Advance fernet makeUrl allowed s
        { s with sessions := s.sessions ++ [.updating s.row entropy request] }
  | beginTest {s : Shared} (testedAt : Datetime) :
      Advance fernet makeUrl allowed s
        { s with sessions := s.sessions ++ [.testing s.row testedAt] }
  | contact {s : Shared} {front back : List Session} {loaded : ConnectionRow}
      {testedAt : Datetime} (hs : s.sessions = front ++ .testing loaded testedAt :: back)
      (contact : Contact) :
      Advance fernet makeUrl allowed s
        { s with sessions := front ++ .tested loaded testedAt contact :: back }
  | commit {s : Shared} {front back : List Session} {session : Session}
      {assigned : ConnectionRow} (hs : s.sessions = front ++ session :: back)
      (hassigned : session.assigned fernet makeUrl = some assigned)
      (hallowed : allowed s session) :
      Advance fernet makeUrl allowed s
        (s.commit fernet makeUrl session assigned (front ++ back))
  | abandon {s : Shared} {front back : List Session} {session : Session}
      (hs : s.sessions = front ++ session :: back) :
      Advance fernet makeUrl allowed s { s with sessions := front ++ back }

/-- The states that the calls lead to. -/
def RunOf (fernet : Fernet) (makeUrl : MakeUrl) (allowed : Shared → Session → Prop) :
    Shared → Shared → Prop := Relation.ReflTransGen (Advance fernet makeUrl allowed)

/-! ## What a session may find at its end -/

/-- If the status is `connected`, the last successful test had the settings stored now. -/
def Trusted (fernet : Fernet) (s : Shared) : Prop :=
  s.row.status = "connected" → s.lastSuccess = some (settingsOf fernet s.row)

/-- What the end of a session must find. After a successful test, the settings that it has read
are stored, or the status is left as it is and is no longer `connected`. An update that has read
the status `pending`, which it then does not write, finds a status other than `connected`, or
leaves the settings as they are. -/
def Undisturbed (fernet : Fernet) (makeUrl : MakeUrl) (s : Shared) (session : Session) : Prop :=
  match session with
  | .updating loaded entropy request =>
    loaded.status = "pending" → s.row.status = "connected" →
      ∀ assigned, assignUpdate fernet entropy loaded request = .ok assigned →
        settingsOf fernet (commitRow loaded assigned s.row) = settingsOf fernet s.row
  | _ =>
    session.succeeded fernet makeUrl = true →
      (session.loaded.status = "connected" → s.row.status = "connected") →
        settingsOf fernet session.loaded = settingsOf fernet s.row

variable {fernet : Fernet} {makeUrl : MakeUrl} {s : Shared}

/-- A test changes no settings, and its status says whether it has succeeded. -/
theorem assignTest_some (fernet : Fernet) {testedAt : Datetime}
    {connection assigned : ConnectionRow}
    {result : Service ConnectionTestResult}
    (h : assignTest testedAt connection result = some assigned) :
    (∀ stored, settingsOf fernet (commitRow connection assigned stored) =
      settingsOf fernet stored) ∧
      ((isSuccess result = true ∧ assigned.status = "connected") ∨
        (isSuccess result = false ∧ assigned.status = "failed")) := by
  unfold assignTest at h
  split at h
  · rename_i r
    obtain rfl := Option.some.inj h
    refine ⟨fun stored => by simp [settingsOf, commitRow], ?_⟩
    show (r.success = true ∧ _) ∨ (r.success = false ∧ _)
    cases r.success with
    | true => exact Or.inl ⟨rfl, rfl⟩
    | false => exact Or.inr ⟨rfl, rfl⟩
  · obtain rfl := Option.some.inj h
    exact ⟨fun stored => by simp [settingsOf, commitRow], Or.inr ⟨rfl, rfl⟩⟩
  · cases h

theorem status_assignUpdate {entropy : Nat} {loaded assigned : ConnectionRow}
    {request : DatabaseConnectionUpdate}
    (h : assignUpdate fernet entropy loaded request = .ok assigned) :
    assigned.status = "pending" := by
  unfold assignUpdate at h
  obtain ⟨name, -, h⟩ := bind_ok_iff.mp h
  obtain ⟨password, -, h⟩ := bind_ok_iff.mp h
  obtain ⟨text, -, h⟩ := bind_ok_iff.mp h
  obtain ⟨sslEnabled, -, h⟩ := bind_ok_iff.mp h
  obtain ⟨isActive, -, h⟩ := bind_ok_iff.mp h
  rw [← pure_ok_iff.mp h]

theorem ok_of_toOption {α : Type} {x : Service α} {a : α} (h : x.toOption = some a) :
    x = .ok a := by
  cases x with
  | error e => cases h
  | ok b =>
    rw [Option.some.inj h]

/-- The end of an update, in a state that can be trusted. -/
theorem trusted_update_iff {loaded assigned : ConnectionRow} {entropy : Nat}
    {request : DatabaseConnectionUpdate} {remaining : List Session} (hs : Trusted fernet s)
    (hassigned : assignUpdate fernet entropy loaded request = .ok assigned) :
    Trusted fernet (s.commit fernet makeUrl (.updating loaded entropy request) assigned remaining) ↔
      Undisturbed fernet makeUrl s (.updating loaded entropy request) := by
  have hstatus := status_assignUpdate hassigned
  have hconnected : writeBack loaded.status assigned.status s.row.status = "connected" ↔
      loaded.status = "pending" ∧ s.row.status = "connected" := by
    rw [hstatus, writeBack_eq_iff (by decide)]
    exact and_congr_left' eq_comm
  constructor
  · intro htrusted hpending hrow assigned' hassigned'
    obtain rfl := Except.ok.inj (hassigned.symm.trans hassigned')
    have hsame := htrusted (hconnected.mpr ⟨hpending, hrow⟩)
    have hbefore := hs hrow
    exact Option.some.inj (hsame.symm.trans hbefore)
  · intro hundisturbed hafter
    obtain ⟨hpending, hrow⟩ := hconnected.mp hafter
    have hsettings := hundisturbed hpending hrow assigned hassigned
    show s.lastSuccess = _
    rw [hs hrow]
    exact congrArg some hsettings.symm

/-- The end of a test, in a state that can be trusted. -/
theorem trusted_test_iff {loaded assigned : ConnectionRow} {testedAt : Datetime}
    {contact : Contact} {remaining : List Session} (hs : Trusted fernet s)
    (hassigned : assignTest testedAt loaded
      (testDatabaseConnection fernet makeUrl loaded contact) = some assigned) :
    Trusted fernet (s.commit fernet makeUrl (.tested loaded testedAt contact) assigned remaining) ↔
      Undisturbed fernet makeUrl s (.tested loaded testedAt contact) := by
  obtain ⟨hsettings, hresult⟩ := assignTest_some fernet hassigned
  unfold Trusted Undisturbed Shared.commit
  dsimp only [Session.loaded]
  rw [hsettings]
  rcases hresult with ⟨hsuccess, hstatus⟩ | ⟨hfailed, hstatus⟩
  · have hconnected : (commitRow loaded assigned s.row).status = "connected" ↔
        (loaded.status = "connected" → s.row.status = "connected") := by
      show writeBack loaded.status assigned.status s.row.status = "connected" ↔ _
      rw [hstatus]
      by_cases hloaded : loaded.status = "connected"
      · rw [hloaded, writeBack_loaded]
        simp
      · unfold writeBack
        rw [if_neg (Ne.symm hloaded)]
        simp [hloaded]
    have hsucceeded :
        (Session.tested loaded testedAt contact).succeeded fernet makeUrl = true := hsuccess
    rw [if_pos hsucceeded, hconnected]
    simp [hsucceeded]
  · -- a test that has failed leaves the settings of the last success
    have hsucceeded :
        ¬ (Session.tested loaded testedAt contact).succeeded fernet makeUrl = true := by
      show ¬ isSuccess _ = true
      rw [hfailed]
      exact Bool.false_ne_true
    rw [if_neg hsucceeded]
    refine ⟨fun _ h => absurd h hsucceeded, fun _ hafter => ?_⟩
    have hwritten : writeBack loaded.status assigned.status s.row.status = "connected" := hafter
    rw [hstatus, writeBack_eq_iff (by decide)] at hwritten
    exact hs hwritten.2

/-- A session that ends in a trusted state leaves one exactly when it was not disturbed. -/
theorem trusted_commit_iff {session : Session} {assigned : ConnectionRow}
    {remaining : List Session} (hs : Trusted fernet s)
    (hassigned : session.assigned fernet makeUrl = some assigned) :
    Trusted fernet (s.commit fernet makeUrl session assigned remaining) ↔
      Undisturbed fernet makeUrl s session := by
  cases session with
  | updating loaded entropy request => exact trusted_update_iff hs (ok_of_toOption hassigned)
  | testing loaded testedAt => cases hassigned
  | tested loaded testedAt contact => exact trusted_test_iff hs hassigned

theorem advance_trusted {s' : Shared} (hs : Trusted fernet s)
    (h : Advance fernet makeUrl (Undisturbed fernet makeUrl) s s') : Trusted fernet s' := by
  cases h with
  | beginUpdate entropy request => exact hs
  | beginTest testedAt => exact hs
  | contact _ _ => exact hs
  | commit _ hassigned hallowed => exact (trusted_commit_iff hs hassigned).mpr hallowed
  | abandon _ => exact hs

/-- In a run whose sessions were not disturbed, a connection is `connected` only when the last
successful test had the settings that are stored. -/
theorem connected_was_tested (makeUrl : MakeUrl) {row : ConnectionRow}
    (hcreated : row.status = "pending")
    (hrun : RunOf fernet makeUrl (Undisturbed fernet makeUrl) (Shared.created row) s) :
    Trusted fernet s := by
  induction hrun with
  | refl =>
    intro hconnected
    have hpending : row.status = "connected" := hconnected
    rw [hcreated] at hpending
    exact absurd hpending (by decide)
  | tail _ hstep ih => exact advance_trusted ih hstep

/-! ## Two runs -/

def salesTest : Session := .testing (salesRow (some "old-host")) 1

def salesTested : Session := .tested (salesRow (some "old-host")) 1 .answers

def salesMove : Session := .updating (salesRow (some "old-host")) 0 moveHost.request

/-- The row after a test that was answered. -/
def connectedRow (host : Option String) : ConnectionRow :=
  { salesRow host with
    status := "connected"
    last_tested_at := some 1
    last_test_message := some "Database connection tested successfully." }

def salesSettings : TestedSettings := settingsOf letterFernet (salesRow (some "old-host"))

theorem salesTested_assigned :
    salesTested.assigned letterFernet salesUrl = some (connectedRow (some "old-host")) := by
  decide +kernel

theorem salesTested_commit (host : Option String) (remaining : List Session)
    (h : commitRow (salesRow (some "old-host")) (connectedRow (some "old-host")) (salesRow host) =
      connectedRow host) (lastSuccess : Option TestedSettings) :
    Shared.commit letterFernet salesUrl ⟨salesRow host, [], lastSuccess⟩ salesTested
        (connectedRow (some "old-host")) remaining =
      ⟨connectedRow host, remaining, some salesSettings⟩ := by
  have hsucceeded : salesTested.succeeded letterFernet salesUrl = true := by decide +kernel
  unfold Shared.commit
  rw [if_pos hsucceeded]
  exact congrArg (fun row => Shared.mk row remaining (some salesSettings)) h

theorem oldHost_fits : ∀ text ∈ some "old-host", text.length ≤ 255 := by decide

/-- An update that leaves the host as it is. -/
def salesStay : Session :=
  .updating (salesRow (some "old-host")) 0 (hostUpdate (some "old-host") oldHost_fits).request

theorem salesStay_assigned :
    salesStay.assigned letterFernet salesUrl = some (salesRow (some "old-host")) := by
  decide +kernel

theorem salesStay_keeps : commitRow (salesRow (some "old-host")) (salesRow (some "old-host"))
    (connectedRow (some "old-host")) = connectedRow (some "old-host") := by
  decide +kernel

/-- A test and an update read the same row, the test ends, and then the update is stored: the
connection is `connected`, and can be trusted. -/
theorem sales_trusted :
    (connectedRow (some "old-host")).status = "connected" ∧
      Trusted letterFernet ⟨connectedRow (some "old-host"), [], some salesSettings⟩ := by
  have hpending : (salesRow (some "old-host")).status = "pending" := rfl
  refine ⟨rfl, connected_was_tested salesUrl hpending ?_⟩
  have hbeginTest : Advance letterFernet salesUrl (Undisturbed letterFernet salesUrl)
      ⟨salesRow (some "old-host"), [], none⟩ ⟨salesRow (some "old-host"), [salesTest], none⟩ :=
    .beginTest 1
  have hbeginUpdate : Advance letterFernet salesUrl (Undisturbed letterFernet salesUrl)
      ⟨salesRow (some "old-host"), [salesTest], none⟩
      ⟨salesRow (some "old-host"), [salesTest, salesStay], none⟩ :=
    .beginUpdate 0 (hostUpdate (some "old-host") oldHost_fits).request
  have hcontact : Advance letterFernet salesUrl (Undisturbed letterFernet salesUrl)
      ⟨salesRow (some "old-host"), [salesTest, salesStay], none⟩
      ⟨salesRow (some "old-host"), [salesTested, salesStay], none⟩ :=
    @Advance.contact _ _ _ _ [] [salesStay] _ _ rfl .answers
  have htested : Advance letterFernet salesUrl (Undisturbed letterFernet salesUrl)
      ⟨salesRow (some "old-host"), [salesTested, salesStay], none⟩
      ⟨connectedRow (some "old-host"), [salesStay], some salesSettings⟩ := by
    rw [← salesTested_commit (some "old-host") [salesStay] (by decide +kernel) none]
    exact @Advance.commit _ _ _ _ [] [salesStay] salesTested _ rfl salesTested_assigned
      (fun _ _ => rfl)
  have hundisturbed : Undisturbed letterFernet salesUrl
      ⟨connectedRow (some "old-host"), [salesStay], some salesSettings⟩ salesStay := by
    intro _ _ assigned hassigned
    have hsame : some assigned = some (salesRow (some "old-host")) := by
      rw [← salesStay_assigned]
      exact (congrArg Except.toOption hassigned).symm
    rw [Option.some.inj hsame]
    exact congrArg (settingsOf letterFernet) salesStay_keeps
  have hupdated : Advance letterFernet salesUrl (Undisturbed letterFernet salesUrl)
      ⟨connectedRow (some "old-host"), [salesStay], some salesSettings⟩
      ⟨connectedRow (some "old-host"), [], some salesSettings⟩ := by
    have hstep := @Advance.commit letterFernet salesUrl (Undisturbed letterFernet salesUrl)
      ⟨connectedRow (some "old-host"), [salesStay], some salesSettings⟩ [] [] salesStay _ rfl
      salesStay_assigned hundisturbed
    have hstate : Shared.commit letterFernet salesUrl
        ⟨connectedRow (some "old-host"), [salesStay], some salesSettings⟩ salesStay
        (salesRow (some "old-host")) [] =
          ⟨connectedRow (some "old-host"), [], some salesSettings⟩ :=
      congrArg (fun row => Shared.mk row [] (some salesSettings)) salesStay_keeps
    rw [← hstate]
    exact hstep
  exact .head hbeginTest (.head hbeginUpdate (.head hcontact (.head htested (.single hupdated))))

/-- A test reads the old host, an update to a new host is stored, and then the test ends: the
connection is `connected` although the new host was never contacted. -/
theorem overlap_not_trusted :
    RunOf letterFernet salesUrl (fun _ _ => True) (Shared.created (salesRow (some "old-host")))
        ⟨connectedRow (some "new-host"), [], some salesSettings⟩ ∧
      (connectedRow (some "new-host")).status = "connected" ∧
      ¬ Trusted letterFernet ⟨connectedRow (some "new-host"), [], some salesSettings⟩ := by
  refine ⟨?_, rfl, fun h => absurd (h rfl) (by decide +kernel)⟩
  have hbeginTest : Advance letterFernet salesUrl (fun _ _ => True)
      ⟨salesRow (some "old-host"), [], none⟩ ⟨salesRow (some "old-host"), [salesTest], none⟩ :=
    .beginTest 1
  have hbeginUpdate : Advance letterFernet salesUrl (fun _ _ => True)
      ⟨salesRow (some "old-host"), [salesTest], none⟩
      ⟨salesRow (some "old-host"), [salesTest, salesMove], none⟩ :=
    .beginUpdate 0 moveHost.request
  have hupdate : Advance letterFernet salesUrl (fun _ _ => True)
      ⟨salesRow (some "old-host"), [salesTest, salesMove], none⟩
      ⟨salesRow (some "new-host"), [salesTest], none⟩ := by
    have hassigned : salesMove.assigned letterFernet salesUrl =
        some (salesRow (some "new-host")) := by decide +kernel
    have hrow : commitRow (salesRow (some "old-host")) (salesRow (some "new-host"))
        (salesRow (some "old-host")) = salesRow (some "new-host") := by decide +kernel
    have hstep := @Advance.commit letterFernet salesUrl (fun _ _ => True)
      ⟨salesRow (some "old-host"), [salesTest, salesMove], none⟩ [salesTest] [] salesMove _ rfl
      hassigned trivial
    have hstate : Shared.commit letterFernet salesUrl
        ⟨salesRow (some "old-host"), [salesTest, salesMove], none⟩ salesMove
        (salesRow (some "new-host")) [salesTest] =
          ⟨salesRow (some "new-host"), [salesTest], none⟩ :=
      congrArg (fun row => Shared.mk row [salesTest] none) hrow
    rw [← hstate]
    exact hstep
  have hcontact : Advance letterFernet salesUrl (fun _ _ => True)
      ⟨salesRow (some "new-host"), [salesTest], none⟩
      ⟨salesRow (some "new-host"), [salesTested], none⟩ :=
    @Advance.contact _ _ _ _ [] [] _ _ rfl .answers
  have hcommit : Advance letterFernet salesUrl (fun _ _ => True)
      ⟨salesRow (some "new-host"), [salesTested], none⟩
      ⟨connectedRow (some "new-host"), [], some salesSettings⟩ := by
    rw [← salesTested_commit (some "new-host") [] (by decide +kernel) none]
    exact @Advance.commit _ _ _ _ [] [] salesTested _ rfl salesTested_assigned trivial
  exact .head hbeginTest (.head hbeginUpdate (.head hupdate (.head hcontact (.single hcommit))))

end DataChat.Connection
