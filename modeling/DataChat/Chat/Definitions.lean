import DataChat.Audit.Definitions
import DataChat.Connection.Definitions
import DataChat.Executor.Definitions
import DataChat.Library.Session
import DataChat.Security.Definitions

/-!
# Conversations

`repositories/messages.py`, `services/database/secure_query_service.py`, the audit service, and the
services of the three kinds of conversation: `document_chat_service.py`,
`database_chat_service.py` and `hybrid_chat_service.py`.

A row is what the application writes, with the identifier and the time of creation that the
server fills in. `created_at` is `now()`: the time at which the transaction has begun, the same for
all rows that it inserts. The source database, the retrieval of document chunks and the
permission-filtered schema are arguments, and so is whether the platform database refuses a commit.
-/

namespace DataChat.Chat

open Platform Transactions Audit

/-! ## Rows -/

structure Conversation where
  id : Uuid
  tenant_id : Uuid
  user_id : Uuid
  connection_id : Option Uuid
  knowledge_base_id : Option Uuid
  mode : String

/-- A row of which the server fills in the primary key and the time of creation. -/
structure Stored (α : Type) where
  id : Uuid
  created_at : Datetime
  fields : α

structure Message where
  tenant_id : Uuid
  conversation_id : Uuid
  user_id : Option Uuid
  role : String
  content : String
  status : String
  token_count : Option Nat
  latency_ms : Option Int
  message_metadata : JsonObject

structure MessageCitation where
  tenant_id : Uuid
  message_id : Uuid
  citation_type : String
  document_id : Option Uuid
  document_chunk_id : Option Uuid
  query_execution_id : Option Uuid
  source_name : String
  excerpt : Option String
  page_number : Option Int
  section_title : Option String
  similarity_score : Option PyFloat
  citation_metadata : JsonObject

structure QueryExecution where
  tenant_id : Uuid
  user_id : Option Uuid
  conversation_id : Option Uuid
  message_id : Option Uuid
  connection_id : Uuid
  proposed_sql : String
  secured_sql : Option String
  status : String
  error_code : Option String
  row_count : Option Nat
  result_size_bytes : Option Nat
  execution_time_ms : Option Int
  applied_limit : Option Int
  row_filters_applied : Bool
  referenced_tables : List String
  referenced_columns : List String
  execution_metadata : JsonObject

structure AuditLog where
  tenant_id : Uuid
  user_id : Option Uuid
  action : String
  resource_type : String
  resource_id : Option Uuid
  outcome : String
  audit_metadata : JsonObject

structure ChatStore where
  conversations : List Conversation
  messages : List (Stored Message)
  citations : List (Stored MessageCitation)
  query_executions : List (Stored QueryExecution)
  audit_logs : List (Stored AuditLog)
  /-- How many UUIDs the server has generated. -/
  generated : Nat

/-- The exceptions that the functions below tell apart. -/
inductive Raised
  | platform (error : Platform.Raised)
  | security (error : Security.Raised)
  | execution (error : Executor.Raised)
  | conversationNotFoundError (message : String)
  | unsupportedConversationModeError (message : String)
  | knowledgeBaseNotFoundError (message : String)
  | documentRetrievalError (message : String)
  | valueError (message : String)
  | typeError
  | sqlAlchemyError
  | otherException
deriving DecidableEq

abbrev Run (α : Type) := Program Raised ChatStore α

/-- A step outside of the platform database, or that only reads it. -/
def outside {α : Type} : Except Raised α → Run α
  | .ok a => pure a
  | .error e => throw e

@[simp]
theorem exec_outside {α : Type} (result : Except Raised α) (session : Session ChatStore) :
    exec (outside result) session = (result, session) := by
  cases result <;> rfl

/-! ## The surroundings of a call -/

structure Surroundings where
  newUuid : Nat → Uuid
  /-- `uuid.uuid4()`, for the message of a citation before it is known. -/
  temporaryId : Uuid
  /-- When the transaction of the call has begun. -/
  now : Datetime
  /-- When the transaction that follows the commit has begun. -/
  afterCommit : Datetime
  latencyMs : Int
  commitsRefused : Bool

def commitOrRaise (around : Surroundings) : Run Unit :=
  if around.commitsRefused then throw .sqlAlchemyError else commit

/-- The server fills in the rest of a row. -/
def fillIn {α : Type} (around : Surroundings) (now : Datetime) (fields : α) : Run (Stored α) := do
  let store ← read
  write (fun store => { store with generated := store.generated + 1 })
  pure ⟨around.newUuid store.generated, now, fields⟩

def addMessage (around : Surroundings) (message : Message) : Run (Stored Message) := do
  let row ← fillIn around around.now message
  write (fun store => { store with messages := store.messages ++ [row] })
  pure row

def addCitation (around : Surroundings) (citation : MessageCitation) :
    Run (Stored MessageCitation) := do
  let row ← fillIn around around.now citation
  write (fun store => { store with citations := store.citations ++ [row] })
  pure row

def addQueryExecution (around : Surroundings) (queryExecution : QueryExecution) :
    Run (Stored QueryExecution) := do
  let row ← fillIn around around.now queryExecution
  write (fun store => { store with query_executions := store.query_executions ++ [row] })
  pure row

/-! ## Audit events -/

def recordAuditEvent (py : Casing) (around : Surroundings) (auditLog : AuditLog) :
    Run (Stored AuditLog) := do
  let sanitized := { auditLog with
    audit_metadata := sanitizeAuditMetadata py auditLog.audit_metadata }
  let row ← fillIn around around.afterCommit sanitized
  write (fun store => { store with audit_logs := store.audit_logs ++ [row] })
  commitOrRaise around
  pure row

end DataChat.Chat
