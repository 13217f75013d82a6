import DataChat.Chat.Definitions

/-!
# The services of conversations

The exchanges of `repositories/messages.py`, `run_secure_query`, and `create_document_message`,
`create_database_message` and `create_hybrid_message`.
-/

namespace DataChat.Chat

open Platform Transactions Connection

/-! ## Texts -/

/-- `text.split()`. -/
def splitWords (text : String) : List String :=
  ((text.toList.splitOnP isSpace).filter (fun word => !word.isEmpty)).map String.ofList

/-- `" ".join(text.split())`. -/
def normalizeSpaces (text : String) : String := joinWith " " (splitWords text)

def estimateMessageTokens (content : String) : Nat := max 1 (content.length / 4)

def jsonInt (n : Int) : Json := .number (decide (n < 0)) (toString n.natAbs)

/-- A new line of indented JSON. -/
def newLine (level : Nat) : String := "\n" ++ String.ofList (List.replicate (2 * level) ' ')

mutual

/-- `json.dumps(value, ensure_ascii=False, indent=2)`, inside of `level` brackets. -/
def jsonIndented (level : Nat) : PyValue → Option String
  | .tuple items | .list items => do
    let texts ← jsonIndentedItems (level + 1) items
    if texts.isEmpty then pure "[]"
    else pure ("[" ++ newLine (level + 1) ++ joinWith ("," ++ newLine (level + 1)) texts ++
      newLine level ++ "]")
  | .dict items => do
    let texts ← jsonIndentedFields (level + 1) items
    if texts.isEmpty then pure "\x7b\x7d"
    else pure ("\x7b" ++ newLine (level + 1) ++ joinWith ("," ++ newLine (level + 1)) texts ++
      newLine level ++ "\x7d")
  | value => jsonDumps value

def jsonIndentedItems (level : Nat) : List PyValue → Option (List String)
  | [] => some []
  | item :: items => do
    let text ← jsonIndented level item
    let texts ← jsonIndentedItems level items
    pure (text :: texts)

def jsonIndentedFields (level : Nat) : List (PyValue × PyValue) → Option (List String)
  | [] => some []
  | (key, value) :: items => do
    let keyText ← jsonKey key
    let text ← jsonIndented level value
    let texts ← jsonIndentedFields level items
    pure ((keyText ++ ": " ++ text) :: texts)

end

/-- The rows of a result as JSON. -/
def rowsText (rows : List Executor.Row) : Except Raised String :=
  match jsonIndented 0 (.list (rows.map Executor.rowValue)) with
  | some text => pure text
  | none => throw .typeError

/-! ## Secure queries -/

/-- What `run_secure_query` works with, besides its arguments. -/
structure QuerySteps where
  rt : PyRuntime
  glot : Sql.Sqlglot
  fernet : Fernet
  makeUrl : MakeUrl
  connections : ConnectionTable
  /-- What comes of `build_permission_filtered_schema`. -/
  permitted : Service AllowedSchema
  /-- What comes of connecting to the source database and of the statement there. -/
  fetched : String → Except Executor.FetchError (List Executor.Record)
  elapsedMs : Int
  sqlDefaultRowLimit : Int
  sqlTimeoutSeconds : Int
  sqlMaxResultBytes : Int

structure SecureQueryExecution where
  security : Security.SecureQueryResult
  execution : Executor.QueryExecutionResult

def executeSecuredQuery (steps : QuerySteps) (connection : ConnectionRow) (sql : String)
    (allowedSchema : AllowedSchema) : Except Raised Executor.QueryExecutionResult := do
  if connection.database_type ≠ "postgresql" then
    throw (.execution (.queryExecutionError
      "Query execution is currently available for PostgreSQL connections."))
  -- The parameters are built after the limits have been checked, and before the `try` block.
  if 1 ≤ steps.sqlTimeoutSeconds ∧ 1 ≤ steps.sqlMaxResultBytes then
    let _ ← (buildPostgresqlParameters steps.fernet steps.makeUrl connection).mapError .platform
  (Executor.executePostgresqlQuery steps.rt allowedSchema steps.sqlTimeoutSeconds
    steps.sqlMaxResultBytes (steps.fetched sql) steps.elapsedMs).mapError .execution

def runSecureQuery (steps : QuerySteps) (currentUser : User) (connectionId : Uuid)
    (proposedSql : String) : Except Raised SecureQueryExecution := do
  let connection ←
    (findDatabaseConnection steps.connections currentUser connectionId).mapError .platform
  if !connection.is_active then
    throw (.valueError "The selected database connection is disabled.")
  if connection.status ≠ "connected" then
    throw (.valueError ("The selected database connection must be tested " ++
      "successfully before query execution."))
  let allowedSchema ← steps.permitted.mapError .platform
  let securityResult ← (Security.prepareValidatedSql
    ⟨steps.rt.casing, steps.glot, allowedSchema, currentUser.tenant_id, currentUser.id⟩
    steps.sqlDefaultRowLimit proposedSql).mapError .security
  let executionResult ← executeSecuredQuery steps connection securityResult.sql allowedSchema
  pure ⟨securityResult, executionResult⟩

/-! ## Exchanges of messages -/

structure MessageResponse where
  message : Stored Message
  citations : List (Stored MessageCitation)

structure MessageExchange where
  user_message : MessageResponse
  assistant_message : MessageResponse

def createMessageExchange (around : Surroundings) (userMessage assistantMessage : Message)
    (citations : List MessageCitation) : Run MessageExchange := do
  let savedUserMessage ← addMessage around userMessage
  let savedAssistantMessage ← addMessage around assistantMessage
  let savedCitations ← citations.mapM (fun citation =>
    addCitation around { citation with message_id := savedAssistantMessage.id })
  commitOrRaise around
  pure ⟨⟨savedUserMessage, []⟩, ⟨savedAssistantMessage, savedCitations⟩⟩

def createDatabaseMessageExchange (around : Surroundings)
    (userMessage assistantMessage : Message) (queryExecution : QueryExecution)
    (citation : MessageCitation) : Run (MessageExchange × Stored QueryExecution) := do
  let savedUserMessage ← addMessage around userMessage
  let savedAssistantMessage ← addMessage around assistantMessage
  let savedQueryExecution ← addQueryExecution around
    { queryExecution with message_id := some savedAssistantMessage.id }
  let savedCitation ← addCitation around
    { citation with
      message_id := savedAssistantMessage.id
      query_execution_id := some savedQueryExecution.id }
  commitOrRaise around
  pure (⟨⟨savedUserMessage, []⟩, ⟨savedAssistantMessage, [savedCitation]⟩⟩, savedQueryExecution)

def createHybridMessageExchange (around : Surroundings)
    (userMessage assistantMessage : Message) (queryExecution : QueryExecution)
    (citations : List MessageCitation) : Run (MessageExchange × Stored QueryExecution) := do
  let savedUserMessage ← addMessage around userMessage
  let savedAssistantMessage ← addMessage around assistantMessage
  let savedQueryExecution ← addQueryExecution around
    { queryExecution with message_id := some savedAssistantMessage.id }
  let savedCitations ← citations.mapM (fun citation => addCitation around
    { citation with
      message_id := savedAssistantMessage.id
      query_execution_id :=
        if citation.citation_type = "database" then some savedQueryExecution.id
        else citation.query_execution_id })
  commitOrRaise around
  pure (⟨⟨savedUserMessage, []⟩, ⟨savedAssistantMessage, savedCitations⟩⟩, savedQueryExecution)

/-! ## What the services share -/

def getConversationById (store : ChatStore) (tenantId userId conversationId : Uuid) :
    Option Conversation :=
  store.conversations.find? (fun conversation => conversation.id = conversationId ∧
    conversation.tenant_id = tenantId ∧ conversation.user_id = userId)

def getConversation (currentUser : User) (conversationId : Uuid) : Run Conversation := do
  let store ← read
  match getConversationById store currentUser.tenant_id currentUser.id conversationId with
  | some conversation => pure conversation
  | none => throw (.conversationNotFoundError "Conversation was not found.")

/-- The reference of a conversation that its mode needs. -/
def requireReference (message : String) : Option Uuid → Run Uuid
  | some id => pure id
  | none => throw (.unsupportedConversationModeError message)

def requireMode (mode message : String) (conversation : Conversation) : Run Unit :=
  if conversation.mode ≠ mode then throw (.unsupportedConversationModeError message) else pure ()

def userMessage (currentUser : User) (conversation : Conversation) (mode content : String) :
    Message where
  tenant_id := currentUser.tenant_id
  conversation_id := conversation.id
  user_id := some currentUser.id
  role := "user"
  content := content
  status := "completed"
  token_count := some (estimateMessageTokens content)
  latency_ms := none
  message_metadata := [("mode", .string mode)]

def assistantMessage (around : Surroundings) (currentUser : User) (conversation : Conversation)
    (content : String) (metadata : JsonObject) : Message where
  tenant_id := currentUser.tenant_id
  conversation_id := conversation.id
  user_id := none
  role := "assistant"
  content := content
  status := "completed"
  token_count := some (estimateMessageTokens content)
  latency_ms := some around.latencyMs
  message_metadata := metadata

structure RetrievedDocumentChunk (N : Type := PyFloat) where
  document_id : Uuid
  document_name : String
  chunk_id : Uuid
  chunk_index : Nat
  page_number : Option Int
  section_title : Option String
  similarity_score : N
  content : String

/-- What comes of `retrieve_relevant_chunks`. -/
abbrev Retrieval := Except Raised (List RetrievedDocumentChunk)

def documentCitation (around : Surroundings) (currentUser : User) (knowledgeBaseId : Uuid)
    (retrieved : RetrievedDocumentChunk) : MessageCitation where
  tenant_id := currentUser.tenant_id
  message_id := around.temporaryId
  citation_type := "document"
  document_id := some retrieved.document_id
  document_chunk_id := some retrieved.chunk_id
  query_execution_id := none
  source_name := retrieved.document_name
  excerpt := some retrieved.content
  page_number := retrieved.page_number
  section_title := retrieved.section_title
  similarity_score := some retrieved.similarity_score
  citation_metadata := [("chunk_index", jsonInt retrieved.chunk_index),
    ("knowledge_base_id", .string knowledgeBaseId)]

def databaseCitation (around : Surroundings) (currentUser : User)
    (result : SecureQueryExecution) : MessageCitation where
  tenant_id := currentUser.tenant_id
  message_id := around.temporaryId
  citation_type := "database"
  document_id := none
  document_chunk_id := none
  query_execution_id := none
  source_name := joinWith ", " result.security.referenced_tables
  excerpt := some result.security.sql
  page_number := none
  section_title := none
  similarity_score := none
  citation_metadata := [("row_count", jsonInt result.execution.row_count),
    ("referenced_columns", .array (result.security.referenced_columns.map Json.string)),
    ("applied_limit", jsonInt result.security.applied_limit),
    ("row_filters_applied", .bool result.security.row_filters_applied)]

/-- The parts of an answer that cite retrieved chunks, numbered from one. -/
def numberedParts (mark : String) (matched : List RetrievedDocumentChunk) : List String :=
  (matched.zipIdx 1).map (fun part =>
    "[" ++ mark ++ toString part.2 ++ "] " ++ normalizeSpaces part.1.content)

/-! ## Document conversations -/

structure MessageCreate where
  content : String
  content_length : 2 ≤ content.length ∧ content.length ≤ 10000

def buildGroundedDocumentResponse (question : String) (matched : List RetrievedDocumentChunk) :
    String :=
  if matched.isEmpty then
    "I could not find relevant information in the selected knowledge base."
  else
    joinWith "\n\n" (["Relevant information found in the selected documents:"] ++
      numberedParts "" matched ++
      ["This response is based only on the cited document " ++
        "content retrieved for the question: " ++ strip question])

def createDocumentMessage (around : Surroundings) (retrieval : Retrieval) (currentUser : User)
    (conversationId : Uuid) (request : MessageCreate) : Run MessageExchange := do
  let conversation ← getConversation currentUser conversationId
  requireMode "document" "This endpoint currently supports document conversations only."
    conversation
  let knowledgeBaseId ← requireReference "The document conversation has no knowledge base."
    conversation.knowledge_base_id
  let normalizedQuestion := strip request.content
  let matched ← outside retrieval
  createMessageExchange around
    (userMessage currentUser conversation "document" normalizedQuestion)
    (assistantMessage around currentUser conversation
      (buildGroundedDocumentResponse normalizedQuestion matched)
      [("mode", .string "document"), ("retrieved_chunk_count", jsonInt matched.length),
        ("grounded", .bool !matched.isEmpty)])
    (matched.map (documentCitation around currentUser knowledgeBaseId))

/-! ## Database conversations -/

structure DatabaseMessageCreate where
  content : String
  proposed_sql : String
  content_length : 2 ≤ content.length ∧ content.length ≤ 10000
  proposed_sql_length : 1 ≤ proposed_sql.length ∧ proposed_sql.length ≤ 50000

def buildDatabaseAnswer (result : Executor.QueryExecutionResult) : Except Raised String :=
  if result.rows.isEmpty then
    pure "The secured database query completed successfully but returned no rows."
  else do
    let resultJson ← rowsText result.rows
    pure ("The secured query returned " ++ toString result.row_count ++ " row(s).\n\n" ++
      "Columns: " ++ joinWith ", " result.columns ++ "\n\n" ++ "Results:\n" ++ resultJson)

/-- The execution before the query runs. -/
def buildQueryExecution (currentUser : User) (conversationId connectionId : Uuid)
    (proposedSql : String) (metadata : JsonObject) : QueryExecution where
  tenant_id := currentUser.tenant_id
  user_id := some currentUser.id
  conversation_id := some conversationId
  message_id := none
  connection_id := connectionId
  proposed_sql := proposedSql
  secured_sql := none
  status := "pending"
  error_code := none
  row_count := none
  result_size_bytes := none
  execution_time_ms := none
  applied_limit := none
  row_filters_applied := false
  referenced_tables := []
  referenced_columns := []
  execution_metadata := metadata

/-- The execution of a query that has returned. -/
def completedExecution (queryExecution : QueryExecution) (result : SecureQueryExecution)
    (metadata : JsonObject) : QueryExecution :=
  { queryExecution with
    secured_sql := some result.security.sql
    status := "completed"
    row_count := some result.execution.row_count
    result_size_bytes := some result.execution.result_size_bytes
    execution_time_ms := some result.execution.execution_time_ms
    applied_limit := some result.security.applied_limit
    row_filters_applied := result.security.row_filters_applied
    referenced_tables := result.security.referenced_tables
    referenced_columns := result.security.referenced_columns
    execution_metadata := metadata }

/-- `save_failed_execution`, which `create_database_message` has in each of its handlers. -/
def saveFailedExecution (around : Surroundings) (queryExecution : QueryExecution)
    (status errorCode : String) : Run Unit := do
  let _ ← addQueryExecution around
    { queryExecution with status := status, error_code := some errorCode }
  commitOrRaise around

/-- The `except` clauses around `run_secure_query`, the same in both services. -/
def handleQueryError {α : Type} (around : Surroundings) (queryExecution : QueryExecution) :
    Raised → Run α
  | .security (.querySecurityError message) => do
    saveFailedExecution around queryExecution "rejected" "query_security_rejected"
    throw (.security (.querySecurityError message))
  | .execution (.queryExecutionTimeoutError message) => do
    saveFailedExecution around queryExecution "failed" "query_timeout"
    throw (.execution (.queryExecutionTimeoutError message))
  | .execution (.queryResultTooLargeError message) => do
    saveFailedExecution around queryExecution "failed" "result_too_large"
    throw (.execution (.queryResultTooLargeError message))
  | .execution (.queryExecutionError message) => do
    saveFailedExecution around queryExecution "failed" "query_execution_failed"
    throw (.execution (.queryExecutionError message))
  | e => throw e

def databaseAuditLog (currentUser : User) (conversation : Conversation) (connectionId : Uuid)
    (queryExecutionId : Uuid) (result : SecureQueryExecution) : AuditLog where
  tenant_id := currentUser.tenant_id
  user_id := some currentUser.id
  action := "database_chat.query"
  resource_type := "conversation"
  resource_id := some conversation.id
  outcome := "success"
  audit_metadata := [("connection_id", .string connectionId),
    ("query_execution_id", .string queryExecutionId),
    ("referenced_tables", .array (result.security.referenced_tables.map Json.string)),
    ("referenced_columns", .array (result.security.referenced_columns.map Json.string)),
    ("row_count", jsonInt result.execution.row_count),
    ("row_filters_applied", .bool result.security.row_filters_applied)]

/-- The `except` clause around the exchange. The audit event stands after the `raise`; of the
execution, only its identifier is missing there. -/
def handleExchangeError (py : Casing) (around : Surroundings) (auditLog : AuditLog) (e : Raised) :
    Run (MessageExchange × Stored QueryExecution) := do
  if e = .sqlAlchemyError then
    rollback
    throw e
    let _ ← recordAuditEvent py around auditLog
  throw e

def createDatabaseMessage (around : Surroundings) (steps : QuerySteps) (currentUser : User)
    (conversationId : Uuid) (request : DatabaseMessageCreate) : Run MessageExchange := do
  let conversation ← getConversation currentUser conversationId
  requireMode "database" "This endpoint supports database conversations only." conversation
  let connectionId ← requireReference "The database conversation has no connection."
    conversation.connection_id
  let normalizedQuestion := strip request.content
  let proposedSql := strip request.proposed_sql
  let queryExecution :=
    buildQueryExecution currentUser conversation.id connectionId proposedSql []
  let result ← tryCatch
    (outside (runSecureQuery steps currentUser connectionId proposedSql))
    (handleQueryError around queryExecution)
  let assistantContent ← outside (buildDatabaseAnswer result.execution)
  let saved ← tryCatch
    (createDatabaseMessageExchange around
      (userMessage currentUser conversation "database" normalizedQuestion)
      (assistantMessage around currentUser conversation assistantContent
        [("mode", .string "database"), ("row_count", jsonInt result.execution.row_count),
          ("columns", .array (result.execution.columns.map Json.string)),
          ("masked", .bool true)])
      (completedExecution queryExecution result
        [("truncated", .bool result.execution.truncated)])
      (databaseCitation around currentUser result))
    (handleExchangeError steps.rt.casing around
      (databaseAuditLog currentUser conversation connectionId around.temporaryId result))
  pure saved.1

/-! ## Hybrid conversations -/

structure HybridMessageCreate where
  content : String
  proposed_sql : String
  content_length : 2 ≤ content.length ∧ content.length ≤ 10000
  proposed_sql_length : 1 ≤ proposed_sql.length ∧ proposed_sql.length ≤ 50000

/-- `database_section` of a hybrid answer. -/
def databaseSection (result : Executor.QueryExecutionResult) : Except Raised String :=
  if result.rows.isEmpty then pure "No database rows were returned." else rowsText result.rows

def buildHybridAnswer (result : Executor.QueryExecutionResult)
    (matched : List RetrievedDocumentChunk) : Except Raised String := do
  let databaseText ← databaseSection result
  let documentSection :=
    if matched.isEmpty then "No relevant document chunks were found."
    else joinWith "\n\n" (numberedParts "D" matched)
  pure ("Database results:\n\n" ++ "Columns: " ++ joinWith ", " result.columns ++ "\n\n" ++
    databaseText ++ "\n\n" ++ "Relevant document evidence:\n\n" ++ documentSection ++
    "\n\n" ++ "This response combines only the secured database " ++
    "results and cited document evidence.")

def hybridAuditLog (currentUser : User) (conversation : Conversation)
    (connectionId knowledgeBaseId : Uuid) (saved : Stored QueryExecution)
    (matched : List RetrievedDocumentChunk) : AuditLog where
  tenant_id := currentUser.tenant_id
  user_id := some currentUser.id
  action := "hybrid_chat.query"
  resource_type := "conversation"
  resource_id := some conversation.id
  outcome := "success"
  audit_metadata := [("connection_id", .string connectionId),
    ("knowledge_base_id", .string knowledgeBaseId),
    ("query_execution_id", .string saved.id),
    ("referenced_tables", .array (saved.fields.referenced_tables.map Json.string)),
    ("referenced_columns", .array (saved.fields.referenced_columns.map Json.string)),
    ("row_count", (saved.fields.row_count.map (fun n => jsonInt n)).getD .null),
    ("applied_limit", (saved.fields.applied_limit.map jsonInt).getD .null),
    ("row_filters_applied", .bool saved.fields.row_filters_applied),
    ("retrieved_chunk_count", jsonInt matched.length)]

def createHybridMessage (around : Surroundings) (steps : QuerySteps) (retrieval : Retrieval)
    (currentUser : User) (conversationId : Uuid) (request : HybridMessageCreate) :
    Run MessageExchange := do
  let conversation ← getConversation currentUser conversationId
  requireMode "hybrid" "This endpoint supports hybrid conversations only." conversation
  let connectionId ← requireReference "The hybrid conversation has no database connection."
    conversation.connection_id
  let knowledgeBaseId ← requireReference "The hybrid conversation has no knowledge base."
    conversation.knowledge_base_id
  let normalizedQuestion := strip request.content
  let proposedSql := strip request.proposed_sql
  let queryExecution := buildQueryExecution currentUser conversation.id connectionId proposedSql
    [("mode", .string "hybrid")]
  let result ← tryCatch
    (outside (runSecureQuery steps currentUser connectionId proposedSql))
    (handleQueryError around queryExecution)
  let matched ← outside retrieval
  let assistantContent ← outside (buildHybridAnswer result.execution matched)
  let saved ← createHybridMessageExchange around
    (userMessage currentUser conversation "hybrid" normalizedQuestion)
    (assistantMessage around currentUser conversation assistantContent
      [("mode", .string "hybrid"), ("database_row_count", jsonInt result.execution.row_count),
        ("retrieved_chunk_count", jsonInt matched.length), ("masked", .bool true)])
    (completedExecution queryExecution result
      [("mode", .string "hybrid"), ("truncated", .bool result.execution.truncated),
        ("retrieved_chunk_count", jsonInt matched.length)])
    (databaseCitation around currentUser result ::
      matched.map (documentCitation around currentUser knowledgeBaseId))
  let _ ← recordAuditEvent steps.rt.casing around
    (hybridAuditLog currentUser conversation connectionId knowledgeBaseId saved.2 matched)
  pure saved.1

end DataChat.Chat
