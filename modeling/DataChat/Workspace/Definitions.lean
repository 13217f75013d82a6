import DataChat.Documents.Progress
import DataChat.Platform.Requests
import DataChat.Tenants.Noninterference
import Mathlib.Logic.Relation

/-!
# Workspaces

`services/document/knowledge_base_service.py` and `services/chat/conversation_service.py`, and the
requests of all services that write: connections, metadata and permissions, knowledge bases,
documents, conversations and their messages. `State` holds the rows of all tenants.

A request is one step, except for an upload, which takes several, and other requests come between
them. The rows that a search returns and the identifiers of new rows are left open, so a request
may lead to several states.
-/

namespace DataChat.Workspace

open Relational Platform Transactions

inductive Raised
  | platform (error : Platform.Raised)
  | duplicateKnowledgeBaseNameError (message : String)
  | knowledgeBaseNotFoundError (message : String)
  | valueError (message : String)
  | integrityError
deriving DecidableEq

/-! ## Knowledge bases -/

structure KnowledgeBaseRow extends Documents.KnowledgeBaseRow where
  created_by : Option Uuid
  name : String
  description : Option String
  settings_data : JsonObject

structure KnowledgeBaseTable where
  rows : List KnowledgeBaseRow
  ids : PrimaryKey (fun base => base.id) rows
  uq_knowledge_bases_tenant_name :
    UniqueKey (fun base => some (base.tenant_id, base.name)) rows

structure KnowledgeBaseCreate extends Documents.KnowledgeBaseCreate where
  name : String
  description : Option String
  settings : JsonObject
  name_length : 2 ≤ name.length ∧ name.length ≤ 200
  description_length : ∀ text ∈ description, text.length ≤ 2000

/-- `get_knowledge_base_by_name`. -/
def requireUnusedName (bases : KnowledgeBaseTable) (currentUser : User) (name : String) :
    Except Raised Unit :=
  match bases.rows.find? (fun base =>
      base.tenant_id = currentUser.tenant_id ∧ base.name = name) with
  | none => pure ()
  | some _ =>
    throw (.duplicateKnowledgeBaseNameError "A knowledge base with this name already exists.")

/-- `description.strip() if description else None`. -/
def normalizedDescription : Option String → Option String
  | none | some "" => none
  | some description => some (strip description)

def newKnowledgeBase (settings : Documents.EmbeddingSettings) (id : Uuid) (currentUser : User)
    (request : KnowledgeBaseCreate) : KnowledgeBaseRow where
  id := id
  tenant_id := currentUser.tenant_id
  created_by := some currentUser.id
  name := strip request.name
  description := normalizedDescription request.description
  embedding_model := settings.embedding_model
  embedding_dimension := settings.embedding_dimension
  chunk_size := request.chunk_size
  chunk_overlap := request.chunk_overlap
  settings_data := request.settings
  is_active := true

/-- The end of the `INSERT`: the constraints are checked. -/
def insertKnowledgeBase (bases : KnowledgeBaseTable) (base : KnowledgeBaseRow) :
    Except Raised KnowledgeBaseTable :=
  if h : PrimaryKey (fun row => row.id) (bases.rows ++ [base]) ∧
      UniqueKey (fun row => some (row.tenant_id, row.name)) (bases.rows ++ [base]) then
    pure ⟨bases.rows ++ [base], h.1, h.2⟩
  else throw .integrityError

def createKnowledgeBase (settings : Documents.EmbeddingSettings) (id : Uuid)
    (bases : KnowledgeBaseTable) (currentUser : User) (request : KnowledgeBaseCreate) :
    Except Raised (KnowledgeBaseTable × KnowledgeBaseRow) := do
  (requireTenantAdministrator currentUser).mapError .platform
  requireUnusedName bases currentUser (strip request.name)
  let base := newKnowledgeBase settings id currentUser request
  let bases ← insertKnowledgeBase bases base
  pure (bases, base)

def getKnowledgeBase (bases : KnowledgeBaseTable) (currentUser : User) (knowledgeBaseId : Uuid) :
    Except Raised KnowledgeBaseRow :=
  match bases.rows.find? (fun base =>
      base.id = knowledgeBaseId ∧ base.tenant_id = currentUser.tenant_id) with
  | some base => pure base
  | none => throw (.knowledgeBaseNotFoundError "Knowledge base was not found.")

/-! ## Conversations -/

structure ConversationRow extends Chat.Conversation where
  title : String
  status : String
  conversation_metadata : JsonObject
  is_archived : Bool

structure ConversationTable where
  rows : List ConversationRow
  ids : PrimaryKey (fun conversation => conversation.id) rows

inductive ConversationMode
  | database
  | document
  | hybrid
deriving DecidableEq

def ConversationMode.value : ConversationMode → String
  | .database => "database"
  | .document => "document"
  | .hybrid => "hybrid"

structure ConversationCreate where
  title : String
  mode : ConversationMode
  connection_id : Option Uuid
  knowledge_base_id : Option Uuid
  metadata : JsonObject
  title_length : 2 ≤ title.length ∧ title.length ≤ 300
  /-- `validate_sources`. -/
  needs_connection : mode ≠ .document → connection_id.isSome = true
  needs_knowledge_base : mode ≠ .database → knowledge_base_id.isSome = true

def checkConnection (store : Store) (currentUser : User) : Option Uuid → Except Raised Unit
  | none => pure ()
  | some connectionId => do
    let _ ← (getDatabaseConnection store currentUser connectionId).mapError .platform
    pure ()

def checkKnowledgeBase (bases : KnowledgeBaseTable) (currentUser : User) :
    Option Uuid → Except Raised Unit
  | none => pure ()
  | some knowledgeBaseId => do
    let base ← getKnowledgeBase bases currentUser knowledgeBaseId
    if base.is_active then pure ()
    else throw (.valueError "The selected knowledge base is disabled.")

def checkMode (request : ConversationCreate) : Except Raised Unit :=
  if request.mode = .database ∧ request.knowledge_base_id.isSome then
    throw (.valueError "Database conversations cannot specify a knowledge base.")
  else if request.mode = .document ∧ request.connection_id.isSome then
    throw (.valueError "Document conversations cannot specify a database connection.")
  else pure ()

def validateConversationSources (store : Store) (bases : KnowledgeBaseTable) (currentUser : User)
    (request : ConversationCreate) : Except Raised Unit := do
  checkConnection store currentUser request.connection_id
  checkKnowledgeBase bases currentUser request.knowledge_base_id
  checkMode request

def newConversation (id : Uuid) (currentUser : User) (request : ConversationCreate) :
    ConversationRow where
  id := id
  tenant_id := currentUser.tenant_id
  user_id := currentUser.id
  connection_id := request.connection_id
  knowledge_base_id := request.knowledge_base_id
  title := strip request.title
  mode := request.mode.value
  status := "active"
  conversation_metadata := request.metadata
  is_archived := false

def insertConversation (conversations : ConversationTable) (conversation : ConversationRow) :
    Except Raised ConversationTable :=
  if h : PrimaryKey (fun row => row.id) (conversations.rows ++ [conversation]) then
    pure ⟨conversations.rows ++ [conversation], h⟩
  else throw .integrityError

def createConversation (id : Uuid) (store : Store) (bases : KnowledgeBaseTable)
    (conversations : ConversationTable) (currentUser : User) (request : ConversationCreate) :
    Except Raised (ConversationTable × ConversationRow) := do
  validateConversationSources store bases currentUser request
  let conversation := newConversation id currentUser request
  let conversations ← insertConversation conversations conversation
  pure (conversations, conversation)

/-! ## The rows of all tenants -/

structure State (F : Type) where
  store : Store
  bases : KnowledgeBaseTable
  documents : Documents.DocumentTable
  chunks : List (Documents.ChunkRow F)
  /-- The calls of `upload_document`. -/
  uploads : List Documents.Phase
  conversations : ConversationTable
  messages : List (Chat.Stored Chat.Message)
  citations : List (Chat.Stored Chat.MessageCitation)
  query_executions : List (Chat.Stored Chat.QueryExecution)
  audit_logs : List Audit.AuditLogRow
  /-- How many UUIDs the server has generated. -/
  generated : Nat

variable {F : Type}

/-- The columns of the knowledge bases that the document services read. -/
def KnowledgeBaseTable.forDocuments (bases : KnowledgeBaseTable) :
    Documents.KnowledgeBaseTable where
  rows := bases.rows.map (fun base => base.toKnowledgeBaseRow)
  ids := by
    unfold PrimaryKey
    rw [List.map_map]
    exact bases.ids

/-- The tables as the services of the tenants see them. -/
def State.platform (state : State F) : Tenants.PlatformState F where
  store := state.store
  bases := state.bases.forDocuments
  documents := state.documents
  chunks := state.chunks
  conversations := state.conversations.rows.map (fun row => row.toConversation)
  conversation_ids := by
    unfold PrimaryKey
    rw [List.map_map]
    exact state.conversations.ids
  messages := state.messages
  citations := state.citations
  query_executions := state.query_executions
  audit_logs := state.audit_logs
  generated := state.generated

/-! ## Steps -/

/-- The connection is deleted. -/
def isRemoved (before after : Store) (connectionId : Uuid) : Bool :=
  decide (connectionId ∈ before.connections.map (fun connection => connection.id) ∧
    connectionId ∉ after.connections.map (fun connection => connection.id))

/-- `ON DELETE SET NULL`. -/
def ConversationTable.detach (conversations : ConversationTable) (removed : Uuid → Bool) :
    ConversationTable where
  rows := conversations.rows.map (fun row =>
    { row with connection_id := row.connection_id.filter (fun id => !removed id) })
  ids := by
    unfold PrimaryKey
    rw [List.map_map]
    exact conversations.ids

/-- Executions go with their connection, and their citations lose the reference. -/
def State.withStore (state : State F) (store : Store) : State F :=
  let removed := isRemoved state.store store
  let executions := state.query_executions.filter (fun row => !removed row.fields.connection_id)
  let isDeleted := fun id : Uuid => decide (id ∈ state.query_executions.map Chat.Stored.id ∧
    id ∉ executions.map Chat.Stored.id)
  { state with
    store := store
    conversations := state.conversations.detach removed
    query_executions := executions
    citations := state.citations.map (fun row =>
      { row with fields := { row.fields with
        query_execution_id := row.fields.query_execution_id.filter (fun id => !isDeleted id) } }) }

/-- Citations lose their references to chunks that are deleted. -/
def State.withChunks (state : State F) (chunks : List (Documents.ChunkRow F)) : State F :=
  let isDeleted := fun id : Uuid => decide (id ∈ state.chunks.map (fun chunk => chunk.id) ∧
    id ∉ chunks.map (fun chunk => chunk.id))
  { state with
    chunks := chunks
    citations := state.citations.map (fun row =>
      { row with fields := { row.fields with
        document_chunk_id := row.fields.document_chunk_id.filter (fun id => !isDeleted id) } }) }

/-- An audit event of a service has neither a request nor a client. -/
def auditRow (stored : Chat.Stored Chat.AuditLog) : Audit.AuditLogRow :=
  ⟨stored, none, none, stored.created_at⟩

/-- What the services of conversations have written. -/
def State.withChat (state : State F) (chat : Chat.ChatStore) : State F :=
  { state with
    messages := chat.messages
    citations := chat.citations
    query_executions := chat.query_executions
    audit_logs := state.audit_logs ++
      (chat.audit_logs.drop state.audit_logs.length).map auditRow
    generated := chat.generated }

/-- What may be retrieved for a question in a conversation. -/
def State.MayRetrieve (state : State F) (currentUser : User) (conversationId : Uuid)
    (question : String) (retrieval : Chat.Retrieval) : Prop :=
  ∀ conversation knowledgeBaseId,
    Chat.getConversationById state.platform.chatStore currentUser.tenant_id currentUser.id
      conversationId = some conversation →
    conversation.knowledge_base_id = some knowledgeBaseId →
      ∃ services topK minimumSimilarity, Tenants.MayRetrieve services state.platform currentUser
        knowledgeBaseId (strip question) topK minimumSimilarity retrieval

/-- The call asks for what may be retrieved. -/
def State.MayCall (state : State F) (currentUser : User) (conversationId : Uuid) :
    Chat.ChatCall → Prop
  | .document retrieval request =>
    state.MayRetrieve currentUser conversationId request.content retrieval
  | .database _ _ => True
  | .hybrid _ retrieval request =>
    state.MayRetrieve currentUser conversationId request.content retrieval

/-- The step of an upload is one of this user's. -/
def State.UploadsFor (state : State F) (user : User) : Documents.Event → Prop
  | .call currentUser _ _ => currentUser = user
  | .search place _ =>
    ∀ upload, state.uploads[place]? = some (.checked upload) → upload.currentUser = user
  | .finish place _ =>
    ∀ document seen, state.uploads[place]? = some (.storing document seen) →
      document.tenant_id = user.tenant_id ∧ document.uploaded_by = some user.id

def State.uploadState (state : State F) : Documents.UploadState :=
  state.platform.uploadState state.uploads

/-- The documents after a call that writes some of their columns. The other columns stay. -/
structure State.Saved (state : State F) (after : Documents.DocumentStore F)
    (documents : Documents.DocumentTable) : Prop where
  written : documents.rows.map (fun row => row.toDocument) = after.documents
  columns : ∀ row ∈ documents.rows, ∃ before ∈ state.documents.rows,
    before.id = row.id ∧ row = { before with toDocument := row.toDocument }

/-- The chunks after a call of the user that may replace those of a document. Chunks that are
inserted have new identifiers. -/
structure State.Replaced (state : State F) (after : Documents.DocumentStore F) (user : User)
    (documentId : Uuid) (chunks : List (Documents.ChunkRow F)) : Prop where
  written : chunks.map (fun row => row.toDocumentChunk) = after.chunks
  rows : chunks = state.chunks ∨ ∃ document ∈ state.documents.rows,
    document.id = documentId ∧ document.tenant_id = user.tenant_id ∧
    ∃ inserted : List (Documents.ChunkRow F),
      (∀ chunk ∈ inserted, Documents.isChunkOf document.toDocument chunk.toDocumentChunk = true ∧
        chunk.id ∉ state.chunks.map (fun row => row.id)) ∧
      chunks = state.chunks.filter (fun row =>
        !Documents.isChunkOf document.toDocument row.toDocumentChunk) ++ inserted

/-- The chunks after a call that may update their columns. -/
structure State.Updated (state : State F) (after : Documents.DocumentStore F)
    (chunks : List (Documents.ChunkRow F)) : Prop where
  written : chunks.map (fun row => row.toDocumentChunk) = after.chunks
  ids : chunks.map (fun row => row.id) = state.chunks.map (fun row => row.id)

/-- The requests of a user. -/
inductive Step (newUuid : Nat → Uuid) (user : User) (state : State F) : State F → Prop
  | access (request : AccessRequest) :
      Step newUuid user state (state.withStore (handle newUuid state.store user request))
  | createKnowledgeBase (settings : Documents.EmbeddingSettings) (id : Uuid)
      (request : KnowledgeBaseCreate) {bases : KnowledgeBaseTable} {base : KnowledgeBaseRow}
      (h : Workspace.createKnowledgeBase settings id state.bases user request =
        .ok (bases, base)) :
      Step newUuid user state { state with bases := bases }
  | createConversation (id : Uuid) (request : ConversationCreate)
      {conversations : ConversationTable} {conversation : ConversationRow}
      (h : Workspace.createConversation id state.store state.bases state.conversations user
        request = .ok (conversations, conversation)) :
      Step newUuid user state { state with conversations := conversations }
  | upload (services : Documents.UploadServices) (event : Documents.Event)
      (huser : state.UploadsFor user event) :
      Step newUuid user state
        { state with
          documents := (state.uploadState.step services event).documents
          uploads := (state.uploadState.step services event).calls }
  | process (outcomes : Documents.ProcessOutcomes) (knowledgeBaseId documentId : Uuid)
      {documents : Documents.DocumentTable} {chunks : List (Documents.ChunkRow F)}
      (hsaved : state.Saved (call (Documents.processDocument outcomes user knowledgeBaseId
        documentId) state.platform.documentStore).2 documents)
      (hreplaced : state.Replaced (call (Documents.processDocument outcomes user knowledgeBaseId
        documentId) state.platform.documentStore).2 user documentId chunks) :
      Step newUuid user state { state.withChunks chunks with documents := documents }
  | embed (outcomes : Documents.EmbedOutcomes F) (knowledgeBaseId documentId : Uuid)
      {documents : Documents.DocumentTable} {chunks : List (Documents.ChunkRow F)}
      (hsaved : state.Saved (call (Documents.embedDocumentChunks outcomes user knowledgeBaseId
        documentId) state.platform.documentStore).2 documents)
      (hupdated : state.Updated (call (Documents.embedDocumentChunks outcomes user knowledgeBaseId
        documentId) state.platform.documentStore).2 chunks) :
      Step newUuid user state { state with documents := documents, chunks := chunks }
  | chat (around : Chat.Surroundings) (conversationId : Uuid) (c : Chat.ChatCall)
      (h : state.MayCall user conversationId c) :
      Step newUuid user state
        (state.withChat (c.result around user conversationId state.platform.chatStore).2)

/-- Requests of users with the property lead from one state to another. -/
def Reaches (newUuid : Nat → Uuid) (users : User → Prop) : State F → State F → Prop :=
  Relation.ReflTransGen (fun state state' => ∃ user, users user ∧ Step newUuid user state state')

/-- What every request keeps holds of the states that are reached. -/
theorem Reaches.invariant {P : State F → Prop} {newUuid : Nat → Uuid} {users : User → Prop}
    {start state : State F} (h : Reaches newUuid users start state) (hstart : P start)
    (hstep : ∀ user state state', users user → P state → Step newUuid user state state' →
      P state') : P state := by
  induction h with
  | refl => exact hstart
  | tail _ hlast ih =>
    obtain ⟨user, huser, hlast⟩ := hlast
    exact hstep user _ _ huser ih hlast

end DataChat.Workspace
