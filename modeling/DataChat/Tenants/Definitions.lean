import DataChat.Audit.Listing
import DataChat.Chat.Replay
import DataChat.Documents.Retrieval
import DataChat.Effective.Definitions
import DataChat.Platform.Ownership

/-!
# What the tenants share

All tenants have their rows in one database. `PlatformState` is the part of it that the services
below read and write, `PlatformState.Agree` says that a tenant has the same rows in two states, and
the `May` predicates say which results a service may have: where an `ORDER BY` leaves ties, the
database may return the rows in any order.
-/

namespace DataChat.Tenants

open Relational Platform Transactions

/-! ## The platform database -/

structure PlatformState (F : Type) where
  store : Store
  bases : Documents.KnowledgeBaseTable
  documents : Documents.DocumentTable
  chunks : List (Documents.ChunkRow F)
  conversations : List Chat.Conversation
  conversation_ids : PrimaryKey Chat.Conversation.id conversations
  messages : List (Chat.Stored Chat.Message)
  citations : List (Chat.Stored Chat.MessageCitation)
  query_executions : List (Chat.Stored Chat.QueryExecution)
  audit_logs : List Audit.AuditLogRow
  /-- How many UUIDs the server has generated. -/
  generated : Nat

variable {F : Type}

/-- What the conversation services read. -/
def PlatformState.chatStore (state : PlatformState F) : Chat.ChatStore where
  conversations := state.conversations
  messages := state.messages
  citations := state.citations
  query_executions := state.query_executions
  audit_logs := state.audit_logs.map (fun row => row.toStored)
  generated := state.generated

def PlatformState.retrievalTables (state : PlatformState F) : Documents.RetrievalTables F :=
  ⟨state.bases, state.documents, state.chunks⟩

/-- The columns that `process_document` reads or writes. -/
def PlatformState.documentStore (state : PlatformState F) : Documents.DocumentStore F where
  knowledge_bases := state.bases.rows.map (fun base => base.toKnowledgeBase)
  documents := state.documents.rows.map (fun document => document.toDocument)
  chunks := state.chunks.map (fun chunk => chunk.toDocumentChunk)
  document_ids := by
    unfold PrimaryKey
    rw [List.map_map]
    exact state.documents.ids

/-- The state before `upload_document`, while other calls are going on. -/
def PlatformState.uploadState (state : PlatformState F) (calls : List Documents.Phase) :
    Documents.UploadState :=
  ⟨state.bases, state.documents, calls⟩

/-! ## The rows of a tenant -/

/-- The tenant has the same rows. -/
structure PlatformState.Agree (tenantId : Uuid) (state state' : PlatformState F) : Prop where
  store : state.store.toTables.Agree tenantId state'.store.toTables
  bases : SameOf (fun base => base.tenant_id) tenantId state.bases.rows state'.bases.rows
  documents : SameOf (fun document => document.tenant_id) tenantId state.documents.rows
    state'.documents.rows
  chunks : SameOf (fun chunk => chunk.tenant_id) tenantId state.chunks state'.chunks
  conversations : SameOf Chat.Conversation.tenant_id tenantId state.conversations
    state'.conversations
  messages : SameOf (fun message => message.fields.tenant_id) tenantId state.messages
    state'.messages
  citations : SameOf (fun citation => citation.fields.tenant_id) tenantId state.citations
    state'.citations
  query_executions : SameOf (fun execution => execution.fields.tenant_id) tenantId
    state.query_executions state'.query_executions
  audit_logs : SameOf (fun row => row.fields.tenant_id) tenantId state.audit_logs
    state'.audit_logs

theorem PlatformState.Agree.refl (tenantId : Uuid) (state : PlatformState F) :
    state.Agree tenantId state where
  store := Tables.Agree.refl _ _
  bases := SameOf.refl _ _ _
  documents := SameOf.refl _ _ _
  chunks := SameOf.refl _ _ _
  conversations := SameOf.refl _ _ _
  messages := SameOf.refl _ _ _
  citations := SameOf.refl _ _ _
  query_executions := SameOf.refl _ _ _
  audit_logs := SameOf.refl _ _ _

theorem PlatformState.Agree.symm {tenantId : Uuid} {state state' : PlatformState F}
    (h : state.Agree tenantId state') : state'.Agree tenantId state where
  store := h.store.symm
  bases := SameRows.symm h.bases
  documents := SameRows.symm h.documents
  chunks := SameRows.symm h.chunks
  conversations := SameRows.symm h.conversations
  messages := SameRows.symm h.messages
  citations := SameRows.symm h.citations
  query_executions := SameRows.symm h.query_executions
  audit_logs := SameRows.symm h.audit_logs

/-- The same for the columns that `process_document` reads or writes. -/
structure DocumentsAgree (tenantId : Uuid) (store store' : Documents.DocumentStore F) : Prop where
  bases : SameOf Documents.KnowledgeBase.tenant_id tenantId store.knowledge_bases
    store'.knowledge_bases
  documents : SameOf Documents.Document.tenant_id tenantId store.documents store'.documents
  chunks : SameOf Documents.DocumentChunk.tenant_id tenantId store.chunks store'.chunks

/-- The same for the tables of an upload. -/
structure UploadsAgree (tenantId : Uuid) (state state' : Documents.UploadState) : Prop where
  bases : SameOf (fun base => base.tenant_id) tenantId state.bases.rows state'.bases.rows
  documents : SameOf (fun document => document.tenant_id) tenantId state.documents.rows
    state'.documents.rows

/-! ## What a service may return or raise -/

/-- `build_permission_filtered_schema`. -/
def MayBuild (collation : Effective.Collation) (state : PlatformState F) (currentUser : User)
    (connectionId : Uuid) (result : Service AllowedSchema) : Prop :=
  ∃ permissionRows columnRows,
    Effective.Returned collation state.store currentUser connectionId permissionRows columnRows ∧
      result = Effective.buildPermissionFilteredSchema state.store currentUser connectionId
        permissionRows columnRows

/-- `retrieve_relevant_chunks`. -/
def MayRetrieve (services : Documents.RetrievalServices F) (state : PlatformState F)
    (currentUser : User) (knowledgeBaseId : Uuid) (query : String) (topK : Nat)
    (minimumSimilarity : PyFloat) (result : Chat.Retrieval) : Prop :=
  ∃ sorted, Documents.Searched services state.retrievalTables currentUser knowledgeBaseId query
      sorted ∧
    result = Documents.retrieveRelevantChunks services state.retrievalTables currentUser
      knowledgeBaseId query topK minimumSimilarity sorted

/-- `get_conversation_messages`. -/
def MayReplay (state : PlatformState F) (currentUser : User) (conversationId : Uuid)
    (offset limit : Nat) (result : Except Chat.Raised (List Chat.MessageResponse × Nat)) : Prop :=
  ∃ reading : Chat.Reading,
    reading.Possible state.chatStore currentUser.tenant_id conversationId offset limit ∧
      result = Chat.getConversationMessages state.chatStore currentUser conversationId offset limit
        reading

/-- `list_audit_logs`. -/
def MayList (state : PlatformState F) (currentUser : User) (filters : Audit.AuditFilters)
    (offset limit : Nat) (result : Service (List Audit.AuditLogRow × Nat)) : Prop :=
  ∃ sorted, OrderedBy Audit.latestFirst
      (Audit.listedRows state.audit_logs currentUser.tenant_id filters) sorted ∧
    result = Audit.listAuditLogs state.audit_logs currentUser filters offset limit sorted

/-- The user gets the same from both states. -/
structure SameReads (state state' : PlatformState F) (user : User) : Prop where
  schema : ∀ collation connectionId result,
    MayBuild collation state user connectionId result ↔
      MayBuild collation state' user connectionId result
  chunks : ∀ services knowledgeBaseId query topK minimumSimilarity result,
    MayRetrieve services state user knowledgeBaseId query topK minimumSimilarity result ↔
      MayRetrieve services state' user knowledgeBaseId query topK minimumSimilarity result
  messages : ∀ conversationId offset limit result,
    MayReplay state user conversationId offset limit result ↔
      MayReplay state' user conversationId offset limit result
  auditLogs : ∀ filters offset limit result,
    MayList state user filters offset limit result ↔
      MayList state' user filters offset limit result

/-! ## What a service may change -/

/-- The step belongs to the call at a place. -/
def IsOfCall (place : Nat) (event : Documents.Event) : Prop :=
  (∃ documentId, event = .search place documentId) ∨ ∃ finish, event = .finish place finish

/-- Whatever the user calls, the other tenant keeps its rows. A call of `upload_document` goes on
while other calls take their steps, and each step of it counts. -/
structure KeepsRows (state : PlatformState F) (user : User) (other : Uuid) : Prop where
  createPermission : ∀ newUuid request, state.Agree other
    { state with
      store := storedAfter state.store (createPermission newUuid state.store user request) }
  cache : ∀ disturbed newUuid connectionId discovery, state.Agree other
    { state with
      store := (call (cacheInSession disturbed newUuid user.tenant_id connectionId discovery)
        state.store).2 }
  process : ∀ outcomes knowledgeBaseId documentId, DocumentsAgree other state.documentStore
    (call (Documents.processDocument outcomes user knowledgeBaseId documentId)
      state.documentStore).2
  upload : ∀ services calls knowledgeBaseId upload,
    let called := (state.uploadState calls).step services (.call user knowledgeBaseId upload)
    UploadsAgree other (state.uploadState calls) called ∧
      ∀ events event, IsOfCall calls.length event →
        let during := Runs.run (Documents.UploadState.step services) called events
        UploadsAgree other during (during.step services event)

end DataChat.Tenants
