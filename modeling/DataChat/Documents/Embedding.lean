import DataChat.Documents.Definitions

/-!
# Embedding a document

`embed_document_chunks` should end with the vectors stored, or with its own error and the document
marked as failed. `list_document_chunks` awaits the statement instead of executing it, and its
`where` is the function of `certifi`, so the call ends with a `TypeError` before that.

* `exec_embedDocumentChunks`: no call returns, and none changes anything.
* `embed_not_clean`: what should happen never does.
-/

namespace DataChat.Documents

open Platform Transactions

variable {F : Type}

/-! ## The checks -/

def administratorError : Raised :=
  .refused (.tenantAdministratorRequiredError "Tenant administrator access is required.")

theorem exec_requireAdministrator (currentUser : User) (session : Session (DocumentStore F)) :
    exec (requireAdministrator currentUser) session =
      if currentUser.is_tenant_admin then (.ok (), session)
      else (.error administratorError, session) := by
  unfold requireAdministrator requireTenantAdministrator
  split <;> rfl

theorem exec_getKnowledgeBase (currentUser : User) (knowledgeBaseId : Uuid)
    (session : Session (DocumentStore F)) :
    exec (getKnowledgeBase currentUser knowledgeBaseId) session =
      match getKnowledgeBaseById session.current currentUser.tenant_id knowledgeBaseId with
      | some base => (.ok base, session)
      | none =>
        (.error (.knowledgeBaseNotFoundError "Knowledge base was not found."), session) := by
  rw [getKnowledgeBase, exec_bind, exec_read]
  dsimp only
  rw [exec_orRaise]
  cases getKnowledgeBaseById session.current currentUser.tenant_id knowledgeBaseId <;> rfl

theorem exec_getDocumentForProcessing (currentUser : User) (knowledgeBaseId documentId : Uuid)
    (session : Session (DocumentStore F)) :
    exec (getDocumentForProcessing currentUser knowledgeBaseId documentId) session =
      match getDocumentById session.current currentUser.tenant_id knowledgeBaseId documentId with
      | some document => (.ok document, session)
      | none => (.error (.documentNotFoundError "Document was not found."), session) := by
  rw [getDocumentForProcessing, exec_bind, exec_read]
  dsimp only
  rw [exec_orRaise]
  cases getDocumentById session.current currentUser.tenant_id knowledgeBaseId documentId <;> rfl

/-! ## The list of chunks -/

def awaitedSelect : Raised := .typeError "object Select can't be used in 'await' expression"

theorem exec_listDocumentChunks (certifiWhere : (DocumentChunk F → Bool) → Except Raised Unit)
    (tenantId knowledgeBaseId documentId : Uuid) (session : Session (DocumentStore F)) :
    exec (listDocumentChunks certifiWhere tenantId knowledgeBaseId documentId) session =
      (.error awaitedSelect, session) := by
  rw [listDocumentChunks, exec_bind, exec_read]
  rfl

def notChunked : Raised := .documentEmbeddingError
  "The document must be extracted and chunked before embeddings can be generated."

/-- Why a call raises. -/
def embedError (store : DocumentStore F) (currentUser : User)
    (knowledgeBaseId documentId : Uuid) : Raised :=
  if currentUser.is_tenant_admin then
    match getKnowledgeBaseById store currentUser.tenant_id knowledgeBaseId with
    | none => .knowledgeBaseNotFoundError "Knowledge base was not found."
    | some _ =>
      match getDocumentById store currentUser.tenant_id knowledgeBaseId documentId with
      | none => .documentNotFoundError "Document was not found."
      | some document =>
        if document.status ∉ ["chunked", "completed"] then notChunked else awaitedSelect
  else administratorError

theorem exec_embedDocumentChunks (outcomes : EmbedOutcomes F) (currentUser : User)
    (knowledgeBaseId documentId : Uuid) (session : Session (DocumentStore F)) :
    exec (embedDocumentChunks outcomes currentUser knowledgeBaseId documentId) session =
      (.error (embedError session.current currentUser knowledgeBaseId documentId), session) := by
  unfold embedDocumentChunks embedError
  rw [exec_bind, exec_requireAdministrator]
  by_cases hadmin : currentUser.is_tenant_admin
  · simp only [if_pos hadmin]
    rw [exec_bind, exec_getKnowledgeBase]
    cases getKnowledgeBaseById session.current currentUser.tenant_id knowledgeBaseId with
    | none => rfl
    | some base =>
      dsimp only
      rw [exec_bind, exec_getDocumentForProcessing]
      cases getDocumentById session.current currentUser.tenant_id knowledgeBaseId documentId with
      | none => rfl
      | some document =>
        dsimp only
        by_cases hstatus : document.status ∉ ["chunked", "completed"]
        · simp only [if_pos hstatus]
          rw [exec_bind, exec_throw]
          rfl
        · simp only [if_neg hstatus]
          rw [exec_bind, exec_listDocumentChunks]
  · simp only [if_neg hadmin]

/-- A call of the service in a session of its own. -/
theorem call_embedDocumentChunks (outcomes : EmbedOutcomes F) (currentUser : User)
    (knowledgeBaseId documentId : Uuid) (store : DocumentStore F) :
    call (embedDocumentChunks outcomes currentUser knowledgeBaseId documentId) store =
      (.error (embedError store currentUser knowledgeBaseId documentId), store) := by
  unfold call
  rw [exec_embedDocumentChunks]

/-! ## What should happen -/

/-- The rows of a document. -/
def chunksOf (store : DocumentStore F) (documentId : Uuid) : List (DocumentChunk F) :=
  store.chunks.filter (fun chunk => chunk.document_id = documentId)

/-- The call has returned, and each stored chunk holds the vector of its content. -/
def Embedded (encode : List String → Option (List (List F))) (before after : DocumentStore F)
    (documentId : Uuid) (result : Except Raised Document) : Prop :=
  ∃ document vectors, result = .ok document ∧ document.id = documentId ∧
    document.status = "completed" ∧
    document.chunk_count = (chunksOf before documentId).length ∧
    encode ((chunksOf before documentId).map DocumentChunk.content) = some vectors ∧
    chunksOf after documentId = List.zipWith (fun chunk vector =>
      { chunk with embedding := some vector }) (chunksOf before documentId) vectors

/-- The call has raised its own error, the document is marked as failed, and no vector has
changed. -/
def FailedCleanly (before after : DocumentStore F) (documentId : Uuid)
    (result : Except Raised Document) : Prop :=
  (∃ message, result = .error (.documentEmbeddingError message)) ∧
    (∃ document ∈ after.documents, document.id = documentId ∧ document.status = "failed") ∧
    chunksOf after documentId = chunksOf before documentId

def EmbedsCleanly (outcomes : EmbedOutcomes F) (currentUser : User)
    (knowledgeBaseId documentId : Uuid) (encode : List String → Option (List (List F)))
    (store : DocumentStore F) : Prop :=
  let ended := call (embedDocumentChunks outcomes currentUser knowledgeBaseId documentId) store
  Embedded encode store ended.2 documentId ended.1 ∨
    FailedCleanly store ended.2 documentId ended.1

theorem not_clean_of_error {encode : List String → Option (List (List F))}
    {before after : DocumentStore F} {documentId : Uuid} {e : Raised}
    (he : ∀ message, e ≠ .documentEmbeddingError message) :
    ¬ (Embedded encode before after documentId (.error e) ∨
      FailedCleanly before after documentId (.error e)) := by
  rintro (⟨_, _, hreturned, -⟩ | ⟨⟨message, hraised⟩, -, -⟩)
  · cases hreturned
  · exact he message (Except.error.inj hraised)

/-- The own error of the service is only raised for documents that are not chunked. -/
theorem embedError_ne {store : DocumentStore F} {currentUser : User}
    {knowledgeBaseId documentId : Uuid} {document : Document}
    (hdocument : getDocumentById store currentUser.tenant_id knowledgeBaseId documentId =
      some document)
    (hstatus : document.status ∈ ["chunked", "completed"]) (message : String) :
    embedError store currentUser knowledgeBaseId documentId ≠ .documentEmbeddingError message := by
  unfold embedError
  rw [hdocument]
  dsimp only
  rw [if_neg (not_not_intro hstatus)]
  intro herror
  split at herror
  · split at herror
    · cases herror
    · cases herror
  · cases herror

/-- Whatever is stored and whatever the embedding function does. -/
theorem embed_not_clean (outcomes : EmbedOutcomes F) (currentUser : User)
    (knowledgeBaseId documentId : Uuid) (encode : List String → Option (List (List F)))
    (store : DocumentStore F) (document : Document)
    (hdocument : getDocumentById store currentUser.tenant_id knowledgeBaseId documentId =
      some document)
    (hstatus : document.status ∈ ["chunked", "completed"]) :
    ¬ EmbedsCleanly outcomes currentUser knowledgeBaseId documentId encode store := by
  unfold EmbedsCleanly
  rw [call_embedDocumentChunks]
  apply not_clean_of_error
  exact embedError_ne hdocument hstatus

/-! ## A report of one chunk -/

def reportAdmin : User := ⟨"ada", "acme", true⟩

def reportBase : KnowledgeBase where
  id := "manuals"
  tenant_id := "acme"
  embedding_model := "letters"
  embedding_dimension := 2
  chunk_size := 800
  chunk_overlap := 120

def reportDocument : Document where
  id := "report"
  tenant_id := "acme"
  knowledge_base_id := "manuals"
  storage_key := "acme/manuals/report.txt"
  file_extension := "txt"
  status := "chunked"
  processing_message := some "Document text was extracted and chunked successfully."
  page_count := none
  chunk_count := 1

def reportChunk : DocumentChunk Nat where
  tenant_id := "acme"
  knowledge_base_id := "manuals"
  document_id := "report"
  chunk_index := 0
  content := "Sales rose."
  token_count := some 2
  page_number := none
  section_title := some "Text document"
  chunk_metadata := []
  embedding := none

def reportStore : DocumentStore Nat where
  knowledge_bases := [reportBase]
  documents := [reportDocument]
  chunks := [reportChunk]
  document_ids := by decide

/-- The length of a text, twice. -/
def lengthVectors (texts : List String) : Option (List (List Nat)) :=
  some (texts.map (fun text => [text.length, text.length]))

def reportOutcomes : EmbedOutcomes Nat where
  settings := ⟨"letters", 2⟩
  encoder := fun _ => some lengthVectors
  certifiWhere := fun _ =>
    .error (.typeError "where() takes 0 positional arguments but 3 were given")
  started := .saved
  failure := .saved
  finished := .saved

theorem report_never_clean :
    ¬ EmbedsCleanly reportOutcomes reportAdmin "manuals" "report" lengthVectors reportStore :=
  embed_not_clean reportOutcomes reportAdmin "manuals" "report" lengthVectors reportStore
    reportDocument rfl (by decide)

/-- The document is chunked, its only chunk is not blank, and the embedding function returns a
vector of the expected dimension for each text. -/
theorem report_not_embedded :
    reportDocument.status = "chunked" ∧
    chunksOf reportStore "report" = [reportChunk] ∧ isBlank reportChunk.content = false ∧
    (∀ texts, ∃ vectors, lengthVectors texts = some vectors ∧ vectors.length = texts.length ∧
      ∀ vector ∈ vectors, vector.length = reportBase.embedding_dimension) ∧
    ¬ EmbedsCleanly reportOutcomes reportAdmin "manuals" "report" lengthVectors reportStore := by
  refine ⟨rfl, rfl, by decide, fun texts => ?_, ?_⟩
  · refine ⟨_, rfl, List.length_map _, fun vector hvector => ?_⟩
    obtain ⟨text, -, rfl⟩ := List.mem_map.mp hvector
    rfl
  · unfold EmbedsCleanly
    rw [call_embedDocumentChunks]
    apply not_clean_of_error
    intro message herror
    cases herror

end DataChat.Documents
