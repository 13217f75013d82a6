import DataChat.Documents.Chunker
import DataChat.Library.Session
import DataChat.Platform.Metadata

/-!
# Documents

`repositories/documents.py`, `services/document/document_processor.py`,
`services/document/embedding_service.py` and `services/document/document_embedding_service.py`.

The rows have the columns that these functions read or write; a chunk is told by its document and
its index, which are a unique constraint. The object storage, the extraction of text and the
embedding model are not part of the model: what comes of them is an argument, and so is whether
the platform database refuses a commit.
-/

namespace DataChat.Documents

open Relational Platform Transactions

/-! ## Rows -/

structure KnowledgeBase where
  id : Uuid
  tenant_id : Uuid
  embedding_model : String
  embedding_dimension : Nat
  chunk_size : Int
  chunk_overlap : Int

structure Document where
  id : Uuid
  tenant_id : Uuid
  knowledge_base_id : Uuid
  storage_key : String
  file_extension : String
  status : String
  processing_message : Option String
  page_count : Option Int
  chunk_count : Nat

/-- A vector is a list of the floats `F`. -/
structure DocumentChunk (F : Type) where
  tenant_id : Uuid
  knowledge_base_id : Uuid
  document_id : Uuid
  chunk_index : Nat
  content : String
  token_count : Option Nat
  page_number : Option Int
  section_title : Option String
  chunk_metadata : JsonObject
  embedding : Option (List F)

structure DocumentStore (F : Type) where
  knowledge_bases : List KnowledgeBase
  documents : List Document
  chunks : List (DocumentChunk F)
  document_ids : PrimaryKey Document.id documents

variable {F : Type}

/-- The exceptions that the functions below tell apart. -/
inductive Raised
  | refused (error : Platform.Raised)
  | knowledgeBaseNotFoundError (message : String)
  | documentNotFoundError (message : String)
  | documentProcessingError (message : String)
  | documentEmbeddingError (message : String)
  | objectStorageError (message : String)
  | documentExtractionError (message : String)
  | textChunkingError (message : String)
  | embeddingGenerationError (message : String)
  | sqlAlchemyError
  | typeError (message : String)
  | valueError (message : String)
  | otherException
deriving DecidableEq

abbrev Run (F α : Type) := Program Raised (DocumentStore F) α

/-- A value that is there, or the exception. -/
def orRaise {α : Type} (e : Raised) : Option α → Run F α
  | some a => pure a
  | none => throw e

/-- A step outside of the platform database. -/
def outside {α : Type} : Except Raised α → Run F α
  | .ok a => pure a
  | .error e => throw e

theorem exec_orRaise {α : Type} (e : Raised) (value : Option α)
    (session : Session (DocumentStore F)) :
    exec (orRaise e value) session =
      match value with
      | some a => (.ok a, session)
      | none => (.error e, session) := by
  cases value <;> rfl

@[simp]
theorem exec_outside {α : Type} (result : Except Raised α)
    (session : Session (DocumentStore F)) :
    exec (outside result) session = (result, session) := by
  cases result <;> rfl

/-! ## The repository -/

def getKnowledgeBaseById (store : DocumentStore F) (tenantId knowledgeBaseId : Uuid) :
    Option KnowledgeBase :=
  store.knowledge_bases.find? (fun base =>
    base.id = knowledgeBaseId ∧ base.tenant_id = tenantId)

def getDocumentById (store : DocumentStore F) (tenantId knowledgeBaseId documentId : Uuid) :
    Option Document :=
  store.documents.find? (fun document => document.id = documentId ∧
    document.tenant_id = tenantId ∧ document.knowledge_base_id = knowledgeBaseId)

/-- `UPDATE documents`: the attributes of one row. -/
def DocumentStore.update (store : DocumentStore F) (document : Document) : DocumentStore F :=
  { store with
    documents := store.documents.map (fun row => if row.id = document.id then document else row)
    document_ids := by
      have hids : (store.documents.map
          (fun row => if row.id = document.id then document else row)).map Document.id =
          store.documents.map Document.id := by
        rw [List.map_map]
        refine List.map_congr_left (fun row _ => ?_)
        simp only [Function.comp_apply]
        split
        · rename_i hrow
          exact hrow.symm
        · rfl
      unfold PrimaryKey
      rw [hids]
      exact store.document_ids }

/-- What becomes of the commit and the refresh of `save_document_record`. -/
inductive Save
  | saved
  | commitRefused
  | refreshFails
deriving DecidableEq

def saveDocumentRecord (save : Save) (document : Document) : Run F Document := do
  write (fun store => store.update document)
  match save with
  | .commitRefused => throw .sqlAlchemyError
  | .refreshFails =>
    commit
    throw .sqlAlchemyError
  | .saved =>
    commit
    pure document

/-- The condition of the `DELETE` in `replace_document_chunks`. -/
def isChunkOf (document : Document) (chunk : DocumentChunk F) : Bool :=
  decide (chunk.tenant_id = document.tenant_id ∧
    chunk.knowledge_base_id = document.knowledge_base_id ∧ chunk.document_id = document.id)

def DocumentStore.replaceChunks (store : DocumentStore F) (document : Document)
    (chunks : List (DocumentChunk F)) : DocumentStore F :=
  { store with chunks := store.chunks.filter (fun chunk => !isChunkOf document chunk) ++ chunks }

def replaceDocumentChunks (refused : Bool) (document : Document)
    (chunks : List (DocumentChunk F)) : Run F Unit := do
  write (fun store => store.replaceChunks document chunks)
  if refused then throw .sqlAlchemyError
  commit

/-- What stands after an `await`. -/
inductive Operand (α : Type)
  | coroutine (value : α)
  /-- A statement that no session executes. -/
  | select (value : α)

def await {α : Type} : Operand α → Run F α
  | .coroutine value => pure value
  | .select _ => throw (.typeError "object Select can't be used in 'await' expression")

/-- The `where` is that of `certifi`. -/
def listDocumentChunks (certifiWhere : (DocumentChunk F → Bool) → Except Raised Unit)
    (tenantId knowledgeBaseId documentId : Uuid) : Run F (List (DocumentChunk F)) := do
  let store ← read
  let result ← await (.select store.chunks)
  outside (certifiWhere (fun chunk => chunk.tenant_id = tenantId ∧
    chunk.knowledge_base_id = knowledgeBaseId ∧ chunk.document_id = documentId))
  pure result

/-- `UPDATE document_chunks`: the attributes of one row. -/
def updateChunk (rows : List (DocumentChunk F)) (chunk : DocumentChunk F) :
    List (DocumentChunk F) :=
  rows.map (fun row =>
    if row.document_id = chunk.document_id ∧ row.chunk_index = chunk.chunk_index then chunk
    else row)

def saveDocumentEmbeddings (save : Save) (document : Document)
    (chunks : List (DocumentChunk F)) : Run F Document := do
  write (fun store => { store with chunks := chunks.foldl updateChunk store.chunks })
  saveDocumentRecord save document

/-! ## Processing -/

def getKnowledgeBase (currentUser : User) (knowledgeBaseId : Uuid) : Run F KnowledgeBase := do
  let store ← read
  orRaise (.knowledgeBaseNotFoundError "Knowledge base was not found.")
    (getKnowledgeBaseById store currentUser.tenant_id knowledgeBaseId)

def getDocumentForProcessing (currentUser : User) (knowledgeBaseId documentId : Uuid) :
    Run F Document := do
  let store ← read
  orRaise (.documentNotFoundError "Document was not found.")
    (getDocumentById store currentUser.tenant_id knowledgeBaseId documentId)

def requireAdministrator (currentUser : User) : Run F Unit :=
  outside ((requireTenantAdministrator currentUser).mapError .refused)

def failedDocument (document : Document) (message : String) : Document :=
  { document with
    status := "failed"
    processing_message := some message
    page_count := none
    chunk_count := 0 }

def markDocumentFailed (save : Save) (document : Document) (message : String) : Run F Unit :=
  tryCatch
    (do
      let _ ← saveDocumentRecord save (failedDocument document message)
      pure ())
    (fun e => if e = .sqlAlchemyError then rollback else throw e)

/-- What the steps of `process_document` come to. -/
structure ProcessOutcomes where
  started : Save
  download : Except String (List UInt8)
  extract : List UInt8 → String → Except String ExtractedDocument
  chunksRefused : Bool
  failure : Save
  finished : Save

def startedDocument (document : Document) : Document :=
  { document with
    status := "processing"
    processing_message := some "Extracting and chunking document text." }

def chunkRecord (currentUser : User) (base : KnowledgeBase) (document : Document)
    (chunk : TextChunk) : DocumentChunk F where
  tenant_id := currentUser.tenant_id
  knowledge_base_id := base.id
  document_id := document.id
  chunk_index := chunk.chunk_index
  content := chunk.content
  token_count := some chunk.token_count
  page_number := chunk.page_number
  section_title := chunk.section_title
  chunk_metadata := chunk.metadata
  embedding := none

/-- The steps of the `try` block before the chunks are stored. -/
def extractAndChunk (outcomes : ProcessOutcomes) (currentUser : User) (base : KnowledgeBase)
    (document : Document) : Except Raised (ExtractedDocument × List (DocumentChunk F)) := do
  let content ← outcomes.download.mapError .objectStorageError
  let extractedDocument ←
    (outcomes.extract content document.file_extension).mapError .documentExtractionError
  let textChunks ←
    (chunkExtractedDocument extractedDocument base.chunk_size base.chunk_overlap).mapError
      (fun e => .textChunkingError e.message)
  pure (extractedDocument, textChunks.map (chunkRecord currentUser base document))

def extractAndStore (outcomes : ProcessOutcomes) (currentUser : User) (base : KnowledgeBase)
    (document : Document) : Run F (ExtractedDocument × List (DocumentChunk F)) := do
  let extracted ← outside (extractAndChunk outcomes currentUser base document)
  replaceDocumentChunks outcomes.chunksRefused document extracted.2
  pure extracted

def couldNotProcess : Raised := .documentProcessingError "The document could not be processed."

/-- The `except` clauses of `process_document`. -/
def handleProcessing {α : Type} (outcomes : ProcessOutcomes) (document : Document) :
    Raised → Run F α
  | .objectStorageError message | .documentExtractionError message
  | .textChunkingError message => do
    markDocumentFailed outcomes.failure document message
    throw couldNotProcess
  | .sqlAlchemyError => do
    rollback
    markDocumentFailed outcomes.failure document "The document chunks could not be stored."
    throw couldNotProcess
  | e => throw e

def chunkedDocument (document : Document) (pageCount : Option Int) (chunkCount : Nat) :
    Document :=
  { document with
    status := "chunked"
    processing_message := some "Document text was extracted and chunked successfully."
    page_count := pageCount
    chunk_count := chunkCount }

def processDocument (outcomes : ProcessOutcomes) (currentUser : User)
    (knowledgeBaseId documentId : Uuid) : Run F Document := do
  requireAdministrator currentUser
  let base ← getKnowledgeBase currentUser knowledgeBaseId
  let document ← getDocumentForProcessing currentUser knowledgeBaseId documentId
  let document ← saveDocumentRecord outcomes.started (startedDocument document)
  let extracted ← tryCatch (extractAndStore outcomes currentUser base document)
    (handleProcessing outcomes document)
  saveDocumentRecord outcomes.finished
    (chunkedDocument document extracted.1.page_count extracted.2.length)

/-! ## Embedding -/

/-- The embedding models: loading one by its name, and `model.encode`. Either may fail. -/
abbrev Encoder (F : Type) := String → Option (List String → Option (List (List F)))

def generateEmbeddingsSync (encoder : Encoder F) (texts : List String) (modelName : String)
    (expectedDimension : Nat) : Except Raised (List (List F)) :=
  if texts.isEmpty then
    throw (.embeddingGenerationError "At least one text chunk is required.")
  else if texts.any isBlank then
    throw (.embeddingGenerationError "Empty text chunks cannot be embedded.")
  else
    match encoder modelName with
    | none => throw (.embeddingGenerationError "The embedding model could not be loaded.")
    | some encode =>
      match encode texts with
      | none => throw (.embeddingGenerationError "Document embeddings could not be generated.")
      | some embeddings =>
        if embeddings.length ≠ texts.length then
          throw (.embeddingGenerationError
            "The embedding count does not match the chunk count.")
        else if embeddings.any (fun embedding => embedding.length ≠ expectedDimension) then
          throw (.embeddingGenerationError "The generated embedding dimension is invalid.")
        else pure embeddings

structure EmbeddingSettings where
  embedding_model : String
  embedding_dimension : Nat

def generateEmbeddings (settings : EmbeddingSettings) (encoder : Encoder F)
    (texts : List String) (modelName : String) (expectedDimension : Nat) :
    Except Raised (List (List F)) :=
  generateEmbeddingsSync encoder texts
    (if modelName = "" then settings.embedding_model else modelName)
    (if expectedDimension = 0 then settings.embedding_dimension else expectedDimension)

/-- What the steps of `embed_document_chunks` come to. -/
structure EmbedOutcomes (F : Type) where
  settings : EmbeddingSettings
  encoder : Encoder F
  /-- `certifi.where`, and `order_by` of what it returns. -/
  certifiWhere : (DocumentChunk F → Bool) → Except Raised Unit
  started : Save
  failure : Save
  finished : Save

def embeddingDocument (document : Document) : Document :=
  { document with
    status := "embedding"
    processing_message := some "Generating vector embeddings for document chunks." }

def completedDocument (document : Document) (chunkCount : Nat) : Document :=
  { document with
    status := "completed"
    processing_message := some "Document processing and embedding completed."
    chunk_count := chunkCount }

/-- `zip(chunks, embeddings, strict=True)`, each vector assigned to its chunk. -/
def assignEmbeddings : List (DocumentChunk F) → List (List F) →
    Except Raised (List (DocumentChunk F))
  | [], [] => pure []
  | chunk :: chunks, embedding :: embeddings => do
    let rest ← assignEmbeddings chunks embeddings
    pure ({ chunk with embedding := some embedding } :: rest)
  | _, _ => throw (.valueError "zip() arguments have different lengths")

def embedAndStore (outcomes : EmbedOutcomes F) (base : KnowledgeBase) (document : Document)
    (chunks : List (DocumentChunk F)) : Run F Document := do
  let embeddings ← outside (generateEmbeddings outcomes.settings outcomes.encoder
    (chunks.map DocumentChunk.content) base.embedding_model base.embedding_dimension)
  let embedded ← outside (assignEmbeddings chunks embeddings)
  saveDocumentEmbeddings outcomes.finished (completedDocument document embedded.length) embedded

/-- The `except` clauses of `embed_document_chunks`. -/
def handleEmbedding {α : Type} (outcomes : EmbedOutcomes F) (document : Document) :
    Raised → Run F α
  | .embeddingGenerationError _ => do
    markDocumentFailed outcomes.failure document "Document embeddings could not be generated."
    throw (.documentEmbeddingError "The document embeddings could not be generated.")
  | .sqlAlchemyError => do
    rollback
    markDocumentFailed outcomes.failure document "Document embeddings could not be stored."
    throw (.documentEmbeddingError "The document embeddings could not be stored.")
  | e => throw e

def embedDocumentChunks (outcomes : EmbedOutcomes F) (currentUser : User)
    (knowledgeBaseId documentId : Uuid) : Run F Document := do
  requireAdministrator currentUser
  let base ← getKnowledgeBase currentUser knowledgeBaseId
  let document ← getDocumentForProcessing currentUser knowledgeBaseId documentId
  if document.status ∉ ["chunked", "completed"] then
    throw (.documentEmbeddingError
      "The document must be extracted and chunked before embeddings can be generated.")
  let chunks ← listDocumentChunks outcomes.certifiWhere currentUser.tenant_id knowledgeBaseId
    documentId
  if chunks.isEmpty then
    throw (.documentEmbeddingError "The document does not contain any stored chunks.")
  let document ← saveDocumentRecord outcomes.started (embeddingDocument document)
  tryCatch (embedAndStore outcomes base document chunks) (handleEmbedding outcomes document)

end DataChat.Documents
