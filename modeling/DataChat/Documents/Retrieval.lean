import DataChat.Chat.Services
import DataChat.Documents.Uploads
import DataChat.Library.SameRows

/-!
# Retrieving chunks

`services/document/retrieval_service.py` and `search_document_chunks`. The chunks of the completed
documents of a knowledge base are sorted by their distance to the query. Chunks at one distance may
come in either order, so the rows that the search returns are an argument, and `Searched` says which
rows the database may return.

The embedding model, the distances of `pgvector` and the floats with their arithmetic are
parameters.
-/

namespace DataChat.Documents

open Relational Platform

variable {F N : Type}

/-! ## Searching -/

structure ChunkRow (F : Type) extends DocumentChunk F where
  id : Uuid

/-- `cosine_distance` refuses vectors of different dimensions. Distances are sorted by their
keys. -/
structure Pgvector (F : Type) (N : Type := PyFloat) where
  Key : Type
  order : LinearOrder Key
  cosineDistance : List F → List F → Option N
  key : N → Key

instance (vectors : Pgvector F N) : LinearOrder vectors.Key := vectors.order

/-- A row of the search, before its distance is known. -/
structure Candidate (F : Type) where
  chunk : ChunkRow F
  document : DocumentRow
  embedding : List F

/-- A row of `search_document_chunks`. -/
structure SearchRow (F : Type) (N : Type := PyFloat) where
  chunk : ChunkRow F
  document : DocumentRow
  distance : N

/-- The join, for one chunk with a vector. -/
def joinDocument (documents : DocumentTable) (chunk : ChunkRow F) : Option (Candidate F) :=
  (lookup (fun document : DocumentRow => document.id) documents.rows chunk.document_id).bind
    (fun document => chunk.embedding.map (fun embedding => ⟨chunk, document, embedding⟩))

/-- The `WHERE` clause. -/
def isSearched (tenantId knowledgeBaseId : Uuid) (candidate : Candidate F) : Bool :=
  decide (candidate.chunk.tenant_id = tenantId ∧
    candidate.chunk.knowledge_base_id = knowledgeBaseId ∧
    candidate.document.tenant_id = tenantId ∧
    candidate.document.knowledge_base_id = knowledgeBaseId ∧
    candidate.document.status = "completed")

def candidates (documents : DocumentTable) (chunks : List (ChunkRow F))
    (tenantId knowledgeBaseId : Uuid) : List (Candidate F) :=
  (chunks.filterMap (joinDocument documents)).filter (isSearched tenantId knowledgeBaseId)

def Candidate.searchRow (vectors : Pgvector F N) (queryEmbedding : List F)
    (candidate : Candidate F) : Option (SearchRow F N) :=
  (vectors.cosineDistance candidate.embedding queryEmbedding).map (fun distance =>
    ⟨candidate.chunk, candidate.document, distance⟩)

def searchKey (vectors : Pgvector F N) (row : SearchRow F N) : vectors.Key :=
  vectors.key row.distance

/-! ## The service -/

/-- The arithmetic of floats in Python: `0.0`, `1.0`, `-`, `<` and `round`. -/
structure FloatArithmetic (N : Type := PyFloat) where
  zero : N
  one : N
  sub : N → N → N
  lt : N → N → Bool
  round : N → Nat → N

/-- `min(a, b)`. -/
def FloatArithmetic.min (floats : FloatArithmetic N) (a b : N) : N :=
  if floats.lt b a then b else a

/-- `max(a, b)`. -/
def FloatArithmetic.max (floats : FloatArithmetic N) (a b : N) : N :=
  if floats.lt a b then b else a

def cosineDistanceToSimilarity (floats : FloatArithmetic N) (distance : N) : N :=
  let similarity := floats.sub floats.one distance
  floats.max floats.zero (floats.min floats.one similarity)

structure RetrievalServices (F : Type) (N : Type := PyFloat) where
  settings : EmbeddingSettings
  encoder : Encoder F
  vectors : Pgvector F N
  floats : FloatArithmetic N

/-- `except EmbeddingGenerationError`. -/
def embeddingRaised : Raised → Chat.Raised
  | .embeddingGenerationError _ =>
    .documentRetrievalError "The search query could not be embedded."
  | _ => .otherException

def findBase (bases : KnowledgeBaseTable) (currentUser : User) (knowledgeBaseId : Uuid) :
    Except Chat.Raised KnowledgeBaseRow :=
  match bases.rows.find? (fun base =>
      base.id = knowledgeBaseId ∧ base.tenant_id = currentUser.tenant_id) with
  | some base => pure base
  | none => throw (.knowledgeBaseNotFoundError "Knowledge base was not found.")

def requireEnabled (base : KnowledgeBaseRow) : Except Chat.Raised Unit :=
  if base.is_active then pure ()
  else throw (.documentRetrievalError "The selected knowledge base is disabled.")

def requireQuery (normalizedQuery : String) : Except Chat.Raised Unit :=
  if normalizedQuery = "" then
    throw (.documentRetrievalError "The search query cannot be empty.")
  else pure ()

/-- `embeddings[0]`. -/
def firstEmbedding : List (List F) → Except Chat.Raised (List F)
  | [] => throw (.documentRetrievalError "The search query produced no embedding.")
  | embedding :: _ => pure embedding

/-- `retrieve_relevant_chunks` up to the search. -/
def embedQuery (services : RetrievalServices F N) (bases : KnowledgeBaseTable) (currentUser : User)
    (knowledgeBaseId : Uuid) (query : String) : Except Chat.Raised (List F) := do
  let base ← findBase bases currentUser knowledgeBaseId
  requireEnabled base
  let normalizedQuery := strip query
  requireQuery normalizedQuery
  let embeddings ← (generateEmbeddings services.settings services.encoder [normalizedQuery]
    base.embedding_model base.embedding_dimension).mapError embeddingRaised
  firstEmbedding embeddings

/-- What is made of a row of the search, if it is similar enough. -/
def retrieved (floats : FloatArithmetic N) (minimumSimilarity : N) (row : SearchRow F N) :
    Option (Chat.RetrievedDocumentChunk N) :=
  let similarityScore := cosineDistanceToSimilarity floats row.distance
  if floats.lt similarityScore minimumSimilarity then none
  else some
    { document_id := row.document.id
      document_name := row.document.original_filename
      chunk_id := row.chunk.id
      chunk_index := row.chunk.chunk_index
      page_number := row.chunk.page_number
      section_title := row.chunk.section_title
      similarity_score := floats.round similarityScore 6
      content := row.chunk.content }

/-- The tables that the service reads. -/
structure RetrievalTables (F : Type) where
  bases : KnowledgeBaseTable
  documents : DocumentTable
  chunks : List (ChunkRow F)

/-- All vectors can be compared with that of the query. -/
def requireComparable (vectors : Pgvector F N) (queryEmbedding : List F)
    (found : List (Candidate F)) : Except Chat.Raised Unit :=
  if found.any (fun candidate => (candidate.searchRow vectors queryEmbedding).isNone) then
    throw .sqlAlchemyError
  else pure ()

def retrieveRelevantChunks (services : RetrievalServices F N) (tables : RetrievalTables F)
    (currentUser : User) (knowledgeBaseId : Uuid) (query : String) (topK : Nat)
    (minimumSimilarity : N) (sorted : List (SearchRow F N)) :
    Except Chat.Raised (List (Chat.RetrievedDocumentChunk N)) := do
  let queryEmbedding ← embedQuery services tables.bases currentUser knowledgeBaseId query
  requireComparable services.vectors queryEmbedding
    (candidates tables.documents tables.chunks currentUser.tenant_id knowledgeBaseId)
  pure ((sorted.take topK).filterMap (retrieved services.floats minimumSimilarity))

/-- The database may sort the rows of the search so. -/
def Searched (services : RetrievalServices F N) (tables : RetrievalTables F) (currentUser : User)
    (knowledgeBaseId : Uuid) (query : String) (sorted : List (SearchRow F N)) : Prop :=
  ∀ queryEmbedding, embedQuery services tables.bases currentUser knowledgeBaseId query =
      .ok queryEmbedding →
    OrderedBy (searchKey services.vectors)
      ((candidates tables.documents tables.chunks currentUser.tenant_id knowledgeBaseId).filterMap
        (Candidate.searchRow services.vectors queryEmbedding)) sorted

end DataChat.Documents
