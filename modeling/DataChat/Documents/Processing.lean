import DataChat.Documents.Embedding
import Mathlib.Logic.Function.Basic

/-!
# Processing a document: what a call leaves behind

`process_document` commits several times: when it starts, when it replaces the chunks, and when it
records how it has ended. `process_cases` lists what a call may raise and what is stored
afterwards; everything else about processing is derived from it.
-/

namespace DataChat.Documents

open Relational Platform Transactions Outcome

variable {F : Type}

/-! ## Saving -/

/-- What a `save_document_record` leaves behind. -/
def DocumentStore.afterSave (store : DocumentStore F) (save : Save) (document : Document) :
    DocumentStore F :=
  if save = .commitRefused then store else store.update document

theorem exec_saveDocumentRecord (save : Save) (document : Document)
    (session : Session (DocumentStore F)) :
    exec (saveDocumentRecord save document) session =
      match save with
      | .saved => (.ok document,
          ⟨session.current.update document, session.current.update document⟩)
      | .refreshFails => (.error .sqlAlchemyError,
          ⟨session.current.update document, session.current.update document⟩)
      | .commitRefused => (.error .sqlAlchemyError,
          ⟨session.committed, session.current.update document⟩) := by
  unfold saveDocumentRecord
  rw [exec_bind, exec_write]
  cases save <;> rfl

/-- `mark_document_failed` does not raise. -/
theorem exec_markDocumentFailed (save : Save) (document : Document) (message : String)
    (store : DocumentStore F) :
    exec (markDocumentFailed save document message) ⟨store, store⟩ =
      (.ok (), ⟨store.afterSave save (failedDocument document message),
        store.afterSave save (failedDocument document message)⟩) := by
  rw [markDocumentFailed, exec_tryCatch, exec_bind, exec_saveDocumentRecord]
  cases save <;> rfl

/-! ## The `try` block -/

theorem extractAndChunk_error {outcomes : ProcessOutcomes} {currentUser : User}
    {base : KnowledgeBase} {document : Document} {e : Raised}
    (h : extractAndChunk (F := F) outcomes currentUser base document = .error e) :
    ∃ message, e = .objectStorageError message ∨ e = .documentExtractionError message ∨
      e = .textChunkingError message := by
  unfold extractAndChunk at h
  rcases bind_error_iff.mp h with hdownload | ⟨content, -, h⟩
  · obtain ⟨message, rfl⟩ := mapError_error hdownload
    exact ⟨message, .inl rfl⟩
  rcases bind_error_iff.mp h with hextract | ⟨extractedDocument, -, h⟩
  · obtain ⟨message, rfl⟩ := mapError_error hextract
    exact ⟨message, .inr (.inl rfl)⟩
  rcases bind_error_iff.mp h with hchunks | ⟨textChunks, -, h⟩
  · obtain ⟨error, rfl⟩ := mapError_error hchunks
    exact ⟨error.message, .inr (.inr rfl)⟩
  · cases h

theorem exec_replaceDocumentChunks (refused : Bool) (document : Document)
    (chunks : List (DocumentChunk F)) (store : DocumentStore F) :
    exec (replaceDocumentChunks refused document chunks) ⟨store, store⟩ =
      if refused then (.error .sqlAlchemyError, ⟨store, store.replaceChunks document chunks⟩)
      else (.ok (), ⟨store.replaceChunks document chunks,
        store.replaceChunks document chunks⟩) := by
  rw [replaceDocumentChunks, exec_bind, exec_write]
  cases refused <;> rfl

/-- When the `try` block fails, the failure is recorded if it can be. -/
theorem exec_try_fails {outcomes : ProcessOutcomes} {currentUser : User} {base : KnowledgeBase}
    {document : Document} (store : DocumentStore F)
    (h : outcomes.chunksRefused = true ∨
      ∃ e, extractAndChunk (F := F) outcomes currentUser base document = .error e) :
    ∃ message, exec (tryCatch (extractAndStore outcomes currentUser base document)
        (handleProcessing outcomes document)) ⟨store, store⟩ =
      (.error couldNotProcess,
        ⟨store.afterSave outcomes.failure (failedDocument document message),
          store.afterSave outcomes.failure (failedDocument document message)⟩) := by
  rw [exec_tryCatch, extractAndStore, exec_bind, exec_outside]
  cases hextracted : extractAndChunk (F := F) outcomes currentUser base document with
  | error e =>
    obtain ⟨message, rfl | rfl | rfl⟩ := extractAndChunk_error hextracted
    all_goals
      refine ⟨message, ?_⟩
      dsimp only [handleProcessing]
      rw [exec_bind, exec_markDocumentFailed]
      rfl
  | ok extracted =>
    have hrefused : outcomes.chunksRefused = true := by
      rcases h with hrefused | ⟨e, he⟩
      · exact hrefused
      · rw [hextracted] at he
        cases he
    refine ⟨"The document chunks could not be stored.", ?_⟩
    dsimp only
    rw [exec_bind, exec_replaceDocumentChunks, if_pos hrefused]
    dsimp only [handleProcessing]
    rw [exec_bind, exec_rollback]
    dsimp only
    rw [exec_bind, exec_markDocumentFailed]
    rfl

theorem exec_try_ok {outcomes : ProcessOutcomes} {currentUser : User} {base : KnowledgeBase}
    {document : Document} {store : DocumentStore F}
    {extracted : ExtractedDocument × List (DocumentChunk F)}
    (hextracted : extractAndChunk outcomes currentUser base document = .ok extracted)
    (hrefused : outcomes.chunksRefused = false) :
    exec (tryCatch (extractAndStore outcomes currentUser base document)
        (handleProcessing outcomes document)) ⟨store, store⟩ =
      (.ok extracted, ⟨store.replaceChunks document extracted.2,
        store.replaceChunks document extracted.2⟩) := by
  rw [exec_tryCatch, extractAndStore, exec_bind, exec_outside, hextracted]
  dsimp only
  rw [exec_bind, exec_replaceDocumentChunks, if_neg (by rw [hrefused]; exact Bool.false_ne_true)]
  rfl

/-! ## A call -/

/-- The call gets to the `try` block. -/
structure Begun (outcomes : ProcessOutcomes) (currentUser : User)
    (knowledgeBaseId documentId : Uuid) (store : DocumentStore F) (base : KnowledgeBase)
    (document : Document) : Prop where
  administrator : currentUser.is_tenant_admin = true
  base : getKnowledgeBaseById store currentUser.tenant_id knowledgeBaseId = some base
  document : getDocumentById store currentUser.tenant_id knowledgeBaseId documentId =
    some document
  started : outcomes.started = .saved

/-- The `try` block fails: the text is not there, or its chunks are not stored. -/
def Fails (F : Type) (outcomes : ProcessOutcomes) (currentUser : User) (base : KnowledgeBase)
    (document : Document) : Prop :=
  outcomes.chunksRefused = true ∨
    ∃ e, extractAndChunk (F := F) outcomes currentUser base (startedDocument document) = .error e

def finishedDocument (document : Document)
    (extracted : ExtractedDocument × List (DocumentChunk F)) : Document :=
  chunkedDocument (startedDocument document) extracted.1.page_count extracted.2.length

/-- How a call may end. -/
inductive ProcessEnd (outcomes : ProcessOutcomes) (currentUser : User)
    (knowledgeBaseId documentId : Uuid) (store : DocumentStore F) :
    Except Raised Document × DocumentStore F → Prop
  | refused (e : Raised)
      (hnot : ∀ base document,
        ¬ Begun outcomes currentUser knowledgeBaseId documentId store base document) :
      ProcessEnd outcomes currentUser knowledgeBaseId documentId store (.error e, store)
  | notStarted (document : Document)
      (hnot : ∀ base document,
        ¬ Begun outcomes currentUser knowledgeBaseId documentId store base document)
      (hdocument : getDocumentById store currentUser.tenant_id knowledgeBaseId documentId =
        some document) :
      ProcessEnd outcomes currentUser knowledgeBaseId documentId store
        (.error .sqlAlchemyError, store.update (startedDocument document))
  | failed (base : KnowledgeBase) (document : Document) (message : String)
      (hbegun : Begun outcomes currentUser knowledgeBaseId documentId store base document)
      (hfails : Fails F outcomes currentUser base document) :
      ProcessEnd outcomes currentUser knowledgeBaseId documentId store
        (.error couldNotProcess, (store.update (startedDocument document)).afterSave
          outcomes.failure (failedDocument (startedDocument document) message))
  | stored (base : KnowledgeBase) (document : Document)
      (extracted : ExtractedDocument × List (DocumentChunk F))
      (hbegun : Begun outcomes currentUser knowledgeBaseId documentId store base document)
      (hextracted : extractAndChunk outcomes currentUser base (startedDocument document) =
        .ok extracted)
      (hrefused : outcomes.chunksRefused = false) :
      ProcessEnd outcomes currentUser knowledgeBaseId documentId store
        (if outcomes.finished = .saved then .ok (finishedDocument document extracted)
          else .error .sqlAlchemyError,
          ((store.update (startedDocument document)).replaceChunks (startedDocument document)
            extracted.2).afterSave outcomes.finished (finishedDocument document extracted))

theorem process_cases (outcomes : ProcessOutcomes) (currentUser : User)
    (knowledgeBaseId documentId : Uuid) (store : DocumentStore F) :
    ProcessEnd outcomes currentUser knowledgeBaseId documentId store
      (call (processDocument outcomes currentUser knowledgeBaseId documentId) store) := by
  unfold call processDocument
  rw [exec_bind, exec_requireAdministrator]
  by_cases hadmin : currentUser.is_tenant_admin = true
  · simp only [if_pos hadmin]
    rw [exec_bind, exec_getKnowledgeBase]
    cases hbase : getKnowledgeBaseById store currentUser.tenant_id knowledgeBaseId with
    | none =>
      refine .refused _ (fun base document hbegun => ?_)
      rw [hbegun.base] at hbase
      cases hbase
    | some base =>
      dsimp only
      rw [exec_bind, exec_getDocumentForProcessing]
      cases hdocument : getDocumentById store currentUser.tenant_id knowledgeBaseId documentId with
      | none =>
        refine .refused _ (fun base document hbegun => ?_)
        rw [hbegun.document] at hdocument
        cases hdocument
      | some document =>
        dsimp only
        rw [exec_bind, exec_saveDocumentRecord]
        cases hstarted : outcomes.started with
        | commitRefused =>
          refine .refused _ (fun base document hbegun => ?_)
          rw [hbegun.started] at hstarted
          cases hstarted
        | refreshFails =>
          refine .notStarted document (fun base document hbegun => ?_) hdocument
          rw [hbegun.started] at hstarted
          cases hstarted
        | saved =>
          dsimp only
          rw [exec_bind]
          have hbegun : Begun outcomes currentUser knowledgeBaseId documentId store base document :=
            ⟨hadmin, hbase, hdocument, hstarted⟩
          by_cases hfails : Fails F outcomes currentUser base document
          · obtain ⟨message, htry⟩ :=
              exec_try_fails (store.update (startedDocument document)) hfails
            rw [htry]
            exact .failed base document message hbegun hfails
          · unfold Fails at hfails
            push Not at hfails
            obtain ⟨hrefused, hnoError⟩ := hfails
            have hrefused : outcomes.chunksRefused = false := Bool.eq_false_iff.mpr hrefused
            cases hextracted : extractAndChunk outcomes currentUser base
                (startedDocument document) with
            | error e => exact absurd hextracted (hnoError e)
            | ok extracted =>
              rw [exec_try_ok hextracted hrefused]
              dsimp only
              rw [exec_saveDocumentRecord]
              have hend := ProcessEnd.stored base document extracted hbegun hextracted hrefused
              cases hfinished : outcomes.finished <;> simpa [hfinished, DocumentStore.afterSave,
                finishedDocument] using hend
  · simp only [if_neg hadmin]
    exact .refused _ (fun base document hbegun => hadmin hbegun.administrator)

end DataChat.Documents
