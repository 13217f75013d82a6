import DataChat.Documents.ChunkCount
import DataChat.Workspace.Definitions

/-!
# From an upload to a citation

Questions are answered from the chunks of completed documents. An upload inserts a pending
document, `process_document` leaves it chunked or failed, and `embed_document_chunks`, which should
complete it, always raises. The three are separate requests, and others come between them.

* `mem_retrieved`, `cites_retrieved`: what is cited is a chunk of a completed document.
* `step_keepsCompleted`: no request completes a document or changes the chunks of a completed one.
* `cited_completed`: what is cited has been there from the start.
-/

namespace DataChat.Workspace

open Relational Platform Transactions Outcome

variable {F : Type} {newUuid : Nat → Uuid} {users : User → Prop} {state state' : State F}
  {user : User} {around : Chat.Surroundings} {conversationId : Uuid}

/-! ## What is cited -/

/-- The citation quotes a chunk that has been retrieved. -/
def Quotes (citation : Chat.MessageCitation) (found : Chat.RetrievedDocumentChunk) : Prop :=
  citation.document_id = some found.document_id ∧
    citation.document_chunk_id = some found.chunk_id ∧ citation.excerpt = some found.content

section Returned

variable {assistant userMessage : Chat.Message} {queryExecution : Chat.QueryExecution}
  {citations : List Chat.MessageCitation} {session after : Session Chat.ChatStore}

theorem exchange_returned {exchange : Chat.MessageExchange}
    (h : exec (Chat.createMessageExchange around userMessage assistant citations) session =
      (.ok exchange, after)) :
    exchange.assistant_message.message.fields = assistant ∧
      ∀ row ∈ exchange.assistant_message.citations, ∃ citation ∈ citations,
        ∃ messageId, row.fields = { citation with message_id := messageId } := by
  unfold Chat.createMessageExchange at h
  obtain ⟨saved, _, _, h⟩ := exec_bind_ok h
  obtain ⟨answer, middle, hanswer, h⟩ := exec_bind_ok h
  obtain ⟨rows, _, hrows, h⟩ := exec_bind_ok h
  obtain ⟨_, _, _, h⟩ := exec_bind_ok h
  cases h
  rw [Chat.exec_addMessage] at hanswer
  rw [Chat.exec_addCitations] at hrows
  cases hanswer
  cases hrows
  refine ⟨rfl, fun row hrow => ?_⟩
  obtain ⟨citation, hcitation, hfields⟩ := List.mem_map.mp (Chat.mem_citationRows hrow).2
  exact ⟨citation, hcitation, _, hfields.symm⟩

theorem hybridExchange_returned {exchange : Chat.MessageExchange}
    {execution : Chat.Stored Chat.QueryExecution}
    (h : exec (Chat.createHybridMessageExchange around userMessage assistant queryExecution
      citations) session = (.ok (exchange, execution), after)) :
    ∀ row ∈ exchange.assistant_message.citations, ∃ citation ∈ citations,
      ∃ messageId executionId, row.fields =
        { citation with message_id := messageId, query_execution_id := executionId } := by
  unfold Chat.createHybridMessageExchange at h
  obtain ⟨saved, _, _, h⟩ := exec_bind_ok h
  obtain ⟨answer, _, _, h⟩ := exec_bind_ok h
  obtain ⟨executed, _, _, h⟩ := exec_bind_ok h
  obtain ⟨rows, _, hrows, h⟩ := exec_bind_ok h
  obtain ⟨_, _, _, h⟩ := exec_bind_ok h
  cases h
  rw [Chat.exec_addCitations] at hrows
  cases hrows
  intro row hrow
  obtain ⟨citation, hcitation, hfields⟩ := List.mem_map.mp (Chat.mem_citationRows hrow).2
  exact ⟨citation, hcitation, _, _, hfields.symm⟩

theorem databaseExchange_returned {exchange : Chat.MessageExchange}
    {execution : Chat.Stored Chat.QueryExecution} {citation : Chat.MessageCitation}
    (h : exec (Chat.createDatabaseMessageExchange around userMessage assistant queryExecution
      citation) session = (.ok (exchange, execution), after)) :
    ∀ row ∈ exchange.assistant_message.citations,
      row.fields.document_id = citation.document_id := by
  unfold Chat.createDatabaseMessageExchange at h
  obtain ⟨saved, _, _, h⟩ := exec_bind_ok h
  obtain ⟨answer, _, _, h⟩ := exec_bind_ok h
  obtain ⟨executed, _, _, h⟩ := exec_bind_ok h
  obtain ⟨cited, _, hcited, h⟩ := exec_bind_ok h
  obtain ⟨_, _, _, h⟩ := exec_bind_ok h
  cases h
  rw [Chat.exec_addCitation] at hcited
  cases hcited
  intro row hrow
  rw [List.mem_singleton.mp hrow]

/-- The handler around the exchange of a database conversation raises. -/
theorem handleExchangeError_raises {py : Casing} {auditLog : Chat.AuditLog} {e : Chat.Raised}
    {saved : Chat.MessageExchange × Chat.Stored Chat.QueryExecution} :
    exec (Chat.handleExchangeError py around auditLog e) session ≠ (.ok saved, after) := by
  intro h
  unfold Chat.handleExchangeError at h
  split at h
  · obtain ⟨_, _, _, h⟩ := exec_bind_ok h
    obtain ⟨_, _, h, _⟩ := exec_bind_ok h
    cases h
  · cases h

theorem document_returned {retrieval : Chat.Retrieval} {request : Chat.MessageCreate}
    {exchange : Chat.MessageExchange} {store after : Chat.ChatStore}
    (h : call (Chat.createDocumentMessage around retrieval user conversationId request) store =
      (.ok exchange, after)) :
    ∃ conversation knowledgeBaseId matched,
      Chat.getConversationById store user.tenant_id user.id conversationId = some conversation ∧
      conversation.knowledge_base_id = some knowledgeBaseId ∧ retrieval = .ok matched ∧
      exchange.assistant_message.message.fields.content =
        Chat.buildGroundedDocumentResponse (strip request.content) matched ∧
      ∀ row ∈ exchange.assistant_message.citations, ∃ found ∈ matched, Quotes row.fields found := by
  obtain ⟨session, hexec, rfl⟩ := Chat.exec_of_call h
  unfold Chat.createDocumentMessage at hexec
  obtain ⟨conversation, hpasses, hexec⟩ := Chat.passes_of_returned hexec
  obtain ⟨knowledgeBaseId, hbase, hexec⟩ := Chat.reference_of_returned hexec
  obtain ⟨matched, middle, hmatched, hexec⟩ := exec_bind_ok hexec
  rw [Chat.exec_outside] at hmatched
  obtain ⟨hretrieval, -⟩ := Prod.mk.inj hmatched
  obtain ⟨hanswer, hcited⟩ := exchange_returned hexec
  refine ⟨conversation, knowledgeBaseId, matched, hpasses.found, hbase, hretrieval, ?_, ?_⟩
  · rw [hanswer]
    rfl
  · intro row hrow
    obtain ⟨citation, hcitation, messageId, hfields⟩ := hcited row hrow
    obtain ⟨found, hfound, rfl⟩ := List.mem_map.mp hcitation
    rw [hfields]
    exact ⟨found, hfound, rfl, rfl, rfl⟩

theorem database_returned {steps : Chat.QuerySteps} {request : Chat.DatabaseMessageCreate}
    {exchange : Chat.MessageExchange} {store after : Chat.ChatStore}
    (h : call (Chat.createDatabaseMessage around steps user conversationId request) store =
      (.ok exchange, after)) :
    ∀ row ∈ exchange.assistant_message.citations, row.fields.document_id = none := by
  obtain ⟨session, hexec, rfl⟩ := Chat.exec_of_call h
  unfold Chat.createDatabaseMessage at hexec
  obtain ⟨conversation, -, hexec⟩ := Chat.passes_of_returned hexec
  obtain ⟨connectionId, -, hexec⟩ := Chat.reference_of_returned hexec
  obtain ⟨result, _, _, hexec⟩ := exec_bind_ok hexec
  obtain ⟨content, _, _, hexec⟩ := exec_bind_ok hexec
  obtain ⟨saved, _, hsaved, hexec⟩ := exec_bind_ok hexec
  cases hexec
  rw [exec_tryCatch] at hsaved
  split at hsaved
  · rename_i hexchange
    cases hsaved
    exact databaseExchange_returned hexchange
  · exact absurd hsaved handleExchangeError_raises

theorem hybrid_returned {steps : Chat.QuerySteps} {retrieval : Chat.Retrieval}
    {request : Chat.HybridMessageCreate} {exchange : Chat.MessageExchange}
    {store after : Chat.ChatStore}
    (h : call (Chat.createHybridMessage around steps retrieval user conversationId request) store =
      (.ok exchange, after)) :
    ∃ conversation knowledgeBaseId matched,
      Chat.getConversationById store user.tenant_id user.id conversationId = some conversation ∧
      conversation.knowledge_base_id = some knowledgeBaseId ∧ retrieval = .ok matched ∧
      ∀ row ∈ exchange.assistant_message.citations, row.fields.document_id ≠ none →
        ∃ found ∈ matched, Quotes row.fields found := by
  obtain ⟨session, hexec, rfl⟩ := Chat.exec_of_call h
  unfold Chat.createHybridMessage at hexec
  obtain ⟨conversation, hpasses, hexec⟩ := Chat.passes_of_returned hexec
  obtain ⟨connectionId, -, hexec⟩ := Chat.reference_of_returned hexec
  obtain ⟨knowledgeBaseId, hbase, hexec⟩ := Chat.reference_of_returned hexec
  obtain ⟨result, _, _, hexec⟩ := exec_bind_ok hexec
  obtain ⟨matched, _, hmatched, hexec⟩ := exec_bind_ok hexec
  obtain ⟨content, _, _, hexec⟩ := exec_bind_ok hexec
  obtain ⟨saved, _, hsaved, hexec⟩ := exec_bind_ok hexec
  obtain ⟨event, _, _, hexec⟩ := exec_bind_ok hexec
  cases hexec
  rw [Chat.exec_outside] at hmatched
  obtain ⟨hretrieval, -⟩ := Prod.mk.inj hmatched
  refine ⟨conversation, knowledgeBaseId, matched, hpasses.found, hbase, hretrieval, ?_⟩
  intro row hrow hdocument
  obtain ⟨citation, hcitation, messageId, executionId, hfields⟩ :=
    hybridExchange_returned hsaved row hrow
  rw [hfields] at hdocument ⊢
  rcases List.mem_cons.mp hcitation with rfl | hcitation
  · exact absurd rfl hdocument
  · obtain ⟨found, hfound, rfl⟩ := List.mem_map.mp hcitation
    exact ⟨found, hfound, rfl, rfl, rfl⟩

end Returned

/-- A chunk that is retrieved for a user is one of a completed document of the tenant. -/
theorem mem_retrieved {services : Documents.RetrievalServices F}
    {platform : Tenants.PlatformState F} {knowledgeBaseId : Uuid} {query : String} {topK : Nat}
    {minimumSimilarity : PyFloat}
    {matched : List Chat.RetrievedDocumentChunk}
    (h : Tenants.MayRetrieve services platform user knowledgeBaseId query topK minimumSimilarity
      (.ok matched)) {found : Chat.RetrievedDocumentChunk} (hfound : found ∈ matched) :
    ∃ document ∈ platform.documents.rows, ∃ chunk ∈ platform.chunks,
      document.tenant_id = user.tenant_id ∧ document.status = "completed" ∧
      chunk.document_id = document.id ∧ found.document_id = document.id ∧
      found.chunk_id = chunk.id ∧ found.content = chunk.content := by
  obtain ⟨sorted, hsearched, hreturned⟩ := h
  unfold Documents.retrieveRelevantChunks at hreturned
  obtain ⟨queryEmbedding, hembedded, hreturned⟩ := bind_ok_iff.mp hreturned.symm
  obtain ⟨-, -, hreturned⟩ := bind_ok_iff.mp hreturned
  rw [← pure_ok_iff.mp hreturned] at hfound
  obtain ⟨row, hrow, hretrieved⟩ := List.mem_filterMap.mp hfound
  have hmem := (hsearched queryEmbedding hembedded).mem_iff.mp (List.mem_of_mem_take hrow)
  obtain ⟨candidate, hcandidate, hsearchRow⟩ := List.mem_filterMap.mp hmem
  obtain ⟨distance, -, rfl⟩ := Option.map_eq_some_iff.mp hsearchRow
  obtain ⟨hjoined, hselected⟩ := List.mem_filter.mp hcandidate
  obtain ⟨chunk, hchunk, hjoin⟩ := List.mem_filterMap.mp hjoined
  obtain ⟨document, hlookup, hjoin⟩ := Option.bind_eq_some_iff.mp hjoin
  obtain ⟨embedding, -, rfl⟩ := Option.map_eq_some_iff.mp hjoin
  obtain ⟨hdocument, hid⟩ := lookup_some hlookup
  obtain ⟨-, -, htenant, -, hcompleted⟩ := of_decide_eq_true hselected
  unfold Documents.retrieved at hretrieved
  dsimp only at hretrieved
  split at hretrieved
  · cases hretrieved
  · cases hretrieved
    exact ⟨document, hdocument, chunk, hchunk, htenant, hcompleted, hid.symm, rfl, rfl, rfl⟩

/-- Whatever an answer cites of documents has been retrieved for the question. -/
theorem cites_retrieved {c : Chat.ChatCall} (hmay : state.MayCall user conversationId c)
    {exchange : Chat.MessageExchange} {after : Chat.ChatStore}
    (h : c.result around user conversationId state.platform.chatStore = (.ok exchange, after))
    {row : Chat.Stored Chat.MessageCitation} (hrow : row ∈ exchange.assistant_message.citations)
    (hdocument : row.fields.document_id ≠ none) :
    ∃ services knowledgeBaseId query topK minimumSimilarity matched,
      Tenants.MayRetrieve services state.platform user knowledgeBaseId query topK
        minimumSimilarity (.ok matched) ∧ ∃ found ∈ matched, Quotes row.fields found := by
  cases c with
  | document retrieval request =>
    obtain ⟨conversation, knowledgeBaseId, matched, hfound, hbase, rfl, -, hcited⟩ :=
      document_returned h
    obtain ⟨services, topK, minimumSimilarity, hretrieved⟩ :=
      hmay conversation knowledgeBaseId hfound hbase
    exact ⟨services, _, _, _, _, matched, hretrieved, hcited row hrow⟩
  | database steps request => exact absurd (database_returned h row hrow) hdocument
  | hybrid steps retrieval request =>
    obtain ⟨conversation, knowledgeBaseId, matched, hfound, hbase, rfl, hcited⟩ :=
      hybrid_returned h
    obtain ⟨services, topK, minimumSimilarity, hretrieved⟩ :=
      hmay conversation knowledgeBaseId hfound hbase
    exact ⟨services, _, _, _, _, matched, hretrieved, hcited row hrow hdocument⟩

/-! ## What the document services write -/

/-- An upload that comes to its insertion inserts a pending document. -/
def Pending (uploads : List Documents.Phase) : Prop :=
  ∀ document seen, .storing document seen ∈ uploads → document.status = "pending"

section Upload

variable {services : Documents.UploadServices} {uploads : Documents.UploadState}

theorem Pending.setCall (h : Pending uploads.calls) (place : Nat) {phase : Documents.Phase}
    (hphase : ∀ document seen, phase = .storing document seen → document.status = "pending") :
    Pending (uploads.setCall place phase).calls := by
  intro document seen hmem
  rcases List.mem_or_eq_of_mem_set hmem with hmem | heq
  · exact h document seen hmem
  · exact hphase document seen heq.symm

/-- Pending documents may have been added. -/
def AddsPending (before after : Documents.UploadState) : Prop :=
  ∃ added, after.documents.rows = before.documents.rows ++ added ∧
    ∀ row ∈ added, row.status = "pending"

theorem AddsPending.of_same {before after : Documents.UploadState}
    (h : after.documents = before.documents) : AddsPending before after := by
  refine ⟨[], ?_, fun row hrow => absurd hrow List.not_mem_nil⟩
  rw [h, List.append_nil]

theorem insert_pending (h : Pending uploads.calls) {place : Nat} {document : Documents.DocumentRow}
    (hstatus : document.status = "pending") (outcome : Documents.Upload Documents.DocumentRow) :
    Pending (uploads.insert place document outcome).calls ∧
      AddsPending uploads (uploads.insert place document outcome) := by
  unfold Documents.UploadState.insert
  split
  · rename_i documents hinserted
    refine ⟨Pending.setCall h place (fun _ _ hphase => by cases hphase), [document],
      Documents.insertDocument_rows hinserted, fun row hrow => ?_⟩
    rw [List.mem_singleton.mp hrow]
    exact hstatus
  · exact ⟨h.setCall place (fun _ _ hphase => by cases hphase), .of_same rfl⟩

/-- The documents after a step of an upload. -/
theorem upload_pending (h : Pending uploads.calls) (event : Documents.Event) :
    Pending (uploads.step services event).calls ∧
      AddsPending uploads (uploads.step services event) := by
  cases event with
  | call currentUser knowledgeBaseId upload =>
    refine ⟨fun document seen hmem => ?_, .of_same rfl⟩
    rcases List.mem_append.mp hmem with hmem | hmem
    · exact h document seen hmem
    · have hphase := List.mem_singleton.mp hmem
      unfold Documents.afterChecks at hphase
      split at hphase <;> cases hphase
  | search place documentId =>
    show Pending (uploads.search services place documentId).calls ∧
      AddsPending uploads (uploads.search services place documentId)
    unfold Documents.UploadState.search
    split
    · rename_i upload _
      refine ⟨h.setCall place (fun document seen hphase => ?_), .of_same rfl⟩
      unfold Documents.afterSearch at hphase
      split at hphase
      · cases hphase
        rfl
      · cases hphase
    · exact ⟨h, .of_same rfl⟩
  | finish place finish =>
    show Pending (uploads.finish place finish).calls ∧
      AddsPending uploads (uploads.finish place finish)
    unfold Documents.UploadState.finish
    split
    · rename_i document seen hplace
      have hstatus := h document seen (List.mem_of_getElem? hplace)
      cases finish with
      | notStored message =>
        exact ⟨h.setCall place (fun _ _ hphase => by cases hphase), .of_same rfl⟩
      | commitRefused =>
        exact ⟨h.setCall place (fun _ _ hphase => by cases hphase), .of_same rfl⟩
      | refreshFails => exact insert_pending h hstatus _
      | saved => exact insert_pending h hstatus _
    · exact ⟨h, .of_same rfl⟩

end Upload

section Process

variable {outcomes : Documents.ProcessOutcomes} {knowledgeBaseId documentId : Uuid}
  {store : Documents.DocumentStore F}

theorem startedDocument_status (document : Documents.Document) :
    (Documents.startedDocument document).status ≠ "completed" :=
  show "processing" ≠ "completed" by decide

theorem failedDocument_status (document : Documents.Document) (message : String) :
    (Documents.failedDocument document message).status ≠ "completed" :=
  show "failed" ≠ "completed" by decide

theorem finishedDocument_status (document : Documents.Document)
    (extracted : Documents.ExtractedDocument × List (Documents.DocumentChunk F)) :
    (Documents.finishedDocument document extracted).status ≠ "completed" :=
  show "chunked" ≠ "completed" by decide

/-- A document that is completed when a processing has started is another one. -/
theorem completed_of_started {document row : Documents.Document}
    (hdocument : document ∈ store.documents)
    (hrow : row ∈ (store.update (Documents.startedDocument document)).documents)
    (hcompleted : row.status = "completed") : row ∈ store.documents ∧ row.id ≠ document.id := by
  rcases (Documents.mem_update hdocument (Documents.startedDocument_id document) row).mp hrow
    with rfl | ⟨hmem, hne⟩
  · exact absurd hcompleted (startedDocument_status document)
  · exact ⟨hmem, hne⟩

/-- Of the documents that are completed after a processing, none is the processed one. -/
theorem completed_of_saved {document d row : Documents.Document} {save : Documents.Save}
    {after : Documents.DocumentStore F} (hdocument : document ∈ store.documents)
    (hrow : row ∈ (after.afterSave save d).documents)
    (hafter : after.documents = (store.update (Documents.startedDocument document)).documents)
    (hid : d.id = document.id) (hstatus : d.status ≠ "completed")
    (hcompleted : row.status = "completed") :
    row ∈ store.documents ∧ row.id ≠ document.id := by
  unfold Documents.DocumentStore.afterSave at hrow
  split at hrow
  · exact completed_of_started hdocument (hafter ▸ hrow) hcompleted
  · have hmem : Documents.startedDocument document ∈ after.documents := by
      rw [hafter]
      exact Documents.mem_update_started hdocument
    rcases (Documents.mem_update hmem hid row).mp hrow with rfl | ⟨hrow, -⟩
    · exact absurd hcompleted hstatus
    · exact completed_of_started hdocument (hafter ▸ hrow) hcompleted

@[simp]
theorem afterSave_chunks (save : Documents.Save) (document : Documents.Document) :
    (store.afterSave save document).chunks = store.chunks := by
  unfold Documents.DocumentStore.afterSave
  split <;> rfl

/-- The chunks of the other documents stay. -/
theorem chunksOf_replaced {document : Documents.Document}
    {chunks : List (Documents.DocumentChunk F)}
    (hchunks : ∀ chunk ∈ chunks, chunk.document_id = document.id) {id : Uuid}
    (hother : id ≠ document.id) :
    Documents.chunksOf (store.replaceChunks document chunks) id =
      Documents.chunksOf store id := by
  unfold Documents.chunksOf Documents.DocumentStore.replaceChunks
  rw [filter_append_of_not (fun chunk hchunk => decide_eq_false ?_)]
  · refine filter_filter_of_agree rfl (fun chunk _ hof => ?_)
    rw [Bool.not_eq_true']
    refine Bool.eq_false_iff.mpr (fun hown => hother ?_)
    exact (of_decide_eq_true hof).symm.trans (Documents.isChunkOf_id hown)
  · rw [hchunks chunk hchunk]
    exact hother.symm

theorem chunksOf_afterSave (save : Documents.Save) (document : Documents.Document) (id : Uuid) :
    Documents.chunksOf (store.afterSave save document) id = Documents.chunksOf store id := by
  unfold Documents.chunksOf
  rw [afterSave_chunks]

/-- A document that is completed after a processing was completed before, with the same chunks. -/
theorem process_completed {row : Documents.Document}
    (hrow : row ∈ (call (Documents.processDocument outcomes user knowledgeBaseId documentId)
      store).2.documents) (hcompleted : row.status = "completed") :
    row ∈ store.documents ∧
      Documents.chunksOf (call (Documents.processDocument outcomes user knowledgeBaseId documentId)
        store).2 row.id = Documents.chunksOf store row.id := by
  have hcases := Documents.process_cases outcomes user knowledgeBaseId documentId store
  generalize call (Documents.processDocument outcomes user knowledgeBaseId documentId) store =
    ended at hcases hrow
  cases hcases with
  | refused e hnot => exact ⟨hrow, rfl⟩
  | notStarted document hnot hdocument =>
    have hmem := (Documents.getDocumentById_spec hdocument).1
    exact ⟨(completed_of_started hmem hrow hcompleted).1, rfl⟩
  | failed base document message hbegun hfails =>
    have hmem := (Documents.getDocumentById_spec hbegun.document).1
    obtain ⟨hrow, -⟩ :=
      completed_of_saved hmem hrow rfl rfl (failedDocument_status _ message) hcompleted
    exact ⟨hrow, chunksOf_afterSave _ _ _⟩
  | stored base document extracted hbegun hextracted hrefused =>
    have hmem := (Documents.getDocumentById_spec hbegun.document).1
    obtain ⟨hrow, hne⟩ :=
      completed_of_saved hmem hrow rfl rfl (finishedDocument_status document extracted) hcompleted
    have hchunks : ∀ chunk ∈ extracted.2,
        chunk.document_id = (Documents.startedDocument document).id := by
      intro chunk hchunk
      exact Documents.isChunkOf_id (Documents.isChunkOf_of_extracted hbegun hextracted hchunk)
    exact ⟨hrow, (chunksOf_afterSave _ _ _).trans (chunksOf_replaced hchunks hne)⟩

theorem mem_update_of_ne {row d : Documents.Document} (hrow : row ∈ store.documents)
    (hne : row.id ≠ d.id) : row ∈ (store.update d).documents :=
  List.mem_map.mpr ⟨row, hrow, if_neg hne⟩

theorem mem_afterSave_of_ne {row d : Documents.Document} {save : Documents.Save}
    (hrow : row ∈ store.documents) (hne : row.id ≠ d.id) :
    row ∈ (store.afterSave save d).documents := by
  unfold Documents.DocumentStore.afterSave
  split
  · exact hrow
  · exact mem_update_of_ne hrow hne

theorem process_powerless (hadmin : ¬ user.is_tenant_admin = true) :
    (call (Documents.processDocument outcomes user knowledgeBaseId documentId) store).2 =
      store := by
  unfold call Documents.processDocument
  rw [exec_bind, Documents.exec_requireAdministrator]
  simp only [if_neg hadmin]

/-- The documents stay, except for one that an administrator of its tenant has processed. -/
theorem process_keeps {row : Documents.Document} (hrow : row ∈ store.documents)
    (hchanged : row ∉ (call (Documents.processDocument outcomes user knowledgeBaseId documentId)
      store).2.documents) :
    user.is_tenant_admin = true ∧ row.tenant_id = user.tenant_id ∧ row.id = documentId := by
  have hadmin : user.is_tenant_admin = true := by
    by_contra hnot
    rw [process_powerless hnot] at hchanged
    exact hchanged hrow
  have hown : ∀ document, Documents.getDocumentById store user.tenant_id knowledgeBaseId
      documentId = some document → row.id = document.id →
        row.tenant_id = user.tenant_id ∧ row.id = documentId := by
    intro document hdocument hid
    obtain ⟨hmem, hdocumentId, htenant, -⟩ := Documents.getDocumentById_spec hdocument
    rw [store.document_ids.eq_of_key hrow hmem hid]
    exact ⟨htenant, hdocumentId⟩
  refine ⟨hadmin, ?_⟩
  have hcases := Documents.process_cases outcomes user knowledgeBaseId documentId store
  generalize call (Documents.processDocument outcomes user knowledgeBaseId documentId) store =
    ended at hcases hchanged
  cases hcases with
  | refused e hnot => exact absurd hrow hchanged
  | notStarted document hnot hdocument =>
    refine hown document hdocument (by_contra (fun hne => hchanged ?_))
    exact mem_update_of_ne hrow hne
  | failed base document message hbegun hfails =>
    refine hown document hbegun.document (by_contra (fun hne => hchanged ?_))
    exact mem_afterSave_of_ne (mem_update_of_ne hrow hne) hne
  | stored base document extracted hbegun hextracted hrefused =>
    refine hown document hbegun.document (by_contra (fun hne => hchanged ?_))
    exact mem_afterSave_of_ne (mem_update_of_ne hrow hne) hne

end Process

/-- A document of which the columns are the same is the same. -/
theorem State.Saved.unchanged {after : Documents.DocumentStore F}
    {documents : Documents.DocumentTable} (h : state.Saved after documents)
    {row : Documents.DocumentRow} (hrow : row ∈ documents.rows)
    (hsame : row.toDocument ∈ state.platform.documentStore.documents) :
    row ∈ state.documents.rows := by
  obtain ⟨before, hbefore, hid, heq⟩ := h.columns row hrow
  obtain ⟨other, hother, hdocument⟩ := List.mem_map.mp hsame
  have hsameId : other.id = before.id := (congrArg Documents.Document.id hdocument).trans hid.symm
  obtain rfl := state.documents.ids.eq_of_key hother hbefore hsameId
  rw [heq, ← hdocument]
  exact hother

theorem State.Saved.kept {after : Documents.DocumentStore F}
    {documents : Documents.DocumentTable} (h : state.Saved after documents)
    {row : Documents.DocumentRow} (hrow : row ∈ state.documents.rows)
    (hsame : row.toDocument ∈ after.documents) : row ∈ documents.rows := by
  rw [← h.written] at hsame
  obtain ⟨row', hrow', hdocument⟩ := List.mem_map.mp hsame
  obtain ⟨before, hbefore, hid, heq⟩ := h.columns row' hrow'
  have hsameId : before.id = row.id := hid.trans (congrArg Documents.Document.id hdocument)
  obtain rfl := state.documents.ids.eq_of_key hbefore hrow hsameId
  rw [hdocument] at heq
  rw [← show row' = before from heq]
  exact hrow'

/-! ## Runs -/

/-- The texts of a document and all else that is stored of its chunks. -/
def State.chunksOf (state : State F) (documentId : Uuid) : List (Documents.DocumentChunk F) :=
  Documents.chunksOf state.platform.documentStore documentId

/-- Completed documents have been there from the start, with the same chunks. -/
structure KeepsCompleted (start state : State F) : Prop where
  uploads : Pending state.uploads
  documents : ∀ row ∈ state.documents.rows, row.status = "completed" → row ∈ start.documents.rows
  chunks : ∀ row ∈ state.documents.rows, row.status = "completed" →
    state.chunksOf row.id = start.chunksOf row.id

theorem keepsCompleted_refl (h : state.uploads = []) : KeepsCompleted state state where
  uploads := by
    intro document seen hphase
    rw [h] at hphase
    cases hphase
  documents := fun row hrow _ => hrow
  chunks := fun row _ _ => rfl

/-- Documents may be inserted as long as they are not completed. -/
theorem KeepsCompleted.of_documents {start : State F} (h : KeepsCompleted start state)
    (huploads : Pending state'.uploads) (hchunks : state'.chunks = state.chunks)
    (hdocuments : ∀ row ∈ state'.documents.rows, row.status = "completed" →
      row ∈ state.documents.rows) : KeepsCompleted start state' where
  uploads := huploads
  documents := fun row hrow hcompleted =>
    h.documents row (hdocuments row hrow hcompleted) hcompleted
  chunks := by
    intro row hrow hcompleted
    have hsame : state'.chunksOf row.id = state.chunksOf row.id := by
      unfold State.chunksOf Documents.chunksOf
      show List.filter _ (state'.chunks.map _) = List.filter _ (state.chunks.map _)
      rw [hchunks]
    exact hsame.trans (h.chunks row (hdocuments row hrow hcompleted) hcompleted)

/-- A call that saves documents and writes chunks. -/
theorem KeepsCompleted.of_saved {start : State F} (h : KeepsCompleted start state)
    {after : Documents.DocumentStore F} {documents : Documents.DocumentTable}
    {chunks : List (Documents.ChunkRow F)} (hsaved : state.Saved after documents)
    (hwritten : chunks.map (fun row => row.toDocumentChunk) = after.chunks)
    (hafter : ∀ row ∈ after.documents, row.status = "completed" →
      row ∈ state.platform.documentStore.documents ∧
        Documents.chunksOf after row.id = state.chunksOf row.id) :
    KeepsCompleted start { state with documents := documents, chunks := chunks } := by
  have hdocuments : ∀ row ∈ documents.rows, row.status = "completed" →
      row ∈ state.documents.rows ∧ Documents.chunksOf after row.id = state.chunksOf row.id := by
    intro row hrow hcompleted
    have hmem : row.toDocument ∈ after.documents := by
      rw [← hsaved.written]
      exact List.mem_map_of_mem hrow
    obtain ⟨hbefore, hchunks⟩ := hafter row.toDocument hmem hcompleted
    exact ⟨hsaved.unchanged hrow hbefore, hchunks⟩
  constructor
  · exact h.uploads
  · intro row hrow hcompleted
    exact h.documents row (hdocuments row hrow hcompleted).1 hcompleted
  · intro row hrow hcompleted
    obtain ⟨hbefore, hchunks⟩ := hdocuments row hrow hcompleted
    rw [← h.chunks row hbefore hcompleted, ← hchunks]
    show List.filter _ (chunks.map _) = List.filter _ after.chunks
    rw [hwritten]

/-- No request completes a document or changes the chunks of one that stays completed. -/
theorem step_keepsCompleted {start : State F} (h : KeepsCompleted start state)
    (hstep : Step newUuid user state state') : KeepsCompleted start state' := by
  cases hstep with
  | access request => exact h.of_documents h.uploads rfl (fun row hrow _ => hrow)
  | createKnowledgeBase settings id request hcreated =>
    exact h.of_documents h.uploads rfl (fun row hrow _ => hrow)
  | createConversation id request hcreated =>
    exact h.of_documents h.uploads rfl (fun row hrow _ => hrow)
  | upload services event huser =>
    obtain ⟨hpending, added, hrows, hadded⟩ :=
      @upload_pending services state.uploadState h.uploads event
    refine h.of_documents hpending rfl (fun row hrow hcompleted => ?_)
    rw [show State.documents _ = _ from rfl, hrows] at hrow
    rcases List.mem_append.mp hrow with hrow | hrow
    · exact hrow
    · rw [hadded row hrow] at hcompleted
      exact absurd hcompleted (by decide)
  | process outcomes knowledgeBaseId documentId hsaved hreplaced =>
    obtain ⟨huploads, hdocuments, hchunks⟩ :=
      h.of_saved hsaved hreplaced.written (fun row hrow => process_completed hrow)
    exact ⟨huploads, hdocuments, hchunks⟩
  | embed outcomes knowledgeBaseId documentId hsaved hupdated =>
    rw [Documents.call_embedDocumentChunks] at hsaved hupdated
    exact h.of_saved hsaved hupdated.written (fun row hrow _ => ⟨hrow, rfl⟩)
  | chat around conversationId c hmay =>
    exact h.of_documents h.uploads rfl (fun row hrow _ => hrow)

theorem reaches_keepsCompleted {start : State F} (hstart : start.uploads = [])
    (h : Reaches newUuid users start state) : KeepsCompleted start state :=
  h.invariant (keepsCompleted_refl hstart)
    (fun _ _ _ _ hkept hstep => step_keepsCompleted hkept hstep)

/-- The state after a call of `process_document`. -/
def State.Processed (state : State F) (outcomes : Documents.ProcessOutcomes) (user : User)
    (knowledgeBaseId documentId : Uuid) (state' : State F) : Prop :=
  ∃ documents chunks,
    state.Saved (call (Documents.processDocument outcomes user knowledgeBaseId documentId)
      state.platform.documentStore).2 documents ∧
    state.Replaced (call (Documents.processDocument outcomes user knowledgeBaseId documentId)
      state.platform.documentStore).2 user documentId chunks ∧
    state' = { state.withChunks chunks with documents := documents }

/-- On the way, an administrator of its tenant has had the document processed. -/
def ProcessedBetween (newUuid : Nat → Uuid) (users : User → Prop) (start state : State F)
    (document : Documents.DocumentRow) : Prop :=
  ∃ before after user outcomes knowledgeBaseId,
    Reaches newUuid users start before ∧
    users user ∧ user.is_tenant_admin = true ∧ document.tenant_id = user.tenant_id ∧
    before.Processed outcomes user knowledgeBaseId document.id after ∧
    Reaches newUuid users after state

/-- All other requests leave the documents as they are. -/
theorem step_keepsDocument (huploads : Pending state.uploads)
    (hstep : Step newUuid user state state') {row : Documents.DocumentRow}
    (hrow : row ∈ state.documents.rows) :
    row ∈ state'.documents.rows ∨
      user.is_tenant_admin = true ∧ row.tenant_id = user.tenant_id ∧
        ∃ outcomes knowledgeBaseId, state.Processed outcomes user knowledgeBaseId row.id state' := by
  have hmem : row.toDocument ∈ state.platform.documentStore.documents := List.mem_map_of_mem hrow
  cases hstep with
  | access request => exact .inl hrow
  | createKnowledgeBase settings id request hcreated => exact .inl hrow
  | createConversation id request hcreated => exact .inl hrow
  | upload services event huser =>
    obtain ⟨-, added, hrows, -⟩ := @upload_pending services state.uploadState huploads event
    left
    rw [show State.documents _ = _ from rfl, hrows]
    exact List.mem_append_left _ hrow
  | process outcomes knowledgeBaseId documentId hsaved hreplaced =>
    by_cases hkept : row.toDocument ∈ (call (Documents.processDocument outcomes user
        knowledgeBaseId documentId) state.platform.documentStore).2.documents
    · exact .inl (hsaved.kept hrow hkept)
    · obtain ⟨hadmin, htenant, rfl⟩ := process_keeps hmem hkept
      exact .inr ⟨hadmin, htenant, outcomes, knowledgeBaseId, _, _, hsaved, hreplaced, rfl⟩
  | embed outcomes knowledgeBaseId documentId hsaved hupdated =>
    rw [Documents.call_embedDocumentChunks] at hsaved
    exact .inl (hsaved.kept hrow hmem)
  | chat around conversationId c hmay => exact .inl hrow

theorem reaches_keepsDocument {start : State F} (hstart : start.uploads = [])
    (h : Reaches newUuid users start state) {row : Documents.DocumentRow}
    (hrow : row ∈ start.documents.rows) :
    row ∈ state.documents.rows ∨ ProcessedBetween newUuid users start state row := by
  induction h with
  | refl => exact .inl hrow
  | tail hbefore hstep ih =>
    have hlast := hstep
    obtain ⟨user, huser, hstep⟩ := hstep
    rcases ih with hkept | ⟨before, after, admin, outcomes, base, hreached, hadmin, hrest⟩
    · have huploads := (reaches_keepsCompleted hstart hbefore).uploads
      rcases step_keepsDocument huploads hstep hkept with hkept |
        ⟨hadmin, htenant, outcomes, base, hprocessed⟩
      · exact .inl hkept
      · exact .inr ⟨_, _, user, outcomes, base, hbefore, huser, hadmin, htenant, hprocessed, .refl⟩
    · obtain ⟨hisAdmin, htenant, hprocessed, hreached'⟩ := hrest
      exact .inr ⟨before, after, admin, outcomes, base, hreached, hadmin, hisAdmin, htenant,
        hprocessed, hreached'.tail hlast⟩

/-- No request completes a document, and the completed ones stay as they are, with their chunks,
until they are processed again. So what an answer cites of a document is a text that this document
held when it was completed already, before the first request. Without completed documents, no
question about documents is answered. -/
theorem cited_completed (newUuid : Nat → Uuid) (users : User → Prop) (start state : State F)
    (hstart : start.uploads = []) (hreaches : Reaches newUuid users start state) :
    (∀ document ∈ state.documents.rows, document.status = "completed" →
      document ∈ start.documents.rows ∧
        state.chunksOf document.id = start.chunksOf document.id) ∧
    (∀ document ∈ start.documents.rows,
      document ∈ state.documents.rows ∨
        ProcessedBetween newUuid users start state document) ∧
    ∀ (user : User) (conversationId : Uuid) (around : Chat.Surroundings) (c : Chat.ChatCall),
      state.MayCall user conversationId c → ∀ exchange after,
      c.result around user conversationId state.platform.chatStore = (.ok exchange, after) →
        (∀ row ∈ exchange.assistant_message.citations, ∀ documentId ∈ row.fields.document_id,
          ∃ document ∈ start.documents.rows, document.id = documentId ∧
            document.tenant_id = user.tenant_id ∧ document.status = "completed" ∧
            ∃ chunk ∈ start.chunks, chunk.document_id = documentId ∧
              row.fields.excerpt = some chunk.content) ∧
        ((∀ document ∈ start.documents.rows, document.tenant_id = user.tenant_id →
            document.status ≠ "completed") →
          ∀ retrieval request, c = .document retrieval request →
            exchange.assistant_message.citations = [] ∧
            exchange.assistant_message.message.fields.content =
              "I could not find relevant information in the selected knowledge base.") := by
  have hkept := reaches_keepsCompleted hstart hreaches
  refine ⟨fun document hdocument hcompleted => ⟨hkept.documents document hdocument hcompleted,
    hkept.chunks document hdocument hcompleted⟩,
    fun document hdocument => reaches_keepsDocument hstart hreaches hdocument, ?_⟩
  intro user conversationId around c hmay exchange after hreturned
  constructor
  · intro row hrow documentId hdocumentId
    have hcites : row.fields.document_id ≠ none := by
      rw [hdocumentId]
      simp
    obtain ⟨services, knowledgeBaseId, query, topK, minimumSimilarity, matched, hretrieved, found,
      hfound, hquoted, -, hexcerpt⟩ := cites_retrieved hmay hreturned hrow hcites
    obtain ⟨document, hdocument, chunk, hchunk, htenant, hcompleted, hof, hid, -, hcontent⟩ :=
      mem_retrieved hretrieved hfound
    have hsame : document.id = documentId := by
      rw [← hid]
      exact Option.some.inj (hquoted.symm.trans hdocumentId)
    have hchunkOf : chunk.toDocumentChunk ∈ state.chunksOf document.id :=
      List.mem_filter.mpr ⟨List.mem_map_of_mem hchunk, decide_eq_true hof⟩
    rw [hkept.chunks document hdocument hcompleted] at hchunkOf
    obtain ⟨old, hold, hchunkSame⟩ := List.mem_map.mp (List.mem_filter.mp hchunkOf).1
    refine ⟨document, hkept.documents document hdocument hcompleted, hsame, htenant, hcompleted,
      old, hold, ?_, ?_⟩
    · exact (congrArg Documents.DocumentChunk.document_id hchunkSame).trans (hof.trans hsame)
    · rw [hexcerpt, hcontent]
      exact congrArg some (congrArg Documents.DocumentChunk.content hchunkSame).symm
  · rintro hnone retrieval request rfl
    obtain ⟨conversation, knowledgeBaseId, matched, hconversation, hbase, rfl, hcontent, hcited⟩ :=
      document_returned hreturned
    obtain ⟨services, topK, minimumSimilarity, hretrieved⟩ :=
      hmay conversation knowledgeBaseId hconversation hbase
    have hempty : matched = [] := by
      refine List.eq_nil_iff_forall_not_mem.mpr (fun found hfound => ?_)
      obtain ⟨document, hdocument, chunk, -, htenant, hcompleted, -⟩ :=
        mem_retrieved hretrieved hfound
      exact hnone document (hkept.documents document hdocument hcompleted) htenant hcompleted
    subst hempty
    refine ⟨List.eq_nil_iff_forall_not_mem.mpr (fun row hrow => ?_), hcontent⟩
    obtain ⟨found, hfound, -⟩ := hcited row hrow
    cases hfound

/-! ## A report that is processed -/

def manualsBase : KnowledgeBaseRow where
  toKnowledgeBaseRow := ⟨Documents.reportBase, true⟩
  created_by := some "ada"
  name := "Manuals"
  description := none
  settings_data := []

def reportRow (document : Documents.Document) : Documents.DocumentRow where
  toDocument := document
  uploaded_by := some "ada"
  original_filename := "report.txt"
  content_type := some "text/plain"
  file_size_bytes := 11
  checksum_sha256 := "9d2fd3b5"
  document_metadata := []

def manualsConversation : ConversationRow where
  toConversation := ⟨"chat", "acme", "ada", none, some "manuals", "document"⟩
  title := "Sales"
  status := "active"
  conversation_metadata := []
  is_archived := false

def reportDocuments (document : Documents.Document) : Documents.DocumentTable where
  rows := [reportRow document]
  ids := List.nodup_singleton _
  uq_documents_knowledge_base_storage_key := List.pairwise_singleton _ _

/-- The report has been uploaded. -/
def manualsState : State Nat where
  store := Store.empty
  bases := ⟨[manualsBase], List.nodup_singleton _, List.pairwise_singleton _ _⟩
  documents := reportDocuments Documents.pendingReport
  chunks := []
  uploads := []
  conversations := ⟨[manualsConversation], List.nodup_singleton _⟩
  messages := []
  citations := []
  query_executions := []
  audit_logs := []
  generated := 0

def salesChunk : Documents.DocumentChunk Nat :=
  { Documents.reportChunk with
    chunk_metadata := [("section_chunk_index", .number false "0")] }

/-- And processed. -/
def processedState : State Nat :=
  { manualsState.withChunks [⟨salesChunk, "chunk"⟩] with
    documents := reportDocuments Documents.reportDocument }

theorem processed_reached (newUuid : Nat → Uuid) :
    Reaches newUuid (fun user => user = Documents.reportAdmin) manualsState processedState := by
  refine .single ⟨Documents.reportAdmin, rfl, .process Documents.readableReport "manuals" "report"
    ?_ ?_⟩
  · refine ⟨rfl, fun row hrow => ?_⟩
    rw [List.mem_singleton.mp hrow]
    exact ⟨_, List.mem_singleton_self _, rfl, rfl⟩
  · refine ⟨rfl, .inr ⟨_, List.mem_singleton_self _, rfl, rfl, [⟨salesChunk, "chunk"⟩],
      fun chunk hchunk => ?_, rfl⟩⟩
    rw [List.mem_singleton.mp hchunk]
    exact ⟨by decide, List.not_mem_nil⟩

/-- Vectors of one dimension. -/
def letterServices : Documents.RetrievalServices Nat where
  settings := ⟨"letters", 2⟩
  encoder _ := some Documents.lengthVectors
  vectors := ⟨Nat, inferInstance, fun _ _ => none, fun _ => 0⟩
  floats := ⟨.finite "0.0", .finite "1.0", fun a _ => a, fun _ _ => false, fun a _ => a⟩

theorem manuals_mayCall : processedState.MayCall Documents.reportAdmin "chat" Chat.manualsCall := by
  intro conversation knowledgeBaseId hconversation hbase
  cases hconversation
  cases hbase
  refine ⟨letterServices, 5, .finite "0.5", [], fun queryEmbedding _ => ?_, rfl⟩
  exact ⟨List.Perm.refl _, List.Pairwise.nil⟩

/-- The report is processed, and nothing is found in it. -/
theorem report_not_cited : ∃ exchange after,
    Chat.manualsCall.result Chat.manualsSurroundings Documents.reportAdmin "chat"
      processedState.platform.chatStore = (.ok exchange, after) ∧
    exchange.assistant_message.message.fields.content =
      "I could not find relevant information in the selected knowledge base." := by
  have hreturned : ∃ exchange after,
      Chat.manualsCall.result Chat.manualsSurroundings Documents.reportAdmin "chat"
        processedState.platform.chatStore = (.ok exchange, after) := ⟨_, _, rfl⟩
  obtain ⟨exchange, after, hresult⟩ := hreturned
  refine ⟨exchange, after, hresult, ?_⟩
  have hnone : ∀ document ∈ manualsState.documents.rows,
      document.tenant_id = Documents.reportAdmin.tenant_id → document.status ≠ "completed" := by
    intro document hdocument _
    rw [List.mem_singleton.mp hdocument]
    decide
  obtain ⟨-, -, hanswers⟩ := cited_completed Chat.letterUuid
    (fun user => user = Documents.reportAdmin) manualsState processedState rfl (processed_reached _)
  exact ((hanswers Documents.reportAdmin "chat" Chat.manualsSurroundings Chat.manualsCall
    manuals_mayCall exchange after hresult).2 hnone _ _ rfl).2

end DataChat.Workspace
