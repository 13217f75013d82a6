import DataChat.Documents.Processing
import Mathlib.Data.List.Induction

/-!
# The chunk count

`chunk_count` should be the number of the stored chunks of a document, and these the chunks of its
last successful processing. The failure path sets the count to zero and leaves the chunks of an
earlier processing where they are, and the count of a successful processing is committed after
its chunks.

* `tellsTruth_next_iff`: what one call must not do.
* `chunkCount_truthful`: what follows for whole runs.
* `report_count_wrong`: a document that is processed a second time, when it can not be downloaded.
-/

namespace DataChat.Documents

open Relational Platform Transactions Outcome

variable {F : Type}

/-! ## Runs -/

inductive Call (F : Type)
  | process (outcomes : ProcessOutcomes) (currentUser : User) (knowledgeBaseId documentId : Uuid)
  | embed (outcomes : EmbedOutcomes F) (currentUser : User) (knowledgeBaseId documentId : Uuid)

/-- What is stored, and the chunks of the last successful processing of each document. -/
structure Moment (F : Type) where
  store : DocumentStore F
  latest : Uuid → List (DocumentChunk F)

def Call.result (store : DocumentStore F) : Call F → Except Raised Document × DocumentStore F
  | process outcomes currentUser knowledgeBaseId documentId =>
    call (processDocument outcomes currentUser knowledgeBaseId documentId) store
  | embed outcomes currentUser knowledgeBaseId documentId =>
    call (embedDocumentChunks outcomes currentUser knowledgeBaseId documentId) store

/-- The chunks that a processing extracts from its document. -/
def extractedChunks (outcomes : ProcessOutcomes) (currentUser : User)
    (knowledgeBaseId documentId : Uuid) (store : DocumentStore F) : List (DocumentChunk F) :=
  match getKnowledgeBaseById store currentUser.tenant_id knowledgeBaseId,
      getDocumentById store currentUser.tenant_id knowledgeBaseId documentId with
  | some base, some document =>
    match extractAndChunk outcomes currentUser base (startedDocument document) with
    | .ok extracted => extracted.2
    | .error _ => []
  | _, _ => []

/-- A processing that returns is successful. -/
def Call.record (moment : Moment F) : Call F → Except Raised Document →
    Uuid → List (DocumentChunk F)
  | process outcomes currentUser knowledgeBaseId documentId, .ok _ =>
    Function.update moment.latest documentId
      (extractedChunks outcomes currentUser knowledgeBaseId documentId moment.store)
  | _, _ => moment.latest

def Moment.next (moment : Moment F) (c : Call F) : Moment F :=
  let ended := c.result moment.store
  ⟨ended.2, c.record moment ended.1⟩

def Moment.run (moment : Moment F) (calls : List (Call F)) : Moment F :=
  calls.foldl Moment.next moment

/-! ## What should hold -/

/-- A chunk, less its vector. -/
def bare (chunk : DocumentChunk F) : DocumentChunk F := { chunk with embedding := none }

/-- The count of the document is right, and its chunks are the latest. -/
structure Truthful (moment : Moment F) (document : Document) : Prop where
  counted : document.chunk_count = (chunksOf moment.store document.id).length
  latest : (chunksOf moment.store document.id).map bare = moment.latest document.id

def TellsTruth (moment : Moment F) : Prop :=
  ∀ document ∈ moment.store.documents, Truthful moment document

/-- The call has returned, or has raised an error of its own. -/
def Answers : Except Raised Document → Prop
  | .ok _ => True
  | .error (.documentProcessingError _) => True
  | .error (.documentEmbeddingError _) => True
  | .error _ => False

/-- Documents that nothing has processed yet. -/
structure Moment.Fresh (moment : Moment F) : Prop where
  chunks : moment.store.chunks = []
  counts : ∀ document ∈ moment.store.documents, document.chunk_count = 0
  latest : ∀ documentId, moment.latest documentId = []

/-- A chunk belongs to the tenant and to the knowledge base of its document. -/
def Owned (store : DocumentStore F) : Prop :=
  ∀ chunk ∈ store.chunks, ∀ document ∈ store.documents, chunk.document_id = document.id →
    isChunkOf document chunk = true

/-- What the call must not do: record a failure while chunks are stored, or fail after it has stored
other chunks. -/
def Undisturbed (store : DocumentStore F) : Call F → Prop
  | .process outcomes currentUser knowledgeBaseId documentId => ∀ base document,
    Begun outcomes currentUser knowledgeBaseId documentId store base document →
      (Fails F outcomes currentUser base document →
        outcomes.failure = .commitRefused ∨ chunksOf store documentId = []) ∧
      (∀ extracted, outcomes.chunksRefused = false →
        extractAndChunk outcomes currentUser base (startedDocument document) = .ok extracted →
        outcomes.finished = .saved ∨
          (chunksOf store documentId).map bare = extracted.2)
  | .embed _ _ _ _ => True

/-! ## Updates of one document -/

theorem mem_update {store : DocumentStore F} {document d : Document}
    (hdocument : document ∈ store.documents) (hid : d.id = document.id) (row : Document) :
    row ∈ (store.update d).documents ↔ row = d ∨ (row ∈ store.documents ∧ row.id ≠ d.id) := by
  show row ∈ store.documents.map _ ↔ _
  rw [List.mem_map]
  constructor
  · rintro ⟨old, hold, rfl⟩
    by_cases heq : old.id = d.id
    · exact .inl (if_pos heq)
    · rw [if_neg heq]
      exact .inr ⟨hold, heq⟩
  · rintro (rfl | ⟨hrow, hne⟩)
    · exact ⟨document, hdocument, if_pos hid.symm⟩
    · exact ⟨row, hrow, if_neg hne⟩

@[simp]
theorem chunksOf_update (store : DocumentStore F) (d : Document) (documentId : Uuid) :
    chunksOf (store.update d) documentId = chunksOf store documentId := rfl

/-- An update of one document keeps the truth exactly when the new count is right. -/
theorem tellsTruth_update_iff {store : DocumentStore F} {latest : Uuid → List (DocumentChunk F)}
    (h : TellsTruth ⟨store, latest⟩) {document d : Document}
    (hdocument : document ∈ store.documents) (hid : d.id = document.id) :
    TellsTruth ⟨store.update d, latest⟩ ↔ d.chunk_count = (chunksOf store d.id).length := by
  constructor
  · intro hafter
    exact (hafter d ((mem_update hdocument hid d).mpr (.inl rfl))).counted
  · intro hcount row hrow
    rcases (mem_update hdocument hid row).mp hrow with rfl | ⟨hrow, -⟩
    · refine ⟨hcount, ?_⟩
      show (chunksOf store row.id).map bare = latest row.id
      rw [hid]
      exact (h document hdocument).latest
    · exact ⟨(h row hrow).counted, (h row hrow).latest⟩

theorem owned_update {store : DocumentStore F} (h : Owned store) {document d : Document}
    (hdocument : document ∈ store.documents) (hid : d.id = document.id)
    (htenant : d.tenant_id = document.tenant_id)
    (hbase : d.knowledge_base_id = document.knowledge_base_id) : Owned (store.update d) := by
  intro chunk hchunk row hrow hof
  rcases (mem_update hdocument hid row).mp hrow with rfl | ⟨hrow, -⟩
  · have hold := h chunk hchunk document hdocument (hof.trans hid)
    unfold isChunkOf at hold ⊢
    rw [hid, htenant, hbase]
    exact hold
  · exact h chunk hchunk row hrow hof

/-! ## New chunks of one document -/

theorem isChunkOf_id {d : Document} {chunk : DocumentChunk F} (h : isChunkOf d chunk = true) :
    chunk.document_id = d.id :=
  (of_decide_eq_true h).2.2

theorem chunksOf_replaceChunks {store : DocumentStore F} (howned : Owned store) {d : Document}
    (hd : d ∈ store.documents) {chunks : List (DocumentChunk F)}
    (hchunks : ∀ chunk ∈ chunks, chunk.document_id = d.id) (documentId : Uuid) :
    chunksOf (store.replaceChunks d chunks) documentId =
      if documentId = d.id then chunks else chunksOf store documentId := by
  show (store.chunks.filter (fun chunk => !isChunkOf d chunk) ++ chunks).filter
    (fun chunk => chunk.document_id = documentId) = _
  rw [List.filter_append, List.filter_filter]
  by_cases hid : documentId = d.id
  · rw [if_pos hid, hid]
    have hold : store.chunks.filter (fun chunk =>
        decide (chunk.document_id = d.id) && !isChunkOf d chunk) = [] := by
      rw [List.filter_eq_nil_iff]
      intro chunk hchunk
      simp only [Bool.and_eq_true, decide_eq_true_eq, Bool.not_eq_true', not_and,
        Bool.not_eq_false]
      exact howned chunk hchunk d hd
    have hnew : chunks.filter (fun chunk => decide (chunk.document_id = d.id)) = chunks :=
      List.filter_eq_self.mpr (fun chunk hchunk => decide_eq_true (hchunks chunk hchunk))
    rw [hold, hnew, List.nil_append]
  · rw [if_neg hid]
    have hold : store.chunks.filter (fun chunk =>
        decide (chunk.document_id = documentId) && !isChunkOf d chunk) =
        chunksOf store documentId := by
      refine List.filter_congr (fun chunk _ => ?_)
      by_cases hof : chunk.document_id = documentId
      · have hother : isChunkOf d chunk = false :=
          Bool.eq_false_iff.mpr (fun h => hid (hof.symm.trans (isChunkOf_id h)))
        simp [hof, hother]
      · simp [hof]
    have hnew : chunks.filter (fun chunk => decide (chunk.document_id = documentId)) = [] := by
      rw [List.filter_eq_nil_iff]
      intro chunk hchunk hof
      exact hid ((of_decide_eq_true hof).symm.trans (hchunks chunk hchunk))
    rw [hold, hnew, List.append_nil]

theorem owned_replaceChunks {store : DocumentStore F} (h : Owned store) {d : Document}
    (hd : d ∈ store.documents) {chunks : List (DocumentChunk F)}
    (hchunks : ∀ chunk ∈ chunks, isChunkOf d chunk = true) :
    Owned (store.replaceChunks d chunks) := by
  intro chunk hchunk row hrow hof
  rcases List.mem_append.mp hchunk with hold | hnew
  · exact h chunk (List.mem_of_mem_filter hold) row hrow hof
  · have hid := isChunkOf_id (hchunks chunk hnew)
    have hrow : row = d := store.document_ids.eq_of_key hrow hd (hof.symm.trans hid)
    rw [hrow]
    exact hchunks chunk hnew

/-- When all else is as before, the truth is that the document counts its new chunks, and that
they are the latest. -/
theorem tellsTruth_replaceChunks_iff {store : DocumentStore F} (howned : Owned store)
    {d : Document} (hd : d ∈ store.documents) {chunks : List (DocumentChunk F)}
    (hchunks : ∀ chunk ∈ chunks, chunk.document_id = d.id)
    {latest latest' : Uuid → List (DocumentChunk F)}
    (hothers : ∀ row ∈ store.documents, row.id ≠ d.id →
      Truthful ⟨store, latest⟩ row ∧ latest' row.id = latest row.id) :
    TellsTruth ⟨store.replaceChunks d chunks, latest'⟩ ↔
      d.chunk_count = chunks.length ∧ chunks.map bare = latest' d.id := by
  have hself : chunksOf (store.replaceChunks d chunks) d.id = chunks := by
    rw [chunksOf_replaceChunks howned hd hchunks, if_pos rfl]
  have hiff : Truthful ⟨store.replaceChunks d chunks, latest'⟩ d ↔
      d.chunk_count = chunks.length ∧ chunks.map bare = latest' d.id := by
    constructor
    · rintro ⟨hcounted, hlatest⟩
      dsimp only at hcounted hlatest
      rw [hself] at hcounted hlatest
      exact ⟨hcounted, hlatest⟩
    · rintro ⟨hcounted, hlatest⟩
      constructor
      · dsimp only
        rw [hself, hcounted]
      · dsimp only
        rw [hself, hlatest]
  rw [← hiff]
  constructor
  · intro hafter
    exact hafter d hd
  · intro hdTrue row hrow
    by_cases hid : row.id = d.id
    · rw [store.document_ids.eq_of_key hrow hd hid]
      exact hdTrue
    · obtain ⟨hold, hsame⟩ := hothers row hrow hid
      have hother : chunksOf (store.replaceChunks d chunks) row.id = chunksOf store row.id := by
        rw [chunksOf_replaceChunks howned hd hchunks, if_neg hid]
      constructor
      · dsimp only
        rw [hother]
        exact hold.counted
      · dsimp only
        rw [hother, hsame]
        exact hold.latest

/-! ## One call -/

theorem getDocumentById_spec {store : DocumentStore F} {tenantId knowledgeBaseId documentId : Uuid}
    {document : Document}
    (h : getDocumentById store tenantId knowledgeBaseId documentId = some document) :
    document ∈ store.documents ∧ document.id = documentId ∧ document.tenant_id = tenantId ∧
      document.knowledge_base_id = knowledgeBaseId := by
  unfold getDocumentById at h
  have hfound := List.find?_some h
  exact ⟨List.mem_of_find?_eq_some h, of_decide_eq_true hfound⟩

theorem getKnowledgeBaseById_id {store : DocumentStore F} {tenantId knowledgeBaseId : Uuid}
    {base : KnowledgeBase}
    (h : getKnowledgeBaseById store tenantId knowledgeBaseId = some base) :
    base.id = knowledgeBaseId := by
  unfold getKnowledgeBaseById at h
  have hfound := List.find?_some h
  exact (of_decide_eq_true hfound).1

/-- The extracted chunks are rows of the document, and have no vectors yet. -/
theorem extractAndChunk_chunks {outcomes : ProcessOutcomes} {currentUser : User}
    {base : KnowledgeBase} {document : Document}
    {extracted : ExtractedDocument × List (DocumentChunk F)}
    (h : extractAndChunk outcomes currentUser base document = .ok extracted) :
    ∃ textChunks : List TextChunk,
      extracted.2 = textChunks.map (chunkRecord currentUser base document) := by
  obtain ⟨content, -, h⟩ := bind_ok_iff.mp h
  obtain ⟨extractedDocument, -, h⟩ := bind_ok_iff.mp h
  obtain ⟨textChunks, -, h⟩ := bind_ok_iff.mp h
  refine ⟨textChunks, ?_⟩
  rw [← pure_ok_iff.mp h]

theorem bare_of_extracted {outcomes : ProcessOutcomes} {currentUser : User}
    {base : KnowledgeBase} {document : Document}
    {extracted : ExtractedDocument × List (DocumentChunk F)}
    (h : extractAndChunk outcomes currentUser base document = .ok extracted) :
    extracted.2.map bare = extracted.2 := by
  obtain ⟨textChunks, hchunks⟩ := extractAndChunk_chunks h
  rw [hchunks, List.map_map]
  rfl

theorem isChunkOf_of_extracted {outcomes : ProcessOutcomes} {currentUser : User}
    {knowledgeBaseId documentId : Uuid} {store : DocumentStore F} {base : KnowledgeBase}
    {document : Document} {extracted : ExtractedDocument × List (DocumentChunk F)}
    (hbegun : Begun outcomes currentUser knowledgeBaseId documentId store base document)
    (h : extractAndChunk outcomes currentUser base (startedDocument document) = .ok extracted)
    {chunk : DocumentChunk F} (hchunk : chunk ∈ extracted.2) : isChunkOf document chunk = true := by
  obtain ⟨-, -, htenant, hbase⟩ := getDocumentById_spec hbegun.document
  obtain ⟨textChunks, hchunks⟩ := extractAndChunk_chunks h
  rw [hchunks] at hchunk
  obtain ⟨textChunk, -, rfl⟩ := List.mem_map.mp hchunk
  have hsame := getKnowledgeBaseById_id hbegun.base
  exact decide_eq_true ⟨htenant.symm, hsame.trans hbase.symm, rfl⟩

theorem extractedChunks_eq {outcomes : ProcessOutcomes} {currentUser : User}
    {knowledgeBaseId documentId : Uuid} {store : DocumentStore F} {base : KnowledgeBase}
    {document : Document} {extracted : ExtractedDocument × List (DocumentChunk F)}
    (hbegun : Begun outcomes currentUser knowledgeBaseId documentId store base document)
    (h : extractAndChunk outcomes currentUser base (startedDocument document) = .ok extracted) :
    extractedChunks outcomes currentUser knowledgeBaseId documentId store = extracted.2 := by
  unfold extractedChunks
  rw [hbegun.base, hbegun.document]
  dsimp only
  rw [h]

@[simp]
theorem startedDocument_id (document : Document) :
    (startedDocument document).id = document.id := rfl

theorem mem_update_started {store : DocumentStore F} {document : Document}
    (hdocument : document ∈ store.documents) :
    startedDocument document ∈ (store.update (startedDocument document)).documents :=
  (mem_update hdocument (startedDocument_id document) _).mpr (.inl rfl)

/-- What is stored after a processing that did not begin is as true as before. -/
theorem tellsTruth_started {store : DocumentStore F} {latest : Uuid → List (DocumentChunk F)}
    (h : TellsTruth ⟨store, latest⟩) {document : Document}
    (hdocument : document ∈ store.documents) :
    TellsTruth ⟨store.update (startedDocument document), latest⟩ :=
  (tellsTruth_update_iff h hdocument (startedDocument_id document)).mpr
    (h document hdocument).counted

/-- A failure that is recorded sets the count to zero. -/
theorem tellsTruth_failed_iff {store : DocumentStore F} {latest : Uuid → List (DocumentChunk F)}
    (h : TellsTruth ⟨store, latest⟩) {document : Document} (hdocument : document ∈ store.documents)
    (failure : Save) (message : String) :
    TellsTruth ⟨(store.update (startedDocument document)).afterSave failure
        (failedDocument (startedDocument document) message), latest⟩ ↔
      failure = .commitRefused ∨ chunksOf store document.id = [] := by
  have hstarted := tellsTruth_started h hdocument
  have hid : (failedDocument (startedDocument document) message).id =
      (startedDocument document).id := rfl
  unfold DocumentStore.afterSave
  split
  · rename_i hfailure
    exact ⟨fun _ => .inl hfailure, fun _ => hstarted⟩
  · rename_i hfailure
    rw [tellsTruth_update_iff hstarted (mem_update_started hdocument) hid]
    show 0 = (chunksOf store document.id).length ↔ _
    rw [eq_comm, List.length_eq_zero_iff]
    exact ⟨.inr, fun hor => hor.resolve_left hfailure⟩

/-- Chunks that are stored are counted when the call returns, and else only by accident. -/
theorem tellsTruth_stored_iff {store : DocumentStore F} {latest : Uuid → List (DocumentChunk F)}
    (h : TellsTruth ⟨store, latest⟩) (howned : Owned store) {document d : Document}
    (hdocument : document ∈ store.documents) {chunks : List (DocumentChunk F)}
    (hchunks : ∀ chunk ∈ chunks, chunk.document_id = document.id)
    (hbare : chunks.map bare = chunks) (hid : d.id = document.id)
    (htenant : d.tenant_id = document.tenant_id)
    (hbase : d.knowledge_base_id = document.knowledge_base_id)
    (hcount : d.chunk_count = chunks.length) (finished : Save) :
    TellsTruth ⟨(store.replaceChunks document chunks).afterSave finished d,
      if finished = .saved then Function.update latest document.id chunks else latest⟩ ↔
      finished = .saved ∨ (chunksOf store document.id).map bare = chunks := by
  have hdocumentTrue := h document hdocument
  unfold DocumentStore.afterSave
  split
  · rename_i hfinished
    have hnotSaved : finished ≠ .saved := by
      rw [hfinished]
      exact Save.noConfusion
    rw [if_neg hnotSaved, tellsTruth_replaceChunks_iff howned hdocument hchunks
      (fun row hrow _ => ⟨h row hrow, rfl⟩), hbare]
    constructor
    · rintro ⟨-, hsame⟩
      exact .inr (hdocumentTrue.latest.trans hsame.symm)
    · rintro (hsaved | hsame)
      · exact absurd hsaved hnotSaved
      · refine ⟨?_, hsame.symm.trans hdocumentTrue.latest⟩
        rw [hdocumentTrue.counted, ← hsame, List.length_map]
  · have hstore : (store.replaceChunks document chunks).update d =
        (store.update d).replaceChunks d chunks := by
      simp only [DocumentStore.update, DocumentStore.replaceChunks, isChunkOf, hid, htenant, hbase]
    have hothers : ∀ row ∈ (store.update d).documents, row.id ≠ d.id →
        Truthful ⟨store.update d, latest⟩ row ∧
          (if finished = .saved then Function.update latest document.id chunks else latest) row.id =
            latest row.id := by
      intro row hrow hne
      rcases (mem_update hdocument hid row).mp hrow with rfl | ⟨hrow, -⟩
      · exact absurd rfl hne
      · refine ⟨⟨(h row hrow).counted, (h row hrow).latest⟩, ?_⟩
        split
        · exact Function.update_of_ne (fun heq => hne (heq.trans hid.symm)) _ _
        · rfl
    have hd : d ∈ (store.update d).documents := (mem_update hdocument hid d).mpr (.inl rfl)
    rw [hstore, tellsTruth_replaceChunks_iff (owned_update howned hdocument hid htenant hbase) hd
      (fun chunk hchunk => (hchunks chunk hchunk).trans hid.symm) hothers, hbare]
    by_cases hsaved : finished = .saved
    · rw [if_pos hsaved, hid, Function.update_self]
      exact ⟨fun _ => .inl hsaved, fun _ => ⟨hcount, rfl⟩⟩
    · have hlatest : (chunksOf store document.id).map bare = latest document.id :=
        hdocumentTrue.latest
      rw [if_neg hsaved, hid, ← hlatest]
      constructor
      · rintro ⟨-, hsame⟩
        exact .inr hsame.symm
      · intro hor
        exact ⟨hcount, (hor.resolve_left hsaved).symm⟩

section

variable {store : DocumentStore F} {outcomes : ProcessOutcomes} {currentUser : User}
  {knowledgeBaseId documentId : Uuid} {base : KnowledgeBase} {document : Document}
  (hbegun : Begun outcomes currentUser knowledgeBaseId documentId store base document)

include hbegun

theorem Begun.unique {base' : KnowledgeBase} {document' : Document}
    (hbegun' : Begun outcomes currentUser knowledgeBaseId documentId store base' document') :
    base = base' ∧ document = document' :=
  ⟨Option.some.inj (hbegun.base.symm.trans hbegun'.base),
    Option.some.inj (hbegun.document.symm.trans hbegun'.document)⟩

/-- A call whose `try` block fails must not record it while chunks are stored. -/
theorem undisturbed_failed_iff (hfails : Fails F outcomes currentUser base document) :
    Undisturbed store (.process outcomes currentUser knowledgeBaseId documentId) ↔
      outcomes.failure = .commitRefused ∨ chunksOf store documentId = [] := by
  constructor
  · intro hundisturbed
    exact (hundisturbed base document hbegun).1 hfails
  · intro hsafe base' document' hbegun'
    obtain ⟨rfl, rfl⟩ := hbegun.unique hbegun'
    refine ⟨fun _ => hsafe, fun extracted hstored hextracted => ?_⟩
    rcases hfails with hrefused | ⟨e, he⟩
    · rw [hstored] at hrefused
      cases hrefused
    · rw [hextracted] at he
      cases he

/-- One that stores chunks must not fail unless they are the chunks that were there. -/
theorem undisturbed_stored_iff {extracted : ExtractedDocument × List (DocumentChunk F)}
    (hextracted : extractAndChunk outcomes currentUser base (startedDocument document) =
      .ok extracted) (hrefused : outcomes.chunksRefused = false) :
    Undisturbed store (.process outcomes currentUser knowledgeBaseId documentId) ↔
      outcomes.finished = .saved ∨ (chunksOf store documentId).map bare = extracted.2 := by
  constructor
  · intro hundisturbed
    exact (hundisturbed base document hbegun).2 extracted hrefused hextracted
  · intro hsafe base' document' hbegun'
    obtain ⟨rfl, rfl⟩ := hbegun.unique hbegun'
    refine ⟨fun hfails => ?_, fun extracted' _ hextracted' => ?_⟩
    · rcases hfails with hrefused' | ⟨e, he⟩
      · rw [hrefused] at hrefused'
        cases hrefused'
      · rw [hextracted] at he
        cases he
    · rw [← Except.ok.inj (hextracted.symm.trans hextracted')]
      exact hsafe

end

/-- A call keeps the truth exactly when it is undisturbed. -/
theorem tellsTruth_next_iff {moment : Moment F} (h : TellsTruth moment)
    (howned : Owned moment.store) (c : Call F) :
    TellsTruth (moment.next c) ↔ Undisturbed moment.store c := by
  cases c with
  | embed outcomes currentUser knowledgeBaseId documentId =>
    dsimp only [Moment.next, Call.result, Call.record]
    rw [call_embedDocumentChunks]
    exact ⟨fun _ => trivial, fun _ => h⟩
  | process outcomes currentUser knowledgeBaseId documentId =>
    obtain ⟨store, latest⟩ := moment
    dsimp only [Moment.next, Call.result]
    cases hended : call (processDocument outcomes currentUser knowledgeBaseId documentId) store with
    | mk result after =>
      have hcases := process_cases outcomes currentUser knowledgeBaseId documentId store
      rw [hended] at hcases
      cases hcases with
      | refused e hnot =>
        exact ⟨fun _ base document hbegun => absurd hbegun (hnot base document), fun _ => h⟩
      | notStarted document hnot hdocument =>
        refine ⟨fun _ base document hbegun => absurd hbegun (hnot base document), fun _ => ?_⟩
        exact tellsTruth_started h (getDocumentById_spec hdocument).1
      | failed base document message hbegun hfails =>
        obtain ⟨hmem, hid, -, -⟩ := getDocumentById_spec hbegun.document
        refine (tellsTruth_failed_iff h hmem outcomes.failure message).trans ?_
        rw [hid]
        exact (undisturbed_failed_iff hbegun hfails).symm
      | stored base document extracted hbegun hextracted hrefused =>
        obtain ⟨hmem, hid, -, -⟩ := getDocumentById_spec hbegun.document
        have hrecord : Call.record ⟨store, latest⟩
            (.process outcomes currentUser knowledgeBaseId documentId)
            (if outcomes.finished = .saved then .ok (finishedDocument document extracted)
              else .error .sqlAlchemyError) =
            if outcomes.finished = .saved then Function.update latest document.id extracted.2
              else latest := by
          rw [hid, ← extractedChunks_eq hbegun hextracted]
          split <;> rfl
        have hchunks : ∀ chunk ∈ extracted.2, chunk.document_id = (startedDocument document).id :=
          fun chunk hchunk => isChunkOf_id (isChunkOf_of_extracted hbegun hextracted hchunk)
        have hstored := tellsTruth_stored_iff (tellsTruth_started h hmem)
          (owned_update howned hmem (startedDocument_id document) rfl rfl)
          (mem_update_started hmem) hchunks (bare_of_extracted hextracted)
          (show (finishedDocument document extracted).id = (startedDocument document).id from rfl)
          rfl rfl rfl outcomes.finished
        rw [hrecord]
        refine hstored.trans ?_
        rw [chunksOf_update, startedDocument_id, hid]
        exact (undisturbed_stored_iff hbegun hextracted hrefused).symm

/-- The chunks keep their owners. -/
theorem owned_next {moment : Moment F} (howned : Owned moment.store) (c : Call F) :
    Owned (moment.next c).store := by
  cases c with
  | embed outcomes currentUser knowledgeBaseId documentId =>
    dsimp only [Moment.next, Call.result]
    rw [call_embedDocumentChunks]
    exact howned
  | process outcomes currentUser knowledgeBaseId documentId =>
    dsimp only [Moment.next, Call.result]
    have hcases := process_cases outcomes currentUser knowledgeBaseId documentId moment.store
    cases hended : call (processDocument outcomes currentUser knowledgeBaseId documentId)
        moment.store with
    | mk result after =>
      rw [hended] at hcases
      cases hcases with
      | refused e hnot => exact howned
      | notStarted document hnot hdocument =>
        exact owned_update howned (getDocumentById_spec hdocument).1
          (startedDocument_id document) rfl rfl
      | failed base document message hbegun hfails =>
        have hmem := (getDocumentById_spec hbegun.document).1
        have hstarted := owned_update howned hmem (startedDocument_id document) rfl rfl
        unfold DocumentStore.afterSave
        split
        · exact hstarted
        · exact owned_update hstarted (mem_update_started hmem) (show
            (failedDocument (startedDocument document) message).id =
              (startedDocument document).id from rfl) rfl rfl
      | stored base document extracted hbegun hextracted hrefused =>
        have hmem := (getDocumentById_spec hbegun.document).1
        have hstarted := owned_update howned hmem (startedDocument_id document) rfl rfl
        have hreplaced := owned_replaceChunks hstarted (mem_update_started hmem)
          (fun chunk hchunk => isChunkOf_of_extracted hbegun hextracted hchunk)
        dsimp only
        unfold DocumentStore.afterSave
        split
        · exact hreplaced
        · exact owned_update hreplaced (mem_update_started hmem) (show
            (finishedDocument document extracted).id = (startedDocument document).id from rfl)
            rfl rfl

/-! ## Whole runs -/

theorem fresh_tellsTruth {moment : Moment F} (h : moment.Fresh) : TellsTruth moment := by
  intro document hdocument
  have hchunks : chunksOf moment.store document.id = [] := by
    unfold chunksOf
    rw [h.chunks]
    rfl
  constructor
  · rw [hchunks, h.counts document hdocument]
    rfl
  · rw [hchunks, h.latest]
    rfl

theorem fresh_owned {moment : Moment F} (h : moment.Fresh) : Owned moment.store := by
  intro chunk hchunk
  rw [h.chunks] at hchunk
  exact absurd hchunk List.not_mem_nil

/-- Every call of the run is undisturbed when it is made. -/
def UndisturbedRun (moment : Moment F) (calls : List (Call F)) : Prop :=
  ∀ before c after, calls = before ++ c :: after → Undisturbed (moment.run before).store c

theorem run_concat (moment : Moment F) (calls : List (Call F)) (c : Call F) :
    moment.run (calls ++ [c]) = (moment.run calls).next c := by
  unfold Moment.run
  rw [List.foldl_append]
  rfl

theorem run_tellsTruth {moment : Moment F} (h : moment.Fresh) (calls : List (Call F))
    (hundisturbed : UndisturbedRun moment calls) :
    TellsTruth (moment.run calls) ∧ Owned (moment.run calls).store := by
  induction calls using List.reverseRecOn with
  | nil => exact ⟨fresh_tellsTruth h, fresh_owned h⟩
  | append_singleton calls c ih =>
    obtain ⟨htruth, howned⟩ := ih (fun before c' after hsplit =>
      hundisturbed before c' (after ++ [c]) (by rw [hsplit]; simp))
    rw [run_concat]
    exact ⟨(tellsTruth_next_iff htruth howned c).mpr (hundisturbed calls c [] rfl),
      owned_next howned c⟩

/-- What is stored is the truth all along exactly when every call is undisturbed. -/
theorem run_tellsTruth_iff {moment : Moment F} (h : moment.Fresh) (calls : List (Call F)) :
    (∀ before after, calls = before ++ after → TellsTruth (moment.run before)) ↔
      UndisturbedRun moment calls := by
  constructor
  · intro htruth
    induction calls using List.reverseRecOn with
    | nil =>
      intro before c after hsplit
      exact absurd hsplit (by simp)
    | append_singleton calls c ih =>
      have hcalls : UndisturbedRun moment calls := ih (fun before after hsplit =>
        htruth before (after ++ [c]) (by rw [hsplit, List.append_assoc]))
      intro before c' after hsplit
      rcases List.eq_nil_or_concat after with rfl | ⟨after', last, rfl⟩
      · obtain ⟨rfl, hlast⟩ := List.append_inj' hsplit rfl
        obtain ⟨rfl, -⟩ := List.cons.inj hlast
        have hafter := htruth (calls ++ [c]) [] (List.append_nil _).symm
        rw [run_concat] at hafter
        obtain ⟨hbefore, howned⟩ := run_tellsTruth h calls hcalls
        exact (tellsTruth_next_iff hbefore howned c).mp hafter
      · rw [List.concat_eq_append, ← List.cons_append, ← List.append_assoc] at hsplit
        exact hcalls before c' after' (List.append_inj' hsplit rfl).1
  · intro hundisturbed before after hsplit
    refine (run_tellsTruth h before (fun before' c' after' hsplit' => ?_)).1
    exact hundisturbed before' c' (after' ++ after) (by rw [hsplit, hsplit']; simp)

/-- After each call of the run that answers, what is stored is the truth. -/
def CountsRight (moment : Moment F) (calls : List (Call F)) : Prop :=
  ∀ before c after, calls = before ++ c :: after →
    Answers (c.result (moment.run before).store).1 → TellsTruth ((moment.run before).next c)

theorem chunkCount_truthful (moment : Moment F) (h : moment.Fresh) (calls : List (Call F))
    (hundisturbed : UndisturbedRun moment calls) : CountsRight moment calls := by
  intro before c after hsplit _
  have hbefore : UndisturbedRun moment before := fun before' c' after' hsplit' =>
    hundisturbed before' c' (after' ++ c :: after) (by rw [hsplit, hsplit']; simp)
  obtain ⟨htruth, howned⟩ := run_tellsTruth h before hbefore
  exact (tellsTruth_next_iff htruth howned c).mpr (hundisturbed before c after hsplit)

/-! ## A report that is processed twice -/

def pendingReport : Document :=
  { reportDocument with
    status := "pending"
    processing_message := some "The document is waiting to be processed."
    chunk_count := 0 }

def pendingStore : DocumentStore Nat where
  knowledge_bases := [reportBase]
  documents := [pendingReport]
  chunks := []
  document_ids := by decide

def pendingMoment : Moment Nat := ⟨pendingStore, fun _ => []⟩

theorem pendingMoment_fresh : pendingMoment.Fresh where
  chunks := rfl
  counts := by
    intro document hdocument
    rw [List.mem_singleton.mp hdocument]
    rfl
  latest := fun _ => rfl

def salesText : ExtractedDocument where
  sections := [⟨"Sales rose.", none, some "Text document", []⟩]
  page_count := none

def readableReport : ProcessOutcomes where
  started := .saved
  download := .ok []
  extract := fun _ _ => .ok salesText
  chunksRefused := false
  failure := .saved
  finished := .saved

def missingReport : ProcessOutcomes :=
  { readableReport with download := .error "The object could not be downloaded." }

def processReport (outcomes : ProcessOutcomes) : Call Nat :=
  .process outcomes reportAdmin "manuals" "report"

/-- The document can not be downloaded at first, is processed then, and its embedding fails. -/
def retriedReport : List (Call Nat) :=
  [processReport missingReport, processReport readableReport,
    .embed reportOutcomes reportAdmin "manuals" "report"]

theorem retried_undisturbed : UndisturbedRun pendingMoment retriedReport := by
  intro before c after hsplit
  rcases before with _ | ⟨first, _ | ⟨second, _ | ⟨third, before⟩⟩⟩
  · obtain ⟨rfl, -⟩ := List.cons.inj hsplit
    intro base document _
    exact ⟨fun _ => .inr rfl, fun _ _ _ => .inl rfl⟩
  · obtain ⟨rfl, hrest⟩ := List.cons.inj hsplit
    obtain ⟨rfl, -⟩ := List.cons.inj hrest
    intro base document _
    exact ⟨fun _ => .inr rfl, fun _ _ _ => .inl rfl⟩
  · obtain ⟨-, hsplit⟩ := List.cons.inj hsplit
    obtain ⟨-, hsplit⟩ := List.cons.inj hsplit
    obtain ⟨rfl, -⟩ := List.cons.inj hsplit
    trivial
  · exact absurd (congrArg List.length hsplit) (by simp [retriedReport])

theorem readable_truthful : CountsRight pendingMoment retriedReport :=
  chunkCount_truthful pendingMoment pendingMoment_fresh retriedReport retried_undisturbed

/-- The second processing can not download the document: its own error, no chunks counted, and
the chunk of the first processing is stored. -/
theorem report_count_wrong : pendingMoment.Fresh ∧
    ¬ CountsRight pendingMoment [processReport readableReport, processReport missingReport] := by
  refine ⟨pendingMoment_fresh, fun hright => ?_⟩
  let processed := pendingMoment.run [processReport readableReport]
  have hanswers : ((processReport missingReport).result processed.store).1 =
      .error couldNotProcess := rfl
  have htruth : TellsTruth (processed.next (processReport missingReport)) :=
    hright [processReport readableReport] (processReport missingReport) [] rfl
      (by rw [hanswers]; trivial)
  have hcounts : ("report", 0) ∈ (processed.next (processReport missingReport)).store.documents.map
      (fun document => (document.id, document.chunk_count)) := by
    decide +kernel
  have hchunks : (chunksOf (processed.next (processReport missingReport)).store "report").length =
      1 := by
    decide +kernel
  obtain ⟨document, hdocument, hpair⟩ := List.mem_map.mp hcounts
  obtain ⟨hid, hcount⟩ := Prod.mk.inj hpair
  have hcounted := (htruth document hdocument).counted
  rw [hid, hcount, hchunks] at hcounted
  exact absurd hcounted (by decide)

end DataChat.Documents
