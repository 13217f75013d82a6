import DataChat.Documents.Formats
import DataChat.Workspace.Sources

/-!
# When a document can be processed

`process_document` cuts a document by the chunk settings of its knowledge base. Only
`KnowledgeBaseCreate` checks these settings, when the knowledge base is created; the chunker raises
an error for settings that do not fit, and for a document without text.

* `step_validSettings`: the settings of all knowledge bases stay valid.
* `process_returns_iff`: what a processing needs.
-/

namespace DataChat.Workspace

open Relational Platform Transactions Tenants Outcome

variable {F : Type} {newUuid : Nat → Uuid} {users : User → Prop} {state state' : State F}
  {user : User}

/-! ## Settings -/

/-- What `KnowledgeBaseCreate` checks of the chunk settings. -/
structure ValidSettings (base : Documents.KnowledgeBase) : Prop where
  size_ge : 100 ≤ base.chunk_size
  size_le : base.chunk_size ≤ 5000
  overlap_ge : 0 ≤ base.chunk_overlap
  overlap_lt : base.chunk_overlap < base.chunk_size

def AllValid (state : State F) : Prop :=
  ∀ base ∈ state.bases.rows, ValidSettings base.toKnowledgeBase

theorem newKnowledgeBase_valid (settings : Documents.EmbeddingSettings) (id : Uuid)
    (request : KnowledgeBaseCreate) :
    ValidSettings (newKnowledgeBase settings id user request).toKnowledgeBase where
  size_ge := request.size_ge
  size_le := request.size_le
  overlap_ge := request.overlap_ge
  overlap_lt := request.overlap_lt

theorem createKnowledgeBase_created {settings : Documents.EmbeddingSettings} {id : Uuid}
    {request : KnowledgeBaseCreate} {bases bases' : KnowledgeBaseTable} {base : KnowledgeBaseRow}
    (h : createKnowledgeBase settings id bases user request = .ok (bases', base)) :
    base = newKnowledgeBase settings id user request := by
  obtain ⟨⟨⟩, -, h⟩ := bind_ok_iff.mp h
  obtain ⟨⟨⟩, -, h⟩ := bind_ok_iff.mp h
  obtain ⟨inserted, -, h⟩ := bind_ok_iff.mp h
  exact (Prod.mk.inj (pure_ok_iff.mp h)).2.symm

/-- No request changes the settings of a knowledge base, and a new one has valid settings. -/
theorem step_validSettings (h : AllValid state) (hstep : Step newUuid user state state') :
    AllValid state' := by
  cases hstep with
  | createKnowledgeBase settings id request hcreated =>
    rename_i bases base
    intro row hrow
    have hrows : row ∈ bases.rows := hrow
    rw [createKnowledgeBase_rows hcreated] at hrows
    rcases List.mem_append.mp hrows with hold | hnew
    · exact h row hold
    · rw [List.mem_singleton.mp hnew, createKnowledgeBase_created hcreated]
      exact newKnowledgeBase_valid settings id request
  | access request => exact h
  | createConversation id request hcreated => exact h
  | upload services event huser => exact h
  | process outcomes knowledgeBaseId documentId hsaved hreplaced => exact h
  | embed outcomes knowledgeBaseId documentId hsaved hupdated => exact h
  | chat around conversationId c hmay => exact h

theorem reaches_validSettings {start : State F} (hstart : AllValid start)
    (h : Reaches newUuid users start state) : AllValid state :=
  h.invariant hstart (fun _ _ _ _ hvalid hstep => step_validSettings hvalid hstep)

/-! ## One processing -/

/-- A call that raises an error returns nothing. -/
theorem returns_iff_of_error {ε α : Type} {e : ε} {p : Prop} {q : α → Prop} (h : ¬p) :
    ((∃ value, (.error e : Except ε α) = .ok value) ↔ p) ∧
      ∀ value, (.error e : Except ε α) = .ok value → q value :=
  ⟨iff_of_false (fun ⟨_, herror⟩ => by cases herror) h, fun _ herror => by cases herror⟩

/-- The object can be downloaded, some of its text can be extracted, and the database accepts what
is written. -/
structure Processable (outcomes : Documents.ProcessOutcomes) (fileExtension : String) : Prop where
  started : outcomes.started = .saved
  text : ∃ content extracted, outcomes.download = .ok content ∧
    outcomes.extract content fileExtension = .ok extracted ∧
    ∃ part ∈ extracted.sections, isBlank part.text = false
  chunks : outcomes.chunksRefused = false
  finished : outcomes.finished = .saved

section Extract

variable {outcomes : Documents.ProcessOutcomes} {base : Documents.KnowledgeBase}
  {document : Documents.Document}

/-- The `try` block before the chunks are stored, with valid settings. -/
theorem extractAndChunk_ok_iff (h : ValidSettings base) :
    (∃ extracted, Documents.extractAndChunk (F := F) outcomes user base document =
        .ok extracted) ↔
      ∃ content extracted, outcomes.download = .ok content ∧
        outcomes.extract content document.file_extension = .ok extracted ∧
        ∃ part ∈ extracted.sections, isBlank part.text = false := by
  have hsize : 1 ≤ base.chunk_size := by
    have hge := h.size_ge
    omega
  have hchunks :=
    Documents.chunkExtractedDocument_returns_iff hsize h.overlap_ge h.overlap_lt
  unfold Documents.extractAndChunk
  constructor
  · rintro ⟨result, hresult⟩
    obtain ⟨content, hcontent, hresult⟩ := bind_ok_iff.mp hresult
    obtain ⟨extracted, hextracted, hresult⟩ := bind_ok_iff.mp hresult
    obtain ⟨chunks, hcut, -⟩ := bind_ok_iff.mp hresult
    exact ⟨content, extracted, mapError_ok_iff.mp hcontent, mapError_ok_iff.mp hextracted,
      (hchunks extracted).mp ⟨chunks, mapError_ok_iff.mp hcut⟩⟩
  · rintro ⟨content, extracted, hcontent, hextracted, htext⟩
    obtain ⟨chunks, hcut⟩ := (hchunks extracted).mpr htext
    refine ⟨(extracted, chunks.map (Documents.chunkRecord user base document)), ?_⟩
    refine bind_ok_iff.mpr ⟨content, mapError_ok_iff.mpr hcontent, ?_⟩
    refine bind_ok_iff.mpr ⟨extracted, mapError_ok_iff.mpr hextracted, ?_⟩
    exact bind_ok_iff.mpr ⟨chunks, mapError_ok_iff.mpr hcut, rfl⟩

/-- What is extracted has chunks. -/
theorem extractAndChunk_ne_nil
    {extracted : Documents.ExtractedDocument × List (Documents.DocumentChunk F)}
    (h : Documents.extractAndChunk outcomes user base document = .ok extracted) :
    extracted.2 ≠ [] := by
  obtain ⟨content, -, h⟩ := bind_ok_iff.mp h
  obtain ⟨extractedDocument, -, h⟩ := bind_ok_iff.mp h
  obtain ⟨chunks, hcut, h⟩ := bind_ok_iff.mp h
  obtain ⟨found, -, hfound⟩ := bind_ok_iff.mp (mapError_ok_iff.mp hcut)
  obtain ⟨hsome, hsame⟩ := guard_ok_iff.mp hfound
  obtain rfl := pure_ok_iff.mp hsame
  rw [← pure_ok_iff.mp h]
  intro hnil
  exact hsome (by rw [List.map_eq_nil_iff.mp hnil]; rfl)

end Extract

theorem getKnowledgeBaseById_found {base : KnowledgeBaseRow} (hbase : base ∈ state.bases.rows)
    (htenant : base.tenant_id = user.tenant_id) :
    Documents.getKnowledgeBaseById state.platform.documentStore user.tenant_id base.id =
      some base.toKnowledgeBase := by
  have hkey : PrimaryKey Documents.KnowledgeBase.id
      state.platform.documentStore.knowledge_bases := by
    show (List.map _ (List.map _ (List.map _ state.bases.rows))).Nodup
    rw [List.map_map, List.map_map]
    exact state.bases.ids
  have hmem : base.toKnowledgeBase ∈ state.platform.documentStore.knowledge_bases :=
    List.mem_map_of_mem (List.mem_map_of_mem hbase)
  refine hkey.find?_eq_some hmem (decide_eq_true ⟨rfl, htenant⟩) ?_
  intro other hother
  exact (of_decide_eq_true hother).1

theorem getDocumentById_found {document : Documents.DocumentRow} {knowledgeBaseId : Uuid}
    (hdocument : document ∈ state.documents.rows) (htenant : document.tenant_id = user.tenant_id)
    (hof : document.knowledge_base_id = knowledgeBaseId) :
    Documents.getDocumentById state.platform.documentStore user.tenant_id knowledgeBaseId
      document.id = some document.toDocument := by
  have hmem : document.toDocument ∈ state.platform.documentStore.documents :=
    List.mem_map_of_mem hdocument
  refine state.platform.documentStore.document_ids.find?_eq_some hmem
    (decide_eq_true ⟨rfl, htenant, hof⟩) ?_
  intro other hother
  exact (of_decide_eq_true hother).1

/-- Whatever requests have come before, the settings of all knowledge bases are valid. So an
administrator's processing of a document of the tenant returns exactly when the object store, the
extraction and the database allow it, and the document then has chunks. -/
theorem process_returns_iff (newUuid : Nat → Uuid) (users : User → Prop) (start state : State F)
    (hstart : ∀ base ∈ start.bases.rows, ValidSettings base.toKnowledgeBase)
    (hreaches : Reaches newUuid users start state) (user : User)
    (hadmin : user.is_tenant_admin = true) (base : KnowledgeBaseRow)
    (hbase : base ∈ state.bases.rows) (hbaseTenant : base.tenant_id = user.tenant_id)
    (document : Documents.DocumentRow) (hdocument : document ∈ state.documents.rows)
    (htenant : document.tenant_id = user.tenant_id) (hof : document.knowledge_base_id = base.id)
    (outcomes : Documents.ProcessOutcomes) :
    AllValid state ∧
    ((∃ processed, (call (Documents.processDocument outcomes user base.id document.id)
        state.platform.documentStore).1 = .ok processed) ↔
      Processable outcomes document.file_extension) ∧
    ∀ processed, (call (Documents.processDocument outcomes user base.id document.id)
        state.platform.documentStore).1 = .ok processed →
      processed.status = "chunked" ∧ 0 < processed.chunk_count := by
  have hallValid := reaches_validSettings hstart hreaches
  refine ⟨hallValid, ?_⟩
  have hvalid := hallValid base hbase
  have hbegun : outcomes.started = .saved → Documents.Begun outcomes user base.id document.id
      state.platform.documentStore base.toKnowledgeBase document.toDocument := by
    intro hstarted
    exact ⟨hadmin, getKnowledgeBaseById_found hbase hbaseTenant,
      getDocumentById_found hdocument htenant hof, hstarted⟩
  have hcases := Documents.process_cases outcomes user base.id document.id
    state.platform.documentStore
  generalize call (Documents.processDocument outcomes user base.id document.id)
    state.platform.documentStore = ended at hcases
  cases hcases with
  | refused e hnot =>
    refine returns_iff_of_error (fun h => ?_)
    exact hnot _ _ (hbegun h.started)
  | notStarted document' hnot hfound =>
    refine returns_iff_of_error (fun h => ?_)
    exact hnot _ _ (hbegun h.started)
  | failed base' document' message hbegun' hfails =>
    refine returns_iff_of_error (fun h => ?_)
    obtain ⟨rfl, rfl⟩ := Documents.Begun.unique hbegun' (hbegun h.started)
    rcases hfails with hrefused | ⟨e, herror⟩
    · rw [h.chunks] at hrefused
      cases hrefused
    · have hok : ∃ extracted, Documents.extractAndChunk (F := F) outcomes user
          base.toKnowledgeBase (Documents.startedDocument document.toDocument) = .ok extracted :=
        (extractAndChunk_ok_iff hvalid).mpr h.text
      obtain ⟨extracted, hextracted⟩ := hok
      rw [herror] at hextracted
      cases hextracted
  | stored base' document' extracted hbegun' hextracted hrefused =>
    obtain ⟨rfl, rfl⟩ := Documents.Begun.unique hbegun' (hbegun hbegun'.started)
    have htext := (extractAndChunk_ok_iff hvalid).mp ⟨extracted, hextracted⟩
    by_cases hfinished : outcomes.finished = .saved
    · rw [if_pos hfinished]
      refine ⟨iff_of_true ⟨_, rfl⟩ ⟨hbegun'.started, htext, hrefused, hfinished⟩, ?_⟩
      intro processed hprocessed
      rw [← Except.ok.inj hprocessed]
      exact ⟨rfl, List.length_pos_of_ne_nil (extractAndChunk_ne_nil hextracted)⟩
    · rw [if_neg hfinished]
      exact returns_iff_of_error (fun h => hfinished h.finished)

/-! ## A handbook -/

theorem silentWorkspace_valid : AllValid silentWorkspace := by
  intro base hbase
  rcases List.mem_cons.mp hbase with rfl | hbase
  · constructor <;> decide
  · rw [List.mem_singleton.mp hbase]
    constructor <;> decide

/-- The handbook has some text, and the processing returns. -/
theorem handbook_returns : ∃ processed,
    (call (Documents.processDocument Documents.readableReport acme "acme-manuals" "acme-handbook")
      unconnectedWorkspace.platform.documentStore).1 = .ok processed := by
  have hprocessable : Processable Documents.readableReport "txt" := by
    refine ⟨rfl, ⟨[], Documents.salesText, rfl, rfl, _, List.mem_singleton_self _, ?_⟩, rfl, rfl⟩
    decide
  obtain ⟨-, hreturns, -⟩ := process_returns_iff Chat.letterUuid (fun user => user = acme)
    silentWorkspace unconnectedWorkspace silentWorkspace_valid unconnected_reached acme rfl
    (manualsRow acme) (List.mem_cons_of_mem _ List.mem_cons_self) rfl (handbook acme)
    (List.mem_cons_of_mem _ List.mem_cons_self) rfl rfl Documents.readableReport
  exact hreturns.mpr hprocessable

end DataChat.Workspace
