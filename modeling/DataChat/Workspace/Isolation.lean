import DataChat.Workspace.Processing

/-!
# Searches of one tenant and requests of the others

The chunks of all tenants are in one table, and so are their documents and knowledge bases. A search
reads the rows of one tenant. `Tenants.Noninterference` says what one call leaves alone; here the
calls of all services follow each other, and uploads overlap.

* `step_keepsRows`: what a request of another tenant leaves alone.
* `searches_isolated`: what this means for the searches.
-/

namespace DataChat.Workspace

open Relational Platform Transactions Tenants

variable {F : Type} {newUuid : Nat → Uuid} {state state' state'' : State F} {user : User}
  {tenantId : Uuid}

/-! ## The rows of a search -/

/-- The tenant has the same knowledge bases, documents and chunks. -/
structure SameSearched (tenantId : Uuid) (state state' : State F) : Prop where
  bases : SameOf (fun base => base.tenant_id) tenantId state.bases.rows state'.bases.rows
  documents : SameOf (fun document => document.tenant_id) tenantId state.documents.rows
    state'.documents.rows
  chunks : SameOf (fun chunk => chunk.tenant_id) tenantId state.chunks state'.chunks

theorem SameSearched.refl (tenantId : Uuid) (state : State F) :
    SameSearched tenantId state state :=
  ⟨SameOf.refl _ _ _, SameOf.refl _ _ _, SameOf.refl _ _ _⟩

theorem SameSearched.trans (h : SameSearched tenantId state state')
    (h' : SameSearched tenantId state' state'') : SameSearched tenantId state state'' where
  bases := List.Perm.trans h.bases h'.bases
  documents := List.Perm.trans h.documents h'.documents
  chunks := List.Perm.trans h.chunks h'.chunks

theorem SameSearched.symm (h : SameSearched tenantId state state') :
    SameSearched tenantId state' state where
  bases := SameRows.symm h.bases
  documents := SameRows.symm h.documents
  chunks := SameRows.symm h.chunks

/-- A search of the tenant may return the same. -/
theorem SameSearched.retrieve (h : SameSearched tenantId state state')
    (htenant : user.tenant_id = tenantId) {services : Documents.RetrievalServices F}
    {knowledgeBaseId : Uuid} {query : String} {topK : Nat} {minimumSimilarity : PyFloat}
    {result : Chat.Retrieval}
    (hresult : MayRetrieve services state.platform user knowledgeBaseId query topK
      minimumSimilarity result) :
    MayRetrieve services state'.platform user knowledgeBaseId query topK minimumSimilarity
      result := by
  have hbases : SameOf (fun base => base.tenant_id) tenantId state.platform.bases.rows
      state'.platform.bases.rows := by
    apply SameRows.map
    exact h.bases
  -- the other tables make no difference to a search
  have hagree : state.platform.Agree tenantId { state.platform with
      bases := state'.platform.bases
      documents := state'.platform.documents
      chunks := state'.platform.chunks } :=
    { PlatformState.Agree.refl tenantId state.platform with
      bases := hbases
      documents := h.documents
      chunks := h.chunks }
  exact chunks_same hagree htenant hresult

/-! ## Documents -/

/-- Rows of documents are the same when their written columns are. -/
theorem State.Saved.agrees {after : Documents.DocumentStore F} {documents : Documents.DocumentTable}
    (h : state.Saved after documents)
    (hsame : SameOf Documents.Document.tenant_id tenantId
      state.platform.documentStore.documents after.documents) :
    SameOf (fun document => document.tenant_id) tenantId state.documents.rows documents.rows := by
  have hbefore := (List.Nodup.of_map _ state.documents.ids).filter
    (fun document => decide (document.tenant_id = tenantId))
  have hafter := (List.Nodup.of_map _ documents.ids).filter
    (fun document => decide (document.tenant_id = tenantId))
  refine (List.perm_ext_iff_of_nodup hbefore hafter).mpr (fun row => ?_)
  rw [List.mem_filter, List.mem_filter]
  refine and_congr_left (fun htenant => ⟨fun hrow => ?_, fun hrow => ?_⟩)
  · exact h.kept hrow (SameRows.mem hsame (List.mem_map_of_mem hrow) htenant).1
  · have hmem : row.toDocument ∈ after.documents := by
      rw [← h.written]
      exact List.mem_map_of_mem hrow
    exact h.unchanged hrow (SameRows.mem (SameRows.symm hsame) hmem htenant).1

/-- A processing replaces chunks of the tenant of its user. -/
theorem State.Replaced.agrees {after : Documents.DocumentStore F} {documentId : Uuid}
    {chunks : List (Documents.ChunkRow F)} (h : state.Replaced after user documentId chunks)
    (hother : user.tenant_id ≠ tenantId) :
    SameOf (fun chunk => chunk.tenant_id) tenantId state.chunks chunks := by
  rcases h.rows with rfl | ⟨document, -, -, htenant, inserted, hinserted, rfl⟩
  · exact SameOf.refl _ _ _
  · have hown : ∀ chunk : Documents.ChunkRow F,
        Documents.isChunkOf document.toDocument chunk.toDocumentChunk = true →
          chunk.tenant_id ≠ tenantId := by
      intro chunk hof hsame
      have hchunkTenant := (of_decide_eq_true hof).1
      exact hother (htenant.symm.trans (hchunkTenant.symm.trans hsame))
    refine SameRows.of_eq ?_
    rw [filter_append_of_not
      (fun chunk hchunk => decide_eq_false (hown chunk (hinserted chunk hchunk).1))]
    refine filter_filter_of_agree rfl (fun chunk _ hsame => ?_)
    rw [Bool.not_eq_true']
    by_contra hof
    exact hown chunk (Bool.not_eq_false _ ▸ hof) (of_decide_eq_true hsame)

/-- Rows with the same identifiers and columns are the same. -/
theorem State.Updated.unchanged {chunks : List (Documents.ChunkRow F)}
    (h : state.Updated state.platform.documentStore chunks) : chunks = state.chunks := by
  have hlength : chunks.length = state.chunks.length := by
    simpa using congrArg List.length h.ids
  apply List.ext_getElem hlength
  intro i hi hi'
  have hid : (chunks.map (fun row => row.id))[i]? = (state.chunks.map (fun row => row.id))[i]? := by
    rw [h.ids]
  have hcolumns : (chunks.map (fun row => row.toDocumentChunk))[i]? =
      (state.chunks.map (fun row => row.toDocumentChunk))[i]? := by
    rw [h.written]
    rfl
  simp only [List.getElem?_map, List.getElem?_eq_getElem hi, List.getElem?_eq_getElem hi',
    Option.map_some, Option.some.injEq] at hid hcolumns
  rcases hrow : chunks[i] with ⟨columns, id⟩
  rcases hrow' : state.chunks[i] with ⟨columns', id'⟩
  rw [hrow, hrow'] at hid hcolumns
  rw [show columns = columns' from hcolumns, show id = id' from hid]

/-- A step of an upload inserts documents of the tenant of its user. -/
theorem uploadStep_agrees {services : Documents.UploadServices} {event : Documents.Event}
    (huser : state.UploadsFor user event) (hother : user.tenant_id ≠ tenantId) :
    SameOf (fun document => document.tenant_id) tenantId state.documents.rows
      (state.uploadState.step services event).documents.rows := by
  cases event with
  | call currentUser knowledgeBaseId upload => exact SameOf.refl _ _ _
  | search place documentId =>
    show SameOf _ _ _ (state.uploadState.search services place documentId).documents.rows
    unfold Documents.UploadState.search
    split <;> exact SameOf.refl _ _ _
  | finish place finish =>
    show SameOf _ _ _ (state.uploadState.finish place finish).documents.rows
    unfold Documents.UploadState.finish
    split
    · rename_i document seen hplace
      have htenant : document.tenant_id ≠ tenantId := by
        rw [(huser document seen hplace).1]
        exact hother
      have hinsert : ∀ outcome, UploadsAgree tenantId state.uploadState
          (state.uploadState.insert place document outcome) :=
        fun outcome => insert_agrees htenant place outcome
      cases finish with
      | notStored message => exact SameOf.refl _ _ _
      | commitRefused => exact SameOf.refl _ _ _
      | refreshFails => exact (hinsert _).documents
      | saved => exact (hinsert _).documents
    · exact SameOf.refl _ _ _

/-! ## Runs -/

/-- A request of another tenant leaves the rows of the tenant alone. -/
theorem step_keepsRows (hstep : Step newUuid user state state')
    (hother : user.tenant_id ≠ tenantId) : SameSearched tenantId state state' := by
  cases hstep with
  | access request => exact { SameSearched.refl tenantId state with }
  | createKnowledgeBase settings id request hcreated =>
    rename_i bases base
    refine { SameSearched.refl tenantId state with bases := SameRows.of_eq ?_ }
    show bases.rows.filter _ = _
    rw [createKnowledgeBase_rows hcreated, createKnowledgeBase_created hcreated]
    refine filter_append_of_not (fun row hrow => ?_)
    rw [List.mem_singleton.mp hrow]
    exact decide_eq_false hother
  | createConversation id request hcreated => exact { SameSearched.refl tenantId state with }
  | upload services event huser =>
    exact { SameSearched.refl tenantId state with documents := uploadStep_agrees huser hother }
  | process outcomes knowledgeBaseId documentId hsaved hreplaced =>
    have hsame : DocumentsAgree tenantId state.platform.documentStore
        (call (Documents.processDocument outcomes user knowledgeBaseId documentId)
          state.platform.documentStore).2 :=
      process_agrees outcomes user hother.symm knowledgeBaseId documentId
    exact { SameSearched.refl tenantId state with
      documents := hsaved.agrees hsame.documents
      chunks := hreplaced.agrees hother }
  | embed outcomes knowledgeBaseId documentId hsaved hupdated =>
    rw [Documents.call_embedDocumentChunks] at hsaved hupdated
    refine { SameSearched.refl tenantId state with
      documents := hsaved.agrees (SameOf.refl _ _ _)
      chunks := ?_ }
    show SameOf _ _ state.chunks _
    rw [hupdated.unchanged]
    exact SameOf.refl _ _ _
  | chat around conversationId c hmay => exact { SameSearched.refl tenantId state with }

theorem reaches_keepsRows {start : State F}
    (h : Reaches newUuid (fun user => user.tenant_id ≠ tenantId) start state) :
    SameSearched tenantId start state :=
  h.invariant (SameSearched.refl _ _)
    (fun _ _ _ hother hsame hstep => hsame.trans (step_keepsRows hstep hother))

/-- As long as only users of other tenants send requests, a tenant keeps its knowledge bases,
documents and chunks as they are, and its users find the same. -/
theorem searches_isolated (newUuid : Nat → Uuid) (tenantId : Uuid) (start state : State F)
    (hreaches : Reaches newUuid (fun user => user.tenant_id ≠ tenantId) start state) :
    SameSearched tenantId start state ∧
      ∀ user : User, user.tenant_id = tenantId →
        ∀ services knowledgeBaseId query topK minimumSimilarity result,
          MayRetrieve services start.platform user knowledgeBaseId query topK minimumSimilarity
              result ↔
            MayRetrieve services state.platform user knowledgeBaseId query topK
              minimumSimilarity result := by
  have hsame := reaches_keepsRows hreaches
  refine ⟨hsame, fun user htenant services knowledgeBaseId query topK minimumSimilarity result =>
    ⟨fun h => ?_, fun h => ?_⟩⟩
  · exact hsame.retrieve htenant h
  · exact hsame.symm.retrieve htenant h

/-! ## A handbook that is processed again -/

def processedHandbook : Documents.DocumentRow :=
  { handbook acme with status := "chunked" }

def processedChunk : Documents.ChunkRow Nat where
  toDocumentChunk := { (handbookChunk acme).toDocumentChunk with
    chunk_metadata := [("section_chunk_index", .number false "0")]
    embedding := none }
  id := "chunk"

/-- One tenant has its handbook processed again. -/
def processedWorkspace : State Nat :=
  { sharedWorkspace.withChunks [handbookChunk globex, processedChunk] with
    documents := ⟨[handbook globex, processedHandbook], by decide +kernel, by decide +kernel⟩ }

theorem handbook_processed : Step Chat.letterUuid acme sharedWorkspace processedWorkspace := by
  refine .process Documents.readableReport "acme-manuals" "acme-handbook" ?_ ?_
  · refine ⟨rfl, fun row hrow => ?_⟩
    rcases List.mem_cons.mp hrow with rfl | hrow
    · exact ⟨_, List.mem_cons_self, rfl, rfl⟩
    · rw [List.mem_singleton.mp hrow]
      exact ⟨_, List.mem_cons_of_mem _ List.mem_cons_self, rfl, rfl⟩
  · refine ⟨rfl, .inr ⟨_, List.mem_cons_of_mem _ List.mem_cons_self, rfl, rfl, [processedChunk],
      fun chunk hchunk => ?_, rfl⟩⟩
    rw [List.mem_singleton.mp hchunk]
    exact ⟨by decide +kernel, by decide +kernel⟩

/-- The other tenant has a handbook as well, and finds the same in it. -/
theorem globex_isolated : SameSearched "globex" sharedWorkspace processedWorkspace ∧
    ∀ services query topK minimumSimilarity result,
      MayRetrieve services sharedWorkspace.platform globex "globex-manuals" query topK
          minimumSimilarity result ↔
        MayRetrieve services processedWorkspace.platform globex "globex-manuals" query topK
          minimumSimilarity result := by
  have hreaches : Reaches Chat.letterUuid (fun user => user.tenant_id ≠ "globex") sharedWorkspace
      processedWorkspace := .single ⟨acme, by decide, handbook_processed⟩
  obtain ⟨hsame, hsearches⟩ :=
    searches_isolated Chat.letterUuid "globex" sharedWorkspace processedWorkspace hreaches
  refine ⟨hsame, fun services query topK minimumSimilarity result => ?_⟩
  exact hsearches globex rfl services "globex-manuals" query topK minimumSimilarity result

end DataChat.Workspace
