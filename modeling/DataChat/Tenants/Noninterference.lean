import DataChat.Documents.Processing
import DataChat.Tenants.Reading

/-!
# Tenants do not interfere

What a user reads depends on the rows of the tenant only, and what a user writes leaves the rows of
all other tenants alone. Two of the four writers commit more than once: `process_document` saves
the document before it replaces the chunks, and `upload_document` looks for a duplicate before it
inserts, while other calls go on.

* `process_agrees`, `upload_agrees`: these two calls change no row of another tenant.
* `tenants_apart`: the users of a tenant read and write within the tenant.
-/

namespace DataChat.Tenants

open Relational Platform Transactions Documents

variable {F : Type} {other : Uuid}

/-! ## Processing a document -/

section Process

variable {store : DocumentStore F}

theorem DocumentsAgree.refl (other : Uuid) (store : DocumentStore F) :
    DocumentsAgree other store store :=
  ⟨SameOf.refl _ _ _, SameOf.refl _ _ _, SameOf.refl _ _ _⟩

theorem DocumentsAgree.trans {store' store'' : DocumentStore F}
    (h : DocumentsAgree other store store') (h' : DocumentsAgree other store' store'') :
    DocumentsAgree other store store'' :=
  ⟨List.Perm.trans h.bases h'.bases, List.Perm.trans h.documents h'.documents,
    List.Perm.trans h.chunks h'.chunks⟩

/-- A document of another tenant has another identifier. -/
def Held (other : Uuid) (store : DocumentStore F) (document : Document) : Prop :=
  document.tenant_id ≠ other ∧
    ∀ row ∈ store.documents, row.id = document.id → row.tenant_id ≠ other

theorem held_of_found {tenantId knowledgeBaseId documentId : Uuid} {document : Document}
    (hother : other ≠ tenantId)
    (h : getDocumentById store tenantId knowledgeBaseId documentId = some document) :
    Held other store document := by
  have hmem := List.mem_of_find?_eq_some h
  have htenant : document.tenant_id = tenantId := by
    have hfound := List.find?_some h
    exact (of_decide_eq_true hfound).2.1
  have hnot : document.tenant_id ≠ other := by
    rw [htenant]
    exact hother.symm
  refine ⟨hnot, fun row hrow hid => ?_⟩
  rw [store.document_ids.eq_of_key hrow hmem hid]
  exact hnot

theorem update_agrees {document : Document} (h : Held other store document) :
    DocumentsAgree other store (store.update document) := by
  refine ⟨SameOf.refl _ _ _, SameRows.of_eq ?_, SameOf.refl _ _ _⟩
  show ((store.documents.map (fun row => if row.id = document.id then document else row)).filter
    _) = _
  have hkeeps : ∀ row ∈ store.documents, row.tenant_id = other →
      (if row.id = document.id then document else row) = row := by
    intro row hrow htenant
    rw [if_neg]
    intro hid
    exact h.2 row hrow hid htenant
  have hselects : ∀ row ∈ store.documents,
      decide ((if row.id = document.id then document else row).tenant_id = other) =
        decide (row.tenant_id = other) := by
    intro row hrow
    by_cases hid : row.id = document.id
    · rw [if_pos hid, decide_eq_false h.1, decide_eq_false (h.2 row hrow hid)]
    · rw [if_neg hid]
  rw [List.filter_map, List.filter_congr (q := fun row => decide (row.tenant_id = other)) hselects]
  refine (List.map_congr_left (fun row hrow => ?_)).trans (List.map_id _)
  obtain ⟨hmem, htenant⟩ := List.mem_filter.mp hrow
  exact hkeeps row hmem (of_decide_eq_true htenant)

theorem started_agrees {document : Document} (h : Held other store document) :
    DocumentsAgree other store (store.update (startedDocument document)) :=
  update_agrees h

/-- An update does not change who holds the documents. -/
theorem Held.update {document document' : Document} (h : Held other store document)
    (htenant : document'.tenant_id = document.tenant_id) :
    Held other (store.update document') document' := by
  have hnot : document'.tenant_id ≠ other := by
    rw [htenant]
    exact h.1
  refine ⟨hnot, fun row hrow hrowId => ?_⟩
  obtain ⟨before, hbefore, rfl⟩ := List.mem_map.mp hrow
  by_cases hsame : before.id = document'.id
  · rw [if_pos hsame]
    exact hnot
  · rw [if_neg hsame] at hrowId
    exact absurd hrowId hsame

theorem Held.started {document : Document} (h : Held other store document) :
    Held other (store.update (startedDocument document)) (startedDocument document) :=
  h.update rfl

theorem afterSave_agrees {document : Document} (save : Save) (h : Held other store document) :
    DocumentsAgree other store (store.afterSave save document) := by
  unfold DocumentStore.afterSave
  split
  · exact DocumentsAgree.refl other store
  · exact update_agrees h

theorem replaceChunks_agrees {document : Document} {chunks : List (DocumentChunk F)}
    (hdocument : document.tenant_id ≠ other) (hchunks : ∀ chunk ∈ chunks, chunk.tenant_id ≠ other) :
    DocumentsAgree other store (store.replaceChunks document chunks) := by
  refine ⟨SameOf.refl _ _ _, SameOf.refl _ _ _, SameRows.of_eq ?_⟩
  show ((store.chunks.filter (fun chunk => !isChunkOf document chunk)) ++ chunks).filter _ = _
  rw [filter_append_of_not (fun chunk hchunk => decide_eq_false (hchunks chunk hchunk))]
  refine filter_filter_of_agree rfl (fun chunk _ htenant => ?_)
  have hnot : isChunkOf document chunk = false := by
    refine decide_eq_false (fun hof => hdocument ?_)
    rw [← hof.1]
    exact of_decide_eq_true htenant
  rw [hnot]
  rfl

theorem chunks_of_extracted {outcomes : ProcessOutcomes} {currentUser : User}
    {base : KnowledgeBase} {document : Document}
    {extracted : ExtractedDocument × List (DocumentChunk F)}
    (h : extractAndChunk outcomes currentUser base document = .ok extracted) :
    ∀ chunk ∈ extracted.2, chunk.tenant_id = currentUser.tenant_id := by
  unfold extractAndChunk at h
  obtain ⟨content, -, h⟩ := Outcome.bind_ok_iff.mp h
  obtain ⟨extractedDocument, -, h⟩ := Outcome.bind_ok_iff.mp h
  obtain ⟨textChunks, -, h⟩ := Outcome.bind_ok_iff.mp h
  rw [← Outcome.pure_ok_iff.mp h]
  intro chunk hchunk
  obtain ⟨textChunk, -, rfl⟩ := List.mem_map.mp hchunk
  rfl

/-- A call of `process_document` changes no row of another tenant. -/
theorem process_agrees (outcomes : ProcessOutcomes) (currentUser : User)
    (hother : other ≠ currentUser.tenant_id) (knowledgeBaseId documentId : Uuid) :
    DocumentsAgree other store
      (call (processDocument outcomes currentUser knowledgeBaseId documentId) store).2 := by
  have hcases := process_cases outcomes currentUser knowledgeBaseId documentId store
  generalize call (processDocument outcomes currentUser knowledgeBaseId documentId) store = ended
    at hcases
  cases hcases with
  | refused e hnot => exact DocumentsAgree.refl other store
  | notStarted document hnot hdocument =>
    have hheld := held_of_found hother hdocument
    exact started_agrees hheld
  | failed base document message hbegun hfails =>
    have hheld := held_of_found hother hbegun.document
    have hstarted := hheld.started
    exact (started_agrees hheld).trans (afterSave_agrees outcomes.failure hstarted)
  | stored base document extracted hbegun hextracted hrefused =>
    have hheld := held_of_found hother hbegun.document
    have hstarted := hheld.started
    have hchunks : ∀ chunk ∈ extracted.2, chunk.tenant_id ≠ other := by
      intro chunk hchunk
      rw [chunks_of_extracted hextracted chunk hchunk]
      exact hother.symm
    have hreplaced : DocumentsAgree other (store.update (startedDocument document))
        ((store.update (startedDocument document)).replaceChunks (startedDocument document)
          extracted.2) := replaceChunks_agrees hstarted.1 hchunks
    exact ((started_agrees hheld).trans hreplaced).trans
      (afterSave_agrees outcomes.finished hstarted)

end Process

/-! ## Uploading a document -/

section Upload

variable {services : UploadServices} {state : UploadState}

/-- The call writes rows of its tenant only. -/
def WritesFor (tenantId : Uuid) : Phase → Prop
  | .checked upload => upload.currentUser.tenant_id = tenantId
  | .storing document _ => document.tenant_id = tenantId
  | .ended _ => True

theorem UploadsAgree.refl (other : Uuid) (state : UploadState) : UploadsAgree other state state :=
  ⟨SameOf.refl _ _ _, SameOf.refl _ _ _⟩

theorem checkUpload_user {bases : KnowledgeBaseTable} {currentUser : User}
    {knowledgeBaseId : Uuid} {upload : UploadFile} {checked : CheckedUpload}
    (h : checkUpload services bases currentUser knowledgeBaseId upload = .ok checked) :
    checked.currentUser = currentUser := by
  unfold checkUpload at h
  obtain ⟨-, -, h⟩ := Outcome.bind_ok_iff.mp h
  obtain ⟨base, -, h⟩ := Outcome.bind_ok_iff.mp h
  obtain ⟨-, -, h⟩ := Outcome.bind_ok_iff.mp h
  obtain ⟨filename, -, h⟩ := Outcome.bind_ok_iff.mp h
  obtain ⟨extension, -, h⟩ := Outcome.bind_ok_iff.mp h
  obtain ⟨-, -, h⟩ := Outcome.bind_ok_iff.mp h
  obtain ⟨-, -, h⟩ := Outcome.bind_ok_iff.mp h
  rw [← Outcome.pure_ok_iff.mp h]

theorem afterChecks_writes (bases : KnowledgeBaseTable) (currentUser : User)
    (knowledgeBaseId : Uuid) (upload : UploadFile) :
    WritesFor currentUser.tenant_id
      (afterChecks (checkUpload services bases currentUser knowledgeBaseId upload)) := by
  cases hchecked : checkUpload services bases currentUser knowledgeBaseId upload with
  | error raised => trivial
  | ok checked =>
    show checked.currentUser.tenant_id = currentUser.tenant_id
    rw [checkUpload_user hchecked]

/-- What the call at a place has come to. -/
def CallWritesFor (tenantId : Uuid) (place : Nat) (state : UploadState) : Prop :=
  ∃ phase, state.calls[place]? = some phase ∧ WritesFor tenantId phase

theorem CallWritesFor.setCall {tenantId : Uuid} {place : Nat}
    (h : CallWritesFor tenantId place state) (place' : Nat) {phase : Phase}
    (hphase : place' = place → WritesFor tenantId phase) :
    CallWritesFor tenantId place (state.setCall place' phase) := by
  obtain ⟨before, hbefore, hwrites⟩ := h
  unfold CallWritesFor UploadState.setCall
  dsimp only
  by_cases hplace : place' = place
  · have hlt : place < state.calls.length := (List.getElem?_eq_some_iff.mp hbefore).1
    refine ⟨phase, ?_, hphase hplace⟩
    rw [hplace]
    exact List.getElem?_set_self hlt
  · refine ⟨before, ?_, hwrites⟩
    rw [List.getElem?_set_ne hplace]
    exact hbefore

/-- Whatever step is taken, the call goes on writing for its tenant. -/
theorem CallWritesFor.step {tenantId : Uuid} {place : Nat}
    (h : CallWritesFor tenantId place state) (event : Event) :
    CallWritesFor tenantId place (state.step services event) := by
  cases event with
  | call currentUser knowledgeBaseId upload =>
    obtain ⟨phase, hphase, hwrites⟩ := h
    refine ⟨phase, ?_, hwrites⟩
    have hlt : place < state.calls.length := (List.getElem?_eq_some_iff.mp hphase).1
    show (state.calls ++ _)[place]? = some phase
    rw [List.getElem?_append_left hlt]
    exact hphase
  | search place' documentId =>
    show CallWritesFor tenantId place (state.search services place' documentId)
    unfold UploadState.search
    split
    · rename_i upload hupload
      refine h.setCall place' (fun hplace => ?_)
      obtain ⟨phase, hphase, hwrites⟩ := h
      rw [← hplace, hupload] at hphase
      rw [← Option.some.inj hphase] at hwrites
      unfold afterSearch
      split
      · exact hwrites
      · trivial
    · exact h
  | finish place' finish =>
    show CallWritesFor tenantId place (state.finish place' finish)
    have hinsert : ∀ document outcome,
        CallWritesFor tenantId place (state.insert place' document outcome) := by
      intro document outcome
      unfold UploadState.insert
      split
      · rename_i documents _
        have hinserted : CallWritesFor tenantId place
            ({ state with documents := documents } : UploadState) := h
        exact hinserted.setCall place' (fun _ => trivial)
      · exact h.setCall place' (fun _ => trivial)
    unfold UploadState.finish
    split
    · cases finish with
      | notStored message => exact h.setCall place' (fun _ => trivial)
      | commitRefused => exact h.setCall place' (fun _ => trivial)
      | refreshFails => exact hinsert _ _
      | saved => exact hinsert _ _
    · exact h

theorem CallWritesFor.run {tenantId : Uuid} {place : Nat}
    (h : CallWritesFor tenantId place state) (events : List Event) :
    CallWritesFor tenantId place (Runs.run (UploadState.step services) state events) :=
  (Runs.throughout_of_invariant (fun _ event hstate => hstate.step event) h events).last

theorem insert_agrees {document : DocumentRow} (h : document.tenant_id ≠ other) (place : Nat)
    (outcome : Upload DocumentRow) :
    UploadsAgree other state (state.insert place document outcome) := by
  unfold UploadState.insert
  split
  · rename_i documents hinsert
    refine ⟨SameOf.refl _ _ _, SameRows.of_eq ?_⟩
    show documents.rows.filter _ = _
    rw [insertDocument_rows hinsert]
    refine filter_append_of_not (fun row hrow => ?_)
    rw [List.mem_singleton.mp hrow]
    exact decide_eq_false h
  · exact ⟨SameOf.refl _ _ _, SameOf.refl _ _ _⟩

/-- A step of a call changes no row of another tenant. -/
theorem step_agrees {tenantId : Uuid} (hother : other ≠ tenantId) {place : Nat}
    (h : CallWritesFor tenantId place state) {event : Event} (hevent : IsOfCall place event) :
    UploadsAgree other state (state.step services event) := by
  rcases hevent with ⟨documentId, rfl⟩ | ⟨finish, rfl⟩
  · show UploadsAgree other state (state.search services place documentId)
    unfold UploadState.search
    split <;> exact ⟨SameOf.refl _ _ _, SameOf.refl _ _ _⟩
  · show UploadsAgree other state (state.finish place finish)
    unfold UploadState.finish
    split
    · rename_i document seen hplace
      obtain ⟨phase, hphase, hwrites⟩ := h
      rw [hplace] at hphase
      rw [← Option.some.inj hphase] at hwrites
      have hdocument : document.tenant_id ≠ other := by
        intro heq
        exact hother (heq.symm.trans hwrites)
      cases finish with
      | notStored message => exact ⟨SameOf.refl _ _ _, SameOf.refl _ _ _⟩
      | commitRefused => exact ⟨SameOf.refl _ _ _, SameOf.refl _ _ _⟩
      | refreshFails => exact insert_agrees hdocument place _
      | saved => exact insert_agrees hdocument place _
    · exact UploadsAgree.refl other state

/-- A call of `upload_document` changes no row of another tenant, whatever other calls do. -/
theorem upload_agrees (currentUser : User) (hother : other ≠ currentUser.tenant_id)
    (knowledgeBaseId : Uuid) (upload : UploadFile) :
    let called := state.step services (.call currentUser knowledgeBaseId upload)
    UploadsAgree other state called ∧
      ∀ events event, IsOfCall state.calls.length event →
        let during := Runs.run (UploadState.step services) called events
        UploadsAgree other during (during.step services event) := by
  refine ⟨⟨SameOf.refl _ _ _, SameOf.refl _ _ _⟩, fun events event hevent => ?_⟩
  have hcalled : CallWritesFor currentUser.tenant_id state.calls.length
      (state.step services (.call currentUser knowledgeBaseId upload)) := by
    refine ⟨_, List.getElem?_concat_length, ?_⟩
    exact afterChecks_writes state.bases currentUser knowledgeBaseId upload
  exact step_agrees hother (hcalled.run events) hevent

end Upload

/-! ## Users stay within their tenant -/

/-- What a user reads is determined by the rows of the tenant. What a user writes leaves the rows of
every other tenant alone, when no foreign key crosses tenants before. -/
theorem tenants_apart {F : Type} (tenantId : Uuid) :
    (∀ state state' : PlatformState F, state.Agree tenantId state' →
      ∀ user ∈ state.store.users, user.tenant_id = tenantId → SameReads state state' user) ∧
    ∀ state : PlatformState F, Separate state.store.toTables →
      ∀ user ∈ state.store.users, user.tenant_id = tenantId →
        ∀ other, other ≠ tenantId → KeepsRows state user other := by
  refine ⟨fun state state' hagree user huser htenant => reads_same hagree huser htenant, ?_⟩
  intro state hseparate user _ htenant other hother
  rw [← htenant] at hother
  constructor
  · intro newUuid request
    exact { PlatformState.Agree.refl other state with
      store := createPermission_agrees hother request }
  · intro disturbed newUuid connectionId discovery
    exact { PlatformState.Agree.refl other state with
      store := cache_agrees hseparate hother disturbed connectionId discovery }
  · intro outcomes knowledgeBaseId documentId
    exact process_agrees outcomes user hother knowledgeBaseId documentId
  · intro services calls knowledgeBaseId upload
    have hupload := @upload_agrees other services (state.uploadState calls) user hother
      knowledgeBaseId upload
    exact hupload

/-! ## Two tenants -/

def ordersTable (id tenantId connectionId schemaId : Uuid) : DatabaseTable where
  id := id
  tenant_id := tenantId
  connection_id := connectionId
  schema_id := schemaId
  table_name := "orders"
  table_type := "table"
  description := none
  estimated_row_count := none
  primary_key_columns := []
  is_enabled := true
  is_sensitive := false
  table_metadata := []

def totalColumn (id tenantId tableId : Uuid) : DatabaseColumn where
  id := id
  tenant_id := tenantId
  table_id := tableId
  column_name := "total"
  data_type := "numeric"
  ordinal_position := some 1
  is_nullable := some true
  is_primary_key := false
  is_foreign_key := false
  is_sensitive := false
  referenced_schema := none
  referenced_table := none
  referenced_column := none
  description := none
  sample_values := []

def readOrders (id tenantId roleId connectionId tableId : Uuid) : TablePermission where
  id := id
  tenant_id := tenantId
  role_id := some roleId
  user_id := none
  connection_id := connectionId
  table_id := tableId
  can_read := true
  can_insert := false
  can_update := false
  can_delete := false
  row_filter := []

def readTotal (id permissionId columnId : Uuid) : ColumnPermission where
  id := id
  table_permission_id := permissionId
  column_id := columnId
  can_read := true
  can_filter := true
  can_aggregate := true
  mask_type := none

def acme : User := ⟨"ada", "acme", true⟩

def globex : User := ⟨"gil", "globex", true⟩

/-- The rows of one tenant. -/
def acmeTables : Tables where
  users := [acme]
  roles := [⟨"sales", "acme"⟩]
  user_roles := [⟨"ada", "sales"⟩]
  connections := [⟨"acme-db", "acme", "postgresql", "completed", none⟩]
  schemas := [⟨"acme-public", "acme", "acme-db", "public", none⟩]
  tables := [ordersTable "acme-orders" "acme" "acme-db" "acme-public"]
  columns := [totalColumn "acme-total" "acme" "acme-orders"]
  table_permissions := [readOrders "acme-read" "acme" "sales" "acme-db" "acme-orders"]
  column_permissions := [readTotal "acme-read-total" "acme-read" "acme-total"]
  generated := 0

/-- The rows of two tenants. -/
def sharedTables : Tables where
  users := globex :: acmeTables.users
  roles := ⟨"support", "globex"⟩ :: acmeTables.roles
  user_roles := ⟨"gil", "support"⟩ :: acmeTables.user_roles
  connections := ⟨"globex-db", "globex", "postgresql", "completed", none⟩ :: acmeTables.connections
  schemas := ⟨"globex-public", "globex", "globex-db", "public", none⟩ :: acmeTables.schemas
  tables := ordersTable "globex-orders" "globex" "globex-db" "globex-public" :: acmeTables.tables
  columns := totalColumn "globex-total" "globex" "globex-orders" :: acmeTables.columns
  table_permissions :=
    readOrders "globex-read" "globex" "support" "globex-db" "globex-orders" ::
      acmeTables.table_permissions
  column_permissions :=
    readTotal "globex-read-total" "globex-read" "globex-total" :: acmeTables.column_permissions
  generated := 0

def manuals (user : User) : KnowledgeBaseRow where
  toKnowledgeBase := { reportBase with
    id := user.tenant_id ++ "-manuals"
    tenant_id := user.tenant_id }
  is_active := true

def handbook (user : User) : DocumentRow where
  toDocument := { reportDocument with
    id := user.tenant_id ++ "-handbook"
    tenant_id := user.tenant_id
    knowledge_base_id := user.tenant_id ++ "-manuals"
    status := "completed" }
  uploaded_by := some user.id
  original_filename := "handbook.txt"
  content_type := some "text/plain"
  file_size_bytes := 11
  checksum_sha256 := "9d2fd3b5"
  document_metadata := []

def handbookChunk (user : User) : ChunkRow Nat where
  toDocumentChunk := { reportChunk with
    tenant_id := user.tenant_id
    knowledge_base_id := user.tenant_id ++ "-manuals"
    document_id := user.tenant_id ++ "-handbook"
    embedding := some [11, 11] }
  id := user.tenant_id ++ "-chunk"

/-- A conversation about the database and the manuals. -/
def questions (user : User) : Chat.Conversation where
  id := user.tenant_id ++ "-chat"
  tenant_id := user.tenant_id
  user_id := user.id
  connection_id := some (user.tenant_id ++ "-db")
  knowledge_base_id := some (user.tenant_id ++ "-manuals")
  mode := "hybrid"

def answer (user : User) : Chat.Stored Chat.Message where
  id := user.tenant_id ++ "-answer"
  created_at := 1
  fields :=
    { tenant_id := user.tenant_id
      conversation_id := user.tenant_id ++ "-chat"
      user_id := none
      role := "assistant"
      content := "Sales rose."
      status := "completed"
      token_count := none
      latency_ms := some 5
      message_metadata := [] }

/-- The statement that has been executed for the answer. -/
def answerExecution (user : User) : Chat.Stored Chat.QueryExecution where
  id := user.tenant_id ++ "-execution"
  created_at := 1
  fields :=
    { tenant_id := user.tenant_id
      user_id := some user.id
      conversation_id := some (user.tenant_id ++ "-chat")
      message_id := some (user.tenant_id ++ "-answer")
      connection_id := user.tenant_id ++ "-db"
      proposed_sql := "SELECT total FROM orders"
      secured_sql := some "SELECT total FROM orders LIMIT 100"
      status := "completed"
      error_code := none
      row_count := some 1
      result_size_bytes := some 11
      execution_time_ms := some 2
      applied_limit := some 100
      row_filters_applied := false
      referenced_tables := ["public.orders"]
      referenced_columns := ["public.orders.total"]
      execution_metadata := [] }

def executionCitation (user : User) : Chat.Stored Chat.MessageCitation where
  id := user.tenant_id ++ "-cited-execution"
  created_at := 1
  fields :=
    { tenant_id := user.tenant_id
      message_id := user.tenant_id ++ "-answer"
      citation_type := "database"
      document_id := none
      document_chunk_id := none
      query_execution_id := some (user.tenant_id ++ "-execution")
      source_name := "orders"
      excerpt := none
      page_number := none
      section_title := none
      similarity_score := none
      citation_metadata := [] }

def chunkCitation (user : User) : Chat.Stored Chat.MessageCitation where
  id := user.tenant_id ++ "-cited-chunk"
  created_at := 1
  fields :=
    { (executionCitation user).fields with
      citation_type := "document"
      document_id := some (user.tenant_id ++ "-handbook")
      document_chunk_id := some (user.tenant_id ++ "-chunk")
      query_execution_id := none
      source_name := "handbook.txt"
      excerpt := some "Sales rose." }

def answerAudit (user : User) : Audit.AuditLogRow where
  id := user.tenant_id ++ "-audit"
  created_at := 2
  fields :=
    { tenant_id := user.tenant_id
      user_id := some user.id
      action := "hybrid_chat.query"
      resource_type := "conversation"
      resource_id := some (user.tenant_id ++ "-chat")
      outcome := "success"
      audit_metadata := [] }
  request_id := none
  client_ip := none
  updated_at := 2

/-- These users have asked a question each. -/
def stateOf (t : Tables) (keys : Keys t) (references : References t) (users : List User)
    (base_ids : PrimaryKey (fun base => base.id) (users.map manuals))
    (document_ids : PrimaryKey (fun document => document.id) (users.map handbook))
    (storage_keys : UniqueKey (fun document => some (document.knowledge_base_id,
      document.storage_key)) (users.map handbook))
    (conversation_ids : PrimaryKey Chat.Conversation.id (users.map questions)) :
    PlatformState Nat where
  store := ⟨t, keys, references⟩
  bases := ⟨users.map manuals, base_ids⟩
  documents := ⟨users.map handbook, document_ids, storage_keys⟩
  chunks := users.map handbookChunk
  conversations := users.map questions
  conversation_ids := conversation_ids
  messages := users.map answer
  citations := users.map executionCitation ++ users.map chunkCitation
  query_executions := users.map answerExecution
  audit_logs := users.map answerAudit
  generated := 0

def acmeState : PlatformState Nat :=
  stateOf acmeTables (by decide +kernel) (by decide +kernel) [acme] (by decide +kernel)
    (by decide +kernel) (by decide +kernel) (by decide +kernel)

def sharedState : PlatformState Nat :=
  stateOf sharedTables (by decide +kernel) (by decide +kernel) [globex, acme] (by decide +kernel)
    (by decide +kernel) (by decide +kernel) (by decide +kernel)

theorem shared_agree : sharedState.Agree "acme" acmeState := by
  constructor
  case store => constructor <;> exact List.Perm.refl _
  all_goals exact List.Perm.refl _

theorem shared_separate : Separate sharedState.store.toTables := by
  constructor <;> (try unfold WithinTenant) <;> decide +kernel

/-- The rows of the other tenant make no difference to a user, and a user makes none to them. -/
theorem acme_apart :
    SameReads sharedState acmeState acme ∧ KeepsRows sharedState acme "globex" := by
  have hmem : acme ∈ sharedState.store.users := List.mem_cons_of_mem _ List.mem_cons_self
  obtain ⟨hreads, hwrites⟩ := tenants_apart (F := Nat) "acme"
  exact ⟨hreads _ _ shared_agree acme hmem rfl,
    hwrites _ shared_separate acme hmem rfl "globex" (by decide)⟩

end DataChat.Tenants
