import DataChat.Chat.Appending
import DataChat.Platform.Frames
import DataChat.Tenants.Schemas
import DataChat.Workspace.Isolation

/-!
# What a tenant reads while the others write

A request that removes a connection also writes the rows of conversations that refer to it, and one
that replaces the chunks of a document writes the citations of these chunks. They are rows of the
same tenant as long as no reference crosses tenants.

* `step_agrees`: a request of another tenant leaves all rows of the tenant alone.
* `others_read_same`: the users of the tenant read the same.
* `schema_unaffected`: requests about other connections leave the schemas of a connection as they
  are.
-/

namespace DataChat.Workspace

open Relational Platform Transactions Tenants Outcome

variable {F : Type} {newUuid : Nat → Uuid} {state state' state'' : State F} {user : User}
  {tenantId : Uuid} {store : Store}

/-! ## References -/

/-- The rows of the tenant refer to rows of the tenant, and these are there. -/
def RefersWithin {ρ σ : Type} (tenantId : Uuid) (owner : ρ → Uuid) (reference : ρ → Option Uuid)
    (rows : List ρ) (owner' : σ → Uuid) (key : σ → Uuid) (parents : List σ) : Prop :=
  ∀ row ∈ rows, owner row = tenantId → ∀ k ∈ reference row,
    ∃ parent ∈ parents, key parent = k ∧ owner' parent = tenantId

theorem RefersWithin.congr {ρ σ : Type} {owner : ρ → Uuid} {reference : ρ → Option Uuid}
    {rows rows' : List ρ} {owner' : σ → Uuid} {key : σ → Uuid} {parents parents' : List σ}
    (h : RefersWithin tenantId owner reference rows owner' key parents)
    (hrows : SameOf owner tenantId rows rows') (hparents : SameOf owner' tenantId parents parents') :
    RefersWithin tenantId owner reference rows' owner' key parents' := by
  intro row hrow howner k hk
  have hbefore := (SameRows.mem (SameRows.symm hrows) hrow (decide_eq_true howner)).1
  obtain ⟨parent, hparent, hkey, howner'⟩ := h row hbefore howner k hk
  exact ⟨parent, (SameRows.mem hparents hparent (decide_eq_true howner')).1, hkey, howner'⟩

/-- The references of the tenant's conversations that an `ON DELETE` may write, or that decide
whether a row is deleted. -/
structure KeepsToItself (tenantId : Uuid) (platform : PlatformState F) : Prop where
  conversations_connection : RefersWithin tenantId Chat.Conversation.tenant_id
    Chat.Conversation.connection_id platform.conversations DatabaseConnection.tenant_id
    DatabaseConnection.id platform.store.connections
  executions_connection : RefersWithin tenantId (fun row => row.fields.tenant_id)
    (fun row => some row.fields.connection_id) platform.query_executions
    DatabaseConnection.tenant_id DatabaseConnection.id platform.store.connections
  citations_execution : RefersWithin tenantId (fun row => row.fields.tenant_id)
    (fun row => row.fields.query_execution_id) platform.citations
    (fun row => row.fields.tenant_id) Chat.Stored.id platform.query_executions
  citations_chunk : RefersWithin tenantId (fun row => row.fields.tenant_id)
    (fun row => row.fields.document_chunk_id) platform.citations
    (fun chunk => chunk.tenant_id) (fun chunk => chunk.id) platform.chunks

theorem KeepsToItself.congr {platform platform' : PlatformState F}
    (h : KeepsToItself tenantId platform) (hagree : platform.Agree tenantId platform') :
    KeepsToItself tenantId platform' where
  conversations_connection :=
    h.conversations_connection.congr hagree.conversations hagree.store.connections
  executions_connection :=
    h.executions_connection.congr hagree.query_executions hagree.store.connections
  citations_execution := h.citations_execution.congr hagree.citations hagree.query_executions
  citations_chunk := h.citations_chunk.congr hagree.citations hagree.chunks

/-- What is still there has not been deleted. -/
theorem not_deleted {before after : List Uuid} {id : Uuid} (h : id ∈ after) :
    decide (id ∈ before ∧ id ∉ after) = false :=
  decide_eq_false (fun hdeleted => hdeleted.2 h)

/-! ## Single requests -/

theorem agree_trans {first second third : PlatformState F} (h : first.Agree tenantId second)
    (h' : second.Agree tenantId third) : first.Agree tenantId third where
  store := h.store.trans h'.store
  bases := List.Perm.trans h.bases h'.bases
  documents := List.Perm.trans h.documents h'.documents
  chunks := List.Perm.trans h.chunks h'.chunks
  conversations := List.Perm.trans h.conversations h'.conversations
  messages := List.Perm.trans h.messages h'.messages
  citations := List.Perm.trans h.citations h'.citations
  query_executions := List.Perm.trans h.query_executions h'.query_executions
  audit_logs := List.Perm.trans h.audit_logs h'.audit_logs

/-- The connections of the tenant stay, so that no `ON DELETE` reaches its rows. -/
theorem withStore_agrees (hown : KeepsToItself tenantId state.platform)
    (hstore : state.store.toTables.Agree tenantId store.toTables) :
    state.platform.Agree tenantId (state.withStore store).platform := by
  have hstays : ∀ connection ∈ state.store.connections, connection.tenant_id = tenantId →
      isRemoved state.store store connection.id = false := by
    intro connection hconnection htenant
    exact not_deleted (List.mem_map_of_mem
      (SameRows.mem hstore.connections hconnection (decide_eq_true htenant)).1)
  have hexecutions : ∀ row ∈ state.query_executions, row.fields.tenant_id = tenantId →
      (!isRemoved state.store store row.fields.connection_id) = true := by
    intro row hrow htenant
    obtain ⟨connection, hconnection, hid, howner⟩ :=
      hown.executions_connection row hrow htenant _ rfl
    rw [← hid, hstays connection hconnection howner]
    rfl
  refine { PlatformState.Agree.refl tenantId state.platform with
    store := hstore
    conversations := SameRows.of_eq ?_
    query_executions := SameRows.of_eq (filter_filter_of_agree rfl
      (fun row hrow htenant => hexecutions row hrow (of_decide_eq_true htenant)))
    citations := SameRows.of_eq (filter_map_of_not (fun _ _ => rfl) (fun row hrow htenant => ?_)) }
  · have hmap : (state.withStore store).platform.conversations =
        state.platform.conversations.map (fun row => { row with
          connection_id := row.connection_id.filter
            (fun id => !isRemoved state.store store id) }) := by
      show ((state.conversations.rows.map _).map _) = ((state.conversations.rows.map _).map _)
      rw [List.map_map, List.map_map]
      rfl
    rw [hmap]
    refine filter_map_of_not (fun _ _ => rfl) (fun row hrow htenant => ?_)
    have hkept : ∀ id ∈ row.connection_id, isRemoved state.store store id = false := by
      intro id hid
      obtain ⟨connection, hconnection, rfl, howner⟩ :=
        hown.conversations_connection row hrow (of_decide_eq_true htenant) id hid
      exact hstays connection hconnection howner
    rw [filter_kept hkept]
  · rw [filter_kept]
    intro id hid
    obtain ⟨execution, hexecution, rfl, howner⟩ :=
      hown.citations_execution row hrow (of_decide_eq_true htenant) id hid
    refine not_deleted (List.mem_map_of_mem (List.mem_filter.mpr ⟨hexecution, ?_⟩))
    exact hexecutions execution hexecution howner

/-- The chunks of the tenant stay, and so do the citations of them. -/
theorem withChunks_citations {chunks : List (Documents.ChunkRow F)}
    (hown : KeepsToItself tenantId state.platform)
    (hchunks : SameOf (fun chunk => chunk.tenant_id) tenantId state.chunks chunks) :
    SameOf (fun row => row.fields.tenant_id) tenantId state.citations
      (state.withChunks chunks).citations := by
  refine SameRows.of_eq (filter_map_of_not (fun _ _ => rfl) (fun row hrow htenant => ?_))
  rw [filter_kept]
  intro id hid
  obtain ⟨chunk, hchunk, rfl, howner⟩ :=
    hown.citations_chunk row hrow (of_decide_eq_true htenant) id hid
  exact not_deleted (List.mem_map_of_mem
    (SameRows.mem hchunks hchunk (decide_eq_true howner)).1)

theorem appended_agrees {α : Type} {owner : α → Uuid} {rows after : List α}
    (h : Chat.Appended owner user.tenant_id rows after) (hother : user.tenant_id ≠ tenantId) :
    SameOf owner tenantId rows after := by
  obtain ⟨added, rfl, hadded⟩ := h
  refine SameRows.of_eq (filter_append_of_not (fun row hrow => decide_eq_false ?_))
  rw [hadded row hrow]
  exact hother

/-- Questions of another tenant. -/
theorem withChat_agrees {chat : Chat.ChatStore}
    (h : Chat.Appends user.tenant_id state.platform.chatStore chat)
    (hother : user.tenant_id ≠ tenantId) :
    state.platform.Agree tenantId (state.withChat chat).platform := by
  refine { PlatformState.Agree.refl tenantId state.platform with
    messages := appended_agrees h.messages hother
    citations := appended_agrees h.citations hother
    query_executions := appended_agrees h.query_executions hother
    audit_logs := ?_ }
  obtain ⟨added, hafter, hadded⟩ := h.audit_logs
  refine SameRows.of_eq (filter_append_of_not (fun row hrow => decide_eq_false ?_))
  have hlength : (state.platform.chatStore.audit_logs).length = state.audit_logs.length :=
    List.length_map _
  rw [hafter, ← hlength, List.drop_left] at hrow
  obtain ⟨stored, hstored, rfl⟩ := List.mem_map.mp hrow
  have htenant : stored.fields.tenant_id = user.tenant_id := hadded stored hstored
  show stored.fields.tenant_id ≠ tenantId
  rw [htenant]
  exact hother

/-- A request of another tenant leaves all rows of the tenant alone. -/
theorem step_agrees (hseparate : Separate state.store.toTables)
    (hown : KeepsToItself tenantId state.platform) (hother : user.tenant_id ≠ tenantId)
    (hstep : Step newUuid user state state') : state.platform.Agree tenantId state'.platform := by
  have hsearched := step_keepsRows hstep hother
  have hbases : SameOf (fun base => base.tenant_id) tenantId state.platform.bases.rows
      state'.platform.bases.rows := by
    apply SameRows.map
    exact hsearched.bases
  cases hstep with
  | access request =>
    exact withStore_agrees hown (handle_agrees request hseparate (fun _ => hother))
  | createKnowledgeBase settings id request hcreated =>
    exact { PlatformState.Agree.refl tenantId state.platform with bases := hbases }
  | createConversation id request hcreated =>
    refine { PlatformState.Agree.refl tenantId state.platform with
      conversations := SameRows.of_eq ?_ }
    rename_i conversations conversation
    show ((conversations.rows.map _).filter _) = _
    rw [(createConversation_rows hcreated).1, List.map_append]
    refine filter_append_of_not (fun row hrow => decide_eq_false ?_)
    obtain ⟨created, hmem, rfl⟩ := List.mem_map.mp hrow
    rw [List.mem_singleton.mp hmem, createConversation_created hcreated]
    exact hother
  | upload services event huser =>
    exact { PlatformState.Agree.refl tenantId state.platform with
      documents := hsearched.documents }
  | process outcomes knowledgeBaseId documentId hsaved hreplaced =>
    exact { PlatformState.Agree.refl tenantId state.platform with
      documents := hsearched.documents
      chunks := hsearched.chunks
      citations := withChunks_citations hown hsearched.chunks }
  | embed outcomes knowledgeBaseId documentId hsaved hupdated =>
    exact { PlatformState.Agree.refl tenantId state.platform with
      documents := hsearched.documents
      chunks := hsearched.chunks }
  | chat around conversationId c hmay =>
    exact withChat_agrees (Chat.call_appends around user conversationId _ c) hother

/-! ## Runs -/

/-- A request of a user of another tenant, or a request about connections, metadata and permissions
of a user who is no administrator. -/
inductive OthersStep (newUuid : Nat → Uuid) (tenantId : Uuid) (state : State F) : State F → Prop
  | another {user : User} {state' : State F} (hother : user.tenant_id ≠ tenantId)
      (hstep : Step newUuid user state state') : OthersStep newUuid tenantId state state'
  | powerless (user : User) (hadmin : user.is_tenant_admin = false) (request : AccessRequest) :
      OthersStep newUuid tenantId state
        (state.withStore (handle newUuid state.store user request))

/-- The rows of connections, metadata and permissions fit together, and no foreign key of theirs
crosses tenants. -/
def WellOwned (state : State F) : Prop :=
  Consistent state.store.toTables ∧ Separate state.store.toTables

theorem handle_wellOwned (h : WellOwned state) (user : User) (request : AccessRequest) :
    WellOwned (state.withStore (handle newUuid state.store user request)) :=
  ⟨handle_consistent request h.1, handle_separate request h.1 h.2⟩

theorem step_wellOwned (h : WellOwned state) (hstep : Step newUuid user state state') :
    WellOwned state' := by
  cases hstep with
  | access request => exact handle_wellOwned h user request
  | createKnowledgeBase settings id request hcreated => exact h
  | createConversation id request hcreated => exact h
  | upload services event huser => exact h
  | process outcomes knowledgeBaseId documentId hsaved hreplaced => exact h
  | embed outcomes knowledgeBaseId documentId hsaved hupdated => exact h
  | chat around conversationId c hmay => exact h

theorem othersStep_agrees (h : WellOwned state) (hown : KeepsToItself tenantId state.platform)
    (hstep : OthersStep newUuid tenantId state state') :
    WellOwned state' ∧ state.platform.Agree tenantId state'.platform := by
  cases hstep with
  | another hother hstep => exact ⟨step_wellOwned h hstep, step_agrees h.2 hown hother hstep⟩
  | powerless user hadmin request =>
    refine ⟨handle_wellOwned h user request, withStore_agrees hown ?_⟩
    refine handle_agrees request h.2 (fun hisAdmin => ?_)
    rw [hadmin] at hisAdmin
    cases hisAdmin

theorem shared_consistent : Consistent sharedWorkspace.store.toTables := by
  constructor <;> (try unfold ColumnsOfTable) <;> decide +kernel

theorem shared_keepsToItself : KeepsToItself "acme" sharedWorkspace.platform := by
  constructor <;> unfold RefersWithin <;> decide +kernel

/-- The other tenant begins a conversation about its handbook, -/
def begunWorkspace : State Nat :=
  { sharedWorkspace with
    conversations := ⟨[questionsRow globex, questionsRow acme, handbookConversation globex],
      by decide +kernel⟩ }

theorem begun_created : createConversation "globex-handbook-chat" sharedWorkspace.store
    sharedWorkspace.bases sharedWorkspace.conversations globex
      (handbookQuestions "globex-manuals") =
        .ok (begunWorkspace.conversations, handbookConversation globex) := by
  rfl

/-- All vectors are at the distance zero. -/
def nearServices : Documents.RetrievalServices Nat :=
  { letterServices with
    vectors := ⟨Nat, inferInstance, fun _ _ => some (.finite "0.0"), fun _ => 0⟩ }

def handbookFound : List (Documents.SearchRow Nat) :=
  [⟨handbookChunk globex, handbook globex, .finite "0.0"⟩]

/-- asks a question in it, -/
def handbookCall : Chat.ChatCall :=
  .document (Documents.retrieveRelevantChunks nearServices begunWorkspace.platform.retrievalTables
    globex "globex-manuals" (strip Chat.manualsRequest.content) 5 (.finite "0.5") handbookFound)
    Chat.manualsRequest

def answeredWorkspace : State Nat :=
  begunWorkspace.withChat (handbookCall.result Chat.manualsSurroundings globex
    "globex-handbook-chat" begunWorkspace.platform.chatStore).2

theorem handbook_mayCall :
    begunWorkspace.MayCall globex "globex-handbook-chat" handbookCall := by
  intro conversation knowledgeBaseId hconversation hbase
  cases hconversation
  cases hbase
  refine ⟨nearServices, 5, .finite "0.5", handbookFound, fun queryEmbedding _ => ?_, rfl⟩
  exact ⟨List.Perm.refl _, List.pairwise_singleton _ _⟩

/-- and removes its connection. -/
def removedWorkspace : State Nat :=
  answeredWorkspace.withStore (handle Chat.letterUuid answeredWorkspace.store globex
    (.removeConnection "globex-db"))

theorem others_reached : Relation.ReflTransGen (OthersStep Chat.letterUuid "acme") sharedWorkspace
    removedWorkspace := by
  have hother : globex.tenant_id ≠ "acme" := by decide
  have hbegun : OthersStep Chat.letterUuid "acme" sharedWorkspace begunWorkspace :=
    .another hother (.createConversation "globex-handbook-chat"
      (handbookQuestions "globex-manuals") begun_created)
  have hanswered : OthersStep Chat.letterUuid "acme" begunWorkspace answeredWorkspace :=
    .another hother (.chat Chat.manualsSurroundings "globex-handbook-chat" handbookCall
      handbook_mayCall)
  have hremoved : OthersStep Chat.letterUuid "acme" answeredWorkspace removedWorkspace :=
    .another hother (.access (.removeConnection "globex-db"))
  exact ((Relation.ReflTransGen.single hbegun).tail hanswered).tail hremoved

/-- The state after a request about connections, metadata or permissions. -/
def State.serve (newUuid : Nat → Uuid) (state : State F) (request : User × AccessRequest) :
    State F :=
  state.withStore (handle newUuid state.store request.1 request.2)

/-- Whoever asks for it, the filtered schema of a connection is the same after requests about other
connections. -/
theorem schema_unaffected (newUuid : Nat → Uuid) (state : State F)
    (hconsistent : Consistent state.store.toTables) {connectionId : Uuid}
    (hexists : connectionId ∈ state.store.connections.map DatabaseConnection.id)
    (requests : List (User × AccessRequest))
    (hother : ∀ request ∈ requests, request.2.connection ≠ some connectionId) :
    Runs.Throughout (State.serve newUuid)
      (fun state' => ∀ collation user result,
        MayBuild collation state.platform user connectionId result ↔
          MayBuild collation state'.platform user connectionId result)
      state requests := by
  have hrun : Runs.Throughout (State.serve newUuid)
      (fun state' => Consistent state'.store.toTables ∧
        SameConnection connectionId state.store.toTables state'.store.toTables) state
      requests := by
    apply Runs.throughout_of_events
    · rintro state' request hrequest ⟨hconsistent', hsame⟩
      have hexists' : connectionId ∈ state'.store.connections.map DatabaseConnection.id :=
        hsame.exists hexists
      refine ⟨handle_consistent request.2 hconsistent', hsame.trans ?_⟩
      exact handle_sameConnection request.2 hconsistent' hexists' (hother request hrequest)
    · exact ⟨hconsistent, SameConnection.refl _ _⟩
  refine hrun.imp (fun state' h collation user result => ?_)
  have hsame : SameConnection connectionId state.platform.store.toTables
      state'.platform.store.toTables := h.2
  exact ⟨schema_sameConnection hsame hconsistent h.1,
    schema_sameConnection hsame.symm h.1 hconsistent⟩

/-- Two administrators work on other connections. -/
theorem acme_schema_unaffected :
    Runs.Throughout (State.serve Chat.letterUuid)
      (fun state' => ∀ collation user result,
        MayBuild collation sharedWorkspace.platform user "acme-db" result ↔
          MayBuild collation state'.platform user "acme-db" result)
      sharedWorkspace
      [(acme, .createConnection "mysql"), (globex, .removeConnection "globex-db")] :=
  schema_unaffected Chat.letterUuid sharedWorkspace shared_consistent (by decide)
    [(acme, .createConnection "mysql"), (globex, .removeConnection "globex-db")] (by decide)

end DataChat.Workspace
