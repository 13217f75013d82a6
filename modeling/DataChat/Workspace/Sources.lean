import DataChat.Workspace.Pipeline

/-!
# The sources of a conversation

`validate_conversation_sources` looks at the connection and the knowledge base of a conversation
once, when the conversation is created. The services of conversations rely on what it has seen,
while connections are removed and all other rows change.

* `handle_keepsTenants`: no request hands a connection to another tenant.
* `step_sourced`: the sources go on fitting the mode and the tenant of each conversation.
* `reaches_created`: they stay, but for a connection that is removed.
* `conversation_answerable`: what a question in a conversation is never refused for.
-/

namespace DataChat.Workspace

open Relational Platform Transactions Tenants Outcome

variable {F : Type} {newUuid : Nat → Uuid} {users : User → Prop} {state state' : State F}
  {user : User} {store store' : Store} {bases : KnowledgeBaseTable}

/-! ## Connections keep their tenants -/

/-- A connection that was there before belongs to the same tenant. -/
def KeepsTenants (store store' : Store) : Prop :=
  ∀ connection ∈ store.connections, ∀ connection' ∈ store'.connections,
    connection.id = connection'.id → connection.tenant_id = connection'.tenant_id

/-- Each connection has been there before, up to its status. -/
def StemsFrom (store store' : Store) : Prop :=
  ∀ connection' ∈ store'.connections, ∃ connection ∈ store.connections,
    connection.id = connection'.id ∧ connection.tenant_id = connection'.tenant_id

theorem StemsFrom.of_sub (h : ∀ connection ∈ store'.connections, connection ∈ store.connections) :
    StemsFrom store store' :=
  fun connection hconnection => ⟨connection, h connection hconnection, rfl, rfl⟩

theorem StemsFrom.saveSyncStatus {middle : Store} (h : StemsFrom store middle) (id : Uuid)
    (status : String) (synchronizedAt : Option Datetime) :
    StemsFrom store (middle.saveSyncStatus id status synchronizedAt) := by
  intro connection' hconnection'
  obtain ⟨connection, hconnection, hid, htenant⟩ := saveSyncStatus_mem hconnection'
  obtain ⟨original, horiginal, hsameId, hsameTenant⟩ := h connection hconnection
  exact ⟨original, horiginal, hsameId.trans hid, hsameTenant.trans htenant⟩

theorem StemsFrom.keepsTenants (h : StemsFrom store store') : KeepsTenants store store' := by
  intro connection hconnection connection' hconnection' hid
  obtain ⟨original, horiginal, hsameId, htenant⟩ := h connection' hconnection'
  have hsame := store.keys.connections.eq_of_key hconnection horiginal (hid.trans hsameId.symm)
  rw [hsame]
  exact htenant

theorem synchronize_stemsFrom (now : Datetime) (connectionId : Uuid)
    (source : Except SourceFailure SchemaDiscoveryResult) :
    StemsFrom store
      (synchronizeDatabaseSchema newUuid now store user connectionId source).1 := by
  have hsame : StemsFrom store store := .of_sub (fun _ h => h)
  refine synchronize_cases (P := StemsFrom store) now connectionId source hsame ?_ ?_
  · intro connection _ _ _
    have hprocessing := hsame.saveSyncStatus connection.id "processing" none
    exact ⟨hprocessing, hprocessing.saveSyncStatus _ _ _⟩
  · intro connection _ _ _ discovery caching hcaching
    have hprocessing := hsame.saveSyncStatus connection.id "processing" none
    have hcached : StemsFrom store caching.store := by
      unfold StemsFrom
      rw [cache_connections hcaching]
      exact hprocessing
    exact hcached.saveSyncStatus _ _ _

theorem handle_keepsTenants (request : AccessRequest) :
    KeepsTenants store (handle newUuid store user request) := by
  have hsame : StemsFrom store store := .of_sub (fun _ h => h)
  refine handle_cases (P := KeepsTenants store) request hsame.keepsTenants ?_ ?_ ?_ ?_ ?_
  · intro databaseType id store' _ htables connection hconnection connection' hconnection' hid
    have hkey := store'.keys.connections
    rw [htables] at hconnection' hkey
    rcases List.mem_append.mp hconnection' with hold | hnew
    · rw [store.keys.connections.eq_of_key hconnection hold hid]
    · -- the new connection has a new identifier
      refine absurd ?_ hkey.fresh
      rw [← List.mem_singleton.mp hnew, ← hid]
      exact List.mem_map_of_mem hconnection
  · intro connection _ _ _ _
    exact (hsame.saveSyncStatus connection.id "pending" none).keepsTenants
  · intro connection _ _ _ _
    exact (StemsFrom.of_sub (fun _ h => (List.mem_filter.mp h).1)).keepsTenants
  · intro now connectionId source _ _
    exact (synchronize_stemsFrom now connectionId source).keepsTenants
  · intro creation response store' _ hcreated _
    refine (StemsFrom.of_sub (fun connection hconnection => ?_)).keepsTenants
    rw [createTablePermission_tables (createPermission_ok hcreated).2.2] at hconnection
    exact hconnection

/-! ## Sources -/

/-- The sources of a conversation fit its mode and belong to its tenant. A connection that is
removed leaves its conversations without one; knowledge bases stay, and stay enabled. -/
structure Sourced (store : Store) (bases : KnowledgeBaseTable)
    (conversation : Chat.Conversation) : Prop where
  mode : (conversation.mode = "database" ∧ conversation.knowledge_base_id = none) ∨
    (conversation.mode = "document" ∧ conversation.connection_id = none ∧
      conversation.knowledge_base_id ≠ none) ∨
    (conversation.mode = "hybrid" ∧ conversation.knowledge_base_id ≠ none)
  connection : ∀ id ∈ conversation.connection_id, ∃ connection ∈ store.connections,
    connection.id = id ∧ connection.tenant_id = conversation.tenant_id
  base : ∀ id ∈ conversation.knowledge_base_id, ∃ base ∈ bases.rows,
    base.id = id ∧ base.tenant_id = conversation.tenant_id ∧ base.is_active = true

/-- The connections may change. -/
theorem Sourced.detach {conversation : Chat.Conversation} (h : Sourced store bases conversation)
    (hkept : KeepsTenants store store') :
    Sourced store' bases { conversation with
      connection_id := conversation.connection_id.filter
        (fun id => !isRemoved store store' id) } where
  mode := by
    rcases h.mode with hdatabase | ⟨hmode, hconnection, hbase⟩ | hhybrid
    · exact .inl hdatabase
    · exact .inr (.inl ⟨hmode, by rw [hconnection]; rfl, hbase⟩)
    · exact .inr (.inr hhybrid)
  connection := by
    intro id hid
    obtain ⟨hbefore, hstays⟩ := Option.filter_eq_some_iff.mp hid
    obtain ⟨connection, hconnection, hconnectionId, htenant⟩ := h.connection id hbefore
    have hafter : id ∈ store'.connections.map (fun connection => connection.id) := by
      by_contra hgone
      have hremoved : isRemoved store store' id = true :=
        decide_eq_true ⟨List.mem_map.mpr ⟨connection, hconnection, hconnectionId⟩, hgone⟩
      rw [hremoved] at hstays
      cases hstays
    obtain ⟨connection', hconnection', hsameId⟩ := List.mem_map.mp hafter
    refine ⟨connection', hconnection', hsameId, ?_⟩
    rw [← hkept connection hconnection connection' hconnection' (hconnectionId.trans hsameId.symm)]
    exact htenant
  base := h.base

theorem insertKnowledgeBase_rows {bases' : KnowledgeBaseTable} {base : KnowledgeBaseRow}
    (h : insertKnowledgeBase bases base = .ok bases') : bases'.rows = bases.rows ++ [base] := by
  unfold insertKnowledgeBase at h
  split at h
  · rw [← pure_ok_iff.mp h]
  · exact absurd h throw_ne_ok

theorem createKnowledgeBase_rows {settings : Documents.EmbeddingSettings} {id : Uuid}
    {request : KnowledgeBaseCreate} {bases' : KnowledgeBaseTable} {base : KnowledgeBaseRow}
    (h : createKnowledgeBase settings id bases user request = .ok (bases', base)) :
    bases'.rows = bases.rows ++ [base] := by
  obtain ⟨-, -, h⟩ := bind_ok_iff.mp h
  obtain ⟨-, -, h⟩ := bind_ok_iff.mp h
  obtain ⟨inserted, hinserted, h⟩ := bind_ok_iff.mp h
  obtain ⟨rfl, rfl⟩ := Prod.mk.inj (pure_ok_iff.mp h)
  exact insertKnowledgeBase_rows hinserted

theorem checkConnection_ok {id : Uuid} (h : checkConnection store user (some id) = .ok ()) :
    ∃ connection ∈ store.connections, connection.id = id ∧
      connection.tenant_id = user.tenant_id := by
  obtain ⟨connection, hconnection, -⟩ := bind_ok_iff.mp h
  exact ⟨connection, getDatabaseConnection_ok (mapError_ok_iff.mp hconnection)⟩

theorem checkKnowledgeBase_ok {id : Uuid} (h : checkKnowledgeBase bases user (some id) = .ok ()) :
    ∃ base ∈ bases.rows, base.id = id ∧ base.tenant_id = user.tenant_id ∧
      base.is_active = true := by
  obtain ⟨base, hbase, h⟩ := bind_ok_iff.mp h
  unfold getKnowledgeBase at hbase
  split at hbase
  · rename_i found hfound
    obtain rfl := pure_ok_iff.mp hbase
    have hmatch := List.find?_some hfound
    obtain ⟨hid, htenant⟩ := of_decide_eq_true hmatch
    refine ⟨_, List.mem_of_find?_eq_some hfound, hid, htenant, ?_⟩
    by_contra hdisabled
    rw [if_neg hdisabled] at h
    exact throw_ne_ok h
  · exact absurd hbase throw_ne_ok

theorem checkMode_ok {request : ConversationCreate} (h : checkMode request = .ok ()) :
    (request.mode = .database → request.knowledge_base_id = none) ∧
      (request.mode = .document → request.connection_id = none) := by
  obtain ⟨hdatabase, h⟩ := guard_ok_iff.mp h
  obtain ⟨hdocument, -⟩ := guard_ok_iff.mp h
  constructor
  · intro hmode
    by_contra hbase
    exact hdatabase ⟨hmode, Option.isSome_iff_ne_none.mpr hbase⟩
  · intro hmode
    by_contra hconnection
    exact hdocument ⟨hmode, Option.isSome_iff_ne_none.mpr hconnection⟩

theorem createConversation_rows {id : Uuid} {request : ConversationCreate}
    {conversations conversations' : ConversationTable} {conversation : ConversationRow}
    (h : createConversation id store bases conversations user request =
      .ok (conversations', conversation)) :
    conversations'.rows = conversations.rows ++ [conversation] ∧
      Sourced store bases conversation.toConversation := by
  obtain ⟨⟨⟩, hsources, h⟩ := bind_ok_iff.mp h
  obtain ⟨inserted, hinserted, h⟩ := bind_ok_iff.mp h
  obtain ⟨rfl, rfl⟩ := Prod.mk.inj (pure_ok_iff.mp h)
  obtain ⟨⟨⟩, hconnection, hsources⟩ := bind_ok_iff.mp hsources
  obtain ⟨⟨⟩, hbase, hmode⟩ := bind_ok_iff.mp hsources
  obtain ⟨hdatabase, hdocument⟩ := checkMode_ok hmode
  constructor
  · unfold insertConversation at hinserted
    split at hinserted
    · rw [← pure_ok_iff.mp hinserted]
    · exact absurd hinserted throw_ne_ok
  · constructor
    · cases hrequest : request.mode with
      | database =>
        exact .inl ⟨congrArg ConversationMode.value hrequest, hdatabase hrequest⟩
      | document =>
        have hneeds := request.needs_knowledge_base (by rw [hrequest]; decide)
        exact .inr (.inl ⟨congrArg ConversationMode.value hrequest, hdocument hrequest,
          Option.isSome_iff_ne_none.mp hneeds⟩)
      | hybrid =>
        have hneeds := request.needs_knowledge_base (by rw [hrequest]; decide)
        exact .inr (.inr ⟨congrArg ConversationMode.value hrequest,
          Option.isSome_iff_ne_none.mp hneeds⟩)
    · intro connectionId hid
      have hgiven : request.connection_id = some connectionId := hid
      rw [hgiven] at hconnection
      exact checkConnection_ok hconnection
    · intro knowledgeBaseId hid
      have hgiven : request.knowledge_base_id = some knowledgeBaseId := hid
      rw [hgiven] at hbase
      exact checkKnowledgeBase_ok hbase

theorem createConversation_created {id : Uuid} {request : ConversationCreate}
    {conversations conversations' : ConversationTable} {conversation : ConversationRow}
    (h : createConversation id store bases conversations user request =
      .ok (conversations', conversation)) : conversation = newConversation id user request := by
  obtain ⟨⟨⟩, -, h⟩ := bind_ok_iff.mp h
  obtain ⟨inserted, -, h⟩ := bind_ok_iff.mp h
  exact (Prod.mk.inj (pure_ok_iff.mp h)).2.symm

/-! ## Runs -/

def AllSourced (state : State F) : Prop :=
  ∀ row ∈ state.conversations.rows, Sourced state.store state.bases row.toConversation

/-- Every request keeps the sources of all conversations, and a new conversation has its own. -/
theorem step_sourced (h : AllSourced state) (hstep : Step newUuid user state state') :
    AllSourced state' := by
  cases hstep with
  | access request =>
    intro row hrow
    obtain ⟨before, hbefore, rfl⟩ := List.mem_map.mp hrow
    exact (h before hbefore).detach (handle_keepsTenants request)
  | createKnowledgeBase settings id request hcreated =>
    intro row hrow
    obtain ⟨hmode, hconnection, hbase⟩ := h row hrow
    refine ⟨hmode, hconnection, fun knowledgeBaseId hid => ?_⟩
    obtain ⟨base, hmem, hfits⟩ := hbase knowledgeBaseId hid
    refine ⟨base, ?_, hfits⟩
    rw [createKnowledgeBase_rows hcreated]
    exact List.mem_append_left _ hmem
  | createConversation id request hcreated =>
    obtain ⟨hrows, hsourced⟩ := createConversation_rows hcreated
    intro row hrow
    rw [show State.conversations _ = _ from rfl, hrows] at hrow
    rcases List.mem_append.mp hrow with hold | hnew
    · exact h row hold
    · rw [List.mem_singleton.mp hnew]
      exact hsourced
  | upload services event huser => exact h
  | process outcomes knowledgeBaseId documentId hsaved hreplaced => exact h
  | embed outcomes knowledgeBaseId documentId hsaved hupdated => exact h
  | chat around conversationId c hmay => exact h

theorem reaches_sourced {start : State F} (hstart : start.conversations.rows = [])
    (h : Reaches newUuid users start state) : AllSourced state := by
  refine h.invariant ?_ (fun _ _ _ _ hsourced hstep => step_sourced hsourced hstep)
  intro row hrow
  rw [hstart] at hrow
  cases hrow

/-! ## Where the sources come from -/

/-- On the way, a request removes the connection. -/
def RemovedBetween (newUuid : Nat → Uuid) (users : User → Prop) (start state : State F)
    (connectionId : Uuid) : Prop :=
  ∃ before user request,
    Reaches newUuid users start before ∧ users user ∧
    isRemoved before.store (handle newUuid before.store user request) connectionId = true ∧
    Reaches newUuid users (before.withStore (handle newUuid before.store user request)) state

/-- The conversation has the sources of the request, but for a connection that is removed. -/
structure KeepsSources (newUuid : Nat → Uuid) (users : User → Prop) (created state : State F)
    (request : ConversationCreate) (conversation : Chat.Conversation) : Prop where
  mode : conversation.mode = request.mode.value
  base : conversation.knowledge_base_id = request.knowledge_base_id
  connection : conversation.connection_id = request.connection_id ∨
    conversation.connection_id = none ∧
      ∃ id ∈ request.connection_id, RemovedBetween newUuid users created state id

/-- The conversation has been created by its user on the way, and keeps its sources since then. -/
def CreatedBetween (newUuid : Nat → Uuid) (users : User → Prop) (start state : State F)
    (conversation : Chat.Conversation) : Prop :=
  ∃ before user request conversations created,
    Reaches newUuid users start before ∧ users user ∧
    user.tenant_id = conversation.tenant_id ∧ user.id = conversation.user_id ∧
    createConversation conversation.id before.store before.bases before.conversations user request =
      .ok (conversations, created) ∧
    Reaches newUuid users { before with conversations := conversations } state ∧
    KeepsSources newUuid users { before with conversations := conversations } state request
      conversation

theorem RemovedBetween.tail {start : State F} {id : Uuid}
    (h : RemovedBetween newUuid users start state id) (huser : users user)
    (hstep : Step newUuid user state state') : RemovedBetween newUuid users start state' id := by
  obtain ⟨before, remover, request, hbefore, hremover, hremoved, hafter⟩ := h
  exact ⟨before, remover, request, hbefore, hremover, hremoved, hafter.tail ⟨user, huser, hstep⟩⟩

theorem KeepsSources.tail {created : State F} {request : ConversationCreate}
    {conversation : Chat.Conversation}
    (h : KeepsSources newUuid users created state request conversation) (huser : users user)
    (hstep : Step newUuid user state state') :
    KeepsSources newUuid users created state' request conversation where
  mode := h.mode
  base := h.base
  connection := by
    rcases h.connection with hsame | ⟨hnone, id, hid, hremoved⟩
    · exact .inl hsame
    · exact .inr ⟨hnone, id, hid, hremoved.tail huser hstep⟩

/-- `SET NULL` writes the references to what is removed, -/
theorem filter_removed {removed : Uuid → Bool} {id : Uuid} (h : removed id = true) :
    Option.filter (fun id => !removed id) (some id) = none := by
  rw [Option.filter_some, h]
  rfl

/-- and no others. -/
theorem filter_stays {removed : Uuid → Bool} {id : Uuid} (h : removed id = false) :
    Option.filter (fun id => !removed id) (some id) = some id := by
  rw [Option.filter_some, h]
  rfl

theorem filter_kept {reference : Option Uuid} {removed : Uuid → Bool}
    (h : ∀ id ∈ reference, removed id = false) :
    reference.filter (fun id => !removed id) = reference := by
  cases reference with
  | none => rfl
  | some id => exact filter_stays (h id rfl)

/-- A request that removes the connection leaves the conversation without one. -/
theorem KeepsSources.detach {created : State F} {request : ConversationCreate}
    {conversation : Chat.Conversation} {access : AccessRequest}
    (h : KeepsSources newUuid users created state request conversation) (huser : users user)
    (hcreated : Reaches newUuid users created state) :
    KeepsSources newUuid users created
      (state.withStore (handle newUuid state.store user access)) request
      { conversation with
        connection_id := conversation.connection_id.filter (fun id =>
          !isRemoved state.store (handle newUuid state.store user access) id) } where
  mode := h.mode
  base := h.base
  connection := by
    have htail := h.tail huser (Step.access access)
    rcases htail.connection with hsame | ⟨hnone, hremoved⟩
    · cases hrequest : request.connection_id with
      | none =>
        rw [hrequest] at hsame
        rw [hsame]
        exact .inl rfl
      | some id =>
        rw [hrequest] at hsame
        rw [hsame]
        cases hremoved : isRemoved state.store (handle newUuid state.store user access) id with
        | true =>
          exact .inr ⟨filter_removed hremoved, id, rfl, state, user, access, hcreated, huser,
            hremoved, .refl⟩
        | false =>
          exact .inl (filter_stays hremoved)
    · rw [hnone]
      exact .inr ⟨rfl, hremoved⟩

/-- A new conversation has the sources of its request. -/
theorem createConversation_keepsSources {id : Uuid} {request : ConversationCreate}
    {conversations : ConversationTable} {conversation : ConversationRow} {start : State F}
    (h : createConversation id state.store state.bases state.conversations user request =
      .ok (conversations, conversation)) (hbefore : Reaches newUuid users start state)
    (huser : users user) :
    CreatedBetween newUuid users start { state with conversations := conversations }
      conversation.toConversation := by
  have hcreated := createConversation_created h
  subst hcreated
  exact ⟨state, user, request, conversations, _, hbefore, huser, rfl, rfl, h, .refl,
    rfl, rfl, .inl rfl⟩

/-- Later requests. -/
theorem CreatedBetween.tail {start : State F} {conversation : Chat.Conversation}
    (h : CreatedBetween newUuid users start state conversation) (huser : users user)
    (hstep : Step newUuid user state state') :
    CreatedBetween newUuid users start state' conversation := by
  obtain ⟨before, creator, request, conversations, created, hbefore, hcreator, htenant, hid,
    hcreated, hafter, hsources⟩ := h
  exact ⟨before, creator, request, conversations, created, hbefore, hcreator, htenant, hid,
    hcreated, hafter.tail ⟨user, huser, hstep⟩, hsources.tail huser hstep⟩

theorem CreatedBetween.detach {start : State F} {conversation : Chat.Conversation}
    (h : CreatedBetween newUuid users start state conversation) (huser : users user)
    (access : AccessRequest) :
    CreatedBetween newUuid users start
      (state.withStore (handle newUuid state.store user access))
      { conversation with
        connection_id := conversation.connection_id.filter (fun id =>
          !isRemoved state.store (handle newUuid state.store user access) id) } := by
  obtain ⟨before, creator, request, conversations, created, hbefore, hcreator, htenant, hid,
    hcreated, hafter, hsources⟩ := h
  exact ⟨before, creator, request, conversations, created, hbefore, hcreator, htenant, hid,
    hcreated, hafter.tail ⟨user, huser, .access access⟩, hsources.detach huser hafter⟩

theorem reaches_created {start : State F} (hstart : start.conversations.rows = [])
    (h : Reaches newUuid users start state) :
    ∀ row ∈ state.conversations.rows,
      CreatedBetween newUuid users start state row.toConversation := by
  induction h with
  | refl =>
    intro row hrow
    rw [hstart] at hrow
    cases hrow
  | tail hbefore hstep ih =>
    obtain ⟨user, huser, hstep⟩ := hstep
    have hkept := fun row hrow => (ih row hrow).tail huser hstep
    cases hstep with
    | access request =>
      intro row hrow
      obtain ⟨old, hold, rfl⟩ := List.mem_map.mp hrow
      exact (ih old hold).detach huser request
    | createConversation id request hcreated =>
      intro row hrow
      rw [show State.conversations _ = _ from rfl, (createConversation_rows hcreated).1] at hrow
      rcases List.mem_append.mp hrow with hold | hnew
      · exact hkept row hold
      · rw [List.mem_singleton.mp hnew]
        exact createConversation_keepsSources hcreated hbefore huser
    | createKnowledgeBase settings id request hcreated => exact hkept
    | upload services event huser => exact hkept
    | process outcomes knowledgeBaseId documentId hsaved hreplaced => exact hkept
    | embed outcomes knowledgeBaseId documentId hsaved hupdated => exact hkept
    | chat around conversationId c hmay => exact hkept

/-! ## Questions -/

/-- The exceptions that say that a conversation or its knowledge base is not what the mode needs. -/
def BlamesSources : Chat.Raised → Prop
  | .conversationNotFoundError _ | .unsupportedConversationModeError _
  | .knowledgeBaseNotFoundError _ => True
  | .documentRetrievalError message => message = "The selected knowledge base is disabled."
  | _ => False

theorem findBase_ok {bases : Documents.KnowledgeBaseTable} {id : Uuid}
    (h : ∃ base ∈ bases.rows, base.id = id ∧ base.tenant_id = user.tenant_id ∧
      base.is_active = true) :
    ∃ base, Documents.findBase bases user id = .ok base ∧
      Documents.requireEnabled base = .ok () := by
  obtain ⟨base, hbase, hid, htenant, hactive⟩ := h
  have hfound := bases.ids.find?_eq_some hbase
    (p := fun other => other.id = id ∧ other.tenant_id = user.tenant_id)
    (decide_eq_true ⟨hid, htenant⟩)
    (fun other hother => (of_decide_eq_true hother).1.trans hid.symm)
  refine ⟨base, ?_, if_pos hactive⟩
  unfold Documents.findBase
  rw [hfound]
  rfl

/-- A search in an enabled knowledge base of the tenant may fail for other reasons only. -/
theorem retrieve_blames {services : Documents.RetrievalServices F}
    {platform : Tenants.PlatformState F} {knowledgeBaseId : Uuid} {query : String} {topK : Nat}
    {minimumSimilarity : PyFloat} {e : Chat.Raised}
    (hbase : ∃ base ∈ platform.bases.rows, base.id = knowledgeBaseId ∧
      base.tenant_id = user.tenant_id ∧ base.is_active = true)
    (h : Tenants.MayRetrieve services platform user knowledgeBaseId query topK minimumSimilarity
      (.error e)) : ¬ BlamesSources e := by
  obtain ⟨base, hfound, henabled⟩ := findBase_ok hbase
  obtain ⟨sorted, -, hraised⟩ := h
  rcases bind_error_iff.mp hraised.symm with hembed | ⟨queryEmbedding, -, hraised⟩
  · unfold Documents.embedQuery at hembed
    rw [show platform.retrievalTables.bases = platform.bases from rfl, hfound] at hembed
    rcases bind_error_iff.mp hembed with herror | ⟨_, hok, hembed⟩
    · cases herror
    obtain rfl := Except.ok.inj hok
    rcases bind_error_iff.mp hembed with herror | ⟨⟨⟩, -, hembed⟩
    · rw [henabled] at herror
      cases herror
    rcases bind_error_iff.mp hembed with herror | ⟨⟨⟩, -, hembed⟩
    · unfold Documents.requireQuery at herror
      split at herror
      · rw [← Except.error.inj herror]
        show "The search query cannot be empty." ≠ "The selected knowledge base is disabled."
        decide
      · cases herror
    rcases bind_error_iff.mp hembed with herror | ⟨embeddings, -, hembed⟩
    · obtain ⟨raised, rfl⟩ := mapError_error herror
      unfold Documents.embeddingRaised
      split
      · show "The search query could not be embedded." ≠
          "The selected knowledge base is disabled."
        decide
      · exact not_false
    · unfold Documents.firstEmbedding at hembed
      split at hembed
      · rw [← Except.error.inj hembed]
        show "The search query produced no embedding." ≠
          "The selected knowledge base is disabled."
        decide
      · cases hembed
  · rcases bind_error_iff.mp hraised with herror | ⟨⟨⟩, -, hraised⟩
    · unfold Documents.requireComparable at herror
      split at herror
      · rw [← Except.error.inj herror]
        exact not_false
      · cases herror
    · cases hraised

/-- Writing an exchange fails when the commit is refused. -/
theorem exchange_error {around : Chat.Surroundings} {userMessage assistant : Chat.Message}
    {citations : List Chat.MessageCitation} {session after : Session Chat.ChatStore}
    {e : Chat.Raised}
    (h : exec (Chat.createMessageExchange around userMessage assistant citations) session =
      (.error e, after)) : e = .sqlAlchemyError := by
  unfold Chat.createMessageExchange at h
  rw [exec_bind, Chat.exec_addMessage] at h
  dsimp only at h
  rw [exec_bind, Chat.exec_addMessage] at h
  dsimp only at h
  rw [exec_bind, Chat.exec_addCitations] at h
  dsimp only at h
  unfold Chat.commitOrRaise at h
  cases hrefused : around.commitsRefused with
  | true =>
    rw [hrefused] at h
    cases h
    rfl
  | false =>
    rw [hrefused] at h
    cases h

theorem document_blames {around : Chat.Surroundings} {conversationId : Uuid}
    {retrieval : Chat.Retrieval} {request : Chat.MessageCreate} {store : Chat.ChatStore}
    {conversation : Chat.Conversation} {knowledgeBaseId : Uuid} {e : Chat.Raised}
    (hpasses : Chat.Passes store user conversationId "document" conversation)
    (hbase : conversation.knowledge_base_id = some knowledgeBaseId)
    (h : (call (Chat.createDocumentMessage around retrieval user conversationId request)
      store).1 = .error e) : retrieval = .error e ∨ e = .sqlAlchemyError := by
  unfold call Chat.createDocumentMessage at h
  rw [Chat.exec_checked hpasses, Chat.exec_referenced hbase, exec_bind, Chat.exec_outside] at h
  cases retrieval with
  | error raised => exact .inl (congrArg Except.error (Except.error.inj h))
  | ok matched => exact .inr (exchange_error (Prod.ext h rfl))

/-- However many requests have come in between, the sources of a conversation fit its mode and
belong to the tenant of its user. They are those that its user has asked for, but for a connection
that has been removed since, and no question about documents is refused because of them. -/
theorem conversation_answerable (newUuid : Nat → Uuid) (users : User → Prop) (start state : State F)
    (hstart : start.conversations.rows = []) (hreaches : Reaches newUuid users start state)
    (user : User) (conversationId : Uuid) (conversation : Chat.Conversation)
    (hfound : Chat.getConversationById state.platform.chatStore user.tenant_id user.id
      conversationId = some conversation) :
    Sourced state.store state.bases conversation ∧
      CreatedBetween newUuid users start state conversation ∧
      (conversation.mode = "document" → ∀ around retrieval request,
        state.MayRetrieve user conversationId request.content retrieval → ∀ e,
          (call (Chat.createDocumentMessage around retrieval user conversationId request)
            state.platform.chatStore).1 = .error e → ¬ BlamesSources e) := by
  have hmem := List.mem_of_find?_eq_some hfound
  have hmatch := List.find?_some hfound
  obtain ⟨-, htenant, -⟩ := of_decide_eq_true hmatch
  obtain ⟨row, hrow, rfl⟩ := List.mem_map.mp hmem
  have hsourced := reaches_sourced hstart hreaches row hrow
  refine ⟨hsourced, reaches_created hstart hreaches row hrow, ?_⟩
  intro hmode around retrieval request hmay e herror
  have hbase : row.knowledge_base_id ≠ none := by
    rcases hsourced.mode with ⟨hother, -⟩ | ⟨-, -, hbase⟩ | ⟨-, hbase⟩
    · rw [hmode] at hother
      exact absurd hother (by decide)
    · exact hbase
    · exact hbase
  obtain ⟨knowledgeBaseId, hknowledgeBase⟩ := Option.ne_none_iff_exists'.mp hbase
  rcases document_blames ⟨hfound, hmode⟩ hknowledgeBase herror with rfl | rfl
  · obtain ⟨services, topK, minimumSimilarity, hretrieved⟩ :=
      hmay _ knowledgeBaseId hfound hknowledgeBase
    refine retrieve_blames ?_ hretrieved
    obtain ⟨base, hmemBase, hid, hbaseTenant, hactive⟩ := hsourced.base _ hknowledgeBase
    exact ⟨base.toKnowledgeBaseRow, List.mem_map_of_mem hmemBase, hid,
      hbaseTenant.trans htenant, hactive⟩
  · exact not_false

/-! ## A connection that is removed -/

def manualsRow (user : User) : KnowledgeBaseRow where
  toKnowledgeBaseRow := manuals user
  created_by := some user.id
  name := "Manuals"
  description := none
  settings_data := []

def questionsRow (user : User) : ConversationRow where
  toConversation := questions user
  title := "Sales"
  status := "active"
  conversation_metadata := []
  is_archived := false

/-- A user of each tenant has asked a question. -/
def sharedWorkspace : State Nat where
  store := sharedState.store
  bases := ⟨[manualsRow globex, manualsRow acme], by decide +kernel, by decide +kernel⟩
  documents := sharedState.documents
  chunks := sharedState.chunks
  uploads := []
  conversations := ⟨[questionsRow globex, questionsRow acme], by decide +kernel⟩
  messages := sharedState.messages
  citations := sharedState.citations
  query_executions := sharedState.query_executions
  audit_logs := sharedState.audit_logs
  generated := 0

def salesQuestions : ConversationCreate where
  title := "Sales"
  mode := .hybrid
  connection_id := some "acme-db"
  knowledge_base_id := some "acme-manuals"
  metadata := []
  title_length := by decide
  needs_connection := fun _ => rfl
  needs_knowledge_base := fun _ => rfl

def handbookQuestions (knowledgeBaseId : Uuid) : ConversationCreate where
  title := "Handbook"
  mode := .document
  connection_id := none
  knowledge_base_id := some knowledgeBaseId
  metadata := []
  title_length := by decide
  needs_connection := fun hmode => absurd rfl hmode
  needs_knowledge_base := fun _ => rfl

def handbookConversation (user : User) : ConversationRow :=
  newConversation (user.tenant_id ++ "-handbook-chat") user
    (handbookQuestions (user.tenant_id ++ "-manuals"))

/-- There are no conversations yet. -/
def silentWorkspace : State Nat :=
  { sharedWorkspace with conversations := ⟨[], List.nodup_nil⟩ }

def oneConversation : State Nat :=
  { silentWorkspace with conversations := ⟨[questionsRow acme], by decide +kernel⟩ }

def twoConversations : State Nat :=
  { silentWorkspace with
    conversations := ⟨[questionsRow acme, handbookConversation acme], by decide +kernel⟩ }

/-- The connection of one of them is removed. -/
def unconnectedWorkspace : State Nat :=
  twoConversations.withStore (handle Chat.letterUuid twoConversations.store acme
    (.removeConnection "acme-db"))

theorem unconnected_reached : Reaches Chat.letterUuid (fun user => user = acme) silentWorkspace
    unconnectedWorkspace := by
  have hfirst : createConversation "acme-chat" silentWorkspace.store silentWorkspace.bases
      silentWorkspace.conversations acme salesQuestions =
        .ok (oneConversation.conversations, questionsRow acme) := rfl
  have hsecond : createConversation "acme-handbook-chat" oneConversation.store
      oneConversation.bases oneConversation.conversations acme
        (handbookQuestions "acme-manuals") =
          .ok (twoConversations.conversations, handbookConversation acme) := rfl
  have hreached : Reaches Chat.letterUuid (fun user => user = acme) silentWorkspace
      oneConversation := .single ⟨acme, rfl, .createConversation "acme-chat" salesQuestions hfirst⟩
  have hcreated : Step Chat.letterUuid acme oneConversation twoConversations :=
    .createConversation "acme-handbook-chat" (handbookQuestions "acme-manuals") hsecond
  have hremoved : Step Chat.letterUuid acme twoConversations unconnectedWorkspace :=
    .access (.removeConnection "acme-db")
  exact (hreached.tail ⟨acme, rfl, hcreated⟩).tail ⟨acme, rfl, hremoved⟩

theorem manuals_answerable :
    (∃ conversation,
      Chat.getConversationById unconnectedWorkspace.platform.chatStore "acme" "ada" "acme-chat" =
        some conversation ∧
      conversation.connection_id = none ∧
      CreatedBetween Chat.letterUuid (fun user => user = acme) silentWorkspace
        unconnectedWorkspace conversation) ∧
    ∀ around retrieval request,
      unconnectedWorkspace.MayRetrieve acme "acme-handbook-chat" request.content retrieval →
        ∀ e, (call (Chat.createDocumentMessage around retrieval acme "acme-handbook-chat" request)
          unconnectedWorkspace.platform.chatStore).1 = .error e → ¬ BlamesSources e := by
  have hanswerable := conversation_answerable Chat.letterUuid (fun user => user = acme)
    silentWorkspace unconnectedWorkspace rfl unconnected_reached acme
  constructor
  · have hremoved : isRemoved twoConversations.store (handle Chat.letterUuid twoConversations.store
        acme (.removeConnection "acme-db")) "acme-db" = true := by
      decide +kernel
    obtain ⟨-, hcreated, -⟩ := hanswerable "acme-chat" _ rfl
    exact ⟨_, rfl, filter_removed hremoved, hcreated⟩
  · exact (hanswerable "acme-handbook-chat" (handbookConversation acme).toConversation rfl).2.2 rfl

end DataChat.Workspace
