import DataChat.Chat.Services

/-!
# What an exchange writes

The rows of an exchange are numbered in the order in which they are inserted, and all of them are
created at the time at which the transaction has begun.
-/

namespace DataChat.Chat

open Platform Transactions

/-! ## Single rows -/

@[simp]
theorem exec_fillIn {α : Type} (around : Surroundings) (now : Datetime) (fields : α)
    (session : Session ChatStore) :
    exec (fillIn around now fields) session =
      (.ok ⟨around.newUuid session.current.generated, now, fields⟩,
        { session with
          current := { session.current with generated := session.current.generated + 1 } }) := by
  rfl

theorem exec_addMessage (around : Surroundings) (message : Message)
    (session : Session ChatStore) :
    exec (addMessage around message) session =
      let row := ⟨around.newUuid session.current.generated, around.now, message⟩
      (.ok row,
        { session with
          current := { session.current with
            messages := session.current.messages ++ [row]
            generated := session.current.generated + 1 } }) := by
  rfl

theorem exec_addCitation (around : Surroundings) (citation : MessageCitation)
    (session : Session ChatStore) :
    exec (addCitation around citation) session =
      let row := ⟨around.newUuid session.current.generated, around.now, citation⟩
      (.ok row,
        { session with
          current := { session.current with
            citations := session.current.citations ++ [row]
            generated := session.current.generated + 1 } }) := by
  rfl

theorem exec_addQueryExecution (around : Surroundings) (queryExecution : QueryExecution)
    (session : Session ChatStore) :
    exec (addQueryExecution around queryExecution) session =
      let row := ⟨around.newUuid session.current.generated, around.now, queryExecution⟩
      (.ok row,
        { session with
          current := { session.current with
            query_executions := session.current.query_executions ++ [row]
            generated := session.current.generated + 1 } }) := by
  rfl

theorem exec_commitOrRaise {around : Surroundings} (haccepts : around.commitsRefused = false)
    (session : Session ChatStore) :
    exec (commitOrRaise around) session =
      (.ok (), { session with committed := session.current }) := by
  unfold commitOrRaise
  rw [haccepts]
  rfl

/-! ## Citations -/

/-- The rows of citations, when so many identifiers have been generated before. -/
def citationRows (around : Surroundings) : Nat → List MessageCitation →
    List (Stored MessageCitation)
  | _, [] => []
  | generated, citation :: citations =>
    ⟨around.newUuid generated, around.now, citation⟩ ::
      citationRows around (generated + 1) citations

theorem citationRows_fields (around : Surroundings) (generated : Nat)
    (citations : List MessageCitation) :
    (citationRows around generated citations).map Stored.fields = citations := by
  induction citations generalizing generated with
  | nil => rfl
  | cons citation citations ih =>
    show citation :: _ = _
    rw [ih]

theorem exec_addCitations (around : Surroundings) (edit : MessageCitation → MessageCitation)
    (citations : List MessageCitation) (session : Session ChatStore) :
    exec (citations.mapM (fun citation => addCitation around (edit citation))) session =
      (.ok (citationRows around session.current.generated (citations.map edit)),
        { session with
          current := { session.current with
            citations := session.current.citations ++
              citationRows around session.current.generated (citations.map edit)
            generated := session.current.generated + citations.length } }) := by
  induction citations generalizing session with
  | nil =>
    rw [List.mapM_nil, exec_pure]
    simp [citationRows]
  | cons citation citations ih =>
    rw [List.mapM_cons, exec_bind, exec_addCitation]
    dsimp only
    rw [exec_bind, ih]
    simp [citationRows, Nat.add_comm, Nat.add_left_comm]

/-! ## Exchanges -/

def userRow (around : Surroundings) (store : ChatStore) (message : Message) : Stored Message :=
  ⟨around.newUuid store.generated, around.now, message⟩

def assistantRow (around : Surroundings) (store : ChatStore) (message : Message) :
    Stored Message :=
  ⟨around.newUuid (store.generated + 1), around.now, message⟩

def executionRow (around : Surroundings) (store : ChatStore) (assistant : Stored Message)
    (queryExecution : QueryExecution) : Stored QueryExecution :=
  ⟨around.newUuid (store.generated + 2), around.now,
    { queryExecution with message_id := some assistant.id }⟩

/-- Messages, the execution if there is one, and citations are inserted. -/
def ChatStore.withExchange (store : ChatStore) (user assistant : Stored Message)
    (executions : List (Stored QueryExecution)) (citations : List (Stored MessageCitation)) :
    ChatStore :=
  { store with
    messages := store.messages ++ [user, assistant]
    query_executions := store.query_executions ++ executions
    citations := store.citations ++ citations
    generated := store.generated + 2 + executions.length + citations.length }

@[simp]
theorem length_citationRows (around : Surroundings) (generated : Nat)
    (citations : List MessageCitation) :
    (citationRows around generated citations).length = citations.length := by
  have hfields := congrArg List.length (citationRows_fields around generated citations)
  rwa [List.length_map] at hfields

theorem exec_createMessageExchange {around : Surroundings}
    (haccepts : around.commitsRefused = false) (user assistant : Message)
    (citations : List MessageCitation) (store : ChatStore) :
    exec (createMessageExchange around user assistant citations) ⟨store, store⟩ =
      let userSaved := userRow around store user
      let assistantSaved := assistantRow around store assistant
      let saved := citationRows around (store.generated + 2)
        (citations.map (fun citation => { citation with message_id := assistantSaved.id }))
      (.ok ⟨⟨userSaved, []⟩, ⟨assistantSaved, saved⟩⟩,
        ⟨store.withExchange userSaved assistantSaved [] saved,
          store.withExchange userSaved assistantSaved [] saved⟩) := by
  unfold createMessageExchange
  rw [exec_bind, exec_addMessage]
  dsimp only
  rw [exec_bind, exec_addMessage]
  dsimp only
  rw [exec_bind, exec_addCitations]
  dsimp only
  rw [exec_bind, exec_commitOrRaise haccepts]
  dsimp only
  rw [exec_pure]
  simp [ChatStore.withExchange, userRow, assistantRow]

theorem exec_createDatabaseMessageExchange {around : Surroundings}
    (haccepts : around.commitsRefused = false) (user assistant : Message)
    (queryExecution : QueryExecution) (citation : MessageCitation) (store : ChatStore) :
    exec (createDatabaseMessageExchange around user assistant queryExecution citation)
        ⟨store, store⟩ =
      let userSaved := userRow around store user
      let assistantSaved := assistantRow around store assistant
      let execution := executionRow around store assistantSaved queryExecution
      let saved := citationRows around (store.generated + 3)
        [{ citation with
          message_id := assistantSaved.id
          query_execution_id := some execution.id }]
      (.ok (⟨⟨userSaved, []⟩, ⟨assistantSaved, saved⟩⟩, execution),
        ⟨store.withExchange userSaved assistantSaved [execution] saved,
          store.withExchange userSaved assistantSaved [execution] saved⟩) := by
  unfold createDatabaseMessageExchange
  rw [exec_bind, exec_addMessage]
  dsimp only
  rw [exec_bind, exec_addMessage]
  dsimp only
  rw [exec_bind, exec_addQueryExecution]
  dsimp only
  rw [exec_bind, exec_addCitation]
  dsimp only
  rw [exec_bind, exec_commitOrRaise haccepts]
  dsimp only
  rw [exec_pure]
  simp [ChatStore.withExchange, userRow, assistantRow, executionRow, citationRows]

theorem exec_createHybridMessageExchange {around : Surroundings}
    (haccepts : around.commitsRefused = false) (user assistant : Message)
    (queryExecution : QueryExecution) (citations : List MessageCitation) (store : ChatStore) :
    exec (createHybridMessageExchange around user assistant queryExecution citations)
        ⟨store, store⟩ =
      let userSaved := userRow around store user
      let assistantSaved := assistantRow around store assistant
      let execution := executionRow around store assistantSaved queryExecution
      let saved := citationRows around (store.generated + 3)
        (citations.map (fun citation =>
          { citation with
            message_id := assistantSaved.id
            query_execution_id :=
              if citation.citation_type = "database" then some execution.id
              else citation.query_execution_id }))
      (.ok (⟨⟨userSaved, []⟩, ⟨assistantSaved, saved⟩⟩, execution),
        ⟨store.withExchange userSaved assistantSaved [execution] saved,
          store.withExchange userSaved assistantSaved [execution] saved⟩) := by
  unfold createHybridMessageExchange
  rw [exec_bind, exec_addMessage]
  dsimp only
  rw [exec_bind, exec_addMessage]
  dsimp only
  rw [exec_bind, exec_addQueryExecution]
  dsimp only
  rw [exec_bind, exec_addCitations]
  dsimp only
  rw [exec_bind, exec_commitOrRaise haccepts]
  dsimp only
  rw [exec_pure]
  simp [ChatStore.withExchange, userRow, assistantRow, executionRow]

/-- What an exchange in a conversation writes of messages and citations. -/
structure Exchanged (around : Surroundings) (currentUser : User) (conversation : Conversation)
    (before after : ChatStore) (exchange : MessageExchange) : Prop where
  conversations : after.conversations = before.conversations
  messages : after.messages = before.messages ++
    [exchange.user_message.message, exchange.assistant_message.message]
  citations : after.citations = before.citations ++ exchange.assistant_message.citations
  user : ∃ message, exchange.user_message.message = userRow around before message ∧
    message.conversation_id = conversation.id ∧ message.tenant_id = currentUser.tenant_id
  assistant : ∃ message, exchange.assistant_message.message = assistantRow around before message ∧
    message.conversation_id = conversation.id ∧ message.tenant_id = currentUser.tenant_id
  cited : ∀ citation ∈ exchange.assistant_message.citations,
    citation.created_at = around.now ∧
      citation.fields.message_id = exchange.assistant_message.message.id ∧
      citation.fields.tenant_id = currentUser.tenant_id
  generated : before.generated + 2 ≤ after.generated

theorem mem_citationRows {around : Surroundings} {generated : Nat}
    {citations : List MessageCitation} {row : Stored MessageCitation}
    (h : row ∈ citationRows around generated citations) :
    row.created_at = around.now ∧ row.fields ∈ citations := by
  induction citations generalizing generated with
  | nil => cases h
  | cons citation citations ih =>
    rcases List.mem_cons.mp h with rfl | h
    · exact ⟨rfl, List.mem_cons_self⟩
    · exact ⟨(ih h).1, List.mem_cons_of_mem _ (ih h).2⟩

theorem exchanged_withExchange {around : Surroundings} {currentUser : User}
    {conversation : Conversation} {store : ChatStore} {user assistant : Message}
    {executions : List (Stored QueryExecution)} {citations : List MessageCitation}
    {generated : Nat} (huser : user.conversation_id = conversation.id)
    (huserTenant : user.tenant_id = currentUser.tenant_id)
    (hassistant : assistant.conversation_id = conversation.id)
    (hassistantTenant : assistant.tenant_id = currentUser.tenant_id)
    (hcitations : ∀ citation ∈ citations,
      citation.message_id = (assistantRow around store assistant).id ∧
        citation.tenant_id = currentUser.tenant_id) :
    Exchanged around currentUser conversation store
      (store.withExchange (userRow around store user) (assistantRow around store assistant)
        executions (citationRows around generated citations))
      ⟨⟨userRow around store user, []⟩,
        ⟨assistantRow around store assistant, citationRows around generated citations⟩⟩ where
  conversations := rfl
  messages := rfl
  citations := rfl
  user := ⟨user, rfl, huser, huserTenant⟩
  assistant := ⟨assistant, rfl, hassistant, hassistantTenant⟩
  cited := by
    intro row hrow
    obtain ⟨hcreated, hfields⟩ := mem_citationRows hrow
    exact ⟨hcreated, hcitations row.fields hfields⟩
  generated := by
    dsimp only [ChatStore.withExchange]
    omega

/-- An audit event that is recorded afterwards changes nothing of that. -/
theorem Exchanged.audited {around : Surroundings} {currentUser : User}
    {conversation : Conversation} {before after : ChatStore} {exchange : MessageExchange}
    (h : Exchanged around currentUser conversation before after exchange)
    (auditLogs : List (Stored AuditLog)) :
    Exchanged around currentUser conversation before
      { after with audit_logs := auditLogs, generated := after.generated + 1 } exchange where
  conversations := h.conversations
  messages := h.messages
  citations := h.citations
  user := h.user
  assistant := h.assistant
  cited := h.cited
  generated := Nat.le_succ_of_le h.generated

/-! ## Audit events -/

theorem exec_recordAuditEvent (py : Casing) {around : Surroundings}
    (haccepts : around.commitsRefused = false) (auditLog : AuditLog) (store : ChatStore) :
    exec (recordAuditEvent py around auditLog) ⟨store, store⟩ =
      let row : Stored AuditLog := ⟨around.newUuid store.generated, around.afterCommit,
        { auditLog with
          audit_metadata := Audit.sanitizeAuditMetadata py auditLog.audit_metadata }⟩
      let after : ChatStore := { store with
        audit_logs := store.audit_logs ++ [row]
        generated := store.generated + 1 }
      (.ok row, ⟨after, after⟩) := by
  unfold recordAuditEvent
  rw [exec_bind, exec_fillIn]
  dsimp only
  rw [exec_bind, exec_write]
  dsimp only
  rw [exec_bind, exec_commitOrRaise haccepts]
  rfl

/-! ## Failed queries -/

theorem exec_saveFailedExecution {around : Surroundings}
    (haccepts : around.commitsRefused = false) (queryExecution : QueryExecution)
    (status errorCode : String) (store : ChatStore) :
    exec (saveFailedExecution around queryExecution status errorCode) ⟨store, store⟩ =
      let row : Stored QueryExecution := ⟨around.newUuid store.generated, around.now,
        { queryExecution with status := status, error_code := some errorCode }⟩
      let after : ChatStore := { store with
        query_executions := store.query_executions ++ [row]
        generated := store.generated + 1 }
      (.ok (), ⟨after, after⟩) := by
  unfold saveFailedExecution
  rw [exec_bind, exec_addQueryExecution]
  dsimp only
  rw [exec_commitOrRaise haccepts]

end DataChat.Chat
