import DataChat.Chat.Exchanges
import DataChat.Connection.Histories
import DataChat.Executor.Masking

/-!
# The execution history

Each call of `create_database_message` and of `create_hybrid_message` that passes the checks of
the conversation should leave one `QueryExecution` row that tells what became of the SQL, and an
audit event when it returns.

The row is written by the handlers of four exceptions and by the exchange at the end. What happens
in between is not recorded: other exceptions of `run_secure_query` and a failed retrieval. The
audit event of a database conversation stands after a `raise`.

* `exec_createDatabaseMessage`, `exec_createHybridMessage`: what a call does, step by step.
* `historyComplete_iff`: when the history is complete.
* `emails_history_incomplete`: three calls that leave it incomplete.
-/

namespace DataChat.Chat

open Platform Transactions Connection Outcome

/-! ## The answer can be written -/

mutual

/-- A value with a JSON text also has an indented one. -/
theorem jsonIndented_isSome : ∀ (value : PyValue) (level : Nat),
    (jsonDumps value).isSome = true → (jsonIndented level value).isSome = true
  | .none, _, h | .bool _, _, h | .int _, _, h | .float _, _, h | .str _, _, h
  | .bytes _, _, h | .uuid _, _, h | .datetime _, _, h | .date _, _, h | .decimal _, _, h
  | .other _, _, h => h
  | .tuple items, level, h | .list items, level, h => by
    have hitems : (jsonItems items).isSome = true := by
      cases hitems : jsonItems items with
      | none => simp [jsonDumps, hitems] at h
      | some texts => rfl
    obtain ⟨texts, htexts⟩ :=
      Option.isSome_iff_exists.mp (jsonIndentedItems_isSome items (level + 1) hitems)
    simp only [jsonIndented, htexts, Option.bind_eq_bind, Option.bind_some]
    split <;> rfl
  | .dict items, level, h => by
    have hitems : (jsonFields items).isSome = true := by
      cases hitems : jsonFields items with
      | none => simp [jsonDumps, hitems] at h
      | some texts => rfl
    obtain ⟨texts, htexts⟩ :=
      Option.isSome_iff_exists.mp (jsonIndentedFields_isSome items (level + 1) hitems)
    simp only [jsonIndented, htexts, Option.bind_eq_bind, Option.bind_some]
    split <;> rfl

theorem jsonIndentedItems_isSome : ∀ (items : List PyValue) (level : Nat),
    (jsonItems items).isSome = true → (jsonIndentedItems level items).isSome = true
  | [], _, _ => rfl
  | item :: items, level, h => by
    cases hitem : jsonDumps item with
    | none => simp [jsonItems, hitem] at h
    | some text =>
      cases hitems : jsonItems items with
      | none => simp [jsonItems, hitem, hitems] at h
      | some texts =>
        obtain ⟨text', htext⟩ := Option.isSome_iff_exists.mp
          (jsonIndented_isSome item level (by rw [hitem]; rfl))
        obtain ⟨texts', htexts⟩ := Option.isSome_iff_exists.mp
          (jsonIndentedItems_isSome items level (by rw [hitems]; rfl))
        simp [jsonIndentedItems, htext, htexts]

theorem jsonIndentedFields_isSome : ∀ (items : List (PyValue × PyValue)) (level : Nat),
    (jsonFields items).isSome = true → (jsonIndentedFields level items).isSome = true
  | [], _, _ => rfl
  | (key, value) :: items, level, h => by
    cases hkey : jsonKey key with
    | none => simp [jsonFields, hkey] at h
    | some keyText =>
      cases hvalue : jsonDumps value with
      | none => simp [jsonFields, hkey, hvalue] at h
      | some text =>
        cases hitems : jsonFields items with
        | none => simp [jsonFields, hkey, hvalue, hitems] at h
        | some texts =>
          obtain ⟨text', htext⟩ := Option.isSome_iff_exists.mp
            (jsonIndented_isSome value level (by rw [hvalue]; rfl))
          obtain ⟨texts', htexts⟩ := Option.isSome_iff_exists.mp
            (jsonIndentedFields_isSome items level (by rw [hitems]; rfl))
          simp [jsonIndentedFields, hkey, htext, htexts]

end

/-- The rows of a result have a text. -/
theorem rowsText_ok {rt : PyRuntime} {schema : AllowedSchema}
    {timeoutSeconds maximumResultBytes elapsedMs : Int}
    {fetched : Except Executor.FetchError (List Executor.Record)}
    {result : Executor.QueryExecutionResult}
    (h : Executor.executePostgresqlQuery rt schema timeoutSeconds maximumResultBytes fetched
      elapsedMs = .ok result) : ∃ text, rowsText result.rows = .ok text := by
  have hrows : ∀ row ∈ result.rows, ∀ item ∈ row.items, Executor.HasJson item.2 := by
    cases fetched with
    | error e =>
      obtain ⟨-, h⟩ := guard_ok_iff.mp h
      obtain ⟨-, h⟩ := guard_ok_iff.mp h
      cases e <;> cases h
    | ok records =>
      intro row hrow
      have hall := Executor.execute_rows h
      obtain ⟨i, hi, rfl⟩ := List.getElem_of_mem hrow
      have hj : i < records.length := hall.length_eq ▸ hi
      exact Executor.hasJson_row ((List.forall₂_iff_get.mp hall).2 i hj hi)
  have hlist : Executor.HasJson (.list (result.rows.map Executor.rowValue)) := by
    refine Executor.hasJson_list (fun item hitem => ?_)
    obtain ⟨row, hrow, rfl⟩ := List.mem_map.mp hitem
    exact Executor.hasJson_dict row.items (hrows row hrow)
  obtain ⟨text, htext⟩ := Option.isSome_iff_exists.mp (jsonIndented_isSome _ 0 hlist)
  refine ⟨text, ?_⟩
  unfold rowsText
  rw [htext]
  rfl

theorem runSecureQuery_rowsText {steps : QuerySteps} {currentUser : User} {connectionId : Uuid}
    {proposedSql : String} {result : SecureQueryExecution}
    (h : runSecureQuery steps currentUser connectionId proposedSql = .ok result) :
    ∃ text, rowsText result.execution.rows = .ok text := by
  obtain ⟨connection, -, h⟩ := bind_ok_iff.mp h
  obtain ⟨-, h⟩ := guard_ok_iff.mp h
  obtain ⟨-, h⟩ := guard_ok_iff.mp h
  obtain ⟨allowedSchema, -, h⟩ := bind_ok_iff.mp h
  obtain ⟨securityResult, -, h⟩ := bind_ok_iff.mp h
  obtain ⟨executionResult, hexecution, h⟩ := bind_ok_iff.mp h
  rw [← pure_ok_iff.mp h]
  obtain ⟨-, hexecution⟩ := guard_ok_iff.mp hexecution
  have hquery : Executor.executePostgresqlQuery steps.rt allowedSchema steps.sqlTimeoutSeconds
      steps.sqlMaxResultBytes (steps.fetched securityResult.sql) steps.elapsedMs =
        .ok executionResult := by
    split at hexecution
    · obtain ⟨-, -, hexecution⟩ := bind_ok_iff.mp hexecution
      exact mapError_ok_iff.mp hexecution
    · exact mapError_ok_iff.mp hexecution
  exact rowsText_ok hquery

/-! ## A failed query -/

/-- The status and the code with which a handler records the exception. -/
def queryFailure : Raised → Option (String × String)
  | .security (.querySecurityError _) => some ("rejected", "query_security_rejected")
  | .execution (.queryExecutionTimeoutError _) => some ("failed", "query_timeout")
  | .execution (.queryResultTooLargeError _) => some ("failed", "result_too_large")
  | .execution (.queryExecutionError _) => some ("failed", "query_execution_failed")
  | _ => none

/-- What is stored after a failed query. -/
def ChatStore.afterFailure (store : ChatStore) (around : Surroundings)
    (queryExecution : QueryExecution) : Option (String × String) → ChatStore
  | none => store
  | some (status, errorCode) =>
    { store with
      query_executions := store.query_executions ++
        [⟨around.newUuid store.generated, around.now,
          { queryExecution with status := status, error_code := some errorCode }⟩]
      generated := store.generated + 1 }

theorem exec_handleQueryError {α : Type} {around : Surroundings}
    (haccepts : around.commitsRefused = false) (queryExecution : QueryExecution) (e : Raised)
    (store : ChatStore) :
    exec (handleQueryError around queryExecution e : Run α) ⟨store, store⟩ =
      (.error e, ⟨store.afterFailure around queryExecution (queryFailure e),
        store.afterFailure around queryExecution (queryFailure e)⟩) := by
  have hfailed : ∀ status errorCode,
      exec (do
        saveFailedExecution around queryExecution status errorCode
        throw e : Run α) ⟨store, store⟩ =
        (.error e, ⟨store.afterFailure around queryExecution (some (status, errorCode)),
          store.afterFailure around queryExecution (some (status, errorCode))⟩) := by
    intro status errorCode
    rw [exec_bind, exec_saveFailedExecution haccepts]
    rfl
  cases e with
  | security e =>
    cases e with
    | querySecurityError message => exact hfailed "rejected" "query_security_rejected"
    | typeError => rfl
    | tokenError => rfl
  | execution e =>
    cases e with
    | queryExecutionTimeoutError message => exact hfailed "failed" "query_timeout"
    | queryResultTooLargeError message => exact hfailed "failed" "result_too_large"
    | queryExecutionError message => exact hfailed "failed" "query_execution_failed"
  | _ => rfl

/-! ## The checks of the conversation -/

/-- The call passes the checks of a conversation of this mode. -/
structure Passes (store : ChatStore) (currentUser : User) (conversationId : Uuid) (mode : String)
    (conversation : Conversation) : Prop where
  found : getConversationById store currentUser.tenant_id currentUser.id conversationId =
    some conversation
  mode : conversation.mode = mode

theorem exec_getConversation {store : ChatStore} {currentUser : User} {conversationId : Uuid}
    {mode : String} {conversation : Conversation}
    (h : Passes store currentUser conversationId mode conversation) :
    exec (getConversation currentUser conversationId) ⟨store, store⟩ =
      (.ok conversation, ⟨store, store⟩) := by
  unfold getConversation
  rw [exec_bind, exec_read]
  dsimp only
  rw [h.found]
  rfl

theorem exec_requireMode {store : ChatStore} {currentUser : User} {conversationId : Uuid}
    {mode : String} {conversation : Conversation} (message : String)
    (h : Passes store currentUser conversationId mode conversation) :
    exec (requireMode mode message conversation) ⟨store, store⟩ = (.ok (), ⟨store, store⟩) := by
  unfold requireMode
  rw [if_neg (not_not_intro h.mode)]
  rfl

theorem exec_requireReference {reference : Option Uuid} {id : Uuid} (h : reference = some id)
    (message : String) (session : Session ChatStore) :
    exec (requireReference message reference) session = (.ok id, session) := by
  rw [h]
  rfl

/-- The first lines of a call: what is left after the checks of the conversation, -/
theorem exec_checked {α : Type} {store : ChatStore} {currentUser : User} {conversationId : Uuid}
    {mode message : String} {conversation : Conversation}
    (h : Passes store currentUser conversationId mode conversation)
    (rest : Conversation → Run α) :
    exec (do
      let conversation ← getConversation currentUser conversationId
      requireMode mode message conversation
      rest conversation) ⟨store, store⟩ = exec (rest conversation) ⟨store, store⟩ := by
  rw [exec_bind, exec_getConversation h]
  dsimp only
  rw [exec_bind, exec_requireMode message h]

/-- and after a reference of it has been found. -/
theorem exec_referenced {α : Type} {reference : Option Uuid} {id : Uuid}
    (h : reference = some id) {message : String} (rest : Uuid → Run α)
    (session : Session ChatStore) :
    exec (requireReference message reference >>= rest) session = exec (rest id) session := by
  rw [exec_bind, exec_requireReference h]

/-! ## Database conversations -/

section Database

variable {around : Surroundings} {steps : QuerySteps} {currentUser : User} {store : ChatStore}
  {conversationId connectionId : Uuid} {conversation : Conversation}

/-- The query fails: the exception goes on, after it has been recorded if it is one of four. -/
theorem exec_database_failed (haccepts : around.commitsRefused = false)
    (hpasses : Passes store currentUser conversationId "database" conversation)
    (hconnection : conversation.connection_id = some connectionId)
    (request : DatabaseMessageCreate) {e : Raised}
    (hquery : runSecureQuery steps currentUser connectionId (strip request.proposed_sql) =
      .error e) :
    exec (createDatabaseMessage around steps currentUser conversationId request) ⟨store, store⟩ =
      let after := store.afterFailure around (buildQueryExecution currentUser conversation.id
        connectionId (strip request.proposed_sql) []) (queryFailure e)
      (.error e, ⟨after, after⟩) := by
  unfold createDatabaseMessage
  rw [exec_checked hpasses, exec_referenced hconnection]
  rw [exec_bind, exec_tryCatch, exec_outside, hquery]
  dsimp only
  rw [exec_handleQueryError haccepts]

/-- The query completes: the exchange and the execution are written, and no audit event. -/
theorem exec_database_completed (haccepts : around.commitsRefused = false)
    (hpasses : Passes store currentUser conversationId "database" conversation)
    (hconnection : conversation.connection_id = some connectionId)
    (request : DatabaseMessageCreate) {result : SecureQueryExecution}
    (hquery : runSecureQuery steps currentUser connectionId (strip request.proposed_sql) =
      .ok result) :
    ∃ exchange execution after,
      exec (createDatabaseMessage around steps currentUser conversationId request)
        ⟨store, store⟩ = (.ok exchange, ⟨after, after⟩) ∧
      Exchanged around currentUser conversation store after exchange ∧
      after.query_executions = store.query_executions ++ [execution] ∧
      execution.fields.status = "completed" ∧
      execution.fields.conversation_id = some conversation.id ∧
      after.audit_logs = store.audit_logs := by
  obtain ⟨content, hcontent⟩ : ∃ content, buildDatabaseAnswer result.execution = .ok content := by
    obtain ⟨text, htext⟩ := runSecureQuery_rowsText hquery
    unfold buildDatabaseAnswer
    split
    · exact ⟨_, rfl⟩
    · rw [htext]
      exact ⟨_, rfl⟩
  unfold createDatabaseMessage
  rw [exec_checked hpasses, exec_referenced hconnection]
  rw [exec_bind, exec_tryCatch, exec_outside, hquery]
  dsimp only
  rw [exec_bind, exec_outside, hcontent]
  dsimp only
  rw [exec_bind, exec_tryCatch, exec_createDatabaseMessageExchange haccepts]
  refine ⟨_, _, _, rfl, ?_, rfl, rfl, rfl, rfl⟩
  apply exchanged_withExchange rfl rfl rfl rfl
  intro citation hcitation
  rw [List.mem_singleton.mp hcitation]
  exact ⟨rfl, rfl⟩

end Database

/-! ## Hybrid conversations -/

section Hybrid

variable {around : Surroundings} {steps : QuerySteps} {currentUser : User} {store : ChatStore}
  {conversationId connectionId knowledgeBaseId : Uuid} {conversation : Conversation}

theorem exec_hybrid_failed (haccepts : around.commitsRefused = false)
    (hpasses : Passes store currentUser conversationId "hybrid" conversation)
    (hconnection : conversation.connection_id = some connectionId)
    (hbase : conversation.knowledge_base_id = some knowledgeBaseId) (retrieval : Retrieval)
    (request : HybridMessageCreate) {e : Raised}
    (hquery : runSecureQuery steps currentUser connectionId (strip request.proposed_sql) =
      .error e) :
    exec (createHybridMessage around steps retrieval currentUser conversationId request)
        ⟨store, store⟩ =
      let after := store.afterFailure around (buildQueryExecution currentUser conversation.id
        connectionId (strip request.proposed_sql) [("mode", .string "hybrid")]) (queryFailure e)
      (.error e, ⟨after, after⟩) := by
  unfold createHybridMessage
  rw [exec_checked hpasses, exec_referenced hconnection, exec_referenced hbase]
  rw [exec_bind, exec_tryCatch, exec_outside, hquery]
  dsimp only
  rw [exec_handleQueryError haccepts]

/-- The retrieval fails after the query has completed: nothing is written. -/
theorem exec_hybrid_notRetrieved
    (hpasses : Passes store currentUser conversationId "hybrid" conversation)
    (hconnection : conversation.connection_id = some connectionId)
    (hbase : conversation.knowledge_base_id = some knowledgeBaseId)
    (request : HybridMessageCreate) {result : SecureQueryExecution}
    (hquery : runSecureQuery steps currentUser connectionId (strip request.proposed_sql) =
      .ok result) (e : Raised) :
    exec (createHybridMessage around steps (.error e) currentUser conversationId request)
        ⟨store, store⟩ = (.error e, ⟨store, store⟩) := by
  unfold createHybridMessage
  rw [exec_checked hpasses, exec_referenced hconnection, exec_referenced hbase]
  rw [exec_bind, exec_tryCatch, exec_outside, hquery]
  dsimp only
  rw [exec_bind, exec_outside]

/-- Everything succeeds: the exchange and the execution are written, then the audit event. -/
theorem exec_hybrid_completed (haccepts : around.commitsRefused = false)
    (hpasses : Passes store currentUser conversationId "hybrid" conversation)
    (hconnection : conversation.connection_id = some connectionId)
    (hbase : conversation.knowledge_base_id = some knowledgeBaseId)
    (request : HybridMessageCreate) {result : SecureQueryExecution}
    (hquery : runSecureQuery steps currentUser connectionId (strip request.proposed_sql) =
      .ok result) (matched : List RetrievedDocumentChunk) :
    ∃ exchange execution event after,
      exec (createHybridMessage around steps (.ok matched) currentUser conversationId request)
        ⟨store, store⟩ = (.ok exchange, ⟨after, after⟩) ∧
      Exchanged around currentUser conversation store after exchange ∧
      after.query_executions = store.query_executions ++ [execution] ∧
      execution.fields.status = "completed" ∧
      execution.fields.conversation_id = some conversation.id ∧
      after.audit_logs = store.audit_logs ++ [event] ∧ event.fields.outcome = "success" ∧
      event.fields.resource_id = some conversation.id := by
  obtain ⟨content, hcontent⟩ :
      ∃ content, buildHybridAnswer result.execution matched = .ok content := by
    obtain ⟨text, htext⟩ := runSecureQuery_rowsText hquery
    have hdatabase : ∃ databaseText, databaseSection result.execution = .ok databaseText := by
      unfold databaseSection
      split
      · exact ⟨_, rfl⟩
      · exact ⟨text, htext⟩
    obtain ⟨databaseText, hdatabase⟩ := hdatabase
    unfold buildHybridAnswer
    rw [hdatabase]
    exact ⟨_, rfl⟩
  unfold createHybridMessage
  rw [exec_checked hpasses, exec_referenced hconnection, exec_referenced hbase]
  rw [exec_bind, exec_tryCatch, exec_outside, hquery]
  dsimp only
  rw [exec_bind, exec_outside]
  dsimp only
  rw [exec_bind, exec_outside, hcontent]
  dsimp only
  rw [exec_bind, exec_createHybridMessageExchange haccepts]
  dsimp only
  rw [exec_bind, exec_recordAuditEvent _ haccepts]
  refine ⟨_, _, _, _, rfl, ?_, rfl, rfl, rfl, rfl, rfl, rfl⟩
  refine Exchanged.audited (exchanged_withExchange rfl rfl rfl rfl ?_) _
  intro citation hcitation
  obtain ⟨draft, hdraft, rfl⟩ := List.mem_map.mp hcitation
  refine ⟨rfl, ?_⟩
  rcases List.mem_cons.mp hdraft with rfl | hdraft
  · rfl
  · obtain ⟨retrieved, -, rfl⟩ := List.mem_map.mp hdraft
    rfl

end Hybrid

/-! ## The history of a call -/

abbrev Query := Except Raised SecureQueryExecution

/-- What happened to the SQL, if anything. -/
def sqlStatus : Query → Option String
  | .ok _ => some "completed"
  | .error (.security (.querySecurityError _)) => some "rejected"
  | .error (.execution _) => some "failed"
  | .error _ => none

/-- The call has left one execution with the right status and, if it has returned, one audit
event. -/
structure HistoryComplete (before : ChatStore) (ended : Except Raised MessageExchange × ChatStore)
    (query : Query) (conversationId : Uuid) : Prop where
  recorded : ∃ execution, ended.2.query_executions = before.query_executions ++ [execution] ∧
    execution.fields.conversation_id = some conversationId ∧
    ∀ status ∈ sqlStatus query, execution.fields.status = status
  audited : ∀ exchange, ended.1 = .ok exchange →
    ∃ event, ended.2.audit_logs = before.audit_logs ++ [event] ∧
      event.fields.outcome = "success" ∧ event.fields.resource_id = some conversationId

/-- The query has failed with one of the four exceptions that are recorded. -/
def QueryFailed (query : Query) : Prop := ∃ e, query = .error e ∧ (queryFailure e).isSome = true

theorem sqlStatus_of_failure {e : Raised} {status errorCode : String}
    (h : queryFailure e = some (status, errorCode)) :
    sqlStatus (.error e : Query) = some status := by
  cases e with
  | security e =>
    cases e with
    | querySecurityError message =>
      obtain ⟨rfl, -⟩ := Prod.mk.inj (Option.some.inj h)
      rfl
    | typeError => cases h
    | tokenError => cases h
  | execution e =>
    cases e <;> obtain ⟨rfl, -⟩ := Prod.mk.inj (Option.some.inj h) <;> rfl
  | _ => cases h

theorem history_failed_iff {around : Surroundings} {store : ChatStore}
    {queryExecution : QueryExecution} {conversationId : Uuid}
    (hconversation : queryExecution.conversation_id = some conversationId) (e : Raised) :
    HistoryComplete store (.error e, store.afterFailure around queryExecution (queryFailure e))
      (.error e) conversationId ↔ QueryFailed (.error e) := by
  constructor
  · rintro ⟨⟨execution, hexecution, -, -⟩, -⟩
    refine ⟨e, rfl, ?_⟩
    cases hfailure : queryFailure e with
    | some failure => rfl
    | none =>
      rw [hfailure] at hexecution
      exact absurd hexecution (by simp [ChatStore.afterFailure])
  · rintro ⟨e', he, hfailure⟩
    obtain rfl := Except.error.inj he
    obtain ⟨⟨status, errorCode⟩, hsome⟩ := Option.isSome_iff_exists.mp hfailure
    refine ⟨⟨⟨around.newUuid store.generated, around.now,
      { queryExecution with status := status, error_code := some errorCode }⟩, ?_,
      hconversation, ?_⟩, fun exchange hreturned => ?_⟩
    · rw [hsome]
      rfl
    · intro expected hexpected
      rw [sqlStatus_of_failure hsome] at hexpected
      exact Option.some.inj hexpected
    · cases hreturned

section Calls

variable {around : Surroundings} {steps : QuerySteps} {currentUser : User} {store : ChatStore}
  {conversationId connectionId knowledgeBaseId : Uuid} {conversation : Conversation}

/-- A database conversation keeps no audit event of a query that completes. -/
theorem database_completed_incomplete (haccepts : around.commitsRefused = false)
    (hpasses : Passes store currentUser conversationId "database" conversation)
    (hconnection : conversation.connection_id = some connectionId)
    (request : DatabaseMessageCreate) {result : SecureQueryExecution}
    (hquery : runSecureQuery steps currentUser connectionId (strip request.proposed_sql) =
      .ok result) :
    ¬ HistoryComplete store
      (call (createDatabaseMessage around steps currentUser conversationId request) store)
      (.ok result) conversation.id := by
  obtain ⟨exchange, execution, after, hexec, -, -, -, -, haudit⟩ :=
    exec_database_completed haccepts hpasses hconnection request hquery
  intro h
  unfold call at h
  rw [hexec] at h
  obtain ⟨event, hevent, -⟩ := h.audited exchange rfl
  rw [show after.audit_logs = store.audit_logs from haudit] at hevent
  exact absurd hevent (by simp)

theorem databaseHistory_iff (haccepts : around.commitsRefused = false)
    (hpasses : Passes store currentUser conversationId "database" conversation)
    (hconnection : conversation.connection_id = some connectionId)
    (request : DatabaseMessageCreate) :
    HistoryComplete store
      (call (createDatabaseMessage around steps currentUser conversationId request) store)
      (runSecureQuery steps currentUser connectionId (strip request.proposed_sql))
      conversation.id ↔
      QueryFailed (runSecureQuery steps currentUser connectionId (strip request.proposed_sql)) := by
  cases hquery : runSecureQuery steps currentUser connectionId (strip request.proposed_sql) with
  | error e =>
    unfold call
    rw [exec_database_failed haccepts hpasses hconnection request hquery]
    exact history_failed_iff rfl e
  | ok result =>
    constructor
    · intro h
      exact absurd h
        (database_completed_incomplete haccepts hpasses hconnection request hquery)
    · rintro ⟨e, he, -⟩
      cases he

/-- A hybrid conversation keeps nothing of a query after which the retrieval fails. -/
theorem hybrid_notRetrieved_incomplete
    (hpasses : Passes store currentUser conversationId "hybrid" conversation)
    (hconnection : conversation.connection_id = some connectionId)
    (hbase : conversation.knowledge_base_id = some knowledgeBaseId)
    (request : HybridMessageCreate) {result : SecureQueryExecution}
    (hquery : runSecureQuery steps currentUser connectionId (strip request.proposed_sql) =
      .ok result) (e : Raised) :
    ¬ HistoryComplete store
      (call (createHybridMessage around steps (.error e) currentUser conversationId request) store)
      (.ok result) conversation.id := by
  intro h
  unfold call at h
  rw [exec_hybrid_notRetrieved hpasses hconnection hbase request hquery] at h
  obtain ⟨execution, hexecution, -⟩ := h.recorded
  exact absurd hexecution (by simp)

theorem hybridHistory_iff (haccepts : around.commitsRefused = false)
    (hpasses : Passes store currentUser conversationId "hybrid" conversation)
    (hconnection : conversation.connection_id = some connectionId)
    (hbase : conversation.knowledge_base_id = some knowledgeBaseId) (retrieval : Retrieval)
    (request : HybridMessageCreate) :
    HistoryComplete store
      (call (createHybridMessage around steps retrieval currentUser conversationId request) store)
      (runSecureQuery steps currentUser connectionId (strip request.proposed_sql))
      conversation.id ↔
      QueryFailed (runSecureQuery steps currentUser connectionId (strip request.proposed_sql)) ∨
      (∃ result matched,
        runSecureQuery steps currentUser connectionId (strip request.proposed_sql) = .ok result ∧
          retrieval = .ok matched) := by
  cases hquery : runSecureQuery steps currentUser connectionId (strip request.proposed_sql) with
  | error e =>
    unfold call
    rw [exec_hybrid_failed haccepts hpasses hconnection hbase retrieval request hquery]
    refine (history_failed_iff rfl e).trans ⟨.inl, ?_⟩
    rintro (h | ⟨result, matched, hresult, -⟩)
    · exact h
    · cases hresult
  | ok result =>
    cases retrieval with
    | error e =>
      constructor
      · intro h
        exact absurd h
          (hybrid_notRetrieved_incomplete hpasses hconnection hbase request hquery e)
      · rintro (⟨e', he, -⟩ | ⟨result, matched, -, hretrieval⟩)
        · cases he
        · cases hretrieval
    | ok matched =>
      refine ⟨fun _ => .inr ⟨result, matched, rfl, rfl⟩, fun _ => ?_⟩
      obtain ⟨exchange, execution, event, after, hexec, -, hexecutions, hstatus, hof, hevents,
        houtcome, hresource⟩ :=
        exec_hybrid_completed haccepts hpasses hconnection hbase request hquery matched
      unfold call
      rw [hexec]
      refine ⟨⟨execution, hexecutions, hof, ?_⟩, fun _ _ => ⟨event, hevents, houtcome, hresource⟩⟩
      intro status hstatus'
      rw [hstatus]
      exact Option.some.inj hstatus'

end Calls

/-- The history is complete when the query fails with one of the four exceptions; in a hybrid
conversation also when everything succeeds. -/
theorem historyComplete_iff (around : Surroundings) (steps : QuerySteps) (currentUser : User)
    (store : ChatStore) (conversationId connectionId : Uuid) (conversation : Conversation)
    (haccepts : around.commitsRefused = false)
    (hconnection : conversation.connection_id = some connectionId) :
    (Passes store currentUser conversationId "database" conversation →
      ∀ request : DatabaseMessageCreate,
        let query := runSecureQuery steps currentUser connectionId (strip request.proposed_sql)
        HistoryComplete store
          (call (createDatabaseMessage around steps currentUser conversationId request) store)
          query conversation.id ↔ QueryFailed query) ∧
    (Passes store currentUser conversationId "hybrid" conversation →
      conversation.knowledge_base_id ≠ none →
      ∀ (retrieval : Retrieval) (request : HybridMessageCreate),
        let query := runSecureQuery steps currentUser connectionId (strip request.proposed_sql)
        HistoryComplete store
          (call (createHybridMessage around steps retrieval currentUser conversationId request)
            store) query conversation.id ↔
          QueryFailed query ∨
            (∃ result matched, query = .ok result ∧ retrieval = .ok matched)) := by
  constructor
  · intro hpasses request
    exact databaseHistory_iff haccepts hpasses hconnection request
  · intro hpasses hbase retrieval request
    obtain ⟨knowledgeBaseId, hbase⟩ := Option.ne_none_iff_exists'.mp hbase
    exact hybridHistory_iff haccepts hpasses hconnection hbase retrieval request

/-! ## Questions about e-mail addresses -/

def emailsConversation (mode : String) (knowledgeBaseId : Option Uuid) : Conversation where
  id := "chat"
  tenant_id := "tenant"
  user_id := "admin"
  connection_id := some "connection"
  knowledge_base_id := knowledgeBaseId
  mode := mode

def emailsStore (conversation : Conversation) : ChatStore where
  conversations := [conversation]
  messages := []
  citations := []
  query_executions := []
  audit_logs := []
  generated := 0

def emailsSurroundings : Surroundings where
  newUuid n := toString n
  temporaryId := ""
  now := 0
  afterCommit := 1
  latencyMs := 12
  commitsRefused := false

/-- A connection that has been tested or not, to a database whose table is empty. -/
def emailsSteps (status : String) : QuerySteps where
  rt := Executor.plainRuntime
  glot := Validator.plainSqlglot
  fernet := letterFernet
  makeUrl := salesUrl
  connections := ⟨[{ salesRow (some "old-host") with status := status }],
    ⟨List.nodup_singleton _, List.pairwise_singleton _ _⟩⟩
  permitted := .ok Validator.usersSchema
  fetched := fun _ => .ok []
  elapsedMs := 3
  sqlDefaultRowLimit := 100
  sqlTimeoutSeconds := 10
  sqlMaxResultBytes := 1048576

def emailsRequest : DatabaseMessageCreate where
  content := "Which e-mail addresses are there?"
  proposed_sql := Validator.plainSql
  content_length := by decide
  proposed_sql_length := by decide

def emailsHybridRequest : HybridMessageCreate where
  content := "Which e-mail addresses are there?"
  proposed_sql := Validator.plainSql
  content_length := by decide
  proposed_sql_length := by decide

/-- The query about e-mail addresses completes on a tested connection. -/
theorem emails_completed : ∃ result, runSecureQuery (emailsSteps "connected") salesAdmin
    "connection" (strip Validator.plainSql) = .ok result := by
  have hquery : (runSecureQuery (emailsSteps "connected") salesAdmin "connection"
      (strip Validator.plainSql)).toBool = true := by
    decide +kernel
  cases hresult : runSecureQuery (emailsSteps "connected") salesAdmin "connection"
      (strip Validator.plainSql) with
  | error e =>
    rw [hresult] at hquery
    cases hquery
  | ok result => exact ⟨result, rfl⟩

/-- A hybrid conversation in which everything succeeds. -/
theorem emails_history :
    HistoryComplete (emailsStore (emailsConversation "hybrid" (some "manuals")))
      (call (createHybridMessage emailsSurroundings (emailsSteps "connected") (.ok []) salesAdmin
        "chat" emailsHybridRequest) (emailsStore (emailsConversation "hybrid" (some "manuals"))))
      (runSecureQuery (emailsSteps "connected") salesAdmin "connection"
        (strip Validator.plainSql)) "chat" := by
  obtain ⟨result, hresult⟩ := emails_completed
  exact ((historyComplete_iff emailsSurroundings (emailsSteps "connected") salesAdmin
    (emailsStore (emailsConversation "hybrid" (some "manuals"))) "chat" "connection"
    (emailsConversation "hybrid" (some "manuals")) rfl rfl).2 ⟨rfl, rfl⟩ (by decide) (.ok [])
    emailsHybridRequest).mpr (.inr ⟨result, [], hresult, rfl⟩)

/-- A database conversation whose query completes, one whose connection has not been tested, and a
hybrid conversation whose retrieval fails. -/
theorem emails_history_incomplete :
    ¬ HistoryComplete (emailsStore (emailsConversation "database" none))
      (call (createDatabaseMessage emailsSurroundings (emailsSteps "connected") salesAdmin "chat"
        emailsRequest) (emailsStore (emailsConversation "database" none)))
      (runSecureQuery (emailsSteps "connected") salesAdmin "connection"
        (strip Validator.plainSql)) "chat" ∧
    ¬ HistoryComplete (emailsStore (emailsConversation "database" none))
      (call (createDatabaseMessage emailsSurroundings (emailsSteps "pending") salesAdmin "chat"
        emailsRequest) (emailsStore (emailsConversation "database" none)))
      (runSecureQuery (emailsSteps "pending") salesAdmin "connection"
        (strip Validator.plainSql)) "chat" ∧
    ¬ HistoryComplete (emailsStore (emailsConversation "hybrid" (some "manuals")))
      (call (createHybridMessage emailsSurroundings (emailsSteps "connected")
        (.error (.documentRetrievalError "The search query could not be embedded.")) salesAdmin
        "chat" emailsHybridRequest) (emailsStore (emailsConversation "hybrid" (some "manuals"))))
      (runSecureQuery (emailsSteps "connected") salesAdmin "connection"
        (strip Validator.plainSql)) "chat" := by
  obtain ⟨result, hresult⟩ := emails_completed
  refine ⟨?_, ?_, ?_⟩
  · rw [hresult]
    have hpasses : Passes (emailsStore (emailsConversation "database" none)) salesAdmin "chat"
        "database" (emailsConversation "database" none) := ⟨rfl, rfl⟩
    exact database_completed_incomplete rfl hpasses rfl emailsRequest hresult
  · intro h
    have huntested : runSecureQuery (emailsSteps "pending") salesAdmin "connection"
        (strip Validator.plainSql) = .error (.valueError
          ("The selected database connection must be tested " ++
            "successfully before query execution.")) := by
      rfl
    have hpasses : Passes (emailsStore (emailsConversation "database" none)) salesAdmin "chat"
        "database" (emailsConversation "database" none) := ⟨rfl, rfl⟩
    obtain ⟨e, he, hfailure⟩ := (databaseHistory_iff rfl hpasses rfl emailsRequest).mp h
    rw [show runSecureQuery (emailsSteps "pending") salesAdmin "connection"
      (strip emailsRequest.proposed_sql) = _ from huntested] at he
    rw [← Except.error.inj he] at hfailure
    cases hfailure
  · rw [hresult]
    have hpasses : Passes (emailsStore (emailsConversation "hybrid" (some "manuals"))) salesAdmin
        "chat" "hybrid" (emailsConversation "hybrid" (some "manuals")) := ⟨rfl, rfl⟩
    exact hybrid_notRetrieved_incomplete hpasses rfl rfl emailsHybridRequest hresult _

end DataChat.Chat
