import DataChat.Chat.Replay

/-!
# What a call writes

Whatever comes of a call of the conversation services, it only appends rows, and the rows are of the
tenant of its user.

* `call_appends`: this for the three kinds of calls, whether they return or raise.
-/

namespace DataChat.Chat

open Platform Transactions

variable {tenantId : Uuid} {around : Surroundings} {before : ChatStore}

/-- Rows of the tenant may have been appended. -/
def Appended {α : Type} (tenantOf : α → Uuid) (tenantId : Uuid) (before after : List α) : Prop :=
  ∃ added, after = before ++ added ∧ ∀ row ∈ added, tenantOf row = tenantId

theorem Appended.refl {α : Type} {tenantOf : α → Uuid} (rows : List α) :
    Appended tenantOf tenantId rows rows :=
  ⟨[], (List.append_nil rows).symm, fun _ hrow => absurd hrow List.not_mem_nil⟩

theorem Appended.concat {α : Type} {tenantOf : α → Uuid} {rows after : List α} {row : α}
    (h : Appended tenantOf tenantId rows after) (hrow : tenantOf row = tenantId) :
    Appended tenantOf tenantId rows (after ++ [row]) := by
  obtain ⟨added, rfl, hadded⟩ := h
  refine ⟨added ++ [row], List.append_assoc rows added [row], ?_⟩
  rw [List.forall_mem_append, List.forall_mem_singleton]
  exact ⟨hadded, hrow⟩

/-- A call of a user of the tenant may lead from one store to the other. -/
structure Appends (tenantId : Uuid) (before after : ChatStore) : Prop where
  conversations : after.conversations = before.conversations
  messages : Appended (fun row => row.fields.tenant_id) tenantId before.messages after.messages
  citations : Appended (fun row => row.fields.tenant_id) tenantId before.citations after.citations
  query_executions : Appended (fun row => row.fields.tenant_id) tenantId before.query_executions
    after.query_executions
  audit_logs : Appended (fun row => row.fields.tenant_id) tenantId before.audit_logs
    after.audit_logs

theorem Appends.refl (tenantId : Uuid) (store : ChatStore) : Appends tenantId store store :=
  ⟨rfl, .refl _, .refl _, .refl _, .refl _⟩

/-! ## Single rows -/

theorem preserves_outside {α : Type} {P : ChatStore → Prop} (result : Except Raised α) :
    Preserves P (outside result) := by
  cases result with
  | error e => exact preserves_throw e
  | ok a => exact preserves_pure a

theorem preserves_commitOrRaise {P : ChatStore → Prop} : Preserves P (commitOrRaise around) := by
  unfold commitOrRaise
  split
  · exact preserves_throw _
  · exact preserves_commit

theorem appends_fillIn {α : Type} (now : Datetime) (fields : α) :
    Preserves (Appends tenantId before) (fillIn around now fields) := by
  refine preserves_bind preserves_read (fun store => ?_)
  refine preserves_bind (preserves_write (fun after h => ?_)) (fun _ => preserves_pure _)
  exact { h with }

theorem fillIn_fields {α : Type} {now : Datetime} {fields : α} {row : Stored α}
    {session session' : Session ChatStore}
    (h : exec (fillIn around now fields) session = (.ok row, session')) : row.fields = fields := by
  rw [exec_fillIn] at h
  cases h
  rfl

/-- What follows the filling in of a row may rely on its fields. -/
theorem appends_filled {α β : Type} {now : Datetime} {fields : α} {k : Stored α → Run β}
    (hk : ∀ row, row.fields = fields → Preserves (Appends tenantId before) (k row)) :
    Preserves (Appends tenantId before) (fillIn around now fields >>= k) := by
  intro session hcommitted hcurrent
  obtain ⟨hcommitted', hcurrent'⟩ := appends_fillIn now fields session hcommitted hcurrent
  rw [exec_bind]
  rcases hrun : exec (fillIn around now fields) session with ⟨e | row, middle⟩
  · rw [hrun] at hcommitted' hcurrent'
    exact ⟨hcommitted', hcurrent'⟩
  · rw [hrun] at hcommitted' hcurrent'
    exact hk row (fillIn_fields hrun) middle hcommitted' hcurrent'

theorem appends_addMessage {message : Message} (h : message.tenant_id = tenantId) :
    Preserves (Appends tenantId before) (addMessage around message) := by
  refine appends_filled (fun row hrow => ?_)
  refine preserves_bind (preserves_write (fun after hafter => ?_)) (fun _ => preserves_pure _)
  exact { hafter with messages := hafter.messages.concat (by rw [hrow, h]) }

theorem appends_addCitation {citation : MessageCitation} (h : citation.tenant_id = tenantId) :
    Preserves (Appends tenantId before) (addCitation around citation) := by
  refine appends_filled (fun row hrow => ?_)
  refine preserves_bind (preserves_write (fun after hafter => ?_)) (fun _ => preserves_pure _)
  exact { hafter with citations := hafter.citations.concat (by rw [hrow, h]) }

theorem appends_addQueryExecution {queryExecution : QueryExecution}
    (h : queryExecution.tenant_id = tenantId) :
    Preserves (Appends tenantId before) (addQueryExecution around queryExecution) := by
  refine appends_filled (fun row hrow => ?_)
  refine preserves_bind (preserves_write (fun after hafter => ?_)) (fun _ => preserves_pure _)
  exact { hafter with query_executions := hafter.query_executions.concat (by rw [hrow, h]) }

theorem appends_recordAuditEvent (py : Casing) {auditLog : AuditLog}
    (h : auditLog.tenant_id = tenantId) :
    Preserves (Appends tenantId before) (recordAuditEvent py around auditLog) := by
  refine appends_filled (fun row hrow => ?_)
  refine preserves_bind (preserves_write (fun after hafter => ?_)) (fun _ => ?_)
  · exact { hafter with audit_logs := hafter.audit_logs.concat (by rw [hrow, h]) }
  · exact preserves_bind preserves_commitOrRaise (fun _ => preserves_pure _)

/-! ## Exchanges -/

section Exchange

variable {user assistant : Message} {queryExecution : QueryExecution}

theorem appends_exchange {citations : List MessageCitation} (huser : user.tenant_id = tenantId)
    (hassistant : assistant.tenant_id = tenantId)
    (hcitations : ∀ citation ∈ citations, citation.tenant_id = tenantId) :
    Preserves (Appends tenantId before)
      (createMessageExchange around user assistant citations) := by
  refine preserves_bind (appends_addMessage huser) (fun _ => ?_)
  refine preserves_bind (appends_addMessage hassistant) (fun _ => ?_)
  refine preserves_bind (preserves_mapM (fun citation hcitation => ?_)) (fun _ => ?_)
  · exact appends_addCitation (hcitations citation hcitation)
  · exact preserves_bind preserves_commitOrRaise (fun _ => preserves_pure _)

theorem appends_databaseExchange {citation : MessageCitation} (huser : user.tenant_id = tenantId)
    (hassistant : assistant.tenant_id = tenantId)
    (hexecution : queryExecution.tenant_id = tenantId)
    (hcitation : citation.tenant_id = tenantId) :
    Preserves (Appends tenantId before)
      (createDatabaseMessageExchange around user assistant queryExecution citation) := by
  refine preserves_bind (appends_addMessage huser) (fun _ => ?_)
  refine preserves_bind (appends_addMessage hassistant) (fun _ => ?_)
  refine preserves_bind (appends_addQueryExecution hexecution) (fun _ => ?_)
  refine preserves_bind (appends_addCitation hcitation) (fun _ => ?_)
  exact preserves_bind preserves_commitOrRaise (fun _ => preserves_pure _)

theorem appends_hybridExchange {citations : List MessageCitation}
    (huser : user.tenant_id = tenantId) (hassistant : assistant.tenant_id = tenantId)
    (hexecution : queryExecution.tenant_id = tenantId)
    (hcitations : ∀ citation ∈ citations, citation.tenant_id = tenantId) :
    Preserves (Appends tenantId before)
      (createHybridMessageExchange around user assistant queryExecution citations) := by
  refine preserves_bind (appends_addMessage huser) (fun _ => ?_)
  refine preserves_bind (appends_addMessage hassistant) (fun _ => ?_)
  refine preserves_bind (appends_addQueryExecution hexecution) (fun _ => ?_)
  refine preserves_bind (preserves_mapM (fun citation hcitation => ?_)) (fun _ => ?_)
  · exact appends_addCitation (hcitations citation hcitation)
  · exact preserves_bind preserves_commitOrRaise (fun _ => preserves_pure _)

end Exchange

/-! ## Calls -/

/-- What comes before the exchange reads only. -/
theorem appends_checked {α : Type} {user : User} {conversationId : Uuid} {mode message : String}
    {rest : Conversation → Run α} (h : ∀ conversation, Preserves (Appends tenantId before)
      (rest conversation)) :
    Preserves (Appends tenantId before) (do
      let conversation ← getConversation user conversationId
      requireMode mode message conversation
      rest conversation) := by
  refine preserves_bind ?_ (fun conversation => preserves_bind ?_ (fun _ => h conversation))
  · refine preserves_bind preserves_read (fun store => ?_)
    split
    · exact preserves_pure _
    · exact preserves_throw _
  · unfold requireMode
    split
    · exact preserves_throw _
    · exact preserves_pure _

theorem preserves_requireReference {P : ChatStore → Prop} (message : String)
    (reference : Option Uuid) : Preserves P (requireReference message reference) := by
  cases reference with
  | none => exact preserves_throw _
  | some id => exact preserves_pure id

theorem appends_handleQueryError {α : Type} {queryExecution : QueryExecution}
    (h : queryExecution.tenant_id = tenantId) (e : Raised) :
    Preserves (Appends tenantId before)
      (handleQueryError around queryExecution e : Run α) := by
  have hsave : ∀ status errorCode, Preserves (Appends tenantId before)
      (saveFailedExecution around queryExecution status errorCode) := by
    intro status errorCode
    refine preserves_bind (appends_addQueryExecution h) (fun _ => ?_)
    exact preserves_commitOrRaise
  unfold handleQueryError
  split
  all_goals first
    | exact preserves_bind (hsave _ _) (fun _ => preserves_throw _)
    | exact preserves_throw _

theorem appends_handleExchangeError (py : Casing) {auditLog : AuditLog}
    (h : auditLog.tenant_id = tenantId) (e : Raised) :
    Preserves (Appends tenantId before) (handleExchangeError py around auditLog e) := by
  unfold handleExchangeError
  split
  · refine preserves_bind preserves_rollback (fun _ => preserves_bind (preserves_throw e) ?_)
    intro _
    refine preserves_bind (appends_recordAuditEvent py h) (fun _ => ?_)
    exact preserves_throw e
  · exact preserves_throw e

/-- Whatever comes of a call, it appends rows of the tenant of its user. -/
theorem call_appends (around : Surroundings) (user : User) (conversationId : Uuid)
    (store : ChatStore) (c : ChatCall) :
    Appends user.tenant_id store (c.result around user conversationId store).2 := by
  cases c with
  | document retrieval request =>
    refine call_preserves (appends_checked (fun conversation => ?_)) (Appends.refl _ store)
    refine preserves_bind (preserves_requireReference _ _) (fun knowledgeBaseId => ?_)
    refine preserves_bind (preserves_outside retrieval) (fun matched => ?_)
    refine appends_exchange rfl rfl (fun citation hcitation => ?_)
    obtain ⟨retrieved, -, rfl⟩ := List.mem_map.mp hcitation
    rfl
  | database steps request =>
    refine call_preserves (appends_checked (fun conversation => ?_)) (Appends.refl _ store)
    refine preserves_bind (preserves_requireReference _ _) (fun connectionId => ?_)
    refine preserves_bind (preserves_tryCatch (preserves_outside _) ?_) (fun result => ?_)
    · intro e
      apply appends_handleQueryError
      rfl
    refine preserves_bind (preserves_outside _) (fun content => ?_)
    refine preserves_bind (preserves_tryCatch ?_ ?_) (fun _ => preserves_pure _)
    · exact appends_databaseExchange rfl rfl rfl rfl
    · intro e
      apply appends_handleExchangeError
      rfl
  | hybrid steps retrieval request =>
    refine call_preserves (appends_checked (fun conversation => ?_)) (Appends.refl _ store)
    refine preserves_bind (preserves_requireReference _ _) (fun connectionId => ?_)
    refine preserves_bind (preserves_requireReference _ _) (fun knowledgeBaseId => ?_)
    refine preserves_bind (preserves_tryCatch (preserves_outside _) ?_) (fun result => ?_)
    · intro e
      apply appends_handleQueryError
      rfl
    refine preserves_bind (preserves_outside _) (fun matched => ?_)
    refine preserves_bind (preserves_outside _) (fun content => ?_)
    refine preserves_bind ?_ (fun saved => ?_)
    · refine appends_hybridExchange rfl rfl rfl (fun citation hcitation => ?_)
      rcases List.mem_cons.mp hcitation with rfl | hcitation
      · rfl
      · obtain ⟨retrieved, -, rfl⟩ := List.mem_map.mp hcitation
        rfl
    · refine preserves_bind (appends_recordAuditEvent _ rfl) (fun _ => ?_)
      exact preserves_pure _

end DataChat.Chat
