import DataChat.Chat.ExecutionHistory
import DataChat.Library.OrderBy
import Mathlib.Data.Prod.Lex
import Mathlib.Data.String.Basic

/-!
# Replaying a conversation

`get_conversation_messages` sorts the messages of a conversation by `created_at` and takes a page
of them; each page is a query of its own. The two messages of an exchange are created in one
transaction, at one time, and so are the citations of an answer. Their order is left to the
database.

* `built_recorded`: what the messages of a conversation are.
* `replaysInOrder_iff`: only an empty conversation is sure to replay in order.
* `question_not_replayed`: a conversation of one exchange.
-/

namespace DataChat.Chat

open Platform Transactions Connection

/-! ## Reading a conversation -/

/-- The rows of the first query of a page, in no order. -/
def messagesOf (store : ChatStore) (tenantId conversationId : Uuid) : List (Stored Message) :=
  store.messages.filter (fun message =>
    message.fields.tenant_id = tenantId ∧ message.fields.conversation_id = conversationId)

/-- The rows of the second query, in no order. -/
def citationsOf (store : ChatStore) (tenantId : Uuid) (messageIds : List Uuid) :
    List (Stored MessageCitation) :=
  store.citations.filter (fun citation =>
    citation.fields.tenant_id = tenantId ∧ citation.fields.message_id ∈ messageIds)

/-- `ORDER BY message_id, created_at`. -/
def citationKey (citation : Stored MessageCitation) : Lex (Uuid × Datetime) :=
  toLex (citation.fields.message_id, citation.created_at)

/-- `citations_by_message.setdefault(citation.message_id, []).append(citation)`. -/
def appendCitation (grouped : Dict Uuid (List (Stored MessageCitation)))
    (citation : Stored MessageCitation) : Dict Uuid (List (Stored MessageCitation)) :=
  grouped.set citation.fields.message_id
    ((grouped.get citation.fields.message_id).getD [] ++ [citation])

/-- In which orders the database has put the rows of the two queries. -/
structure Reading where
  messages : List (Stored Message)
  citations : List (Stored MessageCitation)

def Reading.page (reading : Reading) (offset limit : Nat) : List (Stored Message) :=
  (reading.messages.drop offset).take limit

def getConversationMessages (store : ChatStore) (currentUser : User) (conversationId : Uuid)
    (offset limit : Nat) (reading : Reading) : Except Raised (List MessageResponse × Nat) :=
  match getConversationById store currentUser.tenant_id currentUser.id conversationId with
  | none => throw (.conversationNotFoundError "Conversation was not found.")
  | some _ =>
    let citationsByMessage := reading.citations.foldl appendCitation Dict.empty
    let items := (reading.page offset limit).map (fun message =>
      ⟨message, (citationsByMessage.get message.id).getD []⟩)
    pure (items, reading.messages.length)

/-- The orders are such as the two queries ask for. -/
structure Reading.Possible (reading : Reading) (store : ChatStore) (tenantId conversationId : Uuid)
    (offset limit : Nat) : Prop where
  messages : OrderedBy Stored.created_at (messagesOf store tenantId conversationId)
    reading.messages
  citations : OrderedBy citationKey
    (citationsOf store tenantId ((reading.page offset limit).map Stored.id)) reading.citations

/-- All pages of a conversation, one after the other. -/
inductive Pages (store : ChatStore) (currentUser : User) (conversationId : Uuid) (limit : Nat) :
    Nat → List MessageResponse → Prop
  | done (offset : Nat)
      (h : (messagesOf store currentUser.tenant_id conversationId).length ≤ offset) :
      Pages store currentUser conversationId limit offset []
  | page (offset : Nat) (reading : Reading) {items rest : List MessageResponse} {total : Nat}
      (hpossible : reading.Possible store currentUser.tenant_id conversationId offset limit)
      (hread : getConversationMessages store currentUser conversationId offset limit reading =
        .ok (items, total))
      (hmore : offset < total)
      (hrest : Pages store currentUser conversationId limit (offset + limit) rest) :
      Pages store currentUser conversationId limit offset (items ++ rest)

/-! ## Conversations that are built by exchanges -/

inductive ChatCall
  | document (retrieval : Retrieval) (request : MessageCreate)
  | database (steps : QuerySteps) (request : DatabaseMessageCreate)
  | hybrid (steps : QuerySteps) (retrieval : Retrieval) (request : HybridMessageCreate)

def ChatCall.result (around : Surroundings) (currentUser : User) (conversationId : Uuid)
    (store : ChatStore) : ChatCall → Except Raised MessageExchange × ChatStore
  | document retrieval request =>
    call (createDocumentMessage around retrieval currentUser conversationId request) store
  | database steps request =>
    call (createDatabaseMessage around steps currentUser conversationId request) store
  | hybrid steps retrieval request =>
    call (createHybridMessage around steps retrieval currentUser conversationId request) store

/-- The store after exchanges in any conversations, at any times. The server generates no
identifier twice, and a call whose commit is refused makes no exchange. -/
inductive Built (newUuid : Nat → Uuid) : ChatStore → List MessageExchange → Prop
  | fresh (store : ChatStore) (hmessages : store.messages = [])
      (hcitations : store.citations = []) :
      Built newUuid store []
  | exchange {store after : ChatStore} {exchanges : List MessageExchange}
      {exchange : MessageExchange} (hbuilt : Built newUuid store exchanges)
      (around : Surroundings) (huuid : around.newUuid = newUuid)
      (haccepts : around.commitsRefused = false) (currentUser : User) (conversationId : Uuid)
      (c : ChatCall)
      (hreturned : c.result around currentUser conversationId store = (.ok exchange, after)) :
      Built newUuid after (exchanges ++ [exchange])

/-- The messages of an exchange. -/
def MessageExchange.messages (exchange : MessageExchange) : List (Stored Message) :=
  [exchange.user_message.message, exchange.assistant_message.message]

/-- The exchange belongs to the conversation. -/
def MessageExchange.isIn (tenantId conversationId : Uuid) (exchange : MessageExchange) : Bool :=
  decide (exchange.user_message.message.fields.tenant_id = tenantId ∧
    exchange.user_message.message.fields.conversation_id = conversationId)

/-! ## What should hold -/

/-- Every message once, the question of each exchange right before its answer, and the citations
of each answer in the order in which its text numbers them. -/
structure InOrder (exchanges : List MessageExchange) (items : List MessageResponse) : Prop where
  once : (items.map MessageResponse.message).Perm (exchanges.flatMap MessageExchange.messages)
  paired : ∀ exchange ∈ exchanges, ∃ front back, items.map MessageResponse.message =
    front ++ exchange.user_message.message :: exchange.assistant_message.message :: back
  cited : ∀ exchange ∈ exchanges, ∀ item ∈ items,
    item.message = exchange.assistant_message.message →
      item.citations = exchange.assistant_message.citations

/-- Whatever the page size and the order of ties. -/
def ReplaysInOrder (store : ChatStore) (currentUser : User) (conversationId : Uuid)
    (exchanges : List MessageExchange) : Prop :=
  ∀ limit items, 1 ≤ limit → Pages store currentUser conversationId limit 0 items →
    InOrder (exchanges.filter (MessageExchange.isIn currentUser.tenant_id conversationId)) items

/-! ## What an exchange has written -/

section Returned

variable {around : Surroundings} {currentUser : User} {store : ChatStore} {conversationId : Uuid}

theorem passes_of_returned {β : Type} {mode message : String} {rest : Conversation → Run β}
    {b : β} {after : Session ChatStore}
    (h : exec (do
      let conversation ← getConversation currentUser conversationId
      requireMode mode message conversation
      rest conversation) ⟨store, store⟩ = (.ok b, after)) :
    ∃ conversation, Passes store currentUser conversationId mode conversation ∧
      exec (rest conversation) ⟨store, store⟩ = (.ok b, after) := by
  obtain ⟨conversation, middle, hget, h⟩ := exec_bind_ok h
  obtain ⟨⟨⟩, middle', hmode, h⟩ := exec_bind_ok h
  unfold getConversation at hget
  rw [exec_bind, exec_read] at hget
  dsimp only at hget
  cases hfound : getConversationById store currentUser.tenant_id currentUser.id conversationId with
  | none =>
    rw [hfound] at hget
    cases hget
  | some found =>
    rw [hfound] at hget
    cases hget
    unfold requireMode at hmode
    split at hmode
    · cases hmode
    · rename_i hsame
      cases hmode
      exact ⟨conversation, ⟨hfound, not_not.mp hsame⟩, h⟩

theorem reference_of_returned {β : Type} {message : String} {reference : Option Uuid}
    {rest : Uuid → Run β} {b : β} {session after : Session ChatStore}
    (h : exec (requireReference message reference >>= rest) session = (.ok b, after)) :
    ∃ id, reference = some id ∧ exec (rest id) session = (.ok b, after) := by
  obtain ⟨id, middle, hreference, h⟩ := exec_bind_ok h
  cases reference with
  | none => cases hreference
  | some id' =>
    cases hreference
    exact ⟨id, rfl, h⟩

/-- The last lines of a call that returns. -/
theorem exec_of_call {α : Type} {program : Run α} {a : α} {after : ChatStore}
    (h : call program store = (.ok a, after)) :
    ∃ session, exec program ⟨store, store⟩ = (.ok a, session) ∧ session.committed = after := by
  obtain ⟨hresult, hafter⟩ := Prod.mk.inj h
  exact ⟨_, Prod.ext hresult rfl, hafter⟩

theorem document_exchanged (haccepts : around.commitsRefused = false) {retrieval : Retrieval}
    {request : MessageCreate} {exchange : MessageExchange} {after : ChatStore}
    (h : call (createDocumentMessage around retrieval currentUser conversationId request) store =
      (.ok exchange, after)) :
    ∃ conversation, Exchanged around currentUser conversation store after exchange := by
  obtain ⟨session, hexec, rfl⟩ := exec_of_call h
  unfold createDocumentMessage at hexec
  obtain ⟨conversation, -, hexec⟩ := passes_of_returned hexec
  obtain ⟨knowledgeBaseId, -, hexec⟩ := reference_of_returned hexec
  obtain ⟨matched, middle, hmatched, hexec⟩ := exec_bind_ok hexec
  rw [exec_outside] at hmatched
  cases hmatched
  rw [exec_createMessageExchange haccepts] at hexec
  cases hexec
  refine ⟨conversation, exchanged_withExchange rfl rfl rfl rfl ?_⟩
  intro citation hcitation
  obtain ⟨draft, hdraft, rfl⟩ := List.mem_map.mp hcitation
  obtain ⟨retrieved, -, rfl⟩ := List.mem_map.mp hdraft
  exact ⟨rfl, rfl⟩

theorem database_exchanged (haccepts : around.commitsRefused = false) {steps : QuerySteps}
    {request : DatabaseMessageCreate} {exchange : MessageExchange} {after : ChatStore}
    (h : call (createDatabaseMessage around steps currentUser conversationId request) store =
      (.ok exchange, after)) :
    ∃ conversation, Exchanged around currentUser conversation store after exchange := by
  obtain ⟨session, hexec, rfl⟩ := exec_of_call h
  have hrest := hexec
  unfold createDatabaseMessage at hrest
  obtain ⟨conversation, hpasses, hrest⟩ := passes_of_returned hrest
  obtain ⟨connectionId, hconnection, -⟩ := reference_of_returned hrest
  cases hquery : runSecureQuery steps currentUser connectionId (strip request.proposed_sql) with
  | error e =>
    rw [exec_database_failed haccepts hpasses hconnection request hquery] at hexec
    cases hexec
  | ok result =>
    obtain ⟨exchange', execution, after, hcompleted, hexchanged, -⟩ :=
      exec_database_completed haccepts hpasses hconnection request hquery
    rw [hcompleted] at hexec
    cases hexec
    exact ⟨conversation, hexchanged⟩

theorem hybrid_exchanged (haccepts : around.commitsRefused = false) {steps : QuerySteps}
    {retrieval : Retrieval} {request : HybridMessageCreate} {exchange : MessageExchange}
    {after : ChatStore}
    (h : call (createHybridMessage around steps retrieval currentUser conversationId request)
      store = (.ok exchange, after)) :
    ∃ conversation, Exchanged around currentUser conversation store after exchange := by
  obtain ⟨session, hexec, rfl⟩ := exec_of_call h
  have hrest := hexec
  unfold createHybridMessage at hrest
  obtain ⟨conversation, hpasses, hrest⟩ := passes_of_returned hrest
  obtain ⟨connectionId, hconnection, hrest⟩ := reference_of_returned hrest
  obtain ⟨knowledgeBaseId, hbase, -⟩ := reference_of_returned hrest
  cases hquery : runSecureQuery steps currentUser connectionId (strip request.proposed_sql) with
  | error e =>
    rw [exec_hybrid_failed haccepts hpasses hconnection hbase retrieval request hquery] at hexec
    cases hexec
  | ok result =>
    cases retrieval with
    | error e =>
      rw [exec_hybrid_notRetrieved hpasses hconnection hbase request hquery] at hexec
      cases hexec
    | ok matched =>
      obtain ⟨exchange', execution, event, after, hcompleted, hexchanged, -⟩ :=
        exec_hybrid_completed haccepts hpasses hconnection hbase request hquery matched
      rw [hcompleted] at hexec
      cases hexec
      exact ⟨conversation, hexchanged⟩

theorem call_exchanged (haccepts : around.commitsRefused = false) {c : ChatCall}
    {exchange : MessageExchange} {after : ChatStore}
    (h : c.result around currentUser conversationId store = (.ok exchange, after)) :
    ∃ conversation, Exchanged around currentUser conversation store after exchange := by
  cases c with
  | document retrieval request => exact document_exchanged haccepts h
  | database steps request => exact database_exchanged haccepts h
  | hybrid steps retrieval request => exact hybrid_exchanged haccepts h

end Returned

/-! ## What the conversations are made of -/

/-- What is known of the messages after some exchanges. -/
structure Recorded (newUuid : Nat → Uuid) (store : ChatStore) (exchanges : List MessageExchange) :
    Prop where
  messages : store.messages = exchanges.flatMap MessageExchange.messages
  together : ∀ exchange ∈ exchanges,
    exchange.assistant_message.message.created_at = exchange.user_message.message.created_at ∧
      exchange.assistant_message.message.fields.tenant_id =
        exchange.user_message.message.fields.tenant_id ∧
      exchange.assistant_message.message.fields.conversation_id =
        exchange.user_message.message.fields.conversation_id
  numbered : ∀ message ∈ store.messages, ∃ i < store.generated, message.id = newUuid i
  distinct : (store.messages.map Stored.id).Nodup

theorem Recorded.exchanged {newUuid : Nat → Uuid} (hnew : Function.Injective newUuid)
    {store after : ChatStore} {exchanges : List MessageExchange} {around : Surroundings}
    {currentUser : User} {conversation : Conversation} {exchange : MessageExchange}
    (h : Recorded newUuid store exchanges) (huuid : around.newUuid = newUuid)
    (hexchanged : Exchanged around currentUser conversation store after exchange) :
    Recorded newUuid after (exchanges ++ [exchange]) := by
  obtain ⟨user, huser, huserConversation, huserTenant⟩ := hexchanged.user
  obtain ⟨assistant, hassistant, hassistantConversation, hassistantTenant⟩ := hexchanged.assistant
  have huserId : exchange.user_message.message.id = newUuid store.generated := by
    rw [huser, ← huuid]
    rfl
  have hassistantId : exchange.assistant_message.message.id = newUuid (store.generated + 1) := by
    rw [hassistant, ← huuid]
    rfl
  have hgenerated := hexchanged.generated
  constructor
  · rw [hexchanged.messages, h.messages, List.flatMap_append]
    rfl
  · intro other hother
    rcases List.mem_append.mp hother with hother | hother
    · exact h.together other hother
    · rw [List.mem_singleton.mp hother, huser, hassistant]
      exact ⟨rfl, hassistantTenant.trans huserTenant.symm,
        hassistantConversation.trans huserConversation.symm⟩
  · intro message hmessage
    rw [hexchanged.messages] at hmessage
    simp only [List.mem_append, List.mem_cons, List.not_mem_nil, or_false] at hmessage
    rcases hmessage with hmessage | rfl | rfl
    · obtain ⟨i, hi, hid⟩ := h.numbered message hmessage
      exact ⟨i, by omega, hid⟩
    · exact ⟨store.generated, by omega, huserId⟩
    · exact ⟨store.generated + 1, by omega, hassistantId⟩
  · rw [hexchanged.messages, List.map_append, List.nodup_append]
    refine ⟨h.distinct, ?_, ?_⟩
    · show [exchange.user_message.message.id, exchange.assistant_message.message.id].Nodup
      rw [huserId, hassistantId, List.nodup_cons]
      refine ⟨?_, List.nodup_singleton _⟩
      intro hmem
      have := hnew (List.mem_singleton.mp hmem)
      omega
    · -- the identifiers of the exchange are newer than all others
      intro old hold new hmem
      obtain ⟨message, hmessage, rfl⟩ := List.mem_map.mp hold
      obtain ⟨i, hi, hid⟩ := h.numbered message hmessage
      simp only [List.map_cons, List.map_nil, List.mem_cons, List.not_mem_nil, or_false] at hmem
      rw [hid]
      intro hsame
      rcases hmem with rfl | rfl
      · have := hnew (hsame.trans huserId)
        omega
      · have := hnew (hsame.trans hassistantId)
        omega

theorem built_recorded {newUuid : Nat → Uuid} (hnew : Function.Injective newUuid)
    {store : ChatStore} {exchanges : List MessageExchange}
    (h : Built newUuid store exchanges) : Recorded newUuid store exchanges := by
  induction h with
  | fresh store hmessages hcitations =>
    constructor
    · exact hmessages
    · intro exchange hexchange
      cases hexchange
    · rw [hmessages]
      intro message hmessage
      cases hmessage
    · rw [hmessages]
      exact List.nodup_nil
  | exchange hbuilt around huuid haccepts currentUser conversationId c hreturned ih =>
    obtain ⟨conversation, hexchanged⟩ := call_exchanged haccepts hreturned
    exact ih.exchanged hnew huuid hexchanged

section Conversation

variable {newUuid : Nat → Uuid} {store : ChatStore} {exchanges : List MessageExchange}

/-- The messages of a conversation are those of its exchanges. -/
theorem Recorded.messagesOf (h : Recorded newUuid store exchanges)
    (tenantId conversationId : Uuid) :
    messagesOf store tenantId conversationId =
      (exchanges.filter (MessageExchange.isIn tenantId conversationId)).flatMap
        MessageExchange.messages := by
  unfold Chat.messagesOf
  rw [h.messages]
  have htogether := h.together
  clear h
  induction exchanges with
  | nil => rfl
  | cons exchange exchanges ih =>
    have hrest := ih (fun other hother => htogether other (List.mem_cons_of_mem _ hother))
    obtain ⟨-, htenant, hconversation⟩ := htogether exchange List.mem_cons_self
    rw [List.flatMap_cons, List.filter_append, hrest, List.filter_cons]
    unfold MessageExchange.isIn MessageExchange.messages
    rw [List.filter_cons, List.filter_cons, htenant, hconversation]
    split <;> simp

theorem Recorded.nodup (h : Recorded newUuid store exchanges) (tenantId conversationId : Uuid) :
    (Chat.messagesOf store tenantId conversationId).Nodup :=
  (List.Nodup.of_map Stored.id h.distinct).filter _

end Conversation

/-! ## The order of the replay -/

theorem getConversationMessages_eq {store : ChatStore} {currentUser : User}
    {conversationId : Uuid} {conversation : Conversation}
    (hfound : getConversationById store currentUser.tenant_id currentUser.id conversationId =
      some conversation) (offset limit : Nat) (reading : Reading) :
    getConversationMessages store currentUser conversationId offset limit reading =
      .ok ((reading.page offset limit).map (fun message =>
        ⟨message, ((reading.citations.foldl appendCitation Dict.empty).get message.id).getD []⟩),
        reading.messages.length) := by
  unfold getConversationMessages
  rw [hfound]
  rfl

/-- Every order of the ties is read by some page that holds all messages. -/
theorem exists_pages {store : ChatStore} {currentUser : User} {conversationId : Uuid}
    {conversation : Conversation}
    (hfound : getConversationById store currentUser.tenant_id currentUser.id conversationId =
      some conversation) {messages : List (Stored Message)} (hne : messages ≠ [])
    (hordered : OrderedBy Stored.created_at
      (messagesOf store currentUser.tenant_id conversationId) messages) :
    ∃ items, Pages store currentUser conversationId messages.length 0 items ∧
      items.map MessageResponse.message = messages := by
  obtain ⟨citations, hcitations⟩ := exists_orderedBy citationKey
    (citationsOf store currentUser.tenant_id (messages.map Stored.id))
  let reading : Reading := ⟨messages, citations⟩
  have hpage : reading.page 0 messages.length = messages := List.take_length
  have hpossible :
      reading.Possible store currentUser.tenant_id conversationId 0 messages.length := by
    refine ⟨hordered, ?_⟩
    rw [hpage]
    exact hcitations
  have hread := getConversationMessages_eq hfound 0 messages.length reading
  have hdone : Pages store currentUser conversationId messages.length (0 + messages.length) [] := by
    apply Pages.done
    rw [hordered.perm.length_eq]
    omega
  refine ⟨_, Pages.page 0 reading hpossible hread (List.length_pos_iff.mpr hne) hdone, ?_⟩
  rw [List.append_nil, List.map_map, hpage]
  exact List.map_id messages

theorem pages_of_empty {store : ChatStore} {currentUser : User} {conversationId : Uuid}
    (hempty : messagesOf store currentUser.tenant_id conversationId = []) {limit offset : Nat}
    {items : List MessageResponse}
    (h : Pages store currentUser conversationId limit offset items) : items = [] := by
  cases h with
  | done => rfl
  | page offset reading hpossible hread hmore hrest =>
    have hnone := hpossible.messages
    rw [hempty, orderedBy_nil] at hnone
    unfold getConversationMessages at hread
    split at hread
    · cases hread
    · cases hread
      rw [hnone] at hmore
      cases hmore

/-- The answer of an exchange may come before its question. -/
theorem not_replaysInOrder {newUuid : Nat → Uuid} {store : ChatStore}
    {exchanges : List MessageExchange} (h : Recorded newUuid store exchanges) {currentUser : User}
    {conversationId : Uuid} {conversation : Conversation}
    (hfound : getConversationById store currentUser.tenant_id currentUser.id conversationId =
      some conversation) {exchange : MessageExchange}
    (hexchange : exchange ∈
      exchanges.filter (MessageExchange.isIn currentUser.tenant_id conversationId)) :
    ¬ ReplaysInOrder store currentUser conversationId exchanges := by
  intro hreplays
  have hassistant : exchange.assistant_message.message ∈
      messagesOf store currentUser.tenant_id conversationId := by
    rw [h.messagesOf]
    refine List.mem_flatMap.mpr ⟨exchange, hexchange, ?_⟩
    simp [MessageExchange.messages]
  -- an order in which the answer is first among the messages of its time
  obtain ⟨front, back, hordered, hfront⟩ :=
    exists_orderedBy_first Stored.created_at hassistant
  obtain ⟨items, hpages, hitems⟩ := exists_pages hfound (by simp) hordered
  have hin := hreplays _ items (List.length_pos_iff.mpr (by simp)) hpages
  obtain ⟨front', back', hpaired⟩ := hin.paired exchange hexchange
  rw [hitems] at hpaired
  have hnodup := hordered.perm.nodup_iff.mpr (h.nodup currentUser.tenant_id conversationId)
  obtain ⟨-, htail, hapart⟩ := List.nodup_append.mp hnodup
  have hnotFront : exchange.assistant_message.message ∉ front :=
    fun hmem => hapart _ hmem _ List.mem_cons_self rfl
  have hnotBack : exchange.assistant_message.message ∉ back := (List.nodup_cons.mp htail).1
  have hsplit : front ++ exchange.assistant_message.message :: back =
      (front' ++ [exchange.user_message.message]) ++
        exchange.assistant_message.message :: back' := by
    rw [hpaired, List.append_assoc]
    rfl
  obtain ⟨rfl, -, -⟩ := (List.append_cons_inj_of_notMem hnotFront hnotBack).mp hsplit
  have hbefore := hfront exchange.user_message.message (by simp)
  rw [(h.together exchange (List.mem_of_mem_filter hexchange)).1] at hbefore
  exact lt_irrefl _ hbefore

theorem replaysInOrder_iff {newUuid : Nat → Uuid} (hnew : Function.Injective newUuid)
    {store : ChatStore} {exchanges : List MessageExchange} (hbuilt : Built newUuid store exchanges)
    {currentUser : User} {conversationId : Uuid} {conversation : Conversation}
    (hfound : getConversationById store currentUser.tenant_id currentUser.id conversationId =
      some conversation) :
    ReplaysInOrder store currentUser conversationId exchanges ↔
      exchanges.filter (MessageExchange.isIn currentUser.tenant_id conversationId) = [] := by
  have hrecorded := built_recorded hnew hbuilt
  constructor
  · intro hreplays
    apply List.eq_nil_iff_forall_not_mem.mpr
    intro exchange hexchange
    exact not_replaysInOrder hrecorded hfound hexchange hreplays
  · intro hnone limit items hlimit hpages
    have hempty := hrecorded.messagesOf currentUser.tenant_id conversationId
    rw [hnone] at hempty
    rw [hnone, pages_of_empty hempty hpages]
    refine ⟨List.Perm.nil, ?_, ?_⟩
    · intro exchange hexchange
      cases hexchange
    · intro exchange hexchange
      cases hexchange

/-! ## A conversation of one exchange -/

/-- Letters stand for identifiers. -/
def letterUuid (n : Nat) : Uuid := String.ofList (List.replicate n 'a')

theorem letterUuid_injective : Function.Injective letterUuid := by
  intro m n h
  have hletters := congrArg (fun uuid : Uuid => uuid.toList.length) h
  simpa [letterUuid] using hletters

def manualsSurroundings : Surroundings := { emailsSurroundings with newUuid := letterUuid }

def manualsStore : ChatStore := emailsStore (emailsConversation "document" (some "manuals"))

def manualsRequest : MessageCreate where
  content := "How is the device reset?"
  content_length := by decide

def manualsCall : ChatCall := .document (.ok []) manualsRequest

theorem manuals_found : getConversationById manualsStore salesAdmin.tenant_id salesAdmin.id
    "chat" = some (emailsConversation "document" (some "manuals")) := by
  rfl

theorem manuals_replays : ReplaysInOrder manualsStore salesAdmin "chat" [] :=
  (replaysInOrder_iff letterUuid_injective (Built.fresh manualsStore rfl rfl)
    manuals_found).mpr rfl

/-- One question about a document: the answer may be listed before it. -/
theorem question_not_replayed : ∃ exchange after,
    manualsCall.result manualsSurroundings salesAdmin "chat" manualsStore =
      (.ok exchange, after) ∧
    ¬ ReplaysInOrder after salesAdmin "chat" [exchange] := by
  have hreturned : ∃ exchange after, manualsCall.result manualsSurroundings salesAdmin "chat"
      manualsStore = (.ok exchange, after) ∧ after.conversations = manualsStore.conversations ∧
      exchange.isIn salesAdmin.tenant_id "chat" = true :=
    ⟨_, _, rfl, rfl, rfl⟩
  obtain ⟨exchange, after, hresult, hconversations, hin⟩ := hreturned
  refine ⟨exchange, after, hresult, ?_⟩
  have hbuilt : Built letterUuid after [exchange] :=
    (Built.fresh manualsStore rfl rfl).exchange manualsSurroundings rfl rfl salesAdmin "chat"
      manualsCall hresult
  have hfound : getConversationById after salesAdmin.tenant_id salesAdmin.id "chat" =
      some (emailsConversation "document" (some "manuals")) := by
    unfold getConversationById
    rw [hconversations]
    exact manuals_found
  rw [replaysInOrder_iff letterUuid_injective hbuilt hfound]
  intro hnone
  exact List.filter_eq_nil_iff.mp hnone exchange (List.mem_singleton_self _) hin

end DataChat.Chat
