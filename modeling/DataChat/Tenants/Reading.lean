import DataChat.Tenants.Definitions

/-!
# What a user reads depends on the rows of the tenant only

One lemma for each service: when a tenant has the same rows in two states, its users get the same
results. Each lemma shows that the rows of every query are the same, in some order; the joins and
the tables without a tenant are where this needs an argument.

* `schema_same`, `chunks_same`, `messages_same`, `auditLogs_same`.
-/

namespace DataChat.Tenants

open Relational Platform

variable {F : Type} {tenantId : Uuid} {user : User}

/-! ## The permission-filtered schema -/

section Schema

variable {store store' : Store}

/-- A connection of the tenant is found in both stores. -/
theorem connection_same (h : store.toTables.Agree tenantId store'.toTables)
    (htenant : user.tenant_id = tenantId) (connectionId : Uuid) :
    getDatabaseConnection store user connectionId =
      getDatabaseConnection store' user connectionId := by
  have hfind : store.connections.find? (fun connection =>
      connection.id = connectionId ∧ connection.tenant_id = user.tenant_id) =
      store'.connections.find? (fun connection =>
        connection.id = connectionId ∧ connection.tenant_id = user.tenant_id) := by
    refine SameRows.find? (SameRows.filter h.connections ?_ ?_) store.keys.connections
      (fun connection hconnection => (of_decide_eq_true hconnection).1)
    all_goals
      intro connection _ hconnection
      exact ⟨decide_eq_true ((of_decide_eq_true hconnection).2.trans htenant), hconnection⟩
  unfold getDatabaseConnection
  rw [hfind]

/-- The roles of a user of the tenant. -/
theorem roleIds_same (h : store.toTables.Agree tenantId store'.toTables)
    (huser : user ∈ store.users) (huser' : user ∈ store'.users)
    (htenant : user.tenant_id = tenantId) :
    (Effective.getUserRoleIds store user.id).Perm (Effective.getUserRoleIds store' user.id) := by
  refine List.Perm.map UserRole.role_id (SameRows.filter h.user_roles ?_ ?_)
  · intro row _ hrow
    exact ⟨UserRole.isOf_iff.mpr ⟨user, huser, (of_decide_eq_true hrow).symm, htenant⟩, hrow⟩
  · intro row _ hrow
    exact ⟨UserRole.isOf_iff.mpr ⟨user, huser', (of_decide_eq_true hrow).symm, htenant⟩, hrow⟩

/-- The joined row of a permission of the tenant is found in both stores. -/
theorem joinTable_same (h : store.toTables.Agree tenantId store'.toTables)
    {permission : TablePermission} {row : Effective.PermissionRow}
    (hjoin : Effective.joinTable store permission = some row)
    (htable : row.table.tenant_id = tenantId) (hschema : row.schema.tenant_id = tenantId) :
    Effective.joinTable store' permission = some row := by
  obtain ⟨table, hlookup, hjoin⟩ := Option.bind_eq_some_iff.mp hjoin
  obtain ⟨schema, hlookupSchema, rfl⟩ := Option.map_eq_some_iff.mp hjoin
  have htable' := (SameRows.lookup h.tables store'.keys.tables hlookup
    (decide_eq_true htable)).1
  have hschema' := (SameRows.lookup h.schemas store'.keys.schemas hlookupSchema
    (decide_eq_true hschema)).1
  unfold Effective.joinTable
  rw [htable', Option.bind_some, hschema', Option.map_some]

theorem isEffective_congr {userId connectionId : Uuid} {roleIds roleIds' : List Uuid}
    (h : roleIds.Perm roleIds') :
    Effective.isEffective tenantId userId connectionId roleIds =
      Effective.isEffective tenantId userId connectionId roleIds' := by
  funext row
  unfold Effective.isEffective
  simp only [h.mem_iff]

theorem tablePermissions_same (h : store.toTables.Agree tenantId store'.toTables)
    (huser : user ∈ store.users) (huser' : user ∈ store'.users)
    (htenant : user.tenant_id = tenantId) (connectionId : Uuid) :
    (Effective.effectiveTablePermissions store user connectionId).Perm
      (Effective.effectiveTablePermissions store' user connectionId) := by
  have hroles := roleIds_same h huser huser' htenant
  have hone : ∀ {first second : Store}, first.toTables.Agree tenantId second.toTables →
      ∀ permission row, (Effective.joinTable first permission).filter
          (Effective.isEffective user.tenant_id user.id connectionId
            (Effective.getUserRoleIds store user.id)) = some row →
        decide (permission.tenant_id = tenantId) = true ∧
          (Effective.joinTable second permission).filter
            (Effective.isEffective user.tenant_id user.id connectionId
              (Effective.getUserRoleIds store user.id)) = some row := by
    intro first second hagree permission row hrow
    obtain ⟨hjoin, heffective⟩ := Option.filter_eq_some_iff.mp hrow
    obtain ⟨hpermission, -, htable, -, -, hschema, -⟩ := of_decide_eq_true heffective
    have hsame : row.permission = permission := by
      obtain ⟨table, -, hjoin⟩ := Option.bind_eq_some_iff.mp hjoin
      obtain ⟨schema, -, rfl⟩ := Option.map_eq_some_iff.mp hjoin
      rfl
    rw [hsame] at hpermission
    refine ⟨decide_eq_true (hpermission.trans htenant), Option.filter_eq_some_iff.mpr ⟨?_,
      heffective⟩⟩
    exact joinTable_same hagree hjoin (htable.trans htenant) (hschema.trans htenant)
  unfold Effective.effectiveTablePermissions
  rw [isEffective_congr hroles.symm, List.filter_filterMap, List.filter_filterMap]
  exact SameRows.filterMap h.table_permissions (fun permission _ row => hone h permission row)
    (fun permission _ row => hone h.symm permission row)

theorem columnPermissions_same (h : store.toTables.Agree tenantId store'.toTables)
    {permissionIds : List Uuid}
    (hids : ∀ id ∈ permissionIds, ∃ permission ∈ store.table_permissions,
      permission.id = id ∧ permission.tenant_id = tenantId) :
    (Effective.effectiveColumnPermissions store tenantId permissionIds).Perm
      (Effective.effectiveColumnPermissions store' tenantId permissionIds) := by
  have hids' : ∀ id ∈ permissionIds, ∃ permission ∈ store'.table_permissions,
      permission.id = id ∧ permission.tenant_id = tenantId := by
    intro id hid
    obtain ⟨permission, hmem, hpermissionId, htenant⟩ := hids id hid
    have hmem' := (SameRows.mem h.table_permissions hmem (decide_eq_true htenant)).1
    exact ⟨permission, hmem', hpermissionId, htenant⟩
  have hone : ∀ {first second : Store}, first.toTables.Agree tenantId second.toTables →
      (∀ id ∈ permissionIds, ∃ permission ∈ first.table_permissions,
        permission.id = id ∧ permission.tenant_id = tenantId) →
      ∀ permission row, (Effective.joinColumn first permission).filter (fun row =>
          row.permission.table_permission_id ∈ permissionIds ∧
            row.column.tenant_id = tenantId) = some row →
        permission.isOf first.table_permissions tenantId = true ∧
          (Effective.joinColumn second permission).filter (fun row =>
            row.permission.table_permission_id ∈ permissionIds ∧
              row.column.tenant_id = tenantId) = some row := by
    intro first second hagree hparents permission row hrow
    obtain ⟨hjoin, hfilter⟩ := Option.filter_eq_some_iff.mp hrow
    obtain ⟨hid, htenant⟩ := of_decide_eq_true hfilter
    obtain ⟨column, hlookup, rfl⟩ := Option.map_eq_some_iff.mp hjoin
    obtain ⟨parent, hparent, hparentId, hparentTenant⟩ := hparents _ hid
    refine ⟨ColumnPermission.isOf_iff.mpr ⟨parent, hparent, hparentId, hparentTenant⟩,
      Option.filter_eq_some_iff.mpr ⟨?_, hfilter⟩⟩
    have hlookup' := (SameRows.lookup hagree.columns second.keys.columns hlookup
      (decide_eq_true htenant)).1
    unfold Effective.joinColumn
    rw [hlookup', Option.map_some]
  unfold Effective.effectiveColumnPermissions
  rw [List.filter_filterMap, List.filter_filterMap]
  exact SameRows.filterMap h.column_permissions
    (fun permission _ row => hone h hids permission row)
    (fun permission _ row => hone h.symm hids' permission row)

/-- The permissions of a schema are the tenant's. -/
theorem readable_owned {connectionId : Uuid} {permissionRows : List Effective.PermissionRow}
    {collation : Effective.Collation} (htenant : user.tenant_id = tenantId)
    (h : OrderedBy (Effective.tableKey collation)
      (Effective.effectiveTablePermissions store user connectionId) permissionRows) :
    ∀ id ∈ (Effective.readable permissionRows).map (fun row => row.permission.id),
      ∃ permission ∈ store.table_permissions,
        permission.id = id ∧ permission.tenant_id = tenantId := by
  intro id hid
  obtain ⟨row, hrow, rfl⟩ := List.mem_map.mp hid
  have hmem := h.mem_iff.mp (List.mem_filter.mp hrow).1
  obtain ⟨hjoined, heffective⟩ := List.mem_filter.mp hmem
  obtain ⟨permission, hpermission, hjoin⟩ := List.mem_filterMap.mp hjoined
  obtain ⟨table, -, hjoin⟩ := Option.bind_eq_some_iff.mp hjoin
  obtain ⟨schema, -, rfl⟩ := Option.map_eq_some_iff.mp hjoin
  exact ⟨permission, hpermission, rfl, (of_decide_eq_true heffective).1.trans htenant⟩

theorem returned_same (h : store.toTables.Agree tenantId store'.toTables)
    (huser : user ∈ store.users) (huser' : user ∈ store'.users)
    (htenant : user.tenant_id = tenantId) {collation : Effective.Collation} {connectionId : Uuid}
    {permissionRows : List Effective.PermissionRow} {columnRows : List Effective.ColumnRow}
    (hreturned : Effective.Returned collation store user connectionId permissionRows columnRows) :
    Effective.Returned collation store' user connectionId permissionRows columnRows := by
  have hcolumns := columnPermissions_same h (readable_owned htenant hreturned.tables)
  constructor
  · exact (orderedBy_congr (tablePermissions_same h huser huser' htenant connectionId)).mp
      hreturned.tables
  · have hordered := hreturned.columns
    rw [htenant] at hordered ⊢
    exact (orderedBy_congr hcolumns).mp hordered

theorem build_same (h : store.toTables.Agree tenantId store'.toTables)
    (htenant : user.tenant_id = tenantId) (connectionId : Uuid)
    (permissionRows : List Effective.PermissionRow) (columnRows : List Effective.ColumnRow) :
    Effective.buildPermissionFilteredSchema store user connectionId permissionRows columnRows =
      Effective.buildPermissionFilteredSchema store' user connectionId permissionRows
        columnRows := by
  unfold Effective.buildPermissionFilteredSchema
  rw [connection_same h htenant]

end Schema

variable {state state' : PlatformState F}

/-- A user of the tenant is a user in both states. -/
theorem user_same (h : state.Agree tenantId state') (huser : user ∈ state.store.users)
    (htenant : user.tenant_id = tenantId) : user ∈ state'.store.users :=
  (SameRows.mem h.store.users huser (decide_eq_true htenant)).1

theorem schema_same (h : state.Agree tenantId state') (huser : user ∈ state.store.users)
    (htenant : user.tenant_id = tenantId) {collation : Effective.Collation} {connectionId : Uuid}
    {result : Service AllowedSchema} (hresult : MayBuild collation state user connectionId result) :
    MayBuild collation state' user connectionId result := by
  obtain ⟨permissionRows, columnRows, hreturned, rfl⟩ := hresult
  refine ⟨permissionRows, columnRows, ?_, build_same h.store htenant _ _ _⟩
  exact returned_same h.store huser (user_same h huser htenant) htenant hreturned

/-! ## Retrieval -/

theorem embedQuery_same (h : state.Agree tenantId state') (htenant : user.tenant_id = tenantId)
    (services : Documents.RetrievalServices F) (knowledgeBaseId : Uuid) (query : String) :
    Documents.embedQuery services state.bases user knowledgeBaseId query =
      Documents.embedQuery services state'.bases user knowledgeBaseId query := by
  have hfind : state.bases.rows.find? (fun base =>
      base.id = knowledgeBaseId ∧ base.tenant_id = user.tenant_id) =
      state'.bases.rows.find? (fun base =>
        base.id = knowledgeBaseId ∧ base.tenant_id = user.tenant_id) := by
    refine SameRows.find? (SameRows.filter h.bases ?_ ?_) state.bases.ids
      (fun base hbase => (of_decide_eq_true hbase).1)
    all_goals
      intro base _ hbase
      exact ⟨decide_eq_true ((of_decide_eq_true hbase).2.trans htenant), hbase⟩
  have hbase : Documents.findBase state.bases user knowledgeBaseId =
      Documents.findBase state'.bases user knowledgeBaseId := by
    unfold Documents.findBase
    rw [hfind]
  unfold Documents.embedQuery
  rw [hbase]

theorem candidates_same (h : state.Agree tenantId state') (knowledgeBaseId : Uuid) :
    (Documents.candidates state.documents state.chunks tenantId knowledgeBaseId).Perm
      (Documents.candidates state'.documents state'.chunks tenantId knowledgeBaseId) := by
  have hone : ∀ {first second : PlatformState F}, first.Agree tenantId second →
      ∀ (chunk : Documents.ChunkRow F) (candidate : Documents.Candidate F),
        (Documents.joinDocument first.documents chunk).filter
          (Documents.isSearched tenantId knowledgeBaseId) = some candidate →
        decide (chunk.tenant_id = tenantId) = true ∧
          (Documents.joinDocument second.documents chunk).filter
            (Documents.isSearched tenantId knowledgeBaseId) = some candidate := by
    intro first second hagree chunk candidate hcandidate
    obtain ⟨hjoin, hsearched⟩ := Option.filter_eq_some_iff.mp hcandidate
    obtain ⟨document, hlookup, hjoin⟩ := Option.bind_eq_some_iff.mp hjoin
    obtain ⟨embedding, hembedding, rfl⟩ := Option.map_eq_some_iff.mp hjoin
    obtain ⟨hchunk, -, hdocument, -⟩ := of_decide_eq_true hsearched
    refine ⟨decide_eq_true hchunk, Option.filter_eq_some_iff.mpr ⟨?_, hsearched⟩⟩
    have hlookup' := (SameRows.lookup hagree.documents second.documents.ids hlookup
      (decide_eq_true hdocument)).1
    unfold Documents.joinDocument
    rw [hlookup', Option.bind_some, hembedding, Option.map_some]
  unfold Documents.candidates
  rw [List.filter_filterMap, List.filter_filterMap]
  exact SameRows.filterMap h.chunks (fun chunk _ candidate => hone h chunk candidate)
    (fun chunk _ candidate => hone h.symm chunk candidate)

theorem requireComparable_perm (vectors : Documents.Pgvector F) (queryEmbedding : List F)
    {found found' : List (Documents.Candidate F)} (h : found.Perm found') :
    Documents.requireComparable vectors queryEmbedding found =
      Documents.requireComparable vectors queryEmbedding found' := by
  unfold Documents.requireComparable
  rw [h.any_eq]

theorem chunks_same (h : state.Agree tenantId state') (htenant : user.tenant_id = tenantId)
    {services : Documents.RetrievalServices F} {knowledgeBaseId : Uuid} {query : String}
    {topK : Nat} {minimumSimilarity : PyFloat} {result : Chat.Retrieval}
    (hresult : MayRetrieve services state user knowledgeBaseId query topK minimumSimilarity
      result) :
    MayRetrieve services state' user knowledgeBaseId query topK minimumSimilarity result := by
  obtain ⟨sorted, hsearched, rfl⟩ := hresult
  have hquery := embedQuery_same h htenant services knowledgeBaseId query
  have hcandidates := candidates_same h knowledgeBaseId
  rw [← htenant] at hcandidates
  refine ⟨sorted, fun queryEmbedding hembedding => ?_, ?_⟩
  · have hordered := hsearched queryEmbedding (hquery.trans hembedding)
    exact (orderedBy_congr (hcandidates.filterMap _)).mp hordered
  · unfold Documents.retrieveRelevantChunks PlatformState.retrievalTables
    dsimp only
    rw [hquery]
    congr 1
    funext queryEmbedding
    rw [requireComparable_perm _ _ hcandidates]

/-! ## Conversations -/

theorem conversation_same (h : state.Agree tenantId state') (htenant : user.tenant_id = tenantId)
    (conversationId : Uuid) :
    Chat.getConversationById state.chatStore user.tenant_id user.id conversationId =
      Chat.getConversationById state'.chatStore user.tenant_id user.id conversationId := by
  refine SameRows.find? (SameRows.filter h.conversations ?_ ?_) state.conversation_ids
    (fun conversation hconversation => (of_decide_eq_true hconversation).1)
  all_goals
    intro conversation _ hconversation
    exact ⟨decide_eq_true ((of_decide_eq_true hconversation).2.1.trans htenant), hconversation⟩

theorem messagesOf_same (h : state.Agree tenantId state') (conversationId : Uuid) :
    (Chat.messagesOf state.chatStore tenantId conversationId).Perm
      (Chat.messagesOf state'.chatStore tenantId conversationId) := by
  refine SameRows.filter h.messages ?_ ?_
  all_goals
    intro message _ hmessage
    exact ⟨decide_eq_true (of_decide_eq_true hmessage).1, hmessage⟩

theorem citationsOf_same (h : state.Agree tenantId state') (messageIds : List Uuid) :
    (Chat.citationsOf state.chatStore tenantId messageIds).Perm
      (Chat.citationsOf state'.chatStore tenantId messageIds) := by
  refine SameRows.filter h.citations ?_ ?_
  all_goals
    intro citation _ hcitation
    exact ⟨decide_eq_true (of_decide_eq_true hcitation).1, hcitation⟩

theorem messages_same (h : state.Agree tenantId state') (htenant : user.tenant_id = tenantId)
    {conversationId : Uuid} {offset limit : Nat}
    {result : Except Chat.Raised (List Chat.MessageResponse × Nat)}
    (hresult : MayReplay state user conversationId offset limit result) :
    MayReplay state' user conversationId offset limit result := by
  obtain ⟨reading, hpossible, rfl⟩ := hresult
  refine ⟨reading, ⟨?_, ?_⟩, ?_⟩
  · have hordered := hpossible.messages
    rw [htenant] at hordered ⊢
    exact (orderedBy_congr (messagesOf_same h conversationId)).mp hordered
  · have hordered := hpossible.citations
    rw [htenant] at hordered ⊢
    exact (orderedBy_congr (citationsOf_same h _)).mp hordered
  · unfold Chat.getConversationMessages
    rw [conversation_same h htenant]

/-! ## Audit logs -/

theorem auditLogs_same (h : state.Agree tenantId state') (htenant : user.tenant_id = tenantId)
    {filters : Audit.AuditFilters} {offset limit : Nat}
    {result : Service (List Audit.AuditLogRow × Nat)}
    (hresult : MayList state user filters offset limit result) :
    MayList state' user filters offset limit result := by
  obtain ⟨sorted, hordered, rfl⟩ := hresult
  have hlisted : (Audit.listedRows state.audit_logs user.tenant_id filters).Perm
      (Audit.listedRows state'.audit_logs user.tenant_id filters) := by
    refine SameRows.filter h.audit_logs ?_ ?_
    all_goals
      intro row _ hrow
      exact ⟨decide_eq_true ((of_decide_eq_true hrow).1.trans htenant), hrow⟩
  refine ⟨sorted, (orderedBy_congr hlisted).mp hordered, ?_⟩
  unfold Audit.listAuditLogs
  rw [hlisted.length_eq]

/-- The users of a tenant get the same from states that agree on the rows of the tenant. -/
theorem reads_same (h : state.Agree tenantId state') (huser : user ∈ state.store.users)
    (htenant : user.tenant_id = tenantId) : SameReads state state' user := by
  have huser' := user_same h huser htenant
  constructor
  · intro collation connectionId result
    exact ⟨schema_same h huser htenant, schema_same h.symm huser' htenant⟩
  · intro services knowledgeBaseId query topK minimumSimilarity result
    exact ⟨chunks_same h htenant, chunks_same h.symm htenant⟩
  · intro conversationId offset limit result
    exact ⟨messages_same h htenant, messages_same h.symm htenant⟩
  · intro filters offset limit result
    exact ⟨auditLogs_same h htenant, auditLogs_same h.symm htenant⟩

end DataChat.Tenants
