import DataChat.Documents.Uploads
import DataChat.Library.Session

/-!
# An upload and its object

`services/document/document_service.py` and `repositories/documents.py`: one call of
`upload_document`, which stores an object and then commits a row. When the row cannot be committed,
the handler deletes the object. `create_document_record` also refreshes the row after the commit,
and an error there has the same handler.

* `exec_refused`, `exec_committed`: how `create_document_record` ends, and what it has committed.
* `inStep_iff`: the row exists exactly when the object does, unless the row is committed and the
  refresh fails.
* `refresh_loses_object`: a row without its object.
-/

namespace DataChat.Documents

open Relational Outcome Platform Transactions

/-! ## The two stores -/

/-- One fault of a call. -/
inductive Fault
  | uploadRejected (message : String)
  | insertFails
  | commitFails
  | refreshFails
deriving DecidableEq

structure StoredObject where
  content : List UInt8
  content_type : String

structure Stores where
  documents : Session DocumentTable
  objects : Dict String StoredObject

def uploadBytes (fault : Option Fault) (objects : Dict String StoredObject) (objectKey : String)
    (content : List UInt8) (contentType : String) : Upload (Dict String StoredObject) :=
  match fault with
  | some (.uploadRejected message) => throw (.objectStorageError message)
  | _ => pure (objects.set objectKey ⟨content, contentType⟩)

def deleteObject (objects : Dict String StoredObject) (objectKey : String) :
    Dict String StoredObject :=
  objects.filterItems (fun item => item.1 ≠ objectKey)

/-! ## The call -/

/-- The exceptions that are a `SQLAlchemyError`. -/
def UploadRaised.isSqlAlchemyError : UploadRaised → Bool
  | .integrityError | .multipleResultsFound | .otherSqlAlchemyError => true
  | _ => false

/-- A statement that fails by this fault. -/
def failsBy (fault : Option Fault) (mine : Fault) : Upload Unit :=
  if fault = some mine then throw .otherSqlAlchemyError else pure ()

/-- The commit flushes the session first, which inserts the row. -/
def createDocumentRecord (fault : Option Fault) (document : DocumentRow) :
    Program UploadRaised DocumentTable DocumentRow := do
  returning (failsBy fault .insertFails)
  let documents ← read
  let inserted ← returning (insertDocument documents document)
  write (fun _ => inserted)
  returning (failsBy fault .commitFails)
  commit
  returning (failsBy fault .refreshFails)
  pure document

def uploadDocument (services : UploadServices) (bases : KnowledgeBaseTable) (currentUser : User)
    (knowledgeBaseId : Uuid) (upload : UploadFile) (documentId : Uuid) (fault : Option Fault)
    (stores : Stores) : Upload DocumentRow × Stores :=
  match checkUpload services bases currentUser knowledgeBaseId upload with
  | .error raised => (.error raised, stores)
  | .ok checked =>
    match requireNew stores.documents.current checked with
    | .error raised => (.error raised, stores)
    | .ok () =>
      let document := newDocument services checked documentId
      match uploadBytes fault stores.objects document.storage_key checked.content
          (contentType checked) with
      | .error raised => (.error raised, stores)
      | .ok objects =>
        match exec (createDocumentRecord fault document) stores.documents with
        | (.ok document, session) => (.ok document, ⟨session, objects⟩)
        | (.error raised, session) =>
          if raised.isSqlAlchemyError then
            (.error raised, ⟨{ session with current := session.committed },
              deleteObject objects document.storage_key⟩)
          else (.error raised, ⟨session, objects⟩)

/-! ## What should hold -/

/-- The row of the new document is committed exactly when its object is stored. -/
def InStep (services : UploadServices) (currentUser : User) (knowledgeBaseId : Uuid)
    (upload : UploadFile) (documentId : Uuid) (stores : Stores) : Prop :=
  (∃ row ∈ stores.documents.committed.rows, row.id = documentId) ↔
    ∃ filename ∈ upload.filename,
      (stores.objects.get (services.buildDocumentStorageKey currentUser.tenant_id knowledgeBaseId
        documentId filename)).isSome = true

/-- The call comes to the insertion, and the constraints accept the row. -/
def ReachesInsert (services : UploadServices) (bases : KnowledgeBaseTable) (currentUser : User)
    (knowledgeBaseId : Uuid) (upload : UploadFile) (documentId : Uuid)
    (documents : DocumentTable) : Prop :=
  ∃ checked, checkUpload services bases currentUser knowledgeBaseId upload = .ok checked ∧
    requireNew documents checked = .ok () ∧
    (insertDocument documents (newDocument services checked documentId)).isOk = true

variable {services : UploadServices} {bases : KnowledgeBaseTable} {currentUser : User}
  {knowledgeBaseId : Uuid} {upload : UploadFile} {documentId : Uuid} {documents : DocumentTable}
  {objects : Dict String StoredObject} {fault : Option Fault} {document : DocumentRow}

/-! ## The row -/

@[simp] theorem failsBy_self (mine : Fault) :
    failsBy (some mine) mine = .error .otherSqlAlchemyError := if_pos rfl

theorem failsBy_of_ne {mine : Fault} (h : fault ≠ some mine) : failsBy fault mine = .ok () :=
  if_neg h

theorem insertDocument_error {raised : UploadRaised}
    (h : insertDocument documents document = .error raised) : raised = .integrityError := by
  unfold insertDocument at h
  split at h
  · cases h
  · cases h
    rfl

/-- The row is not committed: the insertion or the commit fails. -/
theorem exec_refused (h : fault = some .insertFails ∨ fault = some .commitFails ∨
    (insertDocument documents document).isOk = false) :
    ∃ raised session, exec (createDocumentRecord fault document) ⟨documents, documents⟩ =
        (.error raised, session) ∧ raised.isSqlAlchemyError = true ∧
      session.committed = documents := by
  by_cases hinsert : fault = some .insertFails
  · refine ⟨.otherSqlAlchemyError, ⟨documents, documents⟩, ?_, rfl, rfl⟩
    subst hinsert
    simp only [createDocumentRecord, exec_bind, exec_returning, failsBy_self]
  · cases hinserted : insertDocument documents document with
    | error raised =>
      refine ⟨raised, ⟨documents, documents⟩, ?_, by rw [insertDocument_error hinserted]; rfl, rfl⟩
      simp only [createDocumentRecord, exec_bind, exec_returning, exec_read,
        failsBy_of_ne hinsert, hinserted]
    | ok inserted =>
      have hcommit : fault = some .commitFails := by
        rcases h with h | h | h
        · exact absurd h hinsert
        · exact h
        · rw [hinserted] at h
          cases h
      refine ⟨.otherSqlAlchemyError, ⟨documents, inserted⟩, ?_, rfl, rfl⟩
      subst hcommit
      simp only [createDocumentRecord, exec_bind, exec_returning, exec_read, exec_write,
        failsBy_of_ne hinsert, failsBy_self, hinserted]

/-- The row is committed, and then the refresh may fail. -/
theorem exec_committed {inserted : DocumentTable}
    (hinserted : insertDocument documents document = .ok inserted)
    (hinsert : fault ≠ some .insertFails) (hcommit : fault ≠ some .commitFails) :
    exec (createDocumentRecord fault document) ⟨documents, documents⟩ =
      (if fault = some .refreshFails then .error .otherSqlAlchemyError else .ok document,
        ⟨inserted, inserted⟩) := by
  simp only [createDocumentRecord, exec_bind, exec_returning, exec_read, exec_write, exec_commit,
    failsBy_of_ne hinsert, failsBy_of_ne hcommit, hinserted]
  by_cases hrefresh : fault = some .refreshFails
  · subst hrefresh
    simp only [failsBy_self, if_pos]
  · simp only [failsBy_of_ne hrefresh, exec_pure, if_neg hrefresh]

/-! ## The call -/

theorem checkUpload_ok {checked : CheckedUpload}
    (h : checkUpload services bases currentUser knowledgeBaseId upload = .ok checked) :
    upload.filename = some checked.filename ∧ checked.currentUser = currentUser ∧
      checked.knowledgeBaseId = knowledgeBaseId := by
  unfold checkUpload at h
  obtain ⟨-, -, h⟩ := bind_ok_iff.mp h
  obtain ⟨base, -, h⟩ := bind_ok_iff.mp h
  obtain ⟨-, -, h⟩ := bind_ok_iff.mp h
  obtain ⟨filename, hfilename, h⟩ := bind_ok_iff.mp h
  obtain ⟨extension, -, h⟩ := bind_ok_iff.mp h
  obtain ⟨-, -, h⟩ := bind_ok_iff.mp h
  obtain ⟨-, -, h⟩ := bind_ok_iff.mp h
  rw [← pure_ok_iff.mp h]
  refine ⟨?_, rfl, rfl⟩
  unfold requireFilename at hfilename
  split at hfilename
  · exact absurd hfilename throw_ne_ok
  · split at hfilename
    · exact absurd hfilename throw_ne_ok
    · rename_i name hname _
      rw [hname, pure_ok_iff.mp hfilename]

/-- Neither the row nor the object is there. -/
def Fresh (services : UploadServices) (currentUser : User) (knowledgeBaseId documentId : Uuid)
    (documents : DocumentTable) (objects : Dict String StoredObject) : Prop :=
  (∀ row ∈ documents.rows, row.id ≠ documentId) ∧
    ∀ filename, objects.get (services.buildDocumentStorageKey currentUser.tenant_id
      knowledgeBaseId documentId filename) = none

theorem inStep_of_unchanged
    (h : Fresh services currentUser knowledgeBaseId documentId documents objects) :
    InStep services currentUser knowledgeBaseId upload documentId
      ⟨⟨documents, documents⟩, objects⟩ := by
  refine iff_of_false ?_ ?_
  · rintro ⟨row, hrow, hid⟩
    exact h.1 row hrow hid
  · rintro ⟨filename, -, hobject⟩
    rw [h.2 filename] at hobject
    cases hobject

theorem inStep_iff_key {checked : CheckedUpload} {stores : Stores}
    (h : checkUpload services bases currentUser knowledgeBaseId upload = .ok checked) :
    InStep services currentUser knowledgeBaseId upload documentId stores ↔
      ((∃ row ∈ stores.documents.committed.rows, row.id = documentId) ↔
        (stores.objects.get (newDocument services checked documentId).storage_key).isSome =
          true) := by
  obtain ⟨hfilename, huser, hbase⟩ := checkUpload_ok h
  refine iff_congr Iff.rfl ?_
  unfold newDocument
  rw [hfilename, huser, hbase]
  constructor
  · rintro ⟨filename, hsome, hobject⟩
    obtain rfl := Option.some.inj hsome
    exact hobject
  · intro hobject
    exact ⟨checked.filename, rfl, hobject⟩

theorem get_deleteObject (objectKey : String) :
    (deleteObject objects objectKey).get objectKey = none := by
  rw [Dict.get_eq_none_iff]
  intro hkey
  obtain ⟨item, hitem, hsame⟩ := List.mem_map.mp hkey
  have hother := (List.mem_filter.mp hitem).2
  exact of_decide_eq_true hother hsame

theorem uploadBytes_ok (hstored : ∀ message, fault ≠ some (.uploadRejected message))
    (objectKey : String) (content : List UInt8) (contentType : String) :
    uploadBytes fault objects objectKey content contentType =
      .ok (objects.set objectKey ⟨content, contentType⟩) := by
  unfold uploadBytes
  split
  · rename_i message
    exact absurd rfl (hstored message)
  · rfl

section Reached

/-! A call that comes to the insertion. -/

variable {checked : CheckedUpload}
  (hchecked : checkUpload services bases currentUser knowledgeBaseId upload = .ok checked)
  (hnew : requireNew documents checked = .ok ())
  (hstored : ∀ message, fault ≠ some (.uploadRejected message))

include hchecked hnew hstored

/-- The row is not committed, and the handler deletes the object. -/
theorem refused_inStep
    (hfresh : Fresh services currentUser knowledgeBaseId documentId documents objects)
    (hrefused : fault = some .insertFails ∨ fault = some .commitFails ∨
      (insertDocument documents (newDocument services checked documentId)).isOk = false) :
    InStep services currentUser knowledgeBaseId upload documentId
      (uploadDocument services bases currentUser knowledgeBaseId upload documentId fault
        ⟨⟨documents, documents⟩, objects⟩).2 := by
  obtain ⟨raised, session, hexec, hsql, hcommitted⟩ := exec_refused hrefused
  unfold uploadDocument
  simp only [hchecked, hnew, uploadBytes_ok hstored, hexec, hsql, if_true]
  rw [inStep_iff_key hchecked]
  refine iff_of_false ?_ ?_
  · rw [hcommitted]
    rintro ⟨row, hrow, hid⟩
    exact hfresh.1 row hrow hid
  · rw [get_deleteObject]
    exact Bool.false_ne_true

/-- The row is committed, and the object is deleted when the refresh fails. -/
theorem committed_inStep_iff {inserted : DocumentTable}
    (hinserted : insertDocument documents (newDocument services checked documentId) =
      .ok inserted)
    (hinsert : fault ≠ some .insertFails) (hcommit : fault ≠ some .commitFails) :
    InStep services currentUser knowledgeBaseId upload documentId
        (uploadDocument services bases currentUser knowledgeBaseId upload documentId fault
          ⟨⟨documents, documents⟩, objects⟩).2 ↔ fault ≠ some .refreshFails := by
  have hrow : ∃ row ∈ inserted.rows, row.id = documentId := by
    rw [insertDocument_rows hinserted]
    exact ⟨newDocument services checked documentId, by simp, rfl⟩
  unfold uploadDocument
  simp only [hchecked, hnew, uploadBytes_ok hstored, exec_committed hinserted hinsert hcommit]
  by_cases hrefresh : fault = some .refreshFails
  · simp only [if_pos hrefresh, UploadRaised.isSqlAlchemyError, if_true]
    rw [inStep_iff_key hchecked]
    refine iff_of_false (fun h => ?_) (fun h => h hrefresh)
    have hobject := h.mp hrow
    rw [get_deleteObject] at hobject
    cases hobject
  · simp only [if_neg hrefresh]
    rw [inStep_iff_key hchecked]
    refine iff_of_true (iff_of_true hrow ?_) hrefresh
    rw [Dict.get_set_self]
    rfl

theorem reached_inStep_iff
    (hfresh : Fresh services currentUser knowledgeBaseId documentId documents objects) :
    InStep services currentUser knowledgeBaseId upload documentId
        (uploadDocument services bases currentUser knowledgeBaseId upload documentId fault
          ⟨⟨documents, documents⟩, objects⟩).2 ↔
      ¬ (fault = some .refreshFails ∧
        (insertDocument documents (newDocument services checked documentId)).isOk = true) := by
  by_cases hrefused : fault = some .insertFails ∨ fault = some .commitFails ∨
      (insertDocument documents (newDocument services checked documentId)).isOk = false
  · refine iff_of_true (refused_inStep hchecked hnew hstored hfresh hrefused) ?_
    rintro ⟨rfl, hok⟩
    rcases hrefused with h | h | h
    · cases h
    · cases h
    · rw [hok] at h
      cases h
  · obtain ⟨hinsert, hrest⟩ := not_or.mp hrefused
    obtain ⟨hcommit, hok⟩ := not_or.mp hrest
    rw [Bool.not_eq_false] at hok
    cases hinserted : insertDocument documents (newDocument services checked documentId) with
    | error raised =>
      rw [hinserted] at hok
      cases hok
    | ok inserted =>
      rw [committed_inStep_iff hchecked hnew hstored hinserted hinsert hcommit]
      exact not_congr (and_iff_left rfl).symm

end Reached

/-- The row exists exactly when the object does, unless the row is committed and the refresh
fails. -/
theorem inStep_iff (services : UploadServices) (bases : KnowledgeBaseTable) (currentUser : User)
    (knowledgeBaseId : Uuid) (upload : UploadFile) (documentId : Uuid) (documents : DocumentTable)
    (objects : Dict String StoredObject)
    (hfresh : Fresh services currentUser knowledgeBaseId documentId documents objects)
    (fault : Option Fault) :
    InStep services currentUser knowledgeBaseId upload documentId
        (uploadDocument services bases currentUser knowledgeBaseId upload documentId fault
          ⟨⟨documents, documents⟩, objects⟩).2 ↔
      ¬ (fault = some .refreshFails ∧
        ReachesInsert services bases currentUser knowledgeBaseId upload documentId documents) := by
  have hunchanged : InStep services currentUser knowledgeBaseId upload documentId
      ⟨⟨documents, documents⟩, objects⟩ := inStep_of_unchanged hfresh
  cases hchecked : checkUpload services bases currentUser knowledgeBaseId upload with
  | error raised =>
    unfold uploadDocument
    simp only [hchecked]
    refine iff_of_true hunchanged ?_
    rintro ⟨-, checked, hok, -⟩
    rw [hchecked] at hok
    cases hok
  | ok checked =>
    cases hnew : requireNew documents checked with
    | error raised =>
      unfold uploadDocument
      simp only [hchecked, hnew]
      refine iff_of_true hunchanged ?_
      rintro ⟨-, checked', hok, hok', -⟩
      rw [hchecked] at hok
      obtain rfl := Except.ok.inj hok
      rw [hnew] at hok'
      cases hok'
    | ok _ =>
      by_cases hstored : ∀ message, fault ≠ some (.uploadRejected message)
      · rw [reached_inStep_iff hchecked hnew hstored hfresh]
        refine not_congr (and_congr_right fun _ => ⟨fun hok => ⟨checked, hchecked, hnew, hok⟩, ?_⟩)
        rintro ⟨checked', hsame, -, hok⟩
        rw [hchecked] at hsame
        obtain rfl := Except.ok.inj hsame
        exact hok
      · obtain ⟨message, rfl⟩ := not_forall_not.mp hstored
        unfold uploadDocument
        simp only [hchecked, hnew, uploadBytes]
        refine iff_of_true hunchanged ?_
        rintro ⟨hfault, -⟩
        cases hfault

/-! ## Two faults -/

def olderDocument : DocumentRow where
  id := "older"
  tenant_id := "tenant"
  knowledge_base_id := "manuals"
  storage_key := "tenant/manuals/older/report.txt"
  file_extension := "txt"
  status := "pending"
  processing_message := none
  page_count := none
  chunk_count := 0
  uploaded_by := some "admin"
  original_filename := "report.txt"
  content_type := some "text/plain"
  file_size_bytes := 1
  checksum_sha256 := "2d711642b726b04401627ca9fbac32f5c8530fb1903cc4db02258717921a4881"
  document_metadata := []

def olderDocuments : DocumentTable where
  rows := [olderDocument]
  ids := List.nodup_singleton _
  uq_documents_knowledge_base_storage_key := List.pairwise_singleton _ _

def olderObjects : Dict String StoredObject :=
  Dict.empty.set "tenant/manuals/older/report.txt" ⟨[120], "text/plain"⟩

theorem older_fresh : Fresh textServices ⟨"admin", "tenant", true⟩ "manuals" "first"
    olderDocuments olderObjects := by
  constructor
  · decide
  · intro filename
    have hother : "tenant/manuals/older/report.txt" ≠
        textServices.buildDocumentStorageKey "tenant" "manuals" "first" filename := by
      intro hsame
      have hletter := congrArg (fun key : String => key.toList[15]?) hsame
      simp [textServices] at hletter
    exact Dict.get_set_ne _ _ hother.symm

/-- There is a document already, and the commit of the second one fails. -/
theorem notes_inStep :
    InStep textServices ⟨"admin", "tenant", true⟩ "manuals"
      ⟨some "notes.txt", [104, 105], some "text/plain"⟩ "first"
      (uploadDocument textServices manualsBases ⟨"admin", "tenant", true⟩ "manuals"
        ⟨some "notes.txt", [104, 105], some "text/plain"⟩ "first" (some .commitFails)
        ⟨⟨olderDocuments, olderDocuments⟩, olderObjects⟩).2 :=
  (inStep_iff textServices manualsBases ⟨"admin", "tenant", true⟩ "manuals"
    ⟨some "notes.txt", [104, 105], some "text/plain"⟩ "first" olderDocuments olderObjects
    older_fresh (some .commitFails)).mpr (fun h => absurd h.1 (by decide))

def noObjects : Dict String StoredObject := Dict.empty

/-- The row is committed, and the object is deleted. -/
theorem refresh_loses_object :
    ¬ InStep textServices ⟨"admin", "tenant", true⟩ "manuals"
      ⟨some "notes.txt", [104, 105], some "text/plain"⟩ "first"
      (uploadDocument textServices manualsBases ⟨"admin", "tenant", true⟩ "manuals"
        ⟨some "notes.txt", [104, 105], some "text/plain"⟩ "first" (some .refreshFails)
        ⟨⟨⟨[], List.nodup_nil, List.Pairwise.nil⟩, ⟨[], List.nodup_nil, List.Pairwise.nil⟩⟩,
          noObjects⟩).2 := by
  intro h
  have hstep := h.mp (by decide +kernel)
  revert hstep
  decide +kernel

end DataChat.Documents
