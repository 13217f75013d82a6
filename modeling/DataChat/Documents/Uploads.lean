import DataChat.Documents.Definitions
import DataChat.Library.Runs
import DataChat.Library.SameRows

/-!
# Uploads that overlap

`services/document/document_service.py`. A call of `upload_document` looks for a document with the
checksum of the upload, stores the object, and then inserts a row. While the object is stored, other
calls go on. The row is checked against the primary key and against
`uq_documents_knowledge_base_storage_key`; no constraint mentions the checksum.

* `step_unique_iff`: one step keeps the checksums of a knowledge base distinct exactly when no call
  inserts a checksum that another call has inserted since it looked.
* `uploads_safe_iff`: the same for whole runs.
* `overlap_not_safe`: two uploads of one file.
-/

namespace DataChat.Documents

open Relational Outcome Platform Runs

/-! ## Rows -/

structure KnowledgeBaseRow extends KnowledgeBase where
  is_active : Bool

structure DocumentRow extends Document where
  uploaded_by : Option Uuid
  original_filename : String
  content_type : Option String
  file_size_bytes : Nat
  checksum_sha256 : String
  document_metadata : JsonObject

structure KnowledgeBaseTable where
  rows : List KnowledgeBaseRow
  ids : PrimaryKey (fun base => base.id) rows

structure DocumentTable where
  rows : List DocumentRow
  ids : PrimaryKey (fun document => document.id) rows
  uq_documents_knowledge_base_storage_key :
    UniqueKey (fun document => some (document.knowledge_base_id, document.storage_key)) rows

/-- The exceptions of an upload. -/
inductive UploadRaised
  | refused (error : Platform.Raised)
  | knowledgeBaseNotFoundError (message : String)
  | invalidDocumentError (message : String)
  | duplicateDocumentError (message : String)
  | objectStorageError (message : String)
  | integrityError
  | multipleResultsFound
  | otherSqlAlchemyError
deriving DecidableEq

abbrev Upload := Except UploadRaised

/-! ## Validation -/

/-- `Path(filename).name`. -/
def pathName (filename : String) : List Char :=
  ((filename.toList.splitOn '/').filter (fun part => part ≠ [] ∧ part ≠ ['.'])).getLastD []

/-- `Path(filename).suffix`: from the last dot on, which is neither the first nor the last
character. -/
def pathSuffix (filename : String) : String :=
  let name := pathName filename
  let after := (name.reverse.takeWhile (fun c => c ≠ '.')).reverse
  if after = [] ∨ name.length ≤ after.length + 1 then "" else String.ofList ('.' :: after)

/-- `text.lstrip(".")`. -/
def lstripDots (text : String) : String :=
  String.ofList (text.toList.dropWhile (fun c => c = '.'))

structure UploadSettings where
  allowed_extensions : List String
  max_upload_size_mb : Nat

structure UploadFile where
  filename : Option String
  content : List UInt8
  content_type : Option String

/-- What an upload takes from elsewhere. `build_document_storage_key` is not part of the
repository. -/
structure UploadServices where
  py : Casing
  settings : UploadSettings
  calculateSha256 : List UInt8 → String
  buildDocumentStorageKey : Uuid → Uuid → Uuid → String → String

def normalizeExtension (py : Casing) (filename : String) : Upload String :=
  let extension := lstripDots (py.lower (pathSuffix filename))
  if extension = "" then
    throw (.invalidDocumentError "The uploaded file does not have an extension.")
  else pure extension

def validateFileExtension (services : UploadServices) (extension : String) : Upload Unit :=
  if extension ∈ services.settings.allowed_extensions.map
      (fun item => lstripDots (services.py.lower item)) then pure ()
  else throw (.invalidDocumentError "The uploaded file type is not supported.")

def validateFileSize (settings : UploadSettings) (content : List UInt8) : Upload Unit :=
  if content = [] then throw (.invalidDocumentError "An empty file cannot be uploaded.")
  else if settings.max_upload_size_mb * 1024 * 1024 < content.length then
    throw (.invalidDocumentError "The uploaded file exceeds the maximum size.")
  else pure ()

def findKnowledgeBase (bases : KnowledgeBaseTable) (currentUser : User) (knowledgeBaseId : Uuid) :
    Upload KnowledgeBaseRow :=
  match bases.rows.find? (fun base =>
      base.id = knowledgeBaseId ∧ base.tenant_id = currentUser.tenant_id) with
  | some base => pure base
  | none => throw (.knowledgeBaseNotFoundError "Knowledge base was not found.")

def requireActive (base : KnowledgeBaseRow) : Upload Unit :=
  if base.is_active then pure ()
  else throw (.invalidDocumentError "The selected knowledge base is disabled.")

def requireFilename : Option String → Upload String
  | none => throw (.invalidDocumentError "The uploaded filename is required.")
  | some filename =>
    if filename = "" then throw (.invalidDocumentError "The uploaded filename is required.")
    else pure filename

/-- An upload that has passed the checks. -/
structure CheckedUpload where
  currentUser : User
  knowledgeBaseId : Uuid
  filename : String
  extension : String
  content : List UInt8
  content_type : Option String
  checksum_sha256 : String

/-- `upload_document` up to the search for the checksum. -/
def checkUpload (services : UploadServices) (bases : KnowledgeBaseTable) (currentUser : User)
    (knowledgeBaseId : Uuid) (upload : UploadFile) : Upload CheckedUpload := do
  (requireTenantAdministrator currentUser).mapError .refused
  let base ← findKnowledgeBase bases currentUser knowledgeBaseId
  requireActive base
  let filename ← requireFilename upload.filename
  let extension ← normalizeExtension services.py filename
  validateFileExtension services extension
  validateFileSize services.settings upload.content
  pure
    { currentUser := currentUser
      knowledgeBaseId := knowledgeBaseId
      filename := filename
      extension := extension
      content := upload.content
      content_type := upload.content_type
      checksum_sha256 := services.calculateSha256 upload.content }

/-! ## Reading and inserting -/

/-- `scalar_one_or_none` raises an error when there is more than one row. -/
def getDocumentByChecksum (documents : DocumentTable) (tenantId knowledgeBaseId : Uuid)
    (checksum : String) : Upload (Option DocumentRow) :=
  match documents.rows.filter (fun document => document.tenant_id = tenantId ∧
      document.knowledge_base_id = knowledgeBaseId ∧ document.checksum_sha256 = checksum) with
  | [] => pure none
  | [document] => pure (some document)
  | _ => throw .multipleResultsFound

def requireNew (documents : DocumentTable) (upload : CheckedUpload) : Upload Unit := do
  match ← getDocumentByChecksum documents upload.currentUser.tenant_id upload.knowledgeBaseId
      upload.checksum_sha256 with
  | none => pure ()
  | some _ => throw (.duplicateDocumentError "This document already exists in the knowledge base.")

/-- `upload.content_type or "application/octet-stream"`. -/
def contentType (upload : CheckedUpload) : String :=
  match upload.content_type with
  | none | some "" => "application/octet-stream"
  | some contentType => contentType

def newDocument (services : UploadServices) (upload : CheckedUpload) (documentId : Uuid) :
    DocumentRow where
  id := documentId
  tenant_id := upload.currentUser.tenant_id
  knowledge_base_id := upload.knowledgeBaseId
  uploaded_by := some upload.currentUser.id
  original_filename := upload.filename
  storage_key := services.buildDocumentStorageKey upload.currentUser.tenant_id
    upload.knowledgeBaseId documentId upload.filename
  content_type := some (contentType upload)
  file_extension := upload.extension
  file_size_bytes := upload.content.length
  checksum_sha256 := upload.checksum_sha256
  status := "pending"
  processing_message := some "The document is waiting to be processed."
  page_count := none
  chunk_count := 0
  document_metadata := []

/-- The end of the `INSERT`: the constraints are checked. -/
def insertDocument (documents : DocumentTable) (document : DocumentRow) : Upload DocumentTable :=
  if h : PrimaryKey (fun row => row.id) (documents.rows ++ [document]) ∧
      UniqueKey (fun row => some (row.knowledge_base_id, row.storage_key))
        (documents.rows ++ [document]) then
    pure ⟨documents.rows ++ [document], h.1, h.2⟩
  else throw .integrityError

/-! ## Calls -/

/-- How far a call has come. -/
inductive Phase
  | checked (upload : CheckedUpload)
  /-- The object is being stored. The call has seen the first rows of the table. -/
  | storing (document : DocumentRow) (seen : Nat)
  | ended (outcome : Upload DocumentRow)

structure UploadState where
  bases : KnowledgeBaseTable
  documents : DocumentTable
  /-- The calls, in the order in which they were made. -/
  calls : List Phase

/-- How the storage of the object and the commit end. -/
inductive Finish
  | notStored (message : String)
  | commitRefused
  | refreshFails
  | saved

inductive Event
  | call (currentUser : User) (knowledgeBaseId : Uuid) (upload : UploadFile)
  /-- The call at this place looks for the checksum, and draws an identifier. -/
  | search (place : Nat) (documentId : Uuid)
  | finish (place : Nat) (finish : Finish)

/-- A call after its checks. -/
def afterChecks (checked : Upload CheckedUpload) : Phase :=
  match checked with
  | .ok upload => .checked upload
  | .error raised => .ended (.error raised)

/-- A call after its search. -/
def afterSearch (services : UploadServices) (documents : DocumentTable) (upload : CheckedUpload)
    (documentId : Uuid) : Phase :=
  match requireNew documents upload with
  | .ok () => .storing (newDocument services upload documentId) documents.rows.length
  | .error raised => .ended (.error raised)

def UploadState.begin (services : UploadServices) (state : UploadState) (currentUser : User)
    (knowledgeBaseId : Uuid) (upload : UploadFile) : UploadState :=
  let checked := checkUpload services state.bases currentUser knowledgeBaseId upload
  { state with calls := state.calls ++ [afterChecks checked] }

/-- The call at a place comes to another phase. -/
def UploadState.setCall (state : UploadState) (place : Nat) (phase : Phase) : UploadState :=
  { state with calls := state.calls.set place phase }

def UploadState.search (services : UploadServices) (state : UploadState) (place : Nat)
    (documentId : Uuid) : UploadState :=
  match state.calls[place]? with
  | some (.checked upload) =>
    state.setCall place (afterSearch services state.documents upload documentId)
  | _ => state

/-- The `INSERT`, the commit and the refresh. After an error the object is deleted. -/
def UploadState.insert (state : UploadState) (place : Nat) (document : DocumentRow)
    (outcome : Upload DocumentRow) : UploadState :=
  match insertDocument state.documents document with
  | .ok documents => { state with documents := documents }.setCall place (.ended outcome)
  | .error raised => state.setCall place (.ended (.error raised))

def UploadState.finish (state : UploadState) (place : Nat) (finish : Finish) : UploadState :=
  match state.calls[place]? with
  | some (.storing document _) =>
    match finish with
    | .notStored message => state.setCall place (.ended (.error (.objectStorageError message)))
    | .commitRefused => state.setCall place (.ended (.error .otherSqlAlchemyError))
    | .refreshFails => state.insert place document (.error .otherSqlAlchemyError)
    | .saved => state.insert place document (.ok document)
  | _ => state

/-- One step of one call. A step that the call is not ready for changes nothing. -/
def UploadState.step (services : UploadServices) (state : UploadState) : Event → UploadState
  | .call currentUser knowledgeBaseId upload =>
    state.begin services currentUser knowledgeBaseId upload
  | .search place documentId => state.search services place documentId
  | .finish place finish => state.finish place finish

theorem noDocuments_uniqueKey : UniqueKey
    (fun document : DocumentRow => some (document.knowledge_base_id, document.storage_key)) [] :=
  List.Pairwise.nil

/-- No documents and no calls. -/
def UploadState.initial (bases : KnowledgeBaseTable) : UploadState :=
  ⟨bases, ⟨[], List.nodup_nil, noDocuments_uniqueKey⟩, []⟩

/-! ## Duplicates -/

/-- What two documents of a knowledge base should not share. -/
def documentKey (document : DocumentRow) : Uuid × String :=
  (document.knowledge_base_id, document.checksum_sha256)

/-- No two documents of a knowledge base have one checksum, and every search for a checksum
succeeds. -/
structure UploadState.Safe (state : UploadState) : Prop where
  unique : PrimaryKey documentKey state.documents.rows
  readable : ∀ tenantId knowledgeBaseId checksum,
    (getDocumentByChecksum state.documents tenantId knowledgeBaseId checksum).isOk = true

/-- Whether the row is committed, unless a constraint refuses it. -/
def Finish.commits : Finish → Bool
  | .refreshFails | .saved => true
  | .notStored _ | .commitRefused => false

/-- A call that inserts a document does so before any other call has inserted its checksum since it
looked. -/
def UploadState.Alone (state : UploadState) : Event → Prop
  | .finish place finish =>
    ∀ document seen, state.calls[place]? = some (.storing document seen) →
      finish.commits = true → (insertDocument state.documents document).isOk = true →
        ∀ row ∈ state.documents.rows.drop seen, documentKey row ≠ documentKey document
  | _ => True

variable {services : UploadServices} {state : UploadState} {documents : DocumentTable}

theorem safe_iff : state.Safe ↔ PrimaryKey documentKey state.documents.rows := by
  refine ⟨fun h => h.unique, fun h => ⟨h, fun tenantId knowledgeBaseId checksum => ?_⟩⟩
  have hlength := filter_length_le_one h (k := (knowledgeBaseId, checksum))
    (p := fun document => decide (document.tenant_id = tenantId ∧
      document.knowledge_base_id = knowledgeBaseId ∧ document.checksum_sha256 = checksum))
    (fun row hrow => Prod.ext (of_decide_eq_true hrow).2.1 (of_decide_eq_true hrow).2.2)
  unfold getDocumentByChecksum
  generalize state.documents.rows.filter (fun document => document.tenant_id = tenantId ∧
    document.knowledge_base_id = knowledgeBaseId ∧ document.checksum_sha256 = checksum) = found
    at hlength ⊢
  match found with
  | [] => rfl
  | [row] => rfl
  | _ :: _ :: _ => simp at hlength

/-! ## What a step does -/

theorem insertDocument_rows {document : DocumentRow} {documents' : DocumentTable}
    (h : insertDocument documents document = .ok documents') :
    documents'.rows = documents.rows ++ [document] := by
  unfold insertDocument at h
  split at h
  · rw [← pure_ok_iff.mp h]
  · exact absurd h throw_ne_ok

/-- The knowledge base is the tenant's. -/
def KnowledgeBaseTable.Owns (bases : KnowledgeBaseTable) (knowledgeBaseId tenantId : Uuid) : Prop :=
  ∃ base ∈ bases.rows, base.id = knowledgeBaseId ∧ base.tenant_id = tenantId

theorem KnowledgeBaseTable.Owns.unique {bases : KnowledgeBaseTable}
    {knowledgeBaseId tenantId tenantId' : Uuid} (h : bases.Owns knowledgeBaseId tenantId)
    (h' : bases.Owns knowledgeBaseId tenantId') : tenantId = tenantId' := by
  obtain ⟨base, hbase, hid, htenant⟩ := h
  obtain ⟨base', hbase', hid', htenant'⟩ := h'
  have hsame := bases.ids.eq_of_key hbase hbase' (hid.trans hid'.symm)
  rw [← htenant, ← htenant', hsame]

theorem checkUpload_owns {bases : KnowledgeBaseTable} {currentUser : User}
    {knowledgeBaseId : Uuid} {upload : UploadFile} {checked : CheckedUpload}
    (h : checkUpload services bases currentUser knowledgeBaseId upload = .ok checked) :
    bases.Owns checked.knowledgeBaseId checked.currentUser.tenant_id := by
  unfold checkUpload at h
  obtain ⟨-, -, h⟩ := bind_ok_iff.mp h
  obtain ⟨base, hbase, h⟩ := bind_ok_iff.mp h
  obtain ⟨-, -, h⟩ := bind_ok_iff.mp h
  obtain ⟨filename, -, h⟩ := bind_ok_iff.mp h
  obtain ⟨extension, -, h⟩ := bind_ok_iff.mp h
  obtain ⟨-, -, h⟩ := bind_ok_iff.mp h
  obtain ⟨-, -, h⟩ := bind_ok_iff.mp h
  rw [← pure_ok_iff.mp h]
  unfold findKnowledgeBase at hbase
  split at hbase
  · rename_i found hfound
    exact ⟨found, List.mem_of_find?_eq_some hfound, by simpa using List.find?_some hfound⟩
  · exact absurd hbase throw_ne_ok

/-- A search that finds nothing. -/
theorem requireNew_ok {upload : CheckedUpload} (h : requireNew documents upload = .ok ()) :
    ∀ row ∈ documents.rows, ¬ (row.tenant_id = upload.currentUser.tenant_id ∧
      row.knowledge_base_id = upload.knowledgeBaseId ∧
      row.checksum_sha256 = upload.checksum_sha256) := by
  obtain ⟨found, hfound, h⟩ := bind_ok_iff.mp h
  cases found with
  | some document => exact absurd h throw_ne_ok
  | none =>
    unfold getDocumentByChecksum at hfound
    split at hfound
    · rename_i hnil
      intro row hrow
      simpa using List.filter_eq_nil_iff.mp hnil row hrow
    · cases hfound
    · cases hfound

/-- What every run keeps: documents and calls belong to knowledge bases of their tenants, and a call
that stores its object has not seen its checksum. -/
structure UploadState.Orderly (state : UploadState) : Prop where
  documents : ∀ document ∈ state.documents.rows,
    state.bases.Owns document.knowledge_base_id document.tenant_id
  checked : ∀ upload, Phase.checked upload ∈ state.calls →
    state.bases.Owns upload.knowledgeBaseId upload.currentUser.tenant_id
  storing : ∀ document seen, Phase.storing document seen ∈ state.calls →
    state.bases.Owns document.knowledge_base_id document.tenant_id ∧
      seen ≤ state.documents.rows.length ∧
      ∀ row ∈ state.documents.rows.take seen, documentKey row ≠ documentKey document

/-- A call may always end. -/
theorem UploadState.Orderly.ended (h : state.Orderly) (place : Nat)
    (outcome : Upload DocumentRow) : (state.setCall place (.ended outcome)).Orderly where
  documents := h.documents
  checked := by
    intro upload hmem
    rcases List.mem_or_eq_of_mem_set hmem with hmem | heq
    · exact h.checked upload hmem
    · cases heq
  storing := by
    intro document seen hmem
    rcases List.mem_or_eq_of_mem_set hmem with hmem | heq
    · exact h.storing document seen hmem
    · cases heq

theorem UploadState.Orderly.begin (h : state.Orderly) (currentUser : User)
    (knowledgeBaseId : Uuid) (upload : UploadFile) :
    (state.begin services currentUser knowledgeBaseId upload).Orderly where
  documents := h.documents
  checked := by
    intro checked hmem
    rcases List.mem_append.mp hmem with hmem | hmem
    · exact h.checked checked hmem
    · have heq := List.mem_singleton.mp hmem
      unfold afterChecks at heq
      split at heq
      · rename_i passed hpassed
        rw [Phase.checked.inj heq]
        exact checkUpload_owns hpassed
      · cases heq
  storing := by
    intro document seen hmem
    rcases List.mem_append.mp hmem with hmem | hmem
    · exact h.storing document seen hmem
    · have heq := List.mem_singleton.mp hmem
      unfold afterChecks at heq
      split at heq <;> cases heq

/-- A call that has found nothing has not seen its checksum. -/
theorem UploadState.Orderly.search (h : state.Orderly) (place : Nat) (documentId : Uuid) :
    (state.search services place documentId).Orderly := by
  unfold UploadState.search
  split
  · rename_i upload hplace
    have howns := h.checked upload (List.mem_of_getElem? hplace)
    unfold afterSearch
    split
    · rename_i hnew
      have hfree := requireNew_ok hnew
      refine ⟨h.documents, fun other hmem => ?_, fun document seen hmem => ?_⟩
      · rcases List.mem_or_eq_of_mem_set hmem with hmem | heq
        · exact h.checked other hmem
        · cases heq
      · rcases List.mem_or_eq_of_mem_set hmem with hmem | heq
        · exact h.storing document seen hmem
        · obtain ⟨rfl, rfl⟩ := Phase.storing.inj heq
          refine ⟨howns, Nat.le_refl _, fun row hrow hkey => ?_⟩
          have hrow' := List.mem_of_mem_take hrow
          obtain ⟨hbase, hchecksum⟩ := Prod.mk.inj hkey
          have hrowOwns := h.documents row hrow'
          rw [hbase] at hrowOwns
          exact hfree row hrow' ⟨hrowOwns.unique howns, hbase, hchecksum⟩
    · exact h.ended place _
  · exact h

theorem UploadState.Orderly.insert (h : state.Orderly) {place : Nat} {document : DocumentRow}
    {seen : Nat} (hplace : state.calls[place]? = some (.storing document seen))
    (outcome : Upload DocumentRow) : (state.insert place document outcome).Orderly := by
  obtain ⟨howns, -, -⟩ := h.storing document seen (List.mem_of_getElem? hplace)
  unfold UploadState.insert
  split
  · rename_i documents hinsert
    have hrows := insertDocument_rows hinsert
    suffices hinserted : ({ state with documents := documents } : UploadState).Orderly from
      hinserted.ended place outcome
    refine ⟨?_, h.checked, ?_⟩
    · intro row hrow
      dsimp only at hrow
      rw [hrows] at hrow
      rcases List.mem_append.mp hrow with hrow | hrow
      · exact h.documents row hrow
      · rw [List.mem_singleton.mp hrow]
        exact howns
    · intro other seen' hmem
      obtain ⟨hother, hle, hfree⟩ := h.storing other seen' hmem
      refine ⟨hother, ?_, ?_⟩
      · dsimp only
        rw [hrows, List.length_append]
        omega
      · dsimp only
        rw [hrows, List.take_append_of_le_length hle]
        exact hfree
  · exact h.ended place _

theorem UploadState.Orderly.step (h : state.Orderly) (event : Event) :
    (state.step services event).Orderly := by
  cases event with
  | call currentUser knowledgeBaseId upload => exact h.begin currentUser knowledgeBaseId upload
  | search place documentId => exact h.search place documentId
  | finish place finish =>
    show (state.finish place finish).Orderly
    unfold UploadState.finish
    split
    · rename_i document seen hplace
      cases finish with
      | notStored message => exact h.ended place _
      | commitRefused => exact h.ended place _
      | refreshFails => exact h.insert hplace _
      | saved => exact h.insert hplace _
    · exact h

/-! ## When the checksums stay distinct -/

/-- An insertion keeps the checksums distinct when no row has been added since the search that has
the checksum. -/
theorem insert_safe_iff (h : state.Orderly) (hsafe : state.Safe) {place seen : Nat}
    {document : DocumentRow} (hplace : state.calls[place]? = some (.storing document seen))
    (outcome : Upload DocumentRow) :
    (state.insert place document outcome).Safe ↔
      ((insertDocument state.documents document).isOk = true →
        ∀ row ∈ state.documents.rows.drop seen, documentKey row ≠ documentKey document) := by
  obtain ⟨-, -, hfree⟩ := h.storing document seen (List.mem_of_getElem? hplace)
  unfold UploadState.insert
  rw [safe_iff]
  cases hinsert : insertDocument state.documents document with
  | error raised =>
    refine iff_of_true hsafe.unique (fun hok => ?_)
    cases hok
  | ok documents =>
    show PrimaryKey documentKey documents.rows ↔ _
    rw [insertDocument_rows hinsert, primaryKey_append hsafe.unique]
    constructor
    · intro hall _ row hrow
      exact hall row (List.mem_of_mem_drop hrow)
    · intro hlater row hrow
      rw [← List.take_append_drop seen state.documents.rows] at hrow
      rcases List.mem_append.mp hrow with hrow | hrow
      · exact hfree row hrow
      · exact hlater rfl row hrow

theorem alone_iff {place seen : Nat} {document : DocumentRow} {finish : Finish}
    (hplace : state.calls[place]? = some (.storing document seen)) :
    state.Alone (.finish place finish) ↔
      (finish.commits = true → (insertDocument state.documents document).isOk = true →
        ∀ row ∈ state.documents.rows.drop seen, documentKey row ≠ documentKey document) := by
  constructor
  · intro hall
    exact hall document seen hplace
  · intro hone document' seen' hplace'
    rw [hplace] at hplace'
    obtain ⟨rfl, rfl⟩ := Phase.storing.inj (Option.some.inj hplace')
    exact hone

/-- A step that leaves the documents alone. -/
theorem safe_of_documents {after : UploadState} (hsafe : state.Safe)
    (h : after.documents = state.documents) : after.Safe := by
  rw [safe_iff, h]
  exact hsafe.unique

theorem finish_safe_iff (h : state.Orderly) (hsafe : state.Safe) (place : Nat) (finish : Finish) :
    (state.finish place finish).Safe ↔ state.Alone (.finish place finish) := by
  unfold UploadState.finish
  split
  · rename_i document seen hplace
    rw [alone_iff hplace]
    cases finish with
    | notStored message =>
      exact iff_of_true (safe_of_documents hsafe rfl) (fun hcommits => by cases hcommits)
    | commitRefused =>
      exact iff_of_true (safe_of_documents hsafe rfl) (fun hcommits => by cases hcommits)
    | refreshFails =>
      refine (insert_safe_iff h hsafe hplace _).trans ⟨fun hinsert _ => hinsert, fun hall => ?_⟩
      exact hall rfl
    | saved =>
      refine (insert_safe_iff h hsafe hplace _).trans ⟨fun hinsert _ => hinsert, fun hall => ?_⟩
      exact hall rfl
  · rename_i hnone
    refine iff_of_true hsafe (fun document seen hplace => ?_)
    exact absurd hplace (hnone document seen)

/-- One step keeps the checksums distinct exactly when it meets the condition. -/
theorem step_safe_iff (h : state.Orderly) (hsafe : state.Safe) (event : Event) :
    (state.step services event).Safe ↔ state.Alone event := by
  cases event with
  | call currentUser knowledgeBaseId upload =>
    exact iff_of_true (safe_of_documents hsafe rfl) trivial
  | search place documentId =>
    have hsame : (state.search services place documentId).documents = state.documents := by
      unfold UploadState.search
      split <;> rfl
    exact iff_of_true (safe_of_documents hsafe hsame) trivial
  | finish place finish => exact finish_safe_iff h hsafe place finish

/-- In a run, no knowledge base ever has two documents with one checksum, and every search for a
checksum succeeds, exactly when each call that inserts a document does so before any other call has
inserted its checksum since it looked. -/
theorem uploads_safe_iff (services : UploadServices) (bases : KnowledgeBaseTable)
    (events : List Event) :
    Throughout (UploadState.step services) UploadState.Safe (UploadState.initial bases) events ↔
      Met (UploadState.step services) UploadState.Alone (UploadState.initial bases) events := by
  have horderly : (UploadState.initial bases).Orderly :=
    ⟨fun document h => absurd h List.not_mem_nil, fun upload h => absurd h List.not_mem_nil,
      fun document seen h => absurd h List.not_mem_nil⟩
  have hsafe : (UploadState.initial bases).Safe := safe_iff.mpr List.nodup_nil
  exact throughout_iff (I := UploadState.Orderly) (fun state event h _ => h.step event)
    (fun state event h hsafe => step_safe_iff h hsafe event) horderly hsafe events

/-! ## Two uploads of one file -/

def manualsBases : KnowledgeBaseTable where
  rows := [⟨⟨"manuals", "tenant", "model", 384, 800, 120⟩, true⟩]
  ids := by decide

def textServices : UploadServices where
  py := asciiCasing
  settings := ⟨["pdf", "docx", "xlsx", "xls", "csv", "txt"], 25⟩
  calculateSha256 content :=
    if content = [104, 105] then
      "8f434346648f6b96df89dda901c5176b10a6d83961dd3c1ac88b59b2dc327aa4"
    else ""
  buildDocumentStorageKey tenantId knowledgeBaseId documentId filename :=
    tenantId ++ "/" ++ knowledgeBaseId ++ "/" ++ documentId ++ "/" ++ filename

def hiUpload : Event := .call ⟨"admin", "tenant", true⟩ "manuals"
  ⟨some "notes.txt", [104, 105], some "text/plain"⟩

/-- Both calls look for the checksum before either inserts it. -/
def overlappingUploads : List Event :=
  [hiUpload, hiUpload, .search 0 "first", .search 1 "second", .finish 0 .saved, .finish 1 .saved]

def overlappedState : UploadState :=
  run (UploadState.step textServices) (UploadState.initial manualsBases) overlappingUploads

theorem overlap_not_safe :
    (getDocumentByChecksum overlappedState.documents "tenant" "manuals"
        (textServices.calculateSha256 [104, 105])).isOk = false ∧
      ¬ Throughout (UploadState.step textServices) UploadState.Safe
        (UploadState.initial manualsBases) overlappingUploads := by
  have hfails : (getDocumentByChecksum overlappedState.documents "tenant" "manuals"
      (textServices.calculateSha256 [104, 105])).isOk = false := by
    decide +kernel
  refine ⟨hfails, fun h => ?_⟩
  have hreadable := h.last.readable "tenant" "manuals" (textServices.calculateSha256 [104, 105])
  change (getDocumentByChecksum overlappedState.documents _ _ _).isOk = true at hreadable
  rw [hfails] at hreadable
  cases hreadable

end DataChat.Documents
