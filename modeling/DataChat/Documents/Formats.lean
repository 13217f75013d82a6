import DataChat.Documents.Decoding
import DataChat.Documents.Splitting
import DataChat.Documents.WordSections
import DataChat.Library.Csv

/-!
# The formats of a document

The rest of `services/document/text_extractor.py`: CSV, PDF and Excel files, and the choice between
the formats. What the libraries make of a file is an argument; `none` stands for an exception.

* `words_joinRows`, `words_joinCells`: the words of rows and of cells that have been joined.
* `extractCsv_written`: a table that was written as CSV is extracted row by row.
* `extracted_chunks_iff`: what is extracted holds no NULs and can be cut into chunks, except for one
  kind of CSV file.
-/

namespace DataChat.Documents

open Codecs Outcome

/-! ## CSV -/

/-- `list(csv.reader(io.StringIO(decoded_content)))`. -/
def csvRows (decoded : String) : Extraction (List (List String)) :=
  match Csv.read Csv.excel decoded.toList with
  | .ok table => pure (table.map (fun row => row.map String.ofList))
  | .error _ => throw ⟨"The CSV document could not be parsed."⟩

def hasContent (row : List String) : Bool := row.any (fun cell => !isBlank cell)

def rowText (row : List String) : String := joinWith " | " (row.map normalizeText)

def extractCsv (content : List UInt8) : Extraction ExtractedDocument := do
  let decoded ← decodeTextFile content
  let rows ← csvRows decoded
  let normalizedRows := (rows.filter hasContent).map rowText
  if normalizedRows = [] then throw ⟨"The CSV document contains no extractable content."⟩
  else
    pure ⟨[⟨joinWith "\n" normalizedRows, none, some "CSV data",
      [("row_count", .number false (toString normalizedRows.length))]⟩], none⟩

/-! ## PDF -/

/-- A page is what `extract_text` returns, which may be `None`. -/
structure PdfFile where
  isEncrypted : Bool
  /-- The result of decrypting with an empty password. -/
  decryption : Option Nat
  pages : List (Option (Option String))

/-- One pass of the loop over the pages, which are numbered from one. -/
def addPage (sections : List ExtractedSection) (page : Option (Option String) × Nat) :
    Extraction (List ExtractedSection) :=
  match page.1 with
  | none => throw ⟨"Text could not be extracted from the PDF."⟩
  | some extractedText =>
    let text := normalizeText (extractedText.getD "")
    if text = "" then pure sections
    else pure (sections ++ [⟨text, some page.2, some ("Page " ++ toString page.2), []⟩])

/-- An encrypted file has to open with an empty password. -/
def checkEncryption (reader : PdfFile) : Extraction Unit :=
  if reader.isEncrypted then
    match reader.decryption with
    | none => throw ⟨"Encrypted PDF documents are not supported."⟩
    | some result =>
      if result = 0 then throw ⟨"Encrypted PDF documents are not supported."⟩ else pure ()
  else pure ()

def extractPdf (opened : Option PdfFile) : Extraction ExtractedDocument :=
  match opened with
  | none => throw ⟨"The PDF document could not be opened."⟩
  | some reader => do
    checkEncryption reader
    let sections ← (reader.pages.zipIdx 1).foldlM addPage []
    if sections = [] then
      throw ⟨"The PDF contains no extractable text. Scanned PDFs require OCR."⟩
    else pure ⟨sections, some reader.pages.length⟩

/-! ## Excel -/

/-- A sheet with the texts of its values; an empty cell has none. The values of a sheet may be
unreadable. -/
structure Worksheet where
  title : String
  rows : Option (List (List (Option String)))

/-- The rows that have a value. -/
def filledRows (rows : List (List String)) : List String :=
  (rows.filter (fun values => values.any (· ≠ ""))).map (joinWith " | ")

def cellText : Option String → String
  | some value => normalizeText value
  | none => ""

def worksheetToText (rows : List (List (Option String))) : String :=
  joinWith "\n" (filledRows (rows.map (fun row => row.map cellText)))

/-- One pass of the loop over the worksheets. The workbook is opened and read within one `try`. -/
def addWorksheet (sections : List ExtractedSection) (worksheet : Worksheet) :
    Extraction (List ExtractedSection) :=
  match worksheet.rows with
  | none => throw ⟨"The Excel workbook could not be opened."⟩
  | some rows =>
    let sheetText := worksheetToText rows
    if sheetText = "" then pure sections
    else
      pure (sections ++
        [⟨sheetText, none, some worksheet.title, [("sheet_name", .string worksheet.title)]⟩])

def extractXlsx (opened : Option (List Worksheet)) : Extraction ExtractedDocument :=
  match opened with
  | none => throw ⟨"The Excel workbook could not be opened."⟩
  | some worksheets => do
    let sections ← worksheets.foldlM addWorksheet []
    if sections = [] then throw ⟨"The Excel workbook contains no extractable content."⟩
    else pure ⟨sections, none⟩

/-- A sheet of a legacy workbook, with the texts of its values. -/
structure Sheet where
  name : String
  rows : List (List String)

/-- One pass of the loop over the sheets. -/
def addSheet (sections : List ExtractedSection) (sheet : Sheet) : List ExtractedSection :=
  let rows := filledRows (sheet.rows.map (fun row => row.map normalizeText))
  if rows = [] then sections
  else
    sections ++ [⟨joinWith "\n" rows, none, some sheet.name, [("sheet_name", .string sheet.name)]⟩]

def extractXls (opened : Option (List Sheet)) : Extraction ExtractedDocument :=
  match opened with
  | none => throw ⟨"The legacy Excel workbook could not be opened."⟩
  | some sheets =>
    let sections := sheets.foldl addSheet []
    if sections = [] then throw ⟨"The legacy Excel workbook contains no extractable content."⟩
    else pure ⟨sections, none⟩

/-! ## All formats -/

/-- What the libraries make of a file. -/
structure Libraries where
  pdfReader : List UInt8 → Option PdfFile
  wordDocument : List UInt8 → Option (List BodyItem)
  loadWorkbook : List UInt8 → Option (List Worksheet)
  openWorkbook : List UInt8 → Option (List Sheet)

/-- `extract_docx`. -/
def extractWord (py : Casing) (opened : Option (List BodyItem)) : Extraction ExtractedDocument :=
  match opened with
  | none => throw ⟨"The Word document could not be opened."⟩
  | some body => extractDocx py body

/-- `file_extension.lower().lstrip(".")`. -/
def normalizedExtension (py : Casing) (fileExtension : String) : String :=
  String.ofList ((py.lower fileExtension).toList.dropWhile (· = '.'))

/-- The dictionary of extractors. -/
def extractors (py : Casing) (libraries : Libraries) :
    List (String × (List UInt8 → Extraction ExtractedDocument)) :=
  [("txt", extractTxt), ("csv", extractCsv),
    ("pdf", fun content => extractPdf (libraries.pdfReader content)),
    ("docx", fun content => extractWord py (libraries.wordDocument content)),
    ("xlsx", fun content => extractXlsx (libraries.loadWorkbook content)),
    ("xls", fun content => extractXls (libraries.openWorkbook content))]

def extractDocumentText (py : Casing) (libraries : Libraries) (content : List UInt8)
    (fileExtension : String) : Extraction ExtractedDocument :=
  if content = [] then throw ⟨"The document is empty."⟩
  else
    match (extractors py libraries).lookup (normalizedExtension py fileExtension) with
    | none => throw ⟨"Text extraction is not supported for this file type."⟩
    | some extractor => extractor content

/-! ## Words -/

theorem joinWith_toList (separator : String) (parts : List String) :
    (joinWith separator parts).toList = separator.toList.intercalate (parts.map String.toList) := by
  induction parts with
  | nil => rfl
  | cons part parts ih =>
    cases parts with
    | nil => exact List.intercalate_singleton.symm
    | cons next parts =>
      have hstep : joinWith separator (part :: next :: parts) =
        part ++ separator ++ joinWith separator (next :: parts) := rfl
      have hne : (next :: parts).map String.toList ≠ [] := List.cons_ne_nil _ _
      rw [hstep, String.toList_append, String.toList_append, ih]
      exact (List.intercalate_cons_of_ne_nil hne).symm

/-- The words of rows that have been joined. -/
theorem words_joinRows (parts : List String) :
    splitWords (joinWith "\n" parts).toList =
      parts.flatMap (fun part => splitWords part.toList) := by
  have hbreak : ∀ xs ys, fields isSpace (xs ++ "\n".toList ++ ys) =
      fields isSpace xs ++ [] ++ fields isSpace ys := by
    intro xs ys
    have hnewline : "\n".toList = ['\n'] := rfl
    rw [List.append_nil, hnewline]
    exact fields_append xs ys (List.cons_ne_nil _ _) (List.forall_mem_singleton.mpr rfl)
  rw [joinWith_toList, splitWords, fields_joined hbreak, List.map_map, nil_intercalate,
    List.flatMap_def]
  rfl

/-- The words of cells that have been joined: a bar stands between the cells. -/
theorem words_joinCells (parts : List String) :
    splitWords (joinWith " | " parts).toList =
      [['|']].intercalate (parts.map (fun part => splitWords part.toList)) := by
  have hbar : ∀ xs ys, fields isSpace (xs ++ " | ".toList ++ ys) =
      fields isSpace xs ++ [['|']] ++ fields isSpace ys := by
    intro xs ys
    have hspace : ∀ c ∈ [' '], isSpace c = true := List.forall_mem_singleton.mpr rfl
    have hsplit : xs ++ " | ".toList ++ ys = xs ++ [' '] ++ (['|'] ++ [' '] ++ ys) := by
      simp [show " | ".toList = [' ', '|', ' '] by decide]
    have hword : fields isSpace ['|'] = [['|']] := by decide
    have hne : [' '] ≠ [] := List.cons_ne_nil _ _
    rw [hsplit, fields_append _ _ hne hspace, fields_append _ _ hne hspace, hword,
      List.append_assoc]
  rw [joinWith_toList, splitWords, fields_joined hbar, List.map_map]
  rfl

theorem words_eq_nil_iff {s : String} : splitWords s.toList = [] ↔ isBlank s = true :=
  fields_eq_nil_iff.trans List.all_eq_true.symm

theorem joinCells_eq_nil_iff {parts : List String} :
    splitWords (joinWith " | " parts).toList = [] ↔
      parts.length ≤ 1 ∧ ∀ part ∈ parts, splitWords part.toList = [] := by
  rw [words_joinCells, intercalate_eq_nil_iff (List.cons_ne_nil _ _), List.length_map,
    List.forall_mem_map]

/-! ## Readable texts -/

/-- The text can be stored, and there is something to find in it. -/
structure IsReadable (text : String) : Prop where
  nul_free : '\x00' ∉ text.toList
  nonblank : isBlank text = false

theorem not_blank_iff {s : String} : isBlank s = false ↔ splitWords s.toList ≠ [] := by
  rw [ne_eq, words_eq_nil_iff, Bool.not_eq_true]

theorem isReadable_normalizeText {value : String} (h : normalizeText value ≠ "") :
    IsReadable (normalizeText value) := by
  have hnormal := isNormal_normalizeText value
  refine ⟨hnormal.nul_free, ?_⟩
  by_contra hblank
  rw [Bool.not_eq_false] at hblank
  obtain ⟨c, text, htext⟩ := List.exists_cons_of_ne_nil
    (fun hnil => h (String.toList_eq_nil_iff.mp hnil))
  have hspace := hnormal.text_ends.1 c (by rw [htext]; rfl)
  have hall := List.all_eq_true.mp hblank c (by rw [htext]; exact List.mem_cons_self)
  rw [hspace] at hall
  cases hall

theorem nul_free_joinWith {separator : String} {parts : List String}
    (hseparator : '\x00' ∉ separator.toList) (h : ∀ part ∈ parts, '\x00' ∉ part.toList) :
    '\x00' ∉ (joinWith separator parts).toList := by
  induction parts with
  | nil => exact List.not_mem_nil
  | cons part parts ih =>
    have hpart := h part List.mem_cons_self
    have hrest := ih (fun other hother => h other (List.mem_cons_of_mem part hother))
    cases parts with
    | nil => exact hpart
    | cons next parts =>
      have hstep : joinWith separator (part :: next :: parts) =
        part ++ separator ++ joinWith separator (next :: parts) := rfl
      rw [hstep, String.toList_append, String.toList_append, List.mem_append, List.mem_append]
      rintro ((hmem | hmem) | hmem)
      · exact hpart hmem
      · exact hseparator hmem
      · exact hrest hmem

theorem isReadable_joinRows {rows : List String} (hne : rows ≠ [])
    (h : ∀ row ∈ rows, IsReadable row) : IsReadable (joinWith "\n" rows) := by
  refine ⟨nul_free_joinWith (by decide) (fun row hrow => (h row hrow).nul_free), ?_⟩
  obtain ⟨row, rest, rfl⟩ := List.exists_cons_of_ne_nil hne
  have hrow := not_blank_iff.mp (h row List.mem_cons_self).nonblank
  rw [not_blank_iff, words_joinRows, List.flatMap_cons]
  exact fun hnil => hrow (List.append_eq_nil_iff.mp hnil).1

/-- A row with a normal value that is not empty. -/
theorem isReadable_filledRows {rows : List (List String)}
    (h : ∀ values ∈ rows, ∀ value ∈ values, value = "" ∨ IsReadable value) :
    ∀ row ∈ filledRows rows, IsReadable row := by
  intro row hrow
  obtain ⟨values, hvalues, rfl⟩ := List.mem_map.mp hrow
  obtain ⟨hmem, hany⟩ := List.mem_filter.mp hvalues
  obtain ⟨value, hvalue, hne⟩ := List.any_eq_true.mp hany
  have hreadable := (h values hmem value hvalue).resolve_left (of_decide_eq_true hne)
  refine ⟨nul_free_joinWith (by decide) (fun other hother => ?_), ?_⟩
  · rcases h values hmem other hother with rfl | hother
    · exact List.not_mem_nil
    · exact hother.nul_free
  · rw [not_blank_iff, ne_eq, joinCells_eq_nil_iff]
    rintro ⟨-, hnone⟩
    exact not_blank_iff.mp hreadable.nonblank (hnone value hvalue)

/-! ## The sections of each format -/

/-- The texts of the sections. -/
def AllReadable (sections : List ExtractedSection) : Prop :=
  ∀ part ∈ sections, IsReadable part.text

theorem allReadable_nil : AllReadable [] := fun _ hpart => absurd hpart List.not_mem_nil

theorem allReadable_snoc {sections : List ExtractedSection} (h : AllReadable sections)
    {part : ExtractedSection} (hpart : IsReadable part.text) :
    AllReadable (sections ++ [part]) := by
  intro other hother
  rcases List.mem_append.mp hother with hother | hother
  · exact h other hother
  · rw [List.mem_singleton.mp hother]
    exact hpart

/-- What an extractor may return: sections that are all readable, and at least one. -/
def ReturnsReadable (result : Extraction ExtractedDocument) : Prop :=
  ∀ document, result = .ok document → document.sections ≠ [] ∧ AllReadable document.sections

theorem returnsReadable_of_sections {sections : List ExtractedSection}
    (h : AllReadable sections) (message : String) (pageCount : Option Int) :
    ReturnsReadable
      (if sections = [] then throw ⟨message⟩ else pure ⟨sections, pageCount⟩) := by
  intro document hdocument
  obtain ⟨hne, hpure⟩ := guard_ok_iff.mp hdocument
  obtain rfl := pure_ok_iff.mp hpure
  exact ⟨hne, h⟩

theorem extractTxt_readable (content : List UInt8) : ReturnsReadable (extractTxt content) := by
  intro document h
  obtain ⟨decoded, -, h⟩ := bind_ok_iff.mp h
  obtain ⟨hempty, hpure⟩ := guard_ok_iff.mp h
  obtain rfl := pure_ok_iff.mp hpure
  refine ⟨List.cons_ne_nil _ _, fun part hpart => ?_⟩
  rw [List.mem_singleton.mp hpart]
  exact isReadable_normalizeText hempty

theorem addPage_readable {sections sections' : List ExtractedSection}
    {page : Option (Option String) × Nat} (h : addPage sections page = .ok sections')
    (hsections : AllReadable sections) : AllReadable sections' := by
  unfold addPage at h
  cases hpage : page.1 with
  | none => simp [hpage] at h
  | some extractedText =>
    rw [hpage] at h
    dsimp only at h
    by_cases hempty : normalizeText (extractedText.getD "") = ""
    · rw [if_pos hempty, pure_ok_iff] at h
      exact h ▸ hsections
    · rw [if_neg hempty, pure_ok_iff] at h
      exact h ▸ allReadable_snoc hsections (isReadable_normalizeText hempty)

theorem extractPdf_readable (opened : Option PdfFile) : ReturnsReadable (extractPdf opened) := by
  intro document h
  cases opened with
  | none => cases h
  | some reader =>
    obtain ⟨-, -, h⟩ := bind_ok_iff.mp h
    obtain ⟨sections, hloop, h⟩ := bind_ok_iff.mp h
    have hsections : AllReadable sections :=
      foldlM_ok_induction (fun _ sections => AllReadable sections) allReadable_nil
        (fun _ _ _ _ _ _ hsections hpage => addPage_readable hpage hsections) hloop
    exact returnsReadable_of_sections hsections _ _ document h

theorem saveSection_readable {state : DocxState} (h : AllReadable state.sections) :
    AllReadable (saveSection state).sections := by
  unfold saveSection
  split
  · exact h
  · dsimp only
    split
    · exact h
    · rename_i hempty
      exact allReadable_snoc h (isReadable_normalizeText hempty)

theorem addParagraph_readable {py : Casing} {state : DocxState} (h : AllReadable state.sections)
    (paragraph : String × Option String) :
    AllReadable (addParagraph py state paragraph).sections := by
  unfold addParagraph
  dsimp only
  split
  · exact h
  · split
    · exact saveSection_readable h
    · exact h

/-- A table only adds to the texts that wait for the next section. -/
theorem addTable_sections (state : DocxState) (table : List (List String) × Nat) :
    (addTable state table).sections = state.sections := by
  unfold addTable
  dsimp only
  split <;> rfl

theorem extractWord_readable (py : Casing) (opened : Option (List BodyItem)) :
    ReturnsReadable (extractWord py opened) := by
  cases opened with
  | none =>
    intro document h
    cases h
  | some body =>
    have hparagraphs : AllReadable
        ((paragraphs body).foldl (addParagraph py) ⟨[], none, []⟩).sections :=
      List.foldlRecOn (paragraphs body) (addParagraph py)
        (motive := fun state => AllReadable state.sections) allReadable_nil
        (fun _ hstate paragraph _ => addParagraph_readable hstate paragraph)
    have htables : AllReadable (((tables body).zipIdx 1).foldl addTable
        ((paragraphs body).foldl (addParagraph py) ⟨[], none, []⟩)).sections :=
      List.foldlRecOn ((tables body).zipIdx 1) addTable
        (motive := fun state => AllReadable state.sections) hparagraphs
        (fun state hstate table _ => (addTable_sections state table).symm ▸ hstate)
    exact returnsReadable_of_sections (saveSection_readable htables) _ _

/-- The values of a row are normal texts. -/
theorem value_readable (value : String) :
    normalizeText value = "" ∨ IsReadable (normalizeText value) := by
  by_cases hempty : normalizeText value = ""
  · exact .inl hempty
  · exact .inr (isReadable_normalizeText hempty)

theorem addWorksheet_readable {sections sections' : List ExtractedSection} {worksheet : Worksheet}
    (h : addWorksheet sections worksheet = .ok sections') (hsections : AllReadable sections) :
    AllReadable sections' := by
  unfold addWorksheet at h
  cases hrows : worksheet.rows with
  | none => simp [hrows] at h
  | some rows =>
    rw [hrows] at h
    dsimp only at h
    by_cases hempty : worksheetToText rows = ""
    · rw [if_pos hempty, pure_ok_iff] at h
      exact h ▸ hsections
    · rw [if_neg hempty, pure_ok_iff] at h
      have hfilled : filledRows (rows.map (fun row => row.map cellText)) ≠ [] := by
        intro hnil
        rw [worksheetToText, hnil] at hempty
        exact hempty rfl
      have hvalues : ∀ values ∈ rows.map (fun row => row.map cellText), ∀ value ∈ values,
          value = "" ∨ IsReadable value := by
        intro values hmem value hvalue
        obtain ⟨row, -, rfl⟩ := List.mem_map.mp hmem
        obtain ⟨cell, -, rfl⟩ := List.mem_map.mp hvalue
        cases cell with
        | none => exact .inl rfl
        | some text => exact value_readable text
      exact h ▸ allReadable_snoc hsections
        (isReadable_joinRows hfilled (isReadable_filledRows hvalues))

theorem extractXlsx_readable (opened : Option (List Worksheet)) :
    ReturnsReadable (extractXlsx opened) := by
  intro document h
  cases opened with
  | none => cases h
  | some worksheets =>
    obtain ⟨sections, hloop, h⟩ := bind_ok_iff.mp h
    have hsections : AllReadable sections :=
      foldlM_ok_induction (fun _ sections => AllReadable sections) allReadable_nil
        (fun _ _ _ _ _ _ hsections hsheet => addWorksheet_readable hsheet hsections) hloop
    exact returnsReadable_of_sections hsections _ _ document h

theorem addSheet_readable {sections : List ExtractedSection} (h : AllReadable sections)
    (sheet : Sheet) : AllReadable (addSheet sections sheet) := by
  unfold addSheet
  dsimp only
  split
  · exact h
  · rename_i hfilled
    have hvalues : ∀ values ∈ sheet.rows.map (fun row => row.map normalizeText),
        ∀ value ∈ values, value = "" ∨ IsReadable value := by
      intro values hmem value hvalue
      obtain ⟨row, -, rfl⟩ := List.mem_map.mp hmem
      obtain ⟨text, -, rfl⟩ := List.mem_map.mp hvalue
      exact value_readable text
    exact allReadable_snoc h (isReadable_joinRows hfilled (isReadable_filledRows hvalues))

theorem extractXls_readable (opened : Option (List Sheet)) :
    ReturnsReadable (extractXls opened) := by
  cases opened with
  | none =>
    intro document h
    cases h
  | some sheets =>
    have hsections : AllReadable (sheets.foldl addSheet []) :=
      List.foldlRecOn sheets addSheet (motive := AllReadable) allReadable_nil
        (fun _ hsections sheet _ => addSheet_readable hsections sheet)
    exact returnsReadable_of_sections hsections _ _

/-! ## Tables -/

theorem words_rowText (row : List String) :
    splitWords (rowText row).toList =
      [['|']].intercalate (row.map (fun cell => tokens cell.toList)) := by
  rw [rowText, words_joinCells, List.map_map]
  simp only [Function.comp_def, same_tokens]

theorem nul_free_rowText (row : List String) : '\x00' ∉ (rowText row).toList := by
  refine nul_free_joinWith (by decide) (fun cell hcell => ?_)
  obtain ⟨value, -, rfl⟩ := List.mem_map.mp hcell
  exact (isNormal_normalizeText value).nul_free

/-- The encodings that are told apart for every text. -/
def encodingsOf (text : List Char) : List (List UInt8) :=
  [encodeUtf8 text, utf8Bom ++ encodeUtf8 text, encodeUtf16 .little text, encodeUtf16 .big text]

theorem decodeTextFile_encoded {text : List Char} (hbom : text.head? ≠ some bom) :
    ∀ content ∈ encodingsOf text, decodeTextFile content = .ok (String.ofList text) := by
  have hutf16 : ∀ order, decodeTextFile (encodeUtf16 order text) = .ok (String.ofList text) :=
    fun order => decodeTextFile_utf16 (decodeUtf8_encodeUtf16 order text)
      (decodeUtf16_encodeUtf16 order text)
  have hmarked : decodeUtf8Sig (utf8Bom ++ encodeUtf8 text) = some text :=
    (decodeUtf8Sig_bom _).trans (decodeUtf8_encodeUtf8 text)
  simp only [encodingsOf, List.forall_mem_cons, List.not_mem_nil, false_implies, implies_true,
    and_true]
  exact ⟨decodeTextFile_of_utf8Sig (decodeUtf8Sig_encodeUtf8 hbom),
    decodeTextFile_of_utf8Sig hmarked, hutf16 .little, hutf16 .big⟩

/-- The rows in one section, one below the other, with the words of their cells between bars. -/
def HoldsRows (rows : List (List String)) (result : Extraction ExtractedDocument) : Prop :=
  if rows = [] then result = .error ⟨"The CSV document contains no extractable content."⟩
  else
    ∃ lines : List String,
      result = .ok ⟨[⟨joinWith "\n" lines, none, some "CSV data",
        [("row_count", .number false (toString rows.length))]⟩], none⟩ ∧
      List.Forall₂ (fun row line => '\x00' ∉ line.toList ∧
        splitWords line.toList = [['|']].intercalate (row.map (fun cell => tokens cell.toList)))
        rows lines

theorem extractCsv_rows {content : List UInt8} {rows : List (List String)}
    (h : (decodeTextFile content >>= csvRows) = .ok rows) :
    HoldsRows (rows.filter hasContent) (extractCsv content) := by
  obtain ⟨decoded, hdecode, hrows⟩ := bind_ok_iff.mp h
  have hrun : extractCsv content =
      if (rows.filter hasContent).map rowText = [] then
        throw ⟨"The CSV document contains no extractable content."⟩
      else
        pure ⟨[⟨joinWith "\n" ((rows.filter hasContent).map rowText), none, some "CSV data",
          [("row_count",
            .number false (toString ((rows.filter hasContent).map rowText).length))]⟩], none⟩ := by
    unfold extractCsv
    rw [hdecode]
    show (csvRows decoded >>= _) = _
    rw [hrows]
    rfl
  unfold HoldsRows
  rw [hrun]
  by_cases hnil : rows.filter hasContent = []
  · rw [if_pos hnil, hnil]
    rfl
  · rw [if_neg hnil, if_neg (by simpa using hnil), List.length_map]
    refine ⟨_, rfl, ?_⟩
    rw [List.forall₂_map_right_iff, List.forall₂_same]
    exact fun row _ => ⟨nul_free_rowText row, words_rowText row⟩

/-- A table that was written as CSV is extracted row by row, less the blank rows. -/
theorem extractCsv_written {rows : List (List String)} {text : List Char}
    (hwritten : Csv.WrittenTable Csv.excel (rows.map (fun row => row.map String.toList)) text)
    (hlimit : ∀ row ∈ rows, ∀ cell ∈ row, cell.length ≤ Csv.excel.fieldLimit)
    (hbom : text.head? ≠ some bom) :
    ∀ content ∈ encodingsOf text, HoldsRows (rows.filter hasContent) (extractCsv content) := by
  intro content hcontent
  have hcells : ∀ row ∈ rows.map (fun row => row.map String.toList), ∀ cell ∈ row,
      cell.length ≤ Csv.excel.fieldLimit := by
    intro row hrow cell hcell
    obtain ⟨source, hsource, rfl⟩ := List.mem_map.mp hrow
    obtain ⟨value, hvalue, rfl⟩ := List.mem_map.mp hcell
    rw [String.length_toList]
    exact hlimit source hsource value hvalue
  have hback : (rows.map (fun row => row.map String.toList)).map
      (fun row => row.map String.ofList) = rows := by
    rw [List.map_map]
    refine (List.map_congr_left (fun row _ => ?_)).trans (List.map_id rows)
    rw [Function.comp_apply, List.map_map]
    exact (List.map_congr_left (fun cell _ => String.ofList_toList)).trans (List.map_id row)
  have hread : csvRows (String.ofList text) = .ok rows := by
    unfold csvRows
    rw [String.toList_ofList, Csv.read_written hwritten hcells]
    exact congrArg Except.ok hback
  exact extractCsv_rows (bind_ok_iff.mpr ⟨_, decodeTextFile_encoded hbom content hcontent, hread⟩)

/-- Two rows, of which the second has quotes, and an empty line. -/
def peopleRows : List (List String) := [["name", "note"], ["Ann", "says \"hi\""], []]

def peopleText : List Char := "name,note\r\nAnn,\"says \"\"hi\"\"\"\n\n".toList

theorem people_written :
    Csv.WrittenTable Csv.excel (peopleRows.map (fun row => row.map String.toList)) peopleText := by
  have hplain : ∀ cell : List Char,
      cell.all (fun c => !Csv.isBreak c && c != Csv.excel.delimiter) = true →
      cell.head? ≠ some '"' → Csv.Written Csv.excel cell cell := by
    intro cell hcell hstart
    refine .plain (fun c hc => ?_) hstart
    simpa using List.all_eq_true.mp hcell c hc
  have hname := hplain "name".toList (by decide) (by decide)
  have hnote := hplain "note".toList (by decide) (by decide)
  have hann := hplain "Ann".toList (by decide) (by decide)
  have htext : Csv.WrittenTable Csv.excel (peopleRows.map (fun row => row.map String.toList))
      _ :=
    .cons (.cons hname (.last hnote)) (by decide) .crlf
      (.cons (.cons hann (.last (.quoted "says \"hi\"".toList))) (by decide) .lf
        (.blank .lf .nil))
  refine Eq.subst ?_ htext
  decide

theorem people_extracted :
    HoldsRows (peopleRows.filter hasContent) (extractCsv (utf8Bom ++ encodeUtf8 peopleText)) :=
  extractCsv_written people_written (by decide) (by decide) (utf8Bom ++ encodeUtf8 peopleText)
    (by simp [encodingsOf])

/-! ## Chunks -/

section

variable {chunkSize chunkOverlap : Int} (hsize : 1 ≤ chunkSize) (hoverlap : 0 ≤ chunkOverlap)
  (hlt : chunkOverlap < chunkSize)

include hsize hoverlap hlt

/-- A section has chunks unless it is blank. -/
theorem chunkExtractedSection_nil_iff (part : ExtractedSection) (startingIndex : Nat) :
    ∃ chunks, chunkExtractedSection part chunkSize chunkOverlap startingIndex = .ok chunks ∧
      (chunks = [] ↔ isBlank part.text = true) := by
  obtain ⟨chunks, hrun, -, hchunks⟩ :=
    chunkExtractedSection_chunks hsize hoverlap hlt part startingIndex
  refine ⟨chunks, hrun, ?_, fun hblank => ?_⟩
  · intro hnil
    by_contra hpart
    exact sectionChunks_ne_nil hchunks (Bool.eq_false_iff.mpr hpart) hnil
  · have hlength : (strip part.text).length = 0 := by
      rw [strip_eq_empty_iff.mpr hblank]
      rfl
    have hnone := hchunks.terminates 0 (Nat.le_of_eq hlength)
    exact List.map_eq_nil_iff.mp hnone.symm

/-- A document has chunks unless all of its sections are blank. -/
theorem chunkExtractedDocument_returns_iff (document : ExtractedDocument) :
    (∃ chunks, chunkExtractedDocument document chunkSize chunkOverlap = .ok chunks) ↔
      ∃ part ∈ document.sections, isBlank part.text = false := by
  have hpass : ∀ part ∈ document.sections, ∀ chunks : List TextChunk, ∃ chunks',
      (chunkExtractedSection part chunkSize chunkOverlap chunks.length >>=
        fun sectionChunks => pure (chunks ++ sectionChunks)) = .ok chunks' := by
    intro part _ chunks
    obtain ⟨sectionChunks, hrun, -⟩ :=
      chunkExtractedSection_nil_iff hsize hoverlap hlt part chunks.length
    exact ⟨_, bind_ok_iff.mpr ⟨sectionChunks, hrun, rfl⟩⟩
  obtain ⟨chunks, hloop⟩ := foldlM_returns hpass []
  have hnil : chunks = [] ↔ ∀ part ∈ document.sections, isBlank part.text = true := by
    refine foldlM_ok_induction (fun done chunks =>
      chunks = [] ↔ ∀ part ∈ done, isBlank part.text = true) (by simp) ?_ hloop
    intro done part rest chunks chunks' _ hdone hrun
    obtain ⟨sectionChunks, hsection, hpure⟩ := bind_ok_iff.mp hrun
    obtain ⟨sectionChunks', hrun', hblank⟩ :=
      chunkExtractedSection_nil_iff hsize hoverlap hlt part chunks.length
    obtain rfl := Except.ok.inj (hrun'.symm.trans hsection)
    obtain rfl := pure_ok_iff.mp hpure
    rw [List.append_eq_nil_iff, hdone, hblank, List.forall_mem_append, List.forall_mem_singleton]
  have hrun : chunkExtractedDocument document chunkSize chunkOverlap =
      if chunks.isEmpty then throw ⟨"The document produced no text chunks."⟩ else pure chunks := by
    unfold chunkExtractedDocument
    rw [hloop]
    rfl
  have hsome : (∃ part ∈ document.sections, isBlank part.text = false) ↔ chunks ≠ [] := by
    rw [ne_eq, hnil]
    push Not
    simp only [Bool.not_eq_true]
  rw [hrun, hsome]
  constructor
  · rintro ⟨found, hfound⟩
    simpa using (guard_ok_iff.mp hfound).1
  · intro hne
    exact ⟨chunks, guard_ok_iff.mpr ⟨by simpa using hne, rfl⟩⟩

end

/-- Each row that is kept is a single cell without a word: it holds NULs and spaces. -/
def OnlyNuls (rows : List (List String)) : Prop :=
  ∀ row ∈ rows, hasContent row = true →
    row.length ≤ 1 ∧ ∀ cell ∈ row, tokens cell.toList = []

theorem blank_rowText_iff (row : List String) : isBlank (rowText row) = true ↔
    row.length ≤ 1 ∧ ∀ cell ∈ row, tokens cell.toList = [] := by
  rw [← words_eq_nil_iff, words_rowText, intercalate_eq_nil_iff (List.cons_ne_nil _ _),
    List.length_map, List.forall_mem_map]

theorem extractCsv_sections {content : List UInt8} {document : ExtractedDocument}
    (h : extractCsv content = .ok document) :
    ∃ rows, (decodeTextFile content >>= csvRows) = .ok rows ∧
      (∀ part ∈ document.sections, '\x00' ∉ part.text.toList) ∧
      ((∃ part ∈ document.sections, isBlank part.text = false) ↔ ¬ OnlyNuls rows) := by
  obtain ⟨decoded, hdecode, h⟩ := bind_ok_iff.mp h
  obtain ⟨rows, hrows, h⟩ := bind_ok_iff.mp h
  obtain ⟨-, hpure⟩ := guard_ok_iff.mp h
  obtain rfl := pure_ok_iff.mp hpure
  refine ⟨rows, bind_ok_iff.mpr ⟨decoded, hdecode, hrows⟩, ?_, ?_⟩
  · rw [List.forall_mem_singleton]
    refine nul_free_joinWith (by decide) (fun line hline => ?_)
    obtain ⟨row, -, rfl⟩ := List.mem_map.mp hline
    exact nul_free_rowText row
  · have hblank : isBlank (joinWith "\n" ((rows.filter hasContent).map rowText)) = true ↔
        OnlyNuls rows := by
      rw [← words_eq_nil_iff, words_joinRows, List.flatMap_eq_nil_iff, List.forall_mem_map]
      unfold OnlyNuls
      simp only [List.mem_filter, words_eq_nil_iff, blank_rowText_iff, and_imp]
    rw [← hblank]
    simp

/-- What is extracted holds no NULs, and it can be cut into chunks unless it comes from a CSV file
with nothing but NULs in it. -/
theorem extracted_chunks_iff {py : Casing} {libraries : Libraries} {content : List UInt8}
    {fileExtension : String} {document : ExtractedDocument}
    (h : extractDocumentText py libraries content fileExtension = .ok document)
    {chunkSize chunkOverlap : Int} (hsize : 1 ≤ chunkSize) (hoverlap : 0 ≤ chunkOverlap)
    (hlt : chunkOverlap < chunkSize) :
    (∀ part ∈ document.sections, '\x00' ∉ part.text.toList) ∧
      ((∃ chunks, chunkExtractedDocument document chunkSize chunkOverlap = .ok chunks) ↔
        ¬ (normalizedExtension py fileExtension = "csv" ∧
          ∃ rows, (decodeTextFile content >>= csvRows) = .ok rows ∧ OnlyNuls rows)) := by
  have hreadable : ∀ {result : Extraction ExtractedDocument}, ReturnsReadable result →
      result = .ok document → normalizedExtension py fileExtension ≠ "csv" →
      (∀ part ∈ document.sections, '\x00' ∉ part.text.toList) ∧
        ((∃ part ∈ document.sections, isBlank part.text = false) ↔
          ¬ (normalizedExtension py fileExtension = "csv" ∧
            ∃ rows, (decodeTextFile content >>= csvRows) = .ok rows ∧ OnlyNuls rows)) := by
    intro result hreturns hresult hextension
    obtain ⟨hne, hall⟩ := hreturns document hresult
    obtain ⟨part, rest, hparts⟩ := List.exists_cons_of_ne_nil hne
    have hpart : part ∈ document.sections := by rw [hparts]; exact List.mem_cons_self
    exact ⟨fun part hpart => (hall part hpart).nul_free,
      iff_of_true ⟨part, hpart, (hall part hpart).nonblank⟩ (fun hcsv => hextension hcsv.1)⟩
  rw [chunkExtractedDocument_returns_iff hsize hoverlap hlt]
  obtain ⟨-, h⟩ := guard_ok_iff.mp h
  cases hextractor : (extractors py libraries).lookup (normalizedExtension py fileExtension) with
  | none => simp [hextractor] at h
  | some extractor =>
    rw [hextractor] at h
    dsimp only at h
    obtain ⟨before, after, hdict, -⟩ := List.lookup_eq_some_iff.mp hextractor
    have hmem : (normalizedExtension py fileExtension, extractor) ∈ extractors py libraries := by
      rw [hdict]
      simp
    simp only [extractors, List.mem_cons, Prod.mk.injEq, List.not_mem_nil, or_false] at hmem
    rcases hmem with ⟨hext, rfl⟩ | ⟨hext, rfl⟩ | ⟨hext, rfl⟩ | ⟨hext, rfl⟩ | ⟨hext, rfl⟩ |
      ⟨hext, rfl⟩
    · exact hreadable (extractTxt_readable content) h (by rw [hext]; decide)
    · obtain ⟨rows, hrows, hnuls, hsome⟩ := extractCsv_sections h
      refine ⟨hnuls, hsome.trans (not_congr ?_)⟩
      rw [hext, hrows]
      constructor
      · intro honly
        exact ⟨rfl, rows, rfl, honly⟩
      · rintro ⟨-, rows', hsame, honly⟩
        obtain rfl := Except.ok.inj hsame
        exact honly
    · exact hreadable (extractPdf_readable _) h (by rw [hext]; decide)
    · exact hreadable (extractWord_readable py _) h (by rw [hext]; decide)
    · exact hreadable (extractXlsx_readable _) h (by rw [hext]; decide)
    · exact hreadable (extractXls_readable _) h (by rw [hext]; decide)

/-- A CSV file that is a single NUL. -/
def nulDocument : ExtractedDocument :=
  ⟨[⟨"", none, some "CSV data", [("row_count", .number false "1")]⟩], none⟩

def noLibraries : Libraries := ⟨fun _ => none, fun _ => none, fun _ => none, fun _ => none⟩

theorem nul_extracted :
    extractDocumentText asciiCasing noLibraries [0] ".CSV" = .ok nulDocument := by rfl

theorem nul_not_chunked :
    (∀ part ∈ nulDocument.sections, '\x00' ∉ part.text.toList) ∧
      ((∃ chunks, chunkExtractedDocument nulDocument 1000 200 = .ok chunks) ↔
        ¬ (normalizedExtension asciiCasing ".CSV" = "csv" ∧
          ∃ rows, (decodeTextFile [0] >>= csvRows) = .ok rows ∧ OnlyNuls rows)) :=
  extracted_chunks_iff nul_extracted (by decide) (by decide) (by decide)

end DataChat.Documents
