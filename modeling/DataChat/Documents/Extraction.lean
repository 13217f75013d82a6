import DataChat.Core.PyValue
import DataChat.Documents.Chunker
import DataChat.Library.Codecs
import DataChat.Library.Lines

/-!
# Extraction of text

`services/document/text_extractor.py`: text files and Word documents. What `python-docx` reports of
a document is an argument.
-/

namespace DataChat.Documents

open Codecs

structure DocumentExtractionError where
  message : String
deriving DecidableEq

abbrev Extraction := Except DocumentExtractionError

def normalizeText (value : String) : String :=
  strip (String.ofList (joinLines (cleanLines (value.toList.filter (fun c => c ≠ '\x00')))))

/-! ## Text files -/

/-- The codecs, in the order in which they are tried: `utf-8-sig`, `utf-8`, `utf-16` and
`cp1252`. -/
def encodings : List (List UInt8 → Option (List Char)) :=
  [decodeUtf8Sig, decodeUtf8, decodeUtf16, decodeMap cp1252]

def decodeTextFile (content : List UInt8) : Extraction String :=
  match encodings.findSome? (fun decode => decode content) with
  | some text => pure (String.ofList text)
  | none => throw ⟨"The text file encoding is not supported."⟩

def extractTxt (content : List UInt8) : Extraction ExtractedDocument := do
  let decoded ← decodeTextFile content
  let text := normalizeText decoded
  if text = "" then throw ⟨"The text document contains no extractable content."⟩
  else pure ⟨[⟨text, none, some "Text document", []⟩], none⟩

/-! ## Word documents -/

/-- A body item of a Word document: a paragraph with the name of its style, or a table with the
texts of its cells. -/
inductive BodyItem
  | paragraph (text : String) (styleName : Option String)
  | table (rows : List (List String))

/-- `document.paragraphs`. -/
def paragraphs (body : List BodyItem) : List (String × Option String) :=
  body.filterMap (fun item =>
    match item with
    | .paragraph text styleName => some (text, styleName)
    | .table _ => none)

/-- `document.tables`. -/
def tables (body : List BodyItem) : List (List (List String)) :=
  body.filterMap (fun item =>
    match item with
    | .paragraph _ _ => none
    | .table rows => some rows)

/-- The variables of `extract_docx`. -/
structure DocxState where
  sections : List ExtractedSection
  current_title : Option String
  current_paragraphs : List String

def saveSection (state : DocxState) : DocxState :=
  if state.current_paragraphs = [] then state
  else
    let sectionText := normalizeText (joinWith "\n" state.current_paragraphs)
    { state with
      sections :=
        if sectionText = "" then state.sections
        else state.sections ++ [⟨sectionText, none, state.current_title, []⟩]
      current_paragraphs := [] }

/-- The lower-cased name of the style begins with `heading`. -/
def isHeading (py : Casing) (styleName : Option String) : Bool :=
  decide ("heading".toList <+: (py.lower (styleName.getD "")).toList)

/-- One pass of the loop over the paragraphs. -/
def addParagraph (py : Casing) (state : DocxState) (paragraph : String × Option String) :
    DocxState :=
  let text := normalizeText paragraph.1
  if text = "" then state
  else if isHeading py paragraph.2 then { saveSection state with current_title := some text }
  else { state with current_paragraphs := state.current_paragraphs ++ [text] }

def tableText (rows : List (List String)) : String :=
  normalizeText (joinWith "\n" (rows.map (fun row => joinWith " | " (row.map normalizeText))))

/-- One pass of the loop over the tables, which are numbered from one. -/
def addTable (state : DocxState) (table : List (List String) × Nat) : DocxState :=
  let text := tableText table.1
  if text = "" then state
  else
    { state with
      current_paragraphs :=
        state.current_paragraphs ++ ["Table " ++ toString table.2 ++ "\n" ++ text] }

/-- `extract_docx`, once the document has been opened. -/
def extractDocx (py : Casing) (body : List BodyItem) : Extraction ExtractedDocument :=
  let afterParagraphs := (paragraphs body).foldl (addParagraph py) ⟨[], none, []⟩
  let state := saveSection (((tables body).zipIdx 1).foldl addTable afterParagraphs)
  if state.sections = [] then throw ⟨"The Word document contains no extractable content."⟩
  else pure ⟨state.sections, none⟩

end DataChat.Documents
