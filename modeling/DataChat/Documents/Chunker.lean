import DataChat.Core.Permissions
import DataChat.Library.Text
import Mathlib.Data.List.Basic

/-!
# The text chunker

`services/document/text_chunker.py`, with the records that it takes from `text_extractor.py`.
Positions are those of code points. Each pass of the loop starts further to the right
(`start_lt_nextStart`), so as many passes as the text has characters are enough.
-/

namespace DataChat.Documents

structure ExtractedSection where
  text : String
  page_number : Option Int
  section_title : Option String
  metadata : JsonObject

structure ExtractedDocument where
  sections : List ExtractedSection
  page_count : Option Int

structure TextChunk where
  chunk_index : Nat
  content : String
  token_count : Nat
  page_number : Option Int
  section_title : Option String
  metadata : JsonObject

/-- `TextChunkingError`. -/
structure TextChunkingError where
  message : String
deriving DecidableEq

abbrev Chunking := Except TextChunkingError

def estimateTokenCount (text : String) : Nat :=
  if text.length = 0 then 0 else max 1 (text.length / 4)

/-- `text[start:stop]`. -/
def slice (text : List Char) (start stop : Nat) : List Char := (text.take stop).drop start

/-- `text.rfind(part, start, stop)`, where `None` stands for `-1`. -/
def rfind (part text : List Char) (start stop : Nat) : Option Nat :=
  (List.range (stop + 1)).reverse.find? (fun i =>
    start ≤ i ∧ i + part.length ≤ stop ∧ slice text i (i + part.length) = part)

/-- `valid_boundaries`: a line break, the end of a sentence or a space, after the start. -/
def validBoundaries (text : List Char) (start targetEnd : Nat) : List Nat :=
  let searchStart := max start (targetEnd - 150)
  [rfind ['\n'] text searchStart targetEnd, rfind ['.', ' '] text searchStart targetEnd,
    rfind [' '] text searchStart targetEnd].filterMap
      (fun position => position.filter (fun i => start < i))

/-- Where the chunk that begins at `start` ends. -/
def chunkEnd (text : List Char) (chunkSize start : Nat) : Nat :=
  let targetEnd := min (start + chunkSize) text.length
  if targetEnd < text.length then
    match (validBoundaries text start targetEnd).max? with
    | some boundary =>
      if slice text boundary (boundary + 2) = ['.', ' '] then boundary + 1 else boundary
    | none => targetEnd
  else targetEnd

def nextStart (chunkOverlap start stop : Nat) : Nat :=
  if stop - chunkOverlap ≤ start then stop else stop - chunkOverlap

/-- The passes of the loop that are left. -/
def splitFrom (text : List Char) (chunkSize chunkOverlap : Nat) : Nat → Nat → List String
  | 0, _ => []
  | passes + 1, start =>
    if start < text.length then
      let stop := chunkEnd text chunkSize start
      let chunk := strip (String.ofList (slice text start stop))
      let rest := if text.length ≤ stop then []
        else splitFrom text chunkSize chunkOverlap passes (nextStart chunkOverlap start stop)
      if chunk = "" then rest else chunk :: rest
    else []

def splitTextWithOverlap (text : String) (chunkSize chunkOverlap : Int) :
    Chunking (List String) :=
  if chunkSize < 1 then throw ⟨"Chunk size must be positive."⟩
  else if chunkOverlap < 0 then throw ⟨"Chunk overlap cannot be negative."⟩
  else if chunkSize ≤ chunkOverlap then
    throw ⟨"Chunk overlap must be smaller than chunk size."⟩
  else
    let normalizedText := (strip text).toList
    pure (splitFrom normalizedText chunkSize.toNat chunkOverlap.toNat normalizedText.length 0)

/-- `{**fields, key: value}`. -/
def withField (fields : JsonObject) (key : String) (value : Json) : JsonObject :=
  if key ∈ fields.map Prod.fst then
    fields.map (fun field => if field.1 = key then (key, value) else field)
  else fields ++ [(key, value)]

def chunkExtractedSection (part : ExtractedSection) (chunkSize chunkOverlap : Int)
    (startingIndex : Nat) : Chunking (List TextChunk) := do
  let sectionChunks ← splitTextWithOverlap part.text chunkSize chunkOverlap
  pure (sectionChunks.zipIdx.map (fun chunk =>
    { chunk_index := startingIndex + chunk.2
      content := chunk.1
      token_count := estimateTokenCount chunk.1
      page_number := part.page_number
      section_title := part.section_title
      metadata := withField part.metadata "section_chunk_index" (.number false (toString chunk.2)) }))

def chunkExtractedDocument (document : ExtractedDocument) (chunkSize chunkOverlap : Int) :
    Chunking (List TextChunk) := do
  let chunks ← document.sections.foldlM (fun chunks part => do
    let sectionChunks ← chunkExtractedSection part chunkSize chunkOverlap chunks.length
    pure (chunks ++ sectionChunks)) []
  if chunks.isEmpty then throw ⟨"The document produced no text chunks."⟩
  else pure chunks

/-! ## The loop ends -/

theorem start_lt_of_mem_validBoundaries {text : List Char} {start targetEnd boundary : Nat}
    (h : boundary ∈ validBoundaries text start targetEnd) : start < boundary := by
  obtain ⟨position, -, hposition⟩ := List.mem_filterMap.mp h
  have hfilter := (Option.filter_eq_some_iff.mp hposition).2
  exact of_decide_eq_true hfilter

theorem start_lt_chunkEnd {text : List Char} {chunkSize start : Nat} (hsize : 1 ≤ chunkSize)
    (hstart : start < text.length) : start < chunkEnd text chunkSize start := by
  dsimp only [chunkEnd]
  have htarget : start < min (start + chunkSize) text.length := by omega
  split
  · split
    · rename_i boundary hmax
      have hboundary := start_lt_of_mem_validBoundaries (List.max?_mem hmax)
      split <;> omega
    · exact htarget
  · exact htarget

theorem start_lt_nextStart {chunkOverlap start stop : Nat} (h : start < stop) :
    start < nextStart chunkOverlap start stop := by
  unfold nextStart
  split <;> omega

/-- More passes than there are characters left change nothing. -/
theorem splitFrom_succ {text : List Char} {chunkSize : Nat} (chunkOverlap : Nat)
    (hsize : 1 ≤ chunkSize) (passes start : Nat) (h : text.length ≤ start + passes) :
    splitFrom text chunkSize chunkOverlap (passes + 1) start =
      splitFrom text chunkSize chunkOverlap passes start := by
  induction passes generalizing start with
  | zero =>
    have hdone : ¬ start < text.length := by omega
    simp only [splitFrom, if_neg hdone]
  | succ passes ih =>
    rw [splitFrom, splitFrom]
    split
    · rename_i hstart
      have hstop := start_lt_chunkEnd hsize hstart
      have hnext : start < nextStart chunkOverlap start (chunkEnd text chunkSize start) :=
        start_lt_nextStart hstop
      have hrest := ih _ (by omega : text.length ≤
        nextStart chunkOverlap start (chunkEnd text chunkSize start) + passes)
      simp only [hrest]
    · rfl

end DataChat.Documents
