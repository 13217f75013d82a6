import DataChat.Library.Outcome

/-!
# Reading comma-separated values

The reader of Python's `csv` module for dialects that double their quotes and escape nothing: a
state machine over the lines of a text, which builds one field after another. A line break ends a
record outside of quotes only, so a record may take several lines.

* `read_eq_go`: the lines may be read as one text.
* `read_written`: a table that was written, with or without quotes, is read back.
-/

namespace DataChat.Csv

open Outcome

structure Dialect where
  delimiter : Char
  quotechar : Char
  /-- `csv.field_size_limit()`. -/
  fieldLimit : Nat
  distinct : [delimiter, quotechar, '\n', '\r'].Nodup

/-- The default dialect. -/
def excel : Dialect := ⟨',', '"', 131072, by decide⟩

/-! ## The state machine -/

inductive State
  | startRecord
  | startField
  | inField
  | inQuotedField
  | quoteInQuotedField
  | eatCrnl
deriving DecidableEq

inductive Error
  | newLineInUnquotedField
  | fieldLargerThanLimit

structure Reader where
  state : State
  /-- The fields of the record so far. -/
  fields : List (List Char)
  field : List Char

def Reader.start : Reader := ⟨.startRecord, [], []⟩

/-- `parse_save_field`. -/
def Reader.saveField (reader : Reader) (state : State) : Reader :=
  ⟨state, reader.fields ++ [reader.field], []⟩

/-- `parse_add_char`. -/
def Reader.addChar (d : Dialect) (reader : Reader) (state : State) (c : Char) :
    Except Error Reader :=
  if d.fieldLimit ≤ reader.field.length then throw .fieldLargerThanLimit
  else pure ⟨state, reader.fields, reader.field ++ [c]⟩

def isBreak (c : Char) : Bool := decide (c = '\n' ∨ c = '\r')

def processStartField (d : Dialect) (reader : Reader) : Option Char → Except Error Reader
  | none => pure (reader.saveField .startRecord)
  | some c =>
    if isBreak c then pure (reader.saveField .eatCrnl)
    else if c = d.quotechar then pure { reader with state := .inQuotedField }
    else if c = d.delimiter then pure (reader.saveField .startField)
    else reader.addChar d .inField c

/-- `parse_process_char`; the end of a line is no character. -/
def process (d : Dialect) (reader : Reader) (c : Option Char) : Except Error Reader :=
  match reader.state with
  | .startRecord =>
    match c with
    | none => pure reader
    | some c =>
      if isBreak c then pure { reader with state := .eatCrnl }
      else processStartField d reader (some c)
  | .startField => processStartField d reader c
  | .inField =>
    match c with
    | none => pure (reader.saveField .startRecord)
    | some c =>
      if isBreak c then pure (reader.saveField .eatCrnl)
      else if c = d.delimiter then pure (reader.saveField .startField)
      else reader.addChar d .inField c
  | .inQuotedField =>
    match c with
    | none => pure reader
    | some c =>
      if c = d.quotechar then pure { reader with state := .quoteInQuotedField }
      else reader.addChar d .inQuotedField c
  | .quoteInQuotedField =>
    match c with
    | none => pure (reader.saveField .startRecord)
    | some c =>
      if c = d.quotechar then reader.addChar d .inQuotedField c
      else if c = d.delimiter then pure (reader.saveField .startField)
      else if isBreak c then pure (reader.saveField .eatCrnl)
      else reader.addChar d .inField c
  | .eatCrnl =>
    match c with
    | none => pure { reader with state := .startRecord }
    | some c => if isBreak c then pure reader else throw .newLineInUnquotedField

/-! ## Lines -/

/-- The lines of `io.StringIO(text)`, with their ends. -/
def linesOf : List Char → List (List Char)
  | [] => []
  | c :: text =>
    if c = '\n' then [c] :: linesOf text
    else
      match linesOf text with
      | [] => [[c]]
      | line :: lines => (c :: line) :: lines

def processLine (d : Dialect) (reader : Reader) (line : List Char) : Except Error Reader :=
  (line.map some ++ [none]).foldlM (process d) reader

/-- The last record, if the input ends within one. -/
def atEnd (reader : Reader) : List (List (List Char)) :=
  if reader.field ≠ [] ∨ reader.state = .inQuotedField then
    [reader.fields ++ [reader.field]]
  else []

/-- The records of the lines; the reader may be within one. -/
def readLines (d : Dialect) : Reader → List (List Char) → Except Error (List (List (List Char)))
  | reader, [] => pure (atEnd reader)
  | reader, line :: lines => do
    let reader ← processLine d reader line
    if reader.state = .startRecord then
      let records ← readLines d .start lines
      pure (reader.fields :: records)
    else readLines d reader lines

/-- `list(csv.reader(io.StringIO(text)))`. -/
def read (d : Dialect) (text : List Char) : Except Error (List (List (List Char))) :=
  readLines d .start (linesOf text)

/-! ## Reading a text without cutting it into lines -/

/-- The end of a line: the record is complete, or goes on. -/
def endLine (d : Dialect) (reader : Reader)
    (rest : Reader → Except Error (List (List (List Char)))) :
    Except Error (List (List (List Char))) := do
  let reader ← process d reader none
  if reader.state = .startRecord then
    let records ← rest .start
    pure (reader.fields :: records)
  else rest reader

/-- The same as `readLines`, character by character; the flag says whether a line has begun. -/
def go (d : Dialect) : Bool → Reader → List Char → Except Error (List (List (List Char)))
  | begun, reader, [] =>
    if begun then endLine d reader (fun reader => pure (atEnd reader)) else pure (atEnd reader)
  | _, reader, c :: text => do
    let reader ← process d reader (some c)
    if c = '\n' then endLine d reader (fun reader => go d false reader text)
    else go d true reader text

variable {d : Dialect} {reader : Reader}

/-- The rest of a line, and the lines after it. -/
def readRest (d : Dialect) (reader : Reader) :
    List (List Char) → Except Error (List (List (List Char)))
  | [] => endLine d reader (fun reader => pure (atEnd reader))
  | line :: lines => readLines d reader (line :: lines)

theorem readLines_cons (line : List Char) (lines : List (List Char)) :
    readLines d reader (line :: lines) =
      (line.map some).foldlM (process d) reader >>= fun reader =>
        endLine d reader (fun reader => readLines d reader lines) := by
  rw [readLines, processLine, List.foldlM_append, bind_assoc]
  refine bind_congr (fun reader => ?_)
  unfold endLine
  rw [List.foldlM_cons, bind_assoc]
  rfl

theorem go_eq (text : List Char) (reader : Reader) :
    go d false reader text = readLines d reader (linesOf text) ∧
      go d true reader text = readRest d reader (linesOf text) := by
  induction text generalizing reader with
  | nil => exact ⟨rfl, rfl⟩
  | cons c text ih =>
    by_cases hc : c = '\n'
    · have hlines : linesOf (c :: text) = [c] :: linesOf text := by
        rw [linesOf, if_pos hc]
      have hread : readLines d reader ([c] :: linesOf text) = (do
          let reader ← process d reader (some c)
          endLine d reader (fun reader => go d false reader text)) := by
        rw [readLines_cons, List.map_singleton, List.foldlM_cons, bind_assoc]
        refine bind_congr (fun reader => ?_)
        rw [List.foldlM_nil, pure_bind]
        congr 1
        funext reader
        exact (ih reader).1.symm
      rw [hlines, readRest, hread, go, go]
      simp only [if_pos hc, and_self]
    · have hgo : ∀ begun, go d begun reader (c :: text) =
          (process d reader (some c) >>= fun reader => readRest d reader (linesOf text)) := by
        intro begun
        rw [go]
        refine bind_congr (fun reader => ?_)
        rw [if_neg hc, (ih reader).2]
      rw [hgo, hgo, linesOf, if_neg hc]
      cases hlines : linesOf text with
      | nil =>
        rw [readRest, readLines_cons, List.map_singleton, List.foldlM_cons, bind_assoc]
        refine ⟨bind_congr (fun reader => ?_), bind_congr (fun reader => ?_)⟩
        all_goals
          rw [List.foldlM_nil, pure_bind]
          rfl
      | cons line lines =>
        rw [readRest, readLines_cons, List.map_cons, List.foldlM_cons, bind_assoc]
        refine ⟨bind_congr (fun reader => ?_), bind_congr (fun reader => ?_)⟩
        all_goals rw [readRest, readLines_cons]

theorem read_eq_go (text : List Char) : read d text = go d false .start text :=
  (go_eq text .start).1.symm

/-! ## Writing -/

/-- A cell with its quotes doubled. -/
def escape (d : Dialect) (cell : List Char) : List Char :=
  cell.flatMap (fun c => if c = d.quotechar then [c, c] else [c])

/-- The text stands for the cell. A cell that would be misread has to be quoted. -/
inductive Written (d : Dialect) : List Char → List Char → Prop
  | plain {cell : List Char} (hcell : ∀ c ∈ cell, isBreak c = false ∧ c ≠ d.delimiter)
      (hstart : cell.head? ≠ some d.quotechar) : Written d cell cell
  | quoted (cell : List Char) :
      Written d cell (d.quotechar :: (escape d cell ++ [d.quotechar]))

inductive WrittenRow (d : Dialect) : List (List Char) → List Char → Prop
  | last {cell text : List Char} (h : Written d cell text) : WrittenRow d [cell] text
  | cons {cell text : List Char} {row : List (List Char)} {rest : List Char}
      (h : Written d cell text) (hrest : WrittenRow d row rest) :
      WrittenRow d (cell :: row) (text ++ d.delimiter :: rest)

inductive LineEnd
  | lf
  | crlf

def LineEnd.text : LineEnd → List Char
  | .lf => ['\n']
  | .crlf => ['\r', '\n']

/-- The text stands for the table. A line break ends each row, or all but the last; an empty line
stands for a row without cells. -/
inductive WrittenTable (d : Dialect) : List (List (List Char)) → List Char → Prop
  | nil : WrittenTable d [] []
  | last {row : List (List Char)} {text : List Char} (h : WrittenRow d row text) (hne : text ≠ []) :
      WrittenTable d [row] text
  | cons {row : List (List Char)} {text : List Char} {rows : List (List (List Char))}
      {rest : List Char} (h : WrittenRow d row text) (hne : text ≠ []) (lineEnd : LineEnd)
      (hrest : WrittenTable d rows rest) :
      WrittenTable d (row :: rows) (text ++ (lineEnd.text ++ rest))
  | blank {rows : List (List (List Char))} {rest : List Char} (lineEnd : LineEnd)
      (hrest : WrittenTable d rows rest) : WrittenTable d ([] :: rows) (lineEnd.text ++ rest)

/-! ## Special characters -/

theorem delimiter_not_break : isBreak d.delimiter = false := by
  have h := d.distinct
  simp only [List.nodup_cons, List.mem_cons, not_or, List.not_mem_nil] at h
  simp [isBreak, h.1.2.1, h.1.2.2.1]

theorem quotechar_not_break : isBreak d.quotechar = false := by
  have h := d.distinct
  simp only [List.nodup_cons, List.mem_cons, not_or, List.not_mem_nil] at h
  simp [isBreak, h.2.1.1, h.2.1.2.1]

theorem delimiter_ne_quotechar : d.delimiter ≠ d.quotechar := by
  have h := d.distinct
  simp only [List.nodup_cons, List.mem_cons, not_or] at h
  exact h.1.1

theorem ne_newline {c : Char} (h : isBreak c = false) : c ≠ '\n' := by
  intro hc
  simp [isBreak, hc] at h

/-! ## Reading what was written -/

theorem go_cons {c : Char} (hc : c ≠ '\n') {begun : Bool} {next : Reader} (text : List Char)
    (h : process d reader (some c) = .ok next) :
    go d begun reader (c :: text) = go d true next text := by
  rw [go, h]
  exact if_neg hc

theorem go_newline {begun : Bool} {next : Reader} (text : List Char)
    (h : process d reader (some '\n') = .ok next) :
    go d begun reader ('\n' :: text) = endLine d next (fun reader => go d false reader text) := by
  rw [go, h]
  rfl

theorem addChar_ok {state : State} {c : Char} (h : reader.field.length < d.fieldLimit) :
    reader.addChar d state c = .ok ⟨state, reader.fields, reader.field ++ [c]⟩ :=
  if_neg (Nat.not_le.mpr h)

/-- The text of a quoted cell, up to its closing quote. -/
theorem go_quoted (fields : List (List Char)) {field cell : List Char}
    (hlimit : field.length + cell.length ≤ d.fieldLimit) (begun : Bool) (text : List Char) :
    go d begun ⟨.inQuotedField, fields, field⟩ (escape d cell ++ d.quotechar :: text) =
      go d true ⟨.quoteInQuotedField, fields, field ++ cell⟩ text := by
  have hquote := ne_newline (quotechar_not_break (d := d))
  induction cell generalizing field begun with
  | nil =>
    rw [List.append_nil]
    refine go_cons hquote text ?_
    simp only [process, if_true]
    rfl
  | cons c cell ih =>
    rw [List.length_cons] at hlimit
    have hroom : field.length < d.fieldLimit := by omega
    have hrest : (field ++ [c]).length + cell.length ≤ d.fieldLimit := by
      rw [List.length_append, List.length_singleton]
      omega
    rw [show field ++ c :: cell = (field ++ [c]) ++ cell by simp]
    by_cases hc : c = d.quotechar
    · have htext : escape d (c :: cell) ++ d.quotechar :: text =
          d.quotechar :: d.quotechar :: (escape d cell ++ d.quotechar :: text) := by
        simp [escape, hc]
      have hfirst : process d ⟨.inQuotedField, fields, field⟩ (some d.quotechar) =
          .ok ⟨.quoteInQuotedField, fields, field⟩ := by
        simp only [process, if_true]
        rfl
      have hsecond : process d ⟨.quoteInQuotedField, fields, field⟩ (some d.quotechar) =
          .ok ⟨.inQuotedField, fields, field ++ [d.quotechar]⟩ := by
        simp only [process, if_true]
        exact addChar_ok hroom
      rw [htext, hc, go_cons hquote _ hfirst, go_cons hquote _ hsecond]
      exact ih (hc ▸ hrest) true
    · have htext : escape d (c :: cell) ++ d.quotechar :: text =
          c :: (escape d cell ++ d.quotechar :: text) := by
        simp [escape, hc]
      have hadd : process d ⟨.inQuotedField, fields, field⟩ (some c) =
          .ok ⟨.inQuotedField, fields, field ++ [c]⟩ := by
        simp only [process, if_neg hc]
        exact addChar_ok hroom
      rw [htext]
      by_cases hnewline : c = '\n'
      · rw [go, hadd]
        -- the record goes on in the next line
        refine (if_pos hnewline).trans ?_
        exact ih hrest false
      · rw [go_cons hnewline _ hadd]
        exact ih hrest true

/-- The rest of a plain cell. -/
theorem go_inField (fields : List (List Char)) {field cell : List Char}
    (hcell : ∀ c ∈ cell, isBreak c = false ∧ c ≠ d.delimiter)
    (hlimit : field.length + cell.length ≤ d.fieldLimit) (text : List Char) :
    go d true ⟨.inField, fields, field⟩ (cell ++ text) =
      go d true ⟨.inField, fields, field ++ cell⟩ text := by
  induction cell generalizing field with
  | nil => simp
  | cons c cell ih =>
    obtain ⟨hbreak, hdelimiter⟩ := hcell c List.mem_cons_self
    rw [List.length_cons] at hlimit
    have hroom : field.length < d.fieldLimit := by omega
    have hadd : process d ⟨.inField, fields, field⟩ (some c) =
        .ok ⟨.inField, fields, field ++ [c]⟩ := by
      simp only [process, hbreak, if_neg hdelimiter]
      exact addChar_ok hroom
    rw [List.cons_append, go_cons (ne_newline hbreak) _ hadd,
      ih (fun c' hc' => hcell c' (List.mem_cons_of_mem c hc'))]
    · simp
    · rw [List.length_append, List.length_singleton]
      omega

/-- The states after the text of a cell. -/
def State.Closes : State → Prop
  | .startField | .inField | .quoteInQuotedField => True
  | _ => False

theorem go_written {cell written : List Char} (h : Written d cell written)
    (hlimit : cell.length ≤ d.fieldLimit) (fields : List (List Char)) (begun : Bool)
    (text : List Char) :
    ∃ state : State, state.Closes ∧
      go d begun ⟨.startField, fields, []⟩ (written ++ text) =
        go d (begun || !written.isEmpty) ⟨state, fields, cell⟩ text := by
  cases h with
  | plain hcell hstart =>
    cases cell with
    | nil => exact ⟨.startField, trivial, by simp⟩
    | cons c cell =>
      obtain ⟨hbreak, hdelimiter⟩ := hcell c List.mem_cons_self
      have hquote : c ≠ d.quotechar := fun hc => hstart (congrArg some hc)
      rw [List.length_cons] at hlimit
      have hadd : process d ⟨.startField, fields, []⟩ (some c) =
          .ok ⟨.inField, fields, [c]⟩ := by
        simp only [process, processStartField, hbreak, if_neg hquote, if_neg hdelimiter]
        exact addChar_ok (Nat.lt_of_lt_of_le (Nat.succ_pos _) hlimit)
      refine ⟨.inField, trivial, ?_⟩
      rw [List.cons_append, go_cons (ne_newline hbreak) _ hadd,
        go_inField fields (fun c' hc' => hcell c' (List.mem_cons_of_mem c hc'))]
      · simp
      · rw [List.length_singleton]
        omega
  | quoted =>
    have hquote := quotechar_not_break (d := d)
    have hopen : process d ⟨.startField, fields, []⟩ (some d.quotechar) =
        .ok ⟨.inQuotedField, fields, []⟩ := by
      simp only [process, processStartField, hquote, if_true]
      rfl
    refine ⟨.quoteInQuotedField, trivial, ?_⟩
    rw [List.cons_append, List.append_assoc, go_cons (ne_newline hquote) _ hopen]
    refine (go_quoted fields ?_ true text).trans ?_
    · rw [List.length_nil]
      omega
    · simp

/-! ## The ends of cells and rows -/

section

variable {state : State} {fields : List (List Char)} {field : List Char}

theorem go_delimiter (hstate : state.Closes) (begun : Bool) (text : List Char) :
    go d begun ⟨state, fields, field⟩ (d.delimiter :: text) =
      go d true ⟨.startField, fields ++ [field], []⟩ text := by
  have hbreak := delimiter_not_break (d := d)
  have hquote := delimiter_ne_quotechar (d := d)
  refine go_cons (ne_newline hbreak) text ?_
  cases state <;> first | exact hstate.elim | skip
  all_goals
    simp only [process, processStartField, hbreak, if_neg hquote, if_true]
    rfl

theorem process_close (hstate : state.Closes) {c : Option Char}
    (hc : ∀ c' ∈ c, isBreak c' = true) :
    process d ⟨state, fields, field⟩ c =
      .ok ⟨if c = none then .startRecord else .eatCrnl, fields ++ [field], []⟩ := by
  cases c with
  | none => cases state <;> first | exact hstate.elim | rfl
  | some c =>
    have hbreak := hc c rfl
    have hdelimiter : c ≠ d.delimiter := by
      rintro rfl
      rw [delimiter_not_break] at hbreak
      cases hbreak
    have hquote : c ≠ d.quotechar := by
      rintro rfl
      rw [quotechar_not_break] at hbreak
      cases hbreak
    cases state <;> first | exact hstate.elim | skip
    all_goals
      simp only [process, processStartField, hbreak, if_neg hdelimiter, if_neg hquote, if_true]
      rfl

/-- After the break at its end, a record is complete. -/
theorem endLine_eatCrnl (row : List (List Char))
    (rest : Reader → Except Error (List (List (List Char)))) :
    endLine d ⟨.eatCrnl, row, []⟩ rest = (rest .start).map (row :: ·) := rfl

theorem go_lineEnd (hstate : state.Closes) (begun : Bool) (lineEnd : LineEnd) (text : List Char) :
    go d begun ⟨state, fields, field⟩ (lineEnd.text ++ text) =
      (go d false .start text).map ((fields ++ [field]) :: ·) := by
  have hcr : process d ⟨state, fields, field⟩ (some '\r') =
      .ok ⟨.eatCrnl, fields ++ [field], []⟩ := process_close hstate (by simp [isBreak])
  have hlf : process d ⟨state, fields, field⟩ (some '\n') =
      .ok ⟨.eatCrnl, fields ++ [field], []⟩ := process_close hstate (by simp [isBreak])
  cases lineEnd with
  | lf =>
    show go d begun _ ('\n' :: text) = _
    rw [go_newline text hlf, endLine_eatCrnl]
  | crlf =>
    show go d begun _ ('\r' :: '\n' :: text) = _
    have hagain : process d ⟨.eatCrnl, fields ++ [field], []⟩ (some '\n') =
        .ok ⟨.eatCrnl, fields ++ [field], []⟩ := rfl
    rw [go_cons (by decide) _ hcr, go_newline text hagain, endLine_eatCrnl]

theorem go_end (hstate : state.Closes) :
    go d true ⟨state, fields, field⟩ [] = .ok [fields ++ [field]] := by
  have hclose : process d ⟨state, fields, field⟩ none =
      .ok ⟨.startRecord, fields ++ [field], []⟩ := process_close hstate (by simp)
  rw [go, if_pos rfl, endLine, hclose]
  rfl

end

/-! ## Rows and tables -/

/-- The text of a row, up to its last cell. -/
theorem go_row {row : List (List Char)} {written : List Char} (h : WrittenRow d row written)
    (hlimit : ∀ cell ∈ row, cell.length ≤ d.fieldLimit) (fields : List (List Char)) (begun : Bool)
    (text : List Char) :
    ∃ (state : State) (front : List (List Char)) (cell : List Char), state.Closes ∧
      fields ++ row = front ++ [cell] ∧
      go d begun ⟨.startField, fields, []⟩ (written ++ text) =
        go d (begun || !written.isEmpty) ⟨state, front, cell⟩ text := by
  induction h generalizing fields begun with
  | last hcell =>
    obtain ⟨state, hstate, hgo⟩ :=
      go_written hcell (hlimit _ List.mem_cons_self) fields begun text
    exact ⟨state, fields, _, hstate, rfl, hgo⟩
  | @cons cell first row rest hcell hrest ih =>
    obtain ⟨state, hstate, hgo⟩ := go_written hcell (hlimit _ List.mem_cons_self) fields begun
      (d.delimiter :: (rest ++ text))
    obtain ⟨state', front, last, hstate', hrow, hgo'⟩ :=
      ih (fun cell' hmem => hlimit cell' (List.mem_cons_of_mem _ hmem)) (fields ++ [cell]) true
    refine ⟨state', front, last, hstate', ?_, ?_⟩
    · rw [← hrow]
      simp
    · have hbegun : (!(first ++ d.delimiter :: rest).isEmpty) = true := by cases first <;> rfl
      rw [List.append_assoc, List.cons_append, hgo, go_delimiter hstate, hgo', hbegun,
        Bool.true_or, Bool.or_true]

/-- A record begins with a field, unless its line is empty. -/
theorem go_start {text : List Char} (h : ∀ c ∈ text.head?, isBreak c = false) (hne : text ≠ []) :
    go d false .start text = go d false ⟨.startField, [], []⟩ text := by
  cases text with
  | nil => exact absurd rfl hne
  | cons c text =>
    have hbreak := h c rfl
    have hprocess : process d .start (some c) = process d ⟨.startField, [], []⟩ (some c) := by
      simp only [process, Reader.start, hbreak]
      simp [processStartField, hbreak, Reader.addChar, Reader.saveField]
    rw [go, go, hprocess]

theorem written_head {cell written : List Char} (h : Written d cell written) :
    ∀ c ∈ written.head?, isBreak c = false := by
  intro c hc
  cases h with
  | plain hcell hstart => exact (hcell c (List.mem_of_mem_head? hc)).1
  | quoted =>
    obtain rfl := Option.some.inj hc
    exact quotechar_not_break

theorem writtenRow_head {row : List (List Char)} {written : List Char}
    (h : WrittenRow d row written) : ∀ c ∈ written.head?, isBreak c = false := by
  cases h with
  | last hcell => exact written_head hcell
  | @cons cell first row rest hcell hrest =>
    intro c hc
    cases first with
    | nil =>
      obtain rfl := Option.some.inj hc
      exact delimiter_not_break
    | cons c' first => exact written_head hcell c hc

theorem go_blank (lineEnd : LineEnd) (text : List Char) :
    go d false .start (lineEnd.text ++ text) = (go d false .start text).map ([] :: ·) := by
  cases lineEnd <;> rfl

/-- A table that was written is read back. -/
theorem read_written {table : List (List (List Char))} {text : List Char}
    (h : WrittenTable d table text)
    (hlimit : ∀ row ∈ table, ∀ cell ∈ row, cell.length ≤ d.fieldLimit) :
    read d text = .ok table := by
  rw [read_eq_go]
  induction h with
  | nil => rfl
  | @last row written hrow hne =>
    obtain ⟨state, front, cell, hstate, hcells, hgo⟩ :=
      go_row hrow (hlimit row List.mem_cons_self) [] false []
    rw [List.append_nil] at hgo
    have hbegun : (!written.isEmpty) = true := by simpa using hne
    rw [go_start (writtenRow_head hrow) hne, hgo, Bool.false_or, hbegun, go_end hstate, ← hcells,
      List.nil_append]
  | @cons row written rows rest hrow hne lineEnd hrest ih =>
    obtain ⟨state, front, cell, hstate, hcells, hgo⟩ :=
      go_row hrow (hlimit row List.mem_cons_self) [] false (lineEnd.text ++ rest)
    have hhead : ∀ c ∈ (written ++ (lineEnd.text ++ rest)).head?, isBreak c = false := by
      rw [List.head?_append_of_ne_nil _ hne]
      exact writtenRow_head hrow
    rw [go_start hhead (by simp [hne]), hgo, go_lineEnd hstate,
      ih (fun row' hmem => hlimit row' (List.mem_cons_of_mem _ hmem)), ← hcells, List.nil_append]
    rfl
  | @blank rows rest lineEnd hrest ih =>
    rw [go_blank, ih (fun row' hmem => hlimit row' (List.mem_cons_of_mem _ hmem))]
    rfl

end DataChat.Csv
