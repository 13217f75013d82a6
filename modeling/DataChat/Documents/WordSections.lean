import DataChat.Documents.NormalForm

/-!
# The sections of a Word document

`extract_docx` keeps the texts below a heading until the next heading comes, and saves them as a
section with the title of the heading. It looks at all paragraphs first and at the tables
afterwards, so the tables come last, below the last heading. A heading without a text below it is
forgotten.

The lines of a document with the headings they stand under are its reading.

* `isNormal_join`: joined texts are not changed when they are normalised again.
* `saveSection_held`, `addParagraph_held`, `addTable_held`: what one pass adds to the lines that are
  held.
* `extractDocx_lines`: the lines of the sections are those of the document with its tables last.
* `keepsText_iff`: when this is what is asked for.
* `table_misplaced`: a table of the first section that comes below the second heading.
-/

namespace DataChat.Documents

/-! ## Normal texts -/

theorem textLines_ne_nil {s : String} (h : IsNormal s) (hne : s ≠ "") : textLines s ≠ [] := by
  intro hnil
  refine hne (String.toList_inj.mp ?_)
  rw [h.joined, hnil]
  rfl

theorem toList_joinWith (parts : List String) :
    (joinWith "\n" parts).toList = joinLines (parts.map String.toList) := by
  induction parts with
  | nil => rfl
  | cons part parts ih =>
    cases parts with
    | nil => exact (List.intercalate_singleton).symm
    | cons next parts =>
      have hstep : joinWith "\n" (part :: next :: parts) =
        part ++ "\n" ++ joinWith "\n" (next :: parts) := rfl
      rw [hstep, String.toList_append, String.toList_append, ih]
      exact (List.intercalate_cons_of_ne_nil (List.cons_ne_nil _ _)).symm

/-- Normal texts that are joined are a normal text with the lines of all. -/
theorem isNormal_join {parts : List String} (h : ∀ part ∈ parts, IsNormal part ∧ part ≠ "") :
    IsNormal (joinWith "\n" parts) ∧ textLines (joinWith "\n" parts) = parts.flatMap textLines := by
  have hlists : parts.map String.toList = (parts.map textLines).map joinLines := by
    rw [List.map_map]
    exact List.map_congr_left (fun part hpart => (h part hpart).1.joined)
  apply isNormal_of_lines
  · rw [toList_joinWith, hlists, List.flatMap_def]
    refine intercalate_map_intercalate (fun lines hlines => ?_)
    obtain ⟨part, hpart, rfl⟩ := List.mem_map.mp hlines
    exact textLines_ne_nil (h part hpart).1 (h part hpart).2
  · intro line hline
    obtain ⟨part, hpart, hline⟩ := List.mem_flatMap.mp hline
    exact (h part hpart).1.clean line hline

/-! ## The number of a table -/

def tableCaption (index : Nat) : String := "Table " ++ toString index

theorem isNormal_tableCaption (index : Nat) : IsNormal (tableCaption index) := by
  have hdigits : (toString index).toList = Nat.toDigits 10 index := by
    rw [Nat.toString_eq_ofList_toDigits, String.toList_ofList]
  have hdigit : ∀ c ∈ (toString index).toList, 48 ≤ c.toNat ∧ c.toNat ≤ 57 := by
    intro c hc
    rw [hdigits] at hc
    exact Char.isDigit_iff_toNat.mp (Nat.isDigit_of_mem_toDigits (by decide) (by decide) hc)
  have hwords : ∀ word ∈ ["Table".toList, (toString index).toList],
      word ≠ [] ∧ ∀ c ∈ word, isSpace c = false := by
    intro word hword
    rcases List.mem_cons.mp hword with rfl | hword
    · refine ⟨List.cons_ne_nil 'T' _, fun c hc => ?_⟩
      have hletters : "Table".toList.all (fun c => ! isSpace c) = true := by rfl
      simpa using List.all_eq_true.mp hletters c hc
    · rw [List.mem_singleton.mp hword]
      refine ⟨?_, fun c hc => ?_⟩
      · rw [hdigits]
        exact Nat.toDigits_ne_nil
      · have := hdigit c hc
        simp only [isSpace, Bool.or_eq_false_iff, decide_eq_false_iff_not, List.mem_cons,
          List.not_mem_nil, or_false]
        omega
  have hline : (tableCaption index).toList =
      joinLines [joinWords ["Table".toList, (toString index).toList]] := by
    have hword : "Table ".toList = "Table".toList ++ [' '] := by decide
    unfold tableCaption joinLines joinWords
    rw [String.toList_append, hword, List.intercalate_singleton,
      List.intercalate_cons_of_ne_nil (List.cons_ne_nil _ _), List.intercalate_singleton]
  refine (isNormal_of_lines hline (fun line h => ?_)).1
  rw [List.mem_singleton.mp h]
  refine ⟨cleanLine_joinWords (List.cons_ne_nil _ _) hwords, fun hnul => ?_⟩
  rcases mem_intercalate hnul with hc | ⟨word, hword, hc⟩
  · exact absurd hc (by decide)
  · rcases List.mem_cons.mp hword with rfl | hword
    · exact absurd hc (by decide)
    · rw [List.mem_singleton.mp hword] at hc
      exact absurd (hdigit _ hc).1 (by decide)

/-- The text of a table below its number. -/
def tableEntry (index : Nat) (text : String) : String := joinWith "\n" [tableCaption index, text]

theorem tableEntry_eq (index : Nat) (text : String) :
    tableEntry index text = "Table " ++ toString index ++ "\n" ++ text := rfl

theorem isNormal_tableEntry {index : Nat} {text : String} (h : IsNormal text) (hne : text ≠ "") :
    IsNormal (tableEntry index text) ∧ tableEntry index text ≠ "" := by
  have hparts : ∀ part ∈ [tableCaption index, text], IsNormal part ∧ part ≠ "" := by
    intro part hpart
    rcases List.mem_cons.mp hpart with rfl | hpart
    · refine ⟨isNormal_tableCaption index, fun hnil => ?_⟩
      have hlist := congrArg String.toList hnil
      rw [tableCaption, String.toList_append] at hlist
      exact absurd (List.append_eq_nil_iff.mp hlist).1 (by decide)
    · rw [List.mem_singleton.mp hpart]
      exact ⟨h, hne⟩
  obtain ⟨hnormal, hlines⟩ := isNormal_join hparts
  refine ⟨hnormal, fun hnil => ?_⟩
  have htext : textLines text ≠ [] := textLines_ne_nil h hne
  have hempty : textLines (tableEntry index text) = [] := by
    rw [hnil]
    rfl
  rw [tableEntry, hlines] at hempty
  simp [htext] at hempty

/-! ## Reading a document -/

/-- The lines of the body items with the nearest heading before them. A table has the number after
those of the tables before it. -/
def reading (py : Casing) : Option String → Nat → List BodyItem → List (Option String × List Char)
  | _, _, [] => []
  | title, index, .paragraph text styleName :: body =>
    if normalizeText text = "" then reading py title index body
    else if isHeading py styleName then reading py (some (normalizeText text)) index body
    else (textLines (normalizeText text)).map (fun line => (title, line)) ++
      reading py title index body
  | title, index, .table rows :: body =>
    if tableText rows = "" then reading py title (index + 1) body
    else (textLines (tableEntry index (tableText rows))).map (fun line => (title, line)) ++
      reading py title (index + 1) body

/-- The texts of the headings that are not blank. -/
def headings (py : Casing) (body : List BodyItem) : List String :=
  body.filterMap (fun item =>
    match item with
    | .paragraph text styleName =>
      if normalizeText text ≠ "" ∧ isHeading py styleName then some (normalizeText text) else none
    | .table _ => none)

/-- The text of the item is not blank. -/
def BodyItem.HasText : BodyItem → Prop
  | .paragraph text _ => normalizeText text ≠ ""
  | .table rows => tableText rows ≠ ""

/-- The lines of the sections with their titles. -/
def sectionLines (sections : List ExtractedSection) : List (Option String × List Char) :=
  sections.flatMap (fun part => (textLines part.text).map (fun line => (part.section_title, line)))

/-- The document is accepted, the lines of its sections are those of its items below their headings,
and every heading is the title of a section. -/
def KeepsText (py : Casing) (body : List BodyItem) (result : Extraction ExtractedDocument) :
    Prop :=
  ∃ document, result = .ok document ∧
    sectionLines document.sections = reading py none 1 body ∧
    ∀ title ∈ headings py body, ∃ part ∈ document.sections, part.section_title = some title

/-- The body with its tables at the end. -/
def tablesLast (body : List BodyItem) : List BodyItem :=
  (paragraphs body).map (fun p => .paragraph p.1 p.2) ++ (tables body).map .table

/-! ## The passes -/

variable {py : Casing}

/-- The lines of the sections, and those that wait for the next section. -/
def DocxState.held (state : DocxState) : List (Option String × List Char) :=
  sectionLines state.sections ++
    (state.current_paragraphs.flatMap textLines).map (fun line => (state.current_title, line))

/-- Waiting texts are normal, and no section is empty. -/
structure DocxState.Good (state : DocxState) : Prop where
  waiting : ∀ text ∈ state.current_paragraphs, IsNormal text ∧ text ≠ ""
  sections : ∀ part ∈ state.sections, textLines part.text ≠ []

/-- Saving a section keeps the lines and leaves no text waiting. -/
theorem saveSection_held {state : DocxState} (h : state.Good) :
    (saveSection state).Good ∧ (saveSection state).held = state.held ∧
      (saveSection state).current_paragraphs = [] ∧
      (saveSection state).current_title = state.current_title := by
  unfold saveSection
  by_cases hnil : state.current_paragraphs = []
  · rw [if_pos hnil]
    exact ⟨h, rfl, hnil, rfl⟩
  · obtain ⟨hnormal, hlines⟩ := isNormal_join h.waiting
    have hsome : textLines (joinWith "\n" state.current_paragraphs) ≠ [] := by
      obtain ⟨text, rest, hsplit⟩ := List.exists_cons_of_ne_nil hnil
      have htext := h.waiting text (by simp [hsplit])
      rw [hlines, hsplit]
      simp [textLines_ne_nil htext.1 htext.2]
    have hne : joinWith "\n" state.current_paragraphs ≠ "" := by
      intro hempty
      rw [hempty] at hsome
      exact hsome rfl
    rw [if_neg hnil, normalizeText_eq_self hnormal]
    dsimp only
    rw [if_neg hne]
    refine ⟨⟨fun text htext => absurd htext List.not_mem_nil, fun part hpart => ?_⟩, ?_, rfl, rfl⟩
    · rcases List.mem_append.mp hpart with hpart | hpart
      · exact h.sections part hpart
      · rw [List.mem_singleton.mp hpart]
        exact hsome
    · simp [DocxState.held, sectionLines, hlines]

theorem held_snoc (state : DocxState) (text : String) :
    { state with current_paragraphs := state.current_paragraphs ++ [text] }.held =
      state.held ++ (textLines text).map (fun line => (state.current_title, line)) := by
  simp [DocxState.held, List.flatMap_append, List.append_assoc]

theorem good_snoc {state : DocxState} (h : state.Good) {text : String}
    (htext : IsNormal text ∧ text ≠ "") :
    { state with current_paragraphs := state.current_paragraphs ++ [text] }.Good := by
  refine ⟨fun other hother => ?_, h.sections⟩
  rcases List.mem_append.mp hother with hother | hother
  · exact h.waiting other hother
  · rw [List.mem_singleton.mp hother]
    exact htext

/-- The heading that a paragraph leaves behind. -/
def titleAfter (py : Casing) (title : Option String) (paragraph : String × Option String) :
    Option String :=
  if normalizeText paragraph.1 ≠ "" ∧ isHeading py paragraph.2 then
    some (normalizeText paragraph.1)
  else title

/-- One pass of the loop over the paragraphs. -/
theorem addParagraph_held (py : Casing) {state : DocxState} (h : state.Good) (index : Nat)
    (paragraph : String × Option String) :
    (addParagraph py state paragraph).Good ∧
      (addParagraph py state paragraph).held = state.held ++
        reading py state.current_title index [.paragraph paragraph.1 paragraph.2] ∧
      (addParagraph py state paragraph).current_title =
        titleAfter py state.current_title paragraph := by
  unfold addParagraph titleAfter reading
  by_cases hblank : normalizeText paragraph.1 = ""
  · simp only [hblank, if_true]
    exact ⟨h, by simp [reading], by simp⟩
  · simp only [hblank, if_false]
    by_cases hheading : isHeading py paragraph.2 = true
    · obtain ⟨hgood, hheld, hwaiting, -⟩ := saveSection_held h
      rw [if_pos hheading, if_pos hheading, if_pos ⟨hblank, hheading⟩]
      refine ⟨⟨hgood.waiting, hgood.sections⟩, ?_, rfl⟩
      rw [← hheld]
      simp [DocxState.held, hwaiting, reading]
    · rw [if_neg hheading, if_neg hheading, if_neg (fun hboth => hheading hboth.2)]
      refine ⟨good_snoc h ⟨isNormal_normalizeText _, hblank⟩, ?_, rfl⟩
      rw [held_snoc]
      simp [reading]

theorem reading_paragraph_cons (py : Casing) (title : Option String) (index : Nat)
    (paragraph : String × Option String) (body : List BodyItem) :
    reading py title index (.paragraph paragraph.1 paragraph.2 :: body) =
      reading py title index [.paragraph paragraph.1 paragraph.2] ++
        reading py (titleAfter py title paragraph) index body := by
  unfold titleAfter
  rw [reading, reading]
  by_cases hblank : normalizeText paragraph.1 = ""
  · simp [hblank, reading]
  · by_cases hheading : isHeading py paragraph.2 = true
    · simp [hblank, hheading, reading]
    · simp [hblank, hheading, reading]

/-- The loop over the paragraphs. -/
theorem paragraphs_held (py : Casing) (found : List (String × Option String)) {state : DocxState}
    (h : state.Good) (index : Nat) (rest : List BodyItem) :
    (found.foldl (addParagraph py) state).Good ∧
      (found.foldl (addParagraph py) state).held ++
          reading py (found.foldl (addParagraph py) state).current_title index rest =
        state.held ++ reading py state.current_title index
          (found.map (fun p => .paragraph p.1 p.2) ++ rest) := by
  induction found generalizing state with
  | nil => exact ⟨h, rfl⟩
  | cons paragraph found ih =>
    obtain ⟨hgood, hheld, htitle⟩ := addParagraph_held py h index paragraph
    obtain ⟨hfinal, hlines⟩ := ih hgood
    rw [List.foldl_cons]
    refine ⟨hfinal, ?_⟩
    rw [hlines, hheld, htitle, List.append_assoc, ← reading_paragraph_cons, List.map_cons,
      List.cons_append]

/-- One pass of the loop over the tables. -/
theorem addTable_held (py : Casing) {state : DocxState} (h : state.Good) (rows : List (List String))
    (index : Nat) (rest : List BodyItem) :
    (addTable state (rows, index)).Good ∧
      (addTable state (rows, index)).current_title = state.current_title ∧
      (addTable state (rows, index)).held ++ reading py state.current_title (index + 1) rest =
        state.held ++ reading py state.current_title index (.table rows :: rest) := by
  unfold addTable
  rw [reading]
  by_cases hblank : tableText rows = ""
  · simp only [hblank, if_true]
    exact ⟨h, trivial, trivial⟩
  · simp only [hblank, if_false]
    have hnormal : IsNormal (tableText rows) := isNormal_normalizeText _
    rw [← tableEntry_eq]
    refine ⟨good_snoc h (isNormal_tableEntry hnormal hblank), trivial, ?_⟩
    rw [held_snoc, List.append_assoc]

/-- The loop over the tables. -/
theorem tables_held (py : Casing) (found : List (List (List String))) {state : DocxState}
    (h : state.Good) (index : Nat) :
    ((found.zipIdx index).foldl addTable state).Good ∧
      ((found.zipIdx index).foldl addTable state).held =
        state.held ++ reading py state.current_title index (found.map .table) := by
  induction found generalizing state index with
  | nil => exact ⟨h, (List.append_nil _).symm⟩
  | cons rows found ih =>
    obtain ⟨hgood, htitle, hheld⟩ := addTable_held py h rows index (found.map .table)
    obtain ⟨hfinal, hlines⟩ := ih hgood (index + 1)
    rw [List.zipIdx_cons, List.foldl_cons]
    refine ⟨hfinal, ?_⟩
    rw [hlines, htitle, hheld, List.map_cons]

/-- The lines of the sections are those of the document with its tables last. -/
theorem extractDocx_lines (py : Casing) (body : List BodyItem) :
    ∃ sections, sectionLines sections = reading py none 1 (tablesLast body) ∧
      (∀ part ∈ sections, textLines part.text ≠ []) ∧
      extractDocx py body =
        if sections = [] then throw ⟨"The Word document contains no extractable content."⟩
        else pure ⟨sections, none⟩ := by
  have hstart : (⟨[], none, []⟩ : DocxState).Good :=
    ⟨fun text h => absurd h List.not_mem_nil, fun part h => absurd h List.not_mem_nil⟩
  obtain ⟨hgood, hparagraphs⟩ :=
    paragraphs_held py (paragraphs body) hstart 1 ((tables body).map .table)
  obtain ⟨hgood', htables⟩ := tables_held py (tables body) hgood 1
  obtain ⟨hsaved, hheld, hwaiting, -⟩ := saveSection_held hgood'
  refine ⟨_, ?_, hsaved.sections, rfl⟩
  have hlines := hheld.trans (htables.trans hparagraphs)
  rw [DocxState.held, hwaiting, List.flatMap_nil, List.map_nil, List.append_nil] at hlines
  exact hlines

/-! ## What is kept -/

theorem reading_ne_nil {body : List BodyItem} {item : BodyItem} (hitem : item ∈ body)
    (htext : item.HasText)
    (hbody : ∀ text styleName, item = .paragraph text styleName → isHeading py styleName = false)
    (title : Option String) (index : Nat) : reading py title index body ≠ [] := by
  induction body generalizing title index with
  | nil => exact absurd hitem List.not_mem_nil
  | cons first body ih =>
    rcases List.mem_cons.mp hitem with rfl | hmem
    · cases item with
      | paragraph text styleName =>
        have hlines := textLines_ne_nil (isNormal_normalizeText text) htext
        rw [reading, if_neg htext, if_neg (by simp [hbody text styleName rfl])]
        simp [hlines]
      | table rows =>
        have hentry : IsNormal (tableEntry index (tableText rows)) ∧
            tableEntry index (tableText rows) ≠ "" :=
          isNormal_tableEntry (isNormal_normalizeText _) htext
        have hlines := textLines_ne_nil hentry.1 hentry.2
        rw [reading, if_neg htext]
        exact fun hnil => hlines (List.map_eq_nil_iff.mp (List.append_eq_nil_iff.mp hnil).1)
    · cases first with
      | paragraph text styleName =>
        rw [reading]
        split
        · exact ih hmem title index
        · split
          · exact ih hmem _ index
          · exact fun hnil => ih hmem title index (List.append_eq_nil_iff.mp hnil).2
      | table rows =>
        rw [reading]
        split
        · exact ih hmem title (index + 1)
        · exact fun hnil => ih hmem title (index + 1) (List.append_eq_nil_iff.mp hnil).2

theorem mem_sectionLines {sections : List ExtractedSection}
    (hsections : ∀ part ∈ sections, textLines part.text ≠ []) (title : Option String) :
    (∃ part ∈ sections, part.section_title = title) ↔
      ∃ line, (title, line) ∈ sectionLines sections := by
  constructor
  · rintro ⟨part, hpart, rfl⟩
    obtain ⟨line, rest, hlines⟩ := List.exists_cons_of_ne_nil (hsections part hpart)
    refine ⟨line, List.mem_flatMap.mpr ⟨part, hpart, List.mem_map_of_mem ?_⟩⟩
    rw [hlines]
    exact List.mem_cons_self
  · rintro ⟨line, hline⟩
    obtain ⟨part, hpart, hline⟩ := List.mem_flatMap.mp hline
    obtain ⟨found, -, hsame⟩ := List.mem_map.mp hline
    exact ⟨part, hpart, (Prod.mk.inj hsame).1⟩

/-- The text is kept exactly when moving the tables to the end does not change what stands under
which heading, and some text stands under every heading. -/
theorem keepsText_iff (py : Casing) (body : List BodyItem)
    (hcontent : ∃ item ∈ body, item.HasText) :
    KeepsText py body (extractDocx py body) ↔
      reading py none 1 (tablesLast body) = reading py none 1 body ∧
        ∀ title ∈ headings py body, ∃ line, (some title, line) ∈ reading py none 1 body := by
  obtain ⟨sections, hlines, hsections, hresult⟩ := extractDocx_lines py body
  rw [hresult]
  constructor
  · rintro ⟨document, hok, hsame, htitles⟩
    by_cases hnil : sections = []
    · rw [if_pos hnil] at hok
      cases hok
    · rw [if_neg hnil] at hok
      obtain rfl := Except.ok.inj hok
      refine ⟨hlines.symm.trans hsame, fun title htitle => ?_⟩
      rw [← hsame]
      exact (mem_sectionLines hsections (some title)).mp (htitles title htitle)
  · rintro ⟨hmoved, htitles⟩
    have hne : reading py none 1 body ≠ [] := by
      obtain ⟨item, hitem, htext⟩ := hcontent
      by_cases hheading : ∃ text styleName, item = .paragraph text styleName ∧
          isHeading py styleName = true
      · obtain ⟨text, styleName, rfl, hstyle⟩ := hheading
        obtain ⟨line, hline⟩ := htitles (normalizeText text)
          (List.mem_filterMap.mpr ⟨_, hitem, if_pos ⟨htext, hstyle⟩⟩)
        exact List.ne_nil_of_mem hline
      · refine reading_ne_nil hitem htext (fun text styleName hitem' => ?_) none 1
        by_contra hstyle
        rw [Bool.not_eq_false] at hstyle
        exact hheading ⟨text, styleName, hitem', hstyle⟩
    have hsame : sectionLines sections = reading py none 1 body := hlines.trans hmoved
    have hnil : sections ≠ [] := by
      rintro rfl
      exact hne hsame.symm
    rw [if_neg hnil]
    refine ⟨_, rfl, hsame, fun title htitle => ?_⟩
    rw [mem_sectionLines hsections, hsame]
    exact htitles title htitle

/-! ## Two documents -/

/-- A heading, a paragraph and a table. -/
def policyBody : List BodyItem :=
  [.paragraph "Policy" (some "Heading 1"), .paragraph "Rules apply." (some "Normal"),
    .table [["day", "hours"]]]

theorem policy_kept : KeepsText asciiCasing policyBody (extractDocx asciiCasing policyBody) := by
  refine (keepsText_iff asciiCasing policyBody ?_).mpr ⟨rfl, ?_⟩
  · refine ⟨.paragraph "Rules apply." (some "Normal"), by simp [policyBody], ?_⟩
    show normalizeText "Rules apply." ≠ ""
    decide +kernel
  · have hheadings : headings asciiCasing policyBody = ["Policy"] := by decide +kernel
    rw [hheadings]
    intro title htitle
    rw [List.mem_singleton.mp htitle]
    exact ⟨"Rules apply.".toList, by decide +kernel⟩

/-- A table below the first of two headings. -/
def annexBody : List BodyItem :=
  [.paragraph "Policy" (some "Heading 1"), .paragraph "Rules apply." (some "Normal"),
    .table [["day", "hours"]], .paragraph "Annex" (some "Heading 1"),
    .paragraph "See above." (some "Normal")]

/-- The table comes below the second heading. -/
theorem table_misplaced :
    reading asciiCasing none 1 (tablesLast annexBody) =
        [(some "Policy", "Rules apply.".toList), (some "Annex", "See above.".toList),
          (some "Annex", "Table 1".toList), (some "Annex", "day | hours".toList)] ∧
      ¬ KeepsText asciiCasing annexBody (extractDocx asciiCasing annexBody) := by
  have hmoved : reading asciiCasing none 1 (tablesLast annexBody) ≠
      reading asciiCasing none 1 annexBody := by decide +kernel
  refine ⟨by decide +kernel, fun ⟨document, hok, hsame, _⟩ => hmoved ?_⟩
  obtain ⟨sections, hlines, -, hresult⟩ := extractDocx_lines asciiCasing annexBody
  rw [hresult] at hok
  by_cases hnil : sections = []
  · rw [if_pos hnil] at hok
    cases hok
  · rw [if_neg hnil] at hok
    obtain rfl := Except.ok.inj hok
    exact hlines.symm.trans hsame

end DataChat.Documents
