import DataChat.Library.Text

/-!
# Lines and words

`str.splitlines`, `str.split` and `str.join` on lists of characters, and the texts that are the same
after their lines have been split into words and joined again.

* `fields_intercalate`: parts that have been joined are split again.
* `splitLines_intercalate`: the same for lines.
* `cleanLine_of_mem`: the lines of a text, with one space between their words, are clean.
* `cleanLines_joinLines`: clean lines stay as they are.
-/

namespace DataChat

/-! ## Splitting -/

section

variable {α : Type} {p : α → Bool}

/-- The parts of a list between the elements with the property, without the empty ones. -/
def fields (p : α → Bool) (xs : List α) : List (List α) :=
  (xs.splitOnP p).filter (fun part => !part.isEmpty)

theorem forall_mem_splitOnP {xs part : List α} (h : part ∈ xs.splitOnP p) :
    ∀ x ∈ part, p x = false ∧ x ∈ xs := by
  induction xs generalizing part with
  | nil =>
    rw [List.splitOnP_nil, List.mem_singleton] at h
    rw [h]
    exact fun x hx => absurd hx List.not_mem_nil
  | cons y xs ih =>
    rw [List.splitOnP_cons_eq_if_modifyHead] at h
    by_cases hy : p y = true
    · rw [if_pos hy] at h
      rcases List.mem_cons.mp h with rfl | h
      · exact fun x hx => absurd hx List.not_mem_nil
      · exact fun x hx => ⟨(ih h x hx).1, List.mem_cons_of_mem y (ih h x hx).2⟩
    · rw [if_neg hy] at h
      obtain ⟨head, rest, hsplit⟩ := List.exists_cons_of_ne_nil (List.splitOnP_ne_nil p xs)
      rw [hsplit, List.modifyHead_cons] at h
      rw [hsplit] at ih
      rcases List.mem_cons.mp h with rfl | h
      · intro x hx
        rcases List.mem_cons.mp hx with rfl | hx
        · exact ⟨by simpa using hy, List.mem_cons_self⟩
        · have hhead := ih List.mem_cons_self x hx
          exact ⟨hhead.1, List.mem_cons_of_mem y hhead.2⟩
      · intro x hx
        have hrest := ih (List.mem_cons_of_mem head h) x hx
        exact ⟨hrest.1, List.mem_cons_of_mem y hrest.2⟩

theorem mem_fields {xs part : List α} (h : part ∈ fields p xs) :
    part ≠ [] ∧ ∀ x ∈ part, p x = false ∧ x ∈ xs := by
  obtain ⟨hpart, hne⟩ := List.mem_filter.mp h
  exact ⟨by simpa using hne, forall_mem_splitOnP hpart⟩

/-- Parts that have been joined are split again. -/
theorem fields_intercalate {sep : α} (hsep : p sep = true) {parts : List (List α)}
    (h : ∀ part ∈ parts, part ≠ [] ∧ ∀ x ∈ part, p x = false) :
    fields p ([sep].intercalate parts) = parts := by
  induction parts with
  | nil => rfl
  | cons part parts ih =>
    obtain ⟨hne, hpart⟩ := h part List.mem_cons_self
    have hrest := ih (fun q hq => h q (List.mem_cons_of_mem part hq))
    by_cases hnil : parts = []
    · subst hnil
      rw [List.intercalate_singleton, fields, List.splitOnP_eq_singleton hpart]
      simp [hne]
    · rw [List.intercalate_cons_of_ne_nil hnil, List.append_assoc, List.singleton_append, fields,
        List.splitOnP_append_cons_of_forall_mem hpart sep hsep]
      simp only [List.filter_cons, List.isEmpty_eq_false_iff.mpr hne, Bool.not_false, if_true]
      exact congrArg (part :: ·) hrest

end

/-- `str.split()`. -/
def splitWords (line : List Char) : List (List Char) := fields isSpace line

/-- `" ".join(words)`. -/
def joinWords (words : List (List Char)) : List Char := [' '].intercalate words

/-- The characters that end a line for `str.splitlines`. -/
def isLineBreak (c : Char) : Bool :=
  (10 ≤ c.toNat ∧ c.toNat ≤ 13) || (28 ≤ c.toNat ∧ c.toNat ≤ 30) ||
    c.toNat ∈ [133, 8232, 8233]

/-- A character at the beginning of the first line. -/
def consLine (c : Char) : List (List Char) → List (List Char)
  | [] => [[c]]
  | line :: lines => (c :: line) :: lines

/-- `str.splitlines()`. -/
def splitLines : List Char → List (List Char)
  | [] => []
  | [c] => if isLineBreak c then [[]] else [[c]]
  | c :: d :: text =>
    if c = '\r' ∧ d = '\n' then [] :: splitLines text
    else if isLineBreak c then [] :: splitLines (d :: text)
    else consLine c (splitLines (d :: text))

theorem splitLines_cons {c : Char} (h : isLineBreak c = false) (text : List Char) :
    splitLines (c :: text) = consLine c (splitLines text) := by
  have hr : c ≠ '\r' := by
    rintro rfl
    exact absurd h (by decide)
  cases text with
  | nil => simp [splitLines, h, consLine]
  | cons d text =>
    rw [splitLines, if_neg (fun hboth => hr hboth.1), if_neg (by simp [h])]

/-- A line before a line break. -/
theorem splitLines_append {line : List Char} (h : ∀ c ∈ line, isLineBreak c = false)
    (text : List Char) : splitLines (line ++ '\n' :: text) = line :: splitLines text := by
  induction line with
  | nil =>
    cases text with
    | nil => rfl
    | cons d text => rw [List.nil_append, splitLines, if_neg (by simp), if_pos (by decide)]
  | cons c line ih =>
    rw [List.cons_append, splitLines_cons (h c List.mem_cons_self),
      ih (fun d hd => h d (List.mem_cons_of_mem c hd))]
    rfl

theorem splitLines_singleton {line : List Char} (hne : line ≠ [])
    (h : ∀ c ∈ line, isLineBreak c = false) : splitLines line = [line] := by
  induction line with
  | nil => exact absurd rfl hne
  | cons c line ih =>
    rw [splitLines_cons (h c List.mem_cons_self)]
    by_cases hnil : line = []
    · subst hnil
      rfl
    · rw [ih hnil (fun d hd => h d (List.mem_cons_of_mem c hd))]
      rfl

/-- `"\n".join(lines)`. -/
def joinLines (lines : List (List Char)) : List Char := ['\n'].intercalate lines

/-- Lines that have been joined are split again. -/
theorem splitLines_joinLines {lines : List (List Char)}
    (h : ∀ line ∈ lines, line ≠ [] ∧ ∀ c ∈ line, isLineBreak c = false) :
    splitLines (joinLines lines) = lines := by
  unfold joinLines
  induction lines with
  | nil => rfl
  | cons line lines ih =>
    obtain ⟨hne, hline⟩ := h line List.mem_cons_self
    have hrest := ih (fun other hother => h other (List.mem_cons_of_mem line hother))
    by_cases hnil : lines = []
    · subst hnil
      rw [List.intercalate_singleton]
      exact splitLines_singleton hne hline
    · rw [List.intercalate_cons_of_ne_nil hnil, List.append_assoc, List.singleton_append,
        splitLines_append hline, hrest]

theorem mem_consLine {c : Char} {lines : List (List Char)} {line : List Char}
    (h : line ∈ consLine c lines) : ∀ d ∈ line, d = c ∨ ∃ other ∈ lines, d ∈ other := by
  cases lines with
  | nil =>
    rw [List.mem_singleton.mp h]
    exact fun d hd => .inl (List.mem_singleton.mp hd)
  | cons first rest =>
    rcases List.mem_cons.mp h with rfl | h
    · intro d hd
      rcases List.mem_cons.mp hd with hd | hd
      · exact .inl hd
      · exact .inr ⟨first, List.mem_cons_self, hd⟩
    · exact fun d hd => .inr ⟨line, List.mem_cons_of_mem first h, hd⟩

theorem mem_splitLines {text line : List Char} (h : line ∈ splitLines text) :
    ∀ c ∈ line, c ∈ text := by
  induction text using splitLines.induct generalizing line with
  | case1 => exact absurd h List.not_mem_nil
  | case2 c hbreak =>
    rw [splitLines, if_pos hbreak, List.mem_singleton] at h
    simp [h]
  | case3 c hbreak =>
    rw [splitLines, if_neg hbreak, List.mem_singleton] at h
    simp [h]
  | case4 c d text hreturn ih =>
    rw [splitLines, if_pos hreturn] at h
    rcases List.mem_cons.mp h with rfl | h
    · simp
    · exact fun x hx => List.mem_cons_of_mem c (List.mem_cons_of_mem d (ih h x hx))
  | case5 c d text hreturn hbreak ih =>
    rw [splitLines, if_neg hreturn, if_pos hbreak] at h
    rcases List.mem_cons.mp h with rfl | h
    · simp
    · exact fun x hx => List.mem_cons_of_mem c (ih h x hx)
  | case6 c d text hreturn hbreak ih =>
    rw [splitLines, if_neg hreturn, if_neg hbreak] at h
    intro x hx
    rcases mem_consLine h x hx with rfl | ⟨other, hother, hx⟩
    · exact List.mem_cons_self
    · exact List.mem_cons_of_mem c (ih hother x hx)

/-! ## Joining -/

section

variable {α : Type} {sep : α}

theorem mem_intercalate {x : α} {parts : List (List α)} (h : x ∈ [sep].intercalate parts) :
    x = sep ∨ ∃ part ∈ parts, x ∈ part := by
  induction parts with
  | nil => exact absurd h List.not_mem_nil
  | cons part parts ih =>
    by_cases hnil : parts = []
    · subst hnil
      rw [List.intercalate_singleton] at h
      exact .inr ⟨part, List.mem_cons_self, h⟩
    · rw [List.intercalate_cons_of_ne_nil hnil, List.mem_append, List.mem_append] at h
      rcases h with (h | h) | h
      · exact .inr ⟨part, List.mem_cons_self, h⟩
      · exact .inl (List.mem_singleton.mp h)
      · rcases ih h with h | ⟨other, hother, hx⟩
        · exact .inl h
        · exact .inr ⟨other, List.mem_cons_of_mem part hother, hx⟩

theorem intercalate_ne_nil {parts : List (List α)} (hne : parts ≠ [])
    (h : ∀ part ∈ parts, part ≠ []) : [sep].intercalate parts ≠ [] := by
  cases parts with
  | nil => exact absurd rfl hne
  | cons part parts =>
    have hpart := h part List.mem_cons_self
    by_cases hnil : parts = []
    · subst hnil
      rw [List.intercalate_singleton]
      exact hpart
    · rw [List.intercalate_cons_of_ne_nil hnil]
      simp [hpart]

theorem head?_intercalate {x : α} {parts : List (List α)} (h : ∀ part ∈ parts, part ≠ [])
    (hx : x ∈ ([sep].intercalate parts).head?) : ∃ part ∈ parts, x ∈ part.head? := by
  cases parts with
  | nil => cases hx
  | cons part parts =>
    refine ⟨part, List.mem_cons_self, ?_⟩
    by_cases hnil : parts = []
    · subst hnil
      rw [List.intercalate_singleton] at hx
      exact hx
    · rw [List.intercalate_cons_of_ne_nil hnil, List.append_assoc,
        List.head?_append_of_ne_nil part (h part List.mem_cons_self)] at hx
      exact hx

theorem getLast?_intercalate {x : α} {parts : List (List α)} (h : ∀ part ∈ parts, part ≠ [])
    (hx : x ∈ ([sep].intercalate parts).getLast?) : ∃ part ∈ parts, x ∈ part.getLast? := by
  induction parts with
  | nil => cases hx
  | cons part parts ih =>
    have hrest : ∀ other ∈ parts, other ≠ [] := fun other hother =>
      h other (List.mem_cons_of_mem part hother)
    by_cases hnil : parts = []
    · subst hnil
      rw [List.intercalate_singleton] at hx
      exact ⟨part, List.mem_cons_self, hx⟩
    · rw [List.intercalate_cons_of_ne_nil hnil,
        List.getLast?_append_of_ne_nil _ (intercalate_ne_nil hnil hrest)] at hx
      obtain ⟨other, hother, hlast⟩ := ih hrest hx
      exact ⟨other, List.mem_cons_of_mem part hother, hlast⟩

theorem intercalate_append {left right : List (List α)} (hleft : left ≠ []) (hright : right ≠ []) :
    [sep].intercalate (left ++ right) =
      [sep].intercalate left ++ [sep] ++ [sep].intercalate right := by
  induction left with
  | nil => exact absurd rfl hleft
  | cons part left ih =>
    by_cases hnil : left = []
    · subst hnil
      rw [List.singleton_append, List.intercalate_cons_of_ne_nil hright, List.intercalate_singleton]
    · have hne : left ++ right ≠ [] := by simp [hnil]
      rw [List.cons_append, List.intercalate_cons_of_ne_nil hne, ih hnil,
        List.intercalate_cons_of_ne_nil hnil]
      simp only [List.append_assoc]

/-- Groups of parts that are joined group by group. -/
theorem intercalate_map_intercalate {groups : List (List (List α))}
    (h : ∀ parts ∈ groups, parts ≠ []) :
    [sep].intercalate (groups.map [sep].intercalate) = [sep].intercalate groups.flatten := by
  induction groups with
  | nil => rfl
  | cons parts groups ih =>
    have hrest := ih (fun other hother => h other (List.mem_cons_of_mem parts hother))
    by_cases hnil : groups = []
    · subst hnil
      simp
    · have hmap : groups.map [sep].intercalate ≠ [] := by simpa using hnil
      have hflat : groups.flatten ≠ [] := by
        obtain ⟨first, rest, rfl⟩ := List.exists_cons_of_ne_nil hnil
        have hfirst := h first (List.mem_cons_of_mem parts List.mem_cons_self)
        simp [hfirst]
      rw [List.map_cons, List.intercalate_cons_of_ne_nil hmap, hrest, List.flatten_cons,
        intercalate_append (h parts List.mem_cons_self) hflat]

end

/-! ## Clean lines -/

/-- A line that is not empty and is made of words with one space between them. -/
structure CleanLine (line : List Char) : Prop where
  ne_nil : line ≠ []
  unbroken : ∀ c ∈ line, isLineBreak c = false
  words : joinWords (splitWords line) = line

theorem isSpace_of_isLineBreak {c : Char} (h : isLineBreak c = true) : isSpace c = true := by
  simp only [isLineBreak, isSpace, Bool.or_eq_true, decide_eq_true_eq, List.mem_cons,
    List.not_mem_nil, or_false] at h ⊢
  omega

theorem cleanLine_joinWords {words : List (List Char)} (hne : words ≠ [])
    (h : ∀ word ∈ words, word ≠ [] ∧ ∀ c ∈ word, isSpace c = false) :
    CleanLine (joinWords words) := by
  refine ⟨intercalate_ne_nil hne (fun word hword => (h word hword).1), fun c hc => ?_, ?_⟩
  · rcases mem_intercalate hc with rfl | ⟨word, hword, hc⟩
    · decide
    · have hspace := (h word hword).2 c hc
      by_contra hbreak
      rw [Bool.not_eq_false] at hbreak
      rw [isSpace_of_isLineBreak hbreak] at hspace
      cases hspace
  · have hsplit : splitWords (joinWords words) = words := fields_intercalate (by decide) h
    rw [hsplit]

/-- A clean line neither begins nor ends with a space. -/
theorem CleanLine.ends {line : List Char} (h : CleanLine line) :
    (∀ c ∈ line.head?, isSpace c = false) ∧ ∀ c ∈ line.getLast?, isSpace c = false := by
  have hwords : ∀ word ∈ splitWords line, word ≠ [] := fun word hword => (mem_fields hword).1
  rw [← h.words]
  constructor
  · intro c hc
    obtain ⟨word, hword, hhead⟩ := head?_intercalate hwords hc
    exact ((mem_fields hword).2 c (List.mem_of_head? hhead)).1
  · intro c hc
    obtain ⟨word, hword, hlast⟩ := getLast?_intercalate hwords hc
    exact ((mem_fields hword).2 c (List.mem_of_getLast? hlast)).1

/-- Lines without spaces at their ends are not stripped. -/
theorem strip_joinLines {lines : List (List Char)} (h : ∀ line ∈ lines, CleanLine line) :
    strip (String.ofList (joinLines lines)) = String.ofList (joinLines lines) := by
  have hlines : ∀ line ∈ lines, line ≠ [] := fun line hline => (h line hline).ne_nil
  apply strip_eq_self
  · intro c hc
    rw [String.toList_ofList] at hc
    obtain ⟨line, hline, hhead⟩ := head?_intercalate hlines hc
    exact (h line hline).ends.1 c hhead
  · intro c hc
    rw [String.toList_ofList] at hc
    obtain ⟨line, hline, hlast⟩ := getLast?_intercalate hlines hc
    exact (h line hline).ends.2 c hlast

/-- The words of the lines, without the empty lines. -/
def cleanLines (text : List Char) : List (List Char) :=
  ((splitLines text).map (fun line => joinWords (splitWords line))).filter
    (fun line => !line.isEmpty)

theorem cleanLine_of_mem {text line : List Char} (h : line ∈ cleanLines text) :
    CleanLine line ∧ ∀ c ∈ line, c = ' ' ∨ c ∈ text := by
  obtain ⟨hline, hne⟩ := List.mem_filter.mp h
  obtain ⟨source, hsource, rfl⟩ := List.mem_map.mp hline
  have hwords : splitWords source ≠ [] := by
    intro hnil
    rw [hnil] at hne
    cases hne
  refine ⟨cleanLine_joinWords hwords (fun word hword => ?_), fun c hc => ?_⟩
  · have hmem := mem_fields hword
    exact ⟨hmem.1, fun c hc => (hmem.2 c hc).1⟩
  · rcases mem_intercalate hc with hc | ⟨word, hword, hc⟩
    · exact .inl hc
    · exact .inr (mem_splitLines hsource c ((mem_fields hword).2 c hc).2)

/-- Clean lines stay as they are. -/
theorem cleanLines_joinLines {lines : List (List Char)} (h : ∀ line ∈ lines, CleanLine line) :
    cleanLines (joinLines lines) = lines := by
  have hsplit : splitLines (joinLines lines) = lines :=
    splitLines_joinLines (fun line hline => ⟨(h line hline).ne_nil, (h line hline).unbroken⟩)
  have hmap : lines.map (fun line => joinWords (splitWords line)) = lines := by
    rw [List.map_congr_left (fun line hline => (h line hline).words), List.map_id']
  rw [cleanLines, hsplit, hmap, List.filter_eq_self]
  intro line hline
  simpa using (h line hline).ne_nil

end DataChat
