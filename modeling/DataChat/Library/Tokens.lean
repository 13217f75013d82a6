import DataChat.Library.Lines
import Mathlib.Data.List.Chain

/-!
# Tokens and line breaks

The tokens of a text are its words, numbered from zero. A break lies between two of them when the
text can be cut at it so that one of them stands before the cut and the other after it. Since
breaks are spaces, the tokens before the cut are the first ones of the text.

* `Lined`: a text line by line, which is how `splitLines` reads it.
* `fields_joined`: the words of parts that have been joined.
* `splitWords_of_lined`: the tokens of a text are those of its lines.
* `breakBetween_iff`: the breaks between tokens are the ends of lines.
* `isChain_intercalate`: what holds of neighbours in parts that have been joined.
-/

namespace DataChat

/-- A character with the property stands after the token `i` and before the token `j`. -/
def BreakBetween (tokens : List Char → List (List Char)) (isBreak : Char → Bool)
    (text : List Char) (i j : Nat) : Prop :=
  ∃ before c after, text = before ++ c :: after ∧ isBreak c = true ∧
    i < (tokens before).length ∧ (tokens before).length ≤ j

/-! ## Words around spaces -/

section

variable {α : Type} {p : α → Bool}

theorem fields_nil (p : α → Bool) : fields p [] = [] := rfl

theorem fields_append_cons (xs ys : List α) {sep : α} (hsep : p sep = true) :
    fields p (xs ++ sep :: ys) = fields p xs ++ fields p ys := by
  unfold fields
  rw [List.splitOnP_append_cons xs ys hsep, List.filter_append]

theorem fields_append_left {sep : List α} (hsep : ∀ x ∈ sep, p x = true) (ys : List α) :
    fields p (sep ++ ys) = fields p ys := by
  induction sep with
  | nil => rfl
  | cons x sep ih =>
    have hstep := fields_append_cons [] (sep ++ ys) (hsep x List.mem_cons_self)
    rw [fields_nil, List.nil_append, List.nil_append] at hstep
    rw [List.cons_append, hstep]
    exact ih (fun y hy => hsep y (List.mem_cons_of_mem x hy))

/-- Elements with the property separate the parts before them from those after them. -/
theorem fields_append (xs ys : List α) {sep : List α} (hne : sep ≠ [])
    (hsep : ∀ x ∈ sep, p x = true) :
    fields p (xs ++ sep ++ ys) = fields p xs ++ fields p ys := by
  obtain ⟨x, sep, rfl⟩ := List.exists_cons_of_ne_nil hne
  rw [List.append_assoc, List.cons_append,
    fields_append_cons _ _ (hsep x List.mem_cons_self)]
  rw [fields_append_left (fun y hy => hsep y (List.mem_cons_of_mem x hy))]

theorem fields_append_right (xs : List α) {sep : List α} (hsep : ∀ x ∈ sep, p x = true) :
    fields p (xs ++ sep) = fields p xs := by
  by_cases hnil : sep = []
  · rw [hnil, List.append_nil]
  · have h := fields_append xs [] hnil hsep
    rwa [List.append_nil, fields_nil, List.append_nil] at h

theorem nil_intercalate (parts : List (List α)) : [].intercalate parts = parts.flatten := by
  induction parts with
  | nil => rfl
  | cons part parts ih =>
    by_cases hnil : parts = []
    · subst hnil
      simp
    · rw [List.intercalate_cons_of_ne_nil hnil, List.append_nil, ih, List.flatten_cons]

theorem intercalate_eq_nil_iff {sep : List α} (hsep : sep ≠ []) {parts : List (List α)} :
    sep.intercalate parts = [] ↔ parts.length ≤ 1 ∧ ∀ part ∈ parts, part = [] := by
  cases parts with
  | nil => simp
  | cons part parts =>
    cases parts with
    | nil => simp
    | cons next parts =>
      rw [List.intercalate_cons_of_ne_nil (List.cons_ne_nil next parts)]
      simp [hsep]

/-- The fields of parts that have been joined, where the separator may hold fields of its own. -/
theorem fields_joined {sep : List α} {bar : List (List α)}
    (h : ∀ xs ys, fields p (xs ++ sep ++ ys) = fields p xs ++ bar ++ fields p ys)
    (parts : List (List α)) :
    fields p (sep.intercalate parts) = bar.intercalate (parts.map (fields p)) := by
  induction parts with
  | nil => rfl
  | cons part parts ih =>
    by_cases hnil : parts = []
    · subst hnil
      rw [List.map_singleton, List.intercalate_singleton, List.intercalate_singleton]
    · have hmap : parts.map (fields p) ≠ [] := by simpa using hnil
      rw [List.map_cons, List.intercalate_cons_of_ne_nil hnil,
        List.intercalate_cons_of_ne_nil hmap, h, ih]

theorem fields_eq_nil_iff {xs : List α} : fields p xs = [] ↔ ∀ x ∈ xs, p x = true := by
  induction xs with
  | nil => simp [fields_nil]
  | cons x xs ih =>
    by_cases hx : p x = true
    · have hstep := fields_append_cons [] xs hx
      rw [fields_nil, List.nil_append, List.nil_append] at hstep
      rw [hstep, ih, List.forall_mem_cons]
      exact (and_iff_right hx).symm
    · obtain ⟨head, rest, hsplit⟩ := List.exists_cons_of_ne_nil (List.splitOnP_ne_nil p xs)
      have hsome : fields p (x :: xs) ≠ [] := by
        unfold fields
        rw [List.splitOnP_cons_eq_if_modifyHead, if_neg hx, hsplit]
        simp
      exact iff_of_false hsome (fun h => hx (h x List.mem_cons_self))

end

/-! ## A text line by line -/

/-- The text consists of the lines, with one line break or `\r\n` after each of them, or after each
of them but the last one. -/
inductive Lined : List Char → List (List Char) → Prop
  | empty : Lined [] []
  | last {line : List Char} (hne : line ≠ []) (hline : ∀ c ∈ line, isLineBreak c = false) :
      Lined line [line]
  | line {line ending rest : List Char} {lines : List (List Char)}
      (hline : ∀ c ∈ line, isLineBreak c = false) (hne : ending ≠ [])
      (hending : ∀ c ∈ ending, isLineBreak c = true) (hrest : Lined rest lines) :
      Lined (line ++ ending ++ rest) (line :: lines)

theorem Lined.consLine {c : Char} {text : List Char} {lines : List (List Char)}
    (h : Lined text lines) (hc : isLineBreak c = false) :
    Lined (c :: text) (consLine c lines) := by
  have hcons : ∀ {line : List Char}, (∀ d ∈ line, isLineBreak d = false) →
      ∀ d ∈ c :: line, isLineBreak d = false :=
    fun hline => List.forall_mem_cons.mpr ⟨hc, hline⟩
  cases h with
  | empty => exact .last (List.cons_ne_nil c []) (hcons (List.forall_mem_nil _))
  | last hne hline => exact .last (List.cons_ne_nil c _) (hcons hline)
  | line hline hne hending hrest => exact .line (hcons hline) hne hending hrest

theorem lined_splitLines (text : List Char) : Lined text (splitLines text) := by
  have hempty : ∀ c ∈ ([] : List Char), isLineBreak c = false := List.forall_mem_nil _
  have hsingle : ∀ {c : Char}, isLineBreak c = true → ∀ d ∈ [c], isLineBreak d = true :=
    fun hbreak => List.forall_mem_singleton.mpr hbreak
  induction text using splitLines.induct with
  | case1 => exact .empty
  | case2 c hbreak =>
    rw [splitLines, if_pos hbreak]
    exact Lined.line hempty (List.cons_ne_nil c []) (hsingle hbreak) .empty
  | case3 c hbreak =>
    rw [splitLines, if_neg hbreak]
    exact .last (List.cons_ne_nil c [])
      (List.forall_mem_singleton.mpr (Bool.eq_false_iff.mpr hbreak))
  | case4 c d text hreturn ih =>
    rw [splitLines, if_pos hreturn]
    obtain ⟨rfl, rfl⟩ := hreturn
    have hending : ∀ c ∈ ['\r', '\n'], isLineBreak c = true :=
      List.forall_mem_cons.mpr ⟨rfl, hsingle rfl⟩
    exact Lined.line hempty (List.cons_ne_nil _ _) hending ih
  | case5 c d text hreturn hbreak ih =>
    rw [splitLines, if_neg hreturn, if_pos hbreak]
    exact Lined.line hempty (List.cons_ne_nil c []) (hsingle hbreak) ih
  | case6 c d text hreturn hbreak ih =>
    rw [splitLines, if_neg hreturn, if_neg hbreak]
    exact ih.consLine (by simpa using hbreak)

/-! ## The tokens of the lines -/

theorem spaces_of_breaks {ending : List Char} (h : ∀ c ∈ ending, isLineBreak c = true) :
    ∀ c ∈ ending, isSpace c = true :=
  fun c hc => isSpace_of_isLineBreak (h c hc)

theorem splitWords_line (line rest : List Char) {ending : List Char} (hne : ending ≠ [])
    (hending : ∀ c ∈ ending, isLineBreak c = true) :
    splitWords (line ++ ending ++ rest) = splitWords line ++ splitWords rest :=
  fields_append line rest hne (spaces_of_breaks hending)

theorem splitWords_of_lined {text : List Char} {lines : List (List Char)}
    (h : Lined text lines) : splitWords text = lines.flatMap splitWords := by
  induction h with
  | empty => rfl
  | last hne hline => rw [List.flatMap_singleton]
  | line hline hne hending hrest ih =>
    rw [List.flatMap_cons, ← ih]
    exact splitWords_line _ _ hne hending

/-- Some of the first lines have `n` tokens together. -/
def CutAt (lines : List (List Char)) (n : Nat) : Prop :=
  ∃ front back, lines = front ++ back ∧ (front.flatMap splitWords).length = n

/-- A break with tokens on both sides ends a line. -/
theorem cut_of_break {text : List Char} {lines : List (List Char)} (h : Lined text lines) :
    ∀ {before after : List Char} {c : Char}, text = before ++ c :: after →
      isLineBreak c = true → 0 < (splitWords before).length →
      CutAt lines (splitWords before).length := by
  induction h with
  | empty =>
    intro before after c htext
    simp at htext
  | last hne hline =>
    intro before after c htext hbreak
    have hc := hline c (by simp [htext])
    rw [hbreak] at hc
    cases hc
  | @line line ending rest lines hline hne hending hrest ih =>
    intro before after c htext hbreak hpos
    -- the break is not in the line, so all of the line is before it
    rw [List.append_assoc] at htext
    have hmem : c ∉ line := by
      intro hc
      rw [hline c hc] at hbreak
      cases hbreak
    obtain ⟨middle, rfl, htail⟩ := exists_append_of_not_mem htext hmem
    rcases List.append_eq_append_iff.mp htail with ⟨inner, hmiddle, hinner⟩ | ⟨inner, hsplit, -⟩
    · -- the break is in the rest
      subst hmiddle
      have hwords : splitWords (line ++ (ending ++ inner)) =
          splitWords line ++ splitWords inner := by
        rw [← List.append_assoc]
        exact splitWords_line line inner hne hending
      rw [hwords, List.length_append]
      by_cases hzero : 0 < (splitWords inner).length
      · obtain ⟨front, back, rfl, hfront⟩ := ih hinner hbreak hzero
        refine ⟨line :: front, back, rfl, ?_⟩
        rw [List.flatMap_cons, List.length_append, hfront]
      · refine ⟨[line], lines, rfl, ?_⟩
        rw [List.flatMap_singleton]
        omega
    · -- the break is in the ending of the line
      have hmiddle : ∀ d ∈ middle, isLineBreak d = true := by
        intro d hd
        exact hending d (by simp [hsplit, hd])
      have hwords : splitWords (line ++ middle) = splitWords line :=
        fields_append_right _ (spaces_of_breaks hmiddle)
      refine ⟨[line], lines, rfl, ?_⟩
      rw [List.flatMap_singleton, hwords]

/-- And where a line ends with tokens on both sides there is a break. -/
theorem break_of_cut {text : List Char} {lines : List (List Char)} (h : Lined text lines)
    {n : Nat} (hcut : CutAt lines n) (hpos : 0 < n) (hlt : n < (splitWords text).length) :
    ∃ before c after, text = before ++ c :: after ∧ isLineBreak c = true ∧
      (splitWords before).length = n := by
  induction h generalizing n with
  | empty => cases hlt
  | last hne hline =>
    obtain ⟨front, back, hlines, rfl⟩ := hcut
    cases front with
    | nil => cases hpos
    | cons first front =>
      obtain ⟨rfl, hnil⟩ := List.cons.inj hlines
      obtain ⟨rfl, rfl⟩ := List.append_eq_nil_iff.mp hnil.symm
      rw [List.flatMap_singleton] at hlt
      omega
  | @line line ending rest lines hline hne hending hrest ih =>
    rw [splitWords_line line rest hne hending, List.length_append] at hlt
    obtain ⟨front, back, hlines, rfl⟩ := hcut
    cases front with
    | nil => cases hpos
    | cons first front =>
      obtain ⟨rfl, hback⟩ := List.cons.inj hlines
      rw [List.flatMap_cons, List.length_append] at hlt ⊢
      by_cases hzero : 0 < (front.flatMap splitWords).length
      · obtain ⟨before, c, after, htext, hbreak, hcount⟩ :=
          ih ⟨front, back, hback, rfl⟩ hzero (by omega)
        refine ⟨line ++ ending ++ before, c, after, ?_, hbreak, ?_⟩
        · rw [htext, List.append_assoc (line ++ ending)]
        · rw [splitWords_line line before hne hending, List.length_append, hcount]
      · obtain ⟨c, ending, rfl⟩ := List.exists_cons_of_ne_nil hne
        refine ⟨line, c, ending ++ rest, ?_, hending c List.mem_cons_self, by omega⟩
        rw [List.append_assoc, List.cons_append]

/-- A line break lies between two tokens exactly when a line ends between them. -/
theorem breakBetween_iff {text : List Char} {lines : List (List Char)} (h : Lined text lines)
    {i j : Nat} (hj : j < (splitWords text).length) :
    BreakBetween splitWords isLineBreak text i j ↔ ∃ n, CutAt lines n ∧ i < n ∧ n ≤ j := by
  constructor
  · rintro ⟨before, c, after, htext, hbreak, hi, hle⟩
    exact ⟨_, cut_of_break h htext hbreak (by omega), hi, hle⟩
  · rintro ⟨n, hcut, hi, hle⟩
    obtain ⟨before, c, after, htext, hbreak, rfl⟩ :=
      break_of_cut h hcut (by omega) (by omega)
    exact ⟨before, c, after, htext, hbreak, hi, hle⟩

/-! ## Neighbours -/

/-- Parts that have been joined: a relation holds of neighbours when it does within the parts and
between them and what joins them. -/
theorem isChain_intercalate {α : Type} {R : α → α → Prop} {sep : α} {parts : List (List α)}
    (hparts : ∀ part ∈ parts, part ≠ [] ∧ part.IsChain R)
    (hlast : ∀ part ∈ parts, ∀ a ∈ part.getLast?, R a sep)
    (hhead : ∀ part ∈ parts, ∀ a ∈ part.head?, R sep a) :
    ([sep].intercalate parts).IsChain R := by
  induction parts with
  | nil => exact List.IsChain.nil
  | cons part parts ih =>
    have hrest : ∀ other ∈ parts, other ∈ part :: parts :=
      fun other hother => List.mem_cons_of_mem part hother
    have hchain := ih (fun other hother => hparts other (hrest other hother))
      (fun other hother => hlast other (hrest other hother))
      (fun other hother => hhead other (hrest other hother))
    by_cases hnil : parts = []
    · subst hnil
      rw [List.intercalate_singleton]
      exact (hparts part List.mem_cons_self).2
    · rw [List.intercalate_cons_of_ne_nil hnil, List.append_assoc, List.singleton_append,
        List.isChain_append]
      refine ⟨(hparts part List.mem_cons_self).2, List.isChain_cons.mpr ⟨?_, hchain⟩, ?_⟩
      · intro a ha
        obtain ⟨other, hother, ha⟩ := head?_intercalate
          (fun other hother => (hparts other (hrest other hother)).1) ha
        exact hhead other (hrest other hother) a ha
      · intro a ha b hb
        rw [List.head?_cons, Option.mem_some_iff] at hb
        rw [← hb]
        exact hlast part List.mem_cons_self a ha

/-! ## Clean lines -/

/-- Between words that are joined there are single spaces. -/
theorem CleanLine.isChain {line : List Char} (h : CleanLine line) :
    line.IsChain (fun a b => isSpace a = true → isSpace b = false) := by
  have hword : ∀ word ∈ splitWords line, ∀ c ∈ word, isSpace c = false :=
    fun word hword c hc => ((mem_fields hword).2 c hc).1
  rw [← h.words]
  apply isChain_intercalate
  · intro word hmem
    refine ⟨(mem_fields hmem).1, List.Pairwise.isChain ?_⟩
    exact List.pairwise_of_forall_mem_list (fun _ _ b hb _ => hword word hmem b hb)
  · intro word hmem a ha hspace
    rw [hword word hmem a (List.mem_of_getLast? ha)] at hspace
    cases hspace
  · intro word hmem a ha _
    exact hword word hmem a (List.mem_of_head? ha)

theorem CleanLine.spaces {line : List Char} (h : CleanLine line) {c : Char} (hc : c ∈ line)
    (hspace : isSpace c = true) : c = ' ' := by
  rw [← h.words] at hc
  rcases mem_intercalate hc with hc | ⟨word, hword, hc⟩
  · exact hc
  · rw [((mem_fields hword).2 c hc).1] at hspace
    cases hspace

/-- The lines that are left have the words of the lines that have words. -/
theorem map_splitWords_cleanLines (text : List Char) :
    (cleanLines text).map splitWords =
      ((splitLines text).map splitWords).filter (fun words => !words.isEmpty) := by
  have hsplit : splitWords ∘ (fun line => joinWords (splitWords line)) = splitWords := by
    funext line
    exact fields_intercalate (by decide)
      (fun word hword => ⟨(mem_fields hword).1, fun c hc => ((mem_fields hword).2 c hc).1⟩)
  have hempty : (fun line => !line.isEmpty) ∘ (fun line => joinWords (splitWords line)) =
      (fun words => !words.isEmpty) ∘ splitWords := by
    funext line
    by_cases hnil : splitWords line = []
    · simp [hnil, joinWords]
    · have hjoined : joinWords (splitWords line) ≠ [] :=
        intercalate_ne_nil hnil (fun word hword => (mem_fields hword).1)
      rw [Function.comp_apply, Function.comp_apply, List.isEmpty_eq_false_iff.mpr hjoined,
        List.isEmpty_eq_false_iff.mpr hnil]
  unfold cleanLines
  rw [List.filter_map, List.map_map, hsplit, hempty, List.filter_map]

/-- Lines without words may be dropped. -/
theorem cutAt_cleanLines (text : List Char) (n : Nat) :
    CutAt (cleanLines text) n ↔ CutAt (splitLines text) n := by
  have hwords : ∀ lines : List (List Char), CutAt lines n ↔
      ∃ front back, lines.map splitWords = front ++ back ∧ front.flatten.length = n := by
    intro lines
    constructor
    · rintro ⟨front, back, rfl, rfl⟩
      exact ⟨front.map splitWords, back.map splitWords, List.map_append, by rw [List.flatMap_def]⟩
    · rintro ⟨front, back, hlines, rfl⟩
      obtain ⟨front, back, rfl, rfl, rfl⟩ := List.map_eq_append_iff.mp hlines
      exact ⟨front, back, rfl, by rw [List.flatMap_def]⟩
  rw [hwords, hwords, map_splitWords_cleanLines]
  constructor
  · rintro ⟨front, back, hlines, rfl⟩
    obtain ⟨front, back, h, rfl, rfl⟩ := List.filter_eq_append_iff.mp hlines
    exact ⟨front, back, h, by rw [List.flatten_filter_not_isEmpty]⟩
  · rintro ⟨front, back, hlines, rfl⟩
    refine ⟨front.filter (fun words => !words.isEmpty), back.filter (fun words => !words.isEmpty),
      ?_, ?_⟩
    · rw [hlines, List.filter_append]
    · rw [List.flatten_filter_not_isEmpty]

theorem splitWords_cleanLines (text : List Char) :
    (cleanLines text).flatMap splitWords = splitWords text := by
  rw [splitWords_of_lined (lined_splitLines text), List.flatMap_def, List.flatMap_def,
    map_splitWords_cleanLines, List.flatten_filter_not_isEmpty]

end DataChat
