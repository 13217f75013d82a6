import DataChat.Documents.Extraction
import DataChat.Library.Tokens

/-!
# The normal form of a text

`normalize_text` takes the NULs out of a text, splits it into lines and these into words, and joins
what is left. The result is a text of clean lines with the tokens of the text, and a newline stands
between two of them exactly when a line break did.

* `normalizeText_eq_self`: a normal text stays as it is.
* `breakBetween_withoutNuls`: NULs do not matter to the breaks between tokens.
* `normalizeText_faithful`: the result is the normal form of the text.
-/

namespace DataChat.Documents

/-! ## What a normal form is -/

/-- `value.replace("\x00", "")`. -/
def withoutNuls (text : List Char) : List Char := text.filter (fun c => c ≠ '\x00')

/-- The tokens of a text, NULs apart. -/
def tokens (text : List Char) : List (List Char) := splitWords (withoutNuls text)

/-- No NULs, no spaces but single ones and single newlines, none of them at the end of a line, and
the tokens of the text with a newline where it has a line break. -/
structure IsNormalFormOf (result value : String) : Prop where
  nul_free : '\x00' ∉ result.toList
  spaces : ∀ c ∈ result.toList, isSpace c = true → c = ' ' ∨ c = '\n'
  single : result.toList.IsChain (fun a b => isSpace a = true → isSpace b = false)
  line_ends : ∀ line ∈ result.toList.splitOn '\n',
    (∀ c ∈ line.head?, isSpace c = false) ∧ ∀ c ∈ line.getLast?, isSpace c = false
  text_ends : (∀ c ∈ result.toList.head?, isSpace c = false) ∧
    ∀ c ∈ result.toList.getLast?, isSpace c = false
  same_tokens : splitWords result.toList = tokens value.toList
  breaks : ∀ i j, j < (tokens value.toList).length →
    (BreakBetween splitWords (fun c => c = '\n') result.toList i j ↔
      BreakBetween tokens isLineBreak value.toList i j)

/-! ## Normal texts -/

def textLines (s : String) : List (List Char) := splitLines s.toList

/-- A text of clean lines. -/
structure IsNormal (s : String) : Prop where
  joined : s.toList = joinLines (textLines s)
  clean : ∀ line ∈ textLines s, CleanLine line ∧ '\x00' ∉ line

theorem isNormal_of_lines {s : String} {lines : List (List Char)} (h : s.toList = joinLines lines)
    (hclean : ∀ line ∈ lines, CleanLine line ∧ '\x00' ∉ line) :
    IsNormal s ∧ textLines s = lines := by
  have hlines : textLines s = lines := by
    unfold textLines
    rw [h]
    exact splitLines_joinLines (fun line hline =>
      ⟨(hclean line hline).1.ne_nil, (hclean line hline).1.unbroken⟩)
  refine ⟨⟨?_, ?_⟩, hlines⟩
  · rw [hlines]
    exact h
  · rw [hlines]
    exact hclean

/-- The clean lines of a text without its NULs are those of its normal form. -/
theorem normalizeText_lines (value : String) : IsNormal (normalizeText value) ∧
    textLines (normalizeText value) = cleanLines (withoutNuls value.toList) := by
  have hclean : ∀ line ∈ cleanLines (withoutNuls value.toList),
      CleanLine line ∧ '\x00' ∉ line := by
    intro line hline
    obtain ⟨hline, hchars⟩ := cleanLine_of_mem hline
    refine ⟨hline, fun hnul => ?_⟩
    rcases hchars _ hnul with h | h
    · exact absurd h (by decide)
    · exact absurd (List.mem_filter.mp h).2 (by decide)
  apply isNormal_of_lines ?_ hclean
  have hstrip := strip_joinLines (fun line hline => (hclean line hline).1)
  unfold normalizeText
  rw [← withoutNuls, hstrip, String.toList_ofList]

theorem splitLines_normalizeText (value : String) :
    splitLines (normalizeText value).toList = cleanLines (withoutNuls value.toList) :=
  (normalizeText_lines value).2

theorem isNormal_normalizeText (value : String) : IsNormal (normalizeText value) :=
  (normalizeText_lines value).1

theorem IsNormal.nul_free {s : String} (h : IsNormal s) : '\x00' ∉ s.toList := by
  rw [h.joined]
  intro hc
  rcases mem_intercalate hc with hc | ⟨line, hline, hc⟩
  · exact absurd hc (by decide)
  · exact (h.clean line hline).2 hc

/-- A normal text stays as it is. -/
theorem normalizeText_eq_self {s : String} (h : IsNormal s) : normalizeText s = s := by
  have hnul : s.toList.filter (fun c => c ≠ '\x00') = joinLines (textLines s) := by
    rw [← h.joined, List.filter_eq_self]
    intro c hc
    refine decide_eq_true ?_
    rintro rfl
    exact h.nul_free hc
  have hclean : ∀ line ∈ textLines s, CleanLine line := fun line hline => (h.clean line hline).1
  unfold normalizeText
  rw [hnul, cleanLines_joinLines hclean, strip_joinLines hclean, ← h.joined, String.ofList_toList]

/-! ## Breaks and NULs -/

theorem breakBetween_withoutNuls {text : List Char} {i j : Nat} :
    BreakBetween tokens isLineBreak text i j ↔
      BreakBetween splitWords isLineBreak (withoutNuls text) i j := by
  constructor
  · rintro ⟨before, c, after, rfl, hbreak, hi, hle⟩
    have hnul : c ≠ '\x00' := by
      rintro rfl
      exact absurd hbreak (by decide)
    refine ⟨withoutNuls before, c, withoutNuls after, ?_, hbreak, hi, hle⟩
    unfold withoutNuls
    rw [List.filter_append, List.filter_cons_of_pos (by simpa using hnul)]
  · rintro ⟨before, c, after, htext, hbreak, hi, hle⟩
    obtain ⟨front, back, rfl, rfl, hback⟩ := List.filter_eq_append_iff.mp htext
    obtain ⟨nuls, back, rfl, hnuls, -, rfl⟩ := List.filter_eq_cons_iff.mp hback
    -- the NULs right before the break belong to the part before it
    have htokens : tokens (front ++ nuls) = splitWords (front.filter (fun c => c ≠ '\x00')) := by
      unfold tokens withoutNuls
      rw [List.filter_append, List.filter_eq_nil_iff.mpr hnuls, List.append_nil]
    refine ⟨front ++ nuls, c, back, ?_, hbreak, ?_, ?_⟩
    · rw [List.append_assoc]
    · rw [htokens]
      exact hi
    · rw [htokens]
      exact hle

/-! ## The result -/

section Normal

variable {s : String} (h : IsNormal s)

include h

theorem IsNormal.lines_ne_nil : ∀ line ∈ textLines s, line ≠ [] :=
  fun line hline => (h.clean line hline).1.ne_nil

theorem IsNormal.spaces {c : Char} (hc : c ∈ s.toList) (hspace : isSpace c = true) :
    c = ' ' ∨ c = '\n' := by
  rw [h.joined] at hc
  rcases mem_intercalate hc with hc | ⟨line, hline, hc⟩
  · exact .inr hc
  · exact .inl ((h.clean line hline).1.spaces hc hspace)

theorem IsNormal.single :
    s.toList.IsChain (fun a b => isSpace a = true → isSpace b = false) := by
  rw [h.joined]
  apply isChain_intercalate
  · intro line hline
    exact ⟨h.lines_ne_nil line hline, (h.clean line hline).1.isChain⟩
  · intro line hline a ha hspace
    rw [(h.clean line hline).1.ends.2 a ha] at hspace
    cases hspace
  · intro line hline a ha _
    exact (h.clean line hline).1.ends.1 a ha

theorem IsNormal.line_ends : ∀ line ∈ s.toList.splitOn '\n',
    (∀ c ∈ line.head?, isSpace c = false) ∧ ∀ c ∈ line.getLast?, isSpace c = false := by
  rw [h.joined]
  intro line hline
  by_cases hnil : textLines s = []
  · rw [hnil] at hline
    have hempty : line = [] := List.mem_singleton.mp hline
    subst hempty
    constructor <;> intro c hc <;> cases hc
  · have hnewline : ∀ line ∈ textLines s, '\n' ∉ line := by
      intro line hline hmem
      exact absurd ((h.clean line hline).1.unbroken _ hmem) (by decide)
    unfold joinLines at hline
    rw [List.splitOn_intercalate '\n' hnewline hnil] at hline
    exact (h.clean line hline).1.ends

theorem IsNormal.text_ends : (∀ c ∈ s.toList.head?, isSpace c = false) ∧
    ∀ c ∈ s.toList.getLast?, isSpace c = false := by
  rw [h.joined]
  constructor
  · intro c hc
    obtain ⟨line, hline, hc⟩ := head?_intercalate h.lines_ne_nil hc
    exact (h.clean line hline).1.ends.1 c hc
  · intro c hc
    obtain ⟨line, hline, hc⟩ := getLast?_intercalate h.lines_ne_nil hc
    exact (h.clean line hline).1.ends.2 c hc

/-- The only line breaks of a normal text are newlines. -/
theorem IsNormal.breakBetween_iff {i j : Nat} :
    BreakBetween splitWords (fun c => c = '\n') s.toList i j ↔
      BreakBetween splitWords isLineBreak s.toList i j := by
  constructor
  · rintro ⟨before, c, after, htext, hnewline, hi, hle⟩
    refine ⟨before, c, after, htext, ?_, hi, hle⟩
    rw [of_decide_eq_true hnewline]
    decide
  · rintro ⟨before, c, after, htext, hbreak, hi, hle⟩
    refine ⟨before, c, after, htext, decide_eq_true ?_, hi, hle⟩
    have hmem : c ∈ s.toList := by simp [htext]
    rcases h.spaces hmem (isSpace_of_isLineBreak hbreak) with rfl | rfl
    · exact absurd hbreak (by decide)
    · rfl

end Normal

/-- The tokens of a text are those of its normal form. -/
theorem same_tokens (value : String) :
    splitWords (normalizeText value).toList = tokens value.toList := by
  rw [splitWords_of_lined (lined_splitLines _), splitLines_normalizeText, splitWords_cleanLines]
  rfl

/-- Between two of them there is a newline exactly when there was a line break. -/
theorem breaks_kept (value : String) {i j : Nat} (hj : j < (tokens value.toList).length) :
    BreakBetween splitWords (fun c => c = '\n') (normalizeText value).toList i j ↔
      BreakBetween tokens isLineBreak value.toList i j := by
  have hj' : j < (splitWords (normalizeText value).toList).length := by
    rw [same_tokens]
    exact hj
  rw [(isNormal_normalizeText value).breakBetween_iff, breakBetween_withoutNuls,
    breakBetween_iff (lined_splitLines _) hj', breakBetween_iff (lined_splitLines _) hj,
    splitLines_normalizeText]
  simp only [cutAt_cleanLines]

/-- The result is the normal form of the text, and normalising it again changes nothing. -/
theorem normalizeText_faithful (value : String) :
    normalizeText (normalizeText value) = normalizeText value ∧
      IsNormalFormOf (normalizeText value) value := by
  have h := isNormal_normalizeText value
  refine ⟨normalizeText_eq_self h, h.nul_free, fun c hc => h.spaces hc, h.single, h.line_ends,
    h.text_ends, same_tokens value, fun i j hj => breaks_kept value hj⟩

end DataChat.Documents
