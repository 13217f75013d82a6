import Mathlib.Data.List.Infix
import Mathlib.Data.List.TakeWhile

/-!
# Python strings

The string operations the modelled code calls. `str.lower` is carried by a `Casing`: on
ASCII text it is fixed, elsewhere (Python lowers all of Unicode) it is left open, so what is
proved holds for Python's own table.
-/

namespace DataChat

/-- `str.lower` on ASCII text. -/
def asciiLower (s : String) : String := String.ofList (s.toList.map Char.toLower)

def IsAscii (s : String) : Prop := ∀ c ∈ s.toList, c.toNat < 128

instance (s : String) : Decidable (IsAscii s) :=
  List.decidableBAll (fun c : Char => c.toNat < 128) s.toList

/-- `str.lower`. -/
structure Casing where
  lower : String → String
  lower_ascii : ∀ s, IsAscii s → lower s = asciiLower s

/-- The casing that only knows ASCII letters. -/
def asciiCasing : Casing := ⟨asciiLower, fun _ _ => rfl⟩

/-- Lower-case ASCII text is its own lower case, whatever the casing does elsewhere. -/
theorem Casing.lower_eq_self (py : Casing) {s : String} (hascii : IsAscii s)
    (hlower : asciiLower s = s) : py.lower s = s :=
  (py.lower_ascii s hascii).trans hlower

/-- The characters `str.strip` removes and `str.isspace` accepts. -/
def isSpace (c : Char) : Bool :=
  (9 ≤ c.toNat ∧ c.toNat ≤ 13) || (28 ≤ c.toNat ∧ c.toNat ≤ 32) ||
    c.toNat ∈ [133, 160, 5760, 8232, 8233, 8239, 8287, 12288] ||
    (8192 ≤ c.toNat ∧ c.toNat ≤ 8202)

/-- `not s or not s.strip()`. -/
def isBlank (s : String) : Bool := s.toList.all isSpace

/-- `str.strip()`. -/
def strip (s : String) : String :=
  String.ofList (((s.toList.dropWhile isSpace).reverse.dropWhile isSpace).reverse)

/-- `part in s`. -/
def contains (part s : String) : Bool := decide (part.toList <:+: s.toList)

/-! ## Stripping -/

/-- `str.strip` takes nothing but spaces away, before the text and after it. -/
theorem strip_parts (s : String) : ∃ before after : List Char,
    s.toList = before ++ (strip s).toList ++ after ∧
      (∀ c ∈ before, isSpace c = true) ∧ ∀ c ∈ after, isSpace c = true := by
  have hfront := List.takeWhile_append_dropWhile (p := isSpace) (l := s.toList)
  have hback := List.takeWhile_append_dropWhile (p := isSpace)
    (l := (s.toList.dropWhile isSpace).reverse)
  have hrest : (strip s).toList ++
      ((s.toList.dropWhile isSpace).reverse.takeWhile isSpace).reverse =
        s.toList.dropWhile isSpace := by
    rw [strip, String.toList_ofList, ← List.reverse_append, hback, List.reverse_reverse]
  refine ⟨s.toList.takeWhile isSpace,
    ((s.toList.dropWhile isSpace).reverse.takeWhile isSpace).reverse, ?_, ?_, ?_⟩
  · rw [List.append_assoc, hrest, hfront]
  · intro c hc
    exact List.mem_takeWhile_imp hc
  · intro c hc
    exact List.mem_takeWhile_imp (List.mem_reverse.mp hc)

theorem length_strip_le (s : String) : (strip s).length ≤ s.length := by
  obtain ⟨before, after, hparts, -⟩ := strip_parts s
  have hlength := congrArg List.length hparts
  simp only [List.length_append, String.length_toList] at hlength
  omega

/-- A character that is no space survives. -/
theorem mem_strip {s : String} {c : Char} (hc : c ∈ s.toList) (hspace : isSpace c = false) :
    c ∈ (strip s).toList := by
  obtain ⟨before, after, hparts, hbefore, hafter⟩ := strip_parts s
  rw [hparts, List.mem_append, List.mem_append] at hc
  rcases hc with (hc | hc) | hc
  · exact absurd (hbefore c hc) (by simp [hspace])
  · exact hc
  · exact absurd (hafter c hc) (by simp [hspace])

theorem strip_eq_empty_iff {s : String} : strip s = "" ↔ isBlank s = true := by
  unfold isBlank
  rw [List.all_eq_true]
  constructor
  · intro h c hc
    by_contra hspace
    have hmem := mem_strip hc (by simpa using hspace)
    rw [h] at hmem
    cases hmem
  · intro h
    have hnone : s.toList.dropWhile isSpace = [] := List.dropWhile_eq_nil_iff.mpr h
    rw [strip, hnone]
    rfl

theorem not_isBlank_strip {s : String} (h : strip s ≠ "") : isBlank (strip s) = false := by
  by_contra hblank
  have hall := List.all_eq_true.mp (Bool.not_eq_false _ ▸ hblank)
  refine h (strip_eq_empty_iff.mpr (List.all_eq_true.mpr ?_))
  intro c hc
  by_contra hspace
  exact hspace (hall c (mem_strip hc (by simpa using hspace)))

/-- A text that neither begins nor ends with a space is kept as it is. -/
theorem strip_eq_self {s : String} (hhead : ∀ c ∈ s.toList.head?, isSpace c = false)
    (hlast : ∀ c ∈ s.toList.getLast?, isSpace c = false) : strip s = s := by
  have hfront : s.toList.dropWhile isSpace = s.toList := by
    rw [List.dropWhile_eq_self_iff]
    intro hpos
    have hc := hhead _ (List.head?_eq_getElem? (l := s.toList) ▸ List.getElem?_eq_getElem hpos)
    rw [hc]
    exact Bool.false_ne_true
  have hback : s.toList.reverse.dropWhile isSpace = s.toList.reverse := by
    rw [List.dropWhile_eq_self_iff]
    intro hpos
    have hc := hlast s.toList.reverse[0] (by
      rw [List.getLast?_eq_head?_reverse, List.head?_eq_getElem?]
      exact List.getElem?_eq_getElem hpos)
    rw [hc]
    exact Bool.false_ne_true
  rw [strip, hfront, hback, List.reverse_reverse, String.ofList_toList]

/-! ## Parts of a text -/

/-- What has no `x` stands before the first one. -/
theorem exists_append_of_not_mem {α : Type} {front rest before after : List α} {x : α}
    (h : front ++ rest = before ++ x :: after) (hx : x ∉ front) :
    ∃ middle, before = front ++ middle ∧ rest = middle ++ x :: after := by
  rcases List.append_eq_append_iff.mp h with ⟨middle, hbefore, hrest⟩ | ⟨middle, rfl, hrest⟩
  · exact ⟨middle, hbefore, hrest⟩
  · cases middle with
    | nil => exact ⟨[], by rw [List.append_nil, List.append_nil], hrest.symm⟩
    | cons y middle =>
      obtain ⟨rfl, -⟩ := List.cons.inj hrest
      exact absurd (List.mem_append_right before List.mem_cons_self) hx

/-- A part without a certain character lies on one side of it. -/
theorem infix_append_cons_iff {part : List Char} {x : Char} (hx : x ∉ part)
    (l₁ l₂ : List Char) : part <:+: l₁ ++ x :: l₂ ↔ part <:+: l₁ ∨ part <:+: l₂ := by
  constructor
  · rintro ⟨before, after, h⟩
    rw [List.append_assoc] at h
    rcases List.append_eq_append_iff.mp h with ⟨rest, hl₁, hrest⟩ | ⟨rest, hbefore, hrest⟩
    · left
      obtain ⟨tail, htail, -⟩ := exists_append_of_not_mem hrest hx
      exact ⟨before, tail, by rw [hl₁, htail, List.append_assoc]⟩
    · cases rest with
      | nil =>
        cases part with
        | nil => exact .inl (List.nil_infix)
        | cons c part =>
          obtain ⟨rfl, -⟩ := List.cons.inj hrest
          exact absurd List.mem_cons_self hx
      | cons c rest =>
        right
        have hl₂ : l₂ = rest ++ (part ++ after) := (List.cons.inj hrest).2
        exact ⟨rest, after, by rw [hl₂, List.append_assoc]⟩
  · rintro (h | h)
    · exact h.trans ⟨[], x :: l₂, rfl⟩
    · exact h.trans ⟨l₁ ++ [x], [], by simp⟩

/-- Two characters that stand side by side do so on one side of a third one. -/
theorem infix_pair_append {a b x : Char} (hxa : x ≠ a) (hxb : x ≠ b) (l₁ l₂ : List Char) :
    [a, b] <:+: l₁ ++ x :: l₂ ↔ [a, b] <:+: l₁ ∨ [a, b] <:+: l₂ :=
  infix_append_cons_iff (by simp [hxa, hxb]) l₁ l₂

/-- `text.replace(x, x + x)`. -/
def doubled (x : Char) (text : List Char) : List Char :=
  text.flatMap (fun c => if c = x then [x, x] else [c])

theorem infix_pair_doubled {a b x : Char} (hxa : x ≠ a) (hxb : x ≠ b) (text : List Char) :
    [a, b] <:+: doubled x text ↔ [a, b] <:+: text := by
  induction text with
  | nil => rfl
  | cons c text ih =>
    by_cases hc : c = x
    · subst hc
      have hnone : ¬ [a, b] <:+: ([] : List Char) := by simp
      have htail := infix_pair_append hxa hxb [] text
      have htwice : [a, b] <:+: c :: c :: doubled c text ↔ [a, b] <:+: doubled c text := by
        have h₁ := infix_pair_append hxa hxb [] (c :: doubled c text)
        have h₂ := infix_pair_append hxa hxb [] (doubled c text)
        rw [List.nil_append, or_iff_right hnone] at h₁ h₂
        exact h₁.trans h₂
      rw [List.nil_append, or_iff_right hnone] at htail
      rw [htail, ← ih, ← htwice]
      simp [doubled]
    · have hstep : doubled x (c :: text) = c :: doubled x text := by simp [doubled, hc]
      have hhead : [a, b] <+: c :: doubled x text ↔ [a, b] <+: c :: text := by
        rw [List.cons_prefix_cons, List.cons_prefix_cons]
        refine and_congr_right' ?_
        cases text with
        | nil => rfl
        | cons d text =>
          by_cases hd : d = x
          · simp [doubled, hd, List.cons_prefix_cons, Ne.symm hxb]
          · simp [doubled, hd, List.cons_prefix_cons]
      rw [hstep, List.infix_cons_iff, List.infix_cons_iff, hhead, ih]

end DataChat
