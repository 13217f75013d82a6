import DataChat.Documents.Chunker
import DataChat.Library.Outcome
import DataChat.Library.Windows

/-!
# What the chunks of a document hold

The passes of the splitting loop are a walk of windows over the stripped text (`cutsFrom_walk`),
and the chunks are the stripped contents of these windows, less the blank ones
(`splitFrom_cuts`). So the chunks of a section leave no character out that is no space
(`keptCuts_cover`), and `chunkExtractedDocument_complete` says how the chunks of the sections make
up those of the document.
-/

namespace DataChat.Documents

open DataChat.Outcome DataChat.Windows

/-! ## One pass of the loop -/

theorem slice_length_le (text : List Char) (start stop : Nat) :
    (slice text start stop).length ≤ stop - start := by
  simp only [slice, List.length_drop, List.length_take]
  omega

theorem getElem?_slice (text : List Char) (start stop i : Nat) :
    (slice text start stop)[i]? = if start + i < stop then text[start + i]? else none := by
  rw [slice, List.getElem?_drop, List.getElem?_take]

theorem mem_slice {text : List Char} {start stop i : Nat} {c : Char} (hstart : start ≤ i)
    (hstop : i < stop) (hc : text[i]? = some c) : c ∈ slice text start stop := by
  refine List.mem_of_getElem? (i := i - start) ?_
  have hi : start + (i - start) = i := by omega
  rw [getElem?_slice, hi, if_pos hstop, hc]

theorem rfind_eq_some {part text : List Char} {start stop i : Nat}
    (h : rfind part text start stop = some i) :
    start ≤ i ∧ i + part.length ≤ stop ∧ slice text i (i + part.length) = part := by
  have hfound := List.find?_some h
  exact of_decide_eq_true hfound

/-- A boundary is a place in the last 150 characters before the target where one of the three
parts stands. -/
theorem mem_validBoundaries {text : List Char} {start targetEnd boundary : Nat}
    (h : boundary ∈ validBoundaries text start targetEnd) :
    start < boundary ∧ targetEnd - 150 ≤ boundary ∧ boundary < targetEnd := by
  have hstart := start_lt_of_mem_validBoundaries h
  obtain ⟨position, hmem, hposition⟩ := List.mem_filterMap.mp h
  obtain ⟨hsome, -⟩ := Option.filter_eq_some_iff.mp hposition
  subst hsome
  have hplace : ∃ part : List Char, part ≠ [] ∧
      some boundary = rfind part text (max start (targetEnd - 150)) targetEnd := by
    rcases List.mem_cons.mp hmem with h | hmem
    · exact ⟨['\n'], by simp, h⟩
    · rcases List.mem_cons.mp hmem with h | hmem
      · exact ⟨['.', ' '], by simp, h⟩
      · exact ⟨[' '], by simp, List.mem_singleton.mp hmem⟩
  obtain ⟨part, hpart, hfind⟩ := hplace
  obtain ⟨hsearch, hfits, -⟩ := rfind_eq_some hfind.symm
  have hlength := List.length_pos_iff.mpr hpart
  omega

/-- A window ends at its target, or at most 150 characters before it. -/
theorem chunkEnd_cases (text : List Char) (chunkSize start : Nat) :
    chunkEnd text chunkSize start = min (start + chunkSize) text.length ∨
      start + chunkSize < text.length ∧ start < chunkEnd text chunkSize start ∧
        start + chunkSize - 150 ≤ chunkEnd text chunkSize start ∧
        chunkEnd text chunkSize start ≤ start + chunkSize := by
  dsimp only [chunkEnd]
  by_cases htarget : min (start + chunkSize) text.length < text.length
  · rw [if_pos htarget]
    have hmin : min (start + chunkSize) text.length = start + chunkSize := by omega
    rw [hmin] at htarget ⊢
    cases hmax : (validBoundaries text start (start + chunkSize)).max? with
    | none => exact .inl rfl
    | some boundary =>
      refine .inr ⟨htarget, ?_⟩
      obtain ⟨hstart, hback, hlt⟩ := mem_validBoundaries (List.max?_mem hmax)
      dsimp only
      split <;> omega
  · rw [if_neg htarget]
    exact .inl rfl

theorem chunkEnd_le (text : List Char) (chunkSize start : Nat) :
    chunkEnd text chunkSize start ≤ text.length ∧
      chunkEnd text chunkSize start ≤ start + chunkSize := by
  rcases chunkEnd_cases text chunkSize start with h | ⟨hlength, -, -, hsize⟩
  · rw [h]
    omega
  · omega

theorem nextStart_le (chunkOverlap start stop : Nat) :
    nextStart chunkOverlap start stop ≤ stop := by
  unfold nextStart
  split <;> omega

/-! ## The windows of the loop -/

/-- Start and end of each pass that is left. -/
def cutsFrom (text : List Char) (chunkSize chunkOverlap : Nat) : Nat → Nat → List (Nat × Nat)
  | 0, _ => []
  | passes + 1, start =>
    if start < text.length then
      let stop := chunkEnd text chunkSize start
      (start, stop) :: if text.length ≤ stop then []
        else cutsFrom text chunkSize chunkOverlap passes (nextStart chunkOverlap start stop)
    else []

/-- The intervals that `split_text_with_overlap` cuts out of the stripped text. -/
def cutsOf (text : String) (chunkSize chunkOverlap : Int) : List (Nat × Nat) :=
  cutsFrom (strip text).toList chunkSize.toNat chunkOverlap.toNat (strip text).toList.length 0

/-- The stripped content of an interval. -/
def cutContent (text : String) (cut : Nat × Nat) : String :=
  strip (String.ofList (slice (strip text).toList cut.1 cut.2))

theorem splitFrom_cuts (text : List Char) (chunkSize chunkOverlap passes start : Nat) :
    splitFrom text chunkSize chunkOverlap passes start =
      ((cutsFrom text chunkSize chunkOverlap passes start).map
        (fun cut => strip (String.ofList (slice text cut.1 cut.2)))).filter (· ≠ "") := by
  induction passes generalizing start with
  | zero => rfl
  | succ passes ih =>
    rw [splitFrom, cutsFrom]
    split
    · dsimp only
      rw [List.map_cons, List.filter_cons]
      have hrest : (if text.length ≤ chunkEnd text chunkSize start then []
          else splitFrom text chunkSize chunkOverlap passes
            (nextStart chunkOverlap start (chunkEnd text chunkSize start))) =
          ((if text.length ≤ chunkEnd text chunkSize start then []
            else cutsFrom text chunkSize chunkOverlap passes
              (nextStart chunkOverlap start (chunkEnd text chunkSize start))).map
            (fun cut => strip (String.ofList (slice text cut.1 cut.2)))).filter (· ≠ "") := by
        split
        · rfl
        · exact ih _
      rw [hrest]
      by_cases hblank : strip (String.ofList (slice text start
          (chunkEnd text chunkSize start))) = ""
      · simp only [hblank, ↓reduceIte, ne_eq, not_true_eq_false, decide_false, Bool.false_eq_true]
      · simp only [hblank, ↓reduceIte, ne_eq, not_false_eq_true, decide_true]
    · rfl

/-- With as many passes as there are characters left, the loop runs to the end of the text. -/
theorem cutsFrom_walk {text : List Char} {chunkSize : Nat} (chunkOverlap : Nat)
    (hsize : 1 ≤ chunkSize) {passes start : Nat} (hstart : start < text.length)
    (hpasses : text.length ≤ start + passes) :
    Walk chunkSize text.length start (cutsFrom text chunkSize chunkOverlap passes start) := by
  induction passes generalizing start with
  | zero => omega
  | succ passes ih =>
    have hstop := start_lt_chunkEnd hsize hstart
    obtain ⟨hlength, hwide⟩ := chunkEnd_le text chunkSize start
    rw [cutsFrom, if_pos hstart]
    dsimp only
    by_cases hend : text.length ≤ chunkEnd text chunkSize start
    · have heq : chunkEnd text chunkSize start = text.length := by omega
      rw [if_pos hend, heq]
      exact .last hstart (by omega)
    · rw [if_neg hend]
      have hafter : start < nextStart chunkOverlap start (chunkEnd text chunkSize start) :=
        start_lt_nextStart hstop
      have hgap := nextStart_le chunkOverlap start (chunkEnd text chunkSize start)
      exact .next hstop hwide (by omega) hafter hgap (ih (by omega) (by omega))

/-! ## The chunks of a section -/

theorem lookup_map_field (fields : JsonObject) (key k : String) (value : Json) :
    List.lookup k (fields.map (fun field => if field.1 = key then (key, value) else field)) =
      if k = key ∧ key ∈ fields.map Prod.fst then some value else List.lookup k fields := by
  induction fields with
  | nil => simp
  | cons field fields ih =>
    rw [List.map_cons, List.lookup_cons, List.lookup_cons]
    by_cases hfield : field.1 = key
    · by_cases hk : k = key
      · simp [hfield, hk]
      · have hne : (k == key) = false := beq_eq_false_iff_ne.mpr hk
        simp only [hfield, ↓reduceIte, hne, ih, hk, false_and]
    · by_cases hk : k = key
      · have hne : (k == field.1) = false :=
          beq_eq_false_iff_ne.mpr (fun h => hfield (h.symm.trans hk))
        simp only [hfield, ↓reduceIte, hne, ih, List.map_cons, List.mem_cons,
          Ne.symm hfield, false_or]
      · simp only [hfield, ↓reduceIte, ih, hk, false_and]

/-- The field is set and every other field is kept. -/
theorem get_withField (fields : JsonObject) (key k : String) (value : Json) :
    (withField fields key value).get k = if k = key then some value else fields.get k := by
  unfold withField
  split
  · rename_i hmem
    rw [JsonObject.get, lookup_map_field]
    simp only [hmem, and_true]
    rfl
  · rename_i hmem
    rw [JsonObject.get, List.lookup_append]
    by_cases hk : k = key
    · have hnone : List.lookup key fields = none := by
        rw [List.lookup_eq_none_iff]
        intro field hfield
        rw [bne_iff_ne]
        intro heq
        exact hmem (List.mem_map.mpr ⟨field, hfield, heq.symm⟩)
      rw [if_pos hk, hk, hnone, Option.none_or, List.lookup_cons_self]
    · have hne : (k == key) = false := beq_eq_false_iff_ne.mpr hk
      rw [if_neg hk, List.lookup_cons, hne, List.lookup_nil]
      exact Option.or_none

section

variable {chunkSize chunkOverlap : Int} (hsize : 1 ≤ chunkSize) (hoverlap : 0 ≤ chunkOverlap)
  (hlt : chunkOverlap < chunkSize)

include hsize in
theorem cutsOf_walk (chunkOverlap : Int) {text : String} (h : strip text ≠ "") :
    Walk chunkSize.toNat (strip text).toList.length 0 (cutsOf text chunkSize chunkOverlap) := by
  have hpos : 0 < (strip text).toList.length := by
    rw [List.length_pos_iff]
    intro hnil
    exact h (String.toList_eq_nil_iff.mp hnil)
  exact cutsFrom_walk _ (by omega) hpos (by omega)

theorem cutsOf_empty {text : String} (h : strip text = "") :
    cutsOf text chunkSize chunkOverlap = [] := by
  unfold cutsOf
  rw [h]
  rfl

/-- More passes than the text has characters change nothing. -/
theorem splitFrom_terminates {text : List Char} {size : Nat} (overlap : Nat) (hsize : 1 ≤ size)
    {passes : Nat} (h : text.length ≤ passes) :
    splitFrom text size overlap passes 0 = splitFrom text size overlap text.length 0 := by
  induction passes, h using Nat.le_induction with
  | base => rfl
  | succ passes hle ih => rw [splitFrom_succ overlap hsize passes 0 (by omega), ih]

/-- The intervals whose content is kept. -/
def keptCuts (text : String) (chunkSize chunkOverlap : Int) : List (Nat × Nat) :=
  (cutsOf text chunkSize chunkOverlap).filter (fun cut => cutContent text cut ≠ "")

theorem splitFrom_kept (text : String) :
    splitFrom (strip text).toList chunkSize.toNat chunkOverlap.toNat (strip text).length 0 =
      (keptCuts text chunkSize chunkOverlap).map (cutContent text) := by
  unfold keptCuts cutsOf cutContent
  rw [← String.length_toList, splitFrom_cuts, List.filter_map]
  simp only [Function.comp_def]

include hsize hoverlap hlt in
theorem splitTextWithOverlap_kept (text : String) :
    splitTextWithOverlap text chunkSize chunkOverlap =
      .ok ((keptCuts text chunkSize chunkOverlap).map (cutContent text)) := by
  unfold splitTextWithOverlap
  rw [if_neg (by omega), if_neg (by omega), if_neg (by omega), ← splitFrom_kept]
  dsimp only
  rw [String.length_toList]
  rfl

include hsize in
/-- No character but spaces is outside the kept intervals. -/
theorem keptCuts_cover {text : String} {i : Nat} {c : Char}
    (hc : (strip text).toList[i]? = some c) (hspace : isSpace c = false) :
    ∃ cut ∈ keptCuts text chunkSize chunkOverlap, cut.1 ≤ i ∧ i < cut.2 := by
  have hi : i < (strip text).toList.length := (List.getElem?_eq_some_iff.mp hc).1
  have hne : strip text ≠ "" := by
    intro hempty
    rw [hempty] at hi
    exact absurd hi (Nat.not_lt_zero _)
  obtain ⟨cut, hcut, hstart, hstop⟩ :=
    (cutsOf_walk hsize chunkOverlap hne).covers (Nat.zero_le i) hi
  refine ⟨cut, List.mem_filter.mpr ⟨hcut, ?_⟩, hstart, hstop⟩
  refine decide_eq_true ?_
  intro hblank
  have hall := List.all_eq_true.mp (strip_eq_empty_iff.mp hblank) c
    (by rw [String.toList_ofList]; exact mem_slice hstart hstop hc)
  rw [hspace] at hall
  exact Bool.false_ne_true hall

include hsize in
theorem keptCuts_spec (chunkOverlap : Int) (text : String) :
    (keptCuts text chunkSize chunkOverlap).Pairwise (fun cut later => cut.1 < later.1) ∧
      ∀ cut ∈ keptCuts text chunkSize chunkOverlap,
        cut.1 < cut.2 ∧ cut.2 ≤ (strip text).length ∧ cut.2 ≤ cut.1 + chunkSize.toNat := by
  by_cases hempty : strip text = ""
  · have hnil : keptCuts text chunkSize chunkOverlap = [] := by
      rw [keptCuts, cutsOf_empty hempty]
      rfl
    rw [hnil]
    exact ⟨List.Pairwise.nil, by simp⟩
  · have hwalk := cutsOf_walk hsize chunkOverlap hempty
    refine ⟨hwalk.starts_increase.filter _, ?_⟩
    intro cut hcut
    exact (hwalk.bounds (List.mem_filter.mp hcut).1).2

end

/-- What the chunks of a section hold of it. -/
structure SectionChunks (part : ExtractedSection) (chunkSize chunkOverlap : Int)
    (chunks : List TextChunk) : Prop where
  /-- The loop is over after as many passes as the text has characters. -/
  terminates : ∀ passes, (strip part.text).length ≤ passes →
    splitFrom (strip part.text).toList chunkSize.toNat chunkOverlap.toNat passes 0 =
      chunks.map (fun chunk => chunk.content)
  /-- The chunks are contents of intervals that leave out nothing but spaces, -/
  intervals : ∃ cuts : List (Nat × Nat),
    chunks.map (fun chunk => chunk.content) = cuts.map (cutContent part.text) ∧
      cuts.Pairwise (fun cut later => cut.1 < later.1) ∧
      (∀ cut ∈ cuts, cut.1 < cut.2 ∧ cut.2 ≤ (strip part.text).length) ∧
      ∀ i c, (strip part.text).toList[i]? = some c → isSpace c = false →
        ∃ cut ∈ cuts, cut.1 ≤ i ∧ i < cut.2
  /-- and so does the stripped text. -/
  stripped : ∃ before after : List Char,
    part.text.toList = before ++ (strip part.text).toList ++ after ∧
      (∀ c ∈ before, isSpace c = true) ∧ ∀ c ∈ after, isSpace c = true
  nonblank : ∀ chunk ∈ chunks, isBlank chunk.content = false
  short : ∀ chunk ∈ chunks, chunk.content.length ≤ chunkSize
  page : ∀ chunk ∈ chunks, chunk.page_number = part.page_number
  title : ∀ chunk ∈ chunks, chunk.section_title = part.section_title
  position : ∀ (i : Nat) (chunk : TextChunk), chunks[i]? = some chunk →
    chunk.metadata.get "section_chunk_index" = some (.number false (toString i))
  metadata : ∀ chunk ∈ chunks, ∀ key, key ≠ "section_chunk_index" →
    chunk.metadata.get key = part.metadata.get key

section

variable {chunkSize chunkOverlap : Int} (hsize : 1 ≤ chunkSize) (hoverlap : 0 ≤ chunkOverlap)
  (hlt : chunkOverlap < chunkSize)

include hsize hoverlap hlt

theorem chunkExtractedSection_chunks (part : ExtractedSection) (startingIndex : Nat) :
    ∃ chunks, chunkExtractedSection part chunkSize chunkOverlap startingIndex = .ok chunks ∧
      chunks.map (fun chunk => chunk.chunk_index) =
        (List.range chunks.length).map (startingIndex + ·) ∧
      SectionChunks part chunkSize chunkOverlap chunks := by
  have hrun := splitTextWithOverlap_kept hsize hoverlap hlt part.text
  have hcontents := List.zipIdx_map_fst 0
    ((keptCuts part.text chunkSize chunkOverlap).map (cutContent part.text))
  have hpositions := List.zipIdx_map_snd 0
    ((keptCuts part.text chunkSize chunkOverlap).map (cutContent part.text))
  have hkept : ∀ chunk ∈ ((keptCuts part.text chunkSize chunkOverlap).map
      (cutContent part.text)).zipIdx, ∃ cut ∈ keptCuts part.text chunkSize chunkOverlap,
        cutContent part.text cut = chunk.1 := by
    intro chunk hchunk
    exact List.mem_map.mp (hcontents ▸ List.mem_map_of_mem (f := Prod.fst) hchunk)
  obtain ⟨hstarts, hbounds⟩ := keptCuts_spec hsize chunkOverlap part.text
  unfold chunkExtractedSection
  rw [hrun]
  refine ⟨_, rfl, ?_, ?_⟩
  · have hnumbers := congrArg (List.map (startingIndex + ·)) hpositions
    rw [List.map_map, ← List.range_eq_range'] at hnumbers
    rw [List.map_map, List.length_map, List.length_zipIdx]
    exact hnumbers
  · refine
      { terminates := ?_, intervals := ?_, stripped := strip_parts part.text, nonblank := ?_
        short := ?_, page := ?_, title := ?_, position := ?_, metadata := ?_ }
    · intro passes hpasses
      have hlength : (strip part.text).toList.length ≤ passes := by
        rwa [String.length_toList]
      rw [splitFrom_terminates _ (by omega) hlength, String.length_toList, splitFrom_kept,
        List.map_map]
      exact hcontents.symm
    · refine ⟨keptCuts part.text chunkSize chunkOverlap, ?_, hstarts, ?_, ?_⟩
      · rw [List.map_map]
        exact hcontents
      · intro cut hcut
        obtain ⟨hlt, hlength, -⟩ := hbounds cut hcut
        exact ⟨hlt, hlength⟩
      · intro i c hc hspace
        exact keptCuts_cover hsize hc hspace
    · intro chunk hchunk
      obtain ⟨numbered, hnumbered, rfl⟩ := List.mem_map.mp hchunk
      obtain ⟨cut, hcut, heq⟩ := hkept numbered hnumbered
      have hne := of_decide_eq_true (List.mem_filter.mp hcut).2
      show isBlank numbered.1 = false
      rw [← heq]
      exact not_isBlank_strip hne
    · intro chunk hchunk
      obtain ⟨numbered, hnumbered, rfl⟩ := List.mem_map.mp hchunk
      obtain ⟨cut, hcut, heq⟩ := hkept numbered hnumbered
      obtain ⟨-, -, hwide⟩ := hbounds cut hcut
      have hstrip := length_strip_le (String.ofList (slice (strip part.text).toList cut.1 cut.2))
      have hslice := slice_length_le (strip part.text).toList cut.1 cut.2
      rw [String.length_ofList] at hstrip
      show (numbered.1.length : Int) ≤ chunkSize
      rw [← heq, cutContent]
      omega
    · intro chunk hchunk
      obtain ⟨numbered, -, rfl⟩ := List.mem_map.mp hchunk
      rfl
    · intro chunk hchunk
      obtain ⟨numbered, -, rfl⟩ := List.mem_map.mp hchunk
      rfl
    · intro i chunk hchunk
      rw [List.getElem?_map, Option.map_eq_some_iff] at hchunk
      obtain ⟨numbered, hnumbered, rfl⟩ := hchunk
      rw [List.getElem?_zipIdx, Option.map_eq_some_iff] at hnumbered
      obtain ⟨content, -, rfl⟩ := hnumbered
      rw [get_withField, if_pos rfl, Nat.zero_add]
    · intro chunk hchunk key hkey
      obtain ⟨numbered, -, rfl⟩ := List.mem_map.mp hchunk
      rw [get_withField, if_neg hkey]

end

/-! ## The chunks of a document -/

section

variable {chunkSize chunkOverlap : Int}

/-- The chunks of the sections that are done make up the chunks so far. -/
def DoneChunks (chunkSize chunkOverlap : Int) (done : List ExtractedSection)
    (chunks : List TextChunk) : Prop :=
  ∃ parts : List (List TextChunk), chunks = parts.flatten ∧
    chunks.map (fun chunk => chunk.chunk_index) = List.range chunks.length ∧
    List.Forall₂ (fun part chunks => SectionChunks part chunkSize chunkOverlap chunks) done parts

theorem doneChunks_append {done : List ExtractedSection} {part : ExtractedSection}
    {chunks sectionChunks : List TextChunk} (h : DoneChunks chunkSize chunkOverlap done chunks)
    (hindex : sectionChunks.map (fun chunk => chunk.chunk_index) =
      (List.range sectionChunks.length).map (chunks.length + ·))
    (hchunks : SectionChunks part chunkSize chunkOverlap sectionChunks) :
    DoneChunks chunkSize chunkOverlap (done ++ [part]) (chunks ++ sectionChunks) := by
  obtain ⟨parts, hparts, hdone, hall⟩ := h
  refine ⟨parts ++ [sectionChunks], by simp [hparts], ?_, ?_⟩
  · rw [List.map_append, hdone, hindex, List.length_append, List.range_add]
  · exact List.rel_append hall (.cons hchunks .nil)

theorem sectionChunks_ne_nil {part : ExtractedSection} {chunks : List TextChunk}
    (h : SectionChunks part chunkSize chunkOverlap chunks) (hpart : isBlank part.text = false) :
    chunks ≠ [] := by
  obtain ⟨cuts, hcontents, -, -, hcover⟩ := h.intervals
  have hchar : ∃ c ∈ part.text.toList, isSpace c = false := by
    by_contra hnone
    push Not at hnone
    have hall : isBlank part.text = true := by
      refine List.all_eq_true.mpr ?_
      intro c hc
      simpa using hnone c hc
    exact Bool.false_ne_true (hpart.symm.trans hall)
  obtain ⟨c, hc, hspace⟩ := hchar
  obtain ⟨i, hi⟩ := List.mem_iff_getElem?.mp (mem_strip hc hspace)
  obtain ⟨cut, hcut, -⟩ := hcover i c hi hspace
  rintro rfl
  have hnil := List.map_eq_nil_iff.mp hcontents.symm
  rw [hnil] at hcut
  cases hcut

/-- Chunking leaves nothing out: see `SectionChunks` for what the chunks of each section hold. -/
theorem chunkExtractedDocument_complete {document : ExtractedDocument}
    (hsection : ∃ part ∈ document.sections, isBlank part.text = false)
    (hsize : 1 ≤ chunkSize) (hoverlap : 0 ≤ chunkOverlap) (hlt : chunkOverlap < chunkSize) :
    ∃ chunks parts, chunkExtractedDocument document chunkSize chunkOverlap = .ok chunks ∧
      chunks.map (fun chunk => chunk.chunk_index) = List.range chunks.length ∧
      chunks = parts.flatten ∧
      List.Forall₂ (fun part chunks => SectionChunks part chunkSize chunkOverlap chunks)
        document.sections parts := by
  have hpass : ∀ part ∈ document.sections, ∀ chunks : List TextChunk, ∃ chunks',
      (chunkExtractedSection part chunkSize chunkOverlap chunks.length >>=
        fun sectionChunks => pure (chunks ++ sectionChunks)) = .ok chunks' := by
    intro part _ chunks
    obtain ⟨sectionChunks, hrun, -⟩ :=
      chunkExtractedSection_chunks hsize hoverlap hlt part chunks.length
    exact ⟨_, bind_ok_iff.mpr ⟨sectionChunks, hrun, rfl⟩⟩
  obtain ⟨chunks, hloop⟩ := foldlM_returns hpass []
  have hdone : DoneChunks chunkSize chunkOverlap document.sections chunks := by
    refine foldlM_ok_induction (DoneChunks chunkSize chunkOverlap) ⟨[], rfl, rfl, .nil⟩ ?_ hloop
    intro done part rest chunks chunks' _ hdone hrun
    obtain ⟨sectionChunks, hsectionRun, hpure⟩ := bind_ok_iff.mp hrun
    obtain ⟨sectionChunks', hrun', hindex, hchunks⟩ :=
      chunkExtractedSection_chunks hsize hoverlap hlt part chunks.length
    obtain rfl : sectionChunks' = sectionChunks :=
      Except.ok.inj (hrun'.symm.trans hsectionRun)
    rw [← pure_ok_iff.mp hpure]
    exact doneChunks_append hdone hindex hchunks
  obtain ⟨parts, hparts, hindex, hall⟩ := hdone
  have hne : chunks ≠ [] := by
    obtain ⟨part, hmem, hpart⟩ := hsection
    obtain ⟨i, hi, rfl⟩ := List.getElem_of_mem hmem
    have hj : i < parts.length := hall.length_eq ▸ hi
    have hpartNe := sectionChunks_ne_nil ((List.forall₂_iff_get.mp hall).2 i hi hj) hpart
    intro hnil
    rw [hparts, List.flatten_eq_nil_iff] at hnil
    exact hpartNe (hnil _ (List.getElem_mem hj))
  refine ⟨chunks, parts, ?_, hindex, hparts, hall⟩
  refine bind_ok_iff.mpr ⟨chunks, hloop, ?_⟩
  rw [if_neg (by simpa using hne)]
  rfl

end

/-- A page of text and one without. -/
def shortReport : ExtractedDocument where
  sections := [⟨"net sales rose. ", some 1, some "Sales", [("source", .string "report")]⟩,
    ⟨" \n", some 2, none, []⟩]
  page_count := some 2

theorem shortReport_complete :
    ∃ chunks parts, chunkExtractedDocument shortReport 8 3 = .ok chunks ∧
      chunks.map (fun chunk => chunk.chunk_index) = List.range chunks.length ∧
      chunks = parts.flatten ∧
      List.Forall₂ (fun part chunks => SectionChunks part 8 3 chunks) shortReport.sections parts :=
  chunkExtractedDocument_complete ⟨_, List.mem_cons_self, by decide +kernel⟩ (by decide)
    (by decide) (by decide)

end DataChat.Documents
