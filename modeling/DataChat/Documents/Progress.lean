import DataChat.Documents.Splitting
import Mathlib.Data.List.Chain

/-!
# When every chunk brings new text

The loop only makes sure that the starts of the windows increase. With an overlap, the next window
may end where the last one did: its look-back of 150 characters can reach a boundary that the last
window has already used.

* `endsIncrease_iff`: which of the configurations that `KnowledgeBaseCreate` accepts never do this.
-/

namespace DataChat.Documents

/-- The chunk settings of `KnowledgeBaseCreate`: the bounds of the two fields and
`validate_chunk_configuration`. -/
structure KnowledgeBaseCreate where
  chunk_size : Int
  chunk_overlap : Int
  size_ge : 100 ≤ chunk_size
  size_le : chunk_size ≤ 5000
  overlap_ge : 0 ≤ chunk_overlap
  overlap_le : chunk_overlap ≤ 1000
  overlap_lt : chunk_overlap < chunk_size

/-- The intervals that are cut end further and further to the right. -/
def EndsIncrease (text : String) (chunkSize chunkOverlap : Int) : Prop :=
  ((cutsOf text chunkSize chunkOverlap).map Prod.snd).Pairwise (· < ·)

/-! ## Windows that reach past the last end -/

/-- The look-back of the next window stays to the right of the last end. -/
theorem lt_chunkEnd_nextStart {text : List Char} {chunkSize chunkOverlap start stop : Nat}
    (hsize : 1 ≤ chunkSize) (h : chunkOverlap = 0 ∨ 150 + chunkOverlap < chunkSize)
    (hstop : stop < text.length) :
    stop < chunkEnd text chunkSize (nextStart chunkOverlap start stop) := by
  unfold nextStart
  by_cases hback : stop - chunkOverlap ≤ start
  · rw [if_pos hback]
    exact start_lt_chunkEnd hsize hstop
  · rw [if_neg hback]
    rcases h with rfl | h
    · exact start_lt_chunkEnd hsize hstop
    · rcases chunkEnd_cases text chunkSize (stop - chunkOverlap) with hend | ⟨-, -, hend, -⟩ <;>
        omega

theorem isChain_cutsFrom (text : List Char) {chunkSize chunkOverlap : Nat}
    (hsize : 1 ≤ chunkSize) (h : chunkOverlap = 0 ∨ 150 + chunkOverlap < chunkSize)
    (passes start : Nat) :
    (cutsFrom text chunkSize chunkOverlap passes start).IsChain
        (fun cut later => cut.2 < later.2) ∧
      ∀ cut ∈ (cutsFrom text chunkSize chunkOverlap passes start).head?,
        cut.2 = chunkEnd text chunkSize start := by
  induction passes generalizing start with
  | zero => exact ⟨.nil, by simp [cutsFrom]⟩
  | succ passes ih =>
    rw [cutsFrom]
    by_cases hstart : start < text.length
    · rw [if_pos hstart]
      refine ⟨?_, by simp⟩
      by_cases hend : text.length ≤ chunkEnd text chunkSize start
      · dsimp only
        rw [if_pos hend]
        exact .singleton _
      · dsimp only
        rw [if_neg hend]
        obtain ⟨hchain, hhead⟩ := ih (nextStart chunkOverlap start (chunkEnd text chunkSize start))
        refine List.isChain_cons.mpr ⟨?_, hchain⟩
        intro later hlater
        rw [hhead later hlater]
        exact lt_chunkEnd_nextStart hsize h (by omega)
    · rw [if_neg hstart]
      exact ⟨.nil, by simp⟩

theorem endsIncrease_of_narrow {chunkSize chunkOverlap : Int} (hsize : 1 ≤ chunkSize)
    (h : chunkOverlap = 0 ∨ 150 < chunkSize - chunkOverlap) (text : String) :
    EndsIncrease text chunkSize chunkOverlap := by
  have hnarrow : chunkOverlap.toNat = 0 ∨ 150 + chunkOverlap.toNat < chunkSize.toNat := by omega
  have hchain := (isChain_cutsFrom (strip text).toList (by omega : 1 ≤ chunkSize.toNat) hnarrow
    (strip text).toList.length 0).1
  rw [EndsIncrease, List.pairwise_map]
  exact List.isChain_iff_pairwise.mp hchain

/-! ## Windows that do not -/

/-- Two words of `n` letters. -/
def twoWords (n : Nat) : String :=
  String.ofList (List.replicate n 'a' ++ ' ' :: List.replicate n 'a')

theorem getElem?_twoWords (n i : Nat) :
    (twoWords n).toList[i]? =
      if i < n then some 'a' else if i = n then some ' '
      else if i < 2 * n + 1 then some 'a' else none := by
  rw [twoWords, String.toList_ofList, List.getElem?_append, List.length_replicate,
    List.getElem?_replicate]
  by_cases hi : i < n
  · simp [hi]
  · rw [if_neg hi, if_neg hi, List.getElem?_cons, List.getElem?_replicate]
    by_cases heq : i = n
    · simp [heq]
    · rw [if_neg (by omega), if_neg heq]
      by_cases hlast : i < 2 * n + 1
      · rw [if_pos hlast, if_pos (by omega)]
      · rw [if_neg hlast, if_neg (by omega)]

theorem length_twoWords (n : Nat) : (twoWords n).toList.length = 2 * n + 1 := by
  simp only [twoWords, String.toList_ofList, List.length_append, List.length_cons,
    List.length_replicate]
  omega

theorem strip_twoWords {n : Nat} (hn : 0 < n) : strip (twoWords n) = twoWords n := by
  apply strip_eq_self
  · intro c hc
    rw [List.head?_eq_getElem?, getElem?_twoWords, if_pos hn, Option.mem_some_iff] at hc
    subst hc
    decide
  · intro c hc
    rw [List.getLast?_eq_getElem?, length_twoWords, getElem?_twoWords, if_neg (by omega),
      if_neg (by omega), if_pos (by omega), Option.mem_some_iff] at hc
    subst hc
    decide

theorem getElem?_of_slice {text : List Char} {i k : Nat} {c : Char} {part : List Char}
    (h : slice text i (i + k) = c :: part) : text[i]? = some c := by
  have hfirst : (slice text i (i + k))[0]? = some c := by
    rw [h]
    rfl
  rw [getElem?_slice] at hfirst
  split at hfirst
  · exact hfirst
  · cases hfirst

theorem twoWords_eq_some_iff {n i : Nat} {c : Char} (hc : c ≠ 'a') :
    (twoWords n).toList[i]? = some c ↔ c = ' ' ∧ i = n := by
  rw [getElem?_twoWords]
  by_cases hi : i < n
  · simp only [if_pos hi, Option.some.injEq, Ne.symm hc, false_iff]
    omega
  · by_cases heq : i = n
    · simp [heq, eq_comm]
    · rw [if_neg hi, if_neg heq]
      split
      · simp only [Option.some.injEq, Ne.symm hc, false_iff]
        exact fun h => heq h.2
      · simp [heq]

/-- The only boundary is the space between the words. -/
theorem rfind_twoWords {n start stop i : Nat} {c : Char} {part : List Char} (hc : c ≠ 'a')
    (h : rfind (c :: part) (twoWords n).toList start stop = some i) : i = n := by
  obtain ⟨-, -, hslice⟩ := rfind_eq_some h
  exact ((twoWords_eq_some_iff hc).mp (getElem?_of_slice hslice)).2

theorem mem_validBoundaries_twoWords {n start targetEnd boundary : Nat}
    (h : boundary ∈ validBoundaries (twoWords n).toList start targetEnd) : boundary = n := by
  obtain ⟨position, hmem, hposition⟩ := List.mem_filterMap.mp h
  obtain ⟨rfl, -⟩ := Option.filter_eq_some_iff.mp hposition
  rcases List.mem_cons.mp hmem with h | hmem
  · exact rfind_twoWords (by decide) h.symm
  · rcases List.mem_cons.mp hmem with h | hmem
    · exact rfind_twoWords (by decide) h.symm
    · exact rfind_twoWords (by decide) (List.mem_singleton.mp hmem).symm

theorem twoWords_mem_validBoundaries {n start targetEnd : Nat} (hstart : start < n)
    (hback : targetEnd - 150 ≤ n) (hend : n < targetEnd) :
    n ∈ validBoundaries (twoWords n).toList start targetEnd := by
  have hspace : slice (twoWords n).toList n (n + 1) = [' '] := by
    refine List.ext_getElem? ?_
    intro i
    rw [getElem?_slice]
    cases i with
    | zero => simp [getElem?_twoWords]
    | succ i => simp
  have hfound :
      (rfind [' '] (twoWords n).toList (max start (targetEnd - 150)) targetEnd).isSome := by
    refine List.find?_isSome.mpr ⟨n, ?_, decide_eq_true ⟨?_, ?_, hspace⟩⟩
    · rw [List.mem_reverse, List.mem_range]
      omega
    · omega
    · show n + 1 ≤ targetEnd
      omega
  obtain ⟨i, hi⟩ := Option.isSome_iff_exists.mp hfound
  rw [rfind_twoWords (by decide) hi] at hi
  refine List.mem_filterMap.mpr ⟨some n, ?_, ?_⟩
  · rw [← hi]
    simp
  · exact Option.filter_eq_some_iff.mpr ⟨rfl, decide_eq_true hstart⟩

theorem chunkEnd_twoWords {n start : Nat} (hn : 0 < n)
    (h : start = 0 ∨ 0 < start ∧ start < n ∧ start ≤ 150) :
    chunkEnd (twoWords n).toList n start = n := by
  have htarget : min (start + n) (twoWords n).toList.length = start + n := by
    rw [length_twoWords]
    omega
  dsimp only [chunkEnd]
  have hinside : start + n < (twoWords n).toList.length := by
    rw [length_twoWords]
    omega
  rw [htarget, if_pos hinside]
  cases hmax : (validBoundaries (twoWords n).toList start (start + n)).max? with
  | none =>
    rcases h with rfl | ⟨hpos, hlt, hback⟩
    · exact Nat.zero_add n
    · have hmem := twoWords_mem_validBoundaries hlt (by omega : start + n - 150 ≤ n) (by omega)
      rw [List.max?_eq_none_iff.mp hmax] at hmem
      cases hmem
  | some boundary =>
    obtain rfl := mem_validBoundaries_twoWords (List.max?_mem hmax)
    dsimp only
    rw [if_neg]
    intro hslice
    have hdot := (twoWords_eq_some_iff (by decide)).mp (getElem?_of_slice hslice)
    exact absurd hdot.1 (by decide)

/-- Both of the first two windows end at the space. -/
theorem cutsOf_twoWords {chunkSize chunkOverlap : Int} (hpos : 0 < chunkOverlap)
    (hlt : chunkOverlap < chunkSize) (hback : chunkSize ≤ chunkOverlap + 150) :
    ∃ rest, cutsOf (twoWords chunkSize.toNat) chunkSize chunkOverlap =
      (0, chunkSize.toNat) :: (chunkSize.toNat - chunkOverlap.toNat, chunkSize.toNat) :: rest := by
  have hn : 0 < chunkSize.toNat := by omega
  have hpasses : 2 * chunkSize.toNat + 1 = 2 * chunkSize.toNat - 1 + 1 + 1 := by omega
  have hfirst := chunkEnd_twoWords hn (.inl rfl)
  have hsecond : chunkEnd (twoWords chunkSize.toNat).toList chunkSize.toNat
      (chunkSize.toNat - chunkOverlap.toNat) = chunkSize.toNat :=
    chunkEnd_twoWords hn (.inr ⟨by omega, by omega, by omega⟩)
  have hnext : nextStart chunkOverlap.toNat 0 chunkSize.toNat =
      chunkSize.toNat - chunkOverlap.toNat := by
    rw [nextStart, if_neg (by omega)]
  unfold cutsOf
  rw [strip_twoWords hn, length_twoWords, hpasses, cutsFrom,
    if_pos (by rw [length_twoWords]; omega)]
  dsimp only
  rw [hfirst, if_neg (by rw [length_twoWords]; omega), hnext, cutsFrom,
    if_pos (by rw [length_twoWords]; omega)]
  dsimp only
  rw [hsecond]
  exact ⟨_, rfl⟩

/-- The chunks of every text bring new text exactly when no overlap is asked for or the look-back
of the next window cannot reach the last end. -/
theorem endsIncrease_iff (base : KnowledgeBaseCreate) :
    (∀ text, EndsIncrease text base.chunk_size base.chunk_overlap) ↔
      base.chunk_overlap = 0 ∨ 150 < base.chunk_size - base.chunk_overlap := by
  have hsize := base.size_ge
  have hoverlap := base.overlap_ge
  have hlt := base.overlap_lt
  constructor
  · intro h
    by_contra hwide
    obtain ⟨rest, hcuts⟩ :=
      cutsOf_twoWords (by omega : 0 < base.chunk_overlap) hlt (by omega)
    have hincrease := h (twoWords base.chunk_size.toNat)
    rw [EndsIncrease, hcuts] at hincrease
    have hends := List.rel_of_pairwise_cons hincrease List.mem_cons_self
    exact absurd hends (Nat.lt_irrefl _)
  · intro h
    exact endsIncrease_of_narrow (by omega) h

/-- Up to the space, an interval holds the end of the first word. -/
theorem cutContent_twoWords {n start : Nat} (h : start < n) :
    cutContent (twoWords n) (start, n) = String.ofList (List.replicate (n - start) 'a') := by
  have hslice : slice (twoWords n).toList start n = List.replicate (n - start) 'a' := by
    have htake : (List.replicate n 'a' ++ ' ' :: List.replicate n 'a').take n =
        List.replicate n 'a' := List.take_left' List.length_replicate
    rw [slice, twoWords, String.toList_ofList, htake, List.drop_replicate]
  rw [cutContent, strip_twoWords (by omega), hslice]
  apply strip_eq_self
  · intro c hc
    obtain ⟨-, rfl⟩ := List.mem_replicate.mp
      (String.toList_ofList ▸ List.mem_of_mem_head? hc)
    decide
  · intro c hc
    obtain ⟨-, rfl⟩ := List.mem_replicate.mp
      (String.toList_ofList ▸ List.mem_of_mem_getLast? hc)
    decide

/-- The second chunk of two words of 100 letters is the end of the first one. -/
theorem twoWords_repeats : ¬ EndsIncrease (twoWords 100) 100 50 ∧
    ∃ rest, splitTextWithOverlap (twoWords 100) 100 50 =
      .ok (String.ofList (List.replicate 100 'a') :: String.ofList (List.replicate 50 'a') ::
        rest) := by
  obtain ⟨rest, hcuts⟩ := cutsOf_twoWords (by decide : (0 : Int) < 50)
    (by decide : (50 : Int) < 100) (by decide)
  have hsize : Int.toNat 100 = 100 := rfl
  have hoverlap : Int.toNat 50 = 50 := rfl
  simp only [hsize, hoverlap, Nat.reduceSub] at hcuts
  have hfirst := cutContent_twoWords (by decide : 0 < 100)
  have hsecond := cutContent_twoWords (by decide : 50 < 100)
  have hnonempty : ∀ n, String.ofList (List.replicate (n + 1) 'a') ≠ "" := by
    intro n h
    cases String.ofList_injective h
  constructor
  · intro h
    rw [EndsIncrease, hcuts] at h
    exact absurd (List.rel_of_pairwise_cons h List.mem_cons_self) (Nat.lt_irrefl _)
  · rw [splitTextWithOverlap_kept (by decide) (by decide) (by decide), keptCuts, hcuts,
      List.filter_cons_of_pos (by rw [hfirst]; exact decide_eq_true (hnonempty 99)),
      List.filter_cons_of_pos (by rw [hsecond]; exact decide_eq_true (hnonempty 49)),
      List.map_cons, List.map_cons, hfirst, hsecond]
    exact ⟨_, rfl⟩

end DataChat.Documents
