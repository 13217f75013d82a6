import DataChat.Documents.Retrieval
import DataChat.Library.Rounding
import Mathlib.Data.Rat.Floor
import Mathlib.Order.WithBot

/-!
# The best matches

`retrieve_relevant_chunks` with rational numbers and NaN in place of floats. The search limits the
rows before the service drops those that are not similar enough. This makes no difference, as the
rows come in the order of their distances. But `min(1.0, nan)` is `1.0`, so a distance that is not a
number counts as the greatest similarity, and scores are rounded after they have been compared.

* `filter_take`: limiting and dropping commute.
* `retrieved_exact`: what the service makes of a row.
* `bestMatches_iff`: the matches are the best ones, in order, exactly when no distance that is not a
  number and no rounding stands in the way.
* `nan_is_best`: a chunk whose vector is zero is a match of score 1.
-/

namespace DataChat.Documents

open Outcome Platform

variable {F : Type}

/-! ## Exact numbers -/

/-- A float, as a rational number. -/
inductive ExactFloat
  | nan
  | rational (value : ℚ)
deriving DecidableEq

/-- A comparison with NaN is false, and so is what becomes of it in `min` and `max`. -/
def exactFloats : FloatArithmetic ExactFloat where
  zero := .rational 0
  one := .rational 1
  sub a b :=
    match a, b with
    | .rational x, .rational y => .rational (x - y)
    | _, _ => .nan
  lt a b :=
    match a, b with
    | .rational x, .rational y => decide (x < y)
    | _, _ => false
  round a digits :=
    match a with
    | .rational x => .rational (roundTo digits x)
    | .nan => .nan

/-- PostgreSQL sorts NaN after all numbers. -/
def distanceKey : ExactFloat → WithTop ℚ
  | .nan => ⊤
  | .rational x => x

def exactVectors (cosineDistance : List F → List F → Option ExactFloat) :
    Pgvector F ExactFloat where
  Key := WithTop ℚ
  order := inferInstance
  cosineDistance := cosineDistance
  key := distanceKey

/-! ## What should hold -/

/-- `1 - distance`, between 0 and 1. -/
def clampedSimilarity (distance : ℚ) : ℚ := max 0 (min 1 (1 - distance))

/-- The similarity of a row, where a distance that is not a number has none. -/
def similarity : ExactFloat → ℚ
  | .nan => 0
  | .rational x => clampedSimilarity x

def Qualifies (minimumSimilarity : ℚ) (row : SearchRow F ExactFloat) : Prop :=
  minimumSimilarity ≤ similarity row.distance

instance (minimumSimilarity : ℚ) (row : SearchRow F ExactFloat) :
    Decidable (Qualifies minimumSimilarity row) :=
  inferInstanceAs (Decidable (minimumSimilarity ≤ similarity row.distance))

/-- A match for a row, with a score. -/
def matchOf (row : SearchRow F ExactFloat) (score : ExactFloat) :
    Chat.RetrievedDocumentChunk ExactFloat where
  document_id := row.document.id
  document_name := row.document.original_filename
  chunk_id := row.chunk.id
  chunk_index := row.chunk.chunk_index
  page_number := row.chunk.page_number
  section_title := row.chunk.section_title
  similarity_score := score
  content := row.chunk.content

/-- A score is a number that is at least this. -/
def AtLeast (bound : ℚ) (score : ExactFloat) : Prop := ∃ x, score = .rational x ∧ bound ≤ x

/-- The matches are the first rows that qualify, their scores do not increase, and no score is below
the minimum. -/
structure BestMatches (topK : Nat) (minimumSimilarity : ℚ) (sorted : List (SearchRow F ExactFloat))
    (matched : List (Chat.RetrievedDocumentChunk ExactFloat)) : Prop where
  rows : List.Forall₂ (fun row found => ∃ score, found = matchOf row score)
    ((sorted.filter (fun row => Qualifies minimumSimilarity row)).take topK) matched
  descending : matched.Pairwise (fun better worse =>
    ∃ x, worse.similarity_score = .rational x ∧ AtLeast x better.similarity_score)
  sufficient : ∀ found ∈ matched, AtLeast minimumSimilarity found.similarity_score

/-- Among the rows that are taken, a distance that is not a number does no harm, and no similarity
that suffices is rounded to one that does not. -/
structure WellScored (minimumSimilarity : ℚ) (taken : List (SearchRow F ExactFloat)) : Prop where
  nan : ∀ row ∈ taken, row.distance = .nan → minimumSimilarity = 0 ∧
    ∀ other ∈ taken, ∀ x, other.distance = .rational x → roundTo 6 (clampedSimilarity x) = 1
  rounded : ∀ row ∈ taken, ∀ x, row.distance = .rational x →
    minimumSimilarity ≤ clampedSimilarity x →
      minimumSimilarity ≤ roundTo 6 (clampedSimilarity x)

/-! ## What the service computes -/

theorem clampedSimilarity_anti {x y : ℚ} (h : x ≤ y) : clampedSimilarity y ≤ clampedSimilarity x :=
  max_le_max_left 0 (min_le_min_left 1 (by linarith))

theorem clampedSimilarity_nonneg (x : ℚ) : 0 ≤ clampedSimilarity x := le_max_left _ _

theorem clampedSimilarity_le_one (x : ℚ) : clampedSimilarity x ≤ 1 :=
  max_le (by norm_num) (min_le_left _ _)

/-- The similarity that the service computes. -/
def computedSimilarity : ExactFloat → ℚ
  | .nan => 1
  | .rational x => clampedSimilarity x

theorem exactFloats_min (x y : ℚ) :
    exactFloats.min (.rational x) (.rational y) = .rational (min x y) := by
  unfold FloatArithmetic.min exactFloats
  by_cases h : y < x
  · simp [h, min_eq_right h.le]
  · simp [h, min_eq_left (not_lt.mp h)]

theorem exactFloats_max (x y : ℚ) :
    exactFloats.max (.rational x) (.rational y) = .rational (max x y) := by
  unfold FloatArithmetic.max exactFloats
  by_cases h : x < y
  · simp [h, max_eq_right h.le]
  · simp [h, max_eq_left (not_lt.mp h)]

theorem cosineDistanceToSimilarity_exact (distance : ExactFloat) :
    cosineDistanceToSimilarity exactFloats distance = .rational (computedSimilarity distance) := by
  cases distance with
  | nan =>
    have hone : cosineDistanceToSimilarity exactFloats .nan =
      exactFloats.max (.rational 0) (.rational 1) := rfl
    rw [hone, exactFloats_max]
    norm_num [computedSimilarity]
  | rational x =>
    have hnumber : cosineDistanceToSimilarity exactFloats (.rational x) =
      exactFloats.max (.rational 0) (exactFloats.min (.rational 1) (.rational (1 - x))) := rfl
    rw [hnumber, exactFloats_min, exactFloats_max]
    rfl

/-- The match that the service makes. -/
def reportedMatch (row : SearchRow F ExactFloat) : Chat.RetrievedDocumentChunk ExactFloat :=
  matchOf row (.rational (roundTo 6 (computedSimilarity row.distance)))

/-- What the service makes of a row. -/
theorem retrieved_exact (minimumSimilarity : ℚ) (row : SearchRow F ExactFloat) :
    retrieved exactFloats (.rational minimumSimilarity) row =
      if minimumSimilarity ≤ computedSimilarity row.distance then some (reportedMatch row)
      else none := by
  unfold retrieved
  rw [cosineDistanceToSimilarity_exact]
  by_cases h : minimumSimilarity ≤ computedSimilarity row.distance
  · rw [if_pos h, if_neg (by simpa [exactFloats] using h)]
    rfl
  · rw [if_neg h, if_pos (by simpa [exactFloats] using h)]

theorem filterMap_retrieved (minimumSimilarity : ℚ) (rows : List (SearchRow F ExactFloat)) :
    rows.filterMap (retrieved exactFloats (.rational minimumSimilarity)) =
      (rows.filter (fun row => minimumSimilarity ≤ computedSimilarity row.distance)).map
        reportedMatch := by
  induction rows with
  | nil => rfl
  | cons row rows ih =>
    rw [List.filterMap_cons, List.filter_cons, retrieved_exact, ih]
    by_cases h : minimumSimilarity ≤ computedSimilarity row.distance
    · simp [h]
    · simp [h]

/-! ## Limiting and dropping -/

/-- When all that comes after a row that is dropped is dropped too, limiting and dropping
commute. -/
theorem filter_take {α : Type} {p : α → Bool} {rows : List α}
    (h : rows.Pairwise (fun a b => p b = true → p a = true)) (n : Nat) :
    (rows.filter p).take n = (rows.take n).filter p := by
  induction rows generalizing n with
  | nil => simp
  | cons a rows ih =>
    obtain ⟨hhead, htail⟩ := List.pairwise_cons.mp h
    cases n with
    | zero => rfl
    | succ n =>
      by_cases ha : p a = true
      · rw [List.filter_cons_of_pos ha, List.take_succ_cons, List.take_succ_cons,
          List.filter_cons_of_pos ha, ih htail]
      · have hnone : ∀ b ∈ rows, ¬ p b = true := fun b hb hp => ha (hhead b hb hp)
        have hnone' : ∀ b ∈ rows.take n, ¬ p b = true :=
          fun b hb => hnone b (List.mem_of_mem_take hb)
        rw [List.filter_cons_of_neg ha, List.take_succ_cons, List.filter_cons_of_neg ha,
          List.filter_eq_nil_iff.mpr hnone, List.filter_eq_nil_iff.mpr hnone', List.take_nil]

/-- A row that is not farther is not less similar. -/
theorem similarity_anti {d e : ExactFloat} (h : distanceKey d ≤ distanceKey e) :
    similarity e ≤ similarity d := by
  cases e with
  | nan =>
    cases d with
    | nan => exact le_refl _
    | rational x => exact clampedSimilarity_nonneg x
  | rational y =>
    cases d with
    | nan => exact absurd h (by simp [distanceKey])
    | rational x => exact clampedSimilarity_anti (WithTop.coe_le_coe.mp h)

theorem similarity_le_computed (d : ExactFloat) : similarity d ≤ computedSimilarity d := by
  cases d with
  | nan => exact zero_le_one
  | rational x => exact le_refl _

/-! ## When the matches are the best ones -/

theorem roundTo_one : roundTo 6 (1 : ℚ) = 1 := by
  simpa using roundTo_intCast (K := ℚ) 6 1

variable {minimumSimilarity : ℚ} {taken : List (SearchRow F ExactFloat)}

/-- The rows that the service keeps are those that qualify, exactly when a distance that is not a
number does not matter. -/
theorem rows_iff (hminimum : 0 ≤ minimumSimilarity) (hmaximum : minimumSimilarity ≤ 1) :
    List.Forall₂ (fun row found => ∃ score, found = matchOf row score)
        (taken.filter (fun row => Qualifies minimumSimilarity row))
        ((taken.filter (fun row => minimumSimilarity ≤ computedSimilarity row.distance)).map
          reportedMatch) ↔
      ∀ row ∈ taken, row.distance = .nan → minimumSimilarity = 0 := by
  constructor
  · intro hrows row hrow hnan
    have hsub : taken.filter (fun row => Qualifies minimumSimilarity row) =
        (taken.filter (fun row => minimumSimilarity ≤ computedSimilarity row.distance)).filter
          (fun row => Qualifies minimumSimilarity row) := by
      rw [List.filter_filter]
      refine List.filter_congr (fun other _ => ?_)
      have hle : Qualifies minimumSimilarity other →
          minimumSimilarity ≤ computedSimilarity other.distance :=
        fun h => h.trans (similarity_le_computed _)
      by_cases h : Qualifies minimumSimilarity other
      · simp [h, hle h]
      · simp [h]
    have hlength := hrows.length_eq
    rw [List.length_map, hsub] at hlength
    have hsame := List.filter_sublist.eq_of_length hlength
    have hkept : row ∈
        taken.filter (fun row => minimumSimilarity ≤ computedSimilarity row.distance) := by
      refine List.mem_filter.mpr ⟨hrow, decide_eq_true ?_⟩
      rw [hnan]
      exact hmaximum
    rw [← hsame] at hkept
    have hqualifies : minimumSimilarity ≤ similarity row.distance :=
      of_decide_eq_true (List.mem_filter.mp hkept).2
    rw [hnan] at hqualifies
    exact le_antisymm hqualifies hminimum
  · intro hzero
    have hsame : taken.filter (fun row => Qualifies minimumSimilarity row) =
        taken.filter (fun row => minimumSimilarity ≤ computedSimilarity row.distance) := by
      refine List.filter_congr (fun row hrow => decide_eq_decide.mpr ?_)
      unfold Qualifies
      cases hdistance : row.distance with
      | nan =>
        rw [hzero row hrow hdistance]
        exact iff_of_true (le_refl _) zero_le_one
      | rational x => exact Iff.rfl
    rw [hsame, List.forall₂_map_right_iff, List.forall₂_same]
    exact fun row _ => ⟨_, rfl⟩

theorem atLeast_rational {bound x : ℚ} : AtLeast bound (.rational x) ↔ bound ≤ x := by
  constructor
  · rintro ⟨y, hsame, hle⟩
    obtain rfl := ExactFloat.rational.inj hsame
    exact hle
  · intro hle
    exact ⟨x, rfl, hle⟩

/-- The score of a match. -/
def scoreOf (row : SearchRow F ExactFloat) : ℚ := roundTo 6 (computedSimilarity row.distance)

theorem descending_iff {kept : List (SearchRow F ExactFloat)} :
    (kept.map reportedMatch).Pairwise (fun better worse =>
        ∃ x, worse.similarity_score = .rational x ∧ AtLeast x better.similarity_score) ↔
      kept.Pairwise (fun better worse => scoreOf worse ≤ scoreOf better) := by
  rw [List.pairwise_map]
  refine List.Pairwise.iff (fun better worse => ?_)
  constructor
  · rintro ⟨x, hworse, hbetter⟩
    obtain rfl := ExactFloat.rational.inj hworse
    exact atLeast_rational.mp hbetter
  · intro hle
    exact ⟨scoreOf worse, rfl, atLeast_rational.mpr hle⟩

theorem sufficient_iff {kept : List (SearchRow F ExactFloat)} :
    (∀ found ∈ kept.map reportedMatch, AtLeast minimumSimilarity found.similarity_score) ↔
      ∀ row ∈ kept, minimumSimilarity ≤ scoreOf row := by
  constructor
  · intro hall row hrow
    exact atLeast_rational.mp (hall _ (List.mem_map_of_mem hrow))
  · rintro hall found hfound
    obtain ⟨row, hrow, rfl⟩ := List.mem_map.mp hfound
    exact atLeast_rational.mpr (hall row hrow)

/-- With a minimum of 0, rows in the order of their distances get descending scores only when those
before a distance that is not a number get 1. -/
theorem score_one_of_descending
    (hsorted : taken.Pairwise (fun a b => distanceKey a.distance ≤ distanceKey b.distance))
    (hdescending : taken.Pairwise (fun better worse => scoreOf worse ≤ scoreOf better))
    {row other : SearchRow F ExactFloat} (hrow : row ∈ taken) (hnan : row.distance = .nan)
    (hother : other ∈ taken) {x : ℚ} (hx : other.distance = .rational x) :
    roundTo 6 (clampedSimilarity x) = 1 := by
  refine le_antisymm ((roundTo_mono (clampedSimilarity_le_one x)).trans roundTo_one.le) ?_
  have hpairs : ∀ a ∈ taken, ∀ b ∈ taken, b.distance = .nan →
      ∀ y, a.distance = .rational y → 1 ≤ roundTo 6 (clampedSimilarity y) := by
    -- of two rows, the one without a number comes later
    refine List.Pairwise.forall_of_forall_of_flip ?_ ?_ ?_
    · intro a _ ha y hy
      rw [ha] at hy
      cases hy
    · refine hdescending.imp (fun hscore hb y hy => ?_)
      unfold scoreOf at hscore
      rw [hb, hy] at hscore
      exact roundTo_one.symm.le.trans hscore
    · refine hsorted.imp (fun hkey ha y hy => ?_)
      rw [ha, hy] at hkey
      exact absurd hkey (by simp [distanceKey])
  exact hpairs other hother row hrow hnan x hx

/-- Well-scored rows in the order of their distances get descending scores. -/
theorem descending_of_wellScored (h : WellScored minimumSimilarity taken)
    (hsorted : taken.Pairwise (fun a b => distanceKey a.distance ≤ distanceKey b.distance)) :
    taken.Pairwise (fun better worse => scoreOf worse ≤ scoreOf better) := by
  refine hsorted.imp_of_mem (fun {better worse} hbetter hworse hle => ?_)
  unfold scoreOf
  cases hw : worse.distance with
  | nan =>
    cases hb : better.distance with
    | nan => exact le_refl _
    | rational x =>
      have hone := (h.nan worse hworse hw).2 better hbetter x hb
      exact roundTo_one.le.trans hone.symm.le
  | rational y =>
    cases hb : better.distance with
    | nan =>
      rw [hb, hw] at hle
      exact absurd hle (by simp [distanceKey])
    | rational x =>
      rw [hb, hw] at hle
      exact roundTo_mono (clampedSimilarity_anti (WithTop.coe_le_coe.mp hle))

/-- And those of them that qualify get sufficient scores. -/
theorem sufficient_of_wellScored (h : WellScored minimumSimilarity taken)
    (hmaximum : minimumSimilarity ≤ 1) {row : SearchRow F ExactFloat} (hrow : row ∈ taken)
    (hle : minimumSimilarity ≤ computedSimilarity row.distance) :
    minimumSimilarity ≤ scoreOf row := by
  unfold scoreOf
  cases hdistance : row.distance with
  | nan => exact hmaximum.trans roundTo_one.symm.le
  | rational x =>
    rw [hdistance] at hle
    exact h.rounded row hrow x hdistance hle

/-- The matches for rows in the order of their distances. -/
theorem bestMatches_taken_iff (hminimum : 0 ≤ minimumSimilarity) (hmaximum : minimumSimilarity ≤ 1)
    {sorted : List (SearchRow F ExactFloat)} (topK : Nat)
    (hsorted : sorted.Pairwise (fun a b => distanceKey a.distance ≤ distanceKey b.distance)) :
    BestMatches topK minimumSimilarity sorted
        ((sorted.take topK).filterMap (retrieved exactFloats (.rational minimumSimilarity))) ↔
      WellScored minimumSimilarity (sorted.take topK) := by
  have hlimit : (sorted.filter (fun row => Qualifies minimumSimilarity row)).take topK =
      (sorted.take topK).filter (fun row => Qualifies minimumSimilarity row) := by
    refine filter_take (hsorted.imp (fun hle hb => decide_eq_true ?_)) topK
    exact (of_decide_eq_true hb : _ ≤ _).trans (similarity_anti hle)
  have hordered : (sorted.take topK).Pairwise
      (fun a b => distanceKey a.distance ≤ distanceKey b.distance) :=
    hsorted.sublist (List.take_sublist topK sorted)
  rw [filterMap_retrieved]
  constructor
  · intro h
    have hrows := h.rows
    rw [hlimit] at hrows
    have hzero := (rows_iff hminimum hmaximum).mp hrows
    have hdescending := descending_iff.mp h.descending
    have hsufficient := sufficient_iff.mp h.sufficient
    constructor
    · intro row hrow hnan
      have hz := hzero row hrow hnan
      refine ⟨hz, fun other hother x hx => ?_⟩
      rw [List.filter_eq_self.mpr] at hdescending
      · exact score_one_of_descending hordered hdescending hrow hnan hother hx
      · intro kept _
        rw [hz]
        refine decide_eq_true ?_
        cases kept.distance with
        | nan => exact zero_le_one
        | rational y => exact clampedSimilarity_nonneg y
    · intro row hrow x hx hle
      have hscore := hsufficient row (List.mem_filter.mpr ⟨hrow, decide_eq_true (hx ▸ hle)⟩)
      unfold scoreOf at hscore
      rw [hx] at hscore
      exact hscore
  · intro h
    refine ⟨?_, descending_iff.mpr ?_, sufficient_iff.mpr ?_⟩
    · rw [hlimit]
      exact (rows_iff hminimum hmaximum).mpr (fun row hrow hnan => (h.nan row hrow hnan).1)
    · exact List.Pairwise.sublist List.filter_sublist (descending_of_wellScored h hordered)
    · intro row hrow
      obtain ⟨hmem, hkept⟩ := List.mem_filter.mp hrow
      exact sufficient_of_wellScored h hmaximum hmem (of_decide_eq_true hkept)

/-- The matches are the best ones, in order, exactly when the rows that are taken are well
scored. -/
theorem bestMatches_iff (settings : EmbeddingSettings) (encoder : Encoder F)
    (cosineDistance : List F → List F → Option ExactFloat) (tables : RetrievalTables F)
    (currentUser : User) (knowledgeBaseId : Uuid) (query : String) (topK : Nat)
    (minimumSimilarity : ℚ) (hminimum : 0 ≤ minimumSimilarity) (hmaximum : minimumSimilarity ≤ 1)
    (sorted : List (SearchRow F ExactFloat))
    (hsearched : Searched ⟨settings, encoder, exactVectors cosineDistance, exactFloats⟩ tables
      currentUser knowledgeBaseId query sorted)
    (matched : List (Chat.RetrievedDocumentChunk ExactFloat))
    (hmatched : retrieveRelevantChunks ⟨settings, encoder, exactVectors cosineDistance, exactFloats⟩
      tables currentUser knowledgeBaseId query topK (.rational minimumSimilarity) sorted =
        .ok matched) :
    BestMatches topK minimumSimilarity sorted matched ↔
      WellScored minimumSimilarity (sorted.take topK) := by
  unfold retrieveRelevantChunks at hmatched
  obtain ⟨queryEmbedding, hembedding, hmatched⟩ := bind_ok_iff.mp hmatched
  obtain ⟨-, -, hmatched⟩ := bind_ok_iff.mp hmatched
  rw [← pure_ok_iff.mp hmatched]
  exact bestMatches_taken_iff hminimum hmaximum topK (hsearched queryEmbedding hembedding).sorted

/-! ## A vector without a direction -/

/-- The distance of vectors of length 0 or 1. -/
def unitDistance (a b : List Int) : Option ExactFloat :=
  if a.length ≠ b.length then none
  else if a.all (fun x => x = 0) || b.all (fun x => x = 0) then some .nan
  else some (.rational (1 - ((List.zipWith (fun x y => x * y) a b).sum : Int)))

def planeBases : KnowledgeBaseTable where
  rows := [⟨⟨"manuals", "tenant", "model", 2, 800, 120⟩, true⟩]
  ids := by decide

def planeDocument : DocumentRow where
  id := "notes"
  tenant_id := "tenant"
  knowledge_base_id := "manuals"
  storage_key := "tenant/manuals/notes/notes.txt"
  file_extension := "txt"
  status := "completed"
  processing_message := none
  page_count := some 1
  chunk_count := 2
  uploaded_by := some "admin"
  original_filename := "notes.txt"
  content_type := some "text/plain"
  file_size_bytes := 2
  checksum_sha256 := "8f434346648f6b96df89dda901c5176b10a6d83961dd3c1ac88b59b2dc327aa4"
  document_metadata := []

def planeChunk (index : Nat) (embedding : List Int) : ChunkRow Int where
  id := toString index
  tenant_id := "tenant"
  knowledge_base_id := "manuals"
  document_id := "notes"
  chunk_index := index
  content := "hi"
  token_count := none
  page_number := none
  section_title := none
  chunk_metadata := []
  embedding := some embedding

def planeTables : RetrievalTables Int where
  bases := planeBases
  documents := ⟨[planeDocument], List.nodup_singleton _, List.pairwise_singleton _ _⟩
  chunks := [planeChunk 0 [0, 0], planeChunk 1 [1, 0]]

def planeServices : RetrievalServices Int ExactFloat where
  settings := ⟨"model", 2⟩
  encoder _ := some (fun texts => some (texts.map (fun _ => [1, 0])))
  vectors := exactVectors unitDistance
  floats := exactFloats

/-- The second chunk comes first. -/
def planeSorted : List (SearchRow Int ExactFloat) :=
  [⟨planeChunk 1 [1, 0], planeDocument, .rational (1 - ((1 : Int) : ℚ))⟩,
    ⟨planeChunk 0 [0, 0], planeDocument, .nan⟩]

theorem plane_embedded :
    embedQuery planeServices planeBases ⟨"admin", "tenant", true⟩ "manuals" "hi" = .ok [1, 0] := rfl

theorem plane_searched :
    Searched planeServices planeTables ⟨"admin", "tenant", true⟩ "manuals" "hi" planeSorted := by
  intro queryEmbedding hembedding
  have hquery := plane_embedded.symm.trans hembedding
  obtain rfl := Except.ok.inj hquery
  have hkey : distanceKey (.rational (1 - ((1 : Int) : ℚ))) ≤ distanceKey .nan := le_top
  exact ⟨List.Perm.swap _ _ [], List.pairwise_pair.mpr hkey⟩

theorem plane_retrieved (topK : Nat) :
    retrieveRelevantChunks planeServices planeTables ⟨"admin", "tenant", true⟩ "manuals" "hi" topK
        (.rational (1 / 2)) planeSorted =
      .ok ((planeSorted.take topK).filterMap (retrieved exactFloats (.rational (1 / 2)))) := rfl

theorem plane_similarity : clampedSimilarity (1 - ((1 : Int) : ℚ)) = 1 := by
  norm_num [clampedSimilarity]

/-- The first row only. -/
theorem plane_first : BestMatches 1 (1 / 2) planeSorted
    ((planeSorted.take 1).filterMap (retrieved exactFloats (.rational (1 / 2)))) := by
  refine (bestMatches_iff ⟨"model", 2⟩ planeServices.encoder unitDistance planeTables
    ⟨"admin", "tenant", true⟩ "manuals" "hi" 1 (1 / 2) (by norm_num) (by norm_num) planeSorted
    plane_searched _ (plane_retrieved 1)).mpr ⟨?_, ?_⟩
  · intro row hrow hnan
    obtain rfl := List.mem_singleton.mp hrow
    cases hnan
  · intro row hrow x hx _
    obtain rfl := List.mem_singleton.mp hrow
    obtain rfl := ExactFloat.rational.inj hx
    rw [plane_similarity, roundTo_one]
    norm_num

/-- The vector of the first chunk has no direction, and its score is 1. -/
theorem nan_is_best :
    retrieveRelevantChunks planeServices planeTables ⟨"admin", "tenant", true⟩ "manuals" "hi" 5
        (.rational (1 / 2)) planeSorted = .ok (planeSorted.map reportedMatch) ∧
      ¬ BestMatches 5 (1 / 2) planeSorted (planeSorted.map reportedMatch) := by
  constructor
  · rw [plane_retrieved, filterMap_retrieved, List.filter_eq_self.mpr]
    · rfl
    · intro row hrow
      refine decide_eq_true ?_
      rcases List.mem_cons.mp hrow with rfl | hrow
      · show (1 / 2 : ℚ) ≤ clampedSimilarity _
        rw [plane_similarity]
        norm_num
      · rw [List.mem_singleton.mp hrow]
        show (1 / 2 : ℚ) ≤ 1
        norm_num
  · intro h
    have hlast : ¬ Qualifies (1 / 2) (⟨planeChunk 0 [0, 0], planeDocument, .nan⟩ :
        SearchRow Int ExactFloat) := by
      norm_num [Qualifies, similarity]
    have hlength := h.rows.length_eq
    have hshort : (planeSorted.filter (fun row => Qualifies (1 / 2) row)).length < 2 := by
      unfold planeSorted
      rw [List.filter_cons, List.filter_cons_of_neg (by simpa using hlast)]
      split <;> simp
    rw [List.length_take] at hlength
    have hboth : (planeSorted.map reportedMatch).length = 2 := rfl
    omega

end DataChat.Documents
