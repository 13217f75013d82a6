import Mathlib.Data.List.Perm.Basic
import Mathlib.Data.List.Sort
import Mathlib.Data.List.TakeWhile

/-!
# Results of sorted queries

A query with `ORDER BY` returns its rows in any order that is sorted by the key: rows with equal
keys may come in either order, and from one execution to the next. `OrderedBy key rows result`
says that `result` is such an order of `rows`.

What a program computes with `findSome?` from the result depends on the order in which ties come.
`findSome?_determined_iff` says exactly when it does not: the rows with the least key among those
that matter must agree. `OrderedBy.findSome?_reverse` and `exists_orderedBy_last` are about what is
found from the end, which is what a dictionary keeps when later rows overwrite earlier ones.
`OrderedBy.forall₂` is about rows that stand for something else with the same order.
-/

namespace DataChat

variable {ρ σ K : Type} [LinearOrder K] {key : ρ → K} {rows : List ρ}

structure OrderedBy (key : ρ → K) (rows result : List ρ) : Prop where
  perm : result.Perm rows
  sorted : result.Pairwise (fun a b => key a ≤ key b)

theorem OrderedBy.mem_iff {result : List ρ} (h : OrderedBy key rows result) {a : ρ} :
    a ∈ result ↔ a ∈ rows := h.perm.mem_iff

theorem orderedBy_nil {result : List ρ} : OrderedBy key [] result ↔ result = [] := by
  constructor
  · intro h
    exact h.perm.eq_nil
  · rintro rfl
    exact ⟨List.Perm.nil, List.Pairwise.nil⟩

/-- The order by a key, as a relation on rows. -/
def keyLe (key : ρ → K) (a b : ρ) : Prop := key a ≤ key b

instance (key : ρ → K) : DecidableRel (keyLe key) := fun a b =>
  inferInstanceAs (Decidable (key a ≤ key b))

instance (key : ρ → K) : Std.Total (keyLe key) := ⟨fun a b => le_total (key a) (key b)⟩

instance (key : ρ → K) : IsTrans ρ (keyLe key) := ⟨fun _ _ _ hab hbc => le_trans hab hbc⟩

/-- A sorted order exists, -/
theorem exists_orderedBy (key : ρ → K) (rows : List ρ) : ∃ result, OrderedBy key rows result :=
  ⟨rows.insertionSort (keyLe key), List.perm_insertionSort _ rows,
    List.pairwise_insertionSort (keyLe key) rows⟩

/-- and each row comes first among its ties in some order. -/
theorem exists_orderedBy_first (key : ρ → K) {a : ρ} (h : a ∈ rows) :
    ∃ front back, OrderedBy key rows (front ++ a :: back) ∧ ∀ b ∈ front, key b < key a := by
  obtain ⟨left, right, rfl⟩ := List.append_of_mem h
  have hsort := List.insertionSort_cons_eq_take_drop (keyLe key) a (left ++ right)
  have hperm := List.perm_insertionSort (keyLe key) (a :: (left ++ right))
  have hsorted := List.pairwise_insertionSort (keyLe key) (a :: (left ++ right))
  rw [hsort] at hperm hsorted
  refine ⟨((left ++ right).insertionSort (keyLe key)).takeWhile (fun b => ¬ keyLe key a b),
    ((left ++ right).insertionSort (keyLe key)).dropWhile (fun b => ¬ keyLe key a b),
    ⟨hperm.trans List.perm_middle.symm, hsorted⟩, ?_⟩
  · intro b hb
    have hb' := List.mem_takeWhile_imp hb
    simpa [keyLe] using hb'

/-! ## The first row that matters -/

variable {f : ρ → Option σ}

/-- What `findSome?` finds comes from a row with the least key. -/
theorem OrderedBy.findSome?_eq_some {result : List ρ} (h : OrderedBy key rows result) {v : σ}
    (hv : result.findSome? f = some v) :
    ∃ a ∈ rows, f a = some v ∧ ∀ b ∈ rows, f b ≠ none → key a ≤ key b := by
  obtain ⟨front, a, back, rfl, ha, hfront⟩ := List.findSome?_eq_some_iff.mp hv
  have hmem : a ∈ rows := h.mem_iff.mp (by simp)
  refine ⟨a, hmem, ha, fun b hb hfb => ?_⟩
  rcases List.mem_append.mp (h.mem_iff.mpr hb) with hb | hb
  · exact absurd (hfront b hb) hfb
  · rcases List.mem_cons.mp hb with rfl | hb
    · exact le_refl _
    · exact List.rel_of_pairwise_cons (List.pairwise_append.mp h.sorted).2.1 hb

theorem OrderedBy.findSome?_eq_none {result : List ρ} (h : OrderedBy key rows result) :
    result.findSome? f = none ↔ ∀ a ∈ rows, f a = none := by
  rw [List.findSome?_eq_none_iff]
  exact forall_congr' (fun a => by rw [h.mem_iff])

/-- A row that is first among its ties, and has nothing that matters before it, is found. -/
theorem findSome?_of_first {front back : List ρ} {a : ρ} {v : σ} (ha : f a = some v)
    (hfront : ∀ b ∈ front, f b = none) : (front ++ a :: back).findSome? f = some v :=
  List.findSome?_eq_some_iff.mpr ⟨front, a, back, rfl, ha, hfront⟩

/-- All sorted orders give the same exactly when the rows with the least key among those that
matter agree. -/
theorem findSome?_determined_iff :
    (∀ result result', OrderedBy key rows result → OrderedBy key rows result' →
      result.findSome? f = result'.findSome? f) ↔
    ∀ a ∈ rows, ∀ b ∈ rows, key a = key b → f a ≠ none → f b ≠ none →
      (∀ c ∈ rows, f c ≠ none → key a ≤ key c) → f a = f b := by
  constructor
  · intro hall a ha b hb hkey hfa hfb hleast
    -- one order has `a` first, another has `b` first
    have hfind : ∀ c ∈ rows, key c = key a → f c ≠ none →
        ∃ result, OrderedBy key rows result ∧ result.findSome? f = f c := by
      intro c hc hck hfc
      obtain ⟨front, back, hordered, hfront⟩ := exists_orderedBy_first key hc
      obtain ⟨v, hv⟩ := Option.ne_none_iff_exists'.mp hfc
      refine ⟨_, hordered, ?_⟩
      rw [hv]
      refine findSome?_of_first hv (fun d hd => ?_)
      by_contra hfd
      have hdrows : d ∈ rows := hordered.mem_iff.mp (List.mem_append_left _ hd)
      have hle := hleast d hdrows hfd
      rw [← hck] at hle
      exact absurd (hfront d hd) (not_lt_of_ge hle)
    obtain ⟨resultA, horderedA, hA⟩ := hfind a ha rfl hfa
    obtain ⟨resultB, horderedB, hB⟩ := hfind b hb hkey.symm hfb
    rw [← hA, ← hB]
    exact hall resultA resultB horderedA horderedB
  · intro hagree result result' hresult hresult'
    cases hv : result.findSome? f with
    | none =>
      exact (hresult'.findSome?_eq_none.mpr (hresult.findSome?_eq_none.mp hv)).symm
    | some v =>
      cases hv' : result'.findSome? f with
      | none =>
        rw [hresult.findSome?_eq_none.mpr (hresult'.findSome?_eq_none.mp hv')] at hv
        cases hv
      | some v' =>
        obtain ⟨a, ha, hfa, hleast⟩ := hresult.findSome?_eq_some hv
        obtain ⟨b, hb, hfb, hleast'⟩ := hresult'.findSome?_eq_some hv'
        have hna : f a ≠ none := by simp [hfa]
        have hnb : f b ≠ none := by simp [hfb]
        have hkey := le_antisymm (hleast b hb hnb) (hleast' a ha hna)
        rw [← hfa, ← hfb]
        exact hagree a ha b hb hkey hna hnb hleast

/-! ## The last row that matters -/

theorem OrderedBy.reverse {result : List ρ} (h : OrderedBy key rows result) :
    OrderedBy (fun a => OrderDual.toDual (key a)) rows result.reverse where
  perm := (List.reverse_perm result).trans h.perm
  sorted := List.pairwise_reverse.mpr (h.sorted.imp (fun hab => OrderDual.toDual_le_toDual.mpr hab))

/-- What is found from the end comes from a row with the greatest key. -/
theorem OrderedBy.findSome?_reverse {result : List ρ} (h : OrderedBy key rows result) {v : σ}
    (hv : result.reverse.findSome? f = some v) :
    ∃ a ∈ rows, f a = some v ∧ ∀ b ∈ rows, f b ≠ none → key b ≤ key a :=
  h.reverse.findSome?_eq_some hv

/-- Each row with the greatest key among those that matter is found from the end of some order. -/
theorem exists_orderedBy_last {a : ρ} (h : a ∈ rows)
    (hgreatest : ∀ b ∈ rows, f b ≠ none → key b ≤ key a) {v : σ} (ha : f a = some v) :
    ∃ result, OrderedBy key rows result ∧ result.reverse.findSome? f = some v := by
  obtain ⟨front, back, hordered, hfront⟩ :=
    exists_orderedBy_first (fun a => OrderDual.toDual (key a)) h
  have hnone : ∀ b ∈ front, f b = none := by
    intro b hb
    by_contra hfb
    have hle := hgreatest b (hordered.mem_iff.mp (List.mem_append_left _ hb)) hfb
    exact absurd (OrderDual.toDual_lt_toDual.mp (hfront b hb)) (not_lt_of_ge hle)
  refine ⟨(front ++ a :: back).reverse, ⟨(List.reverse_perm _).trans hordered.perm, ?_⟩, ?_⟩
  · exact List.pairwise_reverse.mpr
      (hordered.sorted.imp (fun hab => OrderDual.toDual_le_toDual.mp hab))
  · rw [List.reverse_reverse]
    exact findSome?_of_first ha hnone

/-! ## Rows with distinct keys -/

/-- There is one order of rows whose keys are distinct. -/
theorem OrderedBy.eq_of_injOn {result result' : List ρ} (h : OrderedBy key rows result)
    (h' : OrderedBy key rows result') (hkey : ∀ a ∈ rows, ∀ b ∈ rows, key a = key b → a = b) :
    result = result' := by
  refine List.Perm.eq_of_pairwise ?_ h.sorted h'.sorted (h.perm.trans h'.perm.symm)
  intro a b ha hb hab hba
  exact hkey a (h.mem_iff.mp ha) b (h'.mem_iff.mp hb) (le_antisymm hab hba)

/-- Rows that are strictly sorted come as they are. -/
theorem OrderedBy.eq_self {result : List ρ} (h : OrderedBy key rows result)
    (hrows : rows.Pairwise (fun a b => key a < key b)) : result = rows := by
  refine h.eq_of_injOn ⟨List.Perm.refl rows, hrows.imp le_of_lt⟩ ?_
  have hnodup : (rows.map key).Nodup := List.pairwise_map.mpr (hrows.imp ne_of_lt)
  intro a ha b hb hab
  exact List.inj_on_of_nodup_map hnodup ha hb hab

theorem OrderedBy.filter {result : List ρ} (h : OrderedBy key rows result) (p : ρ → Bool) :
    OrderedBy key (rows.filter p) (result.filter p) where
  perm := h.perm.filter p
  sorted := h.sorted.filter p

/-! ## Rows that stand for others -/

section Related

variable {τ K' : Type} [LinearOrder K'] {key' : τ → K'} {R : ρ → τ → Prop}

/-- What sorted rows stand for is sorted. -/
theorem pairwise_of_forall₂ {result : List ρ} {found : List τ}
    (hkey : ∀ a b a' b', R a b → R a' b' → key a ≤ key a' → key' b ≤ key' b')
    (hrelated : List.Forall₂ R result found)
    (hsorted : result.Pairwise (fun a a' => key a ≤ key a')) :
    found.Pairwise (fun b b' => key' b ≤ key' b') := by
  obtain ⟨hlength, hget⟩ := List.forall₂_iff_get.mp hrelated
  rw [List.pairwise_iff_getElem] at hsorted ⊢
  intro i j hi hj hij
  have hi' : i < result.length := by omega
  have hj' : j < result.length := by omega
  exact hkey _ _ _ _ (hget i hi' hi) (hget j hj' hj) (hsorted i j hi' hj' hij)

/-- The rows of a sorted query stand, in their order, for what the rows stand for. -/
theorem OrderedBy.forall₂ {result : List ρ} (h : OrderedBy key rows result) {found : List τ}
    (hrelated : List.Forall₂ R rows found)
    (hkey : ∀ a b a' b', R a b → R a' b' → key a ≤ key a' → key' b ≤ key' b') :
    ∃ sorted, OrderedBy key' found sorted ∧ List.Forall₂ R result sorted := by
  obtain ⟨sorted, hresult, hperm⟩ := List.perm_comp_forall₂ h.perm hrelated
  exact ⟨sorted, ⟨hperm, pairwise_of_forall₂ hkey hresult h.sorted⟩, hresult⟩

end Related

end DataChat
