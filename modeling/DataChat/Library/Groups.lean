import DataChat.Library.Dict
import Mathlib.Data.List.Induction

/-!
# Rows gathered by a key

A program that gathers rows in a dictionary either appends each row to the list under its key or
writes it over what the key had. The list under a key is then the rows with that key, in their
order, and the value under a key is that of the last row with the key.

* `getD_foldl_append`, `get_foldl_set`: the two readings.
* `filter_flatMap_of_key`: the rows that came from one of several sources with distinct keys.
* `flatMap_filter_perm`: rows put together again key by key are the same rows.
-/

namespace DataChat.Groups

variable {ρ σ κ ν : Type} [DecidableEq κ]

/-! ## Dictionaries of rows -/

/-- `groups.setdefault(key(row), []).append(value(row))` for each row. -/
theorem getD_foldl_append (key : ρ → κ) (value : ρ → ν) (rows : List ρ) (k : κ) :
    ((rows.foldl (fun d row => d.set (key row) ((d.get (key row)).getD [] ++ [value row]))
      (Dict.empty : Dict κ (List ν))).get k).getD [] =
      (rows.filter (fun row => key row = k)).map value := by
  induction rows using List.reverseRecOn with
  | nil => rfl
  | append_singleton rows row ih =>
    rw [List.foldl_append, List.foldl_cons, List.foldl_nil, List.filter_append, List.map_append]
    by_cases hk : key row = k
    · subst hk
      rw [Dict.get_set_self, Option.getD_some, ih]
      simp
    · rw [Dict.get_set_ne _ _ (Ne.symm hk), ih]
      simp [hk]

/-- `values[key(row)] = value(row)` for each row: the last row with the key is the first one from
the end. -/
theorem get_foldl_set (key : ρ → κ) (value : ρ → ν) (rows : List ρ) (k : κ) :
    (rows.foldl (fun d row => d.set (key row) (value row)) Dict.empty).get k =
      rows.reverse.findSome? (fun row => if key row = k then some (value row) else none) := by
  induction rows using List.reverseRecOn with
  | nil => rfl
  | append_singleton rows row ih =>
    rw [List.foldl_append, List.foldl_cons, List.foldl_nil, Dict.get_set, ih,
      List.reverse_append, List.reverse_singleton, List.singleton_append, List.findSome?_cons]
    by_cases hk : key row = k
    · simp [hk]
    · simp [hk, Ne.symm hk]

/-! ## Rows of several sources -/

variable {keyOf : σ → κ} {sources : List σ} {f : σ → List ρ} {key : ρ → κ}

theorem filter_eq_nil_of_key (hkey : ∀ s ∈ sources, ∀ row ∈ f s, key row = keyOf s) {k : κ}
    (hk : k ∉ sources.map keyOf) : (sources.flatMap f).filter (fun row => key row = k) = [] := by
  rw [List.filter_eq_nil_iff]
  intro row hrow
  obtain ⟨s, hs, hrow⟩ := List.mem_flatMap.mp hrow
  have hne : key row ≠ k := by
    intro he
    exact hk (List.mem_map.mpr ⟨s, hs, (hkey s hs row hrow).symm.trans he⟩)
  simpa using hne

/-- Sources with distinct keys: the rows with the key of one are its own. -/
theorem filter_flatMap_of_key (hnodup : (sources.map keyOf).Nodup)
    (hkey : ∀ s ∈ sources, ∀ row ∈ f s, key row = keyOf s) {s : σ} (hs : s ∈ sources) :
    (sources.flatMap f).filter (fun row => key row = keyOf s) = f s := by
  induction sources with
  | nil => cases hs
  | cons first rest ih =>
    rw [List.map_cons, List.nodup_cons] at hnodup
    have hrest : ∀ s ∈ rest, ∀ row ∈ f s, key row = keyOf s :=
      fun s hs => hkey s (List.mem_cons_of_mem _ hs)
    rw [List.flatMap_cons, List.filter_append]
    rcases List.mem_cons.mp hs with rfl | hs
    · rw [filter_eq_nil_of_key hrest hnodup.1, List.append_nil, List.filter_eq_self]
      intro row hrow
      simpa using hkey s List.mem_cons_self row hrow
    · have hother : (f first).filter (fun row => key row = keyOf s) = [] := by
        rw [List.filter_eq_nil_iff]
        intro row hrow
        have hfirst := hkey first List.mem_cons_self row hrow
        have hne : keyOf first ≠ keyOf s :=
          fun he => hnodup.1 (he ▸ List.mem_map_of_mem hs)
        simpa [hfirst] using hne
      rw [hother, List.nil_append]
      exact ih hnodup.2 hrest hs

/-- All rows, put together key by key. -/
theorem flatMap_filter_perm {keys : List κ} (hnodup : keys.Nodup) {rows : List ρ}
    (hmem : ∀ row ∈ rows, key row ∈ keys) :
    (keys.flatMap (fun k => rows.filter (fun row => key row = k))).Perm rows := by
  induction keys generalizing rows with
  | nil =>
    have hnone : rows = [] := List.eq_nil_iff_forall_not_mem.mpr
      (fun row hrow => List.not_mem_nil (hmem row hrow))
    rw [hnone]
    exact List.Perm.nil
  | cons k keys ih =>
    rw [List.nodup_cons] at hnodup
    -- the other keys find their rows among those that do not have the first key
    have hothers : keys.flatMap (fun k' => rows.filter (fun row => key row = k')) =
        keys.flatMap (fun k' =>
          (rows.filter (fun row => ! decide (key row = k))).filter (fun row => key row = k')) := by
      refine List.flatMap_congr (fun k' hk' => ?_)
      rw [List.filter_filter]
      refine List.filter_congr (fun row _ => ?_)
      by_cases hrow : key row = k'
      · have hne : key row ≠ k := fun he => hnodup.1 (he ▸ hrow ▸ hk')
        simp [hrow, hrow ▸ hne]
      · simp [hrow]
    rw [List.flatMap_cons, hothers]
    have hrest : ∀ row ∈ rows.filter (fun row => ! decide (key row = k)), key row ∈ keys := by
      intro row hrow
      obtain ⟨hrow, hne⟩ := List.mem_filter.mp hrow
      rcases List.mem_cons.mp (hmem row hrow) with he | hk
      · simp [he] at hne
      · exact hk
    exact ((ih hnodup.2 hrest).append_left _).trans
      (List.filter_append_perm (fun row => key row = k) rows)

end DataChat.Groups
