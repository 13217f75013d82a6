import Mathlib.Data.List.Nodup
import Mathlib.Data.List.Basic
import Mathlib.Data.List.Perm.Subperm

/-!
# Insertion-ordered dictionaries

`Dict κ ν` is a list of key/value pairs whose keys are distinct, with the operations of a
Python `dict`: assignment replaces a value in place and appends a new key at the end, so
iteration follows the order of first insertion. The distinctness of the keys is a field, so
every dictionary that can be built has it.

* `nodup_of_nodup_subset`: a list with as many distinct members as entries has no repetition.
* `get_eq_some_iff`: lookup is membership of the pair.
* `get_set`: what a lookup finds after an assignment.
* `get_filterItems`: what a lookup finds after entries have been deleted.
-/

namespace DataChat

/-- A list no longer than a list of distinct members of it. -/
theorem nodup_of_nodup_subset {α : Type} {part whole : List α} (hpart : part.Nodup)
    (hsub : part ⊆ whole) (hlength : whole.length ≤ part.length) : whole.Nodup :=
  ((List.subperm_of_subset hpart hsub).perm_of_length_le hlength).nodup_iff.mp hpart

structure Dict (κ ν : Type) where
  items : List (κ × ν)
  nodup : (items.map Prod.fst).Nodup

namespace Dict

variable {κ ν : Type}

def empty : Dict κ ν := ⟨[], List.nodup_nil⟩

def keys (d : Dict κ ν) : List κ := d.items.map Prod.fst

def values (d : Dict κ ν) : List ν := d.items.map Prod.snd

/-- `{key: value for key, value in d.items() if p(key, value)}`. -/
def filterItems (d : Dict κ ν) (p : κ × ν → Bool) : Dict κ ν :=
  ⟨d.items.filter p, (List.filter_sublist.map Prod.fst).nodup d.nodup⟩

variable [DecidableEq κ]

/-- `d.get(key)`. -/
def get (d : Dict κ ν) (k : κ) : Option ν := (d.items.find? (fun p => p.1 = k)).map Prod.snd

/-- `d[key] = value`. -/
def set (d : Dict κ ν) (k : κ) (v : ν) : Dict κ ν :=
  if h : k ∈ d.items.map Prod.fst then
    ⟨d.items.map (fun p => if p.1 = k then (p.1, v) else p), by
      have hkeys : (d.items.map (fun p => if p.1 = k then (p.1, v) else p)).map Prod.fst =
          d.items.map Prod.fst := by
        rw [List.map_map]
        refine List.map_congr_left (fun p _ => ?_)
        simp only [Function.comp_apply]
        split <;> rfl
      rw [hkeys]
      exact d.nodup⟩
  else
    ⟨d.items ++ [(k, v)], by
      rw [List.map_append]
      refine List.Nodup.append d.nodup (List.nodup_singleton k) ?_
      intro a ha hk
      rw [List.mem_singleton.mp hk] at ha
      exact h ha⟩

theorem get_eq_some_iff (d : Dict κ ν) (k : κ) (v : ν) :
    d.get k = some v ↔ (k, v) ∈ d.items := by
  obtain ⟨items, hnodup⟩ := d
  unfold get
  induction items with
  | nil => simp
  | cons p rest ih =>
    obtain ⟨k', v'⟩ := p
    simp only [List.map_cons, List.nodup_cons] at hnodup
    by_cases hk : k' = k
    · subst hk
      have hrest : (k', v) ∉ rest := fun hmem => hnodup.1 (List.mem_map.mpr ⟨(k', v), hmem, rfl⟩)
      simp [hrest, eq_comm]
    · have hne : (k, v) ≠ (k', v') := fun he => hk (Prod.mk.inj he).1.symm
      rw [List.find?_cons_of_neg (by simpa using hk), List.mem_cons, or_iff_right hne]
      exact ih hnodup.2

theorem get_eq_none_iff (d : Dict κ ν) (k : κ) : d.get k = none ↔ k ∉ d.keys := by
  simp only [get, Option.map_eq_none_iff, List.find?_eq_none, decide_eq_true_eq, keys,
    List.mem_map, not_exists, not_and]

theorem mem_values_of_get {d : Dict κ ν} {k : κ} {v : ν} (h : d.get k = some v) :
    v ∈ d.values :=
  List.mem_map.mpr ⟨(k, v), (get_eq_some_iff d k v).mp h, rfl⟩

@[simp] theorem get_empty (k : κ) : (empty : Dict κ ν).get k = none := rfl

theorem mem_items_set (d : Dict κ ν) (k : κ) (v : ν) (p : κ × ν) :
    p ∈ (d.set k v).items ↔ p = (k, v) ∨ (p.1 ≠ k ∧ p ∈ d.items) := by
  unfold set
  split
  · rename_i hk
    constructor
    · intro hp
      obtain ⟨q, hq, rfl⟩ := List.mem_map.mp hp
      split
      · rename_i hqk
        exact Or.inl (by rw [hqk])
      · rename_i hqk
        exact Or.inr ⟨hqk, hq⟩
    · rintro (rfl | ⟨hne, hp⟩)
      · obtain ⟨q, hq, hqk⟩ := List.mem_map.mp hk
        exact List.mem_map.mpr ⟨q, hq, by simp [hqk]⟩
      · exact List.mem_map.mpr ⟨p, hp, by simp [hne]⟩
  · rename_i hk
    rw [List.mem_append, List.mem_singleton]
    constructor
    · rintro (hp | rfl)
      · exact Or.inr ⟨fun he => hk (he ▸ List.mem_map.mpr ⟨p, hp, rfl⟩), hp⟩
      · exact Or.inl rfl
    · rintro (rfl | ⟨_, hp⟩)
      · exact Or.inr rfl
      · exact Or.inl hp

/-- A new key comes last. -/
theorem items_set_of_new (d : Dict κ ν) {k : κ} (v : ν) (h : k ∉ d.keys) :
    (d.set k v).items = d.items ++ [(k, v)] := by
  unfold keys at h
  unfold set
  rw [dif_neg h]

/-- A key is new when it is yet to come among distinct keys. -/
theorem items_set_of_nodup (d : Dict κ ν) {k : κ} (v : ν) {rest : List κ}
    (h : (d.keys ++ k :: rest).Nodup) : (d.set k v).items = d.items ++ [(k, v)] := by
  refine items_set_of_new d v (fun hmem => ?_)
  have hcons := List.nodup_cons.mp (List.nodup_middle.mp h)
  exact hcons.1 (List.mem_append_left _ hmem)

theorem get_set (d : Dict κ ν) (k k' : κ) (v : ν) :
    (d.set k v).get k' = if k' = k then some v else d.get k' := by
  refine Option.ext (fun w => ?_)
  rw [get_eq_some_iff, mem_items_set]
  by_cases hk : k' = k
  · subst hk
    simp [eq_comm]
  · simp only [hk, if_false, Prod.mk.injEq, false_and, false_or, ne_eq, not_false_eq_true,
      true_and, get_eq_some_iff]

@[simp] theorem get_set_self (d : Dict κ ν) (k : κ) (v : ν) : (d.set k v).get k = some v := by
  simp [get_set]

theorem get_set_ne (d : Dict κ ν) {k k' : κ} (v : ν) (h : k' ≠ k) :
    (d.set k v).get k' = d.get k' := by
  simp [get_set, h]

theorem get_filterItems (d : Dict κ ν) (p : κ × ν → Bool) (k : κ) :
    (d.filterItems p).get k = (d.get k).filter (fun v => p (k, v)) := by
  refine Option.ext (fun v => ?_)
  rw [get_eq_some_iff, Option.filter_eq_some_iff, get_eq_some_iff]
  simp [filterItems]

end Dict

end DataChat
