import DataChat.Library.Rose
import Mathlib.Data.List.MinMax

/-!
# Document order and levels

A level-order walk visits the nodes of a tree by their depth, and those of one depth in document
order. What it collects is therefore known from the document order and the depths alone
(`walk_filterMap`), so that the walk of a tree whose branches have been moved down can be told
without building that tree.

* `Cursor.documentOrder`: a node before the nodes below it, these from left to right.
* `Rose.nodes`: the nodes in document order, without their places.
* `Rose.located`: what a tree holds, in document order, with the depths.
* `byLevel`: a list of things with their depths, sorted by depth and otherwise as it was.
-/

namespace DataChat

variable {α β : Type}

/-! ## Sorting by depth -/

def atLevel (ps : List (Nat × β)) (n : Nat) : List β :=
  (ps.filter (fun p => p.1 = n)).map Prod.snd

def byLevel (ps : List (Nat × β)) : List β :=
  (List.range ((ps.map Prod.fst).foldr max 0 + 1)).flatMap (atLevel ps)

theorem lt_bound {ps : List (Nat × β)} {p : Nat × β} (h : p ∈ ps) :
    p.1 < (ps.map Prod.fst).foldr max 0 + 1 :=
  Nat.lt_succ_of_le (List.le_max_of_le' 0 (List.mem_map.mpr ⟨p, h, rfl⟩) (Nat.le_refl _))

theorem atLevel_append (ps qs : List (Nat × β)) (n : Nat) :
    atLevel (ps ++ qs) n = atLevel ps n ++ atLevel qs n := by
  unfold atLevel
  rw [List.filter_append, List.map_append]

theorem atLevel_flatMap (f : α → List (Nat × β)) (cs : List α) (n : Nat) :
    atLevel (cs.flatMap f) n = cs.flatMap (fun c => atLevel (f c) n) := by
  induction cs with
  | nil => rfl
  | cons c cs ih => rw [List.flatMap_cons, List.flatMap_cons, atLevel_append, ih]

theorem atLevel_eq_nil {ps : List (Nat × β)} {n : Nat} (h : ∀ p ∈ ps, p.1 ≠ n) :
    atLevel ps n = [] := by
  unfold atLevel
  rw [List.map_eq_nil_iff, List.filter_eq_nil_iff]
  intro p hp heq
  exact h p hp (of_decide_eq_true heq)

/-- Levels that are not reached add nothing. -/
theorem flatMap_range_add {ps : List (Nat × β)} {m : Nat} (h : ∀ p ∈ ps, p.1 < m) (k : Nat) :
    (List.range (m + k)).flatMap (atLevel ps) = (List.range m).flatMap (atLevel ps) := by
  induction k with
  | zero => rfl
  | succ k ih =>
    have hempty : atLevel ps (m + k) = [] := by
      refine atLevel_eq_nil (fun p hp => ?_)
      have hlt := h p hp
      omega
    rw [← Nat.add_assoc, List.range_succ, List.flatMap_append, ih, List.flatMap_singleton, hempty,
      List.append_nil]

theorem byLevel_eq {ps : List (Nat × β)} {m : Nat} (h : ∀ p ∈ ps, p.1 < m) :
    byLevel ps = (List.range m).flatMap (atLevel ps) := by
  unfold byLevel
  rcases Nat.le_total ((ps.map Prod.fst).foldr max 0 + 1) m with hle | hle
  · obtain ⟨k, rfl⟩ := Nat.exists_eq_add_of_le hle
    exact (flatMap_range_add (fun p hp => lt_bound hp) k).symm
  · obtain ⟨k, hk⟩ := Nat.exists_eq_add_of_le hle
    rw [hk]
    exact flatMap_range_add h k

theorem mem_byLevel {ps : List (Nat × β)} {b : β} : b ∈ byLevel ps ↔ ∃ p ∈ ps, p.2 = b := by
  unfold byLevel atLevel
  simp only [List.mem_flatMap, List.mem_range, List.mem_map, List.mem_filter, decide_eq_true_eq]
  constructor
  · rintro ⟨n, -, p, ⟨hp, -⟩, rfl⟩
    exact ⟨p, hp, rfl⟩
  · rintro ⟨p, hp, rfl⟩
    exact ⟨p.1, lt_bound hp, p, ⟨hp, rfl⟩, rfl⟩

/-! ## Document order -/

namespace Rose

mutual

def documentOrder : Rose α → List (Step α) → List (Cursor α)
  | node a cs, above => ⟨node a cs, above⟩ :: documentOrderAll (node a cs) above 0 cs

def documentOrderAll (parent : Rose α) (above : List (Step α)) :
    Nat → List (Rose α) → List (Cursor α)
  | _, [] => []
  | i, c :: cs =>
    documentOrder c (⟨parent, i⟩ :: above) ++ documentOrderAll parent above (i + 1) cs

end

theorem documentOrderAll_eq (parent : Rose α) (above : List (Step α)) (n : Nat)
    (cs : List (Rose α)) :
    documentOrderAll parent above n cs =
      (cs.mapIdx (fun i c => documentOrder c (⟨parent, n + i⟩ :: above))).flatten := by
  induction cs generalizing n with
  | nil => rfl
  | cons c cs ih =>
    have hshift : ∀ i, n + 1 + i = n + (i + 1) := by
      intro i
      omega
    rw [documentOrderAll, ih, List.mapIdx_cons, List.flatten_cons]
    simp only [hshift, Nat.add_zero]

end Rose

/-- The cursor and those below it. -/
def Cursor.documentOrder (c : Cursor α) : List (Cursor α) := c.node.documentOrder c.above

theorem Cursor.documentOrder_eq (c : Cursor α) :
    c.documentOrder = c :: c.down.flatMap documentOrder := by
  obtain ⟨⟨a, cs⟩, above⟩ := c
  unfold documentOrder
  rw [Rose.documentOrder, Rose.documentOrderAll_eq, List.flatMap_def]
  simp only [down, Rose.children_node, map_mapIdx, Nat.zero_add]
  rfl

theorem Cursor.self_mem_documentOrder (c : Cursor α) : c ∈ c.documentOrder := by
  rw [documentOrder_eq]
  exact List.mem_cons_self

theorem Cursor.documentOrder_down {c d : Cursor α} (hd : d ∈ c.down) {e : Cursor α}
    (he : e ∈ d.documentOrder) : e ∈ c.documentOrder := by
  rw [documentOrder_eq]
  exact List.mem_cons_of_mem _ (List.mem_flatMap.mpr ⟨d, hd, he⟩)

theorem Cursor.mem_documentOrder_down (c : Cursor α) :
    ∀ d ∈ c.documentOrder, ∀ e ∈ d.down, e ∈ c.documentOrder := by
  refine down_induction (P := fun c => ∀ d ∈ c.documentOrder, ∀ e ∈ d.down,
    e ∈ c.documentOrder) (fun c ih d hd e he => ?_) c
  rw [documentOrder_eq] at hd
  rcases List.mem_cons.mp hd with rfl | hd
  · exact documentOrder_down he (self_mem_documentOrder e)
  · obtain ⟨b, hb, hd⟩ := List.mem_flatMap.mp hd
    exact documentOrder_down hb (ih b hb d hd e he)

/-- The document order has all cursors of a tree. -/
theorem Cursor.mem_documentOrder {t : Rose α} {c : Cursor α} :
    c ∈ (root t).documentOrder ↔ Within t c := by
  constructor
  · suffices hall : ∀ d, Within t d → ∀ e ∈ d.documentOrder, Within t e from
      hall _ .root c
    refine down_induction (fun d ih hd e he => ?_)
    rw [documentOrder_eq] at he
    rcases List.mem_cons.mp he with rfl | he
    · exact hd
    · obtain ⟨f, hf, he⟩ := List.mem_flatMap.mp he
      exact ih f hf (.down hd hf) e he
  · intro h
    induction h with
    | root => exact self_mem_documentOrder _
    | @down d e _ he ih => exact mem_documentOrder_down _ d ih e he

/-- The nodes of a tree, in document order. -/
def Rose.nodes (t : Rose α) : List (Rose α) := (Cursor.root t).documentOrder.map Cursor.node

theorem Cursor.map_node_of_down {c : Cursor α}
    (h : ∀ d ∈ c.down, d.documentOrder.map node = d.node.nodes) :
    c.documentOrder.map node = c.node :: c.node.children.flatMap Rose.nodes := by
  rw [documentOrder_eq, List.map_cons, List.map_flatMap, ← map_node_down, List.flatMap_map]
  exact congrArg _ (List.flatMap_congr h)

/-- Which nodes stand below a cursor does not depend on its place. -/
theorem Cursor.map_node_documentOrder (c : Cursor α) : c.documentOrder.map node = c.node.nodes := by
  obtain ⟨t, above⟩ := c
  induction t using Rose.induction generalizing above with
  | hnode a cs ih =>
    have hdown : ∀ steps, ∀ d ∈ (Cursor.mk (.node a cs) steps).down,
        d.documentOrder.map node = d.node.nodes := by
      intro steps d hd
      obtain ⟨i, t, ht, rfl⟩ := mem_down.mp hd
      exact ih t (List.mem_of_getElem? ht) _
    exact (map_node_of_down (hdown above)).trans (map_node_of_down (hdown [])).symm

theorem Rose.nodes_node (a : α) (cs : List (Rose α)) :
    (node a cs).nodes = node a cs :: cs.flatMap nodes :=
  Cursor.map_node_of_down (c := Cursor.root (node a cs))
    (fun d _ => d.map_node_documentOrder)

/-! ## What a walk collects -/

namespace Rose

/-- What `g` finds in the labels, in document order, with depths that count from `n` on. -/
def located (g : α → Option β) (n : Nat) (t : Rose α) : List (Nat × β) :=
  fold (fun (a : α) (cs : List (α × (Nat → List (Nat × β)))) (m : Nat) =>
    (g a).toList.map (Prod.mk m) ++ cs.flatMap (fun c => c.2 (m + 1))) t n

theorem located_node (g : α → Option β) (n : Nat) (a : α) (cs : List (Rose α)) :
    located g n (node a cs) =
      (g a).toList.map (Prod.mk n) ++ cs.flatMap (located g (n + 1)) := by
  unfold located
  rw [fold_node, List.flatMap_map]

theorem located_bounds {g : α → Option β} {t : Rose α} :
    ∀ n, ∀ p ∈ located g n t, n ≤ p.1 ∧ p.1 < n + t.height := by
  induction t using Rose.induction with
  | hnode a cs ih =>
    intro n p hp
    rw [located_node] at hp
    rcases List.mem_append.mp hp with hp | hp
    · obtain ⟨b, -, rfl⟩ := List.mem_map.mp hp
      have hpos := height_pos (node a cs)
      dsimp only
      omega
    · obtain ⟨c, hc, hp⟩ := List.mem_flatMap.mp hp
      have hbound := ih c hc (n + 1) p hp
      have hheight := height_child_lt (a := a) hc
      omega

/-- The labels at a depth, from left to right. -/
def labelsAt : Nat → Rose α → List α
  | 0, t => [t.label]
  | n + 1, t => t.children.flatMap (labelsAt n)

theorem atLevel_own (g : α → Option β) (n : Nat) (a : α) :
    atLevel ((g a).toList.map (Prod.mk n)) n = (g a).toList := by
  cases g a with
  | none => rfl
  | some b => simp [atLevel]

theorem atLevel_located (g : α → Option β) (n k : Nat) (t : Rose α) :
    atLevel (located g n t) (n + k) = (labelsAt k t).filterMap g := by
  induction t using Rose.induction generalizing n k with
  | hnode a cs ih =>
    rw [located_node, atLevel_append, atLevel_flatMap]
    cases k with
    | zero =>
      have hbelow : cs.flatMap (fun c => atLevel (located g (n + 1) c) n) = [] := by
        refine List.flatMap_eq_nil_iff.mpr (fun c _ => atLevel_eq_nil (fun p hp => ?_))
        have hbound := located_bounds (n + 1) p hp
        omega
      show atLevel _ n ++ cs.flatMap (fun c => atLevel (located g (n + 1) c) n) = _
      rw [hbelow, List.append_nil, atLevel_own]
      cases hg : g a <;> simp [labelsAt, hg]
    | succ k =>
      have hown : atLevel ((g a).toList.map (Prod.mk n)) (n + (k + 1)) = [] := by
        refine atLevel_eq_nil (fun p hp => ?_)
        obtain ⟨b, -, rfl⟩ := List.mem_map.mp hp
        dsimp only
        omega
      have hlevel : n + (k + 1) = n + 1 + k := by omega
      rw [hown, List.nil_append, labelsAt, children_node, hlevel, List.filterMap_flatMap]
      exact List.flatMap_congr (fun c hc => ih c hc (n + 1) k)

theorem walkLevels_labels (n : Nat) (cs : List (Cursor α)) :
    (walkLevels n cs).map (fun c => c.node.label) =
      (List.range n).flatMap (fun k => cs.flatMap (fun c => labelsAt k c.node)) := by
  induction n generalizing cs with
  | zero => rfl
  | succ n ih =>
    have hbelow : ∀ k, (levelBelow cs).flatMap (fun c => labelsAt k c.node) =
        cs.flatMap (fun c => labelsAt (k + 1) c.node) := by
      intro k
      unfold levelBelow
      rw [List.flatMap_assoc]
      refine List.flatMap_congr (fun c _ => ?_)
      rw [labelsAt, ← Cursor.map_node_down, List.flatMap_map]
    rw [walkLevels, List.map_append, ih, List.range_succ_eq_map, List.flatMap_cons,
      List.flatMap_map]
    congr 1
    · exact List.map_eq_flatMap
    · exact List.flatMap_congr (fun k _ => hbelow k)

/-- What a walk collects from the labels stands in document order, sorted by depth. -/
theorem walk_filterMap (g : α → Option β) (t : Rose α) :
    t.walk.filterMap (fun c => g c.node.label) = byLevel (located g 0 t) := by
  have hbound : ∀ p ∈ located g 0 t, p.1 < t.height := by
    intro p hp
    have hlt := located_bounds 0 p hp
    omega
  have hlevel : ∀ k, atLevel (located g 0 t) k = (labelsAt k t).filterMap g := by
    intro k
    have hk := atLevel_located g 0 k t
    rwa [Nat.zero_add] at hk
  have hlabels := walkLevels_labels t.height [Cursor.root t]
  have hmap : t.walk.filterMap (fun c => g c.node.label) =
      (t.walk.map (fun c => c.node.label)).filterMap g := by
    rw [List.filterMap_map]
    rfl
  rw [byLevel_eq hbound, hmap]
  unfold walk
  rw [hlabels, List.filterMap_flatMap]
  refine List.flatMap_congr (fun k _ => ?_)
  rw [List.flatMap_singleton, hlevel]
  rfl

end Rose

end DataChat
