import Mathlib.Data.List.Basic
import Mathlib.Data.List.Flatten
import Mathlib.Data.List.Pairwise

/-!
# Rose trees, their occurrences and their level-order walk

A `Rose α` is a node with a label and a list of children. What a program asks about a node
of a tree often depends on where the node stands, so the walk visits `Cursor`s: a node
together with the steps that lead from it up to the root.

* `Rose.fold`: the catamorphism, the only recursion the users of this file need.
* `Rose.walk`: every occurrence of a node, level by level and left to right, which is the
  order of a breadth-first traversal with a queue.
* `mem_walk`: the walk visits exactly the cursors reachable from the root by going down.
* `walk_sorted`: the walk never visits a shallower node after a deeper one.
* `cursor_ext`: within one tree a cursor is determined by its address.
* `Cursor.rebuild`: rewriting a tree from the leaves up, where a node's rewriting may depend on
  its place; `rebuild_eq_self` says when nothing changes.
* `forall_walk_node`: what holds of all nodes holds of the root and of the nodes of all
  children.
-/

namespace DataChat

inductive Rose (α : Type) where
  | node (label : α) (children : List (Rose α))

namespace Rose

variable {α β : Type}

def label : Rose α → α
  | node a _ => a

def children : Rose α → List (Rose α)
  | node _ cs => cs

@[simp] theorem label_node (a : α) (cs : List (Rose α)) : (node a cs).label = a := rfl

@[simp] theorem children_node (a : α) (cs : List (Rose α)) : (node a cs).children = cs := rfl

theorem node_label_children (t : Rose α) : node t.label t.children = t := by
  cases t
  rfl

/-- A property that passes from the children to their parent holds of every tree. -/
theorem induction {P : Rose α → Prop}
    (hnode : ∀ a cs, (∀ c ∈ cs, P c) → P (node a cs)) : ∀ t, P t := by
  intro t
  refine Rose.rec (motive_1 := P) (motive_2 := fun cs => ∀ c ∈ cs, P c) ?_ ?_ ?_ t
  · intro a cs ih
    exact hnode a cs ih
  · simp
  · intro c cs hc hcs d hd
    rcases List.mem_cons.mp hd with rfl | hd
    · exact hc
    · exact hcs d hd

mutual

def decEq [DecidableEq α] : (s t : Rose α) → Decidable (s = t)
  | node a cs, node b ds =>
    if hab : a = b then
      match decEqAll cs ds with
      | isTrue h => isTrue (by rw [hab, h])
      | isFalse h => isFalse (fun he => h (Rose.node.inj he).2)
    else isFalse (fun he => hab (Rose.node.inj he).1)

def decEqAll [DecidableEq α] : (cs ds : List (Rose α)) → Decidable (cs = ds)
  | [], [] => isTrue rfl
  | [], _ :: _ => isFalse (fun h => by cases h)
  | _ :: _, [] => isFalse (fun h => by cases h)
  | c :: cs, d :: ds =>
    match decEq c d with
    | isTrue hc =>
      match decEqAll cs ds with
      | isTrue hcs => isTrue (by rw [hc, hcs])
      | isFalse hcs => isFalse (fun he => hcs (List.cons.inj he).2)
    | isFalse hc => isFalse (fun he => hc (List.cons.inj he).1)

end

instance [DecidableEq α] : DecidableEq (Rose α) := decEq

/-! ## The catamorphism -/

mutual

/-- `f` receives the label of a node and, for each child, the child's label and result. -/
def fold (f : α → List (α × β) → β) : Rose α → β
  | node a cs => f a (foldAll f cs)

def foldAll (f : α → List (α × β) → β) : List (Rose α) → List (α × β)
  | [] => []
  | c :: cs => (c.label, fold f c) :: foldAll f cs

end

theorem foldAll_eq_map (f : α → List (α × β) → β) (cs : List (Rose α)) :
    foldAll f cs = cs.map (fun c => (c.label, fold f c)) := by
  induction cs with
  | nil => rfl
  | cons c cs ih => simp only [foldAll, ih, List.map_cons]

theorem fold_node (f : α → List (α × β) → β) (a : α) (cs : List (Rose α)) :
    fold f (node a cs) = f a (cs.map (fun c => (c.label, fold f c))) := by
  rw [fold, foldAll_eq_map]

/-- The number of levels of a tree. -/
def height : Rose α → Nat := fold (fun _ cs => (cs.map Prod.snd).foldr max 0 + 1)

theorem height_child_lt {a : α} {cs : List (Rose α)} {c : Rose α} (hc : c ∈ cs) :
    c.height < (node a cs).height := by
  unfold height
  rw [fold_node]
  simp only [List.map_map]
  refine Nat.lt_succ_of_le ?_
  induction cs with
  | nil => cases hc
  | cons d ds ih =>
    rw [List.map_cons, List.foldr_cons]
    rcases List.mem_cons.mp hc with rfl | hc
    · exact Nat.le_max_left _ _
    · exact Nat.le_trans (ih hc) (Nat.le_max_right _ _)

end Rose

/-! ## Cursors -/

/-- One step up: the parent and the place of the child in it. -/
structure Step (α : Type) where
  parent : Rose α
  index : Nat
deriving DecidableEq

/-- A node of a tree and the steps from it to the root, innermost first. -/
structure Cursor (α : Type) where
  node : Rose α
  above : List (Step α)
deriving DecidableEq

namespace Cursor

variable {α : Type}

def root (t : Rose α) : Cursor α := ⟨t, []⟩

/-- The cursor at the child of `c` at place `i`. -/
def child (c : Cursor α) (i : Nat) (t : Rose α) : Cursor α := ⟨t, ⟨c.node, i⟩ :: c.above⟩

/-- The cursors at the children, left to right. -/
def down (c : Cursor α) : List (Cursor α) := c.node.children.mapIdx c.child

/-- The places of the steps, from the root down. -/
def address (c : Cursor α) : List Nat := (c.above.map Step.index).reverse

def depth (c : Cursor α) : Nat := c.above.length

/-- The cursors at the proper ancestors, innermost first. -/
def ancestors (c : Cursor α) : List (Cursor α) :=
  match c with
  | ⟨_, steps⟩ => go steps
where
  go : List (Step α) → List (Cursor α)
    | [] => []
    | s :: rest => ⟨s.parent, rest⟩ :: go rest

theorem mem_down {c d : Cursor α} :
    d ∈ c.down ↔ ∃ i t, c.node.children[i]? = some t ∧ d = c.child i t := by
  simp only [down, List.mem_mapIdx, List.getElem?_eq_some_iff]
  constructor
  · rintro ⟨i, hi, rfl⟩
    exact ⟨i, _, ⟨hi, rfl⟩, rfl⟩
  · rintro ⟨i, t, ⟨hi, rfl⟩, rfl⟩
    exact ⟨i, hi, rfl⟩

@[simp] theorem depth_root (t : Rose α) : (root t).depth = 0 := rfl

@[simp] theorem depth_child (c : Cursor α) (i : Nat) (t : Rose α) :
    (c.child i t).depth = c.depth + 1 := rfl

@[simp] theorem address_root (t : Rose α) : (root t).address = [] := rfl

@[simp] theorem address_child (c : Cursor α) (i : Nat) (t : Rose α) :
    (c.child i t).address = c.address ++ [i] := by
  simp [address, child]

theorem length_address (c : Cursor α) : c.address.length = c.depth := by
  simp [address, depth]

/-- `Within t c`: the cursor `c` is reached from the root of `t` by going down. -/
inductive Within (t : Rose α) : Cursor α → Prop
  | root : Within t (root t)
  | down {c d : Cursor α} : Within t c → d ∈ c.down → Within t d

theorem depth_of_mem_down {c d : Cursor α} (h : d ∈ c.down) : d.depth = c.depth + 1 := by
  obtain ⟨i, t, -, rfl⟩ := mem_down.mp h
  rfl

theorem height_of_mem_down {c d : Cursor α} (h : d ∈ c.down) :
    d.node.height < c.node.height := by
  obtain ⟨i, t, ht, rfl⟩ := mem_down.mp h
  obtain ⟨⟨a, cs⟩, steps⟩ := c
  exact Rose.height_child_lt (List.mem_of_getElem? ht)

theorem Within.depth_add_height {t : Rose α} {c : Cursor α} (h : Within t c) :
    c.depth + c.node.height ≤ t.height := by
  induction h with
  | root => simp [Cursor.root, Cursor.depth]
  | @down c d _ hd ih =>
    have hheight := height_of_mem_down hd
    rw [depth_of_mem_down hd]
    omega

/-- Within one tree a cursor is determined by its address. -/
theorem cursor_ext {t : Rose α} {c d : Cursor α} (hc : Within t c) (hd : Within t d)
    (h : c.address = d.address) : c = d := by
  induction hc generalizing d with
  | root =>
    cases hd with
    | root => rfl
    | down _ hmem =>
      obtain ⟨i, s, -, rfl⟩ := mem_down.mp hmem
      simp at h
  | @down c' c _ hmem ih =>
    obtain ⟨i, s, hs, rfl⟩ := mem_down.mp hmem
    cases hd with
    | root => simp at h
    | down hd' hmem' =>
      obtain ⟨j, s', hs', rfl⟩ := mem_down.mp hmem'
      simp only [address_child] at h
      obtain ⟨hpre, hlast⟩ := List.append_inj' h rfl
      have hparent := ih hd' hpre
      subst hparent
      obtain rfl := List.singleton_inj.mp hlast
      rw [hs] at hs'
      obtain rfl := Option.some.inj hs'
      rfl

end Cursor

/-! ## Rebuilding -/

namespace Rose

variable {α : Type}

mutual

/-- Rewrites a tree from the leaves up. `g` receives the node as it stood, with its place, and
the node over its rewritten children. -/
def rebuild (g : Cursor α → Rose α → Rose α) : Rose α → List (Step α) → Rose α
  | node a cs, above => g ⟨node a cs, above⟩ (node a (rebuildAll g (node a cs) above 0 cs))

def rebuildAll (g : Cursor α → Rose α → Rose α) (parent : Rose α) (above : List (Step α)) :
    Nat → List (Rose α) → List (Rose α)
  | _, [] => []
  | i, c :: cs => rebuild g c (⟨parent, i⟩ :: above) :: rebuildAll g parent above (i + 1) cs

end

theorem rebuildAll_eq_mapIdx (g : Cursor α → Rose α → Rose α) (parent : Rose α)
    (above : List (Step α)) (n : Nat) (cs : List (Rose α)) :
    rebuildAll g parent above n cs =
      cs.mapIdx (fun i c => rebuild g c (⟨parent, n + i⟩ :: above)) := by
  induction cs generalizing n with
  | nil => rfl
  | cons c cs ih =>
    have hshift : ∀ i, n + 1 + i = n + (i + 1) := by
      intro i
      omega
    rw [rebuildAll, ih, List.mapIdx_cons]
    simp only [hshift, Nat.add_zero]

end Rose

namespace Cursor

variable {α : Type}

theorem map_mapIdx {β γ δ : Type} (f : γ → δ) (g : Nat → β → γ) (l : List β) :
    (l.mapIdx g).map f = l.mapIdx (fun i x => f (g i x)) := by
  refine List.ext_getElem? (fun i => ?_)
  rw [List.getElem?_map, List.getElem?_mapIdx, List.getElem?_mapIdx, Option.map_map]
  rfl

/-- The rewritten subtree at a cursor. -/
def rebuild (g : Cursor α → Rose α → Rose α) (c : Cursor α) : Rose α := c.node.rebuild g c.above

theorem rebuild_eq (g : Cursor α → Rose α → Rose α) (c : Cursor α) :
    c.rebuild g = g c (.node c.node.label (c.down.map (rebuild g))) := by
  obtain ⟨⟨a, cs⟩, above⟩ := c
  rw [rebuild, Rose.rebuild, Rose.rebuildAll_eq_mapIdx]
  simp only [down, Rose.children_node, Rose.label_node, map_mapIdx, Nat.zero_add]
  rfl

theorem map_node_down (c : Cursor α) : c.down.map node = c.node.children := by
  rw [down, map_mapIdx]
  refine List.ext_getElem? (fun i => ?_)
  rw [List.getElem?_mapIdx]
  cases c.node.children[i]? <;> rfl

/-- What holds of a cursor when it holds of all cursors one level below it holds of every
cursor. -/
theorem down_induction {P : Cursor α → Prop} (h : ∀ c, (∀ d ∈ c.down, P d) → P c) :
    ∀ c, P c := by
  suffices hall : ∀ t : Rose α, ∀ above, P ⟨t, above⟩ from fun c => hall c.node c.above
  intro t
  induction t using Rose.induction with
  | hnode a cs ih =>
    intro above
    refine h _ (fun d hd => ?_)
    obtain ⟨i, t, ht, rfl⟩ := mem_down.mp hd
    exact ih t (List.mem_of_getElem? ht) _

/-- Nothing changes below a cursor when no node there is rewritten. -/
theorem rebuild_eq_self {g : Cursor α → Rose α → Rose α} {Q : Cursor α → Prop}
    (hdown : ∀ c, Q c → ∀ d ∈ c.down, Q d) (hg : ∀ c, Q c → ∀ e, g c e = e) :
    ∀ c, Q c → c.rebuild g = c.node := by
  refine down_induction (fun c ih hc => ?_)
  have hchildren : c.down.map (rebuild g) = c.node.children := by
    rw [← map_node_down]
    exact List.map_congr_left (fun d hd => ih d hd (hdown c hc d hd))
  rw [rebuild_eq, hg c hc, hchildren]
  obtain ⟨⟨a, cs⟩, above⟩ := c
  rfl

/-- The cursor `d` of the subtree at `c`, as a cursor of the whole tree. -/
def under (d c : Cursor α) : Cursor α := ⟨d.node, d.above ++ c.above⟩

theorem within_under {t : Rose α} {c d : Cursor α} (hc : Within t c) (hd : Within c.node d) :
    Within t (d.under c) := by
  induction hd with
  | root => exact hc
  | @down e d _ hmem ih =>
    obtain ⟨i, s, hs, rfl⟩ := mem_down.mp hmem
    exact .down ih (mem_down.mpr ⟨i, s, hs, rfl⟩)

/-- The ancestors of a cursor are cursors of the same tree, and the cursor stands below each of
them. -/
theorem within_of_mem_ancestors {t : Rose α} {c a : Cursor α} (hc : Within t c)
    (ha : a ∈ c.ancestors) : Within t a ∧ ∃ d, Within a.node d ∧ c = d.under a := by
  induction hc with
  | root => cases ha
  | @down p c hp hmem ih =>
    obtain ⟨i, s, hs, rfl⟩ := mem_down.mp hmem
    rcases List.mem_cons.mp ha with rfl | ha
    · refine ⟨hp, child (root p.node) i s, ?_, rfl⟩
      exact .down .root (mem_down.mpr ⟨i, s, hs, rfl⟩)
    · obtain ⟨hwithin, d, hd, heq⟩ := ih ha
      refine ⟨hwithin, d.child i s, .down hd (mem_down.mpr ⟨i, s, ?_, rfl⟩), ?_⟩
      · rw [heq] at hs
        exact hs
      · rw [heq]
        rfl

/-- A cursor of a tree is at the root or below one of the children. -/
theorem within_node {a : α} {cs : List (Rose α)} {e : Cursor α} (h : Within (.node a cs) e) :
    e = root (.node a cs) ∨ ∃ i c, cs[i]? = some c ∧
      ∃ d, Within c d ∧ e = d.under ((root (.node a cs)).child i c) := by
  induction h with
  | root => exact Or.inl rfl
  | @down p e _ hmem ih =>
    obtain ⟨i, t, ht, rfl⟩ := mem_down.mp hmem
    rcases ih with rfl | ⟨j, c, hc, d, hd, rfl⟩
    · exact Or.inr ⟨i, t, ht, root t, .root, rfl⟩
    · exact Or.inr ⟨j, c, hc, d.child i t, .down hd (mem_down.mpr ⟨i, t, ht, rfl⟩), rfl⟩

end Cursor

/-! ## The level-order walk -/

namespace Rose

variable {α : Type}

/-- The level below a list of cursors. -/
def levelBelow (cs : List (Cursor α)) : List (Cursor α) := cs.flatMap Cursor.down

/-- The given cursors and the `n - 1` levels below them. -/
def walkLevels : Nat → List (Cursor α) → List (Cursor α)
  | 0, _ => []
  | n + 1, cs => cs ++ walkLevels n (levelBelow cs)

/-- Every occurrence of a node, breadth first. -/
def walk (t : Rose α) : List (Cursor α) := walkLevels t.height [Cursor.root t]

theorem within_of_mem_walkLevels {t : Rose α} {n : Nat} {cs : List (Cursor α)}
    (hcs : ∀ c ∈ cs, Cursor.Within t c) : ∀ c ∈ walkLevels n cs, Cursor.Within t c := by
  induction n generalizing cs with
  | zero => simp [walkLevels]
  | succ n ih =>
    intro c hc
    rcases List.mem_append.mp hc with hc | hc
    · exact hcs c hc
    · refine ih (fun d hd => ?_) c hc
      obtain ⟨p, hp, hdp⟩ := List.mem_flatMap.mp hd
      exact .down (hcs p hp) hdp

theorem mem_walkLevels_of_mem {n : Nat} {cs : List (Cursor α)} {c : Cursor α} (hn : 0 < n)
    (hc : c ∈ cs) : c ∈ walkLevels n cs := by
  cases n with
  | zero => omega
  | succ n => exact List.mem_append_left _ hc

theorem mem_walkLevels_down {n k : Nat} {cs : List (Cursor α)} {c d : Cursor α}
    (hdepth : ∀ e ∈ cs, e.depth = k) (hc : c ∈ walkLevels n cs) (hd : d ∈ c.down)
    (hlt : d.depth < n + k) : d ∈ walkLevels n cs := by
  induction n generalizing k cs with
  | zero => simp [walkLevels] at hc
  | succ n ih =>
    refine List.mem_append_right _ ?_
    rcases List.mem_append.mp hc with hc | hc
    · have hck := hdepth c hc
      have hdc := Cursor.depth_of_mem_down hd
      exact mem_walkLevels_of_mem (by omega) (List.mem_flatMap.mpr ⟨c, hc, hd⟩)
    · refine ih (k := k + 1) (fun e he => ?_) hc (by omega)
      obtain ⟨p, hp, hep⟩ := List.mem_flatMap.mp he
      rw [Cursor.depth_of_mem_down hep, hdepth p hp]

theorem height_pos (t : Rose α) : 0 < t.height := by
  obtain ⟨a, cs⟩ := t
  unfold height
  rw [fold_node]
  exact Nat.succ_pos _

/-- The walk visits exactly the cursors of the tree. -/
theorem mem_walk {t : Rose α} {c : Cursor α} : c ∈ t.walk ↔ Cursor.Within t c := by
  constructor
  · refine within_of_mem_walkLevels (fun d hd => ?_) c
    rw [List.mem_singleton.mp hd]
    exact .root
  · intro h
    induction h with
    | root => exact mem_walkLevels_of_mem (height_pos t) List.mem_cons_self
    | @down c d hc hd ih =>
      have hbound := (Cursor.Within.down hc hd).depth_add_height
      have hpos := height_pos d.node
      exact mem_walkLevels_down (k := 0) (by simp) ih hd (by omega)

/-- What holds of all nodes holds of the root and of the nodes of all children. -/
theorem forall_walk_node {p : Rose α → Prop} {a : α} {cs : List (Rose α)} :
    (∀ e ∈ (node a cs).walk, p e.node) ↔
      p (node a cs) ∧ ∀ c ∈ cs, ∀ e ∈ c.walk, p e.node := by
  simp only [mem_walk]
  constructor
  · intro h
    refine ⟨h _ .root, fun c hc e he => ?_⟩
    obtain ⟨i, hi⟩ := List.mem_iff_getElem?.mp hc
    have hchild : Cursor.Within (node a cs) ((Cursor.root (node a cs)).child i c) :=
      .down .root (Cursor.mem_down.mpr ⟨i, c, hi, rfl⟩)
    exact h (e.under ((Cursor.root (node a cs)).child i c)) (Cursor.within_under hchild he)
  · rintro ⟨hroot, hbelow⟩ e he
    rcases Cursor.within_node he with rfl | ⟨i, c, hc, d, hd, rfl⟩
    · exact hroot
    · exact hbelow c (List.mem_of_getElem? hc) d hd

theorem depth_of_mem_walkLevels {n k : Nat} {cs : List (Cursor α)}
    (hdepth : ∀ e ∈ cs, e.depth = k) : ∀ c ∈ walkLevels n cs, k ≤ c.depth := by
  induction n generalizing k cs with
  | zero => simp [walkLevels]
  | succ n ih =>
    intro c hc
    rcases List.mem_append.mp hc with hc | hc
    · exact Nat.le_of_eq (hdepth c hc).symm
    · have := ih (k := k + 1) (fun e he => by
        obtain ⟨p, hp, hep⟩ := List.mem_flatMap.mp he
        rw [Cursor.depth_of_mem_down hep, hdepth p hp]) c hc
      omega

theorem walkLevels_sorted {n k : Nat} {cs : List (Cursor α)}
    (hdepth : ∀ e ∈ cs, e.depth = k) :
    (walkLevels n cs).Pairwise (fun c d => c.depth ≤ d.depth) := by
  induction n generalizing k cs with
  | zero => exact List.Pairwise.nil
  | succ n ih =>
    have hbelow : ∀ e ∈ levelBelow cs, e.depth = k + 1 := by
      intro e he
      obtain ⟨p, hp, hep⟩ := List.mem_flatMap.mp he
      rw [Cursor.depth_of_mem_down hep, hdepth p hp]
    refine List.pairwise_append.mpr ⟨?_, ih hbelow, ?_⟩
    · refine List.pairwise_of_forall_mem_list (fun c hc d hd => ?_)
      exact Nat.le_of_eq ((hdepth c hc).trans (hdepth d hd).symm)
    · intro c hc d hd
      have := depth_of_mem_walkLevels hbelow d hd
      rw [hdepth c hc]
      omega

/-- The walk is breadth first: it never visits a shallower node after a deeper one. -/
theorem walk_sorted (t : Rose α) : t.walk.Pairwise (fun c d => c.depth ≤ d.depth) :=
  walkLevels_sorted (k := 0) (by simp)

end Rose

end DataChat
