import DataChat.Library.Levels
import DataChat.RowFilter.Injection

/-!
# Where things stand in a secured statement

The conjuncts that a select gets stand in its `WHERE`, and a condition that was there before moves
down by one or two levels. Nothing else changes its place. What a later reading of the statement
finds depends on two things only:

* the clauses above a node. `everywhere_conjunctsAt`: what is said about all nodes by their class
  and the clauses above them holds of the secured statement exactly when it holds of the
  statement and of the conjuncts in the `WHERE` of their selects;
* the order in which the nodes are visited. `located_conjunctsAt`: the tables of the secured
  statement, in document order, with their depths.
-/

namespace DataChat.RowFilter

open Sql Validator

variable {f : Occ → List Expr} {P : List Kind → Kind → Prop}

/-! ## The new children of a select -/

/-- An expression has at most one `WHERE`, which holds one condition. -/
def SingleWhere (e : Expr) : Prop :=
  (e.children.filter (fun d => d.label.argKey = .where_)).length ≤ 1 ∧
    ∀ d ∈ e.children, d.label.argKey = .where_ →
      d.label.kind = .where_ ∧ d.children.map (fun c => c.label.argKey) = [.this]

instance (e : Expr) : Decidable (SingleWhere e) := inferInstanceAs (Decidable (_ ∧ ∀ _ ∈ _, _))

/-- The `WHERE` with this condition, as an argument of a select. -/
def whereNode (condition : Expr) : Expr := withArgKey .where_ (build .where_ [(.this, condition)])

/-- What the conjuncts make of the expression at an occurrence: a select with conjuncts gets a
`WHERE`, or its condition is joined to them. -/
inductive Rewritten (f : Occ → List Expr) (c : Occ) : Prop
  | same : (c.node.label.kind.isSelect = true → f c = []) →
      conjunctsAt f c = .node c.node.label (c.down.map (conjunctsAt f)) → Rewritten f c
  | fresh (security : Expr) : c.node.label.kind.isSelect = true →
      conjunction (f c) = some security →
      (∀ d ∈ c.down, d.node.label.argKey ≠ .where_) →
      conjunctsAt f c =
        .node c.node.label (c.down.map (conjunctsAt f) ++ [whereNode security]) → Rewritten f c
  | joined (security : Expr) (before after : List Occ) (w condition : Occ) :
      c.node.label.kind.isSelect = true → conjunction (f c) = some security →
      c.down = before ++ w :: after → (∀ d ∈ before ++ after, d.node.label.argKey ≠ .where_) →
      w.node.label = ⟨.where_, .where_⟩ → w.down = [condition] →
      (arg c.node .where_).bind (fun e => arg e .this) = some condition.node →
      conjunctsAt f c = .node c.node.label (before.map (conjunctsAt f) ++
        whereNode (andExpr (conjunctsAt f condition) security) :: after.map (conjunctsAt f)) →
      Rewritten f c

theorem setChildren_of_not_mem {name : Arg} {value : Expr} {cs : List Expr}
    (h : ∀ c ∈ cs, c.label.argKey ≠ name) :
    setChildren name value cs = cs ++ [withArgKey name value] := by
  induction cs with
  | nil => rfl
  | cons c cs ih =>
    rw [setChildren, if_neg (h c List.mem_cons_self),
      ih (fun d hd => h d (List.mem_cons_of_mem _ hd)),
      List.cons_append]

theorem setChildren_of_split {name : Arg} {value w : Expr} {before after : List Expr}
    (hw : w.label.argKey = name) (hother : ∀ c ∈ before ++ after, c.label.argKey ≠ name) :
    setChildren name value (before ++ w :: after) =
      before ++ withArgKey name value :: after := by
  induction before with
  | nil =>
    have hafter : after.filter (fun d => d.label.argKey ≠ name) = after := by
      rw [List.filter_eq_self]
      intro d hd
      simpa using hother d hd
    rw [List.nil_append, setChildren, if_pos hw, hafter, List.nil_append]
  | cons c before ih =>
    have hc := hother c List.mem_cons_self
    rw [List.cons_append, setChildren, if_neg hc,
      ih (fun d hd => hother d (List.mem_cons_of_mem _ hd)), List.cons_append]

theorem arg_of_split {name : Arg} {label : Node} {w : Expr} {before after : List Expr}
    (hw : w.label.argKey = name) (hbefore : ∀ c ∈ before, c.label.argKey ≠ name) :
    arg (.node label (before ++ w :: after)) name = some w := by
  unfold arg
  rw [Rose.children_node, List.find?_append, List.find?_eq_none.mpr, Option.none_or,
    List.find?_cons_of_pos (by simpa using hw)]
  intro c hc
  simpa using hbefore c hc

theorem arg_singleton {name : Arg} {label : Node} {w : Expr} (hw : w.label.argKey = name) :
    arg (.node label [w]) name = some w := by
  simp [hw]

theorem arg_of_not_mem {name : Arg} {e : Expr} (h : ∀ c ∈ e.children, c.label.argKey ≠ name) :
    arg e name = none := by
  unfold arg
  rw [List.find?_eq_none]
  intro c hc
  simpa using h c hc

/-- Where the `WHERE` of an expression stands among its children. -/
theorem where_split {c : Occ} (h : SingleWhere c.node) :
    (∀ d ∈ c.down, d.node.label.argKey ≠ .where_) ∨
    ∃ before w after condition, c.down = before ++ w :: after ∧
      (∀ d ∈ before ++ after, d.node.label.argKey ≠ .where_) ∧
      w.node.label = ⟨.where_, .where_⟩ ∧ w.down = [condition] ∧
      condition.node.label.argKey = .this := by
  obtain ⟨hone, hshape⟩ := h
  by_cases hnone : ∀ d ∈ c.down, d.node.label.argKey ≠ .where_
  · exact .inl hnone
  · push Not at hnone
    obtain ⟨w, hw, hkey⟩ := hnone
    obtain ⟨before, after, hsplit⟩ := List.append_of_mem hw
    have hnodes : c.node.children = before.map Cursor.node ++ w.node :: after.map Cursor.node := by
      rw [← Cursor.map_node_down, hsplit, List.map_append, List.map_cons]
    have hother : ∀ d ∈ before ++ after, d.node.label.argKey ≠ .where_ := by
      intro d hd hdkey
      rw [hnodes, List.filter_append, List.filter_cons_of_pos (by simpa using hkey),
        List.length_append, List.length_cons] at hone
      have hpos : ∀ ds : List Occ, d ∈ ds →
          0 < ((ds.map Cursor.node).filter (fun e => e.label.argKey = .where_)).length := by
        intro ds hds
        apply List.length_pos_of_mem (a := d.node)
        exact List.mem_filter.mpr ⟨List.mem_map.mpr ⟨d, hds, rfl⟩, decide_eq_true hdkey⟩
      rcases List.mem_append.mp hd with hd | hd
      · have hbefore := hpos before hd
        omega
      · have hafter := hpos after hd
        omega
    obtain ⟨hkind, hargs⟩ := hshape w.node (by rw [hnodes]; simp) hkey
    rw [← Cursor.map_node_down, List.map_map] at hargs
    obtain ⟨condition, hcondition, hthis⟩ := List.map_eq_singleton_iff.mp hargs
    refine .inr ⟨before, w, after, condition, hsplit, hother, ?_, hcondition, hthis⟩
    rw [← hkey, ← hkind]

theorem conjunctsAt_where {w condition : Occ} (hw : w.node.label = ⟨.where_, .where_⟩)
    (hdown : w.down = [condition]) :
    conjunctsAt f w = .node ⟨.where_, .where_⟩ [conjunctsAt f condition] := by
  rw [conjunctsAt_eq, hw, hdown]
  rfl

theorem rewritten {c : Occ} (h : c.node.label.kind.isSelect = true → SingleWhere c.node) :
    Rewritten f c := by
  by_cases hselect : c.node.label.kind.isSelect = true
  · have heq := conjunctsAt_eq f c
    rw [if_pos hselect] at heq
    unfold addConjuncts at heq
    cases hconj : conjunction (f c) with
    | none =>
      rw [hconj] at heq
      refine .same (fun _ => ?_) heq
      cases hf : f c with
      | nil => rfl
      | cons e es =>
        rw [hf] at hconj
        cases hconj
    | some security =>
      rw [hconj] at heq
      dsimp only at heq
      have hkeys : ∀ ds : List Occ, (∀ d ∈ ds, d.node.label.argKey ≠ .where_) →
          ∀ e ∈ ds.map (conjunctsAt f), e.label.argKey ≠ .where_ := by
        intro ds hds e he
        obtain ⟨d, hd, rfl⟩ := List.mem_map.mp he
        rw [label_conjunctsAt]
        exact hds d hd
      rcases where_split (h hselect) with hnone | ⟨before, w, after, condition, hsplit, hother,
        hw, hdown, hthis⟩
      · refine .fresh security hselect hconj hnone ?_
        have harg : arg (.node c.node.label (c.down.map (conjunctsAt f))) .where_ = none :=
          arg_of_not_mem (hkeys c.down hnone)
        unfold setArg whereWith at heq
        rw [harg] at heq
        rw [heq]
        exact congrArg _ (setChildren_of_not_mem (hkeys c.down hnone))
      · have hbefore := hkeys before (fun d hd => hother d (List.mem_append_left _ hd))
        have hafter := hkeys after (fun d hd => hother d (List.mem_append_right _ hd))
        have hwhere : (conjunctsAt f w).label.argKey = .where_ := by
          rw [label_conjunctsAt, hw]
        have hcondition : arg (conjunctsAt f w) .this = some (conjunctsAt f condition) := by
          rw [conjunctsAt_where hw hdown]
          exact arg_singleton (by rw [label_conjunctsAt, hthis])
        have hnode : w.node = .node ⟨.where_, .where_⟩ [condition.node] := by
          rw [← Rose.node_label_children w.node, hw, ← Cursor.map_node_down, hdown]
          rfl
        have hold : (arg c.node .where_).bind (fun e => arg e .this) = some condition.node := by
          have hchildren : c.node.children =
              before.map Cursor.node ++ w.node :: after.map Cursor.node := by
            rw [← Cursor.map_node_down, hsplit, List.map_append, List.map_cons]
          rw [← Rose.node_label_children c.node, hchildren, arg_of_split (by rw [hw])]
          · rw [Option.bind_some, hnode]
            exact arg_singleton hthis
          · intro e he
            obtain ⟨d, hd, rfl⟩ := List.mem_map.mp he
            exact hother d (List.mem_append_left _ hd)
        refine .joined security before after w condition hselect hconj hsplit hother hw hdown
          hold ?_
        rw [heq, hsplit, List.map_append, List.map_cons]
        unfold setArg whereWith
        rw [arg_of_split hwhere hbefore, Option.bind_some, hcondition, Rose.label_node,
          Rose.children_node, setChildren_of_split hwhere]
        · rfl
        · intro e he
          exact (List.mem_append.mp he).elim (hbefore e) (hafter e)
  · rw [Bool.not_eq_true] at hselect
    refine .same (fun h' => ?_) ?_
    · rw [hselect] at h'
      cases h'
    · rw [conjunctsAt_eq, hselect]
      rfl

/-- The other arguments stay, with the conjuncts below them. -/
theorem arg_conjunctsAt {name : Arg} (hname : name ≠ .where_) (c : Occ) :
    arg (conjunctsAt f c) name =
      (c.down.find? (fun d => d.node.label.argKey = name)).map (conjunctsAt f) := by
  have hchildren : (c.down.map (conjunctsAt f)).find? (fun e => e.label.argKey = name) =
      (c.down.find? (fun d => d.node.label.argKey = name)).map (conjunctsAt f) := by
    rw [List.find?_map]
    congr 2
    ext d
    rw [Function.comp_apply, label_conjunctsAt]
  rw [conjunctsAt_eq, ← hchildren]
  unfold addConjuncts
  split
  · rfl
  · rw [arg_setArg_ne hname]
    rfl

theorem arg_cursor (name : Arg) (c : Occ) :
    arg c.node name =
      (c.down.find? (fun d => d.node.label.argKey = name)).map Cursor.node := by
  unfold arg
  rw [← Cursor.map_node_down, List.find?_map]
  rfl

/-! ## The clauses above a node -/

/-- The classes of which conditions are made. They are no clauses. -/
def isConnective : Kind → Bool
  | .and_ | .or_ | .not_ | .paren | .compare _ | .in_ => true
  | _ => false

/-- The clauses above a child of a node of this class. -/
def pushClause (k : Kind) (above : List Kind) : List Kind :=
  if isConnective k then above else k :: above

/-- The clauses above an occurrence, innermost first. -/
def clausesOf (occ : Occ) : List Kind := (parentKinds occ).filter (fun k => !isConnective k)

/-- Every node has the property, with its class and the clauses above it. -/
def Everywhere (P : List Kind → Kind → Prop) (above : List Kind) (e : Expr) : Prop :=
  ∀ occ ∈ e.walk, P (clausesOf occ ++ above) occ.node.label.kind

theorem clausesOf_child {c d : Occ} (hd : d ∈ c.down) :
    clausesOf d = pushClause c.node.label.kind (clausesOf c) := by
  obtain ⟨i, t, -, rfl⟩ := Cursor.mem_down.mp hd
  unfold clausesOf pushClause
  show List.filter _ (c.node.label.kind :: parentKinds c) = _
  cases hk : isConnective c.node.label.kind <;> simp [hk]

theorem clausesOf_under {label : Node} {children : List Expr} {i : Nat} {c : Expr} {d : Occ} :
    clausesOf (d.under ((Cursor.root (.node label children)).child i c)) =
      clausesOf d ++ pushClause label.kind [] := by
  unfold clausesOf parentKinds pushClause
  show List.filter _ (List.map _ (d.above ++ [⟨.node label children, i⟩])) = _
  rw [List.map_append, List.filter_append, List.map_singleton]
  cases hk : isConnective label.kind <;> simp [hk]

theorem pushClause_append (k : Kind) (above : List Kind) :
    pushClause k [] ++ above = pushClause k above := by
  unfold pushClause
  cases isConnective k <;> rfl

theorem everywhere_node {label : Node} {children : List Expr} {above : List Kind} :
    Everywhere P above (.node label children) ↔
      P above label.kind ∧ ∀ c ∈ children, Everywhere P (pushClause label.kind above) c := by
  have hbelow : ∀ (i : Nat) (c : Expr) (d : Occ),
      clausesOf (d.under ((Cursor.root (.node label children)).child i c)) ++ above =
        clausesOf d ++ pushClause label.kind above := by
    intro i c d
    rw [clausesOf_under, List.append_assoc, pushClause_append]
  unfold Everywhere
  simp only [Rose.mem_walk]
  constructor
  · intro h
    refine ⟨h _ .root, fun c hc d hd => ?_⟩
    obtain ⟨i, hi⟩ := List.mem_iff_getElem?.mp hc
    have hchild : Cursor.Within (.node label children)
        ((Cursor.root (.node label children)).child i c) :=
      .down .root (Cursor.mem_down.mpr ⟨i, c, hi, rfl⟩)
    have hwithin := Cursor.within_under hchild hd
    rw [← hbelow i c d]
    exact h _ hwithin
  · rintro ⟨hroot, hchildren⟩ e he
    rcases Cursor.within_node he with rfl | ⟨i, c, hc, d, hd, rfl⟩
    · exact hroot
    · rw [hbelow]
      exact hchildren c (List.mem_of_getElem? hc) d hd

theorem everywhere_withArgKey {name : Arg} {e : Expr} {above : List Kind} :
    Everywhere P above (withArgKey name e) ↔ Everywhere P above e := by
  obtain ⟨label, children⟩ := e
  unfold withArgKey
  rw [everywhere_node, everywhere_node]
  exact Iff.rfl

theorem everywhere_build {kind : Kind} {args : List (Arg × Expr)} {above : List Kind} :
    Everywhere P above (build kind args) ↔
      P above kind ∧ ∀ a ∈ args, Everywhere P (pushClause kind above) a.2 := by
  unfold build
  rw [everywhere_node, List.forall_mem_map]
  simp only [everywhere_withArgKey]

theorem everywhere_leaf {kind : Kind} {above : List Kind} :
    Everywhere P above (leaf kind) ↔ P above kind := by
  unfold leaf
  rw [everywhere_node]
  exact and_iff_left (fun c hc => absurd hc List.not_mem_nil)

/-- The property does not mind connectives and `WHERE`s. -/
structure Structural (P : List Kind → Kind → Prop) : Prop where
  connective : ∀ above k, isConnective k = true → P above k
  where_ : ∀ above, P above .where_

theorem everywhere_connective (hP : Structural P) {kind : Kind} (hkind : isConnective kind = true)
    {args : List (Arg × Expr)} {above : List Kind} :
    Everywhere P above (build kind args) ↔ ∀ a ∈ args, Everywhere P above a.2 := by
  rw [everywhere_build]
  unfold pushClause
  rw [if_pos hkind]
  exact and_iff_right (hP.connective above kind hkind)

theorem everywhere_wrapConnector (hP : Structural P) {e : Expr} {above : List Kind} :
    Everywhere P above (wrapConnector e) ↔ Everywhere P above e := by
  unfold wrapConnector
  split
  · rw [everywhere_connective hP rfl, List.forall_mem_singleton]
  · exact Iff.rfl

theorem everywhere_join (hP : Structural P) {kind : Kind} (hkind : isConnective kind = true)
    {l r : Expr} {above : List Kind} :
    Everywhere P above (build kind [(.this, wrapConnector l), (.expression, wrapConnector r)]) ↔
      Everywhere P above l ∧ Everywhere P above r := by
  rw [everywhere_connective hP hkind, List.forall_mem_cons, List.forall_mem_singleton,
    everywhere_wrapConnector hP, everywhere_wrapConnector hP]

theorem everywhere_foldl {g : Expr → Expr → Expr} {above : List Kind}
    (hg : ∀ l r, Everywhere P above (g l r) ↔ Everywhere P above l ∧ Everywhere P above r)
    (first : Expr) (rest : List Expr) :
    Everywhere P above (rest.foldl g first) ↔ ∀ e ∈ first :: rest, Everywhere P above e := by
  induction rest generalizing first with
  | nil => rw [List.foldl_nil, List.forall_mem_singleton]
  | cons e rest ih =>
    rw [List.foldl_cons, ih, List.forall_mem_cons, hg, List.forall_mem_cons, List.forall_mem_cons,
      and_assoc]

theorem everywhere_conjunction (hP : Structural P) {conjuncts : List Expr} {security : Expr}
    (h : conjunction conjuncts = some security) {above : List Kind} :
    Everywhere P above security ↔ ∀ e ∈ conjuncts, Everywhere P above e := by
  cases conjuncts with
  | nil => cases h
  | cons first rest =>
    rw [← Option.some.inj h]
    exact everywhere_foldl (fun l r => everywhere_join hP rfl) first rest

theorem everywhere_whereNode (hP : Structural P) {condition : Expr} {above : List Kind} :
    Everywhere P above (whereNode condition) ↔ Everywhere P (.where_ :: above) condition := by
  unfold whereNode
  rw [everywhere_withArgKey, everywhere_build, List.forall_mem_singleton]
  exact and_iff_right (hP.where_ above)

/-- Connectives are no clauses that the flags of a column depend on. -/
theorem clauseBeforeSelect_clausesOf {isClause : Kind → Bool}
    (hclause : ∀ k, isConnective k = true → isClause k = false) (kinds : List Kind) :
    clauseBeforeSelect isClause (kinds.filter (fun k => !isConnective k)) =
      clauseBeforeSelect isClause kinds := by
  induction kinds with
  | nil => rfl
  | cons k kinds ih =>
    cases hk : isConnective k with
    | true =>
      have hselect : k.isSelect = false := by
        cases k <;> first | rfl | cases hk
      rw [List.filter_cons_of_neg (by simp [hk]), clauseBeforeSelect, hclause k hk, hselect, ih]
      rfl
    | false =>
      rw [List.filter_cons_of_pos (by simp [hk]), clauseBeforeSelect, clauseBeforeSelect, ih]

/-! ## The clauses in a secured statement -/

/-- The node has the property, and so have its conjuncts where they will stand. -/
def HoldsAt (P : List Kind → Kind → Prop) (f : Occ → List Expr) (c : Occ) : Prop :=
  P (clausesOf c) c.node.label.kind ∧ (c.node.label.kind.isSelect = true →
    ∀ e ∈ f c, Everywhere P (.where_ :: .select :: clausesOf c) e)

theorem forall_documentOrder {Q : Occ → Prop} (c : Occ) :
    (∀ d ∈ c.documentOrder, Q d) ↔ Q c ∧ ∀ d ∈ c.down, ∀ e ∈ d.documentOrder, Q e := by
  rw [Cursor.documentOrder_eq, List.forall_mem_cons, List.forall_mem_flatMap]

theorem isSelect_iff {k : Kind} : k.isSelect = true ↔ k = .select := by
  cases k <;> simp [Kind.isSelect]

/-- The children keep their clauses when they have the conjuncts in them. -/
theorem everywhere_children {c : Occ} {ds : List Occ} (hds : ∀ d ∈ ds, d ∈ c.down) :
    (∀ e ∈ ds.map (conjunctsAt f),
        Everywhere P (pushClause c.node.label.kind (clausesOf c)) e) ↔
      ∀ d ∈ ds, Everywhere P (clausesOf d) (conjunctsAt f d) := by
  rw [List.forall_mem_map]
  refine forall₂_congr (fun d hd => ?_)
  rw [clausesOf_child (hds d hd)]

theorem pushClause_select {k : Kind} (h : k.isSelect = true) (above : List Kind) :
    pushClause k above = .select :: above := by
  rw [isSelect_iff.mp h]
  rfl

/-- A `WHERE` that holds a condition. -/
theorem everywhere_conjunctsAt_where (hP : Structural P) {w condition : Occ}
    (hw : w.node.label = ⟨.where_, .where_⟩) (hdown : w.down = [condition]) :
    Everywhere P (clausesOf w) (conjunctsAt f w) ↔
      Everywhere P (.where_ :: clausesOf w) (conjunctsAt f condition) := by
  rw [conjunctsAt_where hw hdown, everywhere_node, List.forall_mem_singleton]
  exact and_iff_right (hP.where_ _)

/-- What holds everywhere in the expression with the conjuncts. -/
theorem everywhere_conjunctsAt (hP : Structural P) :
    ∀ c : Occ, (∀ d ∈ c.documentOrder, d.node.label.kind.isSelect = true → SingleWhere d.node) →
      (Everywhere P (clausesOf c) (conjunctsAt f c) ↔ ∀ d ∈ c.documentOrder, HoldsAt P f d) := by
  refine Cursor.down_induction (fun c ih hwhere => ?_)
  obtain ⟨hc, hbelow⟩ := (forall_documentOrder c).mp hwhere
  have ih' : ∀ d ∈ c.down, (Everywhere P (clausesOf d) (conjunctsAt f d) ↔
      ∀ e ∈ d.documentOrder, HoldsAt P f e) := fun d hd => ih d hd (hbelow d hd)
  rw [forall_documentOrder, ← forall₂_congr ih']
  unfold HoldsAt
  rcases rewritten (f := f) hc with ⟨hnone, heq⟩ | ⟨security, hselect, hconj, hnone, heq⟩ |
    ⟨security, before, after, w, condition, hselect, hconj, hsplit, hother, hw, hdown, -, heq⟩
  · rw [heq, everywhere_node, everywhere_children (fun d hd => hd)]
    have hempty : c.node.label.kind.isSelect = true →
        ∀ e ∈ f c, Everywhere P (.where_ :: .select :: clausesOf c) e := by
      intro hselect e he
      rw [hnone hselect] at he
      cases he
    exact and_congr_left' (and_iff_left hempty).symm
  · rw [heq, everywhere_node, List.forall_mem_append, everywhere_children (fun d hd => hd),
      List.forall_mem_singleton, pushClause_select hselect, everywhere_whereNode hP,
      everywhere_conjunction hP hconj]
    constructor
    · rintro ⟨hown, hchildren, hconjuncts⟩
      exact ⟨⟨hown, fun _ => hconjuncts⟩, hchildren⟩
    · rintro ⟨⟨hown, hconjuncts⟩, hchildren⟩
      exact ⟨hown, hchildren, hconjuncts hselect⟩
  · have hmem : ∀ d ∈ before ++ w :: after, d ∈ c.down := fun d hd => hsplit ▸ hd
    have hclauses : clausesOf w = .select :: clausesOf c := by
      rw [clausesOf_child (hmem w (by simp)), pushClause_select hselect]
    rw [heq, everywhere_node, List.forall_mem_append, List.forall_mem_cons,
      everywhere_children (fun d hd => hmem d (List.mem_append_left _ hd)),
      everywhere_children (fun d hd => hmem d (by simp [hd])), pushClause_select hselect,
      everywhere_whereNode hP, andExpr, everywhere_join hP rfl, everywhere_conjunction hP hconj,
      hsplit,
      List.forall_mem_append, List.forall_mem_cons, everywhere_conjunctsAt_where hP hw hdown,
      hclauses]
    constructor
    · rintro ⟨hown, hbefore, ⟨hcondition, hconjuncts⟩, hafter⟩
      exact ⟨⟨hown, fun _ => hconjuncts⟩, hbefore, hcondition, hafter⟩
    · rintro ⟨⟨hown, hconjuncts⟩, hbefore, hcondition, hafter⟩
      exact ⟨hown, hbefore, ⟨hcondition, hconjuncts hselect⟩, hafter⟩

/-! ## The tables of a secured statement -/

/-- The table reference that a node with this label is. -/
def tableAt (label : Node) : Option TableRef := tableOf (Cursor.root (.node label []))

/-- The number of levels by which the condition of a select moves down when it gets conjuncts. -/
def wrapLevels (select : Expr) : Nat :=
  match (arg select .where_).bind (fun e => arg e .this) with
  | none => 0
  | some condition => if isConnector condition.label.kind then 2 else 1

/-- The depth below these steps, after the selects with `gets` have got their conjuncts. -/
def depthAfter (gets : Occ → Bool) : List (Step Node) → Nat
  | [] => 0
  | s :: above => depthAfter gets above + 1 +
      if s.parent.label.kind.isSelect && decide (argAt s.parent s.index = some .where_) &&
        gets ⟨s.parent, above⟩ then wrapLevels s.parent else 0

/-- The tables at an occurrence and below, in document order, with their depths in the secured
statement. -/
def tablesBelow (gets : Occ → Bool) (c : Occ) : List (Nat × TableRef) :=
  c.documentOrder.filterMap (fun d => (tableOf d).map (Prod.mk (depthAfter gets d.above)))

theorem tablesBelow_eq (gets : Occ → Bool) (c : Occ) :
    tablesBelow gets c =
      (tableAt c.node.label).toList.map (Prod.mk (depthAfter gets c.above)) ++
        c.down.flatMap (tablesBelow gets) := by
  unfold tablesBelow
  rw [Cursor.documentOrder_eq, List.filterMap_cons, List.filterMap_flatMap]
  show _ = (tableOf c).toList.map _ ++ _
  cases tableOf c <;> rfl

theorem located_of_noTable {e : Expr} (h : AllKinds (fun k => k.isTable = false) e) :
    ∀ n, Rose.located tableAt n e = [] := by
  induction e using Rose.induction with
  | hnode label children ih =>
    intro n
    obtain ⟨hlabel, hchildren⟩ := allKinds_node.mp h
    have hown : tableAt label = none := by
      unfold tableAt tableOf
      split
      · rename_i ref href
        rw [show label.kind = .table ref from href] at hlabel
        cases hlabel
      · rfl
    rw [Rose.located_node, hown, List.flatMap_eq_nil_iff.mpr]
    · rfl
    · intro c hc
      exact ih c hc (hchildren c hc) (n + 1)

theorem located_withArgKey (name : Arg) (e : Expr) (n : Nat) :
    Rose.located tableAt n (withArgKey name e) = Rose.located tableAt n e := by
  obtain ⟨label, children⟩ := e
  unfold withArgKey
  rw [Rose.located_node, Rose.located_node]
  rfl

/-- A node that is no table, over its operands. -/
theorem located_build {kind : Kind} (hkind : kind.isTable = false) (args : List (Arg × Expr))
    (n : Nat) : Rose.located tableAt n (build kind args) =
      args.flatMap (fun a => Rose.located tableAt (n + 1) a.2) := by
  have hown : ∀ name, tableAt ⟨name, kind⟩ = none := by
    intro name
    cases kind with
    | table ref => cases hkind
    | _ => rfl
  unfold build
  rw [Rose.located_node, hown, List.flatMap_map]
  exact List.flatMap_congr (fun a _ => located_withArgKey a.1 a.2 (n + 1))

theorem located_wrapConnector (e : Expr) (n : Nat) :
    Rose.located tableAt n (wrapConnector e) =
      Rose.located tableAt (if isConnector e.label.kind then n + 1 else n) e := by
  unfold wrapConnector
  split
  · rw [located_build rfl, List.flatMap_singleton]
  · rfl

theorem depthAfter_child (gets : Occ → Bool) {c d : Occ} (hd : d ∈ c.down) :
    depthAfter gets d.above = depthAfter gets c.above + 1 +
      if c.node.label.kind.isSelect && decide (d.node.label.argKey = .where_) && gets c
      then wrapLevels c.node else 0 := by
  obtain ⟨i, t, ht, rfl⟩ := Cursor.mem_down.mp hd
  show depthAfter gets (⟨c.node, i⟩ :: c.above) = _
  rw [depthAfter, argAt_child ht]
  simp only [Option.some.injEq]
  rfl

/-- Outside the `WHERE` of a select with conjuncts a child stands one level lower. -/
theorem depthAfter_succ {gets : Occ → Bool} {c d : Occ} (hd : d ∈ c.down)
    (h : c.node.label.kind.isSelect = false ∨ d.node.label.argKey ≠ .where_ ∨ gets c = false) :
    depthAfter gets d.above = depthAfter gets c.above + 1 := by
  rw [depthAfter_child gets hd]
  rcases h with h | h | h <;> simp [h]

theorem located_children {gets : Occ → Bool} {ds : List Occ} {n : Nat}
    (hdepth : ∀ d ∈ ds, depthAfter gets d.above = n)
    (ih : ∀ d ∈ ds, Rose.located tableAt (depthAfter gets d.above) (conjunctsAt f d) =
      tablesBelow gets d) :
    (ds.map (conjunctsAt f)).flatMap (Rose.located tableAt n) = ds.flatMap (tablesBelow gets) := by
  rw [List.flatMap_map]
  refine List.flatMap_congr (fun d hd => ?_)
  rw [← ih d hd, hdepth d hd]

theorem located_conjunction {conjuncts : List Expr} {security : Expr}
    (h : conjunction conjuncts = some security)
    (hnone : ∀ e ∈ conjuncts, AllKinds (fun k => k.isTable = false) e) (n : Nat) :
    Rose.located tableAt n security = [] := by
  have hstructural : Structural (fun _ k => k.isTable = false) := by
    refine ⟨fun above k hk => ?_, fun above => rfl⟩
    cases k <;> first | rfl | cases hk
  have hsecurity : Everywhere (fun _ k => k.isTable = false) [] security :=
    (everywhere_conjunction hstructural h).mpr hnone
  exact located_of_noTable hsecurity n

/-- A condition that is joined to conjuncts without tables. -/
theorem located_joined {condition security : Expr}
    (hsecurity : ∀ n, Rose.located tableAt n security = []) (n : Nat) :
    Rose.located tableAt n (whereNode (andExpr condition security)) =
      Rose.located tableAt (n + 1 + if isConnector condition.label.kind then 2 else 1)
        condition := by
  unfold whereNode andExpr
  rw [located_withArgKey, located_build rfl, List.flatMap_singleton, located_build rfl,
    List.flatMap_cons, List.flatMap_singleton, located_wrapConnector, located_wrapConnector,
    hsecurity, List.append_nil]
  split <;> rfl

/-- The tables of the expression with the conjuncts stand where `depthAfter` says. -/
theorem located_conjunctsAt (gets : Occ → Bool) : ∀ c : Occ,
    (∀ d ∈ c.documentOrder, d.node.label.kind.isSelect = true → SingleWhere d.node ∧
      (f d ≠ [] ↔ gets d = true) ∧ ∀ e ∈ f d, AllKinds (fun k => k.isTable = false) e) →
    Rose.located tableAt (depthAfter gets c.above) (conjunctsAt f c) = tablesBelow gets c := by
  refine Cursor.down_induction (fun c ih hall => ?_)
  obtain ⟨hc, hbelow⟩ := (forall_documentOrder c).mp hall
  have ih' : ∀ d ∈ c.down, Rose.located tableAt (depthAfter gets d.above) (conjunctsAt f d) =
      tablesBelow gets d := fun d hd => ih d hd (hbelow d hd)
  rw [tablesBelow_eq]
  rcases rewritten (f := f) (fun hselect => (hc hselect).1) with ⟨hnone, heq⟩ |
    ⟨security, hselect, hconj, hnone, heq⟩ |
    ⟨security, before, after, w, condition, hselect, hconj, hsplit, hother, hw, hdown, hold, heq⟩
  · have hgets : c.node.label.kind.isSelect = false ∨ gets c = false := by
      by_cases hselect : c.node.label.kind.isSelect = true
      · right
        by_contra hgets
        rw [Bool.not_eq_false] at hgets
        exact (hc hselect).2.1.mpr hgets (hnone hselect)
      · exact .inl (Bool.not_eq_true _ ▸ hselect)
    rw [heq, Rose.located_node, located_children (fun d hd => ?_) ih']
    exact depthAfter_succ hd (hgets.imp id .inr)
  · have hsecurity := located_conjunction hconj (hc hselect).2.2
    have hfresh : ∀ n, Rose.located tableAt n (whereNode security) = [] := by
      intro n
      unfold whereNode
      rw [located_withArgKey, located_build rfl, List.flatMap_singleton, hsecurity]
    rw [heq, Rose.located_node, List.flatMap_append, List.flatMap_singleton, hfresh,
      List.append_nil,
      located_children (fun d hd => depthAfter_succ hd (.inr (.inl (hnone d hd)))) ih']
  · have hsecurity := located_conjunction hconj (hc hselect).2.2
    have hgets : gets c = true := by
      refine (hc hselect).2.1.mp (fun hnil => ?_)
      rw [hnil] at hconj
      cases hconj
    have hmem : ∀ d ∈ before ++ w :: after, d ∈ c.down := fun d hd => hsplit ▸ hd
    have hwDown : w ∈ c.down := hmem w (by simp)
    have hdepth : ∀ d ∈ before ++ after,
        depthAfter gets d.above = depthAfter gets c.above + 1 := by
      intro d hd
      refine depthAfter_succ (hmem d ?_) (.inr (.inl (hother d hd)))
      rcases List.mem_append.mp hd with hd | hd <;> simp [hd]
    have hlevels : depthAfter gets w.above = depthAfter gets c.above + 1 +
        if isConnector (conjunctsAt f condition).label.kind then 2 else 1 := by
      rw [depthAfter_child gets hwDown, label_conjunctsAt]
      unfold wrapLevels
      simp [hselect, hw, hgets, hold]
    have hwhere : tablesBelow gets w =
        Rose.located tableAt (depthAfter gets w.above + 1) (conjunctsAt f condition) := by
      rw [← ih' w hwDown, conjunctsAt_where hw hdown, Rose.located_node, List.flatMap_singleton]
      rfl
    rw [heq, Rose.located_node, List.flatMap_append, List.flatMap_cons,
      located_children (fun d hd => hdepth d (List.mem_append_left _ hd))
        (fun d hd => ih' d (hmem d (List.mem_append_left _ hd))),
      located_children (fun d hd => hdepth d (List.mem_append_right _ hd))
        (fun d hd => ih' d (hmem d (by simp [hd]))),
      located_joined hsecurity, hsplit, List.flatMap_append, List.flatMap_cons, hwhere, hlevels,
      Nat.add_right_comm (depthAfter gets c.above + 1) 1]

end DataChat.RowFilter
