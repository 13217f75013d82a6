import DataChat.RowFilter.Clauses

/-!
# The conjuncts of a result

What a `WHERE` demands is read off the statement here, whatever has built it: its conjuncts are what
`AND` joins at the top level, in parentheses or not. The selects of a statement and those of a
result are told apart by their places in document order.

* `gained`: the conjuncts that a select has in a result and did not have in the statement.
* `withoutWheres`: a statement apart from the conditions of its selects.
* `gains_withConjuncts`: `withConjuncts f` adds to each select the conjuncts that `f` gives for it,
  and changes nothing else.
-/

namespace DataChat.RowFilter

open Sql

variable {f : Occ → List Expr}

/-! ## Conjuncts -/

/-- The condition after `WHERE`. -/
def whereCondition (select : Expr) : Option Expr :=
  (arg select .where_).bind (fun clause => arg clause .this)

mutual

/-- The conjuncts of a condition. They do not say under which argument they stand. -/
def conjunctsOf : Expr → List Expr
  | .node label children =>
    match label.kind with
    | .and_ | .paren => conjunctsOfAll children
    | _ => [.node ⟨.this, label.kind⟩ children]

def conjunctsOfAll : List Expr → List Expr
  | [] => []
  | e :: es => conjunctsOf e ++ conjunctsOfAll es

end

/-- The conjuncts in the `WHERE` of a select. -/
def whereConjuncts (select : Expr) : List Expr :=
  (whereCondition select).toList.flatMap conjunctsOf

theorem conjunctsOfAll_eq (es : List Expr) : conjunctsOfAll es = es.flatMap conjunctsOf := by
  induction es with
  | nil => rfl
  | cons e es ih => rw [conjunctsOfAll, ih, List.flatMap_cons]

theorem conjunctsOf_join {label : Node} (h : label.kind = .and_ ∨ label.kind = .paren)
    (children : List Expr) : conjunctsOf (.node label children) = children.flatMap conjunctsOf := by
  rw [conjunctsOf, conjunctsOfAll_eq]
  rcases h with h | h <;> rw [h]

theorem conjunctsOf_other {label : Node} (h : label.kind ≠ .and_ ∧ label.kind ≠ .paren)
    (children : List Expr) :
    conjunctsOf (.node label children) = [.node ⟨.this, label.kind⟩ children] := by
  rw [conjunctsOf]
  split
  · rename_i hkind
    exact absurd hkind h.1
  · rename_i hkind
    exact absurd hkind h.2
  · rfl

@[simp] theorem conjunctsOf_withArgKey (name : Arg) (e : Expr) :
    conjunctsOf (withArgKey name e) = conjunctsOf e := by
  obtain ⟨label, children⟩ := e
  unfold withArgKey
  rw [conjunctsOf, conjunctsOf]
  rfl

theorem conjunctsOf_build {kind : Kind} (h : kind = .and_ ∨ kind = .paren)
    (args : List (Arg × Expr)) :
    conjunctsOf (build kind args) = args.flatMap (fun a => conjunctsOf a.2) := by
  unfold build
  rw [conjunctsOf_join h, List.flatMap_map]
  exact List.flatMap_congr (fun a _ => conjunctsOf_withArgKey a.1 a.2)

@[simp] theorem conjunctsOf_wrapConnector (e : Expr) :
    conjunctsOf (wrapConnector e) = conjunctsOf e := by
  unfold wrapConnector
  split
  · rw [conjunctsOf_build (.inr rfl), List.flatMap_singleton]
  · rfl

/-- `exp.and_` joins the conjuncts of its operands. -/
theorem conjunctsOf_andExpr (left right : Expr) :
    conjunctsOf (andExpr left right) = conjunctsOf left ++ conjunctsOf right := by
  unfold andExpr
  rw [conjunctsOf_build (.inl rfl), List.flatMap_cons, List.flatMap_singleton,
    conjunctsOf_wrapConnector, conjunctsOf_wrapConnector]

theorem conjunctsOf_foldl (e : Expr) (es : List Expr) :
    conjunctsOf (es.foldl andExpr e) = (e :: es).flatMap conjunctsOf := by
  induction es generalizing e with
  | nil => rw [List.foldl_nil, List.flatMap_singleton]
  | cons d es ih =>
    rw [List.foldl_cons, ih, List.flatMap_cons, conjunctsOf_andExpr, List.append_assoc,
      List.flatMap_cons, List.flatMap_cons]

/-- The conjuncts join those of the `WHERE`. -/
theorem whereConjuncts_addConjuncts (conjuncts : List Expr) (e : Expr) :
    whereConjuncts (addConjuncts conjuncts e) =
      whereConjuncts e ++ conjuncts.flatMap conjunctsOf := by
  cases conjuncts with
  | nil => exact (List.append_nil _).symm
  | cons d ds =>
    have hadded : conjunctsOf (ds.foldl andExpr d) = (d :: ds).flatMap conjunctsOf :=
      conjunctsOf_foldl d ds
    have hwhere : whereCondition (addConjuncts (d :: ds) e) =
        arg (withArgKey .where_ (whereWith e (ds.foldl andExpr d))) .this := by
      show (arg (setArg e .where_ _) .where_).bind _ = _
      rw [arg_setArg_self]
      rfl
    unfold whereConjuncts
    rw [hwhere]
    unfold whereWith whereCondition
    cases (arg e .where_).bind (fun clause => arg clause .this) with
    | none =>
      show List.flatMap conjunctsOf [withArgKey .this _] = [] ++ _
      rw [List.flatMap_singleton, conjunctsOf_withArgKey, hadded, List.nil_append]
    | some condition =>
      show List.flatMap conjunctsOf [withArgKey .this _] = List.flatMap conjunctsOf [condition] ++ _
      rw [List.flatMap_singleton, List.flatMap_singleton, conjunctsOf_withArgKey,
        conjunctsOf_andExpr, hadded]

/-! ## Apart from the conditions -/

/-- The expression without the `WHERE` of any select. -/
def withoutWheres : Expr → Expr :=
  Rose.fold (fun (label : Node) (children : List (Node × Expr)) =>
    .node label ((children.filter (fun c =>
      !(label.kind.isSelect && decide (c.1.argKey = .where_)))).map Prod.snd))

theorem withoutWheres_node (label : Node) (children : List Expr) :
    withoutWheres (.node label children) =
      .node label ((children.filter (fun c =>
        !(label.kind.isSelect && decide (c.label.argKey = .where_)))).map withoutWheres) := by
  unfold withoutWheres
  rw [Rose.fold_node, List.filter_map, List.map_map]
  rfl

theorem withoutWheres_other {label : Node} (h : label.kind.isSelect = false)
    (children : List Expr) :
    withoutWheres (.node label children) = .node label (children.map withoutWheres) := by
  rw [withoutWheres_node, h, List.filter_eq_self.mpr]
  intro c _
  rfl

theorem filter_setChildren (name : Arg) (value : Expr) (children : List Expr) :
    (setChildren name value children).filter (fun c => !decide (c.label.argKey = name)) =
      children.filter (fun c => !decide (c.label.argKey = name)) := by
  induction children with
  | nil => simp [setChildren]
  | cons c children ih =>
    rw [setChildren]
    split
    · rename_i hc
      simp [hc]
    · rename_i hc
      simp [hc, ih]

/-- Conjuncts are added to the conditions of selects only. -/
theorem withoutWheres_conjunctsAt : ∀ c : Occ, withoutWheres (conjunctsAt f c) =
    withoutWheres c.node := by
  refine Cursor.down_induction (fun c ih => ?_)
  have hchildren : ∀ keep : Arg → Bool,
      ((c.down.map (conjunctsAt f)).filter (fun e => keep e.label.argKey)).map withoutWheres =
        (c.node.children.filter (fun e => keep e.label.argKey)).map withoutWheres := by
    intro keep
    rw [← Cursor.map_node_down, List.filter_map, List.filter_map, List.map_map, List.map_map]
    have hkeys : c.down.filter ((fun e => keep e.label.argKey) ∘ conjunctsAt f) =
        c.down.filter ((fun e => keep e.label.argKey) ∘ Cursor.node) := by
      refine List.filter_congr (fun d _ => ?_)
      show keep (conjunctsAt f d).label.argKey = keep d.node.label.argKey
      rw [label_conjunctsAt]
    rw [hkeys]
    exact List.map_congr_left (fun d hd => ih d (List.mem_filter.mp hd).1)
  have hnode : withoutWheres (.node c.node.label (c.down.map (conjunctsAt f))) =
      withoutWheres c.node := by
    rw [← Rose.node_label_children c.node, withoutWheres_node, withoutWheres_node]
    exact congrArg _ (hchildren (fun key =>
      !(c.node.label.kind.isSelect && decide (key = .where_))))
  rw [conjunctsAt_eq, ← hnode]
  split
  · rename_i hselect
    unfold addConjuncts
    split
    · rfl
    · unfold setArg
      rw [withoutWheres_node, withoutWheres_node]
      simp only [Rose.label_node, Rose.children_node, hselect, Bool.true_and]
      rw [filter_setChildren]
  · rfl

theorem conjunctsOf_withoutWheres (e : Expr) :
    conjunctsOf (withoutWheres e) = (conjunctsOf e).map withoutWheres := by
  induction e using Rose.induction with
  | hnode label children ih =>
    by_cases hjoin : label.kind = .and_ ∨ label.kind = .paren
    · have hselect : label.kind.isSelect = false := by
        rcases hjoin with h | h <;> rw [h] <;> rfl
      rw [withoutWheres_other hselect, conjunctsOf_join hjoin, conjunctsOf_join hjoin,
        List.flatMap_map, List.map_flatMap]
      exact List.flatMap_congr ih
    · rw [conjunctsOf_other (not_or.mp hjoin), withoutWheres_node,
        conjunctsOf_other (not_or.mp hjoin), List.map_singleton, withoutWheres_node]

/-- An expression without selects has nothing to leave out. -/
theorem eq_of_withoutWheres {e e' : Expr} (hnone : AllKinds (fun k => k.isSelect = false) e')
    (h : withoutWheres e = withoutWheres e') : e = e' := by
  induction e using Rose.induction generalizing e' with
  | hnode label children ih =>
    obtain ⟨label', children'⟩ := e'
    obtain ⟨hlabel', hchildren'⟩ := allKinds_node.mp hnone
    have hlabel : label = label' := by
      have hsame := congrArg Rose.label h
      rwa [withoutWheres_node, withoutWheres_node] at hsame
    subst hlabel
    rw [withoutWheres_other hlabel', withoutWheres_other hlabel'] at h
    have hmap : children.map withoutWheres = children'.map withoutWheres := (Rose.node.inj h).2
    have hlength : children.length = children'.length := by
      simpa using congrArg List.length hmap
    refine congrArg _ (List.ext_getElem hlength (fun i hi hi' => ?_))
    refine ih _ (List.getElem_mem hi) (hchildren' _ (List.getElem_mem hi')) ?_
    have hget := congrArg (fun es : List Expr => es[i]?) hmap
    simpa [hi, hi'] using hget

/-! ## The selects of a statement -/

def selectsBelow (c : Occ) : List Occ :=
  c.documentOrder.filter (fun d => d.node.label.kind.isSelect)

/-- The selects of a statement, in document order. -/
def selectsOf (statement : Expr) : List Occ := selectsBelow (Cursor.root statement)

/-- The conjuncts of each select, in document order. -/
def conjunctsBySelect (e : Expr) : List (List Expr) :=
  (e.nodes.filter (fun d => d.label.kind.isSelect)).map whereConjuncts

/-- Each select of a statement, with the conjuncts of the select that stands in its place in the
result. -/
def conjunctsAfter (statement result : Expr) : List (Occ × List Expr) :=
  (selectsOf statement).zip (conjunctsBySelect result)

/-- The conjuncts that a select has gained: further conjuncts are joined to the old ones. -/
def gained (p : Occ × List Expr) : List Expr := p.2.drop (whereConjuncts p.1.node).length

theorem selectsBelow_eq (c : Occ) :
    selectsBelow c = (if c.node.label.kind.isSelect then [c] else []) ++
      c.down.flatMap selectsBelow := by
  unfold selectsBelow
  rw [Cursor.documentOrder_eq, List.filter_cons, List.filter_flatMap]
  split <;> rfl

theorem mem_selectsOf {statement : Expr} {select : Occ} :
    select ∈ selectsOf statement ↔
      Cursor.Within statement select ∧ select.node.label.kind.isSelect = true := by
  unfold selectsOf selectsBelow
  rw [List.mem_filter, Cursor.mem_documentOrder]

theorem conjunctsBySelect_node (label : Node) (children : List Expr) :
    conjunctsBySelect (.node label children) =
      (if label.kind.isSelect then [whereConjuncts (.node label children)] else []) ++
        children.flatMap conjunctsBySelect := by
  unfold conjunctsBySelect
  rw [Rose.nodes_node, List.filter_cons, List.filter_flatMap, Rose.label_node]
  split
  · rw [List.map_cons, List.map_flatMap, List.singleton_append]
  · rw [List.map_flatMap, List.nil_append]

theorem conjunctsBySelect_withArgKey (name : Arg) (e : Expr) :
    conjunctsBySelect (withArgKey name e) = conjunctsBySelect e := by
  obtain ⟨label, children⟩ := e
  unfold withArgKey
  rw [conjunctsBySelect_node, conjunctsBySelect_node]
  rfl

theorem conjunctsBySelect_build {kind : Kind} (h : kind.isSelect = false)
    (args : List (Arg × Expr)) :
    conjunctsBySelect (build kind args) = args.flatMap (fun a => conjunctsBySelect a.2) := by
  unfold build
  rw [conjunctsBySelect_node, List.flatMap_map]
  dsimp only
  rw [h]
  exact List.flatMap_congr (fun a _ => conjunctsBySelect_withArgKey a.1 a.2)

theorem conjunctsBySelect_of_noSelect {e : Expr} (h : AllKinds (fun k => k.isSelect = false) e) :
    conjunctsBySelect e = [] := by
  induction e using Rose.induction with
  | hnode label children ih =>
    obtain ⟨hlabel, hchildren⟩ := allKinds_node.mp h
    rw [conjunctsBySelect_node, hlabel,
      List.flatMap_eq_nil_iff.mpr (fun c hc => ih c hc (hchildren c hc))]
    rfl

theorem conjunctsBySelect_wrapConnector (e : Expr) :
    conjunctsBySelect (wrapConnector e) = conjunctsBySelect e := by
  unfold wrapConnector
  split
  · rw [conjunctsBySelect_build rfl, List.flatMap_singleton]
  · rfl

/-- The selects of a condition that is joined to conjuncts without selects. -/
theorem conjunctsBySelect_joined {condition security : Expr}
    (h : AllKinds (fun k => k.isSelect = false) security) :
    conjunctsBySelect (whereNode (andExpr condition security)) = conjunctsBySelect condition := by
  unfold whereNode andExpr
  rw [conjunctsBySelect_withArgKey, conjunctsBySelect_build rfl, List.flatMap_singleton,
    conjunctsBySelect_build rfl, List.flatMap_cons, List.flatMap_singleton,
    conjunctsBySelect_wrapConnector, conjunctsBySelect_wrapConnector,
    conjunctsBySelect_of_noSelect h, List.append_nil]

/-! ## What selects gain -/

/-- The conjuncts are those of the select, apart from conditions within them, and the ones that `f`
gives for it. -/
def Gains (f : Occ → List Expr) (select : Occ) (conjuncts : List Expr) : Prop :=
  ∃ old, conjuncts = old ++ (f select).flatMap conjunctsOf ∧
    old.map withoutWheres = (whereConjuncts select.node).map withoutWheres

theorem Gains.gained {select : Occ} {conjuncts : List Expr} (h : Gains f select conjuncts) :
    gained (select, conjuncts) = (f select).flatMap conjunctsOf := by
  obtain ⟨old, rfl, hold⟩ := h
  have hlength : old.length = (whereConjuncts select.node).length := by
    simpa using congrArg List.length hold
  unfold RowFilter.gained
  rw [← hlength]
  exact List.drop_left

/-- The old conjuncts come first. -/
theorem Gains.kept {select : Occ} {conjuncts : List Expr} (h : Gains f select conjuncts) :
    (whereConjuncts select.node).map withoutWheres <+: conjuncts.map withoutWheres := by
  obtain ⟨old, rfl, hold⟩ := h
  rw [List.map_append, hold]
  exact List.prefix_append _ _

/-- A conjunct without selects was there, or it is a new one. -/
theorem Gains.mem_iff {select : Occ} {conjuncts : List Expr} (h : Gains f select conjuncts)
    {e : Expr} (hnone : AllKinds (fun k => k.isSelect = false) e) :
    e ∈ conjuncts ↔ e ∈ whereConjuncts select.node ∨ e ∈ (f select).flatMap conjunctsOf := by
  obtain ⟨old, rfl, hold⟩ := h
  have hmem : ∀ es es' : List Expr, es.map withoutWheres = es'.map withoutWheres →
      e ∈ es → e ∈ es' := by
    intro es es' hsame he
    have hmapped : withoutWheres e ∈ es'.map withoutWheres := hsame ▸ List.mem_map_of_mem he
    obtain ⟨d, hd, heq⟩ := List.mem_map.mp hmapped
    rw [← eq_of_withoutWheres hnone heq]
    exact hd
  rw [List.mem_append]
  exact or_congr_left ⟨hmem _ _ hold, hmem _ _ hold.symm⟩

/-- The old conjuncts of a select, with what is added below them. -/
theorem whereConjuncts_children (c : Occ) :
    (whereConjuncts (.node c.node.label (c.down.map (conjunctsAt f)))).map withoutWheres =
      (whereConjuncts c.node).map withoutWheres := by
  have hwhere : arg (.node c.node.label (c.down.map (conjunctsAt f))) .where_ =
      (c.down.find? (fun d => d.node.label.argKey = .where_)).map (conjunctsAt f) := by
    rw [arg_node, List.find?_map]
    congr 2
    ext d
    rw [Function.comp_apply, label_conjunctsAt]
  unfold whereConjuncts whereCondition
  rw [hwhere, arg_cursor]
  cases c.down.find? (fun d => d.node.label.argKey = .where_) with
  | none => rfl
  | some clause =>
    show List.map _ ((arg (conjunctsAt f clause) .this).toList.flatMap _) =
      List.map _ ((arg clause.node .this).toList.flatMap _)
    rw [arg_conjunctsAt (by decide), arg_cursor]
    cases clause.down.find? (fun d => d.node.label.argKey = .this) with
    | none => rfl
    | some condition =>
      show List.map _ (List.flatMap _ [conjunctsAt f condition]) =
        List.map _ (List.flatMap _ [condition.node])
      rw [List.flatMap_singleton, List.flatMap_singleton, ← conjunctsOf_withoutWheres,
        ← conjunctsOf_withoutWheres, withoutWheres_conjunctsAt]

theorem gains_self {c : Occ} (hselect : c.node.label.kind.isSelect = true) :
    Gains f c (whereConjuncts (conjunctsAt f c)) := by
  refine ⟨whereConjuncts (.node c.node.label (c.down.map (conjunctsAt f))), ?_,
    whereConjuncts_children c⟩
  rw [conjunctsAt_eq, if_pos hselect, whereConjuncts_addConjuncts]

theorem gains_children {ds : List Occ}
    (ih : ∀ d ∈ ds, List.Forall₂ (Gains f) (selectsBelow d) (conjunctsBySelect (conjunctsAt f d))) :
    List.Forall₂ (Gains f) (ds.flatMap selectsBelow)
      ((ds.map (conjunctsAt f)).flatMap conjunctsBySelect) := by
  induction ds with
  | nil => exact .nil
  | cons d ds ih' =>
    rw [List.flatMap_cons, List.map_cons, List.flatMap_cons]
    exact List.rel_append (ih d List.mem_cons_self)
      (ih' (fun e he => ih e (List.mem_cons_of_mem _ he)))

theorem noSelect_conjunction {conjuncts : List Expr} {security : Expr}
    (h : conjunction conjuncts = some security)
    (hnone : ∀ e ∈ conjuncts, AllKinds (fun k => k.isSelect = false) e) :
    AllKinds (fun k => k.isSelect = false) security := by
  have hstructural : Structural (fun _ k => k.isSelect = false) := by
    refine ⟨fun above k hk => ?_, fun above => rfl⟩
    cases k <;> first | rfl | cases hk
  have heverywhere : Everywhere (fun _ k => k.isSelect = false) [] security :=
    (everywhere_conjunction hstructural h).mpr hnone
  exact heverywhere

/-- Each select below an occurrence gains the conjuncts that `f` gives for it. -/
theorem gains_conjunctsAt : ∀ c : Occ,
    (∀ d ∈ c.documentOrder, d.node.label.kind.isSelect = true → SingleWhere d.node ∧
      ∀ e ∈ f d, AllKinds (fun k => k.isSelect = false) e) →
    List.Forall₂ (Gains f) (selectsBelow c) (conjunctsBySelect (conjunctsAt f c)) := by
  refine Cursor.down_induction (fun c ih hall => ?_)
  obtain ⟨hc, hbelow⟩ := (forall_documentOrder c).mp hall
  have ih' : ∀ d ∈ c.down,
      List.Forall₂ (Gains f) (selectsBelow d) (conjunctsBySelect (conjunctsAt f d)) :=
    fun d hd => ih d hd (hbelow d hd)
  -- the select itself, and the selects below it
  suffices hchildren : List.Forall₂ (Gains f) (c.down.flatMap selectsBelow)
      ((conjunctsAt f c).children.flatMap conjunctsBySelect) by
    rw [selectsBelow_eq, ← Rose.node_label_children (conjunctsAt f c), conjunctsBySelect_node,
      Rose.node_label_children, label_conjunctsAt]
    refine List.rel_append ?_ hchildren
    split
    · rename_i hselect
      exact .cons (gains_self hselect) .nil
    · exact .nil
  rcases rewritten (f := f) (fun hselect => (hc hselect).1) with ⟨-, heq⟩ |
    ⟨security, hselect, hconj, -, heq⟩ |
    ⟨security, before, after, w, condition, hselect, hconj, hsplit, -, hw, hdown, -, heq⟩
  · rw [heq]
    exact gains_children ih'
  · have hfresh : conjunctsBySelect (whereNode security) = [] := by
      unfold whereNode
      rw [conjunctsBySelect_withArgKey, conjunctsBySelect_build rfl, List.flatMap_singleton,
        conjunctsBySelect_of_noSelect (noSelect_conjunction hconj (hc hselect).2)]
    rw [heq, Rose.children_node, List.flatMap_append, List.flatMap_singleton, hfresh,
      List.append_nil]
    exact gains_children ih'
  · have hmem : ∀ d ∈ before ++ w :: after, d ∈ c.down := fun d hd => hsplit ▸ hd
    have hcondition : List.Forall₂ (Gains f) (selectsBelow w)
        (conjunctsBySelect (whereNode (andExpr (conjunctsAt f condition) security))) := by
      have hclause := ih' w (hmem w (by simp))
      rw [conjunctsAt_where hw hdown, conjunctsBySelect_node, List.flatMap_singleton] at hclause
      rw [conjunctsBySelect_joined (noSelect_conjunction hconj (hc hselect).2)]
      exact hclause
    rw [heq, hsplit, Rose.children_node, List.flatMap_append, List.flatMap_append,
      List.flatMap_cons, List.flatMap_cons]
    refine List.rel_append (gains_children (fun d hd => ih' d (hmem d ?_)))
      (List.rel_append hcondition (gains_children (fun d hd => ih' d (hmem d ?_))))
    · exact List.mem_append_left _ hd
    · exact List.mem_append_right _ (List.mem_cons_of_mem _ hd)

/-- The selects of a statement with further conjuncts. -/
theorem gains_withConjuncts {statement : Expr}
    (h : ∀ select ∈ statement.walk, select.node.label.kind.isSelect = true →
      SingleWhere select.node ∧ ∀ e ∈ f select, AllKinds (fun k => k.isSelect = false) e) :
    List.Forall₂ (Gains f) (selectsOf statement)
      (conjunctsBySelect (withConjuncts f statement)) := by
  refine gains_conjunctsAt (Cursor.root statement) (fun d hd => h d ?_)
  exact Rose.mem_walk.mpr (Cursor.mem_documentOrder.mp hd)

end DataChat.RowFilter
