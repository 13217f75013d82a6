import DataChat.Library.Precedence
import DataChat.Library.ThreeValued
import DataChat.RowFilter.Conjuncts
import DataChat.RowFilter.Rules

/-!
# What an injected condition means

The condition that the injector leaves in a `SELECT` is printed and read again. Connectors below a
connector stand in parentheses, so that the text is read back as the tree it was printed from.
That tree is true for a row when the old condition is, and every filter group.

* `readsBack_and`, `readsBack_or`: connectors keep the parentheses that the precedence of SQL needs.
* `group_means`: the expression of a filter group is read back, and when it is true.
* `injected_means`: when the condition that is left in a select is true.
* `injectSelect_means`: the same for one pass of the loop over the selects.
-/

namespace DataChat.RowFilter

open Sql Outcome Validator Precedence

/-! ## Conditions as texts -/

inductive Operator
  | or_
  | and_
  | compare (comparison : Comparison)
  | in_
deriving DecidableEq

inductive Sign
  | not_
deriving DecidableEq

/-- The precedence of SQL, from `OR` upwards. -/
def sqlLevels : Levels Operator Sign where
  binary
    | .or_ => 0
    | .and_ => 1
    | .compare .eq | .compare .neq => 3
    | .compare _ => 4
    | .in_ => 5
  sign _ := 2

/-- What stands between operators: an expression of another class, which is read back as it was
printed, or the list of an `IN`. -/
inductive Operand
  | value (e : Expr)
  | items (es : List Expr)
deriving DecidableEq

abbrev Condition := Tree Operator Sign Operand

/-- An expression without the name of the argument under which it stands. -/
def bare (e : Expr) : Expr := withArgKey .this e

/-- The operators, parentheses and operands of an expression. -/
def tree : Expr → Condition
  | .node ⟨_, .or_⟩ [l, r] => .binary .or_ (tree l) (tree r)
  | .node ⟨_, .and_⟩ [l, r] => .binary .and_ (tree l) (tree r)
  | .node ⟨_, .not_⟩ [e] => .sign .not_ (tree e)
  | .node ⟨_, .paren⟩ [e] => .paren (tree e)
  | .node ⟨_, .compare comparison⟩ [l, r] => .binary (.compare comparison) (tree l) (tree r)
  | .node ⟨_, .in_⟩ (e :: es) => .binary .in_ (tree e) (.operand (.items (es.map bare)))
  | e => .operand (.value (bare e))

example : tree (andExpr (orExpr (columnNamed "a") (columnNamed "b")) (columnNamed "c")) =
    .binary .and_ (.paren (.binary .or_ (.operand (.value (columnNamed "a")))
      (.operand (.value (columnNamed "b"))))) (.operand (.value (columnNamed "c"))) := by
  decide +kernel

/-! ## Parentheses -/

@[simp]
theorem tree_withArgKey (name : Arg) (e : Expr) : tree (withArgKey name e) = tree e := by
  obtain ⟨⟨key, kind⟩, children⟩ := e
  show tree (.node ⟨name, kind⟩ children) = tree (.node ⟨key, kind⟩ children)
  cases kind <;> rcases children with - | ⟨l, - | ⟨r, - | ⟨c, cs⟩⟩⟩ <;> rfl

theorem tree_paren (e : Expr) : tree (build .paren [(.this, e)]) = .paren (tree e) := by
  show Tree.paren (tree (withArgKey .this e)) = _
  rw [tree_withArgKey]

theorem tree_and (l r : Expr) :
    tree (andExpr l r) = .binary .and_ (tree (wrapConnector l)) (tree (wrapConnector r)) := by
  show Tree.binary .and_ (tree (withArgKey .this _)) (tree (withArgKey .expression _)) = _
  rw [tree_withArgKey, tree_withArgKey]

theorem tree_or (l r : Expr) :
    tree (orExpr l r) = .binary .or_ (tree (wrapConnector l)) (tree (wrapConnector r)) := by
  show Tree.binary .or_ (tree (withArgKey .this _)) (tree (withArgKey .expression _)) = _
  rw [tree_withArgKey, tree_withArgKey]

/-- The text of the expression is read back as the expression. -/
def ReadsBack (e : Expr) : Prop := Tight sqlLevels (tree e)

/-- Only connectors bind as loosely as `AND`. -/
theorem above_tree {e : Expr} (h : isConnector e.label.kind = false) :
    Above sqlLevels 1 (tree e) := by
  unfold tree
  split
  · cases h
  · cases h
  · trivial
  · trivial
  · rename_i comparison l r
    show 1 < sqlLevels.binary (.compare comparison)
    cases comparison <;> decide
  · show 1 < 5
    omega
  · trivial

theorem above_wrapConnector (e : Expr) : Above sqlLevels 1 (tree (wrapConnector e)) := by
  unfold wrapConnector
  split
  · rw [tree_paren]
    trivial
  · rename_i h
    exact above_tree (Bool.not_eq_true _ ▸ h)

theorem readsBack_wrapConnector {e : Expr} (h : ReadsBack e) : ReadsBack (wrapConnector e) := by
  unfold wrapConnector
  split
  · unfold ReadsBack
    rw [tree_paren]
    exact h
  · exact h

theorem closed_wrapConnector {e : Expr} (h : ReadsBack e) :
    Closed sqlLevels 1 (tree (wrapConnector e)) := by
  apply closed_of_tight ?_ (readsBack_wrapConnector h) (above_wrapConnector e)
  intro op
  show 1 ≤ 2
  omega

theorem readsBack_and {l r : Expr} (hl : ReadsBack l) (hr : ReadsBack r) :
    ReadsBack (andExpr l r) := by
  unfold ReadsBack
  rw [tree_and]
  exact ⟨readsBack_wrapConnector hl, readsBack_wrapConnector hr, closed_wrapConnector hl,
    above_wrapConnector r⟩

theorem readsBack_or {l r : Expr} (hl : ReadsBack l) (hr : ReadsBack r) :
    ReadsBack (orExpr l r) := by
  have habove : Above sqlLevels 0 (tree (wrapConnector r)) := by
    have h := above_wrapConnector r
    cases htree : tree (wrapConnector r) with
    | binary op a b =>
      rw [htree] at h
      exact Nat.lt_trans Nat.zero_lt_one h
    | _ => trivial
  unfold ReadsBack
  rw [tree_or]
  exact ⟨readsBack_wrapConnector hl, readsBack_wrapConnector hr, closed_zero _, habove⟩

/-! ## Rows -/

/-- What a row, and the database around it, make of an operand. `none` is `NULL`. -/
structure Row (V : Type) where
  value : Expr → Option V
  compares : Comparison → V → V → Bool
  ofBool : Bool → V
  isTrue : V → Bool
  isTrue_ofBool : ∀ b, isTrue (ofBool b) = b

section

variable {V : Type} (row : Row V)

/-- A comparison with `NULL` is unknown. -/
def Row.comparison (comparison : Comparison) : Option V → Option V → Truth
  | some v, some w => some (row.compares comparison v w)
  | _, _ => none

def Row.isIn (v : Option V) (items : List Expr) : Truth :=
  Truth.any (items.map (fun e => row.comparison .eq v (row.value e)))

def Row.ofTruth (truth : Truth) : Option V := truth.map row.ofBool

def Row.toTruth (v : Option V) : Truth := v.map row.isTrue

def Row.eval (row : Row V) : Condition → Option V
  | .operand (.value e) => row.value e
  | .operand (.items _) => none
  | .paren t => row.eval t
  | .sign .not_ t => row.ofTruth (row.toTruth (row.eval t)).not
  | .binary .or_ l r => row.ofTruth ((row.toTruth (row.eval l)).or (row.toTruth (row.eval r)))
  | .binary .and_ l r => row.ofTruth ((row.toTruth (row.eval l)).and (row.toTruth (row.eval r)))
  | .binary (.compare comparison) l r =>
    row.ofTruth (row.comparison comparison (row.eval l) (row.eval r))
  | .binary .in_ l (.operand (.items es)) => row.ofTruth (row.isIn (row.eval l) es)
  | .binary .in_ _ _ => none

/-- The truth value of a condition for the row. -/
def Row.truth (t : Condition) : Truth := row.toTruth (row.eval t)

@[simp]
theorem Row.toTruth_ofTruth (truth : Truth) : row.toTruth (row.ofTruth truth) = truth := by
  unfold Row.toTruth Row.ofTruth
  rw [Option.map_map]
  have hid : row.isTrue ∘ row.ofBool = id := by
    ext b
    exact row.isTrue_ofBool b
  rw [hid, Option.map_id, id]

theorem truth_wrapConnector (e : Expr) :
    row.truth (tree (wrapConnector e)) = row.truth (tree e) := by
  unfold wrapConnector
  split
  · rw [tree_paren]
    rfl
  · rfl

theorem truth_and (l r : Expr) :
    row.truth (tree (andExpr l r)) = (row.truth (tree l)).and (row.truth (tree r)) := by
  rw [tree_and, ← truth_wrapConnector row l, ← truth_wrapConnector row r]
  exact row.toTruth_ofTruth _

theorem truth_or (l r : Expr) :
    row.truth (tree (orExpr l r)) = (row.truth (tree l)).or (row.truth (tree r)) := by
  rw [tree_or, ← truth_wrapConnector row l, ← truth_wrapConnector row r]
  exact row.toTruth_ofTruth _

end

/-! ## Rules -/

/-- The elements of a list value. -/
def listItems : Json → List Json
  | .array items => items
  | _ => []

section

variable {V : Type} (row : Row V)

/-- The comparison of a rule is true for the row. -/
def Row.ComparisonHolds (column : Option V) (operator : String) (value : Json) : Prop :=
  match operator with
  | "eq" => row.comparison .eq column (row.value (convert value)) = some true
  | "ne" => row.comparison .neq column (row.value (convert value)) = some true
  | "gt" => row.comparison .gt column (row.value (convert value)) = some true
  | "gte" => row.comparison .gte column (row.value (convert value)) = some true
  | "lt" => row.comparison .lt column (row.value (convert value)) = some true
  | "lte" => row.comparison .lte column (row.value (convert value)) = some true
  | "in" => ∃ item ∈ listItems value,
      row.comparison .eq column (row.value (convert item)) = some true
  | "not_in" => ∀ item ∈ listItems value,
      row.comparison .eq column (row.value (convert item)) = some false
  | _ => False

variable (env : Env) (allowedTable : AllowedTable) (reference : String)

/-- The comparison that a rule writes down is true for the row. -/
def Row.RuleHolds (rule : Json) : Prop :=
  ∃ fields operator column value, rule = .object fields ∧
    JsonObject.get fields "operator" = some (.string operator) ∧
    ruleParts env allowedTable rule = some (column, value) ∧
    row.ComparisonHolds (row.value (columnExpr env.glot column.name reference)) operator value

/-- All comparisons of the group are true for the row, or at least one is. -/
def Row.GroupHolds (filterGroup : JsonObject) : Prop :=
  match (filterGroup.get "match").getD (.string "all") with
  | .string "all" =>
    ∀ rule ∈ groupRules filterGroup, row.RuleHolds env allowedTable reference rule
  | .string "any" =>
    ∃ rule ∈ groupRules filterGroup, row.RuleHolds env allowedTable reference rule
  | _ => False

end

/-! ### The expressions of rules -/

theorem tree_convert (value : Json) : tree (convert value) = .operand (.value (convert value)) := by
  cases value with
  | number negative magnitude => cases negative <;> rfl
  | _ => rfl

theorem bare_convert (key : Arg) (value : Json) :
    bare (withArgKey key (convert value)) = convert value := by
  cases value with
  | number negative magnitude => cases negative <;> rfl
  | _ => rfl

theorem bare_convertItems (items : List Json) :
    (convertItems items).map (fun a => bare (withArgKey a.1 a.2)) = items.map convert := by
  induction items with
  | nil => rfl
  | cons item items ih =>
    rw [convertItems, List.map_cons, List.map_cons, ih, bare_convert]

theorem tree_comparison (comparison : Comparison) (glot : Sqlglot) (name reference : String)
    (value : Json) :
    tree (build (.compare comparison)
        [(.this, columnExpr glot name reference), (.expression, convert value)]) =
      .binary (.compare comparison) (.operand (.value (columnExpr glot name reference)))
        (.operand (.value (convert value))) := by
  rw [← tree_convert, ← tree_withArgKey .expression (convert value)]
  rfl

theorem tree_in (glot : Sqlglot) (name reference : String) (items : List Json) :
    tree (build .in_ ((.this, columnExpr glot name reference) :: convertItems items)) =
      .binary .in_ (.operand (.value (columnExpr glot name reference)))
        (.operand (.items (items.map convert))) := by
  have hitems : ((convertItems items).map (fun a => withArgKey a.1 a.2)).map bare =
      items.map convert := by
    rw [List.map_map, ← bare_convertItems]
    rfl
  rw [← hitems]
  rfl

theorem tree_not (e : Expr) : tree (build .not_ [(.this, e)]) = .sign .not_ (tree e) := by
  show Tree.sign .not_ (tree (withArgKey .this e)) = _
  rw [tree_withArgKey]

variable {V : Type} {row : Row V} {env : Env} {allowedTable : AllowedTable} {reference : String}

theorem truth_isIn {v : Option V} {items : List Json} :
    row.isIn v (items.map convert) = some true ↔
      ∃ item ∈ items, row.comparison .eq v (row.value (convert item)) = some true := by
  unfold Row.isIn
  rw [Truth.any_true_iff, List.map_map, List.mem_map]
  rfl

theorem not_isIn {v : Option V} {items : List Json} :
    row.isIn v (items.map convert) = some false ↔
      ∀ item ∈ items, row.comparison .eq v (row.value (convert item)) = some false := by
  unfold Row.isIn
  rw [Truth.any_false_iff, List.map_map, List.forall_mem_map]
  rfl

theorem compare_means {comparison : Comparison} {name : String} {value : Json} {e : Expr}
    (h : build (.compare comparison)
      [(.this, columnExpr env.glot name reference), (.expression, convert value)] = e) :
    ReadsBack e ∧ row.truth (tree e) =
      row.comparison comparison (row.value (columnExpr env.glot name reference))
        (row.value (convert value)) := by
  unfold ReadsBack
  rw [← h, tree_comparison]
  exact ⟨⟨trivial, trivial, trivial, trivial⟩, row.toTruth_ofTruth _⟩

theorem in_means {name : String} {items : List Json} {e : Expr}
    (h : build .in_ ((.this, columnExpr env.glot name reference) :: convertItems items) = e) :
    ReadsBack e ∧ row.truth (tree e) =
      row.isIn (row.value (columnExpr env.glot name reference)) (items.map convert) := by
  unfold ReadsBack
  rw [← h, tree_in]
  exact ⟨⟨trivial, trivial, trivial, trivial⟩, row.toTruth_ofTruth _⟩

theorem not_in_means {name : String} {items : List Json} {e : Expr}
    (h : build .not_ [(.this,
      build .in_ ((.this, columnExpr env.glot name reference) :: convertItems items))] = e) :
    ReadsBack e ∧ row.truth (tree e) =
      (row.isIn (row.value (columnExpr env.glot name reference)) (items.map convert)).not := by
  have hin : ReadsBack (build .in_
      ((.this, columnExpr env.glot name reference) :: convertItems items)) ∧ row.truth _ = _ :=
    in_means rfl
  obtain ⟨htight, htruth⟩ := hin
  unfold ReadsBack
  rw [← h, tree_not, ← htruth]
  refine ⟨⟨htight, ?_⟩, row.toTruth_ofTruth _⟩
  rw [tree_in]
  show 2 < 5
  omega

/-- The comparison that is built is read back, and it is true when that of the rule is. -/
theorem comparison_means {name operator : String} {value : Json} {e : Expr}
    (h : buildComparisonExpression (columnExpr env.glot name reference) operator value = .ok e) :
    ReadsBack e ∧ (row.truth (tree e) = some true ↔
      row.ComparisonHolds (row.value (columnExpr env.glot name reference)) operator value) := by
  unfold buildComparisonExpression at h
  split at h
  · exact absurd h fail_ne_ok
  · rename_i hsupported
    split at h
    · rename_i hin
      split at h
      · rename_i item items
        split at h
        · rename_i hnot
          have hmeans : ReadsBack e ∧ row.truth (tree e) = _ := not_in_means (pure_ok_iff.mp h)
          obtain ⟨htight, htruth⟩ := hmeans
          rw [htruth, Truth.not_true_iff, not_isIn, hnot]
          exact ⟨htight, Iff.rfl⟩
        · rename_i hnot
          obtain rfl := hin.resolve_right hnot
          have hmeans : ReadsBack e ∧ row.truth (tree e) = _ := in_means (pure_ok_iff.mp h)
          obtain ⟨htight, htruth⟩ := hmeans
          rw [htruth, truth_isIn]
          exact ⟨htight, Iff.rfl⟩
      · exact absurd h fail_ne_ok
    · rename_i hin
      have hmeans : ReadsBack e ∧ row.truth (tree e) = _ := compare_means (pure_ok_iff.mp h)
      obtain ⟨htight, htruth⟩ := hmeans
      rw [htruth]
      refine ⟨htight, ?_⟩
      have hcases : operator = "eq" ∨ operator = "ne" ∨ operator = "gt" ∨ operator = "gte" ∨
          operator = "lt" ∨ operator = "lte" ∨ operator = "in" ∨ operator = "not_in" := by
        simpa [supportedOperators] using not_not.mp hsupported
      rcases hcases with rfl | rfl | rfl | rfl | rfl | rfl | rfl | rfl
      · exact Iff.rfl
      · exact Iff.rfl
      · exact Iff.rfl
      · exact Iff.rfl
      · exact Iff.rfl
      · exact Iff.rfl
      · exact absurd (.inl rfl) hin
      · exact absurd (.inr rfl) hin

theorem rule_means {rule : Json} {e : Expr}
    (h : buildRuleExpression env allowedTable reference rule = .ok e) :
    ReadsBack e ∧
      (row.truth (tree e) = some true ↔ row.RuleHolds env allowedTable reference rule) := by
  unfold buildRuleExpression at h
  split at h
  · rename_i fields
    split at h
    · rename_i columnId operator hcolumnId hoperator
      obtain ⟨column, hcolumn, h⟩ := bind_ok_iff.mp h
      obtain ⟨value, hvalue, h⟩ := bind_ok_iff.mp h
      have hmeans : ReadsBack e ∧ (row.truth (tree e) = some true ↔ _) := comparison_means h
      have hparts : ruleParts env allowedTable (.object fields) = some (column, value) := by
        unfold ruleParts
        simp only [hcolumnId, hcolumn, hvalue]
      refine ⟨hmeans.1, hmeans.2.trans ?_⟩
      constructor
      · intro hholds
        exact ⟨fields, operator, column, value, rfl, hoperator, hparts, hholds⟩
      · rintro ⟨_, operator', column', value', ⟨⟩, hoperator', hparts', hholds⟩
        rw [hoperator] at hoperator'
        cases hoperator'
        rw [hparts] at hparts'
        cases hparts'
        exact hholds
    · exact absurd h fail_ne_ok
    · exact absurd h fail_ne_ok
  · exact absurd h fail_ne_ok

/-! ## Combining expressions -/

theorem foldl_and_means {rest : List Expr} {first : Expr} (hfirst : ReadsBack first)
    (hrest : ∀ e ∈ rest, ReadsBack e) :
    ReadsBack (rest.foldl andExpr first) ∧
      (row.truth (tree (rest.foldl andExpr first)) = some true ↔
        ∀ e ∈ first :: rest, row.truth (tree e) = some true) := by
  induction rest generalizing first with
  | nil => exact ⟨hfirst, by simp⟩
  | cons e rest ih =>
    have he := hrest e List.mem_cons_self
    have htail := ih (readsBack_and hfirst he) (fun d hd => hrest d (List.mem_cons_of_mem _ hd))
    refine ⟨htail.1, htail.2.trans ?_⟩
    simp only [List.forall_mem_cons, truth_and, Truth.and_true_iff, and_assoc]

theorem foldl_or_means {rest : List Expr} {first : Expr} (hfirst : ReadsBack first)
    (hrest : ∀ e ∈ rest, ReadsBack e) :
    ReadsBack (rest.foldl orExpr first) ∧
      (row.truth (tree (rest.foldl orExpr first)) = some true ↔
        ∃ e ∈ first :: rest, row.truth (tree e) = some true) := by
  induction rest generalizing first with
  | nil => exact ⟨hfirst, by simp⟩
  | cons e rest ih =>
    have he := hrest e List.mem_cons_self
    have htail := ih (readsBack_or hfirst he) (fun d hd => hrest d (List.mem_cons_of_mem _ hd))
    refine ⟨htail.1, htail.2.trans ?_⟩
    simp only [List.exists_mem_cons_iff, truth_or, Truth.or_true_iff, or_assoc]

theorem combine_match {expressions : List Expr} {match_ : Json} {e : Expr}
    (h : combineExpressions expressions match_ = .ok e) :
    match_ = .string "all" ∨ match_ = .string "any" := by
  unfold combineExpressions at h
  split at h
  · exact absurd h fail_ne_ok
  · obtain ⟨known, hknown, h⟩ := bind_ok_iff.mp h
    split at h
    · exact absurd h fail_ne_ok
    · rename_i htrue
      cases match_ with
      | string s =>
        have hs : s = "all" ∨ s = "any" := by
          have hmem := pure_ok_iff.mp hknown
          apply or_iff_not_imp_left.mpr
          simpa [← hmem] using htrue
        exact hs.imp (congrArg _) (congrArg _)
      | array items => cases hknown
      | object fields => cases hknown
      | _ =>
        rw [← pure_ok_iff.mp hknown] at htrue
        exact absurd rfl htrue

theorem combine_all {expressions : List Expr} {e : Expr}
    (h : combineExpressions expressions (.string "all") = .ok e) :
    ∃ first rest, expressions = first :: rest ∧ e = rest.foldl andExpr first := by
  cases expressions with
  | nil => exact absurd h fail_ne_ok
  | cons first rest => exact ⟨first, rest, rfl, (Except.ok.inj h).symm⟩

theorem combine_any {expressions : List Expr} {e : Expr}
    (h : combineExpressions expressions (.string "any") = .ok e) :
    ∃ first rest, expressions = first :: rest ∧ e = rest.foldl orExpr first := by
  cases expressions with
  | nil => exact absurd h fail_ne_ok
  | cons first rest => exact ⟨first, rest, rfl, (Except.ok.inj h).symm⟩

/-- A conjunction is read back, and it is true when all conditions are. -/
theorem combine_all_means {expressions : List Expr} {e : Expr}
    (h : combineExpressions expressions (.string "all") = .ok e)
    (hall : ∀ d ∈ expressions, ReadsBack d) :
    ReadsBack e ∧ (row.truth (tree e) = some true ↔
      ∀ d ∈ expressions, row.truth (tree d) = some true) := by
  obtain ⟨first, rest, rfl, rfl⟩ := combine_all h
  exact foldl_and_means (hall first List.mem_cons_self)
    (fun d hd => hall d (List.mem_cons_of_mem _ hd))

theorem combine_any_means {expressions : List Expr} {e : Expr}
    (h : combineExpressions expressions (.string "any") = .ok e)
    (hall : ∀ d ∈ expressions, ReadsBack d) :
    ReadsBack e ∧ (row.truth (tree e) = some true ↔
      ∃ d ∈ expressions, row.truth (tree d) = some true) := by
  obtain ⟨first, rest, rfl, rfl⟩ := combine_any h
  exact foldl_or_means (hall first List.mem_cons_self)
    (fun d hd => hall d (List.mem_cons_of_mem _ hd))

/-- The expression of a group is read back, and it is true when the group holds. -/
theorem group_means {filterGroup : JsonObject} {e : Expr}
    (h : buildFilterGroupExpression env allowedTable reference filterGroup = .ok e) :
    ReadsBack e ∧ (row.truth (tree e) = some true ↔
      row.GroupHolds env allowedTable reference filterGroup) := by
  unfold buildFilterGroupExpression at h
  simp only at h
  split at h
  · rename_i rule rules hrules
    obtain ⟨expressions, hexpressions, hcombine⟩ := bind_ok_iff.mp h
    have hgroup : groupRules filterGroup = rule :: rules := by
      unfold groupRules
      rw [hrules]
    have hbuilt : ∀ d ∈ expressions, ∃ r ∈ rule :: rules,
        ReadsBack d ∧
          (row.truth (tree d) = some true ↔ row.RuleHolds env allowedTable reference r) := by
      intro d hd
      obtain ⟨r, hr, hrun⟩ := mapM_ok_right hexpressions hd
      exact ⟨r, hr, rule_means hrun⟩
    have hbuilds : ∀ r ∈ rule :: rules, ∃ d ∈ expressions,
        (row.truth (tree d) = some true ↔ row.RuleHolds env allowedTable reference r) := by
      intro r hr
      obtain ⟨d, hd, hrun⟩ := mapM_ok_left hexpressions hr
      exact ⟨d, hd, (rule_means hrun).2⟩
    have hall : ∀ d ∈ expressions, ReadsBack d := fun d hd => (hbuilt d hd).choose_spec.2.1
    unfold Row.GroupHolds
    rw [hgroup]
    rcases combine_match hcombine with hmatch | hmatch
    · rw [hmatch] at hcombine ⊢
      have hmeans : ReadsBack e ∧ (row.truth (tree e) = some true ↔ _) :=
        combine_all_means hcombine hall
      obtain ⟨htight, htruth⟩ := hmeans
      refine ⟨htight, htruth.trans ⟨fun hd r hr => ?_, fun hr d hd => ?_⟩⟩
      · obtain ⟨d, hmem, hiff⟩ := hbuilds r hr
        exact hiff.mp (hd d hmem)
      · obtain ⟨r, hmem, -, hiff⟩ := hbuilt d hd
        exact hiff.mpr (hr r hmem)
    · rw [hmatch] at hcombine ⊢
      have hmeans : ReadsBack e ∧ (row.truth (tree e) = some true ↔ _) :=
        combine_any_means hcombine hall
      obtain ⟨htight, htruth⟩ := hmeans
      refine ⟨htight, htruth.trans ⟨?_, ?_⟩⟩
      · rintro ⟨d, hd, htrue⟩
        obtain ⟨r, hmem, -, hiff⟩ := hbuilt d hd
        exact ⟨r, hmem, hiff.mp htrue⟩
      · rintro ⟨r, hr, hholds⟩
        obtain ⟨d, hmem, hiff⟩ := hbuilds r hr
        exact ⟨d, hmem, hiff.mpr hholds⟩
  · exact absurd h fail_ne_ok

/-! ## The condition of a select -/

/-- A filter group, with the table that it is for and the name by which a select knows the
table. -/
structure FilterGroup where
  allowedTable : AllowedTable
  reference : String
  filterGroup : JsonObject

def FilterGroup.build (env : Env) (group : FilterGroup) : Injection Expr :=
  buildFilterGroupExpression env group.allowedTable group.reference group.filterGroup

def FilterGroup.Holds (env : Env) (row : Row V) (group : FilterGroup) : Prop :=
  row.GroupHolds env group.allowedTable group.reference group.filterGroup

/-- The condition that has been printed is read back, and it is true for the row. -/
def Row.Admits (row : Row V) (condition : Expr) : Prop :=
  ∃ t, parse sqlLevels (print (tree condition)) = some t ∧ row.truth t = some true

theorem admits_iff {condition : Expr} (h : ReadsBack condition) :
    row.Admits condition ↔ row.truth (tree condition) = some true := by
  unfold Row.Admits
  rw [parse_print h]
  simp

theorem whereCondition_injected (store : Store) (select : Occ) (security : Expr) :
    whereCondition (current (injectFilterIntoSelect store select security) select) =
      some (withArgKey .this (match whereCondition (current store select) with
        | none => security
        | some condition => andExpr condition security)) := by
  have hwhere : arg (current (injectFilterIntoSelect store select security) select) .where_ =
      some (withArgKey .where_ (whereWith (current store select) security)) := by
    unfold current injectFilterIntoSelect
    rw [Cursor.rebuild_eq, Dict.get_set_self]
    exact arg_setArg_self _ _ _
  unfold whereCondition at hwhere ⊢
  rw [hwhere]
  unfold whereWith
  cases (arg (current store select) .where_).bind (fun clause => arg clause .this) <;> rfl

/-- The security expression is read back, and it is true when every filter group holds. -/
theorem security_means {groups : List FilterGroup} {conditions : List Expr} {security : Expr}
    (hgroups : groups.mapM (FilterGroup.build env) = .ok conditions)
    (hcombine : combineExpressions conditions (.string "all") = .ok security) :
    ReadsBack security ∧ (row.truth (tree security) = some true ↔
      ∀ group ∈ groups, group.Holds env row) := by
  have hread : ∀ d ∈ conditions, ReadsBack d := by
    intro d hd
    obtain ⟨group, -, hbuild⟩ := mapM_ok_right hgroups hd
    have hmeans : ReadsBack d ∧ (row.truth (tree d) = some true ↔ _) := group_means hbuild
    exact hmeans.1
  obtain ⟨htight, htruth⟩ : ReadsBack security ∧ (row.truth (tree security) = some true ↔ _) :=
    combine_all_means hcombine hread
  refine ⟨htight, htruth.trans ⟨fun hd group hgroup => ?_, fun hg d hd => ?_⟩⟩
  · obtain ⟨d, hmem, hbuild⟩ := mapM_ok_left hgroups hgroup
    exact (group_means hbuild).2.mp (hd d hmem)
  · obtain ⟨group, hmem, hbuild⟩ := mapM_ok_right hgroups hd
    exact (group_means hbuild).2.mpr (hg group hmem)

/-- The old condition and the security expression, joined, printed and read back. -/
theorem joined_means {store : Store} {select : Occ} {security : Expr}
    (hsecurity : ReadsBack security)
    (hparsed : ∀ condition ∈ whereCondition (current store select),
      ∃ tokens, parse sqlLevels tokens = some (tree condition)) :
    ∃ injected,
      whereCondition (current (injectFilterIntoSelect store select security) select) =
        some injected ∧
      (row.Admits injected ↔
        (∀ condition ∈ whereCondition (current store select),
          row.truth (tree condition) = some true) ∧
        row.truth (tree security) = some true) := by
  refine ⟨_, whereCondition_injected store select security, ?_⟩
  unfold Row.Admits
  rw [tree_withArgKey]
  change row.Admits _ ↔ _
  cases hold : whereCondition (current store select) with
  | none =>
    rw [admits_iff hsecurity]
    simp
  | some condition =>
    obtain ⟨tokens, hparse⟩ := hparsed condition hold
    have hcondition : ReadsBack condition := tight_of_parse hparse
    rw [admits_iff (readsBack_and hcondition hsecurity), truth_and, Truth.and_true_iff]
    simp

/-- The condition that is left in a select is true for a row exactly when the old condition is and
every filter group holds. -/
theorem injected_means (row : Row V) (env : Env) (groups : List FilterGroup) (store : Store)
    (select : Occ) {conditions : List Expr} {security : Expr}
    (hgroups : groups.mapM (FilterGroup.build env) = .ok conditions)
    (hcombine : combineExpressions conditions (.string "all") = .ok security)
    (hparsed : ∀ condition ∈ whereCondition (current store select),
      ∃ tokens, parse sqlLevels tokens = some (tree condition)) :
    ∃ injected,
      whereCondition (current (injectFilterIntoSelect store select security) select) =
        some injected ∧
      (row.Admits injected ↔
        (∀ condition ∈ whereCondition (current store select),
          row.truth (tree condition) = some true) ∧
        ∀ group ∈ groups, group.Holds env row) := by
  obtain ⟨hread, hholds⟩ : ReadsBack security ∧
      (row.truth (tree security) = some true ↔ _) := security_means hgroups hcombine
  rw [← hholds]
  exact joined_means hread hparsed

/-- `tenant_id` is the tenant's, or `email` is neither of two texts. -/
def eitherGroup : FilterGroup where
  allowedTable := tenantUsersTable
  reference := "users"
  filterGroup := [("match", .string "any"), ("rules", .array [
    .object [("column_id", .string "tenant-column-id"), ("operator", .string "eq"),
      ("value_source", .string "tenant_id")],
    .object [("column_id", .string "email-column-id"), ("operator", .string "not_in"),
      ("value", .array [.string "a", .string "b"])]])]

def eitherCondition : Expr :=
  orExpr tenantCondition (build .not_ [(.this, build .in_ [(.this, qualifiedColumn "users" "email"),
    (.expressions, stringLiteral "a"), (.expressions, stringLiteral "b")])])

/-- `SELECT email FROM public.users WHERE active OR admin`. -/
def activeSelect : Occ :=
  Cursor.root (selectExpr [columnNamed "email"] (qualifiedTable "public" "users" none)
    [whereClause (orExpr (columnNamed "active") (columnNamed "admin"))])

def isLess : Bool ⊕ String → Bool ⊕ String → Bool
  | .inl a, .inl b => !a && b
  | .inr a, .inr b => decide (a < b)
  | _, _ => false

/-- A row with the email `c` and `NULL` in the other columns. -/
def nullRow : Row (Bool ⊕ String) where
  value e :=
    match e.label.kind with
    | .column ref => if ref.this = some (plain "email") then some (.inr "c") else none
    | .literal text _ => some (.inr text)
    | _ => none
  compares comparison v w :=
    match comparison with
    | .eq => decide (v = w)
    | .neq => decide (v ≠ w)
    | .gt => isLess w v
    | .gte => !isLess v w
    | .lt => isLess v w
    | .lte => !isLess w v
  ofBool := .inl
  isTrue v := decide (v = .inl true)
  isTrue_ofBool b := by cases b <;> rfl

theorem either_injected :
    ∃ injected,
      whereCondition (current (injectFilterIntoSelect Dict.empty activeSelect eitherCondition)
        activeSelect) = some injected ∧
      (nullRow.Admits injected ↔
        (∀ condition ∈ whereCondition (current Dict.empty activeSelect),
          nullRow.truth (tree condition) = some true) ∧
        ∀ group ∈ [eitherGroup], group.Holds flatEnv nullRow) := by
  have hgroups : [eitherGroup].mapM (FilterGroup.build flatEnv) = .ok [eitherCondition] := by
    decide +kernel
  have hcombine : combineExpressions [eitherCondition] (.string "all") = .ok eitherCondition := by
    decide +kernel
  refine injected_means nullRow flatEnv [eitherGroup] Dict.empty activeSelect hgroups hcombine ?_
  intro condition hcondition
  have hactive : whereCondition (current Dict.empty activeSelect) =
      some (withArgKey .this (orExpr (columnNamed "active") (columnNamed "admin"))) := by
    decide +kernel
  rw [hactive] at hcondition
  obtain rfl := Option.some.inj hcondition
  rw [tree_withArgKey]
  exact ⟨_, parse_print (readsBack_or (l := columnNamed "active") trivial trivial)⟩

/-! ### The filter groups of a select -/

def tableGroups (env : Env) (occ : Occ) : List FilterGroup :=
  match (tableOf occ).map (resolveSelectTable env.py env.schema occ) with
  | some (.ok (some (allowedTable, tableReference))) =>
    allowedTable.row_filters.map (fun group => ⟨allowedTable, tableReference, group⟩)
  | _ => []

/-- The filter groups of the tables that stand directly in a select. -/
def selectGroups (env : Env) (select : Occ) : List FilterGroup :=
  (getDirectTables select).flatMap (tableGroups env)

theorem tableConditions_groups {occ : Occ} {conditions : List Expr}
    (h : tableConditions env occ = .ok conditions) :
    (tableGroups env occ).mapM (FilterGroup.build env) = .ok conditions := by
  unfold tableConditions at h
  unfold tableGroups
  cases htable : tableOf occ with
  | none =>
    rw [htable] at h
    exact h
  | some table =>
    rw [htable] at h
    obtain ⟨resolved, hresolved, h⟩ := bind_ok_iff.mp h
    rw [Option.map_some, hresolved]
    cases resolved with
    | none => exact h
    | some found =>
      dsimp only
      rw [List.mapM_map]
      exact h

/-- The security expression of a select is the conjunction of its filter groups. -/
theorem selectGroups_build {select : Occ} {security : Expr}
    (h : buildSelectSecurityExpression env select = .ok (some security)) :
    ∃ conditions, (selectGroups env select).mapM (FilterGroup.build env) = .ok conditions ∧
      combineExpressions conditions (.string "all") = .ok security := by
  unfold buildSelectSecurityExpression at h
  obtain ⟨conditions, hconditions, h⟩ := bind_ok_iff.mp h
  refine ⟨conditions.flatten, ?_, ?_⟩
  · rw [mapM_ok_iff] at hconditions ⊢
    unfold selectGroups
    generalize getDirectTables select = tables at hconditions
    clear h
    induction hconditions with
    | nil => exact .nil
    | cons hfirst _ ih =>
      have hgroups := mapM_ok_iff.mp (tableConditions_groups hfirst)
      exact List.rel_append hgroups ih
  · split at h
    · cases h
    · cases hcombine : combineExpressions conditions.flatten (.string "all") with
      | error raised =>
        rw [hcombine] at h
        cases h
      | ok combined =>
        rw [hcombine] at h
        exact congrArg _ (Option.some.inj (Except.ok.inj h))

/-- The condition of a select after its visit, for the filter groups of its tables. -/
theorem injectSelect_means {select : Occ} {store store' : Store}
    (h : injectSelect env store select = .ok store') (hfilters : getsFilters env select = true)
    (hparsed : ∀ condition ∈ whereCondition (current store select),
      ∃ tokens, parse sqlLevels tokens = some (tree condition)) :
    ∃ injected, whereCondition (current store' select) = some injected ∧
      (row.Admits injected ↔
        (∀ condition ∈ whereCondition (current store select),
          row.truth (tree condition) = some true) ∧
        ∀ group ∈ selectGroups env select, group.Holds env row) := by
  unfold injectSelect at h
  obtain ⟨security, hsecurity, h⟩ := bind_ok_iff.mp h
  cases security with
  | none =>
    have hnone := buildSelectSecurityExpression_ok hsecurity
    have hconditions : selectConditions env select = [] := by
      cases hcons : selectConditions env select with
      | nil => rfl
      | cons e es =>
        rw [hcons] at hnone
        cases hnone
    rw [(selectConditions_eq_nil_iff hsecurity).mp hconditions] at hfilters
    cases hfilters
  | some security =>
    obtain ⟨conditions, hgroups, hcombine⟩ := selectGroups_build hsecurity
    obtain ⟨hread, hholds⟩ : ReadsBack security ∧
        (row.truth (tree security) = some true ↔ _) := security_means hgroups hcombine
    rw [← pure_ok_iff.mp h, ← hholds]
    exact joined_means hread hparsed

end DataChat.RowFilter
