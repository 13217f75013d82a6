import DataChat.RowFilter.Clauses
import DataChat.RowFilter.Placement

/-!
# What the rules of a filter bring into a statement

The expression of a filter group names one column for each of its rules, and holds the texts of
the values they compare with. `everywhere_group` says so for any property of classes and the
clauses above them, and `secured_everywhere` puts it together with the statement: what holds
everywhere in the secured statement holds everywhere in the statement and of the rules of its
filters.
-/

namespace DataChat.RowFilter

open Sql Outcome Validator

variable {env : Env} {statement result : Expr} {P : List Kind → Kind → Prop} {q : String → Prop}

/-! ## The parts of a rule -/

/-- The column that a rule names and the value it compares with. -/
def ruleParts (env : Env) (allowedTable : AllowedTable) (rule : Json) :
    Option (AllowedColumn × Json) :=
  match rule with
  | .object fields =>
    match JsonObject.get fields "column_id" with
    | some (.string columnId) =>
      match resolveFilterColumn allowedTable columnId, resolveFilterValue env fields with
      | .ok column, .ok value => some (column, value)
      | _, _ => none
    | _ => none
  | _ => none

def groupRules (filterGroup : JsonObject) : List Json :=
  match filterGroup.get "rules" with
  | some (.array rules) => rules
  | _ => []

/-- The reference to a column of the table that is known as `reference`. -/
def filterRef (env : Env) (column : AllowedColumn) (reference : String) : ColumnRef :=
  ⟨some (toIdentifier env.glot column.name), some (toIdentifier env.glot reference), none⟩

/-- The column references and the values of the rules of a group. -/
def groupParts (env : Env) (allowedTable : AllowedTable) (reference : String)
    (filterGroup : JsonObject) : List (ColumnRef × Json) :=
  (groupRules filterGroup).filterMap (fun rule => (ruleParts env allowedTable rule).map
    (fun parts => (filterRef env parts.1 reference, parts.2)))

mutual

/-- The texts that stand in the expression of a value. -/
def valueTexts : Json → List String
  | .null | .bool _ => []
  | .number _ magnitude => [magnitude]
  | .string s => [s]
  | .array items => itemTexts items
  | .object fields => fields.map Prod.fst ++ fieldTexts fields

def itemTexts : List Json → List String
  | [] => []
  | item :: items => valueTexts item ++ itemTexts items

def fieldTexts : List (String × Json) → List String
  | [] => []
  | (_, value) :: fields => valueTexts value ++ fieldTexts fields

end

/-! ## Values -/

/-- The property says something of columns, and of literals by their text; of columns below a
`WHERE` it says the same wherever their select stands. -/
structure Transparent (P : List Kind → Kind → Prop) (q : String → Prop) : Prop
    extends Structural P where
  literal : ∀ above text isString, P above (.literal text isString) ↔ q text
  null : ∀ above, P above .null
  boolean : ∀ above value, P above (.boolean value)
  other : ∀ above, ∀ key ∈ ["neg", "array", "map"], P above (.other key)
  local_ : ∀ above ref, P (.where_ :: .select :: above) (.column ref) ↔
    P [.where_, .select] (.column ref)

theorem everywhere_other (hP : Transparent P q) {key : String}
    (hkey : key ∈ ["neg", "array", "map"]) {args : List (Arg × Expr)} {above : List Kind} :
    Everywhere P above (build (.other key) args) ↔
      ∀ a ∈ args, Everywhere P (.other key :: above) a.2 := by
  rw [everywhere_build]
  exact and_iff_right (hP.other above key hkey)

theorem everywhere_literal (hP : Transparent P q) {text : String} {isString : Bool}
    {above : List Kind} : Everywhere P above (leaf (.literal text isString)) ↔ q text := by
  rw [everywhere_leaf, hP.literal]

mutual

theorem everywhere_convert (hP : Transparent P q) : ∀ (value : Json) (above : List Kind),
    Everywhere P above (convert value) ↔ ∀ text ∈ valueTexts value, q text
  | .null, above => by
    rw [convert, everywhere_leaf, valueTexts]
    exact iff_of_true (hP.null above) (fun text htext => absurd htext List.not_mem_nil)
  | .bool b, above => by
    rw [convert, everywhere_leaf, valueTexts]
    exact iff_of_true (hP.boolean above b) (fun text htext => absurd htext List.not_mem_nil)
  | .number negative magnitude, above => by
    rw [convert, valueTexts, List.forall_mem_singleton]
    split
    · rw [everywhere_other hP (by simp), List.forall_mem_singleton]
      exact everywhere_literal hP
    · exact everywhere_literal hP
  | .string s, above => by
    rw [convert, valueTexts, List.forall_mem_singleton]
    exact everywhere_literal hP
  | .array items, above => by
    rw [convert, valueTexts, everywhere_other hP (by simp)]
    exact everywhere_convertItems hP items _
  | .object fields, above => by
    have hkeys : ∀ above', (∀ a ∈ fields.map (fun f => (Arg.expressions, stringLiteral f.1)),
        Everywhere P above' a.2) ↔ ∀ text ∈ fields.map Prod.fst, q text := by
      intro above'
      rw [List.forall_mem_map, List.forall_mem_map]
      exact forall₂_congr (fun f _ => everywhere_literal hP)
    rw [convert, valueTexts, everywhere_other hP (by simp), List.forall_mem_cons,
      List.forall_mem_singleton, everywhere_other hP (by simp), everywhere_other hP (by simp),
      hkeys, List.forall_mem_append]
    exact and_congr_right' (everywhere_convertFields hP fields _)

theorem everywhere_convertItems (hP : Transparent P q) :
    ∀ (items : List Json) (above : List Kind),
      (∀ a ∈ convertItems items, Everywhere P above a.2) ↔ ∀ text ∈ itemTexts items, q text
  | [], above => by simp [convertItems, itemTexts]
  | item :: items, above => by
    rw [convertItems, itemTexts, List.forall_mem_cons, List.forall_mem_append,
      everywhere_convert hP item, everywhere_convertItems hP items]

theorem everywhere_convertFields (hP : Transparent P q) :
    ∀ (fields : List (String × Json)) (above : List Kind),
      (∀ a ∈ convertFields fields, Everywhere P above a.2) ↔ ∀ text ∈ fieldTexts fields, q text
  | [], above => by simp [convertFields, fieldTexts]
  | (_, value) :: fields, above => by
    rw [convertFields, fieldTexts, List.forall_mem_cons, List.forall_mem_append,
      everywhere_convert hP value, everywhere_convertFields hP fields]

end

/-! ## Rules and groups -/

theorem everywhere_comparison (hP : Transparent P q) {e result : Expr} {operator : String}
    {value : Json} (h : buildComparisonExpression e operator value = .ok result)
    {above : List Kind} :
    Everywhere P above result ↔ Everywhere P above e ∧ ∀ text ∈ valueTexts value, q text := by
  unfold buildComparisonExpression at h
  split at h
  · exact absurd h fail_ne_ok
  · split at h
    · split at h
      · rename_i item items
        have hin : Everywhere P above (build .in_ ((.this, e) :: convertItems (item :: items))) ↔
            Everywhere P above e ∧ ∀ text ∈ valueTexts (.array (item :: items)), q text := by
          rw [everywhere_connective hP.toStructural rfl, List.forall_mem_cons, valueTexts,
            everywhere_convertItems hP]
        split at h
        · obtain rfl := pure_ok_iff.mp h
          rw [everywhere_connective hP.toStructural rfl, List.forall_mem_singleton]
          exact hin
        · obtain rfl := pure_ok_iff.mp h
          exact hin
      · exact absurd h fail_ne_ok
    · obtain rfl := pure_ok_iff.mp h
      rw [everywhere_connective hP.toStructural rfl, List.forall_mem_cons,
        List.forall_mem_singleton, everywhere_convert hP]

/-- The property holds of the column of a rule and of the texts of its value. -/
def PartsHold (P : List Kind → Kind → Prop) (q : String → Prop) (above : List Kind)
    (parts : ColumnRef × Json) : Prop :=
  P above (.column parts.1) ∧ ∀ text ∈ valueTexts parts.2, q text

theorem everywhere_rule (hP : Transparent P q) {allowedTable : AllowedTable} {reference : String}
    {rule : Json} {result : Expr}
    (h : buildRuleExpression env allowedTable reference rule = .ok result) :
    ∃ column value, ruleParts env allowedTable rule = some (column, value) ∧
      ∀ above, Everywhere P above result ↔
        PartsHold P q above (filterRef env column reference, value) := by
  unfold buildRuleExpression at h
  split at h
  · rename_i fields
    split at h
    · rename_i columnId operator hcolumnId _
      obtain ⟨column, hcolumn, h⟩ := bind_ok_iff.mp h
      obtain ⟨value, hvalue, h⟩ := bind_ok_iff.mp h
      refine ⟨column, value, ?_, fun above => ?_⟩
      · dsimp only [ruleParts]
        rw [hcolumnId]
        dsimp only
        rw [hcolumn, hvalue]
      · rw [everywhere_comparison hP h]
        unfold columnExpr PartsHold
        rw [everywhere_leaf]
        rfl
    · exact absurd h fail_ne_ok
    · exact absurd h fail_ne_ok
  · exact absurd h fail_ne_ok

theorem everywhere_combine (hP : Structural P) {expressions : List Expr} {match_ : Json}
    {result : Expr} (h : combineExpressions expressions match_ = .ok result) {above : List Kind} :
    Everywhere P above result ↔ ∀ e ∈ expressions, Everywhere P above e := by
  unfold combineExpressions at h
  split at h
  · exact absurd h fail_ne_ok
  · rename_i first rest
    obtain ⟨known, -, h⟩ := bind_ok_iff.mp h
    split at h
    · exact absurd h fail_ne_ok
    · split at h
      · obtain rfl := pure_ok_iff.mp h
        exact everywhere_foldl (fun l r => everywhere_join hP rfl) first rest
      · obtain rfl := pure_ok_iff.mp h
        exact everywhere_foldl (fun l r => everywhere_join hP rfl) first rest

/-- What holds everywhere in the expression of a group. -/
theorem everywhere_group (hP : Transparent P q) {allowedTable : AllowedTable} {reference : String}
    {filterGroup : JsonObject} {result : Expr}
    (h : buildFilterGroupExpression env allowedTable reference filterGroup = .ok result)
    {above : List Kind} :
    Everywhere P above result ↔
      ∀ parts ∈ groupParts env allowedTable reference filterGroup, PartsHold P q above parts := by
  unfold buildFilterGroupExpression at h
  dsimp only at h
  split at h
  · rename_i rule rules hrules
    have hgroup : groupRules filterGroup = rule :: rules := by
      unfold groupRules
      rw [hrules]
    obtain ⟨expressions, hexpressions, h⟩ := bind_ok_iff.mp h
    rw [everywhere_combine hP.toStructural h]
    unfold groupParts
    rw [hgroup]
    constructor
    · intro hall parts hparts
      obtain ⟨r, hr, hpartsOf⟩ := List.mem_filterMap.mp hparts
      obtain ⟨e, he, hbuilt⟩ := mapM_ok_left hexpressions hr
      obtain ⟨column, value, hruleParts, hiff⟩ := everywhere_rule hP hbuilt
      rw [hruleParts, Option.map_some, Option.some.injEq] at hpartsOf
      rw [← hpartsOf]
      exact (hiff above).mp (hall e he)
    · intro hall e he
      obtain ⟨r, hr, hbuilt⟩ := mapM_ok_right hexpressions he
      obtain ⟨column, value, hruleParts, hiff⟩ := everywhere_rule hP hbuilt
      refine (hiff above).mpr (hall _ (List.mem_filterMap.mpr ⟨r, hr, ?_⟩))
      rw [hruleParts]
      rfl
  · exact absurd h fail_ne_ok

/-! ## The rules that a statement gets -/

/-- The column references and the values that a table reference brings into the statement. -/
def addedParts (env : Env) (occ : Occ) : List (ColumnRef × Json) :=
  match tableOf occ with
  | none => []
  | some table =>
    if Attached env occ ∧ insideCte occ = false then
      match matchedEntry env table with
      | none => []
      | some allowedTable => allowedTable.row_filters.flatMap
          (groupParts env allowedTable (tableReference table))
    else []

theorem addedParts_of_noFilters {occ : Occ} (h : hasFilters env occ = false) :
    addedParts env occ = [] := by
  unfold addedParts
  split
  · rfl
  · rename_i table href
    split
    · rename_i hcondition
      split
      · rfl
      · rename_i allowedTable hmatched
        have hempty : allowedTable.row_filters = [] := by
          simpa [hasFilters, href, hcondition.2, hmatched] using h
        rw [hempty]
        rfl
    · rfl

/-- What holds everywhere in the conjuncts of a table reference. -/
theorem everywhere_addedFor (hP : Transparent P q)
    (h : injectStatement env statement = .ok result) {occ : Occ} (hocc : occ ∈ statement.walk)
    (htable : occ.node.label.kind.isTable = true) {above : List Kind} :
    (∀ e ∈ addedFor env occ, Everywhere P above e) ↔
      ∀ parts ∈ addedParts env occ, PartsHold P q above parts := by
  by_cases hattached : Attached env occ
  · obtain ⟨conditions, hconditions⟩ := tableConditions_of_attached h hocc htable hattached
    rw [addedFor_of_attached hattached, conditionsOf_eq hconditions]
    rcases tableConditions_ok hconditions with ⟨hno, rfl⟩ | ⟨table, allowedTable, href, hcte,
      hmatched, hmap⟩
    · rw [addedParts_of_noFilters hno]
      exact iff_of_true (fun e he => absurd he List.not_mem_nil)
        (fun parts hparts => absurd hparts List.not_mem_nil)
    · have hparts : addedParts env occ = allowedTable.row_filters.flatMap
          (groupParts env allowedTable (tableReference table)) := by
        unfold addedParts
        rw [href]
        dsimp only
        rw [if_pos ⟨hattached, hcte⟩, hmatched]
      rw [hparts, List.forall_mem_flatMap]
      constructor
      · intro hall group hgroup
        obtain ⟨e, he, hbuilt⟩ := mapM_ok_left hmap hgroup
        exact (everywhere_group hP hbuilt).mp (hall e he)
      · intro hall e he
        obtain ⟨group, hgroup, hbuilt⟩ := mapM_ok_right hmap he
        exact (everywhere_group hP hbuilt).mpr (hall group hgroup)
  · have hnone : addedParts env occ = [] := by
      unfold addedParts
      split
      · rfl
      · rw [if_neg (fun h => hattached h.1)]
    rw [addedFor_of_not_attached hattached, hnone]
    exact iff_of_true (fun e he => absurd he List.not_mem_nil)
      (fun parts hparts => absurd hparts List.not_mem_nil)

/-! ## The secured statement -/

theorem mem_documentOrder_root {e : Expr} {occ : Occ} :
    occ ∈ (Cursor.root e).documentOrder ↔ occ ∈ e.walk := by
  rw [Cursor.mem_documentOrder, Rose.mem_walk]

theorem attached_of_addedParts {occ : Occ} {parts : ColumnRef × Json}
    (h : parts ∈ addedParts env occ) :
    occ.node.label.kind.isTable = true ∧ Attached env occ := by
  unfold addedParts at h
  split at h
  · cases h
  · rename_i table htable
    split at h
    · rename_i hattached
      exact ⟨isTable_of_tableOf htable, hattached.1⟩
    · cases h

theorem addedFor_subset {occ select : Occ} (hocc : occ ∈ statement.walk)
    (htable : occ.node.label.kind.isTable = true)
    (hselect : findAncestor Kind.isSelect occ = some select) {e : Expr}
    (he : e ∈ addedFor env occ) : e ∈ addedTo env select := by
  have hwithin := Rose.mem_walk.mp hocc
  have hselectWithin := (findAncestor_within hwithin hselect).1
  rw [addedTo_eq hselectWithin]
  exact List.mem_flatMap.mpr
    ⟨occ, (mem_getDirectTables_iff hselectWithin).mpr ⟨hwithin, htable, hselect⟩, he⟩

/-- A conjunct of a select is there for one of its tables. -/
theorem addedFor_of_addedTo {select : Occ} (hselect : select ∈ statement.walk) {e : Expr}
    (he : e ∈ addedTo env select) :
    ∃ occ ∈ statement.walk, occ.node.label.kind.isTable = true ∧
      findAncestor Kind.isSelect occ = some select ∧ e ∈ addedFor env occ := by
  have hselectWithin := Rose.mem_walk.mp hselect
  rw [addedTo_eq hselectWithin] at he
  obtain ⟨occ, hdirect, he⟩ := List.mem_flatMap.mp he
  obtain ⟨hocc, htable, hancestor⟩ := (mem_getDirectTables_iff hselectWithin).mp hdirect
  exact ⟨occ, Rose.mem_walk.mpr hocc, htable, hancestor, he⟩

theorem partsHold_local (hP : Transparent P q) {above : List Kind} {parts : ColumnRef × Json} :
    PartsHold P q (.where_ :: .select :: above) parts ↔ PartsHold P q [.where_, .select] parts :=
  and_congr_left' (hP.local_ above parts.1)

/-- What holds everywhere in the conjuncts of the selects. -/
theorem everywhere_addedTo (hP : Transparent P q)
    (h : injectStatement env statement = .ok result) :
    (∀ select ∈ statement.walk, select.node.label.kind.isSelect = true →
        ∀ e ∈ addedTo env select, Everywhere P (.where_ :: .select :: clausesOf select) e) ↔
      ∀ occ ∈ statement.walk, ∀ parts ∈ addedParts env occ,
        PartsHold P q [.where_, .select] parts := by
  constructor
  · intro hall occ hocc parts hparts
    obtain ⟨htable, hattached⟩ := attached_of_addedParts hparts
    obtain ⟨select, hselect, -⟩ := id hattached
    obtain ⟨hwithin, hkind, -⟩ := findAncestor_within (Rose.mem_walk.mp hocc) hselect
    have hconjuncts := hall select (Rose.mem_walk.mpr hwithin) hkind
    have hparts' := (everywhere_addedFor hP h hocc htable).mp
      (fun e he => hconjuncts e (addedFor_subset hocc htable hselect he)) parts hparts
    exact (partsHold_local hP).mp hparts'
  · intro hparts select hselect _ e he
    obtain ⟨occ, hocc, htable, -, he⟩ := addedFor_of_addedTo hselect he
    refine (everywhere_addedFor hP h hocc htable).mpr (fun parts hmem => ?_) e he
    exact (partsHold_local hP).mpr (hparts occ hocc parts hmem)

/-- What holds everywhere in a secured statement: it holds everywhere in the statement, and of the
rules of its filters in a `WHERE`. -/
theorem secured_everywhere (hP : Transparent P q) (h : injectStatement env statement = .ok result)
    (hwhere : ∀ occ ∈ statement.walk, occ.node.label.kind.isSelect = true →
      SingleWhere occ.node) :
    Everywhere P [] result ↔
      (∀ occ ∈ statement.walk, P (clausesOf occ) occ.node.label.kind) ∧
        ∀ occ ∈ statement.walk, ∀ parts ∈ addedParts env occ,
          PartsHold P q [.where_, .select] parts := by
  have hroot := everywhere_conjunctsAt (f := addedTo env) hP.toStructural (Cursor.root statement)
    (fun d hd => hwhere d (mem_documentOrder_root.mp hd))
  simp only [mem_documentOrder_root] at hroot
  rw [injectStatement_eq h, ← everywhere_addedTo hP h]
  exact hroot.trans forall₂_and

/-- The classes that a filter brings into a statement. -/
def isFilterKind : Kind → Bool
  | .where_ | .literal _ _ | .null | .boolean _ | .column _ => true
  | .other key => decide (key ∈ ["neg", "array", "map"])
  | k => isConnective k

theorem transparent_kinds {p : Kind → Prop} (hp : ∀ k, isFilterKind k = true → p k) :
    Transparent (fun _ k => p k) (fun _ => True) := by
  refine ⟨⟨fun above k hk => hp k ?_, fun above => hp _ rfl⟩, fun above text isString => ?_,
    fun above => hp _ rfl, fun above value => hp _ rfl, fun above key hkey => hp _ ?_,
    fun above ref => Iff.rfl⟩
  · cases k <;> first | rfl | cases hk
  · exact iff_of_true (hp _ rfl) trivial
  · exact decide_eq_true hkey

/-- A filter changes nothing about the other classes. -/
theorem secured_allKinds {p : Kind → Prop} (hp : ∀ k, isFilterKind k = true → p k)
    (h : injectStatement env statement = .ok result)
    (hwhere : ∀ occ ∈ statement.walk, occ.node.label.kind.isSelect = true →
      SingleWhere occ.node) :
    AllKinds p result ↔ AllKinds p statement := by
  refine (secured_everywhere (transparent_kinds hp) h hwhere).trans (and_iff_left ?_)
  intro occ _ parts _
  exact ⟨hp _ rfl, fun text _ => trivial⟩

/-- What is said about all columns, by the clauses above them. -/
theorem secured_columns {C : List Kind → ColumnRef → Prop}
    (hlocal : ∀ above ref, C (.where_ :: .select :: above) ref ↔ C [.where_, .select] ref)
    (h : injectStatement env statement = .ok result)
    (hwhere : ∀ occ ∈ statement.walk, occ.node.label.kind.isSelect = true →
      SingleWhere occ.node) :
    (∀ occ ∈ result.walk, ∀ column ∈ columnOf occ, C (clausesOf occ) column) ↔
      (∀ occ ∈ statement.walk, ∀ column ∈ columnOf occ, C (clausesOf occ) column) ∧
        ∀ occ ∈ statement.walk, ∀ parts ∈ addedParts env occ, C [.where_, .select] parts.1 := by
  let P : List Kind → Kind → Prop := fun above k => ∀ ref, k = .column ref → C above ref
  have hP : Transparent P (fun _ => True) := by
    refine ⟨⟨fun above k hk ref href => ?_, fun above ref href => ?_⟩,
      fun above text isString => ?_, fun above ref href => ?_, fun above value ref href => ?_,
      fun above key _ ref href => ?_, fun above ref => ?_⟩
    · rw [href] at hk
      cases hk
    · cases href
    · refine iff_of_true (fun ref href => ?_) trivial
      cases href
    · cases href
    · cases href
    · cases href
    · constructor
      · intro hall ref' href
        exact (hlocal above ref').mp (hall ref' href)
      · intro hall ref' href
        exact (hlocal above ref').mpr (hall ref' href)
  have hcolumn : ∀ {occ : Occ} {ref : ColumnRef},
      ref ∈ columnOf occ ↔ occ.node.label.kind = .column ref := by
    intro occ ref
    rw [Option.mem_def]
    unfold columnOf
    cases occ.node.label.kind <;> simp
  have heverywhere := secured_everywhere hP h hwhere
  simp only [hcolumn]
  refine (Iff.of_eq ?_).trans (heverywhere.trans (and_congr_right' ?_))
  · unfold Everywhere
    simp only [List.append_nil]
    rfl
  · refine forall₂_congr (fun occ _ => forall₂_congr (fun parts _ => ?_))
    constructor
    · intro hparts
      exact hparts.1 parts.1 rfl
    · intro hC
      refine ⟨fun ref href => ?_, fun text _ => trivial⟩
      cases href
      exact hC

/-- The select gets conjuncts, and keeps them. -/
def getsConjuncts (env : Env) (select : Occ) : Bool :=
  !detachedFrom env select.above && getsFilters env select

/-- The table references in the order in which they are visited after the injection. -/
def tablesAfter (env : Env) (statement : Expr) : List TableRef :=
  byLevel (tablesBelow (getsConjuncts env) (Cursor.root statement))

theorem addedTo_ne_nil_iff (h : injectStatement env statement = .ok result) {select : Occ}
    (hselect : select ∈ statement.walk) (hkind : select.node.label.kind.isSelect = true) :
    addedTo env select ≠ [] ↔ getsConjuncts env select = true := by
  unfold injectStatement at h
  obtain ⟨store, hloop, -⟩ := bind_ok_iff.mp h
  obtain ⟨security, hsecurity⟩ :=
    (loop_holds hloop).built select (visited_of_select (Rose.mem_walk.mp hselect) hkind)
  have hnil := selectConditions_eq_nil_iff hsecurity
  unfold addedTo getsConjuncts
  cases hdetached : detachedFrom env select.above with
  | true => simp
  | false => simp [hnil]

theorem tablesOf_secured (h : injectStatement env statement = .ok result)
    (hwhere : ∀ occ ∈ statement.walk, occ.node.label.kind.isSelect = true →
      SingleWhere occ.node) :
    tablesOf result = tablesAfter env statement := by
  have hP : Transparent (fun _ k => k.isTable = false) (fun _ => True) := by
    refine transparent_kinds (fun k hk => ?_)
    cases k <;> first | rfl | cases hk
  have hlocated := located_conjunctsAt (f := addedTo env) (getsConjuncts env)
    (Cursor.root statement) (fun d hd hselect => by
      have hmem := mem_documentOrder_root.mp hd
      refine ⟨hwhere d hmem hselect, addedTo_ne_nil_iff h hmem hselect, fun e he => ?_⟩
      obtain ⟨occ, hocc, htable, -, he⟩ := addedFor_of_addedTo hmem he
      have hnone : ∀ e ∈ addedFor env occ, Everywhere (fun _ k => k.isTable = false) [] e :=
        (everywhere_addedFor hP h hocc htable).mpr (fun _ _ => ⟨rfl, fun _ _ => trivial⟩)
      exact hnone e he)
  unfold tablesOf tablesAfter
  rw [← hlocated, injectStatement_eq h]
  exact Rose.walk_filterMap tableAt _

/-- The references are those of the statement. -/
theorem mem_tablesAfter {table : TableRef} :
    table ∈ tablesAfter env statement ↔ table ∈ tablesOf statement := by
  unfold tablesAfter tablesBelow tablesOf
  rw [mem_byLevel, List.mem_filterMap]
  constructor
  · rintro ⟨p, hp, rfl⟩
    obtain ⟨occ, hocc, hp⟩ := List.mem_filterMap.mp hp
    obtain ⟨ref, href, rfl⟩ := Option.map_eq_some_iff.mp hp
    exact ⟨occ, mem_documentOrder_root.mp hocc, href⟩
  · rintro ⟨occ, hocc, href⟩
    refine ⟨(depthAfter (getsConjuncts env) occ.above, table), List.mem_filterMap.mpr
      ⟨occ, mem_documentOrder_root.mpr hocc, ?_⟩, rfl⟩
    rw [href]
    rfl

end DataChat.RowFilter
