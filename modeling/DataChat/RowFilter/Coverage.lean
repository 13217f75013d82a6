import DataChat.RowFilter.Conjuncts
import DataChat.RowFilter.Rules

/-!
# Are the row filters placed on the right tables?

A table reference that SQL resolves to an allowed table must have all filter groups of that table in
the `WHERE` of its select, qualified by a name that stands for that reference there; for a
reference to a CTE nothing may be added. Both are read off the conditions of the result.

* `mem_gained_iff`: the conjuncts that a select gains are those of the filter groups found for its
  tables.
* `filtersPlaced_iff`: exactly when the filters are placed right, and the injector agrees with
  the validator about which references are stored tables.
* `cte_body_not_placed`: a filtered table that is read through a CTE without its filter.
-/

namespace DataChat.RowFilter

open Sql Outcome Validator

variable {env : Env} {catalog : Catalog} {statement result : Expr}

/-! ## The conjuncts of a group -/

theorem allKinds_conjunctsOf {q : Kind → Prop} (hand : q .and_) (hparen : q .paren) (e : Expr) :
    (∀ c ∈ conjunctsOf e, AllKinds q c) ↔ AllKinds q e := by
  induction e using Rose.induction with
  | hnode label children ih =>
    by_cases hjoin : label.kind = .and_ ∨ label.kind = .paren
    · have hlabel : q label.kind := by
        rcases hjoin with h | h <;> rw [h] <;> assumption
      rw [conjunctsOf_join hjoin, List.forall_mem_flatMap, allKinds_node]
      exact (forall₂_congr ih).trans (and_iff_right hlabel).symm
    · rw [conjunctsOf_other (not_or.mp hjoin), List.forall_mem_singleton, allKinds_node,
        allKinds_node]

/-- The condition of a group has columns only under the reference, and no selects. -/
theorem noSelect_group {allowedTable : AllowedTable} {reference : String}
    {filterGroup : JsonObject} {e : Expr}
    (h : buildFilterGroupExpression env allowedTable reference filterGroup = .ok e) :
    AllKinds (fun k => k.isSelect = false) e := by
  have hP : Transparent (fun _ k => k.isSelect = false) (fun _ => True) := by
    refine transparent_kinds (fun k hk => ?_)
    cases k <;> first | rfl | cases hk
  have heverywhere : Everywhere (fun _ k => k.isSelect = false) [] e :=
    (everywhere_group hP h).mpr (fun parts _ => ⟨rfl, fun text _ => trivial⟩)
  exact heverywhere

theorem noSelect_conjunct {allowedTable : AllowedTable} {reference : String}
    {filterGroup : JsonObject} {e c : Expr}
    (h : buildFilterGroupExpression env allowedTable reference filterGroup = .ok e)
    (hc : c ∈ conjunctsOf e) : AllKinds (fun k => k.isSelect = false) c :=
  (allKinds_conjunctsOf (q := fun k => k.isSelect = false) rfl rfl e).mpr (noSelect_group h) c hc

/-- Some column of the expression has the text as its qualifier. -/
def Mentions (reference : String) (e : Expr) : Prop :=
  ∃ occ ∈ e.walk, ∃ ref ∈ columnOf occ, identText ref.table = reference

/-- The conjuncts of a group mention the reference that it was built for, and no other one. -/
theorem mentions_group {allowedTable : AllowedTable} {reference reference' : String}
    {filterGroup : JsonObject} {e : Expr}
    (h : buildFilterGroupExpression env allowedTable reference filterGroup = .ok e) :
    (∃ c ∈ conjunctsOf e, Mentions reference' c) ↔ reference = reference' := by
  have hqualified := groupExpression_qualified h
  have hall : ∀ c ∈ conjunctsOf e, AllKinds (QualifiedBy (toIdentifier env.glot reference)) c := by
    refine (allKinds_conjunctsOf ?_ ?_ e).mpr hqualified.all <;> intro ref href <;> cases href
  have htext : ∀ c ∈ conjunctsOf e, ∀ occ ∈ c.walk, ∀ ref ∈ columnOf occ,
      identText ref.table = reference := by
    intro c hc occ hocc ref href
    have hkind : occ.node.label.kind = .column ref := by
      rw [Option.mem_def] at href
      unfold columnOf at href
      split at href
      · rename_i ref' href'
        rw [href', Option.some.inj href]
      · cases href
    rw [hall c hc occ hocc ref hkind]
    rfl
  constructor
  · rintro ⟨c, hc, occ, hocc, ref, href, hreference⟩
    rw [← htext c hc occ hocc ref href, hreference]
  · rintro rfl
    by_contra hnone
    refine hqualified.some ?_
    refine (allKinds_conjunctsOf (q := fun k => k.isColumn = false) rfl rfl e).mp ?_
    intro c hc occ hocc
    by_contra hcolumn
    rw [Bool.not_eq_false] at hcolumn
    obtain ⟨ref, hkind⟩ := isColumn_iff.mp hcolumn
    have href : ref ∈ columnOf occ := by
      unfold columnOf
      rw [hkind]
      rfl
    exact hnone ⟨c, hc, occ, hocc, ref, href, htext c hc occ hocc ref href⟩

theorem conjunctsOf_ne_nil {allowedTable : AllowedTable} {reference : String}
    {filterGroup : JsonObject} {e : Expr}
    (h : buildFilterGroupExpression env allowedTable reference filterGroup = .ok e) :
    conjunctsOf e ≠ [] := by
  obtain ⟨c, hc, -⟩ := (mentions_group h).mpr rfl
  exact List.ne_nil_of_mem hc

/-! ## What a select gains -/

/-- Some table of the select adds a filter group with this conjunct. -/
def Brings (env : Env) (statement : Expr) (select : Occ) (c : Expr) : Prop :=
  ∃ occ ∈ statement.walk, findAncestor Kind.isSelect occ = some select ∧
    ∃ e, Adds env occ e ∧ c ∈ conjunctsOf e

theorem isTable_of_adds {occ : Occ} {e : Expr} (h : Adds env occ e) :
    occ.node.label.kind.isTable = true := by
  obtain ⟨-, -, table, htable, -⟩ := h
  exact isTable_of_tableOf htable

theorem mem_addedTo_iff {select : Occ} (h : injectStatement env statement = .ok result)
    (hselect : select ∈ statement.walk) {e : Expr} :
    e ∈ addedTo env select ↔
      ∃ occ ∈ statement.walk, findAncestor Kind.isSelect occ = some select ∧ Adds env occ e := by
  constructor
  · intro he
    obtain ⟨occ, hocc, htable, hancestor, he⟩ := addedFor_of_addedTo hselect he
    exact ⟨occ, hocc, hancestor, (mem_addedFor_iff h hocc htable).mp he⟩
  · rintro ⟨occ, hocc, hancestor, hadds⟩
    have htable := isTable_of_adds hadds
    exact addedFor_subset hocc htable hancestor ((mem_addedFor_iff h hocc htable).mpr hadds)

theorem mem_addedConjuncts_iff {select : Occ} (h : injectStatement env statement = .ok result)
    (hselect : select ∈ statement.walk) {c : Expr} :
    c ∈ (addedTo env select).flatMap conjunctsOf ↔ Brings env statement select c := by
  rw [List.mem_flatMap]
  constructor
  · rintro ⟨e, he, hc⟩
    obtain ⟨occ, hocc, hancestor, hadds⟩ := (mem_addedTo_iff h hselect).mp he
    exact ⟨occ, hocc, hancestor, e, hadds, hc⟩
  · rintro ⟨occ, hocc, hancestor, e, hadds, hc⟩
    exact ⟨e, (mem_addedTo_iff h hselect).mpr ⟨occ, hocc, hancestor, hadds⟩, hc⟩

theorem noSelect_addedTo {select : Occ} (h : injectStatement env statement = .ok result)
    (hselect : select ∈ statement.walk) {e : Expr} (he : e ∈ addedTo env select) :
    AllKinds (fun k => k.isSelect = false) e := by
  obtain ⟨occ, -, -, -, -, table, -, matched, -, group, -, hbuilt⟩ :=
    (mem_addedTo_iff h hselect).mp he
  exact noSelect_group hbuilt

/-- Each select of a statement, with the conjuncts of the select that stands in its place in the
secured statement. -/
theorem gains_secured (h : injectStatement env statement = .ok result)
    (hwhere : ∀ occ ∈ statement.walk, occ.node.label.kind.isSelect = true →
      SingleWhere occ.node) :
    List.Forall₂ (Gains (addedTo env)) (selectsOf statement) (conjunctsBySelect result) := by
  rw [injectStatement_eq h]
  refine gains_withConjuncts (fun select hselect hkind => ⟨hwhere select hselect hkind, ?_⟩)
  exact fun e he => noSelect_addedTo h hselect he

section Selects

variable {select : Occ} {conjuncts : List Expr}
  (h : injectStatement env statement = .ok result)
  (hwhere : ∀ occ ∈ statement.walk, occ.node.label.kind.isSelect = true → SingleWhere occ.node)

include h hwhere

/-- The select of an occurrence has a counterpart in the secured statement. -/
theorem exists_conjunctsAfter {occ : Occ} (hocc : occ ∈ statement.walk)
    (hselect : findAncestor Kind.isSelect occ = some select) :
    ∃ conjuncts, (select, conjuncts) ∈ conjunctsAfter statement result := by
  obtain ⟨hwithin, hkind, -⟩ := findAncestor_within (Rose.mem_walk.mp hocc) hselect
  have hlength := (gains_secured h hwhere).length_eq
  obtain ⟨i, hi, hget⟩ := List.mem_iff_getElem.mp (mem_selectsOf.mpr ⟨hwithin, hkind⟩)
  refine ⟨(conjunctsBySelect result)[i], List.mem_iff_getElem.mpr ⟨i, ?_, ?_⟩⟩
  · unfold conjunctsAfter
    rw [List.length_zip, hlength, Nat.min_self]
    exact hlength ▸ hi
  · unfold conjunctsAfter
    rw [List.getElem_zip, hget]

theorem gains_after (hafter : (select, conjuncts) ∈ conjunctsAfter statement result) :
    Gains (addedTo env) select conjuncts := List.forall₂_zip (gains_secured h hwhere) hafter

/-- What a select gains comes from the filter groups that are found for its tables. -/
theorem mem_gained_iff (hafter : (select, conjuncts) ∈ conjunctsAfter statement result)
    {c : Expr} : c ∈ gained (select, conjuncts) ↔ Brings env statement select c := by
  have hselect := (mem_selectsOf.mp (List.of_mem_zip hafter).1).1
  rw [(gains_after h hwhere hafter).gained]
  exact mem_addedConjuncts_iff h (Rose.mem_walk.mpr hselect)

/-- A condition without selects stands in the `WHERE` of the result when it did before, or when a
table of the select brings it. -/
theorem mem_conjuncts_iff (hafter : (select, conjuncts) ∈ conjunctsAfter statement result)
    {c : Expr} (hnone : AllKinds (fun k => k.isSelect = false) c) :
    c ∈ conjuncts ↔ c ∈ whereConjuncts select.node ∨ Brings env statement select c := by
  have hselect := (mem_selectsOf.mp (List.of_mem_zip hafter).1).1
  rw [(gains_after h hwhere hafter).mem_iff hnone,
    mem_addedConjuncts_iff h (Rose.mem_walk.mpr hselect)]

end Selects

/-! ## Placement -/

/-- The `WHERE` of the select in the result holds every filter group of the table as conjuncts,
qualified by a name that stands for the reference. -/
def Covers (env : Env) (catalog : Catalog) (statement result : Expr) (occ : Occ)
    (allowedTable : AllowedTable) : Prop :=
  ∀ group ∈ allowedTable.row_filters, ∃ select ∈ findAncestor Kind.isSelect occ,
    ∃ conjuncts, (select, conjuncts) ∈ conjunctsAfter statement result ∧
      ∃ reference e, Names env catalog occ (toIdentifier env.glot reference) ∧
        buildFilterGroupExpression env allowedTable reference group = .ok e ∧
        conjunctsOf e ⊆ conjuncts

/-- No conjunct has been added under the name of the reference. -/
def Untouched (statement result : Expr) (occ : Occ) : Prop :=
  ∀ table ∈ tableOf occ, ∀ select ∈ findAncestor Kind.isSelect occ,
    ∀ conjuncts, (select, conjuncts) ∈ conjunctsAfter statement result →
      ∀ c ∈ gained (select, conjuncts), ¬ Mentions (tableReference table) c

structure FiltersPlaced (env : Env) (catalog : Catalog) (statement result : Expr) : Prop where
  /-- Nothing but the conditions of selects has changed. -/
  rest : withoutWheres result = withoutWheres statement
  /-- Conjuncts are added to those that were there. -/
  kept : List.Forall₂ (fun select conjuncts =>
    (whereConjuncts select.node).map withoutWheres <+: conjuncts.map withoutWheres)
    (selectsOf statement) (conjunctsBySelect result)
  /-- A conjunct that is added belongs to a filter group that is found for a table of the select. -/
  brought : ∀ p ∈ conjunctsAfter statement result, ∀ c ∈ gained p, Brings env statement p.1 c
  stored : ∀ occ ∈ statement.walk, isIntoTarget occ = false →
    ∀ allowedTable ∈ storedTables env catalog occ,
      Covers env catalog statement result occ allowedTable
  cte : ∀ occ ∈ statement.walk, BoundToCte env.py occ → Untouched statement result occ
  agree : ∀ occ ∈ statement.walk, ∀ table ∈ tableOf occ, ResolversAgree env statement occ table

/-! ## Exactly when -/

/-- Under some name that stands for the reference, each conjunct of the group is in the `WHERE`
already, or it is brought by a table that stands directly in the select. -/
def Finds (env : Env) (catalog : Catalog) (statement : Expr) (occ : Occ)
    (allowedTable : AllowedTable) (group : JsonObject) : Prop :=
  ∃ select ∈ findAncestor Kind.isSelect occ, ∃ reference e,
    Names env catalog occ (toIdentifier env.glot reference) ∧
      buildFilterGroupExpression env allowedTable reference group = .ok e ∧
      ∀ c ∈ conjunctsOf e, c ∈ whereConjuncts select.node ∨ Brings env statement select c

/-- The reference has its own filter: it is attached and stands outside CTE bodies, its own alias or
name stands for it when it is printed again, and the allowed table of its name has the same
filter. -/
def FindsOwn (env : Env) (catalog : Catalog) (occ : Occ) (allowedTable : AllowedTable)
    (group : JsonObject) : Prop :=
  Attached env occ ∧ insideCte occ = false ∧ ∃ table ∈ tableOf occ,
    ∃ matched ∈ matchedEntry env table,
    Names env catalog occ (toIdentifier env.glot (tableReference table)) ∧
    ∃ group' ∈ matched.row_filters,
      buildFilterGroupExpression env matched (tableReference table) group' =
        buildFilterGroupExpression env allowedTable (tableReference table) group

/-- A filtered table that is found in the same select has another name. -/
def NamedApart (env : Env) (statement : Expr) (occ : Occ) : Prop :=
  ∀ table ∈ tableOf occ, ∀ other ∈ statement.walk, Attached env other →
    hasFilters env other = true →
    findAncestor Kind.isSelect other = findAncestor Kind.isSelect occ →
    ∀ table' ∈ tableOf other, tableReference table' ≠ tableReference table

structure FiltersPlaceable (env : Env) (catalog : Catalog) (statement : Expr) : Prop where
  stored : ∀ occ ∈ statement.walk, isIntoTarget occ = false →
    ∀ allowedTable ∈ storedTables env catalog occ, ∀ group ∈ allowedTable.row_filters,
      Finds env catalog statement occ allowedTable group
  cte : ∀ occ ∈ statement.walk, BoundToCte env.py occ → NamedApart env statement occ
  agree : ∀ occ ∈ statement.walk, ∀ table ∈ tableOf occ, Matches env table →
    (TakenForStored env statement table ↔ insideCte occ = false)

instance (env : Env) (catalog : Catalog) (occ : Occ) (allowedTable : AllowedTable)
    (group : JsonObject) : Decidable (FindsOwn env catalog occ allowedTable group) :=
  inferInstanceAs (Decidable (_ ∧ _ ∧ ∃ _ ∈ _, ∃ _ ∈ _, _ ∧ ∃ _ ∈ _, _))

instance (env : Env) (statement : Expr) (occ : Occ) : Decidable (NamedApart env statement occ) :=
  inferInstanceAs (Decidable (∀ _ ∈ _, ∀ _ ∈ _, _ → _ → _ → ∀ _ ∈ _, _))

/-- A filter group of an attached table outside CTE bodies could be built. -/
theorem exists_adds {occ : Occ} {table : TableRef} {matched : AllowedTable} {group : JsonObject}
    (h : injectStatement env statement = .ok result) (hocc : occ ∈ statement.walk)
    (hattached : Attached env occ) (hcte : insideCte occ = false)
    (htable : tableOf occ = some table) (hmatched : matchedEntry env table = some matched)
    (hgroup : group ∈ matched.row_filters) :
    ∃ e, buildFilterGroupExpression env matched (tableReference table) group = .ok e ∧
      Adds env occ e := by
  obtain ⟨conditions, hconditions⟩ :=
    tableConditions_of_attached h hocc (isTable_of_tableOf htable) hattached
  rcases tableConditions_ok hconditions with ⟨hno, -⟩ | ⟨table', matched', htable', -, hmatched',
    hmap⟩
  · have hfilters : hasFilters env occ = true :=
      hasFilters_iff.mpr ⟨hcte, table, htable, matched, hmatched, List.ne_nil_of_mem hgroup⟩
    rw [hno] at hfilters
    cases hfilters
  · obtain rfl := Option.some.inj (htable.symm.trans htable')
    obtain rfl := Option.some.inj (hmatched.symm.trans hmatched')
    obtain ⟨e, -, hbuilt⟩ := mapM_ok_left hmap hgroup
    exact ⟨e, hbuilt, hattached, hcte, table, htable, matched, hmatched, group, hgroup, hbuilt⟩

theorem finds_of_own {occ : Occ} {allowedTable : AllowedTable} {group : JsonObject}
    (h : injectStatement env statement = .ok result) (hocc : occ ∈ statement.walk)
    (hown : FindsOwn env catalog occ allowedTable group) :
    Finds env catalog statement occ allowedTable group := by
  obtain ⟨hattached, hcte, table, htable, matched, hmatched, hnames, group', hgroup', hsame⟩ := hown
  obtain ⟨e, hbuilt, hadds⟩ := exists_adds h hocc hattached hcte htable hmatched hgroup'
  obtain ⟨select, hselect, -⟩ := hattached
  refine ⟨select, hselect, tableReference table, e, hnames, hsame.symm.trans hbuilt, ?_⟩
  exact fun c hc => .inr ⟨occ, hocc, hselect, e, hadds, hc⟩

section Secured

variable (h : injectStatement env statement = .ok result)
  (hwhere : ∀ occ ∈ statement.walk, occ.node.label.kind.isSelect = true → SingleWhere occ.node)

include h hwhere

/-- A filter group of an attached table outside CTE bodies is gained by its select. -/
theorem exists_gained {occ : Occ} {table : TableRef} {matched : AllowedTable}
    {group : JsonObject} (hocc : occ ∈ statement.walk) (hattached : Attached env occ)
    (hcte : insideCte occ = false) (htable : tableOf occ = some table)
    (hmatched : matchedEntry env table = some matched) (hgroup : group ∈ matched.row_filters) :
    ∃ select, findAncestor Kind.isSelect occ = some select ∧
      ∃ conjuncts, (select, conjuncts) ∈ conjunctsAfter statement result ∧
        ∃ e, buildFilterGroupExpression env matched (tableReference table) group = .ok e ∧
          ∀ c ∈ conjunctsOf e, c ∈ gained (select, conjuncts) := by
  obtain ⟨e, hbuilt, hadds⟩ := exists_adds h hocc hattached hcte htable hmatched hgroup
  obtain ⟨select, hselect, -⟩ := hattached
  obtain ⟨conjuncts, hafter⟩ := exists_conjunctsAfter h hwhere hocc hselect
  refine ⟨select, hselect, conjuncts, hafter, e, hbuilt, fun c hc => ?_⟩
  exact (mem_gained_iff h hwhere hafter).mpr ⟨occ, hocc, hselect, e, hadds, hc⟩

theorem covers_iff {occ : Occ} {allowedTable : AllowedTable} (hocc : occ ∈ statement.walk) :
    Covers env catalog statement result occ allowedTable ↔
      ∀ group ∈ allowedTable.row_filters, Finds env catalog statement occ allowedTable group := by
  refine forall₂_congr (fun group _ => ?_)
  constructor
  · rintro ⟨select, hselect, conjuncts, hafter, reference, e, hnames, hbuilt, hmem⟩
    refine ⟨select, hselect, reference, e, hnames, hbuilt, fun c hc => ?_⟩
    exact (mem_conjuncts_iff h hwhere hafter (noSelect_conjunct hbuilt hc)).mp (hmem hc)
  · rintro ⟨select, hselect, reference, e, hnames, hbuilt, hmem⟩
    obtain ⟨conjuncts, hafter⟩ := exists_conjunctsAfter h hwhere hocc hselect
    refine ⟨select, hselect, conjuncts, hafter, reference, e, hnames, hbuilt, fun c hc => ?_⟩
    exact (mem_conjuncts_iff h hwhere hafter (noSelect_conjunct hbuilt hc)).mpr (hmem c hc)

theorem untouched_iff {occ : Occ} :
    Untouched statement result occ ↔ NamedApart env statement occ := by
  refine forall₂_congr (fun table _ => ?_)
  constructor
  · intro huntouched other hother hattached hfilters hsame table' htable' hreference
    obtain ⟨hcte, table'', htable'', matched, hmatched, hne⟩ := hasFilters_iff.mp hfilters
    obtain rfl := Option.some.inj (htable'.symm.trans htable'')
    obtain ⟨group, hgroup⟩ := List.exists_mem_of_ne_nil _ hne
    obtain ⟨select, hselect, conjuncts, hafter, e, hbuilt, hgained⟩ :=
      exists_gained h hwhere hother hattached hcte htable' hmatched hgroup
    obtain ⟨c, hc, hmentions⟩ := (mentions_group hbuilt).mpr hreference
    exact huntouched select (hsame ▸ hselect) conjuncts hafter c (hgained c hc) hmentions
  · intro hapart select hselect conjuncts hafter c hc hmentions
    obtain ⟨other, hother, hancestor, e, hadds, hmem⟩ := (mem_gained_iff h hwhere hafter).mp hc
    obtain ⟨hattached, hcte, table', htable', matched, hmatched, group, hgroup, hbuilt⟩ := hadds
    have hfilters : hasFilters env other = true :=
      hasFilters_iff.mpr ⟨hcte, table', htable', matched, hmatched, List.ne_nil_of_mem hgroup⟩
    refine hapart other hother hattached hfilters (hancestor.trans hselect.symm) table' htable' ?_
    exact (mentions_group hbuilt).mp ⟨c, hmem, hmentions⟩

/-- The row filters of a statement are placed right exactly when each filter group is found where
its table is read, references to CTEs have other names than the filtered tables beside them,
and the stored tables are just the ones outside CTE bodies. -/
theorem filtersPlaced_iff (catalog : Catalog) :
    FiltersPlaced env catalog statement result ↔ FiltersPlaceable env catalog statement := by
  constructor
  · intro hplaced
    refine ⟨fun occ hocc hread allowedTable hstored => ?_, fun occ hocc hbound => ?_,
      fun occ hocc table htable => ?_⟩
    · exact (covers_iff h hwhere hocc).mp (hplaced.stored occ hocc hread allowedTable hstored)
    · exact (untouched_iff h hwhere).mp (hplaced.cte occ hocc hbound)
    · exact resolversAgree_iff.mp (hplaced.agree occ hocc table htable)
  · intro hplaceable
    refine ⟨?_, ?_, fun p hp c hc => ?_, fun occ hocc hread allowedTable hstored => ?_,
      fun occ hocc hbound => ?_, fun occ hocc table htable => ?_⟩
    · rw [injectStatement_eq h]
      exact withoutWheres_conjunctsAt (Cursor.root statement)
    · exact (gains_secured h hwhere).imp (fun select conjuncts hgains => hgains.kept)
    · exact (mem_gained_iff h hwhere hp).mp hc
    · exact (covers_iff h hwhere hocc).mpr (hplaceable.stored occ hocc hread allowedTable hstored)
    · exact (untouched_iff h hwhere).mpr (hplaceable.cte occ hocc hbound)
    · exact resolversAgree_iff.mpr (hplaceable.agree occ hocc table htable)

end Secured

/-! ## Statements -/

/-- `WITH labels AS (SELECT 'a' AS email) SELECT u.email FROM public.users AS u JOIN labels ON
u.email = labels.email WHERE condition UNION SELECT email FROM (SELECT email FROM public.users
clauses) AS p`. -/
def unionOf (condition : Expr) (clauses : List (Arg × Expr)) : Expr :=
  build (.setOperation .union)
    [withClause "labels"
      (build .select [(.expressions, build (.alias_ (plain "email")) [(.this, stringLiteral "a")])]),
    (.this, selectExpr [qualifiedColumn "u" "email"] (qualifiedTable "public" "users" (some "u"))
      [(.joins, build (.join none none false []) [(.this, tableNamed "labels" none),
        (.on, build (.compare .eq) [(.this, qualifiedColumn "u" "email"),
          (.expression, qualifiedColumn "labels" "email")])]),
      whereClause condition]),
    (.expression, selectExpr [columnNamed "email"]
      (build (.subquery (some ⟨plain "p", []⟩)) [(.this, selectExpr [columnNamed "email"]
        (qualifiedTable "public" "users" none) clauses)]) [])]

def activeOrAdmin : Expr := orExpr (columnNamed "active") (columnNamed "admin")

def unionStatement : Expr := unionOf activeOrAdmin []

/-- Both arms are filtered, each under the name that the table has there. -/
def unionSecured : Expr :=
  unionOf (andExpr activeOrAdmin (tenantConditionOf "u")) [whereClause (tenantConditionOf "users")]

theorem union_injected : injectStatement flatEnv unionStatement = .ok unionSecured := by
  decide +kernel

theorem union_placed : FiltersPlaced flatEnv tenantCatalog unionStatement unionSecured := by
  refine (filtersPlaced_iff union_injected (by decide +kernel) tenantCatalog).mpr ⟨?_, ?_, ?_⟩
  · have hown : ∀ occ ∈ unionStatement.walk, isIntoTarget occ = false →
        ∀ allowedTable ∈ storedTables flatEnv tenantCatalog occ,
          ∀ group ∈ allowedTable.row_filters,
            FindsOwn flatEnv tenantCatalog occ allowedTable group := by
      decide +kernel
    intro occ hocc hread allowedTable hstored group hgroup
    exact finds_of_own union_injected hocc (hown occ hocc hread allowedTable hstored group hgroup)
  · decide +kernel
  · decide +kernel

def cteBodySql : String := "WITH recent AS (SELECT email FROM public.users) SELECT email FROM recent"

def cteBodyStatement : Expr :=
  selectExpr [columnNamed "email"] (tableNamed "recent" none)
    [withClause "recent"
      (selectExpr [columnNamed "email"] (qualifiedTable "public" "users" none) [])]

def cteBodyLimited : Expr := setArg cteBodyStatement .limit (limitExpr 100)

def cteBodySqlglot : Sqlglot :=
  knownTexts [(cteBodySql, cteBodyStatement), (cteBodySql ++ " LIMIT 100", cteBodyLimited)]

def cteBodyEnv : Env := tenantEnv cteBodySqlglot

def cteBodyResult : SQLValidationResult :=
  ⟨true, some (cteBodySql ++ " LIMIT 100"), [], ["public.users"], ["public.users.email"], some 100⟩

theorem cte_body_accepts :
    Accepts asciiCasing cteBodySqlglot tenantSchema 100 cteBodySql cteBodyStatement
      cteBodyResult :=
  ⟨by decide +kernel, by decide +kernel, rfl⟩

/-- The validator accepts a statement that reads `public.users` through a CTE, and the injector
leaves it as it is. -/
theorem cte_body_not_placed :
    Accepts asciiCasing cteBodySqlglot tenantSchema 100 cteBodySql cteBodyStatement
        cteBodyResult ∧
      parseOne cteBodySqlglot (cteBodySql ++ " LIMIT 100") = .ok cteBodyLimited ∧
      injectStatement cteBodyEnv cteBodyLimited = .ok cteBodyLimited ∧
      ¬ FiltersPlaced cteBodyEnv tenantCatalog cteBodyLimited cteBodyLimited := by
  refine ⟨cte_body_accepts, by decide +kernel, by decide +kernel, fun h => ?_⟩
  have hread : ∃ occ ∈ cteBodyLimited.walk, isIntoTarget occ = false ∧
      ∃ allowedTable ∈ storedTables cteBodyEnv tenantCatalog occ, allowedTable.row_filters ≠ [] := by
    decide +kernel
  have hnone : ∀ p ∈ conjunctsAfter cteBodyLimited cteBodyLimited, p.2 = [] := by
    decide +kernel
  obtain ⟨occ, hocc, hinto, allowedTable, hstored, hne⟩ := hread
  obtain ⟨group, hgroup⟩ := List.exists_mem_of_ne_nil _ hne
  obtain ⟨select, -, conjuncts, hafter, reference, e, -, hbuilt, hmem⟩ :=
    h.stored occ hocc hinto allowedTable hstored group hgroup
  refine conjunctsOf_ne_nil hbuilt (List.eq_nil_of_subset_nil ?_)
  rw [← hnone _ hafter]
  exact hmem

end DataChat.RowFilter
