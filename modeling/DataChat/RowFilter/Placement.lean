import DataChat.RowFilter.Conditions
import DataChat.RowFilter.Injection
import DataChat.Validator.ColumnAuthorisation

/-!
# What the injector adds for a table reference

The injector goes by names and by one syntactic test: whatever stands inside a CTE body gets no
filter. SQL goes by the scopes of CTEs and by the search path.

* `addedFor`: the conjuncts that the injector adds on behalf of one table reference;
  `addedTo_eq` ties them to those of a select, `mem_addedFor_iff` to the filter groups.
* `storedTables`, `BoundToCte`, `Names`: what SQL says about the reference.
* `resolversAgree_iff`: when the injector and the validator agree about the reference.
-/

namespace DataChat.RowFilter

open Sql Outcome Validator

variable {env : Env} {statement result : Expr}

/-! ## Conjuncts of one table reference -/

/-- The conjuncts in the result that are there for a table reference. -/
def addedFor (env : Env) (occ : Occ) : List Expr :=
  match findAncestor Kind.isSelect occ with
  | none => []
  | some select => if detachedFrom env select.above then [] else conditionsOf env occ

/-- The reference has an enclosing select, and that is still part of the statement when it gets
its filters. -/
def Attached (env : Env) (occ : Occ) : Prop :=
  ∃ select ∈ findAncestor Kind.isSelect occ, detachedFrom env select.above = false

instance (env : Env) (occ : Occ) : Decidable (Attached env occ) :=
  inferInstanceAs (Decidable (∃ _ ∈ _, _))

theorem addedFor_of_attached {occ : Occ} (h : Attached env occ) :
    addedFor env occ = conditionsOf env occ := by
  obtain ⟨select, hselect, hattached⟩ := h
  unfold addedFor
  rw [hselect]
  simp only [hattached, Bool.false_eq_true, if_false]

theorem addedFor_of_not_attached {occ : Occ} (h : ¬ Attached env occ) :
    addedFor env occ = [] := by
  unfold addedFor
  cases hselect : findAncestor Kind.isSelect occ with
  | none => rfl
  | some select =>
    have hdetached : detachedFrom env select.above = true := by
      by_contra hno
      exact h ⟨select, hselect, Bool.not_eq_true _ ▸ hno⟩
    simp only [hdetached, if_true]

theorem findAncestor_within {isClass : Kind → Bool} {occ a : Occ}
    (hocc : Cursor.Within statement occ) (h : findAncestor isClass occ = some a) :
    Cursor.Within statement a ∧ isClass a.node.label.kind = true ∧
      ∃ d, Cursor.Within a.node d ∧ occ = d.under a := by
  have hmem := List.mem_of_find?_eq_some h
  obtain ⟨hwithin, hbelow⟩ := Cursor.within_of_mem_ancestors hocc hmem
  have hclass : isClass a.node.label.kind = true :=
    List.find?_some (p := fun a : Occ => isClass a.node.label.kind) h
  exact ⟨hwithin, hclass, hbelow⟩

/-- The tables that stand directly in a select. -/
theorem mem_getDirectTables_iff {occ select : Occ} (hselect : Cursor.Within statement select) :
    occ ∈ getDirectTables select ↔
      Cursor.Within statement occ ∧ occ.node.label.kind.isTable = true ∧
        findAncestor Kind.isSelect occ = some select := by
  unfold getDirectTables
  rw [List.mem_filter, List.mem_filter, List.mem_map]
  unfold isDirectlyIn
  constructor
  · rintro ⟨⟨⟨d, hd, rfl⟩, htable⟩, hdirect⟩
    have hwithin := Cursor.within_under hselect (Rose.mem_walk.mp hd)
    obtain ⟨a, ha, haddress⟩ := Option.map_eq_some_iff.mp (of_decide_eq_true hdirect)
    have hsame : a = select :=
      Cursor.cursor_ext (findAncestor_within hwithin ha).1 hselect haddress
    exact ⟨hwithin, htable, hsame ▸ ha⟩
  · rintro ⟨hwithin, htable, hancestor⟩
    obtain ⟨-, -, d, hd, rfl⟩ := findAncestor_within hwithin hancestor
    refine ⟨⟨⟨d, Rose.mem_walk.mpr hd, rfl⟩, htable⟩, ?_⟩
    rw [hancestor]
    exact decide_eq_true rfl

/-- The conjuncts of a select are those of its table references. -/
theorem addedTo_eq {select : Occ} (hselect : Cursor.Within statement select) :
    addedTo env select = (getDirectTables select).flatMap (addedFor env) := by
  have hfor : ∀ t ∈ getDirectTables select,
      addedFor env t = if detachedFrom env select.above then [] else conditionsOf env t := by
    intro t ht
    obtain ⟨-, -, hancestor⟩ := (mem_getDirectTables_iff hselect).mp ht
    unfold addedFor
    rw [hancestor]
  unfold addedTo selectConditions
  rw [List.flatMap_congr hfor]
  split
  · exact (List.flatMap_eq_nil_iff.mpr fun _ _ => rfl).symm
  · rfl

/-- When the injector returns, the conditions of every attached table could be built. -/
theorem tableConditions_of_attached {occ : Occ} (h : injectStatement env statement = .ok result)
    (hocc : occ ∈ statement.walk) (htable : occ.node.label.kind.isTable = true)
    (hattached : Attached env occ) :
    ∃ conditions, tableConditions env occ = .ok conditions := by
  obtain ⟨select, hselect, -⟩ := hattached
  have hwithin := Rose.mem_walk.mp hocc
  obtain ⟨hselectWithin, hkind, -⟩ := findAncestor_within hwithin hselect
  unfold injectStatement at h
  obtain ⟨store, hloop, -⟩ := bind_ok_iff.mp h
  obtain ⟨security, hsecurity⟩ :=
    (loop_holds hloop).built select (visited_of_select hselectWithin hkind)
  exact directTables_ok hsecurity occ
    ((mem_getDirectTables_iff hselectWithin).mpr ⟨hwithin, htable, hselect⟩)

theorem isTable_of_tableOf {occ : Occ} {table : TableRef} (h : tableOf occ = some table) :
    occ.node.label.kind.isTable = true := by
  unfold tableOf at h
  split at h
  · rename_i ref href
    rw [href]
    rfl
  · cases h

/-- The conjunct is the condition of a filter group that is found for the reference: it is attached
and stands outside CTE bodies, and the group is one of the allowed table of its name. -/
def Adds (env : Env) (occ : Occ) (e : Expr) : Prop :=
  Attached env occ ∧ insideCte occ = false ∧ ∃ table ∈ tableOf occ,
    ∃ matched ∈ matchedEntry env table, ∃ group ∈ matched.row_filters,
      buildFilterGroupExpression env matched (tableReference table) group = .ok e

theorem hasFilters_iff {occ : Occ} :
    hasFilters env occ = true ↔ insideCte occ = false ∧ ∃ table ∈ tableOf occ,
      ∃ matched ∈ matchedEntry env table, matched.row_filters ≠ [] := by
  unfold hasFilters
  rw [Bool.and_eq_true, Bool.not_eq_true', Option.any_eq_true]
  refine and_congr_right' ⟨?_, ?_⟩
  · rintro ⟨matched, hmatched, hne⟩
    obtain ⟨table, htable, hentry⟩ := Option.bind_eq_some_iff.mp hmatched
    exact ⟨table, htable, matched, hentry, by simpa using hne⟩
  · rintro ⟨table, htable, matched, hentry, hne⟩
    exact ⟨matched, Option.bind_eq_some_iff.mpr ⟨table, htable, hentry⟩, by simpa using hne⟩

theorem mem_addedFor_iff {occ : Occ} (h : injectStatement env statement = .ok result)
    (hocc : occ ∈ statement.walk) (htable : occ.node.label.kind.isTable = true) {e : Expr} :
    e ∈ addedFor env occ ↔ Adds env occ e := by
  unfold Adds
  by_cases hattached : Attached env occ
  · obtain ⟨conditions, hconditions⟩ := tableConditions_of_attached h hocc htable hattached
    rw [addedFor_of_attached hattached, conditionsOf_eq hconditions]
    rcases tableConditions_ok hconditions with ⟨hno, rfl⟩ | ⟨table, allowedTable, href, hcte,
      hmatched, hmap⟩
    · refine iff_of_false List.not_mem_nil ?_
      rintro ⟨-, hcte, table, href, matched, hmatched, group, hgroup, -⟩
      have hfilters : hasFilters env occ = true :=
        hasFilters_iff.mpr ⟨hcte, table, href, matched, hmatched, List.ne_nil_of_mem hgroup⟩
      rw [hno] at hfilters
      cases hfilters
    · constructor
      · intro he
        obtain ⟨group, hgroup, hbuilt⟩ := mapM_ok_right hmap he
        exact ⟨hattached, hcte, table, href, allowedTable, hmatched, group, hgroup, hbuilt⟩
      · rintro ⟨-, -, table', href', matched', hmatched', group, hgroup, hbuilt⟩
        obtain rfl := Option.some.inj (href.symm.trans href')
        obtain rfl := Option.some.inj (hmatched.symm.trans hmatched')
        obtain ⟨d, hd, hbuilt'⟩ := mapM_ok_left hmap hgroup
        exact Except.ok.inj (hbuilt'.symm.trans hbuilt) ▸ hd
  · rw [addedFor_of_not_attached hattached]
    exact iff_of_false List.not_mem_nil (fun hadds => hattached hadds.1)

/-! ## What SQL says about a table reference -/

/-- The allowed tables that the reference reads, as SQL resolves it. -/
def storedTables (env : Env) (catalog : Catalog) (occ : Occ) : List AllowedTable :=
  match tableOf occ with
  | none => []
  | some table =>
    if ReferencesStored env.py occ table then
      match catalog.relation env.py table with
      | none => []
      | some relation => env.schema.tables.values.filter
          (fun t => t.schema_name = relation.schema ∧ t.table_name = relation.name)
    else []

/-- The target of `INTO` is no table that is read. -/
def isIntoTarget (occ : Occ) : Bool :=
  match occ.above with
  | [] => false
  | s :: _ => decide (s.parent.label.kind = .into)

/-- SQL resolves the reference to a CTE. -/
def BoundToCte (py : Casing) (occ : Occ) : Prop :=
  ∃ table ∈ tableOf occ, identText table.db = "" ∧
    ∃ name ∈ table.this, (cteInScope py occ name).isSome = true

instance (py : Casing) (occ : Occ) : Decidable (BoundToCte py occ) :=
  inferInstanceAs (Decidable (∃ _ ∈ _, _ ∧ ∃ _ ∈ _, _))

/-- In the `WHERE` of its own block the name stands for the reference, and for nothing else. -/
def Names (env : Env) (catalog : Catalog) (occ : Occ) (name : Ident) : Prop :=
  ∃ select ∈ findAncestor Kind.isSelect occ,
    ((blockVariables env.py catalog select).filter
      (fun v => v.isNamed env.py none name)).map (fun v => v.item.address) = [occ.address]

instance (env : Env) (catalog : Catalog) (occ : Occ) (name : Ident) :
    Decidable (Names env catalog occ name) :=
  inferInstanceAs (Decidable (∃ _ ∈ _, _))

/-! ## The two resolvers -/

/-- The validator and the injector agree whether the reference is a stored table. -/
def ResolversAgree (env : Env) (statement : Expr) (occ : Occ) (table : TableRef) : Prop :=
  (∃ entry, resolveAllowedTable env.py env.schema (getCteNames env.py statement) table =
      .ok (some entry)) ↔
    ∃ resolved, resolveSelectTable env.py env.schema occ table = .ok (some resolved)

/-- The reference names an allowed table. -/
def Matches (env : Env) (table : TableRef) : Prop := (matchedEntry env table).isSome = true

theorem matches_iff {table : TableRef} :
    Matches env table ↔
      ∃ allowedTable, matchedTable env.py env.schema table = .ok (some allowedTable) := by
  unfold Matches
  rw [Option.isSome_iff_exists]
  exact exists_congr (fun _ => matchedEntry_eq_some_iff)

/-- The validator takes the reference neither for a CTE nor for a system table. -/
def TakenForStored (env : Env) (statement : Expr) (table : TableRef) : Prop :=
  env.py.lower table.name ∉ getCteNames env.py statement ∧
    ∀ db ∈ schemaName env.py table, db ∉ systemSchemas

instance (env : Env) (statement : Expr) (table : TableRef) :
    Decidable (TakenForStored env statement table) :=
  inferInstanceAs (Decidable (_ ∧ ∀ _ ∈ _, _))

instance (env : Env) (table : TableRef) : Decidable (Matches env table) :=
  inferInstanceAs (Decidable (_ = true))

theorem values_filter_eq (tableName : String) :
    env.schema.tables.values.filter (fun t => env.py.lower t.table_name = tableName) =
      (matchingTables env.py env.schema tableName).map Prod.snd := by
  unfold Dict.values matchingTables
  rw [List.filter_map]
  rfl

theorem resolveAllowedTable_some_iff {cteNames : List String} {table : TableRef} :
    (∃ entry, resolveAllowedTable env.py env.schema cteNames table = .ok (some entry)) ↔
      (env.py.lower table.name ∉ cteNames ∧
        ∀ db ∈ schemaName env.py table, db ∉ systemSchemas) ∧
      Matches env table := by
  rw [matches_iff]
  unfold resolveAllowedTable matchedTable
  by_cases hcte : env.py.lower table.name ∈ cteNames
  · simp [hcte, pure, Except.pure]
  · cases hschema : schemaName env.py table with
    | some schemaName =>
      by_cases hsystem : schemaName ∈ systemSchemas
      · simp [hcte, hsystem, reject_ne_ok]
      · cases hget : env.schema.tables.get (schemaName ++ "." ++ env.py.lower table.name) with
        | none => simp [hcte, hsystem, hget, reject_ne_ok, pure, Except.pure]
        | some allowedTable => simp [hcte, hsystem, hget, pure, Except.pure]
    | none =>
      simp only [hcte, if_false, values_filter_eq]
      cases hmatching : matchingTables env.py env.schema (env.py.lower table.name) with
      | nil => simp [reject_ne_ok, pure, Except.pure]
      | cons entry others =>
        cases others with
        | nil => simp [pure, Except.pure]
        | cons entry' rest => simp [reject_ne_ok, fail_ne_ok]

theorem resolveSelectTable_some_iff {occ : Occ} {table : TableRef} :
    (∃ resolved, resolveSelectTable env.py env.schema occ table = .ok (some resolved)) ↔
      insideCte occ = false ∧ Matches env table := by
  rw [matches_iff]
  unfold resolveSelectTable
  cases hcte : insideCte occ with
  | true => simp [pure, Except.pure]
  | false =>
    cases hmatched : matchedTable env.py env.schema table with
    | error e => simp [bind, Except.bind]
    | ok matched =>
      cases matched with
      | none => simp [bind, Except.bind, pure, Except.pure]
      | some allowedTable => simp [bind, Except.bind, pure, Except.pure]

theorem resolversAgree_iff {occ : Occ} {table : TableRef} :
    ResolversAgree env statement occ table ↔
      (Matches env table → (TakenForStored env statement table ↔ insideCte occ = false)) := by
  unfold ResolversAgree TakenForStored
  rw [resolveAllowedTable_some_iff, resolveSelectTable_some_iff]
  by_cases hmatches : Matches env table
  · simp [hmatches]
  · simp [hmatches]

/-! ## Statements -/

/-- `public.users` with a filter on the tenant. -/
def tenantUsersTable : AllowedTable where
  table_id := "users-table-id"
  schema_name := "public"
  table_name := "users"
  can_read := true
  can_insert := false
  can_update := false
  can_delete := false
  columns := ⟨[("tenant_id", ⟨"tenant-column-id", "tenant_id", "uuid", true, true, false, none⟩),
    ("email", ⟨"email-column-id", "email", "character varying", true, true, false,
      some "email"⟩)], by decide⟩
  row_filters := [[("match", .string "all"), ("rules", .array [.object
    [("column_id", .string "tenant-column-id"), ("operator", .string "eq"),
      ("value_source", .string "tenant_id")]])]]

def tenantSchema : AllowedSchema :=
  ⟨"connection-id", ⟨[("public.users", tenantUsersTable)], by decide⟩⟩

def tenantCatalog : Catalog where
  searchPath := ["public"]
  columns relation :=
    if relation = ⟨"public", "users"⟩ then some ["tenant_id", "email"] else none
  expressionName _ _ := none

def tenantEnv (glot : Sqlglot) : Env where
  py := asciiCasing
  glot := glot
  schema := tenantSchema
  tenantId := "11111111-1111-1111-1111-111111111111"
  userId := "22222222-2222-2222-2222-222222222222"

def flatEnv : Env := tenantEnv plainSqlglot

/-- The condition that the filter becomes for a table known by this name. -/
def tenantConditionOf (reference : String) : Expr :=
  build (.compare .eq) [(.this, qualifiedColumn reference "tenant_id"),
    (.expression, stringLiteral "11111111-1111-1111-1111-111111111111")]

def tenantCondition : Expr := tenantConditionOf "users"

end DataChat.RowFilter
