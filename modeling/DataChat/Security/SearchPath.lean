import DataChat.RowFilter.Placement
import DataChat.Security.Stages

/-!
# Is the authorised table the table that is read?

The validator and the injector resolve an unqualified table reference to the only allowed table of
its name, in whatever schema that is. The database looks the name up along its search path, among
all of its relations.

* `relation_eq_some_iff`: what a search path finds.
* `authorisedIsRead_iff`: when every unqualified reference of a prepared query reads the table that
  it was authorised as.
* `hidden_users_read`: a query that reads a table of another schema.
-/

namespace DataChat.Security

open Sql Validator RowFilter Outcome

/-! ## What the database reads -/

/-- The stored relation that a table reference denotes. -/
def denotedRelation (py : Casing) (catalog : Catalog) (occ : Occ) (table : TableRef) :
    Option Relation :=
  if ReferencesStored py occ table then catalog.relation py table else none

/-- The first schema of the search path that has a relation of the name is this one. -/
def FoundFirst (catalog : Catalog) (relation : Relation) : Prop :=
  (catalog.columns relation).isSome = true ∧
    ∃ before after, catalog.searchPath = before ++ relation.schema :: after ∧
      ∀ schema ∈ before, catalog.columns ⟨schema, relation.name⟩ = none

variable {py : Casing} {catalog : Catalog}

theorem relation_unqualified {table : TableRef} (hdb : identText table.db = "") :
    catalog.relation py table = table.this.bind (fun name =>
      (catalog.searchPath.map (fun schema => ⟨schema, name.folded py⟩)).find?
        (fun relation => (catalog.columns relation).isSome)) := by
  unfold Catalog.relation
  cases hschema : table.db with
  | none => rfl
  | some db =>
    rw [hschema] at hdb
    dsimp only
    rw [if_pos (show db.this = "" from hdb)]
    rfl

theorem find_relation_iff {name : String} {relation : Relation} :
    (catalog.searchPath.map (fun schema => ⟨schema, name⟩)).find?
        (fun relation => (catalog.columns relation).isSome) = some relation ↔
      relation.name = name ∧ FoundFirst catalog relation := by
  unfold FoundFirst
  rw [List.find?_eq_some_iff_append]
  constructor
  · rintro ⟨hsome, front, back, hsplit, hfront⟩
    obtain ⟨before, rest, hpath, rfl, hrest⟩ := List.map_eq_append_iff.mp hsplit
    obtain ⟨schema, after, rfl, rfl, -⟩ := List.map_eq_cons_iff.mp hrest
    refine ⟨rfl, hsome, before, after, hpath, ?_⟩
    intro schema' hschema'
    have hnone := hfront ⟨schema', name⟩ (List.mem_map.mpr ⟨schema', hschema', rfl⟩)
    simpa using hnone
  · rintro ⟨rfl, hsome, before, after, hpath, hbefore⟩
    refine ⟨hsome, before.map (fun schema => ⟨schema, relation.name⟩),
      after.map (fun schema => ⟨schema, relation.name⟩), ?_, ?_⟩
    · rw [hpath, List.map_append, List.map_cons]
    · intro other hother
      obtain ⟨schema, hschema, rfl⟩ := List.mem_map.mp hother
      simp [hbefore schema hschema]

/-- What a search path finds for an unqualified reference. -/
theorem relation_eq_some_iff {table : TableRef} (hdb : identText table.db = "")
    {relation : Relation} :
    catalog.relation py table = some relation ↔
      (∃ name ∈ table.this, name.folded py = relation.name) ∧ FoundFirst catalog relation := by
  rw [relation_unqualified hdb, Option.bind_eq_some_iff]
  constructor
  · rintro ⟨name, hname, hfind⟩
    obtain ⟨hfolded, hfirst⟩ := find_relation_iff.mp hfind
    exact ⟨⟨name, hname, hfolded.symm⟩, hfirst⟩
  · rintro ⟨⟨name, hname, hfolded⟩, hfirst⟩
    exact ⟨name, hname, find_relation_iff.mpr ⟨hfolded.symm, hfirst⟩⟩

/-! ## What has been authorised -/

def relationOf (table : AllowedTable) : Relation := ⟨table.schema_name, table.table_name⟩

/-- Each unqualified reference that is resolved to an allowed table reads just that table, and gets
its row filters from no other one. -/
def AuthorisedIsRead (env : Env) (catalog : Catalog) (cteNames : List String)
    (executed : Expr) : Prop :=
  ∀ occ ∈ executed.walk, isIntoTarget occ = false → ∀ table ∈ tableOf occ,
    identText table.db = "" → ∀ name allowedTable,
      resolveAllowedTable env.py env.schema cteNames table = .ok (some (name, allowedTable)) →
        denotedRelation env.py catalog occ table = some (relationOf allowedTable) ∧
        ∀ filtered reference,
          resolveSelectTable env.py env.schema occ table = .ok (some (filtered, reference)) →
            filtered = allowedTable

/-- Each unqualified reference with the name of an allowed table stands for no CTE, is written as
that table is stored, and the search path leads to the table before it leads to any other one. -/
def SearchPathAgrees (env : Env) (catalog : Catalog) (cteNames : List String)
    (executed : Expr) : Prop :=
  ∀ occ ∈ executed.walk, isIntoTarget occ = false → ∀ table ∈ tableOf occ,
    identText table.db = "" → env.py.lower table.name ∉ cteNames →
      ∀ allowedTable ∈ env.schema.tables.values,
        env.py.lower allowedTable.table_name = env.py.lower table.name →
          ReferencesStored env.py occ table ∧
          (∃ name ∈ table.this, name.folded env.py = allowedTable.table_name) ∧
          FoundFirst catalog (relationOf allowedTable)

variable {env : Env} {maximumRows : Int} {sql : String} {secure : SecureQueryResult}
  {final executed : Expr}

theorem denotedRelation_iff {occ : Occ} {table : TableRef} (hdb : identText table.db = "")
    {allowedTable : AllowedTable} :
    denotedRelation py catalog occ table = some (relationOf allowedTable) ↔
      ReferencesStored py occ table ∧
        (∃ name ∈ table.this, name.folded py = allowedTable.table_name) ∧
        FoundFirst catalog (relationOf allowedTable) := by
  unfold denotedRelation
  split
  · rename_i hstored
    rw [relation_eq_some_iff hdb]
    exact ⟨fun h => ⟨hstored, h⟩, fun h => h.2⟩
  · rename_i hstored
    constructor
    · intro h
      cases h
    · intro h
      exact absurd h.1 hstored

/-- An unqualified reference resolves to the only entry of its name. -/
theorem resolve_unqualified_iff {cteNames : List String} {table : TableRef}
    (hdb : identText table.db = "") {entry : String × AllowedTable} :
    resolveAllowedTable env.py env.schema cteNames table = .ok (some entry) ↔
      env.py.lower table.name ∉ cteNames ∧
        matchingTables env.py env.schema (env.py.lower table.name) = [entry] := by
  have hschema : schemaName env.py table = none := by
    unfold schemaName
    rw [if_pos hdb]
  unfold resolveAllowedTable
  by_cases hcte : env.py.lower table.name ∈ cteNames
  · simp [hcte, pure, Except.pure]
  · simp only [hcte, if_false, hschema, not_false_eq_true, true_and]
    cases hmatching : matchingTables env.py env.schema (env.py.lower table.name) with
    | nil => simp [reject_ne_ok]
    | cons first others =>
      cases others with
      | nil => simp [pure, Except.pure]
      | cons second rest => simp [reject_ne_ok]

/-- The injector looks at the same tables as the validator. -/
theorem filtered_eq {cteNames : List String} {occ : Occ} {table : TableRef}
    (hdb : identText table.db = "") {name reference : String}
    {allowedTable filtered : AllowedTable}
    (hresolve : resolveAllowedTable env.py env.schema cteNames table =
      .ok (some (name, allowedTable)))
    (hselect : resolveSelectTable env.py env.schema occ table = .ok (some (filtered, reference))) :
    filtered = allowedTable := by
  have hmatching := ((resolve_unqualified_iff hdb).mp hresolve).2
  have hschema : schemaName env.py table = none := by
    unfold schemaName
    rw [if_pos hdb]
  unfold resolveSelectTable at hselect
  split at hselect
  · cases hselect
  · obtain ⟨matched, hmatched, hselect⟩ := bind_ok_iff.mp hselect
    unfold matchedTable at hmatched
    dsimp only at hmatched
    rw [hschema, values_filter_eq, hmatching] at hmatched
    cases hmatched
    cases hselect
    rfl

/-- The limit that is set on a statement adds no table references. -/
theorem tables_limited {limit : Int} (h : applyRowLimit final maximumRows = .ok (limit, executed))
    {occ : Occ} (hocc : occ ∈ executed.walk) {table : TableRef} (htable : table ∈ tableOf occ) :
    table ∈ tablesOf final := by
  let known : Kind → Prop := fun kind => ∀ ref, kind = .table ref → ref ∈ tablesOf final
  have hfinal : AllKinds known final := by
    intro other hother ref href
    apply mem_tablesOf hother
    rw [Option.mem_def]
    unfold tableOf
    rw [href]
  have hexecuted : AllKinds known executed := by
    apply allKinds_limited _ _ h hfinal
    · intro ref href
      cases href
    · intro text ref href
      cases href
  apply hexecuted occ hocc
  rw [Option.mem_def] at htable
  unfold tableOf at htable
  split at htable
  · rename_i ref href
    rw [href, Option.some.inj htable]
  · cases htable

/-- A query reads what it has been authorised to read exactly when the search path agrees with the
allowed schema about the unqualified names in it. -/
theorem authorisedIsRead_iff (h : Prepares env maximumRows sql secure final executed)
    (catalog : Catalog) :
    AuthorisedIsRead env catalog (getCteNames env.py final) executed ↔
      SearchPathAgrees env catalog (getCteNames env.py final) executed := by
  obtain ⟨_, _, _, result, -, -, -, haccepts⟩ := h.validated
  obtain ⟨referenced, _, _, hrun⟩ := haccepts.run
  obtain ⟨limit, hlimited⟩ := h.limited
  constructor
  · intro hread occ hocc hinto table htable hdb hcte allowedTable hallowed hname
    -- the validator has resolved the reference, and there is only one table of its name
    obtain ⟨⟨key, entry⟩, hentry, -⟩ := (collected_tables hrun.tables).1 table
      (tables_limited hlimited hocc htable) hcte
    rw [allowedEntry_eq_some_iff, ← resolveAllowedTable_of_not_mem hcte] at hentry
    have hmatching := ((resolve_unqualified_iff hdb).mp hentry).2
    obtain ⟨⟨key', allowedTable'⟩, hitem, rfl⟩ := List.mem_map.mp hallowed
    have hmem : (key', allowedTable') ∈
        matchingTables env.py env.schema (env.py.lower table.name) :=
      List.mem_filter.mpr ⟨hitem, decide_eq_true hname⟩
    rw [hmatching, List.mem_singleton] at hmem
    obtain ⟨rfl, rfl⟩ := Prod.mk.inj hmem
    exact (denotedRelation_iff hdb).mp (hread occ hocc hinto table htable hdb _ _ hentry).1
  · intro hagrees occ hocc hinto table htable hdb name allowedTable hresolve
    obtain ⟨hcte, hmatching⟩ := (resolve_unqualified_iff hdb).mp hresolve
    have hmem : (name, allowedTable) ∈
        matchingTables env.py env.schema (env.py.lower table.name) := by
      rw [hmatching]
      exact List.mem_singleton_self _
    obtain ⟨hitem, hname⟩ := List.mem_filter.mp hmem
    have hvalue : allowedTable ∈ env.schema.tables.values := List.mem_map.mpr ⟨_, hitem, rfl⟩
    refine ⟨?_, fun filtered reference hselect => filtered_eq hdb hresolve hselect⟩
    apply (denotedRelation_iff hdb).mpr
    exact hagrees occ hocc hinto table htable hdb hcte allowedTable hvalue (of_decide_eq_true hname)

instance (catalog : Catalog) (relation : Relation) : Decidable (FoundFirst catalog relation) :=
  decidable_of_iff
    ((catalog.searchPath.map (fun schema => ⟨schema, relation.name⟩)).find?
      (fun relation => (catalog.columns relation).isSome) = some relation)
    (find_relation_iff.trans (and_iff_right rfl))

instance (env : Env) (catalog : Catalog) (cteNames : List String) (executed : Expr) :
    Decidable (SearchPathAgrees env catalog cteNames executed) :=
  inferInstanceAs (Decidable (∀ _ ∈ _, _ → ∀ _ ∈ _, _ → _ → ∀ _ ∈ _, _ →
    _ ∧ (∃ _ ∈ _, _) ∧ _))

/-! ## Two schemas with a table of one name -/

def bareSql : String := "SELECT email FROM users"

def bareStatement : Expr := selectExpr [columnNamed "email"] (tableNamed "users" none) []

def bareLimited : Expr := setArg bareStatement .limit (limitExpr 100)

def bareSqlglot : Sqlglot :=
  knownTexts [(bareSql, bareStatement), (bareSql ++ " LIMIT 100", bareLimited)]

/-- A member who may read the table `users` of one schema. -/
def bareEnv (schemaName : String) : Env where
  py := asciiCasing
  glot := bareSqlglot
  schema := ⟨"connection-id", ⟨[(schemaName ++ ".users",
    { usersTable with schema_name := schemaName })], List.nodup_singleton _⟩⟩
  tenantId := "11111111-1111-1111-1111-111111111111"
  userId := "22222222-2222-2222-2222-222222222222"

def bareResult (schemaName : String) : SecureQueryResult :=
  ⟨bareSql ++ " LIMIT 100", [schemaName ++ ".users"], [schemaName ++ ".users.email"], 100, false⟩

/-- The database has such a table in both schemas, and searches `public` only. -/
def archivedCatalog : Catalog where
  searchPath := ["public"]
  columns relation :=
    if relation = ⟨"public", "users"⟩ ∨ relation = ⟨"archive", "users"⟩ then some ["email"]
    else none
  expressionName _ _ := none

def bareValidation (schemaName : String) : SQLValidationResult :=
  ⟨true, some (bareSql ++ " LIMIT 100"), [], [schemaName ++ ".users"],
    [schemaName ++ ".users.email"], some 100⟩

theorem public_prepares :
    Prepares (bareEnv "public") 100 bareSql (bareResult "public") bareLimited bareLimited := by
  refine ⟨by decide +kernel, ⟨bareValidation "public", bareSql ++ " LIMIT 100",
    bareSql ++ " LIMIT 100", bareValidation "public", by decide +kernel, rfl, by decide +kernel,
    ⟨by decide +kernel, by decide +kernel, rfl⟩⟩, ⟨100, by decide +kernel⟩, by decide +kernel⟩

theorem archive_prepares :
    Prepares (bareEnv "archive") 100 bareSql (bareResult "archive") bareLimited bareLimited := by
  refine ⟨by decide +kernel, ⟨bareValidation "archive", bareSql ++ " LIMIT 100",
    bareSql ++ " LIMIT 100", bareValidation "archive", by decide +kernel, rfl, by decide +kernel,
    ⟨by decide +kernel, by decide +kernel, rfl⟩⟩, ⟨100, by decide +kernel⟩, by decide +kernel⟩

theorem public_users_read :
    AuthorisedIsRead (bareEnv "public") archivedCatalog
      (getCteNames asciiCasing bareLimited) bareLimited :=
  (authorisedIsRead_iff public_prepares archivedCatalog).mpr (by decide +kernel)

/-- A member who may read `archive.users` only is shown `public.users`. -/
theorem hidden_users_read :
    prepareValidatedSql (bareEnv "archive") 100 bareSql = .ok (bareResult "archive") ∧
      Prepares (bareEnv "archive") 100 bareSql (bareResult "archive") bareLimited bareLimited ∧
      ¬ AuthorisedIsRead (bareEnv "archive") archivedCatalog
        (getCteNames asciiCasing bareLimited) bareLimited := by
  refine ⟨archive_prepares.prepared, archive_prepares, fun h => ?_⟩
  have hreference : ∃ occ ∈ bareLimited.walk, isIntoTarget occ = false ∧
      ∃ table ∈ tableOf occ, identText table.db = "" ∧
        asciiCasing.lower table.name ∉ getCteNames asciiCasing bareLimited ∧
        (∃ entry ∈ allowedEntry asciiCasing (bareEnv "archive").schema table,
          entry.2.schema_name = "archive") ∧
        denotedRelation asciiCasing archivedCatalog occ table = some ⟨"public", "users"⟩ := by
    decide +kernel
  obtain ⟨occ, hocc, hinto, table, htable, hdb, hcte, ⟨entry, hentry, hschema⟩, hdenotes⟩ :=
    hreference
  have hresolve := allowedEntry_eq_some_iff.mp hentry
  rw [← resolveAllowedTable_of_not_mem hcte] at hresolve
  have hread := (h occ hocc hinto table htable hdb entry.1 entry.2 hresolve).1
  rw [show denotedRelation (bareEnv "archive").py archivedCatalog occ table = _ from hdenotes]
    at hread
  have hsame := congrArg Relation.schema (Option.some.inj hread)
  rw [show (relationOf entry.2).schema = "archive" from hschema] at hsame
  exact absurd hsame (by decide)

end DataChat.Security
