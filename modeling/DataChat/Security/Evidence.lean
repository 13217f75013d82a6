import DataChat.RowFilter.Coverage
import DataChat.Security.Agreement

/-!
# Is `row_filters_applied` true?

The flag is stored with the query, in its citation and in the audit log. It says whether some table
of the allowed schema has row filters, whichever tables the statement reads.

* `returned_sql`: the text that is returned is that of the limited statement with the conjuncts of
  its filters.
* `flagTruthful_iff`: the flag says whether the returned text has such conjuncts exactly when a
  schema with filters comes with a statement that reads a filtered table where the injector sees it.
-/

namespace DataChat.Security

open Sql Validator RowFilter Outcome

variable {env : Env} {maximumRows : Int} {sql : String} {statement result : Expr}
  {secure : SecureQueryResult}

/-- A conjunct of some filter group of the schema, under whatever name. -/
def IsFilterConjunct (env : Env) (c : Expr) : Prop :=
  ∃ allowedTable ∈ env.schema.tables.values, ∃ group ∈ allowedTable.row_filters, ∃ reference e,
    buildFilterGroupExpression env allowedTable reference group = .ok e ∧ c ∈ conjunctsOf e

/-- The `WHERE` of some select has a filter conjunct in the result that it did not have in the
statement. -/
def GetsConjunct (env : Env) (statement result : Expr) : Prop :=
  ∃ p ∈ conjunctsAfter statement result, ∃ c ∈ gained p, IsFilterConjunct env c

/-- Some table reference outside CTE bodies names a table with filters, and the `WHERE` in which it
stands, if any, is not replaced. -/
def ReadsFiltered (env : Env) (statement : Expr) : Prop :=
  ∃ occ ∈ statement.walk, Attached env occ ∧ hasFilters env occ = true

instance (env : Env) (statement : Expr) : Decidable (ReadsFiltered env statement) :=
  inferInstanceAs (Decidable (∃ _ ∈ _, _))

/-- Some table of the schema has row filters. -/
def SchemaFiltered (schema : AllowedSchema) : Prop :=
  ∃ table ∈ schema.tables.values, table.row_filters ≠ []

/-- What the pipeline takes from sqlglot here: the limited statement and the secured one parse back
from their texts, and a select has one `WHERE` at most. -/
structure RoundTrips (env : Env) (limited : Expr) : Prop where
  reparsed : parseOne env.glot (env.glot.sql limited) = .ok limited
  parsed : env.glot.parse (env.glot.sql (securedStatement env limited)) =
    .ok [some (securedStatement env limited)]
  where_ : ∀ occ ∈ limited.walk, occ.node.label.kind.isSelect = true → SingleWhere occ.node

/-! ## The conjuncts of a statement -/

theorem matchedEntry_mem {table : TableRef} {allowedTable : AllowedTable}
    (h : matchedEntry env table = some allowedTable) : allowedTable ∈ env.schema.tables.values := by
  have hmatched := matchedEntry_eq_some_iff.mp h
  unfold matchedTable at hmatched
  dsimp only at hmatched
  split at hmatched
  · exact Dict.mem_values_of_get (pure_ok_iff.mp hmatched)
  · split at hmatched
    · cases pure_ok_iff.mp hmatched
    · rename_i found hfound
      obtain rfl := Option.some.inj (pure_ok_iff.mp hmatched)
      have hmem : found ∈ [found] := List.mem_singleton_self _
      rw [← hfound] at hmem
      exact (List.mem_filter.mp hmem).1
    · exact absurd hmatched fail_ne_ok

/-- There is a conjunct exactly when a filtered table is read where the injector sees it. -/
theorem getsConjunct_iff (h : injectStatement env statement = .ok result)
    (hwhere : ∀ occ ∈ statement.walk, occ.node.label.kind.isSelect = true →
      SingleWhere occ.node) :
    GetsConjunct env statement result ↔ ReadsFiltered env statement := by
  constructor
  · rintro ⟨⟨select, conjuncts⟩, hafter, c, hc, -⟩
    obtain ⟨occ, hocc, -, e, hadds, -⟩ := (mem_gained_iff h hwhere hafter).mp hc
    obtain ⟨hattached, hcte, table, htable, matched, hmatched, group, hgroup, -⟩ := hadds
    refine ⟨occ, hocc, hattached, hasFilters_iff.mpr ⟨hcte, table, htable, matched, hmatched, ?_⟩⟩
    exact List.ne_nil_of_mem hgroup
  · rintro ⟨occ, hocc, hattached, hfilters⟩
    obtain ⟨hcte, table, htable, matched, hmatched, hne⟩ := hasFilters_iff.mp hfilters
    obtain ⟨group, hgroup⟩ := List.exists_mem_of_ne_nil _ hne
    obtain ⟨select, -, conjuncts, hafter, e, hbuilt, hgained⟩ :=
      exists_gained h hwhere hocc hattached hcte htable hmatched hgroup
    obtain ⟨c, hc⟩ := List.exists_mem_of_ne_nil _ (conjunctsOf_ne_nil hbuilt)
    refine ⟨(select, conjuncts), hafter, c, hgained c hc, ?_⟩
    exact ⟨matched, matchedEntry_mem hmatched, group, hgroup, _, e, hbuilt, hc⟩

/-- The injector finds its filters in the schema. -/
theorem schemaFiltered_of_hasFilters {occ : Occ} (h : hasFilters env occ = true) :
    SchemaFiltered env.schema := by
  obtain ⟨-, table, -, allowedTable, hmatched, hne⟩ := hasFilters_iff.mp h
  exact ⟨allowedTable, matchedEntry_mem hmatched, hne⟩

theorem schemaFiltered_iff {schema : AllowedSchema} :
    schema.tables.values.any (fun table => !table.row_filters.isEmpty) = true ↔
      SchemaFiltered schema := by
  rw [List.any_eq_true]
  exact exists_congr (fun table => and_congr_right' (by simp))

/-! ## The flag -/

theorem parsed_eq {glot : Sqlglot} {text : String} {parsed : Expr}
    (hparse : glot.parse text = .ok [some statement])
    (h : parseSingleStatement glot text = .ok parsed) : parsed = statement := by
  cases hblank : isBlank text with
  | false => exact ((parseSingleStatement_ok_iff hparse hblank).mp h).2
  | true =>
    unfold parseSingleStatement at h
    rw [hblank] at h
    exact absurd h reject_ne_ok

/-- What is returned: the text of the secured statement, and whether the schema has filters. -/
theorem returned_sql (hparsed : parseSingleStatement env.glot sql = .ok statement)
    (h : prepareValidatedSql env maximumRows sql = .ok secure)
    (hround : RoundTrips env (limitedStatement statement maximumRows)) :
    injectStatement env (limitedStatement statement maximumRows) =
        .ok (securedStatement env (limitedStatement statement maximumRows)) ∧
      secure.sql = env.glot.sql (securedStatement env (limitedStatement statement maximumRows)) ∧
      (secure.row_filters_applied = true ↔ SchemaFiltered env.schema) := by
  obtain ⟨initial, normalizedSql, securedSql, final, hinitial, hvalid, hnormalized, hinjected,
    hfinal, hfinalValid, htext, hflag⟩ := prepared_stages h
  have haccepts : Accepts env.py env.glot env.schema maximumRows sql statement initial :=
    ⟨hparsed, hinitial, hvalid⟩
  obtain ⟨hinject, rfl⟩ := injected_text haccepts hnormalized hinjected hround.reparsed
  refine ⟨hinject, ?_, by rw [hflag, schemaFiltered_iff]⟩
  obtain ⟨-, limit, limited, hlimit, -⟩ := (accepts_iff hparsed).mp haccepts
  have hlimited : limitedStatement statement maximumRows = limited := by
    unfold limitedStatement
    rw [hlimit]
  rw [hlimited] at hinject hround hfinal ⊢
  obtain ⟨parsed, haccepts'⟩ := accepts_of_valid hfinal hfinalValid
  obtain rfl := parsed_eq hround.parsed haccepts'.parsed
  obtain ⟨-, limit', executed, hlimit', hresult⟩ := (accepts_iff haccepts'.parsed).mp haccepts'
  have hagain := applyRowLimit_again hlimit (existingLimit_secured hinject)
  obtain ⟨-, rfl⟩ := Prod.mk.inj (Except.ok.inj (hagain.symm.trans hlimit'))
  rw [hresult] at htext
  exact (Option.some.inj htext).symm

/-- The flag says whether the returned text has a filter conjunct exactly when a filtered schema comes
with a statement that reads one of its filtered tables where the injector sees it. -/
theorem flagTruthful_iff (hparsed : parseSingleStatement env.glot sql = .ok statement)
    (h : prepareValidatedSql env maximumRows sql = .ok secure)
    (hround : RoundTrips env (limitedStatement statement maximumRows)) :
    ∃ executed, env.glot.parse secure.sql = .ok [some executed] ∧
      ((secure.row_filters_applied = true ↔
          GetsConjunct env (limitedStatement statement maximumRows) executed) ↔
        (SchemaFiltered env.schema →
          ReadsFiltered env (limitedStatement statement maximumRows))) := by
  obtain ⟨hinject, htext, hflag⟩ := returned_sql hparsed h hround
  refine ⟨_, htext ▸ hround.parsed, ?_⟩
  rw [hflag, getsConjunct_iff hinject hround.where_]
  constructor
  · intro htruthful
    exact htruthful.mp
  · intro hreads
    refine ⟨hreads, ?_⟩
    rintro ⟨occ, -, -, hfilters⟩
    exact schemaFiltered_of_hasFilters hfilters

def ownSecure : SecureQueryResult :=
  ⟨ownSecuredSql, ["public.users"], ["public.users.email", "public.users.tenant_id"], 100, true⟩

theorem own_prepared : prepareValidatedSql (ownEnv true) 100 plainSql = .ok ownSecure := by
  decide +kernel

/-- A statement that reads the filtered table has a conjunct, and the flag says so. -/
theorem own_flagged :
    ∃ executed, (ownEnv true).glot.parse ownSecuredSql = .ok [some executed] ∧
      (ownSecure.row_filters_applied = true ↔
        GetsConjunct (ownEnv true) (limitedStatement plainStatement 100) executed) := by
  have hround : RoundTrips (ownEnv true) (limitedStatement plainStatement 100) :=
    ⟨by decide +kernel, by decide +kernel, by decide +kernel⟩
  obtain ⟨executed, hparse, htruthful⟩ :=
    flagTruthful_iff (own_accepts true).parsed own_prepared hround
  refine ⟨executed, hparse, htruthful.mpr (fun _ => ?_)⟩
  decide +kernel

/-! ## A table without filters beside a filtered one -/

def ordersTable : AllowedTable where
  table_id := "orders-table-id"
  schema_name := "public"
  table_name := "orders"
  can_read := true
  can_insert := false
  can_update := false
  can_delete := false
  columns := ⟨[("total", ⟨"total-column-id", "total", "numeric", true, true, true, none⟩)],
    by decide⟩
  row_filters := []

def ordersSql : String := "SELECT total FROM public.orders"

def ordersStatement : Expr :=
  selectExpr [columnNamed "total"] (qualifiedTable "public" "orders" none) []

def ordersLimited : Expr := setArg ordersStatement .limit (limitExpr 100)

def ordersEnv : Env where
  py := asciiCasing
  glot := knownTexts [(ordersSql, ordersStatement), (ordersSql ++ " LIMIT 100", ordersLimited)]
  schema := ⟨"connection-id", ⟨[("public.users", tenantUsersTable), ("public.orders", ordersTable)],
    by decide⟩⟩
  tenantId := "11111111-1111-1111-1111-111111111111"
  userId := "22222222-2222-2222-2222-222222222222"

/-- The flag is set for a statement that has got no conjunct, because another table of the schema
has filters. -/
theorem orders_flagged :
    prepareValidatedSql ordersEnv 100 ordersSql =
        .ok ⟨ordersSql ++ " LIMIT 100", ["public.orders"], ["public.orders.total"], 100, true⟩ ∧
      parseOne ordersEnv.glot (ordersSql ++ " LIMIT 100") = .ok ordersLimited ∧
      injectStatement ordersEnv ordersLimited = .ok ordersLimited ∧
      ¬ GetsConjunct ordersEnv ordersLimited ordersLimited := by
  refine ⟨by decide +kernel, by decide +kernel, by decide +kernel, ?_⟩
  rintro ⟨p, hp, c, hc, -⟩
  have hnone : ∀ p ∈ conjunctsAfter ordersLimited ordersLimited, gained p = [] := by
    decide +kernel
  rw [hnone p hp] at hc
  cases hc

end DataChat.Security
