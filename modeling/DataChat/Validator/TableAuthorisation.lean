import DataChat.Sql.Scope
import DataChat.Validator.Acceptance

/-!
# Are the tables of an accepted statement authorised?

SQL scoping says which table references stand for stored relations (`ReferencesStored`). The
validator has a coarser rule: it exempts every reference whose bare name is the name of some
CTE, wherever that CTE stands and even when the reference is schema-qualified.

`tablesAuthorised_iff` says what is left of the authorisation: all stored references of an
accepted statement are authorised exactly when each stored reference that shares its bare
name with a CTE resolves to an entry that another reference, with a name of its own, brings
in. `shadow_accepted` is an accepted statement that reads `pg_catalog.pg_tables`.
-/

namespace DataChat.Validator

open Sql Outcome

variable {py : Casing} {glot : Sqlglot} {schema : AllowedSchema} {maximumRows : Int}
  {sql : String} {statement : Expr} {result : SQLValidationResult}

/-- Every reference to a stored relation resolves to an entry of the allowed schema, and the
name of that entry is listed. -/
def TablesAuthorised (py : Casing) (schema : AllowedSchema) (statement : Expr)
    (names : List String) : Prop :=
  ∀ occ ∈ statement.walk, ∀ table ∈ tableOf occ, ReferencesStored py occ table →
    ∃ entry ∈ allowedEntry py schema table, entry.1 ∈ names

instance (py : Casing) (schema : AllowedSchema) (statement : Expr) (names : List String) :
    Decidable (TablesAuthorised py schema statement names) :=
  inferInstanceAs (Decidable (∀ _ ∈ _, ∀ _ ∈ _, _ → ∃ _ ∈ _, _))

/-- A stored reference that the validator takes for a CTE because of its bare name is covered:
it resolves to an entry which a reference that is not taken for a CTE resolves to as well. -/
def ShadowedCovered (py : Casing) (schema : AllowedSchema) (statement : Expr) : Prop :=
  ∀ occ ∈ statement.walk, ∀ table ∈ tableOf occ, ReferencesStored py occ table →
    py.lower table.name ∈ getCteNames py statement →
    ∃ entry ∈ allowedEntry py schema table, ∃ other ∈ tablesOf statement,
      py.lower other.name ∉ getCteNames py statement ∧
        ∃ entry' ∈ allowedEntry py schema other, entry'.1 = entry.1

instance (py : Casing) (schema : AllowedSchema) (statement : Expr) :
    Decidable (ShadowedCovered py schema statement) :=
  inferInstanceAs (Decidable (∀ _ ∈ _, ∀ _ ∈ _, _ → _ → ∃ _ ∈ _, ∃ _ ∈ _, _ ∧ ∃ _ ∈ _, _))

theorem mem_tablesOf {occ : Occ} {table : TableRef} (hocc : occ ∈ statement.walk)
    (htable : table ∈ tableOf occ) : table ∈ tablesOf statement :=
  List.mem_filterMap.mpr ⟨occ, hocc, htable⟩

/-- The stored references of an accepted statement are authorised exactly when those that
share their bare name with a CTE are covered by others. -/
theorem tablesAuthorised_iff
    (h : Accepts py glot schema maximumRows sql statement result) :
    TablesAuthorised py schema statement result.referenced_tables ↔
      ShadowedCovered py schema statement := by
  obtain ⟨referenced, limit, limited, hrun⟩ := h.run
  obtain ⟨hlisted, horigin⟩ := collected_tables hrun.tables
  have hnames : result.referenced_tables = referenced.tables := by rw [hrun.output]
  rw [hnames]
  constructor
  · intro hall occ hocc table htable hstored _
    obtain ⟨entry, hentry, hmem⟩ := hall occ hocc table htable hstored
    obtain ⟨other, hother, hfree, entry', hentry', hname⟩ := horigin entry.1 hmem
    exact ⟨entry, hentry, other, hother, hfree, entry', hentry', hname⟩
  · intro hcovered occ hocc table htable hstored
    by_cases hshadow : py.lower table.name ∈ getCteNames py statement
    · obtain ⟨entry, hentry, other, hother, hfree, entry', hentry', hname⟩ :=
        hcovered occ hocc table htable hstored hshadow
      obtain ⟨entry'', hentry'', hmem⟩ := hlisted other hother hfree
      obtain rfl := Option.some.inj (hentry'.symm.trans hentry'')
      exact ⟨entry, hentry, hname ▸ hmem⟩
    · exact hlisted table (mem_tablesOf hocc htable) hshadow

def usersTable : AllowedTable where
  table_id := "users-table-id"
  schema_name := "public"
  table_name := "users"
  can_read := true
  can_insert := false
  can_update := false
  can_delete := false
  columns := ⟨[("email", ⟨"email-column-id", "email", "character varying", true, true, false,
    some "email"⟩)], by decide⟩
  row_filters := []

def usersSchema : AllowedSchema := ⟨"connection-id", ⟨[("public.users", usersTable)], by decide⟩⟩

def plainSql : String := "SELECT email FROM public.users"

def plainStatement : Expr :=
  selectExpr [columnNamed "email"] (qualifiedTable "public" "users" none) []

def plainSqlglot : Sqlglot :=
  knownTexts [(plainSql, plainStatement),
    (plainSql ++ " LIMIT 100", setArg plainStatement .limit (limitExpr 100))]

def plainResult : SQLValidationResult :=
  ⟨true, some (plainSql ++ " LIMIT 100"), [], ["public.users"], ["public.users.email"], some 100⟩

theorem plain_accepts :
    Accepts asciiCasing plainSqlglot usersSchema 100 plainSql plainStatement plainResult :=
  ⟨by decide +kernel, by decide +kernel, rfl⟩

/-! ## A reference that another one covers -/

def archiveSchema : AllowedSchema :=
  ⟨"connection-id", ⟨[("public.archive.users", { usersTable with table_name := "archive.users" })],
    by decide⟩⟩

def coveredSql : String :=
  "WITH users AS (SELECT email FROM public.\"archive.users\") " ++
    "SELECT email FROM \"public.archive\".users"

def coveredStatement : Expr :=
  selectExpr [columnNamed "email"] (qualifiedTable "public.archive" "users" none)
    [withClause "users"
      (selectExpr [columnNamed "email"] (qualifiedTable "public" "archive.users" none) [])]

def coveredSqlglot : Sqlglot :=
  knownTexts [(coveredSql, coveredStatement),
    (coveredSql ++ " LIMIT 100", setArg coveredStatement .limit (limitExpr 100))]

def coveredResult : SQLValidationResult :=
  ⟨true, some (coveredSql ++ " LIMIT 100"), [], ["public.archive.users"],
    ["public.archive.users.email"], some 100⟩

theorem covered_accepts :
    Accepts asciiCasing coveredSqlglot archiveSchema 100 coveredSql coveredStatement
      coveredResult :=
  ⟨by decide +kernel, by decide +kernel, rfl⟩

/-- The second reference shares its bare name with the CTE, and resolves to the entry of the first
one. -/
theorem covered_authorised :
    TablesAuthorised asciiCasing archiveSchema coveredStatement coveredResult.referenced_tables :=
  (tablesAuthorised_iff covered_accepts).mpr (by decide +kernel)

/-! ## A statement that reads a system table -/

def shadowSql : String :=
  "WITH pg_tables AS (SELECT email FROM public.users) SELECT email FROM pg_catalog.pg_tables"

def shadowStatement : Expr :=
  selectExpr [columnNamed "email"] (qualifiedTable "pg_catalog" "pg_tables" none)
    [withClause "pg_tables"
      (selectExpr [columnNamed "email"] (qualifiedTable "public" "users" none) [])]

def shadowSqlglot : Sqlglot :=
  knownTexts [(shadowSql, shadowStatement),
    (shadowSql ++ " LIMIT 100", setArg shadowStatement .limit (limitExpr 100))]

def shadowResult : SQLValidationResult :=
  ⟨true, some (shadowSql ++ " LIMIT 100"), [], ["public.users"], ["public.users.email"], some 100⟩

theorem shadow_accepts :
    Accepts asciiCasing shadowSqlglot usersSchema 100 shadowSql shadowStatement shadowResult :=
  ⟨by decide +kernel, by decide +kernel, rfl⟩

/-- The validator accepts a statement that reads `pg_catalog.pg_tables`. -/
theorem shadow_not_authorised :
    Accepts asciiCasing shadowSqlglot usersSchema 100 shadowSql shadowStatement shadowResult ∧
      ¬ TablesAuthorised asciiCasing usersSchema shadowStatement
        shadowResult.referenced_tables :=
  ⟨shadow_accepts, by decide +kernel⟩

end DataChat.Validator
