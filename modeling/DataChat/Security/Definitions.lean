import DataChat.RowFilter.Definitions

/-!
# The query security service

`services/database/query_security_service.py`: a statement is validated, gets its mandatory row
filters, and is validated again.
-/

namespace DataChat.Security

open Sql Validator RowFilter

structure SecureQueryResult where
  sql : String
  referenced_tables : List String
  referenced_columns : List String
  applied_limit : Int
  row_filters_applied : Bool
deriving DecidableEq, Repr

/-- `QuerySecurityError`, and the exceptions of the two services that are not caught. -/
inductive Raised
  | querySecurityError (message : String)
  | typeError
  | tokenError
deriving DecidableEq, Repr

abbrev Preparation := Except Raised

/-- `raise QuerySecurityError(message)`. -/
def refuse {α : Type} (message : String) : Preparation α := throw (.querySecurityError message)

def requireValidResult (result : SQLValidationResult) (stage : String) : Preparation Unit :=
  if result.is_valid then pure ()
  else
    let errorMessage := result.errors.headD "SQL validation failed."
    refuse (stage ++ ": " ++ errorMessage)

/-- A call of `validate_sql`, which may raise a `TokenError`. -/
def callValidator (env : Env) (maximumRows : Int) (sql : String) :
    Preparation SQLValidationResult :=
  match validateSql env.py env.glot env.schema maximumRows sql with
  | .ok result => pure result
  | .error _ => throw .tokenError

/-- A call of `inject_mandatory_row_filters`. -/
def callInjector (env : Env) (sql : String) : Preparation String :=
  match injectMandatoryRowFilters env sql with
  | .ok secured => pure secured
  | .error (.rowFilterError message) =>
    refuse ("Mandatory row-filter injection failed: " ++ message)
  | .error .typeError => throw .typeError
  | .error .tokenError => throw .tokenError

def prepareValidatedSql (env : Env) (maximumRows : Int) (sql : String) :
    Preparation SecureQueryResult := do
  if env.schema.tables.items.isEmpty then
    refuse "The authenticated user has no readable database tables."
  else
    let initialValidation ← callValidator env maximumRows sql
    requireValidResult initialValidation "Initial SQL validation failed"
    match initialValidation.normalized_sql with
    | none => refuse "Initial SQL validation produced no executable SQL."
    | some normalizedSql =>
      let hasMandatoryFilters :=
        env.schema.tables.values.any (fun table => !table.row_filters.isEmpty)
      let securedSql ← callInjector env normalizedSql
      let finalValidation ← callValidator env maximumRows securedSql
      requireValidResult finalValidation "Final SQL validation failed"
      match finalValidation.normalized_sql, finalValidation.applied_limit with
      | none, _ => refuse "Final SQL validation produced no executable SQL."
      | _, none => refuse "The secured query has no valid result limit."
      | some finalSql, some appliedLimit =>
        pure { sql := finalSql
               referenced_tables := finalValidation.referenced_tables
               referenced_columns := finalValidation.referenced_columns
               applied_limit := appliedLimit
               row_filters_applied := hasMandatoryFilters }

end DataChat.Security
