import DataChat.Core.Permissions
import DataChat.Library.Outcome
import DataChat.Sql.Sqlglot

/-!
# The query validator

`services/database/query_validator.py`. The functions raise `SQLValidationError`, which
`validateSql` turns into an invalid result; a `TokenError` of the parser is not caught and
leaves `validateSql` as well.
-/

namespace DataChat.Validator

open Sql

structure SQLValidationResult where
  is_valid : Bool
  normalized_sql : Option String
  errors : List String
  referenced_tables : List String
  referenced_columns : List String
  applied_limit : Option Int
deriving DecidableEq, Repr

inductive Raised
  | sqlValidationError (message : String)
  | tokenError
deriving DecidableEq, Repr

abbrev Validation := Except Raised

/-- `raise SQLValidationError(message)`. -/
def reject {α : Type} (message : String) : Validation α :=
  throw (.sqlValidationError message)

def systemSchemas : List String := ["information_schema", "pg_catalog", "pg_toast"]

def commentMarkers : List String := ["--", "/*", "*/"]

def blockedExpressionKeys : List String :=
  ["alter", "command", "copy", "create", "delete", "drop", "grant", "insert", "load", "merge",
    "revoke", "truncate", "truncatetable", "update"]

def rejectSqlComments (sql : String) : Validation Unit :=
  if commentMarkers.any (fun marker => contains marker sql) then
    reject "SQL comments are not allowed."
  else pure ()

def parseSingleStatement (glot : Sqlglot) (sql : String) : Validation Expr := do
  if isBlank sql then reject "SQL cannot be empty."
  rejectSqlComments sql
  match glot.parse sql with
  | .error .parseError => reject "SQL could not be parsed."
  | .error .tokenError => throw .tokenError
  | .ok statements =>
    match statements.filterMap id with
    | [statement] => pure statement
    | _ => reject "Exactly one SQL statement is required."

def validateReadOnlyStatement (py : Casing) (statement : Expr) : Validation Unit := do
  if !statement.label.kind.isQuery then reject "Only SELECT or WITH queries are allowed."
  if statement.walk.any (fun occ => py.lower occ.node.label.kind.key ∈ blockedExpressionKeys) then
    reject "Only read-only SQL queries are allowed."
  if (findAll Kind.isSelect statement).isEmpty then
    reject "The query must contain a SELECT statement."

/-- The alias of a CTE that has one. -/
def cteName (py : Casing) (occ : Occ) : Option String :=
  match occ.node.label.kind with
  | .cte alias_ => if alias_.this.this = "" then none else some (py.lower alias_.this.this)
  | _ => none

def getCteNames (py : Casing) (statement : Expr) : List String :=
  (findAll Kind.isCte statement).filterMap (cteName py)

/-- `table.db.lower() if table.db else None`. -/
def schemaName (py : Casing) (table : TableRef) : Option String :=
  if identText table.db = "" then none else some (py.lower (identText table.db))

def matchingTables (py : Casing) (schema : AllowedSchema) (tableName : String) :
    List (String × AllowedTable) :=
  schema.tables.items.filter (fun entry => py.lower entry.2.table_name = tableName)

def resolveAllowedTable (py : Casing) (schema : AllowedSchema) (cteNames : List String)
    (table : TableRef) : Validation (Option (String × AllowedTable)) :=
  let tableName := py.lower table.name
  if tableName ∈ cteNames then pure none
  else
    match schemaName py table with
    | some schemaName =>
      if schemaName ∈ systemSchemas then reject "System schemas are not allowed."
      else
        let qualifiedName := schemaName ++ "." ++ tableName
        match schema.tables.get qualifiedName with
        | none => reject ("Table '" ++ qualifiedName ++ "' is not allowed.")
        | some allowedTable => pure (some (qualifiedName, allowedTable))
    | none =>
      match matchingTables py schema tableName with
      | [] => reject ("Table '" ++ tableName ++ "' is not allowed.")
      | [entry] => pure (some entry)
      | _ =>
        reject ("Table '" ++ tableName ++ "' is ambiguous. Use a schema-qualified table name.")

/-- The two accumulators of `collectReferencedTables`. -/
structure Referenced where
  tables : List String
  lookup : Dict String AllowedTable

/-- `if name not in names: names.append(name)`. -/
def appendNew (names : List String) (name : String) : List String :=
  if name ∈ names then names else names ++ [name]

/-- What one resolved table adds: its qualified name, and three keys of the lookup table. -/
def Referenced.record (py : Casing) (acc : Referenced) (table : TableRef) (qualifiedName : String)
    (allowedTable : AllowedTable) : Referenced :=
  let lookup := (acc.lookup.set (py.lower qualifiedName) allowedTable).set
    (py.lower allowedTable.table_name) allowedTable
  { tables := appendNew acc.tables qualifiedName
    lookup :=
      if table.aliasText = "" then lookup else lookup.set (py.lower table.aliasText) allowedTable }

def collectTable (py : Casing) (schema : AllowedSchema) (cteNames : List String)
    (acc : Referenced) (table : TableRef) : Validation Referenced := do
  match ← resolveAllowedTable py schema cteNames table with
  | none => pure acc
  | some (qualifiedName, allowedTable) => pure (acc.record py table qualifiedName allowedTable)

/-- `statement.find_all(exp.Table)`. -/
def tablesOf (statement : Expr) : List TableRef := (statement.walk).filterMap tableOf

def collectReferencedTables (py : Casing) (statement : Expr) (schema : AllowedSchema) :
    Validation Referenced := do
  let collected ← (tablesOf statement).foldlM
    (collectTable py schema (getCteNames py statement)) ⟨[], Dict.empty⟩
  if collected.tables.isEmpty then
    reject "The query must reference at least one allowed table."
  else pure collected

def rejectStarSelection (statement : Expr) : Validation Unit :=
  if (findAll Kind.isStar statement).isEmpty then pure ()
  else reject "SELECT * is not allowed. Columns must be selected explicitly."

def resolveUnqualifiedColumn (columnName : String) (referencedTables : List String)
    (schema : AllowedSchema) : Validation (AllowedTable × AllowedColumn) :=
  let found := referencedTables.filterMap (fun qualifiedName => do
    let allowedTable ← schema.tables.get qualifiedName
    let allowedColumn ← allowedTable.columns.get columnName
    pure (allowedTable, allowedColumn))
  match found with
  | [] => reject ("Column '" ++ columnName ++ "' is not allowed.")
  | [entry] => pure entry
  | _ =>
    reject ("Column '" ++ columnName ++ "' is ambiguous. Use a table-qualified column name.")

/-- The loop over `column.parent`, `column.parent.parent`, ...: a clause of the given classes
comes before the first `SELECT`. -/
def clauseBeforeSelect (isClause : Kind → Bool) : List Kind → Bool
  | [] => false
  | k :: rest =>
    if isClause k then true
    else if k.isSelect then false
    else clauseBeforeSelect isClause rest

def isFilterClause : Kind → Bool
  | .where_ | .having | .join _ _ _ _ => true
  | _ => false

/-- The classes of the parent, its parent, and so on up to the root. -/
def parentKinds (occ : Occ) : List Kind := occ.above.map (fun s => s.parent.label.kind)

def isFilterColumn (column : Occ) : Bool :=
  clauseBeforeSelect isFilterClause (parentKinds column)

def isAggregateColumn (column : Occ) : Bool :=
  clauseBeforeSelect Kind.isAggFunc (parentKinds column)

def validateColumnAccess (column : Occ) (columnName : String) (allowedColumn : AllowedColumn) :
    Validation Unit := do
  if !allowedColumn.can_read then
    reject ("Column '" ++ columnName ++ "' is not readable.")
  if isFilterColumn column && !allowedColumn.can_filter then
    reject ("Column '" ++ columnName ++ "' cannot be used for filtering.")
  if isAggregateColumn column && !allowedColumn.can_aggregate then
    reject ("Column '" ++ columnName ++ "' cannot be aggregated.")

/-- The allowed table and column a column reference stands for: through the lookup table when
it is qualified, else through the list of referenced tables. -/
def resolveColumn (py : Casing) (referenced : Referenced) (schema : AllowedSchema)
    (column : ColumnRef) : Validation (AllowedTable × AllowedColumn) :=
  let columnName := py.lower (identText column.this)
  if identText column.table = "" then
    resolveUnqualifiedColumn columnName referenced.tables schema
  else
    let qualifier := py.lower (identText column.table)
    match referenced.lookup.get qualifier with
    | none =>
      reject ("Unknown table or alias '" ++ qualifier ++ "' for column '" ++ columnName ++ "'.")
    | some allowedTable =>
      match allowedTable.columns.get columnName with
      | none => reject ("Column '" ++ columnName ++ "' is not allowed.")
      | some allowedColumn => pure (allowedTable, allowedColumn)

def columnReference (py : Casing) (allowedTable : AllowedTable) (column : ColumnRef) : String :=
  allowedTable.schema_name ++ "." ++ allowedTable.table_name ++ "." ++
    py.lower (identText column.this)

/-- One pass of the loop of `collectReferencedColumns`; a column without a name is skipped. -/
def collectColumn (py : Casing) (referenced : Referenced) (schema : AllowedSchema)
    (acc : List String) (occ : Occ) : Validation (List String) :=
  match columnOf occ with
  | none => pure acc
  | some column =>
    if py.lower (identText column.this) = "" then pure acc
    else do
      let (allowedTable, allowedColumn) ← resolveColumn py referenced schema column
      validateColumnAccess occ (py.lower (identText column.this)) allowedColumn
      pure (appendNew acc (columnReference py allowedTable column))

def collectReferencedColumns (py : Casing) (statement : Expr) (referenced : Referenced)
    (schema : AllowedSchema) : Validation (List String) := do
  rejectStarSelection statement
  let columns ← (findAll Kind.isColumn statement).foldlM
    (collectColumn py referenced schema) []
  if columns.isEmpty then
    reject "The query must reference at least one readable column."
  else pure columns

/-- The digits of `int(text)`, which may be separated by single underscores. -/
def intDigits : Nat → List Char → Option Nat
  | n, [] => some n
  | n, '_' :: c :: cs =>
    if c.isDigit then intDigits (10 * n + (c.toNat - '0'.toNat)) cs else none
  | n, c :: cs => if c.isDigit then intDigits (10 * n + (c.toNat - '0'.toNat)) cs else none

/-- `int(literal.this)` of a number literal for which `is_int` holds. -/
def literalInt (text : String) : Option Nat :=
  match text.toList with
  | [] => none
  | c :: cs => if c.isDigit then intDigits 0 (c :: cs) else none

/-- The value of a `LIMIT` that is an integer literal. -/
def existingLimit (limitExpression : Expr) : Option Nat := do
  let existing ← arg limitExpression .expression
  match existing.label.kind with
  | .literal text false => literalInt text
  | _ => none

/-- `exp.Limit(expression=exp.Literal.number(maximum_rows))`. -/
def limitExpr (maximumRows : Int) : Expr :=
  build .limit [(.expression, numberLiteral (toString maximumRows))]

/-- The limit that applies and the statement as it is left. -/
def applyRowLimit (statement : Expr) (maximumRows : Int) : Validation (Int × Expr) :=
  if maximumRows < 1 then reject "The maximum row limit must be positive."
  else
    match (arg statement .limit).bind existingLimit with
    | some existing =>
      if 1 ≤ existing ∧ (existing : Int) ≤ maximumRows then pure (existing, statement)
      else pure (maximumRows, setArg statement .limit (limitExpr maximumRows))
    | none => pure (maximumRows, setArg statement .limit (limitExpr maximumRows))

/-- The body of the `try` block of `validate_sql`, with the statement it leaves. -/
def validateStatement (py : Casing) (glot : Sqlglot) (schema : AllowedSchema) (maximumRows : Int)
    (sql : String) : Validation (SQLValidationResult × Expr) := do
  let statement ← parseSingleStatement glot sql
  validateReadOnlyStatement py statement
  let referenced ← collectReferencedTables py statement schema
  let columns ← collectReferencedColumns py statement referenced schema
  let (appliedLimit, limited) ← applyRowLimit statement maximumRows
  pure ({ is_valid := true
          normalized_sql := some (glot.sql limited)
          errors := []
          referenced_tables := referenced.tables
          referenced_columns := columns
          applied_limit := some appliedLimit }, limited)

def validateSql (py : Casing) (glot : Sqlglot) (schema : AllowedSchema) (maximumRows : Int)
    (sql : String) : Except SqlglotError SQLValidationResult :=
  match validateStatement py glot schema maximumRows sql with
  | .ok (result, _) => .ok result
  | .error (.sqlValidationError message) => .ok ⟨false, none, [message], [], [], none⟩
  | .error .tokenError => .error .tokenError

end DataChat.Validator
