import DataChat.Validator.Definitions

/-!
# The row-filter service

`services/database/row_filter_service.py`. The injector parses the validated SQL, computes for
each `SELECT` the conditions of the tables that stand directly in it, and sets a new `WHERE`
on the expression object.

The expression objects are mutable and `exp.and_` copies its operands. The model keeps the
parsed statement and a store that maps the address of a `SELECT` to the `WHERE` that has been
set on it; `current` reads a statement through the store. A `SELECT` inside a `WHERE` that was
replaced is no longer part of the statement: the store still gets its new `WHERE`, and nobody
reads it.
-/

namespace DataChat.RowFilter

open Sql Validator

/-- `TypeError` is raised where a list or an object is looked up in a set. -/
inductive Raised
  | rowFilterError (message : String)
  | typeError
  | tokenError
deriving DecidableEq, Repr

abbrev Injection := Except Raised

/-- `raise RowFilterError(message)`. -/
def fail {α : Type} (message : String) : Injection α := throw (.rowFilterError message)

/-- The arguments that the functions below hand on unchanged. -/
structure Env where
  py : Casing
  glot : Sqlglot
  schema : AllowedSchema
  tenantId : String
  userId : String

def supportedOperators : List String := ["eq", "ne", "gt", "gte", "lt", "lte", "in", "not_in"]

def supportedValueSources : List String := ["literal", "tenant_id", "user_id"]

/-- `value in names`, for a set of strings. -/
def inSet (names : List String) : Json → Injection Bool
  | .string s => pure (decide (s ∈ names))
  | .array _ | .object _ => throw .typeError
  | _ => pure false

/-! ## The condition of a filter group -/

def resolveFilterColumn (allowedTable : AllowedTable) (columnId : String) :
    Injection AllowedColumn :=
  match allowedTable.columns.values.find? (fun c => c.column_id = columnId) with
  | some allowedColumn => pure allowedColumn
  | none => fail "A row filter references an unavailable column."

def resolveFilterValue (env : Env) (rule : JsonObject) : Injection Json := do
  let valueSource := (rule.get "value_source").getD (.string "literal")
  if !(← inSet supportedValueSources valueSource) then
    fail "The row filter value source is not supported."
  else
    match valueSource, rule.get "value" with
    | .string "tenant_id", _ => pure (.string env.tenantId)
    | .string "user_id", _ => pure (.string env.userId)
    | _, none => fail "A literal row filter must contain a value."
    | _, some value => pure value

mutual

/-- `exp.convert(value)` of a JSON value. -/
def convert : Json → Expr
  | .null => leaf .null
  | .bool b => leaf (.boolean b)
  | .number negative magnitude =>
    if negative then build (.other "neg") [(.this, numberLiteral magnitude)]
    else numberLiteral magnitude
  | .string s => stringLiteral s
  | .array items => build (.other "array") (convertItems items)
  | .object fields =>
    build (.other "map")
      [(.other "keys", build (.other "array") (fields.map (fun f => (.expressions,
        stringLiteral f.1)))),
        (.other "values", build (.other "array") (convertFields fields))]

def convertItems : List Json → List (Arg × Expr)
  | [] => []
  | item :: items => (.expressions, convert item) :: convertItems items

def convertFields : List (String × Json) → List (Arg × Expr)
  | [] => []
  | (_, value) :: fields => (.expressions, convert value) :: convertFields fields

end

/-- The comparison of an operator other than `in` and `not_in`. -/
def comparisonOf (operator : String) : Comparison :=
  match operator with
  | "eq" => .eq
  | "ne" => .neq
  | "gt" => .gt
  | "gte" => .gte
  | "lt" => .lt
  | _ => .lte

def buildComparisonExpression (columnExpression : Expr) (operator : String) (value : Json) :
    Injection Expr :=
  if operator ∉ supportedOperators then fail "The row filter operator is not supported."
  else if operator = "in" ∨ operator = "not_in" then
    match value with
    | .array (item :: items) =>
      let inExpression := build .in_ ((.this, columnExpression) :: convertItems (item :: items))
      if operator = "not_in" then pure (build .not_ [(.this, inExpression)])
      else pure inExpression
    | _ => fail "The in and not_in operators require a non-empty list."
  else
    pure (build (.compare (comparisonOf operator))
      [(.this, columnExpression), (.expression, convert value)])

def combineExpressions (expressions : List Expr) (match_ : Json) : Injection Expr := do
  match expressions with
  | [] => fail "A row filter group must contain at least one rule."
  | first :: rest =>
    if !(← inSet ["all", "any"] match_) then
      fail "A row filter group must use all or any matching."
    else
      match match_ with
      | .string "all" => pure (rest.foldl andExpr first)
      | _ => pure (rest.foldl orExpr first)

/-- One pass of the loop over the rules of a group. -/
def buildRuleExpression (env : Env) (allowedTable : AllowedTable) (tableReference : String)
    (rule : Json) : Injection Expr :=
  match rule with
  | .object fields =>
    match JsonObject.get fields "column_id", JsonObject.get fields "operator" with
    | some (.string columnId), some (.string operator) => do
      let allowedColumn ← resolveFilterColumn allowedTable columnId
      let value ← resolveFilterValue env fields
      buildComparisonExpression (columnExpr env.glot allowedColumn.name tableReference) operator
        value
    | some (.string _), _ => fail "A row filter rule must contain an operator."
    | _, _ => fail "A row filter rule must contain a column ID."
  | _ => fail "A row filter rule must be an object."

def buildFilterGroupExpression (env : Env) (allowedTable : AllowedTable)
    (tableReference : String) (filterGroup : JsonObject) : Injection Expr :=
  let match_ := (filterGroup.get "match").getD (.string "all")
  match filterGroup.get "rules" with
  | some (.array (rule :: rules)) => do
    let expressions ← (rule :: rules).mapM (buildRuleExpression env allowedTable tableReference)
    combineExpressions expressions match_
  | _ => fail "A row filter group must contain rules."

/-! ## The tables of a SELECT -/

/-- `table.find_ancestor(exp.Select) is select_expression`. -/
def isDirectlyIn (select table : Occ) : Bool :=
  decide ((findAncestor Kind.isSelect table).map Cursor.address = some select.address)

/-- The selects are visited level by level, so nothing below a select has been replaced when
its turn comes. -/
def getDirectTables (select : Occ) : List Occ :=
  ((select.node.walk.map (fun d => d.under select)).filter
    (fun t => t.node.label.kind.isTable)).filter (isDirectlyIn select)

/-- `table_expression.alias or table_expression.name`. -/
def tableReference (table : TableRef) : String :=
  if table.aliasText = "" then table.name else table.aliasText

/-- The allowed table that a reference names. -/
def matchedTable (py : Casing) (schema : AllowedSchema) (table : TableRef) :
    Injection (Option AllowedTable) :=
  let tableName := py.lower table.name
  match schemaName py table with
  | some schemaName => pure (schema.tables.get (schemaName ++ "." ++ tableName))
  | none =>
    match schema.tables.values.filter (fun t => py.lower t.table_name = tableName) with
    | [] => pure none
    | [allowedTable] => pure (some allowedTable)
    | _ => fail ("Table '" ++ tableName ++ "' is ambiguous.")

/-- `table_expression.find_ancestor(exp.CTE) is not None`. -/
def insideCte (occ : Occ) : Bool := (findAncestor Kind.isCte occ).isSome

def resolveSelectTable (py : Casing) (schema : AllowedSchema) (occ : Occ) (table : TableRef) :
    Injection (Option (AllowedTable × String)) := do
  if insideCte occ then pure none
  else
    match ← matchedTable py schema table with
    | none => pure none
    | some allowedTable => pure (some (allowedTable, tableReference table))

/-- The conditions of one table of a select: one for each filter group. -/
def tableConditions (env : Env) (occ : Occ) : Injection (List Expr) :=
  match tableOf occ with
  | none => pure []
  | some table => do
    match ← resolveSelectTable env.py env.schema occ table with
    | none => pure []
    | some (allowedTable, tableReference) =>
      allowedTable.row_filters.mapM (buildFilterGroupExpression env allowedTable tableReference)

def buildSelectSecurityExpression (env : Env) (select : Occ) : Injection (Option Expr) := do
  let conditions ← (getDirectTables select).mapM (tableConditions env)
  match conditions.flatten with
  | [] => pure none
  | securityExpressions => some <$> combineExpressions securityExpressions (.string "all")

/-! ## Injection -/

/-- The new `WHERE` of each select that has got one, by address. -/
abbrev Store := Dict (List Nat) Expr

/-- The expression at an occurrence as it stands after the updates in the store. -/
def current (store : Store) (occ : Occ) : Expr :=
  occ.rebuild (fun place e =>
    match store.get place.address with
    | none => e
    | some newWhere => setArg e .where_ newWhere)

/-- `exp.Where(this=...)` of the security expression, joined to the condition of a select that
has one. -/
def whereWith (select securityExpression : Expr) : Expr :=
  match (arg select .where_).bind (fun existing => arg existing .this) with
  | none => build .where_ [(.this, securityExpression)]
  | some condition => build .where_ [(.this, andExpr condition securityExpression)]

def injectFilterIntoSelect (store : Store) (select : Occ) (securityExpression : Expr) : Store :=
  store.set select.address (whereWith (current store select) securityExpression)

/-- `select_expressions`, with the statement itself in front when it is a select. -/
def selectExpressions (statement : Expr) : List Occ :=
  let found := findAll Kind.isSelect statement
  if statement.label.kind.isSelect then Cursor.root statement :: found else found

/-- The loop that skips the selects whose identity is in `seen_select_ids`. -/
def uniqueSelects : List (List Nat) → List Occ → List Occ
  | _, [] => []
  | seen, s :: rest =>
    if s.address ∈ seen then uniqueSelects seen rest
    else s :: uniqueSelects (s.address :: seen) rest

def injectSelect (env : Env) (store : Store) (select : Occ) : Injection Store := do
  match ← buildSelectSecurityExpression env select with
  | none => pure store
  | some securityExpression => pure (injectFilterIntoSelect store select securityExpression)

/-- The body of `inject_mandatory_row_filters` between parsing and printing. -/
def injectStatement (env : Env) (statement : Expr) : Injection Expr := do
  let store ← (uniqueSelects [] (selectExpressions statement)).foldlM (injectSelect env) Dict.empty
  pure (current store (Cursor.root statement))

def injectMandatoryRowFilters (env : Env) (sql : String) : Injection String :=
  if isBlank sql then fail "SQL cannot be empty."
  else
    match parseOne env.glot sql with
    | .error .parseError => fail "SQL could not be parsed for row filtering."
    | .error .tokenError => throw .tokenError
    | .ok statement => do
      let secured ← injectStatement env statement
      pure (env.glot.sql secured)

end DataChat.RowFilter
