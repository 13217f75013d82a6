import DataChat.Sql.Syntax

/-!
# What the platform takes from sqlglot

The parser and the generator of sqlglot are not part of the repository. They enter as the
functions of a `Sqlglot`; what a theorem needs to know about them (that a text parses to a
given tree, that a printed tree parses back) is a hypothesis of that theorem. The node
builders the platform calls are small enough to be written out.
-/

namespace DataChat.Sql

/-- The exceptions `parse` raises: `ParseError` and `TokenError`. -/
inductive SqlglotError
  | parseError
  | tokenError
deriving DecidableEq, Repr

structure Sqlglot where
  /-- `parse(sql, read=dialect)`: one entry for each statement, `None` for an empty one. -/
  parse : String → Except SqlglotError (List (Option Expr))
  /-- `expression.sql(dialect=dialect, pretty=False)`. -/
  sql : Expr → String
  /-- `SAFE_IDENTIFIER_RE.match`: whether a name may be printed without quotes. -/
  safeIdentifier : String → Bool

/-- `parse_one(sql, read=dialect)`. -/
def parseOne (glot : Sqlglot) (text : String) : Except SqlglotError Expr :=
  match glot.parse text with
  | .error e => .error e
  | .ok (some statement :: _) => .ok statement
  | .ok _ => .error .parseError

/-! ## Node builders -/

def leaf (kind : Kind) : Expr := .node ⟨.this, kind⟩ []

/-- A node with its children given by argument. -/
def build (kind : Kind) (args : List (Arg × Expr)) : Expr :=
  .node ⟨.this, kind⟩ (args.map (fun a => withArgKey a.1 a.2))

/-- `exp.Literal.number(n)`. -/
def numberLiteral (text : String) : Expr := leaf (.literal text false)

/-- `exp.Literal.string(text)`. -/
def stringLiteral (text : String) : Expr := leaf (.literal text true)

/-- `exp.to_identifier(name)`: quoted exactly when it has to be. -/
def toIdentifier (glot : Sqlglot) (name : String) : Ident := ⟨name, !glot.safeIdentifier name⟩

/-- `exp.column(name, table=table)`. -/
def columnExpr (glot : Sqlglot) (name table : String) : Expr :=
  leaf (.column ⟨some (toIdentifier glot name), some (toIdentifier glot table), none⟩)

/-- `isinstance(node, exp.Connector)`. -/
def isConnector : Kind → Bool
  | .and_ | .or_ => true
  | .other key => decide (key = "xor")
  | _ => false

/-- `_wrap(expression, Connector)`: parentheses around a connector. -/
def wrapConnector (e : Expr) : Expr :=
  if isConnector e.label.kind then build .paren [(.this, e)] else e

/-- `exp.and_(left, right)`. The operands are copied (`copy=True` is the default): the tree
returned holds no node of the trees given. -/
def andExpr (left right : Expr) : Expr :=
  build .and_ [(.this, wrapConnector left), (.expression, wrapConnector right)]

/-- `exp.or_(left, right)`. -/
def orExpr (left right : Expr) : Expr :=
  build .or_ [(.this, wrapConnector left), (.expression, wrapConnector right)]

/-! ## Writing statements down -/

/-- An identifier written without quotes. -/
def plain (text : String) : Ident := ⟨text, false⟩

def columnNamed (name : String) : Expr := leaf (.column ⟨some (plain name), none, none⟩)

def qualifiedColumn (table name : String) : Expr :=
  leaf (.column ⟨some (plain name), some (plain table), none⟩)

/-- `name`, or `name AS alias_` when an alias is given. -/
def tableNamed (name : String) (alias_ : Option String) : Expr :=
  leaf (.table ⟨some (plain name), none, alias_.map (fun a => ⟨plain a, []⟩)⟩)

/-- `schema.name`, or `schema.name AS alias_` when an alias is given. -/
def qualifiedTable (schema name : String) (alias_ : Option String) : Expr :=
  leaf (.table ⟨some (plain name), some (plain schema), alias_.map (fun a => ⟨plain a, []⟩)⟩)

/-- `SELECT columns FROM source` and the other clauses. -/
def selectExpr (columns : List Expr) (source : Expr) (clauses : List (Arg × Expr)) : Expr :=
  build .select (columns.map (fun c => (.expressions, c)) ++
    (.from_, build .from_ [(.this, source)]) :: clauses)

/-- `WITH name AS (query)`, as a clause of a query. -/
def withClause (name : String) (query : Expr) : Arg × Expr :=
  (.with_, build (.with_ false) [(.expressions, build (.cte ⟨plain name, []⟩) [(.this, query)])])

def whereClause (condition : Expr) : Arg × Expr :=
  (.where_, build .where_ [(.this, condition)])

/-- A `Sqlglot` that knows the given texts, and prints each statement as its text. -/
def knownTexts (texts : List (String × Expr)) : Sqlglot where
  parse text :=
    match texts.find? (fun p => p.1 = text) with
    | some p => .ok [some p.2]
    | none => .error .parseError
  sql statement := ((texts.find? (fun p => p.2 = statement)).map Prod.fst).getD ""
  safeIdentifier name := match name.toList with
    | [] => false
    | c :: cs => (c.isAlpha || c = '_') && cs.all (fun d => d.isAlphanum || d = '_')

end DataChat.Sql
