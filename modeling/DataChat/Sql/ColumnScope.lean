import DataChat.Sql.Scope

/-!
# Which column a column reference denotes

The items of a `FROM` clause are the range variables of their query block. Each binds a name
and offers columns: those of a stored relation, or the outputs of a query. A reference looks
through the scopes around it, innermost first: with a qualifier for a range variable of that
name, without one for a column of that name. What it finds is a `ColumnSource`.

* `rangeVariables`: the range variables at and below an item of a `FROM` clause.
* `scopesFrom`: the scopes around a place of the statement. A `FROM` item does not see its
  siblings unless it is lateral, and then those to its left; a join condition sees the two sides of
  its join; an item of `ORDER BY` sees the labels of the query first, one of `GROUP BY` after the
  block.
* `columnSources`: what a column reference denotes.
* `joinSources`: what the column names of `USING` and of `NATURAL` denote.
-/

namespace DataChat.Sql

/-- A stored relation, by its own names. -/
structure Relation where
  schema : String
  name : String
deriving DecidableEq, Repr

/-- What the resolution of names needs to know about the database. -/
structure Catalog where
  searchPath : List String
  columns : Relation → Option (List String)
  /-- The label of an output without alias that is no column, from the labels of its parts. -/
  expressionName : Node → List (Option String) → Option String

/-- The relation that a name which is no CTE stands for. -/
def Catalog.relation (catalog : Catalog) (py : Casing) (table : TableRef) : Option Relation := do
  let name ← table.this
  let schemas :=
    match table.db with
    | some db => if db.this = "" then catalog.searchPath else [db.folded py]
    | none => catalog.searchPath
  (schemas.map (fun schema => ⟨schema, name.folded py⟩)).find?
    (fun relation => (catalog.columns relation).isSome)

/-- Where the value of a column comes from. -/
inductive ColumnSource
  | stored (relation : Relation) (column : String)
  | output (query : Occ) (index : Nat)
  | computed

/-- The columns of a relation with their labels. -/
abbrev Columns := List (Option String × ColumnSource)

/-- An item of a `FROM` clause. `relation` is set when it is a stored relation under its own
name, which is when a schema-qualified reference can reach it. -/
structure RangeVariable where
  item : Occ
  name : Option String
  relation : Option Relation
  columns : Columns

/-! ## The outputs of a query -/

/-- The labels a node gives to its outputs: one for an expression, a list for a query. -/
def labelsStep (py : Casing) (catalog : Catalog) (node : Node)
    (children : List (Node × List (Option String))) : List (Option String) :=
  let under (name : Arg) : List (Option String) :=
    (children.filter (fun c => c.1.argKey = name)).flatMap Prod.snd
  match node.kind with
  | .select => under .expressions
  | .setOperation _ => under .this
  | .subquery _ => under .this
  | .cte _ => under .this
  | .paren => under .this
  | .alias_ alias_ => [some (alias_.folded py)]
  | .column ref => [ref.this.map (Ident.folded py)]
  | _ => [catalog.expressionName node (children.flatMap Prod.snd)]

/-- The output labels of a query. -/
def outputLabels (py : Casing) (catalog : Catalog) (query : Expr) : List (Option String) :=
  query.fold (labelsStep py catalog)

def outputColumns (py : Casing) (catalog : Catalog) (query : Occ) : Columns :=
  (outputLabels py catalog query.node).mapIdx (fun i label => (label, .output query i))

/-- The columns after the first of them have got the names of an alias. -/
def renameColumns (py : Casing) (names : List Ident) (columns : Columns) : Columns :=
  columns.mapIdx (fun i c =>
    match names[i]? with
    | some name => (some (name.folded py), c.2)
    | none => c)

/-! ## Range variables -/

/-- The children that an occurrence holds under an argument. -/
def underArg (occ : Occ) (name : Arg) : List Occ :=
  occ.down.filter (fun c => c.node.label.argKey = name)

/-- The columns of a table function that has an alias: those the alias names, else one column
with the name of the alias. -/
def functionColumns (py : Casing) (alias_ : Option TableAlias) : Columns :=
  match alias_ with
  | none => []
  | some alias_ =>
    (if alias_.columns = [] then [alias_.this] else alias_.columns).map
      (fun name => (some (name.folded py), .computed))

/-- The columns of a table reference: those of the CTE it stands for, else of the relation. -/
def tableColumns (py : Casing) (catalog : Catalog) (occ : Occ) (table : TableRef) : Columns :=
  let bound := if identText table.db = "" then table.this.bind (cteInScope py occ) else none
  match bound with
  | some cte =>
    renameColumns py (((cteAlias cte).map TableAlias.columns).getD [])
      ((underArg cte .this).flatMap (outputColumns py catalog))
  | none =>
    match catalog.relation py table with
    | some relation =>
      ((catalog.columns relation).getD []).map (fun c => (some c, .stored relation c))
    | none => if table.this = none then functionColumns py table.alias_ else []

def tableVariable (py : Casing) (catalog : Catalog) (occ : Occ) (table : TableRef) :
    RangeVariable :=
  let columns := tableColumns py catalog occ table
  match table.alias_ with
  | some alias_ =>
    ⟨occ, some (alias_.this.folded py), none, renameColumns py alias_.columns columns⟩
  | none =>
    ⟨occ, table.this.map (Ident.folded py),
      if ReferencesStored py occ table then catalog.relation py table else none, columns⟩

def aliasedVariable (py : Casing) (item : Occ) (alias_ : Option TableAlias) (columns : Columns) :
    RangeVariable :=
  match alias_ with
  | some alias_ =>
    ⟨item, some (alias_.this.folded py), none, renameColumns py alias_.columns columns⟩
  | none => ⟨item, none, none, columns⟩

/-- The range variables of an item, without those of the joins it carries. `below` gives the
variables of what it wraps: a `Subquery` around anything but a query is a parenthesised join,
which is one variable when it has an alias. -/
def ownVariables (py : Casing) (catalog : Catalog) (below : Occ → List RangeVariable)
    (item : Occ) : List RangeVariable :=
  let inner := underArg item .this
  match item.node.label.kind with
  | .from_ | .join _ _ _ _ => inner.flatMap below
  | .table ref => [tableVariable py catalog item ref]
  | .udtf _ alias_ =>
    if inner.any (fun c => c.node.label.kind.isQuery) then
      [aliasedVariable py item alias_ (inner.flatMap (outputColumns py catalog))]
    else [aliasedVariable py item alias_ (functionColumns py alias_)]
  | .subquery alias_ =>
    if inner.any (fun c => c.node.label.kind.isBareQuery) then
      [aliasedVariable py item alias_ (inner.flatMap (outputColumns py catalog))]
    else
      match alias_ with
      | none => inner.flatMap below
      | some _ =>
        [aliasedVariable py item alias_ ((inner.flatMap below).flatMap RangeVariable.columns)]
  | _ => []

/-- The range variables at and below an item of a `FROM` clause, to a depth of `n`. -/
def rangeVariables (py : Casing) (catalog : Catalog) : Nat → Occ → List RangeVariable
  | 0, _ => []
  | n + 1, item =>
    ownVariables py catalog (rangeVariables py catalog n) item ++
      (underArg item .joins).flatMap (rangeVariables py catalog n)

/-- The range variables of an item, at any depth. -/
def variablesOf (py : Casing) (catalog : Catalog) (item : Occ) : List RangeVariable :=
  rangeVariables py catalog item.node.height item

def isFromItem (occ : Occ) : Bool :=
  decide (occ.node.label.argKey ∈ [Arg.from_, Arg.joins, Arg.laterals])

/-- The items of the `FROM` clause of a query block, left to right. -/
def fromItems (block : Occ) : List Occ := block.down.filter isFromItem

/-- The range variables of a query block. -/
def blockVariables (py : Casing) (catalog : Catalog) (block : Occ) : List RangeVariable :=
  (fromItems block).flatMap (variablesOf py catalog)

/-! ## Joins -/

/-- The join stands for a comma between two items. -/
def isComma (occ : Occ) : Bool :=
  decide (occ.node.label.kind = .join none none false []) && (underArg occ .on).isEmpty

/-- The items from the last comma on. A comma binds weaker than a join. -/
def sinceComma : List Occ → List Occ
  | [] => []
  | item :: items => if items.any isComma then sinceComma items else item :: items

/-- The variables that an item which carries joins has to the left of its child at place `index`;
for a query block the whole clause before that child. -/
def variablesBefore (py : Casing) (catalog : Catalog) (carrier : Occ) (index : Nat) :
    List RangeVariable :=
  (if carrier.node.label.kind.isSelect then []
    else ownVariables py catalog (variablesOf py catalog) carrier) ++
    ((carrier.down.take index).filter isFromItem).flatMap (variablesOf py catalog)

/-- The variables on the left side of the join at place `index`. -/
def leftVariables (py : Casing) (catalog : Catalog) (carrier : Occ) (index : Nat) :
    List RangeVariable :=
  if carrier.node.label.kind.isSelect then
    (sinceComma ((carrier.down.take index).filter isFromItem)).flatMap (variablesOf py catalog)
  else variablesBefore py catalog carrier index

/-- The variables of both sides of the join at place `index`. -/
def joinedVariables (py : Casing) (catalog : Catalog) (carrier : Occ) (index : Nat) :
    List RangeVariable :=
  leftVariables py catalog carrier index ++
    (carrier.down[index]?).toList.flatMap (variablesOf py catalog)

/-! ## Scopes -/

/-- The variables that are visible together. -/
abbrev VisibleVariables := List RangeVariable

/-- What a place inside a `FROM` clause sees of that clause: nothing; the sides of the join whose
condition it stands in (`joined`, once the item that carries the join is reached); or what stands to
the left of a lateral item, as far as it has been passed. -/
inductive View
  | nothing
  | condition
  | joined (visible : VisibleVariables)
  | lateral (visible : VisibleVariables)

/-- The view from the carrier of an item at place `index`. -/
def View.carried (py : Casing) (catalog : Catalog) (carrier : Occ) (index : Nat) : View → View
  | .condition => .joined (joinedVariables py catalog carrier index)
  | .lateral visible => .lateral (variablesBefore py catalog carrier index ++ visible)
  | view => view

def View.visible : View → VisibleVariables
  | .joined visible | .lateral visible => visible
  | _ => []

/-- A variable without a name for the outputs of a query. -/
def labelsOf (py : Casing) (catalog : Catalog) (query : Occ) : VisibleVariables :=
  [⟨query, none, none, outputColumns py catalog query⟩]

/-- What an item of `ORDER BY` sees of its query, to a depth of `n` parentheses: the `ORDER BY`
after a parenthesised query is the one of that query. `passed` counts the steps from the place of
the reference up to the clause: the label of an output is meant only by an item that is nothing but
a name. -/
def orderScopes (py : Casing) (catalog : Catalog) (passed : Nat) : Nat → Occ →
    List VisibleVariables
  | 0, _ => []
  | n + 1, query =>
    match query.node.label.kind with
    | .select =>
      if passed = 2 then [labelsOf py catalog query, blockVariables py catalog query]
      else [blockVariables py catalog query]
    | .setOperation _ => [labelsOf py catalog query]
    | .subquery _ => (underArg query .this).flatMap (orderScopes py catalog passed n)
    | _ => []

/-- The scopes that a query adds for its child at place `index`. -/
def queryScopes (py : Casing) (catalog : Catalog) (query : Occ) (index : Nat) (view : View)
    (passed : Nat) : List VisibleVariables :=
  let all := blockVariables py catalog query
  match query.node.label.kind, argAt query.node index with
  | _, some .order => orderScopes py catalog passed query.node.height query
  | .select, some .with_ => []
  | .select, some .from_ | .select, some .joins | .select, some .laterals =>
    [(view.carried py catalog query index).visible]
  | .select, some .distinct =>
    if passed = 2 then [labelsOf py catalog query, all] else [all]
  | .select, some .group => if passed = 1 then [all, labelsOf py catalog query] else [all]
  | .select, _ => [all]
  | _, _ => []

/-- The scopes around a place, innermost first. -/
def scopesFrom (py : Casing) (catalog : Catalog) :
    View → Nat → List (Step Node) → List VisibleVariables
  | _, _, [] => []
  | view, passed, s :: above =>
    let parent : Occ := ⟨s.parent, above⟩
    match s.parent.label.kind, argAt s.parent s.index with
    | .select, _ | .setOperation _, _ | .subquery _, some .order =>
      queryScopes py catalog parent s.index view passed ++
        scopesFrom py catalog .nothing 0 above
    | .join _ _ _ _, some .on => scopesFrom py catalog .condition (passed + 1) above
    | .table _, some .this => scopesFrom py catalog (.lateral []) (passed + 1) above
    | .table _, some .joins | .udtf _ _, some .joins | .subquery _, some .joins =>
      scopesFrom py catalog (view.carried py catalog parent s.index) (passed + 1) above
    | .udtf key _, _ =>
      -- the rows of `VALUES` see the other items only behind `LATERAL`
      scopesFrom py catalog (if key = "values" then view else .lateral []) (passed + 1) above
    | _, _ => scopesFrom py catalog view (passed + 1) above

def scopesAt (py : Casing) (catalog : Catalog) (occ : Occ) : List VisibleVariables :=
  scopesFrom py catalog .nothing 0 occ.above

/-! ## Denotations -/

/-- The columns of a list of variables that have a name. -/
def columnsNamed (name : String) (visible : VisibleVariables) : List ColumnSource :=
  (visible.flatMap RangeVariable.columns).filterMap
    (fun c => if c.1 = some name then some c.2 else none)

/-- The variable is the one that a qualifier, perhaps with a schema, names. -/
def RangeVariable.isNamed (py : Casing) (v : RangeVariable) (db : Option Ident)
    (qualifier : Ident) : Bool :=
  match db with
  | none => decide (v.name = some (qualifier.folded py))
  | some db => decide (v.relation = some ⟨db.folded py, qualifier.folded py⟩)

/-- What a column reference denotes. A name that several tables of one block have denotes all
of them; SQL accepts this only where a `USING` merges them. -/
def columnSources (py : Casing) (catalog : Catalog) (occ : Occ) (column : ColumnRef) :
    List ColumnSource :=
  match column.this, column.table with
  | none, _ => []
  | some name, some qualifier =>
    let named := (scopesAt py catalog occ).map
      (fun scope => scope.filter (fun v => v.isNamed py column.db qualifier))
    columnsNamed (name.folded py) ((named.find? (fun vs => !vs.isEmpty)).getD [])
  | some name, none =>
    let found := (scopesAt py catalog occ).map (columnsNamed (name.folded py))
    (found.find? (fun cs => !cs.isEmpty)).getD []

/-- What a `USING` list, or the common columns of a `NATURAL` join, denote. -/
def joinSources (py : Casing) (catalog : Catalog) (occ : Occ) (natural : Bool)
    (using_ : List Ident) : List ColumnSource :=
  match occ.above with
  | [] => []
  | s :: above =>
    let left := leftVariables py catalog ⟨s.parent, above⟩ s.index
    let right := variablesOf py catalog occ
    let labels := fun (vs : List RangeVariable) =>
      (vs.flatMap RangeVariable.columns).filterMap Prod.fst
    let common := if natural then (labels left).filter (fun name => name ∈ labels right) else []
    (common ++ using_.map (Ident.folded py)).flatMap
      (fun name => columnsNamed name left ++ columnsNamed name right)

/-- What the column references of a node denote. -/
def sourcesAt (py : Casing) (catalog : Catalog) (occ : Occ) : List ColumnSource :=
  match occ.node.label.kind with
  | .column ref => columnSources py catalog occ ref
  | .join _ _ natural using_ => joinSources py catalog occ natural using_
  | _ => []

def ColumnSource.stored? : ColumnSource → Option (Relation × String)
  | .stored relation column => some (relation, column)
  | _ => none

/-- The columns of stored relations that the references of a node denote. -/
def storedSources (py : Casing) (catalog : Catalog) (occ : Occ) : List (Relation × String) :=
  (sourcesAt py catalog occ).filterMap ColumnSource.stored?

end DataChat.Sql
