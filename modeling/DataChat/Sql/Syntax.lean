import DataChat.Library.Rose
import DataChat.Library.Text

/-!
# Abstract syntax of SQL statements

The statements are the expression trees of sqlglot: every node has a class, which fixes its
`key`, and children that are held under argument names. A node of the model carries the name
under which its parent holds it (`arg_key`), its class and the scalar arguments of its class
(identifiers, flags, literal text). The children stand in the order in which
`iter_expressions` lists them, so a level-order walk of the tree is `Expression.walk()`.

Only the classes the platform tells apart have a constructor in `Kind`; all others are
`Kind.other` with their key, and keep their children.
-/

namespace DataChat.Sql

/-- `exp.Identifier`. -/
structure Ident where
  this : String
  quoted : Bool
deriving DecidableEq, Repr

/-- `exp.TableAlias`: an alias and the column names it gives. -/
structure TableAlias where
  this : Ident
  columns : List Ident
deriving DecidableEq, Repr

/-- The scalar arguments of `exp.Table`. A table function has no identifier as `this`; the
call is then a child of the node. -/
structure TableRef where
  this : Option Ident
  db : Option Ident
  alias_ : Option TableAlias
deriving DecidableEq, Repr

/-- The scalar arguments of `exp.Column`. `this` is absent when it is not an identifier. -/
structure ColumnRef where
  this : Option Ident
  table : Option Ident
  db : Option Ident
deriving DecidableEq, Repr

inductive JoinSide
  | left
  | right
  | full
deriving DecidableEq, Repr

/-- The `kind` of `exp.Join`; a join without one is an inner join or stands for a comma. -/
inductive JoinKind
  | inner
  | outer
  | cross
deriving DecidableEq, Repr

inductive SetOperator
  | union
  | except
  | intersect
deriving DecidableEq, Repr

inductive Comparison
  | eq
  | neq
  | gt
  | gte
  | lt
  | lte
deriving DecidableEq, Repr

/-- The argument names that some function of the platform or of SQL scoping looks at. -/
inductive Arg
  | this
  | expression
  | expressions
  | with_
  | from_
  | joins
  | laterals
  | on
  | where_
  | group
  | distinct
  | order
  | limit
  | other (name : String)
deriving DecidableEq, Repr

/-- The class of a node, with its scalar arguments. `udtf` stands for the subclasses of
`exp.UDTF` (`Lateral`, `Unnest`, `Values`, ...), which may have an alias. -/
inductive Kind
  | select
  | setOperation (operator : SetOperator)
  | subquery (alias_ : Option TableAlias)
  | with_ (recursive : Bool)
  | cte (alias_ : TableAlias)
  | from_
  | join (side : Option JoinSide) (kind : Option JoinKind) (natural : Bool) (using_ : List Ident)
  | udtf (key : String) (alias_ : Option TableAlias)
  | table (ref : TableRef)
  | column (ref : ColumnRef)
  | star
  | alias_ (alias_ : Ident)
  | where_
  | having
  | limit
  | fetch
  | into
  | literal (this : String) (isString : Bool)
  | boolean (this : Bool)
  | null
  | and_
  | or_
  | not_
  | paren
  | compare (operator : Comparison)
  | in_
  | aggFunc (key : String)
  | other (key : String)
deriving DecidableEq, Repr

structure Node where
  argKey : Arg
  kind : Kind
deriving DecidableEq, Repr

abbrev Expr := Rose Node

/-- An occurrence of a node in a statement. -/
abbrev Occ := Cursor Node

def SetOperator.key : SetOperator → String
  | union => "union"
  | except => "except"
  | intersect => "intersect"

def Comparison.key : Comparison → String
  | eq => "eq"
  | neq => "neq"
  | gt => "gt"
  | gte => "gte"
  | lt => "lt"
  | lte => "lte"

/-- `Expression.key`, the class name in lower case. -/
def Kind.key : Kind → String
  | select => "select"
  | setOperation operator => operator.key
  | subquery _ => "subquery"
  | with_ _ => "with"
  | cte _ => "cte"
  | from_ => "from"
  | join _ _ _ _ => "join"
  | udtf key _ => key
  | table _ => "table"
  | column _ => "column"
  | star => "star"
  | alias_ _ => "alias"
  | where_ => "where"
  | having => "having"
  | limit => "limit"
  | fetch => "fetch"
  | into => "into"
  | literal _ _ => "literal"
  | boolean _ => "boolean"
  | null => "null"
  | and_ => "and"
  | or_ => "or"
  | not_ => "not"
  | paren => "paren"
  | compare operator => operator.key
  | in_ => "in"
  | aggFunc key => key
  | other key => key

/-! ## Classes -/

namespace Kind

/-- `isinstance(node, exp.Query)`. -/
def isQuery : Kind → Bool
  | select | setOperation _ | subquery _ => true
  | _ => false

/-- A query without parentheses around it. -/
def isBareQuery : Kind → Bool
  | select | setOperation _ => true
  | _ => false

def isSelect : Kind → Bool
  | select => true
  | _ => false

def isCte : Kind → Bool
  | cte _ => true
  | _ => false

def isTable : Kind → Bool
  | table _ => true
  | _ => false

def isColumn : Kind → Bool
  | column _ => true
  | _ => false

def isStar : Kind → Bool
  | star => true
  | _ => false

def isAggFunc : Kind → Bool
  | aggFunc _ => true
  | _ => false

end Kind

/-! ## Properties of nodes -/

/-- The text of an optional identifier, empty when it is absent. -/
def identText : Option Ident → String
  | none => ""
  | some i => i.this

namespace TableRef

/-- `Table.name`. -/
def name (t : TableRef) : String := identText t.this

/-- `Table.alias`. -/
def aliasText (t : TableRef) : String := identText (t.alias_.map TableAlias.this)

end TableRef

/-! ## Arguments of an expression -/

/-- `expression.args.get(name)`. -/
def arg (e : Expr) (name : Arg) : Option Expr :=
  e.children.find? (fun c => c.label.argKey = name)

/-- The argument under which a node holds its child at place `index`. -/
def argAt (e : Expr) (index : Nat) : Option Arg :=
  (e.children[index]?).map (fun c => c.label.argKey)

def withArgKey (name : Arg) (e : Expr) : Expr := .node ⟨name, e.label.kind⟩ e.children

/-- The children after `name` has been set to `value`, which stands where the old value of the
argument began, else last. -/
def setChildren (name : Arg) (value : Expr) : List Expr → List Expr
  | [] => [withArgKey name value]
  | c :: cs =>
    if c.label.argKey = name then
      withArgKey name value :: cs.filter (fun d => d.label.argKey ≠ name)
    else c :: setChildren name value cs

/-- `expression.set(name, value)`. -/
def setArg (e : Expr) (name : Arg) (value : Expr) : Expr :=
  .node e.label (setChildren name value e.children)

@[simp] theorem arg_node (label : Node) (children : List Expr) (name : Arg) :
    arg (.node label children) name = children.find? (fun c => c.label.argKey = name) := rfl

@[simp] theorem argKey_withArgKey (name : Arg) (e : Expr) :
    (withArgKey name e).label.argKey = name := rfl

/-- Setting an argument leaves the others as they are, -/
theorem arg_setArg_ne {name other : Arg} (h : other ≠ name) (e value : Expr) :
    arg (setArg e name value) other = arg e other := by
  obtain ⟨label, children⟩ := e
  show (setChildren name value children).find? _ = children.find? _
  induction children with
  | nil => simp [setChildren, h.symm]
  | cons c cs ih =>
    rw [setChildren]
    split
    · rename_i hc
      have hne : ¬ c.label.argKey = other := fun heq => h (heq.symm.trans hc)
      have hfilter : (cs.filter (fun d => d.label.argKey ≠ name)).find?
          (fun c => c.label.argKey = other) = cs.find? (fun c => c.label.argKey = other) := by
        rw [List.find?_filter]
        congr 1
        ext d
        by_cases hd : d.label.argKey = other
        · simp [hd, h]
        · simp [hd]
      rw [List.find?_cons_of_neg (by simp [h.symm]), List.find?_cons_of_neg (by simp [hne]),
        hfilter]
    · by_cases hc : c.label.argKey = other
      · simp [hc]
      · simp [hc, ih]

/-- and the argument then is the new one. -/
theorem arg_setArg_self (name : Arg) (e value : Expr) :
    arg (setArg e name value) name = some (withArgKey name value) := by
  obtain ⟨label, children⟩ := e
  show (setChildren name value children).find? _ = _
  induction children with
  | nil => simp [setChildren]
  | cons c cs ih =>
    rw [setChildren]
    split
    · simp
    · rename_i hc
      simp [hc, ih]

/-! ## Walking a statement -/

/-- `statement.find_all(class)`. -/
def findAll (isClass : Kind → Bool) (statement : Expr) : List Occ :=
  statement.walk.filter (fun occ => isClass occ.node.label.kind)

/-- `node.find_ancestor(class)`. -/
def findAncestor (isClass : Kind → Bool) (occ : Occ) : Option Occ :=
  occ.ancestors.find? (fun a => isClass a.node.label.kind)

theorem mem_findAll {isClass : Kind → Bool} {statement : Expr} {occ : Occ} :
    occ ∈ findAll isClass statement ↔
      Cursor.Within statement occ ∧ isClass occ.node.label.kind = true := by
  rw [findAll, List.mem_filter, Rose.mem_walk]

/-- Every node of the expression has a class with the property. -/
def AllKinds (q : Kind → Prop) (e : Expr) : Prop := ∀ occ ∈ e.walk, q occ.node.label.kind

instance (q : Kind → Prop) [DecidablePred q] (e : Expr) : Decidable (AllKinds q e) :=
  inferInstanceAs (Decidable (∀ _ ∈ _, _))

theorem allKinds_node {q : Kind → Prop} {label : Node} {children : List Expr} :
    AllKinds q (.node label children) ↔ q label.kind ∧ ∀ c ∈ children, AllKinds q c :=
  Rose.forall_walk_node (p := fun (e : Expr) => q e.label.kind)

theorem allKinds_withArgKey {q : Kind → Prop} {e : Expr} {name : Arg} :
    AllKinds q (withArgKey name e) ↔ AllKinds q e := by
  obtain ⟨label, children⟩ := e
  unfold withArgKey
  rw [allKinds_node, allKinds_node]
  exact Iff.rfl

theorem allKinds_setChildren {q : Kind → Prop} {name : Arg} {value : Expr}
    (hvalue : AllKinds q value) {children : List Expr} (h : ∀ c ∈ children, AllKinds q c) :
    ∀ c ∈ setChildren name value children, AllKinds q c := by
  induction children with
  | nil =>
    intro c hc
    rw [setChildren, List.mem_singleton] at hc
    rw [hc]
    exact allKinds_withArgKey.mpr hvalue
  | cons d ds ih =>
    intro c hc
    have hds : ∀ c ∈ ds, AllKinds q c := fun c hc => h c (List.mem_cons_of_mem _ hc)
    rw [setChildren] at hc
    split at hc
    · rcases List.mem_cons.mp hc with rfl | hc
      · exact allKinds_withArgKey.mpr hvalue
      · exact hds c (List.mem_filter.mp hc).1
    · rcases List.mem_cons.mp hc with rfl | hc
      · exact h c List.mem_cons_self
      · exact ih hds c hc

/-- Setting an argument adds no classes but those of its value. -/
theorem allKinds_setArg {q : Kind → Prop} {e value : Expr} {name : Arg} (he : AllKinds q e)
    (hvalue : AllKinds q value) : AllKinds q (setArg e name value) := by
  obtain ⟨label, children⟩ := e
  obtain ⟨hlabel, hchildren⟩ := allKinds_node.mp he
  exact allKinds_node.mpr ⟨hlabel, allKinds_setChildren hvalue hchildren⟩

/-- The tables of a statement: the occurrences of `exp.Table` with their scalar arguments. -/
def tableOf (occ : Occ) : Option TableRef :=
  match occ.node.label.kind with
  | .table ref => some ref
  | _ => none

/-- The occurrences of `exp.Column` with their scalar arguments. -/
def columnOf (occ : Occ) : Option ColumnRef :=
  match occ.node.label.kind with
  | .column ref => some ref
  | _ => none

theorem isColumn_iff {k : Kind} : k.isColumn = true ↔ ∃ ref, k = .column ref := by
  cases k <;> simp [Kind.isColumn]

end DataChat.Sql
