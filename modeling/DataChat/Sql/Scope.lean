import DataChat.Sql.Syntax

/-!
# Which relation a table name stands for

A table reference stands for a stored relation or for a common table expression. SQL decides
this by scope: a `WITH` clause is seen by the query it belongs to and by everything inside
that query, and inside the clause each CTE sees the ones before it (all of them when the
clause is recursive). A schema-qualified reference never stands for a CTE.

Names are compared after folding: a quoted identifier stands for itself, an unquoted one for
its lower-case text.
-/

namespace DataChat.Sql

/-- The name an identifier stands for. -/
def Ident.folded (py : Casing) (i : Ident) : String := if i.quoted then i.this else py.lower i.this

/-- The CTEs of a `WITH` clause, in order. -/
def cteChildren (clause : Occ) : List Occ :=
  clause.down.filter (fun c => c.node.label.kind.isCte)

/-- The `WITH` clauses a node holds. -/
def withClauses (query : Occ) : List Occ :=
  query.down.filter (fun c => decide (c.node.label.argKey = .with_))

/-- The CTEs which `parent` brings into scope for its child at place `index`. -/
def ctesBoundFor (parent : Occ) (index : Nat) : List Occ :=
  match parent.node.label.kind with
  | .with_ true => cteChildren parent
  | .with_ false => (parent.down.take index).filter (fun c => c.node.label.kind.isCte)
  | _ =>
    match parent.node.children[index]? with
    | some c => if c.label.argKey = .with_ then [] else (withClauses parent).flatMap cteChildren
    | none => []

/-- The CTEs in scope below a list of steps, innermost first. -/
def visibleCtes : List (Step Node) → List Occ
  | [] => []
  | s :: above => ctesBoundFor ⟨s.parent, above⟩ s.index ++ visibleCtes above

def cteAlias (cte : Occ) : Option TableAlias :=
  match cte.node.label.kind with
  | .cte alias_ => some alias_
  | _ => none

/-- The CTE that an unqualified table name stands for at an occurrence. -/
def cteInScope (py : Casing) (occ : Occ) (name : Ident) : Option Occ :=
  (visibleCtes occ.above).find? (fun cte =>
    (cteAlias cte).map (fun alias_ => alias_.this.folded py) = some (name.folded py))

/-- SQL scoping resolves the reference to a stored relation. -/
def ReferencesStored (py : Casing) (occ : Occ) (table : TableRef) : Prop :=
  ∃ name, table.this = some name ∧ (identText table.db ≠ "" ∨ cteInScope py occ name = none)

instance (py : Casing) (occ : Occ) (table : TableRef) :
    Decidable (ReferencesStored py occ table) :=
  match h : table.this with
  | none => isFalse (by rintro ⟨name, hname, -⟩; rw [h] at hname; cases hname)
  | some name =>
    decidable_of_iff (identText table.db ≠ "" ∨ (cteInScope py occ name).isNone = true) (by
      unfold ReferencesStored
      simp [h])

end DataChat.Sql
