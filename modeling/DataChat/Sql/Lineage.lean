import DataChat.Sql.ColumnScope

/-!
# From which stored columns an output is copied

An output of a query is a copy of a stored column when it is a reference to that column, under
its own name or another, and it stays a copy when it is carried through a derived table, a CTE,
a scalar subquery or a set operation. `CopiedFrom` follows such chains of copies from an output
back to the stored columns; `copiesWithin` searches the chains up to a length.
-/

namespace DataChat.Sql

variable {py : Casing} {catalog : Catalog}

/-- The stored columns that an expression copies at once. -/
def copyEnds (py : Casing) (catalog : Catalog) (occ : Occ) : List (Relation × String) :=
  match occ.node.label.kind with
  | .column _ => storedSources py catalog occ
  | _ => []

def ColumnSource.output? : ColumnSource → Option (Occ × Nat)
  | .output query index => some (query, index)
  | _ => none

/-- The outputs and expressions of which an output is a copy. The rows of `EXCEPT` come from
its left side. -/
def copySteps (py : Casing) (catalog : Catalog) (occ : Occ) (index : Nat) : List (Occ × Nat) :=
  match occ.node.label.kind with
  | .column _ => (sourcesAt py catalog occ).filterMap ColumnSource.output?
  | .alias_ _ | .paren => (underArg occ .this).map (fun e => (e, 0))
  | .subquery _ | .cte _ => (underArg occ .this).map (fun query => (query, index))
  | .select => ((underArg occ .expressions)[index]?).toList.map (fun e => (e, 0))
  | .setOperation .except => (underArg occ .this).map (fun query => (query, index))
  | .setOperation _ =>
    (underArg occ .this ++ underArg occ .expression).map (fun query => (query, index))
  | _ => []

/-- The output of a query (or the value of an expression, as its output 0) is a copy of the
stored column. -/
inductive CopiedFrom (py : Casing) (catalog : Catalog) : Occ → Nat → Relation × String → Prop
  | here {occ : Occ} {index : Nat} {source : Relation × String} :
      source ∈ copyEnds py catalog occ → CopiedFrom py catalog occ index source
  | step {occ occ' : Occ} {index index' : Nat} {source : Relation × String} :
      (occ', index') ∈ copySteps py catalog occ index →
      CopiedFrom py catalog occ' index' source → CopiedFrom py catalog occ index source

/-- The stored columns at the end of chains of at most `n` copies. -/
def copiesWithin (py : Casing) (catalog : Catalog) : Nat → Occ → Nat → List (Relation × String)
  | 0, _, _ => []
  | n + 1, occ, index =>
    copyEnds py catalog occ ++
      (copySteps py catalog occ index).flatMap (fun p => copiesWithin py catalog n p.1 p.2)

theorem copiedFrom_iff {occ : Occ} {index : Nat} {source : Relation × String} :
    CopiedFrom py catalog occ index source ↔
      ∃ n, source ∈ copiesWithin py catalog n occ index := by
  constructor
  · intro h
    induction h with
    | here hend => exact ⟨1, List.mem_append_left _ hend⟩
    | step hstep _ ih =>
      obtain ⟨n, hn⟩ := ih
      exact ⟨n + 1, List.mem_append_right _ (List.mem_flatMap.mpr ⟨_, hstep, hn⟩)⟩
  · rintro ⟨n, hn⟩
    induction n generalizing occ index with
    | zero => cases hn
    | succ n ih =>
      rcases List.mem_append.mp hn with hend | hstep
      · exact .here hend
      · obtain ⟨p, hp, hsource⟩ := List.mem_flatMap.mp hstep
        exact .step hp (ih hsource)

end DataChat.Sql
