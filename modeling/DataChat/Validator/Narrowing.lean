import DataChat.Library.Levels
import DataChat.Validator.Completeness
import DataChat.Validator.ReadOnly
import DataChat.Validator.RowLimit

/-!
# Does the row limit only narrow?

The limit that the validator sets takes the place of the one that a statement has, if any. It keeps
a limit only if that is a number literal from 1 to the maximum. So a statement that asks for no
rows, or for a number of rows that is not written as a literal, may get more rows than it asks for.

How many rows a `LIMIT` or `FETCH` clause lets through is up to the database and enters as a
parameter (`RowSemantics`).

* `rows_limited`: the rows of the limited statement.
* `valid_readers`: to the validator, clauses that read nothing do not matter.
* `narrows_iff`: exactly when the limit only narrows, and the normalised text may be validated
  again.
* `no_rows_not_narrowed`: a statement with `LIMIT 0` that gets all rows.
-/

namespace DataChat.Validator

open Sql Outcome

variable {py : Casing} {glot : Sqlglot} {schema : AllowedSchema} {maximumRows : Int}
  {sql : String} {statement limited : Expr} {result : SQLValidationResult} {ρ : Type}

/-- The limit clauses of a query and of the queries it puts in parentheses, outermost first, to a
depth of `n` parentheses. -/
def limitsWithin : Nat → Expr → List Expr
  | 0, _ => []
  | n + 1, query => (arg query .limit).toList ++
    match query.label.kind with
    | .subquery _ => (arg query .this).toList.flatMap (limitsWithin n)
    | _ => []

/-- The limit clauses inside the parentheses of a statement. -/
def innerLimits (statement : Expr) : List Expr :=
  match statement.label.kind with
  | .subquery _ =>
    (arg statement .this).toList.flatMap (fun query => limitsWithin query.height query)
  | _ => []

def limitClauses (statement : Expr) : List Expr :=
  (arg statement .limit).toList ++ innerLimits statement

/-- What the database makes of a statement: the rows it has before its limits are applied, and how
many rows a `LIMIT` or `FETCH` clause lets through, if it bounds them at all. -/
structure RowSemantics (ρ : Type) where
  rowsBeforeLimit : Expr → List ρ
  bound : Expr → Option Nat
  /-- Whether a query in parentheses that has a limit may get a second one behind them.
  PostgreSQL refuses it. -/
  severalLimits : Bool
  /-- The limit has no part in the rows before it. -/
  rowsBeforeLimit_setArg : ∀ statement clause,
    rowsBeforeLimit (setArg statement .limit clause) = rowsBeforeLimit statement
  /-- A number literal is its value. -/
  bound_literal : ∀ clause n, existingLimit clause = some n → bound clause = some n

/-- How many rows the statement asks for, by each of its limits. -/
def RowSemantics.asked (db : RowSemantics ρ) (statement : Expr) : List Nat :=
  (limitClauses statement).filterMap db.bound

/-- How many rows the parenthesised query asks for. -/
def RowSemantics.askedInside (db : RowSemantics ρ) (statement : Expr) : List Nat :=
  (innerLimits statement).filterMap db.bound

/-- The database executes the statement. -/
def RowSemantics.Runs (db : RowSemantics ρ) (statement : Expr) : Prop :=
  db.severalLimits = true ∨ (limitClauses statement).length ≤ 1

instance (db : RowSemantics ρ) (statement : Expr) : Decidable (db.Runs statement) :=
  inferInstanceAs (Decidable (_ ∨ _))

/-- The rows of a statement that can be executed: each limit lets the first rows through. -/
def RowSemantics.rows (db : RowSemantics ρ) (statement : Expr) : Option (List ρ) :=
  if db.Runs statement then
    some ((db.asked statement).foldr List.take (db.rowsBeforeLimit statement))
  else none

/-- Executing the normalised text returns the first rows of the statement, no more than the maximum;
the applied limit exceeds neither the maximum nor what the statement asks for, in or behind its
parentheses; and validating the normalised text again leaves it and the limit as they are. -/
def Narrows (py : Casing) (glot : Sqlglot) (schema : AllowedSchema) (maximumRows : Int)
    (db : RowSemantics ρ) (statement : Expr) (result : SQLValidationResult) : Prop :=
  ∃ normalizedSql executed applied,
    result.normalized_sql = some normalizedSql ∧ parseOne glot normalizedSql = .ok executed ∧
    (∀ rows, db.rows statement = some rows →
      db.rows executed = some (rows.take maximumRows.toNat)) ∧
    result.applied_limit = some applied ∧ applied ≤ maximumRows ∧
    (∀ asked ∈ db.asked statement, applied ≤ asked) ∧
    ∃ again, validateSql py glot schema maximumRows normalizedSql = .ok again ∧
      again.is_valid = true ∧ again.normalized_sql = some normalizedSql ∧
      again.applied_limit = some applied

/-- The statement has a limit that is kept, a number literal from one to the maximum, and asks for
no fewer rows inside its parentheses. -/
def KeepsLimit (maximumRows : Int) (db : RowSemantics ρ) (statement : Expr) : Prop :=
  ∃ n, (arg statement .limit).bind existingLimit = some n ∧ (1 ≤ n ∧ (n : Int) ≤ maximumRows) ∧
    ∀ inside ∈ db.askedInside statement, n ≤ inside

/-- The statement without its limit. -/
def withoutLimit (statement : Expr) : Expr :=
  .node statement.label (statement.children.filter (fun c => c.label.argKey ≠ .limit))

/-- The statement asks for no fewer rows than the maximum, is valid without its limit, and is no
parenthesised query that gets a second limit from a database which takes but one. -/
structure CanSpareLimit (py : Casing) (schema : AllowedSchema) (maximumRows : Int)
    (db : RowSemantics ρ) (statement : Expr) : Prop where
  asked : ∀ asked ∈ db.asked statement, maximumRows ≤ asked
  valid : Valid py schema maximumRows (withoutLimit statement)
  single : db.severalLimits = true ∨ (arg statement .limit).isSome = true ∨
    (innerLimits statement).length ≠ 1

/-- What the second validation takes from sqlglot: the text of the limited statement parses back,
and the printer writes no comments. -/
structure TextReadsBack (glot : Sqlglot) (limited : Expr) : Prop where
  parsed : glot.parse (glot.sql limited) = .ok [some limited]
  notBlank : isBlank (glot.sql limited) = false
  noComments : ∀ marker ∈ commentMarkers, contains marker (glot.sql limited) = false

/-! ## The rows of the limited statement -/

@[simp] theorem innerLimits_setArg (statement clause : Expr) :
    innerLimits (setArg statement .limit clause) = innerLimits statement := by
  have hthis : arg (setArg statement .limit clause) .this = arg statement .this :=
    arg_setArg_ne (by decide) statement clause
  unfold innerLimits
  rw [hthis]
  rfl

theorem limitClauses_setArg (statement clause : Expr) :
    limitClauses (setArg statement .limit clause) =
      withArgKey .limit clause :: innerLimits statement := by
  unfold limitClauses
  rw [arg_setArg_self, innerLimits_setArg]
  rfl

theorem asked_of_existingLimit (db : RowSemantics ρ) {n : Nat}
    (h : (arg statement .limit).bind existingLimit = some n) :
    db.asked statement = n :: db.askedInside statement := by
  obtain ⟨clause, hclause, hexisting⟩ := Option.bind_eq_some_iff.mp h
  unfold RowSemantics.asked limitClauses
  rw [hclause, Option.toList_some, List.singleton_append, List.filterMap_cons,
    db.bound_literal clause n hexisting]
  rfl

theorem askedInside_limited (db : RowSemantics ρ) {limit : Int}
    (h : applyRowLimit statement maximumRows = .ok (limit, limited)) :
    db.askedInside limited = db.askedInside statement := by
  rcases (applyRowLimit_ok h).2 with ⟨-, -, -, -, rfl⟩ | ⟨-, -, rfl⟩
  · rfl
  · unfold RowSemantics.askedInside
    rw [innerLimits_setArg]

theorem asked_limited (db : RowSemantics ρ) {limit : Int}
    (h : applyRowLimit statement maximumRows = .ok (limit, limited)) :
    db.asked limited = limit.toNat :: db.askedInside statement := by
  obtain ⟨existing, hexisting, rfl, -⟩ := existingLimit_limited h
  rw [asked_of_existingLimit db hexisting, askedInside_limited db h]
  rfl

theorem rowsBeforeLimit_limited (db : RowSemantics ρ) {limit : Int}
    (h : applyRowLimit statement maximumRows = .ok (limit, limited)) :
    db.rowsBeforeLimit limited = db.rowsBeforeLimit statement := by
  rcases (applyRowLimit_ok h).2 with ⟨-, -, -, -, rfl⟩ | ⟨-, -, rfl⟩
  · rfl
  · exact db.rowsBeforeLimit_setArg _ _

/-- The limited statement has the first rows of what is in its parentheses, up to the limit that was
applied. -/
theorem rows_limited (db : RowSemantics ρ) {limit : Int}
    (h : applyRowLimit statement maximumRows = .ok (limit, limited)) (hruns : db.Runs limited) :
    db.rows limited = some (((db.askedInside statement).foldr List.take
      (db.rowsBeforeLimit statement)).take limit.toNat) := by
  unfold RowSemantics.rows
  rw [if_pos hruns, asked_limited db h, rowsBeforeLimit_limited db h]
  rfl

/-- The limit that is applied is at most what the statement asks for exactly when the limit of the
statement is kept, or nothing that it asks for is below the maximum. -/
theorem limit_le_asked_iff (db : RowSemantics ρ) {limit : Int}
    (h : applyRowLimit statement maximumRows = .ok (limit, limited)) :
    (∀ asked ∈ db.asked statement, limit ≤ asked) ↔
      KeepsLimit maximumRows db statement ∨ ∀ asked ∈ db.asked statement, maximumRows ≤ asked := by
  obtain ⟨hrows, ⟨existing, hexisting, hrange, rfl, rfl⟩ | ⟨hout, rfl, rfl⟩⟩ := applyRowLimit_ok h
  · rw [asked_of_existingLimit db hexisting]
    constructor
    · intro hall
      refine .inl ⟨existing, hexisting, hrange, fun inside hinside => ?_⟩
      exact_mod_cast hall inside (List.mem_cons_of_mem _ hinside)
    · rintro (⟨n, hn, -, hinside⟩ | hall) asked hasked
      · obtain rfl := Option.some.inj (hexisting.symm.trans hn)
        rcases List.mem_cons.mp hasked with rfl | hasked
        · exact Int.le_refl _
        · exact_mod_cast hinside asked hasked
      · exact Int.le_trans hrange.2 (hall asked hasked)
  · constructor
    · exact .inr
    · rintro (⟨n, hn, hrange, -⟩ | hall)
      · exact absurd hrange (hout n hn)
      · exact hall

/-- The database executes the limited statement whenever it executes the statement itself, unless a
parenthesised query gets a second limit. -/
theorem runs_limited_iff (db : RowSemantics ρ) {limit : Int}
    (h : applyRowLimit statement maximumRows = .ok (limit, limited)) :
    (db.Runs statement → db.Runs limited) ↔
      db.severalLimits = true ∨ (arg statement .limit).isSome = true ∨
        (innerLimits statement).length ≠ 1 := by
  unfold RowSemantics.Runs
  by_cases hseveral : db.severalLimits = true
  · simp only [hseveral, true_or, implies_true]
  · rcases (applyRowLimit_ok h).2 with ⟨existing, hexisting, -, -, rfl⟩ | ⟨-, -, rfl⟩
    · obtain ⟨clause, hclause, -⟩ := Option.bind_eq_some_iff.mp hexisting
      simp only [hclause, Option.isSome_some, true_or, or_true, imp_self]
    · rw [limitClauses_setArg]
      unfold limitClauses
      cases hclause : arg statement .limit with
      | none =>
        simp only [hseveral, Bool.false_eq_true, false_or, Option.toList_none, List.nil_append,
          List.length_cons, Option.isSome_none]
        omega
      | some clause =>
        simp only [hseveral, Bool.false_eq_true, false_or, Option.toList_some,
          List.singleton_append, List.length_cons, Option.isSome_some, true_or, imp_self]

/-- When it can be executed, the limited statement has the first rows of the statement. -/
theorem rows_narrowed (db : RowSemantics ρ) {limit : Int}
    (h : applyRowLimit statement maximumRows = .ok (limit, limited))
    (hasks : ∀ asked ∈ db.asked statement, limit ≤ asked) (hruns : db.Runs limited) {rows : List ρ}
    (hrows : db.rows statement = some rows) :
    db.rows limited = some (rows.take maximumRows.toNat) := by
  unfold RowSemantics.rows at hrows
  split at hrows
  · obtain rfl := Option.some.inj hrows
    rw [rows_limited db h hruns]
    obtain ⟨hpositive, ⟨existing, hexisting, hrange, rfl, -⟩ | ⟨-, rfl, -⟩⟩ := applyRowLimit_ok h
    · have hmin : min maximumRows.toNat existing = existing := by omega
      rw [asked_of_existingLimit db hexisting, List.foldr_cons, List.take_take, hmin]
      rfl
    · have hasked : ∀ n clause, arg statement .limit = some clause → db.bound clause = some n →
          min limit.toNat n = limit.toNat := by
        intro n clause hclause hbound
        have hmem : n ∈ db.asked statement := by
          unfold RowSemantics.asked limitClauses
          rw [hclause]
          exact List.mem_filterMap.mpr ⟨clause, List.mem_cons_self, hbound⟩
        have hle := hasks n hmem
        omega
      unfold RowSemantics.asked limitClauses
      rw [List.filterMap_append, List.foldr_append]
      cases hclause : arg statement .limit with
      | none => rfl
      | some clause =>
        cases hbound : db.bound clause with
        | none =>
          rw [Option.toList_some, List.filterMap_cons, hbound]
          rfl
        | some n =>
          rw [Option.toList_some, List.filterMap_cons, hbound, List.filterMap_nil,
            List.foldr_cons, List.take_take, hasked n clause hclause hbound]
          rfl
  · cases hrows

/-! ## Clauses that read nothing -/

/-- The class is not one that the validator looks for. -/
def isPlainKind (k : Kind) : Bool :=
  !(k.isTable || k.isColumn || k.isStar || k.isCte || k.isSelect)

/-- No node of the clause is a table, a column, a star, a CTE or a `SELECT`. -/
def readsNothing (clause : Expr) : Bool :=
  clause.walk.all (fun occ => isPlainKind occ.node.label.kind)

/-- The clauses that may read something. -/
def readers (clauses : List Expr) : List Expr := clauses.filter (fun c => !readsNothing c)

theorem flatMap_readers {β : Type} {f : Expr → List β} (hf : ∀ c, readsNothing c = true → f c = [])
    (clauses : List Expr) : (readers clauses).flatMap f = clauses.flatMap f := by
  induction clauses with
  | nil => rfl
  | cons c clauses ih =>
    unfold readers at ih ⊢
    rw [List.filter_cons]
    split
    · rw [List.flatMap_cons, List.flatMap_cons, ih]
    · rename_i hc
      rw [ih, List.flatMap_cons, hf c (by simpa using hc), List.nil_append]

theorem forall_readers {Q : Expr → Prop} (hQ : ∀ c, readsNothing c = true → Q c)
    (clauses : List Expr) : (∀ c ∈ readers clauses, Q c) ↔ ∀ c ∈ clauses, Q c := by
  constructor
  · intro h c hc
    by_cases hreads : readsNothing c = true
    · exact hQ c hreads
    · exact h c (List.mem_filter.mpr ⟨hc, by simpa using hreads⟩)
  · intro h c hc
    exact h c (List.mem_filter.mp hc).1

theorem readers_setChildren {name : Arg} {value : Expr}
    (hvalue : readsNothing (withArgKey name value) = true) (clauses : List Expr) :
    readers (setChildren name value clauses) =
      readers (clauses.filter (fun c => c.label.argKey ≠ name)) := by
  unfold readers
  induction clauses with
  | nil => simp [setChildren, hvalue]
  | cons c clauses ih =>
    unfold setChildren
    split
    · rename_i hname
      simp [hvalue, hname]
    · rename_i hname
      rw [List.filter_cons, ih, List.filter_cons_of_pos (by simpa using hname), List.filter_cons]

/-- When the limit reads nothing, it can be left out. -/
theorem readers_withoutLimit
    (h : ∀ c ∈ statement.children, c.label.argKey = .limit → readsNothing c = true) :
    readers (withoutLimit statement).children = readers statement.children := by
  unfold withoutLimit readers
  rw [Rose.children_node, List.filter_filter]
  refine List.filter_congr (fun c hc => ?_)
  by_cases hname : c.label.argKey = .limit
  · simp [h c hc hname]
  · simp [hname]

theorem readsNothing_iff {clause : Expr} :
    readsNothing clause = true ↔ AllKinds (fun k => isPlainKind k = true) clause :=
  List.all_eq_true

/-- What is looked for in the labels is not found in a clause that reads nothing. -/
theorem located_readsNothing {β : Type} {g : Node → Option β}
    (hg : ∀ label, isPlainKind label.kind = true → g label = none) {clause : Expr}
    (h : readsNothing clause = true) : ∀ n, Rose.located g n clause = [] := by
  rw [readsNothing_iff] at h
  induction clause using Rose.induction with
  | hnode label children ih =>
    intro n
    obtain ⟨hlabel, hchildren⟩ := allKinds_node.mp h
    rw [Rose.located_node, hg label hlabel, List.flatMap_eq_nil_iff.mpr]
    · rfl
    · intro c hc
      exact ih c hc (hchildren c hc) (n + 1)

/-- What holds at every place of a statement, in terms of the classes above it. -/
theorem forall_walk_parentKinds {Q : List Kind → Node → Prop} {label : Node}
    {clauses : List Expr} :
    (∀ occ ∈ (Rose.node label clauses).walk, Q (parentKinds occ) occ.node.label) ↔
      Q [] label ∧
        ∀ c ∈ clauses, ∀ occ ∈ c.walk, Q (parentKinds occ ++ [label.kind]) occ.node.label := by
  have hunder : ∀ (i : Nat) (c : Expr) (occ : Occ), parentKinds
      (occ.under ((Cursor.root (Rose.node label clauses)).child i c)) =
        parentKinds occ ++ [label.kind] := by
    intro i c occ
    unfold parentKinds Cursor.under
    rw [List.map_append]
    rfl
  simp only [Rose.mem_walk]
  constructor
  · intro h
    refine ⟨h _ .root, fun c hc occ hocc => ?_⟩
    obtain ⟨i, hi⟩ := List.mem_iff_getElem?.mp hc
    have hchild : Cursor.Within (Rose.node label clauses)
        ((Cursor.root (Rose.node label clauses)).child i c) :=
      .down .root (Cursor.mem_down.mpr ⟨i, c, hi, rfl⟩)
    rw [← hunder i c occ]
    exact h _ (Cursor.within_under hchild hocc)
  · rintro ⟨hroot, hbelow⟩ occ hocc
    rcases Cursor.within_node hocc with rfl | ⟨i, c, hc, d, hd, rfl⟩
    · exact hroot
    · rw [hunder i c d]
      exact hbelow c (List.mem_of_getElem? hc) d hd

/-! ## Statements with the same readers -/

section

variable {label : Node} {clauses others : List Expr} (h : readers clauses = readers others)

include h

theorem found_readers {β : Type} {g : Node → Option β}
    (hg : ∀ label, isPlainKind label.kind = true → g label = none) :
    (Rose.node label clauses).walk.filterMap (fun occ => g occ.node.label) =
      (Rose.node label others).walk.filterMap (fun occ => g occ.node.label) := by
  have hnone : ∀ c, readsNothing c = true → Rose.located g 1 c = [] :=
    fun c hc => located_readsNothing hg hc 1
  rw [Rose.walk_filterMap, Rose.walk_filterMap, Rose.located_node, Rose.located_node,
    ← flatMap_readers hnone clauses, h, flatMap_readers hnone]

theorem allKinds_readers {q : Kind → Prop} (hq : ∀ k, isPlainKind k = true → q k) :
    AllKinds q (.node label clauses) ↔ AllKinds q (.node label others) := by
  have hplain : ∀ c, readsNothing c = true → AllKinds q c :=
    fun c hc occ hocc => hq _ (readsNothing_iff.mp hc occ hocc)
  rw [allKinds_node, allKinds_node, ← forall_readers hplain clauses, h, forall_readers hplain]

theorem tablesOf_readers :
    tablesOf (.node label clauses) = tablesOf (.node label others) := by
  refine found_readers h (g := fun label => tableOf (Cursor.root (.node label []))) ?_
  rintro ⟨argKey, kind⟩ hplain
  cases kind <;> first | rfl | cases hplain

theorem getCteNames_readers :
    getCteNames py (.node label clauses) = getCteNames py (.node label others) := by
  unfold getCteNames findAll
  rw [List.filterMap_filter, List.filterMap_filter]
  refine found_readers h (g := fun label => if label.kind.isCte = true then
    cteName py (Cursor.root (.node label [])) else none) ?_
  rintro ⟨argKey, kind⟩ hplain
  cases kind <;> first | rfl | cases hplain

theorem columnsOf_readers :
    columnsOf (.node label clauses) = columnsOf (.node label others) := by
  refine found_readers h (g := fun label => columnOf (Cursor.root (.node label []))) ?_
  rintro ⟨argKey, kind⟩ hplain
  cases kind <;> first | rfl | cases hplain

theorem resolvedTables_readers :
    resolvedTables py schema (.node label clauses) =
      resolvedTables py schema (.node label others) := by
  unfold resolvedTables
  rw [tablesOf_readers h, getCteNames_readers h]

theorem columnsAllowed_readers :
    ColumnsAllowed py schema (.node label clauses) ↔
      ColumnsAllowed py schema (.node label others) := by
  let Q : List Kind → Node → Prop := fun above l =>
    ∀ column ∈ columnOf (Cursor.root (.node l [])),
      ColumnAllowed py schema (resolvedTables py schema (.node label others)) above column
  have hplain : ∀ c, readsNothing c = true →
      ∀ occ ∈ c.walk, Q (parentKinds occ ++ [label.kind]) occ.node.label := by
    intro c hc occ hocc column hcolumn
    have hkind := readsNothing_iff.mp hc occ hocc
    have hisColumn : occ.node.label.kind.isColumn = true := isColumn_of_columnOf hcolumn
    unfold isPlainKind at hkind
    simp [hisColumn] at hkind
  have hread : ∀ cs : List Expr, (∀ occ ∈ (Rose.node label cs).walk, ∀ column ∈ columnOf occ,
      ColumnAllowed py schema (resolvedTables py schema (.node label others)) (parentKinds occ)
        column) ↔
      Q [] label ∧
        ∀ c ∈ readers cs, ∀ occ ∈ c.walk, Q (parentKinds occ ++ [label.kind]) occ.node.label := by
    intro cs
    rw [forall_readers hplain]
    exact forall_walk_parentKinds (Q := Q)
  unfold ColumnsAllowed
  rw [resolvedTables_readers h, hread, hread, h]

/-- Clauses that read nothing do not matter to the validator, blocked keys apart. -/
theorem valid_readers
    (hkeys : AllKinds (fun k => py.lower k.key ∉ blockedExpressionKeys) (.node label others))
    (hvalid : Valid py schema maximumRows (.node label clauses)) :
    Valid py schema maximumRows (.node label others) := by
  obtain ⟨hquery, -, hselect⟩ := readOnly_ok_iff.mp hvalid.readOnly
  have hselects : ∀ e : Expr,
      findAll Kind.isSelect e = [] ↔ AllKinds (fun k => k.isSelect = false) e := by
    intro e
    unfold findAll AllKinds
    simp only [List.filter_eq_nil_iff, Bool.not_eq_true]
  have hnoSelect : ∀ k, isPlainKind k = true → k.isSelect = false := by
    intro k hk
    cases k <;> first | rfl | cases hk
  have hnoStar : ∀ k, isPlainKind k = true → k.isStar = false := by
    intro k hk
    cases k <;> first | rfl | cases hk
  have hresolved : resolvedTables py schema (.node label others) =
      resolvedTables py schema (.node label clauses) := (resolvedTables_readers h).symm
  refine ⟨readOnly_ok_iff.mpr ⟨hquery, hkeys, ?_⟩, ?_, ?_, ?_, ?_, ?_, hvalid.rows⟩
  · rw [ne_eq, hselects, ← allKinds_readers h hnoSelect, ← hselects]
    exact hselect
  · rw [← tablesOf_readers h, ← getCteNames_readers h]
    exact hvalid.tables
  · unfold flatNames
    rw [hresolved]
    exact hvalid.someTable
  · exact (allKinds_readers h hnoStar).mp hvalid.star
  · exact (columnsAllowed_readers h).mp hvalid.columns
  · unfold listedColumns
    rw [hresolved, ← columnsOf_readers h]
    exact hvalid.someColumn

end

/-! ## Narrowing -/

theorem readsNothing_limitExpr :
    readsNothing (withArgKey .limit (limitExpr maximumRows)) = true := by
  refine readsNothing_iff.mpr (allKinds_withArgKey.mpr ?_)
  unfold limitExpr build
  refine allKinds_node.mpr ⟨rfl, fun c hc => ?_⟩
  rw [List.map_singleton, List.mem_singleton] at hc
  rw [hc]
  exact allKinds_withArgKey.mpr
    (allKinds_node.mpr ⟨rfl, fun c hc => absurd hc List.not_mem_nil⟩)

theorem readers_limited : readers (setArg statement .limit (limitExpr maximumRows)).children =
    readers (withoutLimit statement).children :=
  readers_setChildren readsNothing_limitExpr statement.children

theorem allKinds_withoutLimit {q : Kind → Prop} (h : AllKinds q statement) :
    AllKinds q (withoutLimit statement) := by
  obtain ⟨label, clauses⟩ := statement
  obtain ⟨hlabel, hclauses⟩ := allKinds_node.mp h
  exact allKinds_node.mpr ⟨hlabel, fun c hc => hclauses c (List.mem_filter.mp hc).1⟩

theorem notBlocked_limit (py : Casing) : py.lower Kind.limit.key ∉ blockedExpressionKeys := by
  show py.lower "limit" ∉ blockedExpressionKeys
  rw [py.lower_eq_self (by decide +kernel) (by decide +kernel)]
  decide

theorem notBlocked_number (py : Casing) (text : String) :
    py.lower (Kind.literal text false).key ∉ blockedExpressionKeys := by
  show py.lower "literal" ∉ blockedExpressionKeys
  rw [py.lower_eq_self (by decide +kernel) (by decide +kernel)]
  decide

/-- A valid statement whose limit is replaced stays valid when it is valid without its limit. -/
theorem valid_replaced_iff (hvalid : Valid py schema maximumRows statement) {limit : Int}
    (hlimit : applyRowLimit statement maximumRows =
      .ok (limit, setArg statement .limit (limitExpr maximumRows))) :
    Valid py schema maximumRows (setArg statement .limit (limitExpr maximumRows)) ↔
      Valid py schema maximumRows (withoutLimit statement) := by
  have hkeys := (readOnly_ok_iff.mp hvalid.readOnly).2.1
  constructor
  · exact valid_readers readers_limited (allKinds_withoutLimit hkeys)
  · refine valid_readers readers_limited.symm ?_
    exact allKinds_limited (notBlocked_limit py) (notBlocked_number py) hlimit hkeys

/-- What the condition says about the limited statement. -/
theorem condition_iff (db : RowSemantics ρ) (hvalid : Valid py schema maximumRows statement)
    {limit : Int} (hlimit : applyRowLimit statement maximumRows = .ok (limit, limited)) :
    KeepsLimit maximumRows db statement ∨ CanSpareLimit py schema maximumRows db statement ↔
      (∀ asked ∈ db.asked statement, limit ≤ asked) ∧ Valid py schema maximumRows limited ∧
        (db.Runs statement → db.Runs limited) := by
  rw [limit_le_asked_iff db hlimit, runs_limited_iff db hlimit]
  rcases (applyRowLimit_ok hlimit).2 with ⟨existing, hexisting, hrange, -, rfl⟩ | ⟨hout, -, rfl⟩
  · have hsome : (arg limited .limit).isSome = true := by
      obtain ⟨clause, hclause, -⟩ := Option.bind_eq_some_iff.mp hexisting
      rw [hclause]
      rfl
    constructor
    · rintro (hkeeps | hspare)
      · exact ⟨.inl hkeeps, hvalid, .inr (.inl hsome)⟩
      · exact ⟨.inr hspare.asked, hvalid, .inr (.inl hsome)⟩
    · rintro ⟨hkeeps | hasked, -, -⟩
      · exact .inl hkeeps
      · refine .inl ⟨existing, hexisting, hrange, fun inside hinside => ?_⟩
        have hle := hasked inside (by
          rw [asked_of_existingLimit db hexisting]
          exact List.mem_cons_of_mem _ hinside)
        omega
  · have hreplaced : ¬ KeepsLimit maximumRows db statement := by
      rintro ⟨n, hn, hrange, -⟩
      exact hout n hn hrange
    rw [or_iff_right hreplaced, or_iff_right hreplaced, valid_replaced_iff hvalid hlimit]
    exact ⟨fun hspare => ⟨hspare.asked, hspare.valid, hspare.single⟩,
      fun ⟨hasked, hvalid', hsingle⟩ => ⟨hasked, hvalid', hsingle⟩⟩

/-- The limit only narrows exactly when the one that the statement has is kept or can be spared. -/
theorem narrows_iff (db : RowSemantics ρ)
    (h : Accepts py glot schema maximumRows sql statement result)
    (hprint : TextReadsBack glot (limitedStatement statement maximumRows)) :
    Narrows py glot schema maximumRows db statement result ↔
      KeepsLimit maximumRows db statement ∨ CanSpareLimit py schema maximumRows db statement := by
  obtain ⟨hvalid, limit, limited, hlimit, rfl⟩ := (accepts_iff h.parsed).mp h
  have hlimited : limitedStatement statement maximumRows = limited := by
    unfold limitedStatement
    rw [hlimit]
  rw [hlimited] at hprint
  have hparsed : parseSingleStatement glot (glot.sql limited) = .ok limited :=
    (parseSingleStatement_ok_iff hprint.parsed hprint.notBlank).mpr ⟨hprint.noComments, rfl⟩
  have hreparsed : parseOne glot (glot.sql limited) = .ok limited := by
    unfold parseOne
    rw [hprint.parsed]
  rw [condition_iff db hvalid hlimit]
  constructor
  · rintro ⟨normalizedSql, executed, applied, hnormalized, hexecuted, hrows, happlied, -, hasked,
      again, hagain, hagainValid, -⟩
    dsimp only at hnormalized happlied
    obtain rfl := Option.some.inj hnormalized
    obtain rfl := Option.some.inj happlied
    obtain rfl := Except.ok.inj (hreparsed.symm.trans hexecuted)
    obtain ⟨parsed, haccepts⟩ := accepts_of_valid hagain hagainValid
    obtain rfl := Except.ok.inj (hparsed.symm.trans haccepts.parsed)
    refine ⟨hasked, ((accepts_iff haccepts.parsed).mp haccepts).1, fun hruns => ?_⟩
    have hsome := hrows _ (if_pos hruns)
    by_contra hnot
    rw [RowSemantics.rows, if_neg hnot] at hsome
    cases hsome
  · rintro ⟨hasked, hvalidLimited, hruns⟩
    have hmax : limit ≤ maximumRows := by
      obtain ⟨existing, -, rfl, -, hle⟩ := existingLimit_limited hlimit
      exact hle
    have haccepts := (accepts_iff hparsed).mpr
      ⟨hvalidLimited, limit, limited, applyRowLimit_again hlimit rfl, rfl⟩
    refine ⟨glot.sql limited, limited, limit, rfl, hreparsed, fun rows hrows => ?_, rfl, hmax,
      hasked, _, haccepts.validated, rfl, rfl, rfl⟩
    have hrunsLimited : db.Runs limited := by
      refine hruns ?_
      by_contra hnot
      rw [RowSemantics.rows, if_neg hnot] at hrows
      cases hrows
    exact rows_narrowed db hlimit hasked hrunsLimited hrows

/-- A limit that reads nothing can be spared when the statement asks for enough rows and has no
other limit inside parentheses. -/
theorem canSpareLimit_of_readsNothing {db : RowSemantics ρ}
    (hvalid : Valid py schema maximumRows statement)
    (hreads : ∀ c ∈ statement.children, c.label.argKey = .limit → readsNothing c = true)
    (hasked : ∀ asked ∈ db.asked statement, maximumRows ≤ asked)
    (hinner : innerLimits statement = []) :
    CanSpareLimit py schema maximumRows db statement := by
  refine ⟨hasked, valid_readers (readers_withoutLimit hreads).symm ?_ ?_, ?_⟩
  · exact allKinds_withoutLimit (readOnly_ok_iff.mp hvalid.readOnly).2.1
  · rw [show Rose.node statement.label statement.children = statement from
      Rose.node_label_children statement]
    exact hvalid
  · rw [hinner]
    exact .inr (.inr (by decide))

/-- A database with three users. -/
def threeUsers : RowSemantics String where
  rowsBeforeLimit _ := ["ada", "bob", "eve"]
  bound := existingLimit
  severalLimits := false
  rowsBeforeLimit_setArg _ _ := rfl
  bound_literal _ _ h := h

theorem plain_narrows :
    Narrows asciiCasing plainSqlglot usersSchema 100 threeUsers plainStatement plainResult := by
  apply (narrows_iff threeUsers plain_accepts _).mpr
  · have hvalid := ((accepts_iff plain_accepts.parsed).mp plain_accepts).1
    have hnone : threeUsers.asked plainStatement = [] := by decide +kernel
    refine .inr (canSpareLimit_of_readsNothing hvalid (by decide +kernel) ?_ (by decide +kernel))
    rw [hnone]
    exact fun asked hasked => absurd hasked List.not_mem_nil
  · exact ⟨by decide +kernel, by decide +kernel, by decide +kernel⟩

/-! ## A statement that asks for no rows -/

def noRowsSql : String := plainSql ++ " LIMIT 0"

def noRowsStatement : Expr :=
  setArg plainStatement .limit (build .limit [(.expression, numberLiteral "0")])

def noRowsSqlglot : Sqlglot :=
  knownTexts [(noRowsSql, noRowsStatement),
    (plainSql ++ " LIMIT 100", setArg plainStatement .limit (limitExpr 100))]

theorem no_rows_accepts :
    Accepts asciiCasing noRowsSqlglot usersSchema 100 noRowsSql noRowsStatement plainResult :=
  ⟨by decide +kernel, by decide +kernel, rfl⟩

/-- The statement with `LIMIT 0` is executed with `LIMIT 100`, and all rows are returned. -/
theorem no_rows_not_narrowed :
    Accepts asciiCasing noRowsSqlglot usersSchema 100 noRowsSql noRowsStatement plainResult ∧
      plainResult.applied_limit = some 100 ∧ threeUsers.asked noRowsStatement = [0] ∧
      threeUsers.rows noRowsStatement = some [] ∧
      threeUsers.rows (limitedStatement noRowsStatement 100) = some ["ada", "bob", "eve"] ∧
      ¬ Narrows asciiCasing noRowsSqlglot usersSchema 100 threeUsers noRowsStatement
        plainResult := by
  have hasked : threeUsers.asked noRowsStatement = [0] := by decide +kernel
  refine ⟨no_rows_accepts, rfl, hasked, by decide +kernel, by decide +kernel, ?_⟩
  rintro ⟨-, -, applied, -, -, -, happlied, -, hle, -⟩
  have happlied' : applied = 100 := (Option.some.inj happlied).symm
  have hzero := hle 0 (by rw [hasked]; exact List.mem_singleton_self 0)
  omega

end DataChat.Validator
