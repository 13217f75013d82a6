import DataChat.Validator.TableAuthorisation

/-!
# Are accepted statements read-only?

The validator searches the statement for nodes of a list of classes. `writingKeys` is the list
of the classes that change the database when they are executed, wherever they stand; some of
them are not searched for, above all `exp.Into`, the `INTO` of a `SELECT`, which creates a
table.

What a writing construct does to the database is left open: `execute` lets each of them act on
a state in any way, and nothing else acts on it.

* `execute_of_noWrites`: without writing constructs a statement changes no database.
* `readOnly_iff`: an accepted statement is read-only exactly when it has no writing construct
  of a class which the validator does not search for.
* `select_into_not_read_only`: an accepted statement that creates a table.
-/

namespace DataChat.Validator

open Sql Outcome

variable {py : Casing} {glot : Sqlglot} {schema : AllowedSchema} {maximumRows : Int}
  {sql : String} {statement : Expr} {result : SQLValidationResult}

/-! ## What changes a database -/

/-- The classes of sqlglot that create, change or delete tables or rows. -/
def writingKeys : List String :=
  ["insert", "update", "delete", "merge", "copy", "loaddata", "multitableinserts", "into",
    "create", "drop", "alter", "truncatetable", "comment", "refresh", "command"]

def writes (k : Kind) : Bool := decide (k.key ∈ writingKeys)

/-- The state after a statement was executed, when each writing construct acts on the state by
`effect`. -/
def execute {σ : Type} (effect : Occ → σ → σ) (statement : Expr) (db : σ) : σ :=
  (statement.walk.filter (fun occ => writes occ.node.label.kind)).foldl
    (fun db occ => effect occ db) db

/-- Executing the statement changes no database, whatever its writing constructs do. -/
def LeavesUnchanged (statement : Expr) : Prop :=
  ∀ (σ : Type) (effect : Occ → σ → σ) (db : σ), execute effect statement db = db

/-- The statement has no writing construct, at any depth. -/
def NoWrites (statement : Expr) : Prop := AllKinds (fun k => writes k = false) statement

instance (statement : Expr) : Decidable (NoWrites statement) :=
  inferInstanceAs (Decidable (AllKinds _ _))

theorem execute_of_noWrites (h : NoWrites statement) : LeavesUnchanged statement := by
  intro σ effect db
  have hnone : statement.walk.filter (fun occ => writes occ.node.label.kind) = [] := by
    rw [List.filter_eq_nil_iff]
    intro occ hocc hwrites
    rw [h occ hocc] at hwrites
    cases hwrites
  unfold execute
  rw [hnone]
  rfl

/-- The other way round: an effect that counts tells whether anything was executed. -/
theorem noWrites_of_leavesUnchanged (h : LeavesUnchanged statement) : NoWrites statement := by
  intro occ hocc
  by_contra hwrites
  rw [Bool.not_eq_false] at hwrites
  have hcount : ∀ (occs : List Occ) (n : Nat),
      occs.foldl (fun m _ => m + 1) n = n + occs.length := by
    intro occs
    induction occs with
    | nil => exact fun n => rfl
    | cons o os ih =>
      intro n
      rw [List.foldl_cons, ih, List.length_cons]
      omega
  have hunchanged := h Nat (fun _ n => n + 1) 0
  unfold execute at hunchanged
  rw [hcount, Nat.zero_add] at hunchanged
  have hmem : occ ∈ statement.walk.filter (fun occ => writes occ.node.label.kind) :=
    List.mem_filter.mpr ⟨hocc, hwrites⟩
  rw [List.length_eq_zero_iff.mp hunchanged] at hmem
  cases hmem

/-! ## Accepted statements -/

/-- The classes the validator does not search for. -/
def unlistedWritingKeys : List String :=
  writingKeys.filter (fun key => key ∉ blockedExpressionKeys)

/-- The statement has no writing construct of a class which is not searched for. -/
def NoUnlistedWrites (statement : Expr) : Prop :=
  AllKinds (fun k => k.key ∉ unlistedWritingKeys) statement

instance (statement : Expr) : Decidable (NoUnlistedWrites statement) :=
  inferInstanceAs (Decidable (AllKinds _ _))

/-- The statement that `apply_row_limit` leaves. -/
def limitedStatement (statement : Expr) (maximumRows : Int) : Expr :=
  match applyRowLimit statement maximumRows with
  | .ok (_, limited) => limited
  | .error _ => statement

/-- Neither does the statement have a writing construct, nor does executing the normalised
statement change anything. -/
def ReadOnly (statement : Expr) (maximumRows : Int) : Prop :=
  NoWrites statement ∧ LeavesUnchanged (limitedStatement statement maximumRows)

theorem lower_writingKey (py : Casing) : ∀ key ∈ writingKeys, py.lower key = key := by
  have hascii : ∀ key ∈ writingKeys, IsAscii key ∧ asciiLower key = key := by decide +kernel
  intro key hkey
  exact py.lower_eq_self (hascii key hkey).1 (hascii key hkey).2

/-- The row limit is a number and writes nothing. -/
theorem noWrites_limited (maximumRows : Int) (h : NoWrites statement) :
    NoWrites (limitedStatement statement maximumRows) := by
  unfold limitedStatement
  cases hlimited : applyRowLimit statement maximumRows with
  | error e => exact h
  | ok result =>
    apply allKinds_limited _ _ hlimited h
    · decide
    · intro text
      rfl

/-- An accepted statement is read-only exactly when it has no writing construct of a class
which the validator does not search for. -/
theorem readOnly_iff (h : Accepts py glot schema maximumRows sql statement result) :
    ReadOnly statement maximumRows ↔ NoUnlistedWrites statement := by
  obtain ⟨referenced, limit, limited, hrun⟩ := h.run
  have hsearched := (readOnly_ok_iff.mp hrun.readOnly).2.1
  constructor
  · intro hreadOnly occ hocc hunlisted
    have hwriting := (List.mem_filter.mp hunlisted).1
    have hnot := hreadOnly.1 occ hocc
    simp [writes, hwriting] at hnot
  · intro hunlisted
    have hnone : NoWrites statement := by
      intro occ hocc
      by_contra hwrites
      rw [Bool.not_eq_false] at hwrites
      have hwriting : occ.node.label.kind.key ∈ writingKeys := of_decide_eq_true hwrites
      have hkept := hsearched occ hocc
      rw [lower_writingKey py _ hwriting] at hkept
      exact hunlisted occ hocc (List.mem_filter.mpr ⟨hwriting, by simpa using hkept⟩)
    exact ⟨hnone, execute_of_noWrites (noWrites_limited maximumRows hnone)⟩

/-! ## Statements -/

theorem plain_read_only : ReadOnly plainStatement 100 :=
  (readOnly_iff plain_accepts).mpr (by decide +kernel)

def selectIntoSql : String :=
  "WITH exfil AS (SELECT email FROM public.users) SELECT email INTO exfil FROM public.users"

def selectIntoStatement : Expr :=
  selectExpr [columnNamed "email"] (qualifiedTable "public" "users" none)
    [withClause "exfil"
      (selectExpr [columnNamed "email"] (qualifiedTable "public" "users" none) []),
      (.other "into", build .into [(.this, tableNamed "exfil" none)])]

def selectIntoSqlglot : Sqlglot :=
  knownTexts [(selectIntoSql, selectIntoStatement),
    (selectIntoSql ++ " LIMIT 100", setArg selectIntoStatement .limit (limitExpr 100))]

def selectIntoResult : SQLValidationResult :=
  ⟨true, some (selectIntoSql ++ " LIMIT 100"), [], ["public.users"], ["public.users.email"],
    some 100⟩

theorem select_into_accepts :
    Accepts asciiCasing selectIntoSqlglot usersSchema 100 selectIntoSql selectIntoStatement
      selectIntoResult :=
  ⟨by decide +kernel, by decide +kernel, rfl⟩

/-- The validator accepts a statement that creates the table `exfil`. -/
theorem select_into_not_read_only :
    Accepts asciiCasing selectIntoSqlglot usersSchema 100 selectIntoSql selectIntoStatement
        selectIntoResult ∧
      ¬ ReadOnly selectIntoStatement 100 := by
  refine ⟨select_into_accepts, fun h => ?_⟩
  have hwrites : ¬ NoWrites selectIntoStatement := by decide +kernel
  exact hwrites h.1

end DataChat.Validator
