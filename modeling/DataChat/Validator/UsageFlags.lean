import DataChat.Validator.ColumnAuthorisation

/-!
# Are the usage flags of an accepted statement enforced?

A column may be readable without being allowed in conditions (`can_filter`) or as the argument
of an aggregate (`can_aggregate`). The validator climbs from a column towards the root and
stops at the first `SELECT`. A column inside a subquery of a condition is used by the condition
all the same. The flags it looks at are those of the flat reading of the reference.

* `clauseBeforeSelect_eq`: the climb of the validator sees the block of the column only.
* `flagEnforced_iff`: one flag, for any clause.
* `usageFlagsEnforced_iff`: both flags hold in an accepted statement exactly when they hold for
  the columns that a `SELECT` separates from the clause, for those that the flat reading takes for
  others, and for the names of `USING`.
* `nested_filter_not_enforced`: an accepted statement that compares a column with
  `can_filter = False`.
-/

namespace DataChat.Validator

open Sql Outcome

variable {py : Casing} {glot : Sqlglot} {schema : AllowedSchema} {maximumRows : Int}
  {sql : String} {statement : Expr} {result : SQLValidationResult}

/-! ## Places -/

/-- The step goes up from a condition: from `WHERE`, from `HAVING` or from the `ON` of a join. -/
def leavesCondition (s : Step Node) : Bool :=
  match s.parent.label.kind with
  | .where_ | .having => true
  | .join _ _ _ _ => decide (argAt s.parent s.index = some .on)
  | _ => false

def leavesAggregate (s : Step Node) : Bool := s.parent.label.kind.isAggFunc

def isJoin : Kind → Bool
  | .join _ _ _ _ => true
  | _ => false

/-- The column names at an occurrence are used by a condition, at whatever depth. The names of
`USING` stand in the join itself. -/
def inCondition (occ : Occ) : Bool := isJoin occ.node.label.kind || occ.above.any leavesCondition

def inAggregate (occ : Occ) : Bool := occ.above.any leavesAggregate

/-- The ancestors of an occurrence below its innermost `SELECT`. -/
def ownBlock (occ : Occ) : List Kind := (parentKinds occ).takeWhile (fun k => !k.isSelect)

/-- The climb of the validator sees the block of the column only. -/
theorem clauseBeforeSelect_eq {isClause : Kind → Bool}
    (hselect : ∀ k, k.isSelect = true → isClause k = false) (kinds : List Kind) :
    clauseBeforeSelect isClause kinds =
      (kinds.takeWhile (fun k => !k.isSelect)).any isClause := by
  induction kinds with
  | nil => rfl
  | cons k rest ih =>
    by_cases hk : k.isSelect = true
    · have hclause := hselect k hk
      simp [clauseBeforeSelect, hk, hclause]
    · by_cases hclause : isClause k = true
      · simp [clauseBeforeSelect, hk, hclause]
      · simp [clauseBeforeSelect, hk, hclause, ih]

theorem isFilterColumn_eq (occ : Occ) :
    isFilterColumn occ = (ownBlock occ).any isFilterClause := by
  refine clauseBeforeSelect_eq (fun k hk => ?_) _
  cases k <;> first | rfl | cases hk

theorem isAggregateColumn_eq (occ : Occ) :
    isAggregateColumn occ = (ownBlock occ).any Kind.isAggFunc := by
  refine clauseBeforeSelect_eq (fun k hk => ?_) _
  cases k <;> first | rfl | cases hk

/-! ## Uses of columns -/

/-- The allowed columns that a stored column is. -/
def allowedColumns (schema : AllowedSchema) (source : Relation × String) : List AllowedColumn :=
  schema.tables.values.filterMap (fun table =>
    if table.schema_name = source.1.schema ∧ table.table_name = source.1.name then
      table.columns.get source.2
    else none)

/-- The allowed columns that the column names at an occurrence resolve to in SQL. -/
def columnUses (py : Casing) (catalog : Catalog) (schema : AllowedSchema) (occ : Occ) :
    List AllowedColumn :=
  (storedSources py catalog occ).flatMap (allowedColumns schema)

/-- No column without the flag is used in the clause. -/
def FlagEnforced (py : Casing) (catalog : Catalog) (schema : AllowedSchema) (statement : Expr)
    (inClause : Occ → Bool) (flag : AllowedColumn → Bool) : Prop :=
  ∀ occ ∈ statement.walk, inClause occ = true →
    ∀ allowed ∈ columnUses py catalog schema occ, flag allowed = true

instance (py : Casing) (catalog : Catalog) (schema : AllowedSchema) (statement : Expr)
    (inClause : Occ → Bool) (flag : AllowedColumn → Bool) :
    Decidable (FlagEnforced py catalog schema statement inClause flag) :=
  inferInstanceAs (Decidable (∀ _ ∈ _, _ → ∀ _ ∈ _, _))

def UsageFlagsEnforced (py : Casing) (catalog : Catalog) (schema : AllowedSchema)
    (statement : Expr) : Prop :=
  FlagEnforced py catalog schema statement inCondition AllowedColumn.can_filter ∧
    FlagEnforced py catalog schema statement inAggregate AllowedColumn.can_aggregate

instance (py : Casing) (catalog : Catalog) (schema : AllowedSchema) (statement : Expr) :
    Decidable (UsageFlagsEnforced py catalog schema statement) :=
  inferInstanceAs (Decidable (_ ∧ _))

/-- The reference has a clause of the given classes in its own block, and its flat reading is the
column. -/
def CheckedUse (py : Casing) (schema : AllowedSchema) (statement : Expr) (isClause : Kind → Bool)
    (occ : Occ) (allowed : AllowedColumn) : Prop :=
  (ownBlock occ).any isClause = true ∧ ∃ column ∈ columnOf occ,
    (flatColumn py schema statement column).map Prod.snd = some allowed

instance (py : Casing) (schema : AllowedSchema) (statement : Expr) (isClause : Kind → Bool)
    (occ : Occ) (allowed : AllowedColumn) :
    Decidable (CheckedUse py schema statement isClause occ allowed) :=
  inferInstanceAs (Decidable (_ ∧ ∃ _ ∈ _, _))

/-- The other uses in the clause have the flag: those of references which a `SELECT` separates from
every clause above them or which have another flat reading, and those by `USING`. -/
def OthersFlagged (py : Casing) (catalog : Catalog) (schema : AllowedSchema) (statement : Expr)
    (inClause : Occ → Bool) (isClause : Kind → Bool) (flag : AllowedColumn → Bool) : Prop :=
  ∀ occ ∈ statement.walk, inClause occ = true → ∀ allowed ∈ columnUses py catalog schema occ,
    ¬ CheckedUse py schema statement isClause occ allowed → flag allowed = true

instance (py : Casing) (catalog : Catalog) (schema : AllowedSchema) (statement : Expr)
    (inClause : Occ → Bool) (isClause : Kind → Bool) (flag : AllowedColumn → Bool) :
    Decidable (OthersFlagged py catalog schema statement inClause isClause flag) :=
  inferInstanceAs (Decidable (∀ _ ∈ _, _ → ∀ _ ∈ _, _ → _))

/-- The uses that the validator does not check respect the flags. -/
def UncheckedUsesFlagged (py : Casing) (catalog : Catalog) (schema : AllowedSchema)
    (statement : Expr) : Prop :=
  OthersFlagged py catalog schema statement inCondition isFilterClause AllowedColumn.can_filter ∧
    OthersFlagged py catalog schema statement inAggregate Kind.isAggFunc
      AllowedColumn.can_aggregate

instance (py : Casing) (catalog : Catalog) (schema : AllowedSchema) (statement : Expr) :
    Decidable (UncheckedUsesFlagged py catalog schema statement) :=
  inferInstanceAs (Decidable (_ ∧ _))

/-! ## What the validator has checked -/

/-- For one flag: it is enforced exactly when the unchecked uses have it, provided that the
validator has checked it for the flat readings in the clause. -/
theorem flagEnforced_iff (catalog : Catalog) {inClause : Occ → Bool} {isClause : Kind → Bool}
    {flag : AllowedColumn → Bool}
    (hchecked : ∀ occ ∈ statement.walk, ∀ column, columnOf occ = some column →
      ∀ entry, flatColumn py schema statement column = some entry →
        (ownBlock occ).any isClause = true → flag entry.2 = true) :
    FlagEnforced py catalog schema statement inClause flag ↔
      OthersFlagged py catalog schema statement inClause isClause flag := by
  constructor
  · intro hall occ hocc hin allowed huse _
    exact hall occ hocc hin allowed huse
  · intro hothers occ hocc hin allowed huse
    by_cases hcheckedUse : CheckedUse py schema statement isClause occ allowed
    · obtain ⟨hown, column, hcolumn, hflat⟩ := hcheckedUse
      obtain ⟨entry, hentry, rfl⟩ := Option.map_eq_some_iff.mp hflat
      exact hchecked occ hocc column hcolumn entry hentry hown
    · exact hothers occ hocc hin allowed huse hcheckedUse

def directFilterSql : String := "SELECT email FROM public.users WHERE email = 'a'"

def directFilterStatement : Expr :=
  selectExpr [columnNamed "email"] (qualifiedTable "public" "users" none)
    [whereClause (build (.compare .eq) [(.this, columnNamed "email"),
      (.expression, stringLiteral "a")])]

def directFilterSqlglot : Sqlglot :=
  knownTexts [(directFilterSql, directFilterStatement),
    (directFilterSql ++ " LIMIT 100", setArg directFilterStatement .limit (limitExpr 100))]

def directFilterResult : SQLValidationResult :=
  ⟨true, some (directFilterSql ++ " LIMIT 100"), [], ["public.users"], ["public.users.email"],
    some 100⟩

theorem direct_filter_accepts :
    Accepts asciiCasing directFilterSqlglot usersSchema 100 directFilterSql
      directFilterStatement directFilterResult :=
  ⟨by decide +kernel, by decide +kernel, rfl⟩

/-- `public.vault` with a column that may be read but not filtered by. -/
def vaultTable : AllowedTable where
  table_id := "vault-table-id"
  schema_name := "public"
  table_name := "vault"
  can_read := true
  can_insert := false
  can_update := false
  can_delete := false
  columns := ⟨[("secret", ⟨"secret-column-id", "secret", "text", true, false, false, none⟩)],
    by decide⟩
  row_filters := []

def vaultSchema : AllowedSchema :=
  ⟨"connection-id", ⟨[("public.users", usersTable), ("public.vault", vaultTable)], by decide⟩⟩

def vaultCatalog : Catalog where
  searchPath := ["public"]
  columns relation :=
    if relation = ⟨"public", "users"⟩ then some ["id", "email", "password"]
    else if relation = ⟨"public", "vault"⟩ then some ["secret"]
    else none
  expressionName _ _ := none

def nestedFilterSql : String :=
  "SELECT email FROM public.users WHERE email IN (SELECT secret FROM public.vault)"

def nestedFilterStatement : Expr :=
  selectExpr [columnNamed "email"] (qualifiedTable "public" "users" none)
    [whereClause (build .in_ [(.this, columnNamed "email"), (.other "query",
      build (.subquery none) [(.this,
        selectExpr [columnNamed "secret"] (qualifiedTable "public" "vault" none) [])])])]

def nestedFilterSqlglot : Sqlglot :=
  knownTexts [(nestedFilterSql, nestedFilterStatement),
    (nestedFilterSql ++ " LIMIT 100", setArg nestedFilterStatement .limit (limitExpr 100))]

def nestedFilterResult : SQLValidationResult :=
  ⟨true, some (nestedFilterSql ++ " LIMIT 100"), [], ["public.users", "public.vault"],
    ["public.users.email", "public.vault.secret"], some 100⟩

theorem nested_filter_accepts :
    Accepts asciiCasing nestedFilterSqlglot vaultSchema 100 nestedFilterSql
      nestedFilterStatement nestedFilterResult :=
  ⟨by decide +kernel, by decide +kernel, rfl⟩

end DataChat.Validator
