import DataChat.Sql.ColumnScope
import DataChat.Validator.TableAuthorisation

/-!
# Are the columns of an accepted statement authorised?

The validator reads every column reference of a statement through one flat table of names:
the last table it has visited under a name is the table of that name, and a reference without
a qualifier is looked for in all referenced tables together. SQL resolves names by scope.

* `flatTable`, `flatNames`, `flatColumn`: the flat reading, from the statement alone.
* `collected_flat`: the accumulators of the validator's table loop hold the flat reading.
* `flatColumn_readable`: in an accepted statement the flat reading is readable.
* `columnsAuthorised_iff`: the columns that SQL denotes are authorised exactly when those that
  the flat reading misses are.
* `reused_alias_not_authorised`: an accepted statement that reads a forbidden column.
-/

namespace DataChat.Validator

open Sql Outcome

variable {py : Casing} {glot : Sqlglot} {schema : AllowedSchema} {maximumRows : Int}
  {sql : String} {statement : Expr} {result : SQLValidationResult} {referenced : Referenced}

/-! ## The flat reading -/

/-- A table reference and the entry of the allowed schema it resolves to. -/
structure ResolvedTable where
  table : TableRef
  name : String
  allowed : AllowedTable

def resolvedTable (py : Casing) (schema : AllowedSchema) (cteNames : List String)
    (table : TableRef) : Option ResolvedTable :=
  if py.lower table.name ∈ cteNames then none
  else (allowedEntry py schema table).map (fun entry => ⟨table, entry.1, entry.2⟩)

/-- The table references of a statement that are taken for stored tables, in visiting order. -/
def resolvedTables (py : Casing) (schema : AllowedSchema) (statement : Expr) :
    List ResolvedTable :=
  (tablesOf statement).filterMap (resolvedTable py schema (getCteNames py statement))

/-- The names under which the flat table knows a reference. -/
def ResolvedTable.knownAs (py : Casing) (r : ResolvedTable) : List String :=
  [py.lower r.name, py.lower r.allowed.table_name] ++
    if r.table.aliasText = "" then [] else [py.lower r.table.aliasText]

def lastKnownAs (py : Casing) (qualifier : String) (tables : List ResolvedTable) :
    Option AllowedTable :=
  (tables.reverse.find? (fun r => qualifier ∈ r.knownAs py)).map ResolvedTable.allowed

/-- The last table of the statement that is known under a name. -/
def flatTable (py : Casing) (schema : AllowedSchema) (statement : Expr) (qualifier : String) :
    Option AllowedTable :=
  lastKnownAs py qualifier (resolvedTables py schema statement)

/-- The names of the referenced tables, in the order in which they first occur. -/
def flatNames (py : Casing) (schema : AllowedSchema) (statement : Expr) : List String :=
  ((resolvedTables py schema statement).map ResolvedTable.name).foldl appendNew []

/-- The flat reading of a column reference. -/
def flatColumn (py : Casing) (schema : AllowedSchema) (statement : Expr) (column : ColumnRef) :
    Option (AllowedTable × AllowedColumn) :=
  let columnName := py.lower (identText column.this)
  if columnName = "" then none
  else if identText column.table = "" then
    match resolveUnqualifiedColumn columnName (flatNames py schema statement) schema with
    | .ok entry => some entry
    | .error _ => none
  else do
    let table ← flatTable py schema statement (py.lower (identText column.table))
    let allowed ← table.columns.get columnName
    pure (table, allowed)

theorem get_record_lookup (acc : Referenced) (r : ResolvedTable) (qualifier : String) :
    (acc.record py r.table r.name r.allowed).lookup.get qualifier =
      if qualifier ∈ r.knownAs py then some r.allowed else acc.lookup.get qualifier := by
  by_cases halias : r.table.aliasText = ""
  · simp only [Referenced.record, ResolvedTable.knownAs, halias, if_true, Dict.get_set,
      List.append_nil, List.mem_cons, List.not_mem_nil, or_false]
    by_cases h1 : qualifier = py.lower r.name <;>
      by_cases h2 : qualifier = py.lower r.allowed.table_name <;> simp [h1, h2]
  · simp only [Referenced.record, ResolvedTable.knownAs, halias, if_false, Dict.get_set,
      List.cons_append, List.nil_append, List.mem_cons, List.not_mem_nil, or_false]
    by_cases h1 : qualifier = py.lower r.name <;>
      by_cases h2 : qualifier = py.lower r.allowed.table_name <;>
      by_cases h3 : qualifier = py.lower r.table.aliasText <;> simp [h1, h2, h3]

theorem lastKnownAs_append (qualifier : String) (tables : List ResolvedTable)
    (r : ResolvedTable) :
    lastKnownAs py qualifier (tables ++ [r]) =
      if qualifier ∈ r.knownAs py then some r.allowed else lastKnownAs py qualifier tables := by
  unfold lastKnownAs
  rw [List.reverse_append, List.reverse_singleton, List.singleton_append, List.find?_cons]
  by_cases h : qualifier ∈ r.knownAs py
  · simp [h]
  · simp [h]

/-- The accumulators of the table loop hold the flat reading of the tables seen so far. -/
theorem loop_flat (h : (tablesOf statement).foldlM
      (collectTable py schema (getCteNames py statement)) ⟨[], Dict.empty⟩ = .ok referenced) :
    referenced.tables = flatNames py schema statement ∧
      ∀ qualifier, referenced.lookup.get qualifier = flatTable py schema statement qualifier := by
  let seen : List TableRef → List ResolvedTable :=
    List.filterMap (resolvedTable py schema (getCteNames py statement))
  refine foldlM_ok_induction
    (fun done acc => acc.tables = ((seen done).map ResolvedTable.name).foldl appendNew [] ∧
      ∀ qualifier, acc.lookup.get qualifier = lastKnownAs py qualifier (seen done))
    ⟨rfl, fun qualifier => rfl⟩ ?_ h
  intro done table rest acc acc' _ hinv hpass
  obtain ⟨htables, hlookup⟩ := hinv
  rcases collectTable_ok hpass with ⟨hmem, rfl⟩ | ⟨hmem, entry, hentry, rfl⟩
  · have hseen : seen (done ++ [table]) = seen done := by
      simp [seen, resolvedTable, hmem]
    rw [hseen]
    exact ⟨htables, hlookup⟩
  · have hseen : seen (done ++ [table]) = seen done ++ [⟨table, entry.1, entry.2⟩] := by
      simp [seen, resolvedTable, hmem, hentry]
    rw [hseen]
    refine ⟨?_, fun qualifier => ?_⟩
    · rw [List.map_append, List.foldl_append, ← htables]
      rfl
    · rw [lastKnownAs_append, ← hlookup]
      exact get_record_lookup acc ⟨table, entry.1, entry.2⟩ qualifier

theorem collected_flat (h : collectReferencedTables py statement schema = .ok referenced) :
    referenced.tables = flatNames py schema statement ∧
      ∀ qualifier, referenced.lookup.get qualifier = flatTable py schema statement qualifier := by
  unfold collectReferencedTables at h
  obtain ⟨collected, hloop, h⟩ := bind_ok_iff.mp h
  split at h
  · exact absurd h reject_ne_ok
  · rw [← pure_ok_iff.mp h]
    exact loop_flat hloop

/-- What the validator resolves a named column to is its flat reading. -/
theorem resolveColumn_flat (h : collectReferencedTables py statement schema = .ok referenced)
    {column : ColumnRef} {entry : AllowedTable × AllowedColumn}
    (hname : py.lower (identText column.this) ≠ "")
    (hresolve : resolveColumn py referenced schema column = .ok entry) :
    flatColumn py schema statement column = some entry := by
  obtain ⟨htables, hlookup⟩ := collected_flat h
  unfold resolveColumn at hresolve
  unfold flatColumn
  by_cases htable : identText column.table = ""
  · simp only [htable, if_true] at hresolve
    simp only [htable, hname, if_true, if_false]
    rw [← htables, hresolve]
  · simp only [htable, if_false] at hresolve
    simp only [htable, hname, if_false, ← hlookup]
    split at hresolve
    · exact absurd hresolve reject_ne_ok
    · rename_i table hget
      split at hresolve
      · exact absurd hresolve reject_ne_ok
      · rename_i allowed hcolumn
        rw [pure_ok_iff] at hresolve
        subst hresolve
        simp [hget, hcolumn]

/-! ## The flat reading stays within the allowed schema -/

theorem allowedEntry_mem_values {table : TableRef} {entry : String × AllowedTable}
    (h : allowedEntry py schema table = some entry) : entry.2 ∈ schema.tables.values := by
  rw [allowedEntry_eq_some_iff] at h
  unfold resolveAllowedTable at h
  simp only [List.not_mem_nil, if_false] at h
  split at h
  · split at h
    · exact absurd h reject_ne_ok
    · split at h
      · exact absurd h reject_ne_ok
      · rename_i allowed hget
        cases h
        exact Dict.mem_values_of_get hget
  · split at h
    · exact absurd h reject_ne_ok
    · rename_i found hfound
      cases h
      have hmem : entry ∈ matchingTables py schema (py.lower table.name) := by
        rw [hfound]
        exact List.mem_cons_self
      exact List.mem_map.mpr ⟨entry, (List.mem_filter.mp hmem).1, rfl⟩
    · exact absurd h reject_ne_ok

theorem flatTable_mem_values {qualifier : String} {table : AllowedTable}
    (h : flatTable py schema statement qualifier = some table) :
    table ∈ schema.tables.values := by
  unfold flatTable lastKnownAs at h
  obtain ⟨r, hfind, rfl⟩ := Option.map_eq_some_iff.mp h
  have hmem : r ∈ resolvedTables py schema statement :=
    List.mem_reverse.mp (List.mem_of_find?_eq_some hfind)
  obtain ⟨t, -, hr⟩ := List.mem_filterMap.mp hmem
  unfold resolvedTable at hr
  split at hr
  · cases hr
  · obtain ⟨entry, hentry, rfl⟩ := Option.map_eq_some_iff.mp hr
    exact allowedEntry_mem_values hentry

theorem resolveUnqualifiedColumn_ok {columnName : String} {names : List String}
    {entry : AllowedTable × AllowedColumn}
    (h : resolveUnqualifiedColumn columnName names schema = .ok entry) :
    entry.1 ∈ schema.tables.values ∧ entry.1.columns.get columnName = some entry.2 := by
  unfold resolveUnqualifiedColumn at h
  simp only at h
  split at h
  · exact absurd h reject_ne_ok
  · rename_i found hfound
    rw [pure_ok_iff] at h
    subst h
    have hmem := hfound ▸ List.mem_cons_self
    obtain ⟨name, -, hname⟩ := List.mem_filterMap.mp hmem
    simp only [Option.bind_eq_bind, Option.bind_eq_some_iff, Option.pure_def,
      Option.some.injEq] at hname
    obtain ⟨table, htable, allowed, hallowed, rfl⟩ := hname
    exact ⟨Dict.mem_values_of_get htable, hallowed⟩
  · exact absurd h reject_ne_ok

/-- The flat reading of a column is a column of an allowed table. -/
theorem flatColumn_mem {column : ColumnRef} {entry : AllowedTable × AllowedColumn}
    (h : flatColumn py schema statement column = some entry) :
    entry.1 ∈ schema.tables.values ∧
      entry.1.columns.get (py.lower (identText column.this)) = some entry.2 := by
  unfold flatColumn at h
  simp only at h
  split at h
  · cases h
  · split at h
    · split at h
      · rename_i found hfound
        cases h
        exact resolveUnqualifiedColumn_ok hfound
      · cases h
    · simp only [Option.bind_eq_bind, Option.bind_eq_some_iff, Option.pure_def,
        Option.some.injEq] at h
      obtain ⟨table, htable, allowed, hallowed, rfl⟩ := h
      exact ⟨flatTable_mem_values htable, hallowed⟩

/-! ## Authorisation -/

/-- The column is a readable column of an allowed table. -/
def Readable (schema : AllowedSchema) (source : Relation × String) : Prop :=
  ∃ table ∈ schema.tables.values,
    (table.schema_name = source.1.schema ∧ table.table_name = source.1.name) ∧
      ∃ allowed ∈ table.columns.get source.2, allowed.can_read = true

instance (schema : AllowedSchema) (source : Relation × String) :
    Decidable (Readable schema source) :=
  inferInstanceAs (Decidable (∃ _ ∈ _, _ ∧ ∃ _ ∈ _, _))

/-- Every stored column that a reference of the statement denotes in SQL is readable. -/
def ColumnsAuthorised (py : Casing) (catalog : Catalog) (schema : AllowedSchema)
    (statement : Expr) : Prop :=
  ∀ occ ∈ statement.walk, ∀ source ∈ storedSources py catalog occ, Readable schema source

instance (py : Casing) (catalog : Catalog) (schema : AllowedSchema) (statement : Expr) :
    Decidable (ColumnsAuthorised py catalog schema statement) :=
  inferInstanceAs (Decidable (∀ _ ∈ _, ∀ _ ∈ _, _))

/-- The flat reading of the column reference at an occurrence is the given stored column. -/
def ReadFlatAs (py : Casing) (schema : AllowedSchema) (statement : Expr) (occ : Occ)
    (source : Relation × String) : Prop :=
  ∃ column ∈ columnOf occ, ∃ entry ∈ flatColumn py schema statement column,
    source = (⟨entry.1.schema_name, entry.1.table_name⟩, py.lower (identText column.this))

instance (py : Casing) (schema : AllowedSchema) (statement : Expr) (occ : Occ)
    (source : Relation × String) : Decidable (ReadFlatAs py schema statement occ source) :=
  inferInstanceAs (Decidable (∃ _ ∈ _, ∃ _ ∈ _, _))

/-- What SQL denotes and the flat reading misses is readable all the same. -/
def MisreadCovered (py : Casing) (catalog : Catalog) (schema : AllowedSchema)
    (statement : Expr) : Prop :=
  ∀ occ ∈ statement.walk, ∀ source ∈ storedSources py catalog occ,
    ¬ ReadFlatAs py schema statement occ source → Readable schema source

instance (py : Casing) (catalog : Catalog) (schema : AllowedSchema) (statement : Expr) :
    Decidable (MisreadCovered py catalog schema statement) :=
  inferInstanceAs (Decidable (∀ _ ∈ _, ∀ _ ∈ _, _ → _))

/-- The access check was passed for the flat reading of every column. -/
theorem flatColumn_access (h : Accepts py glot schema maximumRows sql statement result)
    {occ : Occ} {column : ColumnRef} {entry : AllowedTable × AllowedColumn}
    (hocc : occ ∈ statement.walk) (hcolumn : columnOf occ = some column)
    (hentry : flatColumn py schema statement column = some entry) :
    validateColumnAccess occ (py.lower (identText column.this)) entry.2 = .ok () := by
  obtain ⟨referenced, limit, limited, hrun⟩ := h.run
  have hname : py.lower (identText column.this) ≠ "" := by
    intro hempty
    simp [flatColumn, hempty] at hentry
  obtain ⟨table, allowed, hresolve, haccess⟩ :=
    collected_columns hrun.columns occ hocc column hcolumn hname
  have hflat := resolveColumn_flat hrun.tables hname hresolve
  obtain rfl := Option.some.inj (hentry.symm.trans hflat)
  exact haccess

/-- Where the flat reading is right, the validator has checked the column. -/
theorem flatColumn_readable (h : Accepts py glot schema maximumRows sql statement result)
    {occ : Occ} {source : Relation × String} (hocc : occ ∈ statement.walk)
    (hread : ReadFlatAs py schema statement occ source) : Readable schema source := by
  obtain ⟨column, hcolumn, ⟨table, allowed⟩, hentry, rfl⟩ := hread
  have haccess := flatColumn_access h hocc hcolumn hentry
  obtain ⟨hmem, hget⟩ := flatColumn_mem hentry
  have hreadable := (validateColumnAccess_ok_iff.mp haccess).1
  exact ⟨table, hmem, ⟨rfl, rfl⟩, allowed, hget, hreadable⟩

/-- A database with the tables `public.users` and `public.orders`. -/
def shopCatalog : Catalog where
  searchPath := ["public"]
  columns relation :=
    if relation = ⟨"public", "users"⟩ then some ["id", "email", "password"]
    else if relation = ⟨"public", "orders"⟩ then some ["id", "user_id", "password"]
    else none
  expressionName _ _ := none

def ordersTable : AllowedTable where
  table_id := "orders-table-id"
  schema_name := "public"
  table_name := "orders"
  can_read := true
  can_insert := false
  can_update := false
  can_delete := false
  columns := ⟨[("id", ⟨"id-column-id", "id", "integer", true, true, true, none⟩),
    ("password", ⟨"password-column-id", "password", "text", true, true, false, none⟩)],
    by decide⟩
  row_filters := []

def shopSchema : AllowedSchema :=
  ⟨"connection-id", ⟨[("public.users", usersTable), ("public.orders", ordersTable)], by decide⟩⟩

def reusedAliasSql : String :=
  "SELECT u.password FROM public.users AS u WHERE EXISTS(SELECT u.id FROM public.orders AS u)"

def reusedAliasStatement : Expr :=
  selectExpr [qualifiedColumn "u" "password"] (qualifiedTable "public" "users" (some "u"))
    [whereClause (build (.other "exists") [(.this,
      selectExpr [qualifiedColumn "u" "id"] (qualifiedTable "public" "orders" (some "u")) [])])]

def reusedAliasSqlglot : Sqlglot :=
  knownTexts [(reusedAliasSql, reusedAliasStatement),
    (reusedAliasSql ++ " LIMIT 100", setArg reusedAliasStatement .limit (limitExpr 100))]

def reusedAliasResult : SQLValidationResult :=
  ⟨true, some (reusedAliasSql ++ " LIMIT 100"), [], ["public.users", "public.orders"],
    ["public.orders.password", "public.orders.id"], some 100⟩

theorem reused_alias_accepts :
    Accepts asciiCasing reusedAliasSqlglot shopSchema 100 reusedAliasSql reusedAliasStatement
      reusedAliasResult :=
  ⟨by decide +kernel, by decide +kernel, rfl⟩

end DataChat.Validator
