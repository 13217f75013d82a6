import DataChat.Validator.ColumnAuthorisation

/-!
# When the validator accepts

What acceptance guarantees is also enough for it. The steps of the validator come with the exact
conditions under which they return, in terms of the flat reading of the statement:

* `collectReferencedTables_returns_iff`: every table that is no CTE resolves, and there is one;
* `collectReferencedColumns_ok_iff`: there is no star, every named column has a flat reading that
  may be used at its place, and the readings are listed;
* `accepts_iff`: when a statement is accepted, and with which result.
-/

namespace DataChat.Validator

open Sql Outcome

variable {py : Casing} {glot : Sqlglot} {schema : AllowedSchema} {maximumRows : Int}
  {sql : String} {statement : Expr} {referenced : Referenced}

/-! ## Tables -/

/-- The reference stands for a CTE, or for an allowed table. -/
def Resolves (py : Casing) (schema : AllowedSchema) (cteNames : List String)
    (table : TableRef) : Prop :=
  py.lower table.name ∈ cteNames ∨ (allowedEntry py schema table).isSome = true

instance (py : Casing) (schema : AllowedSchema) (cteNames : List String) (table : TableRef) :
    Decidable (Resolves py schema cteNames table) :=
  inferInstanceAs (Decidable (_ ∨ _))

theorem collectTable_returns_iff {cteNames : List String} {table : TableRef} (acc : Referenced) :
    (∃ acc', collectTable py schema cteNames acc table = .ok acc') ↔
      Resolves py schema cteNames table := by
  constructor
  · rintro ⟨acc', h⟩
    rcases collectTable_ok h with ⟨hmem, -⟩ | ⟨-, entry, hentry, -⟩
    · exact .inl hmem
    · exact .inr (Option.isSome_iff_exists.mpr ⟨entry, hentry⟩)
  · intro h
    by_cases hmem : py.lower table.name ∈ cteNames
    · refine ⟨acc, bind_ok_iff.mpr ⟨none, resolveAllowedTable_of_mem hmem, rfl⟩⟩
    · obtain ⟨entry, hentry⟩ := Option.isSome_iff_exists.mp (h.resolve_left hmem)
      rw [allowedEntry_eq_some_iff, ← resolveAllowedTable_of_not_mem hmem] at hentry
      exact ⟨_, bind_ok_iff.mpr ⟨some entry, hentry, rfl⟩⟩

theorem mem_foldl_appendNew {names : List String} {acc : List String} {name : String} :
    name ∈ names.foldl appendNew acc ↔ name ∈ acc ∨ name ∈ names := by
  induction names generalizing acc with
  | nil => simp
  | cons n names ih =>
    rw [List.foldl_cons, ih, mem_appendNew, List.mem_cons, or_assoc]

/-- The names of the tables, each at its first place. -/
def namesOf (tables : List ResolvedTable) : List String :=
  (tables.map ResolvedTable.name).foldl appendNew []

theorem mem_namesOf {tables : List ResolvedTable} {name : String} :
    name ∈ namesOf tables ↔ ∃ r ∈ tables, r.name = name := by
  unfold namesOf
  rw [mem_foldl_appendNew, List.mem_map]
  exact or_iff_right List.not_mem_nil

theorem mem_flatNames {name : String} :
    name ∈ flatNames py schema statement ↔
      ∃ table ∈ tablesOf statement, ∃ r, resolvedTable py schema (getCteNames py statement) table =
        some r ∧ r.name = name := by
  show name ∈ namesOf (resolvedTables py schema statement) ↔ _
  unfold resolvedTables
  rw [mem_namesOf]
  simp only [List.mem_filterMap]
  constructor
  · rintro ⟨r, ⟨table, htable, hr⟩, hname⟩
    exact ⟨table, htable, r, hr, hname⟩
  · rintro ⟨table, htable, r, hr, hname⟩
    exact ⟨r, ⟨table, htable, hr⟩, hname⟩

theorem nodup_appendNew {names : List String} (h : names.Nodup) (name : String) :
    (appendNew names name).Nodup := by
  unfold appendNew
  split
  · exact h
  · rename_i hname
    refine List.Nodup.append h (List.nodup_singleton name) ?_
    intro x hx hx'
    rw [List.mem_singleton.mp hx'] at hx
    exact hname hx

theorem nodup_flatNames : (flatNames py schema statement).Nodup := by
  unfold flatNames
  generalize (resolvedTables py schema statement).map ResolvedTable.name = names
  suffices hall : ∀ acc : List String, acc.Nodup → (names.foldl appendNew acc).Nodup from
    hall [] List.nodup_nil
  induction names with
  | nil => exact fun acc hacc => hacc
  | cons name names ih => exact fun acc hacc => ih _ (nodup_appendNew hacc name)

theorem collectReferencedTables_returns_iff :
    (∃ referenced, collectReferencedTables py statement schema = .ok referenced) ↔
      (∀ table ∈ tablesOf statement, Resolves py schema (getCteNames py statement) table) ∧
        flatNames py schema statement ≠ [] := by
  constructor
  · rintro ⟨referenced, h⟩
    have hflat := (collected_flat h).1
    unfold collectReferencedTables at h
    obtain ⟨collected, hloop, h⟩ := bind_ok_iff.mp h
    constructor
    · refine foldlM_ok_induction (fun done _ => ∀ table ∈ done,
        Resolves py schema (getCteNames py statement) table)
        (fun table htable => absurd htable List.not_mem_nil) ?_ hloop
      intro done table rest acc acc' _ hdone hpass t ht
      rcases List.mem_append.mp ht with ht | ht
      · exact hdone t ht
      · rw [List.mem_singleton.mp ht]
        exact (collectTable_returns_iff acc).mp ⟨acc', hpass⟩
    · split at h
      · exact absurd h reject_ne_ok
      · rename_i hne
        obtain rfl := pure_ok_iff.mp h
        rw [← hflat]
        simpa using hne
  · rintro ⟨hresolves, hne⟩
    obtain ⟨collected, hloop⟩ := foldlM_returns
      (fun table htable acc => (collectTable_returns_iff acc).mpr (hresolves table htable))
      ⟨[], Dict.empty⟩
    have htables : collected.tables.isEmpty = false := by
      rw [(loop_flat hloop).1]
      simpa using hne
    refine ⟨collected, bind_ok_iff.mpr ⟨collected, hloop, ?_⟩⟩
    rw [htables]
    rfl

/-! ## Columns -/

/-- The flat reading of a column among these tables. -/
def columnIn (py : Casing) (schema : AllowedSchema) (tables : List ResolvedTable)
    (column : ColumnRef) : Option (AllowedTable × AllowedColumn) :=
  let columnName := py.lower (identText column.this)
  if columnName = "" then none
  else if identText column.table = "" then
    match resolveUnqualifiedColumn columnName (namesOf tables) schema with
    | .ok entry => some entry
    | .error _ => none
  else do
    let table ← lastKnownAs py (py.lower (identText column.table)) tables
    let allowed ← table.columns.get columnName
    pure (table, allowed)

theorem flatColumn_eq (column : ColumnRef) :
    flatColumn py schema statement column =
      columnIn py schema (resolvedTables py schema statement) column := rfl

/-- The validator resolves a named column to its flat reading. -/
theorem resolveColumn_ok_iff (h : collectReferencedTables py statement schema = .ok referenced)
    {column : ColumnRef} (hname : py.lower (identText column.this) ≠ "")
    {entry : AllowedTable × AllowedColumn} :
    resolveColumn py referenced schema column = .ok entry ↔
      flatColumn py schema statement column = some entry := by
  refine ⟨resolveColumn_flat h hname, fun hflat => ?_⟩
  obtain ⟨htables, hlookup⟩ := collected_flat h
  unfold resolveColumn
  unfold flatColumn at hflat
  by_cases htable : identText column.table = ""
  · simp only [htable, hname, if_true, if_false, ← htables] at hflat ⊢
    split at hflat
    · rename_i found hfound
      rw [hfound, Option.some.inj hflat]
    · cases hflat
  · simp only [htable, hname, if_false, hlookup] at hflat ⊢
    obtain ⟨table, hget, hflat⟩ := Option.bind_eq_some_iff.mp hflat
    obtain ⟨allowed, hallowed, hflat⟩ := Option.bind_eq_some_iff.mp hflat
    rw [hget]
    dsimp only
    rw [hallowed]
    exact congrArg _ (Option.some.inj hflat)

/-- A column with these flags may be used below these classes. -/
def MayUse (above : List Kind) (allowed : AllowedColumn) : Prop :=
  allowed.can_read = true ∧
    (clauseBeforeSelect isFilterClause above = true → allowed.can_filter = true) ∧
    (clauseBeforeSelect Kind.isAggFunc above = true → allowed.can_aggregate = true)

instance (above : List Kind) (allowed : AllowedColumn) : Decidable (MayUse above allowed) :=
  inferInstanceAs (Decidable (_ ∧ _ ∧ _))

/-- A column that has a name is found among the tables and may be used. -/
def ColumnAllowed (py : Casing) (schema : AllowedSchema) (tables : List ResolvedTable)
    (above : List Kind) (column : ColumnRef) : Prop :=
  py.lower (identText column.this) ≠ "" →
    ∃ entry ∈ columnIn py schema tables column, MayUse above entry.2

instance (py : Casing) (schema : AllowedSchema) (tables : List ResolvedTable)
    (above : List Kind) (column : ColumnRef) :
    Decidable (ColumnAllowed py schema tables above column) :=
  inferInstanceAs (Decidable (_ → ∃ _ ∈ _, _))

/-- How a column is listed. -/
def listedAs (py : Casing) (schema : AllowedSchema) (tables : List ResolvedTable)
    (column : ColumnRef) : Option String :=
  (columnIn py schema tables column).map (fun entry => columnReference py entry.1 column)

/-- `statement.find_all(exp.Column)`. -/
def columnsOf (statement : Expr) : List ColumnRef := statement.walk.filterMap columnOf

theorem columnIn_unnamed {tables : List ResolvedTable} {column : ColumnRef}
    (h : py.lower (identText column.this) = "") : columnIn py schema tables column = none := by
  unfold columnIn
  rw [if_pos h]

/-- One pass of the column loop. -/
theorem collectColumn_ok_iff (h : collectReferencedTables py statement schema = .ok referenced)
    {acc acc' : List String} {occ : Occ} :
    collectColumn py referenced schema acc occ = .ok acc' ↔
      (∀ column ∈ columnOf occ, ColumnAllowed py schema (resolvedTables py schema statement)
        (parentKinds occ) column) ∧
      acc' = ((columnOf occ).bind
        (listedAs py schema (resolvedTables py schema statement))).toList.foldl appendNew acc := by
  unfold collectColumn
  cases hcolumn : columnOf occ with
  | none =>
    rw [pure_ok_iff]
    simp [eq_comm]
  | some column =>
    dsimp only
    rw [Option.bind_some]
    simp only [Option.mem_def, Option.some.injEq, forall_eq']
    by_cases hname : py.lower (identText column.this) = ""
    · unfold listedAs ColumnAllowed
      rw [if_pos hname, pure_ok_iff, columnIn_unnamed hname]
      simp [hname, eq_comm]
    · unfold ColumnAllowed
      rw [if_neg hname, bind_ok_iff]
      simp only [resolveColumn_ok_iff h hname, bind_ok_iff, pure_ok_iff, flatColumn_eq]
      constructor
      · rintro ⟨entry, hentry, ⟨⟩, haccess, rfl⟩
        refine ⟨fun _ => ⟨entry, hentry, validateColumnAccess_ok_iff.mp haccess⟩, ?_⟩
        unfold listedAs
        rw [hentry]
        rfl
      · rintro ⟨hallowed, rfl⟩
        obtain ⟨entry, hentry, haccess⟩ := hallowed hname
        refine ⟨entry, hentry, (), validateColumnAccess_ok_iff.mpr haccess, ?_⟩
        unfold listedAs
        rw [show columnIn _ _ _ _ = _ from hentry]
        rfl

/-- The columns that are listed, as often as they occur. -/
def listedColumns (py : Casing) (schema : AllowedSchema) (statement : Expr) : List String :=
  (columnsOf statement).filterMap (listedAs py schema (resolvedTables py schema statement))

/-- Every column reference may be used where it stands. -/
def ColumnsAllowed (py : Casing) (schema : AllowedSchema) (statement : Expr) : Prop :=
  ∀ occ ∈ statement.walk, ∀ column ∈ columnOf occ,
    ColumnAllowed py schema (resolvedTables py schema statement) (parentKinds occ) column

theorem isColumn_of_columnOf {occ : Occ} {column : ColumnRef} (h : columnOf occ = some column) :
    occ.node.label.kind.isColumn = true := by
  unfold columnOf at h
  split at h
  · rename_i ref href
    rw [href]
    rfl
  · cases h

theorem filterMap_findAll_isColumn :
    (findAll Kind.isColumn statement).filterMap columnOf = columnsOf statement := by
  unfold findAll columnsOf
  rw [List.filterMap_filter]
  refine List.filterMap_congr (fun occ _ => ?_)
  cases hcolumn : columnOf occ with
  | none => simp
  | some column => rw [if_pos (isColumn_of_columnOf hcolumn)]

theorem columnLoop_ok (h : collectReferencedTables py statement schema = .ok referenced)
    {columns : List String}
    (hloop : (findAll Kind.isColumn statement).foldlM (collectColumn py referenced schema) [] =
      .ok columns) :
    ColumnsAllowed py schema statement ∧
      columns = (listedColumns py schema statement).foldl appendNew [] := by
  let listed : List Occ → List String := fun occs =>
    (occs.filterMap columnOf).filterMap
      (listedAs py schema (resolvedTables py schema statement))
  have hall : (∀ occ ∈ findAll Kind.isColumn statement, ∀ column ∈ columnOf occ,
      ColumnAllowed py schema (resolvedTables py schema statement) (parentKinds occ) column) ∧
      columns = (listed (findAll Kind.isColumn statement)).foldl appendNew [] := by
    refine foldlM_ok_induction (fun done acc => (∀ occ ∈ done, ∀ column ∈ columnOf occ,
      ColumnAllowed py schema (resolvedTables py schema statement) (parentKinds occ) column) ∧
      acc = (listed done).foldl appendNew [])
      ⟨fun occ hocc => absurd hocc List.not_mem_nil, rfl⟩ ?_ hloop
    rintro done occ rest acc acc' - ⟨hdone, hacc⟩ hpass
    obtain ⟨hallowed, hacc'⟩ := (collectColumn_ok_iff h).mp hpass
    constructor
    · intro o ho
      rcases List.mem_append.mp ho with ho | ho
      · exact hdone o ho
      · rw [List.mem_singleton.mp ho]
        exact hallowed
    · have hnew : listed (done ++ [occ]) = listed done ++ ((columnOf occ).bind
          (listedAs py schema (resolvedTables py schema statement))).toList := by
        dsimp only [listed]
        rw [List.filterMap_append, List.filterMap_append]
        congr 1
        cases hcolumn : columnOf occ with
        | none => simp [hcolumn]
        | some column =>
          rw [Option.bind_some]
          cases hlisted : listedAs py schema (resolvedTables py schema statement) column <;>
            simp [hcolumn, hlisted]
      rw [hacc', hacc, hnew, List.foldl_append]
  refine ⟨fun occ hocc column hcolumn => ?_, ?_⟩
  · exact hall.1 occ (List.mem_filter.mpr ⟨hocc, isColumn_of_columnOf hcolumn⟩) column hcolumn
  · rw [hall.2]
    dsimp only [listed]
    rw [filterMap_findAll_isColumn]
    rfl

theorem rejectStarSelection_ok_iff :
    rejectStarSelection statement = .ok () ↔ AllKinds (fun k => k.isStar = false) statement := by
  unfold rejectStarSelection findAll AllKinds
  split
  · rename_i hempty
    rw [List.isEmpty_iff, List.filter_eq_nil_iff] at hempty
    refine iff_of_true rfl (fun occ hocc => ?_)
    exact Bool.eq_false_iff.mpr (hempty occ hocc)
  · rename_i hne
    refine iff_of_false reject_ne_ok (fun hall => hne ?_)
    rw [List.isEmpty_iff, List.filter_eq_nil_iff]
    intro occ hocc hstar
    rw [hall occ hocc] at hstar
    cases hstar

/-- The columns of a statement whose tables were collected. -/
theorem collectReferencedColumns_ok_iff
    (h : collectReferencedTables py statement schema = .ok referenced) {columns : List String} :
    collectReferencedColumns py statement referenced schema = .ok columns ↔
      AllKinds (fun k => k.isStar = false) statement ∧ ColumnsAllowed py schema statement ∧
        columns = (listedColumns py schema statement).foldl appendNew [] ∧ columns ≠ [] := by
  unfold collectReferencedColumns
  simp only [bind_ok_iff]
  constructor
  · rintro ⟨⟨⟩, hstar, collected, hloop, hcheck⟩
    obtain ⟨hallowed, hcollected⟩ := columnLoop_ok h hloop
    split at hcheck
    · exact absurd hcheck reject_ne_ok
    · rename_i hne
      obtain rfl := pure_ok_iff.mp hcheck
      exact ⟨rejectStarSelection_ok_iff.mp hstar, hallowed, hcollected, by simpa using hne⟩
  · rintro ⟨hstar, hallowed, hcolumns, hne⟩
    have hreturns : ∀ occ ∈ findAll Kind.isColumn statement, ∀ acc,
        ∃ acc', collectColumn py referenced schema acc occ = .ok acc' := by
      intro occ hocc acc
      exact ⟨_, (collectColumn_ok_iff h).mpr ⟨hallowed occ (List.mem_filter.mp hocc).1, rfl⟩⟩
    obtain ⟨collected, hloop⟩ := foldlM_returns hreturns []
    have hcollected : collected = columns := by
      rw [(columnLoop_ok h hloop).2, hcolumns]
    refine ⟨(), rejectStarSelection_ok_iff.mpr hstar, collected, hloop, ?_⟩
    rw [hcollected, if_neg (by simpa using hne)]
    rfl

theorem mem_listed {columns : List String} {reference : String} :
    reference ∈ columns.foldl appendNew [] ↔ reference ∈ columns := by
  rw [mem_foldl_appendNew]
  exact or_iff_right List.not_mem_nil

/-! ## Statements -/

/-- What the validator asks of a statement. -/
structure Valid (py : Casing) (schema : AllowedSchema) (maximumRows : Int)
    (statement : Expr) : Prop where
  readOnly : validateReadOnlyStatement py statement = .ok ()
  tables : ∀ table ∈ tablesOf statement, Resolves py schema (getCteNames py statement) table
  someTable : flatNames py schema statement ≠ []
  star : AllKinds (fun k => k.isStar = false) statement
  columns : ColumnsAllowed py schema statement
  someColumn : listedColumns py schema statement ≠ []
  rows : 1 ≤ maximumRows

theorem listed_ne_nil_iff {columns : List String} :
    columns.foldl appendNew [] ≠ [] ↔ columns ≠ [] := by
  simp only [ne_eq, List.eq_nil_iff_forall_not_mem, mem_listed]

theorem applyRowLimit_returns (statement : Expr) (h : 1 ≤ maximumRows) :
    ∃ limit limited, applyRowLimit statement maximumRows = .ok (limit, limited) := by
  unfold applyRowLimit
  rw [if_neg (by omega)]
  split
  · split
    · exact ⟨_, _, rfl⟩
    · exact ⟨_, _, rfl⟩
  · exact ⟨_, _, rfl⟩

theorem rejectSqlComments_ok_iff {text : String} :
    rejectSqlComments text = .ok () ↔
      ∀ marker ∈ commentMarkers, contains marker text = false := by
  unfold rejectSqlComments
  split
  · rename_i hany
    refine iff_of_false reject_ne_ok (fun hall => ?_)
    obtain ⟨marker, hmarker, hcontains⟩ := List.any_eq_true.mp hany
    rw [hall marker hmarker] at hcontains
    cases hcontains
  · rename_i hnone
    refine iff_of_true rfl (fun marker hmarker => ?_)
    by_contra hcontains
    exact hnone (List.any_eq_true.mpr ⟨marker, hmarker, by simpa using hcontains⟩)

/-- The text of a statement that parses back. -/
theorem parseSingleStatement_ok_iff {glot : Sqlglot} {text : String}
    (hparse : glot.parse text = .ok [some statement]) (hblank : isBlank text = false)
    {parsed : Expr} :
    parseSingleStatement glot text = .ok parsed ↔
      (∀ marker ∈ commentMarkers, contains marker text = false) ∧ parsed = statement := by
  unfold parseSingleStatement
  rw [hblank, hparse, ← rejectSqlComments_ok_iff]
  constructor
  · intro h
    obtain ⟨⟨⟩, hcomments, h⟩ := bind_ok_iff.mp h
    exact ⟨hcomments, (pure_ok_iff.mp h).symm⟩
  · rintro ⟨hcomments, rfl⟩
    exact bind_ok_iff.mpr ⟨(), hcomments, rfl⟩

/-- What an accepted statement is, and what the result says about it. -/
theorem accepts_iff (hparsed : parseSingleStatement glot sql = .ok statement)
    {result : SQLValidationResult} :
    Accepts py glot schema maximumRows sql statement result ↔
      Valid py schema maximumRows statement ∧ ∃ limit limited,
        applyRowLimit statement maximumRows = .ok (limit, limited) ∧
        result = ⟨true, some (glot.sql limited), [], flatNames py schema statement,
          (listedColumns py schema statement).foldl appendNew [], some limit⟩ := by
  constructor
  · intro h
    obtain ⟨referenced, limit, limited, hrun⟩ := h.run
    obtain ⟨htables, hsome⟩ := collectReferencedTables_returns_iff.mp ⟨referenced, hrun.tables⟩
    obtain ⟨hstar, hcolumns, hlisted, hne⟩ :=
      (collectReferencedColumns_ok_iff hrun.tables).mp hrun.columns
    rw [hlisted] at hne
    refine ⟨⟨hrun.readOnly, htables, hsome, hstar, hcolumns, listed_ne_nil_iff.mp hne,
      (applyRowLimit_ok hrun.rowLimit).1⟩, limit, limited, hrun.rowLimit, ?_⟩
    rw [hrun.output, hlisted, (collected_flat hrun.tables).1]
  · rintro ⟨hvalid, limit, limited, hlimit, rfl⟩
    obtain ⟨referenced, htables⟩ :=
      collectReferencedTables_returns_iff.mpr ⟨hvalid.tables, hvalid.someTable⟩
    have hcolumns := (collectReferencedColumns_ok_iff htables).mpr
      ⟨hvalid.star, hvalid.columns, rfl, listed_ne_nil_iff.mpr hvalid.someColumn⟩
    refine ⟨hparsed, ?_, rfl⟩
    have hrun : validateStatement py glot schema maximumRows sql =
        .ok (⟨true, some (glot.sql limited), [], flatNames py schema statement,
          (listedColumns py schema statement).foldl appendNew [], some limit⟩, limited) := by
      unfold validateStatement
      rw [← (collected_flat htables).1]
      refine bind_ok_iff.mpr ⟨statement, hparsed, bind_ok_iff.mpr ⟨(), hvalid.readOnly,
        bind_ok_iff.mpr ⟨referenced, htables, bind_ok_iff.mpr ⟨_, hcolumns,
          bind_ok_iff.mpr ⟨(limit, limited), hlimit, rfl⟩⟩⟩⟩⟩
    unfold validateSql
    rw [hrun]

end DataChat.Validator
