import DataChat.Effective.RowOrder
import DataChat.Security.Agreement

/-!
# Can a granted column be selected?

The permission-filtered schema has the names of the source catalogue as they are, and the validator
looks names up after it has put them in lower case, quoted or not. So a statement that writes the
names of a granted column between quotation marks finds another entry, or none, when they are not
in lower case.

* `filteredSchema_names`: under which key an entry stands, and which columns it has.
* `selectable_iff`: exactly when a granted column can be selected by its name.
-/

namespace DataChat.Security

open Sql Validator Outcome

/-! ## The statement -/

/-- A name between quotation marks. -/
def quoteIdentifier (name : String) : String :=
  String.ofList ('"' :: (doubled '"' name.toList ++ ['"']))

def quoted (name : String) : Ident := ⟨name, true⟩

/-- `SELECT "column" FROM "schema"."table"`. -/
def selectColumnSql (schemaName tableName columnName : String) : String :=
  "SELECT " ++ quoteIdentifier columnName ++ " FROM " ++ quoteIdentifier schemaName ++ "." ++
    quoteIdentifier tableName

def selectColumn (schemaName tableName columnName : String) : Expr :=
  selectExpr [leaf (.column ⟨some (quoted columnName), none, none⟩)]
    (leaf (.table ⟨some (quoted tableName), some (quoted schemaName), none⟩)) []

/-- The statement is accepted, and the result names this table and this column and nothing else. -/
def Selectable (py : Casing) (glot : Sqlglot) (schema : AllowedSchema) (maximumRows : Int)
    (allowedTable : AllowedTable) (columnName : String) : Prop :=
  ∃ result,
    validateSql py glot schema maximumRows
        (selectColumnSql allowedTable.schema_name allowedTable.table_name columnName) =
      .ok result ∧
    result.is_valid = true ∧
    result.referenced_tables = [allowedTable.schema_name ++ "." ++ allowedTable.table_name] ∧
    result.referenced_columns =
      [allowedTable.schema_name ++ "." ++ allowedTable.table_name ++ "." ++ columnName]

/-- The names are as the validator looks them up, and may stand in a statement. -/
structure FoundByName (py : Casing) (schemaName tableName columnName : String) : Prop where
  text : ∀ marker ∈ commentMarkers, ∀ name ∈ [schemaName, tableName, columnName],
    contains marker name = false
  notSystem : py.lower schemaName ∉ systemSchemas
  table : py.lower schemaName ++ "." ++ py.lower tableName = schemaName ++ "." ++ tableName
  column : py.lower columnName = columnName

variable {py : Casing} {glot : Sqlglot} {schema : AllowedSchema} {maximumRows : Int}
  {schemaName tableName columnName : String}

/-! ## The text -/

theorem toList_selectColumnSql :
    (selectColumnSql schemaName tableName columnName).toList =
      "SELECT ".toList ++ '"' :: (doubled '"' columnName.toList ++ '"' :: (" FROM ".toList ++
        '"' :: (doubled '"' schemaName.toList ++ '"' :: (['.'] ++
          '"' :: (doubled '"' tableName.toList ++ '"' :: []))))) := by
  simp only [selectColumnSql, quoteIdentifier, String.toList_append, String.toList_ofList,
    List.append_assoc, List.cons_append, List.nil_append]
  rfl

theorem contains_marker_iff {marker : String} (hmarker : marker ∈ commentMarkers) :
    contains marker (selectColumnSql schemaName tableName columnName) = true ↔
      ∃ name ∈ [schemaName, tableName, columnName], contains marker name = true := by
  have hpair : ∃ a b, marker.toList = [a, b] ∧ '"' ≠ a ∧ '"' ≠ b ∧ ¬ [a, b] <:+: "SELECT ".toList ∧
      ¬ [a, b] <:+: " FROM ".toList ∧ ¬ [a, b] <:+: ['.'] := by
    simp only [commentMarkers, List.mem_cons, List.not_mem_nil, or_false] at hmarker
    rcases hmarker with rfl | rfl | rfl
    · exact ⟨'-', '-', rfl, by decide, by decide, by decide, by decide, by decide⟩
    · exact ⟨'/', '*', rfl, by decide, by decide, by decide, by decide, by decide⟩
    · exact ⟨'*', '/', rfl, by decide, by decide, by decide, by decide, by decide⟩
  obtain ⟨a, b, htext, ha, hb, hselect, hfrom, hdot⟩ := hpair
  have hnil : ¬ [a, b] <:+: ([] : List Char) := by simp
  simp only [contains, decide_eq_true_eq, htext, toList_selectColumnSql,
    infix_pair_append ha hb, infix_pair_doubled ha hb, hselect, hfrom, hdot, hnil, false_or,
    or_false, List.mem_cons, List.not_mem_nil, exists_eq_or_imp, exists_eq_left]
  tauto

theorem not_isBlank_selectColumnSql :
    isBlank (selectColumnSql schemaName tableName columnName) = false := by
  unfold isBlank
  rw [toList_selectColumnSql]
  rfl

/-! ## What the validator finds -/

/-- The reference to the table. -/
def quotedTable (schemaName tableName : String) : TableRef :=
  ⟨some (quoted tableName), some (quoted schemaName), none⟩

theorem allowedEntry_quoted (hschema : schemaName ≠ "") :
    allowedEntry py schema (quotedTable schemaName tableName) =
      if py.lower schemaName ∈ systemSchemas then none
      else (schema.tables.get (py.lower schemaName ++ "." ++ py.lower tableName)).map
        (fun allowedTable =>
          (py.lower schemaName ++ "." ++ py.lower tableName, allowedTable)) := by
  have hname : Validator.schemaName py (quotedTable schemaName tableName) =
      some (py.lower schemaName) := if_neg hschema
  unfold allowedEntry resolveAllowedTable
  rw [hname]
  simp only [List.not_mem_nil, if_false]
  by_cases hsystem : py.lower schemaName ∈ systemSchemas
  · rw [if_pos hsystem, if_pos hsystem]
    rfl
  · have htable : (quotedTable schemaName tableName).name = tableName := rfl
    rw [if_neg hsystem, if_neg hsystem, htable]
    cases schema.tables.get (py.lower schemaName ++ "." ++ py.lower tableName) with
    | none => rfl
    | some allowedTable => rfl

theorem allKinds_selectColumn {P : Kind → Prop} :
    AllKinds P (selectColumn schemaName tableName columnName) ↔
      P .select ∧ P (.column ⟨some (quoted columnName), none, none⟩) ∧ P .from_ ∧
        P (.table (quotedTable schemaName tableName)) := by
  simp [selectColumn, selectExpr, build, leaf, allKinds_node, withArgKey, quotedTable]

theorem readOnly_selectColumn :
    validateReadOnlyStatement py (selectColumn schemaName tableName columnName) = .ok () := by
  have hkeys : ∀ key ∈ ["select", "column", "from", "table"],
      IsAscii key ∧ asciiLower key = key ∧ key ∉ blockedExpressionKeys := by decide +kernel
  have hallowed : ∀ key ∈ ["select", "column", "from", "table"],
      py.lower key ∉ blockedExpressionKeys := by
    intro key hkey
    obtain ⟨hascii, hlower, hnot⟩ := hkeys key hkey
    rwa [py.lower_eq_self hascii hlower]
  have hall : AllKinds (fun k => py.lower k.key ∉ blockedExpressionKeys)
      (selectColumn schemaName tableName columnName) := by
    refine (allKinds_selectColumn (P := fun k => py.lower k.key ∉ blockedExpressionKeys)).mpr ?_
    exact ⟨hallowed "select" (by decide), hallowed "column" (by decide),
      hallowed "from" (by decide), hallowed "table" (by decide)⟩
  exact readOnly_ok_iff.mpr ⟨rfl, hall, List.cons_ne_nil _ _⟩

theorem tablesOf_selectColumn :
    tablesOf (selectColumn schemaName tableName columnName) =
      [quotedTable schemaName tableName] := rfl

theorem resolvedTables_selectColumn :
    resolvedTables py schema (selectColumn schemaName tableName columnName) =
      ((allowedEntry py schema (quotedTable schemaName tableName)).map (fun entry =>
        ⟨quotedTable schemaName tableName, entry.1, entry.2⟩)).toList := by
  show [quotedTable schemaName tableName].filterMap (resolvedTable py schema []) = _
  unfold resolvedTable
  cases hentry : allowedEntry py schema (quotedTable schemaName tableName) with
  | none => simp [hentry]
  | some entry => simp [hentry]

/-- Among the columns of one table. -/
theorem columnIn_single {r : ResolvedTable} (hkey : schema.tables.get r.name = some r.allowed) :
    columnIn py schema [r] ⟨some (quoted columnName), none, none⟩ =
      if py.lower columnName = "" then none
      else (r.allowed.columns.get (py.lower columnName)).map (fun column =>
        (r.allowed, column)) := by
  have hnames : namesOf [r] = [r.name] := rfl
  have hfound : ([r.name].filterMap (fun name => do
      let allowedTable ← schema.tables.get name
      let allowedColumn ← allowedTable.columns.get (py.lower columnName)
      pure (allowedTable, allowedColumn))) =
        ((r.allowed.columns.get (py.lower columnName)).map (fun column =>
          (r.allowed, column))).toList := by
    rw [List.filterMap_cons, hkey]
    cases hcolumn : r.allowed.columns.get (py.lower columnName) with
    | none => simp [hcolumn]
    | some column => simp [hcolumn]
  have hname : identText (some (quoted columnName)) = columnName := rfl
  unfold columnIn resolveUnqualifiedColumn
  rw [hnames, hname]
  dsimp only
  rw [hfound]
  by_cases hempty : py.lower columnName = ""
  · rw [if_pos hempty, if_pos hempty]
  · rw [if_neg hempty, if_neg hempty]
    cases hcolumn : r.allowed.columns.get (py.lower columnName) with
    | none => rfl
    | some column => rfl

/-! ## The permission-filtered schema -/

open Effective Platform in
/-- An entry stands under its qualified name, and its columns are readable. -/
theorem filteredSchema_names {connectionId : Uuid} {permissionRows : List PermissionRow}
    {columnRows : List Effective.ColumnRow} {key : String} {allowedTable : AllowedTable}
    (hentry : (filteredSchema connectionId permissionRows columnRows).tables.get key =
      some allowedTable) :
    key = allowedTable.schema_name ++ "." ++ allowedTable.table_name ∧
      ∀ name column, allowedTable.columns.get name = some column → column.can_read = true := by
  obtain ⟨hmerged, -⟩ := filteredSchema_some hentry
  constructor
  · obtain ⟨row, hrow, hidentity⟩ := Option.map_eq_some_iff.mp hmerged.identity
    obtain ⟨-, hnames⟩ := Prod.mk.inj hidentity
    obtain ⟨hschema, htable⟩ := Prod.mk.inj hnames
    have hkey := of_decide_eq_true (List.mem_filter.mp (List.mem_of_mem_head? hrow)).2
    rw [← hkey, qualifiedName, hschema, htable]
  · intro name column hcolumn
    rw [hmerged.columns name] at hcolumn
    unfold mergedColumn at hcolumn
    split at hcolumn
    · cases hcolumn
    · rw [← Option.some.inj hcolumn]

/-! ## When the column can be selected -/

/-- The table that the statement is taken to read. -/
theorem flatNames_selectColumn_iff {key : String} (hschema : schemaName ≠ "")
    (hkey : (schema.tables.get key).isSome = true) :
    flatNames py schema (selectColumn schemaName tableName columnName) = [key] ↔
      py.lower schemaName ∉ systemSchemas ∧
        py.lower schemaName ++ "." ++ py.lower tableName = key := by
  unfold flatNames
  rw [resolvedTables_selectColumn, allowedEntry_quoted hschema]
  by_cases hsystem : py.lower schemaName ∈ systemSchemas
  · simp [hsystem]
  · rw [if_neg hsystem]
    cases hget : schema.tables.get (py.lower schemaName ++ "." ++ py.lower tableName) with
    | none =>
      refine iff_of_false (fun h => ?_) (fun h => ?_)
      · cases h
      · rw [h.2] at hget
        rw [hget] at hkey
        cases hkey
    | some allowedTable => simp [hsystem, appendNew]

theorem columnOf_selectColumn {occ : Occ}
    (hocc : occ ∈ (selectColumn schemaName tableName columnName).walk) {column : ColumnRef}
    (hcolumn : columnOf occ = some column) :
    column = ⟨some (quoted columnName), none, none⟩ ∧ parentKinds occ = [.select] := by
  have hwalk : (selectColumn schemaName tableName columnName).walk.map (fun occ =>
      (columnOf occ, parentKinds occ)) =
        [(none, []), (some ⟨some (quoted columnName), none, none⟩, [.select]), (none, [.select]),
          (none, [.from_, .select])] := rfl
  have hmem := List.mem_map_of_mem (f := fun occ => (columnOf occ, parentKinds occ)) hocc
  rw [hwalk, hcolumn] at hmem
  simp only [List.mem_cons, Prod.mk.injEq, reduceCtorEq, false_and, false_or, or_false,
    List.not_mem_nil, Option.some.injEq] at hmem
  exact hmem

section

variable {allowedTable : AllowedTable} {allowedColumn : AllowedColumn}
  (hentry : schema.tables.get (allowedTable.schema_name ++ "." ++ allowedTable.table_name) =
    some allowedTable) (hschema : allowedTable.schema_name ≠ "")

include hentry hschema

theorem resolvedTables_found (hsystem : py.lower allowedTable.schema_name ∉ systemSchemas)
    (htable : py.lower allowedTable.schema_name ++ "." ++ py.lower allowedTable.table_name =
      allowedTable.schema_name ++ "." ++ allowedTable.table_name) :
    resolvedTables py schema
        (selectColumn allowedTable.schema_name allowedTable.table_name columnName) =
      [⟨quotedTable allowedTable.schema_name allowedTable.table_name,
        allowedTable.schema_name ++ "." ++ allowedTable.table_name, allowedTable⟩] := by
  rw [resolvedTables_selectColumn, allowedEntry_quoted hschema, if_neg hsystem, htable, hentry]
  rfl

/-- How the column is listed. -/
theorem listedColumns_found (hsystem : py.lower allowedTable.schema_name ∉ systemSchemas)
    (htable : py.lower allowedTable.schema_name ++ "." ++ py.lower allowedTable.table_name =
      allowedTable.schema_name ++ "." ++ allowedTable.table_name) :
    listedColumns py schema
        (selectColumn allowedTable.schema_name allowedTable.table_name columnName) =
      if py.lower columnName = "" then []
      else ((allowedTable.columns.get (py.lower columnName)).map (fun _ =>
        allowedTable.schema_name ++ "." ++ allowedTable.table_name ++ "." ++
          py.lower columnName)).toList := by
  unfold listedColumns
  rw [resolvedTables_found hentry hschema hsystem htable]
  show [(⟨some (quoted columnName), none, none⟩ : ColumnRef)].filterMap _ = _
  unfold listedAs
  rw [List.filterMap_cons, columnIn_single hentry]
  by_cases hempty : py.lower columnName = ""
  · rw [if_pos hempty, if_pos hempty]
    rfl
  · rw [if_neg hempty, if_neg hempty]
    cases allowedTable.columns.get (py.lower columnName) with
    | none => rfl
    | some column => rfl

theorem valid_of_found (hrows : 1 ≤ maximumRows)
    (hcolumn : allowedTable.columns.get columnName = some allowedColumn)
    (hread : allowedColumn.can_read = true) (hname : columnName ≠ "")
    (hfound : FoundByName py allowedTable.schema_name allowedTable.table_name columnName) :
    Valid py schema maximumRows
        (selectColumn allowedTable.schema_name allowedTable.table_name columnName) ∧
      flatNames py schema
          (selectColumn allowedTable.schema_name allowedTable.table_name columnName) =
        [allowedTable.schema_name ++ "." ++ allowedTable.table_name] ∧
      listedColumns py schema
          (selectColumn allowedTable.schema_name allowedTable.table_name columnName) =
        [allowedTable.schema_name ++ "." ++ allowedTable.table_name ++ "." ++ columnName] := by
  have hflat : flatNames py schema
      (selectColumn allowedTable.schema_name allowedTable.table_name columnName) =
        [allowedTable.schema_name ++ "." ++ allowedTable.table_name] :=
    (flatNames_selectColumn_iff hschema (Option.isSome_of_eq_some hentry)).mpr
      ⟨hfound.notSystem, hfound.table⟩
  have hlisted : listedColumns py schema
      (selectColumn allowedTable.schema_name allowedTable.table_name columnName) =
        [allowedTable.schema_name ++ "." ++ allowedTable.table_name ++ "." ++ columnName] := by
    rw [listedColumns_found hentry hschema hfound.notSystem hfound.table, hfound.column,
      if_neg hname, hcolumn]
    rfl
  refine ⟨⟨readOnly_selectColumn, ?_, by rw [hflat]; exact List.cons_ne_nil _ _, ?_, ?_,
    by rw [hlisted]; exact List.cons_ne_nil _ _, hrows⟩, hflat, hlisted⟩
  · intro table htable
    rw [tablesOf_selectColumn, List.mem_singleton] at htable
    refine .inr ?_
    rw [htable, allowedEntry_quoted hschema, if_neg hfound.notSystem, hfound.table, hentry]
    rfl
  · exact (allKinds_selectColumn (P := fun k => k.isStar = false)).mpr ⟨rfl, rfl, rfl, rfl⟩
  · intro occ hocc column hcolumnOf _
    obtain ⟨rfl, habove⟩ := columnOf_selectColumn hocc hcolumnOf
    rw [resolvedTables_found hentry hschema hfound.notSystem hfound.table,
      columnIn_single hentry, hfound.column, if_neg hname, hcolumn, habove]
    refine ⟨_, rfl, hread, ?_, ?_⟩
    · intro h
      cases h
    · intro h
      cases h

end

/-- A granted column can be selected by its name exactly when the validator finds it by that
name. -/
theorem selectable_iff_of_entry {allowedTable : AllowedTable} {allowedColumn : AllowedColumn}
    (hrows : 1 ≤ maximumRows)
    (hentry : schema.tables.get (allowedTable.schema_name ++ "." ++ allowedTable.table_name) =
      some allowedTable)
    (hcolumn : allowedTable.columns.get columnName = some allowedColumn)
    (hread : allowedColumn.can_read = true) (hschema : allowedTable.schema_name ≠ "")
    (hname : columnName ≠ "")
    (hparse : glot.parse
        (selectColumnSql allowedTable.schema_name allowedTable.table_name columnName) =
      .ok [some (selectColumn allowedTable.schema_name allowedTable.table_name columnName)]) :
    Selectable py glot schema maximumRows allowedTable columnName ↔
      FoundByName py allowedTable.schema_name allowedTable.table_name columnName := by
  have hmarkers : (∀ marker ∈ commentMarkers, contains marker
        (selectColumnSql allowedTable.schema_name allowedTable.table_name columnName) = false) ↔
      ∀ marker ∈ commentMarkers,
        ∀ name ∈ [allowedTable.schema_name, allowedTable.table_name, columnName],
          contains marker name = false := by
    refine forall₂_congr (fun marker hmarker => ?_)
    rw [← Bool.not_eq_true, contains_marker_iff hmarker]
    push Not
    simp only [Bool.not_eq_true]
  constructor
  · rintro ⟨result, hvalidated, hvalid, htables, hcolumns⟩
    obtain ⟨statement, haccepts⟩ := accepts_of_valid hvalidated hvalid
    obtain ⟨hmarkerFree, rfl⟩ :=
      (parseSingleStatement_ok_iff hparse not_isBlank_selectColumnSql).mp haccepts.parsed
    obtain ⟨-, limit, limited, -, rfl⟩ := (accepts_iff haccepts.parsed).mp haccepts
    dsimp only at htables hcolumns
    obtain ⟨hsystem, htable⟩ :=
      (flatNames_selectColumn_iff hschema (Option.isSome_of_eq_some hentry)).mp htables
    refine ⟨hmarkers.mp hmarkerFree, hsystem, htable, ?_⟩
    rw [listedColumns_found hentry hschema hsystem htable] at hcolumns
    by_cases hempty : py.lower columnName = ""
    · rw [if_pos hempty] at hcolumns
      cases hcolumns
    · rw [if_neg hempty] at hcolumns
      cases hget : allowedTable.columns.get (py.lower columnName) with
      | none =>
        rw [hget] at hcolumns
        cases hcolumns
      | some column =>
        rw [hget] at hcolumns
        exact (String.append_right_inj _).mp (List.cons.inj hcolumns).1
  · intro hfound
    obtain ⟨hvalid, hflat, hlisted⟩ :=
      valid_of_found hentry hschema hrows hcolumn hread hname hfound
    have hparsed := (parseSingleStatement_ok_iff hparse not_isBlank_selectColumnSql).mpr
      ⟨hmarkers.mpr hfound.text, rfl⟩
    obtain ⟨limit, limited, hlimit⟩ := applyRowLimit_returns
      (selectColumn allowedTable.schema_name allowedTable.table_name columnName) hrows
    have haccepts := (accepts_iff hparsed).mpr ⟨hvalid, limit, limited, hlimit, rfl⟩
    refine ⟨_, haccepts.validated, rfl, ?_, ?_⟩
    · dsimp only
      exact hflat
    · dsimp only
      rw [hlisted]
      rfl

/-! ## Granted columns -/

section

open Effective Platform

/-- A column of the permission-filtered schema can be selected by its name exactly when the
validator finds it by that name. Names of the source catalogue are not empty. -/
theorem selectable_iff {store : Store} {user : User} {connectionId : Uuid}
    {permissionRows : List PermissionRow} {columnRows : List Effective.ColumnRow}
    {allowed : AllowedSchema} {key : String} {allowedTable : AllowedTable}
    (hbuild : buildPermissionFilteredSchema store user connectionId permissionRows columnRows =
      .ok allowed)
    (hentry : allowed.tables.get key = some allowedTable)
    (hcolumn : (allowedTable.columns.get columnName).isSome = true)
    (hschema : allowedTable.schema_name ≠ "") (hname : columnName ≠ "")
    (hparse : glot.parse
        (selectColumnSql allowedTable.schema_name allowedTable.table_name columnName) =
      .ok [some (selectColumn allowedTable.schema_name allowedTable.table_name columnName)])
    (hrows : 1 ≤ maximumRows) :
    Selectable py glot allowed maximumRows allowedTable columnName ↔
      FoundByName py allowedTable.schema_name allowedTable.table_name columnName := by
  obtain ⟨-, rfl⟩ := build_ok_iff.mp hbuild
  obtain ⟨rfl, hread⟩ := filteredSchema_names hentry
  obtain ⟨allowedColumn, hcolumn⟩ := Option.isSome_iff_exists.mp hcolumn
  exact selectable_iff_of_entry hrows hentry hcolumn (hread _ _ hcolumn) hschema hname hparse

/-- The rows that the database returns for the member of a store with one grant. -/
def memberRows (store : Store) : List PermissionRow :=
  effectiveTablePermissions store shopMember "connection"

def memberColumns (store : Store) : List Effective.ColumnRow :=
  effectiveColumnPermissions store "tenant"
    ((readable (memberRows store)).map (fun row => row.permission.id))

/-- The schema that the member gets. -/
def memberSchema (store : Store) : AllowedSchema :=
  filteredSchema "connection" (memberRows store) (memberColumns store)

theorem orderedBy_of_length {ρ K : Type} [LinearOrder K] {key : ρ → K} {rows : List ρ}
    (h : rows.length = 1) : OrderedBy key rows rows := by
  obtain ⟨row, rfl⟩ := List.length_eq_one_iff.mp h
  exact ⟨List.Perm.refl _, List.pairwise_singleton _ _⟩

/-- It is the only one that he can get. -/
theorem memberSchema_built {store : Store}
    (h : (getDatabaseConnection store shopMember "connection").isOk = true ∧
      (memberRows store).length = 1 ∧ (memberColumns store).length = 1) :
    Returned codePoints store shopMember "connection" (memberRows store) (memberColumns store) ∧
      buildPermissionFilteredSchema store shopMember "connection" (memberRows store)
        (memberColumns store) = .ok (memberSchema store) := by
  obtain ⟨hconnection, hrows, hcolumns⟩ := h
  refine ⟨⟨orderedBy_of_length hrows, orderedBy_of_length hcolumns⟩, ?_⟩
  exact build_ok_iff.mpr ⟨shop_connection store hconnection, rfl⟩

def quotedSqlglot (schemaName tableName columnName : String) : Sqlglot :=
  knownTexts [(selectColumnSql schemaName tableName columnName,
      selectColumn schemaName tableName columnName),
    (selectColumnSql schemaName tableName columnName ++ " LIMIT 100",
      setArg (selectColumn schemaName tableName columnName) .limit (limitExpr 100))]

theorem email_selectable :
    ∃ allowedTable, (memberSchema shopGranted).tables.get "public.users" = some allowedTable ∧
      Selectable asciiCasing (quotedSqlglot "public" "users" "email") (memberSchema shopGranted)
        100 allowedTable "email" := by
  have hnames : ((memberSchema shopGranted).tables.get "public.users").map (fun t =>
      (t.schema_name, t.table_name, (t.columns.get "email").isSome)) =
        some ("public", "users", true) := by
    decide +kernel
  obtain ⟨allowedTable, hentry, hnames⟩ := Option.map_eq_some_iff.mp hnames
  obtain ⟨hschema, hnames⟩ := Prod.mk.inj hnames
  obtain ⟨htable, hcolumn⟩ := Prod.mk.inj hnames
  obtain ⟨-, hbuild⟩ := @memberSchema_built shopGranted (by decide +kernel)
  refine ⟨allowedTable, hentry, (selectable_iff hbuild hentry hcolumn ?_ (by decide) ?_
    (by decide)).mpr ?_⟩
  · rw [hschema]
    decide
  · rw [hschema, htable]
    decide +kernel
  · rw [hschema, htable]
    exact ⟨by decide +kernel, by decide +kernel, by decide +kernel, by decide +kernel⟩

/-! ## Names that are not in lower case -/

def capitalDiscovery : SchemaDiscoveryResult where
  schemas := [⟨"public", [⟨"public", "Orders", "table", none, [],
    [{ column_name := "Total", data_type := "numeric", ordinal_position := 1,
       is_nullable := true }]⟩]⟩]
  schema_count := 1
  table_count := 1
  column_count := 1

def capitalCached : Store :=
  (synchronizeDatabaseSchema shopUuid 0 shopAccounts shopAdmin "connection"
    (.ok capitalDiscovery)).1

def capitalGranted : Store :=
  createdStore (createPermission shopUuid capitalCached shopAdmin memberGrant)

theorem capitalGranted_reachable : Reachable shopUuid capitalGranted := by
  have haccounts : Platform.Step shopUuid Store.empty shopAccounts :=
    Platform.Step.accounts _ _ _ _ (storeOf_ok (by decide +kernel))
  obtain ⟨response, hcreated⟩ := createdStore_ok
    (createPermission shopUuid capitalCached shopAdmin memberGrant) (by decide +kernel)
  exact ((Reachable.empty.step haccounts).step (Step.synchronize _ _ _ _)).step
    (Step.createPermission _ _ _ hcreated)

/-- The granted column `Total` of `Orders` cannot be selected. -/
theorem capital_not_selectable :
    Reachable shopUuid capitalGranted ∧
      (Returned codePoints capitalGranted shopMember "connection" (memberRows capitalGranted)
          (memberColumns capitalGranted) ∧
        buildPermissionFilteredSchema capitalGranted shopMember "connection"
          (memberRows capitalGranted) (memberColumns capitalGranted) =
            .ok (memberSchema capitalGranted)) ∧
      ((memberSchema capitalGranted).tables.get "public.Orders").map (fun t =>
        (t.schema_name, t.table_name, (t.columns.get "Total").isSome)) =
          some ("public", "Orders", true) ∧
      validateSql asciiCasing (quotedSqlglot "public" "Orders" "Total")
          (memberSchema capitalGranted) 100 (selectColumnSql "public" "Orders" "Total") =
        .ok ⟨false, none, ["Table 'public.orders' is not allowed."], [], [], none⟩ ∧
      ∀ allowedTable, (memberSchema capitalGranted).tables.get "public.Orders" =
          some allowedTable →
        ¬ Selectable asciiCasing (quotedSqlglot "public" "Orders" "Total")
          (memberSchema capitalGranted) 100 allowedTable "Total" := by
  have hnames : ((memberSchema capitalGranted).tables.get "public.Orders").map (fun t =>
      (t.schema_name, t.table_name, (t.columns.get "Total").isSome)) =
        some ("public", "Orders", true) := by
    decide +kernel
  have hrejected : validateSql asciiCasing (quotedSqlglot "public" "Orders" "Total")
      (memberSchema capitalGranted) 100 (selectColumnSql "public" "Orders" "Total") =
        .ok ⟨false, none, ["Table 'public.orders' is not allowed."], [], [], none⟩ := by
    decide +kernel
  refine ⟨capitalGranted_reachable, memberSchema_built (by decide +kernel), hnames, hrejected, ?_⟩
  intro allowedTable hentry
  rw [hentry, Option.map_some, Option.some.injEq] at hnames
  obtain ⟨hschema, hnames⟩ := Prod.mk.inj hnames
  rintro ⟨result, hvalidated, hvalid, -⟩
  rw [hschema, (Prod.mk.inj hnames).1, hrejected] at hvalidated
  rw [← Except.ok.inj hvalidated] at hvalid
  cases hvalid

end

end DataChat.Security
