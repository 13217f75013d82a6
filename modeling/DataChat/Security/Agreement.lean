import DataChat.RowFilter.Rules
import DataChat.Security.Stages
import DataChat.Validator.Completeness
import DataChat.Validator.ReadOnly
import DataChat.Validator.RowLimit

/-!
# Do the two validations agree?

A statement that the first validation has accepted gets its row filters and is validated once more.
The second validation takes the added conditions for conditions of the user: it asks for the flags
of their columns, looks the columns up by name among the tables as it visits them now, and searches
the text for comment markers.

* `StillValid`: what the schema, the filters and the statement have to be for this to succeed.
* `stagesAgree_iff`: the second validation accepts, with the same tables and the same limit and at
  least the same columns, exactly when they are.
* `own_filter_rejected`: a query that is refused because of the filter that was added to it.
-/

namespace DataChat.Security

open Sql Validator RowFilter Outcome

variable {env : Env} {maximumRows : Int} {sql : String} {statement secured : Expr}
  {first : SQLValidationResult}

/-! ## The second validation -/

/-- The second validation accepts, with the same tables and the same limit and at least the same
columns as the first one. -/
def StagesAgree (env : Env) (maximumRows : Int) (first : SQLValidationResult)
    (securedSql : String) : Prop :=
  ∃ final, validateSql env.py env.glot env.schema maximumRows securedSql = .ok final ∧
    final.is_valid = true ∧ final.referenced_tables.Perm first.referenced_tables ∧
    final.applied_limit = first.applied_limit ∧
    first.referenced_columns ⊆ final.referenced_columns

/-- The identifiers and literals of a class. -/
def kindTexts : Kind → List String
  | .column ref => [identText ref.this, identText ref.table]
  | .literal text _ => [text]
  | _ => []

/-- The marker stands in no text of this class. -/
def MarkerFree (marker : String) (k : Kind) : Prop :=
  ∀ text ∈ kindTexts k, contains marker text = false

/-- The statement with the conditions of its filters. -/
def securedStatement (env : Env) (limited : Expr) : Expr := withConjuncts (addedTo env) limited

/-- What the pipeline takes from sqlglot: a printed statement parses back, a select has one `WHERE`
at most, and the comment markers in the text of a secured statement are those of the statement
and those in the names and literals of the added conditions. -/
structure PrintsBack (env : Env) (limited : Expr) : Prop where
  reparsed : parseOne env.glot (env.glot.sql limited) = .ok limited
  parsed : env.glot.parse (env.glot.sql (securedStatement env limited)) =
    .ok [some (securedStatement env limited)]
  notBlank : isBlank (env.glot.sql (securedStatement env limited)) = false
  where_ : ∀ occ ∈ limited.walk, occ.node.label.kind.isSelect = true → SingleWhere occ.node
  markers : ∀ marker ∈ commentMarkers,
    contains marker (env.glot.sql (securedStatement env limited)) = false ↔
      contains marker (env.glot.sql limited) = false ∧
      ∀ select ∈ limited.walk, select.node.label.kind.isSelect = true →
        ∀ e ∈ addedTo env select,
          AllKinds (MarkerFree marker) e

/-- The names and literals that a rule brings into the text. -/
def partsTexts (parts : ColumnRef × Json) : List String :=
  identText parts.1.this :: identText parts.1.table :: valueTexts parts.2

/-- The tables that the second validation knows, in the order in which it visits them. -/
def resolvedAfter (env : Env) (limited : Expr) : List ResolvedTable :=
  (tablesAfter env limited).filterMap
    (resolvedTable env.py env.schema (getCteNames env.py limited))

/-- The columns that the second validation reads. -/
def columnsAfter (env : Env) (limited : Expr) : List ColumnRef :=
  columnsOf limited ++ limited.walk.flatMap (fun occ => (addedParts env occ).map Prod.fst)

/-- The filters of a statement do not get in the way of a second validation. -/
structure StillValid (env : Env) (limited statement : Expr) : Prop where
  text : ∀ marker ∈ commentMarkers, contains marker (env.glot.sql limited) = false ∧
    ∀ occ ∈ limited.walk, ∀ parts ∈ addedParts env occ, ∀ text ∈ partsTexts parts,
      contains marker text = false
  select : findAll Kind.isSelect limited ≠ []
  resolves : ∀ table ∈ tablesOf limited,
    Resolves env.py env.schema (getCteNames env.py limited) table
  names : (flatNames env.py env.schema limited).Perm (flatNames env.py env.schema statement)
  own : ∀ occ ∈ limited.walk, ∀ column ∈ columnOf occ,
    ColumnAllowed env.py env.schema (resolvedAfter env limited) (parentKinds occ) column
  added : ∀ occ ∈ limited.walk, ∀ parts ∈ addedParts env occ,
    ColumnAllowed env.py env.schema (resolvedAfter env limited) [.where_, .select] parts.1
  listed : ∀ reference ∈ listedColumns env.py env.schema statement, ∃ column ∈
    columnsAfter env limited,
      listedAs env.py env.schema (resolvedAfter env limited) column = some reference

/-! ## What the second validation sees -/

theorem mayUse_clausesOf {occ : Occ} {allowed : AllowedColumn} :
    MayUse (clausesOf occ) allowed ↔ MayUse (parentKinds occ) allowed := by
  unfold MayUse clausesOf
  rw [clauseBeforeSelect_clausesOf, clauseBeforeSelect_clausesOf]
  · intro k hk
    cases k <;> first | rfl | cases hk
  · intro k hk
    cases k <;> first | rfl | cases hk

/-- The keys of the classes that a filter or a limit brings into a statement. -/
def addedKeys : List String :=
  ["where", "literal", "null", "boolean", "column", "neg", "array", "map", "and", "or", "not",
    "paren", "eq", "neq", "gt", "gte", "lt", "lte", "in", "limit"]

/-- None of them is blocked. -/
theorem notBlocked_added (py : Casing) {k : Kind} (hk : isFilterKind k = true ∨ k = .limit) :
    py.lower k.key ∉ blockedExpressionKeys := by
  have hkeys : ∀ key ∈ addedKeys,
      IsAscii key ∧ asciiLower key = key ∧ key ∉ blockedExpressionKeys := by decide +kernel
  have hmem : k.key ∈ addedKeys := by
    rcases hk with hk | rfl
    · cases k with
      | compare operator => cases operator <;> decide
      | other key =>
        have hkey : key ∈ ["neg", "array", "map"] := of_decide_eq_true hk
        show key ∈ addedKeys
        simp only [List.mem_cons, List.not_mem_nil, or_false] at hkey
        rcases hkey with rfl | rfl | rfl <;> decide
      | _ => first | (cases hk; done) | simp [Kind.key, addedKeys]
    · decide
  obtain ⟨hascii, hlower, hnot⟩ := hkeys _ hmem
  rw [py.lower_eq_self hascii hlower]
  exact hnot

section

variable {limited : Expr} (h : injectStatement env limited = .ok secured)
  (hwhere : ∀ occ ∈ limited.walk, occ.node.label.kind.isSelect = true → SingleWhere occ.node)

include h hwhere

theorem mem_getCteNames_secured {name : String} :
    name ∈ getCteNames env.py secured ↔ name ∈ getCteNames env.py limited := by
  let p : Kind → Prop := fun k => ∀ alias_, k = .cte alias_ →
    ¬ (alias_.this.this ≠ "" ∧ env.py.lower alias_.this.this = name)
  have hnames : ∀ e : Expr, name ∈ getCteNames env.py e ↔ ¬ AllKinds p e := by
    intro e
    unfold getCteNames findAll AllKinds
    rw [List.mem_filterMap]
    push Not
    refine exists_congr (fun occ => ?_)
    rw [List.mem_filter]
    dsimp only [p]
    unfold cteName
    cases occ.node.label.kind <;> simp [Kind.isCte]
  rw [hnames, hnames, secured_allKinds _ h hwhere]
  intro k hk alias_ href
  rw [href] at hk
  cases hk

theorem mem_columnsOf_secured {column : ColumnRef} :
    column ∈ columnsOf secured ↔ column ∈ columnsAfter env limited := by
  have hall := secured_columns (C := fun _ ref => ref ≠ column) (fun _ _ => Iff.rfl) h hwhere
  have hcolumns : ∀ e : Expr, column ∈ columnsOf e ↔
      ¬ ∀ occ ∈ e.walk, ∀ ref ∈ columnOf occ, ref ≠ column := by
    intro e
    unfold columnsOf
    rw [List.mem_filterMap]
    push Not
    exact exists_congr (fun occ => and_congr_right' (by simp))
  unfold columnsAfter
  rw [List.mem_append, hcolumns, hcolumns, hall, List.mem_flatMap, not_and_or]
  refine or_congr_right ?_
  push Not
  refine exists_congr (fun occ => and_congr_right' ?_)
  rw [List.mem_map]

theorem resolvedTables_secured :
    resolvedTables env.py env.schema secured = resolvedAfter env limited := by
  unfold resolvedTables resolvedAfter
  rw [tablesOf_secured h hwhere]
  refine List.filterMap_congr (fun table _ => ?_)
  unfold resolvedTable
  simp only [mem_getCteNames_secured h hwhere]

theorem resolves_secured :
    (∀ table ∈ tablesOf secured,
        Resolves env.py env.schema (getCteNames env.py secured) table) ↔
      ∀ table ∈ tablesOf limited,
        Resolves env.py env.schema (getCteNames env.py limited) table := by
  rw [tablesOf_secured h hwhere]
  refine forall_congr' (fun table => ?_)
  unfold Resolves
  rw [mem_tablesAfter, mem_getCteNames_secured h hwhere]

theorem flatNames_secured :
    (flatNames env.py env.schema secured).Perm (flatNames env.py env.schema limited) := by
  rw [List.perm_ext_iff_of_nodup nodup_flatNames nodup_flatNames]
  intro name
  rw [mem_flatNames, mem_flatNames, tablesOf_secured h hwhere]
  refine exists_congr (fun table => ?_)
  unfold resolvedTable
  simp only [mem_tablesAfter, mem_getCteNames_secured h hwhere]

theorem listed_secured {reference : String} :
    reference ∈ listedColumns env.py env.schema secured ↔ ∃ column ∈ columnsAfter env limited,
      listedAs env.py env.schema (resolvedAfter env limited) column = some reference := by
  unfold listedColumns
  rw [resolvedTables_secured h hwhere, List.mem_filterMap]
  exact exists_congr (fun column => and_congr_left' (mem_columnsOf_secured h hwhere))

theorem columnsAllowed_secured :
    ColumnsAllowed env.py env.schema secured ↔
      (∀ occ ∈ limited.walk, ∀ column ∈ columnOf occ,
        ColumnAllowed env.py env.schema (resolvedAfter env limited) (parentKinds occ) column) ∧
      ∀ occ ∈ limited.walk, ∀ parts ∈ addedParts env occ,
        ColumnAllowed env.py env.schema (resolvedAfter env limited) [.where_, .select]
          parts.1 := by
  have hclauses : ∀ (occ : Occ) (column : ColumnRef),
      ColumnAllowed env.py env.schema (resolvedAfter env limited) (parentKinds occ) column ↔
        ColumnAllowed env.py env.schema (resolvedAfter env limited) (clausesOf occ) column := by
    intro occ column
    unfold ColumnAllowed
    simp only [mayUse_clausesOf]
  unfold ColumnsAllowed
  rw [resolvedTables_secured h hwhere]
  simp only [hclauses]
  exact secured_columns (fun above ref => Iff.rfl) h hwhere

omit hwhere in
theorem label_secured : secured.label = limited.label := by
  rw [injectStatement_eq h]
  exact label_conjunctsAt _ _

omit hwhere in
theorem existingLimit_secured :
    (arg secured .limit).bind existingLimit = (arg limited .limit).bind existingLimit := by
  have hlimit : ∀ d : Occ, existingLimit (conjunctsAt (addedTo env) d) = existingLimit d.node := by
    intro d
    unfold existingLimit
    rw [arg_conjunctsAt (by simp), arg_cursor]
    cases d.down.find? (fun e => e.node.label.argKey = .expression) with
    | none => rfl
    | some e =>
      simp only [Option.map_some, Option.bind_eq_bind, Option.bind_some, label_conjunctsAt]
  have hroot : limited = (Cursor.root limited).node := rfl
  rw [injectStatement_eq h, hroot, arg_cursor]
  show (arg (conjunctsAt (addedTo env) (Cursor.root limited)) .limit).bind existingLimit = _
  rw [arg_conjunctsAt (by simp)]
  cases (Cursor.root limited).down.find? (fun d => d.node.label.argKey = .limit) with
  | none => rfl
  | some d => exact hlimit d

theorem notBlocked_secured (py : Casing)
    (hkeys : AllKinds (fun k => py.lower k.key ∉ blockedExpressionKeys) limited) :
    AllKinds (fun k => py.lower k.key ∉ blockedExpressionKeys) secured :=
  (secured_allKinds (fun _ hk => notBlocked_added py (.inl hk)) h hwhere).mpr hkeys

theorem noStar_secured (hstar : AllKinds (fun k => k.isStar = false) limited) :
    AllKinds (fun k => k.isStar = false) secured := by
  refine (secured_allKinds (fun k hk => ?_) h hwhere).mpr hstar
  cases k <;> first | rfl | cases hk

theorem selects_secured :
    findAll Kind.isSelect secured ≠ [] ↔ findAll Kind.isSelect limited ≠ [] := by
  have hnone : ∀ e : Expr,
      findAll Kind.isSelect e = [] ↔ AllKinds (fun k => k.isSelect = false) e := by
    intro e
    unfold findAll AllKinds
    simp only [List.filter_eq_nil_iff, Bool.not_eq_true]
  rw [ne_eq, ne_eq, hnone, hnone, secured_allKinds _ h hwhere]
  intro k hk
  cases k <;> first | rfl | cases hk

end

/-! ## Agreement -/

theorem label_limited {limit : Int} {limited : Expr}
    (h : applyRowLimit statement maximumRows = .ok (limit, limited)) :
    limited.label = statement.label := by
  rcases (applyRowLimit_ok h).2 with ⟨-, -, -, -, rfl⟩ | ⟨-, -, rfl⟩
  · rfl
  · rfl

/-- The second validation accepts exactly when these conditions hold. -/
theorem valid_secured_iff {limited : Expr} {limit : Int}
    (hvalid : Valid env.py env.schema maximumRows statement)
    (hlimit : applyRowLimit statement maximumRows = .ok (limit, limited))
    (h : injectStatement env limited = .ok secured)
    (hwhere : ∀ occ ∈ limited.walk, occ.node.label.kind.isSelect = true →
      SingleWhere occ.node) :
    Valid env.py env.schema maximumRows secured ↔
      findAll Kind.isSelect limited ≠ [] ∧
      (∀ table ∈ tablesOf limited,
        Resolves env.py env.schema (getCteNames env.py limited) table) ∧
      flatNames env.py env.schema secured ≠ [] ∧
      ((∀ occ ∈ limited.walk, ∀ column ∈ columnOf occ,
          ColumnAllowed env.py env.schema (resolvedAfter env limited) (parentKinds occ) column) ∧
        ∀ occ ∈ limited.walk, ∀ parts ∈ addedParts env occ,
          ColumnAllowed env.py env.schema (resolvedAfter env limited) [.where_, .select]
            parts.1) ∧
      listedColumns env.py env.schema secured ≠ [] := by
  obtain ⟨hquery, hkeys, -⟩ := readOnly_ok_iff.mp hvalid.readOnly
  have hkeysLimited : AllKinds (fun k => env.py.lower k.key ∉ blockedExpressionKeys) limited :=
    allKinds_limited (notBlocked_added env.py (.inr rfl))
      (fun text => notBlocked_added env.py (.inl rfl)) hlimit hkeys
  have hstar : AllKinds (fun k => k.isStar = false) limited := by
    apply allKinds_limited _ _ hlimit hvalid.star
    · rfl
    · intro text
      rfl
  constructor
  · intro hsecured
    exact ⟨(selects_secured h hwhere).mp (readOnly_ok_iff.mp hsecured.readOnly).2.2,
      (resolves_secured h hwhere).mp hsecured.tables, hsecured.someTable,
      (columnsAllowed_secured h hwhere).mp hsecured.columns, hsecured.someColumn⟩
  · rintro ⟨hselect, hresolves, htable, hcolumns, hlisted⟩
    refine ⟨readOnly_ok_iff.mpr ⟨?_, notBlocked_secured h hwhere env.py hkeysLimited,
      (selects_secured h hwhere).mpr hselect⟩, (resolves_secured h hwhere).mpr hresolves, htable,
      noStar_secured h hwhere hstar, (columnsAllowed_secured h hwhere).mpr hcolumns, hlisted,
      hvalid.rows⟩
    rw [label_secured h, label_limited hlimit]
    exact hquery

theorem transparent_markerFree (marker : String) :
    Transparent (fun _ k => MarkerFree marker k) (fun text => contains marker text = false) := by
  have hno : ∀ {k : Kind}, kindTexts k = [] → MarkerFree marker k := by
    intro k hk text htext
    rw [hk] at htext
    cases htext
  refine ⟨⟨fun above k hk => hno ?_, fun above => hno rfl⟩, fun above text isString => ?_,
    fun above => hno rfl, fun above value => hno rfl, fun above key _ => hno rfl,
    fun above ref => Iff.rfl⟩
  · cases k <;> first | rfl | cases hk
  · exact List.forall_mem_singleton

theorem markerFree_iff {limited : Expr} (h : injectStatement env limited = .ok secured)
    (marker : String) :
    (∀ select ∈ limited.walk, select.node.label.kind.isSelect = true →
        ∀ e ∈ addedTo env select, AllKinds (MarkerFree marker) e) ↔
      ∀ occ ∈ limited.walk, ∀ parts ∈ addedParts env occ, ∀ text ∈ partsTexts parts,
        contains marker text = false := by
  refine (everywhere_addedTo (transparent_markerFree marker) h).trans ?_
  refine forall₂_congr (fun occ _ => forall₂_congr (fun parts _ => ?_))
  have hcolumn : MarkerFree marker (.column parts.1) ↔
      contains marker (identText parts.1.this) = false ∧
        contains marker (identText parts.1.table) = false := by
    show (∀ text ∈ [_, _], contains marker text = false) ↔ _
    rw [List.forall_mem_cons, List.forall_mem_singleton]
  show MarkerFree marker (.column parts.1) ∧ _ ↔ _
  unfold partsTexts
  rw [hcolumn, List.forall_mem_cons, List.forall_mem_cons, and_assoc]

variable {normalizedSql securedSql : String}

/-- The injector has worked on the limited statement, and its text is validated once more. -/
theorem injected_text (h : Accepts env.py env.glot env.schema maximumRows sql statement first)
    (hnormalized : first.normalized_sql = some normalizedSql)
    (hinjected : injectMandatoryRowFilters env normalizedSql = .ok securedSql)
    (hreparsed : parseOne env.glot (env.glot.sql (limitedStatement statement maximumRows)) =
      .ok (limitedStatement statement maximumRows)) :
    injectStatement env (limitedStatement statement maximumRows) =
        .ok (securedStatement env (limitedStatement statement maximumRows)) ∧
      securedSql = env.glot.sql
        (securedStatement env (limitedStatement statement maximumRows)) := by
  obtain ⟨referenced, limit, limited, hrun⟩ := h.run
  have hlimited : limitedStatement statement maximumRows = limited := by
    unfold limitedStatement
    rw [hrun.rowLimit]
  have htext : normalizedSql = env.glot.sql limited := by
    rw [hrun.output] at hnormalized
    exact (Option.some.inj hnormalized).symm
  rw [hlimited] at hreparsed ⊢
  unfold injectMandatoryRowFilters at hinjected
  split at hinjected
  · exact absurd hinjected fail_ne_ok
  · rw [htext, hreparsed] at hinjected
    obtain ⟨secured, hsecured, hinjected⟩ := bind_ok_iff.mp hinjected
    have heq : secured = securedStatement env limited := injectStatement_eq hsecured
    rw [heq] at hsecured hinjected
    exact ⟨hsecured, (pure_ok_iff.mp hinjected).symm⟩

/-- The two validations agree exactly when the filters do not get in the way of the second. -/
theorem stagesAgree_iff (h : Accepts env.py env.glot env.schema maximumRows sql statement first)
    (hnormalized : first.normalized_sql = some normalizedSql)
    (hinjected : injectMandatoryRowFilters env normalizedSql = .ok securedSql)
    (hprint : PrintsBack env (limitedStatement statement maximumRows)) :
    StagesAgree env maximumRows first securedSql ↔
      StillValid env (limitedStatement statement maximumRows) statement := by
  obtain ⟨hinject, rfl⟩ := injected_text h hnormalized hinjected hprint.reparsed
  obtain ⟨hvalid, limit, limited, hlimit, rfl⟩ := (accepts_iff h.parsed).mp h
  have hlimited : limitedStatement statement maximumRows = limited := by
    unfold limitedStatement
    rw [hlimit]
  rw [hlimited] at hinject hprint ⊢
  have hagain := applyRowLimit_again hlimit (existingLimit_secured hinject)
  have hnames := flatNames_secured hinject hprint.where_
  have hlisted := @listed_secured env _ _ hinject hprint.where_
  have hparse : ∀ parsed, parseSingleStatement env.glot
      (env.glot.sql (securedStatement env limited)) = .ok parsed ↔
        (∀ marker ∈ commentMarkers, contains marker (env.glot.sql limited) = false ∧
          ∀ occ ∈ limited.walk, ∀ parts ∈ addedParts env occ, ∀ text ∈ partsTexts parts,
            contains marker text = false) ∧ parsed = securedStatement env limited := by
    intro parsed
    rw [parseSingleStatement_ok_iff hprint.parsed hprint.notBlank]
    refine and_congr_left' (forall₂_congr (fun marker hmarker => ?_))
    rw [hprint.markers marker hmarker, markerFree_iff hinject]
  constructor
  · rintro ⟨final, hfinal, hok, htables, -, hcolumns⟩
    obtain ⟨parsed, haccepts⟩ := accepts_of_valid hfinal hok
    obtain ⟨htext, rfl⟩ := (hparse parsed).mp haccepts.parsed
    obtain ⟨hsecured, limit', limited', -, rfl⟩ := (accepts_iff haccepts.parsed).mp haccepts
    obtain ⟨hselect, hresolves, -, hallowed, -⟩ :=
      (valid_secured_iff hvalid hlimit hinject hprint.where_).mp hsecured
    refine ⟨htext, hselect, hresolves, hnames.symm.trans htables, hallowed.1, hallowed.2,
      fun reference href => ?_⟩
    exact hlisted.mp (mem_listed.mp (hcolumns (mem_listed.mpr href)))
  · intro hstill
    have hlistedAll : ∀ reference ∈ listedColumns env.py env.schema statement,
        reference ∈ listedColumns env.py env.schema (securedStatement env limited) :=
      fun reference href => hlisted.mpr (hstill.listed reference href)
    have hperm := hnames.trans hstill.names
    have hsecured : Valid env.py env.schema maximumRows (securedStatement env limited) := by
      apply (valid_secured_iff hvalid hlimit hinject hprint.where_).mpr
      refine ⟨hstill.select, hstill.resolves, fun hnil => ?_, ⟨hstill.own, hstill.added⟩,
        fun hnil => ?_⟩
      · rw [hnil] at hperm
        exact hvalid.someTable hperm.symm.eq_nil
      · obtain ⟨reference, href⟩ := List.exists_mem_of_ne_nil _ hvalid.someColumn
        have hmem := hlistedAll reference href
        rw [hnil] at hmem
        cases hmem
    have hparsed := (hparse _).mpr ⟨hstill.text, rfl⟩
    have haccepts := (accepts_iff hparsed).mpr ⟨hsecured, limit, _, hagain, rfl⟩
    refine ⟨_, haccepts.validated, rfl, hperm, rfl, fun reference href => ?_⟩
    exact mem_listed.mpr (hlistedAll reference (mem_listed.mp href))

/-! ## A filter on a column that may not be used for filtering -/

instance (marker : String) : DecidablePred (MarkerFree marker) := fun _ =>
  inferInstanceAs (Decidable (∀ _ ∈ _, _))

/-- `public.users` with a filter on the tenant; `canFilter` is the flag of the tenant column. -/
def ownTable (canFilter : Bool) : AllowedTable :=
  { tenantUsersTable with
    columns := ⟨[("tenant_id",
        ⟨"tenant-column-id", "tenant_id", "uuid", true, canFilter, false, none⟩),
      ("email", ⟨"email-column-id", "email", "character varying", true, true, false,
        some "email"⟩)], by simp⟩ }

def ownLimited : Expr := setArg plainStatement .limit (limitExpr 100)

def ownSecured : Expr := setArg ownLimited .where_ (build .where_ [(.this, tenantCondition)])

def ownSecuredSql : String :=
  plainSql ++ " WHERE users.tenant_id = '11111111-1111-1111-1111-111111111111' LIMIT 100"

def ownSqlglot : Sqlglot :=
  knownTexts [(plainSql, plainStatement), (plainSql ++ " LIMIT 100", ownLimited),
    (ownSecuredSql, ownSecured)]

def ownEnv (canFilter : Bool) : Env where
  py := asciiCasing
  glot := ownSqlglot
  schema := ⟨"connection-id", ⟨[("public.users", ownTable canFilter)], List.nodup_singleton _⟩⟩
  tenantId := "11111111-1111-1111-1111-111111111111"
  userId := "22222222-2222-2222-2222-222222222222"

theorem own_accepts (canFilter : Bool) :
    Accepts asciiCasing ownSqlglot (ownEnv canFilter).schema 100 plainSql plainStatement
      plainResult := by
  cases canFilter
  · exact ⟨by decide +kernel, by decide +kernel, rfl⟩
  · exact ⟨by decide +kernel, by decide +kernel, rfl⟩

theorem own_injected (canFilter : Bool) :
    injectMandatoryRowFilters (ownEnv canFilter) (plainSql ++ " LIMIT 100") =
      .ok ownSecuredSql := by
  cases canFilter
  · decide +kernel
  · decide +kernel

theorem own_agrees : StagesAgree (ownEnv true) 100 plainResult ownSecuredSql := by
  apply (stagesAgree_iff (own_accepts true) rfl (own_injected true) _).mpr
  · exact ⟨by decide +kernel, List.ne_nil_of_length_pos (by decide +kernel), by decide +kernel,
      by decide +kernel, by decide +kernel, by decide +kernel, by decide +kernel⟩
  · exact ⟨by decide +kernel, by decide +kernel, by decide +kernel, by decide +kernel,
      by decide +kernel⟩

/-- A query of the user's own is refused because the filter that was added to it names a column
without the flag `can_filter`. -/
theorem own_filter_rejected :
    Accepts asciiCasing ownSqlglot (ownEnv false).schema 100 plainSql plainStatement plainResult ∧
      plainResult.normalized_sql = some (plainSql ++ " LIMIT 100") ∧
      injectMandatoryRowFilters (ownEnv false) (plainSql ++ " LIMIT 100") = .ok ownSecuredSql ∧
      validateSql asciiCasing ownSqlglot (ownEnv false).schema 100 ownSecuredSql =
        .ok ⟨false, none, ["Column 'tenant_id' cannot be used for filtering."], [], [], none⟩ ∧
      ¬ StagesAgree (ownEnv false) 100 plainResult ownSecuredSql := by
  have hrejected : validateSql asciiCasing ownSqlglot (ownEnv false).schema 100 ownSecuredSql =
      .ok ⟨false, none, ["Column 'tenant_id' cannot be used for filtering."], [], [], none⟩ := by
    decide +kernel
  refine ⟨own_accepts false, rfl, own_injected false, hrejected, ?_⟩
  rintro ⟨final, hfinal, hvalid, -⟩
  rw [show validateSql (ownEnv false).py (ownEnv false).glot (ownEnv false).schema 100
    ownSecuredSql = _ from hrejected] at hfinal
  rw [← Except.ok.inj hfinal] at hvalid
  cases hvalid

end DataChat.Security
