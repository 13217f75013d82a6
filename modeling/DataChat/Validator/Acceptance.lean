import DataChat.Validator.Definitions

/-!
# What acceptance by the validator guarantees

`Accepts.run` reads an accepted validation backwards into its five steps. From each step the
lemmas below extract what it has checked:

* `walk_not_blocked`: no node of the statement has a blocked key;
* `collected_tables`: the referenced tables are exactly the entries to which the tables whose
  name is no CTE name resolve;
* `collected_columns`: every named column resolves to a readable column, with the filter and
  aggregate flags its position asks for;
* `applyRowLimit_ok`: which limit the statement is left with.
-/

namespace DataChat.Validator

open Sql Outcome

variable {py : Casing} {glot : Sqlglot} {schema : AllowedSchema} {maximumRows : Int}
  {sql : String} {statement : Expr} {result : SQLValidationResult} {referenced : Referenced}

/-- The text parses to the statement and `validate_sql` accepts it with this result. -/
structure Accepts (py : Casing) (glot : Sqlglot) (schema : AllowedSchema) (maximumRows : Int)
    (sql : String) (statement : Expr) (result : SQLValidationResult) : Prop where
  parsed : parseSingleStatement glot sql = .ok statement
  validated : validateSql py glot schema maximumRows sql = .ok result
  valid : result.is_valid = true

/-- The five steps of an accepted validation. -/
structure Run (py : Casing) (glot : Sqlglot) (schema : AllowedSchema) (maximumRows : Int)
    (statement : Expr) (result : SQLValidationResult) (referenced : Referenced) (limit : Int)
    (limited : Expr) : Prop where
  readOnly : validateReadOnlyStatement py statement = .ok ()
  tables : collectReferencedTables py statement schema = .ok referenced
  columns : collectReferencedColumns py statement referenced schema =
    .ok result.referenced_columns
  rowLimit : applyRowLimit statement maximumRows = .ok (limit, limited)
  output : result = ⟨true, some (glot.sql limited), [], referenced.tables,
    result.referenced_columns, some limit⟩

theorem reject_ne_ok {α : Type} {message : String} {a : α} :
    (reject message : Validation α) ≠ .ok a := throw_ne_ok

theorem validateStatement_run {limited : Expr}
    (h : validateStatement py glot schema maximumRows sql = .ok (result, limited)) :
    ∃ statement referenced limit, parseSingleStatement glot sql = .ok statement ∧
      Run py glot schema maximumRows statement result referenced limit limited := by
  unfold validateStatement at h
  obtain ⟨statement, hparse, h⟩ := bind_ok_iff.mp h
  obtain ⟨⟨⟩, hreadOnly, h⟩ := bind_ok_iff.mp h
  obtain ⟨referenced, htables, h⟩ := bind_ok_iff.mp h
  obtain ⟨columns, hcolumns, h⟩ := bind_ok_iff.mp h
  obtain ⟨⟨limit, limited'⟩, hlimit, h⟩ := bind_ok_iff.mp h
  cases pure_ok_iff.mp h
  exact ⟨statement, referenced, limit, hparse, hreadOnly, htables, hcolumns, hlimit, rfl⟩

theorem Accepts.run (h : Accepts py glot schema maximumRows sql statement result) :
    ∃ referenced limit limited,
      Run py glot schema maximumRows statement result referenced limit limited := by
  obtain ⟨hparsed, hvalidated, hvalid⟩ := h
  unfold validateSql at hvalidated
  split at hvalidated
  · rename_i result' limited hrun
    cases hvalidated
    obtain ⟨statement', referenced, limit, hparse, hrun⟩ := validateStatement_run hrun
    obtain rfl := Except.ok.inj (hparsed.symm.trans hparse)
    exact ⟨referenced, limit, limited, hrun⟩
  · cases hvalidated
    cases hvalid
  · cases hvalidated

/-- A valid result comes with the statement to which the text was parsed. -/
theorem accepts_of_valid (h : validateSql py glot schema maximumRows sql = .ok result)
    (hvalid : result.is_valid = true) :
    ∃ statement, Accepts py glot schema maximumRows sql statement result := by
  have hrun := h
  unfold validateSql at hrun
  split at hrun
  · rename_i result' limited hvalidated
    obtain ⟨statement, referenced, limit, hparsed, -⟩ := validateStatement_run hvalidated
    exact ⟨statement, hparsed, h, hvalid⟩
  · cases hrun
    cases hvalid
  · cases hrun

/-! ## Read-only statements -/

/-- What `validate_read_only_statement` has checked. -/
theorem readOnly_ok_iff :
    validateReadOnlyStatement py statement = .ok () ↔
      statement.label.kind.isQuery = true ∧
      (∀ occ ∈ statement.walk, py.lower occ.node.label.kind.key ∉ blockedExpressionKeys) ∧
      findAll Kind.isSelect statement ≠ [] := by
  unfold validateReadOnlyStatement
  cases hq : statement.label.kind.isQuery <;>
    cases hb : statement.walk.any
      (fun occ => py.lower occ.node.label.kind.key ∈ blockedExpressionKeys) <;>
    cases hs : (findAll Kind.isSelect statement).isEmpty <;>
    simp_all [reject, bind, Except.bind, throw, throwThe, MonadExceptOf.throw, pure, Except.pure]

/-! ## Tables -/

theorem resolveAllowedTable_of_mem {cteNames : List String} {table : TableRef}
    (h : py.lower table.name ∈ cteNames) :
    resolveAllowedTable py schema cteNames table = .ok none := by
  simp [resolveAllowedTable, h, pure, Except.pure]

/-- Away from the CTE names the resolution does not depend on them. -/
theorem resolveAllowedTable_of_not_mem {cteNames : List String} {table : TableRef}
    (h : py.lower table.name ∉ cteNames) :
    resolveAllowedTable py schema cteNames table = resolveAllowedTable py schema [] table := by
  simp [resolveAllowedTable, h]

theorem resolveAllowedTable_ne_none {table : TableRef} :
    resolveAllowedTable py schema [] table ≠ .ok none := by
  unfold resolveAllowedTable
  simp only [List.not_mem_nil, if_false]
  split
  · split
    · exact reject_ne_ok
    · split
      · exact reject_ne_ok
      · intro h
        cases h
  · split
    · exact reject_ne_ok
    · intro h
      cases h
    · exact reject_ne_ok

/-- The entry of the allowed schema to which `resolve_allowed_table` resolves a reference that
is not taken for a CTE. -/
def allowedEntry (py : Casing) (schema : AllowedSchema) (table : TableRef) :
    Option (String × AllowedTable) :=
  match resolveAllowedTable py schema [] table with
  | .ok entry => entry
  | .error _ => none

theorem allowedEntry_eq_some_iff {table : TableRef} {entry : String × AllowedTable} :
    allowedEntry py schema table = some entry ↔
      resolveAllowedTable py schema [] table = .ok (some entry) := by
  unfold allowedEntry
  split
  · rename_i r hr
    rw [hr, Except.ok.injEq]
  · rename_i e he
    rw [he]
    constructor
    · intro h
      cases h
    · intro h
      cases h

theorem mem_appendNew {names : List String} {name x : String} :
    x ∈ appendNew names name ↔ x ∈ names ∨ x = name := by
  unfold appendNew
  split
  · rename_i h
    exact ⟨Or.inl, fun hx => hx.elim id (fun hx => hx ▸ h)⟩
  · rw [List.mem_append, List.mem_singleton]

/-- One pass of the table loop. -/
theorem collectTable_ok {cteNames : List String} {acc acc' : Referenced} {table : TableRef}
    (h : collectTable py schema cteNames acc table = .ok acc') :
    (py.lower table.name ∈ cteNames ∧ acc' = acc) ∨
    (py.lower table.name ∉ cteNames ∧ ∃ entry, allowedEntry py schema table = some entry ∧
      acc' = acc.record py table entry.1 entry.2) := by
  unfold collectTable at h
  obtain ⟨entry, hentry, h⟩ := bind_ok_iff.mp h
  by_cases hmem : py.lower table.name ∈ cteNames
  · rw [resolveAllowedTable_of_mem hmem] at hentry
    cases hentry
    exact Or.inl ⟨hmem, (pure_ok_iff.mp h).symm⟩
  · rw [resolveAllowedTable_of_not_mem hmem] at hentry
    cases entry with
    | none => exact absurd hentry resolveAllowedTable_ne_none
    | some entry =>
      exact Or.inr ⟨hmem, entry, allowedEntry_eq_some_iff.mpr hentry, (pure_ok_iff.mp h).symm⟩

/-- The referenced tables after the loop: every table whose name is no CTE name resolves to
one of them, and each of them comes from such a table. -/
theorem collected_tables (h : collectReferencedTables py statement schema = .ok referenced) :
    (∀ table ∈ tablesOf statement, py.lower table.name ∉ getCteNames py statement →
      ∃ entry, allowedEntry py schema table = some entry ∧ entry.1 ∈ referenced.tables) ∧
    (∀ name ∈ referenced.tables, ∃ table ∈ tablesOf statement,
      py.lower table.name ∉ getCteNames py statement ∧
      ∃ entry, allowedEntry py schema table = some entry ∧ entry.1 = name) := by
  unfold collectReferencedTables at h
  obtain ⟨collected, hloop, h⟩ := bind_ok_iff.mp h
  have hcollected : collected = referenced := by
    split at h
    · exact absurd h reject_ne_ok
    · exact pure_ok_iff.mp h
  subst hcollected
  refine foldlM_ok_induction
    (fun done acc =>
      (∀ table ∈ done, py.lower table.name ∉ getCteNames py statement →
        ∃ entry, allowedEntry py schema table = some entry ∧ entry.1 ∈ acc.tables) ∧
      (∀ name ∈ acc.tables, ∃ table ∈ done, py.lower table.name ∉ getCteNames py statement ∧
        ∃ entry, allowedEntry py schema table = some entry ∧ entry.1 = name))
    ⟨by simp, by simp⟩ ?_ hloop
  rintro done table rest acc acc' - ⟨hdone, hfrom⟩ hpass
  rcases collectTable_ok hpass with ⟨hmem, rfl⟩ | ⟨hmem, entry, hentry, rfl⟩
  · constructor
    · intro t ht hname
      rcases List.mem_append.mp ht with ht | ht
      · exact hdone t ht hname
      · rw [List.mem_singleton.mp ht] at hname
        exact absurd hmem hname
    · intro name hname
      obtain ⟨t, ht, hrest⟩ := hfrom name hname
      exact ⟨t, List.mem_append_left _ ht, hrest⟩
  · constructor
    · intro t ht hname
      rcases List.mem_append.mp ht with ht | ht
      · obtain ⟨e, he, hmem'⟩ := hdone t ht hname
        exact ⟨e, he, mem_appendNew.mpr (Or.inl hmem')⟩
      · rw [List.mem_singleton.mp ht]
        exact ⟨entry, hentry, mem_appendNew.mpr (Or.inr rfl)⟩
    · intro name hname
      rcases mem_appendNew.mp hname with hname | rfl
      · obtain ⟨t, ht, hrest⟩ := hfrom name hname
        exact ⟨t, List.mem_append_left _ ht, hrest⟩
      · exact ⟨table, List.mem_append_right _ List.mem_cons_self, hmem, entry, hentry, rfl⟩

/-! ## Columns -/

/-- What `validate_column_access` has checked. -/
theorem validateColumnAccess_ok_iff {column : Occ} {name : String} {allowed : AllowedColumn} :
    validateColumnAccess column name allowed = .ok () ↔
      allowed.can_read = true ∧ (isFilterColumn column = true → allowed.can_filter = true) ∧
      (isAggregateColumn column = true → allowed.can_aggregate = true) := by
  unfold validateColumnAccess
  cases hr : allowed.can_read <;> cases hf : allowed.can_filter <;>
    cases ha : allowed.can_aggregate <;> cases hif : isFilterColumn column <;>
    cases hia : isAggregateColumn column <;>
    simp [reject, bind, Except.bind, throw, throwThe, MonadExceptOf.throw, pure, Except.pure]

/-- Every column that has a name was resolved, and its access was checked. -/
theorem collected_columns {columns : List String}
    (h : collectReferencedColumns py statement referenced schema = .ok columns) :
    ∀ occ ∈ statement.walk, ∀ column, columnOf occ = some column →
      py.lower (identText column.this) ≠ "" →
      ∃ table allowed, resolveColumn py referenced schema column = .ok (table, allowed) ∧
        validateColumnAccess occ (py.lower (identText column.this)) allowed = .ok () := by
  unfold collectReferencedColumns at h
  obtain ⟨⟨⟩, -, h⟩ := bind_ok_iff.mp h
  obtain ⟨collected, hloop, -⟩ := bind_ok_iff.mp h
  have hall : ∀ occ ∈ findAll Kind.isColumn statement, ∀ column, columnOf occ = some column →
      py.lower (identText column.this) ≠ "" →
      ∃ table allowed, resolveColumn py referenced schema column = .ok (table, allowed) ∧
        validateColumnAccess occ (py.lower (identText column.this)) allowed = .ok () := by
    refine foldlM_ok_induction
      (fun done _ => ∀ occ ∈ done, ∀ column, columnOf occ = some column →
        py.lower (identText column.this) ≠ "" →
        ∃ table allowed, resolveColumn py referenced schema column = .ok (table, allowed) ∧
          validateColumnAccess occ (py.lower (identText column.this)) allowed = .ok ())
      (by simp) ?_ hloop
    intro done occ rest acc acc' _ hdone hpass occ' hocc' column hcolumn hname
    rcases List.mem_append.mp hocc' with hmem | hmem
    · exact hdone occ' hmem column hcolumn hname
    · rw [List.mem_singleton.mp hmem] at hcolumn ⊢
      unfold collectColumn at hpass
      rw [hcolumn] at hpass
      simp only [hname, if_false] at hpass
      obtain ⟨⟨table, allowed⟩, hresolve, hpass⟩ := bind_ok_iff.mp hpass
      obtain ⟨⟨⟩, haccess, -⟩ := bind_ok_iff.mp hpass
      exact ⟨table, allowed, hresolve, haccess⟩
  intro occ hocc column hcolumn
  refine hall occ (List.mem_filter.mpr ⟨hocc, ?_⟩) column hcolumn
  unfold columnOf at hcolumn
  split at hcolumn
  · rename_i ref href
    rw [href]
    rfl
  · cases hcolumn

/-! ## The row limit -/

/-- A limit that is in range is kept, else the maximum is set. -/
theorem applyRowLimit_ok {limit : Int} {limited : Expr}
    (h : applyRowLimit statement maximumRows = .ok (limit, limited)) :
    1 ≤ maximumRows ∧
      ((∃ existing : Nat, (arg statement .limit).bind existingLimit = some existing ∧
          (1 ≤ existing ∧ (existing : Int) ≤ maximumRows) ∧ limit = existing ∧
          limited = statement) ∨
        (∀ existing ∈ (arg statement .limit).bind existingLimit,
            ¬ (1 ≤ existing ∧ (existing : Int) ≤ maximumRows)) ∧
          limit = maximumRows ∧ limited = setArg statement .limit (limitExpr maximumRows)) := by
  unfold applyRowLimit at h
  split at h
  · exact absurd h reject_ne_ok
  · rename_i hmaximum
    refine ⟨by omega, ?_⟩
    split at h
    · rename_i existing hexisting
      split at h
      · rename_i hrange
        cases h
        exact .inl ⟨existing, hexisting, hrange, rfl, rfl⟩
      · rename_i hrange
        cases h
        refine .inr ⟨?_, rfl, rfl⟩
        intro other hother
        rw [hexisting] at hother
        rw [← Option.some.inj hother]
        exact hrange
    · rename_i hnone
      cases h
      refine .inr ⟨?_, rfl, rfl⟩
      intro other hother
      rw [hnone] at hother
      cases hother

/-- The limit that is set is a number. -/
theorem allKinds_limited {q : Kind → Prop} (hlimit : q .limit)
    (hnumber : ∀ text, q (.literal text false)) {limit : Int} {limited : Expr}
    (h : applyRowLimit statement maximumRows = .ok (limit, limited))
    (hstatement : AllKinds q statement) : AllKinds q limited := by
  rcases (applyRowLimit_ok h).2 with ⟨-, -, -, -, rfl⟩ | ⟨-, -, rfl⟩
  · exact hstatement
  · apply allKinds_setArg hstatement
    unfold limitExpr build
    refine allKinds_node.mpr ⟨hlimit, fun c hc => ?_⟩
    rw [List.map_singleton, List.mem_singleton] at hc
    rw [hc]
    exact allKinds_withArgKey.mpr
      (allKinds_node.mpr ⟨hnumber _, fun c hc => absurd hc List.not_mem_nil⟩)

end DataChat.Validator
