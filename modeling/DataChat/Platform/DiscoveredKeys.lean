import DataChat.Platform.DiscoveredTables

/-!
# Discovered keys and the keys of the source

`build_discovery_result` on the answers to the catalogue queries. Both key queries match
constraints by name. `PRIMARY_KEY_QUERY` takes every key column of a constraint that is named like
some primary key, of whatever table. `FOREIGN_KEY_QUERY` joins the columns of a foreign key with
all columns that it refers to, and the dictionary keeps the last of the rows for a column.

* `foreignKeys_get`: the dictionary keeps the last joined row for a column.
* `primary_key_iff`: when the columns of a primary key are discovered.
* `keysDiscovered_iff`: the keys are discovered exactly when no unique constraint or foreign key
  of a table is named like a primary key, and the names of foreign keys lead only to what the
  columns are paired with.
* `country_misread`: a foreign key of two columns is not discovered.
-/

namespace DataChat.Platform

/-! ## When the keys are discovered -/

/-- Some table of the database has a primary key of the name. -/
def SourceCatalog.IsPrimaryKeyName (catalog : SourceCatalog) (name : String) : Prop :=
  ∃ table ∈ catalog.tables, ∃ key ∈ table.primary_key, key.constraint_name = name

/-- The names of the unique constraints and foreign keys of the table. -/
def SourceTable.otherKeyNames (table : SourceTable) : List String :=
  table.uniques.map SourceKey.constraint_name ++
    table.foreign_keys.map SourceForeignKey.constraint_name

def SourceTable.NamedApart (catalog : SourceCatalog) (table : SourceTable) : Prop :=
  ∀ name ∈ table.otherKeyNames, ¬ catalog.IsPrimaryKeyName name

/-- A key of the schema with the name has the column at the position. -/
def SourceCatalog.HasKeyColumn (catalog : SourceCatalog) (schema name column : String)
    (position : Nat) : Prop :=
  ∃ usage ∈ catalog.keyColumnUsage, usage.constraint_schema = schema ∧
    usage.constraint_name = name ∧ usage.column_name = column ∧
    usage.ordinal_position = position

/-- A constraint of the schema with the name uses the column. -/
def SourceCatalog.Uses (catalog : SourceCatalog) (schema name : String)
    (target : String × String × String) : Prop :=
  ∃ usage ∈ catalog.constraintColumnUsage, usage.constraint_schema = schema ∧
    usage.constraint_name = name ∧
    (usage.table_schema, usage.table_name, usage.column_name) = target

/-- Where the column stands last in the keys named like one of the table's foreign keys, these
names lead to nothing but what its foreign key pairs it with. -/
def SourceTable.PairedByName (catalog : SourceCatalog) (table : SourceTable) (column : String)
    (key : SourceForeignKey) : Prop :=
  ∀ named ∈ table.foreign_keys, ∀ position,
    catalog.HasKeyColumn table.table_schema named.constraint_name column position →
    (∀ other ∈ table.foreign_keys, ∀ position',
      catalog.HasKeyColumn table.table_schema other.constraint_name column position' →
      position' ≤ position) →
    ∀ target, catalog.Uses table.table_schema named.constraint_name target →
      key.Pairs column target

structure SourceTable.KeysByName (catalog : SourceCatalog) (table : SourceTable) : Prop where
  primary : table.NamedApart catalog
  foreign : ∀ column ∈ table.columns, ∀ key,
    table.foreignKeysOf column.column_name = [key] →
    table.PairedByName catalog column.column_name key

section Answered

variable {catalog : SourceCatalog} {rows : CatalogueRows}

/-! ## The primary key -/

def KeyColumnUsage.tableKey (usage : KeyColumnUsage) : String × String :=
  (usage.table_schema, usage.table_name)

/-- The key columns of the primary key, -/
def SourceTable.primaryUsages (table : SourceTable) : List KeyColumnUsage :=
  table.primary_key.toList.flatMap (fun key => table.usagesOf key.constraint_name key.columns)

/-- and those of the other keys. -/
def SourceTable.otherUsages (table : SourceTable) : List KeyColumnUsage :=
  table.uniques.flatMap (fun key => table.usagesOf key.constraint_name key.columns) ++
    table.foreign_keys.flatMap (fun key => table.usagesOf key.constraint_name key.columns)

theorem keyColumns_eq (table : SourceTable) :
    table.keyColumns = table.primaryUsages ++ table.otherUsages := rfl

theorem mem_usagesOf {table : SourceTable} {name : String} {columns : List String}
    {usage : KeyColumnUsage} : usage ∈ table.usagesOf name columns ↔
      ∃ column ∈ columns.zipIdx 1, usage =
        ⟨table.table_schema, name, table.table_schema, table.table_name, column.1, column.2⟩ := by
  unfold SourceTable.usagesOf
  rw [List.mem_map]
  exact exists_congr (fun column => and_congr_right (fun _ => eq_comm))

theorem usagesOf_column_name (table : SourceTable) (name : String) (columns : List String) :
    (table.usagesOf name columns).map KeyColumnUsage.column_name = columns := by
  unfold SourceTable.usagesOf
  rw [List.map_map]
  exact List.zipIdx_map_fst 1 columns

/-- A key column is one of some key of the table. -/
theorem mem_keyColumns {table : SourceTable} {usage : KeyColumnUsage} :
    usage ∈ table.keyColumns ↔
      (∃ key ∈ table.primary_key, usage ∈ table.usagesOf key.constraint_name key.columns) ∨
      (∃ key ∈ table.uniques, usage ∈ table.usagesOf key.constraint_name key.columns) ∨
      ∃ key ∈ table.foreign_keys, usage ∈ table.usagesOf key.constraint_name key.columns := by
  unfold SourceTable.keyColumns
  simp only [List.mem_append, List.mem_flatMap, Option.mem_toList, Option.mem_def]

theorem keyColumns_tableKey {table : SourceTable} {usage : KeyColumnUsage}
    (h : usage ∈ table.keyColumns) :
    usage.tableKey = table.key ∧ usage.constraint_schema = table.table_schema := by
  rcases mem_keyColumns.mp h with ⟨key, -, h⟩ | ⟨key, -, h⟩ | ⟨key, -, h⟩ <;>
    obtain ⟨column, -, rfl⟩ := mem_usagesOf.mp h <;> exact ⟨rfl, rfl⟩

theorem mem_primaryKeyNames {name : String} :
    name ∈ catalog.primaryKeyNames ↔ catalog.IsPrimaryKeyName name := by
  unfold SourceCatalog.primaryKeyNames SourceCatalog.tableConstraints
  constructor
  · intro h
    obtain ⟨constraint, hconstraint, rfl⟩ := List.mem_map.mp h
    obtain ⟨hconstraint, htype⟩ := List.mem_filter.mp hconstraint
    obtain ⟨table, htable, hconstraint⟩ := List.mem_flatMap.mp hconstraint
    simp only [SourceTable.constraints, List.mem_append, List.mem_map, Option.mem_toList]
      at hconstraint
    rcases hconstraint with ((⟨key, hkey, rfl⟩ | ⟨key, -, rfl⟩) | ⟨key, -, rfl⟩) | ⟨key, -, rfl⟩
    · exact ⟨table, htable, key, hkey, rfl⟩
    · simp [SourceTable.constraint] at htype
    · simp [SourceTable.constraint] at htype
    · simp [SourceTable.constraint] at htype
  · rintro ⟨table, htable, key, hkey, rfl⟩
    refine List.mem_map.mpr ⟨table.constraint .primaryKey key.constraint_name, ?_, rfl⟩
    refine List.mem_filter.mpr ⟨List.mem_flatMap.mpr ⟨table, htable, ?_⟩, by rfl⟩
    simp only [SourceTable.constraints, List.mem_append, List.mem_map, Option.mem_toList]
    exact Or.inl (Or.inl (Or.inl ⟨key, hkey, rfl⟩))

/-- The rows of the key query for a listed table are its key columns under names of primary
keys. -/
theorem primaryKeyQuery_filter {table : SourceTable} (htable : table ∈ catalog.listedTables) :
    catalog.primaryKeyQuery.filter (fun usage => usage.tableKey = table.key) =
      table.keyColumns.filter (fun usage => usage.constraint_name ∈ catalog.primaryKeyNames) := by
  obtain ⟨hmem, hlisted⟩ := mem_listedTables.mp htable
  have hsystem : table.table_schema ∉ systemSchemas := not_mem_systemSchemas hlisted
  have hkey : ∀ other ∈ catalog.tables, ∀ usage ∈ other.keyColumns,
      KeyColumnUsage.tableKey usage = other.key :=
    fun other _ usage husage => (keyColumns_tableKey husage).1
  rw [← Groups.filter_flatMap_of_key catalog.tables_nodup hkey hmem]
  unfold SourceCatalog.primaryKeyQuery SourceCatalog.keyColumnUsage
  rw [List.filter_filter, List.filter_filter]
  refine List.filter_congr (fun usage _ => ?_)
  by_cases husage : usage.tableKey = table.key
  · have hschema : usage.table_schema = table.table_schema := (Prod.mk.inj husage).1
    simp [husage, hschema, hsystem]
  · simp [husage]

theorem primaryUsages_named {table : SourceTable} (htable : table ∈ catalog.tables) :
    table.primaryUsages.filter (fun usage => usage.constraint_name ∈ catalog.primaryKeyNames) =
      table.primaryUsages := by
  rw [List.filter_eq_self]
  intro usage husage
  obtain ⟨key, hkey, husage⟩ := List.mem_flatMap.mp husage
  obtain ⟨column, -, rfl⟩ := mem_usagesOf.mp husage
  exact decide_eq_true
    (mem_primaryKeyNames.mpr ⟨table, htable, key, Option.mem_toList.mp hkey, rfl⟩)

theorem primaryUsages_column_name (table : SourceTable) :
    table.primaryUsages.map KeyColumnUsage.column_name = table.primaryKeyColumns := by
  unfold SourceTable.primaryUsages SourceTable.primaryKeyColumns
  rw [List.map_flatMap]
  simp only [usagesOf_column_name]

/-- The columns of a primary key come in key order. -/
theorem primaryUsages_sorted (table : SourceTable) :
    table.primaryUsages.Pairwise (fun a b => a.sortKey < b.sortKey) := by
  unfold SourceTable.primaryUsages
  cases table.primary_key with
  | none => exact List.Pairwise.nil
  | some key =>
    rw [Option.toList_some, List.flatMap_singleton]
    unfold SourceTable.usagesOf
    rw [List.pairwise_map]
    have hpositions : ((key.columns.zipIdx 1).map Prod.snd).Pairwise (· < ·) := by
      rw [List.zipIdx_map_snd]
      exact List.pairwise_lt_range'
    refine (List.pairwise_map.mp hpositions).imp (fun hlt => ?_)
    simpa [KeyColumnUsage.sortKey, Prod.Lex.toLex_lt_toLex] using hlt

/-- Every other key has a column. -/
theorem exists_otherUsage {table : SourceTable} {name : String}
    (hname : name ∈ table.otherKeyNames) :
    ∃ usage ∈ table.otherUsages, usage.constraint_name = name := by
  have hfirst : ∀ columns : List String, columns ≠ [] →
      ∃ usage ∈ table.usagesOf name columns, usage.constraint_name = name := by
    intro columns hne
    obtain ⟨column, rest, rfl⟩ := List.exists_cons_of_ne_nil hne
    exact ⟨_, mem_usagesOf.mpr ⟨(column, 1), List.mem_cons_self, rfl⟩, rfl⟩
  unfold SourceTable.otherUsages
  rcases List.mem_append.mp hname with hname | hname
  · obtain ⟨key, hkey, rfl⟩ := List.mem_map.mp hname
    obtain ⟨usage, husage, he⟩ := hfirst key.columns key.columns_ne
    exact ⟨usage, List.mem_append_left _ (List.mem_flatMap.mpr ⟨key, hkey, husage⟩), he⟩
  · obtain ⟨key, hkey, rfl⟩ := List.mem_map.mp hname
    obtain ⟨usage, husage, he⟩ := hfirst key.columns key.columns_ne
    exact ⟨usage, List.mem_append_right _ (List.mem_flatMap.mpr ⟨key, hkey, husage⟩), he⟩

theorem otherUsage_name {table : SourceTable} {usage : KeyColumnUsage}
    (h : usage ∈ table.otherUsages) : usage.constraint_name ∈ table.otherKeyNames := by
  rcases List.mem_append.mp h with h | h
  · obtain ⟨key, hkey, h⟩ := List.mem_flatMap.mp h
    obtain ⟨column, -, rfl⟩ := mem_usagesOf.mp h
    exact List.mem_append_left _ (List.mem_map.mpr ⟨key, hkey, rfl⟩)
  · obtain ⟨key, hkey, h⟩ := List.mem_flatMap.mp h
    obtain ⟨column, -, rfl⟩ := mem_usagesOf.mp h
    exact List.mem_append_right _ (List.mem_map.mpr ⟨key, hkey, rfl⟩)

/-- The other keys add nothing exactly when none of them is named like a primary key. -/
theorem otherUsages_named_iff {table : SourceTable} :
    table.otherUsages.filter (fun usage => usage.constraint_name ∈ catalog.primaryKeyNames) = [] ↔
      table.NamedApart catalog := by
  rw [List.filter_eq_nil_iff]
  constructor
  · intro h name hname hprimary
    obtain ⟨usage, husage, rfl⟩ := exists_otherUsage hname
    exact h usage husage (decide_eq_true (mem_primaryKeyNames.mpr hprimary))
  · intro h usage husage hnamed
    exact h _ (otherUsage_name husage) (mem_primaryKeyNames.mp (of_decide_eq_true hnamed))

theorem primaryKeys_get {usages : List KeyColumnUsage}
    (hrows : rows.primary_key_rows = usages.map KeyColumnUsage.record) (table : SourceTable) :
    ((primaryKeys rows).get table.key).getD [] =
      (usages.filter (fun usage => usage.tableKey = table.key)).map
        KeyColumnUsage.column_name := by
  have h := Groups.getD_foldl_append (fun row : PrimaryKeyRecord =>
    (row.table_schema, row.table_name)) PrimaryKeyRecord.column_name rows.primary_key_rows
    table.key
  unfold primaryKeys
  refine h.trans ?_
  rw [hrows, List.filter_map, List.map_map]
  rfl

/-- The primary key of a listed table is discovered exactly when its other keys are named apart
from all primary keys. -/
theorem primary_key_iff (h : catalog.Answers rows) {table : SourceTable}
    (htable : table ∈ catalog.listedTables) :
    ((primaryKeys rows).get table.key).getD [] = table.primaryKeyColumns ↔
      table.NamedApart catalog := by
  obtain ⟨usages, hordered, hrows⟩ := h.primary_keys
  have hof := hordered.filter (fun usage => usage.tableKey = table.key)
  rw [primaryKeyQuery_filter htable, keyColumns_eq, List.filter_append,
    primaryUsages_named (mem_listedTables.mp htable).1] at hof
  rw [primaryKeys_get hrows, ← otherUsages_named_iff]
  constructor
  · intro heq
    have hlength := congrArg List.length heq
    rw [List.length_map, hof.perm.length_eq, List.length_append, ← primaryUsages_column_name,
      List.length_map] at hlength
    apply List.eq_nil_of_length_eq_zero
    omega
  · intro hnone
    rw [hnone, List.append_nil] at hof
    rw [hof.eq_self (primaryUsages_sorted table), primaryUsages_column_name]

/-! ## Foreign keys -/

def JoinedRow.tableKey (row : JoinedRow) : String × String :=
  (row.1.table_schema, row.1.table_name)

def JoinedRow.target (row : JoinedRow) : String × String × String :=
  (row.2.2.table_schema, row.2.2.table_name, row.2.2.column_name)

/-- The entry that the row writes, if it is for the column. -/
def JoinedRow.targetFor (table : SourceTable) (column : String) (row : JoinedRow) :
    Option (String × String × String) :=
  if row.tableKey = table.key ∧ row.2.1.column_name = column then some row.target else none

theorem targetFor_ne_none {table : SourceTable} {column : String} {row : JoinedRow} :
    row.targetFor table column ≠ none ↔
      row.tableKey = table.key ∧ row.2.1.column_name = column := by
  simp [JoinedRow.targetFor]

theorem targetFor_eq_some {table : SourceTable} {column : String} {row : JoinedRow}
    {target : String × String × String} : row.targetFor table column = some target ↔
      (row.tableKey = table.key ∧ row.2.1.column_name = column) ∧ row.target = target := by
  simp [JoinedRow.targetFor]

/-- The dictionary keeps the last row for a column. -/
theorem foreignKeys_get {joined : List JoinedRow}
    (hrows : rows.foreign_key_rows = joined.map JoinedRow.record) (table : SourceTable)
    (column : String) :
    (foreignKeys rows).get (table.table_schema, table.table_name, column) =
      joined.reverse.findSome? (JoinedRow.targetFor table column) := by
  have h := Groups.get_foldl_set
    (fun row : ForeignKeyRecord => (row.table_schema, row.table_name, row.column_name))
    (fun row => (row.referenced_schema, row.referenced_table, row.referenced_column))
    rows.foreign_key_rows (table.table_schema, table.table_name, column)
  unfold foreignKeys
  refine h.trans ?_
  rw [hrows, ← List.map_reverse, List.findSome?_map]
  congr 1
  funext row
  simp only [Function.comp_apply, JoinedRow.targetFor, JoinedRow.record, JoinedRow.tableKey,
    SourceTable.key, JoinedRow.target, Prod.mk.injEq, and_assoc]
  exact if_congr Iff.rfl rfl rfl

theorem sortKey_le_iff {table : SourceTable} {a b : JoinedRow} (ha : a.tableKey = table.key)
    (hb : b.tableKey = table.key) :
    a.sortKey ≤ b.sortKey ↔ a.2.1.ordinal_position ≤ b.2.1.ordinal_position := by
  obtain ⟨hschema, hname⟩ := Prod.mk.inj (ha.trans hb.symm)
  simp [JoinedRow.sortKey, Prod.Lex.toLex_le_toLex, hschema, hname]

theorem mem_views {constraint : TableConstraint} {usage : KeyColumnUsage}
    {used : ConstraintColumnUsage} : ((constraint, usage, used) : JoinedRow) ∈
      catalog.tableConstraints ×ˢ catalog.keyColumnUsage ×ˢ catalog.constraintColumnUsage ↔
      constraint ∈ catalog.tableConstraints ∧ usage ∈ catalog.keyColumnUsage ∧
        used ∈ catalog.constraintColumnUsage :=
  List.mem_product.trans (and_congr_right' List.mem_product)

/-- The joined rows of a listed table: one of its foreign keys, with a key column and a used
column that constraints of that name have. -/
theorem mem_foreignKeyQuery {table : SourceTable} (htable : table ∈ catalog.listedTables)
    {row : JoinedRow} : row ∈ catalog.foreignKeyQuery ∧ row.tableKey = table.key ↔
      ∃ key ∈ table.foreign_keys, row.1 = table.constraint .foreignKey key.constraint_name ∧
        (row.2.1 ∈ catalog.keyColumnUsage ∧ row.2.1.constraint_schema = table.table_schema ∧
          row.2.1.constraint_name = key.constraint_name) ∧
        (row.2.2 ∈ catalog.constraintColumnUsage ∧
          row.2.2.constraint_schema = table.table_schema ∧
          row.2.2.constraint_name = key.constraint_name) := by
  obtain ⟨hmem, hlisted⟩ := mem_listedTables.mp htable
  have hsystem : table.table_schema ∉ systemSchemas := not_mem_systemSchemas hlisted
  obtain ⟨constraint, usage, used⟩ := row
  unfold SourceCatalog.foreignKeyQuery
  simp only [List.mem_filter, mem_views, JoinedRow.matching, decide_eq_true_eq]
  constructor
  · rintro ⟨⟨⟨⟨hconstraint, husage, hused⟩, hname, hschema, hname', hschema'⟩, htype, -⟩, hkey⟩
    obtain ⟨other, hother, hconstraint⟩ := List.mem_flatMap.mp hconstraint
    simp only [SourceTable.constraints, List.mem_append, List.mem_map, Option.mem_toList]
      at hconstraint
    rcases hconstraint with ((⟨key, -, rfl⟩ | ⟨key, -, rfl⟩) | ⟨key, hforeign, rfl⟩) | ⟨key, -, rfl⟩
    · simp [SourceTable.constraint] at htype
    · simp [SourceTable.constraint] at htype
    · have hsame : other = table := List.inj_on_of_nodup_map catalog.tables_nodup hother hmem hkey
      subst hsame
      exact ⟨key, hforeign, rfl, ⟨husage, hschema.symm, hname.symm⟩, hused, hschema'.symm,
        hname'.symm⟩
    · simp [SourceTable.constraint] at htype
  · rintro ⟨key, hforeign, rfl, ⟨husage, hschema, hname⟩, hused, hschema', hname'⟩
    have hconstraint : table.constraint .foreignKey key.constraint_name ∈
        catalog.tableConstraints := by
      refine List.mem_flatMap.mpr ⟨table, hmem, ?_⟩
      simp only [SourceTable.constraints, List.mem_append, List.mem_map]
      exact Or.inl (Or.inr ⟨key, hforeign, rfl⟩)
    exact ⟨⟨⟨⟨hconstraint, husage, hused⟩, hname.symm, hschema.symm, hname'.symm,
      hschema'.symm⟩, rfl, hsystem⟩, rfl⟩

section Column

variable {table : SourceTable} (htable : table ∈ catalog.listedTables) {column : String}

include htable

/-- What a joined row for a column says. -/
theorem row_says {row : JoinedRow} (hrow : row ∈ catalog.foreignKeyQuery)
    (hmatters : row.targetFor table column ≠ none) :
    ∃ key ∈ table.foreign_keys,
      catalog.HasKeyColumn table.table_schema key.constraint_name column
        row.2.1.ordinal_position ∧
      catalog.Uses table.table_schema key.constraint_name row.target := by
  obtain ⟨hkey, hcolumn⟩ := targetFor_ne_none.mp hmatters
  obtain ⟨key, hforeign, -, ⟨husage, hschema, hname⟩, hused, hschema', hname'⟩ :=
    (mem_foreignKeyQuery htable).mp ⟨hrow, hkey⟩
  exact ⟨key, hforeign, ⟨row.2.1, husage, hschema, hname, hcolumn, rfl⟩,
    ⟨row.2.2, hused, hschema', hname', rfl⟩⟩

/-- Every position and every used column of the name meet in a joined row. -/
theorem exists_row {key : SourceForeignKey} (hkey : key ∈ table.foreign_keys) {position : Nat}
    (hposition : catalog.HasKeyColumn table.table_schema key.constraint_name column position)
    {target : String × String × String}
    (htarget : catalog.Uses table.table_schema key.constraint_name target) :
    ∃ row ∈ catalog.foreignKeyQuery, row.targetFor table column = some target ∧
      row.2.1.ordinal_position = position := by
  obtain ⟨usage, husage, hschema, hname, hcolumn, rfl⟩ := hposition
  obtain ⟨used, hused, hschema', hname', rfl⟩ := htarget
  let row : JoinedRow := (table.constraint .foreignKey key.constraint_name, usage, used)
  have hjoined : row ∈ catalog.foreignKeyQuery ∧ row.tableKey = table.key :=
    (mem_foreignKeyQuery htable).mpr
      ⟨key, hkey, rfl, ⟨husage, hschema, hname⟩, hused, hschema', hname'⟩
  obtain ⟨hrow, htableKey⟩ := hjoined
  exact ⟨row, hrow, targetFor_eq_some.mpr ⟨⟨htableKey, hcolumn⟩, rfl⟩, rfl⟩

theorem exists_uses {key : SourceForeignKey} (hkey : key ∈ table.foreign_keys) :
    ∃ target, catalog.Uses table.table_schema key.constraint_name target := by
  obtain ⟨column, rest, hcolumns⟩ := List.exists_cons_of_ne_nil key.referenced_columns_ne
  have hmem : column ∈ key.referenced_columns := by
    rw [hcolumns]
    exact List.mem_cons_self
  have hused : ⟨table.table_schema, key.constraint_name, key.referenced_schema,
      key.referenced_table, column⟩ ∈ table.usedColumns :=
    List.mem_append_right _ (List.mem_flatMap.mpr ⟨key, hkey, List.mem_map_of_mem hmem⟩)
  exact ⟨_, _, List.mem_flatMap.mpr ⟨table, (mem_listedTables.mp htable).1, hused⟩, rfl, rfl, rfl⟩

theorem exists_position {key : SourceForeignKey} (hkey : key ∈ table.foreign_keys)
    (hcolumn : column ∈ key.columns) :
    ∃ position, catalog.HasKeyColumn table.table_schema key.constraint_name column position := by
  rw [← List.zipIdx_map_fst 1 key.columns] at hcolumn
  obtain ⟨entry, hentry, rfl⟩ := List.mem_map.mp hcolumn
  have husage : ⟨table.table_schema, key.constraint_name, table.table_schema, table.table_name,
      entry.1, entry.2⟩ ∈ table.keyColumns :=
    mem_keyColumns.mpr (Or.inr (Or.inr ⟨key, hkey, mem_usagesOf.mpr ⟨entry, hentry, rfl⟩⟩))
  exact ⟨entry.2, _, List.mem_flatMap.mpr ⟨table, (mem_listedTables.mp htable).1, husage⟩, rfl,
    rfl, rfl, rfl⟩

/-- The foreign key of a column gives it a reference, and where the names pair it, the one the
key has for it. -/
theorem paired_of_named (h : catalog.Answers rows) {key : SourceForeignKey}
    (hkey : key ∈ table.foreign_keys) (hcolumn : column ∈ key.columns)
    (hpaired : table.PairedByName catalog column key) :
    ∃ target, key.Pairs column target ∧
      (foreignKeys rows).get (table.table_schema, table.table_name, column) = some target := by
  obtain ⟨joined, hordered, hrows⟩ := h.foreign_keys
  rw [foreignKeys_get hrows]
  obtain ⟨position, hposition⟩ := exists_position htable hkey hcolumn
  obtain ⟨used, hused⟩ := exists_uses htable hkey
  obtain ⟨row, hrow, htarget, -⟩ := exists_row htable hkey hposition hused
  cases hlast : joined.reverse.findSome? (JoinedRow.targetFor table column) with
  | none =>
    have hnone := List.findSome?_eq_none_iff.mp hlast row
      (List.mem_reverse.mpr (hordered.mem_iff.mpr hrow))
    rw [hnone] at htarget
    cases htarget
  | some target =>
    refine ⟨target, ?_, rfl⟩
    obtain ⟨last, hmem, hsome, hgreatest⟩ := hordered.findSome?_reverse hlast
    have hmatters : last.targetFor table column ≠ none := by
      rw [hsome]
      exact Option.some_ne_none target
    obtain ⟨⟨hlastKey, -⟩, rfl⟩ := targetFor_eq_some.mp hsome
    obtain ⟨named, hnamed, hlastPosition, hlastTarget⟩ := row_says htable hmem hmatters
    refine hpaired named hnamed _ hlastPosition ?_ _ hlastTarget
    intro other hother position' hposition'
    obtain ⟨used', hused'⟩ := exists_uses htable hother
    obtain ⟨row', hrow', htarget', rfl⟩ := exists_row htable hother hposition' hused'
    have hmatters' : row'.targetFor table column ≠ none := by
      rw [htarget']
      exact Option.some_ne_none used'
    have hle := hgreatest row' hrow' hmatters'
    exact (sortKey_le_iff (targetFor_eq_some.mp htarget').1.1 hlastKey).mp hle

/-- A column may be given any reference that its names lead to from its last position. -/
theorem exists_answers_of_named {key : SourceForeignKey} (hkey : key ∈ table.foreign_keys)
    {position : Nat}
    (hposition : catalog.HasKeyColumn table.table_schema key.constraint_name column position)
    (hlast : ∀ other ∈ table.foreign_keys, ∀ position',
      catalog.HasKeyColumn table.table_schema other.constraint_name column position' →
      position' ≤ position) {target : String × String × String}
    (htarget : catalog.Uses table.table_schema key.constraint_name target) :
    ∃ rows, catalog.Answers rows ∧
      (foreignKeys rows).get (table.table_schema, table.table_name, column) = some target := by
  obtain ⟨row, hrow, hsome, rfl⟩ := exists_row htable hkey hposition htarget
  have hgreatest : ∀ other ∈ catalog.foreignKeyQuery, other.targetFor table column ≠ none →
      other.sortKey ≤ row.sortKey := by
    intro other hother hmatters
    obtain ⟨named, hnamed, hother', -⟩ := row_says htable hother hmatters
    rw [sortKey_le_iff (targetFor_ne_none.mp hmatters).1 (targetFor_eq_some.mp hsome).1.1]
    exact hlast named hnamed _ hother'
  obtain ⟨joined, hordered, hfound⟩ := exists_orderedBy_last hrow hgreatest hsome
  obtain ⟨rows, hanswers, hrows⟩ := exists_answers catalog hordered
  refine ⟨rows, hanswers, ?_⟩
  rw [foreignKeys_get hrows]
  exact hfound

end Column

theorem discoveredColumn_references {table : SourceTable} {column : SourceColumn}
    {target : String × String × String}
    (h : (foreignKeys rows).get (table.table_schema, table.table_name, column.column_name) =
      some target) :
    (discoveredColumn rows (table.columnRow column)).References target := by
  unfold DiscoveredColumn.References discoveredColumn SourceTable.columnRow
  dsimp only
  rw [h]
  exact ⟨rfl, rfl, rfl, rfl⟩

theorem DiscoveredColumn.References.unique {column : DiscoveredColumn}
    {target target' : String × String × String} (h : column.References target)
    (h' : column.References target') : target = target' := by
  obtain ⟨-, hschema, htable, hcolumn⟩ := h
  obtain ⟨-, hschema', htable', hcolumn'⟩ := h'
  rw [hschema] at hschema'
  rw [htable] at htable'
  rw [hcolumn] at hcolumn'
  exact Prod.ext (Option.some.inj hschema')
    (Prod.ext (Option.some.inj htable') (Option.some.inj hcolumn'))

theorem exists_found (h : catalog.Answers rows) {table : SourceTable}
    (htable : table ∈ catalog.listedTables) :
    ∃ found ∈ (buildDiscoveryResult rows).tables, found.key = table.key :=
  List.mem_map.mp ((discovered_once h).mem_iff.mpr (List.mem_map_of_mem htable))

/-! ## The discovered table -/

theorem tableDiscovered (h : catalog.Answers rows) {table : SourceTable}
    (htable : table ∈ catalog.listedTables) (hnamed : table.KeysByName catalog)
    {found : DiscoveredTable} (hfound : found ∈ (buildDiscoveryResult rows).tables)
    (hkey : found.key = table.key) : TableDiscovered table found where
  columns_once := found_columns_once h htable hfound hkey
  in_order := found_in_order h htable hfound hkey
  key_order := by
    rw [(eq_of_discovered h hfound).1, hkey]
    exact (primary_key_iff h htable).mpr hnamed.primary
  is_primary := by
    intro column hcolumn
    obtain ⟨sourceColumn, -, rfl⟩ := exists_column h htable hfound hkey hcolumn
    rw [← (primary_key_iff h htable).mpr hnamed.primary]
    exact decide_eq_true_iff
  is_foreign := by
    intro column hcolumn key hone
    obtain ⟨sourceColumn, hsource, rfl⟩ := exists_column h htable hfound hkey hcolumn
    have hmem : key ∈ table.foreignKeysOf sourceColumn.column_name := by
      have hone' : table.foreignKeysOf sourceColumn.column_name = [key] := hone
      rw [hone']
      exact List.mem_cons_self
    obtain ⟨hforeign, hof⟩ := List.mem_filter.mp hmem
    obtain ⟨target, hpairs, hget⟩ := paired_of_named htable h hforeign (of_decide_eq_true hof)
      (hnamed.foreign sourceColumn hsource key hone)
    exact ⟨target, hpairs, discoveredColumn_references hget⟩

/-- In every answer the keys are discovered exactly when the names tell the keys apart. -/
theorem keysDiscovered_iff (catalog : SourceCatalog) :
    (∀ rows, catalog.Answers rows → KeysDiscovered catalog (buildDiscoveryResult rows)) ↔
      ∀ table ∈ catalog.listedTables, table.KeysByName catalog := by
  constructor
  · intro hall table htable
    constructor
    · -- any answer shows the columns of the primary key
      obtain ⟨joined, hjoined⟩ := exists_orderedBy JoinedRow.sortKey catalog.foreignKeyQuery
      obtain ⟨rows, h, -⟩ := exists_answers catalog hjoined
      obtain ⟨found, hfound, hkey⟩ := exists_found h htable
      have horder := ((hall rows h).tables table htable found hfound hkey).key_order
      rw [(eq_of_discovered h hfound).1, hkey] at horder
      exact (primary_key_iff h htable).mp horder
    · -- each reference that the names allow is the last one in some answer
      intro column hcolumn key hone named hnamed position hposition hlast target htarget
      obtain ⟨rows, h, hget⟩ := exists_answers_of_named htable hnamed hposition hlast htarget
      obtain ⟨found, hfound, hkey⟩ := exists_found h htable
      obtain ⟨target', hpairs, hreferences⟩ :=
        ((hall rows h).tables table htable found hfound hkey).is_foreign _
          (mem_found_columns h htable hfound hkey hcolumn) key hone
      rw [(discoveredColumn_references hget).unique hreferences]
      exact hpairs
  · intro hnamed rows h
    exact ⟨discovered_once h, discovered_in_schema rows, fun table htable found hfound hkey =>
      tableDiscovered h htable (hnamed table htable) hfound hkey⟩

end Answered

/-! ### A foreign key of two columns -/

def regions : SourceTable where
  table_schema := "public"
  table_name := "regions"
  table_type := .baseTable
  columns := [⟨"country", "text", 1, false⟩, ⟨"code", "text", 2, false⟩]
  primary_key := some ⟨"regions_pkey", ["country", "code"], by decide⟩
  uniques := []
  foreign_keys := []
  checks := []
  names_nodup := by decide
  positions_nodup := by decide

def stores : SourceTable where
  table_schema := "public"
  table_name := "stores"
  table_type := .baseTable
  columns := [⟨"country", "text", 1, false⟩, ⟨"region", "text", 2, false⟩]
  primary_key := none
  uniques := []
  foreign_keys := [⟨"stores_region_fkey", "public", "regions",
    [("country", "country"), ("region", "code")], by decide⟩]
  checks := []
  names_nodup := by decide
  positions_nodup := by decide

def regionsCatalog : SourceCatalog where
  schemata := ["public"]
  tables := [regions, stores]
  schemata_nodup := by decide
  tables_nodup := by decide
  schema_mem := by decide

def regionsRows : CatalogueRows where
  schema_rows := [⟨"public"⟩]
  table_rows := [⟨"public", "regions", "table"⟩, ⟨"public", "stores", "table"⟩]
  column_rows := [⟨"public", "regions", "country", "text", 1, "NO"⟩,
    ⟨"public", "regions", "code", "text", 2, "NO"⟩,
    ⟨"public", "stores", "country", "text", 1, "NO"⟩,
    ⟨"public", "stores", "region", "text", 2, "NO"⟩]
  primary_key_rows := [⟨"public", "regions", "country"⟩, ⟨"public", "regions", "code"⟩]
  foreign_key_rows := [⟨"public", "stores", "country", "public", "regions", "country"⟩,
    ⟨"public", "stores", "country", "public", "regions", "code"⟩,
    ⟨"public", "stores", "region", "public", "regions", "country"⟩,
    ⟨"public", "stores", "region", "public", "regions", "code"⟩]
  row_count_rows := []

theorem regionsRows_answer : regionsCatalog.Answers regionsRows where
  schemas := ⟨["public"], ⟨List.Perm.of_eq (by rfl), by decide⟩, by rfl⟩
  tables := ⟨List.Perm.of_eq (by rfl), by decide⟩
  columns := ⟨List.Perm.of_eq (by rfl), by decide⟩
  primary_keys := ⟨regionsCatalog.primaryKeyQuery, ⟨List.Perm.refl _, by decide⟩, by rfl⟩
  foreign_keys := ⟨regionsCatalog.foreignKeyQuery, ⟨List.Perm.refl _, by decide⟩, by rfl⟩

/-- The country of a store is marked as a reference to the code of a region. -/
theorem country_misread : regionsCatalog.Answers regionsRows ∧
    ¬ KeysDiscovered regionsCatalog (buildDiscoveryResult regionsRows) := by
  refine ⟨regionsRows_answer, fun h => ?_⟩
  have hlisted : stores ∈ regionsCatalog.listedTables := List.mem_cons_of_mem _ List.mem_cons_self
  obtain ⟨found, hfound, hkey⟩ := exists_found regionsRows_answer hlisted
  have hcountry := mem_found_columns regionsRows_answer hlisted hfound hkey List.mem_cons_self
  obtain ⟨target, ⟨referenced, hpair, rfl⟩, -, -, -, hcolumn⟩ :=
    (h.tables stores hlisted found hfound hkey).is_foreign _ hcountry _ rfl
  have hcode : some "code" = some referenced := hcolumn
  rw [← Option.some.inj hcode] at hpair
  exact absurd hpair (by decide)

end DataChat.Platform
