import DataChat.Executor.ResultSize

/-!
# The cells of a result

A record is positional and its labels may repeat; a row is a dictionary, in which a label that
repeats has one value. `columns` keeps all labels.

* `serializeRecord_items`: with distinct labels, a row has one item for each item of its record.
* `cellsKept_iff`: the columns and the rows can be zipped back to the records exactly when the
  labels are distinct.
* `repeated_label_lost`: a cell that is lost.
-/

namespace DataChat.Executor

open Outcome

variable {rt : PyRuntime} {masks : Dict String String}

/-! ## Rows and records -/

/-- The cell that an item of a record should become. -/
def IsCell (rt : PyRuntime) (masks : Dict String String) (item : String × PyValue)
    (cell : PyValue) : Prop :=
  applyMask rt (serializeDatabaseValue rt item.2) (masks.get (rt.casing.lower item.1)) = .ok cell

/-- With distinct labels, a row has one item for each item of its record. -/
theorem serializeRecord_items {record : Record} {row : Row}
    (hdistinct : (record.map Prod.fst).Nodup) (h : serializeRecord rt masks record = .ok row) :
    List.Forall₂ (fun item p => p.1 = item.1 ∧ IsCell rt masks item p.2) record row.items := by
  refine foldlM_ok_induction (fun done row => List.Forall₂
    (fun item p => p.1 = item.1 ∧ IsCell rt masks item p.2) done row.items) .nil ?_ h
  intro done item rest row row' hsplit hrow hpass
  obtain ⟨masked, hmasked, rfl⟩ := serializeCell_ok hpass
  have hkeys : row.keys = done.map Prod.fst := by
    unfold Dict.keys
    have hsame := List.forall₂_map_right_iff.mpr
      (List.forall₂_map_left_iff.mpr (hrow.imp fun _ _ hpair => hpair.1.symm))
    exact (List.forall₂_eq_eq_eq ▸ hsame).symm
  rw [← hsplit, List.map_append, List.map_cons, ← hkeys] at hdistinct
  rw [Dict.items_set_of_nodup row masked hdistinct]
  exact List.rel_append hrow (.cons ⟨rfl, hmasked⟩ .nil)

/-- The labels of a row are among those of its record. -/
theorem keys_subset {record : Record} {row : Row} (h : serializeRecord rt masks record = .ok row) :
    row.keys ⊆ record.map Prod.fst := by
  refine foldlM_ok_induction (fun done row => row.keys ⊆ done.map Prod.fst)
    (fun key hkey => absurd hkey List.not_mem_nil) ?_ h
  intro done item rest row row' _ hrow hpass key hkey
  obtain ⟨masked, -, rfl⟩ := serializeCell_ok hpass
  obtain ⟨p, hp, rfl⟩ := List.mem_map.mp hkey
  rw [List.map_append, List.mem_append]
  rcases (Dict.mem_items_set row item.1 masked p).mp hp with rfl | ⟨-, hp⟩
  · exact .inr (by simp)
  · exact .inl (hrow (List.mem_map_of_mem hp))

/-! ## What should hold -/

/-- Each row has one value for each column, and it is that of the record. -/
def CellsKept (rt : PyRuntime) (schema : AllowedSchema) (records : List Record)
    (result : QueryExecutionResult) : Prop :=
  List.Forall₂ (fun record row =>
    row.values.length = result.columns.length ∧
      List.Forall₂ (IsCell rt (getColumnMasks rt schema)) record row.values)
    records result.rows

/-- The labels of a result. -/
theorem execute_columns {schema : AllowedSchema} {timeoutSeconds maximum elapsedMs : Int}
    {records : List Record} {result : QueryExecutionResult}
    (h : executePostgresqlQuery rt schema timeoutSeconds maximum (.ok records) elapsedMs =
      .ok result) : result.columns = columnsOf records := by
  unfold executePostgresqlQuery at h
  obtain ⟨-, h⟩ := guard_ok_iff.mp h
  obtain ⟨-, h⟩ := guard_ok_iff.mp h
  obtain ⟨rows, -, h⟩ := bind_ok_iff.mp h
  obtain ⟨size, -, h⟩ := bind_ok_iff.mp h
  rw [← pure_ok_iff.mp h]

/-- A row with as many values as labels: the labels are distinct. -/
theorem labels_nodup {record : Record} {row : Row}
    (h : serializeRecord rt masks record = .ok row)
    (hlength : row.values.length = record.length) : (record.map Prod.fst).Nodup := by
  refine nodup_of_nodup_subset row.nodup (keys_subset h) ?_
  simp only [Dict.values, List.length_map] at hlength ⊢
  omega

/-- No cell is lost exactly when the labels are distinct. -/
theorem cellsKept_iff (rt : PyRuntime) (schema : AllowedSchema)
    (timeoutSeconds maximumResultBytes elapsedMs : Int) (columns : List String)
    (records : List Record) (hne : records ≠ [])
    (hcolumns : ∀ record ∈ records, record.map Prod.fst = columns)
    (result : QueryExecutionResult)
    (hresult : executePostgresqlQuery rt schema timeoutSeconds maximumResultBytes (.ok records)
      elapsedMs = .ok result) :
    CellsKept rt schema records result ↔ columns.Nodup := by
  have hrows := execute_rows hresult
  have hlabels : result.columns = columns := by
    obtain ⟨record, rest, rfl⟩ := List.exists_cons_of_ne_nil hne
    rw [execute_columns hresult]
    exact hcolumns record List.mem_cons_self
  unfold CellsKept
  constructor
  · intro hkept
    obtain ⟨record, rest, rfl⟩ := List.exists_cons_of_ne_nil hne
    have hnames := hcolumns record List.mem_cons_self
    rw [List.forall₂_cons_left_iff] at hrows
    obtain ⟨row, rows, hrow, -, hsplit⟩ := hrows
    rw [hsplit, List.forall₂_cons, hlabels, ← hnames, List.length_map] at hkept
    rw [← hnames]
    exact labels_nodup hrow hkept.1.1
  · intro hdistinct
    have hboth := List.forall₂_iff_get.mp hrows
    refine List.forall₂_iff_get.mpr ⟨hboth.1, fun i hi hi' => ?_⟩
    have hrow := hboth.2 i hi hi'
    have hnames := hcolumns _ (List.get_mem records ⟨i, hi⟩)
    have hitems := serializeRecord_items (hnames ▸ hdistinct) hrow
    refine ⟨?_, ?_⟩
    · rw [hlabels, ← hnames, List.length_map, Dict.values, List.length_map]
      exact hitems.length_eq.symm
    · unfold Dict.values
      rw [List.forall₂_map_right_iff]
      exact hitems.imp fun _ _ hpair => hpair.2

/-! ## Two results -/

/-- A schema without tables. -/
def bareSchema : AllowedSchema where
  connection_id := "warehouse"
  tables := Dict.empty

/-- `SELECT o.id, c.id`, with other labels. -/
def aliasedIds : List Record := [[("order_id", .int 1), ("customer_id", .int 2)]]

theorem aliasedIds_kept :
    CellsKept plainRuntime bareSchema aliasedIds
      ⟨["order_id", "customer_id"],
        [(Dict.empty.set "order_id" (.int 1)).set "customer_id" (.int 2)], 1, 78, 4, false⟩ :=
  (cellsKept_iff plainRuntime bareSchema 30 1000 4 ["order_id", "customer_id"] aliasedIds
    (List.cons_ne_nil _ _) (by simp [aliasedIds]) _
    (execute_serialized (by omega) (by omega) (.cons rfl .nil) (List.cons_ne_nil _ _)
      (by decide +kernel) (by omega))).mpr (by simp)

/-- `SELECT o.id, c.id`. -/
def repeatedIds : List Record := [[("id", .int 1), ("id", .int 2)]]

/-- The first cell is lost. -/
theorem repeated_label_lost :
    executePostgresqlQuery plainRuntime bareSchema 30 1000 (.ok repeatedIds) 4 =
        .ok ⟨["id", "id"], [Dict.empty.set "id" (.int 2)], 1, 41, 4, false⟩ ∧
      ¬ CellsKept plainRuntime bareSchema repeatedIds
        ⟨["id", "id"], [Dict.empty.set "id" (.int 2)], 1, 41, 4, false⟩ := by
  refine ⟨execute_serialized (by omega) (by omega) (.cons rfl .nil) (List.cons_ne_nil _ _)
    (by decide +kernel) (by omega), fun h => ?_⟩
  have hcount := (List.forall₂_cons.mp h).1.1
  exact absurd hcount (by decide)

end DataChat.Executor
