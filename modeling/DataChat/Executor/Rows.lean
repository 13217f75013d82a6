import DataChat.Executor.Definitions

/-!
# The rows of a result

* `jsonDumps_serialize`: what `serialize_database_value` returns has a JSON text, so
  `calculate_result_size` does not fail on rows of serialised values.
* `serializeRecord_get`: the cell under a name is the masked value of the last item of the
  record with that name.
* `execute_rows`: the rows of a result are the serialised records, in order.
* `execute_single`: a record whose masks are supported is returned, unless it is too large.
-/

namespace DataChat.Executor

open Outcome

variable {rt : PyRuntime} {masks : Dict String String}

/-! ## JSON texts -/

def HasJson (value : PyValue) : Prop := (jsonDumps value).isSome = true

theorem hasJson_items {items : List PyValue} (h : ∀ item ∈ items, HasJson item) :
    (jsonItems items).isSome = true := by
  induction items with
  | nil => rfl
  | cons item items ih =>
    obtain ⟨text, htext⟩ := Option.isSome_iff_exists.mp (h item List.mem_cons_self)
    obtain ⟨texts, htexts⟩ :=
      Option.isSome_iff_exists.mp (ih (fun i hi => h i (List.mem_cons_of_mem _ hi)))
    simp [jsonItems, htext, htexts]

theorem hasJson_list {items : List PyValue} (h : ∀ item ∈ items, HasJson item) :
    HasJson (.list items) := by
  obtain ⟨texts, htexts⟩ := Option.isSome_iff_exists.mp (hasJson_items h)
  simp [HasJson, jsonDumps, htexts]

/-- A dictionary with string keys. -/
theorem hasJson_dict (items : List (String × PyValue)) (h : ∀ item ∈ items, HasJson item.2) :
    HasJson (.dict (items.map (fun item => (.str item.1, item.2)))) := by
  have hfields : (jsonFields (items.map (fun item => (.str item.1, item.2)))).isSome = true := by
    induction items with
    | nil => rfl
    | cons item items ih =>
      obtain ⟨text, htext⟩ := Option.isSome_iff_exists.mp (h item List.mem_cons_self)
      obtain ⟨texts, htexts⟩ :=
        Option.isSome_iff_exists.mp (ih (fun i hi => h i (List.mem_cons_of_mem _ hi)))
      simp [jsonFields, jsonKey, htext, htexts]
  obtain ⟨texts, htexts⟩ := Option.isSome_iff_exists.mp hfields
  simp [HasJson, jsonDumps, htexts]

theorem mem_dictOf {ν : Type} {items : List (String × ν)} {p : String × ν}
    (h : p ∈ (dictOf items).items) : p ∈ items := by
  have hall : ∀ (rest : List (String × ν)) (d : Dict String ν),
      p ∈ (rest.foldl (fun d item => d.set item.1 item.2) d).items → p ∈ rest ∨ p ∈ d.items := by
    intro rest
    induction rest with
    | nil => exact fun d hp => Or.inr hp
    | cons item rest ih =>
      intro d hp
      rcases ih _ hp with hp | hp
      · exact Or.inl (List.mem_cons_of_mem _ hp)
      · rcases (Dict.mem_items_set d item.1 item.2 p).mp hp with rfl | ⟨-, hp⟩
        · exact Or.inl List.mem_cons_self
        · exact Or.inr hp
  rcases hall items Dict.empty h with hp | hp
  · exact hp
  · cases hp

mutual

/-- A serialised value has a JSON text. -/
theorem hasJson_serialize (rt : PyRuntime) : ∀ value, HasJson (serializeDatabaseValue rt value)
  | .none => rfl
  | .bool true => rfl
  | .bool false => rfl
  | .int _ => rfl
  | .float _ => rfl
  | .str _ => rfl
  | .bytes _ => rfl
  | .uuid _ => rfl
  | .datetime _ => rfl
  | .date _ => rfl
  | .decimal _ => rfl
  | .other _ => rfl
  | .tuple items => hasJson_list (hasJson_serializeItems rt items)
  | .list items => hasJson_list (hasJson_serializeItems rt items)
  | .dict items => hasJson_dict _ (fun item hitem =>
      hasJson_serializeFields rt items item (mem_dictOf hitem))

theorem hasJson_serializeItems (rt : PyRuntime) :
    ∀ items, ∀ value ∈ serializeItems rt items, HasJson value
  | [] => fun value h => absurd h List.not_mem_nil
  | item :: items => by
    intro value h
    rcases List.mem_cons.mp h with rfl | h
    · exact hasJson_serialize rt item
    · exact hasJson_serializeItems rt items value h

theorem hasJson_serializeFields (rt : PyRuntime) :
    ∀ items, ∀ field ∈ serializeFields rt items, HasJson field.2
  | [] => fun field h => absurd h List.not_mem_nil
  | (key, value) :: items => by
    intro field h
    rcases List.mem_cons.mp h with rfl | h
    · exact hasJson_serialize rt value
    · exact hasJson_serializeFields rt items field h

end

theorem hasJson_maskWith (mask : String → String) (value : PyValue) :
    HasJson (maskWith rt mask value) := by
  unfold maskWith
  split <;> rfl

theorem hasJson_applyMask {value masked : PyValue} {maskType : Option String}
    (hvalue : HasJson value) (h : applyMask rt value maskType = .ok masked) : HasJson masked := by
  unfold applyMask at h
  split at h
  · exact pure_ok_iff.mp h ▸ hvalue
  · split at h
    · exact absurd h throw_ne_ok
    · rename_i mask hmask
      rw [← pure_ok_iff.mp h]
      unfold maskFunction at hmask
      split at hmask <;> cases hmask <;> exact hasJson_maskWith _ _

/-- Rows of values with JSON texts have a size. -/
theorem resultSize_ok {columns : List String} {rows : List Row}
    (h : ∀ row ∈ rows, ∀ item ∈ row.items, HasJson item.2) :
    ∃ size, resultSize columns rows = .ok size := by
  have hcolumns : HasJson (.list (columns.map PyValue.str)) := by
    refine hasJson_list (fun item hitem => ?_)
    obtain ⟨column, -, rfl⟩ := List.mem_map.mp hitem
    rfl
  have hrows : HasJson (.list (rows.map rowValue)) := by
    refine hasJson_list (fun item hitem => ?_)
    obtain ⟨row, hrow, rfl⟩ := List.mem_map.mp hitem
    exact hasJson_dict row.items (h row hrow)
  have hresult : HasJson (.dict [(.str "columns", .list (columns.map PyValue.str)),
      (.str "rows", .list (rows.map rowValue))]) :=
    hasJson_dict [("columns", .list (columns.map PyValue.str)),
      ("rows", .list (rows.map rowValue))] (by
        intro item hitem
        rcases List.mem_cons.mp hitem with rfl | hitem
        · exact hcolumns
        · rw [List.mem_singleton.mp hitem]
          exact hrows)
  obtain ⟨text, htext⟩ := Option.isSome_iff_exists.mp hresult
  refine ⟨text.utf8ByteSize, ?_⟩
  unfold resultSize calculateResultSize
  rw [htext]
  rfl

/-! ## One record -/

theorem serializeCell_ok {row row' : Row} {item : String × PyValue}
    (h : serializeCell rt masks row item = .ok row') :
    ∃ masked, applyMask rt (serializeDatabaseValue rt item.2)
        (masks.get (rt.casing.lower item.1)) = .ok masked ∧ row' = row.set item.1 masked := by
  unfold serializeCell at h
  obtain ⟨masked, hmasked, h⟩ := bind_ok_iff.mp h
  exact ⟨masked, hmasked, (pure_ok_iff.mp h).symm⟩

/-- The cell under a name is the masked value of the last item with that name. -/
theorem serializeRecord_get {record : Record} {row : Row}
    (h : serializeRecord rt masks record = .ok row) {index : Nat} {key : String}
    {value : PyValue} (hitem : record[index]? = some (key, value))
    (hlast : ∀ later, index < later → (record[later]?).map Prod.fst ≠ some key) :
    ∃ masked, applyMask rt (serializeDatabaseValue rt value)
        (masks.get (rt.casing.lower key)) = .ok masked ∧ row.get key = some masked := by
  refine foldlM_ok_induction
    (fun done row => ∀ index key value, done[index]? = some (key, value) →
      (∀ later, index < later → (done[later]?).map Prod.fst ≠ some key) →
      ∃ masked, applyMask rt (serializeDatabaseValue rt value)
        (masks.get (rt.casing.lower key)) = .ok masked ∧ row.get key = some masked)
    (by simp) ?_ h index key value hitem hlast
  intro done item rest row row' _ hrow hpass index key value hitem hlast
  obtain ⟨masked, hmasked, rfl⟩ := serializeCell_ok hpass
  have hend : (done ++ [item])[done.length]? = some item := by simp
  by_cases hindex : index < done.length
  · have hkey : key ≠ item.1 := by
      intro heq
      refine hlast done.length hindex ?_
      rw [hend, Option.map_some, heq]
    rw [List.getElem?_append_left hindex] at hitem
    rw [Dict.get_set_ne _ _ hkey]
    refine hrow index key value hitem (fun later hlater hsame => ?_)
    have hbound : later < done.length := by
      by_contra hge
      rw [List.getElem?_eq_none (by omega)] at hsame
      cases hsame
    refine hlast later hlater ?_
    rw [List.getElem?_append_left hbound]
    exact hsame
  · have hfit : index < (done ++ [item]).length := (List.getElem?_eq_some_iff.mp hitem).1
    have hat : index = done.length := by
      rw [List.length_append, List.length_singleton] at hfit
      omega
    rw [hat, hend] at hitem
    cases hitem
    exact ⟨masked, hmasked, Dict.get_set_self _ _ _⟩

/-- All masks that the names of a record call for are supported. -/
def Supported (rt : PyRuntime) (masks : Dict String String) (keys : List String) : Prop :=
  ∀ key ∈ keys, ∀ maskType ∈ masks.get (rt.casing.lower key),
    (maskFunction rt maskType).isSome = true

theorem applyMask_supported {maskType : Option String} (value : PyValue)
    (h : ∀ m ∈ maskType, (maskFunction rt m).isSome = true) :
    ∃ masked, applyMask rt value maskType = .ok masked := by
  cases maskType with
  | none => exact ⟨value, rfl⟩
  | some m =>
    obtain ⟨mask, hmask⟩ := Option.isSome_iff_exists.mp (h m rfl)
    refine ⟨mask value, ?_⟩
    unfold applyMask
    simp only [hmask]
    rfl

/-- A record is serialised exactly when its masks are supported. -/
theorem serializeRecord_ok_iff {record : Record} :
    (∃ row, serializeRecord rt masks record = .ok row) ↔
      Supported rt masks (record.map Prod.fst) := by
  unfold serializeRecord
  generalize (Dict.empty : Row) = row
  induction record generalizing row with
  | nil => exact ⟨fun _ key hkey => absurd hkey List.not_mem_nil, fun _ => ⟨row, rfl⟩⟩
  | cons item record ih =>
    rw [List.foldlM_cons]
    constructor
    · intro h key hkey
      obtain ⟨final, hfinal⟩ := h
      obtain ⟨row', hrow', hrest⟩ := bind_ok_iff.mp hfinal
      rcases List.mem_cons.mp hkey with rfl | hkey
      · intro maskType hmask
        obtain ⟨masked, hmasked, -⟩ := serializeCell_ok hrow'
        rw [Option.mem_def] at hmask
        rw [hmask] at hmasked
        unfold applyMask at hmasked
        simp only at hmasked
        split at hmasked
        · exact absurd hmasked throw_ne_ok
        · rename_i mask hfound
          rw [hfound]
          rfl
      · exact (ih row').mp ⟨final, hrest⟩ key hkey
    · intro h
      have hhead := h item.1 List.mem_cons_self
      obtain ⟨masked, hmasked⟩ := applyMask_supported (serializeDatabaseValue rt item.2) hhead
      obtain ⟨final, hfinal⟩ := (ih (row.set item.1 masked)).mpr
        (fun key hkey => h key (List.mem_cons_of_mem _ hkey))
      refine ⟨final, bind_ok_iff.mpr ⟨row.set item.1 masked, ?_, hfinal⟩⟩
      unfold serializeCell
      rw [hmasked]
      rfl

theorem hasJson_row {record : Record} {row : Row}
    (h : serializeRecord rt masks record = .ok row) : ∀ item ∈ row.items, HasJson item.2 := by
  refine foldlM_ok_induction (fun _ row => ∀ item ∈ row.items, HasJson item.2)
    (fun item hitem => absurd hitem List.not_mem_nil) ?_ h
  intro done item rest row row' _ hrow hpass p hp
  obtain ⟨masked, hmasked, rfl⟩ := serializeCell_ok hpass
  rcases (Dict.mem_items_set row item.1 masked p).mp hp with rfl | ⟨-, hp⟩
  · exact hasJson_applyMask (hasJson_serialize rt item.2) hmasked
  · exact hrow p hp

/-! ## The result -/

theorem appendRow_ok {columns : List String} {maximum : Int} {rows rows' : List Row}
    {record : Record} (h : appendRow rt masks columns maximum rows record = .ok rows') :
    ∃ row, serializeRecord rt masks record = .ok row ∧ rows' = rows ++ [row] := by
  unfold appendRow at h
  obtain ⟨row, hrow, h⟩ := bind_ok_iff.mp h
  obtain ⟨size, -, h⟩ := bind_ok_iff.mp h
  obtain ⟨-, h⟩ := guard_ok_iff.mp h
  exact ⟨row, hrow, (pure_ok_iff.mp h).symm⟩

/-- The rows of a result are the serialised records. -/
theorem execute_rows {schema : AllowedSchema} {timeoutSeconds maximumResultBytes elapsedMs : Int}
    {records : List Record} {result : QueryExecutionResult}
    (h : executePostgresqlQuery rt schema timeoutSeconds maximumResultBytes (.ok records)
      elapsedMs = .ok result) :
    List.Forall₂ (fun record row =>
      serializeRecord rt (getColumnMasks rt schema) record = .ok row) records result.rows := by
  unfold executePostgresqlQuery at h
  obtain ⟨-, h⟩ := guard_ok_iff.mp h
  obtain ⟨-, h⟩ := guard_ok_iff.mp h
  obtain ⟨rows, hloop, h⟩ := bind_ok_iff.mp h
  obtain ⟨size, -, h⟩ := bind_ok_iff.mp h
  rw [← pure_ok_iff.mp h]
  refine foldlM_ok_induction
    (fun done rows => List.Forall₂ (fun record row =>
      serializeRecord rt (getColumnMasks rt schema) record = .ok row) done rows)
    List.Forall₂.nil ?_ hloop
  intro done record rest rows rows' _ hrows hpass
  obtain ⟨row, hrow, rfl⟩ := appendRow_ok hpass
  exact List.rel_append hrows (List.Forall₂.cons hrow List.Forall₂.nil)

/-- A single record whose masks are supported is returned when the limit is large enough. -/
theorem execute_single {schema : AllowedSchema} {record : Record}
    (h : Supported rt (getColumnMasks rt schema) (record.map Prod.fst)) :
    ∃ maximumResultBytes result row,
      executePostgresqlQuery rt schema 1 maximumResultBytes (.ok [record]) 0 = .ok result ∧
        result.rows = [row] ∧ serializeRecord rt (getColumnMasks rt schema) record = .ok row := by
  obtain ⟨row, hrow⟩ := serializeRecord_ok_iff.mpr h
  obtain ⟨size, hsize⟩ : ∃ size, resultSize (columnsOf [record]) [row] = .ok size := by
    refine resultSize_ok (fun r hr => ?_)
    rw [List.mem_singleton.mp hr]
    exact hasJson_row hrow
  have hpass : appendRow rt (getColumnMasks rt schema) (columnsOf [record]) (size + 1) [] record =
      .ok [row] := by
    unfold appendRow
    refine bind_ok_iff.mpr ⟨row, hrow, bind_ok_iff.mpr ⟨size, hsize, ?_⟩⟩
    exact guard_ok_iff.mpr ⟨by omega, rfl⟩
  refine ⟨size + 1, ⟨columnsOf [record], [row], 1, size, 0, false⟩, row, ?_, rfl, hrow⟩
  unfold executePostgresqlQuery
  refine guard_ok_iff.mpr ⟨by omega, guard_ok_iff.mpr ⟨by omega, ?_⟩⟩
  refine bind_ok_iff.mpr ⟨[row], ?_, bind_ok_iff.mpr ⟨size, hsize, rfl⟩⟩
  rw [List.foldlM_cons]
  exact bind_ok_iff.mpr ⟨[row], hpass, rfl⟩

/-- A runtime whose digests are all zeros. -/
def plainRuntime : PyRuntime where
  casing := asciiCasing
  reprString s := "'" ++ s ++ "'"
  reprOther _ := ""
  sha256Hex _ := String.ofList (List.replicate 64 '0')
  length_sha256Hex _ := by decide

end DataChat.Executor
