import DataChat.Executor.Rows

/-!
# The size limit

The loop over the records measures the columns with the rows so far, after each row. Appending a
row makes the JSON text longer, so some prefix of the rows is too large exactly when all rows
together are. Without records the loop measures nothing, and the empty result has 24 bytes.

* `size_le_snoc`: a row more is not shorter.
* `loop_eq`: what the loop comes to.
* `earlyCheck_iff`: the check is exact, and bounds every result, unless there are no records and
  the limit is below 24.
* `empty_too_large`: a result that is larger than the limit.
-/

namespace DataChat.Executor

open Outcome

variable {rt : PyRuntime} {masks : Dict String String}

/-! ## The length of the JSON text -/

theorem jsonItems_append {items more : List PyValue} {texts moreTexts : List String}
    (hitems : jsonItems items = some texts) (hmore : jsonItems more = some moreTexts) :
    jsonItems (items ++ more) = some (texts ++ moreTexts) := by
  induction items generalizing texts with
  | nil =>
    cases hitems
    exact hmore
  | cons first items ih =>
    rw [jsonItems, Option.bind_eq_bind, Option.bind_eq_some_iff] at hitems
    obtain ⟨firstText, hfirst, hitems⟩ := hitems
    obtain ⟨restTexts, hrest, hitems⟩ := Option.bind_eq_some_iff.mp hitems
    cases hitems
    simp [jsonItems, hfirst, ih hrest]

theorem joinWith_cons_cons (separator first second : String) (texts : List String) :
    joinWith separator (first :: second :: texts) =
      first ++ separator ++ joinWith separator (second :: texts) := rfl

theorem joinWith_snoc (separator : String) (first : String) (texts : List String) (text : String) :
    joinWith separator (first :: texts ++ [text]) =
      joinWith separator (first :: texts) ++ separator ++ text := by
  induction texts generalizing first with
  | nil => rfl
  | cons second texts ih =>
    have hrest := ih second
    simp only [List.cons_append] at hrest ⊢
    rw [joinWith_cons_cons, hrest, joinWith_cons_cons]
    simp only [String.append_assoc]

theorem utf8ByteSize_joinWith_le (texts more : List String) :
    (joinWith "," texts).utf8ByteSize ≤ (joinWith "," (texts ++ more)).utf8ByteSize := by
  induction more generalizing texts with
  | nil => rw [List.append_nil]
  | cons text more ih =>
    have hone : (joinWith "," texts).utf8ByteSize ≤
        (joinWith "," (texts ++ [text])).utf8ByteSize := by
      cases texts with
      | nil => simp [joinWith]
      | cons first texts =>
        rw [joinWith_snoc, String.utf8ByteSize_append, String.utf8ByteSize_append]
        omega
    have hrest := ih (texts ++ [text])
    rw [List.append_assoc, List.singleton_append] at hrest
    omega

/-- The size, in terms of the texts of the columns and of the rows. -/
theorem calculateResultSize_eq {columns : List String} {rows : List Row}
    {columnTexts rowTexts : List String}
    (hcolumns : jsonItems (columns.map PyValue.str) = some columnTexts)
    (hrows : jsonItems (rows.map rowValue) = some rowTexts) :
    calculateResultSize columns rows =
      some (24 + (joinWith "," columnTexts).utf8ByteSize +
        (joinWith "," rowTexts).utf8ByteSize) := by
  have hkey : jsonKey (.str "columns") = some "\"columns\"" := by decide +kernel
  have hkey' : jsonKey (.str "rows") = some "\"rows\"" := by decide +kernel
  have hsize : ("\"columns\"" : String).utf8ByteSize = 9 := by decide +kernel
  have hsize' : ("\"rows\"" : String).utf8ByteSize = 6 := by decide +kernel
  unfold calculateResultSize
  simp only [jsonDumps, jsonFields, hcolumns, hrows, hkey, hkey', Option.bind_eq_bind,
    Option.bind_some, Option.pure_def, Option.map_some, joinWith, String.utf8ByteSize_append,
    hsize, hsize']
  refine congrArg some ?_
  have hbraces : ("\x7b" : String).utf8ByteSize = 1 ∧ ("\x7d" : String).utf8ByteSize = 1 ∧
      (":" : String).utf8ByteSize = 1 ∧ ("," : String).utf8ByteSize = 1 ∧
      ("[" : String).utf8ByteSize = 1 ∧ ("]" : String).utf8ByteSize = 1 := by decide +kernel
  obtain ⟨h₁, h₂, h₃, h₄, h₅, h₆⟩ := hbraces
  omega

/-- All values of the rows have JSON texts. -/
def HaveJson (rows : List Row) : Prop := ∀ row ∈ rows, ∀ item ∈ row.items, HasJson item.2

theorem jsonItems_columns (columns : List String) :
    ∃ texts, jsonItems (columns.map PyValue.str) = some texts := by
  apply Option.isSome_iff_exists.mp
  refine hasJson_items (fun item hitem => ?_)
  obtain ⟨column, -, rfl⟩ := List.mem_map.mp hitem
  rfl

theorem jsonItems_rows {rows : List Row} (h : HaveJson rows) :
    ∃ texts, jsonItems (rows.map rowValue) = some texts := by
  apply Option.isSome_iff_exists.mp
  refine hasJson_items (fun item hitem => ?_)
  obtain ⟨row, hrow, rfl⟩ := List.mem_map.mp hitem
  exact hasJson_dict row.items (h row hrow)

/-- Rows with JSON texts have a size, and with more rows it is not smaller. -/
theorem size_le_append (columns : List String) {rows more : List Row} (h : HaveJson rows)
    (hmore : HaveJson more) :
    ∃ size size', calculateResultSize columns rows = some size ∧
      calculateResultSize columns (rows ++ more) = some size' ∧ size ≤ size' := by
  obtain ⟨columnTexts, hcolumns⟩ := jsonItems_columns columns
  obtain ⟨texts, htexts⟩ := jsonItems_rows h
  obtain ⟨moreTexts, hmoreTexts⟩ := jsonItems_rows hmore
  have hall := jsonItems_append htexts hmoreTexts
  rw [← List.map_append] at hall
  refine ⟨_, _, calculateResultSize_eq hcolumns htexts, calculateResultSize_eq hcolumns hall, ?_⟩
  have hle := utf8ByteSize_joinWith_le texts moreTexts
  omega

/-! ## The loop -/

/-- The rows are the serialised records. -/
def Serialized (rt : PyRuntime) (masks : Dict String String) (records : List Record)
    (rows : List Row) : Prop :=
  List.Forall₂ (fun record row => serializeRecord rt masks record = .ok row) records rows

theorem haveJson_serialized {records : List Record} {rows : List Row}
    (h : Serialized rt masks records rows) : HaveJson rows := by
  unfold Serialized at h
  induction h with
  | nil => exact fun row hrow => absurd hrow List.not_mem_nil
  | cons hrow _ ih =>
    intro row hmem
    rcases List.mem_cons.mp hmem with rfl | hmem
    · exact hasJson_row hrow
    · exact ih row hmem

theorem exists_serialized {records : List Record}
    (h : ∀ record ∈ records, Supported rt masks (record.map Prod.fst)) :
    ∃ rows, Serialized rt masks records rows := by
  induction records with
  | nil => exact ⟨[], .nil⟩
  | cons record records ih =>
    obtain ⟨row, hrow⟩ := serializeRecord_ok_iff.mpr (h record List.mem_cons_self)
    obtain ⟨rows, hrows⟩ := ih (fun r hr => h r (List.mem_cons_of_mem _ hr))
    exact ⟨row :: rows, .cons hrow hrows⟩

def tooLarge : Raised :=
  .queryResultTooLargeError "The query result exceeded the configured size limit."

theorem resultSize_ok_iff {columns : List String} {rows : List Row} {size : Nat} :
    resultSize columns rows = .ok size ↔ calculateResultSize columns rows = some size := by
  unfold resultSize
  cases calculateResultSize columns rows with
  | none => exact ⟨fun h => absurd h throw_ne_ok, fun h => by cases h⟩
  | some n => exact pure_ok_iff.trans (Option.some_inj).symm

theorem appendRow_eq {columns : List String} {maximum : Int} {rows : List Row} {record : Record}
    {row : Row} {size : Nat} (hrow : serializeRecord rt masks record = .ok row)
    (hsize : calculateResultSize columns (rows ++ [row]) = some size) :
    appendRow rt masks columns maximum rows record =
      if (size : Int) > maximum then .error tooLarge else .ok (rows ++ [row]) := by
  have hresult := resultSize_ok_iff.mpr hsize
  unfold appendRow
  rw [hrow]
  show resultSize columns (rows ++ [row]) >>= _ = _
  rw [hresult]
  rfl

/-- The loop raises when all rows together are too large, and returns them otherwise. -/
theorem loop_eq {columns : List String} {maximum : Int} {records : List Record}
    {rows : List Row} (hrows : Serialized rt masks records rows) (hne : records ≠ [])
    {before : List Row} (hbefore : HaveJson before) {size : Nat}
    (hsize : calculateResultSize columns (before ++ rows) = some size) :
    records.foldlM (appendRow rt masks columns maximum) before =
      if (size : Int) > maximum then .error tooLarge else .ok (before ++ rows) := by
  induction hrows generalizing before with
  | nil => exact absurd rfl hne
  | @cons record row records rows hrow hrest ih =>
    have hnow : HaveJson (before ++ [row]) := by
      intro r hr
      rcases List.mem_append.mp hr with hr | hr
      · exact hbefore r hr
      · rw [List.mem_singleton.mp hr]
        exact hasJson_row hrow
    have hlater : HaveJson rows := haveJson_serialized hrest
    obtain ⟨current, final, hcurrent, hfinal, hle⟩ := size_le_append columns hnow hlater
    rw [List.append_assoc, List.singleton_append, hsize] at hfinal
    obtain rfl := Option.some.inj hfinal
    rw [List.foldlM_cons, appendRow_eq hrow hcurrent]
    by_cases hcurrentLarge : (current : Int) > maximum
    · have hlarge : (size : Int) > maximum := by omega
      rw [if_pos hcurrentLarge, if_pos hlarge]
      rfl
    · rw [if_neg hcurrentLarge]
      show records.foldlM (appendRow rt masks columns maximum) (before ++ [row]) = _
      cases records with
      | nil =>
        cases hrest
        rw [hcurrent] at hsize
        obtain rfl := Option.some.inj hsize
        rw [if_neg hcurrentLarge]
        rfl
      | cons next records =>
        have hloop := ih (List.cons_ne_nil next records) hnow (by
          rw [List.append_assoc, List.singleton_append]
          exact hsize)
        rw [hloop, List.append_assoc, List.singleton_append]

/-- Records with supported masks whose rows fit are returned. -/
theorem execute_serialized {schema : AllowedSchema} {timeoutSeconds maximum elapsedMs : Int}
    (htimeout : 1 ≤ timeoutSeconds) (hmaximum : 1 ≤ maximum) {records : List Record}
    {rows : List Row} (hrows : Serialized rt (getColumnMasks rt schema) records rows)
    (hne : records ≠ []) {size : Nat}
    (hsize : calculateResultSize (columnsOf records) rows = some size)
    (hfits : (size : Int) ≤ maximum) :
    executePostgresqlQuery rt schema timeoutSeconds maximum (.ok records) elapsedMs =
      .ok ⟨columnsOf records, rows, rows.length, size, elapsedMs, false⟩ := by
  have hnone : HaveJson [] := fun row hrow => absurd hrow List.not_mem_nil
  have hloop : records.foldlM
      (appendRow rt (getColumnMasks rt schema) (columnsOf records) maximum) [] =
      if (size : Int) > maximum then .error tooLarge else .ok ([] ++ rows) :=
    loop_eq hrows hne hnone hsize
  rw [if_neg (by omega), List.nil_append] at hloop
  unfold executePostgresqlQuery
  refine guard_ok_iff.mpr ⟨by omega, guard_ok_iff.mpr ⟨by omega, ?_⟩⟩
  exact bind_ok_iff.mpr ⟨rows, hloop, bind_ok_iff.mpr ⟨size, resultSize_ok_iff.mpr hsize, rfl⟩⟩

/-! ## What should hold -/

/-- The loop raises exactly when all rows together are too large, and no result is too large. -/
def EarlyCheckExact (rt : PyRuntime) (schema : AllowedSchema) (maximum : Int)
    (records : List Record) : Prop :=
  (∃ rows size, Serialized rt (getColumnMasks rt schema) records rows ∧
    calculateResultSize (columnsOf records) rows = some size ∧
    (records.foldlM (appendRow rt (getColumnMasks rt schema) (columnsOf records) maximum) [] =
      .error tooLarge ↔ (size : Int) > maximum)) ∧
  ∀ timeoutSeconds elapsedMs result,
    executePostgresqlQuery rt schema timeoutSeconds maximum (.ok records) elapsedMs =
      .ok result → (result.result_size_bytes : Int) ≤ maximum

theorem size_empty : calculateResultSize [] [] = some 24 := by decide +kernel

/-- What has been checked when a result is returned. -/
theorem execute_size {schema : AllowedSchema} {timeoutSeconds maximum elapsedMs : Int}
    {records : List Record} {result : QueryExecutionResult}
    (h : executePostgresqlQuery rt schema timeoutSeconds maximum (.ok records) elapsedMs =
      .ok result) :
    ∃ rows, records.foldlM
        (appendRow rt (getColumnMasks rt schema) (columnsOf records) maximum) [] = .ok rows ∧
      resultSize (columnsOf records) rows = .ok result.result_size_bytes := by
  unfold executePostgresqlQuery at h
  obtain ⟨-, h⟩ := guard_ok_iff.mp h
  obtain ⟨-, h⟩ := guard_ok_iff.mp h
  obtain ⟨rows, hloop, h⟩ := bind_ok_iff.mp h
  obtain ⟨size, hsize, h⟩ := bind_ok_iff.mp h
  rw [← pure_ok_iff.mp h]
  exact ⟨rows, hloop, hsize⟩

/-- The early check is exact unless there are no records and the limit is below 24. -/
theorem earlyCheck_iff (rt : PyRuntime) (schema : AllowedSchema)
    (hmasks : ∀ maskType ∈ (getColumnMasks rt schema).values,
      (maskFunction rt maskType).isSome = true)
    (maximum : Int) (hmaximum : 1 ≤ maximum) (records : List Record) :
    EarlyCheckExact rt schema maximum records ↔ records ≠ [] ∨ 24 ≤ maximum := by
  have hsupported : ∀ record ∈ records,
      Supported rt (getColumnMasks rt schema) (record.map Prod.fst) :=
    fun _ _ _ _ maskType hmask => hmasks maskType (Dict.mem_values_of_get hmask)
  obtain ⟨rows, hrows⟩ := exists_serialized hsupported
  by_cases hnil : records = []
  · subst hnil
    cases hrows
    simp only [ne_eq, not_true_eq_false, false_or]
    constructor
    · rintro ⟨-, hbounded⟩
      refine hbounded 1 0 ⟨[], [], 0, 24, 0, false⟩ ?_
      unfold executePostgresqlQuery
      refine guard_ok_iff.mpr ⟨by omega, guard_ok_iff.mpr ⟨by omega, ?_⟩⟩
      exact bind_ok_iff.mpr ⟨[], rfl, bind_ok_iff.mpr ⟨24, resultSize_ok_iff.mpr size_empty, rfl⟩⟩
    · intro hlimit
      refine ⟨⟨[], 24, .nil, size_empty, ?_⟩, fun timeoutSeconds elapsedMs result h => ?_⟩
      · refine iff_of_false (fun h => ?_) (by omega)
        cases h
      · obtain ⟨rows, hloop, hsize⟩ := execute_size h
        obtain rfl := pure_ok_iff.mp hloop
        have hsize' := resultSize_ok_iff.mp hsize
        rw [columnsOf, size_empty] at hsize'
        have := Option.some.inj hsize'
        omega
  · refine iff_of_true ?_ (.inl hnil)
    have hnone : HaveJson [] := fun row hrow => absurd hrow List.not_mem_nil
    obtain ⟨size, -, hsize, -, -⟩ :=
      size_le_append (columnsOf records) (haveJson_serialized hrows) hnone
    have hloop : records.foldlM
        (appendRow rt (getColumnMasks rt schema) (columnsOf records) maximum) [] =
        if (size : Int) > maximum then .error tooLarge else .ok ([] ++ rows) :=
      loop_eq hrows hnil hnone hsize
    refine ⟨⟨rows, size, hrows, hsize, ?_⟩, fun timeoutSeconds elapsedMs result h => ?_⟩
    · rw [hloop]
      split
      · rename_i hlarge
        exact iff_of_true rfl hlarge
      · rename_i hsmall
        exact iff_of_false (fun herror => by cases herror) hsmall
    · obtain ⟨rows', hloop', hsize'⟩ := execute_size h
      rw [hloop] at hloop'
      split at hloop'
      · cases hloop'
      · rename_i hsmall
        obtain rfl := Except.ok.inj hloop'
        have hsame := resultSize_ok_iff.mp hsize'
        rw [List.nil_append, hsize] at hsame
        have := Option.some.inj hsame
        omega

/-- A table with one masked column. -/
def contactsSchema : AllowedSchema where
  connection_id := "warehouse"
  tables := Dict.empty.set "public.contacts"
    { table_id := "contacts"
      schema_name := "public"
      table_name := "contacts"
      can_read := true
      can_insert := false
      can_update := false
      can_delete := false
      columns := Dict.empty.set "email" ⟨"email-id", "email", "text", true, true, true, some "email"⟩
      row_filters := [] }

/-- One record, and a limit of ten bytes. -/
theorem contact_too_large :
    EarlyCheckExact plainRuntime contactsSchema 10 [[("email", .str "ann@example.com")]] :=
  (earlyCheck_iff plainRuntime contactsSchema (by decide +kernel) 10 (by omega)
    [[("email", .str "ann@example.com")]]).mpr (.inl (by simp))

/-- A query without rows, and a limit of one byte. -/
theorem empty_too_large :
    executePostgresqlQuery plainRuntime contactsSchema 30 1 (.ok []) 4 =
        .ok ⟨[], [], 0, 24, 4, false⟩ ∧
      ¬ EarlyCheckExact plainRuntime contactsSchema 1 [] := by
  have hreturned : executePostgresqlQuery plainRuntime contactsSchema 30 1 (.ok []) 4 =
      .ok ⟨[], [], 0, 24, 4, false⟩ := by
    unfold executePostgresqlQuery
    refine guard_ok_iff.mpr ⟨by omega, guard_ok_iff.mpr ⟨by omega, ?_⟩⟩
    exact bind_ok_iff.mpr ⟨[], rfl, bind_ok_iff.mpr ⟨24, resultSize_ok_iff.mpr size_empty, rfl⟩⟩
  refine ⟨hreturned, fun h => ?_⟩
  have hbounded : (24 : Int) ≤ 1 := h.2 30 4 _ hreturned
  omega

end DataChat.Executor
