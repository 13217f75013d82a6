import DataChat.Executor.Rows
import DataChat.Security.Definitions
import DataChat.Sql.Lineage
import DataChat.Validator.UsageFlags

/-!
# Are masked columns masked in every result?

Masks belong to columns of tables. The executor sees neither: it looks up the label of an output
in one dictionary in which all masks of the schema are entered under the bare column names.

The database is left open. `Fetched` says what is known of the cells it returns: each may carry
its origin, a stored column of which its output is a copy.

* `probe_injective`: there is a text on which all masks differ.
* `masksApplied_iff`: every result is masked right exactly when each label that a masked column
  is copied to has, in that dictionary, the mask of this column.
* `renamed_not_masked`: an accepted statement that returns a masked column as it is stored.
-/

namespace DataChat.Executor

open Sql Outcome Validator

variable {rt : PyRuntime} {schema : AllowedSchema} {catalog : Catalog} {statement : Expr}

/-! ## What the database returns -/

/-- The names of the records of a statement; PostgreSQL calls an output without a name
`?column?`. -/
def outputKeys (rt : PyRuntime) (catalog : Catalog) (statement : Expr) : List String :=
  (outputLabels rt.casing catalog statement).map (fun label => label.getD "?column?")

/-- A value, and the stored column from which it was copied, if it was. -/
structure Cell where
  value : PyValue
  origin : Option (Relation × String)

/-- The cells are such as the database may return for the statement. -/
structure Fetched (rt : PyRuntime) (catalog : Catalog) (statement : Expr)
    (records : List (List Cell)) : Prop where
  width : ∀ cells ∈ records, cells.length = (outputKeys rt catalog statement).length
  origin : ∀ cells ∈ records, ∀ index cell, cells[index]? = some cell →
    ∀ source ∈ cell.origin, CopiedFrom rt.casing catalog (Cursor.root statement) index source

def toRecord (keys : List String) (cells : List Cell) : Record := keys.zip (cells.map Cell.value)

/-- No later output has the same name: the value is the one that the row keeps. -/
def Survives (keys : List String) (index : Nat) : Prop :=
  ∀ later, index < later → later < keys.length → keys[later]? ≠ keys[index]?

/-- In every result, the cells that are copied from a masked column hold the masked value. -/
def MasksApplied (rt : PyRuntime) (catalog : Catalog) (schema : AllowedSchema)
    (statement : Expr) : Prop :=
  ∀ records, Fetched rt catalog statement records →
    ∀ timeoutSeconds maximumResultBytes elapsedMs result,
      executePostgresqlQuery rt schema timeoutSeconds maximumResultBytes
          (.ok (records.map (toRecord (outputKeys rt catalog statement)))) elapsedMs =
        .ok result →
      ∀ (i : Nat) cells row, records[i]? = some cells → result.rows[i]? = some row →
        ∀ index cell key, cells[index]? = some cell →
          (outputKeys rt catalog statement)[index]? = some key →
          Survives (outputKeys rt catalog statement) index →
          ∀ source ∈ cell.origin, ∀ allowed ∈ allowedColumns schema source,
            ∀ maskType ∈ allowed.mask_type,
              ∃ masked, applyMask rt (serializeDatabaseValue rt cell.value) (some maskType) =
                .ok masked ∧ row.get key = some masked

/-! ## When it holds -/

/-- The mask of the last masked column of the schema that has a name, in lower case. -/
def flatMask (rt : PyRuntime) (schema : AllowedSchema) (name : String) : Option String :=
  (((schema.tables.values.flatMap (fun table => table.columns.values)).filter
    (fun column => rt.casing.lower column.name = name ∧ column.mask_type ≠ none)).getLast?).bind
      AllowedColumn.mask_type

/-- Each label that a masked column is copied to stands, in lower case, for the mask of that
column, unless some label stands for an unsupported mask and nothing is returned. -/
def MasksAgree (rt : PyRuntime) (catalog : Catalog) (schema : AllowedSchema)
    (statement : Expr) : Prop :=
  (∀ key ∈ outputKeys rt catalog statement, ∀ maskType ∈ flatMask rt schema (rt.casing.lower key),
      (maskFunction rt maskType).isSome = true) →
    ∀ index key source, CopiedFrom rt.casing catalog (Cursor.root statement) index source →
      (outputKeys rt catalog statement)[index]? = some key →
      Survives (outputKeys rt catalog statement) index →
      ∀ allowed ∈ allowedColumns schema source, ∀ maskType ∈ allowed.mask_type,
        flatMask rt schema (rt.casing.lower key) = some maskType

/-- The dictionary of the executor keeps the last mask that is entered under a name. -/
theorem getColumnMasks_get (rt : PyRuntime) (schema : AllowedSchema) (name : String) :
    (getColumnMasks rt schema).get name = flatMask rt schema name := by
  unfold getColumnMasks flatMask
  induction schema.tables.values.flatMap (fun table => table.columns.values) using
    List.reverseRecOn with
  | nil => rfl
  | append_singleton columns column ih =>
    rw [List.foldl_append, List.foldl_cons, List.foldl_nil, List.filter_append]
    cases hmask : column.mask_type with
    | none => simpa [hmask] using ih
    | some maskType =>
      by_cases hname : rt.casing.lower column.name = name
      · simp [hmask, hname]
      · simpa [hmask, hname, Dict.get_set_ne _ _ (Ne.symm hname)] using ih

/-- A text on which the masks can be told apart. -/
def probe : String := "a@bcde"

/-- The mask that makes a text of the probe. -/
def maskSeen (text : String) : Option String :=
  if text = "a@bcde" then none
  else if text = "********" then some "full"
  else if text = "a@**de" then some "partial"
  else if text = "a***@bcde" then some "email"
  else some "hash"

theorem maskSeen_digest {digest : String} (h : digest.length = 64) :
    maskSeen digest = some "hash" := by
  have hne : ∀ text : String, text.length ≠ 64 → digest ≠ text := by
    intro text htext heq
    rw [← heq] at htext
    exact htext h
  unfold maskSeen
  rw [if_neg (hne _ (by decide)), if_neg (hne _ (by decide)), if_neg (hne _ (by decide)),
    if_neg (hne _ (by decide))]

theorem maskSeen_probe {maskType : Option String} {masked : PyValue}
    (h : applyMask rt (.str probe) maskType = .ok masked) :
    ∃ text, masked = .str text ∧ maskSeen text = maskType := by
  unfold applyMask at h
  split at h
  · exact ⟨probe, (pure_ok_iff.mp h).symm, by decide⟩
  · split at h
    · exact absurd h throw_ne_ok
    · rename_i mask hmask
      have hmasked := pure_ok_iff.mp h
      unfold maskFunction at hmask
      split at hmask <;> cases hmask
      · exact ⟨"********", hmasked.symm, by decide⟩
      · exact ⟨partialText probe, hmasked.symm, by decide +kernel⟩
      · exact ⟨emailText probe, hmasked.symm, by decide +kernel⟩
      · exact ⟨rt.sha256Hex probe, hmasked.symm, maskSeen_digest (rt.length_sha256Hex probe)⟩

/-- Two masks that agree on the probe are the same. -/
theorem probe_injective {a b : Option String} {masked : PyValue}
    (ha : applyMask rt (.str probe) a = .ok masked)
    (hb : applyMask rt (.str probe) b = .ok masked) : a = b := by
  obtain ⟨text, rfl, hseen⟩ := maskSeen_probe ha
  obtain ⟨text', heq, hseen'⟩ := maskSeen_probe hb
  rw [← hseen, ← hseen', PyValue.str.inj heq]

theorem toRecord_get {keys : List String} {cells : List Cell} {index : Nat} {cell : Cell}
    {key : String} (hcell : cells[index]? = some cell) (hkey : keys[index]? = some key) :
    (toRecord keys cells)[index]? = some (key, cell.value) := by
  unfold toRecord
  rw [List.getElem?_zip_eq_some, List.getElem?_map, hcell]
  exact ⟨hkey, rfl⟩

/-- What a row holds under a name that survives. -/
theorem row_get {masks : Dict String String} {keys : List String} {cells : List Cell} {row : Row}
    (hrow : serializeRecord rt masks (toRecord keys cells) = .ok row) {index : Nat} {cell : Cell}
    {key : String} (hcell : cells[index]? = some cell) (hkey : keys[index]? = some key)
    (hsurvives : Survives keys index) :
    ∃ masked, applyMask rt (serializeDatabaseValue rt cell.value)
      (masks.get (rt.casing.lower key)) = .ok masked ∧ row.get key = some masked := by
  refine serializeRecord_get hrow (toRecord_get hcell hkey) (fun later hlater hsame => ?_)
  obtain ⟨item, hitem, hfst⟩ := Option.map_eq_some_iff.mp hsame
  unfold toRecord at hitem
  rw [List.getElem?_zip_eq_some] at hitem
  have hbound : later < keys.length := (List.getElem?_eq_some_iff.mp hitem.1).1
  refine hsurvives later hlater hbound ?_
  rw [hitem.1, hkey, hfst]

theorem map_fst_toRecord {keys : List String} {cells : List Cell}
    (h : cells.length = keys.length) : (toRecord keys cells).map Prod.fst = keys := by
  unfold toRecord
  refine List.map_fst_zip ?_
  rw [List.length_map, h]

/-- A row of probes, in which one value comes from a given column. -/
def probeCells (width index : Nat) (source : Relation × String) : List Cell :=
  (List.range width).map (fun i => ⟨.str probe, if i = index then some source else none⟩)

theorem probeCells_get (width index : Nat) (source : Relation × String) (i : Nat) :
    (probeCells width index source)[i]? =
      if i < width then some ⟨.str probe, if i = index then some source else none⟩ else none := by
  unfold probeCells
  rw [List.getElem?_map]
  by_cases hi : i < width
  · rw [List.getElem?_range hi, if_pos hi]
    rfl
  · rw [List.getElem?_eq_none (by rw [List.length_range]; omega), if_neg hi]
    rfl

theorem fetched_probeCells {index : Nat} {source : Relation × String}
    (h : CopiedFrom rt.casing catalog (Cursor.root statement) index source) :
    Fetched rt catalog statement
      [probeCells (outputKeys rt catalog statement).length index source] := by
  refine ⟨fun cells hcells => ?_, fun cells hcells i cell hcell s hs => ?_⟩
  · rw [List.mem_singleton.mp hcells]
    simp [probeCells]
  · rw [List.mem_singleton.mp hcells, probeCells_get] at hcell
    split at hcell
    · obtain rfl := Option.some.inj hcell
      by_cases hi : i = index
      · simp only [hi, if_true, Option.mem_def, Option.some.injEq] at hs
        rw [hi, ← hs]
        exact h
      · simp [hi] at hs
    · cases hcell

/-- If probes are masked right, the label has the mask of the column. -/
theorem agree_of_applied (happlied : MasksApplied rt catalog schema statement) :
    MasksAgree rt catalog schema statement := by
  intro hflat index key source hcopied hkey hsurvives allowed hallowed maskType hmask
  have hsupported : Supported rt (getColumnMasks rt schema) (outputKeys rt catalog statement) := by
    intro label hlabel m hm
    rw [getColumnMasks_get] at hm
    exact hflat label hlabel m hm
  have hindex : index < (outputKeys rt catalog statement).length :=
    (List.getElem?_eq_some_iff.mp hkey).1
  have hfetched := fetched_probeCells hcopied
  have hwidth := hfetched.width _ List.mem_cons_self
  have hcell := probeCells_get (outputKeys rt catalog statement).length index source index
  rw [if_pos hindex, if_pos rfl] at hcell
  rw [← map_fst_toRecord hwidth] at hsupported
  obtain ⟨maximum, result, row, hexecute, hrows, hrow⟩ := execute_single hsupported
  have hfirst : result.rows[0]? = some row := by
    rw [hrows]
    rfl
  obtain ⟨masked, hmasked, hget⟩ := happlied _ hfetched 1 maximum 0 result hexecute 0 _ row rfl
    hfirst index _ key hcell hkey hsurvives source rfl allowed hallowed maskType hmask
  obtain ⟨masked', hmasked', hget'⟩ := row_get hrow hcell hkey hsurvives
  obtain rfl := Option.some.inj (hget.symm.trans hget')
  rw [← getColumnMasks_get]
  exact probe_injective hmasked' hmasked

/-- If the labels have the masks of the columns, every returned row is masked right. -/
theorem applied_of_agree (hagree : MasksAgree rt catalog schema statement) :
    MasksApplied rt catalog schema statement := by
  intro records hfetched timeoutSeconds maximumResultBytes elapsedMs result hresult i cells row
    hcells hrow index cell key hcell hkey hsurvives source hsource allowed hallowed maskType hmask
  have hmem : cells ∈ records := List.mem_of_getElem? hcells
  have hall := execute_rows hresult
  have hserialized : serializeRecord rt (getColumnMasks rt schema)
      (toRecord (outputKeys rt catalog statement) cells) = .ok row := by
    obtain ⟨hi, hrowAt⟩ := List.getElem?_eq_some_iff.mp hrow
    have hi' : i < (records.map (toRecord (outputKeys rt catalog statement))).length :=
      hall.length_eq ▸ hi
    have hat := (List.forall₂_iff_get.mp hall).2 i hi' hi
    rw [List.length_map] at hi'
    have hcellsAt : records[i] = cells := (List.getElem?_eq_some_iff.mp hcells).2
    simpa [hcellsAt, hrowAt] using hat
  have hsupported : Supported rt (getColumnMasks rt schema) (outputKeys rt catalog statement) := by
    rw [← map_fst_toRecord (hfetched.width cells hmem)]
    exact serializeRecord_ok_iff.mp ⟨row, hserialized⟩
  have hcopied := hfetched.origin cells hmem index cell hcell source hsource
  have hlabel := hagree
    (fun label hlabel m hm => hsupported label hlabel m (by rwa [getColumnMasks_get]))
    index key source hcopied hkey hsurvives allowed hallowed maskType hmask
  obtain ⟨masked, hmasked, hget⟩ := row_get hserialized hcell hkey hsurvives
  rw [getColumnMasks_get, hlabel] at hmasked
  exact ⟨masked, hmasked, hget⟩

def renamedSql : String := "SELECT email AS e FROM public.users"

def renamedStatement : Expr :=
  selectExpr [build (.alias_ (plain "e")) [(.this, columnNamed "email")]]
    (qualifiedTable "public" "users" none) []

def renamedLimited : Expr := setArg renamedStatement .limit (limitExpr 100)

def renamedSqlglot : Sqlglot :=
  knownTexts [(renamedSql, renamedStatement), (renamedSql ++ " LIMIT 100", renamedLimited)]

def renamedEnv : RowFilter.Env where
  py := asciiCasing
  glot := renamedSqlglot
  schema := usersSchema
  tenantId := "11111111-1111-1111-1111-111111111111"
  userId := "22222222-2222-2222-2222-222222222222"

def emailColumn : AllowedColumn :=
  ⟨"email-column-id", "email", "character varying", true, true, false, some "email"⟩

def storedEmail : Relation × String := (⟨"public", "users"⟩, "email")

end DataChat.Executor
