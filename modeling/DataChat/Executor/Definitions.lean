import DataChat.Core.Permissions
import DataChat.Core.PyValue
import DataChat.Library.Outcome

/-!
# The query executor

`services/database/query_executor.py`, from the records that the driver returns to the result.
Opening the connection and running the SQL are not modelled: `executePostgresqlQuery` receives
how they ended.
-/

namespace DataChat.Executor

inductive Raised
  | queryExecutionError (message : String)
  | queryExecutionTimeoutError (message : String)
  | queryResultTooLargeError (message : String)
deriving DecidableEq, Repr

abbrev Execution := Except Raised

/-- `asyncpg.Record`: its names, which may repeat, and its values. -/
abbrev Record := List (String × PyValue)

abbrev Row := Dict String PyValue

structure QueryExecutionResult where
  columns : List String
  rows : List Row
  row_count : Nat
  result_size_bytes : Nat
  execution_time_ms : Int
  truncated : Bool

/-! ## Serialisation -/

/-- The alphabet of base64. -/
def base64Char (n : Nat) : Char :=
  if n < 26 then Char.ofNat (65 + n)
  else if n < 52 then Char.ofNat (71 + n)
  else if n < 62 then Char.ofNat (n - 4)
  else if n = 62 then '+'
  else '/'

def base64Chars : List UInt8 → List Char
  | [] => []
  | [a] =>
    [base64Char (a.toNat / 4), base64Char (a.toNat % 4 * 16), '=', '=']
  | [a, b] =>
    [base64Char (a.toNat / 4), base64Char (a.toNat % 4 * 16 + b.toNat / 16),
      base64Char (b.toNat % 16 * 4), '=']
  | a :: b :: c :: rest =>
    [base64Char (a.toNat / 4), base64Char (a.toNat % 4 * 16 + b.toNat / 16),
      base64Char (b.toNat % 16 * 4 + c.toNat / 64), base64Char (c.toNat % 64)] ++
      base64Chars rest

/-- `base64.b64encode(data).decode("ascii")`. -/
def b64encode (data : List UInt8) : String := String.ofList (base64Chars data)

/-- A dictionary comprehension: later values replace earlier ones under the same key. -/
def dictOf {ν : Type} (items : List (String × ν)) : Dict String ν :=
  items.foldl (fun d item => d.set item.1 item.2) Dict.empty

mutual

def serializeDatabaseValue (rt : PyRuntime) : PyValue → PyValue
  | .none => .none
  | .uuid text => .str text
  | .datetime isoformat => .str isoformat
  | .date isoformat => .str isoformat
  | .decimal text => .str text
  | .bytes data => .str (b64encode data)
  | .tuple items => .list (serializeItems rt items)
  | .list items => .list (serializeItems rt items)
  | .dict items =>
    .dict ((dictOf (serializeFields rt items)).items.map (fun item => (.str item.1, item.2)))
  | .str s => .str s
  | .int n => .int n
  | .float f => .float f
  | .bool b => .bool b
  | .other text => .str text

def serializeItems (rt : PyRuntime) : List PyValue → List PyValue
  | [] => []
  | item :: items => serializeDatabaseValue rt item :: serializeItems rt items

def serializeFields (rt : PyRuntime) : List (PyValue × PyValue) → List (String × PyValue)
  | [] => []
  | (key, value) :: items =>
    (pyStr rt key, serializeDatabaseValue rt value) :: serializeFields rt items

end

/-! ## Masks -/

/-- A mask of the text of a value; `None` stays `None`. -/
def maskWith (rt : PyRuntime) (mask : String → String) : PyValue → PyValue
  | .none => .none
  | value => .str (mask (pyStr rt value))

def stars (n : Nat) : List Char := List.replicate n '*'

def partialText (text : String) : String :=
  let cs := text.toList
  if cs.length ≤ 4 then String.ofList (stars cs.length)
  else String.ofList (cs.take 2 ++ stars (cs.length - 4) ++ cs.drop (cs.length - 2))

def emailText (text : String) : String :=
  let cs := text.toList
  if '@' ∉ cs then partialText text
  else
    let localPart := cs.takeWhile (fun c => c ≠ '@')
    let domain := (cs.dropWhile (fun c => c ≠ '@')).drop 1
    let maskedLocalPart :=
      match localPart with
      | [] => stars 3
      | [c] => c :: stars 3
      | c :: rest => c :: stars (max rest.length 3)
    String.ofList (maskedLocalPart ++ '@' :: domain)

def maskFull (rt : PyRuntime) : PyValue → PyValue := maskWith rt (fun _ => "********")

def maskPartial (rt : PyRuntime) : PyValue → PyValue := maskWith rt partialText

def maskEmail (rt : PyRuntime) : PyValue → PyValue := maskWith rt emailText

def maskHash (rt : PyRuntime) : PyValue → PyValue := maskWith rt rt.sha256Hex

/-- `masks.get(mask_type)`. -/
def maskFunction (rt : PyRuntime) (maskType : String) : Option (PyValue → PyValue) :=
  match maskType with
  | "full" => some (maskFull rt)
  | "partial" => some (maskPartial rt)
  | "email" => some (maskEmail rt)
  | "hash" => some (maskHash rt)
  | _ => none

def applyMask (rt : PyRuntime) (value : PyValue) (maskType : Option String) :
    Execution PyValue :=
  match maskType with
  | none => pure value
  | some maskType =>
    match maskFunction rt maskType with
    | none => throw (.queryExecutionError "The configured column mask is not supported.")
    | some mask => pure (mask value)

def getColumnMasks (rt : PyRuntime) (schema : AllowedSchema) : Dict String String :=
  (schema.tables.values.flatMap (fun table => table.columns.values)).foldl
    (fun masks column =>
      match column.mask_type with
      | none => masks
      | some maskType => masks.set (rt.casing.lower column.name) maskType)
    Dict.empty

/-! ## Rows -/

/-- One pass of the loop over the items of a record. -/
def serializeCell (rt : PyRuntime) (columnMasks : Dict String String) (row : Row)
    (item : String × PyValue) : Execution Row := do
  let masked ← applyMask rt (serializeDatabaseValue rt item.2)
    (columnMasks.get (rt.casing.lower item.1))
  pure (row.set item.1 masked)

def serializeRecord (rt : PyRuntime) (columnMasks : Dict String String) (record : Record) :
    Execution Row :=
  record.foldlM (serializeCell rt columnMasks) Dict.empty

def rowValue (row : Row) : PyValue := .dict (row.items.map (fun item => (.str item.1, item.2)))

/-- The length in UTF-8 of the JSON text of the result, when it has one. -/
def calculateResultSize (columns : List String) (rows : List Row) : Option Nat :=
  (jsonDumps (.dict [(.str "columns", .list (columns.map PyValue.str)),
    (.str "rows", .list (rows.map rowValue))])).map String.utf8ByteSize

/-- The size, where a `TypeError` of `json.dumps` ends the execution. -/
def resultSize (columns : List String) (rows : List Row) : Execution Nat :=
  match calculateResultSize columns rows with
  | some size => pure size
  | none => throw (.queryExecutionError "The secured query could not be executed.")

/-- One pass of the loop over the records. -/
def appendRow (rt : PyRuntime) (columnMasks : Dict String String) (columns : List String)
    (maximumResultBytes : Int) (rows : List Row) (record : Record) : Execution (List Row) := do
  let serializedRow ← serializeRecord rt columnMasks record
  let currentSize ← resultSize columns (rows ++ [serializedRow])
  if (currentSize : Int) > maximumResultBytes then
    throw (.queryResultTooLargeError "The query result exceeded the configured size limit.")
  else pure (rows ++ [serializedRow])

/-- `list(records[0].keys()) if records else []`. -/
def columnsOf (records : List Record) : List String :=
  match records with
  | [] => []
  | record :: _ => record.map Prod.fst

/-- How connecting and fetching may fail: with a `TimeoutError`, or with one of the other
exceptions that are caught. -/
inductive FetchError
  | timeout
  | failed
deriving DecidableEq, Repr

def executePostgresqlQuery (rt : PyRuntime) (schema : AllowedSchema)
    (timeoutSeconds maximumResultBytes : Int) (fetched : Except FetchError (List Record))
    (elapsedMs : Int) : Execution QueryExecutionResult :=
  if timeoutSeconds < 1 then
    throw (.queryExecutionError "The execution timeout must be positive.")
  else if maximumResultBytes < 1 then
    throw (.queryExecutionError "The result-size limit must be positive.")
  else
    match fetched with
    | .error .timeout => throw (.queryExecutionTimeoutError "The query execution timed out.")
    | .error .failed =>
      throw (.queryExecutionError "The secured query could not be executed.")
    | .ok records => do
      let columns := columnsOf records
      let rows ← records.foldlM
        (appendRow rt (getColumnMasks rt schema) columns maximumResultBytes) []
      let resultSizeBytes ← resultSize columns rows
      pure { columns := columns
             rows := rows
             row_count := rows.length
             result_size_bytes := resultSizeBytes
             execution_time_ms := elapsedMs
             truncated := false }

end DataChat.Executor
