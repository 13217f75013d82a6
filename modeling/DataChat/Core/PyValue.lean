import DataChat.Library.Dict
import DataChat.Library.Text

/-!
# Python values and their texts

The values a database driver hands out, as far as the platform tells them apart, with `str`,
`repr` and `json.dumps`. What depends on tables of the interpreter (which characters `repr`
escapes, the digests of `hashlib`) is carried by a `PyRuntime`.
-/

namespace DataChat

/-- A float. A finite one is known by its `repr`. -/
inductive PyFloat
  | finite (repr : String)
  | nan
  | infinite (negative : Bool)
deriving DecidableEq, Repr

/-- Dates and times are known by their `isoformat`, decimals and UUIDs by their `str`, and so is
any other object. -/
inductive PyValue where
  | none
  | bool (value : Bool)
  | int (value : Int)
  | float (value : PyFloat)
  | str (value : String)
  | bytes (data : List UInt8)
  | uuid (text : String)
  | datetime (isoformat : String)
  | date (isoformat : String)
  | decimal (text : String)
  | tuple (items : List PyValue)
  | list (items : List PyValue)
  | dict (items : List (PyValue × PyValue))
  | other (text : String)

/-- The parts of the interpreter that are left open. -/
structure PyRuntime where
  casing : Casing
  /-- `repr` of a string. -/
  reprString : String → String
  /-- `repr` of a value that is no string, number, list, tuple or dictionary. -/
  reprOther : PyValue → String
  /-- `hashlib.sha256(text.encode("utf-8")).hexdigest()`. -/
  sha256Hex : String → String
  length_sha256Hex : ∀ text, (sha256Hex text).length = 64

/-- `separator.join(parts)`. -/
def joinWith (separator : String) : List String → String
  | [] => ""
  | [part] => part
  | part :: rest => part ++ separator ++ joinWith separator rest

/-! ## `str` and `repr` -/

def PyFloat.text : PyFloat → String
  | finite repr => repr
  | nan => "nan"
  | infinite false => "inf"
  | infinite true => "-inf"

mutual

/-- `repr(value)`. -/
def pyRepr (rt : PyRuntime) : PyValue → String
  | .none => "None"
  | .bool true => "True"
  | .bool false => "False"
  | .int n => toString n
  | .float f => f.text
  | .str s => rt.reprString s
  | .tuple [item] => "(" ++ pyRepr rt item ++ ",)"
  | .tuple items => "(" ++ joinWith ", " (pyReprItems rt items) ++ ")"
  | .list items => "[" ++ joinWith ", " (pyReprItems rt items) ++ "]"
  | .dict items => "\x7b" ++ joinWith ", " (pyReprFields rt items) ++ "\x7d"
  | value => rt.reprOther value

def pyReprItems (rt : PyRuntime) : List PyValue → List String
  | [] => []
  | item :: items => pyRepr rt item :: pyReprItems rt items

def pyReprFields (rt : PyRuntime) : List (PyValue × PyValue) → List String
  | [] => []
  | (key, value) :: items => (pyRepr rt key ++ ": " ++ pyRepr rt value) :: pyReprFields rt items

end

/-- `str(value)`. -/
def pyStr (rt : PyRuntime) : PyValue → String
  | .str s => s
  | .uuid text | .date text | .decimal text | .other text => text
  | .datetime isoformat =>
    String.ofList (isoformat.toList.map (fun c => if c = 'T' then ' ' else c))
  | value => pyRepr rt value

/-! ## `json.dumps` -/

def hexDigit (n : Nat) : Char :=
  if n < 10 then Char.ofNat (48 + n) else Char.ofNat (87 + n)

/-- A character inside a JSON string, with `ensure_ascii=False`. -/
def jsonChar (c : Char) : String :=
  if c = '"' then "\\\""
  else if c = '\\' then "\\\\"
  else if c = '\n' then "\\n"
  else if c = '\r' then "\\r"
  else if c = '\t' then "\\t"
  else if c.toNat = 8 then "\\b"
  else if c.toNat = 12 then "\\f"
  else if c.toNat < 32 then
    "\\u00" ++ String.ofList [hexDigit (c.toNat / 16), hexDigit (c.toNat % 16)]
  else String.ofList [c]

def jsonString (s : String) : String := "\"" ++ joinWith "" (s.toList.map jsonChar) ++ "\""

def PyFloat.json : PyFloat → String
  | finite repr => repr
  | nan => "NaN"
  | infinite false => "Infinity"
  | infinite true => "-Infinity"

/-- The key of an object: `json.dumps` turns numbers, booleans and `None` into strings. -/
def jsonKey : PyValue → Option String
  | .str s => some (jsonString s)
  | .int n => some (jsonString (toString n))
  | .float f => some (jsonString f.json)
  | .bool true => some (jsonString "true")
  | .bool false => some (jsonString "false")
  | .none => some (jsonString "null")
  | _ => none

mutual

/-- `json.dumps(value, ensure_ascii=False, separators=(",", ":"))`, which raises a `TypeError`
for values without a JSON form. -/
def jsonDumps : PyValue → Option String
  | .none => some "null"
  | .bool true => some "true"
  | .bool false => some "false"
  | .int n => some (toString n)
  | .float f => some f.json
  | .str s => some (jsonString s)
  | .tuple items | .list items => do
    let texts ← jsonItems items
    pure ("[" ++ joinWith "," texts ++ "]")
  | .dict items => do
    let texts ← jsonFields items
    pure ("\x7b" ++ joinWith "," texts ++ "\x7d")
  | _ => none

def jsonItems : List PyValue → Option (List String)
  | [] => some []
  | item :: items => do
    let text ← jsonDumps item
    let texts ← jsonItems items
    pure (text :: texts)

def jsonFields : List (PyValue × PyValue) → Option (List String)
  | [] => some []
  | (key, value) :: items => do
    let keyText ← jsonKey key
    let text ← jsonDumps value
    let texts ← jsonFields items
    pure ((keyText ++ ":" ++ text) :: texts)

end

end DataChat
