import DataChat.Library.Dict

/-!
# The permission-filtered schema

The data the query pipeline works on: which tables a user may read, which columns of them and
how, and the row filters that must hold of every row he is shown (`core/permissions.py`). Row
filters are JSON objects as they are stored.
-/

namespace DataChat

/-- A JSON value. A number keeps its sign and its text. -/
inductive Json where
  | null
  | bool (value : Bool)
  | number (negative : Bool) (magnitude : String)
  | string (value : String)
  | array (items : List Json)
  | object (fields : List (String × Json))

/-- A JSON object, `dict[str, Any]`. -/
abbrev JsonObject := List (String × Json)

/-- `value.get(key)`. -/
def JsonObject.get (fields : JsonObject) (key : String) : Option Json := List.lookup key fields

structure AllowedColumn where
  column_id : String
  name : String
  data_type : String
  can_read : Bool
  can_filter : Bool
  can_aggregate : Bool
  mask_type : Option String
deriving DecidableEq

structure AllowedTable where
  table_id : String
  schema_name : String
  table_name : String
  can_read : Bool
  can_insert : Bool
  can_update : Bool
  can_delete : Bool
  columns : Dict String AllowedColumn
  row_filters : List JsonObject

structure AllowedSchema where
  connection_id : String
  tables : Dict String AllowedTable

end DataChat
