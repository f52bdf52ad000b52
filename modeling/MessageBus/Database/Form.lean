import MessageBus.Database.Value
import MessageBus.Json.Form
import MessageBus.Report.Outcome

/-! The data forms of values, of parameters and of what a database sends. Octets are given in base
sixteen. -/
namespace MessageBus.Database

def SqlType.all : List SqlType := [.bool, .bytea, .int2, .int4, .int8, .text, .timestamptz, .uuid]

/-- The type of a name in lower case. -/
def SqlType.ofName? (name : String) : Option SqlType :=
  SqlType.all.find? fun type => type.name.map Char.toLower == name

/-- A value of the given type. -/
def SqlValue.ofJson? (type : SqlType) (j : Json) : Option SqlValue :=
  match type with
  | .bool => (JsonForm.ofJson? j).map .bool
  | .bytea => (bytesOfReport? j).map .bytes
  | .int2 => (j.intBetween? Int16.minValue.toInt Int16.maxValue.toInt).map fun n => .int2 (.ofInt n)
  | .int4 => (j.intBetween? Int32.minValue.toInt Int32.maxValue.toInt).map fun n => .int4 (.ofInt n)
  | .int8 => (j.intBetween? Int64.minValue.toInt Int64.maxValue.toInt).map fun n => .int8 (.ofInt n)
  | .text => (JsonForm.ofJson? j).map .text
  | .timestamptz => (JsonForm.ofJson? j).map .ofInstant
  | .uuid => (JsonForm.ofJson? j).map .uuid

/-- A cell of a column of the given type. -/
def cellOfJson? (type : SqlType) : Json → Option (Option SqlValue)
  | .null => some none
  | j => (SqlValue.ofJson? type j).map some

def SqlValue.toJson : SqlValue → Json
  | bool b => .bool b
  | bytes b => bytesReport b
  | int2 n => .int n.toInt
  | int4 n => .int n.toInt
  | int8 n => .int n.toInt
  | text s => .string s
  | time t => JsonForm.toJson t
  | uuid u => JsonForm.toJson u

def SqlParam.toJson : SqlParam → Json
  | null => .null
  | value v => v.toJson
  | int2List values => .array (values.map fun n => .int n.toInt)

theorem SqlType.ofName?_name (type : SqlType) :
    SqlType.ofName? (type.name.map Char.toLower) = some type := by
  cases type <;> decide +kernel

end MessageBus.Database
