import MessageBus.Json.Value
import MessageBus.Text.Quoted

/-! What data are, in the words of a reason why they do not fit. -/
namespace MessageBus.Json

/-- The kind of the data; of a scalar the value too. -/
def description : Json → String
  | null => "null"
  | bool b => s!"boolean `{b}`"
  | number (.int n) => s!"integer `{n}`"
  | number (.double x) => s!"floating point `{x}`"
  | string s => s!"string {Text.quote s}"
  | array _ => "sequence"
  | object _ => "map"

example : description (string "a\"b") = "string \"a\\\"b\"" := by decide +kernel

end MessageBus.Json
