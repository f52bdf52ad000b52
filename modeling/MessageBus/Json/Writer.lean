import MessageBus.Json.Value
import MessageBus.Text.Hex

/-! The compact text of JSON data. -/
namespace MessageBus.Json

/-- A character inside a string: quotes, backslashes and control characters are escaped. -/
def escaped (c : Char) : List Char :=
  if c = '"' then ['\\', '"']
  else if c = '\\' then ['\\', '\\']
  else if c = '\x08' then ['\\', 'b']
  else if c = '\x0c' then ['\\', 'f']
  else if c = '\n' then ['\\', 'n']
  else if c = '\r' then ['\\', 'r']
  else if c = '\t' then ['\\', 't']
  else if c.toNat < 32 then ['\\', 'u', '0', '0'] ++ Text.hexPair c.toNat
  else [c]

def stringChars (s : String) : List Char :=
  '"' :: s.toList.flatMap escaped ++ ['"']

def numberChars : JsonNumber → List Char
  | .int n => (toString n).toList
  | .double x => x.toString.toList

mutual

def chars : Json → List Char
  | null => ['n', 'u', 'l', 'l']
  | bool true => ['t', 'r', 'u', 'e']
  | bool false => ['f', 'a', 'l', 's', 'e']
  | number n => numberChars n
  | string s => stringChars s
  | array items => '[' :: itemChars items ++ [']']
  | object members => '\x7b' :: memberChars members ++ ['\x7d']

/-- Items with commas between them. -/
def itemChars : List Json → List Char
  | [] => []
  | [x] => chars x
  | x :: y :: rest => chars x ++ ',' :: itemChars (y :: rest)

/-- Members with commas between them. -/
def memberChars : List (String × Json) → List Char
  | [] => []
  | [(k, x)] => stringChars k ++ ':' :: chars x
  | (k, x) :: m :: rest => stringChars k ++ ':' :: chars x ++ ',' :: memberChars (m :: rest)

end

def render (j : Json) : String := String.ofList (chars j)

/-- The octets of the compact text. -/
def toBytes (j : Json) : Bytes := Text.toBytes (render j)

example : render (ofMembers [("b", int 1), ("a", array [null, bool true]), ("b", int 2)]) =
    "\x7b\"a\":[null,true],\"b\":2\x7d" := by decide +kernel

end MessageBus.Json
