import MessageBus.Text.Printable

/-! Texts in double quotes. Quotes and backslashes are escaped, the usual controls have letters, and
a character that would not show, or would be drawn onto its neighbour, is given by its code point.
-/
namespace MessageBus.Text

/-- The digits of a number in base sixteen, most significant first, without leading zeros. -/
def hexDigits (n : Nat) : List Char :=
  Nat.toDigits 16 n

/-- A character as it stands inside double quotes. -/
def escaped (c : Char) : List Char :=
  if c = '\x00' then ['\\', '0']
  else if c = '\t' then ['\\', 't']
  else if c = '\r' then ['\\', 'r']
  else if c = '\n' then ['\\', 'n']
  else if c = '\\' || c = '"' then ['\\', c]
  else if !isGraphemeExtend c && isPrintable c then [c]
  else ['\\', 'u', '\x7b'] ++ hexDigits c.toNat ++ ['\x7d']

def quote (s : String) : String :=
  String.ofList ('"' :: s.toList.flatMap escaped ++ ['"'])

example : escaped '"' = ['\\', '"'] ∧ escaped 'e' = ['e'] := by decide +kernel

example : escaped '\x7f' = ['\\', 'u', '\x7b', '7', 'f', '\x7d'] := by decide +kernel

end MessageBus.Text
