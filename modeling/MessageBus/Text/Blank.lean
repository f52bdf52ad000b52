/-! White space as the Unicode standard defines it, and its removal from both ends of a text. -/
namespace MessageBus.Text

/-- The property White_Space: twenty-five characters. -/
def isBlank (c : Char) : Bool :=
  let n := c.toNat
  (0x9 ≤ n && n ≤ 0xD) || n == 0x20 || n == 0x85 || n == 0xA0 || n == 0x1680 ||
  (0x2000 ≤ n && n ≤ 0x200A) || n == 0x2028 || n == 0x2029 || n == 0x202F || n == 0x205F ||
  n == 0x3000

theorem isBlank_of_isWhitespace {c : Char} (h : c.isWhitespace = true) : isBlank c = true := by
  simp only [Char.isWhitespace, Bool.or_eq_true, decide_eq_true_eq] at h
  rcases h with ((rfl | rfl) | rfl) | rfl <;> decide

/-- The characters left when blanks are taken off both ends. -/
def trimmed (cs : List Char) : List Char :=
  ((cs.dropWhile isBlank).reverse.dropWhile isBlank).reverse

def trim (s : String) : String :=
  String.ofList (trimmed s.toList)

/-- A text without a character that shows. -/
def isAllBlank (s : String) : Bool :=
  s.toList.all isBlank

theorem dropWhile_eq_nil_of_all {p : Char → Bool} {cs : List Char} (h : cs.all p = true) :
    cs.dropWhile p = [] := by
  induction cs with
  | nil => rfl
  | cons c cs ih =>
    simp only [List.all_cons, Bool.and_eq_true] at h
    simp [List.dropWhile, h.1, ih h.2]

theorem trimmed_eq_nil_of_isAllBlank {s : String} (h : isAllBlank s = true) :
    trimmed s.toList = [] := by
  simp [trimmed, dropWhile_eq_nil_of_all h]

example : isBlank (Char.ofNat 0x3000) = true ∧ isBlank (Char.ofNat 0x200B) = false := by decide

end MessageBus.Text
