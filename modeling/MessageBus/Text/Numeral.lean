/-! Natural numbers written in decimal digits, below a bound. -/
namespace MessageBus.Text

/-- Why a text is not such a number. -/
inductive NumeralError where
  | empty
  | badDigit
  | tooLarge
  deriving DecidableEq, Repr

def NumeralError.message : NumeralError → String
  | empty => "cannot parse integer from empty string"
  | badDigit => "invalid digit found in string"
  | tooLarge => "number too large to fit in target type"

/-- Reads the digits that follow the value so far. The first fault is reported. -/
def readDigits (bound value : Nat) : List Char → Except NumeralError Nat
  | [] => .ok value
  | c :: cs =>
    if !c.isDigit then .error .badDigit
    else
      let next := 10 * value + (c.toNat - 48)
      if next < bound then readDigits bound next cs else .error .tooLarge

/-- A number below `bound`. A plus sign may stand before the digits. -/
def readNatBelow (bound : Nat) (cs : List Char) : Except NumeralError Nat :=
  match cs with
  | [] => .error .empty
  | ['+'] => .error .badDigit
  | '+' :: rest => readDigits bound 0 rest
  | _ => readDigits bound 0 cs

theorem readDigits_lt {bound value n : Nat} {cs : List Char} (start : value < bound)
    (h : readDigits bound value cs = .ok n) : n < bound := by
  induction cs generalizing value with
  | nil => simp only [readDigits, Except.ok.injEq] at h; omega
  | cons c cs ih =>
    simp only [readDigits] at h
    split at h
    · simp at h
    · split at h
      · next hn => exact ih hn h
      · simp at h

example : (readNatBelow 256 "255".toList).toOption = some 255 ∧
    (readNatBelow 256 "256".toList).toOption = none := by decide +kernel

end MessageBus.Text
