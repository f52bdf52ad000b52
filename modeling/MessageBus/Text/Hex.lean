import MessageBus.Text.Utf8

/-! Octets in base sixteen, two digits each, in lower case; digits of either case are read. What is
written is read back. -/
namespace MessageBus.Text

/-- The value of a digit in base sixteen, of either case. -/
def hexValue? (c : Char) : Option Nat :=
  if '0' ≤ c ∧ c ≤ '9' then some (c.toNat - 48)
  else if 'a' ≤ c ∧ c ≤ 'f' then some (c.toNat - 87)
  else if 'A' ≤ c ∧ c ≤ 'F' then some (c.toNat - 55)
  else none

theorem hexValue?_digitChar : ∀ n < 16, hexValue? (Nat.digitChar n) = some n := by decide

/-- Two digits in base sixteen. -/
def hexPair (n : Nat) : List Char :=
  [Nat.digitChar (n / 16 % 16), Nat.digitChar (n % 16)]

def hexChars (b : Bytes) : List Char :=
  b.flatMap fun x => hexPair x.toNat

def ofHexChars? : List Char → Option Bytes
  | [] => some []
  | [_] => none
  | high :: low :: rest => do
    let h ← hexValue? high
    let l ← hexValue? low
    return (16 * h + l).toUInt8 :: (← ofHexChars? rest)

theorem ofHexChars?_hexChars (b : Bytes) : ofHexChars? (hexChars b) = some b := by
  induction b with
  | nil => rfl
  | cons x rest ih =>
    have hx := x.toNat_lt
    have high : hexValue? (Nat.digitChar (x.toNat / 16 % 16)) = some (x.toNat / 16 % 16) :=
      hexValue?_digitChar _ (by omega)
    have low : hexValue? (Nat.digitChar (x.toNat % 16)) = some (x.toNat % 16) :=
      hexValue?_digitChar _ (by omega)
    have value : 16 * (x.toNat / 16 % 16) + x.toNat % 16 = x.toNat := by omega
    have octet : (16 * (x.toNat / 16 % 16) + x.toNat % 16).toUInt8 = x := by
      rw [value, Nat.toUInt8, UInt8.ofNat_toNat]
    change ofHexChars? (Nat.digitChar _ :: Nat.digitChar _ :: hexChars rest) = _
    rw [ofHexChars?, high, low, ih]
    simp only [Option.bind_eq_bind, Option.bind_some, octet, Option.pure_def]

def hex (b : Bytes) : String := String.ofList (hexChars b)

def ofHex? (s : String) : Option Bytes := ofHexChars? s.toList

@[simp] theorem ofHex?_hex (b : Bytes) : ofHex? (hex b) = some b := by
  simp [ofHex?, hex, ofHexChars?_hexChars]

example : hex [0, 171] = "00ab" ∧ ofHex? "00aB" = some [0, 171] ∧ ofHex? "0" = none := by
  decide +kernel

end MessageBus.Text
