import MessageBus.Number.Shortest

/-! Floating point numbers of 64 bits and the form in which data texts show them: at least one digit
on either side of the point from 10^-5 up to 10^16, and a signed exponent beyond. -/
namespace MessageBus.Number

/-- The number with the given bits, in the layout of IEEE 754. -/
structure Double where
  bits : UInt64
  deriving DecidableEq

namespace Double

def ofFloat (x : Float) : Double := ⟨x.toBits⟩

def toFloat (x : Double) : Float := Float.ofBits x.bits

def isNegative (x : Double) : Bool := 1 <<< 63 ≤ x.bits.toNat

def fraction (x : Double) : Nat := x.bits.toNat % (1 <<< 52)

def biasedExponent (x : Double) : Nat := (x.bits.toNat >>> 52) % (1 <<< 11)

/-- Without a sign the number is `significand * 2 ^ exponent`. -/
def significand (x : Double) : Nat :=
  if x.biasedExponent = 0 then x.fraction else x.fraction + (1 <<< 52)

def exponent (x : Double) : Int :=
  if x.biasedExponent = 0 then -1074 else x.biasedExponent - 1075

/-- The shortest decimal that reads back as the number without its sign. -/
def decimal (x : Double) : Decimal :=
  (Rounding.ofBinary x.significand x.exponent (x.fraction == 0 && 1 < x.biasedExponent)).shortest

/-- A decimal without trailing zeros. -/
def stripped (d : Decimal) : Decimal :=
  let rec strip (fuel : Nat) (d : Decimal) : Decimal :=
    match fuel with
    | 0 => d
    | fuel + 1 => if d.digits % 10 = 0 then strip fuel ⟨d.digits / 10, d.exponent + 1⟩ else d
  if d.digits = 0 then d else strip 20 d

/-- The digits of a decimal with the point, or with an exponent where the point is too far away. -/
def decimalText (d : Decimal) : String :=
  let ds := Nat.toDigits 10 d.digits
  let point : Int := ds.length + d.exponent
  let text : List Char :=
    if 0 ≤ d.exponent ∧ point ≤ 16 then ds ++ List.replicate d.exponent.toNat '0' ++ ['.', '0']
    else if 0 < point ∧ point ≤ 16 then ds.take point.toNat ++ '.' :: ds.drop point.toNat
    else if -5 < point ∧ point ≤ 0 then '0' :: '.' :: List.replicate (-point).toNat '0' ++ ds
    else
      let rest := if ds.length ≤ 1 then [] else '.' :: ds.drop 1
      let sign := if point ≤ 0 then '-' else '+'
      ds.take 1 ++ rest ++ ['e', sign] ++ Nat.toDigits 10 (point - 1).natAbs
  String.ofList text

/-- The text of a finite number. -/
def toString (x : Double) : String :=
  let sign := if x.isNegative then "-" else ""
  if x.significand = 0 then sign ++ "0.0" else sign ++ decimalText (stripped x.decimal)

instance : ToString Double := ⟨toString⟩

example : decimalText ⟨1, 15⟩ = "1000000000000000.0" ∧ decimalText ⟨1, 16⟩ = "1e+16" := by
  decide +kernel

example : decimalText ⟨1, -5⟩ = "0.00001" ∧ decimalText ⟨12, -7⟩ = "1.2e-6" := by decide +kernel

end Double

/-- The floating point number nearest to a natural number, the even one on a tie. Beyond 64 binary
places the last place kept also says whether anything was cut. -/
def nearestFloat (n : Nat) : Float :=
  if n < UInt64.size then n.toUInt64.toFloat
  else
    let cut := n.log2 - 62
    let kept := n >>> cut
    let sticky := if n % (1 <<< cut) = 0 ∨ kept % 2 = 1 then kept else kept + 1
    sticky.toUInt64.toFloat.scaleB cut

end MessageBus.Number
