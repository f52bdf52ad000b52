/-! The shortest decimal that stands for a binary number. Of the decimals that round to the number
it has the fewest digits, and of those it is the nearest. -/
namespace MessageBus.Number

/-- The number `digits * 10 ^ exponent`. -/
structure Decimal where
  digits : Nat
  exponent : Int
  deriving DecidableEq, Repr

/-- A positive number in fourths of its last binary place, with the ends of the interval of numbers
that round to it: `value / scale`, `low / scale` and `high / scale`. -/
structure Rounding where
  value : Nat
  low : Nat
  high : Nat
  scale : Nat
  closed : Bool

namespace Rounding

/-- The interval around `significand * 2 ^ exponent`. Below a power of two the numbers lie closer,
which `narrow` says. -/
def ofBinary (significand : Nat) (exponent : Int) (narrow : Bool) : Rounding :=
  let up := 1 <<< (exponent - 2).toNat
  { value := 4 * significand * up
    low := (if narrow then 4 * significand - 1 else 4 * significand - 2) * up
    high := (4 * significand + 2) * up
    scale := 1 <<< (2 - exponent).toNat
    closed := significand % 2 == 0 }

/-- Whether the multiple `k` of `10 ^ place` lies in the interval. -/
def holds (r : Rounding) (place : Int) (k : Nat) : Bool :=
  let x := k * Nat.pow 10 place.toNat * r.scale
  let up := Nat.pow 10 (-place).toNat
  if r.closed then r.low * up ≤ x && x ≤ r.high * up else r.low * up < x && x < r.high * up

/-- The greatest multiple of `10 ^ place` that is not above the number. -/
def below (r : Rounding) (place : Int) : Nat :=
  r.value * Nat.pow 10 (-place).toNat / (r.scale * Nat.pow 10 place.toNat)

/-- Whether the multiple after `k` is nearer to the number than `k`, the even one on a tie. -/
def nearerAbove (r : Rounding) (place : Int) (k : Nat) : Bool :=
  let twice := 2 * r.value * Nat.pow 10 (-place).toNat
  let middle := (2 * k + 1) * r.scale * Nat.pow 10 place.toNat
  middle < twice || (middle == twice && k % 2 == 1)

/-- The decimal on the grid of `10 ^ place`, if one rounds to the number. -/
def onGrid? (r : Rounding) (place : Int) : Option Nat :=
  let k := r.below place
  match r.holds place k, r.holds place (k + 1) with
  | true, true => some (if r.nearerAbove place k then k + 1 else k)
  | true, false => some k
  | false, true => some (k + 1)
  | false, false => none

/-- The place of the leading digit, found by going up or down from the units. -/
def leadingPlace (r : Rounding) : Int :=
  let rec rise (fuel : Nat) (place : Nat) : Nat :=
    match fuel with
    | 0 => place
    | fuel + 1 =>
      if r.scale * Nat.pow 10 (place + 1) ≤ r.value then rise fuel (place + 1) else place
  let rec fall (fuel : Nat) (place : Nat) : Nat :=
    match fuel with
    | 0 => place
    | fuel + 1 => if r.scale ≤ r.value * Nat.pow 10 place then place else fall fuel (place + 1)
  if r.scale ≤ r.value then rise 400 0 else -(fall 400 0 : Int)

/-- Tries one digit, then two, and so on; `count` digits are to come after the first. -/
def search (r : Rounding) (place : Int) : Nat → Decimal
  | 0 => ⟨r.below place, place⟩
  | count + 1 =>
    match r.onGrid? place with
    | some k => ⟨k, place⟩
    | none => search r (place - 1) count

/-- Seventeen digits always suffice for a number of 53 binary places. -/
def shortest (r : Rounding) : Decimal :=
  r.search r.leadingPlace 17

end Rounding

example : (Rounding.ofBinary 0x1999999999999A (-56) false).shortest = ⟨1, -1⟩ := by decide +kernel

end MessageBus.Number
