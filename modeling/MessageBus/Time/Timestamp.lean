import MessageBus.Text.Blank
import MessageBus.Time.Calendar
import MessageBus.Time.Instant

/-! The text form of instants, after RFC 3339. It is written in UTC with the shortest exact fraction
of none, three, six or nine digits. Reading is more liberal: any offset, blanks between the parts,
short numbers, and fractions of any length, of which nine digits count. The second 60 is read and
written in every minute. -/
namespace MessageBus

/-- Decimal digits with zeros in front up to the given width. -/
def padded (width n : Nat) : String :=
  let ds := (Nat.repr n).toList
  String.ofList (List.replicate (width - ds.length) '0' ++ ds)

namespace Instant

/-! Writing. -/

/-- Four digits; a year that needs more, or lies before the year 0, has a sign. -/
def yearText (year : Int) : String :=
  if 0 ≤ year ∧ year ≤ 9999 then padded 4 year.toNat
  else (if year < 0 then "-" else "+") ++ padded 4 year.natAbs

def fractionText (nanos : Nat) : String :=
  if nanos = 0 then ""
  else if nanos % 1_000_000 = 0 then "." ++ padded 3 (nanos / 1_000_000)
  else if nanos % 1_000 = 0 then "." ++ padded 6 (nanos / 1_000)
  else "." ++ padded 9 nanos

def minutesPerDay : Int := 1440

def toString (t : Instant) : String :=
  let date := CivilDate.ofDays (t.minute / minutesPerDay)
  let minutes := (t.minute % minutesPerDay).toNat
  let nanos := t.ofMinute.toNat
  s!"{yearText date.year}-{padded 2 date.month}-{padded 2 date.day}" ++
    s!"T{padded 2 (minutes / 60)}:{padded 2 (minutes % 60)}:{padded 2 (nanos / 1_000_000_000)}" ++
    fractionText (nanos % 1_000_000_000) ++ "Z"

instance : ToString Instant := ⟨toString⟩

/-! Reading. Each part is read off the front of the text, and the rest is handed on. -/

abbrev Scan (α : Type) := List Char → Option (α × List Char)

def skipBlanks (cs : List Char) : List Char :=
  cs.dropWhile Text.isBlank

/-- One digit or more, at most `width` of them. -/
def scanDigits (width : Nat) : Scan (List Char) := fun cs =>
  let ds := (cs.take width).takeWhile Char.isDigit
  if ds.isEmpty then none else some (ds, cs.drop ds.length)

def valueOfDigits (ds : List Char) : Nat :=
  ds.foldl (fun n d => 10 * n + (d.toNat - 48)) 0

/-- A number within bounds, after blanks. -/
def scanNumber (width least greatest : Nat) : Scan Nat := fun cs => do
  let (ds, rest) ← scanDigits width (skipBlanks cs)
  let n := valueOfDigits ds
  if least ≤ n ∧ n ≤ greatest then some (n, rest) else none

/-- A year has at most four digits, or a sign and any number of digits. -/
def scanYear : Scan Int := fun cs =>
  match skipBlanks cs with
  | '-' :: cs => (scanDigits cs.length cs).map fun (ds, rest) => (-(valueOfDigits ds : Int), rest)
  | '+' :: cs => (scanDigits cs.length cs).map fun (ds, rest) => ((valueOfDigits ds : Int), rest)
  | cs => (scanDigits 4 cs).map fun (ds, rest) => ((valueOfDigits ds : Int), rest)

/-- A character that stands after blanks. -/
def scanMark (mark : Char) : Scan Unit := fun cs =>
  match skipBlanks cs with
  | c :: rest => if c = mark then some ((), rest) else none
  | [] => none

def scanDate : Scan CivilDate := fun cs => do
  let (year, cs) ← scanYear cs
  let (_, cs) ← scanMark '-' cs
  let (month, cs) ← scanNumber 2 1 12 cs
  let (_, cs) ← scanMark '-' cs
  let (day, cs) ← scanNumber 2 1 31 cs
  let date : CivilDate := ⟨year, month, day⟩
  if date.isValid then some (date, cs) else none

/-- A point and digits, as nanoseconds. Without a point there is no fraction. -/
def scanFraction : Scan Nat
  | '.' :: cs => do
    let (ds, rest) ← scanDigits 9 cs
    some (valueOfDigits ds * Nat.pow 10 (9 - ds.length), rest.dropWhile Char.isDigit)
  | cs => some (0, cs)

/-- The time of a day. -/
structure TimeOfDay where
  /-- Minutes of the day. -/
  minutes : Nat
  /-- Nanoseconds of the minute; 60 seconds or more in a leap second. -/
  nanos : Nat

def scanTimeOfDay : Scan TimeOfDay := fun cs => do
  let (hour, cs) ← scanNumber 2 0 23 cs
  let (_, cs) ← scanMark ':' cs
  let (minute, cs) ← scanNumber 2 0 59 cs
  let (_, cs) ← scanMark ':' cs
  let (second, cs) ← scanNumber 2 0 60 cs
  let (fraction, cs) ← scanFraction cs
  some (⟨hour * 60 + minute, second * 1_000_000_000 + fraction⟩, cs)

def scanSign : Scan Bool
  | '+' :: cs => some (false, cs)
  | c :: cs => if c = '-' ∨ c.toNat = 0x2212 then some (true, cs) else none
  | [] => none

/-- Minutes east of UTC: two digits of hours, then colons and blanks, then two digits of minutes. -/
def scanOffset : Scan Int := fun cs => do
  let (negative, cs) ← scanSign cs
  let (hour, cs) ← scanDigits 2 cs
  guard (hour.length = 2)
  let cs := cs.dropWhile fun c => c = ':' || Text.isBlank c
  let (minute, cs) ← scanDigits 2 cs
  guard (minute.length = 2 ∧ valueOfDigits minute < 60 ∧ valueOfDigits hour < 24)
  let minutes : Int := valueOfDigits hour * 60 + valueOfDigits minute
  some (if negative then -minutes else minutes, cs)

/-- Minutes east of UTC. -/
def scanZone : Scan Int := fun cs =>
  match skipBlanks cs with
  | 'Z' :: cs | 'z' :: cs => some (0, cs)
  | cs =>
    if (cs.take 3).map Char.toUpper = "UTC".toList then some (0, cs.drop 3) else scanOffset cs

/-- A local time must itself lie in the range of instants. -/
def ofLocal? (date : CivilDate) (time : TimeOfDay) (offset : Int) : Option Instant := do
  let localTime ← ofParts? (date.toDays * minutesPerDay + time.minutes) time.nanos
  ofParts? (localTime.minute - offset) localTime.ofMinute

def ofText? (s : String) : Option Instant := do
  let (date, cs) ← scanDate s.toList
  let cs ← match cs with
    | 'T' :: cs | 't' :: cs | ' ' :: cs => some cs
    | _ => none
  let (time, cs) ← scanTimeOfDay cs
  let (offset, cs) ← scanZone cs
  guard (skipBlanks cs).isEmpty
  ofLocal? date time offset

example :
    (ofText? "2024-05-01T12:00:00.12+05:30").map toString = some "2024-05-01T06:30:00.120Z" := by
  decide +kernel

example :
    (ofText? "2016-12-31T23:59:60.5Z").map toString = some "2016-12-31T23:59:60.500Z" := by
  decide +kernel

example : toString first = "-262143-01-01T00:00:00Z" := by decide +kernel

end Instant
end MessageBus
