import MessageBus.Text.Hex

/-! Universally unique identifiers: 128 bits, ordered as a number, with their text forms. A text is
read in four shapes and written in one; a text that is refused comes with the reason. -/
namespace MessageBus

structure Uuid where
  bits : BitVec 128
  deriving DecidableEq

namespace Uuid

instance : Inhabited Uuid := ⟨⟨0⟩⟩

instance : LE Uuid := ⟨fun a b => a.bits.toNat ≤ b.bits.toNat⟩

instance : LT Uuid := ⟨fun a b => a.bits.toNat < b.bits.toNat⟩

instance (a b : Uuid) : Decidable (a ≤ b) :=
  inferInstanceAs (Decidable (a.bits.toNat ≤ b.bits.toNat))

instance (a b : Uuid) : Decidable (a < b) :=
  inferInstanceAs (Decidable (a.bits.toNat < b.bits.toNat))

def ofNat (n : Nat) : Uuid := ⟨BitVec.ofNat 128 n⟩

/-- The thirty-two digits in base sixteen, most significant first. -/
def digits (u : Uuid) : List Nat :=
  (List.range 32).map fun i => (u.bits.toNat >>> (4 * (31 - i))) % 16

/-- The version written into the seventh octet. -/
def version (u : Uuid) : Nat :=
  (u.bits.toNat >>> 76) % 16

/-- An identifier of version 7. The milliseconds come first, so identifiers sort by the time at
which they were made; the sequence number orders those of one millisecond. -/
def timeOrdered (millis sequence : Nat) : Uuid :=
  ofNat ((millis % (1 <<< 48)) <<< 80 + 7 <<< 76 + ((sequence >>> 62) % (1 <<< 12)) <<< 64 +
    1 <<< 63 + sequence % (1 <<< 62))

/-- An identifier of version 4, from 122 bits. -/
def ofRandomBits (bits : Nat) : Uuid :=
  ofNat (((bits >>> 74) % (1 <<< 48)) <<< 80 + 4 <<< 76 + ((bits >>> 62) % (1 <<< 12)) <<< 64 +
    1 <<< 63 + bits % (1 <<< 62))

/-- The five groups of digits, joined by hyphens. -/
def toString (u : Uuid) : String :=
  let ds := u.digits.map Nat.digitChar
  let group (start size : Nat) := String.ofList ((ds.drop start).take size)
  "-".intercalate [group 0 8, group 8 4, group 12 4, group 16 4, group 20 12]

instance : ToString Uuid := ⟨toString⟩

/-! Reading. -/

/-- Why a text is not an identifier. -/
inductive Malformed where
  | length (found : Nat)
  | character (found : Char) (index : Nat)
  | groupCount (found : Nat)
  | groupLength (group expected found : Nat)
  deriving DecidableEq, Repr

def Malformed.message : Malformed → String
  | .length found => s!"invalid length: found {found}"
  | .character c index => s!"invalid character: found `{c}` at {index}"
  | .groupCount found => s!"invalid group count: expected 5, found {found}"
  | .groupLength group expected found =>
    s!"invalid group length in group {group}: expected {expected}, found {found}"

def ofDigits (ds : List Nat) : Uuid :=
  ofNat (ds.foldl (fun value d => 16 * value + d) 0)

/-- Octets that the characters take up in UTF-8. -/
def octets (cs : List Char) : Nat :=
  cs.foldl (fun n c => n + c.utf8Size) 0

/-- The first character that is neither a digit nor a hyphen, with its octet index. -/
def firstStray : List Char → Nat → Option (Char × Nat)
  | [], _ => none
  | c :: cs, index =>
    if c = '-' || (Text.hexValue? c).isSome then firstStray cs (index + 1) else some (c, index)

def hyphenPositions : List Char → Nat → List Nat
  | [], _ => []
  | c :: cs, index =>
    if c = '-' then index :: hyphenPositions cs (index + 1) else hyphenPositions cs (index + 1)

/-- Where a well-formed group starts and how many digits it has, with the place of the hyphen that
ends it. -/
def groupLayout : List (Nat × Nat × Nat) := [(0, 8, 8), (9, 4, 13), (14, 4, 18), (19, 4, 23)]

/-- The first group whose hyphen is out of place; when there is none the last group is at fault. -/
def badGroup (ends : List Nat) (total : Nat) : Malformed :=
  match (groupLayout.zip ends).zipIdx.find? (fun ((layout, e), _) => layout.2.2 != e) with
  | some (((start, size, _), e), group) => .groupLength group size (e - start)
  | none => .groupLength 4 12 (total - 24)

/-- The reason why `subject`, which starts at octet `start` of a text of `total` octets, is refused.
`bare` says that the text has no wrapping. -/
def diagnose (subject : List Char) (start total : Nat) (bare : Bool) : Malformed :=
  match firstStray subject start with
  | some (c, index) => .character c index
  | none =>
    let ends := hyphenPositions subject 0
    if ends.isEmpty && bare && total != 36 then .length total
    else if ends.length != 4 then .groupCount (ends.length + 1)
    else badGroup ends total

/-- Five groups of the right sizes. -/
def isHyphenated (cs : List Char) : Bool :=
  cs.length == 36 && (firstStray cs 0).isNone && hyphenPositions cs 0 == [8, 13, 18, 23]

def valueOf (cs : List Char) : Uuid :=
  ofDigits (cs.filterMap Text.hexValue?)

/-- The part within braces. -/
def unbraced? (cs : List Char) : Option (List Char) :=
  match cs with
  | '\x7b' :: rest => if rest.getLast? = some '\x7d' then some rest.dropLast else none
  | _ => none

/-- The part after the name space of unique identifiers. -/
def withoutUrn? (cs : List Char) : Option (List Char) :=
  if (cs.take 9).map Char.toLower = "urn:uuid:".toList then some (cs.drop 9) else none

def readHyphenated (cs : List Char) (bare : Bool) : Except Malformed Uuid :=
  if isHyphenated cs then .ok (valueOf cs) else .error (diagnose cs 0 36 bare)

def ofText (s : String) : Except Malformed Uuid :=
  let cs := s.toList
  let total := octets cs
  if total = 0 ∨ 45 < total then .error (.length total)
  else if total = 36 then readHyphenated cs true
  else if cs.length = 32 ∧ cs.all (fun c => (Text.hexValue? c).isSome) then .ok (valueOf cs)
  else match unbraced? cs, withoutUrn? cs with
    | some inside, _ =>
      if total = 38 then readHyphenated inside false
      else .error (diagnose inside 1 total false)
    | none, some rest =>
      if total = 45 then readHyphenated rest false
      else .error (diagnose rest 9 total false)
    | none, none => .error (diagnose cs 0 total true)

example : (ofText "67e55044-10b1-426f-9247-bb680e5fe0c8").toOption.map Uuid.toString =
    some "67e55044-10b1-426f-9247-bb680e5fe0c8" := by decide +kernel

example : (timeOrdered 5 9).version = 7 ∧ (ofRandomBits 9).version = 4 := by decide +kernel

example : timeOrdered 5 9 < timeOrdered 5 10 ∧ timeOrdered 5 10 < timeOrdered 6 0 := by
  decide +kernel

end Uuid
end MessageBus
