import MessageBus.Number.Double
import MessageBus.Text.Utf8

/-! Data in the JSON model. Whole numbers and floating point numbers are kept apart, and an object
holds each key once, in the order of code points. -/
namespace MessageBus

inductive JsonNumber where
  | int (value : Int)
  | double (value : Number.Double)
  deriving DecidableEq

inductive Json where
  | null
  | bool (value : Bool)
  | number (value : JsonNumber)
  | string (value : String)
  | array (items : List Json)
  | object (members : List (String × Json))

namespace Json

instance : Inhabited Json := ⟨null⟩

def int (n : Int) : Json := number (.int n)

def nat (n : Nat) : Json := int n

/-- Sets a key of an object's members; a key that is already there takes the new value. -/
def setMember (key : String) (value : Json) : List (String × Json) → List (String × Json)
  | [] => [(key, value)]
  | (k, v) :: rest =>
    if key < k then (key, value) :: (k, v) :: rest
    else if key = k then (key, value) :: rest
    else (k, v) :: setMember key value rest

/-- The object with the given members, of which the last counts where a key comes twice. -/
def ofMembers (members : List (String × Json)) : Json :=
  object (members.foldl (fun sorted (k, v) => setMember k v sorted) [])

/-- The value under a key of an object. -/
def get? (key : String) : Json → Option Json
  | object members => members.lookup key
  | _ => none

/-- Integers that stay integers in a data text: those that fit into 64 bits, with or without sign.
-/
def isWholeNumber (n : Int) : Bool :=
  Int64.minValue.toInt ≤ n && n < UInt64.size

end Json
end MessageBus
