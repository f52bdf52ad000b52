import MessageBus.Ticket.State

/-! Failures, each with the text that reports it. Losing a race for a ticket is not among them: it
is an ordinary outcome of a claim or a commit. -/
namespace MessageBus

/-- A broken rule of the domain. -/
inductive DomainError where
  | validation (reason : String)
  | invalidTransition (origin target : TicketState)
  | invalidId (reason : String)
  | unknownStateCode (kind : String) (code : Int)
  deriving DecidableEq, Repr

def DomainError.message : DomainError → String
  | .validation reason => s!"validation failed: {reason}"
  | .invalidTransition origin target =>
    s!"invalid ticket transition: {shown origin} -> {shown target}"
  | .invalidId reason => s!"invalid identifier: {reason}"
  | .unknownStateCode kind code => s!"unknown {kind} code: {code}"

/-- Why a store refuses or fails an operation. -/
inductive StoreError where
  /-- A write touched another number of rows than it must. -/
  | integrity (operation : String) (expected affected : Nat)
  /-- A catalog row is already there under the key, with another identity. -/
  | registrationConflict (entity key detail : String)
  | notFound (entity key : String)
  | domain (cause : DomainError)
  | validation (reason : String)
  | serialization (reason : String)
  | database (reason : String)
  | cancelled
  /-- A number went past its range. This is no refusal: the program ends with it, so that nothing is
  asked of the store any more. -/
  | overflow
  deriving DecidableEq, Repr

namespace StoreError

def message : StoreError → String
  | integrity operation expected affected =>
    s!"integrity violation in {operation}: expected {expected} affected row(s), got {affected}"
  | registrationConflict entity key detail =>
    s!"registration conflict for {entity} '{key}': {detail}"
  | notFound entity key => s!"{entity} '{key}' not found"
  | domain cause => cause.message
  | validation reason => s!"invalid request: {reason}"
  | serialization reason => s!"serialization error: {reason}"
  | database reason => s!"database error: {reason}"
  | cancelled => "operation cancelled"
  | overflow => "attempt to add with overflow"

/-- Failures that another attempt does not mend. -/
def isFatal : StoreError → Bool
  | integrity .. | registrationConflict .. => true
  | _ => false

end StoreError

/-- A write must touch exactly one row. -/
def expectOne (operation : String) (affected : Nat) : Except StoreError Unit :=
  if affected = 1 then .ok () else .error (.integrity operation 1 affected)

theorem expectOne_eq_ok_iff {operation : String} {affected : Nat} :
    expectOne operation affected = .ok () ↔ affected = 1 := by
  unfold expectOne
  split <;> simp_all

/-- A field that belongs to a row's identity must be as it is stored. -/
def ensureSame {α : Type} [DecidableEq α] [Shown α] (entity key field : String)
    (stored requested : α) : Except StoreError Unit :=
  if stored = requested then .ok ()
  else .error (.registrationConflict entity key
    s!"stored {field} {shown stored} differs from requested {shown requested}")

@[simp] theorem ensureSame_self {α : Type} [DecidableEq α] [Shown α] (entity key field : String)
    (a : α) : ensureSame entity key field a a = .ok () := by
  simp [ensureSame]

namespace TicketState

def ofCode (c : Int) : Except DomainError TicketState :=
  match ofCode? c with
  | some s => .ok s
  | none => .error (.unknownStateCode "ticket state" c)

def ensureMove (origin target : TicketState) : Except DomainError Unit :=
  if origin.canMoveTo target then .ok () else .error (.invalidTransition origin target)

end TicketState
end MessageBus
