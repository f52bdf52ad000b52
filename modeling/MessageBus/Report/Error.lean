import MessageBus.Config
import MessageBus.Json.Form
import MessageBus.Payload.Registry

/-! Failures as data: the kind, the text and, for failures of a store, whether another attempt is of
no use. -/
namespace MessageBus

/-- The report of a failure. -/
def failureReport (kind text : String) : Json :=
  .ofMembers [("error", .string kind), ("message", .string text)]

def DomainError.kind : DomainError → String
  | validation _ => "Domain.Validation"
  | invalidTransition .. => "Domain.InvalidTransition"
  | invalidId _ => "Domain.InvalidId"
  | unknownStateCode .. => "Domain.UnknownStateCode"

def DomainError.report (e : DomainError) : Json := failureReport e.kind e.message

def StoreError.kind : StoreError → String
  | integrity .. => "Integrity"
  | registrationConflict .. => "RegistrationConflict"
  | notFound .. => "NotFound"
  | domain cause => cause.kind
  | validation _ => "Validation"
  | serialization _ => "Serialization"
  | database _ => "Database"
  | cancelled => "Cancelled"
  | overflow => "Panic"

def StoreError.report (e : StoreError) : Json :=
  .ofMembers
    [("error", .string e.kind), ("message", .string e.message), ("fatal", .bool e.isFatal)]

/-- A failure of a given kind, from the parts that its text is made of. -/
def StoreError.ofParts? (parts : Json) : Option StoreError := do
  let part (name : String) : Option String := (parts.get? name).bind ofJson?
  let count (name : String) : Option Nat := (parts.get? name).bind (Json.natBelow? UInt64.size)
  let state (name : String) : Option TicketState := (parts.get? name).bind ofJson?
  match ← part "kind" with
  | "Integrity" =>
    return integrity (← part "operation") (← count "expected") (← count "affected")
  | "RegistrationConflict" =>
    return registrationConflict (← part "entity") (← part "key") (← part "detail")
  | "NotFound" => return notFound (← part "entity") (← part "key")
  | "Domain.InvalidTransition" =>
    return domain (.invalidTransition (← state "from") (← state "to"))
  | "Domain.Validation" => return domain (.validation (← part "text"))
  | "Domain.InvalidId" => return domain (.invalidId (← part "text"))
  | "Validation" => return validation (← part "text")
  | "Serialization" => return serialization (← part "text")
  | "Database" => return database (← part "text")
  | "Cancelled" => return cancelled
  | _ => none

def SerializerError.kind : SerializerError → String
  | serialize .. => "Serialize"
  | deserialize .. => "Deserialize"

def SerializerError.report (e : SerializerError) : Json := failureReport e.kind e.message

def DispatchError.kind : DispatchError → String
  | unknownType _ => "UnknownType"
  | decode _ => "Decode"

def DispatchError.report (e : DispatchError) : Json := failureReport e.kind e.message

def DuplicateHandler.report (e : DuplicateHandler) : Json := failureReport "Duplicate" e.message

def ConfigError.kind : ConfigError → String
  | missing _ => "Missing"
  | invalid .. => "Invalid"
  | connect _ => "Connect"

def ConfigError.report (e : ConfigError) : Json := failureReport e.kind e.message

end MessageBus
