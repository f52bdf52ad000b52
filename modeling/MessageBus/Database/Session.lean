import MessageBus.Database.Value
import MessageBus.Error
import MessageBus.Program

/-! Sessions with a database: statements and transactions, as requests, and what is made of their
failures. -/
namespace MessageBus.Database

inductive SqlRequest where
  /-- Takes a connection from the pool. -/
  | acquire
  | execute (sql : String) (params : List SqlParam)
  | begin
  | commit
  | rollback
  /-- Leaves a transaction, which the database then rolls back. -/
  | abandon

abbrev SqlRequest.Answer : SqlRequest → Type
  | acquire => Except SqlError Unit
  | execute .. => Except SqlError SqlReply
  | begin => Except SqlError Unit
  | commit => Except SqlError Unit
  | rollback => Except SqlError Unit
  | abandon => Unit

abbrev Dialogue := Program SqlRequest SqlRequest.Answer

/-- A dialogue that may end with an error of the store. -/
abbrev Session := ExceptT StoreError Dialogue

/-- The code of a row that must be new but is there already. -/
def uniqueViolation : String := "23505"

/-- The code of a row that is referred to but is not there. -/
def foreignKeyViolation : String := "23503"

/-- The code of a value that a column does not take. -/
def checkViolation : String := "23514"

def SqlError.isUniqueViolation : SqlError → Bool
  | refused code .. => code == uniqueViolation
  | _ => false

/-- The error of the store that the failure of an operation is reported as. -/
def SqlError.toStoreError (operation : String) : SqlError → StoreError
  | refused code reason violated =>
    let text := s!"database error in {operation}: {reason}"
    if code = uniqueViolation then .integrity operation 1 0
    else if code = foreignKeyViolation then .notFound "referenced row" (violated.getD operation)
    else if code = checkViolation then .validation text
    else .database text
  | closed => .database s!"connection pool closed in {operation}"
  | unreadable column reason =>
    .serialization s!"failed to decode column {shown column} in {operation}: {reason}"
  | e => .database s!"sqlx error in {operation}: {e.message}"

namespace Session

def ask (r : SqlRequest) : Session r.Answer := ExceptT.lift (Program.request r)

def lift {α : Type} (fault : SqlError → StoreError) : Except SqlError α → Session α
  | .ok a => pure a
  | .error e => throw (fault e)

/-- Sends a statement; `fault` says how its failure is reported. -/
def executeOr (fault : SqlError → StoreError) (sql : String) (params : List SqlParam) :
    Session SqlReply := do
  lift fault (← ask (.execute sql params))

def execute (operation sql : String) (params : List SqlParam) : Session SqlReply :=
  executeOr (SqlError.toStoreError operation) sql params

def acquire : Session Unit := do
  lift (SqlError.toStoreError "acquire_connection") (← ask .acquire)

/-- The rows that a statement gives. -/
def rows (operation sql : String) (params : List SqlParam) : Session (List SqlRow) := do
  return (← execute operation sql params).rows

/-- The first row that a statement gives, if it gives any. -/
def row? (operation sql : String) (params : List SqlParam) : Session (Option SqlRow) := do
  return (← rows operation sql params).head?

/-- The first row that a statement gives; it must give one. -/
def rowOr (fault : SqlError → StoreError) (sql : String) (params : List SqlParam) :
    Session SqlRow := do
  match (← executeOr fault sql params).rows with
  | row :: _ => return row
  | [] => throw (fault .noRow)

def row (operation sql : String) (params : List SqlParam) : Session SqlRow :=
  rowOr (SqlError.toStoreError operation) sql params

/-- Sends a statement that must touch one row. -/
def executeOne (operation sql : String) (params : List SqlParam) : Session Unit := do
  let reply ← execute operation sql params
  ExceptT.mk (pure (expectOne operation reply.affected))

/-- Sends a statement that must touch one row, where none means that the row is not there. -/
def updateOne (operation : String) (absent : StoreError) (sql : String)
    (params : List SqlParam) : Session Unit := do
  let reply ← execute operation sql params
  if reply.affected = 0 then throw absent
  ExceptT.mk (pure (expectOne operation reply.affected))

/-- What follows the work of a transaction that has failed. -/
inductive OnFailure where
  /-- The transaction is dropped. -/
  | abandon
  /-- The transaction is rolled back, and a failure of that is reported. -/
  | rollback

def sendBegin : Session Unit := do
  lift (SqlError.toStoreError "begin_transaction") (← ask .begin)

/-- Ends a transaction; one that cannot be ended is dropped. -/
def finish (operation : String) (answer : Except SqlError Unit) : Session Unit := do
  if let .error e := answer then
    ask .abandon
    throw (e.toStoreError operation)

/-- Does the work between the start and the end of a transaction. -/
def transaction {α : Type} (onFailure : OnFailure) (work : Session α) : Session α := do
  sendBegin
  match ← ExceptT.lift work.run with
  | .ok a =>
    finish "commit_transaction" (← ask .commit)
    return a
  | .error e =>
    match onFailure with
    | .abandon => ask .abandon
    | .rollback => finish "rollback" (← ask .rollback)
    throw e

end Session
end MessageBus.Database
