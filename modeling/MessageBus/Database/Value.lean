import MessageBus.Text.Shown
import MessageBus.Text.Utf8
import MessageBus.Time.Instant
import MessageBus.Uuid

/-! Values of a SQL database, the rows that it sends, and the typed reading of their columns. -/
namespace MessageBus.Database

inductive SqlType where
  | bool
  | bytea
  | int2
  | int4
  | int8
  | text
  | timestamptz
  | uuid
  deriving DecidableEq, Repr

def SqlType.name : SqlType → String
  | bool => "BOOL"
  | bytea => "BYTEA"
  | int2 => "INT2"
  | int4 => "INT4"
  | int8 => "INT8"
  | text => "TEXT"
  | timestamptz => "TIMESTAMPTZ"
  | uuid => "UUID"

/-- The instant from which a database counts microseconds: 2000-01-01T00:00:00Z, in nanoseconds. -/
def epoch : Int := 946684800 * 1_000_000_000

/-- An instant in whole microseconds, cut toward the epoch. -/
def wholeMicros (t : Instant) : Instant :=
  ((Instant.ofNanos? (epoch + (t.nanos - epoch).tdiv 1000 * 1000))).getD t

inductive SqlValue where
  | bool (value : Bool)
  | bytes (value : Bytes)
  | int2 (value : Int16)
  | int4 (value : Int32)
  | int8 (value : Int64)
  | text (value : String)
  | time (value : Instant)
  | uuid (value : Uuid)
  deriving DecidableEq

namespace SqlValue

def type : SqlValue → SqlType
  | bool _ => .bool
  | bytes _ => .bytea
  | int2 _ => .int2
  | int4 _ => .int4
  | int8 _ => .int8
  | text _ => .text
  | time _ => .timestamptz
  | uuid _ => .uuid

def ofInstant (t : Instant) : SqlValue := time (wholeMicros t)

end SqlValue

/-- A parameter of a statement. -/
inductive SqlParam where
  | null
  | value (v : SqlValue)
  | int2List (values : List Int16)
  deriving DecidableEq

/-- The named columns of a row. A cell without a value is null. -/
abbrev SqlRow := List (String × Option SqlValue)

/-- What a database sends for a statement. -/
structure SqlReply where
  rows : List SqlRow
  affected : Nat

/-- How a column is asked for. -/
inductive ColumnIndex where
  | name (name : String)
  | position (index : Nat)
  deriving DecidableEq, Repr

instance : Shown ColumnIndex where
  shown
    | .name name => shown name
    | .position index => toString index

/-- How a statement fails, or the reading of its rows. -/
inductive SqlError where
  | refused (code reason : String) (violated : Option String)
  | closed
  | noRow
  | noColumn (name : String)
  | noPosition (index count : Nat)
  | unreadable (column : ColumnIndex) (reason : String)
  deriving DecidableEq, Repr

def SqlError.message : SqlError → String
  | refused _ reason _ => s!"error returned from database: {reason}"
  | closed => "attempted to acquire a connection on a closed pool"
  | noRow => "no rows returned by a query that expected to return at least one row"
  | noColumn name => s!"no column found for name: {name}"
  | noPosition index count =>
    s!"column index out of bounds: the len is {count}, but the index is {index}"
  | unreadable column reason => s!"error occurred while decoding column {shown column}: {reason}"

/-- A type that columns are read as. -/
class Column (α : Type) where
  type : SqlType
  /-- The name of the type in a report. -/
  typeName : String
  ofValue? : SqlValue → Option α
  ofNull? : Option α

namespace Column

instance : Column Bool where
  type := .bool
  typeName := "bool"
  ofValue?
    | .bool b => some b
    | _ => none
  ofNull? := none

instance : Column Bytes where
  type := .bytea
  typeName := "alloc::vec::Vec<u8>"
  ofValue?
    | .bytes b => some b
    | _ => none
  ofNull? := none

instance : Column Int16 where
  type := .int2
  typeName := "i16"
  ofValue?
    | .int2 n => some n
    | _ => none
  ofNull? := none

instance : Column Int32 where
  type := .int4
  typeName := "i32"
  ofValue?
    | .int4 n => some n
    | _ => none
  ofNull? := none

instance : Column Int64 where
  type := .int8
  typeName := "i64"
  ofValue?
    | .int8 n => some n
    | _ => none
  ofNull? := none

instance : Column String where
  type := .text
  typeName := "alloc::string::String"
  ofValue?
    | .text s => some s
    | _ => none
  ofNull? := none

instance : Column Instant where
  type := .timestamptz
  typeName := "chrono::datetime::DateTime<chrono::offset::utc::Utc>"
  ofValue?
    | .time t => some t
    | _ => none
  ofNull? := none

instance : Column Uuid where
  type := .uuid
  typeName := "uuid::Uuid"
  ofValue?
    | .uuid u => some u
    | _ => none
  ofNull? := none

/-- A column that may be null. -/
instance {α : Type} [Column α] : Column (Option α) where
  type := type α
  typeName := s!"core::option::Option<{typeName α}>"
  ofValue? v := (ofValue? v).map some
  ofNull? := some none

/-- Reads a cell. A null is looked at before the type. -/
def read (α : Type) [Column α] (column : ColumnIndex) : Option SqlValue → Except SqlError α
  | none =>
    match (ofNull? : Option α) with
    | some a => .ok a
    | none => .error (.unreadable column "unexpected null; try decoding as an `Option`")
  | some v =>
    match (ofValue? v : Option α) with
    | some a => .ok a
    | none => .error (.unreadable column
        (s!"mismatched types; Rust type `{typeName α}` (as SQL type `{(type α).name}`) " ++
          s!"is not compatible with SQL type `{v.type.name}`"))

end Column

namespace SqlRow

/-- Reads the column of a name. Of several columns with it the last one counts. -/
def get (row : SqlRow) (α : Type) [Column α] (name : String) : Except SqlError α :=
  match List.lookup name (List.reverse row) with
  | some cell => Column.read α (.name name) cell
  | none => .error (.noColumn name)

/-- Reads the first column. -/
def first (row : SqlRow) (α : Type) [Column α] : Except SqlError α :=
  match row with
  | (_, cell) :: _ => Column.read α (.position 0) cell
  | [] => .error (.noPosition 0 0)

end SqlRow
end MessageBus.Database
