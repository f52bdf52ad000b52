import MessageBus.Error

/-! Lifecycle states of running components and of host runtimes, and the levels of log records. -/
namespace MessageBus

inductive ComponentState where
  | starting
  | running
  | stopping
  | stopped
  | faulted
  deriving DecidableEq, Repr, Inhabited

namespace ComponentState

def all : List ComponentState := [starting, running, stopping, stopped, faulted]

def code : ComponentState → Int
  | starting => 1
  | running => 2
  | stopping => 3
  | stopped => 4
  | faulted => 5

def ofCode? (c : Int) : Option ComponentState :=
  all.find? fun s => s.code == c

@[simp] theorem ofCode?_code (s : ComponentState) : ofCode? s.code = some s := by
  cases s <;> decide

def label : ComponentState → String
  | starting => "starting"
  | running => "running"
  | stopping => "stopping"
  | stopped => "stopped"
  | faulted => "faulted"

def ofLabel? (l : String) : Option ComponentState :=
  all.find? fun s => s.label == l

instance : Shown ComponentState where
  shown
    | starting => "Starting"
    | running => "Running"
    | stopping => "Stopping"
    | stopped => "Stopped"
    | faulted => "Faulted"

def ofCode (c : Int) : Except DomainError ComponentState :=
  match ofCode? c with
  | some s => .ok s
  | none => .error (.unknownStateCode "component state" c)

end ComponentState

inductive LogLevel where
  | trace
  | debug
  | information
  | warning
  | error
  | critical
  deriving DecidableEq, Repr, Inhabited

namespace LogLevel

def all : List LogLevel := [trace, debug, information, warning, error, critical]

/-- The stored code; a more severe level has a larger one. -/
def code : LogLevel → Int
  | trace => 0
  | debug => 1
  | information => 2
  | warning => 3
  | error => 4
  | critical => 5

def ofCode? (c : Int) : Option LogLevel :=
  all.find? fun l => l.code == c

@[simp] theorem ofCode?_code (l : LogLevel) : ofCode? l.code = some l := by cases l <;> decide

def label : LogLevel → String
  | trace => "trace"
  | debug => "debug"
  | information => "information"
  | warning => "warning"
  | error => "error"
  | critical => "critical"

def ofLabel? (l : String) : Option LogLevel :=
  all.find? fun level => level.label == l

instance : Shown LogLevel where
  shown
    | trace => "Trace"
    | debug => "Debug"
    | information => "Information"
    | warning => "Warning"
    | error => "Error"
    | critical => "Critical"

/-- Whether a level is as severe as another, or more. -/
def atLeast (l other : LogLevel) : Bool := other.code ≤ l.code

/-- The level at which a change to the given state is recorded. -/
def forStatus : ComponentState → LogLevel
  | .faulted => error
  | _ => information

end LogLevel
end MessageBus
