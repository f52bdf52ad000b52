import MessageBus.Text.Shown

/-! The states of a delivery ticket, the edges between them and their stored codes. -/
namespace MessageBus

inductive TicketState where
  | ready
  | inProgress
  | completed
  /-- Processing failed; to be tried again once its delay has passed. -/
  | failed
  /-- Put off by the consumer, without counting a retry. -/
  | delayed
  /-- The retries are used up, or the message was rejected. -/
  | suspended
  deriving DecidableEq, Repr, Inhabited

namespace TicketState

def all : List TicketState := [ready, inProgress, completed, failed, delayed, suspended]

theorem mem_all (s : TicketState) : s ∈ all := by cases s <;> decide

/-- The states that a poll takes up when it asks for nothing narrower. -/
def defaultEligible : List TicketState := [ready, failed, delayed]

def code : TicketState → Int
  | ready => 1
  | inProgress => 2
  | completed => 3
  | failed => 4
  | delayed => 5
  | suspended => 6

def ofCode? (c : Int) : Option TicketState :=
  all.find? fun s => s.code == c

@[simp] theorem ofCode?_code (s : TicketState) : ofCode? s.code = some s := by cases s <;> decide

theorem ofCode?_eq_some_iff {c : Int} {s : TicketState} : ofCode? c = some s ↔ s.code = c := by
  constructor
  · intro h
    simpa using List.find?_some h
  · rintro rfl
    exact ofCode?_code s

/-- The name in lower case, words joined by underscores. -/
def label : TicketState → String
  | ready => "ready"
  | inProgress => "in_progress"
  | completed => "completed"
  | failed => "failed"
  | delayed => "delayed"
  | suspended => "suspended"

def ofLabel? (l : String) : Option TicketState :=
  all.find? fun s => s.label == l

instance : Shown TicketState where
  shown
    | ready => "Ready"
    | inProgress => "InProgress"
    | completed => "Completed"
    | failed => "Failed"
    | delayed => "Delayed"
    | suspended => "Suspended"

/-- A state that no edge leaves. -/
def isTerminal (s : TicketState) : Bool :=
  s == completed || s == suspended

def canMoveTo : TicketState → TicketState → Bool
  | ready, inProgress | failed, inProgress | delayed, inProgress => true
  | inProgress, next => next != ready
  | _, _ => false

theorem canMoveTo_of_isTerminal {s : TicketState} (h : s.isTerminal = true) (next : TicketState) :
    s.canMoveTo next = false := by
  cases s <;> cases next <;> simp_all [isTerminal, canMoveTo]

theorem canMoveTo_inProgress_of_not_isTerminal {s : TicketState} (h : s.isTerminal = false) :
    s.canMoveTo inProgress = true := by
  cases s <;> simp_all [isTerminal, canMoveTo]

end TicketState
end MessageBus
