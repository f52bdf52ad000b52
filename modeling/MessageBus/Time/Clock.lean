import MessageBus.Time.Instant

/-! A clock that is moved by hand. It stops for good when it is moved past the range of time. -/
namespace MessageBus

structure ManualClock where
  now : Instant
  stopped : Bool
  deriving DecidableEq

/-- Why a clock does not advance. -/
inductive ClockFailure where
  /-- The step is longer than any that an instant can be moved by. -/
  | stepTooLong
  /-- The step leads past the range of time. -/
  | outOfRange
  deriving DecidableEq, Repr

def ClockFailure.message : ClockFailure → String
  | stepTooLong => "TimeDelta::milliseconds out of bounds"
  | outOfRange => "`DateTime + TimeDelta` overflowed"

namespace ManualClock

def startingAt (t : Instant) : ManualClock := ⟨t, false⟩

def set (c : ManualClock) (t : Instant) : ManualClock :=
  if c.stopped then c else { c with now := t }

/-- Moves the clock by milliseconds, back when they are negative. A step that leads past the range of
time stops the clock; one that is too long to be tried does not. -/
def advance (c : ManualClock) (millis : Int) : Except ClockFailure Unit × ManualClock :=
  if Duration.longestStep < (millis * 1_000_000).natAbs then (.error .stepTooLong, c)
  else if c.stopped then (.ok (), c)
  else match c.now.shift? (millis * 1_000_000) with
    | some t => (.ok (), { c with now := t })
    | none => (.error .outOfRange, { c with stopped := true })

theorem now_set (c : ManualClock) (t : Instant) (h : c.stopped = false) : (c.set t).now = t := by
  simp [set, h]

/-- A stopped clock stays where it is. -/
theorem advance_of_stopped (c : ManualClock) (h : c.stopped = true) (millis : Int) :
    (c.advance millis).2 = c := by
  simp only [advance, h]
  split <;> rfl

end ManualClock
end MessageBus
