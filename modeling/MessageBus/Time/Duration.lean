/-! Spans of time, in whole nanoseconds. A span has at most 2^64 - 1 seconds and a fraction. -/
namespace MessageBus

structure Duration where
  nanos : Nat
  inRange : nanos < 18_446_744_073_709_551_616 * 1_000_000_000
  deriving DecidableEq

namespace Duration

def ofNanos? (n : Nat) : Option Duration :=
  if h : n < 18_446_744_073_709_551_616 * 1_000_000_000 then some ⟨n, h⟩ else none

/-- Nanoseconds beyond a second carry over. -/
def ofParts? (secs nanos : Nat) : Option Duration :=
  ofNanos? (secs * 1_000_000_000 + nanos)

def ofMillis (ms : UInt64) : Duration :=
  ⟨ms.toNat * 1_000_000, by have := ms.toNat_lt; omega⟩

def ofSecs (secs : UInt64) : Duration :=
  ⟨secs.toNat * 1_000_000_000, by have := secs.toNat_lt; omega⟩

def zero : Duration := ⟨0, by decide⟩

instance : Inhabited Duration := ⟨zero⟩

instance : LE Duration := ⟨fun a b => a.nanos ≤ b.nanos⟩

instance (a b : Duration) : Decidable (a ≤ b) := inferInstanceAs (Decidable (a.nanos ≤ b.nanos))

def isZero (d : Duration) : Bool := d.nanos == 0

/-- Whole seconds. -/
def secs (d : Duration) : Nat := d.nanos / 1_000_000_000

/-- The fraction of a second, in nanoseconds. -/
def fraction (d : Duration) : Nat := d.nanos % 1_000_000_000

/-- Whole milliseconds. -/
def millis (d : Duration) : Nat := d.nanos / 1_000_000

/-- The longest span that an instant can be moved by: 2^63 - 1 milliseconds. -/
def longestStep : Nat := 9_223_372_036_854_775_807 * 1_000_000

theorem ext {a b : Duration} (h : a.nanos = b.nanos) : a = b := by
  cases a; cases b; simp_all

@[simp] theorem ofParts?_parts (d : Duration) : ofParts? d.secs d.fraction = some d := by
  have h : d.secs * 1_000_000_000 + d.fraction = d.nanos := by
    simp only [secs, fraction]; omega
  rw [ofParts?, h, ofNanos?, dif_pos d.inRange]

@[simp] theorem millis_ofMillis (ms : UInt64) : (ofMillis ms).millis = ms.toNat := by
  simp [millis, ofMillis]

end Duration
end MessageBus
