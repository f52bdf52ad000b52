import MessageBus.Time.Duration

/-! Points in time as UTC writes them, from the year -262143 to the year 262142, in nanoseconds. Any
minute may end with a leap second, its 60th. An instant is therefore a position on a line that
gives every minute 61 seconds, and the order of instants is the order on that line; in spans between
instants a minute has 60 seconds. A move that would leave the range has no result. -/
namespace MessageBus

structure Instant where
  /-- Nanoseconds from 1970-01-01T00:00:00Z on the line of minutes with 61 seconds. -/
  position : Int
  inRange : -138910020480 * 61_000_000_000 ≤ position ∧ position < 136837781280 * 61_000_000_000
  deriving DecidableEq

namespace Instant

theorem ext {a b : Instant} (h : a.position = b.position) : a = b := by
  cases a; cases b; simp_all

/-- Whole minutes from 1970-01-01T00:00:00Z. -/
def minute (t : Instant) : Int := t.position / 61_000_000_000

/-- Nanoseconds of the minute: 60 seconds or more in a leap second. -/
def ofMinute (t : Instant) : Int := t.position % 61_000_000_000

def isLeap (t : Instant) : Prop := 60_000_000_000 ≤ t.ofMinute

instance (t : Instant) : Decidable t.isLeap := inferInstanceAs (Decidable (_ ≤ _))

/-- Nanoseconds from 1970-01-01T00:00:00Z in minutes of 60 seconds. A leap second counts like the
second after it. -/
def nanos (t : Instant) : Int := t.minute * 60_000_000_000 + t.ofMinute

def ofPosition? (p : Int) : Option Instant :=
  if h : -138910020480 * 61_000_000_000 ≤ p ∧ p < 136837781280 * 61_000_000_000 then some ⟨p, h⟩
  else none

/-- The instant so many nanoseconds of the given minute. -/
def ofParts? (minute ofMinute : Int) : Option Instant :=
  ofPosition? (minute * 61_000_000_000 + ofMinute)

/-- The instant of a number of nanoseconds. It lies in no leap second. -/
def ofNanos? (n : Int) : Option Instant :=
  ofParts? (n / 60_000_000_000) (n % 60_000_000_000)

theorem ofPosition?_eq_some_iff {p : Int} {t : Instant} :
    ofPosition? p = some t ↔ t.position = p := by
  constructor
  · intro h
    unfold ofPosition? at h
    split at h
    · exact (congrArg Instant.position (Option.some.inj h)).symm
    · exact absurd h (by simp)
  · rintro rfl
    simp only [ofPosition?]
    rw [dif_pos t.inRange]

theorem ofNanos?_eq_some_iff {n : Int} {t : Instant} :
    ofNanos? n = some t ↔ ¬ t.isLeap ∧ t.nanos = n := by
  simp only [ofNanos?, ofParts?, ofPosition?_eq_some_iff, isLeap, nanos, minute, ofMinute]
  omega

theorem ofNanos?_nanos {t : Instant} (h : ¬ t.isLeap) : ofNanos? t.nanos = some t :=
  ofNanos?_eq_some_iff.2 ⟨h, rfl⟩

/-- The numbers of nanoseconds that have an instant. -/
theorem ofNanos?_eq_none_iff {n : Int} :
    ofNanos? n = none ↔ n < -8334601228800 * 1_000_000_000 ∨ 8210266876800 * 1_000_000_000 ≤ n := by
  simp only [ofNanos?, ofParts?, ofPosition?, dite_eq_right_iff, reduceCtorEq, imp_false]
  omega

/-- The first instant of the range. -/
def first : Instant := ⟨-138910020480 * 61_000_000_000, by decide⟩

instance : Inhabited Instant := ⟨⟨0, by decide⟩⟩

instance : LE Instant := ⟨fun a b => a.position ≤ b.position⟩

instance : LT Instant := ⟨fun a b => a.position < b.position⟩

instance (a b : Instant) : Decidable (a ≤ b) :=
  inferInstanceAs (Decidable (a.position ≤ b.position))

instance (a b : Instant) : Decidable (a < b) :=
  inferInstanceAs (Decidable (a.position < b.position))

theorem first_le (t : Instant) : first ≤ t := t.inRange.1

/-- Outside leap seconds the order is that of the numbers of nanoseconds. -/
theorem lt_iff_nanos_lt {a b : Instant} (ha : ¬ a.isLeap) (hb : ¬ b.isLeap) :
    a < b ↔ a.nanos < b.nanos := by
  change a.position < b.position ↔ _
  simp only [isLeap, nanos, minute, ofMinute] at *
  omega

/-- The instant `n` nanoseconds later; earlier when `n` is negative. A move inside a leap second
stays in it. One that leaves it forward does not count the leap second. -/
def shift? (t : Instant) (n : Int) : Option Instant :=
  if ¬ t.isLeap ∨ t.ofMinute + n < 60_000_000_000 then ofNanos? (t.nanos + n)
  else if t.ofMinute + n < 61_000_000_000 then ofPosition? (t.position + n)
  else ofNanos? (t.nanos + n - 1_000_000_000)

theorem shift?_of_not_isLeap {t : Instant} (h : ¬ t.isLeap) (n : Int) :
    t.shift? n = ofNanos? (t.nanos + n) := by
  rw [shift?, if_pos (.inl h)]

/-- A move forward never leads back. -/
theorem lt_of_shift?_eq_some {t u : Instant} {n : Int} (hn : 0 < n) (h : t.shift? n = some u) :
    t < u := by
  change t.position < u.position
  unfold shift? at h
  split at h <;> rename_i h₁
  · rw [ofNanos?_eq_some_iff] at h
    simp only [isLeap, nanos, minute, ofMinute] at *
    omega
  · split at h <;> rename_i h₂
    · rw [ofPosition?_eq_some_iff] at h
      omega
    · rw [ofNanos?_eq_some_iff] at h
      simp only [isLeap, nanos, minute, ofMinute] at *
      omega

/-- The second of the day. A leap second counts like the one before it. -/
def secondOfDay (t : Instant) : Int :=
  t.minute % 1440 * 60 + min 59 (t.ofMinute / 1_000_000_000)

/-- The nanoseconds from one instant to another. A leap second at one end is passed, and so counted,
when the other end has a later second of the day, on whichever day. -/
def since (t start : Instant) : Int :=
  let difference := t.nanos - start.nanos
  if start.isLeap ∧ start.secondOfDay < t.secondOfDay then difference + 1_000_000_000
  else if t.isLeap ∧ t.secondOfDay < start.secondOfDay then difference - 1_000_000_000
  else difference

/-- The instant one span later. There is none past the range or for a span that is too long. -/
def later? (t : Instant) (d : Duration) : Option Instant :=
  if d.nanos ≤ Duration.longestStep then t.shift? d.nanos else none

/-- The instant one span earlier. -/
def earlier? (t : Instant) (d : Duration) : Option Instant :=
  if d.nanos ≤ Duration.longestStep then t.shift? (-d.nanos) else none

theorem later?_eq_some_iff {t u : Instant} {d : Duration} (h : ¬ t.isLeap) :
    t.later? d = some u ↔
      d.nanos ≤ Duration.longestStep ∧ ¬ u.isLeap ∧ u.nanos = t.nanos + d.nanos := by
  by_cases hd : d.nanos ≤ Duration.longestStep <;>
    simp [later?, shift?_of_not_isLeap h, hd, ofNanos?_eq_some_iff]

theorem earlier?_eq_some_iff {t u : Instant} {d : Duration} (h : ¬ t.isLeap) :
    t.earlier? d = some u ↔
      d.nanos ≤ Duration.longestStep ∧ ¬ u.isLeap ∧ u.nanos = t.nanos - d.nanos := by
  by_cases hd : d.nanos ≤ Duration.longestStep <;>
    simp [earlier?, shift?_of_not_isLeap h, hd, ofNanos?_eq_some_iff, Int.sub_eq_add_neg]

end Instant
end MessageBus
