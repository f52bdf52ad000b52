import MessageBus.Time.Instant

/-! How instants move along the line of time: how far it is to its end, and that a longer move leads
no less far. -/
namespace MessageBus.Instant

/-- How long it is to the end of time, in nanoseconds. A leap second that is on does not count. -/
def timeLeft (t : Instant) : Int :=
  8210266876800 * 1_000_000_000 - t.nanos + if t.isLeap then 1_000_000_000 else 0

theorem le_of_nanos_le {a b : Instant} (ha : ¬ a.isLeap) (hb : ¬ b.isLeap)
    (h : a.nanos ≤ b.nanos) : a ≤ b :=
  Int.not_lt.1 fun less => Int.not_lt.2 h ((lt_iff_nanos_lt hb ha).1 less)

theorem nanos_le_of_le {a b : Instant} (ha : ¬ a.isLeap) (hb : ¬ b.isLeap) (h : a ≤ b) :
    a.nanos ≤ b.nanos :=
  Int.not_lt.1 fun less => Int.not_lt.2 h ((lt_iff_nanos_lt hb ha).2 less)

theorem first_nanos_add_le (t : Instant) : first.nanos + t.ofMinute ≤ t.nanos := by
  have bound := t.inRange.1
  simp only [nanos, minute, ofMinute, first]
  omega

theorem exists_ofNanos?_iff {n : Int} :
    (∃ u, ofNanos? n = some u) ↔ first.nanos ≤ n ∧ n < 8210266876800 * 1_000_000_000 := by
  have start : first.nanos = -8334601228800 * 1_000_000_000 := by decide +kernel
  rw [← Option.ne_none_iff_exists', ne_eq, ofNanos?_eq_none_iff]
  omega

/-- A span leads to an instant if it is shorter than the time left. -/
theorem exists_later?_iff {t : Instant} {d : Duration} :
    (∃ u, t.later? d = some u) ↔ (d.nanos : Int) < t.timeLeft := by
  have range := t.inRange
  have above := t.first_nanos_add_le
  have fraction : 0 ≤ t.ofMinute := Int.emod_nonneg _ (by decide)
  have start : first.nanos = -8334601228800 * 1_000_000_000 := by decide +kernel
  have longest : (Duration.longestStep : Int) = 9_223_372_036_854_775_807 * 1_000_000 := rfl
  unfold later? timeLeft
  by_cases short : d.nanos ≤ Duration.longestStep
  · rw [if_pos short, shift?]
    by_cases leap : t.isLeap
    · have last : 60_000_000_000 ≤ t.ofMinute := leap
      have ahead : ¬ t.ofMinute + (d.nanos : Int) < 60_000_000_000 := by omega
      rw [if_neg (not_or.2 ⟨not_not_intro leap, ahead⟩), if_pos leap]
      -- Inside the leap second the range does not matter, since it holds whole minutes.
      split
      · next inside =>
        simp only [ofPosition?, nanos, minute, ofMinute] at *
        have there : -138910020480 * 61_000_000_000 ≤ t.position + (d.nanos : Int) ∧
            t.position + (d.nanos : Int) < 136837781280 * 61_000_000_000 := by omega
        rw [dif_pos there]
        exact ⟨fun _ => by omega, fun _ => ⟨_, rfl⟩⟩
      · rw [exists_ofNanos?_iff]
        omega
    · rw [if_pos (.inl leap), if_neg leap, exists_ofNanos?_iff]
      omega
  · rw [if_neg short]
    constructor
    · rintro ⟨u, h⟩
      cases h
    · intro h
      split at h <;> omega

/-- Outside leap seconds the way back is open as far as time has begun. -/
theorem exists_earlier?_iff {t : Instant} {d : Duration} (regular : ¬ t.isLeap) :
    (∃ u, t.earlier? d = some u) ↔ first.nanos + d.nanos ≤ t.nanos := by
  have start : first.nanos = -8334601228800 * 1_000_000_000 := by decide +kernel
  have longest : (Duration.longestStep : Int) = 9_223_372_036_854_775_807 * 1_000_000 := rfl
  have below := (exists_ofNanos?_iff.1 ⟨t, ofNanos?_nanos regular⟩).2
  unfold earlier?
  by_cases short : d.nanos ≤ Duration.longestStep
  · rw [if_pos short, shift?_of_not_isLeap regular, exists_ofNanos?_iff]
    omega
  · rw [if_neg short]
    constructor
    · rintro ⟨u, h⟩
      cases h
    · omega

/-- Where a move leads, in positions. -/
theorem position_of_shift? {t u : Instant} {n : Int} (h : t.shift? n = some u) :
    (¬ u.isLeap ∧ (¬ t.isLeap ∨ t.ofMinute + n < 60_000_000_000) ∧ u.nanos = t.nanos + n) ∨
    (u.position = t.position + n ∧ t.isLeap ∧ 60_000_000_000 ≤ t.ofMinute + n ∧
      t.ofMinute + n < 61_000_000_000) ∨
    (¬ u.isLeap ∧ t.isLeap ∧ 61_000_000_000 ≤ t.ofMinute + n ∧
      u.nanos = t.nanos + n - 1_000_000_000) := by
  unfold shift? at h
  split at h
  · next regular => exact .inl ⟨(ofNanos?_eq_some_iff.1 h).1, regular, (ofNanos?_eq_some_iff.1 h).2⟩
  next leap =>
  rw [not_or, Decidable.not_not] at leap
  split at h
  · next inside => exact .inr (.inl ⟨ofPosition?_eq_some_iff.1 h, leap.1, by omega, inside⟩)
  · next past =>
    obtain ⟨regular, moved⟩ := ofNanos?_eq_some_iff.1 h
    exact .inr (.inr ⟨regular, leap.1, by omega, moved⟩)

theorem shift?_mono {t u v : Instant} {m n : Int} (h : m ≤ n) (hu : t.shift? m = some u)
    (hv : t.shift? n = some v) : u ≤ v := by
  change u.position ≤ v.position
  have hu := position_of_shift? hu
  have hv := position_of_shift? hv
  simp only [isLeap, nanos, minute, ofMinute] at hu hv
  omega

end MessageBus.Instant
