import MessageBus.Proofs.Eviction

/-! Names that are dropped from a cache. The number that goes with a name is found through the name,
and the name may have left its index, or come to lead elsewhere, while the number stayed. A cache
forgets a name altogether exactly when this has not happened. -/
namespace MessageBus
namespace Cache

/-- The name leads to the number. -/
def Leads (c : Cache) (name : String) (id : MessageTypeId) : Prop :=
  ∃ entry, Table.get? c.byName name = some entry ∧ entry.row.id = id

/-- The number has an entry of the name, and the name does not lead to it. -/
structure Stray (c : Cache) (name : String) (id : MessageTypeId) : Prop where
  stays : ∃ entry, Table.get? c.byId id = some entry ∧ entry.row.name = name
  parted : ¬ c.Leads name id

/-- How a name is parted from a number to which it leads. -/
inductive Parts (c : Cache) (name : String) (id : MessageTypeId) : CacheEvent → Prop
  /-- The name is looked up, is no longer fresh, and goes alone. -/
  | expired {entry now} (led : Table.get? c.byName name = some entry) (same : entry.row.id = id)
      (old : entry.isFresh c.settings.ttl now = false) : Parts c name id (.lookedUpName name now)
  /-- The name comes back with another number. -/
  | renumbered {row now} (led : c.Leads name id) (named : row.name = name) (other : row.id ≠ id) :
      Parts c name id (.remembered row now)
  /-- The name goes to make room for another one. -/
  | displaced {row now} (led : c.Leads name id) (other : row.name ≠ name)
      (full : c.byName.hasRoom c.settings.capacity row.name = false)
      (gone : Table.get? (c.remember row now).byName name = none) :
      Parts c name id (.remembered row now)

section
variable {c : Cache} {name : String} {id : MessageTypeId}

theorem byName_invalidate (c : Cache) (name : String) :
    (c.invalidate name).byName = Table.erase c.byName name := by
  unfold invalidate
  split
  · rfl
  · next absent =>
    refine (Table.filter_eq_self fun k entry there => bne_iff_ne.2 ?_).symm
    rintro rfl
    rw [absent] at there
    cases there

theorem get?_byId_of_leads (led : c.Leads name id) :
    Table.get? (c.invalidate name).byId id = none := by
  obtain ⟨entry, there, rfl⟩ := led
  simp only [invalidate, there, Table.get?_erase, if_pos]

theorem get?_byId_of_not_leads (apart : ¬ c.Leads name id) :
    Table.get? (c.invalidate name).byId id = Table.get? c.byId id := by
  unfold invalidate
  split
  · next entry there =>
    have other : id ≠ entry.row.id := fun same => apart ⟨entry, there, same.symm⟩
    rw [Table.get?_erase, if_neg other]
  · rfl

/-- What a number holds when a name has been dropped, it held before, and the name did not lead to
it. -/
theorem get?_byId_invalidate_iff {entry : CacheEntry} :
    Table.get? (c.invalidate name).byId id = some entry ↔
      Table.get? c.byId id = some entry ∧ ¬ c.Leads name id := by
  by_cases led : c.Leads name id
  · rw [get?_byId_of_leads led]
    exact ⟨nofun, fun ⟨_, apart⟩ => absurd led apart⟩
  · rw [get?_byId_of_not_leads led]
    exact ⟨fun there => ⟨there, led⟩, And.left⟩

section
variable {row : MessageType} {now : Instant}

/-- A name that does not lead to its number any longer, although no row of it came, is gone. -/
theorem gone_of_parted (led : c.Leads name id) (other : row.name ≠ name)
    (parted : ¬ (c.remember row now).Leads name id) :
    Table.get? (c.remember row now).byName name = none := by
  obtain ⟨first, leads, number⟩ := led
  cases later : Table.get? (c.remember row now).byName name with
  | none => rfl
  | some entry =>
    rcases c.byName.found_of_set later with ⟨back, -⟩ | still
    · exact absurd back.symm other
    · rw [leads] at still
      cases still
      exact absurd ⟨_, later, number⟩ parted

/-- Names only go when there is no room for the one that comes. -/
theorem full_of_gone (led : c.Leads name id) (other : row.name ≠ name)
    (gone : Table.get? (c.remember row now).byName name = none) :
    c.byName.hasRoom c.settings.capacity row.name = false := by
  obtain ⟨first, leads, -⟩ := led
  cases room : c.byName.hasRoom c.settings.capacity row.name with
  | false => rfl
  | true =>
    have kept := CacheIndex.get?_set_of_room room (Ne.symm other) row now
    rw [leads] at kept
    exact absurd (gone.symm.trans kept) nofun

/-- When a row has been remembered, a stray entry was one before or has just been parted from its
name. -/
theorem stray_of_remembered (stray : (c.remember row now).Stray name id) :
    c.Stray name id ∨ Parts c name id (.remembered row now) := by
  obtain ⟨⟨entry, there, named⟩, parted⟩ := stray
  rcases Nat.eq_zero_or_pos c.settings.capacity with none | holds
  · -- Nothing is ever taken in.
    have same : c.remember row now = c := by
      simp only [remember, CacheIndex.set_of_capacity_zero none]
    rw [same] at there parted
    exact .inl ⟨⟨entry, there, named⟩, parted⟩
  have taken : Table.get? (c.remember row now).byName row.name = some ⟨row, now⟩ :=
    CacheIndex.get?_set_self c.byName row.name row now holds
  rcases c.byId.found_of_set there with ⟨rfl, rfl⟩ | before
  · exact absurd ⟨_, named ▸ taken, rfl⟩ parted
  by_cases led : c.Leads name id
  · right
    by_cases same : row.name = name
    · exact .renumbered led same fun number => parted ⟨_, same ▸ taken, number⟩
    · have gone := gone_of_parted led same parted
      exact .displaced led same (full_of_gone led same gone) gone
  · exact .inl ⟨⟨entry, before, named⟩, led⟩

end

/-- A stray entry was one before, or the event has parted it from its name. -/
theorem Stray.before {event : CacheEvent} (stray : (c.after event).Stray name id) :
    c.Stray name id ∨ Parts c name id event := by
  obtain ⟨⟨entry, there, named⟩, parted⟩ := stray
  cases event with
  | lookedUpName looked now =>
    rw [after, lookupName_byId] at there
    by_cases led : c.Leads name id
    · obtain ⟨first, leads, number⟩ := led
      right
      have gone : Table.get? (c.byName.get c.settings.ttl looked now).2 name ≠ some first :=
        fun still => parted ⟨first, by rw [after, lookupName_byName]; exact still, number⟩
      obtain ⟨rfl, old⟩ := c.byName.expired_of_get leads gone
      exact .expired leads number old
    · exact .inl ⟨⟨entry, there, named⟩, led⟩
  | lookedUpId looked now =>
    have before := c.byId.within_get c.settings.ttl looked now id entry
      (by rwa [after, lookupId_byId] at there)
    refine .inl ⟨⟨entry, before, named⟩, fun led => parted ?_⟩
    rwa [Leads, after, lookupId_byName]
  | remembered row now => exact stray_of_remembered ⟨⟨entry, there, named⟩, parted⟩
  | invalidated dropped =>
    obtain ⟨before, apart⟩ := get?_byId_invalidate_iff.1 there
    refine .inl ⟨⟨entry, before, named⟩, ?_⟩
    rintro ⟨first, leads, number⟩
    have other : name ≠ dropped := by
      rintro rfl
      exact apart ⟨first, leads, number⟩
    refine parted ⟨first, ?_, number⟩
    rw [after, byName_invalidate, Table.get?_erase, if_neg other]
    exact leads
  | cleared => cases there

end

/-- An event of the history has parted the name from the number, and since then the entry of the
number has been a stray one. -/
def PartedIn (settings : CacheSettings) (history : List CacheEvent) (name : String)
    (id : MessageTypeId) : Prop :=
  ∃ before event later, history = before ++ event :: later ∧
    Parts (run settings before) name id event ∧
    ∀ part, part <+: later → (run settings (before ++ event :: part)).Stray name id

theorem partedIn_of_stray (settings : CacheSettings) (history : List CacheEvent) {name : String}
    {id : MessageTypeId} :
    (run settings history).Stray name id → PartedIn settings history name id := by
  refine run_induction (P := fun history c => c.Stray name id →
    PartedIn settings history name id) ?_ ?_ history
  · rintro ⟨⟨_, there, -⟩, -⟩
    cases there
  · intro history last ih stray
    rcases stray.before with earlier | parts
    · obtain ⟨before, event, later, rfl, parts, since⟩ := ih earlier
      refine ⟨before, event, later ++ [last], by simp, parts, fun part reached => ?_⟩
      rcases List.prefix_concat_iff.1 reached with rfl | reached
      · rw [← run_concat] at stray
        simpa using stray
      · exact since part reached
    · refine ⟨history, last, [], rfl, parts, fun part reached => ?_⟩
      rw [List.prefix_nil.1 reached, run_concat]
      exact stray

/-- When a name has been dropped, no name leads to a row of it and the next look-up of the name
misses. A number still has an entry of the name, and answers with it as long as it is fresh, exactly
when the name had been parted from the number before and the entry was left. -/
theorem forgotten_iff_not_stray (settings : CacheSettings) (history : List CacheEvent)
    (name : String) :
    let c := run settings history
    let d := run settings (history ++ [.invalidated name])
    (∀ key entry, Table.get? d.byName key = some entry → entry.row.name ≠ name) ∧
    (∀ now, (d.lookupName name now).1 = none) ∧
    (∀ id, (∃ entry, Table.get? d.byId id = some entry ∧ entry.row.name = name) ↔
      c.Stray name id) ∧
    (∀ id now, (∃ row, (d.lookupId id now).1 = some row ∧ row.name = name) ↔
      c.Stray name id ∧
        ∃ entry, Table.get? c.byId id = some entry ∧ entry.isFresh settings.ttl now = true) ∧
    ∀ id, c.Stray name id → PartedIn settings history name id := by
  intro c d
  have is : d = c.invalidate name := run_concat settings history _
  have traced := traced_run settings (history ++ [.invalidated name])
  have stays {id : MessageTypeId} {entry : CacheEntry} :
      Table.get? d.byId id = some entry ↔ Table.get? c.byId id = some entry ∧ ¬ c.Leads name id :=
    is ▸ get?_byId_invalidate_iff
  have dropped : Table.get? d.byName name = none := by
    rw [is, byName_invalidate, Table.get?_erase, if_pos rfl]
  refine ⟨fun key entry there same => ?_, fun now => ?_, fun id => ⟨?_, ?_⟩,
    fun id now => ⟨?_, ?_⟩, fun _ => partedIn_of_stray settings history⟩
  · rw [(traced.byName key entry there).1.symm.trans same, dropped] at there
    cases there
  · change (d.byName.get d.settings.ttl name now).1 = none
    rw [CacheIndex.get, dropped]
  · rintro ⟨entry, there, named⟩
    obtain ⟨before, apart⟩ := stays.1 there
    exact ⟨⟨entry, before, named⟩, apart⟩
  · rintro ⟨⟨entry, there, named⟩, apart⟩
    exact ⟨entry, stays.2 ⟨there, apart⟩, named⟩
  · rintro ⟨row, hit, named⟩
    obtain ⟨entry, there, fresh, rfl⟩ := d.byId.get_eq_some_iff.1 hit
    obtain ⟨before, apart⟩ := stays.1 there
    rw [settings_run] at fresh
    exact ⟨⟨⟨entry, before, named⟩, apart⟩, entry, before, fresh⟩
  · rintro ⟨⟨⟨entry, there, named⟩, apart⟩, other, same, fresh⟩
    cases there.symm.trans same
    refine ⟨entry.row, d.byId.get_eq_some_iff.2 ⟨entry, stays.2 ⟨there, apart⟩, ?_, rfl⟩, named⟩
    rwa [settings_run]

/-- The morning of 2026-01-05, at nine o'clock. -/
def morning : Instant := ⟨29460060 * 61_000_000_000, by decide⟩

/-- Eleven seconds later. -/
def elevenLater : Instant := ⟨29460060 * 61_000_000_000 + 11_000_000_000, by decide⟩

/-- A name is looked up and remembered, and looked up again when it is too old. -/
def expiredName : List CacheEvent :=
  [.lookedUpName "a" morning, .remembered ⟨⟨1⟩, "a", "tests::a"⟩ morning,
    .lookedUpName "a" elevenLater]

/-- The name is dropped when it has expired, and the clock is set back: its number still answers. -/
theorem number_outlives_name :
    let d := run ⟨.ofSecs 10, 8⟩ (expiredName ++ [.invalidated "a"])
    (∃ entry, Table.get? d.byId ⟨1⟩ = some entry ∧ entry.row.name = "a") ∧
    (d.lookupId ⟨1⟩ morning).1 = some ⟨⟨1⟩, "a", "tests::a"⟩ :=
  ⟨⟨_, rfl, rfl⟩, rfl⟩

end Cache
end MessageBus
