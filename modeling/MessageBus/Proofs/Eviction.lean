import MessageBus.Proofs.CacheHistory

/-! Room in a cache. An index never holds more rows than its capacity. Setting a row costs another
fresh one its place only when there is no other way, and then it is the oldest one that goes. -/
namespace MessageBus
namespace CacheIndex

theorem oldest?_eq_none_iff {κ : Type} {rows : List (κ × CacheEntry)} :
    oldest? rows = none ↔ rows = [] := by
  cases rows with
  | nil => exact ⟨fun _ => rfl, fun _ => rfl⟩
  | cons first rest =>
    refine ⟨fun none => ?_, nofun⟩
    unfold oldest? at none
    split at none
    · split at none <;> cases none
    · cases none

/-- No row is older than the oldest one. -/
theorem oldest?_eq_some {κ : Type} {rows : List (κ × CacheEntry)} {key : κ} {entry : CacheEntry}
    (found : oldest? rows = some (key, entry)) :
    (key, entry) ∈ rows ∧ ∀ row ∈ rows, entry.inserted ≤ row.2.inserted := by
  induction rows generalizing key entry with
  | nil => cases found
  | cons first rest ih =>
    unfold oldest? at found
    cases older : oldest? rest with
    | none =>
      rw [older] at found
      cases found
      rw [oldest?_eq_none_iff.1 older]
      exact ⟨List.mem_singleton_self _, fun row mem => List.mem_singleton.1 mem ▸ Int.le_refl _⟩
    | some oldest =>
      obtain ⟨there, least⟩ := ih older
      rw [older] at found
      dsimp only at found
      split at found
      · next earlier =>
        cases found
        refine ⟨List.mem_cons_of_mem _ there, fun row mem => ?_⟩
        rcases List.mem_cons.1 mem with rfl | mem
        · exact Int.le_of_lt earlier
        · exact least row mem
      · next notEarlier =>
        cases found
        refine ⟨List.mem_cons_self, fun row mem => ?_⟩
        rcases List.mem_cons.1 mem with rfl | mem
        · exact Int.le_refl _
        · exact Int.le_trans (Int.not_lt.1 notEarlier) (least row mem)

section
variable {κ : Type} [DecidableEq κ] {index : CacheIndex κ} {settings : CacheSettings} {key : κ}
  {row : MessageType} {now : Instant}

theorem hasRoom_eq_false_iff {capacity : Nat} : index.hasRoom capacity key = false ↔
    Table.get? index key = none ∧ capacity ≤ Table.size index := by
  simp [hasRoom, Table.contains]

theorem size_insert_of_room {capacity : Nat} (room : index.hasRoom capacity key = true)
    (bounded : Table.size index ≤ capacity) (entry : CacheEntry) :
    Table.size (Table.insert index key entry) ≤ capacity := by
  rcases Bool.or_eq_true_iff.1 room with there | less
  · obtain ⟨_, stored⟩ := (Table.contains_iff index key).1 there
    rwa [Table.size_insert_of_stored stored]
  · exact Nat.le_trans (Table.size_insert_le index key entry) (of_decide_eq_true less)

/-- What goes from an index that has rows is an oldest one. -/
theorem dropOldest_cases (filled : 0 < Table.size index) :
    ∃ key entry, Table.get? index key = some entry ∧ index.dropOldest = Table.erase index key ∧
      ∀ k other, Table.get? index k = some other → entry.inserted ≤ other.inserted := by
  unfold dropOldest
  cases found : oldest? index.rows with
  | none =>
    have empty : Table.size index = 0 := congrArg List.length (oldest?_eq_none_iff.1 found)
    exact absurd empty (Nat.ne_of_gt filled)
  | some oldest =>
    obtain ⟨there, least⟩ := oldest?_eq_some found
    refine ⟨_, _, (Table.mem_rows_iff index _ _).1 there, rfl, fun k other stored => ?_⟩
    exact least _ ((Table.mem_rows_iff index k other).2 stored)

/-- What a look-up has dropped was under its key, and not fresh. -/
theorem expired_of_get (index : CacheIndex κ) {ttl : Duration} {k : κ} {entry : CacheEntry}
    (there : Table.get? index k = some entry)
    (gone : Table.get? (index.get ttl key now).2 k ≠ some entry) :
    k = key ∧ entry.isFresh ttl now = false := by
  unfold get at gone
  split at gone
  · exact absurd there gone
  · next first stored =>
    split at gone
    · exact absurd there gone
    · next old =>
      by_cases same : k = key
      · subst same
        cases stored.symm.trans there
        exact ⟨rfl, eq_false_of_ne_true old⟩
      · rw [Table.get?_erase, if_neg same] at gone
        exact absurd there gone

theorem size_get_le (index : CacheIndex κ) (ttl : Duration) (key : κ) (now : Instant) :
    Table.size (index.get ttl key now).2 ≤ Table.size index := by
  unfold get
  split
  · exact Nat.le_refl _
  · split
    · exact Nat.le_refl _
    · exact Table.size_filter_le index _

/-- The entries that are still fresh. -/
def purged (index : CacheIndex κ) (ttl : Duration) (now : Instant) : CacheIndex κ :=
  Table.filter index fun _ entry => entry.isFresh ttl now

theorem get?_purged {ttl : Duration} {k : κ} {entry : CacheEntry} :
    Table.get? (index.purged ttl now) k = some entry ↔
      Table.get? index k = some entry ∧ entry.isFresh ttl now = true := by
  rw [purged, Table.get?_filter, Option.filter_eq_some_iff]

/-- What setting a row puts it into: the index itself, its fresh entries, or these without the
oldest one. -/
inductive MakesRoom (settings : CacheSettings) (index : CacheIndex κ) (key : κ) (now : Instant) :
    CacheIndex κ → Prop
  | enough (room : index.hasRoom settings.capacity key = true) :
      MakesRoom settings index key now index
  | purged (full : index.hasRoom settings.capacity key = false)
      (room : (index.purged settings.ttl now).hasRoom settings.capacity key = true) :
      MakesRoom settings index key now (index.purged settings.ttl now)
  | evicted (full : index.hasRoom settings.capacity key = false)
      (still : (index.purged settings.ttl now).hasRoom settings.capacity key = false) :
      MakesRoom settings index key now (index.purged settings.ttl now).dropOldest

theorem set_cases (index : CacheIndex κ) (key : κ) (row : MessageType) (now : Instant)
    (holds : 0 < settings.capacity) :
    ∃ before, MakesRoom settings index key now before ∧
      index.set settings key row now = Table.insert before key ⟨row, now⟩ := by
  have capacity : settings.capacity ≠ 0 := Nat.ne_of_gt holds
  cases room : index.hasRoom settings.capacity key with
  | true => exact ⟨_, .enough room, by simp only [set, if_neg capacity, room, if_true]⟩
  | false =>
    cases purged : (index.purged settings.ttl now).hasRoom settings.capacity key with
    | true =>
      refine ⟨_, .purged room purged, ?_⟩
      simp only [CacheIndex.purged] at purged
      simp [set, capacity, room, purged, CacheIndex.purged]
    | false =>
      refine ⟨_, .evicted room purged, ?_⟩
      simp only [CacheIndex.purged] at purged
      simp [set, capacity, room, purged, CacheIndex.purged]

theorem get?_set_self (index : CacheIndex κ) (key : κ) (row : MessageType) (now : Instant)
    (holds : 0 < settings.capacity) :
    Table.get? (index.set settings key row now) key = some ⟨row, now⟩ := by
  obtain ⟨before, -, is⟩ := set_cases index key row now holds
  rw [is, Table.get?_insert_self]

theorem get?_set_of_room {k : κ} (room : index.hasRoom settings.capacity key = true)
    (other : k ≠ key) (row : MessageType) (now : Instant) :
    Table.get? (index.set settings key row now) k = Table.get? index k := by
  unfold set
  split
  · rfl
  · simp only [room, if_true, Table.get?_insert, if_neg other]

theorem set_of_capacity_zero (none : settings.capacity = 0) :
    index.set settings key row now = index := if_pos none

theorem size_set_le (bounded : Table.size index ≤ settings.capacity) (key : κ) (row : MessageType)
    (now : Instant) : Table.size (index.set settings key row now) ≤ settings.capacity := by
  rcases Nat.eq_zero_or_pos settings.capacity with none | holds
  · rwa [set_of_capacity_zero none]
  obtain ⟨before, made, is⟩ := set_cases index key row now holds
  rw [is]
  have less : Table.size (index.purged settings.ttl now) ≤ settings.capacity :=
    Nat.le_trans (Table.size_filter_le index _) bounded
  cases made with
  | enough room => exact size_insert_of_room room bounded _
  | purged _ room => exact size_insert_of_room room less _
  | evicted _ still =>
    -- One entry goes and one comes.
    have full := (hasRoom_eq_false_iff.1 still).2
    obtain ⟨gone, _, there, dropped, -⟩ := dropOldest_cases (Nat.lt_of_lt_of_le holds full)
    have size := Table.size_erase_of_stored there
    have grown := Table.size_insert_le (Table.erase (index.purged settings.ttl now) gone) key
      ⟨row, now⟩
    rw [dropped]
    omega

/-- A new row can only be set when another one goes: the index is full of entries, all fresh. -/
structure Crowded (settings : CacheSettings) (index : CacheIndex κ) (key : κ) (now : Instant) :
    Prop where
  new : Table.get? index key = none
  full : settings.capacity ≤ Table.size index
  fresh : ∀ k entry, Table.get? index k = some entry → entry.isFresh settings.ttl now = true

/-- What setting a row makes of an index. -/
structure Takes (settings : CacheSettings) (index : CacheIndex κ) (key : κ) (row : MessageType)
    (now : Instant) (next : CacheIndex κ) : Prop where
  set : Table.get? next key = some ⟨row, now⟩
  nothingElse : ∀ k entry, k ≠ key → Table.get? next k = some entry →
    Table.get? index k = some entry
  keeps : ¬ Crowded settings index key now → ∀ k entry, k ≠ key →
    Table.get? index k = some entry → entry.isFresh settings.ttl now = true →
    Table.get? next k = some entry
  dropsOldest : Crowded settings index key now → ∃ gone entry, Table.get? index gone = some entry ∧
    (∀ k other, Table.get? index k = some other → entry.inserted ≤ other.inserted) ∧
    Table.get? next gone = none ∧
    ∀ k, k ≠ key → k ≠ gone → Table.get? next k = Table.get? index k

theorem Crowded.purged (crowded : Crowded settings index key now) :
    index.purged settings.ttl now = index :=
  Table.filter_eq_self crowded.fresh

theorem Crowded.noRoom (crowded : Crowded settings index key now) :
    index.hasRoom settings.capacity key = false :=
  hasRoom_eq_false_iff.2 ⟨crowded.new, crowded.full⟩

/-- In an index that is not larger than its capacity, one entry that is not fresh leaves room. -/
theorem crowded_of_still_full (bounded : Table.size index ≤ settings.capacity)
    (full : index.hasRoom settings.capacity key = false)
    (still : (index.purged settings.ttl now).hasRoom settings.capacity key = false) :
    Crowded settings index key now := by
  obtain ⟨new, atLeast⟩ := hasRoom_eq_false_iff.1 full
  refine ⟨new, atLeast, fun k entry there => ?_⟩
  cases fresh : entry.isFresh settings.ttl now with
  | true => rfl
  | false =>
    have less : Table.size (index.purged settings.ttl now) < Table.size index :=
      Table.size_filter_lt there fresh
    have enough := (hasRoom_eq_false_iff.1 still).2
    omega

theorem takes_set (bounded : Table.size index ≤ settings.capacity) (holds : 0 < settings.capacity)
    (key : κ) (row : MessageType) (now : Instant) :
    Takes settings index key row now (index.set settings key row now) := by
  obtain ⟨before, made, is⟩ := set_cases index key row now holds
  have others {k : κ} (other : k ≠ key) :
      Table.get? (index.set settings key row now) k = Table.get? before k := by
    rw [is, Table.get?_insert, if_neg other]
  refine ⟨?_, fun k entry other there => ?_, fun notCrowded k entry other there fresh => ?_,
    fun crowded => ?_⟩
  · exact get?_set_self index key row now holds
  · rcases index.found_of_set there with ⟨same, -⟩ | before
    · exact absurd same other
    · exact before
  · rw [others other]
    cases made with
    | enough => exact there
    | purged => exact get?_purged.2 ⟨there, fresh⟩
    | evicted full still => exact absurd (crowded_of_still_full bounded full still) notCrowded
  · cases made with
    | enough room => simp [crowded.noRoom] at room
    | purged _ room => simp [crowded.purged, crowded.noRoom] at room
    | evicted =>
      have filled : 0 < Table.size index := Nat.lt_of_lt_of_le holds crowded.full
      obtain ⟨gone, entry, there, dropped, least⟩ := dropOldest_cases filled
      rw [crowded.purged, dropped] at is
      refine ⟨gone, entry, there, least, ?_, fun k other kept => ?_⟩
      · have apart : gone ≠ key := fun same => by
          rw [same, crowded.new] at there
          cases there
        rw [is, Table.get?_insert, if_neg apart, Table.get?_erase, if_pos rfl]
      · rw [is, Table.get?_insert, if_neg other, Table.get?_erase, if_neg kept]

end
end CacheIndex

namespace Cache

/-- Neither index holds more rows than the capacity. -/
structure Bounded (c : Cache) : Prop where
  byName : Table.size c.byName ≤ c.settings.capacity
  byId : Table.size c.byId ≤ c.settings.capacity

theorem Bounded.after {c : Cache} (h : c.Bounded) (event : CacheEvent) :
    (c.after event).Bounded := by
  have smaller {κ : Type} [DecidableEq κ] (index : CacheIndex κ) (key : κ) (now : Instant)
      (bounded : Table.size index ≤ c.settings.capacity) :
      Table.size (index.get c.settings.ttl key now).2 ≤ c.settings.capacity :=
    Nat.le_trans (index.size_get_le ..) bounded
  cases event with
  | lookedUpName name now =>
    constructor
    · rw [settings_after, Cache.after, lookupName_byName]
      exact smaller _ _ _ h.byName
    · rw [settings_after, Cache.after, lookupName_byId]
      exact h.byId
  | lookedUpId id now =>
    constructor
    · rw [settings_after, Cache.after, lookupId_byName]
      exact h.byName
    · rw [settings_after, Cache.after, lookupId_byId]
      exact smaller _ _ _ h.byId
  | remembered row now =>
    exact ⟨CacheIndex.size_set_le h.byName .., CacheIndex.size_set_le h.byId ..⟩
  | invalidated name =>
    change (c.invalidate name).Bounded
    unfold invalidate
    split
    · exact ⟨Nat.le_trans (Table.size_filter_le ..) h.byName,
        Nat.le_trans (Table.size_filter_le ..) h.byId⟩
    · exact h
  | cleared => exact ⟨Nat.zero_le _, Nat.zero_le _⟩

theorem bounded_run (settings : CacheSettings) (history : List CacheEvent) :
    (run settings history).Bounded :=
  run_induction (P := fun _ c => c.Bounded) ⟨Nat.zero_le _, Nat.zero_le _⟩
    (fun _ event ih => ih.after event) history

/-- Every look-up is counted once, and nothing else is. -/
theorem lookups_counted (settings : CacheSettings) (history : List CacheEvent) :
    (run settings history).hits + (run settings history).misses =
      history.countP CacheEvent.isLookup := by
  refine run_induction
    (P := fun history c => c.hits + c.misses = history.countP CacheEvent.isLookup) rfl ?_ history
  intro history event ih
  rw [List.countP_append, List.countP_singleton, ← ih]
  cases event with
  | lookedUpName name now => exact tally_count ..
  | lookedUpId id now => exact tally_count ..
  | remembered | cleared => rfl
  | invalidated name =>
    change (invalidate _ name).hits + (invalidate _ name).misses = _
    unfold invalidate
    split <;> rfl

/-- A hit is an entry that was remembered less than the time to live before. -/
structure Answers (settings : CacheSettings) (history : List CacheEvent) (row : MessageType)
    (now : Instant) (entry : CacheEntry) : Prop where
  row : entry.row = row
  remembered : .remembered entry.row entry.inserted ∈ history
  young : now.since entry.inserted < settings.ttl.nanos

/-- Whatever has happened to a cache, its indexes are not larger than its capacity, a row that it
takes in costs no fresh one its place but the oldest of an index that is full of fresh ones, it
answers with nothing that it was not told less than the time to live ago, and it counts each
look-up. -/
theorem room_and_age_respected (settings : CacheSettings) (history : List CacheEvent) :
    let c := run settings history
    (Table.size c.byName ≤ settings.capacity ∧ Table.size c.byId ≤ settings.capacity) ∧
    (0 < settings.capacity → ∀ row now,
      CacheIndex.Takes settings c.byName row.name row now (c.after (.remembered row now)).byName ∧
      CacheIndex.Takes settings c.byId row.id row now (c.after (.remembered row now)).byId) ∧
    (∀ name now row, (c.lookupName name now).1 = some row → ∃ entry,
      Table.get? c.byName name = some entry ∧ Answers settings history row now entry) ∧
    (∀ id now row, (c.lookupId id now).1 = some row → ∃ entry,
      Table.get? c.byId id = some entry ∧ Answers settings history row now entry) ∧
    c.hits + c.misses = history.countP CacheEvent.isLookup := by
  intro c
  have is : c.settings = settings := settings_run settings history
  obtain ⟨byName, byId⟩ := bounded_run settings history
  obtain ⟨namesTraced, idsTraced⟩ := traced_run settings history
  rw [settings_run] at byName byId
  refine ⟨⟨byName, byId⟩, fun holds row now => ?_, fun name now row hit => ?_,
    fun id now row hit => ?_, lookups_counted settings history⟩
  · change CacheIndex.Takes _ _ _ _ _ (c.byName.set c.settings row.name row now) ∧
      CacheIndex.Takes _ _ _ _ _ (c.byId.set c.settings row.id row now)
    rw [is]
    exact ⟨CacheIndex.takes_set byName holds .., CacheIndex.takes_set byId holds ..⟩
  · obtain ⟨entry, there, fresh, same⟩ := c.byName.get_eq_some_iff.1 hit
    rw [is] at fresh
    exact ⟨entry, there, same, (namesTraced name entry there).2, of_decide_eq_true fresh⟩
  · obtain ⟨entry, there, fresh, same⟩ := c.byId.get_eq_some_iff.1 hit
    rw [is] at fresh
    exact ⟨entry, there, same, (idsTraced id entry there).2, of_decide_eq_true fresh⟩

end Cache
end MessageBus
