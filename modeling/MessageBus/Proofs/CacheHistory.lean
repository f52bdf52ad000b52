import MessageBus.Proofs.Caching

/-! What happens to a cache, one event after another. A look-up is one event, and when it has missed
and a row was loaded, from wherever, taking the row in is another one. Many look-ups at one time are
events in some order, and the clock that they read need not go forward. -/
namespace MessageBus

/-- One thing that happens to a cache. -/
inductive CacheEvent where
  | lookedUpName (name : String) (now : Instant)
  | lookedUpId (id : MessageTypeId) (now : Instant)
  | remembered (row : MessageType) (now : Instant)
  | invalidated (name : String)
  | cleared

def CacheEvent.isLookup : CacheEvent → Bool
  | lookedUpName .. | lookedUpId .. => true
  | remembered .. | invalidated _ | cleared => false

namespace Cache

def after (c : Cache) : CacheEvent → Cache
  | .lookedUpName name now => (c.lookupName name now).2
  | .lookedUpId id now => (c.lookupId id now).2
  | .remembered row now => c.remember row now
  | .invalidated name => c.invalidate name
  | .cleared => c.clear

/-- What a history makes of a new cache. -/
def run (settings : CacheSettings) (history : List CacheEvent) : Cache :=
  history.foldl after (empty settings)

@[simp] theorem run_append (settings : CacheSettings) (history more : List CacheEvent) :
    run settings (history ++ more) = more.foldl after (run settings history) := List.foldl_append

theorem run_concat (settings : CacheSettings) (history : List CacheEvent) (event : CacheEvent) :
    run settings (history ++ [event]) = (run settings history).after event := run_append ..

/-- What holds of a new cache and is kept by every further event holds after every history. -/
theorem run_induction {settings : CacheSettings} {P : List CacheEvent → Cache → Prop}
    (new : P [] (empty settings))
    (next : ∀ history event, P history (run settings history) →
      P (history ++ [event]) ((run settings history).after event))
    (history : List CacheEvent) : P history (run settings history) := by
  refine Store.concat_induction (P := fun past => P past (run settings past)) new ?_ history
  intro history event ih
  rw [run_concat]
  exact next history event ih

@[simp] theorem settings_count (c : Cache) (hit : Bool) : (c.count hit).settings = c.settings := by
  cases hit <;> rfl

@[simp] theorem byName_count (c : Cache) (hit : Bool) : (c.count hit).byName = c.byName := by
  cases hit <;> rfl

@[simp] theorem byId_count (c : Cache) (hit : Bool) : (c.count hit).byId = c.byId := by
  cases hit <;> rfl

/-- Whether it hits or misses, a look-up is counted. -/
theorem tally_count (c : Cache) (hit : Bool) :
    (c.count hit).hits + (c.count hit).misses = c.hits + c.misses + 1 := by
  cases hit
  · rfl
  · exact Nat.add_right_comm c.hits 1 c.misses

theorem lookupName_byName (c : Cache) (name : String) (now : Instant) :
    (c.lookupName name now).2.byName = (c.byName.get c.settings.ttl name now).2 :=
  byName_count ..

theorem lookupName_byId (c : Cache) (name : String) (now : Instant) :
    (c.lookupName name now).2.byId = c.byId := byId_count ..

theorem lookupId_byId (c : Cache) (id : MessageTypeId) (now : Instant) :
    (c.lookupId id now).2.byId = (c.byId.get c.settings.ttl id now).2 := byId_count ..

theorem lookupId_byName (c : Cache) (id : MessageTypeId) (now : Instant) :
    (c.lookupId id now).2.byName = c.byName := byName_count ..

theorem settings_after (c : Cache) (event : CacheEvent) :
    (c.after event).settings = c.settings := by
  cases event with
  | lookedUpName | lookedUpId => exact settings_count ..
  | remembered | cleared => rfl
  | invalidated name =>
    change (c.invalidate name).settings = c.settings
    unfold invalidate
    split <;> rfl

@[simp] theorem settings_run (settings : CacheSettings) (history : List CacheEvent) :
    (run settings history).settings = settings :=
  run_induction (P := fun _ c => c.settings = settings) rfl
    (fun _ event ih => (settings_after _ event).trans ih) history

/-! Where entries come from. -/

/-- Each entry of a cache was remembered at some point of the history, and stands under the keys of
its row. -/
structure Traced (history : List CacheEvent) (c : Cache) : Prop where
  byName : ∀ name entry, Table.get? c.byName name = some entry →
    entry.row.name = name ∧ .remembered entry.row entry.inserted ∈ history
  byId : ∀ id entry, Table.get? c.byId id = some entry →
    entry.row.id = id ∧ .remembered entry.row entry.inserted ∈ history

namespace Traced
variable {history : List CacheEvent} {c : Cache}

theorem of_empty (byName : c.byName = .empty) (byId : c.byId = .empty) : c.Traced history := by
  constructor
  · intro name entry there
    rw [byName] at there
    cases there
  · intro id entry there
    rw [byId] at there
    cases there

theorem fewer {d : Cache} (h : c.Traced history) (byName : Table.Within d.byName c.byName)
    (byId : Table.Within d.byId c.byId) : d.Traced history :=
  ⟨fun name entry there => h.byName name entry (byName name entry there),
    fun id entry there => h.byId id entry (byId id entry there)⟩

theorem append (h : c.Traced history) (more : List CacheEvent) : c.Traced (history ++ more) :=
  ⟨fun name entry there => (h.byName name entry there).imp_right (List.mem_append_left more),
    fun id entry there => (h.byId id entry there).imp_right (List.mem_append_left more)⟩

theorem after (h : c.Traced history) (event : CacheEvent) :
    (c.after event).Traced (history ++ [event]) := by
  cases event with
  | lookedUpName name now =>
    refine (h.append _).fewer ?_ ?_
    · exact lookupName_byName c name now ▸ c.byName.within_get _ _ _
    · exact lookupName_byId c name now ▸ .refl _
  | lookedUpId id now =>
    refine (h.append _).fewer ?_ ?_
    · exact lookupId_byName c id now ▸ .refl _
    · exact lookupId_byId c id now ▸ c.byId.within_get _ _ _
  | remembered row now =>
    have last := List.mem_append_right history (List.mem_singleton_self (.remembered row now))
    constructor
    · intro name entry there
      rcases c.byName.found_of_set there with ⟨rfl, rfl⟩ | before
      · exact ⟨rfl, last⟩
      · exact (h.append _).byName name entry before
    · intro id entry there
      rcases c.byId.found_of_set there with ⟨rfl, rfl⟩ | before
      · exact ⟨rfl, last⟩
      · exact (h.append _).byId id entry before
  | invalidated name =>
    change (c.invalidate name).Traced _
    unfold invalidate
    split
    · exact (h.append _).fewer (Table.within_erase _ _) (Table.within_erase _ _)
    · exact h.append _
  | cleared => exact .of_empty rfl rfl

end Traced

theorem traced_run (settings : CacheSettings) (history : List CacheEvent) :
    (run settings history).Traced history :=
  run_induction (.of_empty rfl rfl) (fun _ event ih => ih.after event) history

end Cache

namespace Caching
variable {η : Type}

/-- What an answer does to the cache is an event. -/
theorem Answered.events {request : Request η} {s t : Store} {c d : Cache} {answer : request.Answer}
    (answered : Answered request s c answer t d) :
    ∃ events : List CacheEvent, d = events.foldl Cache.after c := by
  cases answered with
  | store => exact ⟨[], rfl⟩
  | @cachedByName name _ _ now => exact ⟨[.lookedUpName name now], rfl⟩
  | @cachedById id _ _ now => exact ⟨[.lookedUpId id now], rfl⟩
  | @remember row _ _ now => exact ⟨[.remembered row now], rfl⟩

/-- Whatever look-ups are at work, the cache has a history. -/
theorem history_of_reached {settings : CacheSettings} {w : World η} (reached : Reached settings w) :
    ∃ history, w.cache = Cache.run settings history := by
  induction reached with
  | new => exact ⟨[], rfl⟩
  | moved _ move ih =>
    obtain ⟨history, is⟩ := ih
    have further {c d : Cache} (is : c = Cache.run settings history)
        (more : ∃ events : List CacheEvent, d = events.foldl Cache.after c) :
        ∃ history, d = Cache.run settings history := by
      obtain ⟨events, rfl⟩ := more
      exact ⟨history ++ events, by rw [Cache.run_append, ← is]⟩
    cases move with
    | call | begun => exact further is ⟨[], rfl⟩
    | invalidate name => exact further is ⟨[.invalidated name], rfl⟩
    | clear => exact further is ⟨[.cleared], rfl⟩
    | goesOn answered | ends answered => exact further is answered.events

end Caching
end MessageBus
