import MessageBus.Proofs.Identity
import MessageBus.Proofs.Performance

/-! Look-ups of message types through a cache. Any number of them run at one time over one store, and
between any two of their requests the store may be called, names dropped from the cache and the clock
set. Both indexes hold nothing but rows of the store, which keeps them for good, so that a look-up ends
with what the store would answer itself. -/
namespace MessageBus

namespace Table
variable {κ α : Type} [DecidableEq κ]

/-- What the one table holds the other one holds too. -/
def Within (t u : Table κ α) : Prop := ∀ k a, t.get? k = some a → u.get? k = some a

theorem Within.refl (t : Table κ α) : Within t t := fun _ _ there => there

theorem Within.trans {t u v : Table κ α} (h : Within t u) (k : Within u v) : Within t v :=
  fun key a there => k key a (h key a there)

theorem Within.either {t u v : Table κ α} (h : Within t v) (k : Within u v) (c : Prop)
    [Decidable c] : Within (if c then t else u) v := by
  split
  · exact h
  · exact k

theorem within_filter (t : Table κ α) (p : κ → α → Bool) : Within (t.filter p) t := by
  intro k a there
  exact (mem_rows_iff t k a).1 (List.mem_of_mem_filter ((mem_rows_iff _ k a).2 there))

theorem within_erase (t : Table κ α) (key : κ) : Within (t.erase key) t := within_filter t _

end Table

namespace CacheIndex
variable {κ : Type} [DecidableEq κ] (index : CacheIndex κ)

theorem within_get (ttl : Duration) (key : κ) (now : Instant) :
    Table.Within (index.get ttl key now).2 index := by
  unfold get
  split
  · exact .refl _
  · split
    · exact .refl _
    · exact Table.within_erase index key

/-- A hit is a fresh entry under the key. -/
theorem get_eq_some_iff {ttl : Duration} {key : κ} {now : Instant} {row : MessageType} :
    (index.get ttl key now).1 = some row ↔
      ∃ entry, Table.get? index key = some entry ∧ entry.isFresh ttl now = true ∧ entry.row = row := by
  unfold get
  cases Table.get? index key with
  | none => simp
  | some entry =>
    by_cases fresh : entry.isFresh ttl now = true
    · simp [fresh]
    · simp [fresh]

theorem within_dropOldest : Table.Within index.dropOldest index := by
  unfold dropOldest
  split
  · exact Table.within_erase index _
  · exact .refl _

/-- An entry that is found after a row was set is that of the row, or was there before. -/
theorem found_of_set {settings : CacheSettings} {key : κ} {row : MessageType} {now : Instant} {k : κ}
    {entry : CacheEntry} (found : Table.get? (index.set settings key row now) k = some entry) :
    (k = key ∧ entry = ⟨row, now⟩) ∨ Table.get? index k = some entry := by
  unfold set at found
  split at found
  · exact .inr found
  · dsimp only at found
    rw [Table.get?_insert] at found
    split at found
    · next same =>
      cases found
      exact .inl ⟨same, rfl⟩
    · -- What was in the way went first: entries that are no longer fresh, then the oldest one.
      have fresh := (Table.Within.refl index).either (Table.within_filter index fun _ entry =>
        entry.isFresh settings.ttl now) (index.hasRoom settings.capacity key = true)
      exact .inr (fresh.either ((within_dropOldest _).trans fresh) _ k entry found)

end CacheIndex

/-! What a cache holds. -/

/-- The index holds rows of the store, each under its own key. -/
def CacheIndex.Backed {κ : Type} [DecidableEq κ] (s : Store) (key : MessageType → κ)
    (index : CacheIndex κ) : Prop :=
  ∀ k entry, Table.get? index k = some entry →
    key entry.row = k ∧ s.messageTypes.get? entry.row.id = some entry.row

namespace CacheIndex.Backed
variable {κ : Type} [DecidableEq κ] {s t : Store} {key : MessageType → κ} {index : CacheIndex κ}

theorem within {less : CacheIndex κ} (h : Backed s key index) (within : Table.Within less index) :
    Backed s key less :=
  fun k entry there => h k entry (within k entry there)

theorem stays (h : Backed s key index) (keeps : Keeps id s.messageTypes t.messageTypes) :
    Backed t key index := by
  intro k entry there
  obtain ⟨same, stored⟩ := h k entry there
  exact ⟨same, keeps.stays stored⟩

theorem set (h : Backed s key index) {row : MessageType}
    (stored : s.messageTypes.get? row.id = some row) (settings : CacheSettings) (now : Instant) :
    Backed s key (index.set settings (key row) row now) := by
  intro k entry found
  rcases index.found_of_set found with ⟨rfl, rfl⟩ | before
  · exact ⟨rfl, stored⟩
  · exact h k entry before

end CacheIndex.Backed

/-- Both indexes of a cache are backed by the store. -/
structure Cache.Backed (s : Store) (c : Cache) : Prop where
  byName : c.byName.Backed s MessageType.name
  byId : c.byId.Backed s MessageType.id

namespace Cache.Backed
variable {s t : Store} {c : Cache} (h : c.Backed s)
include h

theorem stays (keeps : Keeps id s.messageTypes t.messageTypes) : c.Backed t :=
  ⟨h.byName.stays keeps, h.byId.stays keeps⟩

theorem count (hit : Bool) : (c.count hit).Backed s := by
  cases hit <;> exact ⟨h.byName, h.byId⟩

theorem lookupName (name : String) (now : Instant) : (c.lookupName name now).2.Backed s :=
  have rest : { c with byName := (c.byName.get c.settings.ttl name now).2 }.Backed s :=
    ⟨h.byName.within (c.byName.within_get _ _ _), h.byId⟩
  rest.count _

theorem lookupId (id : MessageTypeId) (now : Instant) : (c.lookupId id now).2.Backed s :=
  have rest : { c with byId := (c.byId.get c.settings.ttl id now).2 }.Backed s :=
    ⟨h.byName, h.byId.within (c.byId.within_get _ _ _)⟩
  rest.count _

theorem remember {row : MessageType} (stored : s.messageTypes.get? row.id = some row)
    (now : Instant) : (c.remember row now).Backed s :=
  ⟨h.byName.set stored c.settings now, h.byId.set stored c.settings now⟩

theorem invalidate (name : String) : (c.invalidate name).Backed s := by
  unfold Cache.invalidate
  split
  · exact ⟨h.byName.within (Table.within_erase _ _), h.byId.within (Table.within_erase _ _)⟩
  · exact h

end Cache.Backed

theorem Cache.Backed.of_empty {s : Store} {c : Cache} (byName : c.byName = .empty)
    (byId : c.byId = .empty) : c.Backed s := by
  constructor
  · intro k entry there
    rw [byName] at there
    cases there
  · intro k entry there
    rw [byId] at there
    cases there

/-! Look-ups at work. -/

/-- What is looked up. -/
inductive Lookup where
  | byName (name : String)
  | byId (id : MessageTypeId)

namespace Lookup

/-- The answer of the store itself. -/
def direct (s : Store) : Lookup → Except StoreError MessageType
  | byName name => s.messageTypeNamed name
  | byId id => Store.require s.messageTypes "message type" id

/-- The answer of the cache. -/
def cached (c : Cache) (now : Instant) : Lookup → Option MessageType × Cache
  | byName name => c.lookupName name now
  | byId id => c.lookupId id now

section
variable {η : Type}

def routine : Lookup → Routine η (Except StoreError MessageType)
  | byName name => (Routine.messageTypeByName name).run
  | byId id => (Routine.messageTypeById id).run

/-- The last request of a look-up that has found a row in the store. -/
def remembering (row : MessageType) : Routine η (Except StoreError MessageType) :=
  Program.ask (.remember row) fun _ => .done (.ok row)

/-- What is left of a look-up that has found no row in the cache. -/
def loading : Lookup → Routine η (Except StoreError MessageType)
  | byName name => Program.ask (.store (.messageTypeByName name)) fun
    | .ok (some row) => remembering row
    | .ok none => .done (.error (.notFound "message type" name))
    | .error e => .done (.error e)
  | byId id => Program.ask (.store (.messageTypeById id)) fun
    | .ok (some row) => remembering row
    | .ok none => .done (.error (.notFound "message type" (toString id)))
    | .error e => .done (.error e)

/-- What is left of a look-up once the cache has answered. -/
def proceeding (lookup : Lookup) : Option MessageType → Routine η (Except StoreError MessageType)
  | some row => .done (.ok row)
  | none => lookup.loading

/-- The first request of a look-up, which is to the cache. -/
def asking (next : Option MessageType → Routine η (Except StoreError MessageType)) :
    Lookup → Routine η (Except StoreError MessageType)
  | byName name => Program.ask (.cachedByName name) next
  | byId id => Program.ask (.cachedById id) next

theorem routine_eq (lookup : Lookup) :
    lookup.routine (η := η) = lookup.asking lookup.proceeding := by
  cases lookup with
  | byName _ | byId _ =>
    refine congrArg (Program.ask _) (funext fun hit => ?_)
    cases hit with
    | some row => rfl
    | none =>
      refine congrArg (Program.ask _) (funext fun answer => ?_)
      match answer with
      | .ok (some row) => rfl
      | .ok none => rfl
      | .error e => rfl

end

end Lookup

namespace Caching
open Store

/-- The answer to a request of a look-up, with the store and the cache before and after it. The cache
is asked at some time, which need not be later than that of an earlier request. -/
inductive Answered {η : Type} :
    (request : Request η) → Store → Cache → request.Answer → Store → Cache → Prop
  | store {call s c} (fresh : Fresh) :
      Answered (.store call) s c (s.perform fresh call).1 (s.perform fresh call).2 c
  | cachedByName {name s c} (now : Instant) :
      Answered (.cachedByName name) s c (c.lookupName name now).1 s (c.lookupName name now).2
  | cachedById {id s c} (now : Instant) :
      Answered (.cachedById id) s c (c.lookupId id now).1 s (c.lookupId id now).2
  | remember {row s c} (now : Instant) : Answered (.remember row) s c () s (c.remember row now)

/-- A store with a cache before it, and what is left of each look-up that has been begun. -/
structure World (η : Type) where
  store : Store
  cache : Cache
  lookups : List (Lookup × Routine η (Except StoreError MessageType))

/-- A look-up that ends, with its result. -/
abbrev Ending := Lookup × Except StoreError MessageType

/-- One thing that happens: a call of any party, a drop of cached names, the begin of a look-up, or an
answer to one that is under way. -/
inductive Move {η : Type} : World η → World η → Option Ending → Prop
  | call {s c rest} (step : Step) : Move ⟨s, c, rest⟩ ⟨s.after step, c, rest⟩ none
  | invalidate {s c rest} (name : String) : Move ⟨s, c, rest⟩ ⟨s, c.invalidate name, rest⟩ none
  | clear {s c rest} : Move ⟨s, c, rest⟩ ⟨s, c.clear, rest⟩ none
  | begun {s c rest} (lookup : Lookup) :
      Move ⟨s, c, rest⟩ ⟨s, c, (lookup, lookup.routine) :: rest⟩ none
  | goesOn {s c t d before after lookup request next answer another further}
      (answered : Answered request s c answer t d) (left : next answer = Program.ask another further) :
      Move ⟨s, c, before ++ (lookup, Program.ask request next) :: after⟩
        ⟨t, d, before ++ (lookup, Program.ask another further) :: after⟩ none
  | ends {s c t d before after lookup request next answer result}
      (answered : Answered request s c answer t d) (left : next answer = .done result) :
      Move ⟨s, c, before ++ (lookup, Program.ask request next) :: after⟩ ⟨t, d, before ++ after⟩
        (some (lookup, result))

/-- What can come of a new cache with the settings, on a store that may have been in use before. -/
inductive Reached {η : Type} (settings : CacheSettings) : World η → Prop
  | new (past : List Step) : Reached settings ⟨run .empty past, .empty settings, []⟩
  | moved {w v event} (reached : Reached settings w) (move : Move w v event) : Reached settings v

/-- How far a look-up has come. -/
inductive Stage {η : Type} : Lookup → Routine η (Except StoreError MessageType) → Prop
  | begun {lookup} : Stage lookup lookup.routine
  | missed {lookup} : Stage lookup lookup.loading
  | found {lookup row} : Stage lookup (Lookup.remembering row)

/-- The cache is backed by the store, and what a look-up is about to remember is what the store would
answer. -/
structure Sound {η : Type} (w : World η) : Prop where
  identified : Identified w.store
  backed : w.cache.Backed w.store
  found : ∀ lookup row, (lookup, Lookup.remembering row) ∈ w.lookups →
    lookup.direct w.store = .ok row

section
variable {η : Type}

/-- What an answer makes of a look-up and of the cache. -/
inductive Advance (s : Store) (c : Cache) : Lookup → Routine η (Except StoreError MessageType) →
    Routine η (Except StoreError MessageType) → Cache → Prop
  | hit {lookup now row d} (cached : lookup.cached c now = (some row, d)) :
      Advance s c lookup lookup.routine (.done (.ok row)) d
  | miss {lookup now d} (cached : lookup.cached c now = (none, d)) :
      Advance s c lookup lookup.routine lookup.loading d
  | absent {lookup e} (direct : lookup.direct s = .error e) :
      Advance s c lookup lookup.loading (.done (.error e)) c
  | loaded {lookup row} (direct : lookup.direct s = .ok row) :
      Advance s c lookup lookup.loading (Lookup.remembering row) c
  | remembered {lookup row} (now : Instant) :
      Advance s c lookup (Lookup.remembering row) (.done (.ok row)) (c.remember row now)

theorem advance_of_cached (s : Store) (c : Cache) (lookup : Lookup) (now : Instant) :
    Advance (η := η) s c lookup lookup.routine (lookup.proceeding (lookup.cached c now).1)
      (lookup.cached c now).2 := by
  cases hit : (lookup.cached c now).1 with
  | some row => exact .hit (Prod.ext hit rfl)
  | none => exact .miss (Prod.ext hit rfl)

theorem advance_of_begun {lookup : Lookup} {request : Request η}
    {next : request.Answer → Routine η (Except StoreError MessageType)} {s t : Store} {c d : Cache}
    {answer : request.Answer} (is : lookup.routine = Program.ask request next)
    (answered : Answered request s c answer t d) :
    t = s ∧ Advance s c lookup (Program.ask request next) (next answer) d := by
  rw [← is]
  rw [Lookup.routine_eq] at is
  cases lookup with
  | byName name =>
    cases is
    cases answered with
    | cachedByName now => exact ⟨rfl, advance_of_cached s c _ now⟩
  | byId id =>
    cases is
    cases answered with
    | cachedById now => exact ⟨rfl, advance_of_cached s c _ now⟩

theorem advance_of_missed {lookup : Lookup} {request : Request η}
    {next : request.Answer → Routine η (Except StoreError MessageType)} {s t : Store} {c d : Cache}
    {answer : request.Answer} (is : lookup.loading = Program.ask request next)
    (answered : Answered request s c answer t d) :
    t = s ∧ Advance s c lookup (Program.ask request next) (next answer) d := by
  rw [← is]
  cases lookup with
  | byName name =>
    cases is
    cases answered with
    | store fresh =>
      refine ⟨rfl, ?_⟩
      have looked : (s.perform fresh (.messageTypeByName name)).1 = .ok (s.messageTypeByName? name) :=
        rfl
      rw [looked]
      cases found : s.messageTypeByName? name with
      | some row => exact .loaded (by rw [Lookup.direct, messageTypeNamed, found])
      | none => exact .absent (by rw [Lookup.direct, messageTypeNamed, found])
  | byId id =>
    cases is
    cases answered with
    | store fresh =>
      refine ⟨rfl, ?_⟩
      have looked : (s.perform fresh (.messageTypeById id)).1 = .ok (s.messageTypes.get? id) := rfl
      rw [looked]
      cases found : s.messageTypes.get? id with
      | some row => exact .loaded (by rw [Lookup.direct, require, found])
      | none => exact .absent (by rw [Lookup.direct, require, found])

/-- Every answer to a look-up leaves the store alone. -/
theorem advance_of_answered {lookup : Lookup} {request : Request η}
    {next : request.Answer → Routine η (Except StoreError MessageType)} {s t : Store} {c d : Cache}
    {answer : request.Answer} (stage : Stage lookup (Program.ask request next))
    (answered : Answered request s c answer t d) :
    t = s ∧ Advance s c lookup (Program.ask request next) (next answer) d := by
  generalize is : Program.ask request next = left at stage
  cases stage with
  | begun => exact is ▸ advance_of_begun is.symm answered
  | missed => exact is ▸ advance_of_missed is.symm answered
  | found =>
    cases is
    cases answered with
    | remember now => exact ⟨rfl, .remembered now⟩

/-! What stays true of look-ups. -/

theorem stored_of_direct {s : Store} (h : Identified s) {lookup : Lookup} {row : MessageType}
    (direct : lookup.direct s = .ok row) : s.messageTypes.get? row.id = some row := by
  cases lookup with
  | byName name =>
    have found := messageTypeNamed_eq_ok_iff.1 direct
    exact h.typeKeys.get?_of_mem (List.mem_of_find?_eq_some found)
  | byId id =>
    have there := require_eq_ok_iff.1 direct
    rw [h.typeKeys id row there]
    exact there

/-- A row that is stored is the answer to a look-up of its name. -/
theorem direct_of_stored {s : Store} (h : Identified s) {row : MessageType}
    (stored : s.messageTypes.get? row.id = some row) :
    (Lookup.byName row.name).direct s = .ok row := by
  refine messageTypeNamed_eq_ok_iff.2 ?_
  cases found : s.messageTypeByName? row.name with
  | none =>
    have other := List.find?_eq_none.1 found row ((Table.mem_values_iff _ _).2 ⟨_, stored⟩)
    simp at other
  | some first =>
    have there := h.typeKeys.get?_of_mem (List.mem_of_find?_eq_some found)
    have same := h.typeNames _ _ _ _ there stored (name_of_messageTypeByName? found)
    rw [same, stored] at there
    exact there.symm

theorem direct_stays {s t : Store} (h : Identified s) (later : Identified t)
    (keeps : Keeps id s.messageTypes t.messageTypes) {lookup : Lookup} {row : MessageType}
    (direct : lookup.direct s = .ok row) : lookup.direct t = .ok row := by
  have stored := stored_of_direct h direct
  cases lookup with
  | byName name =>
    rw [← name_of_messageTypeByName? (messageTypeNamed_eq_ok_iff.1 direct)]
    exact direct_of_stored later (keeps.stays stored)
  | byId id => exact require_eq_ok_iff.2 (keeps.stays (require_eq_ok_iff.1 direct))

/-- A hit is right, and the cache stays backed by the store whether it hits or misses. -/
theorem cached_of_backed {s : Store} (h : Identified s) {c d : Cache} (backed : c.Backed s)
    {lookup : Lookup} {now : Instant} {hit : Option MessageType}
    (cached : lookup.cached c now = (hit, d)) :
    d.Backed s ∧ ∀ row, hit = some row → lookup.direct s = .ok row := by
  cases lookup with
  | byName name =>
    cases cached
    refine ⟨backed.lookupName name now, fun row found => ?_⟩
    obtain ⟨entry, there, -, rfl⟩ := c.byName.get_eq_some_iff.1 found
    obtain ⟨rfl, stored⟩ := backed.byName name entry there
    exact direct_of_stored h stored
  | byId id =>
    cases cached
    refine ⟨backed.lookupId id now, fun row found => ?_⟩
    obtain ⟨entry, there, -, rfl⟩ := c.byId.get_eq_some_iff.1 found
    obtain ⟨rfl, stored⟩ := backed.byId id entry there
    exact require_eq_ok_iff.2 stored

theorem Advance.stage {s : Store} {c d : Cache} {lookup : Lookup}
    {left next : Routine η (Except StoreError MessageType)} (h : Advance s c lookup left next d) :
    Stage lookup next ∨ ∃ result, next = .done result := by
  cases h with
  | hit | absent | remembered => exact .inr ⟨_, rfl⟩
  | miss => exact .inl .missed
  | loaded => exact .inl .found

theorem remembering_inj {row other : MessageType}
    (same : Lookup.remembering row = (Lookup.remembering other : Routine η _)) : row = other := by
  cases same
  rfl

theorem remembering_ne_loading (lookup : Lookup) (row : MessageType) :
    Lookup.remembering row ≠ (lookup.loading : Routine η _) := by
  cases lookup <;> exact nofun

theorem remembering_ne_routine (lookup : Lookup) (row : MessageType) :
    Lookup.remembering row ≠ (lookup.routine : Routine η _) := by
  rw [Lookup.routine_eq]
  cases lookup <;> exact nofun

/-- An answer keeps the cache backed, a row that is to be remembered next is the one that the store
would answer, and so is the result of a look-up that ends. -/
theorem Advance.sound {s : Store} {c d : Cache} {lookup : Lookup}
    {left next : Routine η (Except StoreError MessageType)} (step : Advance s c lookup left next d)
    (h : Identified s) (backed : c.Backed s)
    (found : ∀ row, left = Lookup.remembering row → lookup.direct s = .ok row) :
    d.Backed s ∧ (∀ row, next = Lookup.remembering row → lookup.direct s = .ok row) ∧
      ∀ result, next = .done result → result = lookup.direct s := by
  cases step with
  | hit cached =>
    obtain ⟨backed, right⟩ := cached_of_backed h backed cached
    refine ⟨backed, nofun, ?_⟩
    rintro _ ⟨⟩
    exact (right _ rfl).symm
  | miss cached =>
    refine ⟨(cached_of_backed h backed cached).1, fun row same => ?_, fun result same => ?_⟩
    · exact absurd same.symm (remembering_ne_loading lookup row)
    · cases lookup <;> cases same
  | absent direct =>
    refine ⟨backed, nofun, ?_⟩
    rintro _ ⟨⟩
    exact direct.symm
  | loaded direct =>
    refine ⟨backed, fun row same => ?_, nofun⟩
    rw [← remembering_inj same]
    exact direct
  | remembered now =>
    have direct := found _ rfl
    refine ⟨backed.remember (stored_of_direct h direct) now, nofun, ?_⟩
    rintro _ ⟨⟩
    exact direct.symm

section
variable {α : Type} {before after : List α} {a b c : α}

theorem mem_middle (before after : List α) (a : α) : a ∈ before ++ a :: after :=
  List.mem_append_right _ List.mem_cons_self

theorem mem_of_middle (mem : a ∈ before ++ after) : a ∈ before ++ c :: after := by
  rcases List.mem_append.1 mem with mem | mem
  · exact List.mem_append_left _ mem
  · exact List.mem_append_right _ (List.mem_cons_of_mem _ mem)

theorem middle_or_mem (mem : a ∈ before ++ b :: after) : a = b ∨ a ∈ before ++ after := by
  rcases List.mem_append.1 mem with mem | mem
  · exact .inr (List.mem_append_left _ mem)
  · exact (List.mem_cons.1 mem).imp_right (List.mem_append_right _)

end

variable {settings : CacheSettings} {w v : World η} {event : Option Ending}

/-- A step of look-ups keeps everything sound, and a look-up that ends has the answer of the store. -/
theorem Sound.moved (h : Sound w) (stages : ∀ lookup left, (lookup, left) ∈ w.lookups →
    Stage lookup left) (move : Move w v event) :
    Sound v ∧ ∀ lookup result, event = some (lookup, result) → result = lookup.direct v.store := by
  obtain ⟨identified, backed, found⟩ := h
  cases move with
  | call step =>
    have continues := Continues.after identified step
    have keeps := continues.keeps.messageTypes
    exact ⟨⟨continues.identified, backed.stays keeps, fun lookup row mem =>
      direct_stays identified continues.identified keeps (found lookup row mem)⟩, nofun⟩
  | invalidate name => exact ⟨⟨identified, backed.invalidate name, found⟩, nofun⟩
  | clear => exact ⟨⟨identified, .of_empty rfl rfl, found⟩, nofun⟩
  | begun lookup =>
    refine ⟨⟨identified, backed, fun q row mem => ?_⟩, nofun⟩
    rcases List.mem_cons.1 mem with same | mem
    · obtain ⟨rfl, same⟩ := Prod.mk.inj same
      exact absurd same (remembering_ne_routine _ _)
    · exact found q row mem
  | goesOn answered next =>
    obtain ⟨rfl, step⟩ := advance_of_answered (stages _ _ (mem_middle _ _ _)) answered
    obtain ⟨backed, remembers, -⟩ := step.sound identified backed fun row same =>
      found _ row (same ▸ mem_middle _ _ _)
    refine ⟨⟨identified, backed, fun q row mem => ?_⟩, nofun⟩
    rcases middle_or_mem mem with same | mem
    · obtain ⟨rfl, left⟩ := Prod.mk.inj same
      exact remembers row (next.trans left.symm)
    · exact found q row (mem_of_middle mem)
  | ends answered next =>
    obtain ⟨rfl, step⟩ := advance_of_answered (stages _ _ (mem_middle _ _ _)) answered
    obtain ⟨backed, -, right⟩ := step.sound identified backed fun row same =>
      found _ row (same ▸ mem_middle _ _ _)
    refine ⟨⟨identified, backed, fun q row mem => found q row (mem_of_middle mem)⟩, ?_⟩
    rintro _ _ ⟨⟩
    exact right _ next

/-- What a look-up asks for next can be answered. -/
theorem Stage.answered {lookup : Lookup} {left : Routine η (Except StoreError MessageType)}
    (stage : Stage lookup left) (s : Store) (c : Cache) :
    ∃ request next answer t d, left = Program.ask request next ∧
      Answered request s c answer t d := by
  cases stage with
  | begun =>
    cases lookup with
    | byName name => exact ⟨_, _, _, _, _, Lookup.routine_eq _, .cachedByName default⟩
    | byId id => exact ⟨_, _, _, _, _, Lookup.routine_eq _, .cachedById default⟩
  | missed => cases lookup <;> exact ⟨_, _, _, _, _, rfl, .store (freshFrom 0)⟩
  | found => exact ⟨_, _, _, _, _, rfl, .remember default⟩

end

end Caching

end MessageBus
