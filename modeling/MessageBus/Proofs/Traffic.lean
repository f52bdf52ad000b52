import MessageBus.Proofs.Caching
import MessageBus.Proofs.Handling
import MessageBus.Publisher
import MessageBus.Worker.Poll

/-! The whole of a bus at work. Any number of publications, polls and look-ups go on over one store,
each with one of the caches before it, and between any two of their requests other parties may call
the store and drop names from the caches. Every cache is backed by the store at all times, so that
whatever a task has been told about message types holds. -/
namespace MessageBus

def Request.isRemember {η : Type} : Request η → Bool
  | .remember _ => true
  | _ => false

theorem Request.isInner_of_isRemember {η : Type} (request : Request η)
    (h : request.isRemember = true) : request.isInner = true := by
  cases request with
  | remember => rfl
  | _ => cases h

/-- Whether a request is for the cache. -/
def Request.isCached {η : Type} : Request η → Bool
  | .cachedByName _ | .cachedById _ | .remember _ => true
  | _ => false

/-- A request that is made neither of the store nor of the cache. -/
def Request.isElsewhere {η : Type} : Request η → Bool
  | .store _ | .attempt _ | .cachedByName _ | .cachedById _ | .remember _ => false
  | _ => true

theorem Request.isCached_of_isElsewhere {η : Type} (request : Request η)
    (h : request.isElsewhere = true) : request.isCached = false := by
  cases request with
  | cachedByName | cachedById | remember => cases h
  | _ => rfl

theorem Request.outside_of_isElsewhere {η : Type} (request : Request η)
    (h : request.isElsewhere = true) (call : Store.Call) :
    request ≠ .store call ∧ request ≠ .attempt call := by
  constructor <;>
  · rintro rfl
    cases h

namespace Traffic
open Store Routine

/-- What is begun on a bus whose workers are named by `ι`. -/
inductive Activity (ι : Type) where
  | publish (self : Publisher.Identity) (payload : Payload) (publication : Publication)
  | publishTo (self : Publisher.Identity) (payload : Payload) (targets : List QueueRef)
  | poll (i : ι)
  | lookUp (lookup : Lookup)

variable {κ ι η : Type}

abbrev Activity.Result : Activity ι → Type
  | publish .. | publishTo .. => Except StoreError PublishReceipt
  | poll _ => Except StoreError PollOutcome
  | lookUp _ => Except StoreError MessageType

def Activity.routine (workers : ι → Worker η) : (a : Activity ι) → Routine η a.Result
  | publish self payload publication => (self.publish payload publication).run
  | publishTo self payload targets => (self.publishTo payload targets).run
  | poll i => (workers i).runOnce.run
  | lookUp lookup => lookup.routine

/-- The answer to a request, with the calls that it takes and the cache afterwards. -/
inductive Served : (request : Request η) → Store → Cache → List Step → request.Answer → Cache → Prop
  | cachedByName {name s c} (now : Instant) :
      Served (.cachedByName name) s c [] (c.lookupName name now).1 (c.lookupName name now).2
  | cachedById {id s c} (now : Instant) :
      Served (.cachedById id) s c [] (c.lookupId id now).1 (c.lookupId id now).2
  | remember {row s c} (now : Instant) : Served (.remember row) s c [] () (c.remember row now)
  | uncached {request s c steps answer} (outside : request.isCached = false)
      (answered : Answered request s steps answer) : Served request s c steps answer c

theorem Served.answered {request : Request η} {s : Store} {c d : Cache} {steps : List Step}
    {answer : request.Answer} (h : Served request s c steps answer d) :
    Answered request s steps answer := by
  cases h with
  | cachedByName | cachedById | remember =>
    refine .elsewhere (fun _ => ?_) _
    exact ⟨nofun, nofun⟩
  | uncached _ answered => exact answered

/-- Something that was begun: the cache before it, the calls of the store before that, all that has
happened since, and what is left of it. -/
structure Task (κ ι η : Type) where
  activity : Activity ι
  cache : κ
  past : List Step
  moves : List (Move η)
  left : Routine η activity.Result

namespace Task

/-- Calls that others make. -/
def sees (steps : List Step) (t : Task κ ι η) : Task κ ι η :=
  { t with moves := t.moves ++ steps.map .other }

/-- An answer to the task. -/
def goesOn (t : Task κ ι η) (request : Request η) (steps : List Step) (answer : request.Answer)
    (left : Routine η t.activity.Result) : Task κ ι η :=
  { t with moves := t.moves ++ [.own request steps answer], left }

end Task

/-- The calls that the store has taken, the caches, what the workers have counted, and all tasks,
also those that are over or broken off. -/
structure World (κ ι η : Type) where
  steps : List Step
  caches : κ → Cache
  stats : ι → WorkerStats
  tasks : List (Task κ ι η)

def World.store (w : World κ ι η) : Store := run .empty w.steps

/-- The poll of a worker that is over is counted. -/
def counting [DecidableEq ι] (stats : ι → WorkerStats) :
    Activity ι → Request η → ι → WorkerStats
  | .poll i, .tally outcome => Function.update stats i ((stats i).tally outcome)
  | _, _ => stats

section
variable {workers : ι → Worker η}

/-- A task has come so far in a store with these calls. -/
structure Task.Follows (workers : ι → Worker η) (steps : List Step) (t : Task κ ι η) : Prop where
  steps : steps = t.past ++ stepsOf t.moves
  reaches : Reaches (t.activity.routine workers) (run .empty t.past) t.moves t.left

theorem Task.Follows.begun (activity : Activity ι) (k : κ) (steps : List Step) :
    Task.Follows workers steps ⟨activity, k, steps, [], activity.routine workers⟩ where
  steps := (List.append_nil steps).symm
  reaches := .here

theorem Task.Follows.sees {steps : List Step} {t : Task κ ι η} (h : t.Follows workers steps)
    (more : List Step) : (t.sees more).Follows workers (steps ++ more) where
  steps := by
    rw [h.steps, Task.sees, stepsOf_append, stepsOf_others, List.append_assoc]
  reaches := h.reaches.trans (.others _ _ more)

theorem Task.Follows.goesOn {steps more : List Step} {t : Task κ ι η} (h : t.Follows workers steps)
    {request : Request η} {next : request.Answer → Routine η t.activity.Result}
    {answer : request.Answer} (asks : t.left = Program.ask request next)
    (answered : Answered request (run .empty steps) more answer) :
    (t.goesOn request more answer (next answer)).Follows workers (steps ++ more) where
  steps := by
    rw [h.steps, Task.goesOn, stepsOf_append, stepsOf_cons, stepsOf_nil, List.append_nil,
      List.append_assoc]
    rfl
  reaches := by
    have reaches := h.reaches
    rw [asks] at reaches
    rw [h.steps, run_append] at answered
    exact reaches.trans (.own answered .here)

end

variable [DecidableEq κ] [DecidableEq ι]

/-- One thing that happens: a call of another party, of a kind that these may make, a drop of cached
names, the begin of a task, or an answer to one. -/
inductive Proceeds (workers : ι → Worker η) (others : Call → Prop) :
    World κ ι η → World κ ι η → Prop
  | call {w} (step : Step) (kind : others step.call) : Proceeds workers others w
      { w with steps := w.steps ++ [step], tasks := w.tasks.map (Task.sees [step]) }
  | invalidate {w} (k : κ) (name : String) : Proceeds workers others w
      { w with caches := Function.update w.caches k ((w.caches k).invalidate name) }
  | clear {w} (k : κ) : Proceeds workers others w
      { w with caches := Function.update w.caches k (w.caches k).clear }
  | begins {w} (activity : Activity ι) (k : κ) : Proceeds workers others w
      { w with tasks := w.tasks ++ [⟨activity, k, w.steps, [], activity.routine workers⟩] }
  | answers {w before t after request next steps answer c} (among : w.tasks = before ++ t :: after)
      (asks : t.left = Program.ask request next)
      (served : Served request w.store (w.caches t.cache) steps answer c) :
      Proceeds workers others w {
        steps := w.steps ++ steps
        caches := Function.update w.caches t.cache c
        stats := counting w.stats t.activity request
        tasks := before.map (Task.sees steps) ++ t.goesOn request steps answer (next answer) ::
          after.map (Task.sees steps) }

/-- What can come of an empty store and new caches. -/
inductive Reached (workers : ι → Worker η) (others : Call → Prop) : World κ ι η → Prop
  | new (settings : κ → CacheSettings) :
      Reached workers others ⟨[], fun k => .empty (settings k), fun _ => .zero, []⟩
  | next {w v} (reached : Reached workers others w) (proceeds : Proceeds workers others w v) :
      Reached workers others v

section
variable {workers : ι → Worker η} {others : Call → Prop} {w v : World κ ι η}

/-- Where a task comes from. -/
inductive Comes (workers : ι → Worker η) (w v : World κ ι η) : Task κ ι η → Prop
  | seen {t steps} (mem : t ∈ w.tasks) (calls : v.steps = w.steps ++ steps) :
      Comes workers w v (t.sees steps)
  | begun (activity : Activity ι) (k : κ) (calls : v.steps = w.steps) :
      Comes workers w v ⟨activity, k, w.steps, [], activity.routine workers⟩
  | went {t request next steps answer c} (mem : t ∈ w.tasks) (calls : v.steps = w.steps ++ steps)
      (asks : t.left = Program.ask request next)
      (served : Served request w.store (w.caches t.cache) steps answer c) :
      Comes workers w v (t.goesOn request steps answer (next answer))

theorem Proceeds.comes (h : Proceeds workers others w v) : ∀ t ∈ v.tasks, Comes workers w v t := by
  intro t mem
  have still (mem : t ∈ w.tasks) (same : v.steps = w.steps) : Comes workers w v t := by
    have seen : Comes workers w v (t.sees []) := .seen mem (same.trans (List.append_nil _).symm)
    rwa [Task.sees, List.map_nil, List.append_nil] at seen
  cases h with
  | call step =>
    obtain ⟨u, was, rfl⟩ := List.mem_map.1 mem
    exact .seen was rfl
  | invalidate | clear => exact still mem rfl
  | begins activity k =>
    rcases List.mem_append.1 mem with mem | mem
    · exact still mem rfl
    · cases List.mem_singleton.1 mem
      exact .begun activity k rfl
  | @answers before u after _ _ steps _ _ among asks served =>
    rcases Caching.middle_or_mem mem with rfl | mem
    · exact .went (among ▸ Caching.mem_middle _ _ _) rfl asks served
    · rw [← List.map_append] at mem
      obtain ⟨u, was, rfl⟩ := List.mem_map.1 mem
      exact .seen (among ▸ Caching.mem_of_middle was) rfl

/-- Every task has run its routine since it was begun. -/
theorem Reached.follows (reached : Reached workers others w) :
    ∀ t ∈ w.tasks, t.Follows workers w.steps := by
  induction reached with
  | new =>
    intro t mem
    cases mem
  | next _ proceeds ih =>
    intro t mem
    cases proceeds.comes t mem with
    | seen was calls =>
      rw [calls]
      exact (ih _ was).sees _
    | begun activity k calls =>
      rw [calls]
      exact .begun activity k _
    | went was calls asks served =>
      rw [calls]
      exact (ih _ was).goesOn asks served.answered

end

/-! What tasks are told about message types. -/

omit [DecidableEq κ] [DecidableEq ι]

/-- The answer to a request tells which row the store has for a look-up. -/
inductive Tells : (request : Request η) → request.Answer → Lookup → MessageType → Prop
  | cachedByName {name row} : Tells (.cachedByName name) (some row) (.byName name) row
  | cachedById {id row} : Tells (.cachedById id) (some row) (.byId id) row
  | loadedByName {name row} :
      Tells (.store (.messageTypeByName name)) (.ok (some row)) (.byName name) row
  | loadedById {id row} : Tells (.store (.messageTypeById id)) (.ok (some row)) (.byId id) row

/-- The routine has no row remembered but those it knows and those that it is told of. -/
def Vouched {α : Type} : (known : MessageType → Prop) → Routine η α → Prop
  | _, Program.done _ => True
  | known, Program.ask request next => (∀ row, request = .remember row → known row) ∧
      ∀ answer, Vouched (fun row => known row ∨ ∃ lookup, Tells request answer lookup row)
        (next answer)

namespace Vouched
variable {α β : Type} {known more : MessageType → Prop}

theorem mono {routine : Routine η α} (h : Vouched known routine) (le : ∀ row, known row → more row) :
    Vouched more routine := by
  induction routine generalizing known more with
  | done a => trivial
  | ask request next ih =>
    exact ⟨fun row same => le row (h.1 row same), fun answer =>
      ih answer (h.2 answer) fun row => Or.imp_left (le row)⟩

theorem of_avoids {routine : Routine η α} (h : Avoids Request.isRemember routine) :
    Vouched known routine := by
  induction routine generalizing known with
  | done a => trivial
  | ask request next ih =>
    refine ⟨fun row same => ?_, fun answer => ih answer (h.2 answer)⟩
    have quiet := h.1
    rw [same] at quiet
    cases quiet

theorem andThen {routine : Routine η β} {f : β → Routine η α} (h : Vouched known routine)
    (k : ∀ b, Vouched (fun _ => False) (f b)) : Vouched known (routine.andThen f) := by
  induction routine generalizing known with
  | done b => exact (k b).mono fun _ => False.elim
  | ask request next ih => exact ⟨h.1, fun answer => ih answer (h.2 answer)⟩

theorem bind {routine : StoreRoutine η β} {f : β → StoreRoutine η α}
    (h : Vouched known routine.run) (k : ∀ b, Vouched (fun _ => False) (f b).run) :
    Vouched known (routine >>= f).run := by
  refine andThen h fun b => ?_
  cases b with
  | ok b => exact k b
  | error e => trivial

end Vouched

theorem vouched_remembering {known : MessageType → Prop} {row : MessageType} (h : known row) :
    Vouched known (Lookup.remembering row : Routine η _) := by
  refine ⟨fun other same => ?_, fun _ => trivial⟩
  cases same
  exact h

theorem vouched_loading (known : MessageType → Prop) (lookup : Lookup) :
    Vouched known (lookup.loading : Routine η _) := by
  cases lookup with
  | byName _ | byId _ =>
    refine ⟨nofun, ?_⟩
    rintro (e | (_ | row))
    · trivial
    · trivial
    · exact vouched_remembering (.inr ⟨_, by constructor⟩)

theorem vouched_lookup (lookup : Lookup) :
    Vouched (fun _ => False) (lookup.routine : Routine η _) := by
  have answered (known : MessageType → Prop) (hit : Option MessageType) :
      Vouched known (lookup.proceeding hit : Routine η _) := by
    cases hit with
    | some row => trivial
    | none => exact vouched_loading known lookup
  rw [Lookup.routine_eq]
  cases lookup <;> exact ⟨nofun, fun hit => answered _ hit⟩

theorem vouched_dispatch (w : Worker η) (raw : RawDelivery) :
    Vouched (fun _ => False) (w.dispatch raw) := by
  unfold Worker.dispatch
  split
  · trivial
  · refine Vouched.of_avoids (.andThen (.ask rfl) fun answer => ?_)
    cases answer with
    | ok result => trivial
    | error panic => trivial

theorem vouched_handling (w : Worker η) (d : Delivery) :
    Vouched (fun _ => False) (w.handling d).run := by
  refine .bind (vouched_lookup (.byId _)) fun row => ?_
  refine .bind (.of_avoids (.lift (.ask rfl))) fun pulse => ?_
  rw [run_lift_bind]
  exact .andThen (vouched_dispatch w _) fun _ => trivial

theorem vouched_runOnce (w : Worker η) : Vouched (fun _ => False) w.runOnce.run := by
  have quiet {α : Type} {routine : Routine η α} (h : Avoids Request.isInner routine) :
      Vouched (fun _ => False) routine := .of_avoids (h.mono Request.isInner_of_isRemember)
  rw [Worker.runOnce_eq_selecting]
  refine .bind (quiet w.selecting_avoids_inner) fun (now, candidate?) => ?_
  cases candidate? with
  | none => exact quiet (Worker.finishing_avoids_inner _)
  | some candidate =>
    refine .bind (.of_avoids (.ask rfl)) fun claim => ?_
    cases claim with
    | empty => exact quiet (Worker.finishing_avoids_inner _)
    | lost ticket => exact quiet (Worker.finishing_avoids_inner _)
    | claimed d =>
      rw [Worker.answering_claimed]
      refine .bind (.bind (vouched_handling w d) fun handled =>
        quiet (Worker.concluding_avoids_inner handled)) fun ready => ?_
      exact .bind (quiet (w.committing_avoids_inner d _ _ _)) fun outcome =>
        quiet (Worker.finishing_avoids_inner outcome)

theorem vouched_message (self : Publisher.Identity) (payload : Payload)
    (publication : Publication) :
    Vouched (fun _ => False) (self.message payload publication : StoreRoutine η Message).run := by
  refine .bind (vouched_lookup (.byName _)) fun row => .of_avoids ?_
  cases self.serializer.encode payload with
  | error e => trivial
  | ok data =>
    cases publication.id with
    | some id => exact .bind trivial fun _ => .bind (.lift (.ask rfl)) fun _ => trivial
    | none =>
      exact .bind (.lift (.ask rfl)) fun _ => .bind (.lift (.ask rfl)) fun _ => trivial

theorem vouched_routine (workers : ι → Worker η) (activity : Activity ι) :
    Vouched (fun _ => False) (activity.routine workers) := by
  cases activity with
  | publish self payload publication =>
    exact .bind (vouched_message self payload publication) fun message =>
      .of_avoids (.bind (.ask rfl) fun _ => .ask rfl)
  | publishTo self payload targets =>
    exact .bind (vouched_message self payload .plain) fun message => .of_avoids (.ask rfl)
  | poll i => exact vouched_runOnce (workers i)
  | lookUp lookup => exact vouched_lookup lookup

/-- Among the answers to a routine is one that tells of the row. -/
def Told (moves : List (Move η)) (lookup : Lookup) (row : MessageType) : Prop :=
  ∃ request steps answer, .own request steps answer ∈ moves ∧ Tells request answer lookup row

theorem Told.mono {moves more : List (Move η)} {lookup : Lookup} {row : MessageType}
    (h : Told moves lookup row) (le : moves ⊆ more) : Told more lookup row := by
  obtain ⟨request, steps, answer, mem, tells⟩ := h
  exact ⟨request, steps, answer, le mem, tells⟩

theorem Task.told_of_sees {t : Task κ ι η} {steps : List Step} {lookup : Lookup} {row : MessageType}
    (h : Told (t.sees steps).moves lookup row) : Told t.moves lookup row := by
  obtain ⟨request, taken, answer, mem, tells⟩ := h
  rcases List.mem_append.1 mem with mem | mem
  · exact ⟨request, taken, answer, mem, tells⟩
  · obtain ⟨_, -, is⟩ := List.mem_map.1 mem
    cases is

theorem Task.told_goesOn {t : Task κ ι η} {request : Request η} {steps : List Step}
    {answer : request.Answer} {left : Routine η t.activity.Result} {lookup : Lookup}
    {row : MessageType} :
    Told (t.goesOn request steps answer left).moves lookup row ↔
      Told t.moves lookup row ∨ Tells request answer lookup row := by
  constructor
  · rintro ⟨asked, taken, answered, mem, tells⟩
    rcases List.mem_append.1 mem with mem | mem
    · exact .inl ⟨asked, taken, answered, mem, tells⟩
    · cases List.mem_singleton.1 mem
      exact .inr tells
  · rintro (told | tells)
    · exact told.mono (List.subset_append_left _ _)
    · exact ⟨request, steps, answer, List.mem_append_right _ List.mem_cons_self, tells⟩

section
variable {s : Store} {c d : Cache} {request : Request η} {steps : List Step}
  {answer : request.Answer}

theorem Served.tells (served : Served request s c steps answer d) (identified : Identified s)
    (backed : c.Backed s) {lookup : Lookup} {row : MessageType}
    (tells : Tells request answer lookup row) : lookup.direct s = .ok row := by
  cases served with
  | @cachedByName name _ _ now =>
    have hit : ∀ row, (c.lookupName name now).1 = some row →
        (Lookup.byName name).direct s = .ok row := by
      have cached : (Lookup.byName name).cached c now = c.lookupName name now := rfl
      exact (Caching.cached_of_backed identified backed cached).2
    generalize (c.lookupName name now).1 = found at tells hit
    cases tells
    exact hit row rfl
  | @cachedById id _ _ now =>
    have hit : ∀ row, (c.lookupId id now).1 = some row → (Lookup.byId id).direct s = .ok row := by
      have cached : (Lookup.byId id).cached c now = c.lookupId id now := rfl
      exact (Caching.cached_of_backed identified backed cached).2
    generalize (c.lookupId id now).1 = found at tells hit
    cases tells
    exact hit row rfl
  | remember => cases tells
  | uncached outside answered =>
    cases tells with
    | cachedByName | cachedById => cases outside
    | @loadedByName name =>
      obtain ⟨fresh, -, is⟩ := answered.of_store
      have found : Except.ok (some row) = Except.ok (s.messageTypeByName? name) := is
      exact messageTypeNamed_eq_ok_iff.2 (Except.ok.inj found).symm
    | @loadedById id =>
      obtain ⟨fresh, -, is⟩ := answered.of_store
      have found : Except.ok (some row) = Except.ok (s.messageTypes.get? id) := is
      exact require_eq_ok_iff.2 (Except.ok.inj found).symm

theorem Served.backed (served : Served request s c steps answer d) (backed : c.Backed s)
    (remembers : ∀ row, request = .remember row → s.messageTypes.get? row.id = some row) :
    d.Backed s := by
  cases served with
  | cachedByName now => exact backed.lookupName _ now
  | cachedById now => exact backed.lookupId _ now
  | remember now => exact backed.remember (remembers _ rfl) now
  | uncached => exact backed

end

/-- All caches are backed by the store, and what tasks have been told holds. -/
structure Honest (w : World κ ι η) : Prop where
  identified : Identified w.store
  backed : ∀ k, (w.caches k).Backed w.store
  told : ∀ t ∈ w.tasks, ∀ lookup row, Told t.moves lookup row → lookup.direct w.store = .ok row

section
variable [DecidableEq κ] [DecidableEq ι] {workers : ι → Worker η} {others : Call → Prop}
  {w v : World κ ι η}

/-- A task has nothing remembered but what it was told. -/
theorem Reached.vouched (reached : Reached workers others w) :
    ∀ t ∈ w.tasks, Vouched (fun row => ∃ lookup, Told t.moves lookup row) t.left := by
  induction reached with
  | new =>
    intro t mem
    cases mem
  | next _ proceeds ih =>
    intro t mem
    cases proceeds.comes t mem with
    | seen was =>
      exact (ih _ was).mono fun row ⟨lookup, told⟩ =>
        ⟨lookup, told.mono (List.subset_append_left _ _)⟩
    | begun activity => exact (vouched_routine workers activity).mono fun _ => False.elim
    | went was _ asks =>
      have known := ih _ was
      rw [asks] at known
      refine (known.2 _).mono fun row => ?_
      rintro (⟨lookup, told⟩ | ⟨lookup, tells⟩)
      · exact ⟨lookup, Task.told_goesOn.2 (.inl told)⟩
      · exact ⟨lookup, Task.told_goesOn.2 (.inr tells)⟩

theorem Proceeds.steps (h : Proceeds workers others w v) : ∃ steps, v.steps = w.steps ++ steps := by
  cases h with
  | call step => exact ⟨[step], rfl⟩
  | invalidate | clear | begins => exact ⟨[], (List.append_nil _).symm⟩
  | @answers _ _ _ _ _ steps => exact ⟨steps, rfl⟩

theorem Proceeds.continues (h : Proceeds workers others w v) : Continues w.store v.store := by
  obtain ⟨steps, is⟩ := h.steps
  have whole : v.store = w.store.run steps := by rw [World.store, is, run_append]; rfl
  rw [whole]
  exact .run (identified_run w.steps) steps

/-- A step puts nothing into a cache that is not in the store. -/
theorem Honest.backed_after (h : Honest w) (proceeds : Proceeds workers others w v)
    (vouched : ∀ t ∈ w.tasks, Vouched (fun row => ∃ lookup, Told t.moves lookup row) t.left)
    (k : κ) : (v.caches k).Backed v.store := by
  have keeps := proceeds.continues.keeps.messageTypes
  have stays k : (w.caches k).Backed v.store := (h.backed k).stays keeps
  have updated {k : κ} {c : Cache} (fits : c.Backed v.store) (j : κ) :
      (Function.update w.caches k c j).Backed v.store := by
    rw [Function.update_apply]
    split
    · exact fits
    · exact stays j
  cases proceeds with
  | call | begins => exact stays k
  | invalidate other name => exact updated ((stays other).invalidate name) k
  | clear => exact updated (.of_empty rfl rfl) k
  | @answers before t after request next steps answer c among asks served =>
    -- A row is remembered only where the task was told of it.
    refine updated ((served.backed (h.backed _) fun row same => ?_).stays keeps) k
    have mem : t ∈ w.tasks := among ▸ Caching.mem_middle _ _ _
    have vouched := vouched t mem
    rw [asks] at vouched
    obtain ⟨lookup, told⟩ := vouched.1 row same
    exact Caching.stored_of_direct h.identified (h.told t mem lookup row told)

/-- What a task is told at a step holds, and so does all that was told before. -/
theorem Honest.told_after (h : Honest w) (proceeds : Proceeds workers others w v)
    {t : Task κ ι η} (mem : t ∈ v.tasks) {lookup : Lookup} {row : MessageType}
    (told : Told t.moves lookup row) : lookup.direct v.store = .ok row := by
  have continues := proceeds.continues
  refine Caching.direct_stays h.identified continues.identified continues.keeps.messageTypes ?_
  cases proceeds.comes t mem with
  | seen was => exact h.told _ was lookup row (Task.told_of_sees told)
  | begun =>
    obtain ⟨_, _, _, mem, -⟩ := told
    cases mem
  | went was _ _ served =>
    rcases Task.told_goesOn.1 told with earlier | tells
    · exact h.told _ was lookup row earlier
    · exact served.tells h.identified (h.backed _) tells

theorem Reached.honest (reached : Reached workers others w) : Honest w := by
  induction reached with
  | new settings =>
    refine ⟨identified_run [], fun k => .of_empty rfl rfl, ?_⟩
    intro t mem
    cases mem
  | next reached proceeds ih =>
    exact ⟨proceeds.continues.identified, ih.backed_after proceeds reached.vouched,
      fun t mem lookup row => ih.told_after proceeds mem⟩

end

/-! A task that nobody disturbs. -/

theorem Served.byName_of {name : String} {s : Store} {c d : Cache} {answer : Option MessageType}
    (now : Instant) (is : c.lookupName name now = (answer, d)) :
    Served (.cachedByName name : Request η) s c [] answer d := by
  cases is
  exact .cachedByName now

theorem Served.byId_of {id : MessageTypeId} {s : Store} {c d : Cache} {answer : Option MessageType}
    (now : Instant) (is : c.lookupId id now = (answer, d)) :
    Served (.cachedById id : Request η) s c [] answer d := by
  cases is
  exact .cachedById now

/-- The routine comes so far with a cache before it, and nothing else happens meanwhile. -/
inductive Attended {α : Type} :
    Routine η α → Store → Cache → List (Move η) → Cache → Routine η α → Prop
  | here {routine s c} : Attended routine s c [] c routine
  | own {request answer next left s c d e steps moves} (served : Served request s c steps answer d)
      (rest : Attended (next answer) (s.run steps) d moves e left) :
      Attended (Program.ask request next) s c (.own request steps answer :: moves) e left

/-- What is neither asked of the store nor of the cache has any answer. -/
theorem Attended.elsewhere {α : Type} {request : Request η} {answer : request.Answer}
    {next : request.Answer → Routine η α} {left : Routine η α} {s : Store} {c d : Cache}
    {moves : List (Move η)} (outside : request.isElsewhere = true)
    (rest : Attended (next answer) s c moves d left) :
    Attended (Program.ask request next) s c (.own request [] answer :: moves) d left :=
  .own (.uncached (request.isCached_of_isElsewhere outside)
    (.elsewhere (request.outside_of_isElsewhere outside) answer)) rest

theorem Task.sees_nil (t : Task κ ι η) : t.sees [] = t := by
  rw [sees, List.map_nil, List.append_nil]

theorem Task.sees_sees (t : Task κ ι η) (first more : List Step) :
    (t.sees first).sees more = t.sees (first ++ more) := by
  simp [sees]

theorem map_sees_sees (tasks : List (Task κ ι η)) (first more : List Step) :
    (tasks.map (Task.sees first)).map (Task.sees more) = tasks.map (Task.sees (first ++ more)) := by
  rw [List.map_map]
  exact List.map_congr_left fun t _ => t.sees_sees first more

section
variable [DecidableEq κ] [DecidableEq ι] {workers : ι → Worker η} {others : Call → Prop}
  {w : World κ ι η}

theorem Reached.calls (reached : Reached workers others w) {steps : List Step}
    (kind : ∀ step ∈ steps, others step.call) : Reached workers others
      { w with steps := w.steps ++ steps, tasks := w.tasks.map (Task.sees steps) } := by
  induction steps generalizing w with
  | nil =>
    have same : w.tasks.map (Task.sees []) = w.tasks := by
      rw [List.map_congr_left fun t _ => t.sees_nil, List.map_id']
    rw [same, List.append_nil]
    exact reached
  | cons step steps ih =>
    have later := ih (.next reached (.call step (kind step List.mem_cons_self)))
      fun next mem => kind next (List.mem_cons_of_mem _ mem)
    rw [List.append_assoc, map_sees_sees] at later
    exact later

/-- The task that was begun last goes on alone. -/
theorem Reached.attend {activity : Activity ι} {k : κ} {past : List Step}
    {routine left : Routine η activity.Result} {s : Store} {c d : Cache} {moves : List (Move η)}
    (attended : Attended routine s c moves d left) (reached : Reached workers others w)
    {before : List (Task κ ι η)} {sofar : List (Move η)}
    (tasks : w.tasks = before ++ [⟨activity, k, past, sofar, routine⟩]) (store : w.store = s)
    (cache : w.caches k = c) :
    ∃ v, Reached workers others v ∧ v.steps = w.steps ++ stepsOf moves ∧ v.caches k = d ∧
      v.tasks = before.map (Task.sees (stepsOf moves)) ++
        [⟨activity, k, past, sofar ++ moves, left⟩] := by
  induction attended generalizing w before sofar with
  | here =>
    refine ⟨w, reached, (List.append_nil _).symm, cache, ?_⟩
    rw [tasks, stepsOf_nil, List.append_nil, List.map_congr_left fun t _ => t.sees_nil,
      List.map_id']
  | @own request answer next left s c d e steps moves served rest ih =>
    subst store cache
    have next := reached.next (.answers tasks rfl served)
    obtain ⟨v, reached, calls, cache, after⟩ := ih next rfl (run_append _ _ _)
      (Function.update_self _ _ _)
    refine ⟨v, reached, ?_, cache, ?_⟩
    · rw [calls, stepsOf_cons]
      exact List.append_assoc _ _ _
    · rw [after, map_sees_sees, stepsOf_cons]
      simp [Move.steps]

end

end Traffic

/-! A letter: any payload, published to the one queue of a bus and fetched from it by a worker. -/

namespace Traffic
open Store Routine Worker

section
variable (shape : Shape) (value : shape.Value)

def letterType : PayloadType := ⟨"type", "Type", shape, fun _ => none⟩

def letter : Payload := ⟨letterType shape, value⟩

def letterMessage : Message := { oneMessage with data := (shape.encode value).toBytes }

/-- All that is registered and started before. -/
def office : List Step := oneTicket.dropLast ++ [
  ⟨freshFrom 0, .startInstance (.subscriber (.starting ⟨.ofNat 8⟩ ⟨.ofNat 5⟩ ⟨.ofNat 2⟩ default))⟩]

def sender : Publisher.Identity := ⟨⟨.ofNat 3⟩, ⟨.ofNat 6⟩, .json⟩

def letterPublication : Publication := ⟨some ⟨.ofNat 7⟩, none, none, false⟩

def letterQueue : QueueRef := .subscriber ⟨.ofNat 5⟩

def letterReceipt : PublishReceipt := ⟨⟨.ofNat 7⟩, [(letterQueue, ⟨.ofNat 1000⟩)]⟩

/-- It is published with a new cache. -/
def sending : List (Move Unit) := [
  .own (.cachedByName "type") [] none,
  .own (.store (.messageTypeByName "type")) [⟨freshFrom 0, .messageTypeByName "type"⟩]
    (.ok (some clerkType)),
  .own (.remember clerkType) [] (),
  .own .now [] default,
  .own (.store (.resolveTargets ⟨.ofNat 3⟩ ⟨1⟩)) [⟨freshFrom 0, .resolveTargets ⟨.ofNat 3⟩ ⟨1⟩⟩]
    (.ok [letterQueue]),
  .own (.store (.publish (letterMessage shape value) [letterQueue]))
    [⟨freshFrom 1000, .publish (letterMessage shape value) [letterQueue]⟩] (.ok letterReceipt)]

def freshCache : Cache := .empty .default

def filledCache : Cache := (freshCache.lookupName "type" default).2.remember clerkType default

theorem resolveTargets_office :
    (run .empty office).resolveTargets ⟨.ofNat 3⟩ ⟨1⟩ = [letterQueue] := by
  have subscribers : ((run .empty office).subscribers.values.filter fun row =>
      row.scenario == ⟨.ofNat 3⟩ && row.messageType == ⟨1⟩).map Subscriber.id = [⟨.ofNat 5⟩] := by
    decide +kernel
  have jobs : ((run .empty office).jobs.values.filter fun row =>
      row.scenario == ⟨.ofNat 3⟩ && row.messageType == some ⟨1⟩).map Job.id = [] := by
    decide +kernel
  rw [resolveTargets, subscribers, jobs, List.mergeSort_nil, List.mergeSort_singleton]
  rfl

/-- A worker with a handler for letters. -/
def reader : Worker Unit := { clerk with registry := ⟨.json, [(letterType shape, ())]⟩ }

theorem sending_attended (fits : shape.fits value = true) : Attended
    (Activity.routine (fun _ : Unit => reader shape)
      (.publish sender (letter shape value) letterPublication))
    (run .empty office) freshCache (sending shape value) filledCache
    (.done (.ok letterReceipt)) := by
  have composed : sender.serializer.encode (letter shape value) =
      .ok (shape.encode value).toBytes :=
    Serializer.encode_json_eq_ok_iff.2 ⟨rfl, fits, rfl⟩
  rw [Activity.routine, Publisher.Identity.publish, Publisher.Identity.message, composed]
  refine .own (.byName_of default rfl) ?_
  refine .own (.uncached rfl (.store_of (freshFrom 0) rfl)) ?_
  refine .own (.remember default) ?_
  refine .elsewhere rfl ?_
  refine .own (.uncached rfl (.store_of (freshFrom 0) (congrArg Except.ok resolveTargets_office))) ?_
  refine .own (.uncached rfl (.store_of (freshFrom 1000) rfl)) ?_
  exact .here

def mailed : List Step := office ++ stepsOf (sending shape value)

def letterDelivery : Delivery :=
  ⟨ticketAtFirst.claimedBy runner.instanceUuid ⟨.ofNat 2000⟩ default, letterMessage shape value⟩

def letterClaim : Move Unit :=
  .own (.attempt (.tryClaim ticketAtFirst runner clerk.policy.processingTimeout default))
    [clerkClaims] (.ok (.claimed (letterDelivery shape value)))

/-- A poll that claims it and then goes on so. -/
def fetching (moves : List (Move Unit)) : List (Move Unit) :=
  clerkSeeking ++ letterClaim shape value :: moves

def fetched : Store := run .empty (mailed shape value ++ stepsOf (fetching shape value []))

theorem findNext_mailed : ((run .empty (mailed shape value)).after
      ⟨freshFrom 0, .touchInstance runner.ref default⟩).findNext clerk.policy.fifo
      clerk.consumer.queue clerk.config.eligible clerk.policy.processingTimeout default =
      some ticketAtFirst := by
  have live : ((run .empty (mailed shape value)).after
      ⟨freshFrom 0, .touchInstance runner.ref default⟩).liveTickets runner.queue default =
      [⟨ticketAtFirst, letterMessage shape value⟩] :=
    liveTickets_of_unsorted rfl (List.pairwise_singleton _ _)
  change findNextNonFifo _ runner.queue _ _ _ = _
  rw [findNextNonFifo, live]
  rfl

theorem fetching_attended {moves : List (Move Unit)} {d : Cache}
    {left : Routine Unit (Except StoreError PollOutcome)}
    (rest : Attended ((reader shape).answering (.claimed (letterDelivery shape value))).run
      (fetched shape value) filledCache moves d left) :
    Attended (reader shape).runOnce.run (run .empty (mailed shape value)) filledCache
      (fetching shape value moves) d left := by
  refine .elsewhere rfl ?_
  refine .elsewhere rfl ?_
  refine .own (.uncached rfl (.attempt_of (freshFrom 0) rfl)) ?_
  refine .elsewhere rfl ?_
  refine .own (.uncached rfl (.attempt_of (freshFrom 1200)
    (congrArg Except.ok (findNext_mailed shape value)))) ?_
  refine .own (.uncached rfl (.attempt_of (freshFrom 2000) rfl)) ?_
  rw [fetched, run_append] at rest
  exact rest

/-- The publication of the letter, and the calls since. -/
def posting (since : List Step) : Task Unit Unit Unit where
  activity := .publish sender (letter shape value) letterPublication
  cache := ()
  past := office
  moves := sending shape value ++ since.map .other
  left := .done (.ok letterReceipt)

/-- The poll that claims it. -/
def polling (moves : List (Move Unit)) (left : Routine Unit (Except StoreError PollOutcome)) :
    Task Unit Unit Unit where
  activity := .poll ()
  cache := ()
  past := mailed shape value
  moves := fetching shape value moves
  left := left

variable (others : Call → Prop)

/-- A bus on which the letter has been published. -/
theorem reached_mailed (fits : shape.fits value = true) (kind : ∀ step ∈ office, others step.call) :
    ∃ w : World Unit Unit Unit, Reached (fun _ => reader shape) others w ∧
      w.steps = mailed shape value ∧ w.caches () = filledCache ∧
      w.tasks = [posting shape value []] := by
  have new : Reached (fun _ => reader shape) others
      (⟨[], fun _ => freshCache, fun _ => .zero, []⟩ : World Unit Unit Unit) :=
    .new fun _ => .default
  have begun := (new.calls kind).next
    (.begins (.publish sender (letter shape value) letterPublication) ())
  exact begun.attend (sending_attended shape value fits) (List.nil_append _).symm rfl rfl

/-- A bus on which the letter has been published and claimed. -/
theorem reached_fetched (fits : shape.fits value = true)
    (kind : ∀ step ∈ office, others step.call) {moves : List (Move Unit)} {d : Cache}
    {left : Routine Unit (Except StoreError PollOutcome)}
    (rest : Attended ((reader shape).answering (.claimed (letterDelivery shape value))).run
      (fetched shape value) filledCache moves d left) :
    ∃ w : World Unit Unit Unit, Reached (fun _ => reader shape) others w ∧
      w.steps = mailed shape value ++ stepsOf (fetching shape value moves) ∧
      w.tasks = [posting shape value (stepsOf (fetching shape value moves)),
        polling shape value moves left] := by
  obtain ⟨v, reached, steps, cache, tasks⟩ := reached_mailed shape value others fits kind
  have begun := reached.next (.begins (.poll ()) ())
  rw [steps, tasks] at begun
  obtain ⟨w, reached, calls, -, tasks⟩ :=
    begun.attend (fetching_attended shape value rest) rfl rfl cache
  exact ⟨w, reached, calls, tasks⟩

/-! The letter is read. -/

/-- What the handler of letters is given. -/
def letterEnvelope : Envelope :=
  .ofRaw (.ofClaim (letterDelivery shape value) clerkType.name) (letter shape value)

def letterCommits : Step := ⟨freshFrom 3000, .commit runner ticketAtFirst.id ⟨.ofNat 2000⟩
  ⟨.completed, 0, none, none⟩ default⟩

def reading : List (Move Unit) := [
  .own (.cachedById ⟨1⟩) [] (some clerkType),
  .own (.startPulse clerkPulse) [] 0,
  .own (.handle () (letterEnvelope shape value)) [] (.ok ⟨.completed, none⟩),
  .own (.stopPulse 0) [] (),
  .own .now [] default,
  .own .now [] default,
  .own (.store letterCommits.call) [letterCommits] (.ok (.committed ⟨.ofNat 3000⟩)),
  .own (.tally (.processed ticketAtFirst.id .completed true)) [] ()]

theorem reading_attended (decoded :
      Serializer.json.decode (letterType shape) (shape.encode value).toBytes = .ok value) :
    Attended ((reader shape).answering (.claimed (letterDelivery shape value))).run
      (fetched shape value) filledCache (reading shape value)
      (filledCache.lookupId ⟨1⟩ default).2
      (.done (.ok (.processed ticketAtFirst.id .completed true))) := by
  have routed : (reader shape).registry.route
      (.ofClaim (letterDelivery shape value) clerkType.name) = .ok ((), letterEnvelope shape value) :=
    Registry.route_eq_ok_iff.2 ⟨letterType shape, value, rfl, decoded, rfl⟩
  refine .own (.byId_of default rfl) ?_
  refine .elsewhere rfl ?_
  change Attended ((ExceptT.lift ((reader shape).dispatch _) >>= _) >>= finishing).run _ _ _ _ _
  rw [dispatch, routed]
  refine .elsewhere rfl ?_
  refine .elsewhere rfl ?_
  refine .elsewhere rfl ?_
  refine .elsewhere rfl ?_
  refine .own (.uncached rfl (.store_of (freshFrom 3000) rfl)) ?_
  refine .elsewhere rfl ?_
  exact .here

end

end Traffic
end MessageBus
