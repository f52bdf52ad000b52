import MessageBus.Proofs.Run
import MessageBus.Routine

/-! Routines at work on one store with others. Between any two calls of a routine other parties may
make calls of their own; a run of the routine is the list of all calls, its own and theirs, in the
order in which the store takes them. -/
namespace MessageBus.Routine
open Store

variable {η α β : Type}

/-- How a request is answered, and the calls that this takes. What is asked of others than the store
is answered in some way. -/
inductive Answered : (request : Request η) → Store → List Step → request.Answer → Prop
  | store {call s} (fresh : Fresh) :
      Answered (.store call) s [⟨fresh, call⟩] (Step.answer ⟨fresh, call⟩ s)
  | attempt {call s} (fresh : Fresh) :
      Answered (.attempt call) s [⟨fresh, call⟩] (Step.answer ⟨fresh, call⟩ s)
  | givenUp {call s} : Answered (.attempt call) s [] (.error .cancelled)
  | elsewhere {request s} (outside : ∀ call, request ≠ .store call ∧ request ≠ .attempt call)
      (answer : request.Answer) : Answered request s [] answer

theorem Answered.of_store {call : Call} {s : Store} {steps : List Step}
    {answer : Except StoreError call.Answer}
    (h : Answered (.store call : Request η) s steps answer) :
    ∃ fresh, steps = [⟨fresh, call⟩] ∧ answer = Step.answer ⟨fresh, call⟩ s := by
  cases h with
  | store fresh => exact ⟨fresh, rfl, rfl⟩
  | elsewhere outside => exact absurd rfl (outside call).1

theorem Answered.of_attempt {call : Call} {s : Store} {steps : List Step}
    {answer : Except StoreError call.Answer}
    (h : Answered (.attempt call : Request η) s steps answer) :
    (steps = [] ∧ answer = .error .cancelled) ∨
      ∃ fresh, steps = [⟨fresh, call⟩] ∧ answer = Step.answer ⟨fresh, call⟩ s := by
  cases h with
  | attempt fresh => exact .inr ⟨fresh, rfl, rfl⟩
  | givenUp => exact .inl ⟨rfl, rfl⟩
  | elsewhere outside => exact absurd rfl (outside call).2

theorem Answered.of_elsewhere {request : Request η} {s : Store} {steps : List Step}
    {answer : request.Answer} (h : Answered request s steps answer)
    (outside : ∀ call, request ≠ .store call ∧ request ≠ .attempt call) : steps = [] := by
  cases h with
  | store => exact absurd rfl (outside _).1
  | attempt | givenUp => exact absurd rfl (outside _).2
  | elsewhere => rfl

theorem Answered.store_of {call : Call} {s : Store} {answer : Except StoreError call.Answer}
    (fresh : Fresh) (is : Step.answer ⟨fresh, call⟩ s = answer) :
    Answered (.store call : Request η) s [⟨fresh, call⟩] answer := is ▸ .store fresh

theorem Answered.attempt_of {call : Call} {s : Store} {answer : Except StoreError call.Answer}
    (fresh : Fresh) (is : Step.answer ⟨fresh, call⟩ s = answer) :
    Answered (.attempt call : Request η) s [⟨fresh, call⟩] answer := is ▸ .attempt fresh

/-- The routine, begun in a store, ends with a result after the steps. -/
inductive Runs : Routine η α → Store → List Step → α → Prop
  | done {a s} : Runs (.done a) s [] a
  /-- Another party makes a call. -/
  | other {routine s steps a} (step : Step) (rest : Runs routine (s.after step) steps a) :
      Runs routine s (step :: steps) a
  | asked {request answer next s first steps a} (answered : Answered request s first answer)
      (rest : Runs (next answer) (s.run first) steps a) :
      Runs (Program.ask request next) s (first ++ steps) a

/-- A run of one routine and then another is a run of each. -/
theorem Runs.split {routine : Routine η β} {f : β → Routine η α} {s : Store} {steps : List Step}
    {a : α} (h : Runs (routine.andThen f) s steps a) :
    ∃ b first rest, steps = first ++ rest ∧ Runs routine s first b ∧
      Runs (f b) (s.run first) rest a := by
  generalize same : routine.andThen f = whole at h
  induction h generalizing routine with
  | done =>
    cases routine with
    | done b =>
      refine ⟨b, [], [], rfl, .done, ?_⟩
      rw [show f b = _ from same]
      exact .done
    | ask => cases same
  | other step rest ih =>
    obtain ⟨b, first, last, rfl, runs, ends⟩ := ih same
    exact ⟨b, step :: first, last, rfl, .other step runs, ends⟩
  | asked answered rest ih =>
    cases routine with
    | done b =>
      refine ⟨b, [], _, rfl, .done, ?_⟩
      rw [show f b = _ from same]
      exact .asked answered rest
    | ask request next =>
      cases same
      obtain ⟨b, first, last, rfl, runs, ends⟩ := ih rfl
      refine ⟨b, _ ++ first, last, (List.append_assoc _ _ _).symm, .asked answered runs, ?_⟩
      rwa [run_append]

/-- A run that asks once more has the calls of others first, and then the answer. -/
theorem Runs.ask_split {request : Request η} {next : request.Answer → Routine η α} {s : Store}
    {steps : List Step} {a : α} (h : Runs (Program.ask request next) s steps a) :
    ∃ others own rest answer, steps = others ++ own ++ rest ∧
      Answered request (s.run others) own answer ∧
      Runs (next answer) (s.run (others ++ own)) rest a := by
  generalize same : Program.ask request next = whole at h
  induction h with
  | done => cases same
  | other step rest ih =>
    obtain ⟨others, own, last, answer, rfl, answered, ends⟩ := ih same
    exact ⟨step :: others, own, last, answer, rfl, answered, ends⟩
  | asked answered rest =>
    cases same
    exact ⟨[], _, _, _, rfl, answered, rest⟩

theorem Runs.done_eq {a b : α} {s : Store} {steps : List Step}
    (h : Runs (.done a : Routine η α) s steps b) : b = a := by
  generalize same : (.done a : Routine η α) = whole at h
  induction h with
  | done => cases same; rfl
  | other step rest ih => exact ih same
  | asked => cases same

/-- An attempted call is made among the steps, or given up. -/
theorem Runs.attempt_split {call : Call} {s : Store} {steps : List Step}
    {result : Except StoreError call.Answer}
    (h : Runs (ask (.attempt call) : Routine η _) s steps result) :
    result = .error .cancelled ∨ ∃ before fresh later, steps = before ++ ⟨fresh, call⟩ :: later ∧
      result = Step.answer ⟨fresh, call⟩ (s.run before) := by
  unfold ask Program.request at h
  obtain ⟨others, own, rest, answer, rfl, answered, ends⟩ := h.ask_split
  cases ends.done_eq
  rcases answered.of_attempt with ⟨-, rfl⟩ | ⟨fresh, rfl, rfl⟩
  · exact .inl rfl
  · exact .inr ⟨others, fresh, rest, by simp, rfl⟩

/-- What is not asked of the store takes no call. -/
theorem Runs.elsewhere {request : Request η} {next : request.Answer → Routine η α} {s : Store}
    {steps : List Step} {a : α} (answer : request.Answer)
    (outside : ∀ call, request ≠ .store call ∧ request ≠ .attempt call)
    (rest : Runs (next answer) s steps a) : Runs (Program.ask request next) s steps a :=
  .asked (.elsewhere outside answer) rest

/-! Requests that a routine comes to make, and those that it never makes. -/

/-- The routine, begun in a store, makes the request after the steps. -/
inductive Asks (request : Request η) : Routine η α → Store → List Step → Prop
  | here {next s} : Asks request (Program.ask request next) s []
  /-- Another party makes a call. -/
  | other {routine s steps} (step : Step) (rest : Asks request routine (s.after step) steps) :
      Asks request routine s (step :: steps)
  | asked {earlier answer next s first steps} (answered : Answered earlier s first answer)
      (rest : Asks request (next answer) (s.run first) steps) :
      Asks request (Program.ask earlier next) s (first ++ steps)

theorem Asks.elsewhere {wanted request : Request η} {next : request.Answer → Routine η α}
    {s : Store} {steps : List Step} (answer : request.Answer)
    (outside : ∀ call, request ≠ .store call ∧ request ≠ .attempt call)
    (rest : Asks wanted (next answer) s steps) : Asks wanted (Program.ask request next) s steps :=
  .asked (.elsewhere outside answer) rest

/-- A request of one routine and then another is a request of either. -/
theorem Asks.split {request : Request η} {routine : Routine η β} {f : β → Routine η α} {s : Store}
    {steps : List Step} (h : Asks request (routine.andThen f) s steps) :
    Asks request routine s steps ∨ ∃ b first rest, steps = first ++ rest ∧
      Runs routine s first b ∧ Asks request (f b) (s.run first) rest := by
  generalize same : routine.andThen f = whole at h
  induction h generalizing routine with
  | here =>
    cases routine with
    | done b =>
      refine .inr ⟨b, [], [], rfl, .done, ?_⟩
      rw [show f b = _ from same]
      exact .here
    | ask =>
      cases same
      exact .inl .here
  | other step rest ih =>
    rcases ih same with own | ⟨b, first, last, rfl, runs, asks⟩
    · exact .inl (.other step own)
    · exact .inr ⟨b, step :: first, last, rfl, .other step runs, asks⟩
  | asked answered rest ih =>
    cases routine with
    | done b =>
      refine .inr ⟨b, [], _, rfl, .done, ?_⟩
      rw [show f b = _ from same]
      exact .asked answered rest
    | ask earlier next =>
      cases same
      rcases ih rfl with own | ⟨b, first, last, rfl, runs, asks⟩
      · exact .inl (.asked answered own)
      · refine .inr ⟨b, _ ++ first, last, (List.append_assoc _ _ _).symm, .asked answered runs, ?_⟩
        rwa [run_append]

/-- A routine that asks first makes this request, or one after the answer. -/
theorem Asks.ask_split {request earlier : Request η} {next : earlier.Answer → Routine η α}
    {s : Store} {steps : List Step} (h : Asks request (Program.ask earlier next) s steps) :
    request = earlier ∨ ∃ answer s' rest, Asks request (next answer) s' rest := by
  generalize same : Program.ask earlier next = whole at h
  induction h with
  | here =>
    cases same
    exact .inl rfl
  | other step rest ih => exact ih same
  | asked answered rest =>
    cases same
    exact .inr ⟨_, _, _, rest⟩

/-- The routine never makes a request of this kind. -/
def Avoids (kind : Request η → Bool) : Routine η α → Prop
  | Program.done _ => True
  | Program.ask request next => kind request = false ∧ ∀ answer, Avoids kind (next answer)

theorem Asks.not_avoids {kind : Request η → Bool} {routine : Routine η α} {request : Request η}
    {s : Store} {steps : List Step} (h : Asks request routine s steps)
    (same : kind request = true) : ¬ Avoids kind routine := by
  intro avoids
  induction h with
  | here =>
    rw [avoids.1] at same
    cases same
  | other _ _ ih => exact ih avoids
  | asked _ _ ih => exact ih (avoids.2 _)

theorem Avoids.mono {kind other : Request η → Bool}
    (le : ∀ request, other request = true → kind request = true) {routine : Routine η α}
    (h : Avoids kind routine) : Avoids other routine := by
  induction routine with
  | done a => trivial
  | ask request next ih =>
    refine ⟨?_, fun answer => ih answer (h.2 answer)⟩
    cases same : other request with
    | false => rfl
    | true => exact absurd (le request same) (by simp [h.1])

section
variable {kind : Request η → Bool}

theorem Avoids.ask {request : Request η} (h : kind request = false) : Avoids kind (ask request) :=
  ⟨h, fun _ => trivial⟩

theorem Avoids.andThen {routine : Routine η β} {f : β → Routine η α} (h : Avoids kind routine)
    (k : ∀ b, Avoids kind (f b)) : Avoids kind (routine.andThen f) := by
  induction routine with
  | done b => exact k b
  | ask request next ih => exact ⟨h.1, fun answer => ih answer (h.2 answer)⟩

theorem Avoids.bind {routine : StoreRoutine η β} {f : β → StoreRoutine η α}
    (h : Avoids kind routine.run) (k : ∀ b, Avoids kind (f b).run) :
    Avoids kind (routine >>= f).run := by
  refine Avoids.andThen h fun b => ?_
  cases b with
  | ok b => exact k b
  | error e => trivial

theorem Avoids.lift {routine : Routine η α} (h : Avoids kind routine) :
    Avoids kind (ExceptT.lift routine : StoreRoutine η α).run :=
  Avoids.andThen h fun a => show Avoids kind (Program.done (Except.ok a)) from trivial
end

end MessageBus.Routine
