import MessageBus.Proofs.Interleaving

/-! Routines at work, move by move. A run says which calls a store takes; here it is known as well
who makes them, what a routine asks of others than the store, and what is left of it at any time. -/
namespace MessageBus.Routine
open Store

variable {η α β : Type}

/-- What happens while a routine is at work. -/
inductive Move (η : Type) where
  /-- Another party makes a call. -/
  | other (step : Step)
  /-- The routine makes a request, which takes these calls and is answered. -/
  | own (request : Request η) (steps : List Step) (answer : request.Answer)

namespace Move

def steps : Move η → List Step
  | other step => [step]
  | own _ steps _ => steps

def request? : Move η → Option (Request η)
  | other _ => none
  | own request _ _ => some request

end Move

/-- The calls that a store takes in some moves. -/
def stepsOf (moves : List (Move η)) : List Step := moves.flatMap Move.steps

/-- The requests that the routine makes in some moves. -/
def requestsOf (moves : List (Move η)) : List (Request η) := moves.filterMap Move.request?

@[simp] theorem stepsOf_nil : stepsOf ([] : List (Move η)) = [] := rfl

@[simp] theorem stepsOf_cons (move : Move η) (moves : List (Move η)) :
    stepsOf (move :: moves) = move.steps ++ stepsOf moves := List.flatMap_cons

@[simp] theorem stepsOf_append (xs ys : List (Move η)) :
    stepsOf (xs ++ ys) = stepsOf xs ++ stepsOf ys := List.flatMap_append

@[simp] theorem stepsOf_others (steps : List Step) :
    stepsOf (steps.map Move.other : List (Move η)) = steps := by
  induction steps with
  | nil => rfl
  | cons step steps ih => rw [List.map_cons, stepsOf_cons, ih]; rfl

@[simp] theorem requestsOf_nil : requestsOf ([] : List (Move η)) = [] := rfl

@[simp] theorem requestsOf_other (step : Step) (moves : List (Move η)) :
    requestsOf (.other step :: moves) = requestsOf moves := rfl

@[simp] theorem requestsOf_own (request : Request η) (steps : List Step) (answer : request.Answer)
    (moves : List (Move η)) :
    requestsOf (.own request steps answer :: moves) = request :: requestsOf moves := rfl

@[simp] theorem requestsOf_append (xs ys : List (Move η)) :
    requestsOf (xs ++ ys) = requestsOf xs ++ requestsOf ys := List.filterMap_append

@[simp] theorem requestsOf_others (steps : List Step) :
    requestsOf (steps.map Move.other : List (Move η)) = [] := by
  induction steps with
  | nil => rfl
  | cons step steps ih => exact ih

/-- The routine, begun in a store, has come so far after the moves. -/
inductive Reaches : Routine η α → Store → List (Move η) → Routine η α → Prop
  | here {routine s} : Reaches routine s [] routine
  | other {routine left s moves} (step : Step) (rest : Reaches routine (s.after step) moves left) :
      Reaches routine s (.other step :: moves) left
  | own {request answer next left s steps moves} (answered : Answered request s steps answer)
      (rest : Reaches (next answer) (s.run steps) moves left) :
      Reaches (Program.ask request next) s (.own request steps answer :: moves) left

namespace Reaches
variable {s : Store} {moves : List (Move η)}

/-- A routine that has come to its end has run. -/
theorem runs {routine : Routine η α} {a : α} (h : Reaches routine s moves (.done a)) :
    Runs routine s (stepsOf moves) a := by
  generalize same : (.done a : Routine η α) = left at h
  induction h with
  | here =>
    subst same
    exact .done
  | other step _ ih => exact .other step (ih same)
  | own answered _ ih => exact .asked answered (ih same)

/-- What is not asked of the store takes no call. -/
theorem elsewhere {request : Request η} {next : request.Answer → Routine η α} {left : Routine η α}
    {answer : request.Answer} (outside : ∀ call, request ≠ .store call ∧ request ≠ .attempt call)
    (rest : Reaches (next answer) s moves left) :
    Reaches (Program.ask request next) s (.own request [] answer :: moves) left :=
  .own (.elsewhere outside answer) rest

theorem others (routine : Routine η α) (s : Store) (steps : List Step) :
    Reaches routine s (steps.map .other) routine := by
  induction steps generalizing s with
  | nil => exact .here
  | cons step steps ih => exact .other step (ih _)

theorem trans {routine middle left : Routine η α} {more : List (Move η)}
    (h : Reaches routine s moves middle) (k : Reaches middle (s.run (stepsOf moves)) more left) :
    Reaches routine s (moves ++ more) left := by
  induction h with
  | here => exact k
  | other step _ ih => exact .other step (ih k)
  | own answered _ ih =>
    rw [stepsOf_cons, run_append] at k
    exact .own answered (ih k)

/-- What one routine and then another comes to: something of the first, or of the second once the
first is done. -/
theorem split {routine : Routine η β} {f : β → Routine η α} {left : Routine η α}
    (h : Reaches (routine.andThen f) s moves left) :
    (∃ request next, left = Program.ask request (fun answer => (next answer).andThen f) ∧
      Reaches routine s moves (Program.ask request next)) ∨
    ∃ b first rest, moves = first ++ rest ∧ Reaches routine s first (.done b) ∧
      Reaches (f b) (s.run (stepsOf first)) rest left := by
  -- The induction is on the moves; an answer changes what is left of the first routine.
  generalize same : routine.andThen f = whole at h
  induction h generalizing routine with
  | here =>
    cases routine with
    | done b =>
      refine .inr ⟨b, [], [], rfl, .here, ?_⟩
      rw [show f b = _ from same]
      exact .here
    | ask request next => exact .inl ⟨request, next, same.symm, .here⟩
  | other step _ ih =>
    rcases ih same with ⟨request, next, is, early⟩ | ⟨b, first, rest, rfl, ends, late⟩
    · exact .inl ⟨request, next, is, .other step early⟩
    · exact .inr ⟨b, .other step :: first, rest, rfl, .other step ends, late⟩
  | own answered later ih =>
    cases routine with
    | done b =>
      refine .inr ⟨b, [], _, rfl, .here, ?_⟩
      rw [show f b = _ from same]
      exact .own answered later
    | ask request next =>
      cases same
      rcases ih rfl with ⟨request, next, is, early⟩ | ⟨b, first, rest, rfl, ends, late⟩
      · exact .inl ⟨request, next, is, .own answered early⟩
      · refine .inr ⟨b, .own _ _ _ :: first, rest, rfl, .own answered ends, ?_⟩
        rwa [stepsOf_cons, run_append]

/-- A sequence that is done was done with its first part. -/
theorem split_done {routine : Routine η β} {f : β → Routine η α} {a : α}
    (h : Reaches (routine.andThen f) s moves (.done a)) :
    ∃ b first rest, moves = first ++ rest ∧ Reaches routine s first (.done b) ∧
      Reaches (f b) (s.run (stepsOf first)) rest (.done a) := by
  rcases h.split with ⟨request, next, is, -⟩ | late
  · cases is
  · exact late

theorem split_lift {routine : Routine η β} {f : β → StoreRoutine η α} {a : Except StoreError α}
    (h : Reaches (ExceptT.lift routine >>= f).run s moves (.done a)) :
    ∃ b first rest, moves = first ++ rest ∧ Reaches routine s first (.done b) ∧
      Reaches (f b).run (s.run (stepsOf first)) rest (.done a) := by
  have flat : (ExceptT.lift routine >>= f).run = routine.andThen fun b => (f b).run :=
    Program.andThen_assoc routine _ _
  rw [flat] at h
  exact h.split_done

/-- A routine that asks first has only seen calls of others, or was answered after them. -/
theorem ask_split {request : Request η} {next : request.Answer → Routine η α} {left : Routine η α}
    (h : Reaches (Program.ask request next) s moves left) :
    (∃ others : List Step, moves = others.map .other ∧ left = Program.ask request next) ∨
    ∃ (others own : List Step) (answer : request.Answer) (rest : List (Move η)),
      moves = others.map .other ++ .own request own answer :: rest ∧
      Answered request (s.run others) own answer ∧
      Reaches (next answer) (s.run (others ++ own)) rest left := by
  generalize same : Program.ask request next = whole at h
  induction h with
  | here => exact .inl ⟨[], rfl, rfl⟩
  | other step _ ih =>
    rcases ih same with ⟨others, rfl, is⟩ | ⟨others, own, answer, rest, rfl, answered, later⟩
    · exact .inl ⟨step :: others, rfl, is⟩
    · exact .inr ⟨step :: others, own, answer, rest, rfl, answered, later⟩
  | own answered rest =>
    cases same
    exact .inr ⟨[], _, _, _, rfl, answered, rest⟩

theorem ask_done {request : Request η} {next : request.Answer → Routine η α} {a : α}
    (h : Reaches (Program.ask request next) s moves (.done a)) :
    ∃ (others own : List Step) (answer : request.Answer) (rest : List (Move η)),
      moves = others.map .other ++ .own request own answer :: rest ∧
      Answered request (s.run others) own answer ∧
      Reaches (next answer) (s.run (others ++ own)) rest (.done a) := by
  rcases h.ask_split with ⟨_, -, is⟩ | later
  · cases is
  · exact later

/-- What is done stays done; only others still make calls. -/
theorem of_done {a : α} {left : Routine η α} (h : Reaches (.done a) s moves left) :
    left = .done a ∧ ∃ others : List Step, moves = others.map .other := by
  generalize same : (.done a : Routine η α) = routine at h
  induction h with
  | here => exact ⟨rfl, [], rfl⟩
  | other step _ ih =>
    obtain ⟨is, others, rfl⟩ := ih same
    exact ⟨is, step :: others, rfl⟩
  | own => cases same

/-- Moves are cut at a request: the routine had come to it, and goes on with its answer. -/
theorem cut {routine left : Routine η α} {before after : List (Move η)} {request : Request η}
    {steps : List Step} {answer : request.Answer}
    (h : Reaches routine s (before ++ .own request steps answer :: after) left) :
    ∃ next, Reaches routine s before (Program.ask request next) ∧
      Answered request (s.run (stepsOf before)) steps answer ∧
      Reaches (next answer) (s.run (stepsOf before ++ steps)) after left := by
  induction before generalizing routine s with
  | nil =>
    cases h with
    | own answered rest => exact ⟨_, .here, answered, rest⟩
  | cons move before ih =>
    cases h with
    | other step rest =>
      obtain ⟨next, reached, answered, later⟩ := ih rest
      exact ⟨next, .other step reached, answered, later⟩
    | own first rest =>
      obtain ⟨next, reached, answered, later⟩ := ih rest
      refine ⟨next, .own first reached, ?_, ?_⟩
      · rwa [stepsOf_cons, run_append]
      · rwa [stepsOf_cons, List.append_assoc, run_append]

/-- What a routine never asks it does not come to ask. -/
theorem avoids {kind : Request η → Bool} {routine left : Routine η α}
    (h : Reaches routine s moves left) (avoids : Avoids kind routine) :
    Avoids kind left ∧ (requestsOf moves).filter kind = [] := by
  induction h with
  | here => exact ⟨avoids, rfl⟩
  | other step _ ih => exact ih avoids
  | own answered _ ih =>
    obtain ⟨later, none⟩ := ih (avoids.2 _)
    refine ⟨later, ?_⟩
    rw [requestsOf_own, List.filter_cons_of_neg (by simp [avoids.1]), none]

end Reaches

/-! How often a routine still asks. -/

/-- However it is answered, the routine makes at most so many requests. -/
def AsksAtMost : Nat → Routine η α → Prop
  | _, Program.done _ => True
  | 0, Program.ask _ _ => False
  | n + 1, Program.ask _ next => ∀ answer, AsksAtMost n (next answer)

namespace AsksAtMost
variable {m n : Nat}

theorem done (a : α) : AsksAtMost n (.done a : Routine η α) := by
  cases n <;> trivial

theorem mono {routine : Routine η α} (h : AsksAtMost m routine) (le : m ≤ n) :
    AsksAtMost n routine := by
  induction routine generalizing m n with
  | done a => exact done a
  | ask request next ih =>
    match m, n with
    | 0, _ => exact h.elim
    | m + 1, 0 => omega
    | m + 1, n + 1 => exact fun answer => ih answer (h answer) (by omega)

theorem ask (request : Request η) : AsksAtMost 1 (ask request) := fun answer => done answer

theorem andThen {routine : Routine η β} {f : β → Routine η α} (h : AsksAtMost m routine)
    (k : ∀ b, AsksAtMost n (f b)) : AsksAtMost (m + n) (routine.andThen f) := by
  induction routine generalizing m with
  | done b => exact (k b).mono (Nat.le_add_left n m)
  | ask request next ih =>
    match m with
    | 0 => exact h.elim
    | m + 1 =>
      rw [Nat.add_right_comm]
      exact fun answer => ih answer (h answer)

theorem bind {routine : StoreRoutine η β} {f : β → StoreRoutine η α}
    (h : AsksAtMost m routine.run) (k : ∀ b, AsksAtMost n (f b).run) :
    AsksAtMost (m + n) (routine >>= f).run := by
  refine andThen h fun b => ?_
  cases b with
  | ok b => exact k b
  | error e => exact done _

theorem lift {routine : Routine η α} (h : AsksAtMost m routine) :
    AsksAtMost m (ExceptT.lift routine : StoreRoutine η α).run :=
  andThen (n := 0) h fun a => show AsksAtMost 0 (Program.done (Except.ok a)) from done _

/-- Each request leaves one less. -/
theorem reaches {routine left : Routine η α} {s : Store} {moves : List (Move η)}
    (h : AsksAtMost n routine) (reached : Reaches routine s moves left) :
    ∃ m, AsksAtMost m left ∧ (requestsOf moves).length + m ≤ n := by
  induction reached generalizing n with
  | here => exact ⟨n, h, by simp⟩
  | other step _ ih => exact ih h
  | own answered _ ih =>
    match n with
    | 0 => exact h.elim
    | n + 1 =>
      obtain ⟨m, left, fewer⟩ := ih (h _)
      refine ⟨m, left, ?_⟩
      rw [requestsOf_own, List.length_cons]
      omega

end AsksAtMost

end MessageBus.Routine
