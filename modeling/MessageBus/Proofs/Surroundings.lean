import Mathlib.Data.List.Forall2
import MessageBus.Proofs.Interleaving

/-! Routines and what they are answered. Nothing is said of who answers: a store that lives in
memory, a database that may fail at any time, handlers, or a clock. -/
namespace MessageBus.Routine

variable {η α β : Type}

/-- A request and its answer. -/
structure Exchange (η : Type) where
  request : Request η
  answer : request.Answer

/-- With these exchanges, whoever gives the answers, the routine comes to this end. -/
inductive Ends : Routine η α → List (Exchange η) → α → Prop
  | done {a : α} : Ends (Program.done a) [] a
  | asked {request : Request η} {next : request.Answer → Routine η α} {answer : request.Answer}
      {said : List (Exchange η)} {a : α} (rest : Ends (next answer) said a) :
      Ends (Program.ask request next) (⟨request, answer⟩ :: said) a

section
variable {said : List (Exchange η)} {a b : α}

theorem ends_pure_iff : Ends (pure b : Routine η α) said a ↔ said = [] ∧ a = b := by
  constructor
  · intro h
    cases h with
    | done => exact ⟨rfl, rfl⟩
  · rintro ⟨rfl, rfl⟩
    exact .done

theorem ends_bind_iff {routine : Routine η β} {f : β → Routine η α} :
    Ends (routine >>= f) said a ↔
      ∃ b first rest, said = first ++ rest ∧ Ends routine first b ∧ Ends (f b) rest a := by
  constructor
  · intro h
    change Ends (routine.andThen f) said a at h
    induction routine generalizing said with
    | done b => exact ⟨b, [], said, rfl, .done, h⟩
    | ask request next ih =>
      cases h with
      | asked rest =>
        obtain ⟨b, first, later, rfl, early, late⟩ := ih _ rest
        exact ⟨b, _ :: first, later, rfl, .asked early, late⟩
  · rintro ⟨b, first, rest, rfl, early, late⟩
    change Ends (routine.andThen f) (first ++ rest) a
    induction early with
    | done => exact late
    | asked _ ih => exact .asked (ih late)

theorem ends_ask_iff {request : Request η} {answer : request.Answer} :
    Ends (ask request) said answer ↔ said = [⟨request, answer⟩] := by
  constructor
  · intro h
    cases h with
    | asked rest =>
      obtain ⟨rfl, rfl⟩ := ends_pure_iff.1 rest
      rfl
  · rintro rfl
    exact .asked .done

theorem ends_ask_bind_iff {request : Request η} {f : request.Answer → Routine η α} :
    Ends (ask request >>= f) said a ↔
      ∃ answer rest, said = ⟨request, answer⟩ :: rest ∧ Ends (f answer) rest a := by
  rw [ends_bind_iff]
  constructor
  · rintro ⟨answer, first, rest, rfl, asked, late⟩
    cases ends_ask_iff.1 asked
    exact ⟨answer, rest, rfl, late⟩
  · rintro ⟨answer, rest, rfl, late⟩
    exact ⟨answer, [_], rest, rfl, ends_ask_iff.2 rfl, late⟩

/-- What a routine does not ask for is not among its exchanges. -/
theorem Avoids.not_asked {kind : Request η → Bool} {routine : Routine η α}
    (h : Avoids kind routine) (ends : Ends routine said a) :
    ∀ exchange ∈ said, kind exchange.request = false := by
  induction ends with
  | done => exact fun _ mem => absurd mem List.not_mem_nil
  | asked _ ih =>
    intro exchange mem
    rcases List.mem_cons.1 mem with rfl | mem
    · exact h.1
    · exact ih (h.2 _) exchange mem

end

/-! Routines that make nothing of some answers. -/

theorem forall₂_append_split {α β : Type} {R : α → β → Prop} {xs ys : List α} {zs : List β}
    (h : List.Forall₂ R (xs ++ ys) zs) :
    ∃ us vs, zs = us ++ vs ∧ List.Forall₂ R xs us ∧ List.Forall₂ R ys vs := by
  induction xs generalizing zs with
  | nil => exact ⟨[], zs, rfl, .nil, h⟩
  | cons x xs ih =>
    cases h with
    | cons first rest =>
      obtain ⟨us, vs, rfl, here, later⟩ := ih rest
      exact ⟨_ :: us, vs, rfl, .cons first here, later⟩

/-- Exchanges that differ in nothing but the answer to a request of the kind. -/
inductive Exchange.Alike (kind : Request η → Bool) : Exchange η → Exchange η → Prop
  | same (exchange : Exchange η) : Alike kind exchange exchange
  | answered {request : Request η} (is : kind request = true) (one other : request.Answer) :
    Alike kind ⟨request, one⟩ ⟨request, other⟩

theorem Exchange.Alike.eq {kind : Request η → Bool} {one other : Exchange η}
    (h : Exchange.Alike kind one other) (no : kind one.request = false) : other = one := by
  cases h with
  | same => rfl
  | answered is =>
    rw [no] at is
    cases is

/-- The routine goes on in one way, whatever it is answered to requests of the kind. -/
def Heedless (kind : Request η → Bool) : Routine η α → Prop
  | Program.done _ => True
  | Program.ask request next =>
    (kind request = true → ∀ one other, next one = next other) ∧
      ∀ answer, Heedless kind (next answer)

namespace Heedless
variable {kind : Request η → Bool}

/-- What is never asked for is heeded by no one. -/
theorem of_avoids {routine : Routine η α} (h : Avoids kind routine) : Heedless kind routine := by
  induction routine with
  | done a => trivial
  | ask request next ih =>
    refine ⟨fun is => ?_, fun answer => ih answer (h.2 answer)⟩
    rw [h.1] at is
    cases is

theorem andThen {routine : Routine η β} {f : β → Routine η α} (h : Heedless kind routine)
    (k : ∀ b, Heedless kind (f b)) : Heedless kind (routine.andThen f) := by
  induction routine with
  | done b => exact k b
  | ask request next ih =>
    refine ⟨fun is one other => ?_, fun answer => ih answer (h.2 answer)⟩
    exact congrArg (fun goesOn : Routine η β => goesOn.andThen f) (h.1 is one other)

theorem bind {routine : StoreRoutine η β} {f : β → StoreRoutine η α}
    (h : Heedless kind routine.run) (k : ∀ b, Heedless kind (f b).run) :
    Heedless kind (routine >>= f).run := by
  refine Heedless.andThen h fun b => ?_
  cases b with
  | ok b => exact k b
  | error e => trivial

/-- With other answers to such requests the routine comes to the same end. -/
theorem ends {routine : Routine η α} {said others : List (Exchange η)} {a : α}
    (h : Heedless kind routine) (ends : Ends routine said a)
    (alike : List.Forall₂ (Exchange.Alike kind) said others) : Ends routine others a := by
  induction ends generalizing others with
  | done =>
    cases alike
    exact .done
  | asked _ ih =>
    cases alike with
    | cons first alike =>
      cases first with
      | same => exact .asked (ih (h.2 _) alike)
      | answered is _ other =>
        have later := ih (h.2 _) alike
        rw [h.1 is _ other] at later
        exact .asked later

end Heedless

end MessageBus.Routine
