/-! Computations that take turns on one state. A fiber runs until it is done or has to wait for
something; nothing else happens meanwhile. In a pool the main fiber goes first whenever it can, and
the others in the order in which they began to wait. Time passes only when none of them can go on,
and then to the earliest time that one of them waits for. -/
namespace MessageBus

/-- How a turn of a fiber ends, and with what state. -/
inductive Turn (σ α : Type) where
  | done (a : α) (s : σ)
  /-- It goes on with `next` in a state that is `ready`, which is the case at the time `due`. -/
  | wait (s : σ) (ready : σ → Bool) (due : Option Nat) (next : σ → Turn σ α)

def Turn.andThen {σ α β : Type} (f : α → σ → Turn σ β) : Turn σ α → Turn σ β
  | done a s => f a s
  | wait s ready due next => wait s ready due fun s => (next s).andThen f

/-- Ends with `a` as soon as `stop` holds at the end of a wait. A wait ends early for it. -/
def Turn.giveUp {σ α : Type} (stop : σ → Bool) (a : α) : Turn σ α → Turn σ α
  | done b s => done b s
  | wait s ready due next =>
    wait s (fun s => stop s || ready s) due fun s =>
      if stop s then done a s else (next s).giveUp stop a

def Fiber (σ α : Type) := σ → Turn σ α

namespace Fiber
variable {σ α β : Type}

instance : Monad (Fiber σ) where
  pure a := .done a
  bind x f := fun s => (x s).andThen f

theorem andThen_done (t : Turn σ α) : t.andThen Turn.done = t := by
  induction t with
  | done a s => rfl
  | wait s ready due next ih => simp only [Turn.andThen, ih]

theorem andThen_assoc {γ : Type} (t : Turn σ α) (f : α → σ → Turn σ β) (g : β → σ → Turn σ γ) :
    (t.andThen f).andThen g = t.andThen fun a s => (f a s).andThen g := by
  induction t with
  | done a s => rfl
  | wait s ready due next ih => simp only [Turn.andThen, ih]

instance : LawfulMonad (Fiber σ) :=
  .mk' _ (fun x => funext fun s => andThen_done (x s)) (fun _ _ => rfl)
    (fun x f g => funext fun s => andThen_assoc (x s) f g)

instance : MonadStateOf σ (Fiber σ) where
  get := fun s => .done s s
  set s := fun _ => .done () s
  modifyGet f := fun s => let (a, s) := f s; .done a s

/-- Waits, unless the state is ready at once. -/
def wait (ready : σ → Bool) (due : Option Nat) : Fiber σ Unit := fun s =>
  if ready s then .done () s else .wait s ready due (.done ())

/-- Lets the others take their turns. -/
def yield : Fiber σ Unit := fun s => .wait s (fun _ => true) none (.done ())

/-- A fiber that is given up for `a` when it would go on after a wait and `stop` holds. -/
def giveUp (stop : σ → Bool) (a : α) (x : Fiber σ α) : Fiber σ α := fun s =>
  (x s).giveUp stop a

/-- A fiber that does not wait is not given up. -/
theorem giveUp_of_done {stop : σ → Bool} {a b : α} {x : Fiber σ α} {s t : σ}
    (h : x s = .done b t) : giveUp stop a x s = .done b t := by
  simp [giveUp, h, Turn.giveUp]

end Fiber

/-- A fiber that waits. -/
structure Waiting (σ α : Type) where
  ready : σ → Bool
  due : Option Nat
  next : σ → Turn σ α

/-- Where fibers run: `launch` takes out the fibers that were started since, and `arrive` makes it
a given time. -/
structure Surroundings (σ : Type) where
  launch : σ → List (Fiber σ Unit) × σ
  arrive : Nat → σ → σ

namespace Surroundings
variable {σ α : Type} (world : Surroundings σ)

/-- Has the fibers beside the main one take turns until all of them wait, for at most `limit` turns.
-/
def settle : (limit : Nat) → List (Waiting σ Unit) → σ → List (Waiting σ Unit) × σ
  | 0, pool, s => (pool, s)
  | limit + 1, pool, s =>
    let (started, s) := world.launch s
    let pool := pool ++ started.map fun x => ⟨fun _ => true, none, x⟩
    match pool.span fun w => !w.ready s with
    | (_, []) => (pool, s)
    | (before, w :: after) =>
      match w.next s with
      | .done _ s => settle limit (before ++ after) s
      | .wait s ready due next => settle limit (before ++ after ++ [⟨ready, due, next⟩]) s

/-- The earliest time that is waited for. -/
def earliest? (times : List (Option Nat)) : Option Nat :=
  (times.filterMap id).min?

/-- Runs a main fiber to its end, in at most `limit` turns. There is no result when it waits for
something that never happens. -/
def run : (limit : Nat) → List (Waiting σ Unit) → Turn σ α → Option α
  | _, _, .done a _ => some a
  | 0, _, .wait .. => none
  | limit + 1, pool, .wait s ready due next =>
    let (pool, s) := world.settle limit pool s
    if ready s then run limit pool (next s)
    else match earliest? (due :: pool.map Waiting.due) with
      | none => none
      | some time =>
        let s := world.arrive time s
        run limit pool (if ready s then next s else .wait s ready due next)

end Surroundings
end MessageBus
