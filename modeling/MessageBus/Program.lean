/-! Programs as trees of requests. A program is done, or it asks its surroundings for something and
goes on with whatever the answer is; who answers, and what else happens in between, is left open. -/
namespace MessageBus

inductive Program (ρ : Type) (Answer : ρ → Type) (α : Type) where
  | done (a : α)
  | ask (request : ρ) (next : Answer request → Program ρ Answer α)

namespace Program
variable {ρ : Type} {Answer : ρ → Type} {α β : Type}

def andThen (f : α → Program ρ Answer β) : Program ρ Answer α → Program ρ Answer β
  | done a => f a
  | ask request next => ask request fun answer => (next answer).andThen f

instance : Monad (Program ρ Answer) where
  pure := done
  bind p f := p.andThen f

theorem andThen_done (p : Program ρ Answer α) : p.andThen done = p := by
  induction p with
  | done a => rfl
  | ask request next ih => simp only [andThen, ih]

theorem andThen_assoc {γ : Type} (p : Program ρ Answer α) (f : α → Program ρ Answer β)
    (g : β → Program ρ Answer γ) :
    (p.andThen f).andThen g = p.andThen fun a => (f a).andThen g := by
  induction p with
  | done a => rfl
  | ask request next ih => simp only [andThen, ih]

instance : LawfulMonad (Program ρ Answer) :=
  .mk' _ andThen_done (fun _ _ => rfl) andThen_assoc

/-- The program that asks once. -/
def request (r : ρ) : Program ρ Answer (Answer r) := ask r done

/-- Runs a program in surroundings that answer each request. -/
def serve {m : Type → Type} [Monad m] (answer : (r : ρ) → m (Answer r)) :
    Program ρ Answer α → m α
  | done a => pure a
  | ask r next => do (next (← answer r)).serve answer

theorem serve_andThen {m : Type → Type} [Monad m] [LawfulMonad m]
    (answer : (r : ρ) → m (Answer r)) (p : Program ρ Answer α) (f : α → Program ρ Answer β) :
    (p.andThen f).serve answer = p.serve answer >>= fun a => (f a).serve answer := by
  induction p with
  | done a => simp [andThen, serve]
  | ask r next ih => simp [andThen, serve, ih]

end Program
end MessageBus
