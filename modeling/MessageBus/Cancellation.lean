import MessageBus.Error

/-! A call to a store that is given up when a token is cancelled first. -/
namespace MessageBus

/-- Whether a token that is cancelled after `cancel` units of time is cancelled when a call under it
is over, which takes `work` units. Without a time neither ever happens. A call that is over at the
very time of the cancellation is not cancelled any more, but one whose token is cancelled from the
start does not even begin. -/
def isCancelledAfter (work cancel : Option Nat) : Bool :=
  match work, cancel with
  | _, none => false
  | none, some _ => true
  | some w, some c => c = 0 ∨ c < w

/-- The result of a call under such a token. There is none if there is nothing to wait for. -/
def withCancel {α : Type} (result : Except StoreError α) (work cancel : Option Nat) :
    Option (Except StoreError α) :=
  if isCancelledAfter work cancel then some (.error .cancelled)
  else if work.isSome then some result
  else none

end MessageBus
