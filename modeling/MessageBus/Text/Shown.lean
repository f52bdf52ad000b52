import MessageBus.Text.Quoted

/-! The form in which a value stands in an error message. -/
namespace MessageBus

class Shown (α : Type) where
  shown : α → String

export Shown (shown)

instance : Shown String := ⟨Text.quote⟩

instance {α : Type} [Shown α] : Shown (Option α) where
  shown
    | none => "None"
    | some a => s!"Some({shown a})"

end MessageBus
