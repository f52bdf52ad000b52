/-! Correlation identifiers, which tie together what is done for one unit of work. -/
namespace MessageBus

/-- Where a correlation identifier comes from. -/
inductive Correlation where
  | none
  /-- The same one always. -/
  | fixed (id : String)
  /-- That of the innermost scope around the running task. -/
  | ambient
  deriving DecidableEq, Repr

/-- The identifier, in the given scopes; the innermost one comes first. -/
def Correlation.current (c : Correlation) (scopes : List String) : Option String :=
  match c with
  | none => .none
  | fixed id => some id
  | ambient => scopes.head?

end MessageBus
