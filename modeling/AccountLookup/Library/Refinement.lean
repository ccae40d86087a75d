/-
# Simulation of one system by another

A system that is meant to behave like an abstract one runs beside it on the same
inputs. If a relation between their states gives every allowed step of the system the
outcome that the abstract state prescribes, and is kept by such a step, then all steps
of a run have it whose inputs the abstract system allows. What is allowed depends on the
abstract states alone, so it can be told without running the system.
-/

import AccountLookup.Library.Transition

namespace Library.Transition

universe u v w

variable {S : Type u} {V : Type v} {A : Type w}

/-- Both systems on the same input. -/
def beside (step : S → A → S) (abstract : V → A → V) (s : S × V) (a : A) : S × V :=
  (step s.1 a, abstract s.2 a)

/-- A relation under which allowed steps are good, and which they keep. -/
structure Simulates (step : S → A → S) (abstract : V → A → V) (Represents : S → V → Prop)
    (Allowed : V → A → Prop) (Good : S → V → A → Prop) : Prop where
  good : ∀ s v a, Represents s v → Allowed v a → Good s v a
  next : ∀ s v a, Represents s v → Allowed v a → Represents (step s a) (abstract v a)

variable {step : S → A → S} {abstract : V → A → V} {Represents : S → V → Prop}
  {Allowed : V → A → Prop} {Good : S → V → A → Prop}

/-- What is good on more inputs is good on fewer. -/
theorem Simulates.mono (h : Simulates step abstract Represents Allowed Good)
    {Allowed' : V → A → Prop} (hallowed : ∀ v a, Allowed' v a → Allowed v a) :
    Simulates step abstract Represents Allowed' Good :=
  ⟨fun s v a hs ha => h.good s v a hs (hallowed v a ha),
    fun s v a hs ha => h.next s v a hs (hallowed v a ha)⟩

/-- **Allowed runs are good throughout**, and end in related states. -/
theorem Simulates.along (h : Simulates step abstract Represents Allowed Good)
    (inputs : List A) (s : S) (v : V) (hs : Represents s v)
    (hallowed : Along abstract Allowed v inputs) :
    Along (beside step abstract) (fun s a => Good s.1 s.2 a) (s, v) inputs ∧
      Represents (run step s inputs) (run abstract v inputs) := by
  induction inputs generalizing s v with
  | nil => exact ⟨trivial, hs⟩
  | cons a inputs ih =>
    obtain ⟨ha, hrest⟩ := hallowed
    obtain ⟨halong, hend⟩ := ih (step s a) (abstract v a) (h.next s v a hs ha) hrest
    exact ⟨⟨h.good s v a hs ha, halong⟩, hend⟩

end Library.Transition
