/-
# Calls in lockstep

A call that may fail leaves an outcome and a world. Two calls, each made in a world of
its own, are in lockstep when both fail or both return values that are related, and
the worlds that they leave are related as well. Nothing is asked of the errors. Who
goes on from two such calls has two cases to treat.
-/

import Mathlib.Logic.Basic

namespace Library

universe u v w x y z

/-- Both outcomes are errors, or both are values that are related. -/
inductive OutcomesRelated {E : Type u} {F : Type v} {A : Type w} {B : Type x}
    (P : A → B → Prop) : Except E A → Except F B → Prop
  | ok {a : A} {b : B} (h : P a b) : OutcomesRelated P (.ok a) (.ok b)
  | error (e : E) (f : F) : OutcomesRelated P (.error e) (.error f)

/-- The outcomes of the two calls are related, and so are the worlds that they leave. -/
structure Lockstep {E : Type u} {F : Type v} {A : Type w} {B : Type x} {V : Type y} {W : Type z}
    (P : A → B → Prop) (Q : V → W → Prop) (first : Except E A × V) (second : Except F B × W) :
    Prop where
  outcome : OutcomesRelated P first.1 second.1
  world : Q first.2 second.2

namespace Lockstep

variable {E : Type u} {F : Type v} {A : Type w} {B : Type x} {V : Type y} {W : Type z}
  {P : A → B → Prop} {Q : V → W → Prop}

theorem ok {a : A} {b : B} {s : V} {t : W} (h : P a b) (hworld : Q s t) :
    Lockstep P Q ((.ok a, s) : Except E A × V) ((.ok b, t) : Except F B × W) :=
  ⟨.ok h, hworld⟩

theorem error {e : E} {f : F} {s : V} {t : W} (hworld : Q s t) :
    Lockstep P Q ((.error e, s) : Except E A × V) ((.error f, t) : Except F B × W) :=
  ⟨.error e f, hworld⟩

/-- Either both calls return, or both fail. -/
theorem cases {first : Except E A × V} {second : Except F B × W} (h : Lockstep P Q first second) :
    (∃ a b s t, first = (.ok a, s) ∧ second = (.ok b, t) ∧ P a b ∧ Q s t) ∨
      ∃ e f s t, first = (.error e, s) ∧ second = (.error f, t) ∧ Q s t := by
  obtain ⟨outcome, s⟩ := first
  obtain ⟨outcome', t⟩ := second
  obtain ⟨houtcome, hworld⟩ := h
  cases houtcome with
  | ok h => exact Or.inl ⟨_, _, s, t, rfl, rfl, h, hworld⟩
  | error e f => exact Or.inr ⟨e, f, s, t, rfl, rfl, hworld⟩

/-- One call in one world is in lockstep with itself. -/
theorem refl (call : Except E A × V) : Lockstep Eq Eq call call := by
  obtain ⟨outcome, s⟩ := call
  cases outcome with
  | error e => exact error rfl
  | ok a => exact ok rfl rfl

end Lockstep

end Library
