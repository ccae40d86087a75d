/-
# Runs of a deterministic system

A system is a step function on states, driven by a list of inputs. Two views of
a run are used side by side: the state it ends in, and a judgement that every
step of it satisfies, each made in the state the step finds. The exactness rule
at the end turns a per-step equivalence, valid under an invariant, into an
equivalence about whole runs: all steps are good precisely when all steps meet
the condition.
-/

import Mathlib.Data.List.Infix
import Mathlib.Data.List.Induction

namespace Library.Transition

universe u v w

variable {S : Type u} {A : Type v} (step : S → A → S)

/-- The state reached from `s` by the inputs in order. -/
def run (s : S) (inputs : List A) : S := inputs.foldl step s

@[simp]
theorem run_nil (s : S) : run step s [] = s := rfl

@[simp]
theorem run_cons (s : S) (a : A) (inputs : List A) :
    run step s (a :: inputs) = run step (step s a) inputs := rfl

@[simp]
theorem run_append (s : S) (first second : List A) :
    run step s (first ++ second) = run step (run step s first) second :=
  List.foldl_append

/-- An invariant that every step preserves holds wherever a run ends. -/
theorem run_invariant (Inv : S → Prop)
    (hstep : ∀ s a, Inv s → Inv (step s a)) :
    ∀ (inputs : List A) (s : S), Inv s → Inv (run step s inputs) := by
  intro inputs
  induction inputs with
  | nil => intro s hs; exact hs
  | cons a inputs ih => intro s hs; exact ih _ (hstep s a hs)

/-- A fact that is absent at the start and present at the end was established on
the way, at the end of some prefix of the inputs. -/
theorem exists_prefix_of_established {B : Type w} (Fact Established : S → B → Prop) {start : S}
    (hstep : ∀ s a b, Fact (step s a) b → Fact s b ∨ Established (step s a) b)
    (hstart : ∀ b, ¬ Fact start b) (inputs : List A) (b : B)
    (h : Fact (run step start inputs) b) :
    ∃ before, before <+: inputs ∧ Established (run step start before) b := by
  induction inputs using List.reverseRecOn with
  | nil => exact absurd h (hstart b)
  | append_singleton inputs a ih =>
    rw [run_append, run_cons, run_nil] at h
    rcases hstep _ a b h with hold | hnew
    · obtain ⟨before, hbefore, hestablished⟩ := ih hold
      exact ⟨before, hbefore.trans (List.prefix_append inputs [a]), hestablished⟩
    · exact ⟨inputs ++ [a], List.prefix_refl _, by rwa [run_append, run_cons, run_nil]⟩

/-- Under an invariant, a fact that is present at the end was present at the start or was
established on the way. -/
theorem fact_or_established {B : Type w} (Inv : S → Prop) (Fact Established : S → B → Prop)
    (hinv : ∀ s a, Inv s → Inv (step s a))
    (hstep : ∀ s a b, Inv s → Fact (step s a) b → Fact s b ∨ Established (step s a) b)
    (inputs : List A) (start : S) (hstart : Inv start) (b : B)
    (h : Fact (run step start inputs) b) :
    Fact start b ∨ ∃ before, before <+: inputs ∧ Established (run step start before) b := by
  induction inputs using List.reverseRecOn with
  | nil => exact Or.inl h
  | append_singleton inputs a ih =>
    rw [run_append, run_cons, run_nil] at h
    rcases hstep _ a b (run_invariant step Inv hinv inputs start hstart) h with hold | hnew
    · rcases ih hold with hfirst | ⟨before, hbefore, hestablished⟩
      · exact Or.inl hfirst
      · exact Or.inr ⟨before, hbefore.trans (List.prefix_append inputs [a]), hestablished⟩
    · exact Or.inr ⟨inputs ++ [a], List.prefix_refl _, by rwa [run_append, run_cons, run_nil]⟩

/-- `P` holds at every step of the run, judged in the state the step finds. -/
def Along (P : S → A → Prop) : S → List A → Prop
  | _, [] => True
  | s, a :: inputs => P s a ∧ Along P (step s a) inputs

variable {step} {P Q : S → A → Prop}

@[simp]
theorem along_nil (s : S) : Along step P s [] := trivial

@[simp]
theorem along_cons (s : S) (a : A) (inputs : List A) :
    Along step P s (a :: inputs) ↔ P s a ∧ Along step P (step s a) inputs := Iff.rfl

@[simp]
theorem along_append (s : S) (first second : List A) :
    Along step P s (first ++ second) ↔
      Along step P s first ∧ Along step P (run step s first) second := by
  induction first generalizing s with
  | nil => simp
  | cons a first ih => simp [ih, and_assoc]

/-- Read as a statement about prefixes: whenever the run has got to the input
`a`, the judgement holds of the state reached so far. -/
theorem along_iff_forall_split (s : S) (inputs : List A) :
    Along step P s inputs ↔
      ∀ before a after, inputs = before ++ a :: after → P (run step s before) a := by
  constructor
  · rintro h before a after rfl
    exact ((along_append s before (a :: after)).mp h).2.1
  · intro h
    induction inputs generalizing s with
    | nil => trivial
    | cons a inputs ih =>
      refine ⟨h [] a inputs rfl, ih (step s a) fun before b after heq => ?_⟩
      exact h (a :: before) b after (by rw [heq]; rfl)

/-- An invariant that the steps meeting a condition preserve holds wherever a run
of such steps ends. -/
theorem run_invariant_along (Inv : S → Prop)
    (hstep : ∀ s a, Inv s → P s a → Inv (step s a)) :
    ∀ (inputs : List A) (s : S), Inv s → Along step P s inputs → Inv (run step s inputs) := by
  intro inputs
  induction inputs with
  | nil => intro s hs _; exact hs
  | cons a inputs ih => rintro s hs ⟨ha, hrest⟩; exact ih _ (hstep s a hs ha) hrest

/-- A run that ends outside a region it was in has a step that leaves the region. -/
theorem exists_leaving_step (Inside : S → Prop) {s : S} {inputs : List A} (hs : Inside s)
    (hend : ¬ Inside (run step s inputs)) :
    ∃ before a after, inputs = before ++ a :: after ∧ Inside (run step s before) ∧
      ¬ Inside (step (run step s before) a) := by
  by_contra hnone
  have hstay : Along step (fun s a => Inside s → Inside (step s a)) s inputs := by
    refine (along_iff_forall_split s inputs).mpr fun before a after hsplit hinside => ?_
    by_contra hleave
    exact hnone ⟨before, a, after, hsplit, hinside, hleave⟩
  exact hend (run_invariant_along Inside (fun _ _ hinside ha => ha hinside) inputs s hs hstay)

/-- Under an invariant that the steps meeting a condition preserve, all steps are good
when a step that meets the condition is good. -/
theorem along_of_invariant (Inv : S → Prop)
    (hgood : ∀ s a, Inv s → Q s a → P s a)
    (hstep : ∀ s a, Inv s → Q s a → Inv (step s a)) :
    ∀ (inputs : List A) (s : S), Inv s → Along step Q s inputs → Along step P s inputs := by
  intro inputs
  induction inputs with
  | nil => intro s _ _; trivial
  | cons a inputs ih =>
    rintro s hs ⟨ha, hrest⟩
    exact ⟨hgood s a hs ha, ih _ (hstep s a hs ha) hrest⟩

/-- **Exactness of a step condition.** If, under an invariant that steps meeting
the condition preserve, a step is good exactly when it meets the condition, then
a run is good throughout exactly when all its steps meet the condition. The
invariant is never assumed of a run that has already gone wrong. -/
theorem along_iff_of_exact (Inv : S → Prop)
    (hexact : ∀ s a, Inv s → (P s a ↔ Q s a))
    (hstep : ∀ s a, Inv s → Q s a → Inv (step s a)) :
    ∀ (inputs : List A) (s : S), Inv s →
      (Along step P s inputs ↔ Along step Q s inputs) := by
  intro inputs
  induction inputs with
  | nil => intro s _; exact Iff.rfl
  | cons a inputs ih =>
    intro s hs
    simp only [along_cons]
    constructor
    · rintro ⟨ha, hrest⟩
      have hq := (hexact s a hs).mp ha
      exact ⟨hq, (ih _ (hstep s a hs hq)).mp hrest⟩
    · rintro ⟨hq, hrest⟩
      exact ⟨(hexact s a hs).mpr hq, (ih _ (hstep s a hs hq)).mpr hrest⟩

/-- A property of states holds throughout a run when it holds at the start and
after every step. -/
theorem forall_prefix_iff_along (G : S → Prop) (s : S) (inputs : List A) :
    (∀ before, before <+: inputs → G (run step s before)) ↔
      G s ∧ Along step (fun s a => G (step s a)) s inputs := by
  induction inputs generalizing s with
  | nil => simp
  | cons a inputs ih =>
    constructor
    · intro h
      refine ⟨h [] (List.nil_prefix), (ih (step s a)).mp fun before hbefore => ?_⟩
      exact h (a :: before) ((List.cons_prefix_cons).mpr ⟨rfl, hbefore⟩)
    · rintro ⟨hs, ha⟩ before hbefore
      cases before with
      | nil => exact hs
      | cons b before =>
        obtain ⟨rfl, hrest⟩ := List.cons_prefix_cons.mp hbefore
        exact (ih (step s b)).mpr ha before hrest

/-- A run ends in a good state exactly when all its steps meet the condition, if a step
that does not leads into states that are never left. -/
theorem run_iff_along_of_trap (Good Bad : S → Prop)
    (hgood : ∀ s a, Good s → Q s a → Good (step s a))
    (hleave : ∀ s a, Good s → ¬ Q s a → Bad (step s a)) (htrap : ∀ s a, Bad s → Bad (step s a))
    (hdisjoint : ∀ s, Good s → ¬ Bad s) :
    ∀ (inputs : List A) (s : S), Good s → (Good (run step s inputs) ↔ Along step Q s inputs) := by
  intro inputs
  induction inputs with
  | nil => intro s hs; exact iff_of_true hs trivial
  | cons a inputs ih =>
    intro s hs
    by_cases ha : Q s a
    · rw [run_cons, along_cons, and_iff_right ha]
      exact ih _ (hgood s a hs ha)
    · refine iff_of_false (fun hend => ?_) fun h => ha h.1
      exact hdisjoint _ hend (run_invariant step Bad htrap inputs _ (hleave s a hs ha))

end Library.Transition
