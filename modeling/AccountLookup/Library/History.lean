/-
# Histories of runs

Some steps of a run are points at which an operation takes effect on what is seen of
the state; the other steps are not seen. The operations in the order of their points
are the history of the run. Replayed one after the other on what was seen at the
start, they give what is seen at the end, and the history of a run begins with the
history of every earlier part of it.
-/

import AccountLookup.Library.Transition

namespace Library.Transition

universe u v w x

variable {S : Type u} {A : Type v} {C : Type w} {V : Type x}

/-- The operations that take effect in a run, in order. -/
def history (step : S → A → S) (point : S → A → Option C) : S → List A → List C
  | _, [] => []
  | s, a :: inputs => (point s a).toList ++ history step point (step s a) inputs

/-- What is seen after a step is what the operation makes of it whose point the step is. -/
def ActsAtPoints (step : S → A → S) (point : S → A → Option C) (view : S → V)
    (act : V → C → V) : Prop :=
  ∀ s a, view (step s a) = run act (view s) (point s a).toList

variable {step : S → A → S} {point : S → A → Option C}

@[simp]
theorem history_nil (s : S) : history step point s [] = [] := rfl

@[simp]
theorem history_cons (s : S) (a : A) (inputs : List A) :
    history step point s (a :: inputs) =
      (point s a).toList ++ history step point (step s a) inputs := rfl

@[simp]
theorem history_append (s : S) (first second : List A) :
    history step point s (first ++ second) =
      history step point s first ++ history step point (run step s first) second := by
  induction first generalizing s with
  | nil => rfl
  | cons a first ih => simp only [List.cons_append, history_cons, ih, run_cons, List.append_assoc]

/-- The history grows at its end. -/
theorem history_isPrefix {s : S} {before inputs : List A} (h : before <+: inputs) :
    history step point s before <+: history step point s inputs := by
  obtain ⟨rest, rfl⟩ := h
  rw [history_append]
  exact List.prefix_append _ _

/-- **What is seen is what the history makes of the start.** -/
theorem view_run_eq {view : S → V} {act : V → C → V} (h : ActsAtPoints step point view act)
    (s : S) (inputs : List A) :
    view (run step s inputs) = run act (view s) (history step point s inputs) := by
  induction inputs generalizing s with
  | nil => rfl
  | cons a inputs ih => rw [run_cons, ih, h s a, history_cons, run_append]

/-- **A relation that allowed steps keep** relates the end of a run to what its history makes
of the start. -/
theorem related_run {act : V → C → V} {Related : S → V → Prop} {Allowed : S → A → Prop}
    (hstep : ∀ s v a, Related s v → Allowed s a →
      Related (step s a) (run act v (point s a).toList))
    {s : S} {v : V} (hs : Related s v) (inputs : List A)
    (hallowed : Along step Allowed s inputs) :
    Related (run step s inputs) (run act v (history step point s inputs)) := by
  induction inputs generalizing s v with
  | nil => exact hs
  | cons a inputs ih =>
    obtain ⟨ha, hrest⟩ := hallowed
    rw [run_cons, history_cons, run_append]
    exact ih (hstep s v a hs ha) hrest

section Once

variable {I : Type*} {tag : C → I} {Pending : S → I → Prop}
  (hpoint : ∀ s a c, point s a = some c → Pending s (tag c) ∧ ¬ Pending (step s a) (tag c))
  (hstep : ∀ s a i, Pending (step s a) i → Pending s i)

include hpoint hstep

/-- What takes effect in a run was pending at its start. -/
theorem pending_of_mem_history {s : S} {inputs : List A} {c : C}
    (h : c ∈ history step point s inputs) : Pending s (tag c) := by
  induction inputs generalizing s with
  | nil => cases h
  | cons a inputs ih =>
    rcases List.mem_append.mp h with hnow | hlater
    · exact (hpoint s a c (Option.mem_toList.mp hnow)).1
    · exact hstep s a _ (ih hlater)

/-- **An operation that is not pending any more after its point takes effect once.** -/
theorem nodup_history (s : S) (inputs : List A) :
    ((history step point s inputs).map tag).Nodup := by
  induction inputs generalizing s with
  | nil => exact List.nodup_nil
  | cons a inputs ih =>
    rw [history_cons]
    cases hnow : point s a with
    | none => exact ih _
    | some c =>
      refine List.nodup_cons.mpr ⟨fun hmem => ?_, ih _⟩
      obtain ⟨other, hother, htag⟩ := List.mem_map.mp hmem
      have hpending := pending_of_mem_history hpoint hstep hother
      exact (hpoint s a c hnow).2 (htag ▸ hpending)

end Once

end Library.Transition
