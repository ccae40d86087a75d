/-
# What changes hands

A slot of the state is free or has a holder. If no step puts one holder directly in
the place of another, then between two different holders the slot was free: the
first one was released, and the second one was admitted after that.
-/

import AccountLookup.Library.Transition

namespace Library.Transition

universe u v w

variable {S : Type u} {A : Type v} {V : Type w} (step : S → A → S) (holder : S → Option V)
  (Releases Admits : S → A → V → Prop)

/-- What a step may do to the slot. -/
inductive HandsOver (s : S) (a : A) : Prop
  | keeps (h : holder (step s a) = holder s)
  | releases (v : V) (hbefore : holder s = some v) (hafter : holder (step s a) = none)
      (h : Releases s a v)
  | admits (v : V) (hbefore : holder s = none) (hafter : holder (step s a) = some v)
      (h : Admits s a v)

variable {step holder Releases Admits} {s : S} {a : A} {inputs : List A} {v v' : V}

/-- Only a release takes the slot from its holder. -/
theorem HandsOver.released (hstep : HandsOver step holder Releases Admits s a)
    (hs : holder s = some v) (hafter : holder (step s a) ≠ some v) :
    Releases s a v ∧ holder (step s a) = none := by
  cases hstep with
  | keeps h => exact absurd (h.trans hs) hafter
  | releases held hheld hfree h =>
    obtain rfl : v = held := Option.some.inj (hs.symm.trans hheld)
    exact ⟨h, hfree⟩
  | admits held hfree => cases hs.symm.trans hfree

/-- Only an admission gives the slot to someone who does not have it. -/
theorem HandsOver.admitted (hstep : HandsOver step holder Releases Admits s a)
    (hs : holder s ≠ some v) (hafter : holder (step s a) = some v) : Admits s a v := by
  cases hstep with
  | keeps h => exact absurd (h.symm.trans hafter) hs
  | releases held _ hfree => cases hafter.symm.trans hfree
  | admits held _ hheld h =>
    obtain rfl : v = held := Option.some.inj (hafter.symm.trans hheld)
    exact h

variable (hlaw : ∀ s a, HandsOver step holder Releases Admits s a)

include hlaw

/-- A holder that has the slot no longer was released, and the slot was free then. -/
theorem exists_release (hs : holder s = some v) (hend : holder (run step s inputs) ≠ some v) :
    ∃ before a after, inputs = before ++ a :: after ∧ Releases (run step s before) a v ∧
      holder (run step s (before ++ [a])) = none := by
  obtain ⟨before, a, after, hsplit, hheld, hleave⟩ :=
    exists_leaving_step (fun s => holder s = some v) hs hend
  obtain ⟨hrelease, hfree⟩ := (hlaw _ a).released hheld hleave
  refine ⟨before, a, after, hsplit, hrelease, ?_⟩
  rwa [run_append, run_cons, run_nil]

/-- Whoever has the slot at the end and not at the start was admitted on the way. -/
theorem exists_admission (hs : holder s ≠ some v)
    (hend : holder (run step s inputs) = some v) :
    ∃ before a after, inputs = before ++ a :: after ∧ Admits (run step s before) a v := by
  obtain ⟨before, a, after, hsplit, hout, hin⟩ :=
    exists_leaving_step (fun s => holder s ≠ some v) hs (not_not.mpr hend)
  exact ⟨before, a, after, hsplit, (hlaw _ a).admitted hout (not_not.mp hin)⟩

/-- **Between two holders lie a release and an admission**, in this order. -/
theorem exists_release_admission (hs : holder s = some v)
    (hend : holder (run step s inputs) = some v') (hne : v ≠ v') :
    ∃ before a middle b after, inputs = before ++ a :: (middle ++ b :: after) ∧
      Releases (run step s before) a v ∧
      Admits (run step s (before ++ a :: middle)) b v' := by
  have hleft : holder (run step s inputs) ≠ some v := by
    rw [hend]
    exact fun h => hne (Option.some.inj h).symm
  obtain ⟨before, a, rest, rfl, hrelease, hfree⟩ := exists_release hlaw hs hleft
  have hrest : holder (run step (run step s (before ++ [a])) rest) = some v' := by
    rwa [← run_append, List.append_assoc, List.singleton_append]
  have hout : holder (run step s (before ++ [a])) ≠ some v' := by
    rw [hfree]
    exact (Option.some_ne_none v').symm
  obtain ⟨middle, b, after, rfl, hadmit⟩ := exists_admission hlaw hout hrest
  refine ⟨before, a, middle, b, after, rfl, hrelease, ?_⟩
  rwa [← run_append, List.append_assoc, List.singleton_append] at hadmit

end Library.Transition
