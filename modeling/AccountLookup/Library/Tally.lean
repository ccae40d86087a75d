/-
# Counting the steps of a run

How often something happens in a run is judged step by step, in the state that the step
finds. A quantity that every step raises or lowers by what it brings in and what it takes
out is accounted for over the whole run: what there is at the end, and what has gone, is
what there was at the start, and what has come.
-/

import AccountLookup.Library.Transition

namespace Library.Transition

universe u v

variable {S : Type u} {A : Type v} (step : S → A → S)

section Tally

variable (P : S → A → Prop) [∀ s a, Decidable (P s a)]

/-- The number of steps at which `P` holds. -/
def tally : S → List A → ℕ
  | _, [] => 0
  | s, a :: inputs => (if P s a then 1 else 0) + tally (step s a) inputs

@[simp]
theorem tally_nil (s : S) : tally step P s [] = 0 := rfl

theorem tally_cons (s : S) (a : A) (inputs : List A) :
    tally step P s (a :: inputs) = (if P s a then 1 else 0) + tally step P (step s a) inputs :=
  rfl

variable {step P} in
theorem tally_congr {Q : S → A → Prop} [∀ s a, Decidable (Q s a)] (h : ∀ s a, P s a ↔ Q s a)
    (s : S) (inputs : List A) : tally step P s inputs = tally step Q s inputs := by
  induction inputs generalizing s with
  | nil => rfl
  | cons a inputs ih => rw [tally_cons, tally_cons, if_congr (h s a) rfl rfl, ih]

variable {step P} in
/-- Something has been counted exactly if it happened at one of the steps. -/
theorem tally_pos_iff {s : S} {inputs : List A} :
    0 < tally step P s inputs ↔
      ∃ before a after, inputs = before ++ a :: after ∧ P (run step s before) a := by
  induction inputs generalizing s with
  | nil =>
    apply iff_of_false (Nat.lt_irrefl 0)
    rintro ⟨before, a, after, hsplit, -⟩
    exact List.append_ne_nil_of_right_ne_nil before (List.cons_ne_nil a after) hsplit.symm
  | cons a inputs ih =>
    rw [tally_cons]
    constructor
    · intro hpos
      by_cases ha : P s a
      · exact ⟨[], a, inputs, rfl, ha⟩
      · rw [if_neg ha, Nat.zero_add] at hpos
        obtain ⟨before, b, after, rfl, hb⟩ := ih.mp hpos
        exact ⟨a :: before, b, after, rfl, hb⟩
    · rintro ⟨before, b, after, hsplit, hb⟩
      cases before with
      | nil =>
        obtain ⟨rfl, rfl⟩ := List.cons.inj hsplit
        rw [run_nil] at hb
        rw [if_pos hb]
        omega
      | cons c before =>
        obtain ⟨rfl, rfl⟩ := List.cons.inj hsplit
        have hrest := ih.mpr ⟨before, b, after, rfl, hb⟩
        omega

end Tally

/-- **A balance.** If every step of a kind, taken under an invariant, changes a quantity by
one for what comes in and one for what goes out, the quantity balances over runs of such
steps. -/
theorem measure_run_add_tally (Inv : S → Prop) {Kind : S → A → Prop} (measure : S → ℕ)
    (Comes Goes : S → A → Prop) [∀ s a, Decidable (Comes s a)] [∀ s a, Decidable (Goes s a)]
    (hinv : ∀ s a, Inv s → Kind s a → Inv (step s a))
    (hstep : ∀ s a, Inv s → Kind s a →
      measure (step s a) + (if Goes s a then 1 else 0) =
        measure s + if Comes s a then 1 else 0)
    (inputs : List A) (s : S) (hs : Inv s) (hkind : Along step Kind s inputs) :
    measure (run step s inputs) + tally step Goes s inputs =
      measure s + tally step Comes s inputs := by
  induction inputs generalizing s with
  | nil => rfl
  | cons a inputs ih =>
    obtain ⟨ha, hrest⟩ := hkind
    have hfirst := hstep s a hs ha
    have hlater := ih (step s a) (hinv s a hs ha) hrest
    rw [run_cons, tally_cons, tally_cons]
    omega

end Library.Transition
