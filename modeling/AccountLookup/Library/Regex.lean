/-
# Searching with regular expressions

A regular expression with anchors matches a part of a text: what it matches may depend
on what stands to the left and to the right of the part. A text is found when some part
of it is matched. Every match has one that is not longer than the weight of the
expression, whatever the expression repeats, so an expression that finds anything finds
something short.
-/

import Mathlib.Data.List.Forall2
import Mathlib.Data.List.Infix

namespace Library

universe u

/-- A regular expression over the characters of `α`. -/
inductive Regex (α : Type u) : Type u
  | empty
  /-- One character of a set. -/
  | one (accepts : α → Prop)
  | seq (first second : Regex α)
  | either (first second : Regex α)
  | star (r : Regex α)
  /-- The start of the text. -/
  | start
  /-- The end of the text, or before a last character that ends it. -/
  | finish (terminator : α)

namespace Regex

variable {α : Type u}

/-- The expression matches the middle one of three parts of a text. -/
inductive Matches : Regex α → List α → List α → List α → Prop
  | empty (left right : List α) : Matches .empty left [] right
  | one {accepts : α → Prop} {c : α} (left right : List α) (h : accepts c) :
      Matches (.one accepts) left [c] right
  | seq {first second : Regex α} {left u v right : List α}
      (hfirst : Matches first left u (v ++ right)) (hsecond : Matches second (left ++ u) v right) :
      Matches (.seq first second) left (u ++ v) right
  | first {first second : Regex α} {left u right : List α} (h : Matches first left u right) :
      Matches (.either first second) left u right
  | second {first second : Regex α} {left u right : List α} (h : Matches second left u right) :
      Matches (.either first second) left u right
  | done {r : Regex α} (left right : List α) : Matches (.star r) left [] right
  | again {r : Regex α} {left u v right : List α} (hfirst : Matches r left u (v ++ right))
      (hrest : Matches (.star r) (left ++ u) v right) : Matches (.star r) left (u ++ v) right
  | start (right : List α) : Matches .start [] [] right
  | finish {terminator : α} {left right : List α} (h : right = [] ∨ right = [terminator]) :
      Matches (.finish terminator) left [] right

/-- Some part of the text is matched. -/
def Finds (r : Regex α) (text : List α) : Prop :=
  ∃ left part right, text = left ++ part ++ right ∧ Matches r left part right

/-- An upper bound on the length of the shortest match. -/
def weight : Regex α → ℕ
  | .empty | .star _ | .start | .finish _ => 0
  | .one _ => 1
  | .seq first second => first.weight + second.weight
  | .either first second => max first.weight second.weight

variable {r : Regex α} {left part right : List α}

@[simp]
theorem matches_empty_iff : Matches .empty left part right ↔ part = [] := by
  constructor
  · rintro ⟨⟩
    rfl
  · rintro rfl
    exact .empty left right

@[simp]
theorem matches_one_iff {accepts : α → Prop} :
    Matches (.one accepts) left part right ↔ ∃ c, part = [c] ∧ accepts c := by
  constructor
  · rintro ⟨⟩
    exact ⟨_, rfl, by assumption⟩
  · rintro ⟨c, rfl, h⟩
    exact .one left right h

@[simp]
theorem matches_seq_iff {first second : Regex α} :
    Matches (.seq first second) left part right ↔ ∃ u v, part = u ++ v ∧
      Matches first left u (v ++ right) ∧ Matches second (left ++ u) v right := by
  constructor
  · intro h
    cases h with
    | seq hfirst hsecond => exact ⟨_, _, rfl, hfirst, hsecond⟩
  · rintro ⟨u, v, rfl, hfirst, hsecond⟩
    exact .seq hfirst hsecond

/-- **Every match can be shortened to the weight**, by leaving characters out, and goes on
to match when characters are left out around it. -/
theorem Matches.exists_short (h : Matches r left part right) :
    ∃ short, short.Sublist part ∧ short.length ≤ r.weight ∧
      ∀ left' right', left'.Sublist left → right'.Sublist right →
        Matches r left' short right' := by
  induction h with
  | empty left right => exact ⟨[], List.nil_sublist _, Nat.zero_le _, fun _ _ _ _ => .empty _ _⟩
  | @one accepts c left right h =>
    exact ⟨[c], List.Sublist.refl _, Nat.le_refl 1, fun _ _ _ _ => .one _ _ h⟩
  | seq _ _ ihfirst ihsecond =>
    obtain ⟨u', hu, hulength, hfirst⟩ := ihfirst
    obtain ⟨v', hv, hvlength, hsecond⟩ := ihsecond
    refine ⟨u' ++ v', hu.append hv, ?_, fun left' right' hleft hright => ?_⟩
    · rw [List.length_append]
      exact Nat.add_le_add hulength hvlength
    · exact .seq (hfirst left' _ hleft (hv.append hright))
        (hsecond _ right' (hleft.append hu) hright)
  | first _ ih =>
    obtain ⟨u', hu, hlength, hmatches⟩ := ih
    exact ⟨u', hu, hlength.trans (Nat.le_max_left _ _),
      fun left' right' hleft hright => .first (hmatches left' right' hleft hright)⟩
  | second _ ih =>
    obtain ⟨u', hu, hlength, hmatches⟩ := ih
    exact ⟨u', hu, hlength.trans (Nat.le_max_right _ _),
      fun left' right' hleft hright => .second (hmatches left' right' hleft hright)⟩
  | done left right => exact ⟨[], List.nil_sublist _, Nat.zero_le _, fun _ _ _ _ => .done _ _⟩
  | again _ _ _ _ =>
    -- no round at all is a match as well
    exact ⟨[], List.nil_sublist _, Nat.zero_le _, fun _ _ _ _ => .done _ _⟩
  | start right =>
    refine ⟨[], List.nil_sublist _, Nat.zero_le _, fun left' right' hleft _ => ?_⟩
    obtain rfl := List.sublist_nil.mp hleft
    exact .start right'
  | finish h =>
    refine ⟨[], List.nil_sublist _, Nat.zero_le _, fun left' right' _ hright => .finish ?_⟩
    rcases h with rfl | rfl
    · exact Or.inl (List.sublist_nil.mp hright)
    · exact (List.sublist_singleton).mp hright

/-- An expression that finds anything finds a text that is not longer than its weight. -/
theorem Finds.exists_short {text : List α} (h : r.Finds text) :
    ∃ short : List α, short.length ≤ r.weight ∧ r.Finds short := by
  obtain ⟨left, part, right, -, hmatches⟩ := h
  obtain ⟨short, -, hlength, hshort⟩ := hmatches.exists_short
  exact ⟨short, hlength, [], short, [], by simp,
    hshort [] [] (List.nil_sublist _) (List.nil_sublist _)⟩

theorem forall₂_append_iff {β : Type u} {R : β → α → Prop} {first second : List β}
    {part : List α} : List.Forall₂ R (first ++ second) part ↔
      ∃ u v, part = u ++ v ∧ List.Forall₂ R first u ∧ List.Forall₂ R second v := by
  constructor
  · intro h
    exact ⟨part.take first.length, part.drop first.length, (List.take_append_drop _ _).symm,
      by simpa using List.forall₂_take first.length h,
      by simpa using List.forall₂_drop first.length h⟩
  · rintro ⟨u, v, rfl, hfirst, hsecond⟩
    exact List.rel_append hfirst hsecond

/-- An expression that matches the texts whose characters are in the given sets, one
after another, finds the texts that have such a part. -/
theorem finds_iff_of_forall₂ {β : Type u} {accepts : β → α → Prop} {sets : List β}
    (h : ∀ left part right, Matches r left part right ↔ List.Forall₂ accepts sets part)
    (text : List α) : r.Finds text ↔ ∃ part, part <:+: text ∧ List.Forall₂ accepts sets part := by
  constructor
  · rintro ⟨left, part, right, rfl, hmatches⟩
    exact ⟨part, ⟨left, right, rfl⟩, (h left part right).mp hmatches⟩
  · rintro ⟨part, ⟨left, right, rfl⟩, hpart⟩
    exact ⟨left, part, right, rfl, (h left part right).mpr hpart⟩

end Regex

end Library
