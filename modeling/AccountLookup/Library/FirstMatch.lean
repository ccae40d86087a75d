/-
# Collections with first-match semantics

A collection in insertion order, searched and trimmed at the first element that
meets a predicate. Through a labelling of the elements the collection stands for
the set of its labels; when no label occurs twice, removing the first match is
removing its label from that set.
-/

import Mathlib.Data.List.Nodup
import Mathlib.Data.Set.Insert

namespace Library.FirstMatch

universe u v

variable {α : Type u} {β : Type v} {p : α → Bool} {d : α} {elements : List α}

/-- The first match splits the collection: nothing before it matches, and
removing the first match removes exactly it. -/
theorem exists_split_of_find?_eq_some (h : elements.find? p = some d) :
    ∃ before after, elements = before ++ d :: after ∧ (∀ a ∈ before, p a = false) ∧
      p d = true ∧ elements.eraseP p = before ++ after := by
  obtain ⟨hd, before, after, rfl, hbefore⟩ := List.find?_eq_some_iff_append.mp h
  have hnone : ∀ a ∈ before, p a = false := fun a ha => by simpa using hbefore a ha
  refine ⟨before, after, rfl, hnone, hd, ?_⟩
  rw [List.eraseP_append_right _ fun a ha => by simp [hnone a ha], List.eraseP_cons_of_pos hd]

/-- Without a match nothing is removed. -/
theorem eraseP_eq_self_of_find?_eq_none (h : elements.find? p = none) :
    elements.eraseP p = elements :=
  List.eraseP_of_forall_not fun a ha => by simpa using List.find?_eq_none.mp h a ha

/-- Removing the first match takes it out of every count that it is in. -/
theorem countP_eraseP (h : elements.find? p = some d) (q : α → Bool) :
    (elements.eraseP p).countP q + (if q d then 1 else 0) = elements.countP q := by
  obtain ⟨before, after, rfl, -, -, herase⟩ := exists_split_of_find?_eq_some h
  rw [herase, List.countP_append, List.countP_append, List.countP_cons, Nat.add_assoc]

/-- Removing the first match takes one copy of it away. -/
theorem count_eraseP [DecidableEq α] (h : elements.find? p = some d) (b : α) :
    (elements.eraseP p).count b + (if d = b then 1 else 0) = elements.count b := by
  have hcount := countP_eraseP h (· == b)
  simpa only [List.count, beq_iff_eq] using hcount

/-- A new element at the end is found only when nothing before it matches. -/
theorem find?_concat (p : α → Bool) (elements : List α) (d : α) :
    (elements ++ [d]).find? p =
      match elements.find? p with
      | some first => some first
      | none => if p d then some d else none := by
  rw [List.find?_append]
  cases elements.find? p with
  | some first => rfl
  | none =>
    cases hd : p d with
    | true => simp [hd]
    | false => simp [hd]

/-- Trimming at one predicate does not touch what another one finds first. -/
theorem find?_eraseP_of_ne {q : α → Bool} (h : elements.find? p = some d)
    (hne : elements.find? q ≠ some d) : (elements.eraseP p).find? q = elements.find? q := by
  obtain ⟨before, after, rfl, -, -, herase⟩ := exists_split_of_find?_eq_some h
  rw [herase, List.find?_append, List.find?_append]
  rw [List.find?_append] at hne
  cases hbefore : before.find? q with
  | some first => rfl
  | none =>
    rw [hbefore, Option.none_or] at hne
    cases hd : q d with
    | true => exact absurd (List.find?_cons_of_pos hd) hne
    | false => rw [List.find?_cons_of_neg (by simp [hd])]

variable (label : α → β)

/-- The set of labels in the collection. -/
def labels (elements : List α) : Set β := {b | ∃ a ∈ elements, label a = b}

variable {label}

theorem mem_labels {b : β} : b ∈ labels label elements ↔ ∃ a ∈ elements, label a = b := Iff.rfl

/-- Adding an element adds its label. -/
theorem labels_concat (elements : List α) (d : α) :
    labels label (elements ++ [d]) = insert (label d) (labels label elements) := by
  ext b
  simp only [mem_labels, List.mem_append, List.mem_singleton, Set.mem_insert_iff]
  constructor
  · rintro ⟨a, ha | rfl, rfl⟩
    · exact Or.inr ⟨a, ha, rfl⟩
    · exact Or.inl rfl
  · rintro (rfl | ⟨a, ha, rfl⟩)
    · exact ⟨d, Or.inr rfl, rfl⟩
    · exact ⟨a, Or.inl ha, rfl⟩

/-- Removing the first match removes its label, when no label occurs twice. -/
theorem labels_eraseP (hnodup : (elements.map label).Nodup) (h : elements.find? p = some d) :
    labels label (elements.eraseP p) = labels label elements \ {label d} := by
  obtain ⟨before, after, rfl, _, _, herase⟩ := exists_split_of_find?_eq_some h
  rw [List.map_append, List.map_cons, List.nodup_middle, List.nodup_cons] at hnodup
  rw [herase]
  ext b
  simp only [mem_labels, List.mem_append, List.mem_cons, Set.mem_sdiff, Set.mem_singleton_iff]
  constructor
  · rintro ⟨a, ha, rfl⟩
    refine ⟨⟨a, ha.imp_right Or.inr, rfl⟩, fun heq => hnodup.1 ?_⟩
    rw [← heq, ← List.map_append]
    exact List.mem_map_of_mem (List.mem_append.mpr ha)
  · rintro ⟨⟨a, ha | rfl | ha, rfl⟩, hne⟩
    · exact ⟨a, Or.inl ha, rfl⟩
    · exact absurd rfl hne
    · exact ⟨a, Or.inr ha, rfl⟩

end Library.FirstMatch
