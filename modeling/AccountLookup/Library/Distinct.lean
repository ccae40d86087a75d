/-
# Lists of distinct elements

A list that grows at its end by the elements that it does not have yet. After any number of
additions it has every element once, in the order in which the elements were first added.
-/

import Mathlib.Data.List.Induction
import Mathlib.Data.List.Nodup

namespace Library.Distinct

variable {α : Type} [BEq α]

/-- The list with the element at its end, unless it is there already. -/
def pushNew (elements : List α) (a : α) : List α :=
  if elements.contains a then elements else elements ++ [a]

variable [LawfulBEq α]

theorem nodup_pushNew {elements : List α} (h : elements.Nodup) (a : α) :
    (pushNew elements a).Nodup := by
  unfold pushNew
  split
  · exact h
  · next hnew =>
    rw [List.contains_iff_mem] at hnew
    exact List.concat_eq_append ▸ h.concat hnew

theorem nodup_foldl_pushNew {elements : List α} (h : elements.Nodup) (added : List α) :
    (added.foldl pushNew elements).Nodup := by
  induction added generalizing elements with
  | nil => exact h
  | cons b added ih => exact ih (nodup_pushNew h b)

/-- Added one by one to an empty list, the elements lose their repetitions. -/
theorem foldl_pushNew_nil (added : List α) : added.foldl pushNew [] = added.eraseDups := by
  induction added using List.reverseRecOn with
  | nil => rfl
  | append_singleton added a ih =>
    rw [List.foldl_append, List.foldl_cons, List.foldl_nil, ih, pushNew, List.eraseDups_append]
    by_cases hmem : a ∈ added
    · simp [List.removeAll, hmem]
    · simp [List.removeAll, hmem, List.eraseDups_cons]

theorem nodup_eraseDups (elements : List α) : elements.eraseDups.Nodup :=
  foldl_pushNew_nil elements ▸ nodup_foldl_pushNew List.nodup_nil elements

end Library.Distinct
