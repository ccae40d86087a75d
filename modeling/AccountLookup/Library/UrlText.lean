/-
# Paths and query strings

The text of a relative URL taken apart: the path is what comes before the first
`?`, the query string is what comes after it and is cut into items at `&`, and an
item is cut into a key and a value at its first `=`.
-/

import Mathlib.Data.List.TakeWhile

namespace Library.UrlText

/-- A test of all elements, run. -/
theorem forall_mem_of_all {α : Type} {P : α → Prop} [DecidablePred P] {elements : List α}
    (h : (elements.all fun a => decide (P a)) = true) : ∀ a ∈ elements, P a :=
  fun a ha => of_decide_eq_true (List.all_eq_true.mp h a ha)

section Cut

variable {α : Type} [DecidableEq α] {separator : α} {text : List α}

/-- What comes before the first separator. -/
def before (separator : α) (text : List α) : List α := text.takeWhile (· ≠ separator)

/-- What comes after the first separator. -/
def after (separator : α) (text : List α) : List α := (text.dropWhile (· ≠ separator)).drop 1

theorem before_isPrefix : before separator text <+: text := List.takeWhile_prefix _

/-- The order of two cuts does not matter. -/
theorem before_comm (first second : α) (text : List α) :
    before first (before second text) = before second (before first text) := by
  simp only [before, List.takeWhile_takeWhile, and_comm]

theorem not_mem_before : separator ∉ before separator text := by
  intro h
  simpa using List.mem_takeWhile_imp h

theorem after_sublist : (after separator text).Sublist text :=
  (List.drop_sublist 1 _).trans (List.dropWhile_sublist _)

theorem before_of_not_mem (h : separator ∉ text) : before separator text = text :=
  List.takeWhile_eq_self_iff.mpr fun _ hx => decide_eq_true fun heq => h (heq ▸ hx)

theorem before_append_of_not_mem (h : separator ∉ text) (rest : List α) :
    before separator (text ++ rest) = text ++ before separator rest :=
  List.takeWhile_append_of_pos fun _ hx => decide_eq_true fun heq => h (heq ▸ hx)

theorem before_append_cons (rest : List α) :
    before separator (text ++ separator :: rest) = before separator text := by
  have hrest : (separator :: rest).takeWhile (· ≠ separator) = [] := by simp
  rw [before, List.takeWhile_append, hrest, List.append_nil, before]
  split
  · next hlength => exact ((List.takeWhile_prefix _).eq_of_length hlength).symm
  · rfl

theorem after_append_cons (h : separator ∉ text) (rest : List α) :
    after separator (text ++ separator :: rest) = rest := by
  have htext : ∀ a ∈ text, decide (a ≠ separator) = true := fun a ha =>
    decide_eq_true fun heq => h (heq ▸ ha)
  rw [after, List.dropWhile_append_of_pos htext]
  simp

theorem after_of_not_mem (h : separator ∉ text) : after separator text = [] := by
  have htext : text.dropWhile (· ≠ separator) = [] :=
    List.dropWhile_eq_nil_iff.mpr fun a ha => decide_eq_true fun heq => h (heq ▸ ha)
  rw [after, htext, List.drop_nil]

section Rewriting

variable {rewriting : α → List α} (hseparator : rewriting separator = [separator])
  (hother : ∀ a, a ≠ separator → separator ∉ rewriting a)

include hseparator hother

/-- What comes after the first separator, when every element is rewritten on its own. -/
theorem after_flatMap (text : List α) :
    after separator (text.flatMap rewriting) = (after separator text).flatMap rewriting := by
  induction text with
  | nil => rfl
  | cons a text ih =>
    by_cases ha : a = separator
    · subst ha
      rw [List.flatMap_cons, hseparator]
      simp [after]
    · have hcons : after separator (a :: text) = after separator text := by
        rw [after, List.dropWhile_cons_of_pos (by simpa using ha), after]
      have hskip : ∀ b ∈ rewriting a, decide (b ≠ separator) = true := fun b hb =>
        decide_eq_true fun heq => hother a ha (heq ▸ hb)
      rw [hcons, ← ih, List.flatMap_cons, after, List.dropWhile_append_of_pos hskip, after]

end Rewriting

end Cut

section Split

variable {α : Type} [BEq α] [LawfulBEq α] {separator : α}

/-- A text without the separator goes to the front of the first piece. -/
theorem splitOn_append_of_not_mem {first : List α} (h : separator ∉ first) (second : List α) :
    (first ++ second).splitOn separator =
      (second.splitOn separator).modifyHead (first ++ ·) := by
  obtain ⟨piece, pieces, hsplit⟩ :=
    List.exists_cons_of_ne_nil (List.splitOn_ne_nil separator second)
  rw [hsplit, List.modifyHead_cons]
  induction first with
  | nil => exact hsplit
  | cons a first ih =>
    obtain ⟨ha, hfirst⟩ := not_or.mp (mt List.mem_cons.mpr h)
    rw [List.cons_append, List.splitOn_cons_eq_if_modifyHead,
      if_neg (by simpa using Ne.symm ha), ih hfirst]
    rfl

/-- The pieces, when every element is rewritten on its own. -/
theorem splitOn_flatMap {rewriting : α → List α} (hseparator : rewriting separator = [separator])
    (hother : ∀ a, a ≠ separator → separator ∉ rewriting a) (text : List α) :
    (text.flatMap rewriting).splitOn separator =
      (text.splitOn separator).map fun piece => piece.flatMap rewriting := by
  induction text with
  | nil => rfl
  | cons a text ih =>
    rw [List.flatMap_cons, List.splitOn_cons_eq_if_modifyHead]
    by_cases ha : a = separator
    · subst ha
      rw [hseparator, List.singleton_append, List.splitOn_cons_eq_if_modifyHead, ih]
      simp
    · obtain ⟨piece, pieces, hsplit⟩ :=
        List.exists_cons_of_ne_nil (List.splitOn_ne_nil separator text)
      rw [splitOn_append_of_not_mem (hother a ha), ih, if_neg (by simpa using ha), hsplit]
      rfl

/-- The pieces do not contain the separator. -/
theorem not_mem_of_mem_splitOn {text piece : List α} (h : piece ∈ text.splitOn separator) :
    separator ∉ piece := by
  induction text generalizing piece with
  | nil =>
    rw [List.splitOn_nil, List.mem_singleton] at h
    rw [h]
    exact List.not_mem_nil
  | cons a text ih =>
    rw [List.splitOn_cons_eq_if_modifyHead] at h
    split at h
    · rcases List.mem_cons.mp h with rfl | h
      · exact List.not_mem_nil
      · exact ih h
    · next ha =>
      obtain ⟨first, pieces, hsplit⟩ :=
        List.exists_cons_of_ne_nil (List.splitOn_ne_nil separator text)
      rw [hsplit] at h ih
      rcases List.mem_cons.mp h with rfl | h
      · rintro (_ | ⟨_, hmem⟩)
        · exact ha BEq.rfl
        · exact ih (List.mem_cons_self ..) hmem
      · exact ih (List.mem_cons_of_mem _ h)

/-- What stands in none of the pieces stands in none of their joins. -/
theorem not_mem_intercalate {α : Type} {a separator : α} (ha : a ≠ separator) :
    ∀ {pieces : List (List α)}, (∀ piece ∈ pieces, a ∉ piece) →
      a ∉ [separator].intercalate pieces := by
  intro pieces
  induction pieces with
  | nil => exact fun _ => List.not_mem_nil
  | cons piece pieces ih =>
    intro h
    have hpiece := h piece (List.mem_cons_self ..)
    have hrest := ih fun other hother => h other (List.mem_cons_of_mem _ hother)
    cases pieces with
    | nil => rwa [List.intercalate_singleton]
    | cons next pieces =>
      rw [List.intercalate_cons_cons]
      simp only [List.mem_append, List.mem_singleton, not_or]
      exact ⟨⟨hpiece, ha⟩, hrest⟩

/-- Every piece stands in the join. -/
theorem subset_intercalate {α : Type} {separator piece : List α} {pieces : List (List α)}
    (h : piece ∈ pieces) : piece ⊆ separator.intercalate pieces := by
  induction pieces with
  | nil => cases h
  | cons first pieces ih =>
    cases pieces with
    | nil =>
      rw [List.mem_singleton.mp h, List.intercalate_singleton]
      exact List.Subset.refl first
    | cons next pieces =>
      rw [List.intercalate_cons_cons]
      rcases List.mem_cons.mp h with rfl | h
      · exact fun a ha => List.mem_append_left _ (List.mem_append_left _ ha)
      · exact fun a ha => List.mem_append_right _ (ih h ha)

/-- The first piece stands at the front of the join. -/
theorem prefix_intercalate_cons (separator piece : List Char) (pieces : List (List Char)) :
    piece <+: separator.intercalate (piece :: pieces) := by
  cases pieces with
  | nil =>
    have hjoin : separator.intercalate [piece] = piece := List.intercalate_singleton
    exact hjoin.symm ▸ List.prefix_refl piece
  | cons next pieces =>
    rw [List.intercalate_cons_cons, List.append_assoc]
    exact List.prefix_append _ _

end Split

/-- The key and the value of an item. -/
def queryItem (item : List Char) : List Char × List Char := (before '=' item, after '=' item)

/-- The values that a query string gives a key, in order. -/
def queryValues (key query : List Char) : List (List Char) :=
  ((query.splitOn '&').map queryItem).filterMap fun item =>
    if item.1 = key then some item.2 else none

theorem queryItem_cons {key : List Char} (hkey : '=' ∉ key) (value : List Char) :
    queryItem (key ++ '=' :: value) = (key, value) := by
  rw [queryItem, before_append_cons, before_of_not_mem hkey, after_append_cons hkey]

/-- A value contains no separator of items. -/
theorem not_mem_queryValues {key query value : List Char} (h : value ∈ queryValues key query) :
    '&' ∉ value := by
  obtain ⟨item, hitem, hvalue⟩ := List.mem_filterMap.mp h
  obtain ⟨piece, hpiece, rfl⟩ := List.mem_map.mp hitem
  split at hvalue
  · obtain rfl := Option.some.inj hvalue
    intro hmem
    exact not_mem_of_mem_splitOn hpiece
      ((List.dropWhile_sublist _).subset (List.mem_of_mem_drop hmem))
  · cases hvalue

/-- A single item. -/
theorem queryValues_singleton {key value : List Char} (hkey : '=' ∉ key) (hamp : '&' ∉ key)
    (hvalue : '&' ∉ value) (wanted : List Char) :
    queryValues wanted (key ++ '=' :: value) = if key = wanted then [value] else [] := by
  have hitem : '&' ∉ key ++ '=' :: value := by
    simp [hamp, hvalue]
  rw [queryValues, List.splitOn_eq_singleton hitem, List.map_singleton, queryItem_cons hkey]
  split <;> simp_all

/-- The first item of a query string that begins with a key and part of its value. -/
theorem queryValues_append {key value : List Char} (hkey : '=' ∉ key) (hamp : '&' ∉ key)
    (hvalue : '&' ∉ value) (rest : List Char) :
    ∃ more values, queryValues key (key ++ '=' :: value ++ rest) = (value ++ more) :: values := by
  have hitem : '&' ∉ key ++ '=' :: value := by
    simp [hamp, hvalue]
  obtain ⟨more, pieces, hsplit⟩ := List.exists_cons_of_ne_nil (List.splitOn_ne_nil '&' rest)
  refine ⟨more, (pieces.map queryItem).filterMap fun item =>
    if item.1 = key then some item.2 else none, ?_⟩
  rw [queryValues, splitOn_append_of_not_mem hitem, hsplit, List.modifyHead_cons, List.map_cons,
    List.append_assoc, List.cons_append, queryItem_cons hkey, List.filterMap_cons, if_pos rfl]

end Library.UrlText
