/-
# Reading a list page by page

Page number `i` starts after `i` strides and holds up to a limit of elements, and the
pages are counted as if each held one stride of them. Where stride and limit differ,
the pages lose elements or repeat them, except that a list that fits into one page is
read correctly.
-/

import Mathlib.Algebra.Order.Floor.Div

namespace Library.Pages

universe u

variable {α : Type u} (stride limit : ℕ)

/-- The page with a number. -/
def page (elements : List α) (i : ℕ) : List α := (elements.drop (i * stride)).take limit

/-- All pages, one after the other. -/
def pages (elements : List α) : List α :=
  (List.range (elements.length ⌈/⌉ stride)).flatMap (page stride limit elements)

variable {stride limit}

/-- After the first stride there is one page less. -/
theorem ceilDiv_of_pos (hstride : 0 < stride) {n : ℕ} (hn : 0 < n) :
    n ⌈/⌉ stride = (n - stride) ⌈/⌉ stride + 1 := by
  refine eq_of_forall_ge_iff fun count => ?_
  rw [ceilDiv_le_iff_le_mul hstride]
  cases count with
  | zero =>
    refine iff_of_false ?_ (Nat.not_succ_le_zero _)
    rw [Nat.mul_zero]
    omega
  | succ count =>
    rw [Nat.add_le_add_iff_right, ceilDiv_le_iff_le_mul hstride, Nat.mul_succ]
    omega

/-- The count is the quotient rounded towards positive infinity. -/
theorem neg_fdiv_neg (hstride : 0 < stride) (n : ℕ) :
    -(-(n : ℤ)).fdiv stride = (n ⌈/⌉ stride : ℕ) := by
  have hpos : (0 : ℤ) < stride := Int.natCast_pos.mpr hstride
  have hle : n ≤ stride * (n ⌈/⌉ stride) := (ceilDiv_le_iff_le_mul hstride).mp le_rfl
  have hlt : stride * (n ⌈/⌉ stride) < n + stride := by
    cases hcount : n ⌈/⌉ stride with
    | zero => omega
    | succ count =>
      have hmore : ¬ n ≤ stride * count := by
        rw [← ceilDiv_le_iff_le_mul hstride, hcount]
        omega
      rw [Nat.mul_succ]
      omega
  rw [Int.fdiv_eq_ediv_of_nonneg _ hpos.le, neg_eq_iff_eq_neg, Int.ediv_eq_iff_of_pos hpos]
  have hle' : (n : ℤ) ≤ stride * (n ⌈/⌉ stride : ℕ) := by exact_mod_cast hle
  have hlt' : stride * (n ⌈/⌉ stride : ℕ) < (n : ℤ) + stride := by exact_mod_cast hlt
  rw [Int.neg_mul, Int.mul_comm]
  constructor
  · omega
  · omega

theorem pages_nil : pages stride limit ([] : List α) = [] := by
  rw [pages, List.length_nil, zero_ceilDiv]
  rfl

/-- The first page, and the pages of what follows the first stride. -/
theorem pages_eq (hstride : 0 < stride) {elements : List α} (hne : elements ≠ []) :
    pages stride limit elements =
      elements.take limit ++ pages stride limit (elements.drop stride) := by
  have hpos : 0 < elements.length := List.length_pos_of_ne_nil hne
  have hpage : ∀ i, page stride limit elements (i + 1) =
      page stride limit (elements.drop stride) i := by
    intro i
    rw [page, page, List.drop_drop, Nat.succ_mul, Nat.add_comm]
  rw [pages, ceilDiv_of_pos hstride hpos, List.range_succ_eq_map, List.flatMap_cons,
    List.flatMap_map, pages, List.length_drop]
  simp only [hpage]
  rw [page, Nat.zero_mul, List.drop_zero]

/-- Induction along the strides of a list. -/
theorem stride_induction (hstride : 0 < stride) {motive : List α → Prop} (nil : motive [])
    (more : ∀ elements, elements ≠ [] → motive (elements.drop stride) → motive elements)
    (elements : List α) : motive elements := by
  induction hlength : elements.length using Nat.strong_induction_on generalizing elements with
  | _ n ih =>
    by_cases hne : elements = []
    · exact hne ▸ nil
    · have hpos := List.length_pos_of_ne_nil hne
      refine more elements hne (ih _ ?_ (elements.drop stride) rfl)
      rw [List.length_drop]
      omega

/-- Pages of one stride each are the list. -/
theorem pages_self (hstride : 0 < stride) (elements : List α) :
    pages stride stride elements = elements := by
  induction elements using stride_induction hstride with
  | nil => exact pages_nil
  | more elements hne ih => rw [pages_eq hstride hne, ih, List.take_append_drop]

/-- A list that fits into the first page is read correctly. -/
theorem pages_of_length_le (hstride : 0 < stride) {elements : List α}
    (hfirst : elements.length ≤ stride) (hlimit : elements.length ≤ limit) :
    pages stride limit elements = elements := by
  by_cases hne : elements = []
  · rw [hne, pages_nil]
  · rw [pages_eq hstride hne, List.drop_of_length_le hfirst, pages_nil,
      List.take_of_length_le hlimit, List.append_nil]

/-- Short pages lose elements. -/
theorem length_pages_le (hstride : 0 < stride) (h : limit ≤ stride) (elements : List α) :
    (pages stride limit elements).length ≤ elements.length := by
  induction elements using stride_induction hstride with
  | nil => rw [pages_nil]
  | more elements hne ih =>
    rw [pages_eq hstride hne, List.length_append, List.length_take]
    rw [List.length_drop] at ih
    omega

/-- Long pages repeat elements. -/
theorem le_length_pages (hstride : 0 < stride) (h : stride ≤ limit) (elements : List α) :
    elements.length ≤ (pages stride limit elements).length := by
  induction elements using stride_induction hstride with
  | nil => rw [pages_nil]
  | more elements hne ih =>
    rw [pages_eq hstride hne, List.length_append, List.length_take]
    rw [List.length_drop] at ih
    omega

/-- **When the pages are the list.** The pages hold one stride each, or the list fits
into the first page. -/
theorem pages_eq_self_iff (hstride : 0 < stride) (elements : List α) :
    pages stride limit elements = elements ↔
      stride = limit ∨ elements.length ≤ min stride limit := by
  constructor
  · intro heq
    by_contra hnot
    rw [not_or, not_le] at hnot
    have hne : elements ≠ [] := by
      rintro rfl
      exact absurd hnot.2 (Nat.not_lt_zero _)
    have hlength := congrArg List.length heq
    rw [pages_eq hstride hne, List.length_append, List.length_take] at hlength
    rcases Nat.lt_or_gt_of_ne hnot.1 with hlong | hshort
    · have hrest := le_length_pages (α := α) hstride hlong.le (elements.drop stride)
      rw [List.length_drop] at hrest
      omega
    · have hrest := length_pages_le (α := α) hstride hshort.le (elements.drop stride)
      rw [List.length_drop] at hrest
      omega
  · rintro (rfl | hfits)
    · exact pages_self hstride elements
    · exact pages_of_length_le hstride (by omega) (by omega)

end Library.Pages
