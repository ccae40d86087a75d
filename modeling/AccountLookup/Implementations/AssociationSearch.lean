/-
# The search for associations

A search reads the matching associations page by page. Its pages start at multiples of
the page size and hold up to twenty associations, whatever the page size is, so the
pages put together are the matching associations only for a page size of twenty or for
a single page. The page size and the page index are each kept within one of their
limits, and the page size is adjusted once more after the pages have been counted.
-/

import Mathlib.Algebra.Order.Ring.Int
import Mathlib.Data.Nat.Cast.Order.Ring
import AccountLookup.Implementations.BuiltinRuns
import AccountLookup.Library.Pages

namespace AccountLookup

open Library.Pages

namespace JsNumber

/-- The number is zero or more. -/
def Nonneg : JsNumber → Prop
  | .int value => 0 ≤ value
  | .infinity positive => positive = true
  | .nan => False

theorem ceilDiv_int {n p : ℕ} (hp : 0 < p) : ceilDiv n (.int p) = .int (n ⌈/⌉ p : ℕ) := by
  have hne : (p : ℤ) ≠ 0 := by omega
  rw [ceilDiv, if_neg hne, neg_fdiv_neg hp]

end JsNumber

namespace MongoOracleProviderRepo

variable {T : Type}

/-- The two queries of a search succeed. -/
def SearchSucceeds (w : BuiltinWorld T) : Prop :=
  w.failure .findPage = none ∧ w.failure .findMatching = none

variable (w : BuiltinWorld T) (fspId partyId partyType partySubType currency : JsString)

/-- The associations that a search finds. -/
def matching : List Association :=
  w.parties.filter (searchFilter w fspId partyId partyType partySubType currency)

/-- The pages counted by the first one, put together, are what the search finds. -/
def CoversOnce (pageSize : Option JsNumber) : Prop :=
  ∃ totalPages : ℕ,
    (searchResults w fspId partyId partyType partySubType currency (some (.int 0))
      pageSize).totalPages = .int totalPages ∧
    ((List.range totalPages).flatMap fun pageIndex : ℕ =>
      (searchResults w fspId partyId partyType partySubType currency (some (.int pageIndex))
        pageSize).items) = matching w fspId partyId partyType partySubType currency

/-- The results of a search with `n` matches are in range, the page count is the quotient
of the matches by the page size, and the query for the page skips a number of documents. -/
structure InRange (n : ℕ) (pageIndex pageSize : Option JsNumber)
    (results : AssociationsSearchResults) : Prop where
  size : ∃ size : ℤ, results.pageSize = .int size ∧ 1 ≤ size ∧ size ≤ 100 ∧
    results.items.length ≤ size
  index : results.pageIndex.Nonneg
  count : ∃ count : ℤ, results.totalPages = .int count ∧
    JsNumber.ceilDiv n results.pageSize = .int count
  skip : (pageOptions pageIndex pageSize).skip.Nonneg

/-- How many of the documents a page holds. -/
def pageLength (n : ℕ) (pageIndex : JsNumber) (p : ℕ) : ℕ :=
  match pageIndex with
  | .int i => min 20 (n - i.toNat * p)
  | _ => 0

/-- Neither number is not a number, the page size is positive, and if the page holds more
than that, this leaves the number of pages as it is. -/
def SensiblePaging (n : ℕ) (pageIndex pageSize : Option JsNumber) : Prop :=
  pageIndex ≠ some .nan ∧ ∃ p : ℕ, 1 ≤ p ∧ clampPageSize pageSize = .int p ∧
    n ⌈/⌉ p = n ⌈/⌉ max p (pageLength n (clampPageIndex pageIndex) p)

variable {w fspId partyId partyType partySubType currency}

theorem searchResults_of_succeeds (hok : SearchSucceeds w) (pageIndex pageSize : Option JsNumber) :
    searchResults w fspId partyId partyType partySubType currency pageIndex pageSize =
      { pageSize := (clampPageSize pageSize).max (.int (findPage (pageOptions pageIndex pageSize)
          (matching w fspId partyId partyType partySubType currency)).length)
        pageIndex := clampPageIndex pageIndex
        totalPages := JsNumber.ceilDiv
          (matching w fspId partyId partyType partySubType currency).length
          (clampPageSize pageSize)
        items := findPage (pageOptions pageIndex pageSize)
          (matching w fspId partyId partyType partySubType currency) } := by
  simp only [searchResults, hok.1, hok.2, matching]

theorem findPage_eq_page {α : Type} {pageSize : Option JsNumber} {p : ℕ}
    (hsize : clampPageSize pageSize = .int p) (documents : List α) (i : ℕ) :
    findPage (pageOptions (some (.int i)) pageSize) documents = page p 20 documents i := by
  have hindex : clampPageIndex (some (.int i)) = .int i := by
    rw [clampPageIndex, Option.getD_some, JsNumber.max_int, Int.max_eq_left (Int.natCast_nonneg i)]
  have hskip : (pageOptions (some (.int i)) pageSize).skip = .int (i * p : ℕ) := by
    rw [pageOptions, hindex, hsize, JsNumber.mul_int, Int.natCast_mul]
  rw [findPage, hskip, skipped, Int.toNat_natCast]
  rfl

theorem coversOnce_iff_of_clamped (hok : SearchSucceeds w) {pageSize : Option JsNumber} {p : ℕ}
    (hp : 0 < p) (hsize : clampPageSize pageSize = .int p) :
    CoversOnce w fspId partyId partyType partySubType currency pageSize ↔
      p = 20 ∨ (matching w fspId partyId partyType partySubType currency).length ≤ min p 20 := by
  rw [← pages_eq_self_iff hp]
  simp only [CoversOnce, searchResults_of_succeeds hok, hsize, JsNumber.ceilDiv_int hp,
    findPage_eq_page hsize, JsNumber.int.injEq, Int.natCast_inj, exists_eq_left']
  rfl

/-- **When the pages cover the result.** The page size is twenty, or all that is found
fits into the first page. -/
theorem coversOnce_iff (w : BuiltinWorld T) (hok : SearchSucceeds w)
    (fspId partyId partyType partySubType currency : JsString) :
    (∀ p : ℕ, 1 ≤ p → p ≤ 100 →
      (CoversOnce w fspId partyId partyType partySubType currency (some (.int p)) ↔
        p = 20 ∨
          (matching w fspId partyId partyType partySubType currency).length ≤ min p 20)) ∧
    (CoversOnce w fspId partyId partyType partySubType currency none ↔
      (matching w fspId partyId partyType partySubType currency).length ≤ 20) := by
  constructor
  · intro p hp hmax
    refine coversOnce_iff_of_clamped hok hp ?_
    rw [clampPageSize, Option.getD_some, JsNumber.min_int, MAX_ENTRIES_PER_PAGE,
      Int.min_eq_left (by omega)]
  · have hdefault : clampPageSize none = .int (100 : ℕ) := rfl
    rw [coversOnce_iff_of_clamped hok (by omega) hdefault]
    omega

/-- Two associations of one participant. -/
def twoAssociations : BuiltinWorld ℕ :=
  { BuiltinWorld.empty 0 with
    parties :=
      [⟨.str "greenbank", .str "MSISDN", .str "27713803912", .undefined, .undefined⟩,
        ⟨.str "greenbank", .str "MSISDN", .str "27713803913", .undefined, .undefined⟩] }

theorem searchSucceeds_twoAssociations : SearchSucceeds twoAssociations := ⟨rfl, rfl⟩

/-- Read in pages of one, the second association is there twice. -/
theorem not_forall_coversOnce :
    ¬ ∀ (w : BuiltinWorld ℕ), SearchSucceeds w →
      ∀ (fspId partyId partyType partySubType currency : JsString) (p : ℕ), 1 ≤ p → p ≤ 100 →
        CoversOnce w fspId partyId partyType partySubType currency (some (.int p)) := by
  intro h
  obtain ⟨totalPages, hcount, hitems⟩ := h twoAssociations searchSucceeds_twoAssociations
    .null .null .null .null .null 1 le_rfl (by omega)
  obtain rfl : 2 = totalPages := Int.natCast_inj.mp (JsNumber.int.inj hcount)
  exact absurd hitems (by decide)

/-- Pages of twenty cover the two associations, and so does a page of the default size. -/
theorem coversOnce_twoAssociations :
    CoversOnce twoAssociations .null .null .null .null .null (some (.int 20)) ∧
      CoversOnce twoAssociations .null .null .null .null .null none := by
  obtain ⟨hsized, hdefault⟩ := coversOnce_iff twoAssociations searchSucceeds_twoAssociations
    .null .null .null .null .null
  exact ⟨(hsized 20 (by omega) (by omega)).mpr (Or.inl rfl), hdefault.mpr (by decide)⟩

theorem clampPageSize_cases (pageSize : Option JsNumber) :
    clampPageSize pageSize = .nan ∨ clampPageSize pageSize = .infinity false ∨
      ∃ size : ℤ, clampPageSize pageSize = .int size ∧ size ≤ 100 := by
  unfold clampPageSize MAX_ENTRIES_PER_PAGE
  rcases pageSize.getD (.int 100) with size | (_ | _) | _
  · exact Or.inr (Or.inr ⟨min size 100, rfl, Int.min_le_right ..⟩)
  · exact Or.inr (Or.inl rfl)
  · exact Or.inr (Or.inr ⟨100, rfl, le_rfl⟩)
  · exact Or.inl rfl

theorem clampPageIndex_cases (pageIndex : Option JsNumber) :
    (pageIndex = some .nan ∧ clampPageIndex pageIndex = .nan) ∨ pageIndex ≠ some .nan ∧
      (clampPageIndex pageIndex = .infinity true ∨
        ∃ index : ℤ, clampPageIndex pageIndex = .int index ∧ 0 ≤ index) := by
  unfold clampPageIndex
  rcases pageIndex with _ | index | (_ | _) | _
  · exact Or.inr ⟨by decide, Or.inr ⟨0, rfl, le_rfl⟩⟩
  · exact Or.inr ⟨by simp, Or.inr ⟨max index 0, rfl, Int.le_max_right ..⟩⟩
  · exact Or.inr ⟨by decide, Or.inr ⟨0, rfl, le_rfl⟩⟩
  · exact Or.inr ⟨by decide, Or.inl rfl⟩
  · exact Or.inl ⟨rfl, rfl⟩

/-- The length of a page, and the number of documents before it. -/
theorem findPage_of_clamped {α : Type} {pageIndex pageSize : Option JsNumber} {p : ℕ} (hp : 0 < p)
    (hsize : clampPageSize pageSize = .int p) (hindex : pageIndex ≠ some .nan)
    (documents : List α) :
    (findPage (pageOptions pageIndex pageSize) documents).length =
        pageLength documents.length (clampPageIndex pageIndex) p ∧
      (pageOptions pageIndex pageSize).skip.Nonneg := by
  have hpos : (0 : ℤ) < p := Int.natCast_pos.mpr hp
  rw [findPage, pageOptions, hsize]
  rcases clampPageIndex_cases pageIndex with ⟨hnan, -⟩ | ⟨-, hinfinity | ⟨index, hint, hnonneg⟩⟩
  · exact absurd hnan hindex
  · have hskip : (JsNumber.infinity true).mul (.int p) = .infinity true := by
      simp only [JsNumber.mul, if_neg hpos.ne', decide_eq_true hpos, beq_self_eq_true]
    rw [hinfinity, hskip]
    exact ⟨rfl, rfl⟩
  · obtain ⟨i, rfl⟩ := Int.eq_ofNat_of_zero_le hnonneg
    rw [hint, JsNumber.mul_int, ← Int.natCast_mul]
    refine ⟨?_, Int.natCast_nonneg _⟩
    simp only [skipped, pageLength, Int.toNat_natCast, List.length_take, List.length_drop]

theorem length_findPage_le {α : Type} (options : PageOptions) (documents : List α) :
    (findPage options documents).length ≤ documents.length := by
  have hskipped : (skipped options.skip documents).length ≤ documents.length := by
    unfold skipped
    split
    · exact List.drop_sublist .. |>.length_le
    · exact Nat.zero_le _
    · exact le_rfl
  exact (List.length_take_le' ..).trans hskipped

/-- A skip that is in range has a whole page size and an index that is a number. -/
theorem clamped_of_skip {pageIndex pageSize : Option JsNumber}
    (hskip : (pageOptions pageIndex pageSize).skip.Nonneg) :
    pageIndex ≠ some .nan ∧ ∃ size : ℤ, clampPageSize pageSize = .int size ∧ size ≤ 100 := by
  rw [pageOptions] at hskip
  rcases clampPageIndex_cases pageIndex with ⟨-, hnan⟩ | ⟨hindex, hclamped⟩
  · rw [hnan] at hskip
    exact hskip.elim
  refine ⟨hindex, ?_⟩
  rcases clampPageSize_cases pageSize with hsize | hsize | hsize
  · rw [hsize] at hskip
    rcases hclamped with hinfinity | ⟨index, hint, -⟩
    · rw [hinfinity] at hskip
      exact hskip.elim
    · rw [hint] at hskip
      exact hskip.elim
  · rw [hsize] at hskip
    rcases hclamped with hinfinity | ⟨index, hint, hnonneg⟩
    · rw [hinfinity] at hskip
      cases hskip
    · rw [hint, JsNumber.mul] at hskip
      split at hskip
      · exact hskip.elim
      · next hne =>
        have hpos : 0 < index := by omega
        rw [decide_eq_true hpos] at hskip
        cases hskip
  · exact hsize

/-- A page size below one gives no positive page count. -/
theorem ceilDiv_nonpos {n : ℕ} {size count : ℤ} (hsize : size ≤ 0)
    (h : JsNumber.ceilDiv n (.int size) = .int count) : count ≤ 0 := by
  simp only [JsNumber.ceilDiv] at h
  split at h
  · split at h
    · cases h
    · cases h
  · obtain rfl := JsNumber.int.inj h
    have hquotient : 0 ≤ (-(n : ℤ)).fdiv size :=
      Int.fdiv_nonneg_of_nonpos_of_nonpos (by omega) hsize
    omega

/-- **When the paging arithmetic stays in range.** -/
theorem inRange_iff (w : BuiltinWorld T) (hok : SearchSucceeds w)
    (fspId partyId partyType partySubType currency : JsString)
    (pageIndex pageSize : Option JsNumber) :
    InRange (matching w fspId partyId partyType partySubType currency).length pageIndex pageSize
        (searchResults w fspId partyId partyType partySubType currency pageIndex pageSize) ↔
      SensiblePaging (matching w fspId partyId partyType partySubType currency).length
        pageIndex pageSize := by
  rw [searchResults_of_succeeds hok]
  generalize matching w fspId partyId partyType partySubType currency = documents
  constructor
  · intro h
    obtain ⟨hindex, size, hsize, hmax⟩ := clamped_of_skip h.skip
    obtain ⟨returned, hreturned, hone, -, -⟩ := h.size
    obtain ⟨count, hcount, hquotient⟩ := h.count
    dsimp only at hreturned hcount hquotient
    rw [hsize] at hreturned hcount hquotient
    rw [JsNumber.max_int] at hreturned hquotient
    by_cases hpositive : 1 ≤ size
    · obtain ⟨p, rfl⟩ := Int.eq_ofNat_of_zero_le (show 0 ≤ size by omega)
      have hp : 0 < p := by omega
      refine ⟨hindex, p, hp, hsize, ?_⟩
      rw [(findPage_of_clamped hp hsize hindex _).1, ← Nat.cast_max,
        JsNumber.ceilDiv_int (by omega), ← hcount, JsNumber.ceilDiv_int hp] at hquotient
      exact (Int.natCast_inj.mp (JsNumber.int.inj hquotient)).symm
    · -- the page is what makes the returned size positive, so there is a match to count
      have hcountNonpos : count ≤ 0 := ceilDiv_nonpos (by omega) hcount
      obtain rfl := JsNumber.int.inj hreturned
      have hlength := length_findPage_le (pageOptions pageIndex pageSize) documents
      rw [Int.max_eq_right (by omega), JsNumber.ceilDiv_int (by omega)] at hquotient
      have hpages : ¬ documents.length ⌈/⌉
          (findPage (pageOptions pageIndex pageSize) documents).length ≤ 0 := by
        rw [ceilDiv_le_iff_le_mul (by omega)]
        omega
      have hequal := JsNumber.int.inj hquotient
      omega
  · rintro ⟨hindex, p, hp, hsize, hpages⟩
    obtain ⟨hlength, hskip⟩ := findPage_of_clamped hp hsize hindex documents
    have hheld : (findPage (pageOptions pageIndex pageSize) documents).length ≤ 20 :=
      List.length_take_le ..
    have hmax : p ≤ 100 := by
      rcases clampPageSize_cases pageSize with h | h | ⟨size, h, hmax⟩
      · cases hsize.symm.trans h
      · cases hsize.symm.trans h
      · obtain rfl := JsNumber.int.inj (hsize.symm.trans h)
        omega
    have hreturned : (clampPageSize pageSize).max
        (.int (findPage (pageOptions pageIndex pageSize) documents).length) =
          .int (max p (pageLength documents.length (clampPageIndex pageIndex) p) : ℕ) := by
      rw [hsize, hlength, JsNumber.max_int, Nat.cast_max]
    have hcount : JsNumber.ceilDiv documents.length (clampPageSize pageSize) =
        .int (documents.length ⌈/⌉ p : ℕ) := by
      rw [hsize, JsNumber.ceilDiv_int hp]
    refine ⟨⟨_, hreturned, by omega, by omega, ?_⟩, ?_, ⟨_, hcount, ?_⟩, hskip⟩
    · dsimp only
      omega
    · rcases clampPageIndex_cases pageIndex with ⟨hnan, -⟩ | ⟨-, h | ⟨index, h, hnonneg⟩⟩
      · exact absurd hnan hindex
      · exact h ▸ rfl
      · exact h ▸ hnonneg
    · rw [hreturned, JsNumber.ceilDiv_int (by omega), hpages]

/-- A page size of zero is not raised to one. -/
theorem not_forall_inRange :
    ¬ ∀ (w : BuiltinWorld ℕ), SearchSucceeds w →
      ∀ (fspId partyId partyType partySubType currency : JsString)
        (pageIndex pageSize : Option JsNumber),
        InRange (matching w fspId partyId partyType partySubType currency).length pageIndex
          pageSize
          (searchResults w fspId partyId partyType partySubType currency pageIndex pageSize) := by
  intro h
  obtain ⟨count, hcount, -⟩ := (h twoAssociations searchSucceeds_twoAssociations
    .null .null .null .null .null none (some (.int 0))).count
  cases hcount

/-- The first page of the default size is in range. -/
theorem inRange_twoAssociations :
    InRange 2 none none
      (searchResults twoAssociations .null .null .null .null .null none none) :=
  (inRange_iff twoAssociations searchSucceeds_twoAssociations .null .null .null .null .null
    none none).mpr ⟨by decide, 100, by omega, rfl, by decide⟩

end MongoOracleProviderRepo

end AccountLookup
