/-
# The keywords of searches

The aggregation groups the associations by party type, currency and participant, in no
particular order. Each group adds its terms to three lists, unless they are there already,
and the three lists to the result, once more for every group. So the result lists each
field once only if there is one group, and then a missing currency is among the terms.
-/

import Mathlib.Data.List.Basic
import AccountLookup.Implementations.BuiltinRuns
import AccountLookup.Library.Distinct

namespace AccountLookup

open Library.Distinct

/-- What the aggregation groups associations by: party type, currency and participant. -/
abbrev KeywordGroup := JsString × JsString × JsString

def Association.keywordGroup (association : Association) : KeywordGroup :=
  (association.partyType, association.currency, association.fspId)

/-- The groups of a collection, in any order. -/
structure IsGrouping (parties : List Association) (groups : List KeywordGroup) : Prop where
  nodup : groups.Nodup
  mem_iff : ∀ group, group ∈ groups ↔ ∃ association ∈ parties, association.keywordGroup = group

/-- One of the three objects that the loop adds terms to and pushes into the result. -/
inductive KeywordsObject
  | partyType
  | currency
  | fspId

/-- The distinct terms of the three objects, and the references pushed so far. -/
structure KeywordsLoop where
  partyType : List JsString
  currency : List JsString
  fspId : List JsString
  retObj : List KeywordsObject

namespace KeywordsLoop

def start : KeywordsLoop := ⟨[], [], [], []⟩

/-- One turn of the loop. -/
def turn (s : KeywordsLoop) (term : KeywordGroup) : KeywordsLoop where
  partyType := pushNew s.partyType term.1
  currency := pushNew s.currency term.2.1
  fspId := pushNew s.fspId term.2.2
  retObj := s.retObj ++ [.partyType, .currency, .fspId]

/-- What a reference has come to when the loop is over. -/
def entry (s : KeywordsLoop) : KeywordsObject → SearchKeywords
  | .partyType => ⟨"partyType", s.partyType⟩
  | .currency => ⟨"currency", s.currency⟩
  | .fspId => ⟨"fspId", s.fspId⟩

/-- The result of the loop over the groups. -/
def keywords (groups : List KeywordGroup) : List SearchKeywords :=
  let s := groups.foldl turn start
  s.retObj.map s.entry

theorem foldl_turn (s : KeywordsLoop) (groups : List KeywordGroup) :
    groups.foldl turn s =
      { partyType := (groups.map fun group => group.1).foldl pushNew s.partyType
        currency := (groups.map fun group => group.2.1).foldl pushNew s.currency
        fspId := (groups.map fun group => group.2.2).foldl pushNew s.fspId
        retObj := s.retObj ++ groups.flatMap fun _ => [.partyType, .currency, .fspId] } := by
  induction groups generalizing s with
  | nil => simp
  | cons group groups ih =>
    rw [List.foldl_cons, ih, List.flatMap_cons, ← List.append_assoc]
    rfl

/-- Every group pushes the three objects, which in the end have the terms of all groups. -/
theorem keywords_eq (groups : List KeywordGroup) :
    keywords groups = groups.flatMap fun _ =>
      [⟨"partyType", (groups.map fun group => group.1).eraseDups⟩,
        ⟨"currency", (groups.map fun group => group.2.1).eraseDups⟩,
        ⟨"fspId", (groups.map fun group => group.2.2).eraseDups⟩] := by
  unfold keywords
  rw [foldl_turn]
  simp only [start, List.nil_append, foldl_pushNew_nil, List.map_flatMap]
  rfl

end KeywordsLoop

namespace MongoOracleProviderRepo

variable {T : Type} {parties : List Association} {groups : List KeywordGroup}

/-- The groups in the order of their first associations. -/
def groupsOf (parties : List Association) : List KeywordGroup :=
  (parties.map Association.keywordGroup).eraseDups

theorem isGrouping_groupsOf (parties : List Association) :
    IsGrouping parties (groupsOf parties) := by
  refine ⟨nodup_eraseDups _, fun group => ?_⟩
  rw [groupsOf, List.mem_eraseDups, List.mem_map]

/-- The repository runs the loop over the groups. -/
theorem getSearchKeywords_eq {w : BuiltinWorld T} (hok : w.failure .aggregate = none) :
    getSearchKeywords w = (.ok (.ok (KeywordsLoop.keywords (groupsOf w.parties))), w) := by
  rw [KeywordsLoop.keywords_eq, getSearchKeywords, hok]
  rfl

/-- The fields that the keywords are about. -/
def keywordFields : List (String × (Association → JsString)) :=
  [("partyType", Association.partyType), ("currency", Association.currency),
    ("fspId", Association.fspId)]

/-- The terms are the values of the field in the collection, each once. Where the field is
missing or `null` there is no value. -/
structure AreTermsOf (field : Association → JsString) (parties : List Association)
    (terms : List JsString) : Prop where
  nodup : terms.Nodup
  mem_iff : ∀ term, term ∈ terms ↔
    term.nullish = false ∧ ∃ association ∈ parties, field association = term

/-- Each field is listed once, with its terms. -/
structure ListsFieldsOnce (parties : List Association) (keywords : List SearchKeywords) :
    Prop where
  once : (keywords.map SearchKeywords.fieldName).Perm (keywordFields.map Prod.fst)
  terms : ∀ entry ∈ keywords, ∀ field ∈ keywordFields, field.1 = entry.fieldName →
    AreTermsOf field.2 parties entry.distinctTerms

/-- There are associations, and all have the same party type, currency and participant. -/
def OneCombination (parties : List Association) : Prop :=
  parties ≠ [] ∧ ∃ partyType currency fspId : String, ∀ association ∈ parties,
    association.partyType = .str partyType ∧ association.currency = .str currency ∧
      association.fspId = .str fspId

theorem nullish_eq_false_iff {value : JsString} : value.nullish = false ↔ ∃ s, value = .str s := by
  cases value with
  | undefined | null => simp [JsString.nullish]
  | str s => simp [JsString.nullish]

/-- A field with the same value in all associations has this value as its only term, if it is
one. -/
theorem areTermsOf_singleton_iff {field : Association → JsString} {value : JsString}
    (hne : parties ≠ []) (hall : ∀ association ∈ parties, field association = value) :
    AreTermsOf field parties [value] ↔ value.nullish = false := by
  constructor
  · intro h
    exact ((h.mem_iff value).mp (List.mem_singleton.mpr rfl)).1
  · intro hvalue
    refine ⟨List.nodup_singleton value, fun term => ?_⟩
    rw [List.mem_singleton]
    constructor
    · rintro rfl
      obtain ⟨association, hassociation⟩ := List.exists_mem_of_ne_nil parties hne
      exact ⟨hvalue, association, hassociation, hall association hassociation⟩
    · rintro ⟨-, association, hassociation, rfl⟩
      exact hall association hassociation

theorem listsFieldsOnce_singleton_iff {group : KeywordGroup} (hne : parties ≠ [])
    (hall : ∀ association ∈ parties, association.keywordGroup = group) :
    ListsFieldsOnce parties (KeywordsLoop.keywords [group]) ↔
      group.1.nullish = false ∧ group.2.1.nullish = false ∧ group.2.2.nullish = false := by
  have hfields : ∀ association ∈ parties, association.partyType = group.1 ∧
      association.currency = group.2.1 ∧ association.fspId = group.2.2 := by
    intro association hassociation
    rw [← hall association hassociation]
    exact ⟨rfl, rfl, rfl⟩
  have hpartyType := areTermsOf_singleton_iff hne fun a ha => (hfields a ha).1
  have hcurrency := areTermsOf_singleton_iff hne fun a ha => (hfields a ha).2.1
  have hfspId := areTermsOf_singleton_iff hne fun a ha => (hfields a ha).2.2
  have hkeywords : KeywordsLoop.keywords [group] = [⟨"partyType", [group.1]⟩,
      ⟨"currency", [group.2.1]⟩, ⟨"fspId", [group.2.2]⟩] := rfl
  rw [hkeywords, ← hpartyType, ← hcurrency, ← hfspId]
  constructor
  · intro h
    simpa [keywordFields] using h.terms
  · intro h
    refine ⟨List.Perm.refl _, ?_⟩
    simpa [keywordFields] using h

/-- The only group is the one that all associations have. -/
theorem eq_singleton_of_isGrouping (h : IsGrouping parties groups) {group : KeywordGroup}
    (hne : parties ≠ []) (hall : ∀ association ∈ parties, association.keywordGroup = group) :
    groups = [group] := by
  have hmem : ∀ other, other ∈ groups ↔ other = group := by
    intro other
    rw [h.mem_iff]
    constructor
    · rintro ⟨association, hassociation, rfl⟩
      exact hall association hassociation
    · rintro rfl
      obtain ⟨association, hassociation⟩ := List.exists_mem_of_ne_nil parties hne
      exact ⟨association, hassociation, hall association hassociation⟩
  apply List.perm_singleton.mp
  rw [List.perm_ext_iff_of_nodup h.nodup (List.nodup_singleton group)]
  intro other
  rw [hmem, List.mem_singleton]

theorem listsFieldsOnce_keywords_iff (h : IsGrouping parties groups) :
    ListsFieldsOnce parties (KeywordsLoop.keywords groups) ↔ OneCombination parties := by
  constructor
  · intro honce
    have hlength := honce.once.length_eq
    rw [KeywordsLoop.keywords_eq, List.length_map, List.length_flatMap] at hlength
    obtain ⟨group, rfl⟩ : ∃ group, groups = [group] := by
      have hthree : groups.length * 3 = 3 := by simpa [keywordFields] using hlength
      exact List.length_eq_one_iff.mp (by omega)
    have hall : ∀ association ∈ parties, association.keywordGroup = group := by
      intro association hassociation
      rw [← List.mem_singleton, h.mem_iff]
      exact ⟨association, hassociation, rfl⟩
    have hne : parties ≠ [] := by
      rintro rfl
      obtain ⟨association, hassociation, -⟩ := (h.mem_iff group).mp (List.mem_singleton.mpr rfl)
      cases hassociation
    obtain ⟨htype, hcurrency, hfsp⟩ := (listsFieldsOnce_singleton_iff hne hall).mp honce
    obtain ⟨partyType, htype⟩ := nullish_eq_false_iff.mp htype
    obtain ⟨currency, hcurrency⟩ := nullish_eq_false_iff.mp hcurrency
    obtain ⟨fspId, hfsp⟩ := nullish_eq_false_iff.mp hfsp
    refine ⟨hne, partyType, currency, fspId, fun association hassociation => ?_⟩
    rw [← htype, ← hcurrency, ← hfsp, ← hall association hassociation]
    exact ⟨rfl, rfl, rfl⟩
  · rintro ⟨hne, partyType, currency, fspId, hall⟩
    have hgroup : ∀ association ∈ parties,
        association.keywordGroup = (.str partyType, .str currency, .str fspId) := by
      intro association hassociation
      obtain ⟨htype, hcurrency, hfsp⟩ := hall association hassociation
      rw [Association.keywordGroup, htype, hcurrency, hfsp]
    rw [eq_singleton_of_isGrouping h hne hgroup, listsFieldsOnce_singleton_iff hne hgroup]
    exact ⟨rfl, rfl, rfl⟩

/-- **When the keywords list each field once.** There are associations, and all have one
combination of a party type, a currency and a participant, whatever the order of groups. -/
theorem listsFieldsOnce_iff (w : BuiltinWorld T) (hok : w.failure .aggregate = none) :
    ((∃ keywords, (getSearchKeywords w).1 = .ok (.ok keywords) ∧
        ListsFieldsOnce w.parties keywords) ↔ OneCombination w.parties) ∧
      ∀ groups, IsGrouping w.parties groups →
        (ListsFieldsOnce w.parties (KeywordsLoop.keywords groups) ↔ OneCombination w.parties) := by
  refine ⟨?_, fun groups h => listsFieldsOnce_keywords_iff h⟩
  rw [getSearchKeywords_eq hok, ← listsFieldsOnce_keywords_iff (isGrouping_groupsOf w.parties)]
  simp only [Except.ok.injEq, exists_eq_left']

/-- A collection of associations in one currency, one for each of the participants. -/
def inDollars (fspIds : List String) : BuiltinWorld ℕ :=
  { BuiltinWorld.empty 0 with
    parties := fspIds.map fun fspId =>
      ⟨.str fspId, .str "MSISDN", .str "27713803912", .undefined, .str "USD"⟩ }

/-- With two participants, each field is listed twice. -/
theorem not_forall_listsFieldsOnce :
    ¬ ∀ w : BuiltinWorld ℕ, w.failure .aggregate = none →
      ∃ keywords, (getSearchKeywords w).1 = .ok (.ok keywords) ∧
        ListsFieldsOnce w.parties keywords := by
  intro h
  obtain ⟨keywords, hkeywords, honce⟩ := h (inDollars ["greenbank", "bluebank"]) rfl
  obtain rfl := Except.ok.inj (Except.ok.inj hkeywords)
  exact absurd honce.once.length_eq (by decide)

/-- A collection of associations of one participant in one currency, of different parties. -/
def inOneCombination : BuiltinWorld ℕ :=
  { BuiltinWorld.empty 0 with
    parties := [⟨.str "greenbank", .str "MSISDN", .str "27713803912", .undefined, .str "USD"⟩,
      ⟨.str "greenbank", .str "MSISDN", .str "27713803913", .undefined, .str "USD"⟩,
      ⟨.str "greenbank", .str "MSISDN", .str "27713803912", .str "PERSONAL", .str "USD"⟩] }

/-- With one participant, each field is listed once, however many parties it has. -/
theorem listsFieldsOnce_inOneCombination :
    OneCombination inOneCombination.parties ∧
      ∃ keywords, (getSearchKeywords inOneCombination).1 = .ok (.ok keywords) ∧
        ListsFieldsOnce inOneCombination.parties keywords := by
  have hone : OneCombination inOneCombination.parties := by
    refine ⟨List.cons_ne_nil _ _, "MSISDN", "USD", "greenbank", fun association hassociation => ?_⟩
    simp only [inOneCombination, List.mem_cons, List.not_mem_nil, or_false] at hassociation
    rcases hassociation with rfl | rfl | rfl <;> exact ⟨rfl, rfl, rfl⟩
  exact ⟨hone, (listsFieldsOnce_iff inOneCombination rfl).1.mpr hone⟩

end MongoOracleProviderRepo

end AccountLookup
