/-
# The texts of a search

A search hands the texts for the party id and the sub type to the database, as they are,
as regular expressions. Which expressions the database accepts and what it finds with
them is its own affair; what is relied on is that a text without operators is accepted
and that an accepted text finds what it is written for. Then a search is one for
substrings exactly as long as the texts have no operators.
-/

import AccountLookup.Implementations.AssociationSearch
import AccountLookup.Library.RegexText

namespace AccountLookup

open Library Library.Regex

/-- What `$regex` with option `i` does in the database. The option is in `reading.fold`, the
database's own case folding, by which `search_iff` compares a pattern with a value; folding by
small letters is one example. Of the folding no more is used than `fold_dot`. -/
structure RegexEngine where
  reading : Reading
  /-- What follows an opening brace begins with a count. -/
  opensCount : List Char → Bool
  /-- How many bytes a pattern may have. -/
  maxPatternSize : ℕ
  /-- The search with a pattern; there is none with an ill-formed one. -/
  compile : (pattern : String) → Option (String → Bool)
  /-- A text without operators is accepted if it has no NUL and is not too long. -/
  accepts_iff : ∀ pattern : String, OperatorFree pattern.toList →
    countFree opensCount pattern.toList = true →
    ((compile pattern).isSome = true ↔
      '\x00' ∉ pattern.toList ∧ pattern.utf8ByteSize ≤ maxPatternSize)
  /-- An accepted pattern finds what the expression finds that it is written for. -/
  search_iff : ∀ (pattern : String) (search : String → Bool) (r : Regex Char),
    compile pattern = some search → countFree opensCount pattern.toList = true →
    Writes reading .choice pattern.toList r →
    ∀ value, search value = true ↔ r.Finds value.toList
  /-- A letter is not a dot in another case. -/
  fold_dot : reading.fold 'a' ≠ reading.fold '.'

namespace RegexEngine

variable (engine : RegexEngine)

/-- The query of an ill-formed pattern fails, so nothing matches. -/
def matchesRegex (regex : String) : JsString → Bool
  | .str value => (engine.compile regex).any fun search => search value
  | _ => false

/-- The property contains the text, if case is ignored as the database ignores it. -/
def contains (text : String) : JsString → Bool
  | .str value => decide (engine.reading.Within text.toList value.toList)
  | _ => false

/-- The text finds as a regular expression what contains it. -/
def FindsSubstrings (text : String) : Prop :=
  ∀ value, engine.matchesRegex text value = engine.contains text value

/-- The text is one that a regular expression takes literally. -/
structure Literal (text : String) : Prop where
  operatorFree : OperatorFree text.toList
  noCount : countFree engine.opensCount text.toList = true
  noNull : '\x00' ∉ text.toList
  fits : text.utf8ByteSize ≤ engine.maxPatternSize

/-- It is known what the text finds: it is ill-formed, or it is written with the
operators that have been described, and without counts. -/
def Understood (text : String) : Prop :=
  engine.compile text = none ∨
    countFree engine.opensCount text.toList = true ∧
      ∃ r, Writes engine.reading .choice text.toList r

/-- A database with the engine and the associations. -/
def storing {T : Type} (w : BuiltinWorld T) (parties : List Association) : BuiltinWorld T :=
  { w with parties := parties, matchesRegex := engine.matchesRegex }

variable {engine} {text : String}

theorem contains_self (text : String) : engine.contains text (.str text) = true :=
  decide_eq_true (List.infix_refl _)

theorem findsSubstrings_iff_of_compile {search : String → Bool}
    (hcompile : engine.compile text = some search) :
    engine.FindsSubstrings text ↔
      ∀ value : String, search value = true ↔
        engine.reading.Within text.toList value.toList := by
  constructor
  · intro h value
    have hvalue := h (.str value)
    simp only [matchesRegex, hcompile, Option.any_some, contains] at hvalue
    rw [hvalue, decide_eq_true_iff]
  · intro h value
    cases value with
    | undefined => rfl
    | null => rfl
    | str value =>
      rw [Bool.eq_iff_iff]
      simp only [matchesRegex, hcompile, Option.any_some, contains, decide_eq_true_iff, h value]

theorem findsSubstrings_iff_of_writes {search : String → Bool} {r : Regex Char}
    (hcompile : engine.compile text = some search)
    (hcount : countFree engine.opensCount text.toList = true)
    (hr : Writes engine.reading .choice text.toList r) :
    engine.FindsSubstrings text ↔ OperatorFree text.toList := by
  rw [findsSubstrings_iff_of_compile hcompile, ← hr.finds_within_iff engine.fold_dot]
  simp only [engine.search_iff text search r hcompile hcount hr]
  constructor
  · intro h value
    simpa using h (String.ofList value)
  · intro h value
    exact h value.toList

/-- A literal text finds what contains it. -/
theorem Literal.findsSubstrings (h : engine.Literal text) : engine.FindsSubstrings text := by
  obtain ⟨search, hcompile⟩ := Option.isSome_iff_exists.mp
    ((engine.accepts_iff text h.operatorFree h.noCount).mpr ⟨h.noNull, h.fits⟩)
  obtain ⟨r, hr⟩ := exists_writes_of_dotted engine.reading h.operatorFree.dotted
  exact (findsSubstrings_iff_of_writes hcompile h.noCount hr).mpr h.operatorFree

/-- A text that finds itself is accepted. -/
theorem FindsSubstrings.exists_search (h : engine.FindsSubstrings text) :
    ∃ search, engine.compile text = some search := by
  have hself := h (.str text)
  rw [contains_self, matchesRegex] at hself
  cases hcompile : engine.compile text with
  | none =>
    rw [hcompile] at hself
    cases hself
  | some search => exact ⟨search, rfl⟩

theorem Understood.findsSubstrings_iff (h : engine.Understood text) :
    engine.FindsSubstrings text ↔ engine.Literal text := by
  refine ⟨fun hfinds => ?_, Literal.findsSubstrings⟩
  obtain ⟨search, hcompile⟩ := hfinds.exists_search
  rcases h with hnone | ⟨hcount, r, hr⟩
  · cases hcompile.symm.trans hnone
  · have hfree := (findsSubstrings_iff_of_writes hcompile hcount hr).mp hfinds
    obtain ⟨hnull, hfits⟩ := (engine.accepts_iff text hfree hcount).mp (by rw [hcompile]; rfl)
    exact ⟨hfree, hcount, hnull, hfits⟩

end RegexEngine

namespace MongoOracleProviderRepo

open RegexEngine

variable {T : Type}

/-- The texts that a search names. -/
def namedTexts (partyId partySubType : JsString) : List String :=
  partyId.nonEmpty?.toList ++ partySubType.nonEmpty?.toList

/-- Whatever is stored, the search finds the associations that contain the texts. -/
def SubstringSearch (engine : RegexEngine) (w : BuiltinWorld T) (partyId partySubType : JsString) :
    Prop :=
  ∀ parties : List Association,
    matching (engine.storing w parties) .null partyId .null partySubType .null =
      parties.filter fun association =>
        searchCondition partyId (fun text => engine.contains text association.partyId) &&
          searchCondition partySubType (fun text => engine.contains text association.partySubType)

variable {engine : RegexEngine} {w : BuiltinWorld T} {partyId partySubType : JsString}

/-- What a search for texts finds. -/
theorem matching_storing (parties : List Association) :
    matching (engine.storing w parties) .null partyId .null partySubType .null =
      parties.filter fun association =>
        searchCondition partyId (fun text => engine.matchesRegex text association.partyId) &&
          searchCondition partySubType fun text =>
            engine.matchesRegex text association.partySubType := by
  have hnull : ∀ condition, searchCondition .null condition = true := fun _ => rfl
  refine List.filter_congr fun association _ => ?_
  simp only [searchFilter, hnull, Bool.true_and, Bool.and_true]
  rfl

/-- Two conditions filter all lists alike only if they are one. -/
theorem forall_filter_eq_iff {α : Type} {p q : α → Bool} :
    (∀ elements : List α, elements.filter p = elements.filter q) ↔ ∀ a, p a = q a := by
  constructor
  · intro h a
    have hsingle := h [a]
    cases hp : p a with
    | true =>
      cases hq : q a with
      | true => rfl
      | false => simp [hp, hq] at hsingle
    | false =>
      cases hq : q a with
      | true => simp [hp, hq] at hsingle
      | false => rfl
  · intro h elements
    exact List.filter_congr fun a _ => h a

/-- A search for texts is one for substrings if each of its texts finds substrings; and only
then, because the texts themselves may be stored. -/
theorem substringSearch_iff_findsSubstrings :
    SubstringSearch engine w partyId partySubType ↔
      ∀ text ∈ namedTexts partyId partySubType, engine.FindsSubstrings text := by
  have hsearch : SubstringSearch engine w partyId partySubType ↔ ∀ v v' : JsString,
      (searchCondition partyId (engine.matchesRegex · v) &&
        searchCondition partySubType (engine.matchesRegex · v')) =
      (searchCondition partyId (engine.contains · v) &&
        searchCondition partySubType (engine.contains · v')) := by
    simp only [SubstringSearch, matching_storing, forall_filter_eq_iff]
    constructor
    · intro h v v'
      exact h ⟨.null, .null, v, v', .null⟩
    · intro h association
      exact h association.partyId association.partySubType
  rw [hsearch]
  unfold searchCondition namedTexts
  cases partyId.nonEmpty? with
  | none =>
    cases partySubType.nonEmpty? with
    | none => simp
    | some second =>
      simp only [Option.all_none, Option.all_some, Bool.true_and, Option.toList_none,
        Option.toList_some, List.nil_append, List.mem_singleton, forall_eq]
      exact ⟨fun h v => h .null v, fun h _ v => h v⟩
  | some first =>
    cases partySubType.nonEmpty? with
    | none =>
      simp only [Option.all_none, Option.all_some, Bool.and_true, Option.toList_none,
        Option.toList_some, List.append_nil, List.mem_singleton, forall_eq]
      exact ⟨fun h v => h v .null, fun h v _ => h v⟩
    | some second =>
      simp only [Option.all_some, Option.toList_some, List.singleton_append, List.mem_cons,
        List.not_mem_nil, or_false, forall_eq_or_imp, forall_eq]
      constructor
      · intro h
        -- both texts are found in an association that holds them
        have hown := h (.str first) (.str second)
        simp only [contains_self, Bool.and_true, Bool.and_eq_true] at hown
        refine ⟨fun v => ?_, fun v => ?_⟩
        · simpa [hown.2, contains_self] using h v (.str second)
        · simpa [hown.1, contains_self] using h (.str first) v
      · rintro ⟨hfirst, hsecond⟩ v v'
        rw [hfirst v, hsecond v']

/-- **When a search for texts is one for substrings.** Literal texts are always enough, and
where it is known what the texts find, they are needed. -/
theorem substringSearch_iff (engine : RegexEngine) (w : BuiltinWorld T)
    (partyId partySubType : JsString) :
    ((∀ text ∈ namedTexts partyId partySubType, engine.Literal text) →
        SubstringSearch engine w partyId partySubType) ∧
      ((∀ text ∈ namedTexts partyId partySubType, engine.Understood text) →
        (SubstringSearch engine w partyId partySubType ↔
          ∀ text ∈ namedTexts partyId partySubType, engine.Literal text)) := by
  simp only [substringSearch_iff_findsSubstrings]
  refine ⟨fun h text htext => (h text htext).findsSubstrings, fun h => ?_⟩
  exact forall_congr' fun text => forall_congr' fun htext => (h text htext).findsSubstrings_iff

/-! ## A database that accepts plain texts only -/

/-- Characters are compared by their small letters. -/
def plainReading : Reading where
  fold := Char.toLower
  setOf body c := c ∈ body
  classOf _ _ := False

/-- A brace with a digit after it opens a count. -/
def digitFollows (rest : List Char) : Bool := rest.head?.any Char.isDigit

/-- The pattern is accepted. -/
def isPlain (pattern : String) : Bool :=
  pattern.toList.all (fun c => decide (c ∉ operators)) &&
    countFree digitFollows pattern.toList &&
    decide ('\x00' ∉ pattern.toList) && decide (pattern.utf8ByteSize ≤ 32764)

def plainSearch (pattern : String) : Option (String → Bool) :=
  if isPlain pattern then
    some fun value => decide (plainReading.Within pattern.toList value.toList)
  else none

theorem isPlain_iff {pattern : String} :
    isPlain pattern = true ↔ OperatorFree pattern.toList ∧
      countFree digitFollows pattern.toList = true ∧
      '\x00' ∉ pattern.toList ∧ pattern.utf8ByteSize ≤ 32764 := by
  simp only [isPlain, Bool.and_eq_true, decide_eq_true_iff, List.all_eq_true, OperatorFree,
    and_assoc]

theorem plainSearch_eq_some {pattern : String} {search : String → Bool}
    (h : plainSearch pattern = some search) :
    isPlain pattern = true ∧
      search = fun value => decide (plainReading.Within pattern.toList value.toList) := by
  unfold plainSearch at h
  split at h
  · next hplain => exact ⟨hplain, (Option.some.inj h).symm⟩
  · cases h

def plainEngine : RegexEngine where
  reading := plainReading
  opensCount := digitFollows
  maxPatternSize := 32764
  compile := plainSearch
  accepts_iff pattern hfree hcount := by
    rw [plainSearch]
    split
    · next hplain =>
      obtain ⟨-, -, hfits⟩ := isPlain_iff.mp hplain
      exact iff_of_true rfl hfits
    · next hnot =>
      refine iff_of_false Bool.false_ne_true fun hfits => hnot ?_
      exact isPlain_iff.mpr ⟨hfree, hcount, hfits⟩
  search_iff pattern search r hcompile _ hr value := by
    obtain ⟨hplain, rfl⟩ := plainSearch_eq_some hcompile
    rw [decide_eq_true_iff, hr.finds_iff_of_operatorFree (isPlain_iff.mp hplain).1]
  fold_dot := by decide

/-- A phone number with its plus is ill-formed: even stored, it is not found. -/
theorem not_forall_substringSearch :
    ¬ ∀ (engine : RegexEngine) (w : BuiltinWorld ℕ) (partyId partySubType : String),
      partyId ≠ "" → partySubType ≠ "" →
      SubstringSearch engine w (.str partyId) (.str partySubType) := by
  intro h
  have hsearch := h plainEngine (BuiltinWorld.empty 0) "+27713803912" "WORK" (by decide) (by decide)
  have hfinds := substringSearch_iff_findsSubstrings.mp hsearch "+27713803912" (by decide)
  obtain ⟨search, hcompile⟩ := hfinds.exists_search
  have hplain : isPlain "+27713803912" = true :=
    (plainSearch_eq_some (show plainSearch "+27713803912" = some search from hcompile)).1
  exact absurd hplain (by decide)

/-- Without operators the texts find what contains them. -/
theorem substringSearch_plain :
    SubstringSearch plainEngine (BuiltinWorld.empty 0 : BuiltinWorld ℕ) (.str "27713803912")
      (.str "WORK") := by
  refine (substringSearch_iff plainEngine (BuiltinWorld.empty 0) _ _).1 fun text htext => ?_
  have hplain : isPlain text = true := by
    have htexts : text ∈ ["27713803912", "WORK"] := htext
    rcases List.mem_cons.mp htexts with rfl | hrest
    · decide
    · obtain rfl := List.mem_singleton.mp hrest
      decide
  obtain ⟨hfree, hcount, hnull, hfits⟩ := isPlain_iff.mp hplain
  exact ⟨hfree, hcount, hnull, hfits⟩

end MongoOracleProviderRepo

end AccountLookup
