/-
# Identifiers in the path of a lookup

The client writes the two identifiers of a party into a path as they are. The lookup reads
back what was written exactly when neither holds a character that the URL or the route gives
a meaning to, neither is a dot segment, and the end of the reference is kept. In every other
case something is dropped, taken for a separator or shortened by decoding, and what is lost
is never made up for.
-/

import AccountLookup.Service.LookupUrls

namespace AccountLookup

open Library UrlText PercentDecoding UrlReference

namespace AccountLookupHttpClient

open AccountLookupExpressRoutes

/-- What is left of a text after the fixed path, up to the fragment. -/
def sentText (rest : List Char) : List Char := before '#' (cleanedEnd rest)

/-- The segment of the mount. -/
def mountSegment : List Char := "account-lookup".toList

theorem sentText_fixedPath (rest : List Char) :
    before '#' (cleaned (fixedPath ++ rest)) = fixedPath ++ sentText rest := by
  have hstart : (fixedPath ++ rest).dropWhile isControlOrSpace = fixedPath ++ rest :=
    List.dropWhile_cons_of_neg (by decide)
  have hfixed : cleanedEnd (fixedPath ++ rest) = fixedPath ++ cleanedEnd rest := by
    have hname : fixedPath = "/account-lookup".toList ++ ['/'] := by decide
    have hslash : ∀ rest : List Char, fixedPath ++ rest =
        "/account-lookup".toList ++ '/' :: rest := by
      intro rest
      rw [hname, List.append_assoc, List.singleton_append]
    have htabs : ("/account-lookup".toList.filter fun c => !isTabOrNewline c) =
        "/account-lookup".toList := by decide
    rw [hslash, cleanedEnd_append_cons (by decide), htabs, hslash]
  rw [cleaned, hstart, hfixed, before_append_of_not_mem (by decide), sentText]

theorem writtenSegments_fixedPath (path : List Char) :
    writtenSegments (fixedPath ++ path) = mountSegment :: (path.map asSlash).splitOn '/' := by
  have hfixed : (fixedPath ++ path).map asSlash =
      [] ++ '/' :: (mountSegment ++ '/' :: path.map asSlash) := by
    rw [List.map_append]
    rfl
  rw [writtenSegments, hfixed, List.splitOn_append_cons_self_of_not_mem (by decide),
    List.splitOn_append_cons_self_of_not_mem (by decide)]
  rfl

/-- The segments of the path that is sent. -/
theorem splitOn_path_fixedPath (rest : List Char) :
    (target (fixedPath ++ rest)).path.splitOn '/' =
      [] :: (resolveDots [] (mountSegment ::
        ((before '?' (sentText rest)).map asSlash).splitOn '/')).map (encode pathSet) := by
  rw [splitOn_path, sentText_fixedPath, before_append_of_not_mem (by decide),
    writtenSegments_fixedPath]

/-- The query string that is sent. -/
theorem query_fixedPath (rest : List Char) :
    (target (fixedPath ++ rest)).query =
      if '?' ∈ sentText rest then some (encode querySet (after '?' (sentText rest))) else none := by
  have hfixed : '?' ∉ fixedPath := by decide
  have hafter : after '?' (fixedPath ++ sentText rest) = after '?' (sentText rest) := by
    rw [after, List.dropWhile_append_of_pos, after]
    intro c hc
    exact decide_eq_true fun heq => hfixed (heq ▸ hc)
  simp only [target, sentText_fixedPath, List.mem_append, hfixed, false_or, hafter]

/-- What follows a `?` does not come into the path. -/
theorem before_sentText_append (text rest : List Char) :
    (before '?' (sentText (text ++ '?' :: rest))).Sublist text := by
  rw [sentText, before_comm, cleanedEnd_append_cons (by decide), before_append_cons]
  exact (before_isPrefix.trans before_isPrefix).sublist.trans List.filter_sublist

theorem sentText_sublist (text : List Char) : (sentText text).Sublist text :=
  before_isPrefix.sublist.trans (cleanedEnd_sublist text)

theorem before_sentText (text : List Char) : (before '?' (sentText text)).Sublist text :=
  before_isPrefix.sublist.trans (sentText_sublist text)

/-- The characters that a path does not keep: tabs and line ends, `#`, `%`, both slashes and
`?`. -/
def lostCodes : List Nat := [0x09, 0x0A, 0x0D, 0x23, 0x25, 0x2F, 0x3F, 0x5C]

/-- A text that a path keeps as one segment. -/
structure Plain (text : List Char) : Prop where
  kept : ∀ c ∈ text, c.toNat ∉ lostCodes
  notDots : ¬ IsDots text

/-- What the route matches below the mount, with an empty segment before or after it. -/
theorem matchSegments_cases {segments : List (List Char)} {partyType partyId : List Char}
    (h : matchSegments ([] :: segments) = some (partyType, partyId)) :
    ∃ mount leading trailing, segments = mount :: (leading ++ partyType :: partyId :: trailing) ∧
      mount.map Char.toLower = mountSegment := by
  cases segments with
  | nil => cases h
  | cons mount rest =>
    simp only [matchSegments] at h
    split at h
    · next hmount =>
      obtain ⟨leading, hleading⟩ : ∃ leading,
          rest = leading ++ if rest.head? = some [] then rest.tail else rest := by
        split
        · next hhead =>
          obtain ⟨tail, rfl⟩ := List.head?_eq_some_iff.mp hhead
          exact ⟨[[]], rfl⟩
        · exact ⟨[], rfl⟩
      generalize (if rest.head? = some [] then rest.tail else rest) = below at h hleading
      split at h
      · next first second trailing =>
        split at h
        · obtain ⟨rfl, rfl⟩ := Prod.mk.inj (Option.some.inj h)
          exact ⟨mount, leading, trailing, by rw [hleading], hmount⟩
        · cases h
      · cases h
    · cases h

/-- The mount is not smaller than its name. -/
theorem size_mount {mount : List Char}
    (h : (encode pathSet mount).map Char.toLower = mountSegment) : 14 ≤ size mount := by
  have hescape : '%' ∉ encode pathSet mount := by
    intro hmem
    have hlower : '%' ∈ mountSegment := h ▸ List.mem_map_of_mem hmem
    revert hlower
    decide
  have hlength := congrArg List.length h
  rw [List.length_map, encode_of_no_escape hescape] at hlength
  have hname : mountSegment.length = 14 := rfl
  have hle := length_le_size mount
  omega

/-- **What is lost in a path is never made up for.** If the two parameters read from what was
left of the identifiers are the identifiers, nothing was lost. -/
theorem eq_of_matchSegments {partyType partyId : String} {path first second : List Char}
    (hsent : path.Sublist (identifiers partyType partyId))
    (hmatch : matchSegments ([] :: (resolveDots []
      (mountSegment :: (path.map asSlash).splitOn '/')).map (encode pathSet)) =
        some (first, second))
    (hfirst : decode first = some partyType.toList)
    (hsecond : decode second = some partyId.toList) :
    path = identifiers partyType partyId ∧
      (path.map asSlash).splitOn '/' = [partyType.toList, partyId.toList] ∧
      ('%' ∉ partyType.toList ∧ ¬ IsDots partyType.toList) ∧
      '%' ∉ partyId.toList ∧ ¬ IsDots partyId.toList := by
  obtain ⟨mount, leading, trailing, hsegments, hmount⟩ := matchSegments_cases hmatch
  obtain ⟨mount', rest, hresolved, rfl, hrest⟩ := List.map_eq_cons_iff.mp hsegments
  obtain ⟨leading', pair, rfl, -, hpair⟩ := List.map_eq_append_iff.mp hrest
  obtain ⟨first', others, rfl, rfl, hothers⟩ := List.map_eq_cons_iff.mp hpair
  obtain ⟨second', trailing', rfl, rfl, -⟩ := List.map_eq_cons_iff.mp hothers
  rw [decode_encode] at hfirst hsecond
  -- compare the size of the segments with the size of the identifiers
  obtain ⟨hle, hexact⟩ := weight_resolveDots []
    (mountSegment :: (path.map asSlash).splitOn '/')
  have hpieces := weight_splitOn (path.map asSlash)
  have hmountSize := size_mount hmount
  have hfirstSize := size_decode_le hfirst
  have hsecondSize := size_decode_le hsecond
  obtain ⟨hpathSize, hpathExact⟩ := size_sublist hsent
  have hidentifiers : size (identifiers partyType partyId) =
      size partyType.toList + (1 + size partyId.toList) := by
    rw [identifiers, size_append, size_cons]
    rfl
  have hmountLength : size mountSegment = 14 := by decide
  rw [size_map_asSlash] at hpieces
  rw [hresolved] at hle hexact
  simp only [weight_nil, weight_cons, weight_append, hmountLength, hpieces] at hle hexact
  have hsame := hpathExact (by omega)
  obtain ⟨hnotDots, hall⟩ := hexact (by omega)
  have hleading : leading' = [] := eq_nil_of_weight (by omega)
  have htrailing : trailing' = [] := eq_nil_of_weight (by omega)
  rw [hleading, htrailing] at hall
  obtain ⟨-, hpair⟩ := List.cons.inj hall
  obtain ⟨hescape, htype⟩ := eq_of_size_decode hfirst (by omega)
  obtain ⟨hescape', hid⟩ := eq_of_size_decode hsecond (by omega)
  have hplain : ∀ segment ∈ (path.map asSlash).splitOn '/', ¬ IsDots segment :=
    fun segment hsegment => hnotDots segment (List.mem_cons_of_mem _ hsegment)
  rw [htype, hid]
  rw [← hpair] at hplain
  exact ⟨hsame, hpair.symm, ⟨hescape, hplain _ (List.mem_cons_self ..)⟩, hescape',
    hplain _ (List.mem_cons_of_mem _ (List.mem_cons_self ..))⟩

theorem Plain.not_mem {text : List Char} (h : Plain text) {c : Char} (hc : c.toNat ∈ lostCodes) :
    c ∉ text := fun hmem => h.kept c hmem hc

theorem sentText_eq_self {text : List Char} (htabs : ∀ c ∈ text, isTabOrNewline c = false)
    (hhash : '#' ∉ text) (hlast : ∀ c ∈ text.getLast?, isControlOrSpace c = false) :
    sentText text = text := by
  rw [sentText, cleanedEnd_eq_self_iff.mpr ⟨htabs, hlast⟩, before_of_not_mem hhash]

theorem sentText_eq_self_iff {text : List Char} :
    sentText text = text ↔ ('#' ∉ text ∧ ∀ c ∈ text, isTabOrNewline c = false) ∧
      ∀ c ∈ text.getLast?, isControlOrSpace c = false := by
  constructor
  · intro h
    have hclean : cleanedEnd text = text := by
      have hfront : (before '#' (cleanedEnd text)).Sublist (cleanedEnd text) :=
        before_isPrefix.sublist
      rw [← sentText, h] at hfront
      exact (cleanedEnd_sublist text).antisymm hfront
    obtain ⟨htabs, hlast⟩ := cleanedEnd_eq_self_iff.mp hclean
    refine ⟨⟨?_, htabs⟩, hlast⟩
    rw [← h]
    exact not_mem_before
  · rintro ⟨⟨hhash, htabs⟩, hlast⟩
    exact sentText_eq_self htabs hhash hlast

theorem sentText_append_cons {text : List Char} (htabs : ∀ c ∈ text, isTabOrNewline c = false)
    (hhash : '#' ∉ text) (rest : List Char) :
    sentText (text ++ '?' :: rest) = text ++ '?' :: sentText rest := by
  have hfilter : (text.filter fun c => !isTabOrNewline c) = text := by
    rw [List.filter_eq_self]
    exact fun c hc => by simpa using htabs c hc
  have hquestion : '#' ∉ text ++ ['?'] := by
    simpa using hhash
  rw [sentText, cleanedEnd_append_cons (by decide), hfilter, List.append_cons,
    before_append_of_not_mem hquestion, ← List.append_cons, sentText]

/-- What a text that is kept whole cannot contain. -/
theorem not_lost_of_before_sentText {text rest : List Char}
    (h : before '?' (sentText rest) = text) {c : Char} (hc : c ∈ text) :
    c ≠ '?' ∧ c ≠ '#' ∧ isTabOrNewline c = false := by
  rw [← h] at hc
  have hsent : c ∈ sentText rest := before_isPrefix.subset hc
  refine ⟨?_, ?_, ?_⟩
  · rintro rfl
    exact not_mem_before hc
  · rintro rfl
    exact not_mem_before hsent
  · have hcleaned : c ∈ cleanedEnd rest := before_isPrefix.subset hsent
    simpa using (List.mem_filter.mp hcleaned).2

/-- The identifiers that the lookup reads from the path. -/
def PathReads (partyType partyId : String) (url : Target) : Prop :=
  ∃ first second, matchSegments (url.path.splitOn '/') = some (first, second) ∧
    decode first = some partyType.toList ∧ decode second = some partyId.toList

/-- The identifiers that a path keeps. Without a query string the second one is at the end
of the reference. -/
structure PathKept (partyType partyId : String) (currency : Option String) : Prop where
  plainType : Plain partyType.toList
  plainId : Plain partyId.toList
  atEnd : currency = none → ∀ c ∈ partyId.toList.getLast?, isControlOrSpace c = false

theorem plain_of_kept {partyType partyId : String} {rest : List Char}
    (hsame : before '?' (sentText rest) = identifiers partyType partyId)
    (hpieces : ((before '?' (sentText rest)).map asSlash).splitOn '/' =
      [partyType.toList, partyId.toList]) {text : List Char}
    (htext : text ∈ [partyType.toList, partyId.toList])
    (hescape : '%' ∉ text ∧ ¬ IsDots text) : Plain text := by
  have hslash : '/' ∉ text := not_mem_of_mem_splitOn (hpieces ▸ htext)
  have hmap : (identifiers partyType partyId).map asSlash = identifiers partyType partyId := by
    have hjoin : ['/'].intercalate (((before '?' (sentText rest)).map asSlash).splitOn '/') =
        (before '?' (sentText rest)).map asSlash := List.intercalate_splitOn '/'
    rw [hpieces, hsame] at hjoin
    rw [← hjoin]
    simp [identifiers, List.intercalate]
  have hmem : ∀ c ∈ text, c ∈ identifiers partyType partyId := by
    intro c hc
    rcases List.mem_pair.mp htext with rfl | rfl
    · exact List.mem_append_left _ hc
    · exact List.mem_append_right _ (List.mem_cons_of_mem _ hc)
  refine ⟨fun c hc hlost => ?_, hescape.2⟩
  obtain ⟨hquestion, hhash, htab⟩ := not_lost_of_before_sentText hsame (hmem c hc)
  have hread : asSlash c = c :=
    List.map_inj_left.mp (hmap.trans (List.map_id _).symm) c (hmem c hc)
  have hcode : ∀ other : Char, c.toNat = other.toNat → c = other := fun _ => Char.toNat_inj.mp
  simp only [lostCodes, List.mem_cons, List.not_mem_nil, or_false] at hlost
  rcases hlost with h | h | h | h | h | h | h | h
  · simp [isTabOrNewline, h] at htab
  · simp [isTabOrNewline, h] at htab
  · simp [isTabOrNewline, h] at htab
  · exact hhash (hcode '#' h)
  · exact hescape.1 (hcode '%' h ▸ hc)
  · exact hslash (hcode '/' h ▸ hc)
  · exact hquestion (hcode '?' h)
  · rw [asSlash, if_pos h] at hread
    rw [← hread] at h
    cases h

/-- What follows the identifiers is nothing or a query string. -/
theorem currencyPart_cases {currency : Option String} (h : currency ≠ some "") :
    currency = none ∧ currencyPart currency = [] ∨
      ∃ value, currency = some value ∧
        currencyPart currency = '?' :: ("currency".toList ++ '=' :: value.toList) := by
  cases currency with
  | none => exact Or.inl ⟨rfl, rfl⟩
  | some value => exact Or.inr ⟨value, rfl, if_neg fun heq => h (congrArg some heq)⟩

section Kept

variable {partyType partyId : String} {currency : Option String}
  (h : PathKept partyType partyId currency)

include h

/-- Kept identifiers hold nothing that cuts the reference or is dropped from it. -/
theorem harmless_of_kept {c : Char} (hc : c ∈ identifiers partyType partyId) :
    isTabOrNewline c = false ∧ c ≠ '#' ∧ c ≠ '?' ∧ asSlash c = c := by
  have hcode : c = '/' ∨ c.toNat ∉ lostCodes := by
    rcases List.mem_append.mp hc with hc | hc
    · exact Or.inr (h.plainType.kept c hc)
    · exact (List.mem_cons.mp hc).imp id (h.plainId.kept c)
  rcases hcode with rfl | hcode
  · decide
  · simp only [lostCodes, List.mem_cons, List.not_mem_nil, or_false, not_or] at hcode
    obtain ⟨htab, hnewline, hreturn, hhash, -, -, hquestion, hbackslash⟩ := hcode
    refine ⟨by simp [isTabOrNewline, htab, hnewline, hreturn], ?_, ?_, if_neg hbackslash⟩
    · rintro rfl
      exact hhash rfl
    · rintro rfl
      exact hquestion rfl

theorem sentText_of_kept_cons (rest : List Char) :
    sentText (identifiers partyType partyId ++ '?' :: rest) =
      identifiers partyType partyId ++ '?' :: sentText rest :=
  sentText_append_cons (fun _ hc => (harmless_of_kept h hc).1)
    (fun hc => (harmless_of_kept h hc).2.1 rfl) rest

/-- All of the identifiers comes into the path. -/
theorem before_sentText_of_kept (hid : partyId ≠ "") (hcurrency : currency ≠ some "") :
    before '?' (sentText (identifiers partyType partyId ++ currencyPart currency)) =
      identifiers partyType partyId := by
  have hquestion : '?' ∉ identifiers partyType partyId := fun hc =>
    (harmless_of_kept h hc).2.2.1 rfl
  rcases currencyPart_cases hcurrency with ⟨hnone, hpart⟩ | ⟨value, -, hpart⟩
  · have hlast : ∀ c ∈ (identifiers partyType partyId).getLast?,
        isControlOrSpace c = false := by
      intro c hc
      apply h.atEnd hnone
      obtain ⟨last, hlast⟩ : ∃ last, partyId.toList.getLast? = some last := by
        rw [← Option.isSome_iff_exists, List.getLast?_isSome]
        exact fun hempty => hid (String.toList_eq_nil_iff.mp hempty)
      simpa [identifiers, List.getLast?_append, List.getLast?_cons, hlast] using hc
    rw [hpart, List.append_nil, sentText_eq_self (fun _ hc => (harmless_of_kept h hc).1)
      (fun hc => (harmless_of_kept h hc).2.1 rfl) hlast, before_of_not_mem hquestion]
  · rw [hpart, sentText_of_kept_cons h, before_append_cons, before_of_not_mem hquestion]

theorem matchSegments_of_kept (htype : partyType ≠ "") (hid : partyId ≠ "")
    (hcurrency : currency ≠ some "") :
    matchSegments ([] :: (resolveDots [] (mountSegment :: ((before '?' (sentText
      (identifiers partyType partyId ++ currencyPart currency))).map asSlash).splitOn
        '/')).map (encode pathSet)) =
      some (encode pathSet partyType.toList, encode pathSet partyId.toList) := by
  have hslashes : (identifiers partyType partyId).map asSlash = identifiers partyType partyId :=
    (List.map_congr_left fun _ hc => (harmless_of_kept h hc).2.2.2).trans (List.map_id _)
  have hpieces : (identifiers partyType partyId).splitOn '/' =
      [partyType.toList, partyId.toList] := by
    rw [identifiers, List.splitOn_append_cons_self_of_not_mem (h.plainType.not_mem (by decide)),
      List.splitOn_eq_singleton (h.plainId.not_mem (by decide))]
  have hdots : ∀ segment ∈ [mountSegment, partyType.toList, partyId.toList],
      ¬ IsDots segment := by
    simp only [List.forall_mem_cons]
    exact ⟨by unfold IsDots; decide, h.plainType.notDots, h.plainId.notDots,
      fun _ hmem => (by cases hmem)⟩
  have hmount : encode pathSet mountSegment = mountSegment :=
    encode_of_forall (forall_mem_of_all (by decide))
  have hfirst : encode pathSet partyType.toList ≠ [] :=
    encode_ne_nil fun hempty => htype (String.toList_eq_nil_iff.mp hempty)
  have hsecond : encode pathSet partyId.toList ≠ [] :=
    encode_ne_nil fun hempty => hid (String.toList_eq_nil_iff.mp hempty)
  rw [before_sentText_of_kept h hid hcurrency, hslashes, hpieces, resolveDots_of_not hdots,
    List.nil_append, List.map_cons, List.map_cons, List.map_cons, List.map_nil, hmount]
  have hlower : mountSegment.map Char.toLower = "account-lookup".toList := by decide
  simp [matchSegments, hlower, hfirst, hsecond]

end Kept

/-- **The path of a lookup.** The identifiers are read back exactly when the path keeps
them. -/
theorem pathReads_iff {partyType partyId : String} {currency : Option String}
    (htype : partyType ≠ "") (hid : partyId ≠ "") (hcurrency : currency ≠ some "") :
    PathReads partyType partyId (target (urlBuilder partyType partyId currency).toList) ↔
      PathKept partyType partyId currency := by
  have hsent : (before '?' (sentText (identifiers partyType partyId ++
      currencyPart currency))).Sublist (identifiers partyType partyId) := by
    rcases currencyPart_cases hcurrency with ⟨-, hpart⟩ | ⟨value, -, hpart⟩
    · rw [hpart, List.append_nil]
      exact before_sentText _
    · rw [hpart]
      exact before_sentText_append _ _
  rw [PathReads, toList_urlBuilder, splitOn_path_fixedPath]
  constructor
  · rintro ⟨first, second, hmatch, hfirst, hsecond⟩
    obtain ⟨hsame, hpieces, htypeKept, hidKept⟩ :=
      eq_of_matchSegments hsent hmatch hfirst hsecond
    refine ⟨plain_of_kept hsame hpieces (by simp) htypeKept,
      plain_of_kept hsame hpieces (by simp) hidKept, ?_⟩
    rintro rfl
    rw [currencyPart, List.append_nil] at hsame
    have hwhole : sentText (identifiers partyType partyId) = identifiers partyType partyId := by
      have hfront : (before '?' (sentText (identifiers partyType partyId))).Sublist
          (sentText (identifiers partyType partyId)) := before_isPrefix.sublist
      rw [hsame] at hfront
      exact (sentText_sublist _).antisymm hfront
    intro c hc
    have hlast : partyId.toList.getLast? = some c := hc
    apply (sentText_eq_self_iff.mp hwhole).2
    simp [identifiers, List.getLast?_append, List.getLast?_cons, hlast]
  · intro h
    exact ⟨_, _, matchSegments_of_kept h htype hid hcurrency,
      by rw [decode_encode]; exact decode_of_no_escape (h.plainType.not_mem (by decide)),
      by rw [decode_encode]; exact decode_of_no_escape (h.plainId.not_mem (by decide))⟩

end AccountLookupHttpClient

end AccountLookup
