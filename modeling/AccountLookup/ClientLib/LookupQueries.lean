/-
# The currency in the query string of a lookup

The client writes the currency of a party into the query string as it is. The lookup reads
back what was written exactly when nothing in it is dropped, taken for a separator or a
space, or decoded; a malformed escape protects a currency from decoding, but only if nothing
in it had to be escaped. A currency with separators is never read back: what is read from its
items falls behind what was written and does not catch up.
-/

import AccountLookup.ClientLib.LookupPaths

namespace AccountLookup

open Library UrlText PercentDecoding UrlReference

theorem size_map_plusAsSpace (text : List Char) : size (text.map plusAsSpace) = size text := by
  induction text with
  | nil => rfl
  | cons c text ih =>
    have hc : (plusAsSpace c).utf8Size = c.utf8Size := by
      unfold plusAsSpace
      split
      · next hplus =>
        rw [hplus]
        rfl
      · rfl
    rw [List.map_cons, size_cons, size_cons, ih, hc]

/-- An item in front of a separator, found again in a text that contains both. -/
theorem exists_split_of_sublist {item rest text : List Char}
    (h : (item ++ '&' :: rest).Sublist text) :
    ∃ front back, text = front ++ '&' :: back ∧ item.Sublist front ∧ rest.Sublist back := by
  obtain ⟨first, second, rfl, hitem, htail⟩ := List.append_sublist_iff.mp h
  obtain ⟨third, fourth, rfl, hmem, hrest⟩ := List.cons_sublist_iff.mp htail
  obtain ⟨lead, trail, rfl⟩ := List.append_of_mem hmem
  refine ⟨first ++ lead, trail ++ fourth, by simp, ?_, ?_⟩
  · exact hitem.trans (List.sublist_append_left first lead)
  · exact hrest.trans (List.sublist_append_right trail fourth)

/-- A text that is not larger than the part before a separator, or has no separator, ends
before the separator. -/
theorem exists_rest_of_append {value others front back : List Char}
    (hvalue : size value ≤ size front ∨ '&' ∉ value)
    (h : value ++ ',' :: others = front ++ '&' :: back) :
    ∃ more, others = more ++ '&' :: back := by
  have hassoc : (value ++ [',']) ++ others = front ++ '&' :: back := by
    rw [List.append_assoc]
    exact h
  rcases List.append_eq_append_iff.mp hassoc with ⟨more, hfront, hothers⟩ | ⟨more, hend, hback⟩
  · exact ⟨more, hothers⟩
  · cases more with
    | nil => exact ⟨[], hback.symm⟩
    | cons c more =>
      obtain ⟨rfl, -⟩ := List.cons.inj hback
      have hmem : '&' ∈ value ++ [','] := hend ▸ by simp
      have hvalueMem : '&' ∈ value := by simpa using hmem
      have hle := hvalue.resolve_right (not_not.mpr hvalueMem)
      have hsize := congrArg size hend
      have hcomma : size [','] = 1 := rfl
      have hamp : size ('&' :: more) = 1 + size more := size_cons '&' more
      rw [size_append, size_append, hcomma, hamp] at hsize
      have hlength := length_le_size more
      obtain rfl : more = [] := List.eq_nil_of_length_eq_zero (by omega)
      cases (List.append_inj' hend rfl).2

/-- What is read from one item, and what is read from the others. -/
theorem ne_of_items_cons {item value text : List Char} {items values : List (List Char)}
    (hitem : '&' ∉ item) (hvalue : size value ≤ size item ∨ '&' ∉ value)
    (hnil : items = [] → values = [])
    (ih : ∀ back, (['&'].intercalate items).Sublist back → '&' ∈ back →
      [','].intercalate values ≠ back)
    (htext : (['&'].intercalate (item :: items)).Sublist text) (hmem : '&' ∈ text) :
    [','].intercalate (value :: values) ≠ text := by
  intro h
  cases values with
  | nil =>
    rw [List.intercalate_singleton] at h
    subst h
    have hle := hvalue.resolve_right (not_not.mpr hmem)
    have hfront := prefix_intercalate_cons ['&'] item items
    obtain ⟨-, hsame⟩ := size_sublist (hfront.sublist.trans htext)
    exact hitem (hsame hle ▸ hmem)
  | cons next values =>
    cases items with
    | nil => cases hnil rfl
    | cons item' items =>
      rw [List.intercalate_cons_cons, List.append_assoc] at htext h
      obtain ⟨front, back, rfl, hfront, hback⟩ := exists_split_of_sublist htext
      have hle : size value ≤ size front ∨ '&' ∉ value :=
        hvalue.imp (fun hle => hle.trans (size_sublist hfront).1) id
      obtain ⟨more, hmore⟩ := exists_rest_of_append hle h
      refine ih (more ++ '&' :: back) ?_ (by simp) hmore
      exact hback.trans ((List.sublist_cons_self ..).trans (List.sublist_append_right ..))

/-- **What is read falls behind.** A text with separators is not what is read from its
items, if no item is read as something larger that has separators. -/
theorem ne_of_items {read : List Char → Option (List Char)}
    (hread : ∀ item, '&' ∉ item → ∀ value, read item = some value →
      size value ≤ size item ∨ '&' ∉ value) :
    ∀ (items : List (List Char)) (limit : Nat) (text : List Char),
      (∀ item ∈ items, '&' ∉ item) → (['&'].intercalate items).Sublist text → '&' ∈ text →
      [','].intercalate ((items.take limit).filterMap read) ≠ text := by
  intro items
  induction items with
  | nil =>
    rintro limit text - - hmem rfl
    simp at hmem
  | cons item items ih =>
    intro limit text hitems htext hmem
    obtain ⟨hitem, hrest⟩ := List.forall_mem_cons.mp hitems
    cases limit with
    | zero =>
      rintro rfl
      cases hmem
    | succ limit =>
      rw [List.take_succ_cons, List.filterMap_cons]
      cases hvalue : read item with
      | none =>
        refine ih limit text hrest ?_ hmem
        cases items with
        | nil => exact List.nil_sublist _
        | cons item' items =>
          rw [List.intercalate_cons_cons] at htext
          exact (List.sublist_append_right ..).trans htext
      | some value =>
        apply ne_of_items_cons hitem (hread item hitem value hvalue) _ _ htext hmem
        · rintro rfl
          rw [List.take_nil, List.filterMap_nil]
        · exact fun back hback hmem => ih limit back hrest hback hmem

namespace AccountLookupHttpClient

open ParsedQuery

/-- The name of the item that the client writes. -/
def currencyName : List Char := "currency".toList

/-- The query string that is sent for a currency. -/
def sentQuery (currency : String) : List Char :=
  currencyName ++ '=' :: encode querySet (sentText currency.toList)

/-- What the query library reads of a text that has been sent. -/
def readBack (text : List Char) : List Char := decodeText (encode querySet text)

theorem decodeText_of_no_escape {text : List Char} (hescape : '%' ∉ text) (hplus : '+' ∉ text) :
    decodeText text = text := by
  rw [decodeText, map_plusAsSpace hplus, decode_of_no_escape hescape, Option.getD_some]

theorem sentText_currencyName (rest : List Char) :
    sentText (currencyName ++ '=' :: rest) = currencyName ++ '=' :: sentText rest := by
  have hhash : '#' ∉ currencyName ++ ['='] := by decide
  have htabs : (currencyName.filter fun c => !isTabOrNewline c) = currencyName := by decide
  rw [sentText, cleanedEnd_append_cons (by decide), htabs, List.append_cons,
    before_append_of_not_mem hhash, ← List.append_cons, sentText]

theorem encode_currencyName (rest : List Char) :
    encode querySet (currencyName ++ '=' :: rest) =
      currencyName ++ '=' :: encode querySet rest := by
  have hname : encode querySet (currencyName ++ ['=']) = currencyName ++ ['='] :=
    encode_of_forall (forall_mem_of_all (by decide))
  rw [List.append_cons, encode, List.flatMap_append, ← encode, hname, ← encode,
    ← List.append_cons]

/-- What is read is no larger than the text, or has none of the separators that the text
does not have. -/
theorem size_readBack (text : List Char) (h : '&' ∉ text) :
    size (readBack text) ≤ size text ∨ '&' ∉ readBack text := by
  unfold readBack decodeText
  cases hdecode : decode ((encode querySet text).map plusAsSpace) with
  | some value =>
    rw [decode_plusAsSpace_encode (by decide)] at hdecode
    have hle := size_decode_le hdecode
    rw [size_map_plusAsSpace] at hle
    exact Or.inl hle
  | none =>
    refine Or.inr fun hmem => ?_
    obtain ⟨c, hc, hamp⟩ := List.mem_map.mp hmem
    obtain rfl := (plusAsSpace_eq_iff (by decide) (by decide)).mp hamp
    obtain ⟨original, horiginal, hwritten⟩ := List.mem_flatMap.mp hc
    have hne : original ≠ '&' := fun heq => h (heq ▸ horiginal)
    exact not_mem_encodeChar hne (by decide) (by decide) hwritten

/-- What one item after the first gives a name. -/
def readItem (name item : List Char) : Option (List Char) :=
  if decodeText (before '=' (encode querySet item)) = name then some (readBack (after '=' item))
  else none

theorem valuesOf_encode (name : List Char) (items : List (List Char)) :
    (items.map (encode querySet)).filterMap (fun item =>
      if decodeText (before '=' item) = name then some (decodeText (after '=' item)) else none) =
        items.filterMap (readItem name) := by
  rw [List.filterMap_map]
  apply List.filterMap_congr
  intro item _
  have hafter : after '=' (encode querySet item) = encode querySet (after '=' item) :=
    after_flatMap (encodeChar_of_not (by decide))
      (fun c hc => not_mem_encodeChar hc (by decide) (by decide)) item
  simp only [Function.comp_apply, hafter]
  rfl

/-- The values of the query string that is sent: the first item is the currency up to its
first separator. -/
theorem valuesOf_sentQuery {currency : String} {first : List Char} {items : List (List Char)}
    (hsplit : (sentText currency.toList).splitOn '&' = first :: items) (name : List Char) :
    valuesOf (sentQuery currency) name =
      (if currencyName = name then [readBack first] else []) ++
        (items.take 999).filterMap (readItem name) := by
  have hitems : (sentQuery currency).splitOn '&' =
      (currencyName ++ '=' :: encode querySet first) :: items.map (encode querySet) := by
    have hname : '&' ∉ currencyName ++ ['='] := by decide
    have hencode : ((sentText currency.toList).flatMap (encodeChar querySet)).splitOn '&' =
        ((sentText currency.toList).splitOn '&').map (encode querySet) :=
      splitOn_flatMap (encodeChar_of_not (by decide))
        (fun c hc => not_mem_encodeChar hc (by decide) (by decide)) (sentText currency.toList)
    rw [sentQuery, List.append_cons, splitOn_append_of_not_mem hname, encode, hencode, hsplit]
    simp [encode]
  have hkey : decodeText currencyName = currencyName :=
    decodeText_of_no_escape (by decide) (by decide)
  have heq : '=' ∉ currencyName := by decide
  rw [valuesOf, hitems, parameterLimit, List.take_succ_cons, List.filterMap_cons,
    before_append_cons, before_of_not_mem heq, after_append_cons heq, hkey, ← List.map_take,
    valuesOf_encode]
  by_cases hname : currencyName = name
  · simp only [if_pos hname]
    rfl
  · simp only [if_neg hname]
    rfl

/-- What the lookup needs of a query string: the currency, no sub type, and nothing that
fails the checks of the identifiers. -/
structure Names (query : ParsedQuery) (currency : Option String) : Prop where
  currency : query.text "currency" = currency
  partySubType : query.text "partySubType" = none
  checked : ∀ name, name = "partyId" ∨ name = "partyType" →
    ∀ value ∈ query.checked name, value ≠ .undefined → value.truthy = true

/-- The currency is what the lookup reads from the query string. -/
def QueryReads (library : QueryLibrary) (query : List Char) (currency : Option String) : Prop :=
  ∃ parsed, library.parse query = some parsed ∧ Names parsed currency

/-- The characters that a query string does not keep: tabs and line ends, `#`, `&` and
`+`. -/
def lostQueryCodes : List Nat := [0x09, 0x0A, 0x0D, 0x23, 0x26, 0x2B]

/-- A text that a query string keeps as one value. A percent sign has to make the decoding
fail, and then nothing may have been escaped. -/
structure PlainValue (text : List Char) : Prop where
  kept : ∀ c ∈ text, c.toNat ∉ lostQueryCodes
  atEnd : ∀ c ∈ text.getLast?, isControlOrSpace c = false
  escapes : '%' ∉ text ∨ decode text = none ∧ ∀ c ∈ text, querySet.contains c = false

theorem kept_iff {text : List Char} :
    (∀ c ∈ text, c.toNat ∉ lostQueryCodes) ↔
      ('#' ∉ text ∧ ∀ c ∈ text, isTabOrNewline c = false) ∧ '&' ∉ text ∧ '+' ∉ text := by
  have hcode : ∀ c other : Char, c.toNat = other.toNat → c = other :=
    fun _ _ => Char.toNat_inj.mp
  constructor
  · intro h
    have habsent : ∀ c : Char, c.toNat ∈ lostQueryCodes → c ∉ text :=
      fun c hc hmem => h c hmem hc
    refine ⟨⟨habsent '#' (by decide), fun c hc => ?_⟩, habsent '&' (by decide),
      habsent '+' (by decide)⟩
    have hlost := h c hc
    simp only [lostQueryCodes, List.mem_cons, List.not_mem_nil, or_false, not_or] at hlost
    simp [isTabOrNewline, hlost]
  · rintro ⟨⟨hhash, htabs⟩, hamp, hplus⟩ c hc hlost
    have htab := htabs c hc
    simp only [lostQueryCodes, List.mem_cons, List.not_mem_nil, or_false] at hlost
    rcases hlost with h | h | h | h | h | h
    · simp [isTabOrNewline, h] at htab
    · simp [isTabOrNewline, h] at htab
    · simp [isTabOrNewline, h] at htab
    · exact hhash (hcode c '#' h ▸ hc)
    · exact hamp (hcode c '&' h ▸ hc)
    · exact hplus (hcode c '+' h ▸ hc)

/-- A text with nothing to escape is sent as it is. -/
theorem sentText_of_not_contains {text : List Char}
    (h : ∀ c ∈ text, querySet.contains c = false) : sentText text = text := by
  have hcontrol : ∀ c ∈ text, 0x20 < c.toNat := by
    intro c hc
    have hset := h c hc
    simp only [querySet, encodeSet, List.mem_cons, List.not_mem_nil, or_false,
      Bool.or_eq_false_iff, decide_eq_false_iff_not, not_or] at hset
    omega
  rw [sentText_eq_self_iff]
  refine ⟨⟨fun hhash => ?_, fun c hc => ?_⟩, fun c hc => ?_⟩
  · exact absurd (h '#' hhash) (by decide)
  · have hlarge := hcontrol c hc
    simp only [isTabOrNewline, List.mem_cons, List.not_mem_nil, or_false,
      decide_eq_false_iff_not]
    omega
  · have hlarge := hcontrol c (List.mem_of_getLast? hc)
    simp only [isControlOrSpace, decide_eq_false_iff_not]
    omega

/-- A value that is decoded and comes back was sent whole and had nothing to decode. -/
theorem plainValue_of_decoded {text : List Char} (hamp : '&' ∉ sentText text)
    (h : decode ((sentText text).map plusAsSpace) = some text) : PlainValue text := by
  have hsize := size_decode_le h
  rw [size_map_plusAsSpace] at hsize
  have hsent : sentText text = text := (size_sublist (sentText_sublist text)).2 hsize
  rw [hsent] at h hamp
  obtain ⟨hescape, hspaces⟩ := eq_of_size_decode h (by rw [size_map_plusAsSpace])
  have hplus : '+' ∉ text := hspaces ▸ not_mem_map_plusAsSpace text
  rw [map_plusAsSpace hplus] at hescape
  obtain ⟨hwhole, hlast⟩ := sentText_eq_self_iff.mp hsent
  exact ⟨kept_iff.mpr ⟨hwhole, hamp, hplus⟩, hlast, Or.inl hescape⟩

/-- A value that cannot be decoded comes back only if nothing in it was escaped. -/
theorem plainValue_of_not_decoded {text : List Char} (hamp : '&' ∉ sentText text)
    (hnone : decode ((sentText text).map plusAsSpace) = none)
    (h : (encode querySet (sentText text)).map plusAsSpace = text) : PlainValue text := by
  have hplus : '+' ∉ text := h ▸ not_mem_map_plusAsSpace _
  have hplusSent : '+' ∉ sentText text := fun hmem => hplus ((sentText_sublist text).subset hmem)
  have hplusEncoded : '+' ∉ encode querySet (sentText text) := by
    intro hmem
    obtain ⟨c, hc, hwritten⟩ := List.mem_flatMap.mp hmem
    have hne : c ≠ '+' := fun heq => hplusSent (heq ▸ hc)
    exact not_mem_encodeChar hne (by decide) (by decide) hwritten
  rw [map_plusAsSpace hplusEncoded] at h
  have hset : ∀ c ∈ text, querySet.contains c = false := by
    intro c hc
    rw [← h] at hc
    exact not_contains_of_mem_encode hc
  have hsent := sentText_of_not_contains hset
  rw [hsent] at hamp hnone
  rw [map_plusAsSpace hplus] at hnone
  obtain ⟨hwhole, hlast⟩ := sentText_eq_self_iff.mp hsent
  exact ⟨kept_iff.mpr ⟨hwhole, hamp, hplus⟩, hlast, Or.inr ⟨hnone, hset⟩⟩

/-- **One value.** A text without separators is read back exactly when it is plain. -/
theorem readBack_eq_iff {text : List Char} (hamp : '&' ∉ sentText text) :
    readBack (sentText text) = text ↔ PlainValue text := by
  constructor
  · intro h
    unfold readBack decodeText at h
    cases hdecode : decode ((encode querySet (sentText text)).map plusAsSpace) with
    | some value =>
      rw [hdecode, Option.getD_some] at h
      rw [decode_plusAsSpace_encode (by decide), h] at hdecode
      exact plainValue_of_decoded hamp hdecode
    | none =>
      rw [hdecode, Option.getD_none] at h
      rw [decode_plusAsSpace_encode (by decide)] at hdecode
      exact plainValue_of_not_decoded hamp hdecode h
  · rintro ⟨hkept, hlast, hescapes⟩
    obtain ⟨hwhole, -, hplus⟩ := kept_iff.mp hkept
    rw [sentText_eq_self_iff.mpr ⟨hwhole, hlast⟩, readBack, decodeText,
      decode_plusAsSpace_encode (by decide), map_plusAsSpace hplus]
    rcases hescapes with hescape | ⟨hnone, hset⟩
    · rw [decode_of_no_escape hescape, Option.getD_some]
    · rw [hnone, Option.getD_none, encode_of_forall hset, map_plusAsSpace hplus]

theorem size_of_readItem {name item value : List Char} (hitem : '&' ∉ item)
    (h : readItem name item = some value) : size value ≤ size item ∨ '&' ∉ value := by
  unfold readItem at h
  split at h
  · obtain rfl := Option.some.inj h
    have hafter : '&' ∉ after '=' item := fun hmem => hitem (after_sublist.subset hmem)
    exact (size_readBack _ hafter).imp (fun hle => hle.trans (size_sublist after_sublist).1) id
  · cases h

/-- The currency that the lookup reads when there are no brackets. -/
theorem text_currency_eq_iff (currency : String) :
    (flat (sentQuery currency)).text "currency" = some currency ↔
      PlainValue currency.toList := by
  obtain ⟨first, items, hsplit⟩ :=
    List.exists_cons_of_ne_nil (List.splitOn_ne_nil '&' (sentText currency.toList))
  have hjoin : ['&'].intercalate ((sentText currency.toList).splitOn '&') =
      sentText currency.toList := List.intercalate_splitOn '&'
  have hpieces : ∀ item ∈ first :: items, '&' ∉ item := by
    rw [← hsplit]
    exact fun _ => not_mem_of_mem_splitOn
  have hfirst := hpieces first (List.mem_cons_self ..)
  have htext : (flat (sentQuery currency)).text "currency" = some (String.ofList
      ([','].intercalate (readBack first :: (items.take 999).filterMap
        (readItem currencyName)))) := by
    have hname : "currency".toList = currencyName := rfl
    rw [text_flat, hname, valuesOf_sentQuery hsplit, if_pos rfl, List.singleton_append, textOf]
    exact List.cons_ne_nil _ _
  rw [hsplit] at hjoin
  rw [htext, Option.some.injEq, ← String.toList_inj, String.toList_ofList]
  cases items with
  | nil =>
    rw [List.intercalate_singleton] at hjoin
    rw [List.take_nil, List.filterMap_nil, List.intercalate_singleton, hjoin]
    exact readBack_eq_iff (hjoin ▸ hfirst)
  | cons next items =>
    have hsent : (['&'].intercalate (first :: next :: items)).Sublist currency.toList :=
      hjoin ▸ sentText_sublist currency.toList
    have hamp : '&' ∈ currency.toList := by
      apply hsent.subset
      rw [List.intercalate_cons_cons]
      simp
    refine iff_of_false ?_ fun h => (kept_iff.mp h.kept).2.1 hamp
    apply ne_of_items_cons hfirst (size_readBack first hfirst) _ _ hsent hamp
    · intro hnil
      cases hnil
    · intro back hback hmem
      exact ne_of_items (fun item hitem value => size_of_readItem hitem) _ 999 back
        (List.forall_mem_cons.mp hpieces).2 hback hmem

/-- A plain currency is all that is read. -/
theorem valuesOf_of_plain {currency : String} (h : PlainValue currency.toList) {name : List Char}
    (hname : currencyName ≠ name) : valuesOf (sentQuery currency) name = [] := by
  have hamp : '&' ∉ sentText currency.toList := fun hmem =>
    (kept_iff.mp h.kept).2.1 ((sentText_sublist _).subset hmem)
  rw [valuesOf_sentQuery (List.splitOn_eq_singleton hamp), if_neg hname]
  rfl

/-- The currency survives the query string. What the query library makes of brackets is left
to it. -/
def CurrencyKept (library : QueryLibrary) (currency : String) : Prop :=
  if UsesBrackets (sentQuery currency) then
    ∃ parsed, library.bracketed (sentQuery currency) = some parsed ∧
      Names parsed (some currency)
  else PlainValue currency.toList

/-- **The query string of a lookup.** -/
theorem queryReads_iff (library : QueryLibrary) (currency : String) :
    QueryReads library (sentQuery currency) (some currency) ↔ CurrencyKept library currency := by
  unfold QueryReads CurrencyKept QueryLibrary.parse
  by_cases hbrackets : UsesBrackets (sentQuery currency)
  · rw [if_pos hbrackets, if_pos hbrackets]
  · rw [if_neg hbrackets, if_neg hbrackets, ← text_currency_eq_iff]
    constructor
    · rintro ⟨parsed, hparsed, hnames⟩
      obtain rfl := Option.some.inj hparsed
      exact hnames.currency
    · intro hcurrency
      have hplain := (text_currency_eq_iff currency).mp hcurrency
      refine ⟨_, rfl, hcurrency, ?_, ?_⟩
      · rw [text_flat, valuesOf_of_plain hplain (by decide), textOf]
      · intro name hname value hvalue
        have hnone : valuesOf (sentQuery currency) name.toList = [] := by
          apply valuesOf_of_plain hplain
          rcases hname with rfl | rfl <;> decide
        have hempty : (flat (sentQuery currency)).checked name = [] := by
          simp only [flat, hnone]
        rw [hempty] at hvalue
        cases hvalue

end AccountLookupHttpClient

end AccountLookup
