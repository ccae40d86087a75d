/-
# Percent-encoding

Writing the characters of a set as escapes of their UTF-8 bytes. An encode set never
contains what an escape is made of, so whatever is decoded afterwards stands for the same
bytes as the text itself, well-formed or not; the same goes for a form in which `+` is
written for a space.
-/

import AccountLookup.Library.PercentDecoding

namespace Library.PercentDecoding

/-- The digit of a value below 16. -/
def hexDigit (value : Nat) : Char :=
  if value < 10 then Char.ofNat (48 + value) else Char.ofNat (55 + value)

/-- The escape of a byte. -/
def escape (byte : UInt8) : List Char :=
  ['%', hexDigit (byte.toNat / 16), hexDigit (byte.toNat % 16)]

/-- The characters that are written as escapes. -/
structure EncodeSet where
  contains : Char → Bool
  percent : contains '%' = false
  digits : ∀ c, (hexValue c).isSome → contains c = false

/-- What is written for a character. -/
def encodeChar (set : EncodeSet) (c : Char) : List Char :=
  if set.contains c then (String.utf8EncodeChar c).flatMap escape else [c]

def encode (set : EncodeSet) (text : List Char) : List Char := text.flatMap (encodeChar set)

theorem hexValue_hexDigit : ∀ value < 16, hexValue (hexDigit value) = some value := by
  decide

theorem bytes_escape (byte : UInt8) (rest : List Char) :
    bytes (escape byte ++ rest) = (bytes rest).map (byte :: ·) := by
  have hbyte : byte.toNat < 256 := byte.toNat_lt
  have hhigh := hexValue_hexDigit (byte.toNat / 16) (by omega)
  have hlow := hexValue_hexDigit (byte.toNat % 16) (by omega)
  have hvalue : 16 * (byte.toNat / 16) + byte.toNat % 16 = byte.toNat := Nat.div_add_mod ..
  show bytes ('%' :: hexDigit (byte.toNat / 16) :: hexDigit (byte.toNat % 16) :: rest) = _
  rw [bytes, if_pos rfl]
  simp only [hexByte, hhigh, hlow, hvalue, UInt8.ofNat_toNat]

theorem bytes_flatMap_escape (encoded : List UInt8) (rest : List Char) :
    bytes (encoded.flatMap escape ++ rest) = (bytes rest).map (encoded ++ ·) := by
  induction encoded with
  | nil => simp
  | cons byte encoded ih =>
    rw [List.flatMap_cons, List.append_assoc, bytes_escape, ih, Option.map_map]
    rfl

/-- A way of writing characters that decoding sees through: each character is read as what
`reads` makes of it. -/
structure Transparent (writes : Char → List Char) (reads : Char → Char) : Prop where
  percent : writes '%' = ['%'] ∧ reads '%' = '%'
  ne_percent : ∀ c, c ≠ '%' → reads c ≠ '%'
  head : ∀ c, ∃ first rest, writes c = first :: rest ∧ hexValue first = hexValue (reads c) ∧
    ((hexValue first).isSome → rest = [] ∧ first = reads c)
  bytes_eq : ∀ c, c ≠ '%' → ∀ rest,
    bytes (writes c ++ rest) = (bytes rest).map (String.utf8EncodeChar (reads c) ++ ·)

/-- What is written stands for the bytes of what is read. -/
theorem Transparent.bytes_flatMap {writes : Char → List Char} {reads : Char → Char}
    (h : Transparent writes reads) :
    ∀ text : List Char, bytes (text.flatMap writes) = bytes (text.map reads)
  | [] => rfl
  | c :: text => by
    by_cases hc : c = '%'
    · subst hc
      rw [List.flatMap_cons, List.map_cons, h.percent.1, h.percent.2]
      -- an escape needs two digits, and each of them has to be written as it is
      match text with
      | [] => rfl
      | [high] =>
        obtain ⟨first, rest, hwrites, hhex, hdigit⟩ := h.head high
        rw [List.flatMap_singleton, List.map_singleton, hwrites]
        cases hfirst : (hexValue first).isSome with
        | true =>
          rw [(hdigit hfirst).1]
          rfl
        | false =>
          have hnone := Option.not_isSome_iff_eq_none.mp (Bool.eq_false_iff.mp hfirst)
          cases rest with
          | nil => rfl
          | cons second rest => simp [bytes, hexByte, hnone]
      | high :: low :: text =>
        obtain ⟨first, rest, hwrites, hhex, hdigit⟩ := h.head high
        obtain ⟨second, more, hwrites', hhex', hdigit'⟩ := h.head low
        rw [List.flatMap_cons, List.flatMap_cons, List.map_cons, List.map_cons, hwrites, hwrites']
        cases hfirst : (hexValue first).isSome with
        | false =>
          have hnone := Option.not_isSome_iff_eq_none.mp (Bool.eq_false_iff.mp hfirst)
          have hnone' : hexValue (reads high) = none := hhex ▸ hnone
          cases rest <;> simp [bytes, hexByte, hnone, hnone']
        | true =>
          obtain ⟨rfl, rfl⟩ := hdigit hfirst
          cases hsecond : (hexValue second).isSome with
          | false =>
            have hnone := Option.not_isSome_iff_eq_none.mp (Bool.eq_false_iff.mp hsecond)
            have hnone' : hexValue (reads low) = none := hhex' ▸ hnone
            simp [bytes, hexByte, hnone, hnone']
          | true =>
            obtain ⟨rfl, rfl⟩ := hdigit' hsecond
            have ih := h.bytes_flatMap text
            simp only [List.cons_append, List.nil_append, bytes, if_true, ih]
    · rw [List.flatMap_cons, List.map_cons, h.bytes_eq c hc, h.bytes_flatMap text,
        bytes_cons_of_ne (h.ne_percent c hc)]

section EncodeSet

variable {set : EncodeSet} {c : Char}

theorem encodeChar_of_not (h : set.contains c = false) : encodeChar set c = [c] := by
  rw [encodeChar, h]
  rfl

theorem encodeChar_of_contains (h : set.contains c = true) :
    encodeChar set c = (String.utf8EncodeChar c).flatMap escape := if_pos h

/-- An escape starts with a percent sign. -/
theorem exists_of_contains (h : set.contains c = true) :
    ∃ rest, encodeChar set c = '%' :: rest := by
  rw [encodeChar_of_contains h]
  cases hencoded : String.utf8EncodeChar c with
  | nil =>
    have hlength := String.length_utf8EncodeChar c
    have hpos := c.utf8Size_pos
    rw [hencoded, List.length_nil] at hlength
    omega
  | cons byte encoded => exact ⟨_, rfl⟩

theorem hexValue_of_contains (h : set.contains c = true) : hexValue c = none := by
  cases hhex : hexValue c with
  | none => rfl
  | some value => exact absurd (set.digits c (hhex ▸ rfl)) (by simp [h])

end EncodeSet

theorem transparent_encodeChar (set : EncodeSet) : Transparent (encodeChar set) id where
  percent := ⟨encodeChar_of_not set.percent, rfl⟩
  ne_percent := fun _ hc => hc
  head := by
    intro c
    cases hset : set.contains c with
    | false => exact ⟨c, [], encodeChar_of_not hset, rfl, fun _ => ⟨rfl, rfl⟩⟩
    | true =>
      obtain ⟨rest, hrest⟩ := exists_of_contains hset
      refine ⟨'%', rest, hrest, (hexValue_of_contains hset).symm, fun hsome => ?_⟩
      cases hsome
  bytes_eq := by
    intro c hc rest
    cases hset : set.contains c with
    | false =>
      rw [encodeChar_of_not hset]
      exact bytes_cons_of_ne hc rest
    | true =>
      rw [encodeChar_of_contains hset]
      exact bytes_flatMap_escape _ rest

/-- **Encoding keeps what a text stands for.** -/
theorem bytes_encode (set : EncodeSet) (text : List Char) :
    bytes (encode set text) = bytes text := by
  have h := (transparent_encodeChar set).bytes_flatMap text
  rwa [List.map_id] at h

theorem decode_encode (set : EncodeSet) (text : List Char) :
    decode (encode set text) = decode text := by
  rw [decode, bytes_encode, decode]

theorem mem_escape {byte : UInt8} {c : Char} (h : c ∈ escape byte) :
    c = '%' ∨ (hexValue c).isSome := by
  have hbyte : byte.toNat < 256 := byte.toNat_lt
  have hdigit : ∀ value < 16, c = hexDigit value → (hexValue c).isSome := by
    rintro value hvalue rfl
    rw [hexValue_hexDigit value hvalue]
    rfl
  simp only [escape, List.mem_cons, List.not_mem_nil, or_false] at h
  rcases h with h | h | h
  · exact Or.inl h
  · exact Or.inr (hdigit _ (by omega) h)
  · exact Or.inr (hdigit _ (by omega) h)

/-- A character of the text, or a part of an escape. -/
theorem mem_encodeChar {set : EncodeSet} {c written : Char} (h : written ∈ encodeChar set c) :
    written = c ∧ set.contains c = false ∨ written = '%' ∨ (hexValue written).isSome := by
  cases hset : set.contains c with
  | false =>
    rw [encodeChar_of_not hset, List.mem_singleton] at h
    exact Or.inl ⟨h, rfl⟩
  | true =>
    rw [encodeChar_of_contains hset] at h
    obtain ⟨byte, -, hbyte⟩ := List.mem_flatMap.mp h
    exact Or.inr (mem_escape hbyte)

/-- Nothing of the set is left. -/
theorem not_contains_of_mem_encode {set : EncodeSet} {text : List Char} {c : Char}
    (h : c ∈ encode set text) : set.contains c = false := by
  obtain ⟨original, -, hwritten⟩ := List.mem_flatMap.mp h
  rcases mem_encodeChar hwritten with ⟨rfl, hset⟩ | rfl | hhex
  · exact hset
  · exact set.percent
  · exact set.digits c hhex

/-- A separator stays what it is, and none is written for anything else. -/
theorem not_mem_encodeChar {set : EncodeSet} {c separator : Char} (hne : c ≠ separator)
    (hpercent : separator ≠ '%') (hhex : hexValue separator = none) :
    separator ∉ encodeChar set c := by
  intro h
  rcases mem_encodeChar h with ⟨heq, -⟩ | heq | hdigit
  · exact hne heq.symm
  · exact hpercent heq
  · exact absurd hdigit (by simp [hhex])

theorem encode_of_forall {set : EncodeSet} {text : List Char}
    (h : ∀ c ∈ text, set.contains c = false) : encode set text = text := by
  induction text with
  | nil => rfl
  | cons c text ih =>
    obtain ⟨hc, htext⟩ := List.forall_mem_cons.mp h
    rw [encode, List.flatMap_cons, encodeChar_of_not hc, ← encode, ih htext]
    rfl

theorem encode_ne_nil {set : EncodeSet} {text : List Char} (h : text ≠ []) :
    encode set text ≠ [] := by
  obtain ⟨c, rest, rfl⟩ := List.exists_cons_of_ne_nil h
  have hc : encodeChar set c ≠ [] := by
    cases hset : set.contains c with
    | false =>
      rw [encodeChar_of_not hset]
      exact List.cons_ne_nil _ _
    | true =>
      obtain ⟨escape, hescape⟩ := exists_of_contains hset
      rw [hescape]
      exact List.cons_ne_nil _ _
  exact List.append_ne_nil_of_left_ne_nil hc _

/-- Without an escape in it, the written text is the text itself. -/
theorem encode_of_no_escape {set : EncodeSet} {text : List Char} (h : '%' ∉ encode set text) :
    encode set text = text := by
  apply encode_of_forall
  intro c hc
  cases hset : set.contains c with
  | false => rfl
  | true =>
    obtain ⟨rest, hrest⟩ := exists_of_contains hset
    exact absurd (List.mem_flatMap.mpr ⟨c, hc, hrest ▸ List.mem_cons_self ..⟩) h

/-! ## Spaces written as `+` -/

/-- Every `+` read as a space. -/
def plusAsSpace (c : Char) : Char := if c = '+' then ' ' else c

theorem map_plusAsSpace {text : List Char} (h : '+' ∉ text) : text.map plusAsSpace = text := by
  apply (List.map_congr_left _).trans (List.map_id text)
  intro c hc
  have hne : c ≠ '+' := fun heq => h (heq ▸ hc)
  exact if_neg hne

theorem not_mem_map_plusAsSpace (text : List Char) : '+' ∉ text.map plusAsSpace := by
  intro h
  obtain ⟨c, -, hc⟩ := List.mem_map.mp h
  rw [plusAsSpace] at hc
  split at hc
  · cases hc
  · next hne => exact hne hc

theorem plusAsSpace_eq_iff {c separator : Char} (hplus : separator ≠ '+')
    (hspace : separator ≠ ' ') : plusAsSpace c = separator ↔ c = separator := by
  unfold plusAsSpace
  split
  · next heq => exact iff_of_false hspace.symm fun h => hplus (h ▸ heq)
  · exact Iff.rfl

theorem transparent_plusAsSpace (set : EncodeSet) (hplus : set.contains '+' = false) :
    Transparent (fun c => (encodeChar set c).map plusAsSpace) plusAsSpace where
  percent := ⟨by rw [encodeChar_of_not set.percent]; rfl, rfl⟩
  ne_percent := fun c hc h => hc ((plusAsSpace_eq_iff (by decide) (by decide)).mp h)
  head := by
    intro c
    cases hset : set.contains c with
    | false => exact ⟨plusAsSpace c, [], by rw [encodeChar_of_not hset]; rfl, rfl,
        fun _ => ⟨rfl, rfl⟩⟩
    | true =>
      obtain ⟨rest, hrest⟩ := exists_of_contains hset
      have hc : plusAsSpace c = c := if_neg fun heq => (by simp [heq, hplus] at hset)
      refine ⟨'%', rest.map plusAsSpace, by rw [hrest]; rfl, ?_, fun hsome => (by cases hsome)⟩
      rw [hc, hexValue_of_contains hset]
      rfl
  bytes_eq := by
    intro c hc rest
    cases hset : set.contains c with
    | false =>
      rw [encodeChar_of_not hset]
      exact bytes_cons_of_ne (fun h => hc ((plusAsSpace_eq_iff (by decide) (by decide)).mp h)) rest
    | true =>
      have hread : plusAsSpace c = c := if_neg fun heq => (by simp [heq, hplus] at hset)
      have hescapes : '+' ∉ (String.utf8EncodeChar c).flatMap escape := by
        intro h
        obtain ⟨byte, -, hbyte⟩ := List.mem_flatMap.mp h
        rcases mem_escape hbyte with h | h <;> cases h
      rw [encodeChar_of_contains hset, map_plusAsSpace hescapes, hread]
      exact bytes_flatMap_escape _ rest

/-- Encoding keeps what a text stands for when its `+` are read as spaces. -/
theorem decode_plusAsSpace_encode {set : EncodeSet} (hplus : set.contains '+' = false)
    (text : List Char) :
    decode ((encode set text).map plusAsSpace) = decode (text.map plusAsSpace) := by
  have h := (transparent_plusAsSpace set hplus).bytes_flatMap text
  rw [← List.map_flatMap] at h
  rw [decode, encode, h, decode]

end Library.PercentDecoding
