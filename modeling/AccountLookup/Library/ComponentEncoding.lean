/-
# Texts as single segments of a path

A text is written as one component of a URL when all but letters, digits and a few marks is
escaped, the percent sign included. Whatever the text is, decoding gives it back, and nothing
in it separates anything. Only a dot and two dots are written as themselves and mean something
else as a segment of a path.
-/

import AccountLookup.Library.UrlReference

namespace Library.ComponentEncoding

open PercentDecoding UrlText UrlReference

/-- The characters that are written as they are. -/
def isUnreserved (c : Char) : Bool := c.isAlphanum || "-_.!~*'()".toList.contains c

def encodeComponentChar (c : Char) : List Char :=
  if isUnreserved c then [c] else (String.utf8EncodeChar c).flatMap escape

def encodeComponent (text : List Char) : List Char := text.flatMap encodeComponentChar

theorem encodeComponentChar_of_unreserved {c : Char} (h : isUnreserved c = true) :
    encodeComponentChar c = [c] := if_pos h

theorem encodeComponent_of_forall {text : List Char} (h : ∀ c ∈ text, isUnreserved c = true) :
    encodeComponent text = text := by
  induction text with
  | nil => rfl
  | cons c text ih =>
    obtain ⟨hc, htext⟩ := List.forall_mem_cons.mp h
    rw [encodeComponent, List.flatMap_cons, encodeComponentChar_of_unreserved hc,
      ← encodeComponent, ih htext]
    rfl

/-- What is written for a character stands for its bytes. -/
theorem bytes_encodeComponentChar (c : Char) (rest : List Char) :
    bytes (encodeComponentChar c ++ rest) =
      (bytes rest).map (String.utf8EncodeChar c ++ ·) := by
  by_cases hc : isUnreserved c = true
  · have hpercent : c ≠ '%' := by
      rintro rfl
      revert hc
      decide
    rw [encodeComponentChar_of_unreserved hc]
    exact bytes_cons_of_ne hpercent rest
  · rw [encodeComponentChar, if_neg hc]
    exact bytes_flatMap_escape _ rest

theorem bytes_encodeComponent (text : List Char) :
    bytes (encodeComponent text) = some (text.flatMap String.utf8EncodeChar) := by
  induction text with
  | nil => rfl
  | cons c text ih =>
    rw [encodeComponent, List.flatMap_cons, bytes_encodeComponentChar, ← encodeComponent, ih]
    rfl

/-- **A component is decoded to the text that it was written for.** -/
theorem decode_encodeComponent (text : List Char) : decode (encodeComponent text) = some text := by
  have hencode : (text.flatMap String.utf8EncodeChar).toByteArray = text.utf8Encode := rfl
  rw [decode, bytes_encodeComponent, Option.bind_some, hencode, List.utf8Decode?_utf8Encode,
    Option.map_some]

theorem encodeComponent_injective : Function.Injective encodeComponent := by
  intro first second h
  apply Option.some.inj
  rw [← decode_encodeComponent first, ← decode_encodeComponent second, h]

theorem encodeComponent_eq_nil {text : List Char} : encodeComponent text = [] ↔ text = [] :=
  encodeComponent_injective.eq_iff' rfl

theorem isUnreserved_hexDigit : ∀ value < 16, isUnreserved (hexDigit value) = true := by
  decide

/-- A component has nothing but unreserved characters and percent signs. -/
theorem mem_encodeComponent {text : List Char} {c : Char} (h : c ∈ encodeComponent text) :
    isUnreserved c = true ∨ c = '%' := by
  obtain ⟨original, -, hwritten⟩ := List.mem_flatMap.mp h
  by_cases horiginal : isUnreserved original = true
  · rw [encodeComponentChar_of_unreserved horiginal, List.mem_singleton] at hwritten
    exact Or.inl (hwritten ▸ horiginal)
  · rw [encodeComponentChar, if_neg horiginal] at hwritten
    obtain ⟨byte, -, hbyte⟩ := List.mem_flatMap.mp hwritten
    have hlt : byte.toNat < 256 := byte.toNat_lt
    simp only [escape, List.mem_cons, List.not_mem_nil, or_false] at hbyte
    rcases hbyte with rfl | rfl | rfl
    · exact Or.inr rfl
    · exact Or.inl (isUnreserved_hexDigit _ (by omega))
    · exact Or.inl (isUnreserved_hexDigit _ (by omega))

/-- All of it stays what it is in a path. -/
theorem isKept_of_mem_encodeComponent {text : List Char} {c : Char}
    (h : c ∈ encodeComponent text) : IsKept c := by
  rcases mem_encodeComponent h with h | rfl
  · simp only [isUnreserved, Bool.or_eq_true, List.contains_iff_mem] at h
    have hmarks : ∀ c ∈ "-_.!~*'()".toList, IsKept c := forall_mem_of_all (by decide)
    exact h.elim isKept_of_isAlphanum (hmarks c)
  · exact ⟨pathSet.percent, by decide, rfl⟩

/-- Without a percent sign, a component is the text itself. -/
theorem encodeComponent_of_no_escape {text : List Char} (h : '%' ∉ encodeComponent text) :
    encodeComponent text = text := by
  have hdecoded := decode_of_no_escape h
  rw [decode_encodeComponent] at hdecoded
  exact (Option.some.inj hdecoded).symm

/-- A character is a capital, or it is its own small form. -/
theorem isUpper_or_toLower_eq (c : Char) : c.isUpper = true ∨ c.toLower = c := by
  unfold Char.toLower
  delta Char.isUpper
  split
  · next h => exact Or.inl (by simpa using h)
  · exact Or.inr rfl

theorem isUnreserved_of_toLower {c : Char} (h : isUnreserved c.toLower = true) :
    isUnreserved c = true := by
  rcases isUpper_or_toLower_eq c with hupper | hlower
  · have halpha : c.isAlphanum = true := by
      delta Char.isAlphanum Char.isAlpha
      rw [hupper]
      rfl
    rw [isUnreserved, halpha, Bool.true_or]
  · rwa [hlower] at h

/-- A word is recognised in a component as in the text, in capitals or not. -/
theorem map_toLower_encodeComponent_iff {word text : List Char}
    (hword : ∀ c ∈ word, isUnreserved c = true) :
    (encodeComponent text).map Char.toLower = word ↔ text.map Char.toLower = word := by
  constructor
  · intro h
    have hescape : '%' ∉ encodeComponent text := by
      intro hmem
      have hunreserved := hword '%' (h ▸ List.mem_map_of_mem hmem)
      revert hunreserved
      decide
    rwa [encodeComponent_of_no_escape hescape] at h
  · intro h
    have htext : ∀ c ∈ text, isUnreserved c = true := fun c hc =>
      isUnreserved_of_toLower (hword _ (h ▸ List.mem_map_of_mem hc))
    rwa [encodeComponent_of_forall htext]

theorem toNat_toLower {c : Char} (h : c.isUpper = true) :
    65 ≤ c.toNat ∧ c.toNat ≤ 90 ∧ c.toLower.toNat = c.toNat + 32 := by
  have hupper : c.val ≥ 'A'.val ∧ c.val ≤ 'Z'.val := by
    delta Char.isUpper at h
    simpa only [decide_eq_true_eq, Bool.and_eq_true] using h
  have hrange : 65 ≤ c.toNat ∧ c.toNat ≤ 90 := hupper
  have hval : c.toNat = c.val.toNat := rfl
  have hshift : (c.val + 32).toNat = c.val.toNat + 32 := by
    rw [UInt32.toNat_add]
    have h32 : (32 : UInt32).toNat = 32 := rfl
    omega
  refine ⟨hrange.1, hrange.2, ?_⟩
  unfold Char.toLower
  rw [dif_pos hupper]
  exact hshift

/-- Below the letters, a character is its only capital. -/
theorem eq_of_toLower_eq {c small : Char} (h : c.toLower = small) (hsmall : small.toNat < 97) :
    c = small := by
  rcases isUpper_or_toLower_eq c with hupper | hlower
  · obtain ⟨hmin, -, hshift⟩ := toNat_toLower hupper
    rw [h] at hshift
    omega
  · exact hlower.symm.trans h

theorem hexValue_of_toLower_eq {c : Char} (h : c.toLower = 'e') : hexValue c = some 14 := by
  rcases isUpper_or_toLower_eq c with hupper | hlower
  · obtain ⟨-, -, hshift⟩ := toNat_toLower hupper
    rw [h] at hshift
    have hcapital : c = 'E' := by
      apply Char.toNat_inj.mp
      have he : 'e'.toNat = 101 := rfl
      have hE : 'E'.toNat = 69 := rfl
      omega
    rw [hcapital]
    rfl
  · rw [hlower.symm.trans h]
    rfl

/-- A segment that means a dot stands for a dot. -/
theorem bytes_of_isSingleDot {segment : List Char} (h : isSingleDot segment = true)
    (rest : List Char) : bytes (segment ++ rest) = (bytes rest).map ([0x2E] ++ ·) := by
  simp only [isSingleDot, decide_eq_true_eq, List.mem_cons, List.not_mem_nil, or_false] at h
  rcases h with h | h
  · obtain ⟨c, rfl, hc⟩ := List.map_eq_singleton_iff.mp h
    rw [eq_of_toLower_eq hc (by decide)]
    exact bytes_cons_of_ne (by decide) rest
  · obtain ⟨percent, digits, rfl, hpercent, hdigits⟩ := List.map_eq_cons_iff.mp h
    obtain ⟨two, letters, rfl, htwo, hletters⟩ := List.map_eq_cons_iff.mp hdigits
    obtain ⟨letter, rfl, hletter⟩ := List.map_eq_singleton_iff.mp hletters
    rw [eq_of_toLower_eq hpercent (by decide), eq_of_toLower_eq htwo (by decide)]
    simp only [List.cons_append, List.nil_append, bytes, hexByte, hexValue_of_toLower_eq hletter]
    rfl

/-- A segment that means two dots is made of two that mean one. -/
theorem exists_of_isDoubleDot {segment : List Char} (h : isDoubleDot segment = true) :
    ∃ first second, segment = first ++ second ∧ isSingleDot first = true ∧
      isSingleDot second = true := by
  have hsplit : ∃ first second, segment.map Char.toLower = first ++ second ∧
      first ∈ [".".toList, "%2e".toList] ∧ second ∈ [".".toList, "%2e".toList] := by
    simp only [isDoubleDot, decide_eq_true_eq, List.mem_cons, List.not_mem_nil, or_false] at h
    rcases h with h | h | h | h
    · exact ⟨_, _, h.trans (show _ = ".".toList ++ ".".toList by decide), by decide, by decide⟩
    · exact ⟨_, _, h.trans (show _ = ".".toList ++ "%2e".toList by decide), by decide, by decide⟩
    · exact ⟨_, _, h.trans (show _ = "%2e".toList ++ ".".toList by decide), by decide, by decide⟩
    · exact ⟨_, _, h.trans (show _ = "%2e".toList ++ "%2e".toList by decide), by decide,
        by decide⟩
  obtain ⟨first, second, heq, hfirst, hsecond⟩ := hsplit
  obtain ⟨left, right, rfl, rfl, rfl⟩ := List.map_eq_append_iff.mp heq
  exact ⟨left, right, rfl, decide_eq_true hfirst, decide_eq_true hsecond⟩

theorem isDoubleDot_append {first second : List Char} (hfirst : isSingleDot first = true)
    (hsecond : isSingleDot second = true) : isDoubleDot (first ++ second) = true := by
  simp only [isSingleDot, decide_eq_true_eq, List.mem_cons, List.not_mem_nil, or_false]
    at hfirst hsecond
  rw [isDoubleDot, List.map_append]
  rcases hfirst with hfirst | hfirst <;> rcases hsecond with hsecond | hsecond <;>
    rw [hfirst, hsecond] <;> decide

/-- **A dot segment is decoded to one dot or two.** -/
theorem decode_of_isDots {segment : List Char} (h : IsDots segment) :
    decode segment = some ['.'] ∨ decode segment = some ['.', '.'] := by
  rcases h with h | h
  · left
    have hbytes := bytes_of_isSingleDot h []
    rw [List.append_nil] at hbytes
    rw [decode, hbytes]
    show decode ['.'] = some ['.']
    exact decode_of_no_escape (by decide)
  · right
    obtain ⟨first, second, rfl, hfirst, hsecond⟩ := exists_of_isDoubleDot h
    have hbytes := bytes_of_isSingleDot hsecond []
    rw [List.append_nil] at hbytes
    rw [decode, bytes_of_isSingleDot hfirst, hbytes]
    show decode ['.', '.'] = some ['.', '.']
    exact decode_of_no_escape (by decide)

/-- The first byte of a character is its code, or it is none of ASCII. -/
theorem exists_utf8EncodeChar (c : Char) : ∃ byte rest, String.utf8EncodeChar c = byte :: rest ∧
    (byte.toNat = c.toNat ∧ rest = [] ∨ 0xC0 ≤ byte.toNat) := by
  have hcode : c.toNat = c.val.toNat := rfl
  unfold String.utf8EncodeChar
  dsimp only
  split
  · next hascii => exact ⟨_, _, rfl, Or.inl ⟨by rw [UInt8.toNat_ofNat']; omega, rfl⟩⟩
  · split
    · exact ⟨_, _, rfl, Or.inr (by rw [UInt8.toNat_ofNat']; omega)⟩
    · split
      · exact ⟨_, _, rfl, Or.inr (by rw [UInt8.toNat_ofNat']; omega)⟩
      · exact ⟨_, _, rfl, Or.inr (by rw [UInt8.toNat_ofNat']; omega)⟩

/-- The three kinds of hexadecimal digits. -/
theorem hexValue_cases {c : Char} {value : Nat} (h : hexValue c = some value) :
    c.toNat = value + 48 ∧ value < 10 ∨
      (c.toNat = value + 87 ∨ c.toNat = value + 55) ∧ 10 ≤ value ∧ value < 16 := by
  unfold hexValue at h
  simp only [Char.le_def, UInt32.le_iff_toNat_le] at h
  change (if 48 ≤ c.toNat ∧ c.toNat ≤ 57 then some (c.toNat - 48)
    else if 97 ≤ c.toNat ∧ c.toNat ≤ 102 then some (c.toNat - 97 + 10)
    else if 65 ≤ c.toNat ∧ c.toNat ≤ 70 then some (c.toNat - 65 + 10)
    else none) = some value at h
  split at h
  · have hvalue := Option.some.inj h
    omega
  · split at h
    · have hvalue := Option.some.inj h
      omega
    · split at h
      · have hvalue := Option.some.inj h
        omega
      · cases h

/-- The digits of the byte of a dot. -/
theorem digits_of_hexByte {high low : Char} (h : hexByte high low = some 0x2E) :
    high = '2' ∧ low.toLower = 'e' := by
  unfold hexByte at h
  split at h
  · next first second hfirst hsecond =>
    have hvalue := congrArg UInt8.toNat (Option.some.inj h)
    rw [UInt8.toNat_ofNat'] at hvalue
    have hdot : (0x2E : UInt8).toNat = 46 := rfl
    have hhigh := hexValue_cases hfirst
    have hlow := hexValue_cases hsecond
    have htwo : '2'.toNat = 50 := rfl
    refine ⟨Char.toNat_inj.mp (by omega), ?_⟩
    have hcases : low.toNat = 101 ∨ low.toNat = 69 := by omega
    rcases hcases with hcode | hcode
    · rw [Char.toNat_inj.mp (show low.toNat = 'e'.toNat from hcode)]
      rfl
    · rw [Char.toNat_inj.mp (show low.toNat = 'E'.toNat from hcode)]
      rfl
  · cases h

/-- A text stands for bytes by its first escape or by its first character. -/
theorem bytes_cons_cases {c : Char} {rest : List Char} {encoded : List UInt8}
    (h : bytes (c :: rest) = some encoded) :
    (∃ high low more byte tail, c :: rest = '%' :: high :: low :: more ∧
        hexByte high low = some byte ∧ bytes more = some tail ∧ encoded = byte :: tail) ∨
      ∃ tail, bytes rest = some tail ∧ encoded = String.utf8EncodeChar c ++ tail := by
  by_cases hc : c = '%'
  · left
    subst hc
    match rest, h with
    | high :: low :: more, h =>
      rw [bytes, if_pos rfl] at h
      split at h
      · next byte hbyte =>
        obtain ⟨tail, htail, heq⟩ := Option.map_eq_some_iff.mp h
        exact ⟨high, low, more, byte, tail, rfl, hbyte, htail, heq.symm⟩
      · cases h
    | [high], h => cases h
    | [], h => cases h
  · right
    rw [bytes_cons_of_ne hc] at h
    obtain ⟨tail, htail, heq⟩ := Option.map_eq_some_iff.mp h
    exact ⟨tail, htail, heq.symm⟩

/-- What stands for a dot and something after it begins with a segment that means a dot. -/
theorem exists_of_bytes_eq_cons {segment : List Char} {more : List UInt8}
    (h : bytes segment = some (0x2E :: more)) :
    ∃ first rest, segment = first ++ rest ∧ isSingleDot first = true ∧
      bytes rest = some more := by
  cases segment with
  | nil => cases h
  | cons c rest =>
    rcases bytes_cons_cases h with
      ⟨high, low, left, byte, tail, hsegment, hbyte, htail, heq⟩ | ⟨tail, htail, heq⟩
    · obtain ⟨rfl, rfl⟩ := List.cons.inj heq
      obtain ⟨rfl, hlow⟩ := digits_of_hexByte hbyte
      refine ⟨['%', '2', low], left, hsegment, ?_, htail⟩
      simp only [isSingleDot, List.map_cons, List.map_nil, hlow]
      rfl
    · obtain ⟨byte, others, hencode, hbyte⟩ := exists_utf8EncodeChar c
      rw [hencode, List.cons_append] at heq
      obtain ⟨rfl, rfl⟩ := List.cons.inj heq
      have hdot : (0x2E : UInt8).toNat = 46 := rfl
      rcases hbyte with ⟨hcode, rfl⟩ | hbyte
      · have hc : c = '.' := Char.toNat_inj.mp hcode.symm
        exact ⟨['.'], rest, by rw [hc]; rfl, rfl, htail⟩
      · omega

/-- Nothing stands for no bytes but the empty text. -/
theorem eq_nil_of_bytes {segment : List Char} (h : bytes segment = some []) : segment = [] := by
  cases segment with
  | nil => rfl
  | cons c rest =>
    rcases bytes_cons_cases h with ⟨_, _, _, _, _, -, -, -, heq⟩ | ⟨tail, -, heq⟩
    · cases heq
    · obtain ⟨byte, others, hencode, -⟩ := exists_utf8EncodeChar c
      rw [hencode] at heq
      cases heq

/-- The bytes of what is decoded. -/
theorem bytes_of_decode {segment text : List Char} (h : decode segment = some text) :
    bytes segment = some (text.flatMap String.utf8EncodeChar) := by
  obtain ⟨encoded, hbytes, hdecoded⟩ := Option.bind_eq_some_iff.mp h
  obtain ⟨array, harray, rfl⟩ := Option.map_eq_some_iff.mp hdecoded
  have hsome : encoded.toByteArray.utf8Decode?.isSome := Option.isSome_of_eq_some harray
  have hround : (encoded.toByteArray.utf8Decode?.get hsome).toList.utf8Encode =
      encoded.toByteArray := ByteArray.utf8Encode_get_utf8Decode?
  rw [Option.get_of_eq_some hsome harray] at hround
  rw [hbytes, List.toByteArray_inj.mp hround]

/-- **What is decoded to one dot or two is a dot segment.** -/
theorem isDots_of_decode {segment : List Char}
    (h : decode segment = some ['.'] ∨ decode segment = some ['.', '.']) : IsDots segment := by
  rcases h with h | h
  · obtain ⟨first, rest, rfl, hfirst, hrest⟩ := exists_of_bytes_eq_cons (bytes_of_decode h)
    rw [eq_nil_of_bytes hrest, List.append_nil]
    exact Or.inl hfirst
  · obtain ⟨first, rest, rfl, hfirst, hrest⟩ := exists_of_bytes_eq_cons (bytes_of_decode h)
    obtain ⟨second, rest, rfl, hsecond, hrest⟩ := exists_of_bytes_eq_cons hrest
    rw [eq_nil_of_bytes hrest, List.append_nil]
    exact Or.inr (isDoubleDot_append hfirst hsecond)

theorem isDots_iff_decode {segment : List Char} :
    IsDots segment ↔ decode segment = some ['.'] ∨ decode segment = some ['.', '.'] :=
  ⟨decode_of_isDots, isDots_of_decode⟩

/-- **A component is a dot segment only for one dot and for two.** -/
theorem isDots_encodeComponent_iff {text : List Char} :
    IsDots (encodeComponent text) ↔ text = ['.'] ∨ text = ['.', '.'] := by
  rw [isDots_iff_decode, decode_encodeComponent, Option.some.injEq, Option.some.injEq]

end Library.ComponentEncoding
