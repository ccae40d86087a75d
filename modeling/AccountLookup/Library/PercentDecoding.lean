/-
# Percent-decoding

Decoding the escapes `%xy` of a text into the bytes they name and reading the
result as UTF-8, everything else standing for itself. Decoding never makes a text
longer, and it keeps the size of a text exactly when there is nothing to decode.
-/

import Mathlib.Algebra.BigOperators.Group.List.Basic

namespace Library.PercentDecoding

/-- The value of a hexadecimal digit. -/
def hexValue (c : Char) : Option Nat :=
  if '0' ≤ c ∧ c ≤ '9' then some (c.toNat - '0'.toNat)
  else if 'a' ≤ c ∧ c ≤ 'f' then some (c.toNat - 'a'.toNat + 10)
  else if 'A' ≤ c ∧ c ≤ 'F' then some (c.toNat - 'A'.toNat + 10)
  else none

/-- The byte that two hexadecimal digits name. -/
def hexByte (high low : Char) : Option UInt8 :=
  match hexValue high, hexValue low with
  | some h, some l => some (UInt8.ofNat (16 * h + l))
  | _, _ => none

/-- The bytes that a text stands for, unless it has a malformed escape. -/
def bytes : List Char → Option (List UInt8)
  | [] => some []
  | c :: rest =>
    if c = '%' then
      match rest with
      | high :: low :: rest =>
        match hexByte high low with
        | some byte => (bytes rest).map (byte :: ·)
        | none => none
      | _ => none
    else (bytes rest).map (String.utf8EncodeChar c ++ ·)

/-- Decode a text. It fails on a malformed escape and on bytes that are not UTF-8. -/
def decode (text : List Char) : Option (List Char) :=
  (bytes text).bind fun encoded => encoded.toByteArray.utf8Decode?.map Array.toList

/-- The number of bytes of a text. -/
def size (text : List Char) : Nat := (text.flatMap String.utf8EncodeChar).length

theorem size_append (first second : List Char) :
    size (first ++ second) = size first + size second := by
  rw [size, List.flatMap_append, List.length_append, size, size]

theorem size_cons (c : Char) (text : List Char) : size (c :: text) = c.utf8Size + size text := by
  rw [size, List.flatMap_cons, List.length_append, String.length_utf8EncodeChar, size]

theorem length_le_size (text : List Char) : text.length ≤ size text := by
  induction text with
  | nil => exact Nat.le_refl _
  | cons c text ih =>
    have hpos := c.utf8Size_pos
    rw [size_cons, List.length_cons]
    omega

/-- Taking characters out makes a text smaller. -/
theorem size_sublist {first second : List Char} (h : first.Sublist second) :
    size first ≤ size second ∧ (size second ≤ size first → first = second) := by
  induction h with
  | slnil => exact ⟨Nat.le_refl _, fun _ => rfl⟩
  | cons c _ ih =>
    have hpos := c.utf8Size_pos
    rw [size_cons]
    exact ⟨by omega, fun h => absurd h (by omega)⟩
  | cons_cons c _ ih =>
    rw [size_cons, size_cons]
    refine ⟨by omega, fun h => ?_⟩
    rw [ih.2 (by omega)]

theorem bytes_cons_of_ne {c : Char} (hc : c ≠ '%') (rest : List Char) :
    bytes (c :: rest) = (bytes rest).map (String.utf8EncodeChar c ++ ·) := by
  rcases rest with _ | ⟨high, _ | ⟨low, rest⟩⟩ <;> simp [bytes, hc]

theorem bytes_of_no_escape {text : List Char} (h : '%' ∉ text) :
    bytes text = some (text.flatMap String.utf8EncodeChar) := by
  induction text with
  | nil => rfl
  | cons c text ih =>
    obtain ⟨hc, htext⟩ := not_or.mp (mt List.mem_cons.mpr h)
    rw [bytes_cons_of_ne (Ne.symm hc), ih htext, Option.map_some, List.flatMap_cons]

/-- A text without escapes stands for itself. -/
theorem decode_of_no_escape {text : List Char} (h : '%' ∉ text) : decode text = some text := by
  have hencode : (text.flatMap String.utf8EncodeChar).toByteArray = text.utf8Encode := rfl
  rw [decode, bytes_of_no_escape h, Option.bind_some, hencode, List.utf8Decode?_utf8Encode,
    Option.map_some]

/-- The bytes of a text are no more than it has itself, and fewer if it has an escape. -/
theorem length_bytes {text : List Char} : ∀ {encoded : List UInt8}, bytes text = some encoded →
    encoded.length ≤ size text ∧ (encoded.length = size text → '%' ∉ text) := by
  fun_induction bytes text with
  | case1 =>
    rintro encoded ⟨rfl⟩
    exact ⟨Nat.le_refl _, fun _ => List.not_mem_nil⟩
  | case2 high low rest' byte hbyte ih =>
    intro encoded hencoded
    obtain ⟨tail, htail, rfl⟩ := Option.map_eq_some_iff.mp hencoded
    have htriple : size ('%' :: high :: low :: rest') ≥ 3 + size rest' := by
      simp only [size_cons]
      have hhigh := high.utf8Size_pos
      have hlow := low.utf8Size_pos
      have hpercent : '%'.utf8Size = 1 := rfl
      omega
    have hle := (ih htail).1
    rw [List.length_cons]
    exact ⟨by omega, fun heq => absurd heq (by omega)⟩
  | case3 => exact fun h => (by cases h)
  | case4 => exact fun h => (by cases h)
  | case5 c rest hc ih =>
    intro encoded hencoded
    obtain ⟨tail, htail, rfl⟩ := Option.map_eq_some_iff.mp hencoded
    obtain ⟨hle, hexact⟩ := ih htail
    rw [List.length_append, String.length_utf8EncodeChar, size_cons]
    refine ⟨by omega, fun heq hmem => ?_⟩
    rcases List.mem_cons.mp hmem with hpercent | hmem
    · exact hc hpercent.symm
    · exact hexact (by omega) hmem

/-- The decoded text has the size of the bytes. -/
theorem size_of_utf8Decode? {encoded : List UInt8} {text : Array Char}
    (h : encoded.toByteArray.utf8Decode? = some text) : size text.toList = encoded.length := by
  have hsome : encoded.toByteArray.utf8Decode?.isSome := Option.isSome_of_eq_some h
  have hround : (encoded.toByteArray.utf8Decode?.get hsome).toList.utf8Encode =
      encoded.toByteArray := ByteArray.utf8Encode_get_utf8Decode?
  rw [Option.get_of_eq_some hsome h] at hround
  rw [size, ← List.size_toByteArray, ← List.size_toByteArray (l := encoded), ← hround]
  rfl

/-- Decoding never makes a text longer. -/
theorem size_decode_le {text decoded : List Char} (h : decode text = some decoded) :
    size decoded ≤ size text := by
  obtain ⟨encoded, hbytes, hdecoded⟩ := Option.bind_eq_some_iff.mp h
  obtain ⟨array, harray, rfl⟩ := Option.map_eq_some_iff.mp hdecoded
  rw [size_of_utf8Decode? harray]
  exact (length_bytes hbytes).1

/-- Decoding keeps the size of a text only if there is nothing to decode. -/
theorem eq_of_size_decode {text decoded : List Char} (h : decode text = some decoded)
    (hsize : size text ≤ size decoded) : '%' ∉ text ∧ decoded = text := by
  obtain ⟨encoded, hbytes, hdecoded⟩ := Option.bind_eq_some_iff.mp h
  obtain ⟨array, harray, rfl⟩ := Option.map_eq_some_iff.mp hdecoded
  rw [size_of_utf8Decode? harray] at hsize
  obtain ⟨hle, hexact⟩ := length_bytes hbytes
  have hnone := hexact (Nat.le_antisymm hle hsize)
  exact ⟨hnone, Option.some.inj (h.symm.trans (decode_of_no_escape hnone))⟩

end Library.PercentDecoding
