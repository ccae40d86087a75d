/-
# References resolved against a base

What a reference that begins with a single slash comes to on a server: the path and the
query string that are sent. Control characters and spaces at the ends are dropped, tabs and
line ends everywhere; what follows a `#` stays behind, backslashes separate like slashes,
dot segments are resolved, and what a path or a query string may not contain is escaped.
The path is the one that was written, piece by piece, only if nothing of that happens.
-/

import Mathlib.Data.List.DropRight
import AccountLookup.Library.PercentEncoding
import AccountLookup.Library.UrlText

namespace Library.UrlReference

open PercentDecoding UrlText

def isControlOrSpace (c : Char) : Bool := c.toNat ≤ 0x20

def isTabOrNewline (c : Char) : Bool := c.toNat ∈ [0x09, 0x0A, 0x0D]

/-- The code points of hexadecimal digits and of the percent sign. -/
def IsEscapeCode (n : Nat) : Prop :=
  n = 0x25 ∨ 0x30 ≤ n ∧ n ≤ 0x39 ∨ 0x41 ≤ n ∧ n ≤ 0x46 ∨ 0x61 ≤ n ∧ n ≤ 0x66

instance : DecidablePred IsEscapeCode := fun n => by
  unfold IsEscapeCode
  infer_instance

theorem isEscapeCode_of_hexValue {c : Char} (h : (hexValue c).isSome) : IsEscapeCode c.toNat := by
  unfold hexValue at h
  unfold IsEscapeCode
  simp only [Char.le_def, UInt32.le_iff_toNat_le] at h
  have hc : c.toNat = c.val.toNat := rfl
  split at h
  · next hdigit => right; left; rw [hc]; exact hdigit
  · split at h
    · next hlower => right; right; right; rw [hc]; exact hlower
    · split at h
      · next hupper => right; right; left; rw [hc]; exact hupper
      · cases h

/-- The control characters, everything beyond ASCII, and the given code points. -/
def encodeSet (codes : List Nat) (h : ∀ n ∈ codes, ¬ IsEscapeCode n) : EncodeSet where
  contains c := c.toNat < 0x20 || 0x7E < c.toNat || c.toNat ∈ codes
  percent := by
    have hcode : 37 ∉ codes := fun hmem => h _ hmem (by decide)
    simp [hcode]
  digits := by
    intro c hc
    have hescape := isEscapeCode_of_hexValue hc
    have hcode : c.toNat ∉ codes := fun hmem => h _ hmem hescape
    unfold IsEscapeCode at hescape
    simp only [hcode, decide_false, Bool.or_false, Bool.or_eq_false_iff, decide_eq_false_iff_not]
    omega

/-- What is escaped in a path: also a space and quotation mark, `#`, angle brackets, `?`, a
circumflex, a backquote and braces. -/
def pathSet : EncodeSet :=
  encodeSet [0x20, 0x22, 0x23, 0x3C, 0x3E, 0x3F, 0x5E, 0x60, 0x7B, 0x7D] (by decide)

/-- What is escaped in a query string: also a space, quotation marks, `#` and angle
brackets. -/
def querySet : EncodeSet :=
  encodeSet [0x20, 0x22, 0x23, 0x27, 0x3C, 0x3E] (by decide)

/-- A text without the control characters and spaces at its end and without tabs and line
ends. -/
def cleanedEnd (text : List Char) : List Char :=
  (text.rdropWhile isControlOrSpace).filter fun c => !isTabOrNewline c

/-- The reference without what is dropped before it is read. -/
def cleaned (reference : List Char) : List Char :=
  cleanedEnd (reference.dropWhile isControlOrSpace)

/-- A backslash separates like a slash. -/
def asSlash (c : Char) : Char := if c.toNat = 0x5C then '/' else c

def isSingleDot (segment : List Char) : Bool :=
  segment.map Char.toLower ∈ [".".toList, "%2e".toList]

def isDoubleDot (segment : List Char) : Bool :=
  segment.map Char.toLower ∈ ["..".toList, ".%2e".toList, "%2e.".toList, "%2e%2e".toList]

/-- The segment is resolved. -/
def IsDots (segment : List Char) : Prop := isSingleDot segment = true ∨ isDoubleDot segment = true

/-- The path after one more segment. -/
def resolveSegment (path : List (List Char)) (segment : List Char) : List (List Char) :=
  if isDoubleDot segment then path.dropLast
  else if isSingleDot segment then path
  else path ++ [segment]

/-- The path after more segments. A dot segment at the end leaves an empty one. -/
def resolveDots : (path segments : List (List Char)) → List (List Char)
  | path, [] => path
  | path, [last] =>
    if isDoubleDot last || isSingleDot last then resolveSegment path last ++ [[]]
    else resolveSegment path last
  | path, segment :: next :: segments =>
    resolveDots (resolveSegment path segment) (next :: segments)

/-- What is sent to the server: a path, and perhaps a query string. -/
structure Target where
  path : List Char
  query : Option (List Char)
  deriving DecidableEq

/-- The segments that a path is written with, after its leading slash. -/
def writtenSegments (path : List Char) : List (List Char) :=
  ((path.map asSlash).splitOn '/').drop 1

/-- The target of a reference that begins with a single slash. -/
def target (reference : List Char) : Target :=
  let text := before '#' (cleaned reference)
  { path := ['/'].intercalate
      ([] :: (resolveDots [] (writtenSegments (before '?' text))).map (encode pathSet))
    query := if '?' ∈ text then some (encode querySet (after '?' text)) else none }

/-! ## Dot segments -/

/-- The size of the segments, each with its slash. -/
def weight : List (List Char) → Nat
  | [] => 0
  | segment :: segments => size segment + 1 + weight segments

@[simp]
theorem weight_nil : weight [] = 0 := rfl

@[simp]
theorem weight_cons (segment : List Char) (segments : List (List Char)) :
    weight (segment :: segments) = size segment + 1 + weight segments := rfl

@[simp]
theorem weight_append (first second : List (List Char)) :
    weight (first ++ second) = weight first + weight second := by
  induction first with
  | nil => rw [List.nil_append, weight_nil, Nat.zero_add]
  | cons segment first ih =>
    rw [List.cons_append, weight_cons, weight_cons, ih]
    exact (Nat.add_assoc _ _ _).symm

theorem eq_nil_of_weight {segments : List (List Char)} (h : weight segments = 0) :
    segments = [] := by
  cases segments with
  | nil => rfl
  | cons segment segments =>
    rw [weight_cons] at h
    omega

theorem size_pos_of_isDots {segment : List Char} (h : IsDots segment) : 0 < size segment := by
  cases segment with
  | nil => exact absurd h (by unfold IsDots; decide)
  | cons c segment =>
    rw [size_cons]
    have hpos := c.utf8Size_pos
    omega

theorem resolveSegment_of_not {segment : List Char} (h : ¬ IsDots segment)
    (path : List (List Char)) : resolveSegment path segment = path ++ [segment] := by
  obtain ⟨hsingle, hdouble⟩ := not_or.mp h
  rw [resolveSegment, if_neg hdouble, if_neg hsingle]

/-- A dot segment adds nothing to a path. -/
theorem weight_resolveSegment_of_dots {segment : List Char} (h : IsDots segment)
    (path : List (List Char)) : weight (resolveSegment path segment) ≤ weight path := by
  unfold resolveSegment
  split
  · by_cases hpath : path = []
    · rw [hpath, List.dropLast_nil]
    · have hlast := congrArg weight (List.dropLast_concat_getLast hpath)
      rw [weight_append] at hlast
      omega
  · next hdouble => rw [if_pos (h.resolve_right hdouble)]

/-- Resolving dot segments never makes a path longer, and keeps its size only if there is
none. -/
theorem weight_resolveDots (path segments : List (List Char)) :
    weight (resolveDots path segments) ≤ weight path + weight segments ∧
      (weight path + weight segments ≤ weight (resolveDots path segments) →
        (∀ segment ∈ segments, ¬ IsDots segment) ∧
          resolveDots path segments = path ++ segments) := by
  fun_induction resolveDots path segments with
  | case1 path =>
    refine ⟨Nat.le_refl _, fun _ => ⟨fun _ h => (by cases h), ?_⟩⟩
    rw [List.append_nil]
  | case2 path last hdots =>
    have hlast : IsDots last := by
      rw [Bool.or_eq_true] at hdots
      exact hdots.symm
    have hpos := size_pos_of_isDots hlast
    have hle := weight_resolveSegment_of_dots hlast path
    have hempty : size [] = 0 := rfl
    simp only [weight_append, weight_cons, weight_nil, hempty]
    exact ⟨by omega, fun h => absurd h (by omega)⟩
  | case3 path last hdots =>
    have hlast : ¬ IsDots last := fun h => hdots (Bool.or_eq_true _ _ ▸ h.symm)
    rw [resolveSegment_of_not hlast, weight_append]
    refine ⟨Nat.le_refl _, fun _ => ⟨fun segment hsegment => ?_, rfl⟩⟩
    exact List.mem_singleton.mp hsegment ▸ hlast
  | case4 path segment next segments ih =>
    by_cases hdots : IsDots segment
    · have hpos := size_pos_of_isDots hdots
      have hle := weight_resolveSegment_of_dots hdots path
      rw [weight_cons segment]
      exact ⟨by omega, fun h => absurd h (by omega)⟩
    · rw [resolveSegment_of_not hdots, weight_append, weight_cons segment [], weight_nil] at ih
      obtain ⟨hle, hexact⟩ := ih
      rw [resolveSegment_of_not hdots, weight_cons segment]
      refine ⟨by omega, fun h => ?_⟩
      obtain ⟨hrest, heq⟩ := hexact (by omega)
      refine ⟨List.forall_mem_cons.mpr ⟨hdots, hrest⟩, ?_⟩
      rw [heq, List.append_assoc]
      rfl

theorem resolveDots_of_not {segments : List (List Char)}
    (h : ∀ segment ∈ segments, ¬ IsDots segment) (path : List (List Char)) :
    resolveDots path segments = path ++ segments := by
  fun_induction resolveDots path segments with
  | case1 path => exact (List.append_nil path).symm
  | case2 path last hdots =>
    rw [Bool.or_eq_true] at hdots
    exact absurd hdots.symm (h last (List.mem_cons_self ..))
  | case3 path last hdots => exact resolveSegment_of_not (h last (List.mem_cons_self ..)) path
  | case4 path segment next segments ih =>
    obtain ⟨hsegment, hrest⟩ := List.forall_mem_cons.mp h
    rw [ih hrest, resolveSegment_of_not hsegment, List.append_assoc]
    rfl

theorem mem_resolveDots {path segments : List (List Char)} {segment : List Char}
    (h : segment ∈ resolveDots path segments) :
    segment ∈ path ∨ segment ∈ segments ∨ segment = [] := by
  have hresolve : ∀ {path : List (List Char)} {last : List Char},
      segment ∈ resolveSegment path last → segment ∈ path ∨ segment = last := by
    intro path last hmem
    unfold resolveSegment at hmem
    split at hmem
    · exact Or.inl ((List.dropLast_sublist path).subset hmem)
    · split at hmem
      · exact Or.inl hmem
      · exact (List.mem_append.mp hmem).imp id List.mem_singleton.mp
  fun_induction resolveDots path segments with
  | case1 path => exact Or.inl h
  | case2 path last hdots =>
    rcases List.mem_append.mp h with hmem | hmem
    · exact (hresolve hmem).imp id fun heq => Or.inl (List.mem_singleton.mpr heq)
    · exact Or.inr (Or.inr (List.mem_singleton.mp hmem))
  | case3 path last hdots =>
    exact (hresolve h).imp id fun heq => Or.inl (List.mem_singleton.mpr heq)
  | case4 path first next segments ih =>
    rcases ih h with hpath | hrest | hempty
    · rcases hresolve hpath with hold | heq
      · exact Or.inl hold
      · exact Or.inr (Or.inl (heq ▸ List.mem_cons_self ..))
    · exact Or.inr (Or.inl (List.mem_cons_of_mem _ hrest))
    · exact Or.inr (Or.inr hempty)

theorem weight_splitOn (text : List Char) : weight (text.splitOn '/') = size text + 1 := by
  induction text with
  | nil => rfl
  | cons c text ih =>
    rw [List.splitOn_cons_eq_if_modifyHead, size_cons]
    split
    · next hc =>
      obtain rfl := eq_of_beq hc
      rw [weight_cons, ih]
      have hslash : '/'.utf8Size = 1 := rfl
      have hempty : size [] = 0 := rfl
      omega
    · obtain ⟨piece, pieces, hsplit⟩ :=
        List.exists_cons_of_ne_nil (List.splitOn_ne_nil '/' text)
      rw [hsplit, weight_cons] at ih
      rw [hsplit, List.modifyHead_cons, weight_cons, size_cons]
      omega

theorem size_map_asSlash (text : List Char) : size (text.map asSlash) = size text := by
  induction text with
  | nil => rfl
  | cons c text ih =>
    have hc : (asSlash c).utf8Size = c.utf8Size := by
      unfold asSlash
      split
      · next hcode =>
        have hbackslash : c = '\x5c' := Char.toNat_inj.mp hcode
        rw [hbackslash]
        rfl
      · rfl
    rw [List.map_cons, size_cons, size_cons, ih, hc]

/-- The pieces of the path that is sent. -/
theorem splitOn_path (reference : List Char) :
    (target reference).path.splitOn '/' = [] :: (resolveDots [] (writtenSegments
      (before '?' (before '#' (cleaned reference))))).map (encode pathSet) := by
  apply List.splitOn_intercalate '/' _ (List.cons_ne_nil _ _)
  intro piece hpiece
  rcases List.mem_cons.mp hpiece with rfl | hpiece
  · exact List.not_mem_nil
  · obtain ⟨segment, hsegment, rfl⟩ := List.mem_map.mp hpiece
    have hslash : '/' ∉ segment := by
      rcases mem_resolveDots hsegment with h | h | rfl
      · cases h
      · exact not_mem_of_mem_splitOn (List.mem_of_mem_drop h)
      · exact List.not_mem_nil
    intro h
    obtain ⟨c, hc, hwritten⟩ := List.mem_flatMap.mp h
    have hne : c ≠ '/' := fun heq => hslash (heq ▸ hc)
    exact not_mem_encodeChar hne (by decide) (by decide) hwritten

theorem cleanedEnd_sublist (text : List Char) : (cleanedEnd text).Sublist text :=
  List.filter_sublist.trans (List.rdropWhile_prefix _ _).sublist

theorem cleanedEnd_eq_self_iff {text : List Char} :
    cleanedEnd text = text ↔ (∀ c ∈ text, isTabOrNewline c = false) ∧
      ∀ c ∈ text.getLast?, isControlOrSpace c = false := by
  have hlast : text.rdropWhile isControlOrSpace = text ↔
      ∀ c ∈ text.getLast?, isControlOrSpace c = false := by
    rw [List.rdropWhile_eq_self_iff]
    constructor
    · intro h c hc
      obtain ⟨hne, rfl⟩ := List.mem_getLast?_eq_getLast hc
      exact Bool.eq_false_iff.mpr (h hne)
    · intro h hne
      exact Bool.eq_false_iff.mp (h _ (List.getLast_mem_getLast? hne))
  rw [← hlast]
  constructor
  · intro h
    have hsublist : (cleanedEnd text).Sublist (text.rdropWhile isControlOrSpace) :=
      List.filter_sublist
    rw [h] at hsublist
    have hend : text.rdropWhile isControlOrSpace = text :=
      (List.rdropWhile_prefix _ _).sublist.antisymm hsublist
    rw [cleanedEnd, hend, List.filter_eq_self] at h
    exact ⟨fun c hc => by simpa using h c hc, hend⟩
  · rintro ⟨htabs, hend⟩
    rw [cleanedEnd, hend, List.filter_eq_self]
    exact fun c hc => by simpa using htabs c hc

/-- Nothing is dropped in front of a character that is neither control nor space, but tabs
and line ends. -/
theorem cleanedEnd_append_cons {c : Char} (hc : isControlOrSpace c = false)
    (text rest : List Char) : cleanedEnd (text ++ c :: rest) =
      (text.filter fun c => !isTabOrNewline c) ++ c :: cleanedEnd rest := by
  have hend : (text ++ c :: rest).rdropWhile isControlOrSpace =
      text ++ c :: rest.rdropWhile isControlOrSpace := by
    induction rest using List.reverseRecOn with
    | nil =>
      rw [List.rdropWhile_nil]
      exact List.rdropWhile_concat_neg _ _ _ (by simp [hc])
    | append_singleton rest last ih =>
      rw [← List.cons_append, ← List.append_assoc, List.rdropWhile_concat,
        List.rdropWhile_concat, ih]
      split
      · rfl
      · rw [List.append_assoc, List.cons_append]
  have htab : isTabOrNewline c = false := by
    simp only [isControlOrSpace, decide_eq_false_iff_not] at hc
    simp only [isTabOrNewline, List.mem_cons, List.not_mem_nil, or_false,
      decide_eq_false_iff_not]
    omega
  rw [cleanedEnd, hend, List.filter_append, List.filter_cons_of_pos (by simp [htab]), cleanedEnd]

/-- A letter, a digit, or one of the characters that separate them. -/
def IsPlain (c : Char) : Prop := c.isAlphanum = true ∨ c = '/' ∨ c = '?' ∨ c = '='

theorem bounds_of_isAlphanum {c : Char} (h : c.isAlphanum = true) :
    0x30 ≤ c.toNat ∧ c.toNat ≤ 0x39 ∨ 0x41 ≤ c.toNat ∧ c.toNat ≤ 0x5A ∨
      0x61 ≤ c.toNat ∧ c.toNat ≤ 0x7A := by
  delta Char.isAlphanum Char.isAlpha Char.isUpper Char.isLower Char.isDigit at h
  simp only [Bool.or_eq_true, Bool.and_eq_true, decide_eq_true_eq, UInt32.le_iff_toNat_le,
    ge_iff_le] at h
  change ((65 ≤ c.toNat ∧ c.toNat ≤ 90) ∨ (97 ≤ c.toNat ∧ c.toNat ≤ 122)) ∨
    (48 ≤ c.toNat ∧ c.toNat ≤ 57) at h
  omega

theorem bounds_of_isPlain {c : Char} (h : IsPlain c) :
    0x2F ≤ c.toNat ∧ c.toNat ≤ 0x39 ∨ c.toNat = 0x3D ∨ c.toNat = 0x3F ∨
      0x41 ≤ c.toNat ∧ c.toNat ≤ 0x5A ∨ 0x61 ≤ c.toNat ∧ c.toNat ≤ 0x7A := by
  rcases h with h | rfl | rfl | rfl
  · have hbounds := bounds_of_isAlphanum h
    omega
  · decide
  · decide
  · decide

/-- Nothing is dropped from a reference without control characters and spaces. -/
theorem cleaned_of_forall {text : List Char} (h : ∀ c ∈ text, 0x20 < c.toNat) :
    cleaned text = text := by
  have hspace : ∀ c ∈ text, isControlOrSpace c = false := by
    intro c hc
    have hcode := h c hc
    simp only [isControlOrSpace, decide_eq_false_iff_not]
    omega
  have htab : ∀ c ∈ text, isTabOrNewline c = false := by
    intro c hc
    have hcode := h c hc
    simp only [isTabOrNewline, List.mem_cons, List.not_mem_nil, or_false,
      decide_eq_false_iff_not]
    omega
  have hstart : text.dropWhile isControlOrSpace = text := by
    rw [List.dropWhile_eq_self_iff]
    intro hlength
    rw [hspace _ (List.getElem_mem hlength)]
    exact Bool.false_ne_true
  rw [cleaned, hstart, cleanedEnd_eq_self_iff]
  exact ⟨htab, fun c hc => hspace c (List.mem_of_mem_getLast? hc)⟩

theorem cleaned_of_isPlain {text : List Char} (h : ∀ c ∈ text, IsPlain c) :
    cleaned text = text := by
  apply cleaned_of_forall
  intro c hc
  have hbounds := bounds_of_isPlain (h c hc)
  omega

theorem le_toLower_of_isAlphanum {c : Char} (h : c.isAlphanum = true) :
    0x30 ≤ c.toLower.toNat := by
  have hbounds := bounds_of_isAlphanum h
  unfold Char.toLower
  split
  · next hupper =>
    change 0x30 ≤ (c.val + 32).toNat
    have hle : c.val.toNat ≤ 90 := hupper.2
    rw [UInt32.toNat_add]
    have hc : c.toNat = c.val.toNat := rfl
    have hshift : (32 : UInt32).toNat = 32 := rfl
    omega
  · omega

/-- No dot and no percent sign is the small form of a letter or a digit. -/
theorem not_mem_map_toLower {text : List Char} (h : ∀ c ∈ text, c.isAlphanum = true) {c : Char}
    (hc : c.toNat < 0x30) : c ∉ text.map Char.toLower := by
  intro hmem
  obtain ⟨upper, hupper, rfl⟩ := List.mem_map.mp hmem
  have hle := le_toLower_of_isAlphanum (h upper hupper)
  omega

theorem not_isDots_of_alphanum {segment : List Char}
    (h : ∀ c ∈ segment, c.isAlphanum = true) : ¬ IsDots segment := by
  intro hdots
  have hmem : '.' ∈ segment.map Char.toLower ∨ '%' ∈ segment.map Char.toLower := by
    simp only [IsDots, isSingleDot, isDoubleDot, decide_eq_true_eq, List.mem_cons,
      List.not_mem_nil, or_false] at hdots
    rcases hdots with (heq | heq) | heq | heq | heq | heq <;> rw [heq] <;> decide
  exact hmem.elim (not_mem_map_toLower h (by decide)) (not_mem_map_toLower h (by decide))

/-! ## Paths that are kept -/

/-- A path as it is written. -/
def writtenPath (segments : List (List Char)) : List Char := ['/'].intercalate ([] :: segments)

/-- A character of a path is a separator or one of a segment. -/
theorem mem_writtenPath {segments : List (List Char)} {c : Char} (hc : c ∈ writtenPath segments) :
    (∃ segment ∈ segments, c ∈ segment) ∨ c = '/' := by
  by_contra hnot
  rw [not_or] at hnot
  suffices hpieces : ∀ piece ∈ [] :: segments, c ∉ piece by
    exact not_mem_intercalate hnot.2 hpieces hc
  refine List.forall_mem_cons.mpr ⟨List.not_mem_nil, fun segment hsegment hmem => ?_⟩
  exact hnot.1 ⟨segment, hsegment, hmem⟩

/-- A character that stays what it is inside a segment. -/
def IsKept (c : Char) : Prop := pathSet.contains c = false ∧ c ≠ '/' ∧ asSlash c = c

instance : DecidablePred IsKept := fun c => by
  unfold IsKept
  infer_instance

theorem isKept_of_isAlphanum {c : Char} (h : c.isAlphanum = true) : IsKept c := by
  have hbounds := bounds_of_isAlphanum h
  refine ⟨?_, fun heq => ?_, if_neg (by omega)⟩
  · simp only [pathSet, encodeSet, List.mem_cons, List.not_mem_nil, or_false,
      Bool.or_eq_false_iff, decide_eq_false_iff_not]
    omega
  · have hslash : '/'.toNat = 0x2F := rfl
    rw [heq] at hbounds
    omega

theorem IsKept.bounds {c : Char} (h : IsKept c) :
    0x20 < c.toNat ∧ c.toNat ≠ 0x23 ∧ c.toNat ≠ 0x3F := by
  have hset := h.1
  simp only [pathSet, encodeSet, List.mem_cons, List.not_mem_nil, or_false, Bool.or_eq_false_iff,
    decide_eq_false_iff_not] at hset
  omega

/-- A path of segments that are kept. -/
structure IsKeptPath (segments : List (List Char)) : Prop where
  ne_nil : segments ≠ []
  kept : ∀ segment ∈ segments, ∀ c ∈ segment, IsKept c
  notDots : ∀ segment ∈ segments, ¬ IsDots segment

namespace IsKeptPath

variable {segments : List (List Char)} (h : IsKeptPath segments)

include h

theorem isKept {c : Char} (hc : c ∈ writtenPath segments) : IsKept c ∨ c = '/' := by
  apply (mem_writtenPath hc).imp_left
  rintro ⟨segment, hsegment, hmem⟩
  exact h.kept segment hsegment c hmem

theorem splitOn_writtenPath : (writtenPath segments).splitOn '/' = [] :: segments := by
  refine List.splitOn_intercalate '/' ?_ (List.cons_ne_nil _ _)
  refine List.forall_mem_cons.mpr ⟨List.not_mem_nil, fun segment hsegment hmem => ?_⟩
  exact (h.kept segment hsegment _ hmem).2.1 rfl

theorem writtenSegments_writtenPath : writtenSegments (writtenPath segments) = segments := by
  have hslash : (writtenPath segments).map asSlash = writtenPath segments := by
    rw [List.map_congr_left (g := id), List.map_id]
    intro c hc
    rcases h.isKept hc with hkept | rfl
    · exact hkept.2.2
    · rfl
  rw [writtenSegments, hslash, h.splitOn_writtenPath]
  rfl

/-- The path is sent as it is written. -/
theorem sent : ['/'].intercalate ([] :: (resolveDots [] (writtenSegments
    (writtenPath segments))).map (encode pathSet)) = writtenPath segments := by
  have hencode : segments.map (encode pathSet) = segments := by
    rw [List.map_congr_left (g := id), List.map_id]
    exact fun segment hsegment => encode_of_forall fun c hc => (h.kept segment hsegment c hc).1
  rw [h.writtenSegments_writtenPath, resolveDots_of_not h.notDots, List.nil_append, hencode]
  rfl

/-- **A path that is kept is sent as it is.** -/
theorem target_eq : target (writtenPath segments) = ⟨writtenPath segments, none⟩ := by
  have hcodes : ∀ c ∈ writtenPath segments,
      0x20 < c.toNat ∧ c.toNat ≠ 0x23 ∧ c.toNat ≠ 0x3F := by
    intro c hc
    rcases h.isKept hc with hkept | rfl
    · exact hkept.bounds
    · decide
  have hhash : '#' ∉ writtenPath segments := fun hmem => (hcodes _ hmem).2.1 rfl
  have hquestion : '?' ∉ writtenPath segments := fun hmem => (hcodes _ hmem).2.2 rfl
  rw [target, cleaned_of_forall fun c hc => (hcodes c hc).1, before_of_not_mem hhash]
  simp only [before_of_not_mem hquestion, if_neg hquestion, h.sent]

end IsKeptPath

/-- A path of words. -/
structure IsWordPath (segments : List (List Char)) : Prop where
  ne_nil : segments ≠ []
  words : ∀ segment ∈ segments, ∀ c ∈ segment, c.isAlphanum = true

namespace IsWordPath

variable {segments : List (List Char)} (h : IsWordPath segments)

include h

theorem isKeptPath : IsKeptPath segments where
  ne_nil := h.ne_nil
  kept := fun segment hsegment c hc => isKept_of_isAlphanum (h.words segment hsegment c hc)
  notDots := fun segment hsegment => not_isDots_of_alphanum (h.words segment hsegment)

theorem isPlain {c : Char} (hc : c ∈ writtenPath segments) : c.isAlphanum = true ∨ c = '/' := by
  apply (mem_writtenPath hc).imp_left
  rintro ⟨segment, hsegment, hmem⟩
  exact h.words segment hsegment c hmem

theorem not_mem {c : Char} (hc : c.isAlphanum = false) (hslash : c ≠ '/') :
    c ∉ writtenPath segments := fun hmem =>
  (h.isPlain hmem).elim (fun halpha => Bool.false_ne_true (hc.symm.trans halpha)) hslash

/-- **A path of words is sent as it is.** -/
theorem target_eq : target (writtenPath segments) = ⟨writtenPath segments, none⟩ :=
  h.isKeptPath.target_eq

/-- **So is a query string of words after it.** -/
theorem target_query_eq {query : List Char}
    (hquery : ∀ c ∈ query, c.isAlphanum = true ∨ c = '=') :
    target (writtenPath segments ++ '?' :: query) = ⟨writtenPath segments, some query⟩ := by
  have hquestion : '?' ∉ writtenPath segments := h.not_mem rfl (by decide)
  have hplain : ∀ c ∈ writtenPath segments ++ '?' :: query, IsPlain c := by
    intro c hc
    rcases List.mem_append.mp hc with hc | hc
    · exact (h.isPlain hc).imp_right Or.inl
    · rcases List.mem_cons.mp hc with rfl | hc
      · exact Or.inr (Or.inr (Or.inl rfl))
      · exact (hquery c hc).imp_right fun heq => Or.inr (Or.inr heq)
  have hhash : '#' ∉ writtenPath segments ++ '?' :: query := by
    intro hmem
    rcases hplain _ hmem with hc | hc | hc | hc
    · exact Bool.false_ne_true hc
    · cases hc
    · cases hc
    · cases hc
  have hencode : encode querySet query = query := by
    refine encode_of_forall fun c hc => ?_
    have hbounds := bounds_of_isPlain ((hquery c hc).imp_right fun heq => Or.inr (Or.inr heq))
    simp only [querySet, encodeSet, List.mem_cons, List.not_mem_nil, or_false, Bool.or_eq_false_iff,
      decide_eq_false_iff_not]
    omega
  have hmem : '?' ∈ writtenPath segments ++ '?' :: query :=
    List.mem_append_right _ (List.mem_cons_self ..)
  rw [target, cleaned_of_isPlain hplain, before_of_not_mem hhash]
  simp only [before_append_cons, before_of_not_mem hquestion, after_append_cons hquestion,
    if_pos hmem, hencode, h.isKeptPath.sent]

end IsWordPath

end Library.UrlReference
