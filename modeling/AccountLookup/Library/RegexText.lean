/-
# The written form of regular expressions

How a text is read as a regular expression: the characters that are operators, what is
written with them, and the expression that a text stands for. How characters fall
together when case is ignored, and what is in a bracketed or an escaped class, is left
open. A text that uses an operator is heavier than what it finds, so it finds something
that it is not a part of; a text without operators finds what it is a part of.
-/

import AccountLookup.Library.Regex

namespace Library.Regex

/-- The characters with a meaning of their own. -/
def operators : List Char := ['\\', '^', '$', '.', '|', '?', '*', '+', '(', ')', '[']

/-- No opening brace of the text is followed by a count, which would repeat what stands
before it. -/
def countFree (opensCount : List Char → Bool) : List Char → Bool
  | [] => true
  | c :: rest => !(c == '{' && opensCount rest) && countFree opensCount rest

/-- How characters are compared. -/
structure Reading where
  /-- Case folding: two characters that differ only in case have one image, and an engine that
  ignores case compares the images. The identity is the fold of an engine that does not. -/
  fold : Char → Char
  /-- What is between brackets, as a set. -/
  setOf : List Char → Char → Prop
  /-- A letter with a backslash, as a set. -/
  classOf : Char → Char → Prop

namespace Reading

variable (reading : Reading)

/-- The text is a part of the other one, if case is ignored. -/
def Within (text value : List Char) : Prop :=
  text.map reading.fold <:+: value.map reading.fold

instance (t value : List Char) : Decidable (reading.Within t value) := List.decidableInfix _ _

/-- The characters equal to one up to case. -/
def like (c : Char) : Regex Char := .one fun d => reading.fold c = reading.fold d

end Reading

/-- What a quantifier makes of an expression. -/
inductive Quantifies (r : Regex Char) : Char → Regex Char → Prop
  | star : Quantifies r '*' (.star r)
  | plus : Quantifies r '+' (.seq r (.star r))
  | optional : Quantifies r '?' (.either .empty r)

/-- The parts that a written expression is put together from. -/
inductive Level
  | atom
  | item
  | sequence
  | choice

/-- The text is written for the expression. -/
inductive Writes (reading : Reading) : Level → List Char → Regex Char → Prop
  | char {c : Char} (h : c ∉ operators) : Writes reading .atom [c] (reading.like c)
  | any : Writes reading .atom ['.'] (.one fun c => c ≠ '\n')
  | escaped {c : Char} (h : c.isAlphanum = false) :
      Writes reading .atom ['\\', c] (reading.like c)
  | classed {c : Char} (h : c ∈ ['d', 'D', 'w', 'W', 's', 'S']) :
      Writes reading .atom ['\\', c] (.one (reading.classOf c))
  | bracketed {body : List Char} (hbody : ∀ c ∈ body, c ∉ ['[', '\\', ']'])
      (hempty : body ≠ []) (hcaret : body ≠ ['^']) :
      Writes reading .atom ('[' :: (body ++ [']'])) (.one (reading.setOf body))
  | group {t : List Char} {r : Regex Char} (h : Writes reading .choice t r) :
      Writes reading .atom ('(' :: (t ++ [')'])) r
  | once {t : List Char} {r : Regex Char} (h : Writes reading .atom t r) :
      Writes reading .item t r
  | quantified {t : List Char} {q : Char} {r r' : Regex Char} (h : Writes reading .atom t r)
      (hq : Quantifies r q r') : Writes reading .item (t ++ [q]) r'
  | lazily {t : List Char} {q : Char} {r r' : Regex Char} (h : Writes reading .atom t r)
      (hq : Quantifies r q r') : Writes reading .item (t ++ [q, '?']) r'
  | start : Writes reading .item ['^'] .start
  | finish : Writes reading .item ['$'] (.finish '\n')
  | nil : Writes reading .sequence [] .empty
  | cons {t t' : List Char} {r r' : Regex Char} (hfirst : Writes reading .item t r)
      (hrest : Writes reading .sequence t' r') :
      Writes reading .sequence (t ++ t') (.seq r r')
  | single {t : List Char} {r : Regex Char} (h : Writes reading .sequence t r) :
      Writes reading .choice t r
  | either {t t' : List Char} {r r' : Regex Char} (hfirst : Writes reading .sequence t r)
      (hrest : Writes reading .choice t' r') :
      Writes reading .choice (t ++ '|' :: t') (.either r r')

variable {reading : Reading} {level : Level} {t : List Char} {r r' : Regex Char}

/-- Only plain characters. -/
def OperatorFree (t : List Char) : Prop := ∀ c ∈ t, c ∉ operators

/-- Only plain characters, and dots. -/
def Dotted (t : List Char) : Prop := ∀ c ∈ t, c ∈ operators → c = '.'

theorem Quantifies.weight_le {q : Char} (h : Quantifies r q r') : r'.weight ≤ r.weight := by
  cases h with
  | star => exact Nat.zero_le _
  | plus => exact Nat.le_refl _
  | optional => exact Nat.max_le.mpr ⟨Nat.zero_le _, Nat.le_refl _⟩

/-- **Operators make a text heavier than its expression**, all but the dot. -/
theorem Writes.weight_lt_or (h : Writes reading level t r) :
    r.weight < t.length ∨ r.weight = t.length ∧ Dotted t := by
  induction h with
  | char h =>
    refine Or.inr ⟨rfl, fun c hc hoperator => ?_⟩
    obtain rfl := List.mem_singleton.mp hc
    exact absurd hoperator h
  | any => exact Or.inr ⟨rfl, fun c hc _ => List.mem_singleton.mp hc⟩
  | escaped | classed => exact Or.inl (Nat.lt_succ_self 1)
  | bracketed =>
    refine Or.inl ?_
    simp only [weight, List.length_cons, List.length_append, List.length_nil]
    omega
  | group _ ih =>
    refine Or.inl ?_
    simp only [List.length_cons, List.length_append, List.length_nil]
    rcases ih with hlt | ⟨heq, -⟩ <;> omega
  | once _ ih => exact ih
  | quantified _ hq ih =>
    refine Or.inl ?_
    have hle := hq.weight_le
    simp only [List.length_append, List.length_cons, List.length_nil]
    rcases ih with hlt | ⟨heq, -⟩ <;> omega
  | lazily _ hq ih =>
    refine Or.inl ?_
    have hle := hq.weight_le
    simp only [List.length_append, List.length_cons, List.length_nil]
    rcases ih with hlt | ⟨heq, -⟩ <;> omega
  | start | finish => exact Or.inl Nat.zero_lt_one
  | nil => exact Or.inr ⟨rfl, fun c hc => (by cases hc)⟩
  | cons _ _ ihfirst ihrest =>
    simp only [weight, List.length_append]
    rcases ihfirst with hlt | ⟨heq, hdotted⟩
    · refine Or.inl ?_
      rcases ihrest with hlt' | ⟨heq', -⟩ <;> omega
    · rcases ihrest with hlt' | ⟨heq', hdotted'⟩
      · refine Or.inl ?_
        omega
      · refine Or.inr ⟨by omega, fun c hc => ?_⟩
        exact (List.mem_append.mp hc).elim (hdotted c) (hdotted' c)
  | single _ ih => exact ih
  | either _ _ ihfirst ihrest =>
    refine Or.inl ?_
    simp only [weight, List.length_append, List.length_cons]
    rcases ihfirst with hlt | ⟨heq, -⟩ <;> rcases ihrest with hlt' | ⟨heq', -⟩ <;> omega

/-- A text is not a part of a shorter one. -/
theorem Reading.Within.length_le {value : List Char} (h : reading.Within t value) :
    t.length ≤ value.length := by
  simpa using List.IsInfix.length_le h

/-- With an operator other than the dot, an expression that finds anything finds a text
that it is not a part of. -/
theorem Writes.exists_found_not_within (h : Writes reading level t r) (hoperator : ¬ Dotted t)
    {value : List Char} (hfinds : r.Finds value) :
    ∃ short, r.Finds short ∧ ¬ reading.Within t short := by
  obtain ⟨short, hlength, hshort⟩ := hfinds.exists_short
  refine ⟨short, hshort, fun hwithin => ?_⟩
  have hle := hwithin.length_le
  rcases h.weight_lt_or with hlt | ⟨-, hdotted⟩
  · omega
  · exact hoperator hdotted

/-- What a plain character or a dot stands for. -/
def Reading.Takes (reading : Reading) (c d : Char) : Prop :=
  if c = '.' then d ≠ '\n' else reading.fold c = reading.fold d

theorem takes_of_not_operator {c d : Char} (h : c ∉ operators) :
    reading.Takes c d ↔ reading.fold c = reading.fold d := by
  have hdot : c ≠ '.' := fun heq => h (by rw [heq]; decide)
  rw [Reading.Takes, if_neg hdot]

theorem not_dotted_of_mem {c : Char} (hmem : c ∈ t) (hoperator : c ∈ operators)
    (hdot : c ≠ '.') : ¬ Dotted t := fun hdotted => hdot (hdotted c hmem hoperator)

theorem Quantifies.not_dotted {q : Char} (h : Quantifies r q r') (hmem : q ∈ t) : ¬ Dotted t := by
  cases h with
  | star => exact not_dotted_of_mem hmem (by decide) (by decide)
  | plus => exact not_dotted_of_mem hmem (by decide) (by decide)
  | optional => exact not_dotted_of_mem hmem (by decide) (by decide)

/-- **Such a text matches character by character.** -/
theorem Writes.matches_iff_of_dotted (h : Writes reading level t r) (hdotted : Dotted t)
    (left part right : List Char) :
    Matches r left part right ↔ List.Forall₂ reading.Takes t part := by
  induction h generalizing left part right with
  | char h =>
    simp [Reading.like, List.forall₂_cons_left_iff, takes_of_not_operator h, and_comm]
  | any => simp [Reading.Takes, List.forall₂_cons_left_iff, and_comm]
  | escaped | classed | bracketed | group | start | finish =>
    -- the text begins with an operator
    exact absurd hdotted (not_dotted_of_mem (List.mem_cons_self ..) (by decide) (by decide))
  | once _ ih => exact ih hdotted left part right
  | quantified _ hq => exact absurd hdotted (hq.not_dotted (by simp))
  | lazily _ hq => exact absurd hdotted (hq.not_dotted (by simp))
  | nil => simp
  | cons _ _ ihfirst ihrest =>
    have hfirst := ihfirst fun c hc => hdotted c (List.mem_append_left _ hc)
    have hrest := ihrest fun c hc => hdotted c (List.mem_append_right _ hc)
    simp only [matches_seq_iff, hfirst, hrest, forall₂_append_iff]
  | single _ ih => exact ih hdotted left part right
  | either =>
    exact absurd hdotted (not_dotted_of_mem (List.mem_append_right _ (List.mem_cons_self ..))
      (by decide) (by decide))

/-- Every such text is written for an expression. -/
theorem exists_writes_of_dotted (reading : Reading) (hdotted : Dotted t) :
    ∃ r, Writes reading .choice t r := by
  suffices h : ∃ r, Writes reading .sequence t r from h.imp fun _ => .single
  induction t with
  | nil => exact ⟨_, .nil⟩
  | cons c t ih =>
    obtain ⟨rest, hrest⟩ := ih fun d hd => hdotted d (List.mem_cons_of_mem _ hd)
    by_cases hc : c ∈ operators
    · obtain rfl := hdotted c (List.mem_cons_self ..) hc
      exact ⟨_, .cons (.once .any) hrest⟩
    · exact ⟨_, .cons (.once (.char hc)) hrest⟩

theorem OperatorFree.dotted (h : OperatorFree t) : Dotted t :=
  fun c hc hoperator => absurd hoperator (h c hc)

theorem within_iff {value : List Char} :
    reading.Within t value ↔
      ∃ part, part <:+: value ∧ t.map reading.fold = part.map reading.fold := by
  constructor
  · intro h
    obtain ⟨part, hpart, heq⟩ := List.infix_map_iff.mp h
    exact ⟨part, hpart, heq⟩
  · rintro ⟨part, hpart, heq⟩
    rw [Reading.Within, heq]
    exact hpart.map reading.fold

theorem OperatorFree.forall₂_takes_iff (h : OperatorFree t) (part : List Char) :
    List.Forall₂ reading.Takes t part ↔ t.map reading.fold = part.map reading.fold := by
  induction t generalizing part with
  | nil => simp [eq_comm]
  | cons c t ih =>
    have ht := ih fun d hd => h d (List.mem_cons_of_mem _ hd)
    cases part with
    | nil => simp
    | cons d part =>
      rw [List.forall₂_cons, takes_of_not_operator (h c (List.mem_cons_self ..)), ht,
        List.map_cons, List.map_cons, List.cons.injEq]

theorem Writes.finds_iff_of_operatorFree (h : Writes reading .choice t r) (hfree : OperatorFree t)
    (value : List Char) : r.Finds value ↔ reading.Within t value := by
  rw [finds_iff_of_forall₂ (h.matches_iff_of_dotted hfree.dotted), within_iff]
  simp only [hfree.forall₂_takes_iff]

/-- The text with another character for every dot. -/
def undotted (t : List Char) : List Char := t.map fun c => if c = '.' then 'a' else c

theorem Writes.exists_found_of_dot (h : Writes reading .choice t r) (hdotted : Dotted t)
    (hdot : '.' ∈ t) (hfold : reading.fold 'a' ≠ reading.fold '.') :
    r.Finds (undotted t) ∧ ¬ reading.Within t (undotted t) := by
  constructor
  · refine ⟨[], undotted t, [], by simp, (h.matches_iff_of_dotted hdotted _ _ _).mpr ?_⟩
    rw [undotted, List.forall₂_map_right_iff, List.forall₂_same]
    intro c hc
    by_cases hc : c = '.'
    · rw [Reading.Takes, if_pos hc, if_pos hc]
      decide
    · rw [Reading.Takes, if_neg hc, if_neg hc]
  · intro hwithin
    have heq : t.map reading.fold = (undotted t).map reading.fold :=
      hwithin.eq_of_length (by simp [undotted])
    rw [undotted, List.map_map, List.map_inj_left] at heq
    exact hfold (by simpa using (heq '.' hdot).symm)

/-- **A text finds what it is a part of exactly when it has no operator.** -/
theorem Writes.finds_within_iff (h : Writes reading .choice t r)
    (hfold : reading.fold 'a' ≠ reading.fold '.') :
    (∀ value, r.Finds value ↔ reading.Within t value) ↔ OperatorFree t := by
  refine ⟨fun hall => ?_, fun hfree => h.finds_iff_of_operatorFree hfree⟩
  have hself : r.Finds t := (hall t).mpr (List.infix_refl _)
  by_cases hdotted : Dotted t
  · intro c hc hoperator
    obtain rfl := hdotted c hc hoperator
    obtain ⟨hfinds, hnot⟩ := h.exists_found_of_dot hdotted hc hfold
    exact hnot ((hall _).mp hfinds)
  · obtain ⟨short, hfinds, hnot⟩ := h.exists_found_not_within hdotted hself
    exact absurd ((hall short).mp hfinds) hnot

end Library.Regex
