/-
# Caches with a time to live

A key-value cache whose entries carry the last instant at which they are still
served. Queries reach the cache through a key function that need not be
injective, and values stand for answers of some backing store. The cache is
*coherent* when no entry it still serves contradicts the store, and coherence is
exactly what makes reading through the cache invisible to the reader. The rules
below say what each cache operation needs in order to keep it.
-/

import Mathlib.Algebra.Order.Monoid.Unbundled.Basic
import Mathlib.Logic.Function.Basic
import Mathlib.Order.Lattice

namespace Library

universe u v w x y

/-- A cached value with the last instant at which it is served. -/
structure TtlEntry (V : Type v) (T : Type w) where
  value : V
  expiresAt : T

/-- A cache from keys to values with a time to live. -/
structure TtlCache (K : Type u) (V : Type v) (T : Type w) where
  /-- The entry last set under each key, whether or not it is still served. -/
  entry : K → Option (TtlEntry V T)

namespace TtlCache

variable {K : Type u} {V : Type v} {T : Type w}

/-- The cache without entries. -/
def empty : TtlCache K V T := ⟨fun _ => none⟩

section Reading

variable [LinearOrder T]

/-- The value served under a key at the instant `now`. -/
def get (c : TtlCache K V T) (now : T) (k : K) : Option V :=
  match c.entry k with
  | none => none
  | some e => if now ≤ e.expiresAt then some e.value else none

@[simp]
theorem get_empty (now : T) (k : K) : (empty : TtlCache K V T).get now k = none := rfl

theorem get_eq_some_iff {c : TtlCache K V T} {now : T} {k : K} {v : V} :
    c.get now k = some v ↔
      ∃ e, c.entry k = some e ∧ now ≤ e.expiresAt ∧ e.value = v := by
  unfold get
  cases c.entry k with
  | none => simp
  | some e => simp

/-- What is served later was already served before. -/
theorem get_eq_some_of_le {c : TtlCache K V T} {now later : T} {k : K} {v : V}
    (hle : now ≤ later) (h : c.get later k = some v) : c.get now k = some v := by
  obtain ⟨e, he, hlive, hv⟩ := get_eq_some_iff.mp h
  exact get_eq_some_iff.mpr ⟨e, he, le_trans hle hlive, hv⟩

variable {Q : Type x} {R : Type y} (key : Q → K) (answer : Q → R) (view : V → R)

/-- No entry still served contradicts the store: whatever is served under the
key of a query is the store's answer to it. -/
def Coherent (c : TtlCache K V T) (now : T) : Prop :=
  ∀ q v, c.get now (key q) = some v → answer q = view v

/-- Answer from the cache when it serves the key, from the store otherwise. -/
def readThrough (c : TtlCache K V T) (now : T) (q : Q) : R :=
  match c.get now (key q) with
  | some v => view v
  | none => answer q

variable {key answer view}

/-- **A cache is invisible to its readers exactly when it is coherent.** -/
theorem readThrough_eq_answer_iff_coherent {c : TtlCache K V T} {now : T} :
    (∀ q, readThrough key answer view c now q = answer q) ↔
      Coherent key answer view c now := by
  constructor
  · intro h q v hv
    have hq := h q
    rw [readThrough, hv] at hq
    exact hq.symm
  · intro h q
    rw [readThrough]
    cases hv : c.get now (key q) with
    | none => rfl
    | some v => exact (h q v hv).symm

theorem coherent_empty (now : T) : Coherent key answer view (empty : TtlCache K V T) now := by
  intro q v h
  rw [get_empty] at h
  cases h

/-- Time passing only removes entries. -/
theorem Coherent.later {c : TtlCache K V T} {now later : T}
    (h : Coherent key answer view c now) (hle : now ≤ later) :
    Coherent key answer view c later :=
  fun q v hv => h q v (get_eq_some_of_le hle hv)

end Reading

section Lifetime

variable [LinearOrder T] [Add T]

/-- No entry is served for longer than the duration from now on. -/
def Within (c : TtlCache K V T) (now duration : T) : Prop :=
  ∀ k e, c.entry k = some e → e.expiresAt ≤ now + duration

variable {c : TtlCache K V T} {now after duration : T}

theorem within_empty (now duration : T) : (empty : TtlCache K V T).Within now duration := by
  intro k e hentry
  cases hentry

theorem Within.later [AddRightMono T] (h : c.Within now duration) (hle : now ≤ after) :
    c.Within after duration :=
  fun k e hentry => (h k e hentry).trans (add_le_add_left hle duration)

/-- What is still served when the duration has passed was not there before. -/
theorem Within.entry_ne (h : c.Within now duration) {k : K} {e : TtlEntry V T}
    (hafter : now + duration < after) (hlive : after ≤ e.expiresAt) : c.entry k ≠ some e := by
  intro hentry
  exact absurd (hafter.trans_le hlive) (h k e hentry).not_gt

end Lifetime

section Writing

variable [DecidableEq K]

/-- Set a key, to be served until `expiresAt`. -/
def setex (c : TtlCache K V T) (k : K) (v : V) (expiresAt : T) : TtlCache K V T :=
  ⟨Function.update c.entry k (some ⟨v, expiresAt⟩)⟩

/-- Remove a key, by command or by eviction. -/
def del (c : TtlCache K V T) (k : K) : TtlCache K V T :=
  ⟨Function.update c.entry k none⟩

@[simp]
theorem entry_setex (c : TtlCache K V T) (k k' : K) (v : V) (expiresAt : T) :
    (c.setex k v expiresAt).entry k' =
      if k' = k then some ⟨v, expiresAt⟩ else c.entry k' :=
  Function.update_apply ..

@[simp]
theorem entry_del (c : TtlCache K V T) (k k' : K) :
    (c.del k).entry k' = if k' = k then none else c.entry k' :=
  Function.update_apply ..

section Lifetime

variable [LinearOrder T] [Add T] {c : TtlCache K V T} {now duration : T}

theorem Within.del (h : c.Within now duration) (k : K) : (c.del k).Within now duration := by
  intro k' e hentry
  rw [entry_del] at hentry
  split at hentry
  · cases hentry
  · exact h k' e hentry

/-- What is set for the duration at most is served for the duration at most. -/
theorem Within.setex (h : c.Within now duration) {expiresAt : T}
    (hexpires : expiresAt ≤ now + duration) (k : K) (v : V) :
    (c.setex k v expiresAt).Within now duration := by
  intro k' e hentry
  rw [entry_setex] at hentry
  split at hentry
  · obtain rfl := Option.some.inj hentry
    exact hexpires
  · exact h k' e hentry

end Lifetime

variable [LinearOrder T]

@[simp]
theorem get_setex (c : TtlCache K V T) (now : T) (k k' : K) (v : V) (expiresAt : T) :
    (c.setex k v expiresAt).get now k' =
      if k' = k then (if now ≤ expiresAt then some v else none) else c.get now k' := by
  unfold get
  rw [entry_setex]
  by_cases h : k' = k
  · simp [h]
  · simp [h]

@[simp]
theorem get_del (c : TtlCache K V T) (now : T) (k k' : K) :
    (c.del k).get now k' = if k' = k then none else c.get now k' := by
  unfold get
  rw [entry_del]
  by_cases h : k' = k
  · simp [h]
  · simp [h]

variable {Q : Type x} {R : Type y} {key : Q → K} {answer : Q → R} {view : V → R}

/-- Removing a key keeps coherence with an unchanged store. -/
theorem Coherent.del {c : TtlCache K V T} {now : T}
    (h : Coherent key answer view c now) (k : K) :
    Coherent key answer view (c.del k) now := by
  intro q v hv
  rw [get_del] at hv
  split at hv
  · cases hv
  · exact h q v hv

/-- What removing a key needs when the store may have changed: the other keys
still served answer as the new store does. -/
theorem coherent_del_iff {c : TtlCache K V T} {now : T} {k : K} :
    Coherent key answer view (c.del k) now ↔
      ∀ q v, key q ≠ k → c.get now (key q) = some v → answer q = view v := by
  constructor
  · intro h q v hk hv
    exact h q v (by rw [get_del, if_neg hk, hv])
  · intro h q v hv
    rw [get_del] at hv
    split at hv
    · cases hv
    · next hk => exact h q v hk hv

/-- What setting a key needs: every query with that key is answered by the new
value, and the other keys still served answer as the store does. -/
theorem coherent_setex_iff {c : TtlCache K V T} {now expiresAt : T} {k : K} {v : V}
    (hlive : now ≤ expiresAt) :
    Coherent key answer view (c.setex k v expiresAt) now ↔
      (∀ q, key q = k → answer q = view v) ∧
        ∀ q v', key q ≠ k → c.get now (key q) = some v' → answer q = view v' := by
  constructor
  · intro h
    refine ⟨fun q hk => h q v ?_, fun q v' hk hv => h q v' ?_⟩
    · rw [get_setex, if_pos hk, if_pos hlive]
    · rw [get_setex, if_neg hk, hv]
  · rintro ⟨hset, hrest⟩ q v' hv
    rw [get_setex, if_pos hlive] at hv
    split at hv
    · next hk => exact Option.some.inj hv ▸ hset q hk
    · next hk => exact hrest q v' hk hv

end Writing

end TtlCache

end Library
