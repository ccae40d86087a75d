/-
# Insertion-ordered maps

The map of ECMAScript: entries are listed in the order in which their keys were
first set, setting a present key keeps its place, and deleting a key drops its
entry. That no key is listed twice is a field, so every operation returns a map
again.
-/

import Mathlib.Data.List.Induction
import Mathlib.Data.List.Nodup

namespace Library

universe u v

/-- A finite map that remembers the order of its keys. -/
structure OrderedMap (K : Type u) (V : Type v) where
  /-- The entries, oldest key first. -/
  entries : List (K × V)
  /-- No key is listed twice. -/
  nodup : (entries.map Prod.fst).Nodup

namespace OrderedMap

variable {K : Type u} {V : Type v}

/-- The map without entries. -/
def empty : OrderedMap K V := ⟨[], List.nodup_nil⟩

/-- The values in the order of their keys. -/
def values (m : OrderedMap K V) : List V := m.entries.map Prod.snd

@[ext]
theorem ext {m m' : OrderedMap K V} (h : m.entries = m'.entries) : m = m' := by
  cases m
  cases m'
  simpa using h

/-- Every value is listed under its own key. -/
def Keyed (key : V → K) (m : OrderedMap K V) : Prop := ∀ e ∈ m.entries, key e.2 = e.1

theorem keyed_empty {key : V → K} : Keyed key (empty : OrderedMap K V) := fun e he => by
  cases he

variable [DecidableEq K]

/-- The value listed first under `k`. -/
def lookup (k : K) : List (K × V) → Option V
  | [] => none
  | e :: entries => if e.1 = k then some e.2 else lookup k entries

/-- Overwrite the value of `k`, in place. -/
def replace (k : K) (v : V) : List (K × V) → List (K × V)
  | [] => []
  | e :: entries => (if e.1 = k then (k, v) else e) :: replace k v entries

theorem lookup_eq_none_iff {k : K} {entries : List (K × V)} :
    lookup k entries = none ↔ k ∉ entries.map Prod.fst := by
  induction entries with
  | nil => simp [lookup]
  | cons e entries ih =>
    by_cases h : e.1 = k
    · simp [lookup, h]
    · simp [lookup, h, ih, Ne.symm h]

theorem lookup_append (k : K) (first second : List (K × V)) :
    lookup k (first ++ second) = (lookup k first).or (lookup k second) := by
  induction first with
  | nil => rfl
  | cons e first ih =>
    by_cases h : e.1 = k
    · simp [lookup, h]
    · simp [lookup, h, ih]

theorem lookup_replace (k k' : K) (v : V) (entries : List (K × V)) :
    lookup k' (replace k v entries) =
      if k' = k then (lookup k entries).map fun _ => v else lookup k' entries := by
  induction entries with
  | nil => simp [lookup, replace]
  | cons e entries ih =>
    by_cases he : e.1 = k
    · by_cases hk : k' = k
      · simp [lookup, replace, he, hk]
      · simp [lookup, replace, he, hk, ih, Ne.symm hk]
    · by_cases hk : e.1 = k'
      · have hne : ¬ k' = k := fun h => he (hk.trans h)
        simp only [replace, lookup, if_neg he, if_pos hk, if_neg hne]
      · simp only [replace, lookup, if_neg he, if_neg hk, ih]

theorem lookup_filter_ne (k k' : K) (entries : List (K × V)) :
    lookup k' (entries.filter fun e => e.1 ≠ k) =
      if k' = k then none else lookup k' entries := by
  induction entries with
  | nil => simp [lookup]
  | cons e entries ih =>
    by_cases he : e.1 = k
    · by_cases hk : k' = k
      · simpa [lookup, he, hk] using ih
      · simpa [lookup, he, hk, Ne.symm hk] using ih
    · by_cases hk : e.1 = k'
      · have hne : ¬ k' = k := fun h => he (hk.trans h)
        simp [lookup, hk, hne]
      · simpa [lookup, he, hk] using ih

theorem map_fst_replace (k : K) (v : V) (entries : List (K × V)) :
    (replace k v entries).map Prod.fst = entries.map Prod.fst := by
  induction entries with
  | nil => rfl
  | cons e entries ih =>
    by_cases h : e.1 = k
    · simp [replace, h, ih]
    · simp [replace, h, ih]

/-- The value under a key, if there is one. -/
def get (m : OrderedMap K V) (k : K) : Option V := lookup k m.entries

/-- Whether a key is set. -/
def has (m : OrderedMap K V) (k : K) : Bool := (m.get k).isSome

/-- Set a key: in place when it is present, as the newest entry otherwise. -/
def set (m : OrderedMap K V) (k : K) (v : V) : OrderedMap K V :=
  if h : m.get k = none then
    ⟨m.entries ++ [(k, v)], by
      have hfresh := lookup_eq_none_iff.mp h
      rw [List.map_append, List.map_singleton]
      exact List.nodup_append.mpr ⟨m.nodup, List.nodup_singleton k, fun a ha b hb heq =>
        hfresh (by rwa [heq, List.mem_singleton.mp hb] at ha)⟩⟩
  else
    ⟨replace k v m.entries, by rw [map_fst_replace]; exact m.nodup⟩

/-- Delete a key. -/
def delete (m : OrderedMap K V) (k : K) : OrderedMap K V :=
  ⟨m.entries.filter fun e => e.1 ≠ k,
    m.nodup.sublist (List.Sublist.map _ List.filter_sublist)⟩

theorem entries_set_of_get_eq_none {m : OrderedMap K V} {k : K} (h : m.get k = none) (v : V) :
    (m.set k v).entries = m.entries ++ [(k, v)] := by
  rw [set, dif_pos h]

/-- Reading after setting. -/
@[simp]
theorem get_set (m : OrderedMap K V) (k k' : K) (v : V) :
    (m.set k v).get k' = if k' = k then some v else m.get k' := by
  by_cases h : m.get k = none
  · rw [get, entries_set_of_get_eq_none h, lookup_append]
    by_cases hk : k' = k
    · subst hk
      simp [show lookup k' m.entries = none from h, lookup]
    · simp [lookup, get, hk, Ne.symm hk]
  · obtain ⟨old, hold⟩ := Option.ne_none_iff_exists'.mp h
    rw [set, dif_neg h, get, lookup_replace, show lookup k m.entries = some old from hold]
    rfl

/-- Reading after deleting. -/
@[simp]
theorem get_delete (m : OrderedMap K V) (k k' : K) :
    (m.delete k).get k' = if k' = k then none else m.get k' :=
  lookup_filter_ne k k' m.entries

/-- Setting a key to a value it does not have changes the map. -/
theorem set_ne_self {m : OrderedMap K V} {k : K} {v : V} (h : m.get k ≠ some v) :
    m.set k v ≠ m := fun heq => h (by rw [← heq, get_set, if_pos rfl])

/-- Deleting a present key changes the map. -/
theorem delete_ne_self {m : OrderedMap K V} {k : K} (h : m.get k ≠ none) : m.delete k ≠ m :=
  fun heq => h (by rw [← heq, get_delete, if_pos rfl])

section Filing

variable (key : V → K)

/-- File a value under its own key, unless the key is taken. -/
def file (m : OrderedMap K V) (v : V) : OrderedMap K V :=
  if m.has (key v) then m else m.set (key v) v

/-- File the values in order; the first value of a key stays. -/
def collect (values : List V) : OrderedMap K V := values.foldl (file key) empty

variable {key} {m : OrderedMap K V} {v : V}

theorem has_eq_false_iff {k : K} : m.has k = false ↔ m.get k = none := by
  rw [has, Option.isSome_eq_false_iff, Option.isNone_iff_eq_none]

theorem Keyed.set (h : Keyed key m) (hget : m.get (key v) = none) :
    Keyed key (m.set (key v) v) := by
  intro e he
  rw [entries_set_of_get_eq_none hget, List.mem_append, List.mem_singleton] at he
  rcases he with hold | rfl
  · exact h e hold
  · rfl

theorem Keyed.delete (h : Keyed key m) (k : K) : Keyed key (m.delete k) :=
  fun e he => h e (List.mem_filter.mp he).1

theorem Keyed.file (h : Keyed key m) (v : V) : Keyed key (m.file key v) := by
  rw [OrderedMap.file]
  split
  · exact h
  · next hhas => exact h.set (has_eq_false_iff.mp ((Bool.not_eq_true _).mp hhas))

/-- Every value of the map satisfies a property that the filed values satisfy. -/
theorem forall_mem_values_file {P : V → Prop} (h : ∀ a ∈ m.values, P a) (hv : P v) :
    ∀ a ∈ (m.file key v).values, P a := by
  rw [file]
  split
  · exact h
  · next hhas =>
    intro a ha
    rw [values, entries_set_of_get_eq_none
      (has_eq_false_iff.mp ((Bool.not_eq_true _).mp hhas)), List.map_append,
      List.mem_append] at ha
    rcases ha with hold | hnew
    · exact h a hold
    · rwa [List.mem_singleton.mp hnew]

/-- Filing further values whose keys are new and distinct lists them at the end. -/
theorem entries_foldl_file (suffix : List (K × V)) (hkeyed : ∀ e ∈ suffix, key e.2 = e.1) :
    ∀ m : OrderedMap K V, ((m.entries ++ suffix).map Prod.fst).Nodup →
      ((suffix.map Prod.snd).foldl (file key) m).entries = m.entries ++ suffix := by
  induction suffix with
  | nil => intro m _; simp
  | cons e suffix ih =>
    intro m hnodup
    have hkey : key e.2 = e.1 := hkeyed e List.mem_cons_self
    have hget : m.get (key e.2) = none := by
      refine lookup_eq_none_iff.mpr fun hmem => ?_
      rw [List.map_append, List.map_cons, List.nodup_middle, List.nodup_cons] at hnodup
      exact hnodup.1 (List.mem_append.mpr (Or.inl (hkey ▸ hmem)))
    have hfile : (m.file key e.2).entries = m.entries ++ [e] := by
      rw [file, if_neg (by simp [has_eq_false_iff.mpr hget]), entries_set_of_get_eq_none hget,
        hkey]
    rw [List.map_cons, List.foldl_cons,
      ih (fun a ha => hkeyed a (List.mem_cons_of_mem e ha)) _ (by
        rwa [hfile, List.append_assoc, List.singleton_append]), hfile, List.append_assoc,
      List.singleton_append]

/-- **A map of filed values is its list of values.** Filing them anew lists the
same keys in the same order. -/
theorem collect_values (h : Keyed key m) : collect key m.values = m :=
  ext (entries_foldl_file m.entries h empty m.nodup)

theorem keyed_collect (values : List V) : Keyed key (collect key values) := by
  induction values using List.reverseRecOn with
  | nil => exact keyed_empty
  | append_singleton values v ih =>
    rw [collect, List.foldl_append]
    exact ih.file v

theorem forall_mem_values_collect {P : V → Prop} (values : List V) (h : ∀ v ∈ values, P v) :
    ∀ a ∈ (collect key values).values, P a := by
  induction values using List.reverseRecOn with
  | nil => intro a ha; cases ha
  | append_singleton values v ih =>
    rw [collect, List.foldl_append]
    exact forall_mem_values_file
      (ih fun a ha => h a (List.mem_append.mpr (Or.inl ha))) (h v (by simp))

end Filing

end OrderedMap

end Library
