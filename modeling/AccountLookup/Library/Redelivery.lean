/-
# Requests that are handed over again

A thing is free or belongs to somebody. A request takes it if it is free, or gives it up if
it belongs to the one who asks. A list of such requests may be handed over again and again,
in part and in any order, before it is handed over once in full. If nobody in the list asks
for what belongs to another one, the thing ends up where a single delivery leaves it: whoever
holds it meanwhile holds it somewhere in the single delivery too, and from every holder of
the single delivery the whole list leads to the same end.
-/

import AccountLookup.Library.Transition

namespace Library.Redelivery

open Library.Transition

universe u

variable {α : Type u}

/-- A request about a thing, or one about something else. -/
inductive Request (α : Type u)
  | take (owner : α)
  | giveUp (owner : α)
  | elsewhere

namespace Request

/-- Nobody asks for what belongs to another one. -/
def Orderly (holder : Option α) : Request α → Prop
  | .take owner => holder = none ∨ holder = some owner
  | .giveUp _ => True
  | .elsewhere => True

variable [DecidableEq α]

/-- The holder after a request. -/
def after (holder : Option α) : Request α → Option α
  | .take owner => if holder = none then some owner else holder
  | .giveUp owner => if holder = some owner then none else holder
  | .elsewhere => holder

@[simp]
theorem after_take_none (owner : α) : after none (.take owner) = some owner := rfl

@[simp]
theorem after_take_some (owner holder : α) : after (some holder) (.take owner) = some holder :=
  rfl

@[simp]
theorem after_giveUp_self (owner : α) : after (some owner) (.giveUp owner) = none := by
  rw [after, if_pos rfl]

theorem after_giveUp_of_ne {holder : Option α} {owner : α} (h : holder ≠ some owner) :
    after holder (.giveUp owner) = holder := by
  rw [after, if_neg h]

theorem after_take_of_orderly {holder : Option α} {owner : α}
    (h : Orderly holder (.take owner)) : after holder (.take owner) = some owner := by
  rcases h with rfl | rfl
  · exact after_take_none owner
  · exact after_take_some owner owner

/-- A request changes the holder of a free thing, or leaves the thing free. -/
theorem after_cases (holder : Option α) (request : Request α) :
    holder = none ∨ after holder request = holder ∨ after holder request = none := by
  cases request with
  | elsewhere => exact Or.inr (Or.inl rfl)
  | take owner =>
    cases holder with
    | none => exact Or.inl rfl
    | some holder => exact Or.inr (Or.inl (after_take_some owner holder))
  | giveUp owner =>
    by_cases hmine : holder = some owner
    · subst hmine
      exact Or.inr (Or.inr (after_giveUp_self owner))
    · exact Or.inr (Or.inl (after_giveUp_of_ne hmine))

end Request

open Request

variable [DecidableEq α]

/-- The holder somewhere in a run: at the start, or after some of the requests. -/
def Held : Option α → List (Request α) → Option α → Prop
  | start, [], holder => holder = start
  | start, request :: requests, holder =>
    holder = start ∨ Held (after start request) requests holder

variable {start holder : Option α} {requests again : List (Request α)}

theorem held_start (start : Option α) (requests : List (Request α)) :
    Held start requests start := by
  cases requests with
  | nil => rfl
  | cons request requests => exact Or.inl rfl

/-- A thing only changes hands by being free in between. -/
theorem held_none_of_ne (h : Held start requests holder) (hne : holder ≠ start) :
    Held start requests none := by
  induction requests generalizing start with
  | nil => exact absurd h hne
  | cons request requests ih =>
    rcases h with hstart | hlater
    · exact absurd hstart hne
    rcases after_cases start request with hfree | hsame | hfreed
    · exact Or.inl hfree.symm
    · rw [hsame] at hlater
      apply Or.inr
      rw [hsame]
      exact ih hlater hne
    · apply Or.inr
      rw [hfreed]
      exact held_start none requests

/-- From every holder of an orderly run, the same requests lead to its end. -/
theorem run_eq_of_held (horderly : Along after Orderly start requests)
    (h : Held start requests holder) : run after holder requests = run after start requests := by
  induction requests generalizing start holder with
  | nil => exact congrArg (run after · []) h
  | cons request requests ih =>
    obtain ⟨hfirst, hrest⟩ := horderly
    rcases h with rfl | hlater
    · rfl
    show run after (after holder request) requests = run after (after start request) requests
    cases request with
    | elsewhere => exact ih hrest hlater
    | take owner =>
      cases holder with
      | none => rw [after_take_none, after_take_of_orderly hfirst]
      | some holder =>
        rw [after_take_some]
        exact ih hrest hlater
    | giveUp owner =>
      by_cases hmine : holder = some owner
      · subst hmine
        rw [after_giveUp_self]
        by_cases hstart : start = some owner
        · rw [hstart, after_giveUp_self]
        · -- The owner comes later in the run, so the thing is free before that.
          rw [after_giveUp_of_ne hstart] at hrest hlater ⊢
          exact ih hrest (held_none_of_ne hlater (Ne.symm hstart))
      · rw [after_giveUp_of_ne hmine]
        exact ih hrest hlater

/-- Whoever asks for the thing in an orderly run holds it then. -/
theorem held_of_take (horderly : Along after Orderly start requests) {owner : α}
    (hmem : .take owner ∈ requests) : Held start requests (some owner) := by
  induction requests generalizing start with
  | nil => cases hmem
  | cons request requests ih =>
    obtain ⟨hfirst, hrest⟩ := horderly
    apply Or.inr
    rcases List.mem_cons.mp hmem with rfl | hlater
    · rw [after_take_of_orderly hfirst]
      exact held_start _ requests
    · exact ih hrest hlater

/-- A holder who gives the thing up somewhere in the run leaves it free there, or before. -/
theorem held_none_of_giveUp {owner : α} (hmem : .giveUp owner ∈ requests)
    (h : Held start requests (some owner)) : Held start requests none := by
  by_cases hstart : some owner = start
  · subst hstart
    induction requests with
    | nil => cases hmem
    | cons request requests ih =>
      apply Or.inr
      rcases List.mem_cons.mp hmem with rfl | hlater
      · rw [after_giveUp_self]
        exact held_start none requests
      · rcases after_cases (some owner) request with hnone | hsame | hfreed
        · cases hnone
        · rw [hsame]
          exact ih hlater (held_start _ requests)
        · rw [hfreed]
          exact held_start none requests
  · exact held_none_of_ne h hstart

/-- The holders of an orderly run are kept by its requests, in whatever order. -/
theorem held_after (horderly : Along after Orderly start requests) {request : Request α}
    (hmem : request ∈ requests) (h : Held start requests holder) :
    Held start requests (after holder request) := by
  cases request with
  | elsewhere => exact h
  | take owner =>
    cases holder with
    | none =>
      rw [after_take_none]
      exact held_of_take horderly hmem
    | some holder =>
      rw [after_take_some]
      exact h
  | giveUp owner =>
    by_cases hmine : holder = some owner
    · subst hmine
      rw [after_giveUp_self]
      exact held_none_of_giveUp hmem h
    · rw [after_giveUp_of_ne hmine]
      exact h

theorem held_run (horderly : Along after Orderly start requests)
    (hagain : ∀ request ∈ again, request ∈ requests) (h : Held start requests holder) :
    Held start requests (run after holder again) := by
  induction again generalizing holder with
  | nil => exact h
  | cons request again ih =>
    apply ih fun later hlater => hagain later (List.mem_cons_of_mem request hlater)
    exact held_after horderly (hagain request List.mem_cons_self) h

/-- **Handed over again.** However the requests of an orderly run are handed over before, in
part and in any order, the run ends as it would have. -/
theorem run_run_eq (horderly : Along after Orderly start requests)
    (hagain : ∀ request ∈ again, request ∈ requests) :
    run after (run after start again) requests = run after start requests :=
  run_eq_of_held horderly (held_run horderly hagain (held_start start requests))

/-- What nobody gives up stays with somebody. -/
theorem run_ne_none (hkept : ∀ owner, .giveUp owner ∉ requests) (h : start ≠ none) :
    run after start requests ≠ none := by
  induction requests generalizing start with
  | nil => exact h
  | cons request requests ih =>
    apply ih fun owner hmem => hkept owner (List.mem_cons_of_mem request hmem)
    cases request with
    | elsewhere => exact h
    | take owner =>
      obtain ⟨holder, rfl⟩ := Option.ne_none_iff_exists'.mp h
      rw [after_take_some]
      exact h
    | giveUp owner => exact absurd List.mem_cons_self (hkept owner)

/-- What somebody takes and nobody gives up ends with somebody. -/
theorem run_ne_none_of_take (hkept : ∀ owner, .giveUp owner ∉ requests) {owner : α}
    (hmem : .take owner ∈ requests) : run after start requests ≠ none := by
  obtain ⟨before, later, rfl⟩ := List.append_of_mem hmem
  rw [run_append, run_cons]
  apply run_ne_none fun other hother =>
    hkept other (List.mem_append_right before (List.mem_cons_of_mem _ hother))
  cases run after start before with
  | none => exact Option.some_ne_none owner
  | some holder => exact Option.some_ne_none holder

end Library.Redelivery
