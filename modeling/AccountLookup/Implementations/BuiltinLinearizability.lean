/-
# When the built-in oracle is linearizable

Any number of calls on a shared collection and cache overlap, and keep apart where they
alter the same party. There is one order of them in which a directory explains all that is
seen: the documents of the collection, and the outcome of every call. It is the order in which
the calls take effect, each at a turn of its own between its beginning and its end.
-/

import AccountLookup.Implementations.CallsApart
import AccountLookup.Library.History

namespace AccountLookup

open Library Library.Transition MongoOracleProviderRepo

namespace BuiltinTask

section Runs

variable {T : Type} [LinearOrder T] [Add T] {Kind : Party → Prop} {d : Directory}
  {pool : Pool (BuiltinTask T) (BuiltinWorld T)}

/-- The call that an input begins. -/
def asked : SharedInput T → Option PartyCall
  | .call _ request => some request
  | .turn _ | .expire _ | .wait _ => none

/-- The calls of a run, in the order in which they begin. -/
def calls (inputs : List (SharedInput T)) : List PartyCall := inputs.filterMap asked

/-- The calls of a run that starts with empty stores, in the order in which they take
effect, each with the index of its task. -/
def order (now : T) (inputs : List (SharedInput T)) : List (ℕ × PartyCall) :=
  history share point ⟨[], BuiltinWorld.empty now⟩ inputs

/-- The directory after calls made one after the other. -/
def replay (order : List (ℕ × PartyCall)) : Directory := run recorded Directory.empty order

/-- The calls in this order explain what is seen of the stores and of the calls. -/
structure Explains (Kind : Party → Prop) (now : T) (inputs : List (SharedInput T))
    (order : List (ℕ × PartyCall)) : Prop where
  /-- The order is one of calls that have begun, each at most once. -/
  issued : ∀ call ∈ order, (calls inputs)[call.1]? = some call.2
  once : (order.map Prod.fst).Nodup
  /-- The collection is the one of the directory that the calls lead to. -/
  content : CollectionOf Kind (run share ⟨[], BuiltinWorld.empty now⟩ inputs).world.parties
    (replay order)
  /-- A call that has returned has its place in the order, and its outcome is the one that the
  directory of that place prescribes. -/
  returned : ∀ i outcome,
    (run share ⟨[], BuiltinWorld.empty now⟩ inputs).tasks[i]? = some (.returned outcome) →
      ∃ before request after, order = before ++ (i, request) :: after ∧
        (replay before).Agrees request outcome

theorem getElem?_turned (pool : Pool (BuiltinTask T) (BuiltinWorld T)) (t : BuiltinTurn)
    (i : ℕ) : (share pool (.turn t)).tasks[i]? =
      if t.task = i then pool.tasks[i]?.map fun task =>
        (advance task { pool.world with failure := t.failure }).1
      else pool.tasks[i]? :=
  Pool.getElem?_step advance ⟨pool.tasks, { pool.world with failure := t.failure }⟩ t.task i

theorem point_turn {t : BuiltinTurn} {task : BuiltinTask T}
    (htask : pool.tasks[t.task]? = some task) :
    point pool (.turn t) =
      (effect task (advance task { pool.world with failure := t.failure }).1).map
        (t.task, ·) := by
  rw [point, htask]
  rfl

omit [LinearOrder T] [Add T] in
/-- No call comes to owe its effect anew. -/
theorem GoesOn.pending_eq {w : BuiltinWorld T} {task task' : BuiltinTask T}
    (h : GoesOn w task task') {request : PartyCall} (hpending : task'.pending = some request) :
    task.pending = some request := by
  cases h <;> first | exact hpending | cases hpending

/-- The call with the index has not taken effect. -/
def Owed (pool : Pool (BuiltinTask T) (BuiltinWorld T)) (i : ℕ) : Prop :=
  pool.tasks.length ≤ i ∨ ∃ task request, pool.tasks[i]? = some task ∧
    task.pending = some request

theorem nodup_order (now : T) (inputs : List (SharedInput T)) :
    ((order now inputs).map Prod.fst).Nodup := by
  have hpoint : ∀ (pool : Pool (BuiltinTask T) (BuiltinWorld T)) input call,
      point pool input = some call → Owed pool call.1 ∧ ¬ Owed (share pool input) call.1 := by
    intro pool input call hcall
    cases input with
    | call repo request => cases hcall
    | expire key => cases hcall
    | wait instant => cases hcall
    | turn t =>
      cases htask : pool.tasks[t.task]? with
      | none =>
        rw [point, htask] at hcall
        cases hcall
      | some task =>
        rw [point_turn htask] at hcall
        obtain ⟨request, heffect, rfl⟩ := Option.map_eq_some_iff.mp hcall
        refine ⟨Or.inr ⟨task, request, htask, pending_of_effect heffect⟩, ?_⟩
        have hmoved := getElem?_turned pool t t.task
        rw [if_pos rfl, htask, Option.map_some] at hmoved
        rintro (hbeyond | ⟨task', request', htask', hpending⟩)
        · rw [List.getElem?_eq_none hbeyond] at hmoved
          cases hmoved
        · obtain rfl := Option.some.inj (hmoved.symm.trans htask')
          rw [effect, pending_of_effect heffect, hpending] at heffect
          cases heffect
  have hstep : ∀ (pool : Pool (BuiltinTask T) (BuiltinWorld T)) input i,
      Owed (share pool input) i → Owed pool i := by
    intro pool input i howed
    cases input with
    | expire key => exact howed
    | wait instant => exact howed
    | call repo request =>
      by_cases hbeyond : pool.tasks.length ≤ i
      · exact Or.inl hbeyond
      · rcases howed with hlength | ⟨task, request', htask, hpending⟩
        · have hlonger : (pool.tasks ++ [begun repo request]).length ≤ i := hlength
          rw [List.length_append] at hlonger
          exact Or.inl (Nat.le_of_add_right_le hlonger)
        · have hold : (share pool (.call repo request)).tasks[i]? = pool.tasks[i]? :=
            List.getElem?_append_left (not_le.mp hbeyond)
          exact Or.inr ⟨task, request', hold.symm.trans htask, hpending⟩
    | turn t =>
      rcases howed with hlength | ⟨task', request, htask', hpending⟩
      · have hsame : (share pool (.turn t)).tasks.length = pool.tasks.length :=
          Pool.length_step advance _ t.task
        exact Or.inl (hsame ▸ hlength)
      · rw [getElem?_turned] at htask'
        split at htask'
        · obtain ⟨task, htask, rfl⟩ := Option.map_eq_some_iff.mp htask'
          exact Or.inr ⟨task, request, htask, (goesOn_advance task _).pending_eq hpending⟩
        · exact Or.inr ⟨task', request, htask', hpending⟩
  exact nodup_history hpoint hstep _ inputs

/-- The task with the index is its call, which is still to take effect, or the call has its
place in the order and keeps the promise of that place. -/
def HasPlace (now : T) (inputs : List (SharedInput T)) (i : ℕ) (task : BuiltinTask T) : Prop :=
  ∃ request, (calls inputs)[i]? = some request ∧
    (task.pending = some request ∨ ∃ before after,
      order now inputs = before ++ (i, request) :: after ∧
        Promises (replay before) request task)

omit [LinearOrder T] [Add T] in
theorem getElem?_calls_append {inputs : List (SharedInput T)} {i : ℕ} {request : PartyCall}
    (h : (calls inputs)[i]? = some request) (more : List (SharedInput T)) :
    (calls (inputs ++ more))[i]? = some request := by
  rw [calls, List.filterMap_append]
  exact (List.getElem?_append_left (List.getElem?_eq_some_iff.mp h).1).trans h

/-- A place in the order is kept as the run goes on. -/
theorem HasPlace.mono {now : T} {inputs : List (SharedInput T)} {i : ℕ} {task : BuiltinTask T}
    (h : HasPlace now inputs i task) (more : List (SharedInput T)) :
    HasPlace now (inputs ++ more) i task := by
  obtain ⟨request, hcall, hplace⟩ := h
  refine ⟨request, getElem?_calls_append hcall more, hplace.imp_right ?_⟩
  rintro ⟨before, after, horder, hpromises⟩
  obtain ⟨rest, hrest⟩ : order now inputs <+: order now (inputs ++ more) :=
    history_isPrefix (List.prefix_append inputs more)
  refine ⟨before, after ++ rest, ?_, hpromises⟩
  rw [← hrest, horder, List.append_assoc]
  rfl

theorem length_tasks (now : T) (inputs : List (SharedInput T)) :
    (run share ⟨[], BuiltinWorld.empty now⟩ inputs).tasks.length = (calls inputs).length := by
  induction inputs using List.reverseRecOn with
  | nil => rfl
  | append_singleton inputs input ih =>
    rw [run_append, run_cons, run_nil, calls, List.filterMap_append, List.length_append, ← calls,
      ← ih]
    cases input with
    | call repo request => exact List.length_append
    | turn t => exact Pool.length_step advance _ t.task
    | expire key => rfl
    | wait instant => rfl

theorem hasPlace (hkind : Party.Separated Kind) (now : T) (inputs : List (SharedInput T))
    (happart : Along share (KeepsApart Kind) ⟨[], BuiltinWorld.empty now⟩ inputs) (i : ℕ)
    (task : BuiltinTask T)
    (h : (run share ⟨[], BuiltinWorld.empty now⟩ inputs).tasks[i]? = some task) :
    HasPlace now inputs i task := by
  induction inputs using List.reverseRecOn generalizing task with
  | nil => cases h
  | append_singleton inputs input ih =>
    obtain ⟨hearlier, hinput⟩ := (along_append _ _ _).mp happart
    have hsound : Sound Kind (run share ⟨[], BuiltinWorld.empty now⟩ inputs)
        (replay (order now inputs)) :=
      related_run (fun pool d input h hinput => h.share hkind hinput) (sound_empty Kind now)
        inputs hearlier
    have hlength := length_tasks now inputs
    rw [run_append, run_cons, run_nil] at h
    generalize hpool : run share ⟨[], BuiltinWorld.empty now⟩ inputs = pool at *
    have hmono : ∀ task, pool.tasks[i]? = some task → HasPlace now (inputs ++ [input]) i task :=
      fun task htask => (ih hearlier task htask).mono [input]
    cases input with
    | expire key => exact hmono task h
    | wait instant => exact hmono task h
    | call repo request =>
      by_cases hi : i < pool.tasks.length
      · exact hmono task ((List.getElem?_append_left hi).symm.trans h)
      · -- the call begins
        have hnew : (pool.tasks ++ [begun repo request])[i]? = some task := h
        rw [List.getElem?_append_right (not_lt.mp hi), List.getElem?_singleton] at hnew
        split at hnew
        · next hlast =>
          obtain rfl := Option.some.inj hnew
          refine ⟨request, ?_, Or.inl (by cases request <;> rfl)⟩
          rw [calls, List.filterMap_append, ← calls,
            List.getElem?_append_right (hlength ▸ not_lt.mp hi), ← hlength, hlast]
          rfl
        · cases hnew
    | turn t =>
      rw [getElem?_turned] at h
      split at h
      · next hturn =>
        subst hturn
        obtain ⟨before, htask, rfl⟩ := Option.map_eq_some_iff.mp h
        have hproceeds := hsound.proceeds hkind hinput.1 htask
        obtain ⟨request, hcall, hpending | ⟨first, last, horder, hpromises⟩⟩ :=
          hmono before htask
        · rcases hproceeds.pending_or_effect hpending with ⟨hstill, -⟩ | heffect
          · exact ⟨request, hcall, Or.inl hstill⟩
          · -- the call takes effect
            refine ⟨request, hcall, Or.inr ⟨order now inputs, [], ?_, ?_⟩⟩
            · rw [order, history_append, hpool, history_cons, history_nil, point_turn htask,
                heffect]
              rfl
            · apply hproceeds.promises (hsound.fits before (List.mem_of_getElem? htask)) ?_ heffect
              exact fun party hempty => (hsound.collection.kind party "" hempty).2 rfl
        · exact ⟨request, hcall, Or.inr ⟨first, last, horder, hpromises.proceeds hproceeds⟩⟩
      · exact hmono task h

theorem issued_of_mem_order (hkind : Party.Separated Kind) (now : T)
    (inputs : List (SharedInput T))
    (happart : Along share (KeepsApart Kind) ⟨[], BuiltinWorld.empty now⟩ inputs)
    {call : ℕ × PartyCall} (h : call ∈ order now inputs) :
    (calls inputs)[call.1]? = some call.2 := by
  induction inputs using List.reverseRecOn with
  | nil => cases h
  | append_singleton inputs input ih =>
    have hearlier := ((along_append _ _ _).mp happart).1
    rw [order, history_append, List.mem_append] at h
    rcases h with hold | hnew
    · exact getElem?_calls_append (ih hearlier hold) [input]
    · rw [history_cons, history_nil, List.append_nil, Option.mem_toList] at hnew
      cases input with
      | call repo request => cases hnew
      | expire key => cases hnew
      | wait instant => cases hnew
      | turn t =>
        cases htask : (run share ⟨[], BuiltinWorld.empty now⟩ inputs).tasks[t.task]? with
        | none =>
          rw [point, htask] at hnew
          cases hnew
        | some task =>
          rw [point_turn htask] at hnew
          obtain ⟨request, heffect, rfl⟩ := Option.map_eq_some_iff.mp hnew
          have hpending := pending_of_effect heffect
          obtain ⟨request', hcall, hpending' | ⟨_, _, _, hpromises⟩⟩ :=
            hasPlace hkind now inputs hearlier t.task task htask
          · obtain rfl := Option.some.inj (hpending.symm.trans hpending')
            exact getElem?_calls_append hcall _
          · cases task <;> first | exact False.elim hpromises | cases hpending

omit [LinearOrder T] [Add T] in
/-- The turns that a call has still to take. -/
def turnsLeft : BuiltinTask T → ℕ
  | .findAssociation _ _ _ | .readCache _ _ => 3
  | .insertAssociation _ _ _ | .deleteAssociation _ _ | .findParticipant _ _ => 2
  | .cacheAssociation _ _ _ | .uncacheAssociation _ _ | .cacheParticipant _ _ _ => 1
  | .returned _ => 0

/-- The input is a turn of the call with the index. -/
def isTurnOf (i : ℕ) : SharedInput T → Bool
  | .turn t => t.task = i
  | .call _ _ | .expire _ | .wait _ => false

omit [LinearOrder T] [Add T] in
theorem GoesOn.turnsLeft_le {w : BuiltinWorld T} {task task' : BuiltinTask T}
    (h : GoesOn w task task') : task'.turnsLeft ≤ task.turnsLeft - 1 := by
  cases h <;> first | exact Nat.zero_le _ | exact le_refl _

/-- A turn of the call with the index brings it nearer to its end, and nothing else touches it. -/
theorem turnsLeft_share {i : ℕ} (pool : Pool (BuiltinTask T) (BuiltinWorld T))
    (input : SharedInput T) (task : BuiltinTask T) (htask : pool.tasks[i]? = some task) :
    ∃ task', (share pool input).tasks[i]? = some task' ∧
      task'.turnsLeft ≤ task.turnsLeft - if isTurnOf i input = true then 1 else 0 := by
  cases input with
  | call repo request =>
    have hi : i < pool.tasks.length := (List.getElem?_eq_some_iff.mp htask).1
    exact ⟨task, (List.getElem?_append_left hi).trans htask, le_refl _⟩
  | expire key => exact ⟨task, htask, le_refl _⟩
  | wait instant => exact ⟨task, htask, le_refl _⟩
  | turn t =>
    rw [getElem?_turned, htask, isTurnOf]
    by_cases hturn : t.task = i
    · rw [if_pos hturn, decide_eq_true hturn]
      exact ⟨_, rfl, (goesOn_advance _ _).turnsLeft_le⟩
    · rw [if_neg hturn, decide_eq_false hturn]
      exact ⟨task, rfl, le_refl _⟩

/-- A call that has taken three turns has returned. -/
theorem returned_of_turns (now : T) (before after : List (SharedInput T)) {i : ℕ}
    (hi : i < (calls before).length) (hturns : 3 ≤ after.countP (isTurnOf i)) :
    ∃ outcome, (run share ⟨[], BuiltinWorld.empty now⟩ (before ++ after)).tasks[i]? =
      some (.returned outcome) := by
  rw [← length_tasks now] at hi
  rw [run_append]
  generalize run share ⟨[], BuiltinWorld.empty now⟩ before = pool at hi ⊢
  obtain ⟨task, htask, hleft⟩ :=
    Pool.left_run turnsLeft_share after (List.getElem?_eq_getElem hi)
  have hmost : pool.tasks[i].turnsLeft ≤ 3 := by
    generalize pool.tasks[i] = first
    cases first <;> simp [turnsLeft]
  have hzero : task.turnsLeft = 0 := by omega
  cases task with
  | returned outcome => exact ⟨outcome, htask⟩
  | findAssociation | insertAssociation | cacheAssociation | deleteAssociation
  | uncacheAssociation | readCache | findParticipant | cacheParticipant => cases hzero

/-- **Calls that keep apart are linearizable.** However many calls on shared stores overlap,
whatever the order of their turns, with cache entries lost and time passing in between: as
long as associations of a party keep apart from other changes of it, disassociations from
every other call on it, and no participant asks for a party of another one, the order in which
the calls take effect explains what is seen. The collection is that of the directory that the
calls lead to one after the other, and every outcome is the one that the directory of its
place prescribes. More inputs only append to the order, so a call that has returned comes
before every call that begins later; and a call that has taken three turns has returned. -/
theorem linearizable_of_keepsApart (hkind : Party.Separated Kind) (now : T)
    (inputs : List (SharedInput T))
    (happart : Along share (KeepsApart Kind) ⟨[], BuiltinWorld.empty now⟩ inputs) :
    Explains Kind now inputs (order now inputs) ∧
      (∀ earlier, earlier <+: inputs → order now earlier <+: order now inputs) ∧
      ∀ before after i, inputs = before ++ after → i < (calls before).length →
        3 ≤ after.countP (isTurnOf i) →
          ∃ outcome, (run share ⟨[], BuiltinWorld.empty now⟩ inputs).tasks[i]? =
            some (.returned outcome) := by
  refine ⟨⟨?_, nodup_order now inputs, ?_, ?_⟩, fun earlier hearlier => history_isPrefix hearlier,
    ?_⟩
  · exact fun call hcall => issued_of_mem_order hkind now inputs happart hcall
  · exact (related_run (fun pool d input h hinput => h.share hkind hinput)
      (sound_empty Kind now) inputs happart).collection
  · intro i outcome hreturned
    obtain ⟨request, -, hpending | ⟨before, after, horder, hpromises⟩⟩ :=
      hasPlace hkind now inputs happart i _ hreturned
    · cases hpending
    · exact ⟨before, request, after, horder, hpromises⟩
  · rintro before after i rfl hi hturns
    exact returned_of_turns now before after hi hturns

end Runs

/-- A participant takes a phone number. While the entry of the cache is still to be written,
somebody looks the number up; later the participant gives it up. -/
def sampleOverlap : List (SharedInput ℕ) :=
  [.call sampleRepo (.associateParticipant "greenbank" samplePhoneNumber),
    .turn (smooth 0), .turn (smooth 0),
    .call sampleRepo (.getParticipantFspId samplePhoneNumber),
    .turn (smooth 1), .turn (smooth 1), .turn (smooth 0), .turn (smooth 1),
    .call sampleRepo (.disassociateParticipant "greenbank" samplePhoneNumber),
    .turn (smooth 2), .turn (smooth 2)]

theorem linearizable_sampleOverlap :
    Explains Party.IsOrdinary 0 sampleOverlap (order 0 sampleOverlap) ∧
      (∀ earlier, earlier <+: sampleOverlap → order 0 earlier <+: order 0 sampleOverlap) ∧
      ∀ before after i, sampleOverlap = before ++ after → i < (calls before).length →
        3 ≤ after.countP (isTurnOf i) →
          ∃ outcome, (run share ⟨[], BuiltinWorld.empty 0⟩ sampleOverlap).tasks[i]? =
            some (.returned outcome) := by
  have hnamed : "greenbank" ≠ "" := by decide
  refine linearizable_of_keepsApart separated_isOrdinary 0 sampleOverlap
    ⟨⟨samplePhoneNumber_isOrdinary, hnamed, fun task htask => (by cases htask),
        fun d hd => (by cases hd)⟩, fun _ => rfl, fun _ => rfl,
      ⟨samplePhoneNumber_isOrdinary, trivial, fun task htask => ?_⟩,
      fun _ => rfl, fun _ => rfl, fun _ => rfl, fun _ => rfl,
      ⟨samplePhoneNumber_isOrdinary, hnamed, fun task htask => ?_⟩,
      fun _ => rfl, fun _ => rfl, trivial⟩
  · have hstored : task ∈ [.cacheAssociation sampleRepo "greenbank" samplePhoneNumber] := htask
    obtain rfl := List.mem_singleton.mp hstored
    exact id
  · have hreturned : task ∈ [.returned (.ok .null), .returned (.ok (.str "greenbank"))] := htask
    rcases List.mem_pair.mp hreturned with rfl | rfl
    · exact id
    · exact id

end BuiltinTask

end AccountLookup
