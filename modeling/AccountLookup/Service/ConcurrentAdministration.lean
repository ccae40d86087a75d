/-
# Concurrent administration

Registrations and removals on one service wait for every call of the finder and of
an adapter, and take turns in between. A registration looks for its id and its name
before it inserts, and loads its adapter some turns after that; a removal drops
adapters some turns after it has deleted the oracle. An account is kept of what the
calls under way are still to load and to drop. It stays balanced, with distinct ids
and names in the registry, exactly while every insertion is of a new id and name and
every removal drops exactly one adapter.
-/

import AccountLookup.Library.Interleaving
import AccountLookup.Service.RegistryRuns

namespace AccountLookup

open Library Library.Transition

/-- A call of the administration, at one of its waits: named after what is to be done
next. -/
inductive AdminTask (T R : Type)
  -- addOracle
  | findById (oracle : AddOracleDTO) (randomUUID : String)
  | findByName (oracle : AddOracleDTO) (randomUUID : String)
  | findPresent (newOracle : Oracle) (adapter : IOracleProviderAdapter (ServiceWorld T R))
  | insertOne (newOracle : Oracle) (adapter : IOracleProviderAdapter (ServiceWorld T R))
  | initAdapter (newOracle : Oracle) (adapter : IOracleProviderAdapter (ServiceWorld T R))
  | pushAdapter (newOracle : Oracle) (adapter : IOracleProviderAdapter (ServiceWorld T R))
  -- removeOracle
  | findRegistered (id : String)
  | deleteOne (id : String)
  | dropAdapters (id : String)
  /-- The id of the oracle that has been added, if the call was to add one. -/
  | returned (outcome : Except JsError (Option String))

namespace OracleAdapterFactory

open AccountLookupAggregate RunningService AdminTask

variable {T R : Type} [LinearOrder T] [Add T] (settings : OracleAdapterFactory T R)
  (participantService : IParticipantServiceAdapter R)

/-- The next turn of a call. -/
def advance : AdminTask T R → RunningService T R → AdminTask T R × RunningService T R
  | .findById oracle randomUUID, s =>
    match (settings.loaded participantService s.adapters).findNamedOracle oracle s.world with
    | (.error error, w) => (.returned (.error error), { s with world := w })
    | (.ok (some _), w) =>
      (.returned (.error
        ⟨.duplicateOracleError, s!"Oracle with id {oracle.id.toText} already exists"⟩),
        { s with world := w })
    | (.ok none, w) => (.findByName oracle randomUUID, { s with world := w })
  | .findByName oracle randomUUID, s =>
    match (settings.loaded participantService s.adapters).oracleFinder.getOracleByName
      oracle.name s.world with
    | (.error error, w) => (.returned (.error error), { s with world := w })
    | (.ok (some _), w) =>
      (.returned (.error
        ⟨.duplicateOracleError, s!"Oracle with name {oracle.name.toText} already exists"⟩),
        { s with world := w })
    | (.ok none, w) =>
      match settings.create (newOracle oracle randomUUID) w with
      | (.error error, w) => (.returned (.error error), { s with world := w })
      | (.ok addedOracleProvider, w) =>
        (.findPresent (newOracle oracle randomUUID) addedOracleProvider, { s with world := w })
  | .findPresent oracle addedOracleProvider, s =>
    match s.world.finder.failure .findPresent with
    | some message =>
      (.returned (.error ⟨.unableToGetOracleError, s!"Unable to get oracle: {message}"⟩), s)
    | none =>
      match s.world.finder.oracles.find? (MongoOracleFinderRepo.samePresent oracle) with
      | some _ =>
        (.returned (.error
          ⟨.oracleAlreadyRegisteredError, s!"Oracle already present: {oracle.id}"⟩), s)
      | none => (.insertOne oracle addedOracleProvider, s)
  | .insertOne oracle addedOracleProvider, s =>
    match s.world.finder.failure .insertOne with
    | some message =>
      (.returned (.error
        ⟨.unableToRegisterOracleError, s!"Unable to insert oracle: {message}"⟩), s)
    | none =>
      (.initAdapter oracle addedOracleProvider,
        { s with world := s.world.withOracles (s.world.finder.oracles ++ [oracle]) })
  | .initAdapter oracle addedOracleProvider, s =>
    match addedOracleProvider.init s.world with
    | (.error error, w) => (.returned (.error error), { s with world := w })
    | (.ok _, w) => (.pushAdapter oracle addedOracleProvider, { s with world := w })
  | .pushAdapter oracle addedOracleProvider, s =>
    (.returned (.ok (some oracle.id)), { s with adapters := s.adapters ++ [addedOracleProvider] })
  | .findRegistered id, s =>
    match (settings.loaded participantService s.adapters).oracleFinder.getOracleById
      id s.world with
    | (.error error, w) => (.returned (.error error), { s with world := w })
    | (.ok none, w) =>
      (.returned (.error
        ⟨.oracleNotFoundError, s!"Oracle does not exist for given id {id}"⟩),
        { s with world := w })
    | (.ok (some _), w) => (.deleteOne id, { s with world := w })
  | .deleteOne id, s =>
    match (settings.loaded participantService s.adapters).oracleFinder.removeOracle
      id s.world with
    | (.error error, w) =>
      (.returned (.error
        ⟨.unableToRemoveOracleError, s!"Unable to remove oracle with id {id} {error.message}"⟩),
        { s with world := w })
    | (.ok _, w) => (.dropAdapters id, { s with world := w })
  | .dropAdapters id, s =>
    (.returned (.ok none), { s with adapters := s.adapters.filter fun o => o.oracleId ≠ id })
  | .returned outcome, s => (.returned outcome, s)

/-- The pool after the task at the index has taken its turn. -/
def adminTurn (pool : Pool (AdminTask T R) (RunningService T R)) (i : ℕ) :
    Pool (AdminTask T R) (RunningService T R) :=
  pool.step (settings.advance participantService) i

/-- **An uninterrupted registration is the sequential one.** -/
theorem alone_findById (oracle : AddOracleDTO) (randomUUID : String) (s : RunningService T R) :
    Pool.alone (settings.advance participantService) 6 (.findById oracle randomUUID) s =
      let outcome := (settings.loaded participantService s.adapters).addOracle oracle randomUUID
        s.world
      (.returned (outcome.1.map some), ⟨outcome.2.1.oracleProvidersAdapters, outcome.2.2⟩) := by
  obtain ⟨adapters, w⟩ := s
  simp only [Pool.alone_succ, advance, addOracle]
  rcases (settings.loaded participantService adapters).findNamedOracle oracle w with
    ⟨_ | _ | _, w⟩
  · rfl
  · dsimp only
    rcases (settings.loaded participantService adapters).oracleFinder.getOracleByName
      oracle.name w with ⟨_ | _ | _, w⟩
    · rfl
    · have hcreate : (settings.loaded participantService adapters).oracleProvidersFactory.create =
        settings.create := rfl
      rw [hcreate]
      dsimp only
      rcases settings.create (newOracle oracle randomUUID) w with ⟨_ | adapter, w⟩
      · rfl
      · simp only [loaded, aggregate, IOracleFinder.on, Call.on, MongoOracleFinderRepo.finder,
          MongoOracleFinderRepo.addOracle, ServiceWorld.finderPart]
        cases w.finder.failure .findPresent with
        | some message => rfl
        | none =>
          cases w.finder.oracles.find?
            (MongoOracleFinderRepo.samePresent (newOracle oracle randomUUID)) with
          | some found => rfl
          | none =>
            dsimp only
            cases hinsert : w.finder.failure .insertOne with
            | some message => rfl
            | none =>
              dsimp only [ServiceWorld.withOracles]
              rcases adapter.init _ with ⟨_ | _, w⟩
              · rfl
              · rfl
    · rfl
  · rfl

/-- **An uninterrupted removal is the sequential one.** -/
theorem alone_findRegistered (id : String) (s : RunningService T R) :
    Pool.alone (settings.advance participantService) 3 (.findRegistered id) s =
      let outcome := (settings.loaded participantService s.adapters).removeOracle id s.world
      (.returned (outcome.1.map fun _ => none),
        ⟨outcome.2.1.oracleProvidersAdapters, outcome.2.2⟩) := by
  obtain ⟨adapters, w⟩ := s
  simp only [Pool.alone_succ, advance, removeOracle]
  rcases (settings.loaded participantService adapters).oracleFinder.getOracleById id w with
    ⟨_ | _ | _, w⟩
  · rfl
  · rfl
  · dsimp only
    rcases (settings.loaded participantService adapters).oracleFinder.removeOracle id w with
      ⟨_ | _, w⟩
    · rfl
    · rfl

end OracleAdapterFactory

/-! ## The account of the calls under way -/

section

variable {T R : Type}

namespace AdminTask

/-- The call has registered an oracle with the id and is still to load its adapter. -/
def loads (id : String) : AdminTask T R → Bool
  | .initAdapter oracle _ | .pushAdapter oracle _ => oracle.id = id
  | _ => false

/-- The call has deleted an oracle with the id and is still to drop its adapter. -/
def drops (id : String) : AdminTask T R → Bool
  | .dropAdapters id' => id' = id
  | _ => false

end AdminTask

/-- Ids and names are registered once, and for every id the adapters that are loaded
or still to be loaded are as many as the oracles that are registered or whose
adapter is still to be dropped. -/
structure Accounted (tasks : List (AdminTask T R)) (s : RunningService T R) : Prop where
  idsNodup : s.registeredIds.Nodup
  namesNodup : (s.world.finder.oracles.map Oracle.name).Nodup
  balanced : ∀ id, s.loadedIds.count id + tasks.countP (AdminTask.loads id) =
    s.registeredIds.count id + tasks.countP (AdminTask.drops id)

/-- The registered ids and names are distinct, and the loaded adapters are those of the
registered oracles, each once. -/
structure Settled (s : RunningService T R) : Prop where
  inStep : s.InStep
  namesNodup : (s.world.finder.oracles.map Oracle.name).Nodup

/-- Nothing has come between the call's checks and what it does next: an oracle that is
inserted has a new id and a new name, and a removal drops exactly one adapter. -/
def Unhindered (s : RunningService T R) : AdminTask T R → Prop
  | .insertOne oracle _ =>
    oracle.id ∉ s.registeredIds ∧ oracle.name ∉ s.world.finder.oracles.map Oracle.name
  | .dropAdapters id => s.loadedIds.count id = 1
  | _ => True

/-- A task that is neither about to insert nor about to drop. -/
def AdminTask.Harmless : AdminTask T R → Prop
  | .insertOne _ _ | .dropAdapters _ => False
  | _ => True

/-- What a turn can do when nothing fails. -/
inductive AdminEffect : AdminTask T R → RunningService T R → AdminTask T R →
    RunningService T R → Prop
  /-- The call goes on or returns, and the service stays as it is. -/
  | quiet (task task' : AdminTask T R) (s : RunningService T R) (hharmless : task.Harmless)
      (hloads : ∀ id, task'.loads id = task.loads id)
      (hdrops : ∀ id, task'.drops id = task.drops id) : AdminEffect task s task' s
  | inserted (oracle : Oracle) (adapter : IOracleProviderAdapter (ServiceWorld T R))
      (s : RunningService T R) :
      AdminEffect (.insertOne oracle adapter) s (.initAdapter oracle adapter)
        ⟨s.adapters, s.world.withOracles (s.world.finder.oracles ++ [oracle])⟩
  | pushed (oracle : Oracle) (adapter : IOracleProviderAdapter (ServiceWorld T R))
      (s : RunningService T R) (hid : adapter.oracleId = oracle.id) :
      AdminEffect (.pushAdapter oracle adapter) s (.returned (.ok (some oracle.id)))
        ⟨s.adapters ++ [adapter], s.world⟩
  | deleted (id : String) (found : Oracle) (s : RunningService T R)
      (hfind : s.world.finder.oracles.find? (fun o => o.id = id) = some found) :
      AdminEffect (.deleteOne id) s (.dropAdapters id)
        ⟨s.adapters, s.world.withOracles (s.world.finder.oracles.eraseP fun o => o.id = id)⟩
  | dropped (id : String) (s : RunningService T R) :
      AdminEffect (.dropAdapters id) s (.returned (.ok none))
        ⟨s.adapters.filter fun o => o.oracleId ≠ id, s.world⟩

/-- No database or cache call fails. -/
def AllReachable (w : ServiceWorld T R) : Prop :=
  (∀ call, w.finder.failure call = none) ∧ ∀ call, w.builtin.failure call = none

variable {before after : List (AdminTask T R)} {task task' : AdminTask T R}
  {s s' : RunningService T R}

theorem AdminEffect.allReachable (heffect : AdminEffect task s task' s')
    (h : AllReachable s.world) : AllReachable s'.world ∧ s'.world.builtin = s.world.builtin := by
  cases heffect <;> exact ⟨h, rfl⟩

theorem countP_replaced (p : AdminTask T R → Bool) :
    (before ++ task :: after).countP p =
      (before ++ after).countP p + if p task then 1 else 0 := by
  rw [List.countP_append, List.countP_cons, List.countP_append, Nat.add_assoc]

theorem map_id_eraseP (oracles : List Oracle) (id : String) :
    (oracles.eraseP fun o => o.id = id).map Oracle.id = (oracles.map Oracle.id).erase id := by
  rw [List.erase_eq_eraseP', List.eraseP_map]
  rfl

theorem count_loadedIds_filter (adapters : List (IOracleProviderAdapter (ServiceWorld T R)))
    (id other : String) :
    ((adapters.filter fun o => o.oracleId ≠ id).map IOracleProviderAdapter.oracleId).count other =
      if id = other then 0 else (adapters.map IOracleProviderAdapter.oracleId).count other := by
  induction adapters with
  | nil => simp
  | cons adapter adapters ih =>
    by_cases hid : adapter.oracleId = id
    · by_cases hother : id = other
      · simp only [hother, if_true] at ih hid
        simpa [hid, hother] using ih
      · simp only [hother, if_false] at ih
        simpa [hid, hother, List.count_cons] using ih
    · by_cases hother : id = other
      · simp only [hother, if_true] at ih hid
        simpa [hid, hother, List.count_cons] using ih
      · simp only [hother, if_false] at ih
        simpa [hid, hother, List.count_cons] using ih

theorem nodup_concat_iff {α : Type} {l : List α} {a : α} (h : l.Nodup) :
    (l ++ [a]).Nodup ↔ a ∉ l := by
  rw [List.nodup_middle, List.append_nil, List.nodup_cons, and_iff_left h]

/-- The turn keeps the account exactly when nothing has come in between. -/
theorem AdminEffect.accounted_iff (heffect : AdminEffect task s task' s')
    (h : Accounted (before ++ task :: after) s) :
    Accounted (before ++ task' :: after) s' ↔ Unhindered s task := by
  obtain ⟨hids, hnames, hbalanced⟩ := h
  simp only [countP_replaced] at hbalanced
  cases heffect with
  | quiet _ _ _ hharmless hloads hdrops =>
    refine iff_of_true ⟨hids, hnames, fun id => ?_⟩ ?_
    · rw [countP_replaced, countP_replaced, hloads, hdrops]
      exact hbalanced id
    · cases task <;> trivial
  | inserted oracle adapter =>
    have hregistered : RunningService.registeredIds ⟨s.adapters,
        s.world.withOracles (s.world.finder.oracles ++ [oracle])⟩ =
          s.registeredIds ++ [oracle.id] := List.map_append
    have hnamed : (s.world.finder.oracles ++ [oracle]).map Oracle.name =
        s.world.finder.oracles.map Oracle.name ++ [oracle.name] := List.map_append
    rw [Unhindered, ← nodup_concat_iff hids, ← nodup_concat_iff hnames, ← hregistered, ← hnamed]
    refine ⟨fun haccounted => ⟨haccounted.idsNodup, haccounted.namesNodup⟩, fun hnodup =>
      ⟨hnodup.1, hnodup.2, fun id => ?_⟩⟩
    have hid := hbalanced id
    rw [hregistered, List.count_append, List.count_singleton, countP_replaced, countP_replaced]
    simp only [AdminTask.loads, AdminTask.drops, beq_iff_eq, decide_eq_true_eq,
      Bool.false_eq_true, if_false] at hid ⊢
    simp only [RunningService.loadedIds] at hid ⊢
    omega
  | pushed oracle adapter _ hoid =>
    have hloaded : RunningService.loadedIds ⟨s.adapters ++ [adapter], s.world⟩ =
        s.loadedIds ++ [oracle.id] := by
      rw [← hoid]
      exact List.map_append
    refine iff_of_true ⟨hids, hnames, fun id => ?_⟩ trivial
    have hid := hbalanced id
    rw [hloaded, List.count_append, List.count_singleton, countP_replaced, countP_replaced]
    simp only [AdminTask.loads, AdminTask.drops, beq_iff_eq, decide_eq_true_eq,
      Bool.false_eq_true, if_false] at hid ⊢
    simp only [RunningService.registeredIds] at hid ⊢
    omega
  | deleted id found _ hfind =>
    have hfound : found.id = id := by simpa using List.find?_some hfind
    have hmem : id ∈ s.registeredIds :=
      List.mem_map.mpr ⟨found, List.mem_of_find?_eq_some hfind, hfound⟩
    have hregistered : RunningService.registeredIds ⟨s.adapters,
        s.world.withOracles (s.world.finder.oracles.eraseP fun o => o.id = id)⟩ =
          s.registeredIds.erase id := map_id_eraseP _ id
    refine iff_of_true ⟨hregistered ▸ hids.erase id, hnames.sublist (List.eraseP_sublist.map _),
      fun other => ?_⟩ trivial
    have hother := hbalanced other
    have hpositive := List.count_pos_iff.mpr hmem
    rw [hregistered, List.count_erase, countP_replaced, countP_replaced]
    simp only [AdminTask.loads, AdminTask.drops, beq_iff_eq, decide_eq_true_eq,
      Bool.false_eq_true, if_false] at hother ⊢
    simp only [RunningService.loadedIds] at hother ⊢
    by_cases heq : id = other
    · subst heq
      simp only [if_true] at hother ⊢
      omega
    · simp only [if_neg heq] at hother ⊢
      omega
  | dropped id =>
    have hloaded : ∀ other, (RunningService.loadedIds ⟨s.adapters.filter fun o => o.oracleId ≠ id,
        s.world⟩).count other = if id = other then 0 else s.loadedIds.count other :=
      count_loadedIds_filter s.adapters id
    constructor
    · intro haccounted
      have hid := hbalanced id
      have hafter := haccounted.balanced id
      rw [hloaded, if_pos rfl, countP_replaced, countP_replaced] at hafter
      simp only [AdminTask.loads, AdminTask.drops, decide_true, Bool.false_eq_true, if_true,
        if_false] at hid hafter
      simp only [RunningService.registeredIds] at hid hafter
      rw [Unhindered]
      omega
    · intro hone
      rw [Unhindered] at hone
      refine ⟨hids, hnames, fun other => ?_⟩
      have hother := hbalanced other
      rw [hloaded, countP_replaced, countP_replaced]
      simp only [AdminTask.loads, AdminTask.drops, decide_eq_true_eq, Bool.false_eq_true,
        if_false] at hother ⊢
      simp only [RunningService.registeredIds] at hother ⊢
      by_cases heq : id = other
      · subst heq
        simp only [if_true] at hother ⊢
        omega
      · simp only [if_neg heq] at hother ⊢
        omega

/-- A balanced account with all calls returned is settled. -/
theorem Accounted.settled {tasks : List (AdminTask T R)} (h : Accounted tasks s)
    (hreturned : ∀ task ∈ tasks, ∃ outcome, task = .returned outcome) : Settled s := by
  have hcount : ∀ id, s.loadedIds.count id = s.registeredIds.count id := by
    intro id
    have hloads : tasks.countP (AdminTask.loads id) = 0 := by
      refine List.countP_eq_zero.mpr fun task htask => ?_
      obtain ⟨outcome, rfl⟩ := hreturned task htask
      exact Bool.false_ne_true
    have hdrops : tasks.countP (AdminTask.drops id) = 0 := by
      refine List.countP_eq_zero.mpr fun task htask => ?_
      obtain ⟨outcome, rfl⟩ := hreturned task htask
      exact Bool.false_ne_true
    have hid := h.balanced id
    rwa [hloads, hdrops, Nat.add_zero, Nat.add_zero] at hid
  refine ⟨⟨h.idsNodup, List.nodup_iff_count_le_one.mpr fun id => ?_, fun id => ?_⟩, h.namesNodup⟩
  · exact (hcount id).trans_le (List.nodup_iff_count_le_one.mp h.idsNodup id)
  · rw [← List.count_pos_iff, ← List.count_pos_iff, hcount]

/-- A settled service with calls that have not begun is accounted for. -/
theorem Settled.accounted {tasks : List (AdminTask T R)} (h : Settled s)
    (hloads : ∀ task ∈ tasks, ∀ id, task.loads id = false)
    (hdrops : ∀ task ∈ tasks, ∀ id, task.drops id = false) : Accounted tasks s := by
  refine ⟨h.inStep.registeredNodup, h.namesNodup, fun id => ?_⟩
  have hloaded : tasks.countP (AdminTask.loads id) = 0 :=
    List.countP_eq_zero.mpr fun task htask => by simp [hloads task htask]
  have hdropped : tasks.countP (AdminTask.drops id) = 0 :=
    List.countP_eq_zero.mpr fun task htask => by simp [hdrops task htask]
  rw [hloaded, hdropped, Nat.add_zero, Nat.add_zero]
  by_cases hid : id ∈ s.registeredIds
  · rw [List.count_eq_one_of_mem h.inStep.registeredNodup hid,
      List.count_eq_one_of_mem h.inStep.loadedNodup ((h.inStep.same id).mp hid)]
  · rw [List.count_eq_zero_of_not_mem hid,
      List.count_eq_zero_of_not_mem (mt (h.inStep.same id).mpr hid)]

end

namespace OracleAdapterFactory

open AccountLookupAggregate RunningService

variable {T R : Type} [LinearOrder T] [Add T] (settings : OracleAdapterFactory T R)
  (participantService : IParticipantServiceAdapter R)

/-- The adapter of the call, built or to be built, can be loaded. A registration of an
unsupported kind gets no adapter. -/
def Loadable (w : BuiltinWorld T) : AdminTask T R → Prop
  | .findById oracle randomUUID | .findByName oracle randomUUID =>
    (∀ value, oracle.type ≠ .other value) → AdapterStarts w (newOracle oracle randomUUID)
  | .findPresent oracle adapter | .insertOne oracle adapter | .initAdapter oracle adapter
  | .pushAdapter oracle adapter => settings.BuiltFor oracle adapter ∧ AdapterStarts w oracle
  | _ => True

variable {settings} {s : RunningService T R} {task : AdminTask T R}

theorem adminEffect_advance (hreachable : AllReachable s.world)
    (h : settings.Loadable s.world.builtin task) :
    AdminEffect task s (settings.advance participantService task s).1
        (settings.advance participantService task s).2 ∧
      settings.Loadable s.world.builtin (settings.advance participantService task s).1 := by
  obtain ⟨hfinder, hbuiltin⟩ := hreachable
  cases task with
  | findById oracle randomUUID =>
    simp only [advance]
    rcases settings.findNamedOracle_cases participantService s.adapters s.world oracle with
      ⟨-, hfound⟩ | ⟨-, ⟨error, hfound⟩ | ⟨found, hfound⟩⟩
    · rw [hfound]
      exact ⟨.quiet _ _ _ trivial (fun _ => rfl) (fun _ => rfl), h⟩
    · rw [hfound]
      exact ⟨.quiet _ _ _ trivial (fun _ => rfl) (fun _ => rfl), trivial⟩
    · rw [hfound]
      exact ⟨.quiet _ _ _ trivial (fun _ => rfl) (fun _ => rfl), trivial⟩
  | findByName oracle randomUUID =>
    simp only [advance]
    rcases settings.getOracleByName_cases participantService s.adapters s.world oracle.name with
      ⟨-, hfound⟩ | ⟨-, ⟨error, hfound⟩ | ⟨found, hfound⟩⟩
    · rw [hfound]
      dsimp only
      by_cases hsupported : ∀ value, oracle.type ≠ .other value
      · obtain ⟨adapter, hbuilt⟩ := settings.builtFor_of_supported
          (show ∀ value, (newOracle oracle randomUUID).type ≠ .other value from hsupported)
        rw [hbuilt.created]
        exact ⟨.quiet _ _ _ trivial (fun _ => rfl) (fun _ => rfl), hbuilt, h hsupported⟩
      · simp only [not_forall, not_not] at hsupported
        obtain ⟨value, htype⟩ := hsupported
        obtain ⟨error, hcreate⟩ := settings.create_of_other
          (show (newOracle oracle randomUUID).type = .other value from htype) s.world
        rw [hcreate]
        exact ⟨.quiet _ _ _ trivial (fun _ => rfl) (fun _ => rfl), trivial⟩
    · rw [hfound]
      exact ⟨.quiet _ _ _ trivial (fun _ => rfl) (fun _ => rfl), trivial⟩
    · rw [hfound]
      exact ⟨.quiet _ _ _ trivial (fun _ => rfl) (fun _ => rfl), trivial⟩
  | findPresent oracle adapter =>
    simp only [advance, hfinder]
    cases s.world.finder.oracles.find? (MongoOracleFinderRepo.samePresent oracle) with
    | some found => exact ⟨.quiet _ _ _ trivial (fun _ => rfl) (fun _ => rfl), trivial⟩
    | none => exact ⟨.quiet _ _ _ trivial (fun _ => rfl) (fun _ => rfl), h⟩
  | insertOne oracle adapter =>
    simp only [advance, hfinder]
    exact ⟨.inserted oracle adapter s, h⟩
  | initAdapter oracle adapter =>
    simp only [advance, h.1.starts s.world h.2]
    exact ⟨.quiet _ _ _ trivial (fun _ => rfl) (fun _ => rfl), h⟩
  | pushAdapter oracle adapter => exact ⟨.pushed oracle adapter s h.1.oracleId_eq, trivial⟩
  | findRegistered id =>
    simp only [advance, loaded, aggregate, IOracleFinder.on, Call.on,
      MongoOracleFinderRepo.finder, MongoOracleFinderRepo.getOracleById,
      ServiceWorld.finderPart, hfinder]
    cases s.world.finder.oracles.find? (fun o => o.id = id) with
    | none => exact ⟨.quiet _ _ _ trivial (fun _ => rfl) (fun _ => rfl), trivial⟩
    | some found => exact ⟨.quiet _ _ _ trivial (fun _ => rfl) (fun _ => rfl), trivial⟩
  | deleteOne id =>
    simp only [advance, loaded, aggregate, IOracleFinder.on, Call.on,
      MongoOracleFinderRepo.finder, MongoOracleFinderRepo.removeOracle,
      ServiceWorld.finderPart, hfinder]
    cases hfind : s.world.finder.oracles.find? (fun o => o.id = id) with
    | none => exact ⟨.quiet _ _ _ trivial (fun _ => rfl) (fun _ => rfl), trivial⟩
    | some found => exact ⟨.deleted id found s hfind, trivial⟩
  | dropAdapters id => exact ⟨.dropped id s, trivial⟩
  | returned outcome => exact ⟨.quiet _ _ _ trivial (fun _ => rfl) (fun _ => rfl), trivial⟩

/-- Nothing has come between the checks of the task whose turn it is and what it does in
its turn. -/
def TurnUnhindered (pool : Pool (AdminTask T R) (RunningService T R)) (i : ℕ) : Prop :=
  ∀ task, pool.tasks[i]? = some task → Unhindered pool.world task

variable (settings) in
/-- What holds between turns: nothing fails, and the account is balanced. -/
structure Administered (pool : Pool (AdminTask T R) (RunningService T R)) : Prop where
  reachable : AllReachable pool.world.world
  loadable : ∀ task ∈ pool.tasks, settings.Loadable pool.world.world.builtin task
  accounted : Accounted pool.tasks pool.world

variable {pool : Pool (AdminTask T R) (RunningService T R)} {i : ℕ}

/-- A turn of an administered pool, split around its task. -/
theorem adminTurn_cases (i : ℕ) (h : settings.Administered pool) :
    (settings.adminTurn participantService pool i = pool ∧ pool.tasks[i]? = none) ∨
      ∃ before task task' after s', pool.tasks[i]? = some task ∧
        pool.tasks = before ++ task :: after ∧ AdminEffect task pool.world task' s' ∧
        settings.Loadable pool.world.world.builtin task' ∧
        settings.adminTurn participantService pool i = ⟨before ++ task' :: after, s'⟩ := by
  cases htask : pool.tasks[i]? with
  | none => exact Or.inl ⟨Pool.step_of_none _ htask, rfl⟩
  | some task =>
    obtain ⟨before, after, htasks, -, hstep⟩ :=
      Pool.step_of_some (settings.advance participantService) htask
    obtain ⟨heffect, hloadable⟩ := adminEffect_advance participantService h.reachable
      (h.loadable task (List.mem_of_getElem? htask))
    exact Or.inr ⟨before, task, _, after, _, rfl, htasks, heffect, hloadable, hstep⟩

theorem accounted_adminTurn_iff (h : settings.Administered pool) :
    Accounted (settings.adminTurn participantService pool i).tasks
        (settings.adminTurn participantService pool i).world ↔ TurnUnhindered pool i := by
  rcases adminTurn_cases participantService i h with
    ⟨hturn, hnone⟩ | ⟨before, task, task', after, s', htask, htasks, heffect, -, hturn⟩
  · rw [hturn]
    exact iff_of_true h.accounted fun task htask => (by cases hnone.symm.trans htask)
  · have haccounted := h.accounted
    rw [htasks] at haccounted
    rw [hturn, heffect.accounted_iff haccounted, TurnUnhindered, htask]
    exact ⟨fun hunhindered other hother => Option.some.inj hother ▸ hunhindered,
      fun hunhindered => hunhindered task rfl⟩

theorem administered_adminTurn (h : settings.Administered pool)
    (hunhindered : TurnUnhindered pool i) :
    settings.Administered (settings.adminTurn participantService pool i) := by
  have haccounted := (accounted_adminTurn_iff participantService h).mpr hunhindered
  rcases adminTurn_cases participantService i h with
    ⟨hturn, -⟩ | ⟨before, task, task', after, s', -, htasks, heffect, hloadable, hturn⟩
  · rw [hturn]
    exact h
  · obtain ⟨hreachable, hbuiltin⟩ := heffect.allReachable h.reachable
    rw [hturn] at haccounted ⊢
    refine ⟨hreachable, fun other hother => ?_, haccounted⟩
    rw [hbuiltin]
    rcases Pool.eq_or_mem_of_mem_turned htasks hother with rfl | hold
    · exact hloadable
    · exact h.loadable other hold

/-- A call that has not begun. -/
def NotBegun : AdminTask T R → Prop
  | .findById _ _ | .findRegistered _ => True
  | _ => False

theorem administered_of_notBegun {calls : List (AdminTask T R)}
    (hreachable : AllReachable s.world) (hsettled : Settled s)
    (hcalls : ∀ task ∈ calls, NotBegun task)
    (hloadable : ∀ task ∈ calls, settings.Loadable s.world.builtin task) :
    settings.Administered ⟨calls, s⟩ := by
  refine ⟨hreachable, hloadable, hsettled.accounted (fun task htask id => ?_)
    fun task htask id => ?_⟩
  · have hcall := hcalls task htask
    cases task <;> first | rfl | cases hcall
  · have hcall := hcalls task htask
    cases task <;> first | rfl | cases hcall

/-- **The account stays balanced exactly while no call is hindered.** -/
theorem accounted_throughout_iff {calls : List (AdminTask T R)}
    (hreachable : AllReachable s.world) (hsettled : Settled s)
    (hcalls : ∀ task ∈ calls, NotBegun task)
    (hloadable : ∀ task ∈ calls, settings.Loadable s.world.builtin task) (turns : List ℕ) :
    (∀ before, before <+: turns →
        Accounted (run (settings.adminTurn participantService) ⟨calls, s⟩ before).tasks
          (run (settings.adminTurn participantService) ⟨calls, s⟩ before).world) ↔
      Along (settings.adminTurn participantService) TurnUnhindered ⟨calls, s⟩ turns := by
  have hstart := administered_of_notBegun hreachable hsettled hcalls hloadable
  rw [forall_prefix_iff_along (fun pool : Pool (AdminTask T R) (RunningService T R) =>
    Accounted pool.tasks pool.world), and_iff_right hstart.accounted]
  exact along_iff_of_exact settings.Administered
    (fun _ _ h => accounted_adminTurn_iff participantService h)
    (fun _ _ h => administered_adminTurn participantService h) turns _ hstart

/-- **Unhindered administration is safe.** Once all calls have returned, ids and names in
the registry are distinct, and the loaded adapters are those of the registered oracles. -/
theorem settled_of_unhindered (settings : OracleAdapterFactory T R)
    (participantService : IParticipantServiceAdapter R) (s : RunningService T R)
    (hreachable : AllReachable s.world) (hsettled : Settled s) (calls : List (AdminTask T R))
    (hcalls : ∀ task ∈ calls, NotBegun task)
    (hloadable : ∀ task ∈ calls, settings.Loadable s.world.builtin task) (turns : List ℕ)
    (hunhindered : Along (settings.adminTurn participantService) TurnUnhindered ⟨calls, s⟩ turns)
    (hreturned : ∀ task ∈ (run (settings.adminTurn participantService) ⟨calls, s⟩ turns).tasks,
      ∃ outcome, task = .returned outcome) :
    Settled (run (settings.adminTurn participantService) ⟨calls, s⟩ turns).world := by
  have haccounted := (accounted_throughout_iff participantService hreachable hsettled hcalls
    hloadable turns).mpr hunhindered turns (List.prefix_refl turns)
  exact haccounted.settled hreturned

/-- A request to register a built-in oracle. -/
def builtinRequest (id name : String) : AddOracleDTO :=
  ⟨.str id, .str name, .builtin, .str "MSISDN", .null, .null⟩

/-- A service without oracles. -/
def sampleService : RunningService ℕ Unit := ⟨[], sampleWorld⟩

theorem settled_sampleService : Settled sampleService :=
  ⟨⟨List.nodup_nil, List.nodup_nil, fun _ => Iff.rfl⟩, List.nodup_nil⟩

/-- Two registrations of one name that both look for it before either inserts. -/
theorem not_forall_settled :
    ¬ ∀ (settings : OracleAdapterFactory ℕ Unit)
      (participantService : IParticipantServiceAdapter Unit) (s : RunningService ℕ Unit)
      (calls : List (AdminTask ℕ Unit)) (turns : List ℕ), AllReachable s.world → Settled s →
        (∀ task ∈ calls, NotBegun task) →
        (∀ task ∈ calls, settings.Loadable s.world.builtin task) →
        (∀ task ∈ (run (settings.adminTurn participantService) ⟨calls, s⟩ turns).tasks,
          ∃ outcome, task = .returned outcome) →
        Settled (run (settings.adminTurn participantService) ⟨calls, s⟩ turns).world := by
  intro h
  have hsettled := h sampleSettings sampleParticipants sampleService
    [.findById (builtinRequest "1" "MSISDN") "", .findById (builtinRequest "2" "MSISDN") ""]
    [0, 1, 0, 1, 0, 1, 0, 1, 0, 1, 0, 1] ⟨fun _ => rfl, fun _ => rfl⟩ settled_sampleService
    (by
      rintro task htask
      simp only [List.mem_cons, List.not_mem_nil, or_false] at htask
      rcases htask with rfl | rfl <;> trivial)
    (by
      rintro task htask
      simp only [List.mem_cons, List.not_mem_nil, or_false] at htask
      rcases htask with rfl | rfl <;> exact fun _ => ⟨rfl, rfl⟩)
    (by
      rintro task htask
      have htasks : task ∈ [AdminTask.returned (.ok (some "1")), .returned (.ok (some "2"))] :=
        htask
      simp only [List.mem_cons, List.not_mem_nil, or_false] at htasks
      rcases htasks with rfl | rfl <;> exact ⟨_, rfl⟩)
  exact absurd hsettled.namesNodup (by decide)

/-- Two registrations, and a removal of what the first one registers. -/
def sampleAdminCalls : List (AdminTask ℕ Unit) :=
  [.findById (builtinRequest "1" "MSISDN") "", .findById (builtinRequest "2" "EMAIL") "",
    .findRegistered "1"]

/-- The registrations take turns with their checks, and the removal takes turns with the end
of the second one. -/
def sampleAdminTurns : List ℕ := [0, 1, 0, 1, 0, 1, 0, 0, 0, 2, 1, 2, 1, 2, 1]

/-- None of the calls hinders another, and what they leave is in order. -/
theorem settled_sampleAdminCalls :
    Along (sampleSettings.adminTurn sampleParticipants) TurnUnhindered
        ⟨sampleAdminCalls, sampleService⟩ sampleAdminTurns ∧
      (run (sampleSettings.adminTurn sampleParticipants) ⟨sampleAdminCalls, sampleService⟩
        sampleAdminTurns).world.registeredIds = ["2"] ∧
      Settled (run (sampleSettings.adminTurn sampleParticipants)
        ⟨sampleAdminCalls, sampleService⟩ sampleAdminTurns).world := by
  have hunhindered : Along (sampleSettings.adminTurn sampleParticipants) TurnUnhindered
      ⟨sampleAdminCalls, sampleService⟩ sampleAdminTurns := by
    refine ⟨?_, ?_, ?_, ?_, ?_, ?_, ?_, ?_, ?_, ?_, ?_, ?_, ?_, ?_, ?_, trivial⟩
    all_goals
      rintro task htask
      obtain rfl := Option.some.inj htask
      trivial
  refine ⟨hunhindered, rfl, settled_of_unhindered sampleSettings sampleParticipants sampleService
    ⟨fun _ => rfl, fun _ => rfl⟩ settled_sampleService sampleAdminCalls ?_ ?_ sampleAdminTurns
    hunhindered ?_⟩
  · rintro task htask
    simp only [sampleAdminCalls, List.mem_cons, List.not_mem_nil, or_false] at htask
    rcases htask with rfl | rfl | rfl <;> trivial
  · rintro task htask
    simp only [sampleAdminCalls, List.mem_cons, List.not_mem_nil, or_false] at htask
    rcases htask with rfl | rfl | rfl
    · exact fun _ => ⟨rfl, rfl⟩
    · exact fun _ => ⟨rfl, rfl⟩
    · trivial
  · rintro task htask
    have htasks : task ∈ [AdminTask.returned (.ok (some "1")), .returned (.ok (some "2")),
        .returned (.ok none)] := htask
    simp only [List.mem_cons, List.not_mem_nil, or_false] at htasks
    rcases htasks with rfl | rfl | rfl <;> exact ⟨_, rfl⟩

end OracleAdapterFactory

end AccountLookup
