/-
# The registry and the loaded adapters

Runs of registrations and removals on a running service, in each of which any
database call may fail and any built-in store may be out of reach. The registry
and the list of loaded adapters stay in step, and a call that throws changes
neither, exactly as long as every oracle that gets as far as the registry has an
adapter that can be loaded.
-/

import Mathlib.Algebra.Order.Group.Nat
import AccountLookup.Library.FirstMatch
import AccountLookup.Library.Transition
import AccountLookup.Service.Adapters

namespace AccountLookup

open Library Library.Transition Library.FirstMatch

/-- A source of random identifiers. What it draws is never taken already. -/
structure UuidSource where
  draw : (taken : List String) → String
  fresh : ∀ taken, draw taken ∉ taken

/-- A source that draws more zeros than the taken identifiers have characters. -/
def UuidSource.zeros : UuidSource where
  draw taken := String.ofList (List.replicate ((taken.map String.toList).flatten.length + 1) '0')
  fresh taken hmem := by
    have hmap := List.mem_map_of_mem (f := String.toList) hmem
    have hle := (List.sublist_flatten_of_mem hmap).length_le
    rw [String.toList_ofList, List.length_replicate] at hle
    omega

/-- A call of the administration. -/
inductive AdminCall
  | addOracle (oracle : AddOracleDTO) (randomUUID : UuidSource)
  | removeOracle (id : String)

/-- The database and cache calls that fail for a while. -/
structure Outage where
  finder : FinderCall → Option String
  builtin : BuiltinCall → Option String

/-- Nothing fails. -/
def Outage.none : Outage := ⟨fun _ => .none, fun _ => .none⟩

/-- A call of the administration, made during an outage. -/
structure AdminStep where
  outage : Outage
  call : AdminCall

/-- A running service: the adapters it has loaded, and its world. -/
structure RunningService (T R : Type) where
  adapters : List (IOracleProviderAdapter (ServiceWorld T R))
  world : ServiceWorld T R

namespace RunningService

variable {T R : Type}

/-- The ids in the registry. -/
def registeredIds (s : RunningService T R) : List String := s.world.finder.oracles.map Oracle.id

/-- The ids of the loaded adapters. -/
def loadedIds (s : RunningService T R) : List String :=
  s.adapters.map IOracleProviderAdapter.oracleId

/-- The registered ids are exactly the loaded ones, each once. -/
structure InStep (s : RunningService T R) : Prop where
  registeredNodup : s.registeredIds.Nodup
  loadedNodup : s.loadedIds.Nodup
  same : ∀ id, id ∈ s.registeredIds ↔ id ∈ s.loadedIds

/-- The service during an outage. -/
def during (s : RunningService T R) (outage : Outage) : RunningService T R :=
  { s with world := { s.world with
      finder := { s.world.finder with failure := outage.finder }
      builtin := { s.world.builtin with failure := outage.builtin } } }

/-- If the call registers an oracle, the adapter of that oracle can be loaded. -/
def RegistersLoadable (s : RunningService T R) : AdminCall → Prop
  | .addOracle oracle randomUUID =>
    Registers s.world.finder oracle (randomUUID.draw s.registeredIds) →
      AdapterStarts s.world.builtin
        (AccountLookupAggregate.newOracle oracle (randomUUID.draw s.registeredIds))
  | .removeOracle _ => True

variable {s : RunningService T R}

/-- A registered oracle has a new id. -/
theorem newOracle_id_not_mem {w : FinderWorld} {oracle : AddOracleDTO} (randomUUID : UuidSource)
    (h : Registers w oracle (randomUUID.draw (w.oracles.map Oracle.id))) :
    (AccountLookupAggregate.newOracle oracle
      (randomUUID.draw (w.oracles.map Oracle.id))).id ∉ w.oracles.map Oracle.id := by
  simp only [AccountLookupAggregate.newOracle, AccountLookupAggregate.registeredId]
  cases hid : oracle.id.nonEmpty? with
  | none => exact randomUUID.fresh _
  | some named =>
    intro hmem
    obtain ⟨o, ho, hoid⟩ := List.mem_map.mp hmem
    exact List.find?_eq_none.mp (h.idFree named hid).2 o ho (by simp [hoid])

theorem InStep.during (h : s.InStep) {outage : Outage} : (s.during outage).InStep :=
  ⟨h.registeredNodup, h.loadedNodup, h.same⟩

/-- Adding an oracle with a new id together with its adapter. -/
theorem InStep.add (h : s.InStep) {oracle : Oracle}
    {adapter : IOracleProviderAdapter (ServiceWorld T R)} (hid : adapter.oracleId = oracle.id)
    (hfresh : oracle.id ∉ s.registeredIds) :
    InStep ⟨s.adapters ++ [adapter], s.world.withOracles (s.world.finder.oracles ++ [oracle])⟩ := by
  have hregistered : registeredIds ⟨s.adapters ++ [adapter],
      s.world.withOracles (s.world.finder.oracles ++ [oracle])⟩ = s.registeredIds ++ [oracle.id] :=
    List.map_append
  have hloaded : loadedIds ⟨s.adapters ++ [adapter],
      s.world.withOracles (s.world.finder.oracles ++ [oracle])⟩ = s.loadedIds ++ [oracle.id] := by
    rw [← hid]
    exact List.map_append
  refine ⟨?_, ?_, fun id => ?_⟩
  · rw [hregistered, ← List.concat_eq_append]
    exact h.registeredNodup.concat hfresh
  · rw [hloaded, ← List.concat_eq_append]
    exact h.loadedNodup.concat (mt (h.same _).mpr hfresh)
  · rw [hregistered, hloaded, List.mem_append, List.mem_append, h.same]

/-- Removing an oracle together with its adapter. -/
theorem InStep.remove (h : s.InStep) {id : String} {found : Oracle}
    (hfind : s.world.finder.oracles.find? (fun o => o.id = id) = some found) :
    InStep ⟨s.adapters.filter fun o => o.oracleId ≠ id,
      s.world.withOracles (s.world.finder.oracles.eraseP fun o => o.id = id)⟩ := by
  have hfound : found.id = id := by simpa using List.find?_some hfind
  refine ⟨h.registeredNodup.sublist (List.eraseP_sublist.map _),
    h.loadedNodup.sublist (List.filter_sublist.map _), fun other => ?_⟩
  have hregistered : other ∈ registeredIds ⟨s.adapters.filter fun o => o.oracleId ≠ id,
      s.world.withOracles (s.world.finder.oracles.eraseP fun o => o.id = id)⟩ ↔
        other ∈ s.registeredIds ∧ other ≠ id := by
    have hlabels := labels_eraseP h.registeredNodup hfind
    rw [hfound] at hlabels
    rw [registeredIds, List.mem_map, ← mem_labels]
    exact (Set.ext_iff.mp hlabels other).trans (and_congr List.mem_map.symm Iff.rfl)
  rw [hregistered, h.same, loadedIds, loadedIds, List.mem_map, List.mem_map]
  constructor
  · rintro ⟨⟨adapter, hadapter, rfl⟩, hne⟩
    exact ⟨adapter, List.mem_filter.mpr ⟨hadapter, by simpa using hne⟩, rfl⟩
  · rintro ⟨adapter, hadapter, rfl⟩
    obtain ⟨hmem, hne⟩ := List.mem_filter.mp hadapter
    exact ⟨⟨adapter, hmem, rfl⟩, by simpa using hne⟩

end RunningService

/-- An empty registry and empty stores, all within reach. -/
def sampleWorld : ServiceWorld ℕ Unit :=
  ⟨⟨[], fun _ => none⟩,
    ⟨[], Library.TtlCache.empty, 0, fun _ => none, fun regex value => value = .str regex⟩, ()⟩

/-- A participant service that knows nobody. -/
def sampleParticipants : IParticipantServiceAdapter Unit := ⟨fun _ w => (.ok none, w)⟩

/-- A factory whose HTTP library gets no answer. -/
def sampleSettings : OracleAdapterFactory ℕ Unit where
  redisCacheDurationSecs := 10
  axios :=
    { get := fun _ _ w => (.error ⟨.external, "timeout"⟩, w)
      post := fun _ _ _ w => (.error ⟨.external, "timeout"⟩, w)
      delete := fun _ _ _ w => (.error ⟨.external, "timeout"⟩, w) }

namespace OracleAdapterFactory

open AccountLookupAggregate RunningService

variable {T R : Type} [LinearOrder T] [Add T] (settings : OracleAdapterFactory T R)
  (participantService : IParticipantServiceAdapter R)

/-- The outcome of a call and the service after it. -/
def perform (s : RunningService T R) : AdminCall → Except JsError Unit × RunningService T R
  | .addOracle oracle randomUUID =>
    let outcome := (settings.loaded participantService s.adapters).addOracle oracle
      (randomUUID.draw s.registeredIds) s.world
    (outcome.1.map fun _ => (), ⟨outcome.2.1.oracleProvidersAdapters, outcome.2.2⟩)
  | .removeOracle id =>
    let outcome := (settings.loaded participantService s.adapters).removeOracle id s.world
    (outcome.1, ⟨outcome.2.1.oracleProvidersAdapters, outcome.2.2⟩)

/-- The service after one step. -/
def adminStep (s : RunningService T R) (a : AdminStep) : RunningService T R :=
  (settings.perform participantService (s.during a.outage) a.call).2

/-- After the call the registry and the adapters are in step, and if it threw,
neither has changed. -/
def KeepsInStep (s : RunningService T R) (call : AdminCall) : Prop :=
  (settings.perform participantService s call).2.InStep ∧
    ∀ error, (settings.perform participantService s call).1 = .error error →
      (settings.perform participantService s call).2.adapters = s.adapters ∧
        (settings.perform participantService s call).2.world.finder.oracles =
          s.world.finder.oracles

variable {settings participantService} {s : RunningService T R}

variable (settings participantService s) in
/-- A registration changes nothing, or registers the oracle; and then it loads the new
adapter or throws. -/
theorem perform_addOracle_cases (oracle : AddOracleDTO) (randomUUID : UuidSource) :
    (¬ Registers s.world.finder oracle (randomUUID.draw s.registeredIds) ∧
        ∃ error, settings.perform participantService s (.addOracle oracle randomUUID) =
          (.error error, s)) ∨
      Registers s.world.finder oracle (randomUUID.draw s.registeredIds) ∧
        ∃ adapter, settings.BuiltFor (newOracle oracle (randomUUID.draw s.registeredIds)) adapter ∧
          ((AdapterStarts s.world.builtin (newOracle oracle (randomUUID.draw s.registeredIds)) ∧
              settings.perform participantService s (.addOracle oracle randomUUID) =
                (.ok (), ⟨s.adapters ++ [adapter],
                  s.world.withOracles (s.world.finder.oracles ++
                    [newOracle oracle (randomUUID.draw s.registeredIds)])⟩)) ∨
            ¬ AdapterStarts s.world.builtin
                (newOracle oracle (randomUUID.draw s.registeredIds)) ∧
              ∃ error, settings.perform participantService s (.addOracle oracle randomUUID) =
                (.error error, ⟨s.adapters,
                  s.world.withOracles (s.world.finder.oracles ++
                    [newOracle oracle (randomUUID.draw s.registeredIds)])⟩)) := by
  rcases settings.addOracle_cases participantService s.adapters s.world oracle
    (randomUUID.draw s.registeredIds) with
    ⟨hnot, error, hadd⟩ | ⟨hregisters, adapter, hbuilt, hadd⟩
  · refine Or.inl ⟨hnot, error, ?_⟩
    rw [perform, hadd]
    rfl
  · refine Or.inr ⟨hregisters, adapter, hbuilt, ?_⟩
    by_cases hstarts : AdapterStarts s.world.builtin
        (newOracle oracle (randomUUID.draw s.registeredIds))
    · rw [hbuilt.starts (s.world.withOracles (s.world.finder.oracles ++
        [newOracle oracle (randomUUID.draw s.registeredIds)])) hstarts] at hadd
      refine Or.inl ⟨hstarts, ?_⟩
      rw [perform, hadd]
      rfl
    · obtain ⟨error, herror⟩ := hbuilt.fails (s.world.withOracles (s.world.finder.oracles ++
        [newOracle oracle (randomUUID.draw s.registeredIds)])) hstarts
      rw [herror] at hadd
      refine Or.inr ⟨hstarts, error, ?_⟩
      rw [perform, hadd]
      rfl

variable (settings participantService s) in
/-- A removal changes nothing, or takes the oracle and its adapter away. -/
theorem perform_removeOracle_cases (id : String) :
    (¬ Removes s.world.finder id ∧
        ∃ error, settings.perform participantService s (.removeOracle id) = (.error error, s)) ∨
      Removes s.world.finder id ∧
        settings.perform participantService s (.removeOracle id) =
          (.ok (), ⟨s.adapters.filter fun o => o.oracleId ≠ id,
            s.world.withOracles (s.world.finder.oracles.eraseP fun o => o.id = id)⟩) := by
  rcases settings.removeOracle_cases participantService s.adapters s.world id with
    ⟨hnot, error, hremove⟩ | ⟨hremoves, hremove⟩
  · refine Or.inl ⟨hnot, error, ?_⟩
    rw [perform, hremove]
    rfl
  · refine Or.inr ⟨hremoves, ?_⟩
    rw [perform, hremove]
    rfl

theorem keepsInStep_addOracle_iff (h : s.InStep) (oracle : AddOracleDTO)
    (randomUUID : UuidSource) :
    settings.KeepsInStep participantService s (.addOracle oracle randomUUID) ↔
      s.RegistersLoadable (.addOracle oracle randomUUID) := by
  rw [KeepsInStep]
  rcases settings.perform_addOracle_cases participantService s oracle randomUUID with
    ⟨hnot, error, hperform⟩ | ⟨hregisters, adapter, hbuilt,
      ⟨hstarts, hperform⟩ | ⟨hfails, error, hperform⟩⟩
  · rw [hperform]
    exact iff_of_true ⟨h, fun _ _ => ⟨rfl, rfl⟩⟩ fun hregisters => absurd hregisters hnot
  · rw [hperform]
    refine iff_of_true ⟨?_, fun _ herror => (by cases herror)⟩ fun _ => hstarts
    exact h.add hbuilt.oracleId_eq (newOracle_id_not_mem randomUUID hregisters)
  · rw [hperform]
    refine iff_of_false (fun hkeeps => ?_) fun hloadable => hfails (hloadable hregisters)
    have hlength := congrArg List.length (hkeeps.2 error rfl).2
    simp [ServiceWorld.withOracles] at hlength

theorem keepsInStep_removeOracle (h : s.InStep) (id : String) :
    settings.KeepsInStep participantService s (.removeOracle id) := by
  rw [KeepsInStep]
  rcases settings.perform_removeOracle_cases participantService s id with
    ⟨-, error, hperform⟩ | ⟨hremoves, hperform⟩
  · rw [hperform]
    exact ⟨h, fun _ _ => ⟨rfl, rfl⟩⟩
  · obtain ⟨found, hfind⟩ := hremoves.found
    rw [hperform]
    exact ⟨h.remove hfind, fun _ herror => (by cases herror)⟩

/-- **One call.** A service in step stays so, and a throwing call changes nothing,
exactly when no oracle is registered whose adapter cannot be loaded. -/
theorem keepsInStep_iff (h : s.InStep) (call : AdminCall) :
    settings.KeepsInStep participantService s call ↔ s.RegistersLoadable call := by
  cases call with
  | addOracle oracle randomUUID => exact keepsInStep_addOracle_iff h oracle randomUUID
  | removeOracle id => exact iff_of_true (keepsInStep_removeOracle h id) trivial

/-- What a successful start-up leaves behind. -/
theorem loaded_of_init {w w' : ServiceWorld T R} {agg : AccountLookupAggregate (ServiceWorld T R)}
    (hinit : (settings.aggregate participantService).init w = (.ok (), agg, w')) :
    w' = w ∧ List.Forall₂ settings.BuiltFor w.finder.oracles agg.oracleProvidersAdapters := by
  have haggregate : settings.aggregate participantService =
      settings.loaded participantService [] := rfl
  rw [haggregate] at hinit
  rcases settings.init_cases participantService [] w with
    ⟨-, -, added, hload, hbuilt⟩ | ⟨-, error, herror⟩
  · obtain ⟨-, hrest⟩ := Prod.mk.inj (hinit.symm.trans hload)
    obtain ⟨rfl, rfl⟩ := Prod.mk.inj hrest
    exact ⟨rfl, hbuilt⟩
  · rw [hinit] at herror
    cases herror

/-- A successful start-up over a registry with distinct ids leaves the service in
step. -/
theorem inStep_init {w w' : ServiceWorld T R} {agg : AccountLookupAggregate (ServiceWorld T R)}
    (hids : (w.finder.oracles.map Oracle.id).Nodup)
    (hinit : (settings.aggregate participantService).init w = (.ok (), agg, w')) :
    InStep ⟨agg.oracleProvidersAdapters, w'⟩ := by
  obtain ⟨rfl, hbuilt⟩ := loaded_of_init hinit
  have hloaded : loadedIds ⟨agg.oracleProvidersAdapters, w'⟩ =
      w'.finder.oracles.map Oracle.id := map_oracleId_of_builtFor hbuilt
  refine ⟨hids, ?_, fun id => ?_⟩
  · exact hloaded.symm ▸ hids
  · exact iff_of_eq (congrArg (id ∈ ·) hloaded.symm)

theorem allCreated_perform (h : settings.AllCreated s.adapters) (call : AdminCall) :
    settings.AllCreated (settings.perform participantService s call).2.adapters := by
  cases call with
  | addOracle oracle randomUUID =>
    rcases settings.perform_addOracle_cases participantService s oracle randomUUID with
      ⟨-, error, hperform⟩ | ⟨-, adapter, hbuilt, ⟨-, hperform⟩ | ⟨-, error, hperform⟩⟩
    · rw [hperform]
      exact h
    · rw [hperform]
      exact settings.allCreated_append h (hbuilt.allCreated s.world)
    · rw [hperform]
      exact h
  | removeOracle id =>
    rcases settings.perform_removeOracle_cases participantService s id with
      ⟨-, error, hperform⟩ | ⟨-, hperform⟩
    · rw [hperform]
      exact h
    · rw [hperform]
      exact fun adapter hadapter => h adapter (List.mem_filter.mp hadapter).1

/-- Whatever a started service has loaded, at any time, the factory has built. -/
theorem allCreated_run {w w' : ServiceWorld T R} {agg : AccountLookupAggregate (ServiceWorld T R)}
    (hinit : (settings.aggregate participantService).init w = (.ok (), agg, w'))
    (steps : List AdminStep) :
    settings.AllCreated (run (settings.adminStep participantService)
      ⟨agg.oracleProvidersAdapters, w'⟩ steps).adapters := by
  obtain ⟨rfl, hbuilt⟩ := loaded_of_init hinit
  have hcreated := allCreated_of_builtFor w' hbuilt
  refine run_invariant (settings.adminStep participantService)
    (fun s => settings.AllCreated s.adapters) (fun s a h => ?_) steps _ hcreated
  exact allCreated_perform (s := s.during a.outage) h a.call

/-- **The registry and the adapters stay in step, exactly.** After a successful
start-up over a registry with distinct ids, every call of a run keeps them in step,
and changes nothing if it throws, exactly when every oracle that the run registers
has an adapter that can be loaded. -/
theorem keepsInStep_throughout_iff {w w' : ServiceWorld T R}
    {agg : AccountLookupAggregate (ServiceWorld T R)}
    (hids : (w.finder.oracles.map Oracle.id).Nodup)
    (hinit : (settings.aggregate participantService).init w = (.ok (), agg, w'))
    (steps : List AdminStep) :
    Along (settings.adminStep participantService)
        (fun s a => settings.KeepsInStep participantService (s.during a.outage) a.call)
        ⟨agg.oracleProvidersAdapters, w'⟩ steps ↔
      Along (settings.adminStep participantService)
        (fun s a => (s.during a.outage).RegistersLoadable a.call)
        ⟨agg.oracleProvidersAdapters, w'⟩ steps := by
  refine along_iff_of_exact InStep (fun s a h => ?_) (fun s a h hloadable => ?_) steps _
    (inStep_init hids hinit)
  · exact keepsInStep_iff (s := s.during a.outage) h.during a.call
  · exact ((keepsInStep_iff (s := s.during a.outage) h.during a.call).mpr hloadable).1

/-- A remote oracle without an endpoint is registered before its adapter fails. -/
theorem not_forall_keepsInStep :
    ¬ ∀ (settings : OracleAdapterFactory ℕ Unit)
      (participantService : IParticipantServiceAdapter Unit)
      (w w' : ServiceWorld ℕ Unit) (agg : AccountLookupAggregate (ServiceWorld ℕ Unit)),
      (w.finder.oracles.map Oracle.id).Nodup →
      (settings.aggregate participantService).init w = (.ok (), agg, w') →
      ∀ steps, Along (settings.adminStep participantService)
        (fun s a => settings.KeepsInStep participantService (s.during a.outage) a.call)
        ⟨agg.oracleProvidersAdapters, w'⟩ steps := by
  intro h
  obtain ⟨⟨hstep, -⟩, -⟩ := h sampleSettings sampleParticipants sampleWorld sampleWorld
    (sampleSettings.aggregate sampleParticipants) List.nodup_nil rfl
    [⟨Outage.none, .addOracle
      ⟨.str "1", .str "remote", .remoteHttp, .str "MSISDN", .null, .null⟩ UuidSource.zeros⟩]
  exact absurd ((hstep.same "1").mp (List.mem_singleton.mpr rfl)) List.not_mem_nil

/-- Registering and removing a built-in oracle keeps the service in step. -/
theorem keepsInStep_builtin :
    Along (sampleSettings.adminStep sampleParticipants)
      (fun s a => sampleSettings.KeepsInStep sampleParticipants (s.during a.outage) a.call)
      ⟨[], sampleWorld⟩
      [⟨Outage.none, .addOracle
          ⟨.str "1", .str "builtin", .builtin, .str "MSISDN", .null, .null⟩ UuidSource.zeros⟩,
        ⟨Outage.none, .removeOracle "1"⟩] := by
  have hids : (sampleWorld.finder.oracles.map Oracle.id).Nodup := List.nodup_nil
  have hinit : (sampleSettings.aggregate sampleParticipants).init sampleWorld =
      (.ok (), sampleSettings.aggregate sampleParticipants, sampleWorld) := rfl
  exact (keepsInStep_throughout_iff hids hinit _).mpr
    ⟨fun _ => ⟨rfl, rfl⟩, trivial, trivial⟩

end OracleAdapterFactory

end AccountLookup
