/-
# Routing under changes of the registry

Which oracle a party is routed to, and through which adapter, depends on the other
oracles of the registry. A removal leaves the routing alone unless it removes the
selected oracle; a registration moves it only to the new oracle, and only where that
oracle fits better than the one selected before. Once an oracle is removed its adapter
is out of reach of all later messages and lookups.
-/

import AccountLookup.Domain.Invocations
import AccountLookup.Implementations.OracleRouting
import AccountLookup.Service.RegistryRuns

namespace AccountLookup

open Library Library.Transition Library.FirstMatch

namespace MongoOracleFinderRepo

/-- The selection, as two searches of the registry itself. -/
theorem oracleFor_eq {failure : FinderCall → Option String}
    (hok : failure .findByPartyType = none) (oracles : List Oracle)
    (partyType currency : JsString) :
    oracleFor ⟨oracles, failure⟩ partyType currency =
      (oracles.find? fun oracle => fieldMatches oracle.partyType partyType &&
        decide (oracle.currency = currency)).or
      (oracles.find? fun oracle => fieldMatches oracle.partyType partyType) := by
  simp only [oracleFor, hok, ofType, List.find?_filter, List.head?_filter, Bool.decide_and,
    Bool.decide_eq_true]

theorem getOracle_fst_congr (w w' : FinderWorld) {partyType currency : JsString}
    (hfailure : w'.failure = w.failure)
    (horacle : oracleFor w' partyType currency = oracleFor w partyType currency) :
    (getOracle partyType currency w').1 = (getOracle partyType currency w).1 := by
  rw [getOracle_fst, getOracle_fst, hfailure, horacle]

/-- A registered oracle that is not selected can go. -/
theorem oracleFor_eraseP {w : FinderWorld} {id : String} {found : Oracle}
    (hfound : w.oracles.find? (fun oracle => oracle.id = id) = some found)
    {partyType currency : JsString} (hne : oracleFor w partyType currency ≠ some found) :
    oracleFor { w with oracles := w.oracles.eraseP fun oracle => oracle.id = id }
      partyType currency = oracleFor w partyType currency := by
  obtain ⟨oracles, failure⟩ := w
  cases hok : failure .findByPartyType with
  | some message => simp only [oracleFor, hok]
  | none =>
    dsimp only at hfound ⊢
    rw [oracleFor_eq hok] at hne
    rw [oracleFor_eq hok, oracleFor_eq hok]
    have hexact : oracles.find? (fun oracle => fieldMatches oracle.partyType partyType &&
        decide (oracle.currency = currency)) ≠ some found := by
      intro h
      rw [h, Option.some_or] at hne
      exact hne rfl
    rw [find?_eraseP_of_ne hfound hexact]
    cases hfirst : oracles.find? (fun oracle => fieldMatches oracle.partyType partyType &&
        decide (oracle.currency = currency)) with
    | some first => rw [Option.some_or, Option.some_or]
    | none =>
      rw [hfirst, Option.none_or] at hne
      rw [Option.none_or, Option.none_or, find?_eraseP_of_ne hfound hne]

/-- A new oracle is selected only where it fits better. -/
theorem oracleFor_concat (w : FinderWorld) (oracle : Oracle) (partyType currency : JsString) :
    oracleFor { w with oracles := w.oracles ++ [oracle] } partyType currency =
        oracleFor w partyType currency ∨
      oracle.IsOf partyType ∧
        (oracleFor w partyType currency = none ∨
          ∃ previous, oracleFor w partyType currency = some previous ∧
            previous.currency ≠ currency ∧ oracle.currency = currency) := by
  obtain ⟨oracles, failure⟩ := w
  cases hok : failure .findByPartyType with
  | some message =>
    apply Or.inl
    simp only [oracleFor, hok]
  | none =>
    dsimp only
    rw [oracleFor_eq hok, oracleFor_eq hok, find?_concat, find?_concat]
    cases hexact : oracles.find? (fun oracle => fieldMatches oracle.partyType partyType &&
        decide (oracle.currency = currency)) with
    | some first => exact Or.inl rfl
    | none =>
      dsimp only
      rw [Option.none_or]
      cases hof : fieldMatches oracle.partyType partyType with
      | false =>
        apply Or.inl
        cases oracles.find? fun oracle => fieldMatches oracle.partyType partyType <;> rfl
      | true =>
        cases hfirst : oracles.find? fun oracle => fieldMatches oracle.partyType partyType with
        | none => exact Or.inr ⟨hof, Or.inl rfl⟩
        | some previous =>
          by_cases hcurrency : oracle.currency = currency
          · refine Or.inr ⟨hof, Or.inr ⟨previous, rfl, fun hsame => ?_, hcurrency⟩⟩
            refine List.find?_eq_none.mp hexact previous (List.mem_of_find?_eq_some hfirst) ?_
            rw [List.find?_some hfirst, hsame]
            exact decide_eq_true rfl
          · apply Or.inl
            simp only [hcurrency, decide_false, Bool.and_false, Bool.false_eq_true, if_false,
              Option.none_or]

end MongoOracleFinderRepo

/-- What a running service is asked to do. -/
inductive ServiceCall
  | message (message : IMessage)
  | lookup (accountIdentifier : Party)
  | admin (call : AdminCall)

/-- A call, and what has happened to the world since the one before: time has passed,
databases have come or gone, other services have written to them. -/
structure ServiceStep (T R : Type) where
  meanwhile : ServiceWorld T R → ServiceWorld T R
  call : ServiceCall

/-- The service when the call of the step begins. -/
def RunningService.found {T R : Type} (s : RunningService T R) (a : ServiceStep T R) :
    RunningService T R :=
  { s with world := a.meanwhile s.world }

namespace OracleAdapterFactory

open AccountLookupAggregate RunningService

variable {T R : Type} [LinearOrder T] [Add T] (settings : OracleAdapterFactory T R)
  (participantService : IParticipantServiceAdapter R)

/-- The service after one step. -/
def serviceStep (s : RunningService T R) (a : ServiceStep T R) : RunningService T R :=
  match a.call with
  | .message message =>
    { s with world :=
        ((settings.loaded participantService s.adapters).handleEvent message
          (s.found a).world).2 }
  | .lookup accountIdentifier =>
    { s with world :=
        ((settings.loaded participantService s.adapters).getAccountLookUp accountIdentifier
          (s.found a).world).2 }
  | .admin call => (settings.perform participantService (s.found a) call).2

/-- The selected oracle, and the adapter through which it is reached. -/
def selection (s : RunningService T R) (partyType currency : JsString) :
    Except JsError (Option Oracle) ×
      Except JsError (IOracleProviderAdapter (ServiceWorld T R)) :=
  ((MongoOracleFinderRepo.getOracle partyType currency s.world.finder).1,
    ((settings.loaded participantService s.adapters).getOracleAdapter partyType currency
      s.world).1)

/-- The call adds an oracle with the id. -/
def Adds (s : RunningService T R) (id : String) : ServiceCall → Prop
  | .admin (.addOracle oracle randomUUID) =>
    ((settings.loaded participantService s.adapters).addOracle oracle
      (randomUUID.draw s.registeredIds) s.world).1 = .ok id
  | _ => False

/-- The call is a message or a lookup that asks an adapter with the id. -/
def Invokes (s : RunningService T R) (id : String) : ServiceCall → Prop
  | .message message =>
    id ∈ (settings.loaded participantService s.adapters).invokedByMessage s.world message
  | .lookup accountIdentifier =>
    id ∈ (settings.loaded participantService s.adapters).invokedByLookup s.world accountIdentifier
  | .admin _ => False

variable {settings participantService}

/-- The selection, computed from the finder's answer. -/
theorem selection_congr {s s' : RunningService T R} {partyType currency : JsString}
    (horacle : (MongoOracleFinderRepo.getOracle partyType currency s'.world.finder).1 =
      (MongoOracleFinderRepo.getOracle partyType currency s.world.finder).1)
    (hadapter : ∀ oracle,
      (MongoOracleFinderRepo.getOracle partyType currency s.world.finder).1 = .ok (some oracle) →
      s'.adapters.find? (fun adapter => adapter.oracleId = oracle.id) =
        s.adapters.find? fun adapter => adapter.oracleId = oracle.id) :
    settings.selection participantService s' partyType currency =
      settings.selection participantService s partyType currency := by
  refine Prod.ext horacle ?_
  simp only [selection, getOracleAdapter, loaded, aggregate, IOracleFinder.on, Call.on,
    MongoOracleFinderRepo.finder, ServiceWorld.finderPart]
  rcases hs : MongoOracleFinderRepo.getOracle partyType currency s.world.finder with
    ⟨answer, w⟩
  rcases hs' : MongoOracleFinderRepo.getOracle partyType currency s'.world.finder with
    ⟨answer', w'⟩
  rw [hs, hs'] at horacle
  rw [hs] at hadapter
  obtain rfl : answer' = answer := horacle
  rcases answer' with error | _ | oracle
  · rfl
  · rfl
  · dsimp only
    rw [hadapter oracle rfl]
    cases s.adapters.find? fun adapter => adapter.oracleId = oracle.id <;> rfl

/-- A removal of another oracle leaves the selection alone. -/
theorem selection_removeOracle {s : RunningService T R} {id : String}
    {partyType currency : JsString}
    (hother : ∀ oracle, (settings.selection participantService s partyType currency).1 =
      .ok (some oracle) → oracle.id ≠ id) :
    settings.selection participantService
        (settings.perform participantService s (.removeOracle id)).2 partyType currency =
      settings.selection participantService s partyType currency := by
  rcases settings.perform_removeOracle_cases participantService s id with
    ⟨-, error, hperform⟩ | ⟨hremoves, hperform⟩
  · rw [hperform]
  · obtain ⟨found, hfound⟩ := hremoves.found
    have hid : found.id = id := by simpa using List.find?_some hfound
    have hunselected : MongoOracleFinderRepo.oracleFor s.world.finder partyType currency ≠
        some found := by
      intro hselected
      rcases MongoOracleFinderRepo.getOracle_cases partyType currency s.world.finder with
        ⟨oracle, horacle, hanswer⟩ | ⟨hnone, -⟩
      · obtain rfl := Option.some.inj (hselected.symm.trans horacle)
        exact hother found hanswer hid
      · cases hselected.symm.trans hnone
    rw [hperform]
    refine selection_congr ?_ fun oracle horacle => ?_
    · exact MongoOracleFinderRepo.getOracle_fst_congr s.world.finder
        { s.world.finder with oracles := s.world.finder.oracles.eraseP fun o => o.id = id } rfl
        (MongoOracleFinderRepo.oracleFor_eraseP hfound hunselected)
    · have hne : oracle.id ≠ id := hother oracle horacle
      rw [List.find?_filter]
      congr 1
      funext adapter
      by_cases hadapter : adapter.oracleId = oracle.id
      · simp [hadapter, hne]
      · simp [hadapter]

/-- A successful registration moves the selection only to an oracle that fits better. -/
theorem selection_addOracle {s : RunningService T R} {oracle : AddOracleDTO}
    {randomUUID : UuidSource} {partyType currency : JsString}
    (hadded : (settings.perform participantService s (.addOracle oracle randomUUID)).1 = .ok ())
    (hmoved : settings.selection participantService
        (settings.perform participantService s (.addOracle oracle randomUUID)).2 partyType
          currency ≠ settings.selection participantService s partyType currency) :
    (newOracle oracle (randomUUID.draw s.registeredIds)).IsOf partyType ∧
      ((∀ previous, (settings.selection participantService s partyType currency).1 ≠
          .ok (some previous)) ∨
        ∃ previous, (settings.selection participantService s partyType currency).1 =
            .ok (some previous) ∧
          previous.currency ≠ currency ∧
          (newOracle oracle (randomUUID.draw s.registeredIds)).currency = currency) := by
  rcases settings.perform_addOracle_cases participantService s oracle randomUUID with
    ⟨-, error, hperform⟩ | ⟨hregisters, adapter, hbuilt,
      ⟨-, hperform⟩ | ⟨-, error, hperform⟩⟩
  · rw [hperform] at hadded
    cases hadded
  · have hfresh := newOracle_id_not_mem randomUUID hregisters
    rw [hperform] at hmoved
    rcases MongoOracleFinderRepo.oracleFor_concat s.world.finder
      (newOracle oracle (randomUUID.draw s.registeredIds)) partyType currency with
      hsame | ⟨hof, hfits⟩
    · refine absurd (selection_congr ?_ fun selected hselected => ?_) hmoved
      · exact MongoOracleFinderRepo.getOracle_fst_congr s.world.finder
          { s.world.finder with oracles := s.world.finder.oracles ++ [_] } rfl hsame
      · -- the new adapter has an id of its own, so the selected oracle keeps its adapter
        have hregistered : selected ∈ s.world.finder.oracles :=
          MongoOracleFinderRepo.mem_of_getOracle (Prod.ext hselected rfl)
        have hother : adapter.oracleId ≠ selected.id := by
          rw [hbuilt.oracleId_eq]
          intro heq
          exact hfresh (heq ▸ List.mem_map_of_mem hregistered)
        rw [find?_concat]
        simp only [hother, decide_false, Bool.false_eq_true, if_false]
        cases s.adapters.find? fun adapter => adapter.oracleId = selected.id <;> rfl
    · refine ⟨hof, ?_⟩
      rcases MongoOracleFinderRepo.getOracle_cases partyType currency s.world.finder with
        ⟨previous, hprevious, hanswer⟩ | ⟨hnone, error, herror, -⟩
      · rcases hfits with hnone | ⟨other, hother, hcurrencies⟩
        · cases hprevious.symm.trans hnone
        · obtain rfl := Option.some.inj (hprevious.symm.trans hother)
          exact Or.inr ⟨previous, hanswer, hcurrencies⟩
      · refine Or.inl fun previous hprevious => ?_
        cases herror.symm.trans hprevious
  · rw [hperform] at hadded
    cases hadded

/-- The adapters of one id stay away until an oracle with that id is added. -/
theorem not_mem_loadedIds_serviceStep {s : RunningService T R} {a : ServiceStep T R} {id : String}
    (hgone : id ∉ s.loadedIds)
    (hadds : ¬ settings.Adds participantService (s.found a) id a.call) :
    id ∉ (settings.serviceStep participantService s a).loadedIds := by
  unfold serviceStep
  rcases hcall : a.call with message | accountIdentifier | ⟨oracle, randomUUID⟩ | removed
  · exact hgone
  · exact hgone
  · rw [hcall] at hadds
    dsimp only
    rcases settings.addOracle_cases participantService (s.found a).adapters (s.found a).world
      oracle (randomUUID.draw (s.found a).registeredIds) with
      ⟨-, error, hadd⟩ | ⟨-, adapter, hbuilt, hadd⟩
    · rw [perform, hadd]
      exact hgone
    · rcases hinit : adapter.init _ with ⟨error | _, w⟩
      · rw [perform, hadd, hinit]
        exact hgone
      · rw [hinit] at hadd
        rw [perform, hadd]
        intro hmem
        obtain ⟨other, hother, hid⟩ := List.mem_map.mp hmem
        rcases List.mem_append.mp hother with hold | hnew
        · exact hgone (List.mem_map.mpr ⟨other, hold, hid⟩)
        · obtain rfl := List.mem_singleton.mp hnew
          refine hadds (?_ : _ = Except.ok id)
          rw [hadd, ← hid, hbuilt.oracleId_eq]
  · dsimp only
    rcases settings.perform_removeOracle_cases participantService (s.found a) removed with
      ⟨-, error, hperform⟩ | ⟨-, hperform⟩
    · rw [hperform]
      exact hgone
    · rw [hperform]
      intro hmem
      obtain ⟨adapter, hadapter, hid⟩ := List.mem_map.mp hmem
      exact hgone (List.mem_map.mpr ⟨adapter, (List.mem_filter.mp hadapter).1, hid⟩)

/-- An adapter that is not loaded is not asked. -/
theorem not_invokes_of_not_mem {s : RunningService T R} {id : String} (hgone : id ∉ s.loadedIds)
    (call : ServiceCall) : ¬ settings.Invokes participantService s id call := by
  cases call with
  | message message => exact fun h => hgone (mem_loadedIds_of_invokedByMessage h)
  | lookup accountIdentifier => exact fun h => hgone (mem_loadedIds_of_invokedByLookup h)
  | admin call => exact fun h => h

theorem not_mem_loadedIds_removeOracle {s : RunningService T R} {id : String}
    (hremoved : (settings.perform participantService s (.removeOracle id)).1 = .ok ()) :
    id ∉ (settings.perform participantService s (.removeOracle id)).2.loadedIds := by
  rcases settings.perform_removeOracle_cases participantService s id with
    ⟨-, error, hperform⟩ | ⟨-, hperform⟩
  · rw [hperform] at hremoved
    cases hremoved
  · rw [hperform]
    intro hmem
    obtain ⟨adapter, hadapter, hid⟩ := List.mem_map.mp hmem
    have hne := (List.mem_filter.mp hadapter).2
    exact of_decide_eq_true hne hid

variable (settings participantService) in
/-- **The routing is stable.** A removal leaves the selection alone unless the selected
oracle is removed; a successful registration moves it only where no oracle was selected,
or the new one has the currency asked for and the one before it had not; and after a
successful removal no message or lookup asks an adapter with the id before an oracle
with that id is added. -/
theorem routing_stable (s : RunningService T R) :
    (∀ (id : String) (partyType currency : JsString),
      (∀ oracle, (settings.selection participantService s partyType currency).1 =
        .ok (some oracle) → oracle.id ≠ id) →
      settings.selection participantService
          (settings.perform participantService s (.removeOracle id)).2 partyType currency =
        settings.selection participantService s partyType currency) ∧
    (∀ (oracle : AddOracleDTO) (randomUUID : UuidSource) (partyType currency : JsString),
      (settings.perform participantService s (.addOracle oracle randomUUID)).1 = .ok () →
      settings.selection participantService
          (settings.perform participantService s (.addOracle oracle randomUUID)).2 partyType
            currency ≠ settings.selection participantService s partyType currency →
      (newOracle oracle (randomUUID.draw s.registeredIds)).IsOf partyType ∧
        ((∀ previous, (settings.selection participantService s partyType currency).1 ≠
            .ok (some previous)) ∨
          ∃ previous, (settings.selection participantService s partyType currency).1 =
              .ok (some previous) ∧
            previous.currency ≠ currency ∧
            (newOracle oracle (randomUUID.draw s.registeredIds)).currency = currency)) ∧
    ∀ id, (settings.perform participantService s (.removeOracle id)).1 = .ok () →
      ∀ steps, Along (settings.serviceStep participantService)
          (fun s a => ¬ settings.Adds participantService (s.found a) id a.call)
          (settings.perform participantService s (.removeOracle id)).2 steps →
        Along (settings.serviceStep participantService)
          (fun s a => ¬ settings.Invokes participantService (s.found a) id a.call)
          (settings.perform participantService s (.removeOracle id)).2 steps := by
  refine ⟨fun id partyType currency hother => selection_removeOracle hother,
    fun oracle randomUUID partyType currency hadded hmoved => selection_addOracle hadded hmoved,
    fun id hremoved steps => ?_⟩
  exact along_of_invariant (fun s => id ∉ s.loadedIds)
    (fun s a hgone _ => not_invokes_of_not_mem (s := s.found a) hgone a.call)
    (fun s a hgone hadds => not_mem_loadedIds_serviceStep hgone hadds)
    steps _ (not_mem_loadedIds_removeOracle hremoved)

/-- A service with one built-in oracle. -/
def sampleRegistered : RunningService ℕ Unit :=
  (sampleSettings.perform sampleParticipants ⟨[], sampleWorld⟩ (.addOracle
    ⟨.str "1", .str "builtin", .builtin, .str "MSISDN", .null, .null⟩ UuidSource.zeros)).2

/-- Once the only oracle is removed, a lookup does not ask its adapter. -/
theorem routing_stable_removed :
    Along (sampleSettings.serviceStep sampleParticipants)
      (fun s a => ¬ sampleSettings.Invokes sampleParticipants (s.found a) "1" a.call)
      (sampleSettings.perform sampleParticipants sampleRegistered (.removeOracle "1")).2
      [⟨id, .lookup ⟨"MSISDN", "27713803912", none, none⟩⟩] :=
  (routing_stable sampleSettings sampleParticipants sampleRegistered).2.2 "1" rfl _
    ⟨fun h => h, trivial⟩

end OracleAdapterFactory

end AccountLookup
