/-
# Released connections

Runs of a service process from its start-up to its shutdown. Nothing ever closes a Redis
connection, and nothing closes the Mongo connection of an adapter that is not loaded, so a
process that connects one built-in adapter leaks. A removal destroys no adapter.
-/

import AccountLookup.Implementations.BuiltinRuns
import AccountLookup.Service.ConnectedAdapters

namespace AccountLookup

open Library Library.Transition

namespace OracleAdapterFactory

open AccountLookupAggregate

variable {T R : Type} [LinearOrder T] [Add T] (settings : OracleAdapterFactory T R)
  (participantService : IParticipantServiceAdapter R)

/-- Every connection that has been opened is closed. -/
def NothingOpen (w : ConnectedWorld T R) : Prop := w.mongo = [] ∧ w.redis = []

/-- If the call is a successful removal, it has destroyed the adapters that it removed. -/
def DestroysRemoved (s : ConnectedService T R) (call : AdminCall) : Prop :=
  ∀ id, call = .removeOracle id →
    (settings.performConnected participantService s call).1 = .ok () →
    ∀ built, ∀ adapter ∈ s.adapters, settings.IsBuilt built adapter → adapter.oracleId = id →
      built.number ∈ (settings.performConnected participantService s call).2.world.destroyed

/-- The call registers a built-in oracle whose adapter gets connected to Mongo. -/
def ConnectsMongo (s : ConnectedService T R) : AdminCall → Prop
  | .addOracle oracle randomUUID =>
    Registers s.world.service.finder oracle (randomUUID.draw s.registeredIds) ∧
      oracle.type = .builtin ∧ s.world.service.builtin.failure .mongoConnect = none
  | .removeOracle _ => False

/-- The call removes an oracle whose adapter is loaded. -/
def RemovesLoaded (s : ConnectedService T R) : AdminCall → Prop
  | .addOracle _ _ => False
  | .removeOracle id =>
    Removes s.world.service.finder id ∧ ∃ adapter ∈ s.adapters, adapter.oracleId = id

/-- Every loaded adapter has been built, and none has been destroyed. -/
structure Owned (s : ConnectedService T R) : Prop where
  built : ∀ adapter ∈ s.adapters, ∃ built, settings.IsBuilt built adapter ∧
    built.number < s.world.created
  destroyed : s.world.destroyed = []

/-- A connection is open that no `destroy` will close: to Redis, or to Mongo by an adapter
that is not loaded. -/
def Leaks (s : ConnectedService T R) : Prop :=
  ∃ number, number ∈ s.world.redis ∨ number ∈ s.world.mongo ∧ number < s.world.created ∧
    ∀ adapter ∈ s.adapters, ∃ built, settings.IsBuilt built adapter ∧ built.number ≠ number

variable {settings participantService} {s : ConnectedService T R}

theorem Leaks.not_nothingOpen (h : settings.Leaks s) : ¬ NothingOpen s.world := by
  rintro ⟨hmongo, hredis⟩
  obtain ⟨number, hopen | ⟨hopen, -⟩⟩ := h
  · rw [hredis] at hopen
    cases hopen
  · rw [hmongo] at hopen
    cases hopen

section Initialised

variable (service : ServiceWorld T R) {oracle : Oracle}
  {adapter : IOracleProviderAdapter (ConnectedWorld T R)}

/-- What the service is like after the initialisation of its next adapter. -/
theorem initialised_cases (hbuilt : settings.IsBuilt ⟨s.world.created, oracle⟩ adapter) :
    (¬ (oracle.type = .builtin ∧ service.builtin.failure .mongoConnect = none) ∧
        ((s.built service).initialised adapter).2.world = (s.built service).world ∧
        (((s.built service).initialised adapter).2.adapters = s.adapters ∨
          ((s.built service).initialised adapter).2.adapters = s.adapters ++ [adapter])) ∨
      (oracle.type = .builtin ∧ service.builtin.failure .mongoConnect = none) ∧
        ((∃ error, (s.built service).initialised adapter = (.error error,
            ⟨s.adapters, { (s.built service).world with
              mongo := s.world.created :: s.world.mongo }⟩)) ∨
          (s.built service).initialised adapter = (.ok (),
            ⟨s.adapters ++ [adapter], { (s.built service).world with
              mongo := s.world.created :: s.world.mongo
              redis := s.world.created :: s.world.redis }⟩)) := by
  have hopened := hbuilt.opened (s.built service).world
  unfold ConnectedService.initialised
  generalize adapter.init (s.built service).world = after at hopened
  obtain ⟨outcome, world⟩ := after
  cases hopened with
  | remote outcome htype =>
    refine Or.inl ⟨fun h => htype h.1, ?_⟩
    cases outcome with
    | error error => exact ⟨rfl, Or.inl rfl⟩
    | ok value => exact ⟨rfl, Or.inr rfl⟩
  | none error hmongo => exact Or.inl ⟨fun h => hmongo h.2, rfl, Or.inl rfl⟩
  | mongo error htype hmongo => exact Or.inr ⟨⟨htype, hmongo⟩, Or.inl ⟨error, rfl⟩⟩
  | both htype hmongo => exact Or.inr ⟨⟨htype, hmongo⟩, Or.inr rfl⟩

/-- A built-in adapter that is loaded has been connected. -/
theorem connected_of_ok (hbuilt : settings.IsBuilt ⟨s.world.created, oracle⟩ adapter)
    (htype : oracle.type = .builtin) {w : ConnectedWorld T R}
    (hinit : adapter.init (s.built service).world = (.ok (), w)) :
    service.builtin.failure .mongoConnect = none := by
  have hopened := hbuilt.opened (s.built service).world
  rw [hinit] at hopened
  cases hopened with
  | remote outcome hother => exact absurd htype hother
  | both _ hmongo => exact hmongo

theorem initialised_adapters (hbuilt : settings.IsBuilt ⟨s.world.created, oracle⟩ adapter) :
    ∀ other ∈ ((s.built service).initialised adapter).2.adapters,
      other ∈ s.adapters ∨ other = adapter := by
  intro other hother
  have hadapters : ((s.built service).initialised adapter).2.adapters = s.adapters ∨
      ((s.built service).initialised adapter).2.adapters = s.adapters ++ [adapter] := by
    rcases initialised_cases service hbuilt with
      ⟨-, -, hadapters⟩ | ⟨-, ⟨error, hafter⟩ | hafter⟩
    · exact hadapters
    · exact Or.inl (by rw [hafter])
    · exact Or.inr (by rw [hafter])
  rcases hadapters with hadapters | hadapters
  · rw [hadapters] at hother
    exact Or.inl hother
  · rw [hadapters] at hother
    exact (List.mem_append.mp hother).imp id List.mem_singleton.mp

theorem initialised_created (hbuilt : settings.IsBuilt ⟨s.world.created, oracle⟩ adapter) :
    ((s.built service).initialised adapter).2.world.created = s.world.created + 1 ∧
      ((s.built service).initialised adapter).2.world.destroyed = s.world.destroyed := by
  rcases initialised_cases service hbuilt with
    ⟨-, hworld, -⟩ | ⟨-, ⟨error, hafter⟩ | hafter⟩
  · rw [hworld]
    exact ⟨rfl, rfl⟩
  · rw [hafter]
    exact ⟨rfl, rfl⟩
  · rw [hafter]
    exact ⟨rfl, rfl⟩

theorem Owned.initialised (h : settings.Owned s)
    (hbuilt : settings.IsBuilt ⟨s.world.created, oracle⟩ adapter) :
    settings.Owned ((s.built service).initialised adapter).2 := by
  obtain ⟨hcreated, hdestroyed⟩ := initialised_created service hbuilt
  refine ⟨fun other hother => ?_, hdestroyed.trans h.destroyed⟩
  rw [hcreated]
  rcases initialised_adapters service hbuilt other hother with hold | rfl
  · obtain ⟨built, hisBuilt, hlt⟩ := h.built other hold
    exact ⟨built, hisBuilt, Nat.lt_succ_of_lt hlt⟩
  · exact ⟨_, hbuilt, Nat.lt_succ_self _⟩

theorem Leaks.initialised (h : settings.Leaks s)
    (hbuilt : settings.IsBuilt ⟨s.world.created, oracle⟩ adapter) :
    settings.Leaks ((s.built service).initialised adapter).2 := by
  obtain ⟨number, hopen⟩ := h
  have hkept : (number ∈ s.world.redis →
        number ∈ ((s.built service).initialised adapter).2.world.redis) ∧
      (number ∈ s.world.mongo →
        number ∈ ((s.built service).initialised adapter).2.world.mongo) := by
    rcases initialised_cases service hbuilt with
      ⟨-, hworld, -⟩ | ⟨-, ⟨error, hafter⟩ | hafter⟩
    · rw [hworld]
      exact ⟨id, id⟩
    · rw [hafter]
      exact ⟨id, List.mem_cons_of_mem _⟩
    · rw [hafter]
      exact ⟨List.mem_cons_of_mem _, List.mem_cons_of_mem _⟩
  refine ⟨number, hopen.imp hkept.1 ?_⟩
  rintro ⟨hmongo, hlt, hothers⟩
  rw [(initialised_created service hbuilt).1]
  refine ⟨hkept.2 hmongo, Nat.lt_succ_of_lt hlt, fun other hother => ?_⟩
  rcases initialised_adapters service hbuilt other hother with hold | rfl
  · exact hothers other hold
  · exact ⟨_, hbuilt, Nat.ne_of_gt hlt⟩

/-- A new connection to Mongo leaks, whether the adapter is then loaded or not. -/
theorem Owned.leaks_initialised (h : settings.Owned s)
    (hbuilt : settings.IsBuilt ⟨s.world.created, oracle⟩ adapter)
    (hconnects : oracle.type = .builtin ∧ service.builtin.failure .mongoConnect = none) :
    settings.Leaks ((s.built service).initialised adapter).2 := by
  refine ⟨s.world.created, ?_⟩
  rcases initialised_cases service hbuilt with
    ⟨hnot, -⟩ | ⟨-, ⟨error, hafter⟩ | hafter⟩
  · exact absurd hconnects hnot
  · rw [hafter]
    refine Or.inr ⟨List.mem_cons_self .., Nat.lt_succ_self _, fun other hother => ?_⟩
    obtain ⟨built, hisBuilt, hlt⟩ := h.built other hother
    exact ⟨built, hisBuilt, Nat.ne_of_lt hlt⟩
  · rw [hafter]
    exact Or.inl (List.mem_cons_self ..)

theorem nothingOpen_initialised (h : NothingOpen s.world)
    (hbuilt : settings.IsBuilt ⟨s.world.created, oracle⟩ adapter)
    (hnot : ¬ (oracle.type = .builtin ∧ service.builtin.failure .mongoConnect = none)) :
    NothingOpen ((s.built service).initialised adapter).2.world := by
  rcases initialised_cases service hbuilt with ⟨-, hworld, -⟩ | ⟨hconnects, -⟩
  · rw [hworld]
    exact h
  · exact absurd hconnects hnot

end Initialised

variable (settings) in
/-- What a call can do to the adapters and their connections. -/
inductive Performed (s : ConnectedService T R) (call : AdminCall) : ConnectedService T R → Prop
  /-- The connections stay, and no adapter comes to the loaded ones. -/
  | forgets (after : ConnectedService T R) (hadapters : ∀ a ∈ after.adapters, a ∈ s.adapters)
      (hcreated : s.world.created ≤ after.world.created)
      (hmongo : after.world.mongo = s.world.mongo) (hredis : after.world.redis = s.world.redis)
      (hdestroyed : after.world.destroyed = s.world.destroyed)
      (hconnects : ¬ ConnectsMongo s call) : Performed s call after
  /-- The adapter of a newly registered oracle is initialised. -/
  | initialises (service : ServiceWorld T R) {oracle : Oracle}
      {adapter : IOracleProviderAdapter (ConnectedWorld T R)}
      (hbuilt : settings.IsBuilt ⟨s.world.created, oracle⟩ adapter)
      (hconnects : ConnectsMongo s call ↔
        oracle.type = .builtin ∧ service.builtin.failure .mongoConnect = none) :
      Performed s call ((s.built service).initialised adapter).2

variable (settings participantService) in
theorem performed_performConnected (s : ConnectedService T R) (call : AdminCall) :
    settings.Performed s call (settings.performConnected participantService s call).2 := by
  cases call with
  | addOracle oracle randomUUID =>
    rcases settings.performConnected_addOracle_cases participantService s oracle randomUUID with
      ⟨hnot, created, hle, hperform⟩ | ⟨hregisters, adapter, service, hbuilt, hservice, hperform⟩
    · rw [hperform]
      exact .forgets _ (fun _ h => h) hle rfl rfl rfl fun hconnects => hnot hconnects.1
    · rw [hperform]
      refine .initialises service hbuilt ?_
      rw [hservice]
      exact and_iff_right hregisters
  | removeOracle id =>
    rcases settings.performConnected_removeOracle_cases participantService s id with
      ⟨-, error, hperform⟩ | ⟨-, hperform⟩
    · rw [hperform]
      exact .forgets s (fun _ h => h) le_rfl rfl rfl rfl fun hconnects => (by cases hconnects)
    · rw [hperform]
      exact .forgets _ (fun _ h => (List.mem_filter.mp h).1) le_rfl rfl rfl rfl
        fun hconnects => (by cases hconnects)

variable {call : AdminCall} {after : ConnectedService T R}

theorem Owned.performed (h : settings.Owned s) (hperformed : settings.Performed s call after) :
    settings.Owned after := by
  cases hperformed with
  | forgets _ hadapters hcreated _ _ hdestroyed =>
    refine ⟨fun adapter hadapter => ?_, hdestroyed.trans h.destroyed⟩
    obtain ⟨built, hisBuilt, hlt⟩ := h.built adapter (hadapters adapter hadapter)
    exact ⟨built, hisBuilt, hlt.trans_le hcreated⟩
  | initialises service hbuilt => exact h.initialised service hbuilt

theorem Leaks.performed (h : settings.Leaks s) (hperformed : settings.Performed s call after) :
    settings.Leaks after := by
  cases hperformed with
  | forgets _ hadapters hcreated hmongo hredis =>
    obtain ⟨number, hopen⟩ := h
    refine ⟨number, ?_⟩
    rw [hmongo, hredis]
    exact hopen.imp_right fun ⟨hmongo, hlt, hothers⟩ =>
      ⟨hmongo, hlt.trans_le hcreated, fun adapter hadapter =>
        hothers adapter (hadapters adapter hadapter)⟩
  | initialises service hbuilt => exact h.initialised service hbuilt

theorem nothingOpen_performed (h : NothingOpen s.world)
    (hperformed : settings.Performed s call after) (hnot : ¬ ConnectsMongo s call) :
    NothingOpen after.world := by
  cases hperformed with
  | forgets _ _ _ hmongo hredis => exact ⟨hmongo.trans h.1, hredis.trans h.2⟩
  | initialises service hbuilt hconnects =>
    exact nothingOpen_initialised service h hbuilt fun hbuiltin => hnot (hconnects.mpr hbuiltin)

theorem Owned.leaks_performed (h : settings.Owned s)
    (hperformed : settings.Performed s call after) (hcall : ConnectsMongo s call) :
    settings.Leaks after := by
  cases hperformed with
  | forgets _ _ _ _ _ _ hnot => exact absurd hcall hnot
  | initialises service hbuilt hconnects =>
    exact h.leaks_initialised service hbuilt (hconnects.mp hcall)

/-- **One removal.** It destroys what it removes exactly when nothing loaded is removed. -/
theorem destroysRemoved_iff (h : settings.Owned s) (call : AdminCall) :
    settings.DestroysRemoved participantService s call ↔ ¬ RemovesLoaded s call := by
  cases call with
  | addOracle oracle randomUUID => exact iff_of_true (fun _ h => (by cases h)) id
  | removeOracle id =>
    have hdestroyed := (h.performed
      (settings.performed_performConnected participantService s (.removeOracle id))).destroyed
    unfold DestroysRemoved
    rw [hdestroyed]
    rcases settings.performConnected_removeOracle_cases participantService s id with
      ⟨hnot, error, hperform⟩ | ⟨hremoves, hperform⟩
    · rw [hperform]
      exact iff_of_true (fun _ _ herror => (by cases herror)) fun hloaded => hnot hloaded.1
    · rw [hperform]
      constructor
      · rintro hall ⟨-, adapter, hadapter, hid⟩
        obtain ⟨built, hisBuilt, -⟩ := h.built adapter hadapter
        exact absurd (hall id rfl rfl built adapter hadapter hisBuilt hid) List.not_mem_nil
      · rintro hnot _ ⟨⟩ - built adapter hadapter - hid
        exact absurd ⟨hremoves, adapter, hadapter, hid⟩ hnot

/-- The start-up loop: what is open stays open, and a built-in oracle leaks. -/
theorem loadAdapters_connections :
    ∀ {oracles : List Oracle} {s : ConnectedService T R}
      {agg : AccountLookupAggregate (ConnectedWorld T R)} {w : ConnectedWorld T R},
      (settings.loadedConnected participantService s.adapters).loadAdapters oracles s.world =
        (.ok (), agg, w) →
      settings.Owned s →
      settings.Owned ⟨agg.oracleProvidersAdapters, w⟩ ∧
        (settings.Leaks s ∨ (∃ oracle ∈ oracles, oracle.type = .builtin) →
          settings.Leaks ⟨agg.oracleProvidersAdapters, w⟩) ∧
        (NothingOpen s.world → (∀ oracle ∈ oracles, oracle.type ≠ .builtin) → NothingOpen w) := by
  intro oracles
  induction oracles with
  | nil =>
    intro s agg w hload howned
    obtain ⟨-, rfl, rfl⟩ : True ∧ _ = agg ∧ s.world = w := by
      obtain ⟨-, hrest⟩ := Prod.mk.inj hload
      exact ⟨trivial, (Prod.mk.inj hrest).1, (Prod.mk.inj hrest).2⟩
    refine ⟨howned, ?_, fun hopen _ => hopen⟩
    rintro (hleaks | ⟨oracle, horacle, -⟩)
    · exact hleaks
    · cases horacle
  | cons oracle oracles ih =>
    intro s agg w hload howned
    by_cases hsupported : ∀ value, oracle.type ≠ .other value
    · obtain ⟨base, hbase⟩ := settings.builtFor_of_supported hsupported
      have hfactory : (settings.loadedConnected participantService
          s.adapters).oracleProvidersFactory.create oracle s.world = _ :=
        settings.createConnected_of_builtFor hbase s.world
      have hbuilt : settings.IsBuilt ⟨s.world.created, oracle⟩
          ((BuiltAdapter.mk s.world.created oracle).connected base) := ⟨base, hbase, rfl⟩
      have hworld : (s.built s.world.service).world =
          { s.world with created := s.world.created + 1 } := rfl
      rw [loadAdapters, hfactory] at hload
      dsimp only at hload
      rw [← hworld] at hload
      cases hinit : ((BuiltAdapter.mk s.world.created oracle).connected base).init
          (s.built s.world.service).world with
      | mk outcome world =>
        rw [hinit] at hload
        cases outcome with
        | error error => cases hload
        | ok value =>
          have hinitialised : ((s.built s.world.service).initialised
              ((BuiltAdapter.mk s.world.created oracle).connected base)).2 =
                ⟨s.adapters ++ [(BuiltAdapter.mk s.world.created oracle).connected base],
                  world⟩ := by
            rw [ConnectedService.initialised, hinit]
            rfl
          have howned' := howned.initialised s.world.service hbuilt
          rw [hinitialised] at howned'
          obtain ⟨hlater, hleaks, hopen⟩ := ih (s := ⟨_, world⟩) hload howned'
          refine ⟨hlater, fun h => hleaks ?_, fun hnothing hremote => hopen ?_ fun other hother =>
            hremote other (List.mem_cons_of_mem _ hother)⟩
          · rcases h with hbefore | ⟨builtin, hmem, htype⟩
            · have hafter := hbefore.initialised s.world.service hbuilt
              rw [hinitialised] at hafter
              exact Or.inl hafter
            · rcases List.mem_cons.mp hmem with rfl | hmem
              · have hafter := howned.leaks_initialised s.world.service hbuilt
                  ⟨htype, connected_of_ok s.world.service hbuilt htype hinit⟩
                rw [hinitialised] at hafter
                exact Or.inl hafter
              · exact Or.inr ⟨builtin, hmem, htype⟩
          · have hafter := nothingOpen_initialised s.world.service hnothing hbuilt
              fun hconnects => hremote oracle (List.mem_cons_self ..) hconnects.1
            rw [hinitialised] at hafter
            exact hafter
    · simp only [not_forall, not_not] at hsupported
      obtain ⟨value, htype⟩ := hsupported
      obtain ⟨error, hcreate⟩ := settings.create_of_other htype s.world.service
      have hfactory : (settings.loadedConnected participantService
          s.adapters).oracleProvidersFactory.create oracle s.world = (.error error, s.world) := by
        simp only [loadedConnected, createConnected, hcreate]
      rw [loadAdapters, hfactory] at hload
      cases hload

/-- Shutting down closes no connection that leaks, and opens none. -/
theorem destroyAdapters_connections :
    ∀ {adapters : List (IOracleProviderAdapter (ConnectedWorld T R))} {w : ConnectedWorld T R},
      (∀ adapter ∈ adapters, ∃ built, settings.IsBuilt built adapter) →
      (destroyAdapters adapters w).2.redis = w.redis ∧
        (NothingOpen w → NothingOpen (destroyAdapters adapters w).2) ∧
        ∀ number ∈ w.mongo,
          (∀ adapter ∈ adapters, ∃ built, settings.IsBuilt built adapter ∧
            built.number ≠ number) →
          number ∈ (destroyAdapters adapters w).2.mongo := by
  intro adapters
  induction adapters with
  | nil =>
    intro w _
    exact ⟨rfl, id, fun number hnumber _ => hnumber⟩
  | cons adapter adapters ih =>
    intro w hall
    obtain ⟨built, hbuilt⟩ := hall adapter (List.mem_cons_self ..)
    obtain ⟨hredis, -⟩ := hbuilt.destroy_connections w
    have hmongo : ∀ number ∈ w.mongo, ∀ other, settings.IsBuilt other adapter →
        other.number ≠ number → number ∈ (adapter.destroy w).2.mongo := by
      intro number hnumber other hother hne
      rcases (hother.destroy_connections w).2 with hsame | hfilter
      · rw [hsame]
        exact hnumber
      · rw [hfilter]
        exact List.mem_filter.mpr ⟨hnumber, decide_eq_true hne.symm⟩
    have hnothing : NothingOpen w → NothingOpen (adapter.destroy w).2 := by
      rintro ⟨hmongoNil, hredisNil⟩
      refine ⟨?_, hredis.trans hredisNil⟩
      rcases (hbuilt.destroy_connections w).2 with hsame | hfilter
      · rw [hsame, hmongoNil]
      · rw [hfilter, hmongoNil, List.filter_nil]
    unfold destroyAdapters
    rcases hdestroy : adapter.destroy w with ⟨error | value, after⟩
    · rw [hdestroy] at hredis hmongo hnothing
      refine ⟨hredis, hnothing, fun number hnumber hothers => ?_⟩
      obtain ⟨other, hother, hne⟩ := hothers adapter (List.mem_cons_self ..)
      exact hmongo number hnumber other hother hne
    · rw [hdestroy] at hredis hmongo hnothing
      obtain ⟨hredisRest, hnothingRest, hmongoRest⟩ := ih (w := after) fun other hother =>
        hall other (List.mem_cons_of_mem _ hother)
      refine ⟨hredisRest.trans hredis, fun h => hnothingRest (hnothing h),
        fun number hnumber hothers => ?_⟩
      obtain ⟨other, hother, hne⟩ := hothers adapter (List.mem_cons_self ..)
      exact hmongoRest number (hmongo number hnumber other hother hne) fun later hlater =>
        hothers later (List.mem_cons_of_mem _ hlater)

theorem Owned.during (h : settings.Owned s) (outage : Outage) :
    settings.Owned (s.during outage) := ⟨h.built, h.destroyed⟩

theorem Leaks.during (h : settings.Leaks s) (outage : Outage) :
    settings.Leaks (s.during outage) := h

theorem Owned.step (h : settings.Owned s) (a : AdminStep) :
    settings.Owned (settings.connectedStep participantService s a) :=
  (h.during a.outage).performed (settings.performed_performConnected participantService _ a.call)

theorem Leaks.step (h : settings.Leaks s) (a : AdminStep) :
    settings.Leaks (settings.connectedStep participantService s a) :=
  (h.during a.outage).performed (settings.performed_performConnected participantService _ a.call)

theorem nothingOpen_step (h : NothingOpen s.world) {a : AdminStep}
    (hnot : ¬ ConnectsMongo (s.during a.outage) a.call) :
    NothingOpen (settings.connectedStep participantService s a).world :=
  have hduring : NothingOpen (s.during a.outage).world := h
  nothingOpen_performed hduring (settings.performed_performConnected participantService _ a.call)
    hnot

theorem Owned.leaks_step (h : settings.Owned s) {a : AdminStep}
    (hconnects : ConnectsMongo (s.during a.outage) a.call) :
    settings.Leaks (settings.connectedStep participantService s a) :=
  (h.during a.outage).leaks_performed
    (settings.performed_performConnected participantService _ a.call) hconnects

/-- What a successful start-up leaves behind. -/
theorem init_connections {service : ServiceWorld T R}
    {agg : AccountLookupAggregate (ConnectedWorld T R)} {w : ConnectedWorld T R}
    (hinit : (settings.loadedConnected participantService []).init (.fresh service) =
      (.ok (), agg, w)) :
    settings.Owned ⟨agg.oracleProvidersAdapters, w⟩ ∧
      ((∃ oracle ∈ service.finder.oracles, oracle.type = .builtin) →
        settings.Leaks ⟨agg.oracleProvidersAdapters, w⟩) ∧
      ((∀ oracle ∈ service.finder.oracles, oracle.type ≠ .builtin) → NothingOpen w) := by
  simp only [init, loadedConnected, aggregate, IOracleFinder.on, Call.on,
    MongoOracleFinderRepo.finder, MongoOracleFinderRepo.init, MongoOracleFinderRepo.getAllOracles,
    ServiceWorld.finderPart, ConnectedWorld.servicePart, ConnectedWorld.fresh] at hinit
  cases hconnect : service.finder.failure .connect with
  | some message =>
    rw [hconnect] at hinit
    cases hinit
  | none =>
    simp only [hconnect] at hinit
    cases hfind : service.finder.failure .find with
    | some message =>
      rw [hfind] at hinit
      cases hinit
    | none =>
      simp only [hfind] at hinit
      have howned : settings.Owned ⟨[], ConnectedWorld.fresh service⟩ :=
        ⟨fun _ h => (by cases h), rfl⟩
      obtain ⟨hafter, hleaks, hnothing⟩ :=
        loadAdapters_connections (s := ⟨[], ConnectedWorld.fresh service⟩) hinit howned
      exact ⟨hafter, fun h => hleaks (Or.inr h), hnothing ⟨rfl, rfl⟩⟩

/-- Shutting down leaves nothing open exactly when nothing has leaked, if one of the two is
the case. -/
theorem nothingOpen_destroy_iff {w : ConnectedWorld T R} (h : settings.Owned s)
    (hcases : NothingOpen s.world ∨ settings.Leaks s)
    (hdestroy : (settings.loadedConnected participantService s.adapters).destroy s.world =
      (.ok (), w)) : NothingOpen w ↔ NothingOpen s.world := by
  have hfinder : ∃ outcome service, (settings.loadedConnected participantService
      s.adapters).oracleFinder.destroy s.world =
        (outcome, { s.world with service := service }) := ⟨_, _, rfl⟩
  obtain ⟨outcome, service, houtcome⟩ := hfinder
  unfold AccountLookupAggregate.destroy at hdestroy
  rw [houtcome] at hdestroy
  cases outcome with
  | error error => cases hdestroy
  | ok value =>
    dsimp only at hdestroy
    have hbuilt : ∀ adapter ∈ s.adapters, ∃ built, settings.IsBuilt built adapter :=
      fun adapter hadapter => (h.built adapter hadapter).imp fun _ hbuilt => hbuilt.1
    obtain ⟨hredis, hnothing, hmongo⟩ :=
      destroyAdapters_connections (w := { s.world with service := service }) hbuilt
    have hafter : (destroyAdapters s.adapters { s.world with service := service }).2 = w :=
      congrArg Prod.snd hdestroy
    rw [hafter] at hredis hnothing hmongo
    refine ⟨fun hopen => ?_, hnothing⟩
    rcases hcases with hbefore | ⟨number, hleak | ⟨hleak, -, hothers⟩⟩
    · exact hbefore
    · have hstill : number ∈ w.redis := hredis ▸ hleak
      rw [hopen.2] at hstill
      cases hstill
    · have hstill := hmongo number hleak hothers
      rw [hopen.1] at hstill
      cases hstill

variable (participantService) in
/-- A run leaks, or leaves nothing open. -/
theorem nothingOpen_or_leaks_run (howned : settings.Owned s)
    (hcases : NothingOpen s.world ∨ settings.Leaks s) (steps : List AdminStep) :
    settings.Owned (run (settings.connectedStep participantService) s steps) ∧
      (NothingOpen (run (settings.connectedStep participantService) s steps).world ∨
        settings.Leaks (run (settings.connectedStep participantService) s steps)) := by
  refine run_invariant (settings.connectedStep participantService)
    (fun s => settings.Owned s ∧ (NothingOpen s.world ∨ settings.Leaks s)) (fun s a h => ?_)
    steps s ⟨howned, hcases⟩
  obtain ⟨howned, hnothing | hleaks⟩ := h
  · by_cases hconnects : ConnectsMongo (s.during a.outage) a.call
    · exact ⟨howned.step a, Or.inr (howned.leaks_step hconnects)⟩
    · exact ⟨howned.step a, Or.inl (nothingOpen_step hnothing hconnects)⟩
  · exact ⟨howned.step a, Or.inr (hleaks.step a)⟩

variable (participantService) in
/-- A run that starts with nothing open ends so exactly when no call connects to Mongo. -/
theorem nothingOpen_run_iff (howned : settings.Owned s) (hnothing : NothingOpen s.world)
    (steps : List AdminStep) :
    NothingOpen (run (settings.connectedStep participantService) s steps).world ↔
      Along (settings.connectedStep participantService)
        (fun s a => ¬ ConnectsMongo (s.during a.outage) a.call) s steps := by
  have htrap : (settings.Owned (run (settings.connectedStep participantService) s steps) ∧
        NothingOpen (run (settings.connectedStep participantService) s steps).world) ↔
      Along (settings.connectedStep participantService)
        (fun s a => ¬ ConnectsMongo (s.during a.outage) a.call) s steps := by
    apply run_iff_along_of_trap (fun s => settings.Owned s ∧ NothingOpen s.world)
      (fun s => settings.Owned s ∧ settings.Leaks s)
    · intro s a h hnot
      exact ⟨h.1.step a, nothingOpen_step h.2 hnot⟩
    · intro s a h hconnects
      exact ⟨h.1.step a, h.1.leaks_step (not_not.mp hconnects)⟩
    · intro s a h
      exact ⟨h.1.step a, h.2.step a⟩
    · intro s h hbad
      exact hbad.2.not_nothingOpen h.2
    · exact ⟨howned, hnothing⟩
  rw [← htrap]
  exact (and_iff_right (nothingOpen_or_leaks_run participantService howned (Or.inl hnothing)
    steps).1).symm

variable (participantService) in
/-- Every removal of a run destroys what it removes exactly when none removes a loaded
adapter. -/
theorem destroysRemoved_run_iff (howned : settings.Owned s) (steps : List AdminStep) :
    Along (settings.connectedStep participantService)
        (fun s a => settings.DestroysRemoved participantService (s.during a.outage) a.call)
        s steps ↔
      Along (settings.connectedStep participantService)
        (fun s a => ¬ RemovesLoaded (s.during a.outage) a.call) s steps := by
  apply along_iff_of_exact settings.Owned
  · intro s a h
    exact destroysRemoved_iff (h.during a.outage) a.call
  · intro s a h _
    exact h.step a
  · exact howned

/-- **When connections are released.** In a process that starts up and shuts down, every
connection has been closed at the end and every removed adapter destroyed in time, exactly
when no adapter of a built-in oracle is ever connected to Mongo and no removal takes out a
loaded adapter. -/
theorem releasesConnections_iff (service : ServiceWorld T R)
    (agg : AccountLookupAggregate (ConnectedWorld T R)) (w w' : ConnectedWorld T R)
    (hinit : (settings.loadedConnected participantService []).init (.fresh service) =
      (.ok (), agg, w)) (steps : List AdminStep) (outage : Outage)
    (last : ConnectedService T R)
    (hlast : last = (run (settings.connectedStep participantService)
      ⟨agg.oracleProvidersAdapters, w⟩ steps).during outage)
    (hdestroy : (settings.loadedConnected participantService last.adapters).destroy last.world =
      (.ok (), w')) :
    (NothingOpen w' ∧
        Along (settings.connectedStep participantService)
          (fun s a => settings.DestroysRemoved participantService (s.during a.outage) a.call)
          ⟨agg.oracleProvidersAdapters, w⟩ steps) ↔
      ((∀ oracle ∈ service.finder.oracles, oracle.type ≠ .builtin) ∧
        Along (settings.connectedStep participantService)
          (fun s a => ¬ ConnectsMongo (s.during a.outage) a.call)
          ⟨agg.oracleProvidersAdapters, w⟩ steps) ∧
        Along (settings.connectedStep participantService)
          (fun s a => ¬ RemovesLoaded (s.during a.outage) a.call)
          ⟨agg.oracleProvidersAdapters, w⟩ steps := by
  obtain ⟨howned, hleaks, hnothing⟩ := init_connections hinit
  refine and_congr ?_ (destroysRemoved_run_iff participantService howned steps)
  have hend : (NothingOpen w ∨ settings.Leaks ⟨agg.oracleProvidersAdapters, w⟩) →
      (NothingOpen w' ↔ NothingOpen (run (settings.connectedStep participantService)
        ⟨agg.oracleProvidersAdapters, w⟩ steps).world) := by
    intro hcases
    obtain ⟨hownedLast, hcasesLast⟩ := nothingOpen_or_leaks_run participantService howned hcases
      steps
    have hcasesDuring : NothingOpen last.world ∨ settings.Leaks last :=
      hlast ▸ hcasesLast.imp_right fun h => h.during outage
    rw [nothingOpen_destroy_iff (hlast ▸ hownedLast.during outage) hcasesDuring hdestroy, hlast]
    rfl
  by_cases hbuiltin : ∀ oracle ∈ service.finder.oracles, oracle.type ≠ .builtin
  · rw [hend (Or.inl (hnothing hbuiltin)), and_iff_right hbuiltin]
    exact nothingOpen_run_iff participantService howned (hnothing hbuiltin) steps
  · simp only [not_forall, not_not] at hbuiltin
    obtain ⟨oracle, horacle, htype⟩ := hbuiltin
    have hleak := hleaks ⟨oracle, horacle, htype⟩
    rw [hend (Or.inr hleak)]
    have hleakLast := run_invariant (settings.connectedStep participantService) settings.Leaks
      (fun s a h => h.step a) steps _ hleak
    exact iff_of_false hleakLast.not_nothingOpen fun h => h.1 oracle horacle htype

/-! ## Two processes -/

/-- What a process comes to that starts up over a registry and shuts down at once. -/
def startedUp (oracles : List Oracle) :
    Except JsError Unit × AccountLookupAggregate (ConnectedWorld ℕ Unit) × ConnectedWorld ℕ Unit :=
  (sampleSettings.loadedConnected sampleParticipants []).init
    (.fresh (sampleWorld.withOracles oracles))

/-- A built-in oracle is loaded and destroyed, and its Redis connection stays open. -/
theorem not_forall_releasesConnections :
    ¬ ∀ (settings : OracleAdapterFactory ℕ Unit)
      (participantService : IParticipantServiceAdapter Unit) (service : ServiceWorld ℕ Unit)
      (agg : AccountLookupAggregate (ConnectedWorld ℕ Unit)) (w w' : ConnectedWorld ℕ Unit),
      (settings.loadedConnected participantService []).init (.fresh service) = (.ok (), agg, w) →
      ∀ (steps : List AdminStep) (outage : Outage) (last : ConnectedService ℕ Unit),
        last = (run (settings.connectedStep participantService)
          ⟨agg.oracleProvidersAdapters, w⟩ steps).during outage →
        (settings.loadedConnected participantService last.adapters).destroy last.world =
          (.ok (), w') → NothingOpen w' := by
  intro h
  have hopen := h sampleSettings sampleParticipants (sampleWorld.withOracles [sampleRepo.oracle])
    (startedUp [sampleRepo.oracle]).2.1 (startedUp [sampleRepo.oracle]).2.2
    ((sampleSettings.loadedConnected sampleParticipants
      (startedUp [sampleRepo.oracle]).2.1.oracleProvidersAdapters).destroy
        (startedUp [sampleRepo.oracle]).2.2).2 rfl [] Outage.none _ rfl rfl
  exact absurd hopen.2 (by decide)

/-- A remote oracle for account numbers. -/
def sampleAccountOracle : Oracle :=
  ⟨"2", .str "accounts", .remoteHttp, .str "ACCOUNT", .null, .str "http://localhost:3032"⟩

/-- With remote oracles only, of which another one is added, nothing is left open. -/
theorem releasesConnections_remote :
    let started := startedUp [sampleAccountOracle]
    let steps : List AdminStep := [⟨Outage.none, .addOracle
      ⟨.str "1", .str "remote", .remoteHttp, .str "MSISDN", .null, .str "http://localhost:3031"⟩
      UuidSource.zeros⟩]
    let last := (run (sampleSettings.connectedStep sampleParticipants)
      ⟨started.2.1.oracleProvidersAdapters, started.2.2⟩ steps).during Outage.none
    NothingOpen ((sampleSettings.loadedConnected sampleParticipants last.adapters).destroy
        last.world).2 ∧
      Along (sampleSettings.connectedStep sampleParticipants)
        (fun s a => sampleSettings.DestroysRemoved sampleParticipants (s.during a.outage) a.call)
        ⟨started.2.1.oracleProvidersAdapters, started.2.2⟩ steps := by
  intro started steps last
  refine (releasesConnections_iff (sampleWorld.withOracles [sampleAccountOracle]) started.2.1
    started.2.2 _ rfl steps Outage.none last rfl rfl).mpr ⟨⟨?_, ?_, trivial⟩, id, trivial⟩
  · intro oracle horacle
    obtain rfl := List.mem_singleton.mp horacle
    decide
  · exact fun h => (by cases h.2.1)

end OracleAdapterFactory

end AccountLookup
