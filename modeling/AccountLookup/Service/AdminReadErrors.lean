/-
# How the administration's reads fail

A read that goes through the oracles turns failures into two errors of the domain, one
for an oracle without an adapter and one for an adapter whose promise is rejected. The
search and the keywords of a remote oracle throw before there is a promise, so there
nothing is turned into anything. While a read waits, others go on changing the world:
calls may start and stop to fail between one oracle and the next.
-/

import AccountLookup.Domain.AdminReads
import AccountLookup.Service.AbsentFields
import AccountLookup.Service.AdminCoverage
import AccountLookup.Service.AssociationEvents

namespace AccountLookup

/-- A world, and how others change it before each of the next calls. -/
structure Shared (W : Type) where
  world : W
  changes : ℕ → W → W

namespace Shared

variable {W α : Type}

/-- The world as the next call finds it. -/
def now (v : Shared W) : W := v.changes 0 v.world

/-- The world after a call has left it like this. -/
def after (v : Shared W) (w : W) : Shared W := ⟨w, fun n => v.changes (n + 1)⟩

/-- The world after a call that leaves it alone. -/
def passed (v : Shared W) : Shared W := v.after v.now

/-- A call in the world as it finds it. -/
def call (plain : Call W α) : Call (Shared W) α := fun v =>
  ((plain v.now).1, v.after (plain v.now).2)

end Shared

def IOracleFinder.shared {W : Type} (finder : IOracleFinder W) : IOracleFinder (Shared W) where
  init := Shared.call finder.init
  destroy := Shared.call finder.destroy
  addOracle oracle := Shared.call (finder.addOracle oracle)
  removeOracle id := Shared.call (finder.removeOracle id)
  getAllOracles := Shared.call finder.getAllOracles
  getOracleById id := Shared.call (finder.getOracleById id)
  getOracleByName name := Shared.call (finder.getOracleByName name)
  getOracle partyType currency := Shared.call (finder.getOracle partyType currency)

def IOracleProviderAdapter.shared {W : Type} (adapter : IOracleProviderAdapter W) :
    IOracleProviderAdapter (Shared W) where
  oracleId := adapter.oracleId
  type := adapter.type
  init := Shared.call adapter.init
  destroy := Shared.call adapter.destroy
  healthCheck := Shared.call adapter.healthCheck
  getParticipantFspId partyType partyId partySubType currency :=
    Shared.call (adapter.getParticipantFspId partyType partyId partySubType currency)
  associateParticipant fspId partyType partyId partySubType currency :=
    Shared.call (adapter.associateParticipant fspId partyType partyId partySubType currency)
  disassociateParticipant fspId partyType partyId partySubType currency :=
    Shared.call (adapter.disassociateParticipant fspId partyType partyId partySubType currency)
  getAllAssociations := Shared.call adapter.getAllAssociations
  searchAssociations fspId partyId partyType partySubType currency pageIndex pageSize :=
    Shared.call (adapter.searchAssociations fspId partyId partyType partySubType currency
      pageIndex pageSize)
  getSearchKeywords := Shared.call adapter.getSearchKeywords

namespace AccountLookupAggregate

variable {W α : Type} (agg : AccountLookupAggregate W)

/-- The aggregate in a world that others change before each of its calls. -/
def shared : AccountLookupAggregate (Shared W) where
  oracleFinder := agg.oracleFinder.shared
  oracleProvidersFactory := ⟨fun oracle v =>
    let created := Shared.call (agg.oracleProvidersFactory.create oracle) v
    (created.1.map IOracleProviderAdapter.shared, created.2)⟩
  participantService := ⟨fun fspId => Shared.call (agg.participantService.getParticipantInfo fspId)⟩
  oracleProvidersAdapters := agg.oracleProvidersAdapters.map IOracleProviderAdapter.shared

theorem getOracleAdapter_shared (partyType currency : JsString) (v : Shared W) :
    agg.shared.getOracleAdapter partyType currency v =
      ((agg.getOracleAdapter partyType currency v.now).1.map IOracleProviderAdapter.shared,
        v.after (agg.getOracleAdapter partyType currency v.now).2) := by
  simp only [getOracleAdapter, shared, IOracleFinder.shared, Shared.call]
  rcases agg.oracleFinder.getOracle partyType currency v.now with ⟨_ | _ | oracle, w'⟩
  · rfl
  · rfl
  · have hfind : (agg.oracleProvidersAdapters.map IOracleProviderAdapter.shared).find?
        (fun adapter => adapter.oracleId = oracle.id) =
          (agg.oracleProvidersAdapters.find? fun adapter => adapter.oracleId = oracle.id).map
            IOracleProviderAdapter.shared := List.find?_map
    dsimp only
    rw [hfind]
    cases agg.oracleProvidersAdapters.find? fun adapter => adapter.oracleId = oracle.id with
    | none => rfl
    | some adapter => rfl

/-- Why a read does not get past an oracle: no adapter is found for it, or the call to the
adapter fails. -/
inductive Obstacle
  | noAdapter
  | callFailed
  deriving DecidableEq

/-- The first obstacle on the way of a read through the oracles. A call fails by a rejection
or by a throw. -/
inductive Obstructed (agg : AccountLookupAggregate W)
    (read : IOracleProviderAdapter W → Call W (Except JsError α)) :
    List Oracle → W → Obstacle → Prop
  | noAdapter {oracle oracles w error w'}
      (hroute : agg.getOracleAdapter oracle.partyType oracle.currency w = (.error error, w')) :
      Obstructed agg read (oracle :: oracles) w .noAdapter
  | rejected {oracle oracles w adapter w₁ error w₂}
      (hroute : agg.getOracleAdapter oracle.partyType oracle.currency w = (.ok adapter, w₁))
      (hread : read adapter w₁ = (.ok (.error error), w₂)) :
      Obstructed agg read (oracle :: oracles) w .callFailed
  | threw {oracle oracles w adapter w₁ error w₂}
      (hroute : agg.getOracleAdapter oracle.partyType oracle.currency w = (.ok adapter, w₁))
      (hread : read adapter w₁ = (.error error, w₂)) :
      Obstructed agg read (oracle :: oracles) w .callFailed
  | passed {oracle oracles w adapter w₁ value w₂ obstacle}
      (hroute : agg.getOracleAdapter oracle.partyType oracle.currency w = (.ok adapter, w₁))
      (hread : read adapter w₁ = (.ok (.ok value), w₂))
      (hrest : Obstructed agg read oracles w₂ obstacle) :
      Obstructed agg read (oracle :: oracles) w obstacle

/-- The error that an obstacle is to be reported by. -/
def Obstacle.errorClass : Obstacle → ErrorClass
  | .noAdapter => .oracleNotFoundError
  | .callFailed => .unableToGetOracleAssociationsError

/-- If the read is rejected, then with the error of the obstacle that is in its way. -/
def FailsInDomain (obstructed : Obstacle → Prop) (outcome : Except JsError α) : Prop :=
  ∀ error, outcome = .error error →
    ∃ obstacle, obstructed obstacle ∧ error.cls = obstacle.errorClass

section Loop

variable {agg} {read : IOracleProviderAdapter W → Call W (Except JsError α)} {subject : String}
  {oracle : Oracle} {oracles : List Oracle} {w w₁ w₂ : W} {adapter : IOracleProviderAdapter W}

theorem failsInDomain_ok {obstructed : Obstacle → Prop} {value : α} :
    FailsInDomain obstructed (.ok value : Except JsError α) :=
  fun _ herror => (by cases herror)

theorem failsInDomain_error {obstructed : Obstacle → Prop} {error : JsError} {obstacle : Obstacle}
    (h : obstructed obstacle) (hcls : error.cls = obstacle.errorClass) :
    FailsInDomain obstructed (.error error : Except JsError α) := by
  rintro _ ⟨⟩
  exact ⟨obstacle, h, hcls⟩

/-- The way past an oracle that answers. -/
theorem obstructed_cons_iff {value : α}
    (hroute : agg.getOracleAdapter oracle.partyType oracle.currency w = (.ok adapter, w₁))
    (hread : read adapter w₁ = (.ok (.ok value), w₂)) (obstacle : Obstacle) :
    Obstructed agg read (oracle :: oracles) w obstacle ↔
      Obstructed agg read oracles w₂ obstacle := by
  refine ⟨fun h => ?_, .passed hroute hread⟩
  cases h with
  | noAdapter hother => cases hroute.symm.trans hother
  | rejected hother hanswer =>
    obtain ⟨hadapter, rfl⟩ := Prod.mk.inj (hroute.symm.trans hother)
    obtain rfl := Except.ok.inj hadapter
    cases hread.symm.trans hanswer
  | threw hother hanswer =>
    obtain ⟨hadapter, rfl⟩ := Prod.mk.inj (hroute.symm.trans hother)
    obtain rfl := Except.ok.inj hadapter
    cases hread.symm.trans hanswer
  | passed hother hanswer hrest =>
    obtain ⟨hadapter, rfl⟩ := Prod.mk.inj (hroute.symm.trans hother)
    obtain rfl := Except.ok.inj hadapter
    obtain ⟨-, rfl⟩ := Prod.mk.inj (hread.symm.trans hanswer)
    exact hrest

theorem failsInDomain_cons_iff {value : α} {outcome : Except JsError α}
    (hroute : agg.getOracleAdapter oracle.partyType oracle.currency w = (.ok adapter, w₁))
    (hread : read adapter w₁ = (.ok (.ok value), w₂)) :
    FailsInDomain (Obstructed agg read (oracle :: oracles) w) outcome ↔
      FailsInDomain (Obstructed agg read oracles w₂) outcome := by
  simp only [FailsInDomain, obstructed_cons_iff hroute hread]

/-- A loop over adapters none of which throws before it has returned a promise. -/
theorem failsInDomain_readOracles
    (hread : ∀ adapter ∈ agg.oracleProvidersAdapters, ∀ w error, (read adapter w).1 ≠ .error error)
    (oracles : List Oracle) (collected : α) (w : W) :
    FailsInDomain (Obstructed agg read oracles w)
      (agg.readOracles read subject oracles collected w).1 := by
  induction oracles generalizing collected w with
  | nil => exact failsInDomain_ok
  | cons oracle oracles ih =>
    rw [readOracles]
    cases hroute : agg.getOracleAdapter oracle.partyType oracle.currency w with
    | mk answer w₁ =>
      cases answer with
      | error error => exact failsInDomain_error (.noAdapter hroute) rfl
      | ok adapter =>
        have hanswers := hread adapter (mem_of_getOracleAdapter hroute) w₁
        dsimp only
        cases hanswer : read adapter w₁ with
        | mk answer w₂ =>
          rcases answer with error | error | value
          · exact absurd (congrArg Prod.fst hanswer) (hanswers error)
          · exact failsInDomain_error (.rejected hroute hanswer) rfl
          · exact (failsInDomain_cons_iff hroute hanswer).mpr (ih value w₂)

end Loop

/-- What the listing of the built-in oracles' associations asks an adapter. -/
def asksAssociations (oracleProvider : IOracleProviderAdapter W) :
    Call W (Except JsError (List Association)) :=
  rejecting oracleProvider.getAllAssociations

/-- What a search asks an adapter. -/
def asksSearch (terms : AssociationSearch) (oracleProvider : IOracleProviderAdapter W) :
    Call W (Except JsError (Option AssociationsSearchResults)) := fun w =>
  let results := oracleProvider.searchAssociations terms.fspId terms.partyId terms.partyType
    terms.partySubType terms.currency terms.pageIndex terms.pageSize w
  (results.1.map fun associations => associations.map some, results.2)

/-- What the listing of the search keywords asks an adapter. -/
def asksKeywords (oracleProvider : IOracleProviderAdapter W) :
    Call W (Except JsError (List SearchKeywords)) :=
  oracleProvider.getSearchKeywords

end AccountLookupAggregate

/-! ## The service -/

namespace OracleAdapterFactory

open AccountLookupAggregate

variable {T R : Type}

/-- In the order of the registry, an oracle leads to a remote adapter before any oracle
leads to no adapter. -/
def ReachesRemote (adapters : List (IOracleProviderAdapter (ServiceWorld T R))) :
    List Oracle → Shared (ServiceWorld T R) → Prop
  | [], _ => False
  | oracle :: oracles, v =>
    ∃ adapter, adapterFor adapters v.now.finder oracle.partyType oracle.currency = some adapter ∧
      (adapter.type = .remoteHttp ∨ ReachesRemote adapters oracles v.passed.passed)

variable [LinearOrder T] [Add T] {settings : OracleAdapterFactory T R}
  {participantService : IParticipantServiceAdapter R}
  {adapters : List (IOracleProviderAdapter (ServiceWorld T R))}

/-- The read throws at a remote adapter and resolves at any other, in the world as it
finds it. -/
def ThrowsWhenRemote {α : Type}
    (read : IOracleProviderAdapter (Shared (ServiceWorld T R)) →
      Call (Shared (ServiceWorld T R)) (Except JsError α))
    (adapter : IOracleProviderAdapter (ServiceWorld T R)) : Prop :=
  ∀ v : Shared (ServiceWorld T R),
    (adapter.type = .remoteHttp ∧
        read adapter.shared v = (.error ⟨.error, "Method not implemented."⟩, v.passed)) ∨
      adapter.type ≠ .remoteHttp ∧ ∃ value, read adapter.shared v = (.ok (.ok value), v.passed)

theorem throwsWhenRemote_asksSearch (hall : settings.AllCreated adapters)
    (terms : AssociationSearch) {adapter : IOracleProviderAdapter (ServiceWorld T R)}
    (hadapter : adapter ∈ adapters) : ThrowsWhenRemote (asksSearch terms) adapter := by
  intro v
  rcases adapter_of_created (hall adapter hadapter) with ⟨repo, rfl⟩ | ⟨provider, rfl⟩
  · exact Or.inr ⟨fun h => (by cases h), _, rfl⟩
  · exact Or.inl ⟨rfl, rfl⟩

theorem throwsWhenRemote_asksKeywords (hall : settings.AllCreated adapters)
    {adapter : IOracleProviderAdapter (ServiceWorld T R)} (hadapter : adapter ∈ adapters) :
    ThrowsWhenRemote asksKeywords adapter := by
  intro v
  rcases adapter_of_created (hall adapter hadapter) with ⟨repo, rfl⟩ | ⟨provider, rfl⟩
  · refine Or.inr ⟨fun h => (by cases h), ?_⟩
    simp only [asksKeywords, IOracleProviderAdapter.shared, Shared.call, IOracleProviderAdapter.on,
      Call.on, MongoOracleProviderRepo.adapter, MongoOracleProviderRepo.getSearchKeywords]
    cases (ServiceWorld.builtinPart.get v.now).failure .aggregate with
    | some message => exact ⟨_, rfl⟩
    | none => exact ⟨_, rfl⟩
  · exact Or.inl ⟨rfl, rfl⟩

variable (settings participantService) in
/-- A loop over the oracles fails outside the domain exactly when it gets to a remote
adapter. -/
theorem failsInDomain_readOracles_iff {α : Type}
    {read : IOracleProviderAdapter (Shared (ServiceWorld T R)) →
      Call (Shared (ServiceWorld T R)) (Except JsError α)} {subject : String}
    (hread : ∀ adapter ∈ adapters, ThrowsWhenRemote read adapter) (oracles : List Oracle)
    (collected : α) (v : Shared (ServiceWorld T R)) :
    FailsInDomain
        (Obstructed (settings.loaded participantService adapters).shared read oracles v)
        ((settings.loaded participantService adapters).shared.readOracles read subject oracles
          collected v).1 ↔
      ¬ ReachesRemote adapters oracles v := by
  induction oracles generalizing collected v with
  | nil => exact iff_of_true failsInDomain_ok id
  | cons oracle oracles ih =>
    have hshared := getOracleAdapter_shared (settings.loaded participantService adapters)
      oracle.partyType oracle.currency v
    rw [readOracles]
    rcases getOracleAdapter_of_adapterFor settings participantService adapters oracle.partyType
      oracle.currency v.now with ⟨adapter, hfor, hroute⟩ | ⟨hnone, error, hroute⟩
    · have hadapter : adapter ∈ adapters := mem_of_getOracleAdapter hroute
      rw [hroute] at hshared
      rw [hshared]
      simp only [Except.map, ReachesRemote, hfor, Option.some.injEq, exists_eq_left']
      rcases hread adapter hadapter (v.after v.now) with ⟨htype, hthrows⟩ | ⟨htype, value, hanswers⟩
      · rw [hthrows]
        refine iff_of_false (fun h => ?_) fun h => h (Or.inl htype)
        obtain ⟨obstacle, -, hcls⟩ := h _ rfl
        cases obstacle <;> cases hcls
      · rw [hanswers, or_iff_right htype]
        exact (failsInDomain_cons_iff hshared hanswers).trans (ih value v.passed.passed)
    · rw [hroute] at hshared
      rw [hshared]
      simp only [Except.map, ReachesRemote, hnone]
      refine iff_of_true (failsInDomain_error (.noAdapter hshared) rfl) ?_
      rintro ⟨adapter, hadapter, -⟩
      cases hadapter

variable (settings participantService adapters) in
/-- The listing of the registry leaves the world alone. -/
theorem getAllOracles_snd (w : ServiceWorld T R) :
    ((settings.loaded participantService adapters).getAllOracles w).2 = w := by
  simp only [AccountLookupAggregate.getAllOracles, loaded, aggregate, IOracleFinder.on, Call.on,
    MongoOracleFinderRepo.finder, MongoOracleFinderRepo.getAllOracles]
  cases (ServiceWorld.finderPart.get w).failure .find <;> rfl

/-- **When the administration's reads fail with errors of the domain only.** The listing of
the built-in oracles' associations always does; the search and the keywords do exactly when
they get to no remote adapter, whatever else fails. -/
theorem readsFailInDomain_iff (hall : settings.AllCreated adapters) (terms : AssociationSearch)
    (v : Shared (ServiceWorld T R)) {oracles : List Oracle}
    (hlisted : ((settings.loaded participantService adapters).shared.getAllOracles v).1 =
      .ok oracles) :
    FailsInDomain
        (Obstructed (settings.loaded participantService adapters).shared asksAssociations
          (oracles.filter fun oracle => oracle.type = .builtin) v.passed)
        ((settings.loaded participantService adapters).shared.getBuiltInOracleAssociations v).1 ∧
      (FailsInDomain
          (Obstructed (settings.loaded participantService adapters).shared (asksSearch terms)
            oracles v.passed)
          ((settings.loaded participantService adapters).shared.search terms v).1 ↔
        ¬ ReachesRemote adapters oracles v.passed) ∧
      (FailsInDomain
          (Obstructed (settings.loaded participantService adapters).shared asksKeywords
            oracles v.passed)
          ((settings.loaded participantService adapters).shared.getSearchKeywords v).1 ↔
        ¬ ReachesRemote adapters oracles v.passed) := by
  have hcall : (settings.loaded participantService adapters).shared.oracleFinder.getAllOracles v =
      (.ok oracles, v.passed) :=
    Prod.ext hlisted (congrArg v.after (getAllOracles_snd settings participantService adapters _))
  refine ⟨?_, ?_, ?_⟩
  · rw [getBuiltInOracleAssociations, hcall]
    exact failsInDomain_readOracles (fun _ _ _ _ h => (by cases h)) _ _ _
  · rw [search, getAllOracleAssociations, hcall]
    exact failsInDomain_readOracles_iff settings participantService
      (fun _ hadapter => throwsWhenRemote_asksSearch hall terms hadapter) oracles none _
  · rw [AccountLookupAggregate.getSearchKeywords, hcall]
    exact failsInDomain_readOracles_iff settings participantService
      (fun _ hadapter => throwsWhenRemote_asksKeywords hall hadapter) oracles [] _

/-- A registry whose stores nobody else changes. -/
def alone (oracles : List Oracle) : Shared (ServiceWorld ℕ Unit) where
  world := ⟨FinderWorld.holding oracles, BuiltinWorld.empty 0, ()⟩
  changes _ w := w

/-- A remote oracle, and an adapter of it. -/
def remoteOracle : Oracle :=
  ⟨"2", .str "Remote", .remoteHttp, .str "MSISDN", .null, .str "http://localhost:3031"⟩

def remoteAdapter : IOracleProviderAdapter (ServiceWorld ℕ Unit) :=
  (HttpOracleProvider.adapter ⟨remoteOracle, sampleSettings.axios⟩).on ServiceWorld.remotePart

/-- With a single remote oracle the search fails outside the domain. -/
theorem not_forall_readsFailInDomain :
    ¬ ∀ (settings : OracleAdapterFactory ℕ Unit)
      (participantService : IParticipantServiceAdapter Unit)
      (adapters : List (IOracleProviderAdapter (ServiceWorld ℕ Unit))) (terms : AssociationSearch)
      (v : Shared (ServiceWorld ℕ Unit)) (oracles : List Oracle), settings.AllCreated adapters →
      ((settings.loaded participantService adapters).shared.getAllOracles v).1 = .ok oracles →
      FailsInDomain
        (Obstructed (settings.loaded participantService adapters).shared (asksSearch terms)
          oracles v.passed)
        ((settings.loaded participantService adapters).shared.search terms v).1 := by
  intro h
  have hcreated : sampleSettings.AllCreated [remoteAdapter] := by
    intro adapter hadapter
    obtain rfl := List.mem_singleton.mp hadapter
    exact ⟨remoteOracle, (alone [remoteOracle]).world, rfl⟩
  have hsearch := h sampleSettings welcomingParticipants [remoteAdapter] sampleSearch
    (alone [remoteOracle]) [remoteOracle] hcreated rfl
  obtain ⟨obstacle, -, hcls⟩ := hsearch ⟨.error, "Method not implemented."⟩ rfl
  cases obstacle <;> cases hcls

/-- An oracle that is registered and has no adapter. -/
def unloadedOracle : Oracle :=
  ⟨"3", .str "Unloaded", .builtin, .str "EMAIL", .null, .null⟩

/-- A service with a built-in oracle. -/
def builtinService : AccountLookupAggregate (Shared (ServiceWorld ℕ Unit)) :=
  (sampleSettings.loaded welcomingParticipants [sampleAdapter]).shared

/-- Behind an oracle that answers, one without an adapter is reported as such by all reads. -/
theorem readsFailInDomain_unloadedOracle :
    let v := alone [sampleRepo.oracle, unloadedOracle, remoteOracle]
    let oracles := [sampleRepo.oracle, unloadedOracle, remoteOracle]
    ¬ ReachesRemote [sampleAdapter] oracles v.passed ∧
      FailsInDomain
        (Obstructed builtinService asksAssociations
          (oracles.filter fun oracle => oracle.type = .builtin) v.passed)
        (builtinService.getBuiltInOracleAssociations v).1 ∧
      FailsInDomain (Obstructed builtinService (asksSearch sampleSearch) oracles v.passed)
        (builtinService.search sampleSearch v).1 ∧
      FailsInDomain (Obstructed builtinService asksKeywords oracles v.passed)
        (builtinService.getSearchKeywords v).1 := by
  dsimp only
  have hreaches : ¬ ReachesRemote [sampleAdapter] [sampleRepo.oracle, unloadedOracle, remoteOracle]
      (alone [sampleRepo.oracle, unloadedOracle, remoteOracle]).passed := by
    rintro ⟨first, hfirst, hremote | ⟨second, hsecond, -⟩⟩
    · obtain rfl : sampleAdapter = first := Option.some.inj hfirst
      cases hremote
    · cases hsecond
  obtain ⟨hassociations, hsearch, hkeywords⟩ := readsFailInDomain_iff allCreated_sampleAdapter
    sampleSearch (alone [sampleRepo.oracle, unloadedOracle, remoteOracle]) rfl
  exact ⟨hreaches, hassociations, hsearch.mpr hreaches, hkeywords.mpr hreaches⟩

end OracleAdapterFactory

end AccountLookup
