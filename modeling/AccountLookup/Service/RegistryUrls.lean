/-
# The registry behind its URLs

Oracles are registered and removed in a session with many callers, and at its end one is asked
for at its URL. What is answered there is a matter of counting: an oracle is found under an id,
and can be removed, exactly when more have been registered under it than were removed.
-/

import AccountLookup.Service.AdminUrls
import AccountLookup.Service.Sessions

namespace AccountLookup

open Library Library.Transition

namespace HttpService

open OracleAdminExpressRoutes

variable {T R : Type} [LinearOrder T] [Add T] {service : HttpService T R}
  {authorization : JsString} {platformRoleIds : List String} {id : String} {s : RunningService T R}

variable (service) in
/-- The answer to a request, unless no route matches it. -/
def answer (reading : QueryReading) (authorization : JsString) (request : AdminRequest)
    (randomUUID : String) (s : RunningService T R) : Option Reply :=
  (receive reading request randomUUID).map fun received =>
    (service.respond authorization received s).1

/-- The oracle is registered under the id. -/
def hasId (id : String) (oracle : Oracle) : Bool := oracle.id = id

variable (service) in
/-- The call of the step registers an oracle under the id. -/
def RegistersUnder (id : String) (s : RunningService T R) (a : SessionStep T R) : Prop :=
  ∃ oracle, hasId id oracle = true ∧ service.AddsIn oracle s a

variable (service) in
/-- The call of the step removes an oracle that is registered under the id. -/
def RemovesUnder (id : String) (s : RunningService T R) (a : SessionStep T R) : Prop :=
  ∃ oracle, hasId id oracle = true ∧ service.TakesOutIn oracle s a

theorem find?_hasId (id : String) (oracles : List Oracle) :
    (∃ oracle, oracles.find? (hasId id) = some oracle ∧ oracle.id = id) ∧
        0 < oracles.countP (hasId id) ∨
      oracles.find? (hasId id) = none ∧ oracles.countP (hasId id) = 0 := by
  cases hfind : oracles.find? (hasId id) with
  | none =>
    refine Or.inr ⟨rfl, List.countP_eq_zero.mpr ?_⟩
    exact List.find?_eq_none.mp hfind
  | some oracle =>
    have horacle : hasId id oracle = true := List.find?_some hfind
    refine Or.inl ⟨⟨oracle, rfl, of_decide_eq_true horacle⟩, ?_⟩
    exact List.countP_pos_iff.mpr ⟨oracle, List.mem_of_find?_eq_some hfind, horacle⟩

/-- A bare request about an addressable id is valid. -/
theorem validDeleteOracle_bare (h : Addressable id) :
    validDeleteOracle ⟨platformRoleIds, id, bareElsewhere⟩ = true := by
  have hid : (JsString.str id).truthy = true := decide_eq_true h.1
  rw [validDeleteOracle, check_eq_true_iff]
  constructor
  · exact ⟨.str id, List.mem_cons_self .., fun hundefined => (by cases hundefined)⟩
  · intro value hvalue hdefined
    simp only [bareElsewhere, List.mem_cons, List.not_mem_nil, or_false] at hvalue
    rcases hvalue with rfl | rfl | rfl
    · exact hid
    · exact absurd rfl hdefined
    · exact absurd rfl hdefined

/-- What removing an oracle comes to when nothing fails. -/
theorem removeOracle_eq (settings : OracleAdapterFactory T R)
    (participantService : IParticipantServiceAdapter R)
    (adapters : List (IOracleProviderAdapter (ServiceWorld T R))) (id : String)
    {w : ServiceWorld T R} (hfind : w.finder.failure .findById = none)
    (hdelete : w.finder.failure .deleteOne = none) :
    ((settings.loaded participantService adapters).removeOracle id w).1 =
      if 0 < w.finder.oracles.countP (hasId id) then .ok ()
      else .error ⟨.oracleNotFoundError, s!"Oracle does not exist for given id {id}"⟩ := by
  simp only [AccountLookupAggregate.removeOracle, OracleAdapterFactory.loaded,
    OracleAdapterFactory.aggregate, IOracleFinder.on, Call.on, MongoOracleFinderRepo.finder,
    MongoOracleFinderRepo.getOracleById, MongoOracleFinderRepo.removeOracle,
    ServiceWorld.finderPart, hfind]
  rcases find?_hasId id w.finder.oracles with ⟨⟨oracle, hfound, -⟩, hpos⟩ | ⟨hfound, hzero⟩
  · change w.finder.oracles.find? (fun oracle => oracle.id = id) = some oracle at hfound
    simp only [hfound, hdelete, if_pos hpos]
  · change w.finder.oracles.find? (fun oracle => oracle.id = id) = none at hfound
    simp only [hfound, hzero, Nat.lt_irrefl, if_false]

theorem answer_deleteOracle (reading : QueryReading) (randomUUID : String) (h : Addressable id)
    (hholds : service.Holds authorization removeOraclePrivilege platformRoleIds)
    (hfind : s.world.finder.failure .findById = none)
    (hdelete : s.world.finder.failure .deleteOne = none) :
    service.answer reading authorization (bare .delete (oracleUrl id)) randomUUID s =
      some (if 0 < s.world.finder.oracles.countP (hasId id) then ⟨200, .empty⟩
        else ⟨404, .error s!"Oracle does not exist for given id {id}"⟩) := by
  have hremove := removeOracle_eq service.settings service.participantService s.adapters id
    hfind hdelete
  rw [answer, receive_deleteOracle reading randomUUID h, Option.map_some]
  simp only [respond, respondStep, OracleAdminExpressRoutes.respond, hholds.1, handle,
    deleteOracle, hholds.2, validDeleteOracle_bare h, if_true]
  rcases hcall : (service.settings.loaded service.participantService s.adapters).removeOracle id
    s.world with ⟨outcome, agg, w⟩
  rw [hcall] at hremove
  dsimp only at hremove
  subst hremove
  by_cases hpos : 0 < s.world.finder.oracles.countP (hasId id)
  · simp only [if_pos hpos]
  · simp only [if_neg hpos, if_true]

theorem answer_getOracleById (reading : QueryReading) (randomUUID : String) (h : Addressable id)
    (hreserved : ¬ Reserved id)
    (hholds : service.Holds authorization viewAllOraclesPrivilege platformRoleIds)
    (hfind : s.world.finder.failure .findById = none) :
    service.answer reading authorization (bare .get (oracleUrl id)) randomUUID s =
      some (match s.world.finder.oracles.find? (hasId id) with
        | some oracle => ⟨200, .oracle oracle⟩
        | none => ⟨404, .error "Oracle not found"⟩) := by
  rw [answer, receive_getOracleById reading randomUUID h hreserved, Option.map_some]
  simp only [respond, respondStep, OracleAdminExpressRoutes.respond, hholds.1, handle,
    getOracleById, permitted, hholds.2, validDeleteOracle_bare h, if_true,
    AccountLookupAggregate.getOracleById, OracleAdapterFactory.loaded,
    OracleAdapterFactory.aggregate, IOracleFinder.on, Call.on, MongoOracleFinderRepo.finder,
    MongoOracleFinderRepo.getOracleById, ServiceWorld.finderPart, hfind]
  change some (reply _ (.ok (s.world.finder.oracles.find? (hasId id)), _)).1 = _
  cases s.world.finder.oracles.find? (hasId id) with
  | none => rfl
  | some oracle => rfl

open Classical in
/-- What has been registered under an id and not removed is there. -/
theorem removed_lt_registered_iff (hall : service.settings.AllCreated s.adapters) (id : String)
    {steps : List (SessionStep T R)}
    (hquiet : Along service.sessionStep
      (fun s a => (a.met s).world.finder.oracles = s.world.finder.oracles) s steps) :
    tally service.sessionStep (service.RemovesUnder id) s steps <
        s.world.finder.oracles.countP (hasId id) +
          tally service.sessionStep (service.RegistersUnder id) s steps ↔
      0 < (run service.sessionStep s steps).world.finder.oracles.countP (hasId id) := by
  have hbalance : (run service.sessionStep s steps).world.finder.oracles.countP (hasId id) +
        tally service.sessionStep (service.RemovesUnder id) s steps =
      s.world.finder.oracles.countP (hasId id) +
        tally service.sessionStep (service.RegistersUnder id) s steps :=
    countP_run hall (hasId id) steps hquiet
  omega

open Classical in
/-- **A session is seen at the URL of an oracle.** Take any session of a service that has
loaded adapters of its factory, during which nobody else writes to the registry, and any
addressable id. If the registry can be read at the end, a caller with the privilege to remove
oracles who asks for removal at the URL of the id, or one with the privilege to view them who
asks for the oracle there, is told that there is one exactly when more oracles were registered
under the id, at the start and in the session, than were removed. The oracle is then one with
that very id. -/
theorem served_at_url (service : HttpService T R) (reading : QueryReading)
    (s : RunningService T R) (hall : service.settings.AllCreated s.adapters)
    (steps : List (SessionStep T R))
    (hquiet : Along service.sessionStep
      (fun s a => (a.met s).world.finder.oracles = s.world.finder.oracles) s steps)
    (id randomUUID : String) (h : Addressable id)
    (hfind : (run service.sessionStep s steps).world.finder.failure .findById = none) :
    let after := run service.sessionStep s steps
    let isThere := tally service.sessionStep (service.RemovesUnder id) s steps <
      s.world.finder.oracles.countP (hasId id) +
        tally service.sessionStep (service.RegistersUnder id) s steps
    (∀ authorization platformRoleIds,
      service.Holds authorization removeOraclePrivilege platformRoleIds →
      after.world.finder.failure .deleteOne = none →
        service.answer reading authorization (bare .delete (oracleUrl id)) randomUUID after =
          some (if isThere then ⟨200, .empty⟩
            else ⟨404, .error s!"Oracle does not exist for given id {id}"⟩)) ∧
      (∀ authorization platformRoleIds,
        service.Holds authorization viewAllOraclesPrivilege platformRoleIds → ¬ Reserved id →
          (isThere → ∃ oracle, oracle.id = id ∧
            service.answer reading authorization (bare .get (oracleUrl id)) randomUUID after =
              some ⟨200, .oracle oracle⟩) ∧
          (¬ isThere →
            service.answer reading authorization (bare .get (oracleUrl id)) randomUUID after =
              some ⟨404, .error "Oracle not found"⟩)) := by
  intro after isThere
  have hthere : isThere ↔ 0 < after.world.finder.oracles.countP (hasId id) :=
    removed_lt_registered_iff hall id hquiet
  constructor
  · intro authorization platformRoleIds hholds hdelete
    rw [answer_deleteOracle reading randomUUID h hholds hfind hdelete, if_congr hthere rfl rfl]
  · intro authorization platformRoleIds hholds hreserved
    have hanswer := answer_getOracleById reading randomUUID h hreserved hholds hfind
    rcases find?_hasId id after.world.finder.oracles with
      ⟨⟨oracle, hfound, hid⟩, hpos⟩ | ⟨hfound, hzero⟩
    · rw [hfound] at hanswer
      exact ⟨fun _ => ⟨oracle, hid, hanswer⟩, fun hnot => absurd (hthere.mpr hpos) hnot⟩
    · rw [hfound] at hanswer
      exact ⟨fun hyes => absurd (hthere.mp hyes) (by omega), fun _ => hanswer⟩

/-- An operator registers an oracle whose id has a slash in it. -/
def sampleRegistration : List (SessionStep ℕ Unit) :=
  [⟨fun w => w, some (.request (.str "Bearer operator")
    (.createOracle ⟨.str "mobile/1", .str "mobile", .builtin, .str "MSISDN", .null, .null⟩
      (fun _ => []) "7"))⟩]

/-- A reading of query strings for requests that have none. -/
def sampleReading : QueryReading := ⟨fun _ _ => [], fun _ _ => .undefined⟩

theorem served_at_url_sampleRegistration :
    ∃ oracle, oracle.id = "mobile/1" ∧
      sampleHttpService.answer sampleReading (.str "Bearer operator")
          (bare .get (oracleUrl "mobile/1")) "7"
          (run sampleHttpService.sessionStep sampleService sampleRegistration) =
        some ⟨200, .oracle oracle⟩ := by
  have hall : sampleHttpService.settings.AllCreated sampleService.adapters :=
    fun adapter hadapter => (by cases hadapter)
  have hquiet : Along sampleHttpService.sessionStep
      (fun s a => (a.met s).world.finder.oracles = s.world.finder.oracles) sampleService
      sampleRegistration := ⟨rfl, trivial⟩
  have hserved := served_at_url sampleHttpService sampleReading sampleService hall
    sampleRegistration hquiet "mobile/1" "7" ⟨by decide, by decide, by decide⟩ rfl
  apply (hserved.2 (.str "Bearer operator") ["operator"] ⟨by decide, by decide⟩
    (by unfold Reserved; decide)).1
  apply (removed_lt_registered_iff hall "mobile/1" hquiet).mpr
  decide

end HttpService

end AccountLookup
