/-
# Sessions with many callers

Callers with all sorts of tokens send requests to a running service, which handles messages
in between, while other services write to its stores and calls fail. Two things hold of
every such session. Requests that are refused, and requests that only read, leave no trace:
without them every other request is answered as it was. And the registry of oracles is
accounted for: whoever adds an oracle, or takes one out, has the privilege for it.
-/

import AccountLookup.Domain.Asking
import AccountLookup.Domain.Reading
import AccountLookup.Library.Purge
import AccountLookup.Library.Tally
import AccountLookup.Service.AssociationEvents
import AccountLookup.Service.UnprivilegedCallers

namespace AccountLookup

open Library Library.Transition Library.FirstMatch

namespace RouteRequest

open OracleAdminExpressRoutes

/-- The privilege that a request asks for. -/
def privilegeId : RouteRequest → Option String
  | .getAllOracles => some viewAllOraclesPrivilege
  | .getAllBuiltinOracleAssociations => some viewAllOracleAssociationsPrivilege
  | .getAllOracleAssociations _ => some viewAllOracleAssociationsPrivilege
  | .getOracleById _ _ => some viewAllOraclesPrivilege
  | .deleteOracle _ _ => some removeOraclePrivilege
  | .createOracle _ _ _ => some createOraclePrivilege
  | .healthCheck _ _ => none
  | .getSearchKeywords => some viewAllOracleAssociationsPrivilege
  | .getAccountLookUp _ _ _ _ => some viewAllOracleAssociationsPrivilege

/-- The request only reads. A lookup does not: what it finds is cached. -/
def OnlyReads : RouteRequest → Prop
  | .deleteOracle _ _ => False
  | .createOracle _ _ _ => False
  | .getAccountLookUp _ _ _ _ => False
  | _ => True

end RouteRequest

namespace OracleAdminExpressRoutes

end OracleAdminExpressRoutes

/-- A service with its collaborators, as its callers meet it over HTTP. -/
structure HttpService (T R : Type) where
  settings : OracleAdapterFactory T R
  participantService : IParticipantServiceAdapter R
  routes : OracleAdminExpressRoutes
  tokenHelper : ITokenHelper

/-- A request with its authorization header, or a message. -/
inductive SessionCall
  | request (authorization : JsString) (request : RouteRequest)
  | message (message : IMessage)

/-- What has happened to the world since the step before, and a call, if there is one. -/
structure SessionStep (T R : Type) where
  meanwhile : ServiceWorld T R → ServiceWorld T R
  call : Option SessionCall

namespace SessionStep

variable {T R : Type}

/-- The service when the call of the step begins. -/
def met (a : SessionStep T R) (s : RunningService T R) : RunningService T R :=
  { s with world := a.meanwhile s.world }

/-- The step without its call. -/
def idle (a : SessionStep T R) : SessionStep T R := { a with call := none }

end SessionStep

namespace HttpService

open OracleAdminExpressRoutes

variable {T R : Type} [LinearOrder T] [Add T] (service : HttpService T R)

/-- The response to a request, and the service after it. -/
def respond (authorization : JsString) (request : RouteRequest) (s : RunningService T R) :
    Reply × RunningService T R :=
  respondStep service.settings service.participantService service.routes service.tokenHelper
    authorization request s

/-- The service after a step of a session. -/
def sessionStep (s : RunningService T R) (a : SessionStep T R) : RunningService T R :=
  match a.call with
  | none => a.met s
  | some (.request authorization request) =>
    (service.respond authorization request (a.met s)).2
  | some (.message message) =>
    { s with world :=
        ((service.settings.loaded service.participantService s.adapters).handleEvent message
          (a.met s).world).2 }

/-- The caller has the privilege. -/
def Holds (authorization : JsString) (privilegeId : String) (platformRoleIds : List String) :
    Prop :=
  authenticationMiddleware service.tokenHelper authorization = some platformRoleIds ∧
    service.routes.enforcePrivilege platformRoleIds privilegeId = .ok ()

variable {service} {authorization : JsString} {request : RouteRequest} {s : RunningService T R}

/-- A call on a part of the world that leaves its part alone leaves the world alone. -/
theorem on_snd_of_leaves {W C α : Type} (part : Component W C) {call : Call C α}
    (h : ∀ c, (call c).2 = c) (w : W) : (call.on part w).2 = w := by
  show part.set w (call (part.get w)).2 = w
  rw [h, part.set_get]

section AdapterReads

variable {C : Type}

theorem getAllOracles_snd (w : FinderWorld) : (MongoOracleFinderRepo.getAllOracles w).2 = w := by
  rw [MongoOracleFinderRepo.getAllOracles]
  split <;> rfl

theorem getOracleById_snd (id : String) (w : FinderWorld) :
    (MongoOracleFinderRepo.getOracleById id w).2 = w := by
  rw [MongoOracleFinderRepo.getOracleById]
  split <;> rfl

omit [LinearOrder T] [Add T] in
theorem builtin_getAllAssociations_snd (w : BuiltinWorld T) :
    (MongoOracleProviderRepo.getAllAssociations w).2 = w := by
  rw [MongoOracleProviderRepo.getAllAssociations]
  split <;> rfl

omit [LinearOrder T] [Add T] in
theorem builtin_getSearchKeywords_snd (w : BuiltinWorld T) :
    (MongoOracleProviderRepo.getSearchKeywords w).2 = w := by
  rw [MongoOracleProviderRepo.getSearchKeywords]
  split <;> rfl

variable (http : HttpOracleProvider C)

/-- The health check of a remote oracle does what its GET request does. -/
theorem remote_healthCheck_snd (w : C) :
    (http.healthCheck w).2 = (http.axios.get http.oracle.endpoint "/health" w).2 := by
  rw [HttpOracleProvider.healthCheck]
  rcases http.axios.get http.oracle.endpoint "/health" w with ⟨error | response, w'⟩
  · rfl
  · rfl

/-- Listing the associations of a remote oracle does what its GET request does. -/
theorem remote_getAllAssociations_snd (w : C) :
    (http.getAllAssociations w).2 =
      (http.axios.get http.oracle.endpoint "/participants/associations" w).2 := by
  rw [HttpOracleProvider.getAllAssociations]
  rcases http.axios.get http.oracle.endpoint "/participants/associations" w with
    ⟨error | response, w'⟩
  · rfl
  · rfl

end AdapterReads

/-- An adapter of the factory is a built-in or a remote one. -/
theorem builtin_or_remote {adapters : List (IOracleProviderAdapter (ServiceWorld T R))}
    (hall : service.settings.AllCreated adapters) {adapter} (hmem : adapter ∈ adapters) :
    (∃ repo : MongoOracleProviderRepo T, adapter = repo.adapter.on ServiceWorld.builtinPart) ∨
      ∃ oracle, adapter = (HttpOracleProvider.adapter
        ⟨oracle, service.settings.axios⟩).on ServiceWorld.remotePart := by
  obtain ⟨oracle, w, hcreate⟩ := hall adapter hmem
  cases htype : oracle.type with
  | builtin =>
    simp only [OracleAdapterFactory.create, htype, Prod.mk.injEq, Except.ok.injEq, and_true]
      at hcreate
    exact Or.inl ⟨_, hcreate.symm⟩
  | remoteHttp =>
    simp only [OracleAdapterFactory.create, htype, Prod.mk.injEq, Except.ok.injEq, and_true]
      at hcreate
    exact Or.inr ⟨oracle, hcreate.symm⟩
  | other value => simp [OracleAdapterFactory.create, htype] at hcreate

/-- What GET requests to the remote side do not touch, the reads of a service keep. -/
theorem readingKeeps {adapters : List (IOracleProviderAdapter (ServiceWorld T R))}
    (hall : service.settings.AllCreated adapters) {Inv : ServiceWorld T R → Prop}
    (hget : ∀ baseURL url w, Inv w →
      Inv { w with remote := (service.settings.axios.get baseURL url w.remote).2 }) :
    (service.settings.loaded service.participantService adapters).ReadingKeeps Inv := by
  have hleaves : ∀ {C α : Type} (part : Component (ServiceWorld T R) C) {call : Call C α},
      (∀ c, (call c).2 = c) → ∀ w, Inv w → Inv (call.on part w).2 := by
    intro C α part call h w hw
    rwa [on_snd_of_leaves part h]
  constructor
  · exact hleaves ServiceWorld.finderPart getAllOracles_snd
  · intro id
    exact hleaves ServiceWorld.finderPart (getOracleById_snd id)
  · intro partyType currency
    apply hleaves ServiceWorld.finderPart
    exact MongoOracleFinderRepo.registry_getOracle partyType currency
  · intro adapter hmem w hw
    rcases builtin_or_remote hall hmem with ⟨repo, rfl⟩ | ⟨oracle, rfl⟩
    · exact hleaves ServiceWorld.builtinPart (fun builtin => rfl) w hw
    · have hgot := hget oracle.endpoint "/health" w hw
      rwa [← remote_healthCheck_snd ⟨oracle, service.settings.axios⟩] at hgot
  · intro adapter hmem w hw
    rcases builtin_or_remote hall hmem with ⟨repo, rfl⟩ | ⟨oracle, rfl⟩
    · exact hleaves ServiceWorld.builtinPart builtin_getAllAssociations_snd w hw
    · have hgot := hget oracle.endpoint "/participants/associations" w hw
      rwa [← remote_getAllAssociations_snd ⟨oracle, service.settings.axios⟩] at hgot
  · intro adapter hmem fspId partyId partyType partySubType currency pageIndex pageSize w hw
    rcases builtin_or_remote hall hmem with ⟨repo, rfl⟩ | ⟨oracle, rfl⟩
    · exact hleaves ServiceWorld.builtinPart (fun builtin => rfl) w hw
    · exact hw
  · intro adapter hmem w hw
    rcases builtin_or_remote hall hmem with ⟨repo, rfl⟩ | ⟨oracle, rfl⟩
    · exact hleaves ServiceWorld.builtinPart builtin_getSearchKeywords_snd w hw
    · exact hw

theorem keeps_permitted {W : Type} {routes : OracleAdminExpressRoutes} {Inv : W → Prop} {w : W}
    (hw : Inv w) (platformRoleIds : List String) (privilegeId : String) {read : W → Reply × W}
    (hread : Inv (read w).2) : Inv (routes.permitted platformRoleIds privilegeId read w).2 := by
  rw [permitted]
  split
  · exact hw
  · exact hread

theorem reply_snd {W α : Type} (body : α → Reply) (outcome : Except JsError α × W) :
    (reply body outcome).2 = outcome.2 := by
  obtain ⟨error | value, w⟩ := outcome
  · rfl
  · rfl

/-- **A request that only reads** keeps what its reads keep, and the aggregate as it is. -/
theorem handle_of_onlyReads {W : Type} {agg : AccountLookupAggregate W} {Inv : W → Prop} {w : W}
    (h : agg.ReadingKeeps Inv) (hw : Inv w) (routes : OracleAdminExpressRoutes)
    (platformRoleIds : List String) (hreads : request.OnlyReads) :
    (routes.handle platformRoleIds request agg w).2.1 = agg ∧
      Inv (routes.handle platformRoleIds request agg w).2.2 := by
  cases request with
  | deleteOracle id elsewhere => exact False.elim hreads
  | createOracle body elsewhere randomUUID => exact False.elim hreads
  | getAccountLookUp partyType partyId elsewhere query => exact False.elim hreads
  | getAllOracles =>
    refine ⟨rfl, keeps_permitted hw _ _ ?_⟩
    rw [reply_snd]
    exact h.getAllOracles hw
  | getAllBuiltinOracleAssociations =>
    refine ⟨rfl, keeps_permitted hw _ _ ?_⟩
    rw [reply_snd]
    exact h.getBuiltInOracleAssociations hw
  | getAllOracleAssociations query =>
    refine ⟨rfl, keeps_permitted hw _ _ ?_⟩
    rw [reply_snd]
    exact h.getAllOracleAssociations hw ..
  | getSearchKeywords =>
    refine ⟨rfl, keeps_permitted hw _ _ ?_⟩
    rw [reply_snd]
    exact h.getSearchKeywords hw
  | getOracleById id elsewhere =>
    refine ⟨rfl, keeps_permitted hw _ _ ?_⟩
    split
    · rw [reply_snd]
      exact h.getOracleById hw id
    · exact hw
  | healthCheck id elsewhere =>
    refine ⟨rfl, ?_⟩
    show Inv (OracleAdminExpressRoutes.healthCheck ⟨platformRoleIds, id, elsewhere⟩ agg w).2
    have hchecked := h.healthCheck hw id
    rw [OracleAdminExpressRoutes.healthCheck]
    split
    · rcases hcall : agg.healthCheck id w with ⟨error | healthy, w₁⟩
      · rw [hcall] at hchecked
        dsimp only
        split
        · exact hchecked
        · exact hchecked
      · rwa [hcall] at hchecked
    · exact hw

variable (service) in
/-- The request registers the oracle. -/
def Adds (s : RunningService T R) (authorization : JsString) (request : RouteRequest)
    (oracle : Oracle) : Prop :=
  ∃ body elsewhere randomUUID platformRoleIds,
    request = .createOracle body elsewhere randomUUID ∧
      service.Holds authorization createOraclePrivilege platformRoleIds ∧
      validCreateOracle ⟨platformRoleIds, body, elsewhere⟩ = true ∧
      Registers s.world.finder body randomUUID ∧
      AccountLookupAggregate.newOracle body randomUUID = oracle

variable (service) in
/-- The request takes the oracle out of the registry. -/
def TakesOut (s : RunningService T R) (authorization : JsString) (request : RouteRequest)
    (oracle : Oracle) : Prop :=
  ∃ id elsewhere platformRoleIds, request = .deleteOracle id elsewhere ∧
    service.Holds authorization removeOraclePrivilege platformRoleIds ∧
    (service.respond authorization request s).1 = ⟨200, .empty⟩ ∧
    s.world.finder.oracles.find? (fun o => o.id = id) = some oracle

variable (service) in
open Classical in
/-- What a request does to the registry, counted for the oracles of a kind. -/
def Balances (s : RunningService T R) (authorization : JsString) (request : RouteRequest)
    (kind : Oracle → Bool) : Prop :=
  (service.respond authorization request s).2.world.finder.oracles.countP kind +
      (if ∃ oracle, kind oracle = true ∧ service.TakesOut s authorization request oracle
        then 1 else 0) =
    s.world.finder.oracles.countP kind +
      if ∃ oracle, kind oracle = true ∧ service.Adds s authorization request oracle then 1 else 0

/-- The effect of a request: it leaves the registry alone, or it adds an oracle, or it takes
one out. -/
inductive Effect (service : HttpService T R) (s : RunningService T R) (authorization : JsString)
    (request : RouteRequest) : Prop
  | none
      (hfinder : (service.respond authorization request s).2.world.finder = s.world.finder)
      (hadapters : (service.respond authorization request s).2.adapters = s.adapters)
      (hadds : ∀ oracle, ¬ service.Adds s authorization request oracle)
      (htakes : ∀ oracle, ¬ service.TakesOut s authorization request oracle)
  | adds (oracle : Oracle)
      (horacles : (service.respond authorization request s).2.world.finder.oracles =
        s.world.finder.oracles ++ [oracle])
      (hcreated : service.settings.AllCreated s.adapters →
        service.settings.AllCreated (service.respond authorization request s).2.adapters)
      (hadds : ∀ other, service.Adds s authorization request other ↔ oracle = other)
      (htakes : ∀ other, ¬ service.TakesOut s authorization request other)
  | takesOut (oracle : Oracle) (id : String)
      (hfind : s.world.finder.oracles.find? (fun o => o.id = id) = some oracle)
      (horacles : (service.respond authorization request s).2.world.finder.oracles =
        s.world.finder.oracles.eraseP fun o => o.id = id)
      (hcreated : service.settings.AllCreated s.adapters →
        service.settings.AllCreated (service.respond authorization request s).2.adapters)
      (hadds : ∀ other, ¬ service.Adds s authorization request other)
      (htakes : ∀ other, service.TakesOut s authorization request other ↔ oracle = other)

/-- A request that is answered without asking the service has no effect. -/
theorem Effect.of_same
    (hsame : (service.respond authorization request s).2 = s)
    (hadds : ∀ oracle, ¬ service.Adds s authorization request oracle)
    (htakes : ∀ oracle, ¬ service.TakesOut s authorization request oracle) :
    Effect service s authorization request :=
  .none (by rw [hsame]) (by rw [hsame]) hadds htakes

section CreateOracle

variable {platformRoleIds : List String} {body : AddOracleDTO}
  {elsewhere : String → List JsString} {randomUUID : String}

theorem respond_createOracle
    (htoken : authenticationMiddleware service.tokenHelper authorization =
      some platformRoleIds) :
    (service.respond authorization (.createOracle body elsewhere randomUUID) s).2 =
      let outcome := service.routes.createOracle ⟨platformRoleIds, body, elsewhere⟩ randomUUID
        (service.settings.loaded service.participantService s.adapters) s.world
      ⟨outcome.2.1.oracleProvidersAdapters, outcome.2.2⟩ := by
  simp only [respond, respondStep, OracleAdminExpressRoutes.respond, htoken, handle]

omit [LinearOrder T] [Add T] in
/-- A request to create an oracle adds it when it gets through all the checks. -/
theorem adds_createOracle_iff
    (htoken : authenticationMiddleware service.tokenHelper authorization =
      some platformRoleIds) (oracle : Oracle) :
    service.Adds s authorization (.createOracle body elsewhere randomUUID) oracle ↔
      (service.routes.enforcePrivilege platformRoleIds createOraclePrivilege = .ok () ∧
        validCreateOracle ⟨platformRoleIds, body, elsewhere⟩ = true ∧
        Registers s.world.finder body randomUUID) ∧
      AccountLookupAggregate.newOracle body randomUUID = oracle := by
  constructor
  · rintro ⟨body', elsewhere', randomUUID', roles, hrequest, ⟨hroles, hholds⟩, hvalid,
      hregisters, hnew⟩
    obtain ⟨rfl, rfl, rfl⟩ := RouteRequest.createOracle.inj hrequest
    obtain rfl := Option.some.inj (htoken.symm.trans hroles)
    exact ⟨⟨hholds, hvalid, hregisters⟩, hnew⟩
  · rintro ⟨⟨hholds, hvalid, hregisters⟩, hnew⟩
    exact ⟨body, elsewhere, randomUUID, platformRoleIds, rfl, ⟨htoken, hholds⟩, hvalid,
      hregisters, hnew⟩

end CreateOracle

theorem effect_createOracle (s : RunningService T R) (authorization : JsString)
    (body : AddOracleDTO) (elsewhere : String → List JsString) (randomUUID : String) :
    Effect service s authorization (.createOracle body elsewhere randomUUID) := by
  have htakes : ∀ oracle, ¬ service.TakesOut s authorization
      (.createOracle body elsewhere randomUUID) oracle := by
    rintro oracle ⟨id, elsewhere', platformRoleIds, hrequest, -⟩
    cases hrequest
  cases htoken : authenticationMiddleware service.tokenHelper authorization with
  | none =>
    apply Effect.of_same ?_ ?_ htakes
    · simp only [respond, respondStep, OracleAdminExpressRoutes.respond, htoken]
      rfl
    · rintro oracle ⟨body', elsewhere', randomUUID', platformRoleIds, -, ⟨hroles, -⟩, -⟩
      cases htoken.symm.trans hroles
  | some platformRoleIds =>
    cases henforced : service.routes.enforcePrivilege platformRoleIds createOraclePrivilege with
    | error error =>
      apply Effect.of_same ?_ (fun oracle h => ?_) htakes
      · rw [respond_createOracle htoken]
        simp only [createOracle, henforced]
        rfl
      · cases henforced.symm.trans ((adds_createOracle_iff htoken oracle).mp h).1.1
    | ok value =>
      cases hvalid : validCreateOracle ⟨platformRoleIds, body, elsewhere⟩ with
      | false =>
        apply Effect.of_same ?_ (fun oracle h => ?_) htakes
        · rw [respond_createOracle htoken]
          simp only [createOracle, henforced, hvalid, Bool.false_eq_true, if_false]
          rfl
        · cases hvalid.symm.trans ((adds_createOracle_iff htoken oracle).mp h).1.2.1
      | true =>
        rcases service.settings.addOracle_cases service.participantService s.adapters s.world
          body randomUUID with ⟨hnot, error, hadd⟩ | ⟨hregisters, adapter, hbuilt, hadd⟩
        · apply Effect.of_same ?_ (fun oracle h => ?_) htakes
          · rw [respond_createOracle htoken]
            simp only [createOracle, henforced, hvalid, if_true, hadd]
            rfl
          · exact hnot ((adds_createOracle_iff htoken oracle).mp h).1.2.2
        · have hiff : ∀ other, service.Adds s authorization
              (.createOracle body elsewhere randomUUID) other ↔
                AccountLookupAggregate.newOracle body randomUUID = other :=
            fun other => (adds_createOracle_iff htoken other).trans
              (and_iff_right ⟨henforced, hvalid, hregisters⟩)
          by_cases hstarts : AdapterStarts s.world.builtin
              (AccountLookupAggregate.newOracle body randomUUID)
          · rw [hbuilt.starts (s.world.withOracles (s.world.finder.oracles ++
              [AccountLookupAggregate.newOracle body randomUUID])) hstarts] at hadd
            refine .adds _ ?_ (fun hall => ?_) hiff htakes
            · rw [respond_createOracle htoken]
              simp only [createOracle, henforced, hvalid, if_true, hadd]
              rfl
            · rw [respond_createOracle htoken]
              simp only [createOracle, henforced, hvalid, if_true, hadd]
              exact service.settings.allCreated_append hall (hbuilt.allCreated s.world)
          · obtain ⟨error, herror⟩ := hbuilt.fails (s.world.withOracles (s.world.finder.oracles ++
              [AccountLookupAggregate.newOracle body randomUUID])) hstarts
            rw [herror] at hadd
            refine .adds _ ?_ (fun hall => ?_) hiff htakes
            · rw [respond_createOracle htoken]
              simp only [createOracle, henforced, hvalid, if_true, hadd]
              rfl
            · rw [respond_createOracle htoken]
              simp only [createOracle, henforced, hvalid, if_true, hadd]
              exact hall

theorem effect_deleteOracle (s : RunningService T R) (authorization : JsString) (id : String)
    (elsewhere : List JsString) : Effect service s authorization (.deleteOracle id elsewhere) := by
  have hadds : ∀ oracle, ¬ service.Adds s authorization (.deleteOracle id elsewhere) oracle := by
    rintro oracle ⟨body, elsewhere', randomUUID, platformRoleIds, hrequest, -⟩
    cases hrequest
  cases htoken : authenticationMiddleware service.tokenHelper authorization with
  | none =>
    apply Effect.of_same ?_ hadds
    · rintro oracle ⟨id', elsewhere', platformRoleIds, -, ⟨hroles, -⟩, -⟩
      cases htoken.symm.trans hroles
    · simp only [respond, respondStep, OracleAdminExpressRoutes.respond, htoken]
      rfl
  | some platformRoleIds =>
    have hrespond : service.respond authorization (.deleteOracle id elsewhere) s =
        let outcome := service.routes.deleteOracle ⟨platformRoleIds, id, elsewhere⟩
          (service.settings.loaded service.participantService s.adapters) s.world
        (outcome.1, ⟨outcome.2.1.oracleProvidersAdapters, outcome.2.2⟩) := by
      simp only [respond, respondStep, OracleAdminExpressRoutes.respond, htoken, handle]
    have hrefused : ∀ reply : Reply, reply ≠ ⟨200, .empty⟩ →
        service.respond authorization (.deleteOracle id elsewhere) s = (reply, s) →
        Effect service s authorization (.deleteOracle id elsewhere) := by
      intro reply hreply hsame
      apply Effect.of_same (by rw [hsame]) hadds
      rintro oracle ⟨id', elsewhere', roles, hrequest, -, hreplied, -⟩
      rw [hsame] at hreplied
      exact hreply hreplied
    cases henforced : service.routes.enforcePrivilege platformRoleIds removeOraclePrivilege with
    | error error =>
      apply hrefused (errorReply error) (fun h => (by cases congrArg Reply.body h))
      rw [hrespond]
      simp only [deleteOracle, henforced]
      rfl
    | ok value =>
      cases hvalid : validDeleteOracle ⟨platformRoleIds, id, elsewhere⟩ with
      | false =>
        apply hrefused ⟨422, .validationErrors⟩ (fun h => (by cases congrArg Reply.body h))
        rw [hrespond]
        simp only [deleteOracle, henforced, hvalid, Bool.false_eq_true, if_false]
        rfl
      | true =>
        rcases service.settings.removeOracle_cases service.participantService s.adapters s.world
          id with ⟨-, error, hremove⟩ | ⟨hremoves, hremove⟩
        · by_cases hmissing : error.cls = .oracleNotFoundError
          · apply hrefused ⟨404, .error error.message⟩ (fun h => (by cases congrArg Reply.body h))
            rw [hrespond]
            simp only [deleteOracle, henforced, hvalid, if_true, hremove, if_pos hmissing]
            rfl
          · apply hrefused (errorReply error) (fun h => (by cases congrArg Reply.body h))
            rw [hrespond]
            simp only [deleteOracle, henforced, hvalid, if_true, hremove, if_neg hmissing]
            rfl
        · obtain ⟨found, hfind⟩ := hremoves.found
          have hdone : service.respond authorization (.deleteOracle id elsewhere) s =
              (⟨200, .empty⟩, ⟨s.adapters.filter fun o => o.oracleId ≠ id,
                s.world.withOracles (s.world.finder.oracles.eraseP fun o => o.id = id)⟩) := by
            rw [hrespond]
            simp only [deleteOracle, henforced, hvalid, if_true, hremove]
            rfl
          refine .takesOut found id hfind ?_ (fun hall => ?_) hadds fun other => ⟨?_, ?_⟩
          · rw [hdone]
            rfl
          · rw [hdone]
            exact fun adapter hadapter => hall adapter (List.mem_filter.mp hadapter).1
          · rintro ⟨id', elsewhere', roles, hrequest, -, -, hother⟩
            obtain ⟨rfl, -⟩ := RouteRequest.deleteOracle.inj hrequest
            exact Option.some.inj (hfind.symm.trans hother)
          · rintro rfl
            exact ⟨id, elsewhere, platformRoleIds, rfl, ⟨htoken, henforced⟩,
              congrArg Prod.fst hdone, hfind⟩

/-- Asking does not touch the registry. -/
theorem askingKeeps_finder {adapters : List (IOracleProviderAdapter (ServiceWorld T R))}
    (hall : service.settings.AllCreated adapters) (finder : FinderWorld) :
    (service.settings.loaded service.participantService adapters).AskingKeeps
      fun w => w.finder = finder := by
  refine ⟨fun id w hw => hw, fun partyType currency w hw => ?_,
    fun adapter hadapter partyType partyId partySubType currency w hw => ?_⟩
  · rwa [OracleAdapterFactory.getOracle_snd]
  · rcases builtin_or_remote hall hadapter with ⟨repo, rfl⟩ | ⟨oracle, rfl⟩
    · exact hw
    · exact hw

/-- The lookup route asks, at most. -/
theorem keeps_lookup {W : Type} {agg : AccountLookupAggregate W} {Inv : W → Prop} {w : W}
    (h : agg.AskingKeeps Inv) (hw : Inv w) (routes : OracleAdminExpressRoutes)
    (lookup : LookupRequest) :
    Inv (AccountLookupExpressRoutes.getAccountLookUp routes lookup agg w).2 := by
  rw [AccountLookupExpressRoutes.getAccountLookUp]
  have hasked := h.getAccountLookUp hw (AccountLookupExpressRoutes.accountIdentifier lookup)
  split
  · exact hw
  · split
    · rcases hcall : agg.getAccountLookUp (AccountLookupExpressRoutes.accountIdentifier lookup) w
        with ⟨error | result, w₁⟩
      · rw [hcall] at hasked
        dsimp only
        split
        · exact hasked
        · exact hasked
      · rwa [hcall] at hasked
    · exact hw

/-- **The effect of a request.** -/
theorem effect (hall : service.settings.AllCreated s.adapters) (authorization : JsString)
    (request : RouteRequest) : Effect service s authorization request := by
  have hneither : (∀ oracle, ¬ service.Adds s authorization request oracle) →
      (∀ oracle, ¬ service.TakesOut s authorization request oracle) →
      (∀ platformRoleIds,
        (service.routes.handle platformRoleIds request
          (service.settings.loaded service.participantService s.adapters) s.world).2.1 =
            service.settings.loaded service.participantService s.adapters ∧
          (service.routes.handle platformRoleIds request
            (service.settings.loaded service.participantService s.adapters)
            s.world).2.2.finder = s.world.finder) →
      Effect service s authorization request := by
    intro hadds htakes hkept
    cases htoken : authenticationMiddleware service.tokenHelper authorization with
    | none =>
      apply Effect.of_same ?_ hadds htakes
      simp only [respond, respondStep, OracleAdminExpressRoutes.respond, htoken]
      rfl
    | some platformRoleIds =>
      obtain ⟨hagg, hfinder⟩ := hkept platformRoleIds
      apply Effect.none ?_ ?_ hadds htakes
      · simp only [respond, respondStep, OracleAdminExpressRoutes.respond, htoken]
        exact hfinder
      · simp only [respond, respondStep, OracleAdminExpressRoutes.respond, htoken]
        rw [hagg]
        rfl
  have hread : request.OnlyReads → Effect service s authorization request := by
    intro hreads
    apply hneither
    · rintro oracle ⟨body, elsewhere, randomUUID, platformRoleIds, rfl, -⟩
      exact hreads
    · rintro oracle ⟨id, elsewhere, platformRoleIds, rfl, -⟩
      exact hreads
    · intro platformRoleIds
      have hkeeps : (service.settings.loaded service.participantService s.adapters).ReadingKeeps
          fun w => w.finder = s.world.finder :=
        readingKeeps hall fun baseURL url w hw => hw
      exact handle_of_onlyReads hkeeps rfl service.routes platformRoleIds hreads
  cases request with
  | createOracle body elsewhere randomUUID =>
    exact effect_createOracle s authorization body elsewhere randomUUID
  | deleteOracle id elsewhere => exact effect_deleteOracle s authorization id elsewhere
  | getAccountLookUp partyType partyId elsewhere query =>
    apply hneither
    · rintro oracle ⟨_, _, _, _, hrequest, -⟩
      cases hrequest
    · rintro oracle ⟨_, _, _, hrequest, -⟩
      cases hrequest
    · intro platformRoleIds
      exact ⟨rfl, keeps_lookup (askingKeeps_finder hall s.world.finder) rfl service.routes _⟩
  | getAllOracles => exact hread trivial
  | getAllBuiltinOracleAssociations => exact hread trivial
  | getAllOracleAssociations query => exact hread trivial
  | getOracleById id elsewhere => exact hread trivial
  | healthCheck id elsewhere => exact hread trivial
  | getSearchKeywords => exact hread trivial

theorem Effect.allCreated (h : Effect service s authorization request)
    (hall : service.settings.AllCreated s.adapters) :
    service.settings.AllCreated (service.respond authorization request s).2.adapters := by
  cases h with
  | none hfinder hadapters hadds htakes =>
    rw [hadapters]
    exact hall
  | adds oracle horacles hcreated hadds htakes => exact hcreated hall
  | takesOut oracle id hfind horacles hcreated hadds htakes => exact hcreated hall

theorem Effect.balances (h : Effect service s authorization request) (kind : Oracle → Bool) :
    service.Balances s authorization request kind := by
  classical
  have hnone : ∀ {P : Oracle → Prop}, (∀ oracle, ¬ P oracle) →
      ¬ ∃ oracle, kind oracle = true ∧ P oracle := by
    rintro P hP ⟨oracle, -, horacle⟩
    exact hP oracle horacle
  have hone : ∀ {P : Oracle → Prop} {only : Oracle}, (∀ other, P other ↔ only = other) →
      ((∃ oracle, kind oracle = true ∧ P oracle) ↔ kind only = true) := by
    intro P only hP
    simp only [hP, exists_eq_right']
  rw [Balances]
  cases h with
  | none hfinder hadapters hadds htakes =>
    rw [hfinder, if_neg (hnone hadds), if_neg (hnone htakes)]
  | adds added horacles hcreated hadds htakes =>
    rw [horacles, if_neg (hnone htakes), if_congr (hone hadds) rfl rfl, List.countP_append,
      List.countP_singleton, Nat.add_zero]
  | takesOut taken id hfind horacles hcreated hadds htakes =>
    rw [horacles, if_neg (hnone hadds), if_congr (hone htakes) rfl rfl, Nat.add_zero]
    exact countP_eraseP hfind kind

/-- A change that is handled leaves the registry alone. -/
theorem finder_of_handled {adapters : List (IOracleProviderAdapter (ServiceWorld T R))}
    (hall : service.settings.AllCreated adapters) {change : AssociationChange} {payload : Payload}
    {event : DomainEvent} {w w' : ServiceWorld T R}
    (h : (service.settings.loaded service.participantService adapters).Handled change payload w
      event w') : w'.finder = w.finder := by
  have hasking := askingKeeps_finder hall w.finder
  have hcalled : ∀ {adapter w₁ w₂},
      (service.settings.loaded service.participantService adapters).ParticipantPasses
        payload.ownerFspId w w₁ →
      (service.settings.loaded service.participantService adapters).RoutesTo
        (change.read payload.partyType) (change.read payload.currency) adapter w₁ w₂ →
      (change.call adapter payload w₂).2.finder = w.finder := by
    intro adapter w₁ w₂ hpass hroute
    obtain ⟨hfinder, -⟩ := OracleAdapterFactory.stores_of_participantPasses hpass
    obtain ⟨rfl, -⟩ := OracleAdapterFactory.routesTo_of_finder hroute hfinder
    obtain ⟨oracle, w₀, hcreate⟩ := hall adapter
      (List.mem_of_find?_eq_some hroute.choose_spec.2)
    cases htype : oracle.type with
    | builtin =>
      simp only [OracleAdapterFactory.create, htype, Prod.mk.injEq, Except.ok.injEq, and_true]
        at hcreate
      subst hcreate
      cases change with
      | associate => exact hfinder
      | disassociate => exact hfinder
    | remoteHttp =>
      simp only [OracleAdapterFactory.create, htype, Prod.mk.injEq, Except.ok.injEq, and_true]
        at hcreate
      subst hcreate
      cases change with
      | associate => exact hfinder
      | disassociate => exact hfinder
    | other value => simp [OracleAdapterFactory.create, htype] at hcreate
  cases h with
  | invalidOwner errorEvent hanswers hfail hworld =>
    rw [← hworld]
    exact hasking.validate rfl errorEvent _
  | unrouted w₁ hanswers hpass hnone hworld =>
    rw [← hworld, OracleAdapterFactory.getOracleAdapter_snd]
    exact (OracleAdapterFactory.stores_of_participantPasses hpass).1
  | refused adapter w₁ w₂ error hanswers hpass hroute hcall =>
    have hkept := hcalled hpass hroute
    rwa [hcall] at hkept
  | done adapter w₁ w₂ hanswers hpass hroute hcall =>
    have hkept := hcalled hpass hroute
    rwa [hcall] at hkept

theorem finder_handleEvent {adapters : List (IOracleProviderAdapter (ServiceWorld T R))}
    (hall : service.settings.AllCreated adapters) (message : IMessage) (w : ServiceWorld T R) :
    ((service.settings.loaded service.participantService adapters).handleEvent message
      w).2.finder = w.finder := by
  rcases (askingKeeps_finder hall w.finder).handleEvent rfl message with
    ⟨hkept, -⟩ | ⟨change, payload, event, -, hhandled⟩
  · exact hkept
  · exact finder_of_handled hall hhandled

theorem allCreated_sessionStep (hall : service.settings.AllCreated s.adapters)
    (a : SessionStep T R) : service.settings.AllCreated (service.sessionStep s a).adapters := by
  obtain ⟨meanwhile, call⟩ := a
  cases call with
  | none => exact hall
  | some call =>
    cases call with
    | message message => exact hall
    | request authorization request =>
      exact (effect (s := ⟨s.adapters, meanwhile s.world⟩) hall authorization
        request).allCreated hall

/-- A service whose tokens name the role of their caller, and whose operators have all
privileges. -/
def sampleHttpService : HttpService ℕ Unit where
  settings := sampleSettings
  participantService := sampleParticipants
  routes := ⟨fun roleId _ => roleId = "operator"⟩
  tokenHelper := ⟨fun accessToken => some [accessToken]⟩

def sampleService : RunningService ℕ Unit := ⟨[], sampleWorld⟩

/-- A request to register an oracle. -/
def sampleCreateOracle : RouteRequest :=
  .createOracle ⟨.str "1", .str "builtin", .builtin, .str "MSISDN", .null, .null⟩ (fun _ => []) "7"

/-- An auditor tries to register an oracle, an operator registers it, lists the oracles, and
tries to register it again. -/
def sampleSession : List (SessionStep ℕ Unit) :=
  [⟨id, some (.request (.str "Bearer auditor") sampleCreateOracle)⟩,
    ⟨id, some (.request (.str "Bearer operator") sampleCreateOracle)⟩,
    ⟨id, some (.request (.str "Bearer operator") .getAllOracles)⟩,
    ⟨id, some (.request (.str "Bearer operator") sampleCreateOracle)⟩]

section Registry

variable (service : HttpService T R) (oracle : Oracle)

/-- The call of the step registers the oracle. -/
def AddsIn (s : RunningService T R) (a : SessionStep T R) : Prop :=
  ∃ authorization request, a.call = some (.request authorization request) ∧
    service.Adds (a.met s) authorization request oracle

/-- The call of the step takes the oracle out of the registry. -/
def TakesOutIn (s : RunningService T R) (a : SessionStep T R) : Prop :=
  ∃ authorization request, a.call = some (.request authorization request) ∧
    service.TakesOut (a.met s) authorization request oracle

/-- At some step of the session, what is said of the step holds. -/
def Happens (P : RunningService T R → SessionStep T R → Prop) (s : RunningService T R)
    (steps : List (SessionStep T R)) : Prop :=
  ∃ before a after, steps = before ++ a :: after ∧ P (run service.sessionStep s before) a

variable {service oracle}

open Classical in
/-- **One step** of a session, during which nobody else writes to the registry. -/
theorem balances_sessionStep (hall : service.settings.AllCreated s.adapters)
    {a : SessionStep T R}
    (hquiet : (a.met s).world.finder.oracles = s.world.finder.oracles) (kind : Oracle → Bool) :
    (service.sessionStep s a).world.finder.oracles.countP kind +
        (if ∃ oracle, kind oracle = true ∧ service.TakesOutIn oracle s a then 1 else 0) =
      s.world.finder.oracles.countP kind +
        if ∃ oracle, kind oracle = true ∧ service.AddsIn oracle s a then 1 else 0 := by
  have hstill : (∀ authorization request, a.call ≠ some (.request authorization request)) →
      (service.sessionStep s a).world.finder.oracles = s.world.finder.oracles →
      (service.sessionStep s a).world.finder.oracles.countP kind +
          (if ∃ oracle, kind oracle = true ∧ service.TakesOutIn oracle s a then 1 else 0) =
        s.world.finder.oracles.countP kind +
          if ∃ oracle, kind oracle = true ∧ service.AddsIn oracle s a then 1 else 0 := by
    intro hcall hkept
    have htakes : ¬ ∃ oracle, kind oracle = true ∧ service.TakesOutIn oracle s a := by
      rintro ⟨oracle, -, authorization, request, hrequest, -⟩
      exact hcall authorization request hrequest
    have hadds : ¬ ∃ oracle, kind oracle = true ∧ service.AddsIn oracle s a := by
      rintro ⟨oracle, -, authorization, request, hrequest, -⟩
      exact hcall authorization request hrequest
    rw [hkept, if_neg htakes, if_neg hadds]
  cases hcall : a.call with
  | none =>
    apply hstill (fun authorization request h => (by cases hcall.symm.trans h))
    simp only [sessionStep, hcall]
    exact hquiet
  | some call =>
    cases call with
    | message message =>
      apply hstill (fun authorization request h => (by cases hcall.symm.trans h))
      simp only [sessionStep, hcall]
      rw [finder_handleEvent hall]
      exact hquiet
    | request authorization request =>
      have honly : ∀ P : JsString → RouteRequest → Oracle → Prop,
          (∃ oracle, kind oracle = true ∧ ∃ authorization request,
            a.call = some (.request authorization request) ∧ P authorization request oracle) ↔
              ∃ oracle, kind oracle = true ∧ P authorization request oracle := by
        intro P
        constructor
        · rintro ⟨oracle, hkind, authorization', request', hrequest, h⟩
          obtain ⟨rfl, rfl⟩ :=
            SessionCall.request.inj (Option.some.inj (hcall.symm.trans hrequest))
          exact ⟨oracle, hkind, h⟩
        · rintro ⟨oracle, hkind, h⟩
          exact ⟨oracle, hkind, authorization, request, hcall, h⟩
      have hbalances := (effect (s := a.met s) hall authorization request).balances kind
      rw [Balances, hquiet, ← if_congr (honly (service.TakesOut (a.met s))) rfl rfl,
        ← if_congr (honly (service.Adds (a.met s))) rfl rfl] at hbalances
      simp only [sessionStep, hcall]
      exact hbalances

open Classical in
/-- **The oracles of a kind are accounted for** in every session during which nobody else
writes to the registry. -/
theorem countP_run (hall : service.settings.AllCreated s.adapters) (kind : Oracle → Bool)
    (steps : List (SessionStep T R))
    (hquiet : Along service.sessionStep
      (fun s a => (a.met s).world.finder.oracles = s.world.finder.oracles) s steps) :
    (run service.sessionStep s steps).world.finder.oracles.countP kind +
        tally service.sessionStep
          (fun s a => ∃ oracle, kind oracle = true ∧ service.TakesOutIn oracle s a) s steps =
      s.world.finder.oracles.countP kind +
        tally service.sessionStep
          (fun s a => ∃ oracle, kind oracle = true ∧ service.AddsIn oracle s a) s steps :=
  measure_run_add_tally service.sessionStep
    (fun s => service.settings.AllCreated s.adapters)
    (fun s => s.world.finder.oracles.countP kind) _ _
    (fun _ a hall _ => allCreated_sessionStep hall a)
    (fun _ _ hall hquiet => balances_sessionStep hall hquiet kind) steps s hall hquiet

end Registry

open Classical in
/-- **The registry is accounted for.** In every session of a service that has loaded adapters of
its factory, as long as nobody else writes to the registry: of every oracle there are at the
end as many as at the start, and as many more as requests have registered, less those that
requests have taken out. So an oracle that is new was registered by a caller with the privilege
to create oracles, and one that is gone was taken out by a caller with the privilege to remove
them. -/
theorem registry_accounted_for (service : HttpService T R) (s : RunningService T R)
    (hall : service.settings.AllCreated s.adapters) (steps : List (SessionStep T R))
    (hquiet : Along service.sessionStep
      (fun s a => (a.met s).world.finder.oracles = s.world.finder.oracles) s steps)
    (oracle : Oracle) :
    ((run service.sessionStep s steps).world.finder.oracles.count oracle +
        tally service.sessionStep (service.TakesOutIn oracle) s steps =
      s.world.finder.oracles.count oracle +
        tally service.sessionStep (service.AddsIn oracle) s steps) ∧
    (oracle ∉ s.world.finder.oracles →
      oracle ∈ (run service.sessionStep s steps).world.finder.oracles →
      service.Happens (service.AddsIn oracle) s steps) ∧
    (oracle ∈ s.world.finder.oracles →
      oracle ∉ (run service.sessionStep s steps).world.finder.oracles →
      service.Happens (service.TakesOutIn oracle) s steps) := by
  have honly : ∀ {P : Oracle → RunningService T R → SessionStep T R → Prop} s a,
      (∃ other, (other == oracle) = true ∧ P other s a) ↔ P oracle s a := by
    intro P s a
    simp only [beq_iff_eq, exists_eq_left]
  have hbalance := countP_run hall (· == oracle) steps hquiet
  rw [tally_congr (honly (P := service.TakesOutIn)), tally_congr (honly (P := service.AddsIn)),
    ← List.count_eq_countP, ← List.count_eq_countP] at hbalance
  refine ⟨hbalance, fun hnew hend => ?_, fun hstart hgone => ?_⟩
  · apply tally_pos_iff.mp
    have hzero := List.count_eq_zero_of_not_mem hnew
    have hone := List.count_pos_iff.mpr hend
    omega
  · apply tally_pos_iff.mp
    have hzero := List.count_eq_zero_of_not_mem hgone
    have hone := List.count_pos_iff.mpr hstart
    omega

/-- The oracle that the operator registers. -/
def sampleOracle : Oracle := ⟨"1", .str "builtin", .builtin, .str "MSISDN", .null, .null⟩

theorem registry_accounted_for_sampleSession :
    sampleHttpService.Happens (sampleHttpService.AddsIn sampleOracle) sampleService
      sampleSession :=
  (registry_accounted_for sampleHttpService sampleService
    (fun adapter hadapter => (by cases hadapter)) sampleSession ⟨rfl, rfl, rfl, rfl, trivial⟩
    sampleOracle).2.1 (by decide) (by decide)

end HttpService

end AccountLookup
