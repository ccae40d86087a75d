/-
# Callers without privileges

Two runs of one request, on two services that may differ in their registry, their
adapters and their stores. A caller none of whose roles has a privilege learns nothing
when the replies are the same, and changes nothing when both services are left as they
are. Every route is like that but the health check, which asks for no privilege.
-/

import AccountLookup.Service.AccountLookupRoutes
import AccountLookup.Service.RegistryRuns

namespace AccountLookup

/-- A request to one of the routes, without its caller. -/
inductive RouteRequest
  | getAllOracles
  | getAllBuiltinOracleAssociations
  | getAllOracleAssociations (query : String → JsString)
  | getOracleById (id : String) (elsewhere : List JsString)
  | deleteOracle (id : String) (elsewhere : List JsString)
  | createOracle (body : AddOracleDTO) (elsewhere : String → List JsString) (randomUUID : String)
  | healthCheck (id : String) (elsewhere : List JsString)
  | getSearchKeywords
  | getAccountLookUp (partyType partyId : String) (elsewhere : String → List JsString)
      (query : String → Option String)

namespace OracleAdminExpressRoutes

section Respond

variable {W : Type} (routes : OracleAdminExpressRoutes)

/-- The handler of a request, for a caller with the given roles. -/
def handle (platformRoleIds : List String) (request : RouteRequest)
    (agg : AccountLookupAggregate W) (w : W) : Reply × AccountLookupAggregate W × W :=
  match request with
  | .getAllOracles =>
    let outcome := routes.getAllOracles platformRoleIds agg w
    (outcome.1, agg, outcome.2)
  | .getAllBuiltinOracleAssociations =>
    let outcome := routes.getAllBuiltinOracleAssociations platformRoleIds agg w
    (outcome.1, agg, outcome.2)
  | .getAllOracleAssociations query =>
    let outcome := routes.getAllOracleAssociations ⟨platformRoleIds, query⟩ agg w
    (outcome.1, agg, outcome.2)
  | .getOracleById id elsewhere =>
    let outcome := routes.getOracleById ⟨platformRoleIds, id, elsewhere⟩ agg w
    (outcome.1, agg, outcome.2)
  | .deleteOracle id elsewhere => routes.deleteOracle ⟨platformRoleIds, id, elsewhere⟩ agg w
  | .createOracle body elsewhere randomUUID =>
    routes.createOracle ⟨platformRoleIds, body, elsewhere⟩ randomUUID agg w
  | .healthCheck id elsewhere =>
    let outcome := healthCheck ⟨platformRoleIds, id, elsewhere⟩ agg w
    (outcome.1, agg, outcome.2)
  | .getSearchKeywords =>
    let outcome := routes.getSearchKeywords platformRoleIds agg w
    (outcome.1, agg, outcome.2)
  | .getAccountLookUp partyType partyId elsewhere query =>
    let outcome := AccountLookupExpressRoutes.getAccountLookUp routes
      ⟨platformRoleIds, partyType, partyId, elsewhere, query⟩ agg w
    (outcome.1, agg, outcome.2)

/-- The response to a request with an authorization header. -/
def respond (tokenHelper : ITokenHelper) (authorization : JsString) (request : RouteRequest)
    (agg : AccountLookupAggregate W) (w : W) : Reply × AccountLookupAggregate W × W :=
  match authenticationMiddleware tokenHelper authorization with
  | none => (⟨401, .unauthorized⟩, agg, w)
  | some platformRoleIds => routes.handle platformRoleIds request agg w

variable {routes}

end Respond

section TwoServices

variable {T R : Type} [LinearOrder T] [Add T] (settings : OracleAdapterFactory T R)
  (participantService : IParticipantServiceAdapter R) (routes : OracleAdminExpressRoutes)

/-- The response of a running service to a request, and the service after it. -/
def respondStep (tokenHelper : ITokenHelper) (authorization : JsString) (request : RouteRequest)
    (s : RunningService T R) : Reply × RunningService T R :=
  let outcome := routes.respond tokenHelper authorization request
    (settings.loaded participantService s.adapters) s.world
  (outcome.1, ⟨outcome.2.1.oracleProvidersAdapters, outcome.2.2⟩)

variable {settings participantService routes}

end TwoServices

end OracleAdminExpressRoutes

end AccountLookup
