/-
# The lookup route

The handler of `GET /:partyType/:partyId`, and the authentication that comes before the
handlers of both routers: a request is let through when its authorization header is a
scheme and a token, and the token is accepted.
-/

import AccountLookup.Domain.LookupEntryPoints
import AccountLookup.Service.OracleAdminRoutes

namespace AccountLookup

/-- A request to look a party up. -/
structure LookupRequest where
  platformRoleIds : List String
  partyType : String
  partyId : String
  /-- What the body, the cookies, the headers and the query hold under a name. -/
  elsewhere : String → List JsString
  /-- What the query holds under a name, as text. -/
  query : String → Option String

/-- Both routers extend the same base. -/
abbrev AccountLookupExpressRoutes := OracleAdminExpressRoutes

/-- What the token helper says of an access token: the platform roles of the caller, if it
accepts the token. -/
structure ITokenHelper where
  getCallSecurityContextFromAccessToken : (accessToken : String) → Option (List String)

/-- The middleware in front of the routes: the roles of the caller, or no entry. -/
def authenticationMiddleware (tokenHelper : ITokenHelper) (authorization : JsString) :
    Option (List String) :=
  match authorization.nonEmpty? with
  | none => none
  | some authorizationHeader =>
    let trimmed :=
      ((authorizationHeader.toList.dropWhile isWhiteSpace).reverse.dropWhile isWhiteSpace).reverse
    match trimmed.splitOn ' ' with
    | [_, bearerToken] =>
      tokenHelper.getCallSecurityContextFromAccessToken (String.ofList bearerToken)
    | _ => none

namespace AccountLookupExpressRoutes

open OracleAdminExpressRoutes

variable {W : Type} (routes : AccountLookupExpressRoutes)

def validGetAccountLookUp (request : LookupRequest) : Bool :=
  check (.str request.partyId :: request.elsewhere "partyId") JsString.truthy &&
    check (.str request.partyType :: request.elsewhere "partyType") JsString.truthy

/-- The party that a request asks for. -/
def accountIdentifier (request : LookupRequest) : Party where
  partyType := request.partyType
  partyId := request.partyId
  partySubType := request.query "partySubType"
  currency := request.query "currency"

def getAccountLookUp (request : LookupRequest) (agg : AccountLookupAggregate W) (w : W) :
    Reply × W :=
  match routes.enforcePrivilege request.platformRoleIds viewAllOracleAssociationsPrivilege with
  | .error error => (errorReply error, w)
  | .ok _ =>
    if validGetAccountLookUp request then
      match agg.getAccountLookUp (accountIdentifier request) w with
      | (.error error, w) =>
        if error.cls = .participantNotFoundError then (⟨404, .error error.message⟩, w)
        else (errorReply error, w)
      | (.ok result, w) => (⟨200, .fspId result⟩, w)
    else (⟨422, .validationErrors⟩, w)

end AccountLookupExpressRoutes

end AccountLookup
