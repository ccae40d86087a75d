/-
# The URLs of the lookup route

How the service reads the URL of a lookup. The router is mounted at `/account-lookup`, a
mount that takes a second slash with it; the route has two parameters, which are
percent-decoded one by one. The query string is cut into items and decoded leniently: a
malformed escape leaves the whole text as it is. Names in brackets make the query library
build nested values, and what it builds is left open.
-/

import Mathlib.Data.List.Infix
import AccountLookup.ClientLib.AccountLookupHttpClient
import AccountLookup.Service.AccountLookupRoutes

namespace AccountLookup

open Library UrlText PercentDecoding UrlReference

/-- What the handler and the validation read of `req.query`: the text of a value, if there
is one, and the values that are checked. -/
structure ParsedQuery where
  text : String → Option String
  checked : String → List JsString

namespace ParsedQuery

/-- The text of a name or a value. -/
def decodeText (text : List Char) : List Char :=
  (decode (text.map plusAsSpace)).getD (text.map plusAsSpace)

/-- The number of items that are read. -/
def parameterLimit : Nat := 1000

/-- The values that the items give a name, in order. -/
def valuesOf (query name : List Char) : List (List Char) :=
  ((query.splitOn '&').take parameterLimit).filterMap fun item =>
    if decodeText (before '=' item) = name then some (decodeText (after '=' item)) else none

/-- The text of the values of a name: several are an array, written with commas. -/
def textOf : List (List Char) → Option String
  | [] => none
  | values => some (String.ofList ([','].intercalate values))

/-- A query string without names in brackets. An array is no string, so it fails every
check. -/
def flat (query : List Char) : ParsedQuery where
  text name := textOf (valuesOf query name.toList)
  checked name :=
    match valuesOf query name.toList with
    | [] => []
    | [value] => [.str (String.ofList value)]
    | _ => [.null]

theorem text_flat (query : List Char) (name : String) :
    (flat query).text name = textOf (valuesOf query name.toList) := rfl

/-- The query string has a bracket in a name, an item that is cut at `]=` instead of the
first `=`, or an escaped bracket, which is read before anything else. -/
def UsesBrackets (query : List Char) : Prop :=
  (∃ item ∈ query.splitOn '&', "]=".toList <:+: item ∨ '[' ∈ before '=' item) ∨
    "%5b".toList <:+: query.map Char.toLower ∨ "%5d".toList <:+: query.map Char.toLower

instance : DecidablePred UsesBrackets := fun query => by
  unfold UsesBrackets
  infer_instance

/-- Without brackets and escapes, no name is in brackets. -/
theorem not_usesBrackets {query : List Char} (hopen : '[' ∉ query) (hclose : ']' ∉ query)
    (hescape : '%' ∉ query.map Char.toLower) : ¬ UsesBrackets query := by
  have hjoin : ['&'].intercalate (query.splitOn '&') = query := List.intercalate_splitOn '&'
  have hitem : ∀ item ∈ query.splitOn '&', item ⊆ query := fun item hmem =>
    hjoin ▸ subset_intercalate hmem
  rintro (⟨item, hmem, hcut | hname⟩ | hbracket | hbracket)
  · exact hclose (hitem item hmem (hcut.subset (by decide)))
  · exact hopen (hitem item hmem (before_isPrefix.subset hname))
  · exact hescape (hbracket.subset (by decide))
  · exact hescape (hbracket.subset (by decide))

end ParsedQuery

/-- The query library: what it builds when there are brackets, unless reading the values of
the lookup throws. -/
structure QueryLibrary where
  bracketed : (query : List Char) → Option ParsedQuery

/-- `req.query`. -/
def QueryLibrary.parse (library : QueryLibrary) (query : List Char) : Option ParsedQuery :=
  if ParsedQuery.UsesBrackets query then library.bracketed query else some (.flat query)

namespace AccountLookupExpressRoutes

/-- The parameters of `/:partyType/:partyId` below `/account-lookup` in the segments of a
path. The framework ignores the case of the fixed part and a slash at the end. -/
def matchSegments : List (List Char) → Option (List Char × List Char)
  | [] :: mount :: rest =>
    if mount.map Char.toLower = "account-lookup".toList then
      match if rest.head? = some [] then rest.tail else rest with
      | partyType :: partyId :: rest =>
        if partyType ≠ [] ∧ partyId ≠ [] ∧ (rest = [] ∨ rest = [[]]) then
          some (partyType, partyId)
        else none
      | _ => none
    else none
  | _ => none

/-- The request that reaches the handler, unless the path does not match or an escape in it
is malformed. Of the places that are checked, a client fills the path and the query. -/
def receive (library : QueryLibrary) (platformRoleIds : List String) (url : Target) :
    Option LookupRequest :=
  match matchSegments (url.path.splitOn '/') with
  | none => none
  | some (partyType, partyId) =>
    match decode partyType, decode partyId, library.parse (url.query.getD []) with
    | some partyType, some partyId, some query =>
      some
        { platformRoleIds := platformRoleIds
          partyType := String.ofList partyType
          partyId := String.ofList partyId
          elsewhere := query.checked
          query := query.text }
    | _, _, _ => none

/-- The party for which the handler asks the aggregate. -/
def askedFor (routes : AccountLookupExpressRoutes) (request : LookupRequest) : Option Party :=
  match routes.enforcePrivilege request.platformRoleIds
    viewAllOracleAssociationsPrivilege with
  | .error _ => none
  | .ok _ => if validGetAccountLookUp request then some (accountIdentifier request) else none

end AccountLookupExpressRoutes

/-- What a client reads of a reply. -/
def Reply.fetched (reply : Reply) : FetchResponse where
  status := reply.status
  json :=
    match reply.body with
    | .fspId fspId => .ok ⟨fspId, .undefined⟩
    | .error msg => .ok ⟨.undefined, .str msg⟩
    | _ => .ok ⟨.undefined, .undefined⟩

/-- The service as a client sees it: the lookup routes, the helper for access tokens, the
query library, and what is answered when a URL does not reach the lookup. -/
structure LookupService where
  routes : AccountLookupExpressRoutes
  tokenHelper : ITokenHelper
  library : QueryLibrary
  otherwise : (url : Target) → FetchResponse

namespace LookupService

variable {W : Type} (service : LookupService)

/-- The request that reaches the lookup. -/
def received (authorization : JsString) (url : Target) : Option LookupRequest :=
  (authenticationMiddleware service.tokenHelper authorization).bind fun platformRoleIds =>
    AccountLookupExpressRoutes.receive service.library platformRoleIds url

def respond (authorization : JsString) (agg : AccountLookupAggregate W) (url : Target) (w : W) :
    FetchResponse × W :=
  match service.received authorization url with
  | none => (service.otherwise url, w)
  | some request =>
    let outcome := AccountLookupExpressRoutes.getAccountLookUp service.routes request agg w
    (outcome.1.fetched, outcome.2)

/-- A requester that reaches the service and fails in no other way. -/
def requester (authorization : JsString) (agg : AccountLookupAggregate W) :
    IAuthenticatedHttpRequester W where
  fetch url w :=
    let response := service.respond authorization agg url w
    (.ok response.1, response.2)

/-- The party for which the aggregate is asked. -/
def asked (authorization : JsString) (url : Target) : Option Party :=
  (service.received authorization url).bind
    (AccountLookupExpressRoutes.askedFor service.routes)

end LookupService

end AccountLookup
