/-
# The administration routes for oracles

The handlers of the routes below `/oracles`, with the privilege check and the
validation in front of them.
-/

import AccountLookup.Domain.Administration
import AccountLookup.Domain.AdminReads
import AccountLookup.Service.RequestValidation

namespace AccountLookup

/-- A request to register an oracle with a body of the declared type. No check makes sure of
that for the id, the currency and the endpoint. -/
structure CreateOracleRequest where
  platformRoleIds : List String
  body : AddOracleDTO
  /-- What the cookies, the headers, the path and the query hold under a name. -/
  elsewhere : String → List JsString

/-- The kind that a property value stands for. -/
def OracleType.ofJs (value : JsString) : OracleType :=
  if h : value ∈ supportedOracleTypes then
    if value = .str "builtin" then .builtin else .remoteHttp
  else .other ⟨value, h⟩

/-- A request to register an oracle, as it arrives: with the places that hold the fields that
are checked, and what the body holds under the others. -/
structure RegistrationRequest where
  platformRoleIds : List String
  name : FieldLocations
  type : FieldLocations
  partyType : FieldLocations
  id : Option JsonValue
  currency : Option JsonValue
  endpoint : Option JsonValue

namespace RegistrationRequest

/-- What is not checked has the declared type nevertheless. -/
structure HasDeclaredTypes (request : RegistrationRequest) : Prop where
  id : HasDeclaredType request.id
  currency : HasDeclaredType request.currency
  endpoint : HasDeclaredType request.endpoint

/-- The body of the request, read as its declared type, and what the other places hold. -/
def toCreateOracle (request : RegistrationRequest) : CreateOracleRequest where
  platformRoleIds := request.platformRoleIds
  body :=
    { id := .ofJson request.id
      name := .ofJson request.name.body
      type := .ofJs (.ofJson request.type.body)
      partyType := .ofJson request.partyType.body
      currency := .ofJson request.currency
      endpoint := .ofJson request.endpoint }
  elsewhere field :=
    if field = "name" then request.name.elsewhere
    else if field = "type" then request.type.elsewhere
    else if field = "partyType" then request.partyType.elsewhere
    else []

end RegistrationRequest

/-- A request to remove an oracle. -/
structure DeleteOracleRequest where
  platformRoleIds : List String
  id : String
  /-- What the body, the cookies, the headers and the query hold under `id`. -/
  elsewhere : List JsString

/-- The other routes of one oracle take the same request. -/
abbrev OracleIdRequest := DeleteOracleRequest

/-- A request to search the associations. -/
structure SearchRequest where
  platformRoleIds : List String
  /-- What the query holds under a name. -/
  query : String → JsString

/-- The body of a reply. -/
inductive ReplyBody
  | empty
  | createdId (id : String)
  | error (msg : String)
  | validationErrors
  | unauthorized
  | oracles (oracles : List Oracle)
  | oracle (oracle : Oracle)
  | health (healthy : Bool)
  | associations (associations : List Association)
  | searchResults (results : Option AssociationsSearchResults)
  | searchKeywords (keywords : List SearchKeywords)
  | fspId (fspId : JsString)

/-- A reply: its status and its body. -/
structure Reply where
  status : Nat
  body : ReplyBody

def viewAllOraclesPrivilege : String := "ACCOUNT_LOOKUP_VIEW_ALL_ORACLES"
def createOraclePrivilege : String := "ACCOUNT_LOOKUP_CREATE_ORACLE"
def removeOraclePrivilege : String := "ACCOUNT_LOOKUP_REMOVE_ORACLE"
def viewAllOracleAssociationsPrivilege : String := "ACCOUNT_LOOKUP_VIEW_ALL_ORACLE_ASSOCIATIONS"

/-- The routes: what the authorization client says of a role and a privilege. -/
structure OracleAdminExpressRoutes where
  roleHasPrivilege : (roleId privilegeId : String) → Bool

namespace OracleAdminExpressRoutes

variable (routes : OracleAdminExpressRoutes)

def enforcePrivilege (platformRoleIds : List String) (privilegeId : String) :
    Except JsError Unit :=
  if platformRoleIds.any fun roleId => routes.roleHasPrivilege roleId privilegeId then .ok ()
  else
    .error ⟨.forbiddenError,
      s!"Caller is missing platform role with privilegeId: {privilegeId}"⟩

/-- The status of an error that a handler catches. -/
def errorStatus (error : JsError) : Nat :=
  if error.cls = .unauthorizedError then 401
  else if error.cls = .forbiddenError then 403
  else 500

def errorReply (error : JsError) : Reply := ⟨errorStatus error, .error error.message⟩

def validCreateOracle (request : CreateOracleRequest) : Bool :=
  check (request.body.name :: request.elsewhere "name") JsString.truthy &&
    check (request.body.type.toJs :: request.elsewhere "type")
      (fun type => type ∈ supportedOracleTypes) &&
    check (request.body.partyType :: request.elsewhere "partyType") JsString.truthy

def validDeleteOracle (request : DeleteOracleRequest) : Bool :=
  check (.str request.id :: request.elsewhere) JsString.truthy

variable {W : Type}

def createOracle (request : CreateOracleRequest) (randomUUID : String)
    (agg : AccountLookupAggregate W) (w : W) : Reply × AccountLookupAggregate W × W :=
  match routes.enforcePrivilege request.platformRoleIds createOraclePrivilege with
  | .error error => (errorReply error, agg, w)
  | .ok _ =>
    if validCreateOracle request then
      match agg.addOracle request.body randomUUID w with
      | (.error error, agg, w) => (errorReply error, agg, w)
      | (.ok createdId, agg, w) => (⟨200, .createdId createdId⟩, agg, w)
    else (⟨422, .validationErrors⟩, agg, w)

def deleteOracle (request : DeleteOracleRequest) (agg : AccountLookupAggregate W) (w : W) :
    Reply × AccountLookupAggregate W × W :=
  match routes.enforcePrivilege request.platformRoleIds removeOraclePrivilege with
  | .error error => (errorReply error, agg, w)
  | .ok _ =>
    if validDeleteOracle request then
      match agg.removeOracle request.id w with
      | (.error error, agg, w) =>
        if error.cls = .oracleNotFoundError then (⟨404, .error error.message⟩, agg, w)
        else (errorReply error, agg, w)
      | (.ok _, agg, w) => (⟨200, .empty⟩, agg, w)
    else (⟨422, .validationErrors⟩, agg, w)

/-- The reply to what a call answers. -/
def reply {α : Type} (body : α → Reply) (outcome : Except JsError α × W) : Reply × W :=
  match outcome with
  | (.error error, w) => (errorReply error, w)
  | (.ok value, w) => (body value, w)

/-- A handler that only reads, behind the check of a privilege. -/
def permitted (platformRoleIds : List String) (privilegeId : String) (handle : W → Reply × W)
    (w : W) : Reply × W :=
  match routes.enforcePrivilege platformRoleIds privilegeId with
  | .error error => (errorReply error, w)
  | .ok _ => handle w

def getAllOracles (platformRoleIds : List String) (agg : AccountLookupAggregate W) :
    W → Reply × W :=
  routes.permitted platformRoleIds viewAllOraclesPrivilege fun w =>
    reply (fun fetched => ⟨200, .oracles fetched⟩) (agg.getAllOracles w)

def getAllBuiltinOracleAssociations (platformRoleIds : List String)
    (agg : AccountLookupAggregate W) : W → Reply × W :=
  routes.permitted platformRoleIds viewAllOracleAssociationsPrivilege fun w =>
    reply (fun fetched => ⟨200, .associations fetched⟩) (agg.getBuiltInOracleAssociations w)

def getOracleById (request : OracleIdRequest) (agg : AccountLookupAggregate W) : W → Reply × W :=
  routes.permitted request.platformRoleIds viewAllOraclesPrivilege fun w =>
    if validDeleteOracle request then
      reply
        (fun
          | none => ⟨404, .error "Oracle not found"⟩
          | some fetched => ⟨200, .oracle fetched⟩)
        (agg.getOracleById request.id w)
    else (⟨422, .validationErrors⟩, w)

/-- The only handler without the check of a privilege. -/
def healthCheck (request : OracleIdRequest) (agg : AccountLookupAggregate W) (w : W) :
    Reply × W :=
  if validDeleteOracle request then
    match agg.healthCheck request.id w with
    | (.error error, w) =>
      if error.cls = .oracleNotFoundError then (⟨404, .error error.message⟩, w)
      else (errorReply error, w)
    | (.ok fetched, w) => (⟨200, .health fetched⟩, w)
  else (⟨422, .validationErrors⟩, w)

/-- The first spelling of a parameter that is in the query, as a whole number. -/
def pageParameter (query : String → JsString) (name lowerCaseName : String) : Option JsNumber :=
  (((query name).nonEmpty?).or (query lowerCaseName).nonEmpty?).map parseInt

/-- A parameter that is empty or missing is `null`. -/
def searchParameter (query : String → JsString) (name : String) : JsString :=
  JsString.ofOption (query name).nonEmpty?

def getAllOracleAssociations (request : SearchRequest) (agg : AccountLookupAggregate W) :
    W → Reply × W :=
  routes.permitted request.platformRoleIds viewAllOracleAssociationsPrivilege fun w =>
    reply (fun results => ⟨200, .searchResults results⟩)
      (agg.getAllOracleAssociations
        (searchParameter request.query "fspId")
        (searchParameter request.query "partyId")
        (searchParameter request.query "partyType")
        (searchParameter request.query "partySubType")
        (searchParameter request.query "currency")
        (pageParameter request.query "pageIndex" "pageindex")
        (pageParameter request.query "pageSize" "pagesize") w)

def getSearchKeywords (platformRoleIds : List String) (agg : AccountLookupAggregate W) :
    W → Reply × W :=
  routes.permitted platformRoleIds viewAllOracleAssociationsPrivilege fun w =>
    reply (fun keywords => ⟨200, .searchKeywords keywords⟩) (agg.getSearchKeywords w)

/-- A registration request that is permitted and valid leaves the world that its call
leaves; any other changes nothing. -/
theorem createOracle_world_cases (request : CreateOracleRequest) (randomUUID : String)
    (agg : AccountLookupAggregate W) (w : W) :
    (routes.enforcePrivilege request.platformRoleIds createOraclePrivilege = .ok () ∧
        validCreateOracle request = true ∧
        (routes.createOracle request randomUUID agg w).2.2 =
          (agg.addOracle request.body randomUUID w).2.2) ∨
      ¬ (routes.enforcePrivilege request.platformRoleIds createOraclePrivilege = .ok () ∧
          validCreateOracle request = true) ∧
        (routes.createOracle request randomUUID agg w).2.2 = w := by
  rw [createOracle]
  cases routes.enforcePrivilege request.platformRoleIds createOraclePrivilege with
  | error error => exact Or.inr ⟨fun h => (by cases h.1), rfl⟩
  | ok value =>
    cases validCreateOracle request with
    | false => exact Or.inr ⟨fun h => (by cases h.2), rfl⟩
    | true =>
      refine Or.inl ⟨rfl, rfl, ?_⟩
      rcases agg.addOracle request.body randomUUID w with ⟨_ | _, _, _⟩ <;> rfl

/-- The same of a removal. -/
theorem deleteOracle_world_cases (request : DeleteOracleRequest)
    (agg : AccountLookupAggregate W) (w : W) :
    (routes.enforcePrivilege request.platformRoleIds removeOraclePrivilege = .ok () ∧
        validDeleteOracle request = true ∧
        (routes.deleteOracle request agg w).2.2 = (agg.removeOracle request.id w).2.2) ∨
      ¬ (routes.enforcePrivilege request.platformRoleIds removeOraclePrivilege = .ok () ∧
          validDeleteOracle request = true) ∧
        (routes.deleteOracle request agg w).2.2 = w := by
  rw [deleteOracle]
  cases routes.enforcePrivilege request.platformRoleIds removeOraclePrivilege with
  | error error => exact Or.inr ⟨fun h => (by cases h.1), rfl⟩
  | ok value =>
    cases validDeleteOracle request with
    | false => exact Or.inr ⟨fun h => (by cases h.2), rfl⟩
    | true =>
      refine Or.inl ⟨rfl, rfl, ?_⟩
      rw [if_pos rfl]
      rcases agg.removeOracle request.id w with ⟨error | _, _, _⟩
      · dsimp only
        split <;> rfl
      · rfl

end OracleAdminExpressRoutes

end AccountLookup
