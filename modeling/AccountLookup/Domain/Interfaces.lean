/-
# Entities and interfaces of the domain library

The registry entries and associations that the aggregate works with, and the
interfaces it reaches the outside through: the oracle finder, the oracle
provider adapters, the factory that builds them and the participant service.
Each interface is a record of calls on a common world, so an implementation is a
value of it and an arbitrary value is an arbitrary implementation.
-/

import AccountLookup.Basic

namespace AccountLookup

/-- The names of the two kinds of oracle. -/
def supportedOracleTypes : List JsString := [.str "builtin", .str "remote-http"]

/-- The kinds of oracle, and the other values that may turn up at run time, which
the factory's last branch rejects. -/
inductive OracleType
  | builtin
  | remoteHttp
  | other (value : { value : JsString // value ∉ supportedOracleTypes })
  deriving DecidableEq

/-- The property value that a kind is written as. -/
def OracleType.toJs : OracleType → JsString
  | .builtin => .str "builtin"
  | .remoteHttp => .str "remote-http"
  | .other value => value

/-- An entry of the oracle registry. -/
structure Oracle where
  id : String
  name : JsString
  type : OracleType
  partyType : JsString
  currency : JsString
  endpoint : JsString
  deriving DecidableEq

/-- The body of a request to register an oracle. -/
structure AddOracleDTO where
  id : JsString
  name : JsString
  type : OracleType
  partyType : JsString
  currency : JsString
  endpoint : JsString
  deriving DecidableEq

/-- An association between a participant and a party identifier. -/
structure Association where
  fspId : JsString
  partyType : JsString
  partyId : JsString
  partySubType : JsString
  currency : JsString
  deriving DecidableEq

/-- A party identifier as callers give it: the optional properties are `null` or a
string. -/
structure Party where
  partyType : String
  partyId : String
  partySubType : Option String
  currency : Option String
  deriving DecidableEq

/-- A page of associations found by a search. -/
structure AssociationsSearchResults where
  pageSize : JsNumber
  pageIndex : JsNumber
  totalPages : JsNumber
  items : List Association
  deriving DecidableEq

/-- What the associations hold under the name of a property. -/
structure SearchKeywords where
  fieldName : String
  distinctTerms : List JsString
  deriving DecidableEq

/-- The record of the party and a participant. -/
def Party.record (party : Party) (fspId : JsString) : Association :=
  ⟨fspId, .str party.partyType, .str party.partyId, .ofOption party.partySubType,
    .ofOption party.currency⟩

/-- What the aggregate reads of a participant. -/
structure IParticipant where
  id : String
  approved : Bool
  isActive : Bool
  deriving DecidableEq

/-- The participant service. -/
structure IParticipantServiceAdapter (W : Type) where
  getParticipantInfo : (fspId : String) → Call W (Option IParticipant)

/-- The oracle registry. -/
structure IOracleFinder (W : Type) where
  init : Call W Unit
  destroy : Call W Unit
  addOracle : (oracle : Oracle) → Call W Unit
  removeOracle : (id : String) → Call W Unit
  getAllOracles : Call W (List Oracle)
  getOracleById : (id : String) → Call W (Option Oracle)
  getOracleByName : (name : JsString) → Call W (Option Oracle)
  getOracle : (partyType currency : JsString) → Call W (Option Oracle)

/-- An oracle that answers which participant owns a party identifier. A search may
throw before there is a promise to reject, so its rejections are results of the call. -/
structure IOracleProviderAdapter (W : Type) where
  oracleId : String
  type : OracleType
  init : Call W Unit
  destroy : Call W Unit
  healthCheck : Call W Bool
  getParticipantFspId : (partyType partyId partySubType currency : JsString) → Call W JsString
  associateParticipant :
    (fspId partyType partyId partySubType currency : JsString) → Call W Unit
  disassociateParticipant :
    (fspId partyType partyId partySubType currency : JsString) → Call W Unit
  getAllAssociations : Call W (List Association)
  searchAssociations : (fspId partyId partyType partySubType currency : JsString) →
    (pageIndex pageSize : Option JsNumber) → Call W (Except JsError AssociationsSearchResults)
  getSearchKeywords : Call W (Except JsError (List SearchKeywords))

/-- Builds the adapter of a registered oracle. -/
structure IOracleProviderFactory (W : Type) where
  create : (oracle : Oracle) → Call W (IOracleProviderAdapter W)

/-- A participant service that lives in one component of the world. -/
def IParticipantServiceAdapter.on {W C : Type} (part : Component W C)
    (service : IParticipantServiceAdapter C) : IParticipantServiceAdapter W where
  getParticipantInfo fspId := (service.getParticipantInfo fspId).on part

/-- A finder that lives in one component of the world. -/
def IOracleFinder.on {W C : Type} (part : Component W C) (finder : IOracleFinder C) :
    IOracleFinder W where
  init := finder.init.on part
  destroy := finder.destroy.on part
  addOracle oracle := (finder.addOracle oracle).on part
  removeOracle id := (finder.removeOracle id).on part
  getAllOracles := finder.getAllOracles.on part
  getOracleById id := (finder.getOracleById id).on part
  getOracleByName name := (finder.getOracleByName name).on part
  getOracle partyType currency := (finder.getOracle partyType currency).on part

/-- An adapter that lives in one component of the world. -/
def IOracleProviderAdapter.on {W C : Type} (part : Component W C)
    (adapter : IOracleProviderAdapter C) : IOracleProviderAdapter W where
  oracleId := adapter.oracleId
  type := adapter.type
  init := adapter.init.on part
  destroy := adapter.destroy.on part
  healthCheck := adapter.healthCheck.on part
  getParticipantFspId partyType partyId partySubType currency :=
    (adapter.getParticipantFspId partyType partyId partySubType currency).on part
  associateParticipant fspId partyType partyId partySubType currency :=
    (adapter.associateParticipant fspId partyType partyId partySubType currency).on part
  disassociateParticipant fspId partyType partyId partySubType currency :=
    (adapter.disassociateParticipant fspId partyType partyId partySubType currency).on part
  getAllAssociations := adapter.getAllAssociations.on part
  searchAssociations fspId partyId partyType partySubType currency pageIndex pageSize :=
    (adapter.searchAssociations fspId partyId partyType partySubType currency pageIndex
      pageSize).on part
  getSearchKeywords := adapter.getSearchKeywords.on part

end AccountLookup
