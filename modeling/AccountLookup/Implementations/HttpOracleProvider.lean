/-
# The remote oracle's client

The adapter of an oracle behind an HTTP service. The HTTP library is a record of
calls that take the base URL, the relative URL as the adapter writes it and, where
there is one, the `fspId` of the body; it rejects on a status other than 2xx.
-/

import AccountLookup.Domain.Interfaces

namespace AccountLookup

/-- What the adapter reads of a response: its status, `data?.fspId`, and the data
of the listing. -/
structure HttpResponse where
  status : Nat
  fspId : JsString
  associations : List Association

/-- The HTTP library. -/
structure HttpClient (W : Type) where
  get : (baseURL : JsString) → (url : String) → Call W HttpResponse
  post : (baseURL : JsString) → (url : String) → (fspId : JsString) → Call W HttpResponse
  delete : (baseURL : JsString) → (url : String) → (fspId : JsString) → Call W HttpResponse

/-- The remote adapter of an oracle. -/
structure HttpOracleProvider (W : Type) where
  oracle : Oracle
  axios : HttpClient W

namespace HttpOracleProvider

variable {W : Type} (provider : HttpOracleProvider W)

/-- Fails, without a promise, when the oracle has no endpoint. -/
def init : Call W Unit := fun w =>
  if provider.oracle.endpoint.truthy then (.ok (), w)
  else (.error ⟨.unableToInitRemoteOracleProvider, "No endpoint defined for oracle"⟩, w)

def destroy : Call W Unit := fun w => (.ok (), w)

def healthCheck : Call W Bool := fun w =>
  match provider.axios.get provider.oracle.endpoint "/health" w with
  | (.error _, w) => (.ok false, w)
  | (.ok response, w) => (.ok (response.status = 200), w)

/-- The relative URL of a party. The three operations on a party build it in the
same words. -/
def participantsUrl (partyType partyId partySubType currency : JsString) : String :=
  s!"/participants/{partyType.toText}/{partyId.toText}" ++
    (if partySubType.truthy then s!"?partySubType=/{partySubType.toText}" else "") ++
    (if currency.truthy then s!"?currency={currency.toText}" else "")

/-- How the errors of these operations name the party. -/
def partyText (partyType partyId partySubType currency : JsString) : String :=
  s!"partyType: {partyType.toText}, partyId: {partyId.toText}, " ++
    s!"partySubType: {partySubType.toText}, currency: {currency.toText}"

def getParticipantFspId (partyType partyId partySubType currency : JsString) : Call W JsString :=
  fun w =>
    match provider.axios.get provider.oracle.endpoint
        (participantsUrl partyType partyId partySubType currency) w with
    | (.error _, w) =>
      (.error ⟨.unableToGetParticipantError,
        "getParticipantFspId: error getting participant fspId for " ++
          partyText partyType partyId partySubType currency⟩, w)
    | (.ok response, w) => (.ok response.fspId.orNull, w)

def associateParticipant (fspId partyType partyId partySubType currency : JsString) :
    Call W Unit := fun w =>
  match provider.axios.post provider.oracle.endpoint
      (participantsUrl partyType partyId partySubType currency) fspId w with
  | (.error _, w) =>
    (.error ⟨.unableToAssociateParticipantError,
      "associateParticipant: error associating participant for " ++
        s!"{partyText partyType partyId partySubType currency} with fspId: {fspId.toText}"⟩, w)
  | (.ok _, w) => (.ok (), w)

def disassociateParticipant (fspId partyType partyId partySubType currency : JsString) :
    Call W Unit := fun w =>
  match provider.axios.delete provider.oracle.endpoint
      (participantsUrl partyType partyId partySubType currency) fspId w with
  | (.error _, w) =>
    (.error ⟨.unableToDisassociateParticipantError,
      "disassociateParticipant: error disassociating participant for " ++
        s!"{partyText partyType partyId partySubType currency} with fspId: {fspId.toText}"⟩, w)
  | (.ok _, w) => (.ok (), w)

def getAllAssociations : Call W (List Association) := fun w =>
  match provider.axios.get provider.oracle.endpoint "/participants/associations" w with
  | (.error _, w) =>
    (.error ⟨.unableToGetAssociationError,
      "getAllAssociations: error getting all associations"⟩, w)
  | (.ok response, w) => (.ok response.associations, w)

/-- The search is not implemented: it throws at once. -/
def searchAssociations (_fspId _partyId _partyType _partySubType _currency : JsString)
    (_pageIndex _pageSize : Option JsNumber) :
    Call W (Except JsError AssociationsSearchResults) := fun w =>
  (.error ⟨.error, "Method not implemented."⟩, w)

def getSearchKeywords : Call W (Except JsError (List SearchKeywords)) := fun w =>
  (.error ⟨.error, "Method not implemented."⟩, w)

/-- The client as an adapter. -/
def adapter : IOracleProviderAdapter W where
  oracleId := provider.oracle.id
  type := .remoteHttp
  init := provider.init
  destroy := destroy
  healthCheck := provider.healthCheck
  getParticipantFspId := provider.getParticipantFspId
  associateParticipant := provider.associateParticipant
  disassociateParticipant := provider.disassociateParticipant
  getAllAssociations := provider.getAllAssociations
  searchAssociations := searchAssociations
  getSearchKeywords := getSearchKeywords

end HttpOracleProvider

end AccountLookup
