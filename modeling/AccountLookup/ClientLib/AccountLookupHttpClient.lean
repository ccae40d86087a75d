/-
# The lookup client

The URL that `participantLookUp` asks for, with the identifiers in it as they are, and what
it makes of the response.
-/

import AccountLookup.Basic
import AccountLookup.Library.UrlReference

namespace AccountLookup

open Library

/-- What the client reads of a body. -/
structure LookupAnswer where
  fspId : JsString
  msg : JsString

/-- A response: its status, and what `json()` resolves to or the text it rejects with. -/
structure FetchResponse where
  status : Nat
  json : Except String LookupAnswer

/-- A requester that sends an access token along. A failure has a text. -/
structure IAuthenticatedHttpRequester (W : Type) where
  fetch : (url : UrlReference.Target) → W → Except String FetchResponse × W

namespace AccountLookupHttpClient

def serviceBasePath : String := "/account-lookup"

/-- The reference to the party, below the base URL of the service. -/
def urlBuilder (partyType partyId : String) (currency : Option String) : String :=
  let path := s!"{serviceBasePath}/{partyType}/{partyId}"
  match currency with
  | none => path
  | some currency => if currency = "" then path else path ++ s!"?currency={currency}"

def unableToGetFspId (text : String) : JsError :=
  ⟨.unableToGetFspIdError, s!"Account Lookup Client - Unable to Get FspId - {text}"⟩

/-- The message of a body, or the name of the error. -/
def messageOr (name : String) (dataObj : LookupAnswer) : String :=
  dataObj.msg.nonEmpty?.getD name

variable {W : Type}

def participantLookUp (requester : IAuthenticatedHttpRequester W) (partyType partyId : String)
    (currency : Option String) : Call W JsString := fun w =>
  if partyType = "" || partyId = "" then
    (.error (unableToGetFspId "partyType or partyId is null"), w)
  else
    match requester.fetch (UrlReference.target (urlBuilder partyType partyId currency).toList)
      w with
    | (.error text, w) => (.error (unableToGetFspId text), w)
    | (.ok resp, w) =>
      if resp.status = 200 || resp.status = 401 || resp.status = 403 then
        match resp.json with
        | .error text => (.error (unableToGetFspId text), w)
        | .ok dataObj =>
          if resp.status = 200 then (.ok dataObj.fspId, w)
          else if resp.status = 401 then
            (.error ⟨.unauthorizedError, messageOr "UnauthorizedError" dataObj⟩, w)
          else (.error ⟨.forbiddenError, messageOr "ForbiddenError" dataObj⟩, w)
      else if resp.status = 404 then (.ok .null, w)
      else (.error (unableToGetFspId (toString resp.status)), w)

/-- The fixed part of the reference. -/
def fixedPath : List Char := "/account-lookup/".toList

/-- The two identifiers in the reference. -/
def identifiers (partyType partyId : String) : List Char :=
  partyType.toList ++ '/' :: partyId.toList

/-- What follows the identifiers. -/
def currencyPart : Option String → List Char
  | none => []
  | some currency =>
    if currency = "" then [] else '?' :: ("currency".toList ++ '=' :: currency.toList)

theorem toList_urlBuilder (partyType partyId : String) (currency : Option String) :
    (urlBuilder partyType partyId currency).toList =
      fixedPath ++ (identifiers partyType partyId ++ currencyPart currency) := by
  have hfixed : fixedPath = serviceBasePath.toList ++ ['/'] := by decide
  have hslash : "/".toList = ['/'] := rfl
  have hpath : (serviceBasePath ++ "/" ++ partyType ++ "/" ++ partyId).toList =
      fixedPath ++ identifiers partyType partyId := by
    simp only [String.toList_append, hslash, hfixed, identifiers, List.append_assoc,
      List.cons_append, List.nil_append]
  have hcurrency : ∀ value : String, ("?currency=" ++ value).toList =
      '?' :: ("currency".toList ++ '=' :: value.toList) := fun value => String.toList_append
  rw [← List.append_assoc, ← hpath]
  cases currency with
  | none => exact (List.append_nil _).symm
  | some currency =>
    unfold urlBuilder currencyPart
    by_cases hempty : currency = ""
    · simp only [if_pos hempty, List.append_nil]
      rfl
    · simp only [if_neg hempty]
      rw [← hcurrency, ← String.toList_append]
      rfl

end AccountLookupHttpClient

end AccountLookup
