/-
# The remote oracle behind its server

The whole way of a call: the client writes a relative URL, the HTTP library resolves it
and sends the path and the query string with a JSON body, the server finds the route,
decodes the parameters, checks the participant and hands the call to the oracle, and the
HTTP library rejects whatever is not a reply of success. A party of letters and digits
without a sub type survives that, so a call of the client on it is a call of the oracle.
-/

import AccountLookup.Domain.Directory
import AccountLookup.HttpOracleSvc.Persistence
import AccountLookup.HttpOracleSvc.RouteHandlers
import AccountLookup.HttpOracleSvc.WireFormat
import AccountLookup.Service.LookupUrls

namespace AccountLookup

open Library UrlText PercentDecoding UrlReference

/-- A request as the server gets it, with what the body holds under the name `fspId`. -/
structure RemoteRequest where
  method : HttpMethod
  url : Target
  fspId : Option JsonValue

/-- The server: the oracle, the query library, and what is answered when that cannot read
the query string. -/
structure RemoteOracleServer where
  oracle : RemoteOracle
  library : QueryLibrary
  unread : RemoteRequest → RemoteReply

/-- Type and id are written in letters and digits, and so is the currency, if there is one;
there is no sub type. -/
structure Party.IsLegible (party : Party) : Prop where
  partyType : IsWord party.partyType
  partyId : IsWord party.partyId
  partySubType : party.partySubType = none
  currency : ∀ currency, party.currency = some currency → IsWord currency

theorem Party.IsOrdinary.isLegible {party : Party} (h : party.IsOrdinary) : party.IsLegible := by
  refine ⟨h.partyType, h.partyId, h.partySubType, fun currency hcurrency => ?_⟩
  obtain ⟨currency', hcurrency', hword⟩ := h.currency
  obtain rfl := Option.some.inj (hcurrency.symm.trans hcurrency')
  exact hword

namespace RemoteOracleServer

open RemoteOracleExpressRoutes

/-- What the query holds under a name, as far as the checks can tell. -/
def queryField (query : ParsedQuery) (name : String) : Option JsonValue :=
  match query.checked name with
  | [] => none
  | [.str value] => some (.string value)
  | _ => some .null

/-- The request that the handlers read. A client fills the path, the query and the body. -/
def participantsRequest (partyType partyId : List Char) (query : ParsedQuery)
    (fspId : Option JsonValue) : ParticipantsRequest where
  partyType := String.ofList partyType
  partyId := String.ofList partyId
  query name := (query.text name).elim .undefined .str
  fspId :=
    { body := fspId
      cookies := none
      headers := none
      params := none
      query := queryField query "fspId" }

variable (server : RemoteOracleServer)

/-- The handler of the method on a request about a party. -/
def handle (method : HttpMethod) (request : ParticipantsRequest) (w : RemoteOracleWorld) :
    RemoteReply × RemoteOracleWorld :=
  match method with
  | .get => getParticipantFspId request.express w
  | .post => associateParticipant server.oracle request w
  | .delete => disassociateParticipant server.oracle request w

/-- Without a handler the framework answers: `400` when the escapes of a parameter are
malformed, `404` from the route that catches all. -/
def respond (request : RemoteRequest) (w : RemoteOracleWorld) :
    RemoteReply × RemoteOracleWorld :=
  match server.library.parse (request.url.query.getD []) with
  | none => (server.unread request, w)
  | some query =>
    match matchParticipants request.url.path with
    | some (partyType, partyId) =>
      match decode partyType, decode partyId with
      | some partyType, some partyId =>
        server.handle request.method (participantsRequest partyType partyId query request.fspId) w
      | _, _ => (⟨400, .statusText⟩, w)
    | none =>
      if request.method = .get ∧ matchHealth request.url.path = true then healthCheck w
      else (⟨404, .statusText⟩, w)

/-- A request to the server, and what the HTTP library makes of the reply. -/
def send (method : HttpMethod) (url : String) (fspId : Option JsonValue) :
    Call RemoteOracleWorld HttpResponse := fun w =>
  let outcome := server.respond ⟨method, target url.toList, fspId⟩ w
  (outcome.1.settle, outcome.2)

/-- The HTTP library when the base URL is the one of the server and every request reaches
it. -/
def client : HttpClient RemoteOracleWorld where
  get _ url := server.send .get url none
  post _ url fspId := server.send .post url fspId.toJson
  delete _ url fspId := server.send .delete url fspId.toJson

/-- The segments of the path of a party. -/
def segments (party : Party) : List (List Char) :=
  ["participants".toList, party.partyType.toList, party.partyId.toList]

theorem pathPart_eq_writtenPath (party : Party) :
    pathPart party = writtenPath (segments party) := by
  simp only [writtenPath, segments, List.intercalate_cons_cons, List.intercalate_singleton,
    List.nil_append, List.append_assoc, List.cons_append]
  rfl

variable {server} {party : Party}

theorem isWordPath_segments (h : party.IsLegible) : IsWordPath (segments party) := by
  refine ⟨List.cons_ne_nil _ _, ?_⟩
  simp only [segments, List.forall_mem_cons, List.not_mem_nil, false_implies, implies_true,
    and_true]
  exact ⟨List.all_eq_true.mp (by decide), h.partyType.2, h.partyId.2⟩

/-- The query string of a party. -/
def queryOf (party : Party) : Option (List Char) :=
  party.currency.map fun currency => "currency".toList ++ '=' :: currency.toList

/-- The URL of a legible party is sent as it is written. -/
theorem target_urlOf (h : party.IsLegible) :
    target (urlOf party).toList = ⟨writtenPath (segments party), queryOf party⟩ := by
  have hpath := isWordPath_segments h
  have hnone : ∀ lead, optionalText lead (.ofOption none) = [] := fun _ => rfl
  rw [toList_urlOf, pathPart_eq_writtenPath, queryPart, h.partySubType, hnone, List.nil_append,
    queryOf]
  cases hcurrency : party.currency with
  | none => rw [hnone, List.append_nil, hpath.target_eq, Option.map_none]
  | some currency =>
    obtain ⟨hne, hword⟩ := h.currency currency hcurrency
    have hquery : optionalText "?currency=" (.ofOption (some currency)) =
        '?' :: ("currency".toList ++ '=' :: currency.toList) := by
      rw [optionalText, if_pos (by simpa [JsString.ofOption] using hne)]
      rfl
    rw [hquery, Option.map_some]
    refine hpath.target_query_eq fun c hc => ?_
    rcases List.mem_append.mp hc with hc | hc
    · exact Or.inl (List.all_eq_true.mp (by decide) c hc)
    · rcases List.mem_cons.mp hc with rfl | hc
      · exact Or.inr rfl
      · exact Or.inl (hword c hc)

section Query

open ParsedQuery

theorem decodeText_of_word {text : List Char} (h : ∀ c ∈ text, c.isAlphanum = true) :
    decodeText text = text := by
  have hescape : '%' ∉ text := fun hmem => Bool.false_ne_true (h _ hmem)
  have hplus : '+' ∉ text := fun hmem => Bool.false_ne_true (h _ hmem)
  rw [decodeText, map_plusAsSpace hplus, decode_of_no_escape hescape, Option.getD_some]

/-- A query string of one item of words. -/
theorem valuesOf_item {key value : List Char} (hkey : ∀ c ∈ key, c.isAlphanum = true)
    (hvalue : ∀ c ∈ value, c.isAlphanum = true) (name : List Char) :
    valuesOf (key ++ '=' :: value) name = if key = name then [value] else [] := by
  have hequals : '=' ∉ key := fun hmem => Bool.false_ne_true (hkey _ hmem)
  have hamp : '&' ∉ key ++ '=' :: value := by
    simp only [List.mem_append, List.mem_cons, not_or]
    exact ⟨fun hmem => Bool.false_ne_true (hkey _ hmem), by decide,
      fun hmem => Bool.false_ne_true (hvalue _ hmem)⟩
  have htake : ∀ item : List Char, [item].take parameterLimit = [item] := fun _ => rfl
  rw [valuesOf, List.splitOn_eq_singleton hamp, htake]
  simp only [List.filterMap_cons, List.filterMap_nil, before_append_cons,
    before_of_not_mem hequals, after_append_cons hequals, decodeText_of_word hkey,
    decodeText_of_word hvalue]
  by_cases hname : key = name
  · simp only [if_pos hname]
  · simp only [if_neg hname]

/-- What the query of a legible party holds under a name. -/
theorem valuesOf_queryOf (h : party.IsLegible) {name : List Char} (hname : name ≠ []) :
    valuesOf ((queryOf party).getD []) name =
      if "currency".toList = name then (party.currency.map String.toList).toList else [] := by
  unfold queryOf
  cases hcurrency : party.currency with
  | none =>
    have htake : (([] : List Char).splitOn '&').take parameterLimit = [[]] := rfl
    have hempty : before '=' ([] : List Char) = [] := rfl
    have hdecode : decodeText [] = [] := decodeText_of_word fun _ h => (by cases h)
    rw [Option.map_none, Option.getD_none, valuesOf, htake]
    simp only [List.filterMap_cons, List.filterMap_nil, hempty, hdecode, if_neg (Ne.symm hname)]
    split <;> rfl
  | some currency =>
    rw [Option.map_some, Option.getD_some, valuesOf_item (List.all_eq_true.mp (by decide))
      (h.currency currency hcurrency).2]
    rfl

theorem isAlphanum_of_mem_queryOf (h : party.IsLegible) {c : Char}
    (hc : c ∈ (queryOf party).getD []) : c.isAlphanum = true ∨ c = '=' := by
  unfold queryOf at hc
  cases hcurrency : party.currency with
  | none =>
    rw [hcurrency] at hc
    cases hc
  | some currency =>
    rw [hcurrency, Option.map_some, Option.getD_some] at hc
    rcases List.mem_append.mp hc with hc | hc
    · exact Or.inl (List.all_eq_true.mp (by decide) c hc)
    · exact (List.mem_cons.mp hc).symm.imp_left ((h.currency currency hcurrency).2 c)

theorem parse_queryOf (h : party.IsLegible) :
    server.library.parse ((queryOf party).getD []) = some (.flat ((queryOf party).getD [])) := by
  have hother : ∀ c, c.isAlphanum = false → c ≠ '=' → c ∉ (queryOf party).getD [] :=
    fun c hc hne hmem => (isAlphanum_of_mem_queryOf h hmem).elim
      (fun halpha => Bool.false_ne_true (hc.symm.trans halpha)) hne
  rw [QueryLibrary.parse, if_neg]
  refine not_usesBrackets (hother _ rfl (by decide)) (hother _ rfl (by decide)) fun hmem => ?_
  obtain ⟨c, hc, hlower⟩ := List.mem_map.mp hmem
  rcases isAlphanum_of_mem_queryOf h hc with halpha | rfl
  · have hle := le_toLower_of_isAlphanum halpha
    rw [hlower] at hle
    exact absurd hle (by decide)
  · cases hlower

theorem text_queryOf (h : party.IsLegible) :
    (flat ((queryOf party).getD [])).text "currency" = party.currency ∧
      (flat ((queryOf party).getD [])).text "partySubType" = none ∧
      queryField (flat ((queryOf party).getD [])) "fspId" = none := by
  have hread : ∀ name : String, name.toList ≠ [] →
      valuesOf ((queryOf party).getD []) name.toList = if "currency".toList = name.toList then
        (party.currency.map String.toList).toList else [] := fun name => valuesOf_queryOf h
  refine ⟨?_, ?_, ?_⟩
  · rw [text_flat, hread _ (by decide), if_pos rfl]
    cases party.currency with
    | none => rfl
    | some currency =>
      rw [Option.map_some, Option.toList_some, textOf, List.intercalate_singleton,
        String.ofList_toList]
      exact List.cons_ne_nil _ _
  · rw [text_flat, hread _ (by decide), if_neg (by decide)]
    rfl
  · have hvalues := hread "fspId" (by decide)
    rw [if_neg (by decide)] at hvalues
    simp only [queryField, flat, hvalues]

end Query

/-- The request that the handlers read for a legible party. -/
def requestFor (party : Party) (fspId : Option JsonValue) : ParticipantsRequest :=
  participantsRequest party.partyType.toList party.partyId.toList
    (.flat ((queryOf party).getD [])) fspId

theorem matchParticipants_segments (h : party.IsLegible) :
    matchParticipants (writtenPath (segments party)) =
      some (party.partyType.toList, party.partyId.toList) := by
  have hne : ∀ {text : String}, IsWord text → text.toList ≠ [] := fun hword hnil =>
    hword.1 (String.toList_eq_nil_iff.mp hnil)
  rw [← pathPart_eq_writtenPath, pathPart]
  refine matchParticipants_fixedPath.mpr ⟨hne h.partyType, hne h.partyId, Or.inl ?_⟩
  rw [List.splitOn_append_cons_self_of_not_mem (h.partyType.not_mem rfl),
    List.splitOn_eq_singleton (h.partyId.not_mem rfl)]

/-- **A request about a legible party reaches its handler.** -/
theorem respond_eq (server : RemoteOracleServer) (h : party.IsLegible) (method : HttpMethod)
    (fspId : Option JsonValue) (w : RemoteOracleWorld) :
    server.respond ⟨method, target (urlOf party).toList, fspId⟩ w =
      server.handle method (requestFor party fspId) w := by
  simp only [respond, target_urlOf h, parse_queryOf h, matchParticipants_segments h,
    decode_of_no_escape (h.partyType.not_mem (c := '%') rfl),
    decode_of_no_escape (h.partyId.not_mem (c := '%') rfl), requestFor]

/-- The handlers read the party. -/
theorem extractRequestParams_requestFor (h : party.IsLegible) (fspId : Option JsonValue) :
    extractRequestParams (requestFor party fspId).express =
      party.record (JsString.ofJson fspId).orNull := by
  obtain ⟨hcurrency, hsub, -⟩ := text_queryOf h
  simp only [extractRequestParams, requestFor, ParticipantsRequest.express, participantsRequest,
    hcurrency, hsub, Party.record, h.partySubType, String.ofList_toList, Option.elim_none,
    JsString.orNull_undefined]
  cases party.currency <;> rfl

/-- A participant in the body passes the check. -/
theorem validParticipants_requestFor (h : party.IsLegible) {fspId : String} (hfsp : fspId ≠ "") :
    validParticipants (requestFor party (some (.string fspId))) = true := by
  obtain ⟨-, -, hquery⟩ := text_queryOf h
  rw [validParticipants, FieldLocations.nonEmptyString, check_eq_true_iff]
  simp [requestFor, participantsRequest, hquery, FieldLocations.elsewhere, JsString.ofJson, hfsp]

variable {w : RemoteOracleWorld} {fspId : String}

/-- A change through the server is a change of the oracle. -/
theorem handle_post (server : RemoteOracleServer) (h : party.IsLegible) (hfsp : fspId ≠ "")
    (w : RemoteOracleWorld) :
    server.handle .post (requestFor party (some (.string fspId))) w =
      let outcome := server.oracle.associate fspId party w
      (match outcome.1 with
        | .ok _ => ⟨200, .statusText⟩
        | .error error => errorReply error, outcome.2) := by
  simp only [handle, associateParticipant, validParticipants_requestFor h hfsp, if_true,
    extractRequestParams_requestFor h, Party.record, JsString.ofJson, JsString.orNull_str]
  rw [RemoteOracle.associate]
  generalize server.oracle.associateParticipant _ _ _ _ _ w = outcome
  obtain ⟨result, after⟩ := outcome
  cases result <;> rfl

theorem handle_delete (server : RemoteOracleServer) (h : party.IsLegible) (hfsp : fspId ≠ "")
    (w : RemoteOracleWorld) :
    server.handle .delete (requestFor party (some (.string fspId))) w =
      let outcome := server.oracle.disassociate fspId party w
      (match outcome.1 with
        | .ok _ => ⟨200, .statusText⟩
        | .error error => errorReply error, outcome.2) := by
  simp only [handle, disassociateParticipant, validParticipants_requestFor h hfsp, if_true,
    extractRequestParams_requestFor h, Party.record, JsString.ofJson, JsString.orNull_str]
  rw [RemoteOracle.disassociate]
  generalize server.oracle.disassociateParticipant _ _ _ _ _ w = outcome
  obtain ⟨result, after⟩ := outcome
  cases result <;> rfl

theorem handle_get (server : RemoteOracleServer) (h : party.IsLegible) (w : RemoteOracleWorld) :
    server.handle .get (requestFor party none) w =
      let fetched := (w.associations.get party.remoteKey).elim .null Association.fspId
      (if fetched.truthy then ⟨200, .fspId fetched⟩ else ⟨404, .statusText⟩, w) := by
  have hlookup := RemoteOracle.lookup_eq w party
  rw [RemoteOracle.lookup] at hlookup
  simp only [handle, getParticipantFspId, extractRequestParams_requestFor h, Party.record,
    hlookup]
  split <;> rfl

end RemoteOracleServer

end AccountLookup
