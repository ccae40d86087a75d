/-
# The wire format of the remote oracle

The client writes a party into a relative URL and the server reads it back. Both
ends are put together: what the client hands to its HTTP library is given to the
server's route. The party survives exactly when it has no sub type and nothing in
its other properties is mistaken for a separator or an escape.
-/

import AccountLookup.HttpOracleSvc.RemoteOracleRoutes
import AccountLookup.HttpOracleSvc.RemoteOracleRuns
import AccountLookup.Implementations.HttpOracleProvider

namespace AccountLookup

open Library

/-- An HTTP library that takes down the requests it is given. -/
def HttpClient.recorder : HttpClient (List HttpRequest) where
  get _ url requests := (.ok ⟨200, .undefined, []⟩, requests ++ [⟨.get, url, .undefined⟩])
  post _ url fspId requests := (.ok ⟨200, .undefined, []⟩, requests ++ [⟨.post, url, fspId⟩])
  delete _ url fspId requests := (.ok ⟨200, .undefined, []⟩, requests ++ [⟨.delete, url, fspId⟩])

namespace RemoteStep

/-- The party that the call is about. -/
def party : RemoteStep → Party
  | .associateParticipant _ party => party
  | .disassociateParticipant _ party => party
  | .getParticipantFspId party => party

/-- The handler that the call is meant for. -/
def handler : RemoteStep → RemoteOracleExpressRoutes.Handler
  | .associateParticipant _ _ => .associateParticipant
  | .disassociateParticipant _ _ => .disassociateParticipant
  | .getParticipantFspId _ => .getParticipantFspId

/-- The requests that the client of an oracle sends for the call. -/
def requests (oracle : Oracle) (s : RemoteStep) : List HttpRequest :=
  let client := HttpOracleProvider.adapter ⟨oracle, HttpClient.recorder⟩
  let partyType := JsString.str s.party.partyType
  let partyId := JsString.str s.party.partyId
  let partySubType := JsString.ofOption s.party.partySubType
  let currency := JsString.ofOption s.party.currency
  match s with
  | .associateParticipant fspId _ =>
    (client.associateParticipant (.str fspId) partyType partyId partySubType currency []).2
  | .disassociateParticipant fspId _ =>
    (client.disassociateParticipant (.str fspId) partyType partyId partySubType currency []).2
  | .getParticipantFspId _ =>
    (client.getParticipantFspId partyType partyId partySubType currency []).2

/-- The client sends one request, and the server's handler for the call reads the
party of the call from it. -/
def RoundTrips (oracle : Oracle) (s : RemoteStep) : Prop :=
  ∃ request req, s.requests oracle = [request] ∧
    RemoteOracleExpressRoutes.receive request = some (s.handler, req) ∧
    (RemoteOracleExpressRoutes.extractRequestParams req).IsFor s.party

end RemoteStep

namespace RemoteOracleExpressRoutes

open UrlText HttpOracleProvider

/-- An optional property in the URL. -/
def optionalText (lead : String) (value : JsString) : List Char :=
  if value.truthy then lead.toList ++ value.toText.toList else []

/-- The part of the URL after the two parameters. -/
def queryPart (party : Party) : List Char :=
  optionalText "?partySubType=/" (.ofOption party.partySubType) ++
    optionalText "?currency=" (.ofOption party.currency)

/-- The part of the URL for the two parameters. -/
def pathPart (party : Party) : List Char :=
  fixedPath ++ (party.partyType.toList ++ '/' :: party.partyId.toList)

/-- The URL of a party. -/
def urlOf (party : Party) : String :=
  participantsUrl (.str party.partyType) (.str party.partyId) (.ofOption party.partySubType)
    (.ofOption party.currency)

theorem toList_urlOf (party : Party) :
    (urlOf party).toList = pathPart party ++ queryPart party := by
  have hoptional : ∀ (lead : String) (value : JsString),
      (if value.truthy then lead ++ value.toText else "").toList = optionalText lead value := by
    intro lead value
    unfold optionalText
    split
    · exact String.toList_append
    · rfl
  have hpath : ("/participants/" ++ party.partyType ++ "/" ++ party.partyId).toList =
      pathPart party := by
    have hslash : "/".toList = ['/'] := rfl
    rw [String.toList_append, String.toList_append, String.toList_append, hslash,
      List.append_assoc, List.append_assoc]
    rfl
  rw [queryPart, ← hoptional, ← hoptional, ← hpath, ← String.toList_append,
    ← String.toList_append, ← String.append_assoc]
  rfl

/-- The part after the two parameters is a query string, or missing. -/
theorem queryPart_eq (party : Party) :
    queryPart party = [] ∨ queryPart party = '?' :: (queryPart party).drop 1 := by
  have hlead : ∀ (lead : String) (tail : List Char) (value : JsString),
      lead.toList = '?' :: tail → optionalText lead value = [] ∨
        optionalText lead value = '?' :: (optionalText lead value).drop 1 := by
    intro lead tail value hlead
    unfold optionalText
    split
    · exact Or.inr (by rw [hlead]; rfl)
    · exact Or.inl rfl
  unfold queryPart
  rcases hlead "?partySubType=/" _ (.ofOption party.partySubType) rfl with hempty | hsome
  · rw [hempty, List.nil_append]
    exact hlead "?currency=" _ (.ofOption party.currency) rfl
  · exact Or.inr (by rw [hsome]; rfl)

theorem requests_eq (oracle : Oracle) (s : RemoteStep) :
    ∃ request, s.requests oracle = [request] ∧ request.url = urlOf s.party ∧
      handlerOf request.method = s.handler := by
  cases s with
  | associateParticipant fspId party => exact ⟨_, rfl, rfl, rfl⟩
  | disassociateParticipant fspId party => exact ⟨_, rfl, rfl, rfl⟩
  | getParticipantFspId party => exact ⟨_, rfl, rfl, rfl⟩

theorem before_urlOf (party : Party) :
    before '?' (urlOf party).toList = before '?' (pathPart party) := by
  rw [toList_urlOf]
  rcases queryPart_eq party with hempty | hquery
  · rw [hempty, List.append_nil]
  · rw [hquery, before_append_cons]

theorem after_urlOf {party : Party} (h : '?' ∉ pathPart party) :
    after '?' (urlOf party).toList = (queryPart party).drop 1 := by
  rw [toList_urlOf]
  rcases queryPart_eq party with hempty | hquery
  · rw [hempty, List.append_nil, after_of_not_mem h]
    rfl
  · rw [hquery, after_append_cons h]
    rfl

theorem not_mem_pathPart {party : Party} (htype : Plain party.partyType.toList)
    (hid : Plain party.partyId.toList) : '?' ∉ pathPart party := by
  have hfixed : '?' ∉ fixedPath := by decide
  simp [pathPart, hfixed, htype.2.1, hid.2.1]

/-- The value that the server reads for a key of the query string. -/
def readValue (query : List Char) (key : String) : JsString :=
  (queryString (queryValues key.toList query)).orNull

/-- Both optional properties of the party are read from the query string. -/
def QueryReads (query : List Char) (party : Party) : Prop :=
  readValue query "partySubType" = .ofOption party.partySubType ∧
    readValue query "currency" = .ofOption party.currency

theorem roundTrips_iff (oracle : Oracle) (s : RemoteStep) :
    s.RoundTrips oracle ↔
      PathReads (before '?' (pathPart s.party)) s.party.partyType.toList s.party.partyId.toList ∧
        QueryReads (after '?' (urlOf s.party).toList) s.party := by
  obtain ⟨request, hrequest, hurl, hhandler⟩ := requests_eq oracle s
  rw [← before_urlOf, ← hurl]
  constructor
  · rintro ⟨request', req, hrequest', hreceive, hfor⟩
    obtain rfl := List.singleton_inj.mp (hrequest.symm.trans hrequest')
    obtain ⟨-, hpath, hquery, -⟩ := receive_eq_some_iff.mp hreceive
    obtain ⟨-, htype, hid, hsub, hcurrency⟩ := Association.mk.inj hfor
    rw [JsString.str.inj htype, JsString.str.inj hid] at hpath
    rw [hquery] at hsub hcurrency
    exact ⟨hpath, hsub, hcurrency⟩
  · rintro ⟨hpath, hsub, hcurrency⟩
    refine ⟨request, ⟨s.party.partyType, s.party.partyId, fun key => queryString (queryValues
      key.toList (after '?' request.url.toList)), request.fspId⟩, hrequest, ?_, ?_⟩
    · exact receive_eq_some_iff.mpr ⟨hhandler, hpath, rfl, rfl⟩
    · exact congrArg₂ (Association.mk _ _ _) hsub hcurrency

/-- No value that the server reads contains the separator of items. -/
theorem not_mem_readValue {query : List Char} {key value : String}
    (h : readValue query key = .str value) : '&' ∉ value.toList := by
  unfold readValue at h
  cases hvalues : queryValues key.toList query with
  | nil =>
    rw [hvalues] at h
    cases h
  | cons first rest =>
    rw [hvalues] at h
    have hjoin : [','].intercalate (first :: rest) = value.toList := by
      rw [← JsString.str.inj h, String.toList_ofList]
    rw [← hjoin, ← hvalues]
    exact not_mem_intercalate (by decide) fun _ => not_mem_queryValues

/-- The currency on its own is read as it is unless it contains the separator. -/
theorem readValue_currency {currency : String} (h : '&' ∉ currency.toList) :
    readValue ("currency=".toList ++ currency.toList) "currency" = .str currency ∧
      readValue ("currency=".toList ++ currency.toList) "partySubType" = .null := by
  have hitem : "currency=".toList ++ currency.toList =
      "currency".toList ++ '=' :: currency.toList := rfl
  rw [hitem, readValue, readValue, queryValues_singleton (by decide) (by decide) h,
    queryValues_singleton (by decide) (by decide) h, if_pos rfl, if_neg (by decide)]
  refine ⟨?_, rfl⟩
  rw [queryString, List.intercalate_singleton, String.ofList_toList]
  rfl
  all_goals exact List.cons_ne_nil _ _

/-- The sub type is read with the slash that the client puts in front of it. -/
theorem readValue_partySubType {partySubType : String} (h : '&' ∉ partySubType.toList)
    (rest : List Char) :
    readValue ("partySubType=/".toList ++ partySubType.toList ++ rest) "partySubType" ≠
      .str partySubType := by
  have hitem : "partySubType=/".toList ++ partySubType.toList ++ rest =
      "partySubType".toList ++ '=' :: ('/' :: partySubType.toList) ++ rest := rfl
  have hamp : '&' ∉ '/' :: partySubType.toList := by simp [h]
  have hkey : '=' ∉ "partySubType".toList := by decide
  obtain ⟨more, values, hvalues⟩ := queryValues_append hkey (by decide) hamp rest
  rw [hitem, readValue, hvalues]
  intro heq
  have hjoin : [','].intercalate (('/' :: partySubType.toList ++ more) :: values) =
      partySubType.toList :=
    String.toList_ofList.symm.trans (congrArg String.toList (JsString.str.inj heq))
  have hle := (prefix_intercalate_cons [','] ('/' :: partySubType.toList ++ more) values).length_le
  rw [hjoin, List.cons_append, List.length_cons, List.length_append] at hle
  omega

/-- The optional properties survive exactly when there is no sub type and the currency
does not contain the separator. -/
theorem queryReads_iff {party : Party} (hsub : party.partySubType ≠ some "")
    (hcurrency : party.currency ≠ some "") :
    QueryReads ((queryPart party).drop 1) party ↔
      party.partySubType = none ∧
        ∀ currency, party.currency = some currency → '&' ∉ currency.toList := by
  have hoptional : ∀ (lead value : String), value ≠ "" →
      optionalText lead (.ofOption (some value)) = lead.toList ++ value.toList :=
    fun lead value hvalue => if_pos (by simpa [JsString.ofOption] using hvalue)
  unfold QueryReads queryPart
  cases hs : party.partySubType with
  | some partySubType =>
    rw [hoptional _ _ fun heq => hsub (by rw [hs, heq])]
    refine iff_of_false (fun h => ?_) fun h => (by cases h.1)
    exact readValue_partySubType (not_mem_readValue h.1) _ h.1
  | none =>
    cases hc : party.currency with
    | none => exact iff_of_true ⟨rfl, rfl⟩ ⟨rfl, fun _ h => (by cases h)⟩
    | some currency =>
      rw [hoptional _ _ fun heq => hcurrency (by rw [hc, heq])]
      constructor
      · rintro ⟨-, hread⟩
        refine ⟨rfl, fun _ hsome => ?_⟩
        obtain rfl := Option.some.inj hsome
        exact not_mem_readValue hread
      · rintro ⟨-, hamp⟩
        obtain ⟨hread, hnull⟩ := readValue_currency (hamp currency rfl)
        exact ⟨hnull, hread⟩

/-- **The wire format.** A party of non-empty properties survives the way from the client
to the handler exactly when the route takes its type and id as they are, it has no sub
type, and its currency does not contain the separator of the query string. -/
theorem roundTrips_iff_plain (oracle : Oracle) (s : RemoteStep)
    (htype : s.party.partyType ≠ "") (hid : s.party.partyId ≠ "")
    (hsub : s.party.partySubType ≠ some "") (hcurrency : s.party.currency ≠ some "") :
    s.RoundTrips oracle ↔
      Plain s.party.partyType.toList ∧ Plain s.party.partyId.toList ∧
        s.party.partySubType = none ∧
        ∀ currency, s.party.currency = some currency → '&' ∉ currency.toList := by
  rw [roundTrips_iff]
  have hnotNil : ∀ {text : String}, text ≠ "" → text.toList ≠ [] := fun hne hnil =>
    hne (String.toList_eq_nil_iff.mp hnil)
  constructor
  · rintro ⟨hpath, hquery⟩
    obtain ⟨hplainType, hplainId⟩ := plain_of_pathReads hpath
    rw [after_urlOf (not_mem_pathPart hplainType hplainId), queryReads_iff hsub hcurrency] at hquery
    exact ⟨hplainType, hplainId, hquery⟩
  · rintro ⟨hplainType, hplainId, hquery⟩
    refine ⟨pathReads_of_plain (hnotNil htype) (hnotNil hid) hplainType hplainId, ?_⟩
    rw [after_urlOf (not_mem_pathPart hplainType hplainId), queryReads_iff hsub hcurrency]
    exact hquery

/-- A remote oracle for phone numbers. -/
def sampleRemoteOracle : Oracle :=
  ⟨"1", .str "remote", .remoteHttp, .str "MSISDN", .null, .str "http://localhost:3031"⟩

/-- A currency survives. -/
theorem roundTrips_currency :
    (RemoteStep.associateParticipant "greenbank"
      ⟨"MSISDN", "27713803912", none, some "EUR"⟩).RoundTrips sampleRemoteOracle := by
  refine (roundTrips_iff_plain sampleRemoteOracle _ (by decide) (by decide) (by decide)
    (by decide)).mpr ⟨?_, ?_, rfl, ?_⟩
  · exact ⟨by decide, by decide, by decide⟩
  · exact ⟨by decide, by decide, by decide⟩
  · rintro _ ⟨⟩
    decide

/-- A sub type arrives with a slash in front. -/
theorem not_forall_roundTrips :
    ¬ ∀ (oracle : Oracle) (s : RemoteStep), s.party.partyType ≠ "" → s.party.partyId ≠ "" →
      s.party.partySubType ≠ some "" → s.party.currency ≠ some "" → s.RoundTrips oracle := by
  intro h
  have hround := h sampleRemoteOracle
    (.getParticipantFspId ⟨"MSISDN", "27713803912", some "PERSONAL", none⟩)
    (by decide) (by decide) (by decide) (by decide)
  obtain ⟨-, hread, -⟩ := (roundTrips_iff _ _).mp hround
  exact absurd hread (by decide)

end RemoteOracleExpressRoutes

end AccountLookup
