/-
# The lookup client and the lookup route

What the client asks for and what it makes of the answers, together with the service. The
answers always come through: the participant, its absence and every failure reach the caller
as what they are. The question comes through exactly when the identifiers survive the path
and the currency survives the query string.
-/

import AccountLookup.ClientLib.LookupQueries

namespace AccountLookup

open Library UrlText PercentDecoding UrlReference AccountLookupHttpClient

/-- What the caller of the client has to get for what the lookup comes to. -/
def Conveys : Except JsError JsString → Except JsError JsString → Prop
  | .ok fspId, result => result = .ok fspId
  | .error error, result =>
    if error.cls = .participantNotFoundError then result = .ok .null
    else ∃ message, result = .error ⟨.unableToGetFspIdError, message⟩

/-- The lookup throws two kinds of errors. -/
theorem AccountLookupAggregate.getAccountLookUp_error {W : Type} {agg : AccountLookupAggregate W}
    {party : Party} {w w' : W} {error : JsError}
    (h : agg.getAccountLookUp party w = (.error error, w')) :
    error.cls = .participantNotFoundError ∨ error.cls = .unableToGetParticipantFspIdError := by
  unfold getAccountLookUp at h
  rcases howner : agg.ownerOf party w with ⟨failure | fspId, after⟩
  · rw [howner] at h
    dsimp only at h
    split at h
    · next hcls =>
      cases h
      exact Or.inl hcls
    · cases h
      exact Or.inr rfl
  · rw [howner] at h
    cases h

namespace LookupService

variable {W : Type} {service : LookupService} {authorization : JsString}
  {partyType partyId : String} {currency : Option String}

/-- The reference that the client has resolved. -/
def urlOf (partyType partyId : String) (currency : Option String) : Target :=
  target (urlBuilder partyType partyId currency).toList

/-- The service replies with what the lookup comes to. -/
theorem respond_of_asked {url : Target} {party : Party}
    (h : service.asked authorization url = some party) (agg : AccountLookupAggregate W) (w : W) :
    service.respond authorization agg url w =
      match agg.getAccountLookUp party w with
      | (.error error, w) =>
        if error.cls = .participantNotFoundError then
          (⟨404, .ok ⟨.undefined, .str error.message⟩⟩, w)
        else
          (⟨OracleAdminExpressRoutes.errorStatus error, .ok ⟨.undefined, .str error.message⟩⟩, w)
      | (.ok fspId, w) => (⟨200, .ok ⟨fspId, .undefined⟩⟩, w) := by
  obtain ⟨request, hreceived, hasked⟩ := Option.bind_eq_some_iff.mp h
  unfold AccountLookupExpressRoutes.askedFor at hasked
  split at hasked
  · cases hasked
  · next hpermitted =>
    split at hasked
    · next hvalid =>
      obtain rfl := Option.some.inj hasked
      simp only [respond, hreceived, AccountLookupExpressRoutes.getAccountLookUp, hpermitted,
        hvalid, if_true]
      rcases agg.getAccountLookUp _ w with ⟨error | fspId, after⟩
      · dsimp only
        split <;> rfl
      · rfl
    · cases hasked

/-- **The answers come through.** -/
theorem conveys_of_asked (htype : partyType ≠ "") (hid : partyId ≠ "") {party : Party}
    (h : service.asked authorization (urlOf partyType partyId currency) = some party)
    (agg : AccountLookupAggregate W) (w : W) :
    Conveys (agg.getAccountLookUp party w).1
        (participantLookUp (service.requester authorization agg) partyType partyId currency w).1 ∧
      (participantLookUp (service.requester authorization agg) partyType partyId currency w).2 =
        (agg.getAccountLookUp party w).2 := by
  have hrespond := respond_of_asked h agg w
  unfold urlOf at hrespond
  unfold participantLookUp requester
  simp only [hrespond, htype, hid, decide_false, Bool.or_self, Bool.false_eq_true, if_false]
  rcases hlookup : agg.getAccountLookUp party w with ⟨error | fspId, after⟩
  · rcases AccountLookupAggregate.getAccountLookUp_error hlookup with hcls | hcls
    · simp only [hcls, if_true]
      refine ⟨?_, rfl⟩
      rw [Conveys, if_pos hcls]
      rfl
    · have hstatus : OracleAdminExpressRoutes.errorStatus error = 500 := by
        simp [OracleAdminExpressRoutes.errorStatus, hcls]
      simp only [hcls, hstatus, reduceCtorEq, if_false]
      refine ⟨?_, rfl⟩
      rw [Conveys, if_neg (by simp [hcls])]
      exact ⟨_, rfl⟩
  · exact ⟨rfl, rfl⟩

/-- The query string of the reference. -/
theorem query_urlOf (hcurrency : currency ≠ some "") (h : PathKept partyType partyId currency) :
    (urlOf partyType partyId currency).query = currency.map sentQuery := by
  have hquestion : '?' ∉ identifiers partyType partyId := fun hc =>
    (harmless_of_kept h hc).2.2.1 rfl
  rw [urlOf, toList_urlBuilder, query_fixedPath]
  rcases currencyPart_cases hcurrency with ⟨rfl, hpart⟩ | ⟨value, rfl, hpart⟩
  · have hsent : '?' ∉ sentText (identifiers partyType partyId) := fun hc =>
      hquestion ((sentText_sublist _).subset hc)
    rw [hpart, List.append_nil, if_neg hsent]
    rfl
  · have hmem : '?' ∈ identifiers partyType partyId ++
        '?' :: sentText ("currency".toList ++ '=' :: value.toList) := by simp
    rw [hpart, sentText_of_kept_cons h, if_pos hmem, after_append_cons hquestion]
    exact congrArg some ((congrArg (encode querySet) (sentText_currencyName value.toList)).trans
      (encode_currencyName _))

/-- The checks of the identifiers. -/
theorem validGetAccountLookUp_iff {request : LookupRequest} (htype : request.partyType ≠ "")
    (hid : request.partyId ≠ "") :
    AccountLookupExpressRoutes.validGetAccountLookUp request = true ↔
      ∀ name, name = "partyId" ∨ name = "partyType" →
        ∀ value ∈ request.elsewhere name, value ≠ .undefined → value.truthy = true := by
  have hcheck : ∀ (text : String) (values : List JsString), text ≠ "" →
      (check (.str text :: values) JsString.truthy = true ↔
        ∀ value ∈ values, value ≠ .undefined → value.truthy = true) := by
    intro text values htext
    rw [check_eq_true_iff]
    constructor
    · exact fun h value hvalue => h.2 value (List.mem_cons_of_mem _ hvalue)
    · intro h
      refine ⟨⟨.str text, List.mem_cons_self .., fun heq => (by cases heq)⟩, ?_⟩
      intro value hvalue hdefined
      rcases List.mem_cons.mp hvalue with rfl | hvalue
      · exact decide_eq_true htext
      · exact h value hvalue hdefined
  rw [AccountLookupExpressRoutes.validGetAccountLookUp, Bool.and_eq_true, hcheck _ _ hid,
    hcheck _ _ htype]
  constructor
  · rintro ⟨hpartyId, hpartyType⟩ name (rfl | rfl)
    · exact hpartyId
    · exact hpartyType
  · exact fun h => ⟨h _ (Or.inl rfl), h _ (Or.inr rfl)⟩

theorem askedFor_eq_some_iff {routes : AccountLookupExpressRoutes} {request : LookupRequest}
    {party : Party} (hpermitted : routes.enforcePrivilege request.platformRoleIds
      viewAllOracleAssociationsPrivilege = .ok ()) :
    AccountLookupExpressRoutes.askedFor routes request = some party ↔
      AccountLookupExpressRoutes.validGetAccountLookUp request = true ∧
        AccountLookupExpressRoutes.accountIdentifier request = party := by
  simp only [AccountLookupExpressRoutes.askedFor, hpermitted, Option.ite_none_right_eq_some,
    Option.some.injEq]

/-- **What the lookup is asked for** is what it reads from the path and the query string. -/
theorem asked_iff_reads {platformRoleIds : List String} (htype : partyType ≠ "")
    (hid : partyId ≠ "") (htoken : authenticationMiddleware service.tokenHelper authorization =
      some platformRoleIds)
    (hpermitted : service.routes.enforcePrivilege platformRoleIds
      viewAllOracleAssociationsPrivilege = .ok ()) (url : Target) :
    service.asked authorization url = some ⟨partyType, partyId, none, currency⟩ ↔
      PathReads partyType partyId url ∧
        QueryReads service.library (url.query.getD []) currency := by
  rw [asked, received, htoken, Option.bind_some, Option.bind_eq_some_iff]
  unfold AccountLookupExpressRoutes.receive
  constructor
  · rintro ⟨request, hreceive, hasked⟩
    split at hreceive
    · cases hreceive
    · next first second hmatch =>
      split at hreceive
      · next readType readId parsed hfirst hsecond hparsed =>
        obtain rfl := Option.some.inj hreceive
        obtain ⟨hvalid, hparty⟩ := (askedFor_eq_some_iff hpermitted).mp hasked
        simp only [AccountLookupExpressRoutes.accountIdentifier, Party.mk.injEq] at hparty
        obtain ⟨rfl, rfl, hsub, hcurrency⟩ := hparty
        refine ⟨⟨first, second, hmatch, ?_, ?_⟩, parsed, hparsed, hcurrency, hsub, ?_⟩
        · rw [hfirst, String.toList_ofList]
        · rw [hsecond, String.toList_ofList]
        · exact (validGetAccountLookUp_iff htype hid).mp hvalid
      · cases hreceive
  · rintro ⟨⟨first, second, hmatch, hfirst, hsecond⟩, parsed, hparsed, hnames⟩
    simp only [hmatch, hfirst, hsecond, hparsed, String.ofList_toList]
    refine ⟨_, rfl, (askedFor_eq_some_iff hpermitted).mpr ⟨?_, ?_⟩⟩
    · exact (validGetAccountLookUp_iff htype hid).mpr hnames.checked
    · simp only [AccountLookupExpressRoutes.accountIdentifier, hnames.partySubType,
        hnames.currency]

/-- The party survives the URL: the path keeps the identifiers, and the query string keeps
the currency, if there is one. -/
def Survives (library : QueryLibrary) (partyType partyId : String) (currency : Option String) :
    Prop :=
  PathKept partyType partyId currency ∧
    ∀ value, currency = some value → CurrencyKept library value

theorem asked_iff {platformRoleIds : List String} (htype : partyType ≠ "")
    (hid : partyId ≠ "") (hcurrency : currency ≠ some "")
    (htoken : authenticationMiddleware service.tokenHelper authorization = some platformRoleIds)
    (hpermitted : service.routes.enforcePrivilege platformRoleIds
      viewAllOracleAssociationsPrivilege = .ok ()) :
    service.asked authorization (urlOf partyType partyId currency) =
        some ⟨partyType, partyId, none, currency⟩ ↔
      Survives service.library partyType partyId currency := by
  rw [asked_iff_reads htype hid htoken hpermitted, urlOf, pathReads_iff htype hid hcurrency,
    Survives]
  apply and_congr_right
  intro hpath
  have hquery := query_urlOf hcurrency hpath
  rw [urlOf] at hquery
  rw [hquery]
  cases currency with
  | none =>
    refine iff_of_true ⟨_, rfl, rfl, rfl, ?_⟩ fun value hvalue => (by cases hvalue)
    rintro name (rfl | rfl) value hvalue
    · cases hvalue
    · cases hvalue
  | some value =>
    rw [Option.map_some, Option.getD_some, queryReads_iff]
    simp only [Option.some.injEq, forall_eq']

variable (service authorization partyType partyId currency) in
/-- The client and the route agree on a party: whatever the aggregate is, it is asked for
exactly that party, in no other way is the world touched, and the caller gets what the
lookup comes to. -/
structure Agrees : Prop where
  asked : service.asked authorization (urlOf partyType partyId currency) =
    some ⟨partyType, partyId, none, currency⟩
  world : ∀ {W : Type} (agg : AccountLookupAggregate W) (w : W),
    (participantLookUp (service.requester authorization agg) partyType partyId currency w).2 =
      (agg.getAccountLookUp ⟨partyType, partyId, none, currency⟩ w).2
  conveyed : ∀ {W : Type} (agg : AccountLookupAggregate W) (w : W),
    Conveys (agg.getAccountLookUp ⟨partyType, partyId, none, currency⟩ w).1
      (participantLookUp (service.requester authorization agg) partyType partyId currency w).1

/-- **Agreement, exactly.** A caller with a valid token and the privilege is understood
exactly when the party survives the URL. -/
theorem agrees_iff (service : LookupService) (authorization : JsString)
    (platformRoleIds : List String)
    (htoken : authenticationMiddleware service.tokenHelper authorization = some platformRoleIds)
    (hpermitted : service.routes.enforcePrivilege platformRoleIds
      viewAllOracleAssociationsPrivilege = .ok ())
    (partyType partyId : String) (currency : Option String) (htype : partyType ≠ "")
    (hid : partyId ≠ "") (hcurrency : currency ≠ some "") :
    service.Agrees authorization partyType partyId currency ↔
      Survives service.library partyType partyId currency := by
  rw [← asked_iff htype hid hcurrency htoken hpermitted]
  constructor
  · exact Agrees.asked
  · intro hasked
    exact ⟨hasked, fun agg w => (conveys_of_asked htype hid hasked agg w).2,
      fun agg w => (conveys_of_asked htype hid hasked agg w).1⟩

/-- A service that lets every token look up every party. -/
def sampleLookupService : LookupService where
  routes := ⟨fun _ _ => true⟩
  tokenHelper := ⟨fun _ => some ["operator"]⟩
  library := ⟨fun _ => none⟩
  otherwise := fun _ => ⟨404, .error "Unexpected token N in JSON at position 0"⟩

/-- A phone number and a currency survive. -/
theorem agrees_phoneNumber : sampleLookupService.Agrees (.str "Bearer token") "MSISDN"
    "27713803912" (some "USD") := by
  have hsurvives : Survives sampleLookupService.library "MSISDN" "27713803912" (some "USD") := by
    refine ⟨⟨⟨forall_mem_of_all (by decide), by unfold IsDots; decide⟩,
      ⟨forall_mem_of_all (by decide), by unfold IsDots; decide⟩, fun h => (by cases h)⟩, ?_⟩
    rintro value ⟨⟩
    have hset : ∀ c ∈ "USD".toList, querySet.contains c = false := forall_mem_of_all (by decide)
    have hquery : sentQuery "USD" = currencyName ++ '=' :: "USD".toList := by
      rw [sentQuery, sentText_of_not_contains hset, encode_of_forall hset]
    have hbrackets : ¬ ParsedQuery.UsesBrackets (sentQuery "USD") := by
      rw [hquery]
      exact ParsedQuery.not_usesBrackets (by decide) (by decide) (by decide)
    rw [CurrencyKept, if_neg hbrackets]
    refine ⟨forall_mem_of_all (by decide), fun c hc => ?_, Or.inl (by decide)⟩
    obtain rfl : 'D' = c := Option.some.inj hc
    decide
  exact (agrees_iff sampleLookupService (.str "Bearer token") ["operator"] (by decide) rfl
    "MSISDN" "27713803912" (some "USD") (by decide) (by decide) (by decide)).mpr hsurvives

/-- An identifier with a slash is read as something else. -/
theorem not_forall_agrees :
    ¬ ∀ (service : LookupService) (authorization : JsString) (platformRoleIds : List String),
      authenticationMiddleware service.tokenHelper authorization = some platformRoleIds →
      service.routes.enforcePrivilege platformRoleIds
        viewAllOracleAssociationsPrivilege = .ok () →
      ∀ (partyType partyId : String) (currency : Option String), partyType ≠ "" →
        partyId ≠ "" → currency ≠ some "" →
          service.Agrees authorization partyType partyId currency := by
  intro h
  have hagrees := h sampleLookupService (.str "Bearer token") ["operator"] (by decide) rfl
    "PERSONAL_ID" "12/345" none (by decide) (by decide) (by decide)
  have htoken : authenticationMiddleware sampleLookupService.tokenHelper (.str "Bearer token") =
      some ["operator"] := by decide
  have hsurvives := (asked_iff (by decide) (by decide) (by decide) htoken rfl).mp hagrees.asked
  exact hsurvives.1.plainId.not_mem (c := '/') (by decide) (by decide)

end LookupService

end AccountLookup
