/-
# What the users of the client are told

From the library that other services call to the directories of the stores: an ordinary
party survives the URL, so the client is understood, and what it returns is what the running
service shows, at every moment of every run.
-/

import AccountLookup.ClientLib.LookupAgreement
import AccountLookup.Service.WholeService

namespace AccountLookup

open Library Library.Transition UrlText UrlReference AccountLookupHttpClient

namespace LookupService

/-- A word is kept as one segment of the path. -/
theorem plain_of_isWord {text : String} (h : IsWord text) : Plain text.toList := by
  refine ⟨fun c hc => ?_, not_isDots_of_alphanum h.2⟩
  have hbounds := bounds_of_isAlphanum (h.2 c hc)
  simp only [lostCodes, List.mem_cons, List.not_mem_nil, or_false]
  omega

theorem isControlOrSpace_of_isWord {text : String} (h : IsWord text) :
    ∀ c ∈ text.toList.getLast?, isControlOrSpace c = false := by
  intro c hc
  have hbounds := bounds_of_isAlphanum (h.2 c (List.mem_of_mem_getLast? hc))
  simp only [isControlOrSpace, decide_eq_false_iff_not]
  omega

/-- A word is sent in the query string as it is. -/
theorem sentQuery_of_isWord {currency : String} (h : IsWord currency) :
    sentQuery currency = currencyName ++ '=' :: currency.toList := by
  have hset : ∀ c ∈ currency.toList, querySet.contains c = false := by
    intro c hc
    have hbounds := bounds_of_isAlphanum (h.2 c hc)
    simp only [querySet, encodeSet, List.mem_cons, List.not_mem_nil, or_false,
      Bool.or_eq_false_iff, decide_eq_false_iff_not]
    omega
  rw [sentQuery, sentText_of_not_contains hset, PercentDecoding.encode_of_forall hset]

theorem currencyKept_of_isWord (library : QueryLibrary) {currency : String}
    (h : IsWord currency) : CurrencyKept library currency := by
  have hmem : ∀ c ∈ sentQuery currency, c.isAlphanum = true ∨ c = '=' := by
    intro c hc
    rw [sentQuery_of_isWord h] at hc
    rcases List.mem_append.mp hc with hname | hrest
    · exact Or.inl (List.all_eq_true.mp (by decide) c hname)
    · exact (List.mem_cons.mp hrest).symm.imp_left (h.2 c)
  have hother : ∀ c, c.isAlphanum = false → c ≠ '=' → c ∉ sentQuery currency :=
    fun c hc hne hmem' => (hmem c hmem').elim
      (fun halpha => Bool.false_ne_true (hc.symm.trans halpha)) hne
  have hbrackets : ¬ ParsedQuery.UsesBrackets (sentQuery currency) := by
    refine ParsedQuery.not_usesBrackets (hother _ rfl (by decide)) (hother _ rfl (by decide)) ?_
    intro hescape
    obtain ⟨c, hc, hlower⟩ := List.mem_map.mp hescape
    rcases hmem c hc with halpha | rfl
    · have hle := le_toLower_of_isAlphanum halpha
      rw [hlower] at hle
      exact absurd hle (by decide)
    · cases hlower
  rw [CurrencyKept, if_neg hbrackets]
  refine ⟨fun c hc => ?_, isControlOrSpace_of_isWord h, Or.inl (h.not_mem rfl)⟩
  have hbounds := bounds_of_isAlphanum (h.2 c hc)
  simp only [lostQueryCodes, List.mem_cons, List.not_mem_nil, or_false]
  omega

/-- **An ordinary party survives the URL.** -/
theorem survives_of_isOrdinary (library : QueryLibrary) {party : Party} (h : party.IsOrdinary) :
    Survives library party.partyType party.partyId party.currency := by
  obtain ⟨currency, hcurrency, hword⟩ := h.currency
  rw [hcurrency]
  refine ⟨⟨plain_of_isWord h.partyType, plain_of_isWord h.partyId,
    fun hnone => (by cases hnone)⟩, ?_⟩
  rintro value ⟨⟩
  exact currencyKept_of_isWord library hword

variable (service : LookupService) (authorization : JsString)

/-- The token is accepted, and one of its roles may look parties up. -/
def Admits : Prop :=
  ∃ platformRoleIds,
    authenticationMiddleware service.tokenHelper authorization = some platformRoleIds ∧
      service.routes.enforcePrivilege platformRoleIds
        viewAllOracleAssociationsPrivilege = .ok ()

variable {service authorization}

/-- What the client gets for an ordinary party is what the lookup comes to. -/
theorem agrees_of_isOrdinary (hadmits : service.Admits authorization) {party : Party}
    (h : party.IsOrdinary) :
    service.Agrees authorization party.partyType party.partyId party.currency ∧
      party = ⟨party.partyType, party.partyId, none, party.currency⟩ := by
  obtain ⟨platformRoleIds, htoken, hpermitted⟩ := hadmits
  obtain ⟨currency, hcurrency, hword⟩ := h.currency
  have hasked := (asked_iff h.partyType.1 h.partyId.1
    (hcurrency ▸ fun hempty => hword.1 (Option.some.inj hempty)) htoken hpermitted).mpr
      (survives_of_isOrdinary service.library h)
  refine ⟨⟨hasked, fun agg w => (conveys_of_asked h.partyType.1 h.partyId.1 hasked agg w).2,
    fun agg w => (conveys_of_asked h.partyType.1 h.partyId.1 hasked agg w).1⟩, ?_⟩
  rw [← h.partySubType]

/-- The caller is told a participant exactly when the lookup comes to one. -/
theorem told_iff_of_conveys {outcome result : Except JsError JsString} {name : String}
    (h : Conveys outcome result) : result = .ok (.str name) ↔ outcome = .ok (.str name) := by
  cases outcome with
  | ok fspId =>
    obtain rfl : result = .ok fspId := h
    exact Iff.rfl
  | error error =>
    refine iff_of_false (fun hok => ?_) fun hok => (by cases hok)
    rw [hok, Conveys] at h
    split at h
    · cases h
    · obtain ⟨message, h⟩ := h
      cases h

end LookupService

namespace WholeService

variable {T : Type} [LinearOrder T] [Add T] (service : WholeService T) (lookups : LookupService)
  (authorization : JsString)

/-- What the client returns for the party from the running service, and the world after. -/
def clientLookUp (s : RunningService T Surroundings) :
    Party → Except JsError JsString × ServiceWorld T Surroundings
  | party => participantLookUp (lookups.requester authorization
      (service.aggregateWith s.adapters)) party.partyType party.partyId party.currency s.world

/-- Looking a party up through the client does to the service what a lookup does, and tells
the owner that the view knows, if it knows one. -/
def TellsOwner (s : RunningService T Surroundings) (v : ServiceView) (party : Party) : Prop :=
  (∀ name, (service.clientLookUp lookups authorization s party).1 = .ok (.str name) ↔
      v.lookupState.owner party = some name) ∧
    (service.clientLookUp lookups authorization s party).2 =
      (service.perform s (.lookup party)).world

variable {service lookups authorization}

theorem tellsOwner_of_answersBy (hadmits : lookups.Admits authorization)
    {s : RunningService T Surroundings} {v : ServiceView} {party : Party}
    (hordinary : party.IsOrdinary) (h : service.AnswersBy s v (.lookup party)) :
    service.TellsOwner lookups authorization s v party := by
  obtain ⟨hagrees, hparty⟩ := LookupService.agrees_of_isOrdinary hadmits hordinary
  have hconveyed := hagrees.conveyed (service.aggregateWith s.adapters) s.world
  have hworld := hagrees.world (service.aggregateWith s.adapters) s.world
  rw [← hparty] at hconveyed hworld
  refine ⟨fun name => ?_, hworld⟩
  refine (LookupService.told_iff_of_conveys hconveyed).trans ((h (.str name)).trans ?_)
  constructor
  · rintro ⟨name', hname, hsame⟩
    rw [hname, JsString.str.inj hsame]
  · exact fun hname => ⟨name, hname, rfl⟩

variable (service lookups authorization) in
/-- **The users of the client are told the owners.** In every run of the service in which
messages and lookups are about ordinary parties, no participant asks for a party of another one
and every registered oracle is one that loads, also after a restart, whoever has a token that
admits them and looks a party up through the client is told exactly the owner that the directory
of the party's store names, and nobody when the directory names nobody or the party has no
store. -/
theorem tells_owner_throughout [CanonicallyOrderedAdd T] (hadmits : lookups.Admits authorization)
    (now : T) (inputs : List (ServiceInput T))
    (hallowed : Along follow Allowed ServiceView.empty inputs) :
    Along (beside service.perform follow)
      (fun s input => ∀ party, input = .lookup party →
        service.TellsOwner lookups authorization s.1 s.2 party)
      (fresh now, ServiceView.empty) inputs := by
  have hsimulates : Simulates service.perform follow service.Shows Allowed
      fun s v input => ∀ party, input = .lookup party →
        service.TellsOwner lookups authorization s v party := by
    refine ⟨?_, service.simulates.next⟩
    rintro s v input hshows hinput party rfl
    exact tellsOwner_of_answersBy hadmits hinput (service.simulates.good s v _ hshows hinput)
  exact (hsimulates.along inputs _ _ (service.shows_fresh now) hallowed).1

theorem admits_sampleLookupService :
    LookupService.sampleLookupService.Admits (.str "Bearer token") :=
  ⟨["operator"], by decide, rfl⟩

theorem tells_owner_sampleServiceInputs :
    Along (beside sampleService.perform follow)
      (fun s input => ∀ party, input = .lookup party →
        sampleService.TellsOwner LookupService.sampleLookupService (.str "Bearer token") s.1 s.2
          party)
      (fresh 0, ServiceView.empty) sampleServiceInputs :=
  tells_owner_throughout sampleService LookupService.sampleLookupService (.str "Bearer token")
    admits_sampleLookupService 0 sampleServiceInputs allowed_sampleServiceInputs

end WholeService

end AccountLookup
