/-
# Restarting the service

Runs of the registration and removal routes, starting from an empty registry, whose bodies
may hold any JSON value in what is not checked. A restart loads the adapter of every
registered oracle and fails with the first that cannot be initialised, and it leaves an
oracle whose id is an array or an object without an adapter that the finder's answer is
matched with. So the registry stays fit for a restart exactly as long as no request registers
a remote oracle without an endpoint, and the finder always prefers some other oracle to one
whose id is an array or an object.
-/

import AccountLookup.Service.RegistryDocuments

namespace AccountLookup

open Library.Transition

/-- A request to one of the two routes that change the registry, as it arrives. -/
inductive RegistryRequest
  | post (request : RegistrationRequest) (randomUUID : UuidSource)
  | delete (request : DeleteOracleRequest)

/-- A request made during an outage. -/
structure RegistryRequestStep where
  outage : Outage
  request : RegistryRequest

namespace OracleDocument

/-- The oracle is of a kind that starts up whenever the stores are within reach. -/
def Startable (oracle : OracleDocument) : Prop :=
  oracle.type = .builtin ∨
    oracle.type = .remoteHttp ∧ oracle.endpoint.any JsonValue.truthy = true

theorem startable_cases (oracle : OracleDocument) :
    (oracle.Startable ∧ oracle.create = .ok oracle ∧ oracle.initAdapter Outage.none = .ok ()) ∨
      ¬ oracle.Startable ∧ ((∃ error, oracle.create = .error error) ∨
        oracle.create = .ok oracle ∧ ∃ error, oracle.initAdapter Outage.none = .error error) := by
  unfold Startable create initAdapter
  cases htype : oracle.type with
  | builtin => exact Or.inl ⟨Or.inl rfl, rfl, rfl⟩
  | remoteHttp =>
    cases hendpoint : oracle.endpoint.any JsonValue.truthy with
    | true => exact Or.inl ⟨Or.inr ⟨rfl, rfl⟩, rfl, rfl⟩
    | false =>
      refine Or.inr ⟨?_, Or.inr ⟨rfl, _, rfl⟩⟩
      rintro (h | ⟨-, h⟩) <;> cases h
  | other value =>
    refine Or.inr ⟨?_, Or.inl ⟨_, rfl⟩⟩
    rintro (h | ⟨h, -⟩) <;> cases h

/-- Asked for the party type of the oracle, the finder has one of the others to return, for its
currency and for any other. -/
structure StandsBehind (oracle : OracleDocument) (others : List OracleDocument) : Prop where
  samePartyType : ∃ other ∈ others, other.partyType.orNull = oracle.partyType.orNull
  sameCurrency : ∀ currency : JsString, strictlyEqual oracle.currency currency.toJson = true →
    ∃ other ∈ others, other.partyType.orNull = oracle.partyType.orNull ∧
      strictlyEqual other.currency currency.toJson = true

end OracleDocument

/-- Every oracle whose id is an array or an object stands behind those registered before it. -/
def ReferencesBehind (documents : List OracleDocument) : Prop :=
  ∀ before oracle after, documents = before ++ oracle :: after →
    oracle.id.isReference = true → oracle.StandsBehind before

namespace DocumentService

open OracleAdminExpressRoutes

/-- A service with an empty registry and nothing loaded. -/
def empty : DocumentService := ⟨[], []⟩

section Requests

variable (routes : OracleAdminExpressRoutes) (matching : DocumentMatching)

/-- The request is a registration that is permitted, valid, and gets as far as the registry. -/
structure Admits (s : DocumentService) (a : RegistryRequestStep) (request : RegistrationRequest)
    (randomUUID : UuidSource) : Prop where
  request_eq : a.request = .post request randomUUID
  permitted : routes.enforcePrivilege request.platformRoleIds createOraclePrivilege = .ok ()
  valid : validCreateOracle request.toCreateOracle = true
  stores : s.Stores matching a.outage request (randomUUID.draw s.stringIds)

/-- The request is a removal that is permitted, valid, and takes the oracle away. -/
structure Discards (s : DocumentService) (a : RegistryRequestStep)
    (request : DeleteOracleRequest) : Prop where
  request_eq : a.request = .delete request
  permitted : routes.enforcePrivilege request.platformRoleIds removeOraclePrivilege = .ok ()
  valid : validDeleteOracle request = true
  deletes : s.Deletes matching a.outage request.id

/-- The service after one request. -/
def requestStep (s : DocumentService) (a : RegistryRequestStep) : DocumentService :=
  match a.request with
  | .post request randomUUID =>
    match routes.enforcePrivilege request.platformRoleIds createOraclePrivilege with
    | .error _ => s
    | .ok _ =>
      if validCreateOracle request.toCreateOracle then
        (s.addOracle matching a.outage request (randomUUID.draw s.stringIds)).2
      else s
  | .delete request =>
    match routes.enforcePrivilege request.platformRoleIds removeOraclePrivilege with
    | .error _ => s
    | .ok _ =>
      if validDeleteOracle request then (s.removeOracle matching a.outage request.id).2 else s

/-- A service started over the registry, nothing failing, starts up, and every oracle that the
finder then returns for a party resolves to a loaded adapter of its id. -/
def RestartSafe (s : DocumentService) : Prop :=
  ∃ started, init Outage.none ⟨s.documents, []⟩ = (.ok (), started) ∧
    ∀ partyType currency oracle, started.getOracle Outage.none partyType currency = .ok oracle →
      ∃ adapter, started.getOracleAdapter Outage.none partyType currency = .ok adapter ∧
        adapter.id.strictEquals oracle.id = true

/-- If the request registers an oracle, that is no remote one without an endpoint, and if its
id is an array or an object, it stands behind the registered ones. If it removes one, those
left with such ids still stand behind others. -/
structure KeepsFit (s : DocumentService) (a : RegistryRequestStep) : Prop where
  endpoint : ∀ request randomUUID, Admits routes matching s a request randomUUID →
    request.toCreateOracle.body.type = .remoteHttp →
      request.endpoint.any JsonValue.truthy = true
  behind : ∀ request randomUUID, Admits routes matching s a request randomUUID →
    (request.registeredId (randomUUID.draw s.stringIds)).isReference = true →
      (request.newOracle (randomUUID.draw s.stringIds)).StandsBehind s.documents
  stayBehind : ∀ request, Discards routes matching s a request →
    ReferencesBehind (s.documents.eraseP fun oracle =>
      matching.selects (some oracle.id) (some (.string request.id)))

end Requests

/-- The start-up loads the adapters of oracles that are all startable. -/
theorem loadAdapters_of_startable {oracles : List OracleDocument}
    (h : ∀ oracle ∈ oracles, oracle.Startable) (s : DocumentService) :
    loadAdapters Outage.none oracles s =
      (.ok (), { s with adapters := s.adapters ++ oracles }) := by
  induction oracles generalizing s with
  | nil => rw [loadAdapters, List.append_nil]
  | cons oracle oracles ih =>
    rcases oracle.startable_cases with ⟨-, hcreate, hinit⟩ | ⟨hnot, -⟩
    · simp only [loadAdapters, hcreate, hinit]
      rw [ih fun other hother => h other (List.mem_cons_of_mem _ hother)]
      dsimp only
      rw [List.append_assoc, List.singleton_append]
    · exact absurd (h oracle (List.mem_cons_self ..)) hnot

/-- The start-up fails when it comes to an oracle that is not startable. -/
theorem loadAdapters_of_not_startable {oracles : List OracleDocument}
    (h : ∃ oracle ∈ oracles, ¬ oracle.Startable) (s : DocumentService) :
    ∃ error, (loadAdapters Outage.none oracles s).1 = .error error := by
  induction oracles generalizing s with
  | nil =>
    obtain ⟨oracle, hmem, -⟩ := h
    cases hmem
  | cons oracle oracles ih =>
    rcases oracle.startable_cases with ⟨hstartable, hcreate, hinit⟩ |
      ⟨-, ⟨error, hcreate⟩ | ⟨hcreate, error, hinit⟩⟩
    · simp only [loadAdapters, hcreate, hinit]
      apply ih
      obtain ⟨failing, hmem, hnot⟩ := h
      rcases List.mem_cons.mp hmem with rfl | hmem
      · exact absurd hstartable hnot
      · exact ⟨failing, hmem, hnot⟩
    · exact ⟨error, by simp only [loadAdapters, hcreate]⟩
    · exact ⟨error, by simp only [loadAdapters, hcreate, hinit]⟩

theorem init_eq (s : DocumentService) :
    init Outage.none s = loadAdapters Outage.none s.documents s := rfl

theorem getOracle_eq_ok_iff {s : DocumentService} {partyType currency : JsString}
    {oracle : OracleDocument} :
    s.getOracle Outage.none partyType currency = .ok oracle ↔
      s.selectOracle partyType currency = some oracle := by
  simp only [getOracle, Outage.none]
  cases s.selectOracle partyType currency <;> simp

/-- The selection as two searches. -/
theorem selectOracle_eq (s : DocumentService) (partyType currency : JsString) :
    s.selectOracle partyType currency =
      (s.documents.find? fun oracle => strictlyEqual oracle.currency currency.toJson &&
          fieldMatches oracle.partyType partyType).or
        (s.documents.find? fun oracle => !strictlyEqual oracle.currency currency.toJson &&
          fieldMatches oracle.partyType partyType) := by
  simp only [selectOracle, List.filter_filter, List.head?_filter]

theorem mem_of_selectOracle {s : DocumentService} {partyType currency : JsString}
    {oracle : OracleDocument} (h : s.selectOracle partyType currency = some oracle) :
    oracle ∈ s.documents := by
  rw [selectOracle_eq, Option.or_eq_some_iff] at h
  rcases h with hfind | ⟨-, hfind⟩
  · exact List.mem_of_find?_eq_some hfind
  · exact List.mem_of_find?_eq_some hfind

/-- An oracle that the finder returns resolves to an adapter of its id, all oracles being
loaded, exactly when its id equals itself. -/
theorem exists_getOracleAdapter_iff {s : DocumentService} (hloaded : s.adapters = s.documents)
    {partyType currency : JsString} {oracle : OracleDocument}
    (h : s.getOracle Outage.none partyType currency = .ok oracle) :
    (∃ adapter, s.getOracleAdapter Outage.none partyType currency = .ok adapter ∧
        adapter.id.strictEquals oracle.id = true) ↔ oracle.id.isReference = false := by
  simp only [getOracleAdapter, h]
  cases hfind : s.adapters.find? fun adapter => adapter.id.strictEquals oracle.id with
  | some adapter =>
    have hequal : adapter.id.strictEquals oracle.id = true := by simpa using List.find?_some hfind
    exact iff_of_true ⟨adapter, rfl, hequal⟩ (JsonValue.isReference_of_strictEquals hequal)
  | none =>
    have hmem : oracle ∈ s.documents := mem_of_selectOracle (getOracle_eq_ok_iff.mp h)
    have hself := List.find?_eq_none.mp hfind oracle (hloaded ▸ hmem)
    rw [JsonValue.strictEquals_self] at hself
    exact iff_of_false (fun ⟨_, hadapter, _⟩ => (by cases hadapter)) (by simpa using hself)

/-- A currency that no document has. -/
theorem exists_unused_currency (documents : List OracleDocument) :
    ∃ currency : JsString, ∀ oracle ∈ documents,
      strictlyEqual oracle.currency currency.toJson = false := by
  let texts : List String := documents.map fun oracle => (JsString.ofJson oracle.currency).toText
  refine ⟨.str (UuidSource.zeros.draw texts), fun oracle horacle => ?_⟩
  rw [Bool.eq_false_iff]
  intro hequal
  apply UuidSource.zeros.fresh texts
  have hcurrency : oracle.currency = some (.string (UuidSource.zeros.draw texts)) := by
    cases hstored : oracle.currency with
    | none => simp [hstored, strictlyEqual, JsString.toJson] at hequal
    | some value =>
      cases value <;> simp [hstored, strictlyEqual, JsString.toJson, JsonValue.strictEquals]
        at hequal ⊢
      exact hequal
  exact List.mem_map.mpr ⟨oracle, horacle, by rw [hcurrency]; rfl⟩

/-- An oracle that does not stand behind those before it is returned for some currency. -/
theorem exists_selectOracle_of_not_standsBehind {s : DocumentService}
    {before after : List OracleDocument} {oracle : OracleDocument}
    (hsplit : s.documents = before ++ oracle :: after) (h : ¬ oracle.StandsBehind before) :
    ∃ currency, s.selectOracle oracle.partyType currency = some oracle := by
  by_cases hbefore : ∃ other ∈ before, other.partyType.orNull = oracle.partyType.orNull
  · -- it is the first with a currency of its own
    have hcurrency : ¬ ∀ currency : JsString, strictlyEqual oracle.currency currency.toJson = true →
        ∃ other ∈ before, other.partyType.orNull = oracle.partyType.orNull ∧
          strictlyEqual other.currency currency.toJson = true :=
      fun hsame => h ⟨hbefore, hsame⟩
    simp only [not_forall, not_exists, not_and] at hcurrency
    obtain ⟨currency, hown, hnone⟩ := hcurrency
    refine ⟨currency, ?_⟩
    rw [selectOracle_eq, Option.or_eq_some_iff]
    refine Or.inl (List.find?_eq_some_iff_append.mpr ⟨?_, before, after, hsplit, ?_⟩)
    · simp [hown, fieldMatches_eq]
    · intro other hother
      by_cases hsame : other.partyType.orNull = oracle.partyType.orNull
      · simp [hnone other hother hsame]
      · simp [fieldMatches_eq, hsame]
  · -- it is the first for a currency that nobody has
    simp only [not_exists, not_and] at hbefore
    obtain ⟨currency, hunused⟩ := exists_unused_currency s.documents
    refine ⟨currency, ?_⟩
    rw [selectOracle_eq, Option.or_eq_some_iff]
    refine Or.inr ⟨List.find?_eq_none.mpr fun other hother => ?_, ?_⟩
    · simp [hunused other hother]
    · refine List.find?_eq_some_iff_append.mpr ⟨?_, before, after, hsplit, ?_⟩
      · simp [fieldMatches_eq,
          hunused oracle (hsplit ▸ List.mem_append_right _ (List.mem_cons_self ..))]
      · intro other hother
        simp [fieldMatches_eq, hbefore other hother]

/-- An oracle that is returned does not stand behind those before it. -/
theorem not_standsBehind_of_selectOracle {s : DocumentService} {partyType currency : JsString}
    {oracle : OracleDocument} (h : s.selectOracle partyType currency = some oracle) :
    ∃ before after, s.documents = before ++ oracle :: after ∧ ¬ oracle.StandsBehind before := by
  rw [selectOracle_eq, Option.or_eq_some_iff] at h
  rcases h with hfind | ⟨hnone, hfind⟩
  · obtain ⟨hmatch, before, after, hsplit, hfirst⟩ := List.find?_eq_some_iff_append.mp hfind
    rw [Bool.and_eq_true, fieldMatches_eq, decide_eq_true_eq] at hmatch
    refine ⟨before, after, hsplit, fun hbehind => ?_⟩
    obtain ⟨other, hother, hsame, hcurrency⟩ := hbehind.sameCurrency currency hmatch.1
    have hnot := hfirst other hother
    simp [hcurrency, fieldMatches_eq, hsame.trans hmatch.2] at hnot
  · obtain ⟨hmatch, before, after, hsplit, hfirst⟩ := List.find?_eq_some_iff_append.mp hfind
    rw [Bool.and_eq_true, fieldMatches_eq, decide_eq_true_eq] at hmatch
    refine ⟨before, after, hsplit, fun hbehind => ?_⟩
    obtain ⟨other, hother, hsame⟩ := hbehind.samePartyType
    have hnot := hfirst other hother
    have hnotWith := List.find?_eq_none.mp hnone other (hsplit ▸ List.mem_append_left _ hother)
    cases hcurrency : strictlyEqual other.currency currency.toJson with
    | true => simp [hcurrency, fieldMatches_eq, hsame.trans hmatch.2] at hnotWith
    | false => simp [hcurrency, fieldMatches_eq, hsame.trans hmatch.2] at hnot

/-- **What the finder never returns.** No array or object is the id of an oracle that it
returns for some party exactly when every oracle with such an id stands behind others. -/
theorem selected_not_reference_iff (s : DocumentService) :
    (∀ partyType currency oracle, s.selectOracle partyType currency = some oracle →
        oracle.id.isReference = false) ↔ ReferencesBehind s.documents := by
  constructor
  · intro h before oracle after hsplit hreference
    by_contra hnot
    obtain ⟨currency, hselect⟩ := exists_selectOracle_of_not_standsBehind hsplit hnot
    exact Bool.false_ne_true ((h _ _ _ hselect).symm.trans hreference)
  · intro h partyType currency oracle hselect
    obtain ⟨before, after, hsplit, hnot⟩ := not_standsBehind_of_selectOracle hselect
    rw [Bool.eq_false_iff]
    exact fun hreference => hnot (h before oracle after hsplit hreference)

/-- **A registry is fit for a restart** exactly when all its oracles are startable, and those
whose ids are arrays or objects stand behind others. -/
theorem restartSafe_iff {s : DocumentService} :
    s.RestartSafe ↔
      (∀ oracle ∈ s.documents, oracle.Startable) ∧ ReferencesBehind s.documents := by
  by_cases hstartable : ∀ oracle ∈ s.documents, oracle.Startable
  · have hinit : init Outage.none ⟨s.documents, []⟩ = (.ok (), ⟨s.documents, s.documents⟩) := by
      rw [init_eq, loadAdapters_of_startable hstartable, List.nil_append]
    rw [and_iff_right hstartable, ← selected_not_reference_iff]
    constructor
    · rintro ⟨started, hstarted, hresolves⟩ partyType currency oracle hselect
      obtain rfl := (Prod.mk.inj (hinit.symm.trans hstarted)).2
      have hget := getOracle_eq_ok_iff (s := ⟨s.documents, s.documents⟩).mpr hselect
      exact (exists_getOracleAdapter_iff rfl hget).mp
        (hresolves partyType currency oracle hget)
    · intro h
      refine ⟨_, hinit, fun partyType currency oracle hget => ?_⟩
      have hselect := getOracle_eq_ok_iff.mp hget
      exact (exists_getOracleAdapter_iff rfl hget).mpr
        (h partyType currency oracle hselect)
  · refine iff_of_false ?_ fun h => hstartable h.1
    rintro ⟨started, hstarted, -⟩
    simp only [not_forall] at hstartable
    obtain ⟨oracle, hmem, hnot⟩ := hstartable
    obtain ⟨error, herror⟩ := loadAdapters_of_not_startable ⟨oracle, hmem, hnot⟩ ⟨s.documents, []⟩
    rw [init_eq, Prod.ext_iff] at hstarted
    cases hstarted.1.symm.trans herror

/-- One more oracle. -/
theorem referencesBehind_append {documents : List OracleDocument} {oracle : OracleDocument} :
    ReferencesBehind (documents ++ [oracle]) ↔ ReferencesBehind documents ∧
      (oracle.id.isReference = true → oracle.StandsBehind documents) := by
  constructor
  · intro h
    refine ⟨fun before other after hsplit => ?_, h documents oracle [] rfl⟩
    apply h before other (after ++ [oracle])
    rw [hsplit, List.append_assoc, List.cons_append]
  · rintro ⟨hdocuments, hlast⟩ before other after hsplit
    rcases List.eq_nil_or_concat after with rfl | ⟨rest, last, rfl⟩
    · obtain ⟨rfl, hother⟩ := List.append_inj' hsplit rfl
      obtain rfl := (List.cons.inj hother).1
      exact hlast
    · rw [List.concat_eq_append, ← List.cons_append, ← List.append_assoc] at hsplit
      exact hdocuments before other rest (List.append_inj' hsplit rfl).1

theorem startable_newOracle_iff {request : RegistrationRequest} {randomUUID : String}
    (hsupported : ∀ value, request.toCreateOracle.body.type ≠ .other value) :
    (request.newOracle randomUUID).Startable ↔
      (request.toCreateOracle.body.type = .remoteHttp →
        request.endpoint.any JsonValue.truthy = true) := by
  unfold OracleDocument.Startable RegistrationRequest.newOracle
  cases htype : request.toCreateOracle.body.type with
  | builtin => simp
  | remoteHttp => simp
  | other value => exact absurd htype (hsupported value)

variable (routes : OracleAdminExpressRoutes) (matching : DocumentMatching)

/-- A registration request reaches the registry when it is permitted and valid. -/
theorem requestStep_post (s : DocumentService) (outage : Outage) (request : RegistrationRequest)
    (randomUUID : UuidSource) :
    s.requestStep routes matching ⟨outage, .post request randomUUID⟩ =
      if routes.enforcePrivilege request.platformRoleIds createOraclePrivilege = .ok () ∧
          validCreateOracle request.toCreateOracle = true then
        (s.addOracle matching outage request (randomUUID.draw s.stringIds)).2
      else s := by
  simp only [requestStep]
  cases routes.enforcePrivilege request.platformRoleIds createOraclePrivilege <;> simp

theorem requestStep_delete (s : DocumentService) (outage : Outage)
    (request : DeleteOracleRequest) :
    s.requestStep routes matching ⟨outage, .delete request⟩ =
      if routes.enforcePrivilege request.platformRoleIds removeOraclePrivilege = .ok () ∧
          validDeleteOracle request = true then
        (s.removeOracle matching outage request.id).2
      else s := by
  simp only [requestStep]
  cases routes.enforcePrivilege request.platformRoleIds removeOraclePrivilege <;> simp

/-- **One request** registers an oracle, removes one, or changes nothing. -/
theorem requestStep_cases (s : DocumentService) (a : RegistryRequestStep) :
    (∃ request randomUUID, Admits routes matching s a request randomUUID ∧
        (s.requestStep routes matching a).documents =
          s.documents ++ [request.newOracle (randomUUID.draw s.stringIds)]) ∨
      (∃ request, Discards routes matching s a request ∧
        (s.requestStep routes matching a).documents = s.documents.eraseP fun oracle =>
          matching.selects (some oracle.id) (some (.string request.id))) ∨
      (∀ request randomUUID, ¬ Admits routes matching s a request randomUUID) ∧
        (∀ request, ¬ Discards routes matching s a request) ∧
        s.requestStep routes matching a = s := by
  obtain ⟨outage, request⟩ := a
  cases request with
  | post request randomUUID =>
    have hdiscards : ∀ request', ¬ Discards routes matching s
        ⟨outage, .post request randomUUID⟩ request' := fun _ h => (by cases h.request_eq)
    rw [requestStep_post]
    split
    · next hreaches =>
      rcases s.addOracle_cases matching outage request (randomUUID.draw s.stringIds) with
        ⟨hstores, hadd⟩ | ⟨hnot, hadd⟩
      · exact Or.inl ⟨request, randomUUID, ⟨rfl, hreaches.1, hreaches.2, hstores⟩, hadd⟩
      · refine Or.inr (Or.inr ⟨fun _ _ h => ?_, hdiscards, hadd⟩)
        obtain ⟨rfl, rfl⟩ := RegistryRequest.post.inj h.request_eq
        exact hnot h.stores
    · next hrefused =>
      refine Or.inr (Or.inr ⟨fun _ _ h => ?_, hdiscards, rfl⟩)
      obtain ⟨rfl, rfl⟩ := RegistryRequest.post.inj h.request_eq
      exact hrefused ⟨h.permitted, h.valid⟩
  | delete request =>
    have hadmits : ∀ request' randomUUID, ¬ Admits routes matching s
        ⟨outage, .delete request⟩ request' randomUUID := fun _ _ h => (by cases h.request_eq)
    rw [requestStep_delete]
    split
    · next hreaches =>
      rcases s.removeOracle_cases matching outage request.id with
        ⟨hdeletes, hremove⟩ | ⟨hnot, hremove⟩
      · exact Or.inr (Or.inl ⟨request, ⟨rfl, hreaches.1, hreaches.2, hdeletes⟩, hremove⟩)
      · refine Or.inr (Or.inr ⟨hadmits, fun _ h => ?_, hremove⟩)
        obtain rfl := RegistryRequest.delete.inj h.request_eq
        exact hnot h.deletes
    · next hrefused =>
      refine Or.inr (Or.inr ⟨hadmits, fun _ h => ?_, rfl⟩)
      obtain rfl := RegistryRequest.delete.inj h.request_eq
      exact hrefused ⟨h.permitted, h.valid⟩

theorem restartSafe_requestStep_iff {s : DocumentService} (h : s.RestartSafe)
    (a : RegistryRequestStep) :
    (s.requestStep routes matching a).RestartSafe ↔ KeepsFit routes matching s a := by
  rw [restartSafe_iff] at h ⊢
  rcases s.requestStep_cases routes matching a with
    ⟨request, randomUUID, hadmits, heq⟩ | ⟨request, hdiscards, heq⟩ | ⟨hnone, hkeeps, heq⟩
  · have honly : ∀ request' randomUUID', Admits routes matching s a request' randomUUID' →
        request' = request ∧ randomUUID' = randomUUID := fun _ _ hother =>
      RegistryRequest.post.inj (hother.request_eq.symm.trans hadmits.request_eq)
    rw [heq, referencesBehind_append, and_iff_right h.2]
    simp only [List.mem_append, List.mem_singleton, or_imp, forall_and, forall_eq,
      and_iff_right h.1, startable_newOracle_iff hadmits.stores.supported]
    constructor
    · rintro ⟨hendpoint, hbehind⟩
      refine ⟨fun _ _ hother => ?_, fun _ _ hother => ?_, fun _ hother => ?_⟩
      · obtain ⟨rfl, rfl⟩ := honly _ _ hother
        exact hendpoint
      · obtain ⟨rfl, rfl⟩ := honly _ _ hother
        exact hbehind
      · cases hadmits.request_eq.symm.trans hother.request_eq
    · intro hfit
      exact ⟨hfit.endpoint _ _ hadmits, hfit.behind _ _ hadmits⟩
  · rw [heq, and_iff_right fun oracle horacle => h.1 oracle (List.mem_of_mem_eraseP horacle)]
    constructor
    · intro hbehind
      refine ⟨fun _ _ hother => ?_, fun _ _ hother => ?_, fun _ hother => ?_⟩
      · cases hdiscards.request_eq.symm.trans hother.request_eq
      · cases hdiscards.request_eq.symm.trans hother.request_eq
      · obtain rfl := RegistryRequest.delete.inj (hother.request_eq.symm.trans hdiscards.request_eq)
        exact hbehind
    · exact fun hfit => hfit.stayBehind request hdiscards
  · rw [heq]
    exact iff_of_true h ⟨fun _ _ hother => absurd hother (hnone _ _),
      fun _ _ hother => absurd hother (hnone _ _), fun _ hother => absurd hother (hkeeps _)⟩

/-- **Restart safety, exactly.** From an empty registry, every state of a run of requests is
fit for a restart exactly when every request keeps it so. -/
theorem restartSafe_throughout_iff (steps : List RegistryRequestStep) :
    (∀ before, before <+: steps →
        (run (requestStep routes matching) empty before).RestartSafe) ↔
      Along (requestStep routes matching) (KeepsFit routes matching) empty steps := by
  have hempty : empty.RestartSafe := by
    refine restartSafe_iff.mpr ⟨fun _ h => (by cases h), fun before oracle after hsplit => ?_⟩
    cases before <;> cases hsplit
  apply (forall_prefix_iff_along RestartSafe _ steps).trans
  rw [and_iff_right hempty]
  exact along_iff_of_exact RestartSafe
    (fun _ a h => restartSafe_requestStep_iff routes matching h a)
    (fun _ a h hfit => (restartSafe_requestStep_iff routes matching h a).mpr hfit) steps _ hempty

/-- Equality of values that are no objects; an array is also found by its items. -/
def sampleMatching : DocumentMatching where
  selects stored wanted :=
    match wanted.getD .null, stored with
    | wanted, some (.array items) => items.any fun item => item.strictEquals wanted
    | wanted, stored => (stored.getD .null).strictEquals wanted
  selects_declared stored wanted := by
    cases stored <;> cases wanted <;>
      simp [JsString.toJson, fieldMatches, JsonValue.strictEquals, JsString.nullish]

/-- A registration for one party type, without an endpoint. -/
def sampleRegistration (id type : JsonValue) : RegistrationRequest where
  platformRoleIds := ["admin"]
  name := ⟨some (.string "oracle"), none, none, none, none⟩
  type := ⟨some type, none, none, none, none⟩
  partyType := ⟨some (.string "MSISDN"), none, none, none, none⟩
  id := some id
  currency := none
  endpoint := none

/-- The registry after the registration, everybody having all privileges. -/
def registered (request : RegistrationRequest) : DocumentService :=
  run (requestStep ⟨fun _ _ => true⟩ sampleMatching) empty
    [⟨Outage.none, .post request UuidSource.zeros⟩]

/-- A remote oracle posted without an endpoint stops the next start; one posted with an array
as its id is left without an adapter by it. -/
theorem not_forall_restartSafe :
    ¬ (registered (sampleRegistration (.string "1") (.string "remote-http"))).RestartSafe ∧
      ¬ (registered
        (sampleRegistration (.array [.string "1"]) (.string "builtin"))).RestartSafe := by
  constructor
  · intro h
    have hstartable := (restartSafe_iff.mp h).1 _ (List.mem_singleton.mpr rfl)
    rcases hstartable with htype | ⟨-, hendpoint⟩
    · cases htype
    · cases hendpoint
  · intro h
    obtain ⟨other, hother, -⟩ := ((restartSafe_iff.mp h).2 [] _ [] rfl rfl).samePartyType
    cases hother

end DocumentService

end AccountLookup
