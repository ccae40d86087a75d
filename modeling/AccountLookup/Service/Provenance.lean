/-
# Where the associations come from

The collection of the built-in oracles is written by two requests only. Whatever fails on
the way, whatever else the service is asked, and however oracles come and go, the documents
of the collection balance: each one there is was there before, or was added by a request of
the participant that it names, and each one gone was taken out by such a request.
-/

import AccountLookup.Domain.Asking
import AccountLookup.Library.Tally
import AccountLookup.Service.AssociationEvents
import AccountLookup.Service.RoutingStability

namespace AccountLookup

open Library Library.Transition Library.FirstMatch

namespace AssociationChange

variable {T : Type} {w : BuiltinWorld T} {payload : Payload}

/-- The document that the change adds to the collection, or takes out of it. -/
def document (w : BuiltinWorld T) (payload : Payload) : AssociationChange → Option Association
  | .associate => some (query payload .associate).toDocument
  | .disassociate => w.parties.find? (query payload .disassociate).satisfiedBy

/-- The document of a change names the participant that asks for it. -/
theorem fspId_of_document {change : AssociationChange} {d : Association} {id : String}
    (howner : payload.ownerFspId = .str id) (h : change.document w payload = some d) :
    d.fspId = .str id := by
  cases change with
  | associate =>
    obtain rfl := Option.some.inj h
    show payload.ownerFspId.orNull = .str id
    rw [howner]
    rfl
  | disassociate =>
    have hfound := List.find?_some h
    simp only [query, read, howner, LookupQuery.satisfiedBy,
      MongoOracleProviderRepo.buildLookupQuery, Bool.and_eq_true, JsString.orNull_str,
      Option.all_some, fieldMatches] at hfound
    exact of_decide_eq_true hfound.1.1.1.1

variable [LinearOrder T] [Add T] (repo : MongoOracleProviderRepo T)

/-- A change that goes through in the database adds its document, or takes it out. -/
theorem parties_of_writes {change : AssociationChange} (h : change.Writes w payload) :
    (change.call repo.adapter payload w).2.parties =
      match change with
      | .associate => w.parties ++ [(query payload .associate).toDocument]
      | .disassociate => w.parties.eraseP (query payload .disassociate).satisfiedBy := by
  cases change with
  | associate =>
    obtain ⟨hfind, hinsert, hnone⟩ := h
    simp only [query, read, id_eq] at hnone
    simp only [call, MongoOracleProviderRepo.adapter, query, read, id_eq,
      MongoOracleProviderRepo.associateParticipant, hfind, hnone, hinsert,
      MongoOracleProviderRepo.setToCache]
    cases w.failure .redisSetex <;> rfl
  | disassociate =>
    obtain ⟨hdelete, -⟩ := h
    simp only [call, MongoOracleProviderRepo.adapter, query, read,
      MongoOracleProviderRepo.disassociateParticipant, hdelete,
      MongoOracleProviderRepo.delFromCache]
    cases w.failure .redisDel <;> rfl

/-- The change adds the document to the collection, or takes it out. -/
def Moves (w : BuiltinWorld T) (payload : Payload) (change : AssociationChange)
    (d : Association) : Prop :=
  change.Writes w payload ∧ change.document w payload = some d

variable (w payload) in
open Classical in
/-- **What a call of the built-in adapter does to the collection**, counted by document. -/
theorem count_parties_call (change : AssociationChange) (d : Association) :
    (change.call repo.adapter payload w).2.parties.count d +
        (if change = .disassociate ∧ Moves w payload .disassociate d then 1 else 0) =
      w.parties.count d +
        if change = .associate ∧ Moves w payload .associate d then 1 else 0 := by
  rcases writesFirst repo w payload change with ⟨hwrites, -, -⟩ | ⟨hnot, hsame⟩
  · rw [parties_of_writes repo hwrites]
    cases change with
    | associate =>
      have hmoves : Moves w payload .associate d ↔ (query payload .associate).toDocument = d :=
        ⟨fun h => Option.some.inj h.2, fun h => ⟨hwrites, congrArg some h⟩⟩
      simp [hmoves, List.count_append, List.count_singleton]
    | disassociate =>
      obtain ⟨found, hfound⟩ := hwrites.2
      have hmoves : Moves w payload .disassociate d ↔ found = d :=
        ⟨fun h => Option.some.inj (hfound.symm.trans h.2),
          fun h => ⟨hwrites, hfound.trans (congrArg some h)⟩⟩
      simpa [hmoves] using count_eraseP hfound d
  · have hstill : ∀ other, ¬ (change = other ∧ Moves w payload other d) := by
      rintro other ⟨rfl, hmoves⟩
      exact hnot hmoves.1
    rw [hsame, if_neg (hstill .disassociate), if_neg (hstill .associate)]

end AssociationChange

/-- A lookup does not touch the collection. -/
theorem MongoOracleProviderRepo.parties_getParticipantFspId {T : Type} [LinearOrder T] [Add T]
    (repo : MongoOracleProviderRepo T) (partyType partyId partySubType currency : JsString)
    (w : BuiltinWorld T) :
    (repo.getParticipantFspId partyType partyId partySubType currency w).2.parties =
      w.parties := by
  simp only [getParticipantFspId, getFromCache]
  cases w.failure .redisGet with
  | some message => rfl
  | none =>
    cases w.cache.get w.now (getKeyWithPrefix partyType partyId partySubType currency) with
    | some cacheData => rfl
    | none =>
      dsimp only
      cases w.failure .findOne with
      | some message => rfl
      | none =>
        cases w.parties.find? (lookupQuery partyType partyId partySubType currency).satisfiedBy with
        | none => rfl
        | some data =>
          simp only [setToCache]
          cases w.failure .redisSetex <;> rfl

namespace OracleAdapterFactory

open AccountLookupAggregate RunningService

variable {T R : Type} [LinearOrder T] [Add T] (settings : OracleAdapterFactory T R)
  (participantService : IParticipantServiceAdapter R)

/-- The change reaches a built-in oracle: its participant passes, and its party is routed to
one. -/
structure Reaches (adapters : List (IOracleProviderAdapter (ServiceWorld T R)))
    (change : AssociationChange) (payload : Payload) (w : ServiceWorld T R) : Prop where
  passes : ∃ w', (settings.loaded participantService adapters).ParticipantPasses
    payload.ownerFspId w w'
  routed : settings.RoutesToBuiltin participantService adapters change payload w

/-- The call is a request for the change that reaches a built-in oracle, and there the
document is added or taken out. -/
def Moves (change : AssociationChange) (d : Association) (s : RunningService T R) :
    ServiceCall → Prop
  | .message message => ∃ payload, message.accepted = some (change.request, payload) ∧
      settings.Reaches participantService s.adapters change payload s.world ∧
      AssociationChange.Moves s.world.builtin payload change d
  | _ => False

variable {settings participantService}
  {adapters : List (IOracleProviderAdapter (ServiceWorld T R))} {s : RunningService T R}

/-- Asking does not touch the collection. -/
theorem askingKeeps_parties (hall : settings.AllCreated adapters) (parties : List Association) :
    (settings.loaded participantService adapters).AskingKeeps
      fun w => w.builtin.parties = parties := by
  refine ⟨fun id w hw => hw, fun partyType currency w hw => ?_,
    fun adapter hadapter partyType partyId partySubType currency w hw => ?_⟩
  · rwa [getOracle_snd]
  · obtain ⟨oracle, w₀, hcreate⟩ := hall adapter hadapter
    cases htype : oracle.type with
    | builtin =>
      simp only [create, htype, Prod.mk.injEq, Except.ok.injEq, and_true] at hcreate
      subst hcreate
      show (MongoOracleProviderRepo.getParticipantFspId _ partyType partyId partySubType
        currency w.builtin).2.parties = parties
      rwa [MongoOracleProviderRepo.parties_getParticipantFspId]
    | remoteHttp =>
      simp only [create, htype, Prod.mk.injEq, Except.ok.injEq, and_true] at hcreate
      subst hcreate
      exact hw
    | other value => simp [create, htype] at hcreate

/-- What the change of a participant that passes does to the built-in stores through the
adapter that its party is routed to. -/
theorem called_reaches {change : AssociationChange} {payload : Payload}
    {adapter : IOracleProviderAdapter (ServiceWorld T R)} {w w₁ w₂ : ServiceWorld T R}
    (hall : settings.AllCreated adapters)
    (hpass : (settings.loaded participantService adapters).ParticipantPasses payload.ownerFspId
      w w₁)
    (hroute : (settings.loaded participantService adapters).RoutesTo
      (change.read payload.partyType) (change.read payload.currency) adapter w₁ w₂) :
    (settings.Reaches participantService adapters change payload w ∧
        ∃ repo : MongoOracleProviderRepo T, (change.call adapter payload w₂).2.builtin =
          (change.call repo.adapter payload w.builtin).2) ∨
      ¬ settings.Reaches participantService adapters change payload w ∧
        (change.call adapter payload w₂).2.builtin = w.builtin := by
  obtain ⟨hfinder, hbuiltin⟩ := stores_of_participantPasses hpass
  obtain ⟨rfl, hroute'⟩ := routesTo_of_finder hroute hfinder
  have hcreated := hall adapter (List.mem_of_find?_eq_some hroute.choose_spec.2)
  rcases call_of_created hcreated change payload w₂ with
    ⟨htype, repo, -, hstores⟩ | ⟨htype, hstores⟩
  · rw [hbuiltin] at hstores
    exact Or.inl ⟨⟨⟨w₂, hpass⟩, adapter, w, hroute', htype⟩, repo, hstores⟩
  · rw [hbuiltin] at hstores
    refine Or.inr ⟨fun hreaches => ?_, hstores⟩
    obtain ⟨adapter', _, hroute'', htype'⟩ := hreaches.routed
    obtain ⟨rfl, -⟩ := hroute'.unique hroute''
    exact htype htype'

/-- A handled change that does not reach a built-in oracle leaves the built-in stores
alone; one that does is a call of a built-in adapter. -/
theorem handled_reaches {change : AssociationChange} {payload : Payload} {event : DomainEvent}
    {w w' : ServiceWorld T R} (hall : settings.AllCreated adapters)
    (h : (settings.loaded participantService adapters).Handled change payload w event w') :
    (settings.Reaches participantService adapters change payload w ∧
        ∃ repo : MongoOracleProviderRepo T,
          w'.builtin = (change.call repo.adapter payload w.builtin).2) ∨
      ¬ settings.Reaches participantService adapters change payload w ∧
        w'.builtin = w.builtin := by
  cases h with
  | invalidOwner errorEvent hanswers hfail hworld =>
    refine Or.inr ⟨fun hreaches => ?_, ?_⟩
    · obtain ⟨w₁, hpass⟩ := hreaches.passes
      exact hfail w₁ hpass
    · rw [← hworld, builtin_validateParticipantInfoOrGetErrorEvent]
  | unrouted w₁ hanswers hpass hnone hworld =>
    obtain ⟨hfinder, hbuiltin⟩ := stores_of_participantPasses hpass
    refine Or.inr ⟨fun hreaches => ?_, ?_⟩
    · obtain ⟨adapter, w₂, hroute, -⟩ := hreaches.routed
      exact hnone adapter w₁ (routesTo_of_finder hroute hfinder.symm).2
    · rw [← hworld, getOracleAdapter_snd, hbuiltin]
  | refused adapter w₁ w₂ error hanswers hpass hroute hcall =>
    have hreaches := called_reaches hall hpass hroute
    rwa [hcall] at hreaches
  | done adapter w₁ w₂ hanswers hpass hroute hcall =>
    have hreaches := called_reaches hall hpass hroute
    rwa [hcall] at hreaches

theorem builtin_perform (s : RunningService T R) (call : AdminCall) :
    (settings.perform participantService s call).2.world.builtin = s.world.builtin := by
  cases call with
  | addOracle oracle randomUUID =>
    rcases settings.perform_addOracle_cases participantService s oracle randomUUID with
      ⟨-, error, hperform⟩ | ⟨-, adapter, -, ⟨-, hperform⟩ | ⟨-, error, hperform⟩⟩
    · rw [hperform]
    · rw [hperform]
      rfl
    · rw [hperform]
      rfl
  | removeOracle id =>
    rcases settings.perform_removeOracle_cases participantService s id with
      ⟨-, error, hperform⟩ | ⟨-, hperform⟩
    · rw [hperform]
    · rw [hperform]
      rfl

/-- Only one kind of request can move documents. -/
theorem request_inj {first second : AssociationChange} (h : first.request = second.request) :
    first = second := by
  cases first <;> cases second <;> first | rfl | cases h

/-- Which documents a handled change moves. -/
theorem moves_message_iff {change other : AssociationChange} {payload : Payload}
    {message : IMessage} {d : Association}
    (haccepted : message.accepted = some (change.request, payload)) :
    settings.Moves participantService other d s (.message message) ↔
      settings.Reaches participantService s.adapters change payload s.world ∧
        change = other ∧ AssociationChange.Moves s.world.builtin payload other d := by
  constructor
  · rintro ⟨payload', haccepted', hreaches, hmoves⟩
    obtain ⟨hrequest, rfl⟩ := Prod.mk.inj (Option.some.inj (haccepted.symm.trans haccepted'))
    obtain rfl := request_inj hrequest
    exact ⟨hreaches, rfl, hmoves⟩
  · rintro ⟨hreaches, rfl, hmoves⟩
    exact ⟨payload, haccepted, hreaches, hmoves⟩

variable (settings participantService) in
open Classical in
/-- The documents of the collection balance in the step. -/
def Balances (d : Association) (s : RunningService T R) (a : ServiceStep T R) : Prop :=
  (settings.serviceStep participantService s a).world.builtin.parties.count d +
      (if settings.Moves participantService .disassociate d (s.found a) a.call then 1 else 0) =
    s.world.builtin.parties.count d +
      if settings.Moves participantService .associate d (s.found a) a.call then 1 else 0

theorem balances_of_still {d : Association} {a : ServiceStep T R}
    (hkept : (settings.serviceStep participantService s a).world.builtin.parties =
      s.world.builtin.parties)
    (hstill : ∀ change, ¬ settings.Moves participantService change d (s.found a) a.call) :
    settings.Balances participantService d s a := by
  rw [Balances, hkept, if_neg (hstill .disassociate), if_neg (hstill .associate)]

/-- **One step.** -/
theorem balances_serviceStep (hall : settings.AllCreated s.adapters) {a : ServiceStep T R}
    (hquiet : (s.found a).world.builtin.parties = s.world.builtin.parties) (d : Association) :
    settings.Balances participantService d s a := by
  classical
  have hasking : (settings.loaded participantService s.adapters).AskingKeeps
      fun w => w.builtin.parties = s.world.builtin.parties := askingKeeps_parties hall _
  obtain ⟨meanwhile, call⟩ := a
  cases call with
  | lookup accountIdentifier =>
    exact balances_of_still (hasking.getAccountLookUp hquiet accountIdentifier) fun _ h => h
  | admin call =>
    refine balances_of_still ?_ fun _ h => h
    rw [← hquiet]
    exact congrArg BuiltinWorld.parties (builtin_perform _ call)
  | message message =>
    rcases hasking.handleEvent hquiet message with ⟨hkept, hother⟩ |
      ⟨change, payload, event, haccepted, hhandled⟩
    · refine balances_of_still hkept ?_
      rintro change ⟨payload, haccepted, -⟩
      exact hother change payload haccepted
    · rcases handled_reaches hall hhandled with ⟨hreaches, repo, hstores⟩ | ⟨hnot, hstores⟩
      · have hcount := AssociationChange.count_parties_call
          (s.found ⟨meanwhile, .message message⟩).world.builtin payload repo change d
        rw [← hstores, hquiet] at hcount
        have hmoves : ∀ other : AssociationChange, settings.Moves participantService other d
            (s.found ⟨meanwhile, .message message⟩) (.message message) ↔
            change = other ∧ AssociationChange.Moves
              (s.found ⟨meanwhile, .message message⟩).world.builtin payload other d :=
          fun other => (moves_message_iff haccepted).trans (and_iff_right hreaches)
        rw [Balances, if_congr (hmoves .disassociate) rfl rfl,
          if_congr (hmoves .associate) rfl rfl]
        exact hcount
      · refine balances_of_still ((congrArg BuiltinWorld.parties hstores).trans hquiet) ?_
        intro other hmoves
        exact hnot ((moves_message_iff haccepted).mp hmoves).1

theorem allCreated_serviceStep (hall : settings.AllCreated s.adapters) (a : ServiceStep T R) :
    settings.AllCreated (settings.serviceStep participantService s a).adapters := by
  obtain ⟨meanwhile, call⟩ := a
  cases call with
  | message message => exact hall
  | lookup accountIdentifier => exact hall
  | admin call => exact allCreated_perform (s := s.found ⟨meanwhile, .admin call⟩) hall call

/-- A document is moved by a participant that passes, and that it names. -/
theorem owner_of_moves {change : AssociationChange} {d : Association} {call : ServiceCall}
    (h : settings.Moves participantService change d s call) :
    ∃ owner w', d.fspId = .str owner ∧
      (settings.loaded participantService s.adapters).ParticipantPasses (.str owner) s.world
        w' := by
  cases call with
  | message message =>
    obtain ⟨payload, -, hreaches, -, hdocument⟩ := h
    obtain ⟨w', id, participant, howner, hpasses⟩ := hreaches.passes
    exact ⟨id, w', AssociationChange.fspId_of_document howner hdocument, id, participant, rfl,
      hpasses⟩
  | lookup accountIdentifier => exact absurd h id
  | admin call => exact absurd h id

variable (settings participantService) in
/-- At some step of the run a participant that passes, and that the document names, has asked
for the change, and the document was moved. -/
def MovedIn (change : AssociationChange) (d : Association) (s : RunningService T R)
    (steps : List (ServiceStep T R)) : Prop :=
  ∃ before a after owner w', steps = before ++ a :: after ∧
    settings.Moves participantService change d
      ((run (settings.serviceStep participantService) s before).found a) a.call ∧
    d.fspId = .str owner ∧
    (settings.loaded participantService
      (run (settings.serviceStep participantService) s before).adapters).ParticipantPasses
        (.str owner) ((run (settings.serviceStep participantService) s before).found a).world w'

open Classical in
theorem movedIn_of_tally {change : AssociationChange} {d : Association}
    {steps : List (ServiceStep T R)} (h : 0 < tally (settings.serviceStep participantService)
      (fun s a => settings.Moves participantService change d (s.found a) a.call) s steps) :
    settings.MovedIn participantService change d s steps := by
  obtain ⟨before, a, after, hsplit, hmoves⟩ := tally_pos_iff.mp h
  obtain ⟨owner, w', hfspId, hpasses⟩ := owner_of_moves hmoves
  exact ⟨before, a, after, owner, w', hsplit, hmoves, hfspId, hpasses⟩

variable (settings participantService) in
open Classical in
/-- **The collection is accounted for.** In every run of messages, lookups, registrations and
removals in which nobody else writes to the collection, whatever fails meanwhile: of every
document there are at the end as many as at the start, and as many more as requests have
added, less those that requests have taken out. So a document that is new has been added by
the participant that it names, and one that is gone has been taken out by it. -/
theorem collection_accounted_for (s : RunningService T R) (hall : settings.AllCreated s.adapters)
    (steps : List (ServiceStep T R))
    (hquiet : Along (settings.serviceStep participantService)
      (fun s a => (s.found a).world.builtin.parties = s.world.builtin.parties) s steps)
    (d : Association) :
    ((run (settings.serviceStep participantService) s steps).world.builtin.parties.count d +
        tally (settings.serviceStep participantService)
          (fun s a => settings.Moves participantService .disassociate d (s.found a) a.call)
          s steps =
      s.world.builtin.parties.count d +
        tally (settings.serviceStep participantService)
          (fun s a => settings.Moves participantService .associate d (s.found a) a.call)
          s steps) ∧
    (d ∉ s.world.builtin.parties →
      d ∈ (run (settings.serviceStep participantService) s steps).world.builtin.parties →
      settings.MovedIn participantService .associate d s steps) ∧
    (d ∈ s.world.builtin.parties →
      d ∉ (run (settings.serviceStep participantService) s steps).world.builtin.parties →
      settings.MovedIn participantService .disassociate d s steps) := by
  have hbalance := measure_run_add_tally (settings.serviceStep participantService)
    (fun s => settings.AllCreated s.adapters) (fun s => s.world.builtin.parties.count d)
    (fun s a => settings.Moves participantService .associate d (s.found a) a.call)
    (fun s a => settings.Moves participantService .disassociate d (s.found a) a.call)
    (fun s a hall _ => allCreated_serviceStep hall a)
    (fun s a hall hquiet => balances_serviceStep hall hquiet d) steps s hall hquiet
  refine ⟨hbalance, fun hnew hend => ?_, fun hstart hgone => ?_⟩
  · apply movedIn_of_tally
    have hzero := List.count_eq_zero_of_not_mem hnew
    have hone := List.count_pos_iff.mpr hend
    omega
  · apply movedIn_of_tally
    have hzero := List.count_eq_zero_of_not_mem hgone
    have hone := List.count_pos_iff.mpr hstart
    omega

/-- A participant takes a phone number, and the cache cannot be written. -/
def sampleSteps : List (ServiceStep ℕ Unit) := [⟨id, .message sampleRequest⟩]

/-- The number that the participant takes. -/
def sampleDocument : Association :=
  ⟨.str "greenbank", .str "MSISDN", .str "27713803912", .undefined, .undefined⟩

theorem collection_accounted_for_sampleSteps :
    sampleSettings.MovedIn welcomingParticipants .associate sampleDocument
      ⟨[sampleAdapter], sampleWorldFailing .redisSetex⟩ sampleSteps :=
  (collection_accounted_for sampleSettings welcomingParticipants
    ⟨[sampleAdapter], sampleWorldFailing .redisSetex⟩ allCreated_sampleAdapter sampleSteps
    ⟨rfl, trivial⟩ sampleDocument).2.1 (by decide) (by decide)

end OracleAdapterFactory

end AccountLookup
