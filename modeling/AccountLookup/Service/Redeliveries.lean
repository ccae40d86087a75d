/-
# Deliveries to the service

The consumer hands the service its messages in batches, and hands a batch over again when
the process was killed in the middle of it, or when the answers to it could not be sent. What
is published for a batch is prescribed message by message. What a batch does to the stores it
does once, however often parts of it were delivered before. The answers of an earlier
delivery are lost, however, if they were not sent: the success event of an association is not
published again.
-/

import AccountLookup.Domain.Deliveries
import AccountLookup.Service.EventHandler
import AccountLookup.Service.WholeService

namespace AccountLookup

open Library Library.Transition

/-- What happens to a service with its consumer. A batch comes, and the producer's call has an
outcome; the process is killed after it has handled some messages, before anything is sent,
and is started anew; or something else happens to the service. -/
inductive Delivery (T : Type)
  | batch (receivedMessages : List IMessage) (sent : Except JsError Unit)
  | killed (handled : List IMessage)
  | other (input : WholeService.ServiceInput T)

namespace WholeService

open AccountLookupAggregate OracleAdapterFactory

variable {T : Type}

theorem lookupState_follow (v : ServiceView) (message : IMessage) :
    (follow v (.message message : ServiceInput T)).lookupState =
      v.lookupState.afterMessage message := by
  have hsame := v.lookupState.afterMessage_eq message
  have hparticipants := congrArg LookupState.participants hsame
  show LookupState.mk (v.lookupState.afterMessage message).participants v.lookupState.home
    (v.lookupState.afterMessage message).owners = v.lookupState.afterMessage message
  rw [hparticipants]
  exact hsame.symm

/-- The view after a list of messages. -/
theorem run_follow_messages (v : ServiceView) (messages : List IMessage) :
    run follow v (messages.map (ServiceInput.message (T := T))) =
      ⟨(run (·.afterMessage ·) v.lookupState messages).participants, v.registry,
        (run (·.afterMessage ·) v.lookupState messages).owners⟩ := by
  induction messages generalizing v with
  | nil => rfl
  | cons message messages ih =>
    rw [List.map_cons, run_cons, ih, lookupState_follow]
    rfl

theorem lookupState_run_follow (v : ServiceView) (messages : List IMessage) :
    (run follow v (messages.map (ServiceInput.message (T := T)))).lookupState =
      run (·.afterMessage ·) v.lookupState messages := by
  induction messages generalizing v with
  | nil => rfl
  | cons message messages ih =>
    rw [List.map_cons, run_cons, ih, lookupState_follow]
    rfl

variable [LinearOrder T]

theorem orderly_of_allowed {v : ServiceView} {messages : List IMessage}
    (h : Along follow Allowed v (messages.map (ServiceInput.message (T := T)))) :
    Along (·.afterMessage ·) (LookupState.OrderlyMessage · Party.IsOrdinary) v.lookupState
      messages := by
  induction messages generalizing v with
  | nil => trivial
  | cons message messages ih =>
    obtain ⟨hmessage, hrest⟩ := h
    refine ⟨hmessage, ?_⟩
    have hlater := ih hrest
    rwa [lookupState_follow] at hlater

variable [Add T]

section Deliver

variable (service : WholeService T)

/-- The event handler of the service, with a producer whose call has the outcome. -/
def eventHandler (adapters : List (IOracleProviderAdapter (ServiceWorld T Surroundings)))
    (sent : Except JsError Unit) : AccountLookupEventHandler (ServiceWorld T Surroundings) :=
  .ofAggregate (service.aggregateWith adapters) ⟨fun _ w => (sent, w)⟩

/-- The outcome of a batch, with what the producer has been asked to send. -/
def batchOutcome (s : RunningService T Surroundings) (receivedMessages : List IMessage)
    (sent : Except JsError Unit) :
    Except JsError Unit × HandlerWorld (ServiceWorld T Surroundings) :=
  (service.eventHandler s.adapters sent).batchMsgHandler receivedMessages ⟨s.world, []⟩

/-- The service after some messages of a batch, before anything is sent. -/
def afterHandling (s : RunningService T Surroundings) (handled : List IMessage) :
    RunningService T Surroundings :=
  { s with world :=
      ((service.eventHandler s.adapters (.ok ())).handleMessages handled [] s.world).2.2 }

def deliver (s : RunningService T Surroundings) : Delivery T → RunningService T Surroundings
  | .batch receivedMessages sent =>
    { s with world := (service.batchOutcome s receivedMessages sent).2.world }
  | .killed handled => service.perform (service.afterHandling s handled) .restart
  | .other input => service.perform s input

/-- The view after a delivery. -/
noncomputable def followDelivery (v : ServiceView) : Delivery T → ServiceView
  | .batch receivedMessages _ => run follow v (receivedMessages.map (ServiceInput.message (T := T)))
  | .killed handled => run follow v (handled.map (ServiceInput.message (T := T)))
  | .other input => follow v input

/-- Every message of a delivery is allowed where its turn comes. -/
def AllowedDelivery (v : ServiceView) : Delivery T → Prop
  | .batch receivedMessages _ =>
    Along follow Allowed v (receivedMessages.map (ServiceInput.message (T := T)))
  | .killed handled => Along follow Allowed v (handled.map (ServiceInput.message (T := T)))
  | .other input => Allowed v input

/-- A batch is answered in turn, in one call of the producer, whose outcome is that of the
batch; a service that was killed starts again. -/
def AnswersDelivery (s : RunningService T Surroundings) (v : ServiceView) : Delivery T → Prop
  | .batch receivedMessages sent =>
    ∃ events, v.lookupState.AnsweredInTurn receivedMessages events ∧
      (service.batchOutcome s receivedMessages sent).1 =
        (if receivedMessages = [] then .ok () else sent) ∧
      (service.batchOutcome s receivedMessages sent).2.sendCalls =
        if receivedMessages = [] then [] else [events]
  | .killed handled =>
    ((service.settings.aggregate participantService).init
      (service.afterHandling s handled).world).1 = .ok ()
  | .other input => service.AnswersBy s v input

end Deliver

variable [CanonicallyOrderedAdd T] {service : WholeService T}
  {v : ServiceView}

/-- **The loop over a batch** answers each message as the view prescribes it then. -/
theorem handleMessages_eq
    {adapters : List (IOracleProviderAdapter (ServiceWorld T Surroundings))}
    (sent : Except JsError Unit) (messages : List IMessage) (w : ServiceWorld T Surroundings)
    (outputEvents : List DomainEventMsg) (h : service.Shows ⟨adapters, w⟩ v)
    (hallowed : Along follow Allowed v (messages.map (ServiceInput.message (T := T)))) :
    ∃ events w',
      (service.eventHandler adapters sent).handleMessages messages outputEvents w =
        (.ok (), outputEvents ++ events, w') ∧
      v.lookupState.AnsweredInTurn messages events ∧
      service.Shows ⟨adapters, w'⟩
        (run follow v (messages.map (ServiceInput.message (T := T)))) := by
  induction messages generalizing w v outputEvents with
  | nil => exact ⟨[], w, by rw [List.append_nil]; rfl, .nil, h⟩
  | cons message messages ih =>
    obtain ⟨hmessage, hrest⟩ := hallowed
    have hanswers := service.simulates.good ⟨adapters, w⟩ v (.message message) h hmessage
    have hnext := service.simulates.next ⟨adapters, w⟩ v (.message message) h hmessage
    let event := AccountLookupEventHandler.passThrough message
      ((service.aggregateWith adapters).handleEvent message w).1
    obtain ⟨events, w', hloop, hturn, hend⟩ := ih
      ((service.aggregateWith adapters).handleEvent message w).2
      (outputEvents ++ [event]) hnext hrest
    rw [lookupState_follow] at hturn
    refine ⟨event :: events, w', ?_, .cons hanswers rfl rfl hturn, hend⟩
    rw [List.append_assoc, List.singleton_append] at hloop
    exact hloop

theorem Shows.batchOutcome_eq {s : RunningService T Surroundings} (h : service.Shows s v)
    {messages : List IMessage} (sent : Except JsError Unit)
    (hallowed : Along follow Allowed v (messages.map (ServiceInput.message (T := T)))) :
    ∃ events w', v.lookupState.AnsweredInTurn messages events ∧
      service.batchOutcome s messages sent =
        (if messages = [] then .ok () else sent, ⟨w', if messages = [] then [] else [events]⟩) ∧
      service.Shows ⟨s.adapters, w'⟩
        (run follow v (messages.map (ServiceInput.message (T := T)))) := by
  obtain ⟨events, w', hloop, hturn, hend⟩ := handleMessages_eq sent messages s.world [] h hallowed
  rw [List.nil_append] at hloop
  refine ⟨events, w', hturn, ?_, hend⟩
  cases messages with
  | nil =>
    cases hturn
    rw [batchOutcome, AccountLookupEventHandler.batchMsgHandler, hloop]
    rfl
  | cons message messages =>
    have hsome : events ≠ [] := by
      rintro rfl
      cases hturn
    rw [batchOutcome, AccountLookupEventHandler.batchMsgHandler_of_completed hloop hsome]
    rfl

/-- **One delivery.** -/
theorem simulates_deliver (service : WholeService T) :
    Simulates service.deliver followDelivery service.Shows AllowedDelivery
      service.AnswersDelivery := by
  constructor
  · intro s v delivery h hallowed
    cases delivery with
    | batch messages sent =>
      obtain ⟨events, w', hturn, houtcome, -⟩ := h.batchOutcome_eq sent hallowed
      exact ⟨events, hturn, congrArg Prod.fst houtcome,
        congrArg (fun outcome => outcome.2.sendCalls) houtcome⟩
    | killed handled =>
      obtain ⟨events, w', hloop, -, hend⟩ :=
        handleMessages_eq (.ok ()) handled s.world [] h hallowed
      have hafter : service.afterHandling s handled = ⟨s.adapters, w'⟩ := by
        rw [afterHandling, hloop]
      rw [← hafter] at hend
      exact hend.restart.1
    | other input => exact service.simulates.good s v input h hallowed
  · intro s v delivery h hallowed
    cases delivery with
    | batch messages sent =>
      obtain ⟨events, w', -, houtcome, hend⟩ := h.batchOutcome_eq sent hallowed
      rw [deliver, houtcome]
      exact hend
    | killed handled =>
      obtain ⟨events, w', hloop, -, hend⟩ :=
        handleMessages_eq (.ok ()) handled s.world [] h hallowed
      have hafter : service.afterHandling s handled = ⟨s.adapters, w'⟩ := by
        rw [afterHandling, hloop]
      rw [← hafter] at hend
      exact hend.restart.2
    | other input => exact service.simulates.next s v input h hallowed

end WholeService

namespace Delivery

variable {T : Type}

/-- The messages that are handled. -/
def messages : Delivery T → List IMessage
  | .batch receivedMessages _ => receivedMessages
  | .killed handled => handled
  | .other _ => []

/-- Messages of a batch are delivered, or what happens does not concern the view. -/
def IsPartOf (receivedMessages : List IMessage) (delivery : Delivery T) : Prop :=
  (∀ message ∈ delivery.messages, message ∈ receivedMessages) ∧
    match delivery with
    | .other (.lookup _) => True
    | .other .restart => True
    | .other (.remoteRestart _) => True
    | .other (.cache _) => True
    | .other _ => False
    | _ => True

end Delivery

namespace WholeService

open Delivery

variable {T : Type} {v : ServiceView} {receivedMessages : List IMessage}
  {attempts : List (Delivery T)}

theorem followDelivery_of_isPartOf {delivery : Delivery T}
    (h : delivery.IsPartOf receivedMessages) (v : ServiceView) :
    followDelivery v delivery =
      run follow v (delivery.messages.map (ServiceInput.message (T := T))) := by
  obtain ⟨-, hkind⟩ := h
  cases delivery with
  | batch part sent => rfl
  | killed part => rfl
  | other input =>
    cases input with
    | lookup accountIdentifier => rfl
    | restart => rfl
    | remoteRestart endpoint => rfl
    | cache change => rfl
    | message message => exact absurd hkind id
    | admin a => exact absurd hkind id
    | participants answers => exact absurd hkind id

/-- To the view, the attempts come down to the messages that they deliver. -/
theorem run_followDelivery_attempts
    (hattempts : ∀ delivery ∈ attempts, delivery.IsPartOf receivedMessages) (v : ServiceView) :
    run followDelivery v attempts =
      run follow v ((attempts.flatMap messages).map (ServiceInput.message (T := T))) := by
  induction attempts generalizing v with
  | nil => rfl
  | cons delivery attempts ih =>
    rw [run_cons, followDelivery_of_isPartOf (hattempts delivery List.mem_cons_self),
      ih fun other hother => hattempts other (List.mem_cons_of_mem delivery hother),
      List.flatMap_cons, List.map_append, run_append]

theorem mem_of_attempted
    (hattempts : ∀ delivery ∈ attempts, delivery.IsPartOf receivedMessages) :
    ∀ message ∈ attempts.flatMap messages, message ∈ receivedMessages := by
  intro message hmessage
  obtain ⟨delivery, hdelivery, hmem⟩ := List.mem_flatMap.mp hmessage
  exact (hattempts delivery hdelivery).1 message hmem

variable [LinearOrder T]

/-- A complete delivery after the attempts leaves the view of a single one. -/
theorem followDelivery_attempts
    (hattempts : ∀ delivery ∈ attempts, delivery.IsPartOf receivedMessages)
    (hallowed : Along follow Allowed v
      (receivedMessages.map (ServiceInput.message (T := T)))) (sent : Except JsError Unit) :
    followDelivery (run followDelivery v attempts) (.batch receivedMessages sent : Delivery T) =
      followDelivery v (.batch receivedMessages sent : Delivery T) := by
  have hstates := LookupState.run_run_eq (orderly_of_allowed hallowed) (mem_of_attempted hattempts)
  rw [run_followDelivery_attempts hattempts, followDelivery, followDelivery, run_follow_messages,
    lookupState_run_follow, hstates, run_follow_messages, run_follow_messages]

/-- A participant is known and an oracle is registered. -/
def sampleHistory : List (Delivery ℕ) :=
  [.other (.participants fun id => .ok (some ⟨id, true, true⟩)),
    .other (.admin ⟨Outage.none, .addOracle
      ⟨.str "1", .str "builtin", .builtin, .str "MSISDN", .null, .null⟩ UuidSource.zeros⟩)]

/-- The participant takes a number and asks for it. -/
def sampleBatch : List IMessage :=
  [RequestEvt.participantAssociationRequestReceivedEvt,
    .participantQueryReceivedEvt].map sampleMessage

/-- The process is killed after the first message; the next time, the producer fails. -/
def sampleAttempts : List (Delivery ℕ) :=
  [.killed ([RequestEvt.participantAssociationRequestReceivedEvt].map sampleMessage),
    .other (.remoteRestart "http://oracle"),
    .batch sampleBatch (.error ⟨.external, "Broker unavailable"⟩)]

/-- The sample phone number is free or belongs to the participant. -/
def FreeOrGreenbank (s : LookupState OracleStore) : Prop :=
  ∀ home, s.owners home samplePhoneNumber = none ∨
    s.owners home samplePhoneNumber = some "greenbank"

theorem orderly_of_freeOrGreenbank {s : LookupState OracleStore} (h : FreeOrGreenbank s)
    (request : RequestEvt) : s.OrderlyMessage Party.IsOrdinary (sampleMessage request) := by
  apply orderly_sampleMessage
  intro call home hcall
  cases request with
  | participantAssociationRequestReceivedEvt =>
    obtain rfl := Option.some.inj hcall
    exact h home
  | participantDisassociateRequestReceivedEvt =>
    obtain rfl := Option.some.inj hcall
    trivial
  | partyQueryReceivedEvt => cases hcall
  | partyInfoAvailableEvt => cases hcall
  | participantQueryReceivedEvt => cases hcall
  | partyRejectedEvt => cases hcall
  | participantRejectedEvt => cases hcall

theorem freeOrGreenbank_afterMessage {s : LookupState OracleStore} (h : FreeOrGreenbank s)
    (request : RequestEvt) : FreeOrGreenbank (s.afterMessage (sampleMessage request)) := by
  rw [LookupState.afterMessage_eq_callOf]
  cases hcall : s.callOf (sampleMessage request) with
  | none => exact h
  | some call =>
    intro home
    show (s.afterCall call).owners home samplePhoneNumber = none ∨
      (s.afterCall call).owners home samplePhoneNumber = some "greenbank"
    rw [LookupState.afterCall_owners]
    split
    · obtain ⟨other, payload, party, haccepted, -, -, hcalled⟩ := s.callOf_eq_some_iff.mp hcall
      simp only [IMessage.accepted, sampleMessage, if_true, RequestEvt.ofName_name,
        Option.some.injEq, Prod.mk.injEq] at haccepted
      obtain ⟨rfl, rfl⟩ := haccepted
      cases request with
      | participantAssociationRequestReceivedEvt =>
        obtain rfl := Option.some.inj hcalled
        rcases h home with hfree | howned
        · rw [hfree]
          exact Or.inr rfl
        · rw [howned]
          exact Or.inr rfl
      | participantDisassociateRequestReceivedEvt =>
        obtain rfl := Option.some.inj hcalled
        rcases h home with hfree | howned
        · rw [hfree]
          exact Or.inl rfl
        · rw [howned]
          exact Or.inl rfl
      | partyQueryReceivedEvt => cases hcalled
      | partyInfoAvailableEvt => cases hcalled
      | participantQueryReceivedEvt => cases hcalled
      | partyRejectedEvt => cases hcalled
      | participantRejectedEvt => cases hcalled
    · exact h home

theorem allowed_sampleMessages {v : ServiceView} (h : FreeOrGreenbank v.lookupState)
    (requests : List RequestEvt) :
    Along follow Allowed v ((requests.map sampleMessage).map (ServiceInput.message (T := ℕ))) ∧
      FreeOrGreenbank (run follow v
        ((requests.map sampleMessage).map (ServiceInput.message (T := ℕ)))).lookupState := by
  induction requests generalizing v with
  | nil => exact ⟨trivial, h⟩
  | cons request requests ih =>
    have hnext : FreeOrGreenbank
        (follow v (.message (sampleMessage request) : ServiceInput ℕ)).lookupState := by
      rw [lookupState_follow]
      exact freeOrGreenbank_afterMessage h request
    exact ⟨⟨orderly_of_freeOrGreenbank h request, (ih hnext).1⟩, (ih hnext).2⟩

theorem allowed_sampleHistory (rest : List (Delivery ℕ))
    (hrest : ∀ v : ServiceView, FreeOrGreenbank v.lookupState →
      Along followDelivery AllowedDelivery v rest) :
    Along followDelivery AllowedDelivery ServiceView.empty (sampleHistory ++ rest) :=
  ⟨trivial, ⟨rfl, rfl, fun h => (by cases h)⟩, hrest _ fun _ => Or.inl rfl⟩

theorem allowed_sampleAttempts {v : ServiceView} (h : FreeOrGreenbank v.lookupState) :
    Along followDelivery AllowedDelivery v
      (sampleAttempts ++ [.batch sampleBatch (.ok ())]) := by
  have hkilled := allowed_sampleMessages h [.participantAssociationRequestReceivedEvt]
  have hfailed := allowed_sampleMessages hkilled.2
    [.participantAssociationRequestReceivedEvt, .participantQueryReceivedEvt]
  have hsent := allowed_sampleMessages hfailed.2
    [.participantAssociationRequestReceivedEvt, .participantQueryReceivedEvt]
  exact ⟨hkilled.1, trivial, hfailed.1, hsent.1, trivial⟩

theorem isPartOf_sampleAttempts :
    ∀ delivery ∈ sampleAttempts, delivery.IsPartOf sampleBatch := by
  intro delivery hdelivery
  rcases List.mem_cons.mp hdelivery with rfl | hdelivery
  · exact ⟨fun message hmem => List.mem_cons.mpr (Or.inl (List.mem_singleton.mp hmem)), trivial⟩
  rcases List.mem_cons.mp hdelivery with rfl | hdelivery
  · exact ⟨fun message hmem => (by cases hmem), trivial⟩
  · obtain rfl := List.mem_singleton.mp hdelivery
    exact ⟨fun message hmem => hmem, trivial⟩

/-! ## At least once -/

variable [Add T] [CanonicallyOrderedAdd T]

/-- **Batches are answered in turn.** In every run from a fresh service in which every message
is allowed where its turn comes, every batch is answered by one event for each message, as the
view prescribes it then, in one call of the producer, and every service that was killed in
the middle of a batch starts again. -/
theorem answers_in_turn_throughout (service : WholeService T) (now : T)
    (deliveries : List (Delivery T))
    (hallowed : Along followDelivery AllowedDelivery ServiceView.empty deliveries) :
    Along (beside service.deliver followDelivery)
      (fun s delivery => service.AnswersDelivery s.1 s.2 delivery)
      (fresh now, ServiceView.empty) deliveries :=
  (service.simulates_deliver.along deliveries _ _ (service.shows_fresh now) hallowed).1

theorem answers_in_turn_sampleDeliveries :
    Along (beside sampleService.deliver followDelivery)
      (fun s delivery => sampleService.AnswersDelivery s.1 s.2 delivery)
      (fresh 0, ServiceView.empty)
      (sampleHistory ++ (sampleAttempts ++ [.batch sampleBatch (.ok ())])) :=
  answers_in_turn_throughout sampleService 0 _
    (allowed_sampleHistory _ fun _ h => allowed_sampleAttempts h)

/-- **At least once is once.** After any attempts to deliver a batch, in part and in any order,
with a producer that fails, with restarts, and with a process that is killed in the middle, a
complete delivery leaves a service that answers whatever comes later as after a single
delivery. -/
theorem delivered_once (service : WholeService T) (now : T)
    (history attempts later : List (Delivery T)) (receivedMessages : List IMessage)
    (sent : Except JsError Unit)
    (hattempts : ∀ delivery ∈ attempts, delivery.IsPartOf receivedMessages)
    (honce : Along followDelivery AllowedDelivery ServiceView.empty
      (history ++ .batch receivedMessages sent :: later))
    (hagain : Along followDelivery AllowedDelivery ServiceView.empty
      (history ++ (attempts ++ [.batch receivedMessages sent]))) :
    Along (beside service.deliver followDelivery)
      (fun s delivery => service.AnswersDelivery s.1 s.2 delivery)
      (run service.deliver (fresh now) (history ++ (attempts ++ [.batch receivedMessages sent])),
        run followDelivery ServiceView.empty (history ++ [.batch receivedMessages sent]))
      later := by
  obtain ⟨-, hbatch, hlater⟩ := (along_append _ _ _).mp honce
  have hview : run followDelivery ServiceView.empty
      (history ++ (attempts ++ [.batch receivedMessages sent])) =
        run followDelivery ServiceView.empty (history ++ [.batch receivedMessages sent]) := by
    rw [run_append, run_append, run_append, run_cons, run_nil, run_cons, run_nil]
    exact followDelivery_attempts hattempts hbatch sent
  have hshows := (service.simulates_deliver.along _ _ _ (service.shows_fresh now) hagain).2
  rw [hview] at hshows
  apply (service.simulates_deliver.along later _ _ hshows ?_).1
  rw [run_append]
  exact hlater

/-- The lookup after the last delivery is answered as after a single one. -/
theorem delivered_once_sampleBatch :
    Along (beside sampleService.deliver followDelivery)
      (fun s delivery => sampleService.AnswersDelivery s.1 s.2 delivery)
      (run sampleService.deliver (fresh 0)
          (sampleHistory ++ (sampleAttempts ++ [.batch sampleBatch (.ok ())])),
        run followDelivery ServiceView.empty (sampleHistory ++ [.batch sampleBatch (.ok ())]))
      [.other (.lookup samplePhoneNumber)] := by
  apply delivered_once sampleService 0 sampleHistory sampleAttempts _ sampleBatch (.ok ())
    isPartOf_sampleAttempts
  · apply allowed_sampleHistory
    intro v h
    have hsent := allowed_sampleMessages h
      [.participantAssociationRequestReceivedEvt, .participantQueryReceivedEvt]
    exact ⟨hsent.1, samplePhoneNumber_isOrdinary, trivial⟩
  · exact allowed_sampleHistory _ fun _ h => allowed_sampleAttempts h

/-- None of the events that are sent for the batch answers the message by a success. -/
def PublishesNoSuccess (service : WholeService T) (s : RunningService T Surroundings)
    (receivedMessages : List IMessage) (sent : Except JsError Unit) (message : IMessage) : Prop :=
  ∀ events ∈ (service.batchOutcome s receivedMessages sent).2.sendCalls,
    ∀ event, (message, event) ∈ receivedMessages.zip events → event.event.answers = none

/-- **A success event that was not sent is lost.** If an attempt to deliver a batch has handled
an association request, and nobody in the batch gives its party up, then the complete
delivery publishes no success event for it. -/
theorem success_event_lost (service : WholeService T) (now : T)
    (history attempts : List (Delivery T)) (receivedMessages : List IMessage)
    (sent : Except JsError Unit) (message : IMessage) (payload : Payload) (party : Party)
    (hattempts : ∀ delivery ∈ attempts, delivery.IsPartOf receivedMessages)
    (hallowed : Along followDelivery AllowedDelivery ServiceView.empty
      (history ++ (attempts ++ [.batch receivedMessages sent])))
    (hattempted : ∃ delivery ∈ attempts, message ∈ delivery.messages)
    (haccepted : message.accepted = some (.participantAssociationRequestReceivedEvt, payload))
    (hparty : payload.party? = some party)
    (hkept : LookupState.Kept receivedMessages party) :
    service.PublishesNoSuccess
      (run service.deliver (run service.deliver (fresh now) history) attempts)
      receivedMessages sent message := by
  intro events hevents event hmem
  obtain ⟨hhistory, hrest⟩ := (along_append _ _ _).mp hallowed
  obtain ⟨htried, hbatch, -⟩ := (along_append _ _ _).mp hrest
  have hstart := (service.simulates_deliver.along history _ _ (service.shows_fresh now) hhistory).2
  have hshows := (service.simulates_deliver.along attempts _ _ hstart htried).2
  obtain ⟨answers, w', hturn, houtcome, -⟩ := hshows.batchOutcome_eq sent hbatch
  rw [houtcome] at hevents
  dsimp only at hevents
  split at hevents
  · cases hevents
  · obtain rfl := List.mem_singleton.mp hevents
    rw [run_followDelivery_attempts hattempts, lookupState_run_follow] at hturn
    apply hturn.answers_eq_none hkept (mem_of_attempted hattempts) haccepted hparty ?_ hmem
    exact List.mem_flatMap.mpr hattempted

theorem success_event_lost_sampleBatch :
    sampleService.PublishesNoSuccess
      (run sampleService.deliver (run sampleService.deliver (fresh 0) sampleHistory)
        sampleAttempts) sampleBatch (.ok ())
      (sampleMessage .participantAssociationRequestReceivedEvt) := by
  have hkept : LookupState.Kept sampleBatch samplePhoneNumber := by
    intro message hmessage payload haccepted
    rcases List.mem_cons.mp hmessage with rfl | hmessage
    · simp [IMessage.accepted, sampleMessage, RequestEvt.ofName_name] at haccepted
    · obtain rfl := List.mem_singleton.mp hmessage
      simp [IMessage.accepted, sampleMessage, RequestEvt.ofName_name] at haccepted
  exact success_event_lost sampleService 0 sampleHistory sampleAttempts sampleBatch (.ok ())
    (sampleMessage .participantAssociationRequestReceivedEvt) _ samplePhoneNumber
    isPartOf_sampleAttempts (allowed_sampleHistory _ fun _ h => allowed_sampleAttempts h)
    ⟨_, List.mem_cons_self, List.mem_cons_self⟩ rfl rfl hkept

end WholeService

end AccountLookup
