/-
# Batches of messages

The consumer hands the service its messages in batches. The event handler passes
each message to the aggregate, gives the event it gets back the correlation data of
the message, and hands all events to the producer at once, also when the loop over
the batch was broken off. The aggregate never breaks it off, so every message is
answered, in order, by one event of its own.
-/

import Mathlib.Data.List.Forall2
import AccountLookup.Domain.EventParties

namespace AccountLookup

/-- The message producer. -/
structure IMessageProducer (W : Type) where
  send : (messages : List DomainEventMsg) → Call W Unit

/-- The event handler, over whatever handles its messages. A missing event is `none`. -/
structure AccountLookupEventHandler (W : Type) where
  handleEvent : (message : IMessage) → Call W (Option DomainEventMsg)
  messageProducer : IMessageProducer W

/-- The world of the handler, and what the producer has been asked to send, call by
call. -/
structure HandlerWorld (W : Type) where
  world : W
  sendCalls : List (List DomainEventMsg)

namespace AccountLookupEventHandler

variable {W : Type}

/-- The event with the correlation data of the message. -/
def passThrough (message : IMessage) (eventToPublish : DomainEventMsg) : DomainEventMsg :=
  { eventToPublish with
    inboundProtocolType := message.inboundProtocolType
    inboundProtocolOpaqueState := message.inboundProtocolOpaqueState }

section Handler

variable (handler : AccountLookupEventHandler W)

def send (messages : List DomainEventMsg) : Call (HandlerWorld W) Unit := fun w =>
  let outcome := handler.messageProducer.send messages w.world
  (outcome.1, ⟨outcome.2, w.sendCalls ++ [messages]⟩)

/-- The loop over a batch, with the events collected so far. An event that is missing
is not collected, and then reading its name throws. -/
def handleMessages : List IMessage → List DomainEventMsg → W →
    Except JsError Unit × List DomainEventMsg × W
  | [], outputEvents, w => (.ok (), outputEvents, w)
  | message :: receivedMessages, outputEvents, w =>
    match handler.handleEvent message w with
    | (.error error, w) => (.error error, outputEvents, w)
    | (.ok none, w) =>
      (.error ⟨.error, "Cannot read properties of null (reading 'msgName')"⟩, outputEvents, w)
    | (.ok (some eventToPublish), w) =>
      handleMessages receivedMessages
        (outputEvents ++ [passThrough message eventToPublish]) w

/-- The events are sent in the `finally` block, so an error of the producer replaces
one of the loop. -/
def batchMsgHandler (receivedMessages : List IMessage) : Call (HandlerWorld W) Unit := fun w =>
  let loop := handler.handleMessages receivedMessages [] w.world
  if loop.2.1.length > 0 then
    match handler.send loop.2.1 { w with world := loop.2.2 } with
    | (.error error, w) => (.error error, w)
    | (.ok _, w) => (loop.1, w)
  else (loop.1, { w with world := loop.2.2 })

variable {handler} in
/-- When the loop runs through and has collected something, the batch comes down to
the call of the producer. -/
theorem batchMsgHandler_of_completed {receivedMessages : List IMessage}
    {outputEvents : List DomainEventMsg} {w : HandlerWorld W} {w₁ : W}
    (hloop : handler.handleMessages receivedMessages [] w.world = (.ok (), outputEvents, w₁))
    (hsome : outputEvents ≠ []) :
    handler.batchMsgHandler receivedMessages w =
      handler.send outputEvents { w with world := w₁ } := by
  have hpos : outputEvents.length > 0 := List.length_pos_of_ne_nil hsome
  simp only [batchMsgHandler, hloop, if_pos hpos]
  rcases handler.send outputEvents { w with world := w₁ } with ⟨_ | _, w'⟩
  · rfl
  · rfl

end Handler

/-- The event handler of the service. -/
def ofAggregate (agg : AccountLookupAggregate W) (messageProducer : IMessageProducer W) :
    AccountLookupEventHandler W where
  handleEvent message w :=
    (.ok (some (agg.handleEvent message w).1), (agg.handleEvent message w).2)
  messageProducer := messageProducer

/-- The event is the aggregate's answer to the message, with the correlation data and
the party of that message. -/
structure Answers (agg : AccountLookupAggregate W) (message : IMessage) (event : DomainEventMsg) :
    Prop where
  answer : ∃ w, event.event = (agg.handleEvent message w).1.event
  inboundProtocolType : event.inboundProtocolType = message.inboundProtocolType
  inboundProtocolOpaqueState :
    event.inboundProtocolOpaqueState = message.inboundProtocolOpaqueState
  about : event.event.IsAbout (message.payload.getD Payload.blank)

variable (agg : AccountLookupAggregate W) (messageProducer : IMessageProducer W)

/-- The loop of the service runs through: it appends one answer for each message. -/
theorem handleMessages_ofAggregate (receivedMessages : List IMessage) :
    ∀ (outputEvents : List DomainEventMsg) (w : W), ∃ answers w',
      (ofAggregate agg messageProducer).handleMessages receivedMessages outputEvents w =
        (.ok (), outputEvents ++ answers, w') ∧
      List.Forall₂ (Answers agg) receivedMessages answers := by
  induction receivedMessages with
  | nil =>
    intro outputEvents w
    exact ⟨[], w, by rw [List.append_nil, handleMessages], .nil⟩
  | cons message receivedMessages ih =>
    intro outputEvents w
    obtain ⟨answers, w', hloop, hanswers⟩ :=
      ih (outputEvents ++ [passThrough message (agg.handleEvent message w).1])
        (agg.handleEvent message w).2
    refine ⟨passThrough message (agg.handleEvent message w).1 :: answers, w', ?_,
      .cons ?_ hanswers⟩
    · rw [List.append_assoc, List.singleton_append] at hloop
      exact hloop
    · exact ⟨⟨w, rfl⟩, rfl, rfl, agg.isAbout_handleEvent message w⟩

/-- **One answer for each message, in order.** An empty batch sends nothing; any other
one is sent in a single call, whose outcome is the outcome of the whole batch. -/
theorem batchMsgHandler_answersEach (receivedMessages : List IMessage) (w : HandlerWorld W) :
    (receivedMessages = [] ∧
      (ofAggregate agg messageProducer).batchMsgHandler receivedMessages w = (.ok (), w)) ∨
    receivedMessages ≠ [] ∧ ∃ events w₁, List.Forall₂ (Answers agg) receivedMessages events ∧
      (ofAggregate agg messageProducer).batchMsgHandler receivedMessages w =
        ((messageProducer.send events w₁).1,
          ⟨(messageProducer.send events w₁).2, w.sendCalls ++ [events]⟩) := by
  obtain ⟨events, w₁, hloop, hanswers⟩ :=
    handleMessages_ofAggregate agg messageProducer receivedMessages [] w.world
  rw [List.nil_append] at hloop
  cases receivedMessages with
  | nil => exact Or.inl ⟨rfl, rfl⟩
  | cons message receivedMessages =>
    have hsome : events ≠ [] := by
      rintro rfl
      cases hanswers
    refine Or.inr ⟨List.cons_ne_nil _ _, events, w₁, hanswers, ?_⟩
    rw [batchMsgHandler_of_completed hloop hsome]
    rfl

end AccountLookupEventHandler

end AccountLookup
