import OutboundSms.Controller.Routing
import OutboundSms.Proofs.Lists

/-!
# Lanes

A lane is one traffic class as seen from outside: the connection it selects on
and the messages that wait for the decision. `Lane.Step` lists everything that one
command can do to a lane, with what can be seen of it. The controller's two lanes
share its counters and its collaborators and nothing else.
-/

set_option autoImplicit false

namespace OutboundSms

/-- What never changes about a message on its way: who waits for it and what its
sender asked for. A tracker is a message with the record of its delivery so far. -/
structure Message where
  ticket : Ticket
  destination : String
  serviceCenter : Option String
  payload : Payload
  options : SendOptions
  emergency : Bool
  awaitsSent : Bool
  deriving DecidableEq, Repr

def Message.trafficClass (message : Message) : TrafficClass :=
  .ofEmergency message.emergency

def Tracker.message (tracker : Tracker) : Message where
  ticket := tracker.ticket
  destination := tracker.destination
  serviceCenter := tracker.serviceCenter
  payload := tracker.payload
  options := tracker.options
  emergency := tracker.emergency
  awaitsSent := tracker.awaitsSent

namespace Tracker

@[simp] theorem trafficClass_message (tracker : Tracker) :
    tracker.message.trafficClass = tracker.trafficClass := rfl

@[simp] theorem ticket_message (tracker : Tracker) : tracker.message.ticket = tracker.ticket := rfl

@[simp] theorem message_assignRef (tracker : Tracker) (messageRef : UInt8) :
    (tracker.assignRef messageRef).message = tracker.message := rfl

@[simp] theorem message_recordDispatch (tracker : Tracker) (domain : Domain) :
    (tracker.recordDispatch domain).message = tracker.message := rfl

end Tracker

/-! ### What can be seen of a lane -/

/-- What happens in a lane: its holder takes a connection, requests a selection on
it, learns how it ended, tells it so and drops it; and messages leave the lane for
a transport or for good. -/
inductive LaneEvent where
  | taken (connection : ConnectionId) (vacant : Bool)
  | requested (connection : ConnectionId)
  | announced (connection : ConnectionId)
  | decided (connection : ConnectionId) (domain : Option Domain)
  | terminated (connection : ConnectionId) (cause : UInt32)
  | finished (connection : ConnectionId)
  | dropped (connection : Option ConnectionId) (drained : Bool)
  | sent (message : Message)
  | completed (message : Message) (result : SendResult)
  deriving DecidableEq, Repr

def LaneEvent.taken? : LaneEvent → Option ConnectionId
  | taken connection _ => some connection
  | _ => none

@[simp] theorem LaneEvent.filterMap_taken?_map_sent (messages : List Message) :
    (messages.map sent).filterMap taken? = [] := by
  simp [List.filterMap_eq_nil_iff, taken?]

def LaneEvent.sent? : LaneEvent → Option Message
  | sent message => some message
  | _ => none

@[simp] theorem LaneEvent.filterMap_sent?_map_sent (messages : List Message) :
    (messages.map sent).filterMap sent? = messages := by
  rw [List.filterMap_map]
  exact List.filterMap_some

/-- Whether an event is part of finding a way for a message. The others end something:
a selection or a message. -/
def LaneEvent.isRouting : LaneEvent → Bool
  | decided _ _ | terminated _ _ | completed _ _ => false
  | _ => true

/-- The lane an effect belongs to and what it is there. The other effects belong to
no lane. -/
def Effect.traffic? : Effect → Option (TrafficClass × LaneEvent)
  | .takeConnection trafficClass connection vacant =>
      some (trafficClass, .taken connection vacant)
  | .requestSelection _ trafficClass connection _ => some (trafficClass, .requested connection)
  | .publish (.selectionRequested trafficClass connection) =>
      some (trafficClass, .announced connection)
  | .publish (.selectionCompleted trafficClass connection domain) =>
      some (trafficClass, .decided connection domain)
  | .publish (.selectionTerminated trafficClass connection cause) =>
      some (trafficClass, .terminated connection cause)
  | .finishSelection trafficClass connection => some (trafficClass, .finished connection)
  | .dropConnection trafficClass connection drained =>
      some (trafficClass, .dropped connection drained)
  | .send _ tracker _ => some (tracker.trafficClass, .sent tracker.message)
  | .complete tracker result => some (tracker.trafficClass, .completed tracker.message result)
  | _ => none

def traffic (effects : List Effect) : List (TrafficClass × LaneEvent) :=
  effects.filterMap Effect.traffic?

@[simp] theorem traffic_nil : traffic [] = [] := rfl

@[simp] theorem traffic_cons (effect : Effect) (effects : List Effect) :
    traffic (effect :: effects) = effect.traffic?.toList ++ traffic effects := by
  cases seen : effect.traffic? <;> simp [traffic, seen]

@[simp] theorem traffic_append (first second : List Effect) :
    traffic (first ++ second) = traffic first ++ traffic second :=
  List.filterMap_append

def laneEvents (trafficClass : TrafficClass) (effects : List Effect) : List LaneEvent :=
  ((traffic effects).filter (·.1 = trafficClass)).map (·.2)

@[simp] theorem laneEvents_nil (trafficClass : TrafficClass) : laneEvents trafficClass [] = [] :=
  rfl

@[simp] theorem laneEvents_append (trafficClass : TrafficClass) (first second : List Effect) :
    laneEvents trafficClass (first ++ second) =
      laneEvents trafficClass first ++ laneEvents trafficClass second := by
  simp [laneEvents]

/-- Effects that all belong to one lane are seen there and in no other. -/
theorem laneEvents_eq_ite {trafficClass : TrafficClass} {effects : List Effect}
    {events : List LaneEvent} (seen : traffic effects = events.map (trafficClass, ·))
    (other : TrafficClass) :
    laneEvents other effects = if other = trafficClass then events else [] := by
  by_cases same : other = trafficClass
  · subst same
    simp [laneEvents, seen, List.filter_map, Function.comp_def]
  · have different : ¬ trafficClass = other := fun equal => same equal.symm
    simp [laneEvents, seen, List.filter_map, Function.comp_def, same, different]

/-- The messages of a class that are handed to transports, in order. -/
def sentOf (trafficClass : TrafficClass) (effects : List Effect) : List Message :=
  (laneEvents trafficClass effects).filterMap LaneEvent.sent?

@[simp] theorem sentOf_append (trafficClass : TrafficClass) (first second : List Effect) :
    sentOf trafficClass (first ++ second) =
      sentOf trafficClass first ++ sentOf trafficClass second := by
  simp [sentOf]

/-- Nothing ends with these effects. -/
def Routing (effects : List Effect) : Prop :=
  ∀ entry ∈ traffic effects, entry.2.isRouting = true

theorem Routing.append {first second : List Effect} (before : Routing first)
    (after : Routing second) : Routing (first ++ second) := by
  intro entry member
  rw [traffic_append, List.mem_append] at member
  exact member.elim (before entry) (after entry)

theorem filter_classes_perm {α : Type} (trafficClass : α → TrafficClass) (values : List α) :
    (values.filter (trafficClass · = .normal) ++
      values.filter (trafficClass · = .emergency)).Perm values := by
  have split : values.filter (trafficClass · = .emergency) =
      values.filter fun value => !decide (trafficClass value = .normal) := by
    refine List.filter_congr fun value _ => ?_
    cases trafficClass value <;> rfl
  rw [split]
  exact List.filter_append_perm _ _

theorem laneEvents_perm {α : Type} (seen : LaneEvent → Option α) (effects : List Effect) :
    ((laneEvents .normal effects).filterMap seen ++
      (laneEvents .emergency effects).filterMap seen).Perm
      ((traffic effects).filterMap (seen ·.2)) := by
  simpa [laneEvents, List.filterMap_map, Function.comp_def] using
    (filter_classes_perm (·.1) (traffic effects)).filterMap (seen ·.2)

/-! ### Lanes and their steps -/

structure Lane where
  connection : Option ConnectionId
  queue : List Message

def Lane.idle : Lane :=
  { connection := none, queue := [] }

def Controller.lane (controller : Controller) (trafficClass : TrafficClass) : Lane where
  connection := (controller.holder trafficClass).connectionId
  queue := (controller.queued trafficClass).map (·.message)

/-- What one command does to a lane. `Step arrivals before events after` says that
the messages `arrivals` came in with it and that it was seen as `events`. -/
inductive Lane.Step : List Message → Lane → List LaneEvent → Lane → Prop where
  | still {lane} : Step [] lane [] lane
  | sent {lane message} : Step [message] lane [.sent message] lane
  | completed {lane message result} : Step [message] lane [.completed message result] lane
  | queued {connection queue message} :
      Step [message] { connection := some connection, queue } []
        { connection := some connection, queue := queue ++ [message] }
  | opened {connection message} :
      Step [message] .idle
        [.taken connection true, .requested connection, .announced connection]
        { connection := some connection, queue := [message] }
  | unissued {connection message} :
      Step [message] .idle
        [.taken connection true, .requested connection, .finished connection,
          .dropped (some connection) true, .sent message]
        .idle
  | decided {connection queue domain} :
      Step [] { connection := some connection, queue }
        (.decided connection domain :: queue.map .sent ++
          [.finished connection, .dropped (some connection) true])
        .idle
  | terminated {connection queue cause} :
      Step [] { connection := some connection, queue }
        (.terminated connection cause :: queue.map .sent ++ [.dropped (some connection) true])
        .idle

/-- What a step means for the messages of a lane: nothing, that the one that comes in
passes through or joins the queue, or that the whole queue is handed over. -/
theorem Lane.Step.moves {arriving : List Message} {before after : Lane} {events : List LaneEvent}
    (step : Lane.Step arriving before events after) :
    (events.filterMap LaneEvent.sent? = [] ∧ after.queue = before.queue) ∨
    (∃ message, arriving = [message] ∧ events.filterMap LaneEvent.sent? = [message] ∧
      after.queue = before.queue) ∨
    (∃ message, arriving = [message] ∧ events.filterMap LaneEvent.sent? = [] ∧
      after.queue = before.queue ++ [message]) ∨
    (events.filterMap LaneEvent.sent? = before.queue ∧ after.queue = []) := by
  cases step with
  | still => exact .inl ⟨rfl, rfl⟩
  | completed => exact .inl ⟨rfl, rfl⟩
  | @sent _ message => exact .inr (.inl ⟨message, rfl, rfl, rfl⟩)
  | @unissued _ message => exact .inr (.inl ⟨message, rfl, rfl, rfl⟩)
  | @queued _ _ message => exact .inr (.inr (.inl ⟨message, rfl, rfl, rfl⟩))
  | @opened _ message => exact .inr (.inr (.inl ⟨message, rfl, rfl, rfl⟩))
  | decided =>
      refine .inr (.inr (.inr ⟨?_, rfl⟩))
      simp only [List.cons_append, List.filterMap_cons, List.filterMap_append, LaneEvent.sent?,
        LaneEvent.filterMap_sent?_map_sent, List.filterMap_nil, List.append_nil]
  | terminated =>
      refine .inr (.inr (.inr ⟨?_, rfl⟩))
      simp only [List.cons_append, List.filterMap_cons, List.filterMap_append, LaneEvent.sent?,
        LaneEvent.filterMap_sent?_map_sent, List.filterMap_nil, List.append_nil]

end OutboundSms
