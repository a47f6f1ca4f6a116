import OutboundSms.Controller.Command

/-!
# Effects and surroundings

A controller meets the world in two ways: it asks its collaborators, whose
answers are its surroundings, and it acts on them. The acts of one command form a
list of effects in the order in which they happen.
-/

set_option autoImplicit false

namespace OutboundSms

/-- The answers a controller gets while it handles one message. `now` is the
time in milliseconds, and `tracksEmergency` holds when an emergency state tracker
is installed. -/
structure Surroundings where
  now : Nat
  transport : Slot → TransportFacts
  voiceFormat : SmsFormat
  isEmergencyNumber : String → Bool
  tracksEmergency : Bool
  connect : ResolverId → Bool → ConnectAnswer

/-- The surroundings in the course of one command. Collaborators may change their
answers from one message handed over to the next, so they are given for each
message by its place among those, counted from 0. -/
abbrev Conditions := Nat → Surroundings

namespace Conditions

/-- The surroundings before any message has been handed over. -/
def now (conditions : Conditions) : Surroundings :=
  conditions 0

/-- What is left of the course once one message has been handed over. -/
def later (conditions : Conditions) : Conditions :=
  fun place => conditions (place + 1)

def steady (surroundings : Surroundings) : Conditions :=
  fun _ => surroundings

end Conditions

/-- Something a controller does to a collaborator. -/
inductive Effect where
  /-- An event for every subscriber. -/
  | publish (event : DispatchEvent)
  /-- A tracker handed to a transport, which is to report on it for `domain`. -/
  | send (slot : Slot) (tracker : Tracker) (domain : Domain)
  /-- The terminal result of a message, which ends its tracker. -/
  | complete (tracker : Tracker) (result : SendResult)
  /-- An emergency session opened for a message about to be dispatched. -/
  | openSession (destination : String) (overIms : Bool)
  /-- The emergency session of a finished message closed. -/
  | closeSession (messageId : UInt64) (success : Bool) (domain : Domain)
  /-- An emergency message received. -/
  | noteInbound
  /-- A resolver asked for a connection, and its answer. -/
  | consult (resolver : ResolverId) (emergency : Bool) (answer : ConnectAnswer)
  /-- A connection taken by the holder of a class. `vacant` is what the holder
  asserts: that it held none before. -/
  | takeConnection (trafficClass : TrafficClass) (connection : ConnectionId) (vacant : Bool)
  /-- A domain selection requested on the connection just handed out. -/
  | requestSelection (resolver : ResolverId) (trafficClass : TrafficClass)
      (connection : ConnectionId) (attributes : SelectionAttributes)
  /-- A task started that waits for a connection's decision. -/
  | awaitSelection (waiter : WaiterId) (trafficClass : TrafficClass) (connection : ConnectionId)
  /-- A waiting task told to stop. -/
  | stopWaiter (waiter : WaiterId)
  /-- The connection of a class told that its decision has been used. -/
  | finishSelection (trafficClass : TrafficClass) (connection : ConnectionId)
  /-- The connection of a class, if it has one, given up by its holder. `drained` is
  what the holder asserts: that nothing is queued. -/
  | dropConnection (trafficClass : TrafficClass) (connection : Option ConnectionId)
      (drained : Bool)
  /-- A subscriber added. -/
  | enrol (awaited : Bool)
  /-- A subscriber taken off the list. -/
  | dismiss (subscription : Nat)
  /-- A snapshot given to whoever asked. -/
  | reportSnapshot (snapshot : ControllerSnapshot)

end OutboundSms
