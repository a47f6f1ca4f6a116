import OutboundSms.Bench.Run

/-!
# Actions at the bench

What whoever sits at the bench can do: make requests, direct the transports and
resolvers, watch events, change the surroundings, and stop the service. An action
gives its answer and the bench after it. An action that names something that is
not there has no answer and changes nothing.
-/

set_option autoImplicit false

namespace OutboundSms.Bench

/-- A step of the service is over when nothing is left that needs no time; a
controller driven by hand waits for the hand. -/
def comeToRest (bench : Bench) : Bench :=
  match bench.operation with
  | .byHand => bench
  | .byService => bench.settle

/-! ### Requests -/

def nextTicket (bench : Bench) : Ticket :=
  bench.issued

def issueTicket (bench : Bench) : Bench :=
  { bench with issued := bench.issued + 1 }

/-- Has a command applied: at once when driven by hand, and otherwise through the
queue, which a service that has stopped refuses. -/
def request (command : Command) (bench : Bench) : Except DispatchError Unit × Bench :=
  match bench.operation with
  | .byHand => (.ok (), bench.apply command)
  | .byService =>
      match bench.service.post command with
      | .ok service => (.ok (), { bench with service }.wakeService)
      | .error error => (.error error, bench.receive command.discard)

def send (kind : RequestKind) (request : SendRequest) (bench : Bench) :
    Except DispatchError Unit × Bench :=
  match bench.operation with
  | .byHand =>
      match bench.service.controller.send bench.conditions bench.storageAvailable kind
          request with
      | .ok turn => (.ok (), bench.take (bench.service.perform turn))
      | .error error => (.error error, bench.receive request.discard)
  | .byService =>
      match bench.service.send bench.storageAvailable kind request with
      | .ok service => (.ok (), { bench with service }.wakeService)
      | .error error => (.error error, bench.receive request.discard)

def requestDeparted (bench : Bench) : Bench :=
  (bench.apply (.snapshot false)).apply (.subscribe false)

/-- Gives up the callbacks of a message; false when there is no such message. -/
def abandonCallbacks (ticket : Ticket) (bench : Bench) : Bool × Bench :=
  if ticket < bench.issued then
    (true, { bench with abandoned := bench.abandoned ++ [ticket] })
  else (false, bench)

/-! ### Held messages -/

def recorder? (slot : Slot) (bench : Bench) : Option Recorder :=
  match (bench.transport slot).device with
  | .recorder recorder => some recorder
  | .link _ => none

/-- Every message a recorder ever held, empty where it has been taken. -/
def held (slot : Slot) (bench : Bench) : List (Option HeldSend) :=
  ((bench.recorder? slot).map (·.held)).getD []

def takeHeld? (slot : Slot) (index : Nat) (bench : Bench) : Option (HeldSend × Bench) := do
  let recorder ← bench.recorder? slot
  let held ← recorder.heldAt? index
  return (held, bench.setDevice slot (.recorder (recorder.vacate index)))

def report? (slot : Slot) (index : Nat) (outcome : TransportOutcome) (retries : Nat)
    (bench : Bench) : Option Bench := do
  let (held, bench) ← bench.takeHeld? slot index
  return bench.post (.outcome (held.tracker.countRetries retries) held.domain outcome)

def dropHeld? (slot : Slot) (index : Nat) (bench : Bench) : Option Bench := do
  let (held, bench) ← bench.takeHeld? slot index
  return bench.receive held.tracker.discard

/-! ### Status reports -/

def link? (slot : Slot) (bench : Bench) : Option ScriptedLink :=
  match (bench.transport slot).device with
  | .recorder _ => none
  | .link link => some link

/-- Sends a status report on a callback that a link keeps. The answer is the
reference of the report and whether anybody received it. -/
def deliverReport? (slot : Slot) (index : Nat) (delivered : Bool) (status : UInt32)
    (bench : Bench) : Option ((UInt8 × Bool) × Bench) := do
  let link ← bench.link? slot
  let callback ← link.callbackAt? index
  let answer := (callback.messageRef, bench.isAwaited callback.ticket)
  let bench := bench.setDevice slot (.link (link.useCallback index))
  return (answer, bench.deliver callback delivered status)

/-! ### Selections -/

def conversationAt? (resolver : ResolverId) (index : Option Nat) (bench : Bench) :
    Option Conversation := do
  (← bench.resolvers[resolver]?).pick index

/-- Answers a selection, at most once. The answer tells whether a waiter was there
to receive it. -/
def answerSelection? (resolver : ResolverId) (index : Option Nat)
    (result : Except SelectionError Domain) (bench : Bench) : Option (Bool × Bench) := do
  let conversation ← bench.conversationAt? resolver index
  let connection := conversation.connection
  match conversation.answer with
  | .open =>
      let bench := bench.modifyConversation connection fun conversation =>
        { conversation with answer := .given result }
      return (conversation.isAttended, bench.wakeWaiter connection)
  | .unissued | .given _ => return (false, bench)

def terminateSelection? (resolver : ResolverId) (index : Option Nat) (cause : UInt32)
    (bench : Bench) : Option Bench := do
  let conversation ← bench.conversationAt? resolver index
  return bench.post
    (.selectionTerminated conversation.trafficClass conversation.connection cause)

/-! ### Subscriptions -/

/-- Subscribes to the events. Through the service this waits for the answer, and
fails where the service stops before it gives one. -/
def subscribe (bench : Bench) : Except DispatchError Nat × Bench :=
  let id := bench.service.events.nextId
  let (verdict, bench) := bench.request (.subscribe true)
  let bench := bench.comeToRest
  match verdict with
  | .error error => (.error error, bench)
  | .ok () =>
      if bench.service.running then
        (.ok bench.subscriptions.length,
          { bench with subscriptions := bench.subscriptions ++ [id] })
      else (.error .serviceStopped, bench)

def observe (bench : Bench) : Bench :=
  { bench.apply (.subscribe true) with observer := some bench.service.events.nextId }

def isSubscribed? (index : Nat) (bench : Bench) : Option Bool :=
  bench.subscriptions[index]?.map bench.service.events.isRegistered

def unsubscribe? (index : Nat) (bench : Bench) : Option (Except DispatchError Unit × Bench) :=
  bench.subscriptions[index]?.map fun id => bench.request (.unsubscribe id)

def setEvents (events : Registrants DispatchEvent) (bench : Bench) : Bench :=
  { bench with service := { bench.service with events } }

/-- Reads what a subscription has received. The answer is the events and whether
no more can come. -/
def drain? (index : Nat) (bench : Bench) : Option ((List DispatchEvent × Bool) × Bench) := do
  let id ← bench.subscriptions[index]?
  let events := bench.service.events
  let unread ← events.unread? id
  return ((unread, !events.isRegistered id), bench.setEvents (events.markRead id))

/-- Stops listening to a subscription; false when nobody listens to it. -/
def dropSubscription (index : Nat) (bench : Bench) : Bool × Bench :=
  match bench.subscriptions[index]? with
  | some id =>
      let events := bench.service.events
      if events.isListening id then (true, bench.setEvents (events.abandon id))
      else (false, bench)
  | none => (false, bench)

/-! ### Time and commands -/

def runTasks (bench : Bench) : Bench :=
  bench.runThrough .tasks

def shutDown (bench : Bench) : Bench :=
  { bench with stopping := true }.wakeService

/-! ### Surroundings -/

def setResolverMode (resolver : ResolverId) (mode : ConnectAnswer) (bench : Bench) : Bench :=
  { bench with
    resolvers := bench.resolvers.modify resolver fun resolver => { resolver with mode } }

def adjust (slot : Slot) (change : Transport → Transport) (bench : Bench) : Bench :=
  let transport := bench.transport slot
  if transport.adjustable then bench.setTransport slot (change transport) else bench

end OutboundSms.Bench
