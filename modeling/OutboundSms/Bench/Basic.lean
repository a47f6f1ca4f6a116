import OutboundSms.Bench.Agenda
import OutboundSms.Bench.Resolver
import OutboundSms.Bench.Transport
import OutboundSms.Emergency
import OutboundSms.Service

/-!
# The bench

A dispatch service between collaborators that can be watched and directed, on a
virtual clock. The service runs as a task of its own, or its controller is driven
by hand. This module holds the state and carries out the effects of a controller.
-/

set_option autoImplicit false

namespace OutboundSms.Bench

/-- What a task does when it runs. -/
inductive Errand where
  /-- Applies the commands in the queue, one after another, until none is left. -/
  | serve
  /-- Passes on the answer to a selection, if there is one. -/
  | awaitDecision (connection : ConnectionId)
  /-- Passes on a scripted answer, unless the waiter was told to stop. -/
  | decide (connection : ConnectionId) (result : Except SelectionError Domain)
  /-- Goes on with a message that a link transport was handed. -/
  | proceed (slot : Slot) (stage : LinkStage)
  /-- Posts a command. -/
  | post (command : Command)
  /-- Reports a message as delivered. -/
  | confirm (callback : StatusCallback)

/-- An emergency session that was closed. `isLastPart` holds for every message,
as each is reported as a whole. -/
structure ClosedSession where
  messageId : UInt64
  success : Bool
  domain : Domain
  isLastPart : Bool := true
  deriving DecidableEq, Repr

/-- What an emergency state tracker was told. A session is opened for a
destination, over IMS or not. -/
structure EmergencyLog where
  opened : List (String × Bool) := []
  closed : List ClosedSession := []
  received : Nat := 0
  deriving DecidableEq, Repr

/-- Who applies the commands: whoever sits at the bench, or a task of the service. -/
inductive Operation where
  | byHand
  | byService
  deriving DecidableEq, Repr

end Bench

/-- The bench. While `handling` holds, commands are applied until the queue is
empty; `stopping` holds once the service has been told to stop. `issued` counts
the requests made at the bench, and `abandoned` lists those whose callbacks nobody
waits for any more. `subscriptions` lists the event subscriptions made by hand, and
`observer` is the one whose events are part of every observation. -/
structure Bench where
  operation : Bench.Operation
  service : Service
  ps : Bench.Transport
  cs3gpp : Bench.Transport
  cs3gpp2 : Bench.Transport
  resolvers : List Bench.Resolver
  numbers : EmergencyNumbers
  voiceFormat : SmsFormat
  emergencyLog : Option Bench.EmergencyLog
  storageAvailable : Bool := true
  agenda : Bench.Agenda Bench.Errand := {}
  handling : Bool := false
  stopping : Bool := false
  receipts : List Receipt := []
  issued : Nat := 0
  abandoned : List Ticket := []
  subscriptions : List Nat := []
  observer : Option Nat := none

namespace Bench

/-! ### Transports and resolvers -/

def transport (bench : Bench) : Slot → Transport
  | .ps => bench.ps
  | .cs .threeGpp => bench.cs3gpp
  | .cs .threeGpp2 => bench.cs3gpp2

def setTransport (slot : Slot) (transport : Transport) (bench : Bench) : Bench :=
  match slot with
  | .ps => { bench with ps := transport }
  | .cs .threeGpp => { bench with cs3gpp := transport }
  | .cs .threeGpp2 => { bench with cs3gpp2 := transport }

def setDevice (slot : Slot) (device : Device) (bench : Bench) : Bench :=
  bench.setTransport slot { bench.transport slot with device }

def conversation? (bench : Bench) (connection : ConnectionId) : Option Conversation :=
  bench.resolvers.findSome? (·.conversation? connection)

def modifyConversation (connection : ConnectionId) (change : Conversation → Conversation)
    (bench : Bench) : Bench :=
  { bench with resolvers := bench.resolvers.map (·.modify connection change) }

def surroundings (bench : Bench) : Surroundings where
  now := bench.agenda.clock
  transport slot := (bench.transport slot).facts
  voiceFormat := bench.voiceFormat
  isEmergencyNumber := bench.numbers.isEmergency
  tracksEmergency := bench.emergencyLog.isSome
  connect resolver _emergency :=
    match bench.resolvers[resolver]? with
    | some resolver => resolver.connect
    | none => .refused

/-- Nothing on the bench answers differently while a command is being applied. -/
def conditions (bench : Bench) : Conditions :=
  .steady bench.surroundings

/-! ### Posting -/

def start (delay : Nat) (errand : Errand) (bench : Bench) : Bench :=
  { bench with agenda := bench.agenda.start delay errand }

def isServing : Errand → Bool
  | .serve => true
  | _ => false

/-- Makes the task of the service ready, unless it is ready or at work already. -/
def wakeService (bench : Bench) : Bench :=
  if bench.operation = .byService && bench.service.running && !bench.handling &&
      !bench.agenda.ready.any (isServing ·.work) then
    bench.start 0 .serve
  else bench

def receive (receipts : List Receipt) (bench : Bench) : Bench :=
  { bench with receipts := bench.receipts ++ receipts }

/-- Posts a command for the service, and gives it up if the service has stopped. -/
def post (command : Command) (bench : Bench) : Bench :=
  match bench.service.post command with
  | .ok service => { bench with service }.wakeService
  | .error _ => bench.receive command.discard

/-! ### Effects -/

/-- Hands a message to a transport. A recorder acts at once and a link transport
starts a task. -/
def hand (slot : Slot) (tracker : Tracker) (domain : Domain) (bench : Bench) : Bench :=
  match (bench.transport slot).device with
  | .recorder recorder =>
      let (recorder, command) := recorder.receive tracker domain
      let bench := bench.setDevice slot (.recorder recorder)
      match command with
      | some command => bench.post command
      | none => bench
  | .link link =>
      let (link, tracker) := link.assignRef tracker
      (bench.setDevice slot (.link link)).start 0 (.proceed slot (.submitting tracker))

/-- Records a request for a selection. A scripted resolver that is to give the
connection up starts a task for it. -/
def recordSelection (resolver : ResolverId) (trafficClass : TrafficClass)
    (connection : ConnectionId) (attributes : SelectionAttributes) (bench : Bench) : Bench :=
  let script := bench.resolvers[resolver]?.bind (·.script)
  let bench :=
    { bench with
      resolvers := bench.resolvers.modify resolver
        (·.addConversation trafficClass connection attributes) }
  match script with
  | some { decision := .terminate cause, latencyMs } =>
      bench.start latencyMs.toNat (.post (.selectionTerminated trafficClass connection cause))
  | _ => bench

def startWaiter (connection : ConnectionId) (bench : Bench) : Bench :=
  (bench.modifyConversation connection fun conversation =>
    { conversation with waiter := .scheduled }).start 0 (.awaitDecision connection)

def wakeWaiter (connection : ConnectionId) (bench : Bench) : Bench :=
  match bench.conversation? connection with
  | some { waiter := .parked, .. } =>
      (bench.modifyConversation connection Conversation.wake).start 0 (.awaitDecision connection)
  | _ => bench

/-- Tells a waiter to stop. A waiter is named by the number of its connection. -/
def stopWaiter (waiter : WaiterId) (bench : Bench) : Bench :=
  let connection : ConnectionId := { number := UInt64.ofNat waiter }
  (bench.modifyConversation connection fun conversation =>
    { conversation with stopping := true }).wakeWaiter connection

def noteEmergency (note : EmergencyLog → EmergencyLog) (bench : Bench) : Bench :=
  { bench with emergencyLog := bench.emergencyLog.map note }

/-- Carries out one effect on a collaborator. Effects on the subscribers are the
service's own. -/
def carryOut (bench : Bench) : Effect → Bench
  | .send slot tracker domain => bench.hand slot tracker domain
  | .complete tracker result => bench.receive (tracker.finish result)
  | .openSession destination overIms =>
      bench.noteEmergency fun log => { log with opened := log.opened ++ [(destination, overIms)] }
  | .closeSession messageId success domain =>
      bench.noteEmergency fun log =>
        { log with closed := log.closed ++ [{ messageId, success, domain }] }
  | .noteInbound => bench.noteEmergency fun log => { log with received := log.received + 1 }
  | .consult resolver _ _ =>
      { bench with
        resolvers := bench.resolvers.modify resolver fun resolver =>
          { resolver with calls := resolver.calls + 1 } }
  | .requestSelection resolver trafficClass connection attributes =>
      bench.recordSelection resolver trafficClass connection attributes
  | .awaitSelection _ _ connection => bench.startWaiter connection
  | .stopWaiter waiter => bench.stopWaiter waiter
  | .finishSelection _ connection =>
      bench.modifyConversation connection fun conversation =>
        { conversation with finishes := conversation.finishes + 1 }
  | .publish _ | .takeConnection _ _ _ | .dropConnection _ _ _ | .enrol _ | .dismiss _
  | .reportSnapshot _ => bench

/-- Takes over what the service made of a command, and carries out the effects in
order. -/
def take (outcome : Service × List Effect) (bench : Bench) : Bench :=
  outcome.2.foldl carryOut { bench with service := outcome.1 }

def apply (command : Command) (bench : Bench) : Bench :=
  bench.take (bench.service.apply bench.conditions command)

def applyNext (bench : Bench) : Option (Command × Bench) :=
  (bench.service.applyNext bench.conditions).map fun (command, outcome) =>
    (command, bench.take outcome)

end Bench

end OutboundSms
