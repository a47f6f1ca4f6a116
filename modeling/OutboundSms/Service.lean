import OutboundSms.Controller.Routing
import OutboundSms.Message.Receipt
import OutboundSms.Registrants

/-!
# The dispatch service

A controller behind a queue of commands, with the subscribers to its events.
Callers and collaborators post commands; the commands are applied one at a time
in the order in which they were posted. A service that has stopped accepts no
command, and what was queued or waiting then is given up.
-/

set_option autoImplicit false

namespace OutboundSms

/-- A controller, the subscribers to its events, and the commands posted and not
applied yet, oldest first. -/
structure Service where
  controller : Controller
  events : Registrants DispatchEvent := {}
  commands : List Command := []
  running : Bool := true

/-- What one effect does to the subscribers. A subscriber that nobody waits for
is added all the same, and found gone at the next event. -/
def Registrants.applyEffect (events : Registrants DispatchEvent) :
    Effect → Registrants DispatchEvent
  | .publish event => events.notify event
  | .enrol true => events.subscribe
  | .enrol false => events.subscribe.abandon events.nextId
  | .dismiss subscription => events.unsubscribe subscription
  | _ => events

/-- The receipts of a command that is given up before it is applied. -/
def Command.discard : Command → List Receipt
  | .submit _ request => request.discard
  | .retry tracker => tracker.discard
  | .outcome tracker _ _ => tracker.discard
  | _ => []

namespace Service

def new (config : DispatchConfig) (resolver : Option ResolverId) : Service where
  controller := .new config resolver

/-- Puts a command at the end of the queue of a running service. -/
def post (command : Command) (service : Service) : Except DispatchError Service :=
  if service.running then .ok { service with commands := service.commands ++ [command] }
  else .error .serviceStopped

/-- Puts a request that passes its admission at the end of the queue. -/
def send (storageAvailable : Bool) (kind : RequestKind) (request : SendRequest)
    (service : Service) : Except DispatchError Service :=
  match request.admission kind storageAvailable with
  | .error error => .error error
  | .ok () => service.post (.submit kind request)

/-- Takes over a turn of the controller. Its effects on the collaborators are
still to be carried out. -/
def perform (turn : Turn) (service : Service) : Service × List Effect :=
  ({ service with
      controller := turn.1
      events := turn.2.foldl Registrants.applyEffect service.events },
    turn.2)

def apply (conditions : Conditions) (command : Command) (service : Service) :
    Service × List Effect :=
  service.perform (service.controller.handle conditions command)

/-- Applies the oldest command in the queue, which is given back. -/
def applyNext (conditions : Conditions) (service : Service) :
    Option (Command × Service × List Effect) :=
  match service.commands with
  | [] => none
  | command :: rest =>
      some (command, { service with commands := rest }.apply conditions command)

/-- The receipts of everything that ends with the service: the commands in the
queue and the messages that wait for a domain. -/
def unfinished (service : Service) : List Receipt :=
  service.commands.flatMap Command.discard ++
    (service.controller.queued .normal).flatMap Tracker.discard ++
    (service.controller.queued .emergency).flatMap Tracker.discard

def stop (service : Service) : Service :=
  { controller :=
      (service.controller.takePending .normal).takePending .emergency
    events := service.events.dismissAll
    commands := []
    running := false }

end Service

end OutboundSms
