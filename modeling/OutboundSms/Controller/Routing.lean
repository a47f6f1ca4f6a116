import OutboundSms.Controller.Basic

/-!
# Routing and domain selection

A message is dispatched directly when domain selection is not supported, is
queued when its class is selecting, and opens a selection otherwise. The end of a
selection dispatches the whole queue of its class, in queue order, before
anything else happens. An end that names any but the current connection of its
class is ignored.
-/

set_option autoImplicit false

namespace OutboundSms.Controller

/-- Puts a request at the end of the queue of its class. -/
def enqueue (surroundings : Surroundings) (kind : RequestKind) (tracker : Tracker)
    (controller : Controller) : Controller :=
  let trafficClass := tracker.trafficClass
  controller.setHolder trafficClass
    ((controller.holder trafficClass).enqueue
      { kind, tracker, queuedAt := surroundings.now })

def takePending (trafficClass : TrafficClass) (controller : Controller) : Controller :=
  controller.setHolder trafficClass (controller.holder trafficClass).takePending

/-- Tells the connection of a class that its decision has been used. -/
def finishConnection (trafficClass : TrafficClass) (controller : Controller) : Turn :=
  (controller,
    ((controller.holder trafficClass).connectionId.map (.finishSelection trafficClass)).toList)

/-- Lets go of the connection of a class and stops the task that waits for it. -/
def clearHolder (trafficClass : TrafficClass) (controller : Controller) : Turn :=
  let held := controller.holder trafficClass
  let (holder, waiter) := held.clear
  (controller.setHolder trafficClass holder,
    .dropConnection trafficClass held.connectionId held.isDrained ::
      (waiter.map .stopWaiter).toList)

def queued (trafficClass : TrafficClass) (controller : Controller) : List Tracker :=
  (controller.holder trafficClass).pending.map (·.tracker)

def selectionAttributes (tracker : Tracker) : SelectionAttributes where
  selectorType := .sms
  emergency := tracker.trafficClass.isEmergency
  destination := tracker.destination
  messageId := tracker.messageId

/-- Takes the next connection for a class and puts the request that opens it in
the queue. -/
def openConnection (surroundings : Surroundings) (kind : RequestKind) (tracker : Tracker)
    (controller : Controller) : Turn :=
  let trafficClass := tracker.trafficClass
  let opened := controller.connectionsOpened + 1
  let connection : ConnectionId := { number := opened }
  let held := controller.holder trafficClass
  let controller := { controller with connectionsOpened := opened }
  let controller := controller.setHolder trafficClass (held.setConnection connection)
  (controller.enqueue surroundings kind tracker,
    [.takeConnection trafficClass connection held.isVacant])

/-- The connection cannot issue the request: it is finished, and what waited for
it is dispatched directly. -/
def selectionUnissued (conditions : Conditions) (trafficClass : TrafficClass)
    (controller : Controller) : Turn :=
  let waiting := controller.queued trafficClass
  followedBy (controller.finishConnection trafficClass) fun controller =>
    followedBy ((controller.takePending trafficClass).clearHolder trafficClass) fun controller =>
      controller.dispatchAll conditions (fun surroundings _ => directSlot surroundings) waiting

/-- The request is under way: it is announced, and a task waits for its end. -/
def selectionIssued (trafficClass : TrafficClass) (connection : ConnectionId)
    (controller : Controller) : Turn :=
  let waiter : WaiterId := connection.number.toNat
  let (holder, orphan) := (controller.holder trafficClass).setWaiter waiter
  (controller.setHolder trafficClass holder,
    [.publish (.selectionRequested trafficClass connection),
      .awaitSelection waiter trafficClass connection] ++ (orphan.map .stopWaiter).toList)

/-- Opens a selection on the connection that `resolver` has just handed out. -/
def requestSelection (conditions : Conditions) (resolver : ResolverId) (issued : Bool)
    (kind : RequestKind) (tracker : Tracker) (controller : Controller) : Turn :=
  let trafficClass := tracker.trafficClass
  followedBy (controller.openConnection conditions.now kind tracker) fun controller =>
    let connection : ConnectionId := { number := controller.connectionsOpened }
    followedBy
      (controller,
        [.requestSelection resolver trafficClass connection (selectionAttributes tracker)])
      fun controller =>
        if issued then controller.selectionIssued trafficClass connection
        else controller.selectionUnissued conditions trafficClass

/-- Dispatches a message where no domain is selected for it. -/
def dispatchDirect (surroundings : Surroundings) (tracker : Tracker) (controller : Controller) :
    Turn :=
  controller.dispatch surroundings (directSlot surroundings) tracker

/-- Asks `resolver` for a connection and goes on as it answers. -/
def consultResolver (conditions : Conditions) (resolver : ResolverId) (kind : RequestKind)
    (tracker : Tracker) (controller : Controller) : Turn :=
  let emergency := tracker.trafficClass.isEmergency
  let answer := conditions.now.connect resolver emergency
  followedBy (controller, [.consult resolver emergency answer]) fun controller =>
    match answer with
    | .refused => controller.dispatchDirect conditions.now tracker
    | .unissued => controller.requestSelection conditions resolver false kind tracker
    | .issued => controller.requestSelection conditions resolver true kind tracker

/-- Finds the way of a message that is not on its way yet. -/
def route (conditions : Conditions) (kind : RequestKind) (tracker : Tracker)
    (controller : Controller) : Turn :=
  match controller.config.domainSelectionEnabled, controller.resolver with
  | true, some resolver =>
      if (controller.holder tracker.trafficClass).requested then
        (controller.enqueue conditions.now kind tracker, [])
      else
        controller.consultResolver conditions resolver kind tracker
  | _, _ => controller.dispatchDirect conditions.now tracker

/-- The tracker of a request taken in, with the class its destination puts it in. -/
def admitted (surroundings : Surroundings) (request : SendRequest) : Tracker :=
  .ofRequest request (surroundings.isEmergencyNumber request.destination)

def accept (conditions : Conditions) (kind : RequestKind) (request : SendRequest)
    (controller : Controller) : Turn :=
  controller.route conditions kind (admitted conditions.now request)

/-- Dispatches an existing message again, with the reference it has. One that has
been handed to IMS before goes over CS and asks no resolver; one with a body that
cannot be encoded fails. -/
def sendRetry (conditions : Conditions) (tracker : Tracker) (controller : Controller) :
    Turn :=
  if !tracker.payload.isWellFormed then
    controller.complete conditions.now tracker (.failed .sendRetryFailed) tracker.lastDomain
  else if tracker.usedIms then
    controller.dispatch conditions.now (csSlot conditions.now) tracker
  else
    controller.route conditions .retry tracker

/-- The transport for each queued message once a selection has ended. -/
def slotAfterSelection (domain : Option Domain) (surroundings : Surroundings)
    (tracker : Tracker) : Slot :=
  match domain with
  | some domain => slotFor surroundings domain
  | none => defaultSlot surroundings tracker

/-- A decision, or the failure to reach one, arrived for a connection. -/
def onSelectionCompleted (conditions : Conditions) (trafficClass : TrafficClass)
    (connection : ConnectionId) (result : Except SelectionError Domain)
    (controller : Controller) : Turn :=
  if (controller.holder trafficClass).isCurrent connection then
    let domain := result.toOption
    let waiting := controller.queued trafficClass
    followedBy
      (controller.takePending trafficClass,
        [.publish (.selectionCompleted trafficClass connection domain)])
      fun controller =>
        followedBy (controller.dispatchAll conditions (slotAfterSelection domain) waiting)
          fun controller =>
            followedBy (controller.finishConnection trafficClass) fun controller =>
              controller.clearHolder trafficClass
  else
    (controller, [])

/-- The resolver gave a connection up. The connection is not told to finish. -/
def onSelectionTerminated (conditions : Conditions) (trafficClass : TrafficClass)
    (connection : ConnectionId) (cause : UInt32) (controller : Controller) : Turn :=
  if (controller.holder trafficClass).isCurrent connection then
    let waiting := controller.queued trafficClass
    followedBy
      (controller.takePending trafficClass,
        [.publish (.selectionTerminated trafficClass connection cause)])
      fun controller =>
        followedBy (controller.dispatchAll conditions (slotAfterSelection none) waiting)
          fun controller => controller.clearHolder trafficClass
  else
    (controller, [])

/-- A transport finished with a message that it held for `domain`. Only PS may
ask for a fallback. -/
def onOutcome (conditions : Conditions) (tracker : Tracker) (domain : Domain)
    (outcome : TransportOutcome) (controller : Controller) : Turn :=
  let surroundings := conditions.now
  match outcome, domain with
  | .sent, _ => controller.complete surroundings tracker (.sent tracker.messageRef) (some domain)
  | .failed code, _ => controller.complete surroundings tracker (.failed code) (some domain)
  | .fallback, .ps =>
      followedBy
        (controller, [.publish (.fellBack tracker.messageId tracker.messageRef)])
        fun controller => controller.dispatch surroundings (csSlot surroundings) tracker
  | .fallback, .cs =>
      controller.complete surroundings tracker (.failed .genericFailure) (some domain)
  | .retryRequested, _ => controller.sendRetry conditions tracker

def onInboundSms (surroundings : Surroundings) (address : String) (controller : Controller) :
    Turn :=
  (controller,
    if surroundings.isEmergencyNumber address && surroundings.tracksEmergency then [.noteInbound]
    else [])

/-- Uses another resolver for the connections opened from now on. A connection
that is selecting stays with the resolver it came from. -/
def installResolver (resolver : Option ResolverId) (controller : Controller) : Controller :=
  { controller with resolver }

def handle (conditions : Conditions) (command : Command) (controller : Controller) : Turn :=
  match command with
  | .submit kind request => controller.accept conditions kind request
  | .retry tracker => controller.sendRetry conditions tracker
  | .selectionCompleted trafficClass connection result =>
      controller.onSelectionCompleted conditions trafficClass connection result
  | .selectionTerminated trafficClass connection cause =>
      controller.onSelectionTerminated conditions trafficClass connection cause
  | .outcome tracker domain outcome => controller.onOutcome conditions tracker domain outcome
  | .inboundSms address => controller.onInboundSms conditions.now address
  | .installResolver resolver => (controller.installResolver resolver, [])
  | .subscribe awaited => (controller, [.enrol awaited])
  | .unsubscribe subscription => (controller, [.dismiss subscription])
  | .snapshot awaited =>
      (controller, if awaited then [.reportSnapshot controller.snapshot] else [])

/-- An entry point for callers: checks the request and takes it in. A refused
request changes nothing and has no effect. -/
def send (conditions : Conditions) (storageAvailable : Bool) (kind : RequestKind)
    (request : SendRequest) (controller : Controller) : Except DispatchError Turn :=
  match request.admission kind storageAvailable with
  | .error error => .error error
  | .ok () => .ok (controller.accept conditions kind request)

end OutboundSms.Controller
