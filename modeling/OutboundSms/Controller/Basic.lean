import OutboundSms.Controller.Effect
import OutboundSms.DispatchConfig
import OutboundSms.MessageRef

/-!
# The dispatch controller: state, dispatch and completion

The controller routes each message to a transport and asks the domain selection
resolver when one is installed. Every operation gives the next state with the
effects it had, in order.
-/

set_option autoImplicit false

namespace OutboundSms

/-- The state of a controller. `connectionsOpened` numbers the connections of
both classes together, so that no two of them share an id. -/
structure Controller where
  config : DispatchConfig
  resolver : Option ResolverId
  normal : ConnectionHolder
  emergency : ConnectionHolder
  sequence : ReferenceCounter
  connectionsOpened : UInt64
  deriving DecidableEq, Repr

/-- A controller's next state and the effects on the way there. -/
abbrev Turn := Controller × List Effect

namespace Controller

def new (config : DispatchConfig) (resolver : Option ResolverId) : Controller where
  config
  resolver
  normal := { trafficClass := .normal }
  emergency := { trafficClass := .emergency }
  sequence := .new config.messageRefModulus
  connectionsOpened := 0

/-- Replaces the reference counter, to resume from a remembered reference. -/
def withSequence (controller : Controller) (sequence : ReferenceCounter) : Controller :=
  { controller with sequence }

def holder (controller : Controller) : TrafficClass → ConnectionHolder
  | .normal => controller.normal
  | .emergency => controller.emergency

def setHolder (controller : Controller) (trafficClass : TrafficClass)
    (holder : ConnectionHolder) : Controller :=
  match trafficClass with
  | .normal => { controller with normal := holder }
  | .emergency => { controller with emergency := holder }

@[simp] theorem holder_setHolder_self (controller : Controller) (trafficClass : TrafficClass)
    (holder : ConnectionHolder) :
    (controller.setHolder trafficClass holder).holder trafficClass = holder := by
  cases trafficClass <;> rfl

theorem holder_setHolder_of_ne (controller : Controller) {trafficClass other : TrafficClass}
    (holder : ConnectionHolder) (different : other ≠ trafficClass) :
    (controller.setHolder trafficClass holder).holder other = controller.holder other := by
  cases trafficClass <;> cases other <;> first | rfl | exact absurd rfl different

@[simp] theorem connectionsOpened_setHolder (controller : Controller)
    (trafficClass : TrafficClass) (holder : ConnectionHolder) :
    (controller.setHolder trafficClass holder).connectionsOpened =
      controller.connectionsOpened := by
  cases trafficClass <;> rfl

def selectionSupported (controller : Controller) : Bool :=
  controller.config.domainSelectionEnabled && controller.resolver.isSome

def snapshot (controller : Controller) : ControllerSnapshot where
  domainSelectionSupported := controller.selectionSupported
  normalPending := controller.normal.pending.length
  emergencyPending := controller.emergency.pending.length
  normalSelecting := controller.normal.requested
  emergencySelecting := controller.emergency.requested
  nextMessageRef := controller.sequence.peek

/-- The next turn, with the effects of the turn before it put first. -/
def followedBy (turn : Turn) (next : Controller → Turn) : Turn :=
  let following := next turn.1
  (following.1, turn.2 ++ following.2)

/-! ### Choice of a transport -/

def csSlot (surroundings : Surroundings) : Slot :=
  .cs surroundings.voiceFormat

def slotFor (surroundings : Surroundings) : Domain → Slot
  | .ps => .ps
  | .cs => csSlot surroundings

/-- The transport where no domain is selected: PS when it is available, and CS
otherwise. -/
def directSlot (surroundings : Surroundings) : Slot :=
  if (surroundings.transport .ps).available then .ps else csSlot surroundings

/-- The transport after a selection that gave no domain. Emergency traffic goes
over PS only where PS supports emergency messages to the destination. -/
def defaultSlot (surroundings : Surroundings) (tracker : Tracker) : Slot :=
  let ps := surroundings.transport .ps
  let usePs := if tracker.emergency then ps.supportsEmergency tracker.destination
    else ps.available
  if usePs then .ps else csSlot surroundings

/-! ### Dispatch -/

/-- Gives a message the next reference where the transport leaves that to the
controller and the message has none. No other dispatch moves the counter. -/
def assignRef (facts : TransportFacts) (tracker : Tracker) (controller : Controller) :
    Tracker × Controller :=
  if facts.controllerAssignsRef && tracker.messageRef.isNone then
    (tracker.assignRef controller.sequence.peek,
      { controller with sequence := controller.sequence.advance })
  else
    (tracker, controller)

/-- An emergency session opens before the first dispatch of an emergency message. -/
def sessionOpening (surroundings : Surroundings) (tracker : Tracker) (domain : Domain) :
    List Effect :=
  if tracker.isFirstDispatch && tracker.emergency && surroundings.tracksEmergency then
    [.openSession tracker.destination domain.isPs]
  else []

/-- An emergency session closes when its message has finished in a domain. -/
def sessionClosing (surroundings : Surroundings) (tracker : Tracker) (success : Bool)
    (domain : Option Domain) : List Effect :=
  match domain with
  | some domain =>
      if tracker.emergency && surroundings.tracksEmergency then
        [.closeSession tracker.messageId success domain]
      else []
  | none => []

def dispatch (surroundings : Surroundings) (slot : Slot) (tracker : Tracker)
    (controller : Controller) : Turn :=
  let facts := surroundings.transport slot
  let (tracker, controller) := controller.assignRef facts tracker
  let opening := sessionOpening surroundings tracker facts.domain
  let tracker := tracker.recordDispatch facts.domain
  (controller, opening ++
    [.publish (.dispatched tracker.messageId tracker.messageRef facts.domain),
      .send slot tracker facts.domain])

/-- Hands messages over one after another, each to the transport that `choose`
picks as the surroundings are by then. -/
def dispatchAll (conditions : Conditions) (choose : Surroundings → Tracker → Slot) :
    List Tracker → Controller → Turn
  | [], controller => (controller, [])
  | tracker :: rest, controller =>
      followedBy
        (controller.dispatch conditions.now (choose conditions.now tracker) tracker)
        (dispatchAll conditions.later choose rest)

/-! ### Completion -/

/-- Ends a message with its result. `domain` is the domain it finished in, if it
was dispatched at all. -/
def complete (surroundings : Surroundings) (tracker : Tracker) (result : SendResult)
    (domain : Option Domain) (controller : Controller) : Turn :=
  (controller, sessionClosing surroundings tracker result.isSuccess domain ++
    [.publish (.completed tracker.messageId result), .complete tracker result])

end Controller

end OutboundSms
