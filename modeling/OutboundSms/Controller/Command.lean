import OutboundSms.Selection.Holder
import OutboundSms.Transport.Outcome

/-!
# Commands and events

Everything that may change a controller arrives as a command on one queue, and
everything it wants observed leaves as an event.
-/

set_option autoImplicit false

namespace OutboundSms

/-- A request to a controller. `submit` carries a request that has passed its
admission. `subscribe` and `snapshot` say whether whoever asked still waits for
the answer. -/
inductive Command where
  | submit (kind : RequestKind) (request : SendRequest)
  | retry (tracker : Tracker)
  | selectionCompleted (trafficClass : TrafficClass) (connection : ConnectionId)
      (result : Except SelectionError Domain)
  | selectionTerminated (trafficClass : TrafficClass) (connection : ConnectionId) (cause : UInt32)
  | outcome (tracker : Tracker) (domain : Domain) (outcome : TransportOutcome)
  | inboundSms (address : String)
  | installResolver (resolver : Option ResolverId)
  | subscribe (awaited : Bool)
  | unsubscribe (subscription : Nat)
  | snapshot (awaited : Bool)

namespace Command

/-- The tracker a command carries, for the two kinds that carry one. -/
def tracker? : Command → Option Tracker
  | retry tracker => some tracker
  | outcome tracker _ _ => some tracker
  | _ => none

def name : Command → String
  | submit _ _ => "Submit"
  | retry _ => "Retry"
  | selectionCompleted _ _ _ => "SelectionCompleted"
  | selectionTerminated _ _ _ => "SelectionTerminated"
  | outcome _ _ _ => "Outcome"
  | inboundSms _ => "InboundSms"
  | installResolver _ => "InstallResolver"
  | subscribe _ => "Subscribe"
  | unsubscribe _ => "Unsubscribe"
  | snapshot _ => "Snapshot"

end Command

/-- What a controller tells its subscribers. A completed selection has no domain
when the resolver answered with an error, and a dispatched message has no
reference when its transport is to assign one. -/
inductive DispatchEvent where
  | selectionRequested (trafficClass : TrafficClass) (connection : ConnectionId)
  | selectionCompleted (trafficClass : TrafficClass) (connection : ConnectionId)
      (domain : Option Domain)
  | selectionTerminated (trafficClass : TrafficClass) (connection : ConnectionId)
      (cause : UInt32)
  | dispatched (messageId : UInt64) (messageRef : Option UInt8) (domain : Domain)
  | fellBack (messageId : UInt64) (messageRef : Option UInt8)
  | completed (messageId : UInt64) (result : SendResult)
  deriving DecidableEq, Repr

/-- A view of a controller at one moment. -/
structure ControllerSnapshot where
  domainSelectionSupported : Bool
  normalPending : Nat
  emergencyPending : Nat
  normalSelecting : Bool
  emergencySelecting : Bool
  nextMessageRef : UInt8
  deriving DecidableEq, Repr

end OutboundSms
