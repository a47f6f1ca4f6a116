import OutboundSms.Domain
import OutboundSms.ResultCode

/-!
# Transport outcomes

How a transport finishes with a message it was handed, and the places such a
transport can take.
-/

set_option autoImplicit false

namespace OutboundSms

/-- How a transport finished with a tracker: for good, with a wish to move the
message to the circuit-switched side, or with a wish to dispatch it again. -/
inductive TransportOutcome where
  | sent
  | failed (code : ResultCode)
  | fallback
  | retryRequested
  deriving DecidableEq, Repr

def TransportOutcome.isTerminal : TransportOutcome → Bool
  | .sent | .failed _ => true
  | .fallback | .retryRequested => false

/-- The places of the three transports a controller routes between: one
packet-switched, and one circuit-switched for each message format. -/
inductive Slot where
  | ps
  | cs (format : SmsFormat)
  deriving DecidableEq, Repr

/-- What a controller may ask a transport. `controllerAssignsRef` holds for a
transport whose message references are the controller's to give. -/
structure TransportFacts where
  domain : Domain
  format : SmsFormat
  available : Bool
  supportsEmergency : String → Bool
  controllerAssignsRef : Bool

end OutboundSms
