import OutboundSms.Message.Error
import OutboundSms.Message.Options
import OutboundSms.Text.Blank

/-!
# Send requests and their admission

A request as a caller issues it, and the checks it has to pass before it enters
dispatch. The checks have a fixed order, and the first that fails is reported.
-/

set_option autoImplicit false

namespace OutboundSms

/-- Names one message to its sender. The sent and the delivery callback of a
message are addressed to its ticket, so two messages with equal content stay
apart. -/
abbrev Ticket := Nat

/-- A send as issued by a caller. `reportsSent` and `reportsDelivery` say whether
the caller waits for the send result and for the status report. -/
structure SendRequest where
  ticket : Ticket
  destination : String
  serviceCenter : Option String := none
  payload : Payload
  options : SendOptions := {}
  reportsSent : Bool := true
  reportsDelivery : Bool := false
  deriving DecidableEq, Repr

namespace SendRequest

/-- The checks that need no collaborator: a destination that is not blank, a
body of the expected kind, and a body that can be encoded. -/
def validate (request : SendRequest) (expected : RequestKind) : Except RejectReason Unit :=
  if Text.isAllBlank request.destination then
    .error .emptyDestination
  else if request.payload.kind ≠ expected then
    .error (.payloadMismatch expected request.payload.kind)
  else if !request.payload.isWellFormed then
    .error .emptyPayload
  else
    .ok ()

/-- All checks on a request: those on the request itself, and after them that
messages can be stored. -/
def admission (request : SendRequest) (kind : RequestKind) (storageAvailable : Bool) :
    Except DispatchError Unit :=
  match request.validate kind with
  | .error reason => .error (.rejected reason)
  | .ok () => if storageAvailable then .ok () else .error (.rejected .storageUnavailable)

end SendRequest

end OutboundSms
