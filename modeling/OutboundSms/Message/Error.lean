import OutboundSms.Message.Payload
import OutboundSms.ResultCode

/-!
# Errors

Entry points fail only for what is found before a request enters dispatch, or
because dispatch has stopped. Whatever goes wrong later reaches the sender as a
send result. The failures of the collaborators have texts of their own.
-/

set_option autoImplicit false

namespace OutboundSms

/-- Why a request is refused before any dispatch is attempted. -/
inductive RejectReason where
  | emptyDestination
  | emptyPayload
  | payloadMismatch (expected actual : RequestKind)
  | storageUnavailable
  deriving DecidableEq, Repr

def RejectReason.message : RejectReason → String
  | .emptyDestination => "destination address is empty"
  | .emptyPayload => "message payload is empty"
  | .payloadMismatch expected actual =>
      "expected a " ++ expected.name ++ " payload, got " ++ actual.name
  | .storageUnavailable => "message storage is unavailable"

/-- Why an entry point fails: the request was refused, or the dispatch service
does not run. -/
inductive DispatchError where
  | rejected (reason : RejectReason)
  | serviceUnavailable (detail : String)
  deriving DecidableEq, Repr

namespace DispatchError

def message : DispatchError → String
  | rejected reason => "Request rejected: " ++ reason.message
  | serviceUnavailable detail => "System error: Dispatch service unavailable: " ++ detail

def isRejected : DispatchError → Bool
  | rejected _ => true
  | serviceUnavailable _ => false

def isSystem : DispatchError → Bool
  | rejected _ => false
  | serviceUnavailable _ => true

/-- The result code that a caller sees for an error. -/
def resultCode : DispatchError → ResultCode
  | rejected .storageUnavailable => .noMemory
  | rejected _ => .invalidArguments
  | serviceUnavailable _ => .systemError

/-- What every operation on a service answers once the service has ended. -/
def serviceStopped : DispatchError :=
  serviceUnavailable "dispatch service has stopped"

end DispatchError

/-- What a domain selection ends with in place of a domain. -/
inductive SelectionError where
  | failed (reason : String)
  | abandoned
  deriving DecidableEq, Repr

def SelectionError.message : SelectionError → String
  | .failed reason => "domain selection failed: " ++ reason
  | .abandoned => "domain selection was abandoned by the resolver"

/-- Why the emergency state tracker refused to open a session. -/
inductive EmergencyError where
  | rejected (cause : UInt32)
  | unavailable
  deriving DecidableEq, Repr

def EmergencyError.message : EmergencyError → String
  | .rejected cause => "emergency SMS start rejected with cause " ++ toString cause.toNat
  | .unavailable => "emergency state tracker unavailable"

end OutboundSms
