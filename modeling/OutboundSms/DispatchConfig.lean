/-!
# Dispatch configuration

The routing policy of a controller and of its link transports.
-/

set_option autoImplicit false

namespace OutboundSms

/-- With `domainSelectionEnabled` unset every request is dispatched directly.
Delays are in milliseconds, and wire references repeat after `messageRefModulus`
messages. -/
structure DispatchConfig where
  domainSelectionEnabled : Bool := true
  maxImsRetries : UInt32 := 1
  maxCsRetries : UInt32 := 3
  imsRetryDelayMs : UInt64 := 2000
  csRetryDelayMs : UInt64 := 2000
  messageRefModulus : UInt16 := 256
  deriving DecidableEq, Repr, Inhabited

end OutboundSms
