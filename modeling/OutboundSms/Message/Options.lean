/-!
# Send options

What a caller may ask for beside the message itself. Routing does not look at
any of it; values out of range are dropped rather than refused.
-/

set_option autoImplicit false

namespace OutboundSms

/-- Caller supplied options. `messageId` is the caller's own number for the
message and need not be unique. -/
structure SendOptions where
  callingPackage : String := ""
  persist : Bool := false
  priority : Option UInt8 := none
  expectMore : Bool := false
  validityPeriodMins : Option UInt32 := none
  messageId : UInt64 := 0
  uid : UInt32 := 0
  deriving DecidableEq, Repr, Inhabited

namespace SendOptions

/-- Priorities run from 0 (normal) to 3 (emergency). -/
def priorityInRange (priority : UInt8) : Bool :=
  priority ≤ 3

/-- Validity periods run from 5 minutes to 63 weeks. -/
def validityInRange (minutes : UInt32) : Bool :=
  5 ≤ minutes && minutes ≤ 635040

/-- Unsets a priority or a validity period that is out of range. -/
def normalised (options : SendOptions) : SendOptions :=
  { options with
    priority := options.priority.filter priorityInRange
    validityPeriodMins := options.validityPeriodMins.filter validityInRange }

@[simp] theorem messageId_normalised (options : SendOptions) :
    options.normalised.messageId = options.messageId := rfl

@[simp] theorem expectMore_normalised (options : SendOptions) :
    options.normalised.expectMore = options.expectMore := rfl

end SendOptions

end OutboundSms
