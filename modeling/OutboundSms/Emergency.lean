import OutboundSms.Text.Blank

/-!
# Emergency numbers

The classifier that decides which addresses are emergency numbers.
-/

set_option autoImplicit false

namespace OutboundSms

/-- A fixed set of emergency numbers, kept as they were configured. -/
structure EmergencyNumbers where
  numbers : List String
  deriving DecidableEq, Repr, Inhabited

/-- Whether an address, without the blank characters around it, is one of the
numbers. The numbers themselves are compared as they stand. -/
def EmergencyNumbers.isEmergency (emergencyNumbers : EmergencyNumbers) (address : String) : Bool :=
  emergencyNumbers.numbers.contains (Text.trim address)

end OutboundSms
