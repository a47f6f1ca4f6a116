import OutboundSms.Message.Error

/-!
# Selection connections

What passes between the controller and a domain selection resolver.
-/

set_option autoImplicit false

namespace OutboundSms

/-- Identifies one connection that a resolver handed out. Completions and
terminations carry it, so that a late one for a replaced connection is told
apart. -/
structure ConnectionId where
  number : UInt64
  deriving DecidableEq, Repr, Inhabited

namespace ConnectionId

/-- The number of the connection after a number sign. -/
def display (id : ConnectionId) : String :=
  "#" ++ toString id.number.toNat

end ConnectionId

/-- What a connection selects a domain for. -/
inductive SelectorType where
  | call
  | sms
  deriving DecidableEq, Repr

def SelectorType.name : SelectorType → String
  | .call => "Call"
  | .sms => "Sms"

/-- What the resolver is told about the message that opened a connection. -/
structure SelectionAttributes where
  selectorType : SelectorType
  emergency : Bool
  destination : String
  messageId : UInt64
  deriving DecidableEq, Repr

abbrev ResolverId := Nat

/-- How a resolver answers a request for a connection: it has none, its
connection cannot issue the selection request, or the request is under way. -/
inductive ConnectAnswer where
  | refused
  | unissued
  | issued
  deriving DecidableEq, Repr

end OutboundSms
