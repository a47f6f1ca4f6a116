import OutboundSms.Selection.Connection
import OutboundSms.Domain

/-!
# Scripted decisions

A resolver that gives every request the same decision after the same time.
-/

set_option autoImplicit false

namespace OutboundSms

/-- How a scripted resolver ends a selection: with a domain, with a failure, or by
giving the connection up. -/
inductive Decision where
  | select (domain : Domain)
  | fail (reason : String)
  | terminate (cause : UInt32)
  deriving DecidableEq, Repr

/-- A decision and the milliseconds it takes. -/
structure ResolverScript where
  decision : Decision
  latencyMs : UInt64 := 0
  deriving DecidableEq, Repr

/-- A scripted resolver hands out connections for messages and not for calls,
whether or not they are for an emergency. -/
def ResolverScript.connects (_script : ResolverScript) (selectorType : SelectorType) : Bool :=
  selectorType == .sms

end OutboundSms
