import OutboundSms.DispatchConfig
import OutboundSms.Message.Request
import OutboundSms.Selection.Decision
import OutboundSms.Transport.Link

/-!
# Simulator configuration

What a simulation is made of: the routing policy, a scripted link for each
domain, a scripted resolver where there is one, and the messages to send.
-/

set_option autoImplicit false

namespace OutboundSms

/-- A simulated link. It answers successive submissions from `responses` and
accepts everything once these are used up; every answer takes `latencyMs`. With
`ownMessageRefs` set the transport gives references from a counter of its own. -/
structure LinkScript where
  available : Bool := true
  emergencySupport : Bool := false
  responses : List LinkResponse := []
  latencyMs : UInt64 := 0
  ownMessageRefs : Bool := false
  deriving DecidableEq, Repr, Inhabited

/-- One message to submit. -/
structure MessageScript where
  destination : String
  serviceCenter : Option String := none
  payload : Payload
  options : SendOptions := {}
  deriving DecidableEq, Repr

/-- A simulation. Without a resolver every message is dispatched directly, and
`voiceFormat` is the format of the current voice technology. -/
structure SimulatorConfig where
  dispatch : DispatchConfig := {}
  voiceFormat : SmsFormat := .threeGpp
  emergencyNumbers : List String := []
  ims : LinkScript := {}
  cs : LinkScript := {}
  resolver : Option ResolverScript := none
  messages : List MessageScript := []
  deriving DecidableEq, Repr

/-- What makes a configuration inconsistent. -/
inductive ConfigError where
  | invalidModulus (modulus : UInt16)
  | emptyDestination (index : Nat)
  deriving DecidableEq, Repr

def ConfigError.message : ConfigError → String
  | .invalidModulus modulus =>
      "message_ref_modulus must be within 1..=256, got " ++ toString modulus.toNat
  | .emptyDestination index => "message " ++ toString index ++ " has an empty destination"

/-- The first inconsistency of a configuration: a modulus out of range, and after
that the first message with a blank destination. -/
def SimulatorConfig.validate (config : SimulatorConfig) : Except ConfigError Unit :=
  let modulus := config.dispatch.messageRefModulus
  if modulus < 1 || 256 < modulus then .error (.invalidModulus modulus)
  else
    match config.messages.findIdx? fun message => Text.isAllBlank message.destination with
    | some index => .error (.emptyDestination index)
    | none => .ok ()

end OutboundSms
