import OutboundSms.Bench.Actions
import OutboundSms.Simulator.Outcome

/-!
# Simulations

A simulation submits all its messages at once and runs until nothing is left to
happen. It is a service on the bench between scripted links and, where there is
one, a scripted resolver.
-/

set_option autoImplicit false

namespace OutboundSms

open Bench in
/-- The link transport of a script. Every accepted message is reported as delivered
after the latency of the link. -/
def LinkScript.link (script : LinkScript) (policy : RetryPolicy) (referenceModulus : UInt16) :
    ScriptedLink where
  policy
  ownRefs := if script.ownMessageRefs then some (.new referenceModulus) else none
  script := script.responses.map fun response =>
    { response, latency := script.latencyMs.toNat }
  latency := script.latencyMs.toNat
  reports := .confirm script.latencyMs.toNat

open Bench in
def LinkScript.transport (script : LinkScript) (domain : Domain) (format : SmsFormat)
    (config : DispatchConfig) : Transport where
  domain
  format
  available := script.available
  emergencySupport := script.emergencySupport
  device := .link (script.link (.ofDomain config domain) config.messageRefModulus)

namespace SimulatorConfig

/-- The resolvers of a simulation: the scripted one, if there is one. -/
def resolvers (config : SimulatorConfig) : List Bench.Resolver :=
  (config.resolver.map fun script => { script := some script }).toList

/-- The bench that a simulation runs on. Both circuit-switched transports stand
for one modem; the format never changes, so only one of them is used. -/
def bench (config : SimulatorConfig) : Bench where
  operation := .byService
  service := .new config.dispatch (config.resolver.map fun _ => 0)
  ps := config.ims.transport .ps config.voiceFormat config.dispatch
  cs3gpp := config.cs.transport .cs .threeGpp config.dispatch
  cs3gpp2 := config.cs.transport .cs .threeGpp2 config.dispatch
  resolvers := config.resolvers
  numbers := { numbers := config.emergencyNumbers }
  voiceFormat := config.voiceFormat
  emergencyLog := none

end SimulatorConfig

def MessageScript.request (message : MessageScript) (ticket : Ticket) : SendRequest where
  ticket
  destination := message.destination
  serviceCenter := message.serviceCenter
  payload := message.payload
  options := message.options
  reportsSent := true
  reportsDelivery := true

namespace Bench

/-- Submits messages through the entry points of their bodies. The answer has the
verdict on each. -/
def submitAll : List MessageScript → Bench → List (Except DispatchError Unit) × Bench
  | [], bench => ([], bench)
  | message :: rest, bench =>
      let request := message.request bench.nextTicket
      let (verdict, bench) := bench.issueTicket.send message.payload.kind request
      let (verdicts, bench) := bench.submitAll rest
      (verdict :: verdicts, bench)

/-- The result that a message was given, if it was given one. -/
def result? (bench : Bench) (ticket : Ticket) : Option SendResult :=
  bench.receipts.findSome? fun
    | .sent other result => if other = ticket then some result else none
    | _ => none

/-- What the status report on a message said, if there was one. -/
def delivery? (bench : Bench) (ticket : Ticket) : Option Bool :=
  bench.receipts.findSome? fun
    | .delivered other report => if other = ticket then some report.delivered else none
    | _ => none

def resolution (bench : Bench) (ticket : Ticket) (verdict : Except DispatchError Unit) :
    Resolution :=
  match verdict with
  | .error error => .rejected error.message
  | .ok () =>
      match bench.result? ticket with
      | some result =>
          .completed result (if result.isSuccess then bench.delivery? ticket else none)
      | none => .dropped

end Bench

/-- The outcome of every message in order, and the milliseconds it took. -/
structure SimulationReport where
  outcomes : List MessageOutcome
  elapsedMs : Nat
  deriving DecidableEq, Repr

def SimulatorConfig.run (config : SimulatorConfig) : SimulationReport :=
  let (verdicts, bench) := config.bench.submitAll config.messages
  let bench := bench.runThrough .all
  { outcomes := (config.messages.zip verdicts).mapIdx fun ticket (message, verdict) =>
      { messageId := message.options.messageId
        destination := message.destination
        resolution := bench.resolution ticket verdict }
    elapsedMs := bench.agenda.clock }

def SimulatorConfig.simulate (config : SimulatorConfig) : Except ConfigError SimulationReport :=
  match config.validate with
  | .error error => .error error
  | .ok () => .ok config.run

end OutboundSms
