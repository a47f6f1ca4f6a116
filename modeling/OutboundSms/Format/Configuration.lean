import OutboundSms.Format.Message
import OutboundSms.Format.Vocabulary
import OutboundSms.Simulator.Config

/-!
# Written configurations

How the routing policy, link and resolver scripts and whole simulations are
written and read. Every field says for itself what stands for it where it is missing.
-/

set_option autoImplicit false

namespace OutboundSms

open Format

variable {δ : Type} [Structured δ]

namespace DispatchConfig

def fieldNames : List String :=
  ["domain_selection_enabled", "max_ims_retries", "max_cs_retries", "ims_retry_delay_ms",
    "cs_retry_delay_ms", "message_ref_modulus"]

def written (config : DispatchConfig) : Written :=
  .record
    [("domain_selection_enabled", .bool config.domainSelectionEnabled),
      ("max_ims_retries", .natural config.maxImsRetries.toNat),
      ("max_cs_retries", .natural config.maxCsRetries.toNat),
      ("ims_retry_delay_ms", .natural config.imsRetryDelayMs.toNat),
      ("cs_retry_delay_ms", .natural config.csRetryDelayMs.toNat),
      ("message_ref_modulus", .natural config.messageRefModulus.toNat)]

def read? (document : δ) : Option DispatchConfig := do
  let fields : Fields δ ← record? "DispatchConfig" fieldNames document
  let domainSelectionEnabled ← fields.withDefault "domain_selection_enabled" true Format.bool?
  let maxImsRetries ← fields.withDefault "max_ims_retries" 1 readUInt32
  let maxCsRetries ← fields.withDefault "max_cs_retries" 3 readUInt32
  let imsRetryDelayMs ← fields.withDefault "ims_retry_delay_ms" 2000 readUInt64
  let csRetryDelayMs ← fields.withDefault "cs_retry_delay_ms" 2000 readUInt64
  let messageRefModulus ← fields.withDefault "message_ref_modulus" 256 readUInt16
  return {
    domainSelectionEnabled, maxImsRetries, maxCsRetries, imsRetryDelayMs, csRetryDelayMs
    messageRefModulus }

end DispatchConfig

namespace LinkResponse

def written : LinkResponse → Written
  | accepted => .choice "Accepted"
  | rejected code => .choiceOf "Rejected" code.written
  | retry code => .choiceOf "Retry" code.written
  | fallback => .choice "Fallback"

def read? (document : δ) : Option LinkResponse :=
  match choiceName? document with
  | some "Rejected" => ((content? document).bind ResultCode.read?).map rejected
  | some "Retry" => ((content? document).bind ResultCode.read?).map retry
  | _ => readNamed [("Accepted", accepted), ("Fallback", fallback)] document

end LinkResponse

def TransportOutcome.read? (document : δ) : Option TransportOutcome :=
  match choiceName? document with
  | some "Failed" => ((content? document).bind ResultCode.read?).map failed
  | _ => readNamed [("Sent", sent), ("Fallback", fallback), ("RetryRequested", retryRequested)]
      document

namespace Decision

def written : Decision → Written
  | select domain => .choiceOf "Select" domain.written
  | fail reason => .choiceOf "Fail" (.text reason)
  | terminate cause => .choiceOf "Terminate" (.natural cause.toNat)

def read? (document : δ) : Option Decision :=
  match choiceName? document with
  | some "Select" => ((content? document).bind Domain.read?).map select
  | some "Fail" => ((content? document).bind Format.text?).map fail
  | some "Terminate" => ((content? document).bind readUInt32).map terminate
  | _ => none

end Decision

namespace LinkScript

def fieldNames : List String :=
  ["available", "emergency_support", "responses", "latency_ms", "own_message_refs"]

def written (script : LinkScript) : Written :=
  .record
    [("available", .bool script.available),
      ("emergency_support", .bool script.emergencySupport),
      ("responses", Written.listOf LinkResponse.written script.responses),
      ("latency_ms", .natural script.latencyMs.toNat),
      ("own_message_refs", .bool script.ownMessageRefs)]

def read? (document : δ) : Option LinkScript := do
  let fields : Fields δ ← record? "LinkScript" fieldNames document
  let available ← fields.withDefault "available" true Format.bool?
  let emergencySupport ← fields.withDefault "emergency_support" false Format.bool?
  let responses ← fields.withDefault "responses" [] (readList LinkResponse.read?)
  let latencyMs ← fields.withDefault "latency_ms" 0 readUInt64
  let ownMessageRefs ← fields.withDefault "own_message_refs" false Format.bool?
  return { available, emergencySupport, responses, latencyMs, ownMessageRefs }

end LinkScript

namespace ResolverScript

def written (script : ResolverScript) : Written :=
  .record
    [("decision", script.decision.written),
      ("latency_ms", .natural script.latencyMs.toNat)]

def read? (document : δ) : Option ResolverScript := do
  let fields : Fields δ ← record? "ResolverScript" ["decision", "latency_ms"] document
  let decision ← fields.required "decision" Decision.read?
  let latencyMs ← fields.withDefault "latency_ms" 0 readUInt64
  return { decision, latencyMs }

end ResolverScript

namespace MessageScript

def written (script : MessageScript) : Written :=
  .record
    [("destination", .text script.destination),
      ("service_center", Written.optional .text script.serviceCenter),
      ("payload", script.payload.written),
      ("options", script.options.written)]

def read? (document : δ) : Option MessageScript := do
  let fields : Fields δ ←
    record? "MessageScript" ["destination", "service_center", "payload", "options"] document
  let destination ← fields.required "destination" Format.text?
  let serviceCenter ← fields.withDefault "service_center" none (readOption Format.text?)
  let payload ← fields.required "payload" Payload.read?
  let options ← fields.withDefault "options" {} SendOptions.read?
  return { destination, serviceCenter, payload, options }

end MessageScript

namespace SimulatorConfig

def fieldNames : List String :=
  ["dispatch", "voice_format", "emergency_numbers", "ims", "cs", "resolver", "messages"]

def written (config : SimulatorConfig) : Written :=
  .record
    [("dispatch", config.dispatch.written),
      ("voice_format", config.voiceFormat.written),
      ("emergency_numbers", Written.listOf .text config.emergencyNumbers),
      ("ims", config.ims.written),
      ("cs", config.cs.written),
      ("resolver", Written.optional ResolverScript.written config.resolver),
      ("messages", Written.listOf MessageScript.written config.messages)]

def read? (document : δ) : Option SimulatorConfig := do
  let fields : Fields δ ← record? "SimulatorConfig" fieldNames document
  let dispatch ← fields.withDefault "dispatch" {} DispatchConfig.read?
  let voiceFormat ← fields.withDefault "voice_format" .threeGpp SmsFormat.read?
  let emergencyNumbers ← fields.withDefault "emergency_numbers" [] (readList Format.text?)
  let ims ← fields.withDefault "ims" {} LinkScript.read?
  let cs ← fields.withDefault "cs" {} LinkScript.read?
  let resolver ← fields.withDefault "resolver" none (readOption ResolverScript.read?)
  let messages ← fields.withDefault "messages" [] (readList MessageScript.read?)
  return { dispatch, voiceFormat, emergencyNumbers, ims, cs, resolver, messages }

end SimulatorConfig

end OutboundSms
