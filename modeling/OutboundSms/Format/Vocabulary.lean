import OutboundSms.Domain
import OutboundSms.Format.Structured
import OutboundSms.Format.Written
import OutboundSms.Message.Payload
import OutboundSms.Message.Tracker
import OutboundSms.ResultCode

/-!
# Written vocabularies, codes and reports

How domains, formats, classes, kinds, codes, results and status reports are
written, and how they are read back.
-/

set_option autoImplicit false

namespace OutboundSms

open Format

variable {δ : Type} [Structured δ]

namespace Domain

def name : Domain → String
  | ps => "ps"
  | cs => "cs"

def written (domain : Domain) : Written :=
  .choice domain.name

def read? (document : δ) : Option Domain :=
  readNamed [("ps", ps), ("cs", cs)] document

end Domain

namespace SmsFormat

def name : SmsFormat → String
  | threeGpp => "ThreeGpp"
  | threeGpp2 => "ThreeGpp2"

def written (format : SmsFormat) : Written :=
  .choice format.name

def read? (document : δ) : Option SmsFormat :=
  readNamed
    [("ThreeGpp", threeGpp), ("3gpp", threeGpp), ("ThreeGpp2", threeGpp2), ("3gpp2", threeGpp2)]
    document

end SmsFormat

namespace TrafficClass

def name : TrafficClass → String
  | normal => "normal"
  | emergency => "emergency"

def written (trafficClass : TrafficClass) : Written :=
  .choice trafficClass.name

def read? (document : δ) : Option TrafficClass :=
  readNamed [("normal", normal), ("emergency", emergency)] document

end TrafficClass

namespace RequestKind

def written (kind : RequestKind) : Written :=
  .choice kind.name

def read? (document : δ) : Option RequestKind :=
  readNamed ([text, data, multipartText, retry].map fun kind => (kind.name, kind)) document

end RequestKind

namespace ResultCode

/-- A named code is written by its name, and an unknown one with its number. -/
def written : ResultCode → Written
  | unknown number => .choiceOf "Unknown" (.natural number.toNat)
  | code => .choice code.name

def read? (document : δ) : Option ResultCode :=
  match choiceName? document with
  | some "Unknown" => ((content? document).bind readUInt32).map unknown
  | _ => readNamed (named.map fun code => (code.name, code)) document

end ResultCode

namespace SendResult

def written : SendResult → Written
  | sent messageRef =>
      .choiceWith "Sent"
        [("message_ref", Written.optional (fun number => .natural number.toNat) messageRef)]
  | failed code => .choiceOf "Failed" code.written

def read? (document : δ) : Option SendResult :=
  match choiceName? document with
  | some "Sent" => do
      let fields : Fields δ ← contentFields? ["message_ref"] document
      let messageRef ← fields.withDefault "message_ref" none (readOption readUInt8)
      return sent messageRef
  | some "Failed" => ((content? document).bind ResultCode.read?).map failed
  | _ => none

end SendResult

namespace DeliveryReport

def written (report : DeliveryReport) : Written :=
  .record
    [("message_ref", .natural report.messageRef.toNat),
      ("delivered", .bool report.delivered),
      ("status", .natural report.status.toNat)]

def read? (document : δ) : Option DeliveryReport := do
  let fields : Fields δ ←
    record? "DeliveryReport" ["message_ref", "delivered", "status"] document
  let messageRef ← fields.required "message_ref" readUInt8
  let delivered ← fields.required "delivered" Format.bool?
  let status ← fields.required "status" readUInt32
  return { messageRef, delivered, status }

end DeliveryReport

end OutboundSms
