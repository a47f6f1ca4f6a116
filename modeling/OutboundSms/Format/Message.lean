import OutboundSms.Format.Structured
import OutboundSms.Format.Written
import OutboundSms.Message.Options
import OutboundSms.Message.Payload

/-!
# Written message bodies and options
-/

set_option autoImplicit false

namespace OutboundSms

open Format

variable {δ : Type} [Structured δ]

namespace Payload

def written : Payload → Written
  | text body => .choiceOf "Text" (.text body)
  | data port octets =>
      .choiceWith "Data"
        [("port", .natural port.toNat),
          ("data", Written.listOf (fun octet => .natural octet.toNat) octets)]
  | multipartText parts => .choiceOf "MultipartText" (Written.listOf .text parts)

def read? (document : δ) : Option Payload :=
  match choiceName? document with
  | some "Text" => ((content? document).bind Format.text?).map text
  | some "Data" => do
      let fields : Fields δ ← contentFields? ["port", "data"] document
      let port ← fields.required "port" readUInt16
      let octets ← fields.required "data" (readList readUInt8)
      return data port octets
  | some "MultipartText" =>
      ((content? document).bind (readList Format.text?)).map multipartText
  | _ => none

end Payload

namespace SendOptions

def fieldNames : List String :=
  ["calling_package", "persist", "priority", "expect_more", "validity_period_mins",
    "message_id", "uid"]

def written (options : SendOptions) : Written :=
  .record
    [("calling_package", .text options.callingPackage),
      ("persist", .bool options.persist),
      ("priority", Written.optional (fun number => .natural number.toNat) options.priority),
      ("expect_more", .bool options.expectMore),
      ("validity_period_mins",
        Written.optional (fun number => .natural number.toNat) options.validityPeriodMins),
      ("message_id", .natural options.messageId.toNat),
      ("uid", .natural options.uid.toNat)]

def read? (document : δ) : Option SendOptions := do
  let fields : Fields δ ← record? "SendOptions" fieldNames document
  let callingPackage ← fields.withDefault "calling_package" "" Format.text?
  let persist ← fields.withDefault "persist" false Format.bool?
  let priority ← fields.withDefault "priority" none (readOption readUInt8)
  let expectMore ← fields.withDefault "expect_more" false Format.bool?
  let validityPeriodMins ←
    fields.withDefault "validity_period_mins" none (readOption readUInt32)
  let messageId ← fields.withDefault "message_id" 0 readUInt64
  let uid ← fields.withDefault "uid" 0 readUInt32
  return { callingPackage, persist, priority, expectMore, validityPeriodMins, messageId, uid }

end SendOptions

end OutboundSms
