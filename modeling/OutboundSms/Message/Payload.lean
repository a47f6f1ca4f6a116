/-!
# Message bodies

The shapes a sender may submit, and the kind of request each shape belongs to.
-/

set_option autoImplicit false

namespace OutboundSms

/-- What produced a request: one of the entry points, or the dispatch of an
existing message once more. -/
inductive RequestKind where
  | text
  | data
  | multipartText
  | retry
  deriving DecidableEq, Repr, Inhabited

def RequestKind.name : RequestKind → String
  | .text => "Text"
  | .data => "Data"
  | .multipartText => "MultipartText"
  | .retry => "Retry"

/-- The body of a message. -/
inductive Payload where
  | text (body : String)
  | data (port : UInt16) (octets : List UInt8)
  | multipartText (parts : List String)
  deriving DecidableEq, Repr, Inhabited

namespace Payload

/-- A body a transport can encode: not empty, and with no empty part. -/
def isWellFormed : Payload → Bool
  | .text body => !body.isEmpty
  | .data _ octets => !octets.isEmpty
  | .multipartText parts => !parts.isEmpty && parts.all (!·.isEmpty)

/-- The entry point a body belongs to; never `retry`. -/
def kind : Payload → RequestKind
  | .text _ => .text
  | .data _ _ => .data
  | .multipartText _ => .multipartText

def partCount : Payload → Nat
  | .text _ | .data _ _ => 1
  | .multipartText parts => parts.length

end Payload

end OutboundSms
