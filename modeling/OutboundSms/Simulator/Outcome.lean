import OutboundSms.Format.Configuration

/-!
# Outcomes of a simulation
-/

set_option autoImplicit false

namespace OutboundSms

/-- How a message ended: refused at its entry point, completed, or given up. A
completed message has no delivery where no status report was registered for it. -/
inductive Resolution where
  | rejected (text : String)
  | completed (result : SendResult) (delivered : Option Bool)
  | dropped
  deriving DecidableEq, Repr

structure MessageOutcome where
  messageId : UInt64
  destination : String
  resolution : Resolution
  deriving DecidableEq, Repr

open Format

def Resolution.written : Resolution → Written
  | rejected text => .choiceOf "Rejected" (.text text)
  | completed result delivered =>
      .choiceWith "Completed"
        [("result", result.written), ("delivered", Written.optional .bool delivered)]
  | dropped => .choice "Dropped"

def MessageOutcome.written (outcome : MessageOutcome) : Written :=
  .record
    [("message_id", .natural outcome.messageId.toNat),
      ("destination", .text outcome.destination),
      ("resolution", outcome.resolution.written)]

end OutboundSms
