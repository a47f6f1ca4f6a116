import OutboundSms.Bench.Observation
import OutboundSms.Format.Event

/-!
# Written observations

What is shown of an observation. Parts with nothing new in them are left out.
-/

set_option autoImplicit false

namespace OutboundSms.Bench

open Format

def SendRecord.written (record : SendRecord) : Written :=
  .record
    [("message_id", .natural record.messageId.toNat), ("destination", .text record.destination),
      ("message_ref", writtenRef record.messageRef),
      ("retry_count", .natural record.retryCount.toNat), ("emergency", .bool record.emergency)]

def TimedSubmission.written (entry : TimedSubmission) : Written :=
  .record (("at", .natural entry.time) :: entry.submission.fields)

def SendNews.written : SendNews → Written
  | records entries => Written.listOf SendRecord.written entries
  | submissions entries => Written.listOf TimedSubmission.written entries

def slotName : Slot → String
  | .ps => "ps"
  | .cs .threeGpp => "cs_3gpp"
  | .cs .threeGpp2 => "cs_3gpp2"

def ClosedSession.written (session : ClosedSession) : Written :=
  .record
    [("message_id", .natural session.messageId.toNat), ("success", .bool session.success),
      ("domain", session.domain.written), ("is_last_part", .bool session.isLastPart)]

def writtenOpening (session : String × Bool) : Written :=
  .record [("destination", .text session.1), ("over_ims", .bool session.2)]

def ConversationView.written (view : ConversationView) : Written :=
  .list [.natural view.requests, .natural view.finishes, .bool view.awaited]

def ResolverView.written (view : ResolverView) : Written :=
  .record
    [("calls", .natural view.calls),
      ("connections", Written.listOf ConversationView.written view.connections)]

/-- The kind, the message and the time of a request in a queue. -/
def writtenPending (request : PendingRequest) : Written :=
  .list [request.kind.written, .natural request.tracker.messageId.toNat,
    .natural request.queuedAt]

def HolderView.written (view : HolderView) : Written :=
  .record
    [("connection", view.connection.written),
      ("pending", Written.listOf writtenPending view.pending)]

def unlessEmpty {α : Type} (name : String) (write : α → Written) (items : List α) :
    List (String × Written) :=
  if items.isEmpty then [] else [(name, Written.listOf write items)]

def ifThere (name : String) (view : Option HolderView) : List (String × Written) :=
  (view.map fun view => (name, view.written)).toList

def EmergencyLog.fields (log : EmergencyLog) : List (String × Written) :=
  unlessEmpty "started" writtenOpening log.opened ++
    unlessEmpty "ended" ClosedSession.written log.closed ++
    [("received", .natural log.received)]

def writtenSends (sends : List (Slot × SendNews)) : List (String × Written) :=
  if sends.isEmpty then []
  else [("sends", .record (sends.map fun (slot, news) => (slotName slot, news.written)))]

def writtenSnapshot : Except DispatchError ControllerSnapshot → Written
  | .ok snapshot => snapshot.written
  | .error error => error.written

namespace Observation

/-- What is shown of the commands: their queue and the selections when they are
applied by hand, and otherwise whether the service has stopped. -/
def stateFields (operation : Operation) (observation : Observation) : List (String × Written) :=
  match operation with
  | .byHand =>
      [("queued", .natural observation.queued)] ++ ifThere "normal" observation.normal ++
        ifThere "emergency" observation.emergencyClass
  | .byService => [("stopped", .bool observation.stopped)]

def fields (operation : Operation) (observation : Observation) : List (String × Written) :=
  [("at", .natural observation.time)] ++
    unlessEmpty "events" DispatchEvent.written observation.events ++
    writtenSends observation.sends ++
    unlessEmpty "results" Receipt.written observation.receipts ++
    ((observation.emergency.map EmergencyLog.fields).getD []) ++
    [("resolvers", Written.listOf ResolverView.written observation.resolvers),
      ("snap", writtenSnapshot observation.snapshot)] ++
    observation.stateFields operation

end Observation

end OutboundSms.Bench
