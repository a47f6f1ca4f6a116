import OutboundSms.Controller.Command
import OutboundSms.Format.Message
import OutboundSms.Format.Vocabulary
import OutboundSms.Message.Receipt
import OutboundSms.Transport.Link

/-!
# Written events, trackers and errors

How everything is written that is shown and never read back: events, snapshots,
trackers, submissions, receipts, and errors of the entry points.
-/

set_option autoImplicit false

namespace OutboundSms

open Format

def writtenRef (messageRef : Option UInt8) : Written :=
  Written.optional (fun number => .natural number.toNat) messageRef

def ConnectionId.written (id : ConnectionId) : Written :=
  .natural id.number.toNat

def DispatchEvent.written : DispatchEvent → Written
  | selectionRequested trafficClass connection =>
      .choiceWith "SelectionRequested"
        [("class", trafficClass.written), ("connection", connection.written)]
  | selectionCompleted trafficClass connection domain =>
      .choiceWith "SelectionCompleted"
        [("class", trafficClass.written), ("connection", connection.written),
          ("domain", Written.optional Domain.written domain)]
  | selectionTerminated trafficClass connection cause =>
      .choiceWith "SelectionTerminated"
        [("class", trafficClass.written), ("connection", connection.written),
          ("cause", .natural cause.toNat)]
  | dispatched messageId messageRef domain =>
      .choiceWith "Dispatched"
        [("message_id", .natural messageId.toNat), ("message_ref", writtenRef messageRef),
          ("domain", domain.written)]
  | fellBack messageId messageRef =>
      .choiceWith "FellBack"
        [("message_id", .natural messageId.toNat), ("message_ref", writtenRef messageRef)]
  | completed messageId result =>
      .choiceWith "Completed"
        [("message_id", .natural messageId.toNat), ("result", result.written)]

def ControllerSnapshot.written (snapshot : ControllerSnapshot) : Written :=
  .record
    [("domain_selection_supported", .bool snapshot.domainSelectionSupported),
      ("normal_pending", .natural snapshot.normalPending),
      ("emergency_pending", .natural snapshot.emergencyPending),
      ("normal_selecting", .bool snapshot.normalSelecting),
      ("emergency_selecting", .bool snapshot.emergencySelecting),
      ("next_message_ref", .natural snapshot.nextMessageRef.toNat)]

def Tracker.written (tracker : Tracker) : Written :=
  .record
    [("destination", .text tracker.destination),
      ("service_center", Written.optional .text tracker.serviceCenter),
      ("payload", tracker.payload.written),
      ("options", tracker.options.written),
      ("message_id", .natural tracker.messageId.toNat),
      ("emergency", .bool tracker.emergency),
      ("class", tracker.trafficClass.written),
      ("message_ref", writtenRef tracker.messageRef),
      ("retry_count", .natural tracker.retryCount.toNat),
      ("used_ims", .bool tracker.usedIms),
      ("last_domain", Written.optional Domain.written tracker.lastDomain),
      ("first_dispatch", .bool tracker.isFirstDispatch)]

/-- The fields of a submission, without the time at which it began. -/
def Submission.fields (submission : Submission) : List (String × Written) :=
  [("destination", .text submission.destination),
    ("service_center", Written.optional .text submission.serviceCenter),
    ("payload", submission.payload.written),
    ("message_ref", writtenRef submission.messageRef),
    ("is_retry", .bool submission.isRetry),
    ("is_emergency", .bool submission.isEmergency),
    ("format", submission.format.written),
    ("priority", writtenRef submission.priority),
    ("validity_period_mins",
      Written.optional (fun minutes => .natural minutes.toNat) submission.validityPeriodMins),
    ("expect_more", .bool submission.expectMore)]

def Receipt.written : Receipt → Written
  | sent ticket result => .record [("msg", .natural ticket), ("sent", result.written)]
  | sentDropped ticket => .record [("msg", .natural ticket), ("sent", .text "dropped")]
  | delivered ticket report => .record [("msg", .natural ticket), ("delivered", report.written)]
  | deliveryDropped ticket => .record [("msg", .natural ticket), ("delivered", .text "dropped")]

def SelectionAttributes.written (attributes : SelectionAttributes) : Written :=
  .record
    [("selector_type", .text attributes.selectorType.name),
      ("is_emergency", .bool attributes.emergency),
      ("destination", .text attributes.destination),
      ("message_id", .natural attributes.messageId.toNat)]

def DispatchError.name : DispatchError → String
  | rejected .emptyDestination => "EmptyDestination"
  | rejected .emptyPayload => "EmptyPayload"
  | rejected (.payloadMismatch _ _) => "PayloadMismatch"
  | rejected .storageUnavailable => "StorageUnavailable"
  | serviceUnavailable _ => "ServiceUnavailable"

def DispatchError.written (error : DispatchError) : Written :=
  .record
    [("error", .text error.name), ("message", .text error.message),
      ("rejected", .bool error.isRejected), ("system", .bool error.isSystem),
      ("code", error.resultCode.written)]

end OutboundSms
