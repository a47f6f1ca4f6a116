import OutboundSms.Domain
import OutboundSms.Message.Request
import OutboundSms.ResultCode

/-!
# Trackers

The record of one outbound message and of its delivery so far. A tracker is
never duplicated: at any time one party holds it, be it a queue, a transport or
an outcome on its way back, until the message completes.
-/

set_option autoImplicit false

namespace OutboundSms

/-- The network's status report on a message, matched to it by wire reference.
`status` is the raw protocol status or cause code. -/
structure DeliveryReport where
  messageRef : UInt8
  delivered : Bool
  status : UInt32
  deriving DecidableEq, Repr

/-- The delivery callback of a message in the hands of a transport, with the wire
reference its status report will carry. -/
structure StatusCallback where
  ticket : Ticket
  messageRef : UInt8
  deriving DecidableEq, Repr

/-- One message. `awaitsSent` and `awaitsDelivery` say whether the tracker still
holds the sender's callback of that kind. -/
structure Tracker where
  ticket : Ticket
  destination : String
  serviceCenter : Option String
  payload : Payload
  options : SendOptions
  emergency : Bool
  messageRef : Option UInt8
  retryCount : UInt32
  usedIms : Bool
  lastDomain : Option Domain
  awaitsSent : Bool
  awaitsDelivery : Bool
  deriving DecidableEq, Repr

namespace Tracker

/-- The tracker of a request that has not been dispatched, with its options
brought into range. -/
def ofRequest (request : SendRequest) (emergency : Bool) : Tracker where
  ticket := request.ticket
  destination := request.destination
  serviceCenter := request.serviceCenter
  payload := request.payload
  options := request.options.normalised
  emergency
  messageRef := none
  retryCount := 0
  usedIms := false
  lastDomain := none
  awaitsSent := request.reportsSent
  awaitsDelivery := request.reportsDelivery

def messageId (tracker : Tracker) : UInt64 :=
  tracker.options.messageId

def trafficClass (tracker : Tracker) : TrafficClass :=
  .ofEmergency tracker.emergency

/-- Whether the message has never been handed to a transport. -/
def isFirstDispatch (tracker : Tracker) : Bool :=
  tracker.lastDomain.isNone

/-- Gives the message its wire reference. A reference that is there already
stays. -/
def assignRef (tracker : Tracker) (messageRef : UInt8) : Tracker :=
  { tracker with messageRef := tracker.messageRef.or (some messageRef) }

/-- Counts one more retry; the count stays at its greatest value once there. -/
def countRetry (tracker : Tracker) : Tracker :=
  { tracker with
    retryCount := if tracker.retryCount = 0xFFFFFFFF then tracker.retryCount
      else tracker.retryCount + 1 }

def countRetries (tracker : Tracker) (times : Nat) : Tracker :=
  { tracker with
    retryCount := UInt32.ofNat (min (tracker.retryCount.toNat + times) 0xFFFFFFFF) }

/-- Notes that the message is handed to a transport of `domain`. -/
def recordDispatch (tracker : Tracker) (domain : Domain) : Tracker :=
  { tracker with
    lastDomain := some domain
    usedIms := tracker.usedIms || domain.isPs }

/-- Hands the delivery callback over; the tracker holds none afterwards. -/
def releaseDelivery (tracker : Tracker) : Tracker :=
  { tracker with awaitsDelivery := false }

/-- The delivery callback for a transport that has had the message accepted. A
message without a reference cannot be matched to a report and keeps its callback. -/
def statusCallback? (tracker : Tracker) : Option StatusCallback :=
  if tracker.awaitsDelivery then
    tracker.messageRef.map fun messageRef => { ticket := tracker.ticket, messageRef }
  else none

def afterAcceptance (tracker : Tracker) : Tracker :=
  if tracker.statusCallback?.isSome then tracker.releaseDelivery else tracker

end Tracker

end OutboundSms
