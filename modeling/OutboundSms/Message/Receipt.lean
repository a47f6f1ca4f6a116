import OutboundSms.Message.Tracker

/-!
# Receipts

What becomes of the callbacks of a message, as its sender sees it. Each callback
ends in exactly one receipt: it is answered, or given up by whoever held it.
-/

set_option autoImplicit false

namespace OutboundSms

/-- The end of one callback of the message a ticket names. -/
inductive Receipt where
  | sent (ticket : Ticket) (result : SendResult)
  | sentDropped (ticket : Ticket)
  | delivered (ticket : Ticket) (report : DeliveryReport)
  | deliveryDropped (ticket : Ticket)
  deriving DecidableEq, Repr

namespace Receipt

def ticket : Receipt → Ticket
  | sent ticket _ | sentDropped ticket | delivered ticket _ | deliveryDropped ticket => ticket

/-- Whether the receipt ends a delivery callback rather than a sent callback. -/
def endsDelivery : Receipt → Bool
  | sent _ _ | sentDropped _ => false
  | delivered _ _ | deliveryDropped _ => true

/-- The order in which receipts are shown: by ticket, and a message's sent
callback before its delivery callback. -/
def precedes (left right : Receipt) : Bool :=
  left.ticket < right.ticket ||
    (left.ticket == right.ticket && (!left.endsDelivery || right.endsDelivery))

end Receipt

/-- The receipts of a request that is given up before it has a tracker. -/
def SendRequest.discard (request : SendRequest) : List Receipt :=
  (if request.reportsSent then [.sentDropped request.ticket] else []) ++
    (if request.reportsDelivery then [.deliveryDropped request.ticket] else [])

/-- The receipts of a tracker that is given up. -/
def Tracker.discard (tracker : Tracker) : List Receipt :=
  (if tracker.awaitsSent then [.sentDropped tracker.ticket] else []) ++
    (if tracker.awaitsDelivery then [.deliveryDropped tracker.ticket] else [])

/-- The receipts of a tracker that ends with a result. A delivery callback it
still holds is given up. -/
def Tracker.finish (tracker : Tracker) (result : SendResult) : List Receipt :=
  (if tracker.awaitsSent then [.sent tracker.ticket result] else []) ++
    (if tracker.awaitsDelivery then [.deliveryDropped tracker.ticket] else [])

/-- The receipt of a status report handed to the callback it belongs to. -/
def StatusCallback.deliver (callback : StatusCallback) (report : DeliveryReport) : Receipt :=
  .delivered callback.ticket report

/-- The receipt of a delivery callback that is given up. -/
def StatusCallback.discard (callback : StatusCallback) : Receipt :=
  .deliveryDropped callback.ticket

end OutboundSms
