import OutboundSms.Message.Receipt

/-!
# A tracker on the bench

A tracker by itself, whose delivery callback can be taken from it and answered
separately.
-/

set_option autoImplicit false

namespace OutboundSms.Bench

/-- A tracker until it ends, and its receipts. `kept` holds while the delivery
callback is in other hands. -/
structure Custody where
  tracker : Option Tracker
  kept : Bool := false
  receipts : List Receipt := []

namespace Custody

def update (change : Tracker → Tracker) (custody : Custody) : Custody :=
  { custody with tracker := custody.tracker.map change }

def holdsDelivery (custody : Custody) : Bool :=
  (custody.tracker.map (·.awaitsDelivery)).getD false

def takeDelivery (custody : Custody) : Custody :=
  { custody.update Tracker.releaseDelivery with kept := custody.kept || custody.holdsDelivery }

/-- Sends a status report on the callback that was taken from the message of a
ticket. -/
def deliver (ticket : Ticket) (report : DeliveryReport) (custody : Custody) : Custody :=
  { custody with
    kept := false
    receipts := custody.receipts ++ [.delivered ticket report] }

def conclude (finish : Tracker → List Receipt) (custody : Custody) : Custody :=
  { custody with
    tracker := none
    receipts := custody.receipts ++ (custody.tracker.map finish).getD [] }

end Custody

/-- What a callback shows of the receipts since it was last looked at. -/
inductive CallbackView where
  | waiting
  | arrived (receipt : Receipt)
  | over
  deriving DecidableEq, Repr

/-- The view of one callback. A value is shown once; after it, and after the
callback was given up, nothing more can arrive. -/
def callbackView (endsDelivery : Bool) (old new : List Receipt) : CallbackView :=
  let mine := fun (receipt : Receipt) => receipt.endsDelivery == endsDelivery
  match new.filter mine, old.filter mine with
  | .sent ticket result :: _, _ => .arrived (.sent ticket result)
  | .delivered ticket report :: _, _ => .arrived (.delivered ticket report)
  | [], [] => .waiting
  | _, _ => .over

end OutboundSms.Bench
