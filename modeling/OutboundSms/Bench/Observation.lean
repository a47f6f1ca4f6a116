import OutboundSms.Bench.Actions

/-!
# Observations

What can be seen of a bench, and what is new since it was last looked at.
-/

set_option autoImplicit false

namespace OutboundSms.Bench

/-- The new entries in the log of one transport. -/
inductive SendNews where
  | records (entries : List SendRecord)
  | submissions (entries : List TimedSubmission)

def SendNews.isEmpty : SendNews → Bool
  | records entries => entries.isEmpty
  | submissions entries => entries.isEmpty

/-- What can be seen of one connection. -/
structure ConversationView where
  requests : Nat
  finishes : Nat
  awaited : Bool
  deriving DecidableEq, Repr

structure ResolverView where
  calls : Nat
  connections : List ConversationView
  deriving DecidableEq, Repr

/-- The connection of one class and the requests that wait for it. -/
structure HolderView where
  connection : ConnectionId
  pending : List PendingRequest
  deriving DecidableEq, Repr

/-- What is new on a bench, and how it stands. `emergency` has the new entries of
the log and the number of all messages received. -/
structure Observation where
  time : Nat
  events : List DispatchEvent
  sends : List (Slot × SendNews)
  receipts : List Receipt
  emergency : Option EmergencyLog
  resolvers : List ResolverView
  snapshot : Except DispatchError ControllerSnapshot
  queued : Nat
  normal : Option HolderView
  emergencyClass : Option HolderView
  stopped : Bool

def slots : List Slot :=
  [.ps, .cs .threeGpp, .cs .threeGpp2]

def sendNews (earlier later : Transport) : SendNews :=
  match earlier.device, later.device with
  | .recorder before, .recorder after =>
      .records (after.records.drop before.records.length)
  | .link before, .link after =>
      .submissions (after.submissions.drop before.submissions.length)
  | _, .recorder after => .records after.records
  | _, .link after => .submissions after.submissions

def observed (bench : Bench) : List DispatchEvent :=
  (bench.observer.bind bench.service.events.unread?).getD []

/-- The receipts after the first `seen` that somebody still waited for, in the
order in which they are shown. -/
def newReceipts (seen : Nat) (bench : Bench) : List Receipt :=
  ((bench.receipts.drop seen).filter fun receipt => bench.isAwaited receipt.ticket).mergeSort
    Receipt.precedes

/-- The entries of an emergency log that another one has beyond it. -/
def EmergencyLog.since (earlier later : EmergencyLog) : EmergencyLog where
  opened := later.opened.drop earlier.opened.length
  closed := later.closed.drop earlier.closed.length
  received := later.received

def Conversation.view (conversation : Conversation) : ConversationView where
  requests := 1
  finishes := conversation.finishes
  awaited := conversation.isAwaited

def Resolver.view (resolver : Resolver) : ResolverView where
  calls := resolver.calls
  connections := resolver.conversations.map Conversation.view

def holderView (holder : ConnectionHolder) : Option HolderView :=
  holder.connectionId.map fun connection => { connection, pending := holder.pending }

def observation (earlier later : Bench) : Observation where
  time := later.agenda.clock
  events := later.observed.drop earlier.observed.length
  sends := (slots.map fun slot =>
    (slot, sendNews (earlier.transport slot) (later.transport slot))).filter (!·.2.isEmpty)
  receipts := later.newReceipts earlier.receipts.length
  emergency := later.emergencyLog.map fun log =>
    (earlier.emergencyLog.getD {}).since log
  resolvers := later.resolvers.map Resolver.view
  snapshot :=
    if later.service.running then .ok later.service.controller.snapshot
    else .error .serviceStopped
  queued := later.service.commands.length
  normal := holderView later.service.controller.normal
  emergencyClass := holderView later.service.controller.emergency
  stopped := !later.service.running

end OutboundSms.Bench
