import OutboundSms.Message.Tracker
import OutboundSms.Selection.Connection

/-!
# Connection holders

Each traffic class has one holder. It owns the single outstanding selection of
its class and the requests queued behind that selection.
-/

set_option autoImplicit false

namespace OutboundSms

/-- A request that waits for a domain decision, and when it was queued, in
milliseconds. -/
structure PendingRequest where
  kind : RequestKind
  tracker : Tracker
  queuedAt : Nat
  deriving DecidableEq, Repr

/-- Names a task that waits for a connection's decision. -/
abbrev WaiterId := Nat

/-- The connection a holder owns and the task that waits for its decision. -/
structure ActiveConnection where
  id : ConnectionId
  waiter : Option WaiterId := none
  deriving DecidableEq, Repr

inductive HolderState where
  | idle
  | selecting
  deriving DecidableEq, Repr

/-- The selection of one traffic class. The connection, the flag and the queue
are set by separate operations; a controller keeps them in agreement. -/
structure ConnectionHolder where
  trafficClass : TrafficClass
  active : Option ActiveConnection := none
  requested : Bool := false
  pending : List PendingRequest := []
  deriving DecidableEq, Repr

namespace ConnectionHolder

def connectionId (holder : ConnectionHolder) : Option ConnectionId :=
  holder.active.map (·.id)

def isCurrent (holder : ConnectionHolder) (id : ConnectionId) : Bool :=
  holder.connectionId == some id

def state (holder : ConnectionHolder) : HolderState :=
  if holder.requested then .selecting else .idle

/-- Whether no connection is held, as is to be the case where one is taken. -/
def isVacant (holder : ConnectionHolder) : Bool :=
  holder.active.isNone

/-- Whether nothing is queued, as is to be the case where the connection is let go. -/
def isDrained (holder : ConnectionHolder) : Bool :=
  holder.pending.isEmpty

/-- Takes a fresh connection. Any earlier one is to have been cleared. -/
def setConnection (holder : ConnectionHolder) (id : ConnectionId) : ConnectionHolder :=
  { holder with active := some { id }, requested := true }

/-- Attaches the task that waits for the decision. Without a connection there is
nothing to wait for, and the task is given back to be stopped at once. -/
def setWaiter (holder : ConnectionHolder) (waiter : WaiterId) :
    ConnectionHolder × Option WaiterId :=
  match holder.active with
  | some active => ({ holder with active := some { active with waiter := some waiter } }, none)
  | none => (holder, some waiter)

def enqueue (holder : ConnectionHolder) (request : PendingRequest) : ConnectionHolder :=
  { holder with pending := holder.pending ++ [request] }

/-- Empties the queue. What was in it, oldest first, is `pending`. -/
def takePending (holder : ConnectionHolder) : ConnectionHolder :=
  { holder with pending := [] }

@[simp] theorem connectionId_takePending (holder : ConnectionHolder) :
    holder.takePending.connectionId = holder.connectionId := rfl

@[simp] theorem isDrained_takePending (holder : ConnectionHolder) :
    holder.takePending.isDrained = true := rfl

/-- Lets go of the connection. The task that waited for it, if there was one, is
given back to be stopped. The queue is to have been taken before. -/
def clear (holder : ConnectionHolder) : ConnectionHolder × Option WaiterId :=
  ({ holder with active := none, requested := false }, holder.active.bind (·.waiter))

end ConnectionHolder

end OutboundSms
