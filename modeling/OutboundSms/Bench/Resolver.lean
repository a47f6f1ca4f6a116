import OutboundSms.Selection.Connection
import OutboundSms.Selection.Decision
import OutboundSms.Message.Error

/-!
# Resolvers on the bench

A resolver that can be watched and directed: it answers requests for connections
in the way it is set to, and its selections are decided by hand or by a script.
-/

set_option autoImplicit false

namespace OutboundSms.Bench

/-- Whether a selection can be answered: it never was issued, its answer is still
to be given, or the answer has been given. -/
inductive AnswerState where
  | unissued
  | open
  | given (result : Except SelectionError Domain)

/-- Where the task stands that waits for an answer. `scheduled` means that it
runs next time tasks run, and `parked` that something has to wake it. -/
inductive WaiterState where
  | absent
  | scheduled
  | parked
  | ended
  deriving DecidableEq, Repr

/-- One connection that a resolver handed out, with the selection requested on it.
A waiter told to stop is `stopping`, and ends when it next runs. -/
structure Conversation where
  connection : ConnectionId
  trafficClass : TrafficClass
  attributes : SelectionAttributes
  answer : AnswerState
  script : Option ResolverScript := none
  finishes : Nat := 0
  waiter : WaiterState := .absent
  stopping : Bool := false

namespace Conversation

def isAttended (conversation : Conversation) : Bool :=
  match conversation.waiter with
  | .scheduled | .parked => true
  | .absent | .ended => false

/-- Whether an answer can be given and something still waits for it. -/
def isAwaited (conversation : Conversation) : Bool :=
  match conversation.answer with
  | .open => conversation.isAttended
  | .unissued | .given _ => false

/-- Puts the waiter on the list of what is to run, if it is parked. -/
def wake (conversation : Conversation) : Conversation :=
  match conversation.waiter with
  | .parked => { conversation with waiter := .scheduled }
  | .absent | .scheduled | .ended => conversation

end Conversation

/-- A resolver: how it answers, how often it was asked, and the connections it
handed out, oldest first. With a script its selections decide themselves. -/
structure Resolver where
  mode : ConnectAnswer := .issued
  script : Option ResolverScript := none
  calls : Nat := 0
  conversations : List Conversation := []

namespace Resolver

def connect (resolver : Resolver) : ConnectAnswer :=
  match resolver.script with
  | some script => if script.connects .sms then resolver.mode else .refused
  | none => resolver.mode

def addConversation (trafficClass : TrafficClass) (connection : ConnectionId)
    (attributes : SelectionAttributes) (resolver : Resolver) : Resolver :=
  let conversation : Conversation :=
    { connection, trafficClass, attributes
      answer := match resolver.mode with
        | .issued => .open
        | .refused | .unissued => .unissued
      script := resolver.script }
  { resolver with conversations := resolver.conversations ++ [conversation] }

def conversation? (resolver : Resolver) (connection : ConnectionId) : Option Conversation :=
  resolver.conversations.find? (·.connection == connection)

def modify (connection : ConnectionId) (change : Conversation → Conversation)
    (resolver : Resolver) : Resolver :=
  { resolver with
    conversations := resolver.conversations.map fun conversation =>
      if conversation.connection == connection then change conversation else conversation }

/-- The place counted from 0 among the connections handed out, or the latest one. -/
def pick (resolver : Resolver) (index : Option Nat) : Option Conversation :=
  match index with
  | some index => resolver.conversations[index]?
  | none => resolver.conversations.getLast?

end Resolver

end OutboundSms.Bench
