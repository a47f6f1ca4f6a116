import OutboundSms.Selection.Holder

/-!
# A holder on the bench

A connection holder by itself, with the finish calls that its connections have had
and the tasks that were attached to it.
-/

set_option autoImplicit false

namespace OutboundSms.Bench

/-- `waiters` tells of each task attached so far whether it is alive. A task never
ends by itself. -/
structure HolderTrial where
  holder : ConnectionHolder
  finished : Nat := 0
  waiters : List Bool := []

namespace HolderTrial

def stop (waiter : Option WaiterId) (trial : HolderTrial) : HolderTrial :=
  match waiter with
  | some waiter => { trial with waiters := trial.waiters.set waiter false }
  | none => trial

def setConnection (id : ConnectionId) (trial : HolderTrial) : HolderTrial :=
  { trial with holder := trial.holder.setConnection id }

def setWaiter (trial : HolderTrial) : HolderTrial :=
  let (holder, orphan) := trial.holder.setWaiter trial.waiters.length
  { trial with holder, waiters := trial.waiters ++ [true] }.stop orphan

def enqueue (kind : RequestKind) (request : SendRequest) (trial : HolderTrial) : HolderTrial :=
  let tracker := Tracker.ofRequest request trial.holder.trafficClass.isEmergency
  { trial with holder := trial.holder.enqueue { kind, tracker, queuedAt := 0 } }

def takePending (trial : HolderTrial) : HolderTrial :=
  { trial with holder := trial.holder.takePending }

def finish (trial : HolderTrial) : HolderTrial :=
  if trial.holder.active.isSome then { trial with finished := trial.finished + 1 } else trial

def clear (trial : HolderTrial) : HolderTrial :=
  let (holder, waiter) := trial.holder.clear
  { trial with holder }.stop waiter

end HolderTrial

end OutboundSms.Bench
