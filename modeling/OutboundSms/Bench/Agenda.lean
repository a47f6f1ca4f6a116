/-!
# Agendas

A virtual clock with the jobs that are ready to run and those that wait for a
time. Ready jobs run first come, first served. The clock moves only when it is
told to, and the waits that end at one time end in the order in which they began.
-/

set_option autoImplicit false

namespace OutboundSms.Bench

/-- A job that first waits for `delay` milliseconds once it runs. -/
structure Job (α : Type) where
  delay : Nat := 0
  work : α
  deriving Repr

/-- A job that waits until a time. -/
structure Timer (α : Type) where
  deadline : Nat
  work : α
  deriving Repr

/-- The clock shows milliseconds. `ready` is in the order in which jobs became
ready and `timers` in the order in which the waits began. -/
structure Agenda (α : Type) where
  clock : Nat := 0
  ready : List (Job α) := []
  timers : List (Timer α) := []
  deriving Repr

namespace Agenda

variable {α : Type}

instance : Inhabited (Agenda α) := ⟨{}⟩

def start (delay : Nat) (work : α) (agenda : Agenda α) : Agenda α :=
  { agenda with ready := agenda.ready ++ [{ delay, work }] }

def wait (delay : Nat) (work : α) (agenda : Agenda α) : Agenda α :=
  { agenda with timers := agenda.timers ++ [{ deadline := agenda.clock + delay, work }] }

def takeReady (agenda : Agenda α) : Option (Job α × Agenda α) :=
  match agenda.ready with
  | [] => none
  | job :: rest => some (job, { agenda with ready := rest })

def nextDeadline? (agenda : Agenda α) : Option Nat :=
  (agenda.timers.map (·.deadline)).min?

/-- Moves the clock to a time and makes the jobs ready whose waits are over. -/
def advanceTo (time : Nat) (agenda : Agenda α) : Agenda α :=
  { clock := time
    ready := agenda.ready ++
      (agenda.timers.filter (·.deadline ≤ time)).map fun timer => { work := timer.work }
    timers := agenda.timers.filter (time < ·.deadline) }

def size (agenda : Agenda α) : Nat :=
  agenda.ready.length + agenda.timers.length

end Agenda

end OutboundSms.Bench
