import OutboundSms.Bench.Basic

/-!
# Running the bench

One elementary step at a time: a command is applied, a task runs, or the clock
moves on to the next time that something waits for. `workload` bounds the number
of steps there can be before the bench comes to rest, because what a step takes up
again it has taken from a script, a queue or a wait.
-/

set_option autoImplicit false

namespace OutboundSms.Bench

/-! ### Tasks -/

/-- Ends the service: the commands in the queue and the messages that wait for a
domain are given up. Waiters and transports go on. -/
def stopService (bench : Bench) : Bench :=
  { bench with service := bench.service.stop, handling := false }.receive
    bench.service.unfinished

/-- The task of the service: it ends if it has been told to stop, whatever is in
its queue. -/
def runServe (bench : Bench) : Bench :=
  if bench.stopping then bench.stopService else { bench with handling := true }

def endWaiter (connection : ConnectionId) (bench : Bench) : Bench :=
  bench.modifyConversation connection fun conversation =>
    { conversation with waiter := .ended }

def passOn (conversation : Conversation) (result : Except SelectionError Domain)
    (bench : Bench) : Bench :=
  let connection := conversation.connection
  (bench.endWaiter connection).post
    (.selectionCompleted conversation.trafficClass connection result)

def parkWaiter (connection : ConnectionId) (bench : Bench) : Bench :=
  bench.modifyConversation connection fun conversation =>
    { conversation with waiter := .parked }

def scriptedAnswer? (script : ResolverScript) : Option (Except SelectionError Domain) :=
  match script.decision with
  | .select domain => some (.ok domain)
  | .fail reason => some (.error (.failed reason))
  | .terminate _ => none

def runDecide (connection : ConnectionId) (result : Except SelectionError Domain)
    (bench : Bench) : Bench :=
  match bench.conversation? connection with
  | some conversation =>
      if conversation.isAttended && !conversation.stopping then bench.passOn conversation result
      else bench.endWaiter connection
  | none => bench

def awaitScript (connection : ConnectionId) (script : ResolverScript) (bench : Bench) : Bench :=
  let bench := bench.parkWaiter connection
  match scriptedAnswer? script with
  | some result =>
      if script.latencyMs = 0 then bench.runDecide connection result
      else
        { bench with
          agenda := bench.agenda.wait script.latencyMs.toNat (.decide connection result) }
  | none => bench

def runAwaitDecision (connection : ConnectionId) (bench : Bench) : Bench :=
  match bench.conversation? connection with
  | some conversation =>
      if conversation.stopping then bench.endWaiter connection
      else
        match conversation.answer, conversation.script with
        | .given result, _ => bench.passOn conversation result
        | _, some script => bench.awaitScript connection script
        | _, none => bench.parkWaiter connection
  | none => bench

def registerCallback (slot : Slot) (callback : StatusCallback) (bench : Bench) : Bench :=
  match (bench.transport slot).device with
  | .recorder _ => bench.receive [callback.discard]
  | .link link =>
      match link.reports with
      | .keep =>
          bench.setDevice slot (.link { link with callbacks := link.callbacks ++ [some callback] })
      | .discard => bench.receive [callback.discard]
      | .confirm latency => bench.start latency (.confirm callback)

/-- Goes on with a message on a link transport until it has its outcome or a wait
begins. -/
def runProceed (slot : Slot) (stage : LinkStage) (bench : Bench) : Bench :=
  let transport := bench.transport slot
  match transport.device with
  | .recorder _ => bench.receive stage.tracker.discard
  | .link link =>
      let (link, pause) :=
        stage.proceed bench.agenda.clock transport.domain transport.format link.policy link
      let bench := bench.setDevice slot (.link link)
      match pause with
      | .finished tracker outcome registers =>
          let bench := match registers with
            | some callback => bench.registerCallback slot callback
            | none => bench
          bench.post (.outcome tracker transport.domain outcome)
      | .waiting delay stage =>
          { bench with agenda := bench.agenda.wait delay (.proceed slot stage) }

def isAwaited (ticket : Ticket) (bench : Bench) : Bool :=
  !bench.abandoned.contains ticket

/-- Hands a status report to a delivery callback. Nothing arrives where nobody
waits for it. -/
def deliver (callback : StatusCallback) (delivered : Bool) (status : UInt32)
    (bench : Bench) : Bench :=
  if bench.isAwaited callback.ticket then
    bench.receive [callback.deliver { messageRef := callback.messageRef, delivered, status }]
  else bench

def run (errand : Errand) (bench : Bench) : Bench :=
  match errand with
  | .serve => bench.runServe
  | .awaitDecision connection => bench.runAwaitDecision connection
  | .decide connection result => bench.runDecide connection result
  | .proceed slot stage => bench.runProceed slot stage
  | .post command => bench.post command
  | .confirm callback => bench.deliver callback true 0

/-- Runs a job: its wait begins, or its task runs at once if there is none. -/
def runJob (job : Job Errand) (bench : Bench) : Bench :=
  if job.delay = 0 then bench.run job.work
  else { bench with agenda := bench.agenda.wait job.delay job.work }

/-! ### Steps -/

/-- How far the bench goes by itself: whether the commands in the queue of a
controller driven by hand are applied, and the times that the clock may reach. -/
structure Extent where
  appliesCommands : Bool
  mayReach : Nat → Bool

namespace Extent

def tasks : Extent :=
  { appliesCommands := false, mayReach := fun _ => false }

def present : Extent :=
  { appliesCommands := true, mayReach := fun _ => false }

def upTo (time : Nat) : Extent :=
  { appliesCommands := true, mayReach := (· ≤ time) }

def all : Extent :=
  { appliesCommands := true, mayReach := fun _ => true }

end Extent

/-- Moves the clock on to the next time that something waits for. -/
def moveClock? (extent : Extent) (bench : Bench) : Option Bench :=
  match bench.agenda.nextDeadline? with
  | some deadline =>
      if extent.mayReach deadline then
        some { bench with agenda := bench.agenda.advanceTo deadline }
      else none
  | none => none

def stepTasks? (extent : Extent) (bench : Bench) : Option Bench :=
  match bench.agenda.takeReady with
  | some (job, agenda) => some ({ bench with agenda }.runJob job)
  | none =>
      if bench.operation = .byHand && extent.appliesCommands && !bench.service.commands.isEmpty then
        some { bench with handling := true }
      else bench.moveClock? extent

/-- Takes one step, or none when the bench has come to rest. -/
def step? (extent : Extent) (bench : Bench) : Option Bench :=
  if bench.handling then
    match bench.applyNext with
    | some (_, bench) => some bench
    | none => some { bench with handling := false }
  else bench.stepTasks? extent

/-- Takes steps until the bench comes to rest, at most so many. -/
def iterate (extent : Extent) : Nat → Bench → Bench
  | 0, bench => bench
  | room + 1, bench =>
      match bench.step? extent with
      | some bench => bench.iterate extent room
      | none => bench

/-- The things on the bench that can still lead to a step. -/
def openMatters (bench : Bench) : Nat :=
  bench.agenda.size + bench.service.commands.length +
    bench.service.controller.normal.pending.length +
    bench.service.controller.emergency.pending.length +
    bench.ps.scriptLength + bench.cs3gpp.scriptLength + bench.cs3gpp2.scriptLength +
    (bench.resolvers.flatMap (·.conversations)).length

/-- More steps than the bench can take before it comes to rest. -/
def workload (bench : Bench) : Nat :=
  64 * (bench.openMatters + 1)

def runThrough (extent : Extent) (bench : Bench) : Bench :=
  bench.iterate extent bench.workload

def settle (bench : Bench) : Bench :=
  bench.runThrough .present

def pass (milliseconds : Nat) (bench : Bench) : Bench :=
  let target := bench.agenda.clock + milliseconds
  let bench := bench.runThrough (.upTo target)
  { bench with agenda := bench.agenda.advanceTo target }.settle

end OutboundSms.Bench
