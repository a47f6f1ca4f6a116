import OutboundSms.Proofs.Custody
import OutboundSms.Service
import Mathlib.Data.List.Induction

/-!
# Serving

A service among its callers and collaborators. Whoever holds a handle may call at any
time, the collaborators post what they have to report, the service takes a command off
its queue when it comes to it, and at some moment it may be told to stop. In whatever
order that happens, the service does what the controller alone would do with the
commands taken so far, one after another.
-/

set_option autoImplicit false

namespace OutboundSms

/-! ### Requests, commands and results -/

/-- A request that has passed its checks would pass them with storage available. -/
theorem SendRequest.admission_of_ok {request : SendRequest} {kind : RequestKind}
    {storageAvailable : Bool}
    (admitted : request.admission kind storageAvailable = .ok ()) :
    request.admission kind true = .ok () := by
  cases storageAvailable with
  | true => exact admitted
  | false =>
      unfold SendRequest.admission at admitted
      split at admitted <;> cases admitted

/-- A result reaches a sender exactly when the message is completed with it and the sender
waits for it. -/
theorem sent_mem_receipts {effects : List Effect} {ticket : Ticket} {result : SendResult} :
    .sent ticket result ∈ effects.flatMap Effect.receipts ↔ ∃ tracker,
      .complete tracker result ∈ effects ∧ tracker.awaitsSent = true ∧ tracker.ticket = ticket := by
  rw [List.mem_flatMap]
  constructor
  · rintro ⟨effect, member, sent⟩
    cases effect with
    | complete tracker given =>
        simp only [Effect.receipts, Tracker.finish, List.mem_append] at sent
        rcases sent with sent | dropped
        · split at sent
          next awaits =>
            obtain ⟨rfl, rfl⟩ := Receipt.sent.inj (List.mem_singleton.mp sent)
            exact ⟨tracker, member, awaits, rfl⟩
          next => cases sent
        · split at dropped <;> simp at dropped
    | _ => cases sent
  · rintro ⟨tracker, member, awaits, rfl⟩
    exact ⟨_, member, by simp [Effect.receipts, Tracker.finish, awaits]⟩

/-- To give something up tells nobody a result. -/
theorem Command.sent_not_mem_discard (command : Command) (ticket : Ticket) (result : SendResult) :
    .sent ticket result ∉ command.discard := by
  have of_tracker (tracker : Tracker) : .sent ticket result ∉ tracker.discard := by
    simp [Tracker.discard]
  cases command with
  | submit kind request => simp [Command.discard, SendRequest.discard]
  | retry tracker => exact of_tracker tracker
  | outcome tracker domain outcome => exact of_tracker tracker
  | _ => exact List.not_mem_nil

theorem Service.sent_not_mem_unfinished (service : Service) (ticket : Ticket)
    (result : SendResult) : .sent ticket result ∉ service.unfinished := by
  have of_tracker (tracker : Tracker) : .sent ticket result ∉ tracker.discard :=
    Command.sent_not_mem_discard (.retry tracker) ticket result
  simp only [Service.unfinished, List.mem_append, List.mem_flatMap, not_or, not_exists, not_and]
  exact ⟨⟨fun command _ => command.sent_not_mem_discard ticket result,
    fun tracker _ => of_tracker tracker⟩, fun tracker _ => of_tracker tracker⟩

theorem Service.post_eq (service : Service) (command : Command) :
    service.post command =
      if service.running then .ok { service with commands := service.commands ++ [command] }
      else .error .serviceStopped := rfl

namespace Controller

theorem handleAll_concat (controller : Controller) (inputs : List (Conditions × Command))
    (conditions : Conditions) (command : Command) :
    controller.handleAll (inputs ++ [(conditions, command)]) =
      let turn := (controller.handleAll inputs).1.handle conditions command
      (turn.1, (controller.handleAll inputs).2 ++ turn.2) := by
  induction inputs generalizing controller with
  | nil => simp [handleAll, followedBy]
  | cons input rest ih => simp [handleAll, followedBy, ih]

theorem send_of_admitted {request : SendRequest} {kind : RequestKind}
    (admitted : request.admission kind true = .ok ()) (conditions : Conditions)
    (controller : Controller) :
    controller.send conditions true kind request =
      .ok (controller.handle conditions (.submit kind request)) := by
  rw [Controller.send, admitted]
  rfl

end Controller

/-! ### Handles -/

/-- What can be asked of a handle. A `send` comes with the answer of the store of
messages. -/
inductive HandleCall where
  | send (storageAvailable : Bool) (kind : RequestKind) (request : SendRequest)
  | retry (tracker : Tracker)
  | reportInboundSms (address : String)
  | installResolver (resolver : Option ResolverId)
  | subscribe (awaited : Bool)
  | unsubscribe (subscription : Nat)
  | snapshot (awaited : Bool)

namespace HandleCall

def command : HandleCall → Command
  | send _ kind request => .submit kind request
  | retry tracker => .retry tracker
  | reportInboundSms address => .inboundSms address
  | installResolver resolver => .installResolver resolver
  | subscribe awaited => .subscribe awaited
  | unsubscribe subscription => .unsubscribe subscription
  | snapshot awaited => .snapshot awaited

/-- What is checked on the caller's side. -/
def admission : HandleCall → Except DispatchError Unit
  | send storageAvailable kind request => request.admission kind storageAvailable
  | _ => .ok ()

/-- The service once a call has returned, or the error that the call returns. -/
def on (service : Service) : HandleCall → Except DispatchError Service
  | send storageAvailable kind request => service.send storageAvailable kind request
  | call => service.post call.command

variable {call : HandleCall} {service after : Service}

/-- A call is checked first, and whatever passes is posted. -/
theorem on_eq (call : HandleCall) (service : Service) :
    call.on service = match call.admission with
      | .error error => .error error
      | .ok () => service.post call.command := by
  cases call <;> rfl

theorem on_eq_ok (accepted : call.on service = .ok after) :
    call.admission = .ok () ∧ service.running = true := by
  rw [call.on_eq] at accepted
  cases admission : call.admission with
  | error error => simp [admission] at accepted
  | ok =>
      cases running : service.running with
      | true => exact ⟨rfl, rfl⟩
      | false => simp [admission, Service.post_eq, running] at accepted

theorem on_stopped (stopped : service.running = false) (call : HandleCall) :
    call.on service = match call.admission with
      | .error error => .error error
      | .ok () => .error .serviceStopped := by
  rw [call.on_eq, Service.post_eq, if_neg (by simp [stopped])]

end HandleCall

/-! ### Everything that happens -/

/-- Something that happens to a service. -/
inductive ServiceEvent where
  /-- A caller makes a call on a handle. -/
  | call (caller : Nat) (call : HandleCall)
  /-- A transport or a selection posts what it has to report. -/
  | report (command : Command)
  /-- The service comes to the next command in the queue. -/
  | turn (conditions : Conditions)
  /-- The service stops. -/
  | shutdown

/-- A command in the order of arrival, with the caller it comes from if it comes from
one. -/
structure Posting where
  caller : Option Nat
  command : Command

/-- A service with all that has happened to it. `returned` lists the calls with what the
handle has made of them, `answered` the callers that have waited for the service with
what they got, and `receipts` all that the senders have learned. -/
structure ServiceRun where
  service : Service
  returned : List (Nat × HandleCall × Except DispatchError Unit) := []
  answered : List (Nat × Except DispatchError Unit) := []
  posted : List Posting := []
  applied : List (Conditions × Command) := []
  effects : List Effect := []
  receipts : List Receipt := []

/-- Whether somebody waits for what comes of the command. -/
def Command.asks : Command → Bool
  | .subscribe awaited | .snapshot awaited => awaited
  | _ => false

/-- The callers that wait for what comes of these postings. -/
def waitingIn (posted : List Posting) : List Nat :=
  posted.filterMap fun posting => if posting.command.asks then posting.caller else none

namespace ServiceRun

def start (config : DispatchConfig) (resolver : Option ResolverId) : ServiceRun where
  service := .new config resolver

/-- One event. A request or a tracker that is not taken in is given up by whoever has
brought it. What is unfinished when the service stops is given up by the service, and
whoever waits then is told so. -/
def next (run : ServiceRun) : ServiceEvent → ServiceRun
  | .call caller call =>
      match call.on run.service with
      | .ok service =>
          { run with
            service
            returned := run.returned ++ [(caller, call, .ok ())]
            posted := run.posted ++ [{ caller, command := call.command }] }
      | .error error =>
          { run with
            returned := run.returned ++ [(caller, call, .error error)]
            receipts := run.receipts ++ call.command.discard }
  | .report command =>
      match run.service.post command with
      | .ok service =>
          { run with service, posted := run.posted ++ [{ caller := none, command }] }
      | .error _ => { run with receipts := run.receipts ++ command.discard }
  | .turn conditions =>
      match run.service.applyNext conditions with
      | none => run
      | some (command, service, effects) =>
          { run with
            service
            answered := run.answered ++
              (waitingIn run.posted[run.applied.length]?.toList).map (·, .ok ())
            applied := run.applied ++ [(conditions, command)]
            effects := run.effects ++ effects
            receipts := run.receipts ++ effects.flatMap Effect.receipts }
  | .shutdown =>
      if run.service.running then
        { run with
          service := run.service.stop
          answered := run.answered ++ (waitingIn (run.posted.drop run.applied.length)).map
            (·, .error .serviceStopped)
          receipts := run.receipts ++ run.service.unfinished }
      else run

def after (config : DispatchConfig) (resolver : Option ResolverId)
    (events : List ServiceEvent) : ServiceRun :=
  events.foldl next (start config resolver)

/-- The commands of the calls that a caller has made and that have been accepted, in the
order of the calls. -/
def accepted (caller : Nat) (run : ServiceRun) : List Command :=
  (run.returned.filter fun entry => entry.1 = caller && entry.2.2.isOk).map (·.2.1.command)

def commandsOf (caller : Nat) (posted : List Posting) : List Command :=
  (posted.filter (·.caller = some caller)).map (·.command)

/-- The service as applying makes it: the controller after all that has been applied, the
subscribers after all its effects, and the rest of what has been posted in the queue. -/
def alive (config : DispatchConfig) (resolver : Option ResolverId) (run : ServiceRun) :
    Service where
  controller := ((Controller.new config resolver).handleAll run.applied).1
  events := run.effects.foldl Registrants.applyEffect {}
  commands := (run.posted.drop run.applied.length).map (·.command)

variable {config : DispatchConfig} {resolver : Option ResolverId} {run : ServiceRun}
  {caller : Nat} {call : HandleCall} {command : Command}

/-! ### One event -/

theorem next_call_accepted (admitted : call.admission = .ok ())
    (running : run.service.running = true) :
    run.next (.call caller call) =
      { run with
        service := { run.service with commands := run.service.commands ++ [call.command] }
        returned := run.returned ++ [(caller, call, .ok ())]
        posted := run.posted ++ [{ caller, command := call.command }] } := by
  simp [next, call.on_eq, admitted, Service.post_eq, running]

theorem next_call_refused {error : DispatchError} (refused : call.on run.service = .error error) :
    run.next (.call caller call) =
      { run with
        returned := run.returned ++ [(caller, call, .error error)]
        receipts := run.receipts ++ call.command.discard } := by
  simp [next, refused]

theorem next_report_running (running : run.service.running = true) :
    run.next (.report command) =
      { run with
        service := { run.service with commands := run.service.commands ++ [command] }
        posted := run.posted ++ [{ caller := none, command }] } := by
  simp [next, Service.post_eq, running]

theorem next_report_stopped (stopped : run.service.running = false) :
    run.next (.report command) = { run with receipts := run.receipts ++ command.discard } := by
  simp [next, Service.post_eq, stopped]

theorem next_turn_idle {conditions : Conditions} (empty : run.service.commands = []) :
    run.next (.turn conditions) = run := by
  simp [next, Service.applyNext, empty]

theorem next_turn_busy {conditions : Conditions} {rest : List Command}
    (waiting : run.service.commands = command :: rest) :
    run.next (.turn conditions) =
      let turn := run.service.controller.handle conditions command
      { run with
        service := { run.service with
          controller := turn.1
          events := turn.2.foldl Registrants.applyEffect run.service.events
          commands := rest }
        answered := run.answered ++
          (waitingIn run.posted[run.applied.length]?.toList).map (·, .ok ())
        applied := run.applied ++ [(conditions, command)]
        effects := run.effects ++ turn.2
        receipts := run.receipts ++ turn.2.flatMap Effect.receipts } := by
  simp [next, Service.applyNext, waiting, Service.apply, Service.perform]

theorem next_shutdown_stopped (stopped : run.service.running = false) :
    run.next .shutdown = run := by
  simp [next, stopped]

theorem next_shutdown_running (running : run.service.running = true) :
    run.next .shutdown =
      { run with
        service := run.service.stop
        answered := run.answered ++ (waitingIn (run.posted.drop run.applied.length)).map
          (·, .error .serviceStopped)
        receipts := run.receipts ++ run.service.unfinished } := by
  simp [next, running]

/-! ### What holds throughout -/

/-- The service keeps to its queue, and its callers and their messages get what is due to
them. -/
structure Faithful (config : DispatchConfig) (resolver : Option ResolverId) (run : ServiceRun) :
    Prop where
  taken : run.applied.map (·.2) = (run.posted.take run.applied.length).map (·.command)
  effects : run.effects = ((Controller.new config resolver).handleAll run.applied).2
  service : run.service =
    if run.service.running then run.alive config resolver else (run.alive config resolver).stop
  callers : ∀ caller, commandsOf caller run.posted = run.accepted caller
  answered : run.answered =
    (waitingIn (run.posted.take run.applied.length)).map (·, .ok ()) ++
      if run.service.running then []
      else (waitingIn (run.posted.drop run.applied.length)).map (·, .error .serviceStopped)
  admitted : ∀ caller kind request, ⟨some caller, .submit kind request⟩ ∈ run.posted →
    request.admission kind true = .ok ()
  results : ∀ ticket result, .sent ticket result ∈ run.receipts ↔
    .sent ticket result ∈ run.effects.flatMap Effect.receipts

theorem Faithful.start (config : DispatchConfig) (resolver : Option ResolverId) :
    (start config resolver).Faithful config resolver where
  taken := rfl
  effects := rfl
  service := rfl
  callers _ := rfl
  answered := rfl
  admitted _ _ _ member := (List.not_mem_nil member).elim
  results _ _ := .rfl

theorem Faithful.length_le (faithful : run.Faithful config resolver) :
    run.applied.length ≤ run.posted.length := by
  have lengths := congrArg List.length faithful.taken
  simp only [List.length_map, List.length_take] at lengths
  omega

theorem Faithful.service_of_running (faithful : run.Faithful config resolver)
    (running : run.service.running = true) : run.service = run.alive config resolver := by
  have told := faithful.service
  rwa [if_pos running] at told

theorem Faithful.service_of_stopped (faithful : run.Faithful config resolver)
    (stopped : run.service.running = false) : run.service = (run.alive config resolver).stop := by
  have told := faithful.service
  rwa [if_neg (by simp [stopped])] at told

/-- To post a command keeps everything in order if the caller, where there is one, is told
so and a request that is posted has been checked. -/
theorem Faithful.post (faithful : run.Faithful config resolver)
    (running : run.service.running = true) (posting : Posting)
    {returned : List (Nat × HandleCall × Except DispatchError Unit)}
    (told : ∀ caller, commandsOf caller (run.posted ++ [posting]) =
      { run with returned }.accepted caller)
    (checked : ∀ caller kind request, posting = ⟨some caller, .submit kind request⟩ →
      request.admission kind true = .ok ()) :
    Faithful config resolver
      { run with
        service := { run.service with commands := run.service.commands ++ [posting.command] }
        returned
        posted := run.posted ++ [posting] } where
  taken := by
    rw [List.take_append_of_le_length faithful.length_le]
    exact faithful.taken
  effects := faithful.effects
  service := by
    rw [faithful.service_of_running running]
    simp [alive, List.drop_append_of_le_length faithful.length_le]
  callers := told
  answered := by
    rw [faithful.answered, if_pos running, if_pos running,
      List.take_append_of_le_length faithful.length_le]
  admitted caller kind request member := by
    rcases List.mem_append.mp member with old | new
    · exact faithful.admitted caller kind request old
    · exact checked caller kind request (List.mem_singleton.mp new).symm
  results := faithful.results

theorem Faithful.next_call (faithful : run.Faithful config resolver) (caller : Nat)
    (call : HandleCall) : (run.next (.call caller call)).Faithful config resolver := by
  cases answer : call.on run.service with
  | error error =>
      rw [next_call_refused answer]
      exact { faithful with
        callers other := by
          rw [faithful.callers]
          simp [accepted, Except.isOk, Except.toBool]
        results ticket result := by
          simp [faithful.results, Command.sent_not_mem_discard] }
  | ok service =>
      obtain ⟨admitted, running⟩ := HandleCall.on_eq_ok answer
      rw [next_call_accepted admitted running]
      refine faithful.post running ⟨caller, call.command⟩ (fun other => ?_) ?_
      · have told := faithful.callers other
        simp only [commandsOf, accepted] at told
        by_cases same : caller = other <;>
          simp [commandsOf, accepted, Except.isOk, Except.toBool, told, same]
      · intro other kind request same
        obtain ⟨-, command⟩ := Posting.mk.inj same
        cases call with
        | send storageAvailable kind' request' =>
            cases command
            exact SendRequest.admission_of_ok admitted
        | _ => cases command

theorem Faithful.next_report (faithful : run.Faithful config resolver) (command : Command) :
    (run.next (.report command)).Faithful config resolver := by
  cases running : run.service.running with
  | false =>
      rw [next_report_stopped running]
      exact { faithful with
        results ticket result := by simp [faithful.results, Command.sent_not_mem_discard] }
  | true =>
      rw [next_report_running running]
      refine faithful.post running ⟨none, command⟩ (fun caller => ?_) ?_
      · simpa [commandsOf, accepted] using faithful.callers caller
      · rintro caller kind request ⟨⟩

theorem Faithful.next_turn (faithful : run.Faithful config resolver) (conditions : Conditions) :
    (run.next (.turn conditions)).Faithful config resolver := by
  cases waiting : run.service.commands with
  | nil =>
      rw [next_turn_idle waiting]
      exact faithful
  | cons command rest =>
      have running : run.service.running = true := by
        by_contra stopped
        rw [faithful.service_of_stopped (Bool.eq_false_iff.mpr stopped)] at waiting
        cases waiting
      have whole := faithful.service_of_running running
      -- the first in the queue is the first of those posted and not yet applied
      have left : (run.posted.drop run.applied.length).map (·.command) = command :: rest := by
        rw [← waiting]
        exact (congrArg Service.commands whole).symm
      obtain ⟨posting, later, dropped, rfl, rfl⟩ := List.map_eq_cons_iff.mp left
      have follows : run.posted[run.applied.length]? = some posting := by
        rw [← List.head?_drop, dropped, List.head?_cons]
      rw [next_turn_busy waiting]
      refine { faithful with
        taken := ?_, effects := ?_, service := ?_, answered := ?_
        results := fun ticket result => ?_ }
      · simp [List.take_add_one, follows, faithful.taken]
      · rw [Controller.handleAll_concat, ← faithful.effects, whole]
        rfl
      · have rest : run.posted.drop (run.applied.length + 1) = later := by
          rw [← List.tail_drop, dropped, List.tail_cons]
        rw [if_pos running, whole]
        simp [alive, Controller.handleAll_concat, rest]
      · rw [if_pos running, faithful.answered, if_pos running]
        simp [List.take_add_one, waitingIn]
      · simp [faithful.results]

theorem Faithful.next_shutdown (faithful : run.Faithful config resolver) :
    (run.next .shutdown).Faithful config resolver := by
  cases running : run.service.running with
  | false =>
      rw [next_shutdown_stopped running]
      exact faithful
  | true =>
      rw [next_shutdown_running running]
      refine { faithful with
        service := congrArg Service.stop (faithful.service_of_running running)
        answered := ?_
        results := fun ticket result => ?_ }
      · rw [faithful.answered, if_pos running, List.append_nil]
        rfl
      · simp [faithful.results, Service.sent_not_mem_unfinished]

theorem Faithful.next (faithful : run.Faithful config resolver) (event : ServiceEvent) :
    (run.next event).Faithful config resolver := by
  cases event with
  | call caller call => exact faithful.next_call caller call
  | report command => exact faithful.next_report command
  | turn conditions => exact faithful.next_turn conditions
  | shutdown => exact faithful.next_shutdown

theorem Faithful.after (config : DispatchConfig) (resolver : Option ResolverId)
    (events : List ServiceEvent) : (after config resolver events).Faithful config resolver := by
  induction events using List.reverseRecOn with
  | nil => exact .start config resolver
  | append_singleton events event ih =>
      rw [ServiceRun.after, List.foldl_append]
      exact Faithful.next ih event

/-! ### Whole runs -/

theorem after_append (events later : List ServiceEvent) :
    after config resolver (events ++ later) = later.foldl next (after config resolver events) :=
  List.foldl_append

/-- Two runs have come to the same: they differ at most in what callers and senders have
been told. -/
structure SameWork (left right : ServiceRun) : Prop where
  service : left.service = right.service
  posted : left.posted = right.posted
  applied : left.applied = right.applied
  effects : left.effects = right.effects

theorem SameWork.trans {left middle right : ServiceRun} (first : left.SameWork middle)
    (second : middle.SameWork right) : left.SameWork right where
  service := first.service.trans second.service
  posted := first.posted.trans second.posted
  applied := first.applied.trans second.applied
  effects := first.effects.trans second.effects

/-- What has been told makes no difference to what comes. -/
theorem SameWork.next {left right : ServiceRun} (same : left.SameWork right)
    (event : ServiceEvent) : (left.next event).SameWork (right.next event) := by
  obtain ⟨service, posted, applied, effects⟩ := same
  cases event with
  | call caller call =>
      simp only [ServiceRun.next, service]
      cases call.on right.service with
      | error error => exact ⟨rfl, posted, applied, effects⟩
      | ok after => exact ⟨rfl, congrArg (· ++ _) posted, applied, effects⟩
  | report command =>
      simp only [ServiceRun.next, service]
      cases right.service.post command with
      | error error => exact ⟨rfl, posted, applied, effects⟩
      | ok after => exact ⟨rfl, congrArg (· ++ _) posted, applied, effects⟩
  | turn conditions =>
      simp only [ServiceRun.next, service]
      cases right.service.applyNext conditions with
      | none => exact ⟨service, posted, applied, effects⟩
      | some turn => exact ⟨rfl, posted, congrArg (· ++ _) applied, congrArg (· ++ _) effects⟩
  | shutdown =>
      simp only [ServiceRun.next, service]
      split
      · exact ⟨rfl, posted, applied, effects⟩
      · exact ⟨service, posted, applied, effects⟩

theorem SameWork.foldl {left right : ServiceRun} (same : left.SameWork right)
    (events : List ServiceEvent) :
    (events.foldl ServiceRun.next left).SameWork (events.foldl ServiceRun.next right) := by
  induction events generalizing left right with
  | nil => exact same
  | cons event rest ih => exact ih (same.next event)

theorem sameWork_refused {error : DispatchError} (refused : call.on run.service = .error error) :
    (run.next (.call caller call)).SameWork run := by
  rw [next_call_refused refused]
  exact ⟨rfl, rfl, rfl, rfl⟩

/-- A service that has stopped stays as it is. -/
theorem Faithful.next_stopped (faithful : run.Faithful config resolver)
    (stopped : run.service.running = false) (event : ServiceEvent) :
    (run.next event).SameWork run := by
  have standing := faithful.service_of_stopped stopped
  cases event with
  | call caller call =>
      have refused : ∃ error, call.on run.service = .error error := by
        rw [HandleCall.on_stopped stopped]
        cases call.admission <;> exact ⟨_, rfl⟩
      exact sameWork_refused refused.choose_spec
  | report command =>
      rw [next_report_stopped stopped]
      exact ⟨rfl, rfl, rfl, rfl⟩
  | turn conditions =>
      rw [next_turn_idle (by rw [standing]; rfl)]
      exact ⟨rfl, rfl, rfl, rfl⟩
  | shutdown =>
      rw [next_shutdown_stopped stopped]
      exact ⟨rfl, rfl, rfl, rfl⟩

theorem Faithful.foldl_stopped (faithful : run.Faithful config resolver)
    (stopped : run.service.running = false) (later : List ServiceEvent) :
    (later.foldl ServiceRun.next run).SameWork run := by
  induction later generalizing run with
  | nil => exact ⟨rfl, rfl, rfl, rfl⟩
  | cons event rest ih =>
      have same := faithful.next_stopped stopped event
      exact (ih (faithful.next event) (same.service ▸ stopped)).trans same

theorem running_next (event : ServiceEvent) :
    (run.next event).service.running = true ↔ run.service.running = true ∧ event ≠ .shutdown := by
  cases event with
  | call caller call =>
      cases answer : call.on run.service with
      | error error => simp [next_call_refused answer]
      | ok service =>
          obtain ⟨admitted, running⟩ := HandleCall.on_eq_ok answer
          simp [next_call_accepted admitted running]
  | report command =>
      cases running : run.service.running with
      | true => simp [next_report_running running, running]
      | false => simp [next_report_stopped running, running]
  | turn conditions =>
      cases waiting : run.service.commands with
      | nil => simp [next_turn_idle waiting]
      | cons command rest => simp [next_turn_busy waiting]
  | shutdown =>
      cases running : run.service.running with
      | true => simp [next_shutdown_running running, Service.stop]
      | false => simp [next_shutdown_stopped running, running]

theorem running_iff (events : List ServiceEvent) :
    (after config resolver events).service.running = true ↔ .shutdown ∉ events := by
  induction events using List.reverseRecOn with
  | nil => simp [after, start, Service.new]
  | append_singleton events event ih =>
      rw [after_append]
      exact (running_next event).trans (by simp [ih, eq_comm])

theorem commandsOf_take_prefix (caller count : Nat) (posted : List Posting) :
    commandsOf caller (posted.take count) <+: commandsOf caller posted :=
  ((List.take_prefix count posted).filter _).map _

/-- The service does what the controller does with the commands taken so far, which are
the first of those posted, and every caller's come in the order of its calls. What is
refused leaves no trace in it, and what is accepted from a caller is what the controller
would have accepted. Once it has stopped, it refuses all that would have been accepted,
also to those who were waiting then, and nothing changes any more, so nobody learns a
result who has not learned it by then. -/
theorem refines_controller (config : DispatchConfig) (resolver : Option ResolverId)
    (events : List ServiceEvent) :
    let run := after config resolver events
    let alone := (Controller.new config resolver).handleAll run.applied
    (run.applied.map (·.2) = (run.posted.take run.applied.length).map (·.command) ∧
      run.effects = alone.2 ∧
      run.service =
        let alive : Service :=
          { controller := alone.1
            events := alone.2.foldl Registrants.applyEffect {}
            commands := (run.posted.drop run.applied.length).map (·.command) }
        if run.service.running then alive else alive.stop) ∧
    (∀ caller,
      commandsOf caller run.posted = run.accepted caller ∧
      commandsOf caller (run.posted.take run.applied.length) <+: run.accepted caller) ∧
    (∀ (call : HandleCall) error, call.on run.service = .error error → ∀ caller later,
      (after config resolver (events ++ .call caller call :: later)).SameWork
        (after config resolver (events ++ later))) ∧
    (∀ caller kind request, ⟨some caller, .submit kind request⟩ ∈ run.posted →
      ∀ conditions (controller : Controller),
        controller.send conditions true kind request =
          .ok (controller.handle conditions (.submit kind request))) ∧
    (∀ ticket result, .sent ticket result ∈ run.receipts ↔ ∃ tracker,
      .complete tracker result ∈ run.effects ∧ tracker.awaitsSent = true ∧
        tracker.ticket = ticket) ∧
    (run.service.running = true ↔ .shutdown ∉ events) ∧
    (.shutdown ∈ events →
      run.answered = (waitingIn (run.posted.take run.applied.length)).map (·, .ok ()) ++
        (waitingIn (run.posted.drop run.applied.length)).map (·, .error .serviceStopped) ∧
      (∀ call : HandleCall, call.on run.service = match call.admission with
        | .error error => .error error
        | .ok () => .error .serviceStopped) ∧
      ∀ later, (after config resolver (events ++ later)).SameWork run ∧
        ∀ ticket result, .sent ticket result ∈ (after config resolver (events ++ later)).receipts →
          .sent ticket result ∈ run.receipts) := by
  intro run alone
  have faithful : run.Faithful config resolver := .after config resolver events
  refine ⟨⟨faithful.taken, faithful.effects, ?alive⟩, fun caller => ⟨faithful.callers caller, ?_⟩,
    ?refused, fun caller kind request posted =>
      Controller.send_of_admitted (faithful.admitted caller kind request posted),
    fun ticket result => (faithful.results ticket result).trans sent_mem_receipts,
    running_iff events, fun told => ?stopped⟩
  case alive =>
    have service := faithful.service
    rwa [alive, faithful.effects] at service
  · rw [← faithful.callers caller]
    exact commandsOf_take_prefix ..
  case refused =>
    intro call error refused caller later
    rw [after_append, after_append]
    exact (sameWork_refused refused).foldl later
  case stopped =>
    have stopped : run.service.running = false :=
      Bool.eq_false_iff.mpr fun running => (running_iff events).mp running told
    have answered := faithful.answered
    rw [if_neg (by simp [stopped])] at answered
    refine ⟨answered, fun call => HandleCall.on_stopped stopped call, fun later => ?_⟩
    have same : (after config resolver (events ++ later)).SameWork run := by
      rw [after_append]
      exact faithful.foldl_stopped stopped later
    refine ⟨same, fun ticket result sent => ?_⟩
    have results := (Faithful.after config resolver (events ++ later)).results ticket result
    rw [faithful.results, ← same.effects]
    exact results.mp sent

end ServiceRun

/-! ### A small run -/

namespace Sample

/-- Two messages are accepted and one is not, and the service stops when it has come to the
first. -/
def interrupted : List ServiceEvent :=
  [.call 0 (.send true .text (request 1)),
    .call 1 (.send true .data (request 2)),
    .call 1 (.send true .text (request 3)),
    .turn (.steady surroundings),
    .shutdown]

theorem interrupted_ends :
    let run := ServiceRun.after {} none interrupted
    run.posted.length = 2 ∧ run.applied.length = 1 ∧ .sentDropped 3 ∈ run.receipts ∧
      ∀ later result,
        .sent 3 result ∉ (ServiceRun.after {} none (interrupted ++ later)).receipts := by
  have refines := ServiceRun.refines_controller {} none interrupted
  obtain ⟨-, -, ended⟩ := refines.2.2.2.2.2.2 (by simp [interrupted])
  refine ⟨rfl, rfl, by decide, fun later result sent => ?_⟩
  have learned := (ended later).2 3 result sent
  have receipts : (ServiceRun.after {} none interrupted).receipts =
      [.sentDropped 2, .sentDropped 3] := rfl
  simp [receipts] at learned

end Sample

end OutboundSms
