import OutboundSms.Proofs.Handling

/-!
# Runs

A controller among those who hold its messages. A message comes in with a command,
is in the hands of a transport from the moment it is sent, comes back in an outcome
command, and ends with its completion. Trackers are moved and never copied: a
command that brings a tracker takes it from whoever held it. Nothing else is
assumed. The collaborators may answer in any way, and the commands may come in any
order, with any connection in a selection that ends.
-/

set_option autoImplicit false

namespace OutboundSms

/-- What may have become of a tracker in the hands of a transport. -/
inductive Tracker.Evolves (given : Tracker) : Tracker → Prop where
  | unchanged : Evolves given given
  | assignRef {tracker} (messageRef : UInt8) :
      Evolves given tracker → Evolves given (tracker.assignRef messageRef)
  | countRetry {tracker} : Evolves given tracker → Evolves given tracker.countRetry
  | releaseDelivery {tracker} : Evolves given tracker → Evolves given tracker.releaseDelivery

namespace Tracker.Evolves

variable {given tracker : Tracker}

theorem message_eq (evolved : given.Evolves tracker) : tracker.message = given.message := by
  induction evolved with
  | unchanged => rfl
  | assignRef _ _ ih => exact ih
  | countRetry _ ih => exact ih
  | releaseDelivery _ ih => exact ih

theorem usedIms_eq (evolved : given.Evolves tracker) : tracker.usedIms = given.usedIms := by
  induction evolved with
  | unchanged => rfl
  | assignRef _ _ ih => exact ih
  | countRetry _ ih => exact ih
  | releaseDelivery _ ih => exact ih

end Tracker.Evolves

/-- A tracker in the hands of the transport in `slot`, which is to report on it for
`domain`. -/
structure Holding where
  slot : Slot
  tracker : Tracker
  domain : Domain

/-- An outcome that a transport has posted and that has not been handled. -/
structure Report where
  tracker : Tracker
  domain : Domain
  outcome : TransportOutcome

def Report.command (report : Report) : Command :=
  .outcome report.tracker report.domain report.outcome

def Effect.holding? : Effect → Option Holding
  | .send slot tracker domain => some { slot, tracker, domain }
  | _ => none

/-- A controller and all that holds a message outside it. `submitted` lists the
messages taken in from a request and `adopted` those that came in with a tracker of
their own; `log` is everything the controller has done. All are oldest first. -/
structure World where
  controller : Controller
  submitted : List Message := []
  adopted : List Message := []
  held : List Holding := []
  reports : List Report := []
  log : List Effect := []

inductive Move where
  | handle (conditions : Conditions) (command : Command)
  | report (holding : Holding) (report : Report)

namespace World

/-- The world of a new controller, which counts references on from `sequence`. -/
def start (config : DispatchConfig) (resolver : Option ResolverId)
    (sequence : ReferenceCounter) : World where
  controller := (Controller.new config resolver).withSequence sequence

def entered (world : World) : List Message :=
  world.submitted ++ world.adopted

def tickets (world : World) : List Ticket :=
  world.entered.map (·.ticket)

/-- Has the controller handle a command. The transports hold what it sends. -/
def handle (conditions : Conditions) (command : Command) (world : World) : World :=
  let turn := world.controller.handle conditions command
  { world with
    controller := turn.1
    held := world.held ++ turn.2.filterMap Effect.holding?
    log := world.log ++ turn.2 }

/-- `Provides world surroundings command rest` says that `command` can come up in
`world`, and that `rest` is left once what it brings has been taken from whoever held
it. A message that comes in has a ticket of its own. -/
inductive Provides (world : World) (surroundings : Surroundings) : Command → World → Prop where
  | submitted {kind request} (fresh : request.ticket ∉ world.tickets) :
      Provides world surroundings (.submit kind request)
        { world with
          submitted := world.submitted ++ [(Controller.admitted surroundings request).message] }
  | adopted {command tracker} (brings : command.tracker? = some tracker)
      (fresh : tracker.ticket ∉ world.tickets) :
      Provides world surroundings command
        { world with adopted := world.adopted ++ [tracker.message] }
  | reclaimed {before holding after tracker} (held : world.held = before ++ holding :: after)
      (evolved : holding.tracker.Evolves tracker) :
      Provides world surroundings (.retry tracker) { world with held := before ++ after }
  | reported {before report after} (posted : world.reports = before ++ report :: after) :
      Provides world surroundings report.command { world with reports := before ++ after }
  | bare {command} (empty : Controller.carried surroundings command = []) :
      Provides world surroundings command world

inductive Step : World → Move → World → Prop where
  | handle {world rest conditions command}
      (provides : world.Provides conditions.now command rest) :
      Step world (.handle conditions command) (rest.handle conditions command)
  | report {world before holding after report}
      (held : world.held = before ++ holding :: after)
      (evolved : holding.tracker.Evolves report.tracker) :
      Step world (.report holding report)
        { world with held := before ++ after, reports := world.reports ++ [report] }

/-- Runs of any length, each with its moves and the worlds they were made in. -/
inductive Run (first : World) : List (World × Move) → World → Prop where
  | rest : Run first [] first
  | next {trace world move after} :
      Run first trace world → Step world move after →
      Run first (trace ++ [(world, move)]) after

/-- The worlds that a new controller can get into. -/
def Reachable (config : DispatchConfig) (resolver : Option ResolverId)
    (sequence : ReferenceCounter) (world : World) : Prop :=
  ∃ trace, Run (start config resolver sequence) trace world

variable {config : DispatchConfig} {resolver : Option ResolverId}
  {sequence : ReferenceCounter} {world rest after : World}

theorem Reachable.start : Reachable config resolver sequence (.start config resolver sequence) :=
  ⟨[], .rest⟩

theorem Reachable.next {move : Move} (reachable : Reachable config resolver sequence world)
    (step : Step world move after) : Reachable config resolver sequence after :=
  reachable.elim fun _ run => ⟨_, run.next step⟩

theorem Run.reachable {trace : List (World × Move)} {later : World}
    (run : Run world trace later) (reachable : Reachable config resolver sequence world) :
    Reachable config resolver sequence later := by
  induction run with
  | rest => exact reachable
  | next _ step ih => exact ih.next step

/-- What holds of a new world and is kept by every step of a world that can be reached
holds of every world that can be reached. -/
theorem Reachable.invariant (reachable : Reachable config resolver sequence world)
    (holds : World → Prop) (initial : holds (.start config resolver sequence))
    (preserved : ∀ {world move after}, Reachable config resolver sequence world →
      holds world → Step world move after → holds after) : holds world := by
  obtain ⟨trace, run⟩ := reachable
  induction run with
  | rest => exact initial
  | next run step ih => exact preserved ⟨_, run⟩ ih step

theorem Provides.controller_eq {surroundings : Surroundings} {command : Command}
    (provides : world.Provides surroundings command rest) :
    rest.controller = world.controller := by
  cases provides <;> rfl

theorem Provides.log_eq {surroundings : Surroundings} {command : Command}
    (provides : world.Provides surroundings command rest) : rest.log = world.log := by
  cases provides <;> rfl

theorem Provides.held_subset {surroundings : Surroundings} {command : Command}
    (provides : world.Provides surroundings command rest) : rest.held ⊆ world.held := by
  cases provides with
  | submitted | adopted | reported | bare => exact fun _ => id
  | reclaimed held =>
      rw [held]
      exact List.append_subset.mpr ⟨List.subset_append_left _ _,
        List.subset_append_of_subset_right _ (List.subset_cons_self _ _)⟩

theorem Provides.reports_subset {surroundings : Surroundings} {command : Command}
    (provides : world.Provides surroundings command rest) : rest.reports ⊆ world.reports := by
  cases provides with
  | submitted | adopted | reclaimed | bare => exact fun _ => id
  | reported posted =>
      rw [posted]
      exact List.append_subset.mpr ⟨List.subset_append_left _ _,
        List.subset_append_of_subset_right _ (List.subset_cons_self _ _)⟩

theorem Provides.submitted_eq {surroundings : Surroundings} {command : Command}
    (provides : world.Provides surroundings command rest)
    (other : ∀ kind request, command ≠ .submit kind request) :
    rest.submitted = world.submitted := by
  cases provides with
  | submitted => exact absurd rfl (other _ _)
  | adopted | reclaimed | reported | bare => rfl

/-- The trackers outside the controller. -/
def outsideTrackers (world : World) : List Tracker :=
  world.held.map (·.tracker) ++ world.reports.map (·.tracker)

/-- A tracker that a command brings is new or was in somebody's hands. -/
theorem Provides.carried_origin {surroundings : Surroundings} {command : Command}
    (provides : world.Provides surroundings command rest) {tracker : Tracker}
    (brought : tracker ∈ Controller.carried surroundings command) :
    tracker.ticket ∉ world.tickets ∨
      ∃ given ∈ world.outsideTrackers, given.Evolves tracker := by
  cases provides with
  | submitted fresh =>
      obtain rfl := List.mem_singleton.mp brought
      exact .inl fresh
  | adopted brings fresh =>
      rw [Controller.carried_of_brings brings] at brought
      obtain rfl := List.mem_singleton.mp brought
      exact .inl fresh
  | @reclaimed before holding after tracker held evolved =>
      obtain rfl := List.mem_singleton.mp brought
      exact .inr ⟨holding.tracker, by simp [outsideTrackers, held], evolved⟩
  | @reported before report after posted =>
      obtain rfl := List.mem_singleton.mp brought
      exact .inr ⟨report.tracker, by simp [outsideTrackers, posted], .unchanged⟩
  | bare empty => simp [empty] at brought

theorem Step.log_prefix {move : Move} (step : Step world move after) :
    world.log <+: after.log := by
  cases step with
  | report => exact List.prefix_rfl
  | handle provides =>
      rw [← provides.log_eq]
      exact List.prefix_append ..

theorem Run.log_prefix {trace : List (World × Move)} {later : World}
    (run : Run world trace later) : world.log <+: later.log := by
  induction run with
  | rest => exact List.prefix_rfl
  | next _ step ih => exact ih.trans step.log_prefix

/-- The holders agree with themselves in every world that can be reached. -/
theorem Reachable.agrees (reachable : Reachable config resolver sequence world) :
    world.controller.Agrees := by
  refine reachable.invariant (fun world => world.controller.Agrees)
    (Controller.agrees_new config resolver sequence) ?_
  intro world move after _ agrees step
  cases step with
  | report => exact agrees
  | handle provides =>
      rw [← provides.controller_eq] at agrees
      exact (Controller.handle_refines agrees _ _).agrees

/-- What every command keeps of a controller and its history holds of every world
that can be reached. -/
theorem Reachable.history (reachable : Reachable config resolver sequence world)
    (holds : Controller → List Effect → Prop)
    (initial : holds ((Controller.new config resolver).withSequence sequence) [])
    (preserved : ∀ {controller log}, controller.Agrees → holds controller log →
      ∀ conditions command, holds (controller.handle conditions command).1
        (log ++ (controller.handle conditions command).2)) :
    holds world.controller world.log := by
  refine reachable.invariant (fun world => holds world.controller world.log) initial ?_
  intro world move after reachable holding step
  cases step with
  | report => exact holding
  | handle provides =>
      have agrees := reachable.agrees
      rw [← provides.controller_eq] at agrees holding
      rw [← provides.log_eq] at holding
      exact preserved agrees holding _ _

end World

/-! ### A small run -/

namespace Sample

/-- Transports that are there and leave references to the controller, and a resolver
that issues every request. No number is an emergency number. -/
def surroundings : Surroundings where
  now := 0
  transport
    | .ps => ⟨.ps, .threeGpp, true, fun _ => true, true⟩
    | .cs format => ⟨.cs, format, true, fun _ => true, true⟩
  voiceFormat := .threeGpp
  isEmergencyNumber := fun _ => false
  tracksEmergency := true
  connect := fun _ _ => .issued

def request (ticket : Ticket) : SendRequest where
  ticket
  destination := "1111"
  payload := .text "hello"

def message (ticket : Ticket) : Message :=
  (Controller.admitted surroundings (request ticket)).message

def start : World :=
  .start {} (some 0) (.new 256)

/-- The first message waits for the selection it has opened. -/
def selecting : World :=
  World.handle (.steady surroundings) (.submit .text (request 1))
    { start with submitted := [message 1] }

theorem selecting_step :
    World.Step start (.handle (.steady surroundings) (.submit .text (request 1))) selecting :=
  .handle (.submitted (by decide))

theorem selecting_reachable : World.Reachable {} (some 0) (.new 256) selecting :=
  .next .start selecting_step

/-- The selection has ended, and the message is with the transport of its domain. -/
def sent : World :=
  World.handle (.steady surroundings) (.selectionCompleted .normal { number := 1 } (.ok .ps))
    selecting

theorem sent_reachable : World.Reachable {} (some 0) (.new 256) sent :=
  selecting_reachable.next (.handle (.bare rfl))

end Sample

end OutboundSms
