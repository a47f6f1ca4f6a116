import OutboundSms.Bench.Transport
import OutboundSms.Proofs.Holders
import OutboundSms.Proofs.Moves

/-!
# Networks

A controller among transports, some of which are link transports. A link transport
submits a message and goes on as its link answers, and the link may answer anything at
any time. Of the other transports nothing is known but that they keep to their
trackers. Everything that happens is in the history, with the conditions it happened
in.
-/

set_option autoImplicit false

namespace OutboundSms

namespace Tracker.Evolves

variable {given tracker next : Tracker}

theorem trans (first : given.Evolves tracker) (second : tracker.Evolves next) :
    given.Evolves next := by
  induction second with
  | unchanged => exact first
  | assignRef messageRef _ ih => exact .assignRef messageRef ih
  | countRetry _ ih => exact .countRetry ih
  | releaseDelivery _ ih => exact .releaseDelivery ih

theorem ticket_eq (evolved : given.Evolves tracker) : tracker.ticket = given.ticket :=
  congrArg Message.ticket evolved.message_eq

/-- A reference stays, whatever a transport does. -/
theorem messageRef_eq (evolved : given.Evolves tracker) {messageRef : UInt8}
    (has : given.messageRef = some messageRef) : tracker.messageRef = some messageRef := by
  induction evolved with
  | unchanged => exact has
  | assignRef _ _ ih => simp [Tracker.assignRef, ih]
  | countRetry _ ih => exact ih
  | releaseDelivery _ ih => exact ih

end Tracker.Evolves

/-! ### Answers of links -/

namespace LinkResponse

variable {domain : Domain} {policy : RetryPolicy} {tracker next last : Tracker}
  {response : LinkResponse} {outcome : TransportOutcome} {registers : Option StatusCallback}

theorem react_eq_handBack (handed : response.react domain policy tracker = .handBack next) :
    domain = .cs ∧ policy.allows tracker.retryCount = true ∧ next = tracker.countRetry := by
  unfold react at handed
  split at handed <;> (try split at handed) <;> (try split at handed) <;> simp_all

theorem react_eq_resubmit_ps (again : response.react domain policy tracker = .resubmit next) :
    domain = .ps := by
  unfold react at again
  split at again <;> (try split at again) <;> (try split at again) <;> simp_all

/-- A link transport reports a tracker as it is, without the delivery callback that it has
registered, or with the fallback of a PS link counted as a retry where the policy allows
one. -/
theorem react_eq_report (reported : response.react domain policy tracker =
      .report last outcome registers) :
    (outcome = .sent ∧ last = tracker.afterAcceptance) ∨
      (last = tracker ∧ ((∃ code, outcome = .failed code) ∨
        (domain = .ps ∧ outcome = .fallback ∧ policy.allows tracker.retryCount = false))) ∨
      (domain = .ps ∧ outcome = .fallback ∧ policy.allows tracker.retryCount = true ∧
        last = tracker.countRetry) := by
  unfold react at reported
  split at reported <;> (try split at reported) <;> (try split at reported) <;> simp_all <;>
    simp [← reported.2.1]

/-- A delivery callback is registered, and a message reported as sent, on acceptance only. -/
theorem react_of_unaccepted (unaccepted : response ≠ .accepted)
    (reported : response.react domain policy tracker = .report last outcome registers) :
    registers = none ∧ outcome ≠ .sent ∧ last.awaitsDelivery = tracker.awaitsDelivery := by
  unfold react at reported
  split at reported <;> (try split at reported) <;> (try split at reported) <;> first
    | exact absurd rfl unaccepted
    | cases reported <;> exact ⟨rfl, nofun, rfl⟩

theorem ticket_of_registers {callback : StatusCallback}
    (reported : response.react domain policy tracker = .report last outcome (some callback)) :
    callback.ticket = tracker.ticket := by
  by_cases accepted : response = .accepted
  · subst accepted
    have registers := (LinkReaction.report.inj reported).2.2
    unfold Tracker.statusCallback? at registers
    split at registers
    · obtain ⟨_, -, rfl⟩ := Option.map_eq_some_iff.mp registers
      rfl
    · cases registers
  · cases (react_of_unaccepted accepted reported).1

end LinkResponse

/-! ### Link transports -/

/-- A link transport as it was built. One that owns its references gives them itself. -/
structure LinkTransport where
  domain : Domain
  format : SmsFormat
  policy : RetryPolicy
  ownsRefs : Bool

namespace LinkTransport

/-- What a link transport does next with a message, and what it submits on the way. -/
inductive Advances (link : LinkTransport) :
    Bench.LinkStage → List Submission → Bench.LinkStage → Prop where
  | submitted (tracker : Tracker) (response : LinkResponse) :
      Advances link (.submitting tracker) [.ofTracker tracker link.format]
        (.answered tracker response)
  | resubmits {tracker next : Tracker} {response : LinkResponse}
      (reaction : response.react link.domain link.policy tracker = .resubmit next) :
      Advances link (.answered tracker response) [] (.submitting next)
  | handsBack {tracker next : Tracker} {response : LinkResponse}
      (reaction : response.react link.domain link.policy tracker = .handBack next) :
      Advances link (.answered tracker response) [] (.handingBack next)

/-- How a link transport ends with a message. -/
inductive Finishes (link : LinkTransport) :
    Bench.LinkStage → Tracker → TransportOutcome → Prop where
  | answered {tracker last : Tracker} {response : LinkResponse} {outcome : TransportOutcome}
      {registers : Option StatusCallback}
      (reaction : response.react link.domain link.policy tracker =
        .report last outcome registers) :
      Finishes link (.answered tracker response) last outcome
  | handedBack (tracker : Tracker) : Finishes link (.handingBack tracker) tracker .retryRequested

variable {link : LinkTransport} {stage next : Bench.LinkStage} {submissions : List Submission}
  {tracker : Tracker} {outcome : TransportOutcome}

theorem Advances.evolves (advances : link.Advances stage submissions next) :
    stage.tracker.Evolves next.tracker := by
  cases advances with
  | submitted => exact .unchanged
  | resubmits reaction =>
      obtain ⟨-, rfl⟩ := LinkResponse.react_eq_resubmit reaction
      exact .countRetry .unchanged
  | handsBack reaction =>
      obtain ⟨-, -, rfl⟩ := LinkResponse.react_eq_handBack reaction
      exact .countRetry .unchanged

theorem Finishes.evolves (finishes : link.Finishes stage tracker outcome) :
    stage.tracker.Evolves tracker := by
  cases finishes with
  | handedBack => exact .unchanged
  | answered reaction =>
      rcases LinkResponse.react_eq_report reaction with ⟨-, rfl⟩ | ⟨rfl, -⟩ | ⟨-, -, -, rfl⟩
      · unfold Tracker.afterAcceptance
        split
        · exact .releaseDelivery .unchanged
        · exact .unchanged
      · exact .unchanged
      · exact .countRetry .unchanged

end LinkTransport

/-- The link transports among the three. In the other slots there may be any transport. -/
abbrev Links := Slot → Option LinkTransport

/-- A controller that asks a link transport hears what it was built with. -/
def Links.Answer (links : Links) (conditions : Conditions) : Prop :=
  ∀ place slot link, links slot = some link →
    let facts := (conditions place).transport slot
    facts.domain = link.domain ∧ facts.format = link.format ∧
      facts.controllerAssignsRef = !link.ownsRefs

/-- A message in the hands of a transport, as it was handed over and as it stands. -/
structure Flight where
  holding : Holding
  stage : Bench.LinkStage

/-- Where a transport begins. A link transport that owns its references gives one, which
may be any, to a message that has none. -/
def Links.launch (links : Links) (ownRefs : Ticket → UInt8) (holding : Holding) : Flight where
  holding
  stage := .submitting <|
    if (links holding.slot).any (·.ownsRefs) then
      holding.tracker.assignRef (ownRefs holding.tracker.ticket)
    else holding.tracker

theorem Links.launch_evolves (links : Links) (ownRefs : Ticket → UInt8) (holding : Holding) :
    holding.tracker.Evolves (links.launch ownRefs holding).stage.tracker := by
  unfold launch
  split
  · exact .assignRef _ .unchanged
  · exact .unchanged

@[simp] theorem Links.ticket_launch (links : Links) (ownRefs : Ticket → UInt8)
    (holding : Holding) :
    (links.launch ownRefs holding).stage.tracker.ticket = holding.tracker.ticket :=
  (links.launch_evolves ownRefs holding).ticket_eq

@[simp] theorem Links.awaitsDelivery_launch (links : Links) (ownRefs : Ticket → UInt8)
    (holding : Holding) :
    (links.launch ownRefs holding).stage.tracker.awaitsDelivery =
      holding.tracker.awaitsDelivery := by
  unfold launch
  split <;> rfl

/-! ### What happens -/

/-- Something that has happened: the controller has handled a command, which brought the
trackers `brought` and found `waiting` in the queues, or a link transport has submitted
a message. -/
inductive Happening where
  | turn (conditions : Conditions) (brought waiting : List Tracker) (effects : List Effect)
  | submission (slot : Slot) (ticket : Ticket) (submission : Submission)

def Happening.effects : Happening → List Effect
  | turn _ _ _ effects => effects
  | submission _ _ _ => []

/-- A controller and all that holds a message outside it. -/
structure Network where
  controller : Controller
  submitted : List Message := []
  adopted : List Message := []
  flights : List Flight := []
  reports : List Report := []
  history : List Happening := []

namespace Network

def start (config : DispatchConfig) (resolver : Option ResolverId)
    (sequence : ReferenceCounter) : Network where
  controller := (Controller.new config resolver).withSequence sequence

/-- The network without what the transports do. -/
def world (network : Network) : World where
  controller := network.controller
  submitted := network.submitted
  adopted := network.adopted
  held := network.flights.map (·.holding)
  reports := network.reports
  log := network.history.flatMap Happening.effects

/-- All trackers of messages on their way, as they stand. -/
def trackers (network : Network) : List Tracker :=
  network.controller.trackers ++ network.flights.map (·.stage.tracker) ++
    network.reports.map (·.tracker)

/-- Has the controller handle a command. -/
def handle (links : Links) (ownRefs : Ticket → UInt8) (conditions : Conditions)
    (command : Command) (network : Network) : Network :=
  let turn := network.controller.handle conditions command
  { network with
    controller := turn.1
    flights := network.flights ++ (handedOver turn.2).map (links.launch ownRefs)
    history := network.history ++
      [.turn conditions (Controller.carried conditions.now command) network.controller.trackers
        turn.2] }

/-- A command can come up in a network, and what it brings is taken from whoever held it.
A link transport gives nothing away but its reports. -/
inductive Provides (links : Links) (network : Network) (surroundings : Surroundings) :
    Command → Network → Prop where
  | submitted {kind request} (fresh : request.ticket ∉ network.world.tickets) :
      Provides links network surroundings (.submit kind request)
        { network with
          submitted := network.submitted ++ [(Controller.admitted surroundings request).message] }
  | adopted {command tracker} (brings : command.tracker? = some tracker)
      (fresh : tracker.ticket ∉ network.world.tickets) :
      Provides links network surroundings command
        { network with adopted := network.adopted ++ [tracker.message] }
  | reclaimed {before flight after tracker}
      (flying : network.flights = before ++ flight :: after)
      (free : links flight.holding.slot = none)
      (evolved : flight.stage.tracker.Evolves tracker) :
      Provides links network surroundings (.retry tracker)
        { network with flights := before ++ after }
  | reported {before report after} (posted : network.reports = before ++ report :: after) :
      Provides links network surroundings report.command
        { network with reports := before ++ after }
  | bare {command} (empty : Controller.carried surroundings command = []) :
      Provides links network surroundings command network

inductive Step (links : Links) : Network → Network → Prop where
  | handle {network rest conditions command ownRefs} (answer : links.Answer conditions)
      (provides : network.Provides links conditions.now command rest) :
      Step links network (rest.handle links ownRefs conditions command)
  | advance {network before flight after link submissions stage}
      (flying : network.flights = before ++ flight :: after)
      (linked : links flight.holding.slot = some link)
      (advances : link.Advances flight.stage submissions stage) :
      Step links network
        { network with
          flights := before ++ { flight with stage } :: after
          history := network.history ++
            submissions.map (.submission flight.holding.slot flight.holding.tracker.ticket) }
  | finish {network before flight after link tracker outcome}
      (flying : network.flights = before ++ flight :: after)
      (linked : links flight.holding.slot = some link)
      (finishes : link.Finishes flight.stage tracker outcome) :
      Step links network
        { network with
          flights := before ++ after
          reports := network.reports ++
            [{ tracker, domain := flight.holding.domain, outcome }] }
  | report {network before flight after report}
      (flying : network.flights = before ++ flight :: after)
      (free : links flight.holding.slot = none)
      (evolved : flight.stage.tracker.Evolves report.tracker) :
      Step links network
        { network with
          flights := before ++ after
          reports := network.reports ++ [report] }

abbrev Run (links : Links) : Network → Network → Prop :=
  Relation.ReflTransGen (Step links)

def Reachable (links : Links) (config : DispatchConfig) (resolver : Option ResolverId)
    (sequence : ReferenceCounter) (network : Network) : Prop :=
  Run links (start config resolver sequence) network

/-! ### The world of a network -/

/-- Every tracker in flight comes from the one that was handed over. -/
def Evolving (network : Network) : Prop :=
  ∀ flight ∈ network.flights, flight.holding.tracker.Evolves flight.stage.tracker

variable {links : Links} {network rest after : Network} {surroundings : Surroundings}
  {command : Command}

theorem Provides.world (provides : network.Provides links surroundings command rest)
    (evolving : network.Evolving) :
    network.world.Provides surroundings command rest.world := by
  cases provides with
  | submitted fresh => exact .submitted fresh
  | adopted brings fresh => exact .adopted brings fresh
  | @reclaimed before flight after tracker flying free evolved =>
      have held : network.world.held =
          before.map (·.holding) ++ flight.holding :: after.map (·.holding) := by
        simp [Network.world, flying]
      have whole := (evolving flight (by simp [flying])).trans evolved
      have taken : network.world.Provides surroundings (.retry tracker) _ := .reclaimed held whole
      simpa [Network.world] using taken
  | reported posted => exact .reported posted
  | bare empty => exact .bare empty

theorem Provides.flights_subset (provides : network.Provides links surroundings command rest) :
    rest.flights ⊆ network.flights := by
  cases provides with
  | submitted | adopted | reported | bare => exact fun _ => id
  | reclaimed flying =>
      rw [flying]
      exact List.append_subset.mpr ⟨List.subset_append_left _ _,
        List.subset_append_of_subset_right _ (List.subset_cons_self _ _)⟩

theorem Provides.controller_eq (provides : network.Provides links surroundings command rest) :
    rest.controller = network.controller := by
  cases provides <;> rfl

theorem Provides.history_eq (provides : network.Provides links surroundings command rest) :
    rest.history = network.history := by
  cases provides <;> rfl

theorem world_handle (links : Links) (ownRefs : Ticket → UInt8) (conditions : Conditions)
    (command : Command) (network : Network) :
    (network.handle links ownRefs conditions command).world =
      network.world.handle conditions command := by
  simp [handle, world, World.handle, handedOver, Links.launch, Happening.effects,
    Function.comp_def]

theorem Evolving.handle (evolving : network.Evolving) (ownRefs : Ticket → UInt8)
    (conditions : Conditions) (command : Command) :
    (network.handle links ownRefs conditions command).Evolving := by
  intro flight member
  rcases List.mem_append.mp member with old | new
  · exact evolving flight old
  · obtain ⟨holding, -, rfl⟩ := List.mem_map.mp new
    exact links.launch_evolves ownRefs holding

/-- A step of a network is a step of its world or leaves the world as it is. -/
theorem Step.world (step : Step links network after) (evolving : network.Evolving) :
    after.Evolving ∧
      ((∃ move, World.Step network.world move after.world) ∨ after.world = network.world) := by
  have landed {before later : List Flight} {flight : Flight} {report : Report}
      (flying : network.flights = before ++ flight :: later)
      (evolved : flight.stage.tracker.Evolves report.tracker) :
      ∃ move, World.Step network.world move
        { network.world with
          held := (before ++ later).map (·.holding)
          reports := network.reports ++ [report] } := by
    have held : network.world.held =
        before.map (·.holding) ++ flight.holding :: later.map (·.holding) := by
      simp [Network.world, flying]
    rw [List.map_append]
    exact ⟨_, .report held ((evolving flight (by simp [flying])).trans evolved)⟩
  cases step with
  | @handle rest conditions command ownRefs answer provides =>
      have remaining : rest.Evolving :=
        fun flight member => evolving flight (provides.flights_subset member)
      refine ⟨remaining.handle ownRefs conditions command, .inl ⟨.handle conditions command, ?_⟩⟩
      rw [world_handle]
      exact .handle (provides.world evolving)
  | @advance before flight later link submissions stage flying linked advances =>
      refine ⟨fun other member => ?_, .inr ?_⟩
      · have there := evolving flight (by simp [flying])
        rcases List.mem_append.mp member with earlier | member
        · exact evolving other (by simp [flying, earlier])
        · rcases List.mem_cons.mp member with rfl | later
          · exact there.trans advances.evolves
          · exact evolving other (by simp [flying, later])
      · simp [Network.world, flying, Happening.effects, List.flatMap_map]
  | @finish before flight later link tracker outcome flying linked finishes =>
      refine ⟨fun other member => evolving other ?_, .inl (landed flying finishes.evolves)⟩
      simp only [flying, List.mem_append, List.mem_cons] at member ⊢
      tauto
  | @report before flight later report flying free evolved =>
      refine ⟨fun other member => evolving other ?_, .inl (landed flying evolved)⟩
      simp only [flying, List.mem_append, List.mem_cons] at member ⊢
      tauto

variable {config : DispatchConfig} {resolver : Option ResolverId} {sequence : ReferenceCounter}

theorem Reachable.world (reachable : Reachable links config resolver sequence network) :
    network.Evolving ∧ World.Reachable config resolver sequence network.world := by
  induction reachable with
  | refl => exact ⟨fun _ member => (List.not_mem_nil member).elim, .start⟩
  | tail _ step ih =>
      obtain ⟨evolving, reached⟩ := ih
      obtain ⟨evolving', ⟨move, moved⟩ | same⟩ := step.world evolving
      · exact ⟨evolving', reached.next moved⟩
      · exact ⟨evolving', same ▸ reached⟩

theorem messages_trackers (evolving : network.Evolving) :
    network.trackers.map (·.message) =
      network.controller.waiting ++ network.world.heldMessages ++
        network.world.reportedMessages := by
  have flying : network.flights.map (·.stage.tracker.message) =
      network.flights.map (·.holding.tracker.message) :=
    List.map_congr_left fun flight member => (evolving flight member).message_eq
  simp [trackers, World.waiting_eq_map_trackers, Network.world, World.heldMessages,
    World.reportedMessages, flying, Function.comp_def]

/-- The trackers on their way and those that have completed are all messages, each once. -/
theorem trackers_perm (evolving : network.Evolving) (accounted : network.world.Accounted) :
    (network.trackers.map (·.message) ++ network.world.completedMessages).Perm
      network.world.entered := by
  have balanced := accounted.balanced
  rw [World.outside, ← List.append_assoc, ← List.append_assoc] at balanced
  rwa [messages_trackers evolving]

theorem tickets_nodup (evolving : network.Evolving) (accounted : network.world.Accounted) :
    (network.trackers.map (·.ticket)).Nodup := by
  have distinct := ((trackers_perm evolving accounted).map Message.ticket).nodup_iff.mpr
    accounted.distinct
  rw [List.map_append, List.map_map] at distinct
  exact (List.nodup_append.mp distinct).1

/-- Once a command has taken what it brings, that and the trackers left are all messages. -/
theorem Provides.perm (provides : network.Provides links surroundings command rest)
    (evolving : network.Evolving) (accounted : network.world.Accounted) :
    ((Controller.carried surroundings command ++ rest.trackers).map (·.message) ++
      rest.world.completedMessages).Perm rest.world.entered := by
  have remaining : rest.Evolving :=
    fun flight member => evolving flight (provides.flights_subset member)
  have balanced := (provides.world evolving).balanced accounted
  rw [World.outside, ← List.append_assoc, ← List.append_assoc, ← List.append_assoc] at balanced
  rw [List.map_append, messages_trackers remaining, ← List.append_assoc, ← List.append_assoc]
  exact balanced

theorem Provides.nodup (provides : network.Provides links surroundings command rest)
    (evolving : network.Evolving) (accounted : network.world.Accounted) :
    ((Controller.carried surroundings command ++ rest.trackers).map (·.ticket)).Nodup := by
  have distinct := ((provides.perm evolving accounted).map Message.ticket).nodup_iff.mpr
    ((provides.world evolving).distinct accounted.distinct)
  rw [List.map_append, List.map_map] at distinct
  exact (List.nodup_append.mp distinct).1

end Network

end OutboundSms
