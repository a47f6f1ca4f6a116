import OutboundSms.Proofs.World
import OutboundSms.Message.Receipt

/-!
# Custody

Where every message is. Each command hands on exactly the messages that it brings
and those that it finds in the queues, each once, so a message that has come in is
in one place at any time, and in the same place for good once it has completed.
-/

set_option autoImplicit false

namespace OutboundSms

/-! ### What leaves a controller -/

def LaneEvent.departing? : LaneEvent → Option Message
  | sent message | completed message _ => some message
  | _ => none

/-- The message that an effect takes out of the controller: handed to a transport, or
completed. -/
def Effect.departing? (effect : Effect) : Option Message :=
  effect.traffic?.bind (·.2.departing?)

def departures (effects : List Effect) : List Message :=
  effects.filterMap Effect.departing?

def Controller.waiting (controller : Controller) : List Message :=
  (controller.lane .normal).queue ++ (controller.lane .emergency).queue

theorem departures_perm (effects : List Effect) :
    ((laneEvents .normal effects).filterMap LaneEvent.departing? ++
      (laneEvents .emergency effects).filterMap LaneEvent.departing?).Perm
      (departures effects) := by
  have all : departures effects = (traffic effects).filterMap (·.2.departing?) := by
    rw [traffic, List.filterMap_filterMap]
    rfl
  rw [all]
  exact laneEvents_perm LaneEvent.departing? effects

theorem arrivals_perm (trackers : List Tracker) :
    (arrivals .normal trackers ++ arrivals .emergency trackers).Perm
      (trackers.map (·.message)) := by
  simpa [arrivals] using (filter_classes_perm (·.trafficClass) trackers).map (·.message)

@[simp] theorem LaneEvent.departing?_comp_sent : departing? ∘ sent = some := rfl

/-- A lane gives away or keeps exactly what it gets and has. -/
theorem Lane.Step.conserves {arriving : List Message} {before after : Lane}
    {events : List LaneEvent} (step : Lane.Step arriving before events after) :
    (events.filterMap LaneEvent.departing? ++ after.queue).Perm (arriving ++ before.queue) := by
  cases step with
  | still => exact .rfl
  | sent => exact .rfl
  | completed => exact .rfl
  | queued => exact List.perm_append_singleton ..
  | opened => exact .rfl
  | unissued => exact .rfl
  | decided => simp [List.filterMap_cons, LaneEvent.departing?, Lane.idle]
  | terminated => simp [List.filterMap_cons, LaneEvent.departing?, Lane.idle]

/-- Every command hands on or keeps exactly the messages that it brings and those that
it finds in the queues. -/
theorem Controller.handle_conserves {controller : Controller} (agrees : controller.Agrees)
    (conditions : Conditions) (command : Command) :
    (departures (controller.handle conditions command).2 ++
      (controller.handle conditions command).1.waiting).Perm
      ((carried conditions.now command).map (·.message) ++ controller.waiting) := by
  have refines := handle_refines agrees conditions command
  have leaving := departures_perm (controller.handle conditions command).2
  have coming := arrivals_perm (carried conditions.now command)
  have normal := (refines.lanes .normal).conserves
  have emergency := (refines.lanes .emergency).conserves
  rw [List.perm_iff_count] at leaving coming normal emergency ⊢
  intro message
  have leaving := leaving message
  have coming := coming message
  have normal := normal message
  have emergency := emergency message
  simp only [waiting, List.count_append] at leaving coming normal emergency ⊢
  omega

/-! ### Places -/

/-- The places a message can be in: the queue of a class, the hands of a transport, an
outcome on its way back, or the end of its way. -/
inductive Place where
  | queued (trafficClass : TrafficClass)
  | held (slot : Slot)
  | reported
  | completed (result : SendResult)
  deriving DecidableEq, Repr

def Effect.completion? : Effect → Option (Place × Message)
  | .complete tracker result => some (.completed result, tracker.message)
  | _ => none

theorem departures_perm_places (effects : List Effect) :
    ((effects.filterMap Effect.holding?).map (·.tracker.message) ++
      (effects.filterMap Effect.completion?).map (·.2)).Perm (departures effects) := by
  induction effects with
  | nil => exact .rfl
  | cons effect rest ih =>
      cases effect with
      | send slot tracker domain => exact ih.cons tracker.message
      | complete tracker result => exact List.perm_middle.trans (ih.cons tracker.message)
      | publish event => cases event <;> exact ih
      | _ => exact ih

namespace World

def heldMessages (world : World) : List Message :=
  world.held.map (·.tracker.message)

def reportedMessages (world : World) : List Message :=
  world.reports.map (·.tracker.message)

def completedMessages (world : World) : List Message :=
  (world.log.filterMap Effect.completion?).map (·.2)

/-- Every place with a message in it. -/
def whereabouts (world : World) : List (Place × Message) :=
  (world.controller.lane .normal).queue.map (Place.queued .normal, ·) ++
    (world.controller.lane .emergency).queue.map (Place.queued .emergency, ·) ++
    world.held.map (fun holding => (.held holding.slot, holding.tracker.message)) ++
    world.reports.map (fun report => (.reported, report.tracker.message)) ++
    world.log.filterMap Effect.completion?

def outside (world : World) : List Message :=
  world.heldMessages ++ world.reportedMessages ++ world.completedMessages

theorem heldMessages_append_reportedMessages (world : World) :
    world.heldMessages ++ world.reportedMessages = world.outsideTrackers.map (·.message) := by
  simp [heldMessages, reportedMessages, outsideTrackers, Function.comp_def]

theorem messages_whereabouts (world : World) :
    world.whereabouts.map (·.2) = world.controller.waiting ++ world.outside := by
  simp [whereabouts, Controller.waiting, outside, heldMessages, reportedMessages,
    completedMessages, Function.comp_def]

end World

/-! ### Answers to senders -/

def Effect.receipts : Effect → List Receipt
  | .complete tracker result => tracker.finish result
  | _ => []

/-- Everything that the sent callback of a ticket has been given. -/
def answers (ticket : Ticket) (log : List Effect) : List Receipt :=
  (log.flatMap Effect.receipts).filter fun receipt =>
    !receipt.endsDelivery && receipt.ticket = ticket

/-- What the sent callback of a message has been given once the message is in a place:
its result where it has completed, unless nobody waits for it. -/
def Place.answers (message : Message) : Place → List Receipt
  | completed result => if message.awaitsSent then [.sent message.ticket result] else []
  | _ => []

theorem answers_eq (ticket : Ticket) (log : List Effect) :
    answers ticket log =
      ((log.filterMap Effect.completion?).filter (·.2.ticket = ticket)).flatMap
        fun entry => entry.1.answers entry.2 := by
  induction log with
  | nil => rfl
  | cons effect rest ih =>
      rw [answers] at ih ⊢
      rw [List.flatMap_cons, List.filter_append, ih]
      cases effect with
      | complete tracker result =>
          by_cases same : tracker.ticket = ticket <;> cases awaits : tracker.awaitsSent <;>
            cases delivery : tracker.awaitsDelivery <;>
            simp [Effect.receipts, Tracker.finish, Effect.completion?, Place.answers, same,
              awaits, delivery, Receipt.endsDelivery, Receipt.ticket, Tracker.message]
      | _ => rfl

/-! ### Accounts -/

def Effect.Completes (effect : Effect) (ticket : Ticket) : Prop :=
  ∃ tracker result, effect = .complete tracker result ∧ tracker.ticket = ticket

/-- The effect hands over or completes the message with this ticket. -/
def Effect.Releases (effect : Effect) (ticket : Ticket) : Prop :=
  ∃ message, effect.departing? = some message ∧ message.ticket = ticket

theorem Effect.Completes.releases {effect : Effect} {ticket : Ticket}
    (completes : effect.Completes ticket) : effect.Releases ticket := by
  obtain ⟨tracker, result, rfl, same⟩ := completes
  exact ⟨tracker.message, rfl, same⟩

namespace World

/-- The accounts of a world are in order: the messages in some place are exactly those
that have come in, no two of these have the same ticket, only these have ever left the
controller, and nothing has happened to a message after its completion. -/
structure Accounted (world : World) : Prop where
  balanced : (world.controller.waiting ++ world.outside).Perm world.entered
  distinct : world.tickets.Nodup
  known : departures world.log ⊆ world.entered
  final : world.log.Pairwise fun earlier later =>
    ∀ ticket, earlier.Completes ticket → ¬ later.Releases ticket

variable {world rest : World} {surroundings : Surroundings} {command : Command}

/-- Once a command has taken what it brings, that and the rest are all messages. -/
theorem Provides.balanced (provides : world.Provides surroundings command rest)
    (accounted : world.Accounted) :
    ((Controller.carried surroundings command).map (·.message) ++
      (rest.controller.waiting ++ rest.outside)).Perm rest.entered := by
  have balanced := accounted.balanced
  rw [List.perm_iff_count] at balanced ⊢
  intro message
  have balanced := balanced message
  cases provides with
  | submitted fresh =>
      simp only [Controller.carried, entered, outside, heldMessages, reportedMessages,
        completedMessages, List.map_cons, List.map_nil, List.count_append] at balanced ⊢
      omega
  | @adopted command tracker brings fresh =>
      simp only [Controller.carried_of_brings brings, entered, outside, heldMessages,
        reportedMessages, completedMessages, List.map_cons, List.map_nil,
        List.count_append] at balanced ⊢
      omega
  | @reclaimed before holding after tracker held evolved =>
      simp only [Controller.carried, entered, outside, heldMessages, reportedMessages,
        completedMessages, held, List.map_append, List.map_cons, List.map_nil,
        evolved.message_eq, List.count_append, List.count_cons, List.count_nil] at balanced ⊢
      omega
  | @reported before report after posted =>
      simp only [Controller.carried, Report.command, entered, outside, heldMessages,
        reportedMessages, completedMessages, posted, List.map_append, List.map_cons,
        List.map_nil, List.count_append, List.count_cons, List.count_nil] at balanced ⊢
      omega
  | bare empty =>
      simpa only [empty, List.map_nil, List.nil_append] using balanced

private theorem distinct_of_perm_cons (message : Message)
    (perm : rest.entered.Perm (message :: world.entered))
    (fresh : message.ticket ∉ world.tickets) (distinct : world.tickets.Nodup) :
    rest.tickets.Nodup :=
  (perm.map Message.ticket).nodup_iff.mpr (List.nodup_cons.mpr ⟨fresh, distinct⟩)

theorem Provides.distinct (provides : world.Provides surroundings command rest)
    (distinct : world.tickets.Nodup) : rest.tickets.Nodup := by
  cases provides with
  | @submitted kind request fresh =>
      refine distinct_of_perm_cons (Controller.admitted surroundings request).message
        ?_ fresh distinct
      rw [entered, entered, List.append_assoc]
      exact List.perm_middle
  | @adopted _ tracker _ fresh =>
      refine distinct_of_perm_cons tracker.message ?_ fresh distinct
      rw [entered, entered, ← List.append_assoc]
      exact List.perm_append_singleton ..
  | reclaimed => exact distinct
  | reported => exact distinct
  | bare => exact distinct

theorem outside_handle (conditions : Conditions) (command : Command) (world : World) :
    (world.handle conditions command).outside.Perm
      (departures (world.controller.handle conditions command).2 ++ world.outside) := by
  have leaving := departures_perm_places (world.controller.handle conditions command).2
  rw [List.perm_iff_count] at leaving ⊢
  intro message
  have leaving := leaving message
  simp only [handle, outside, heldMessages, reportedMessages, completedMessages,
    List.filterMap_append, List.map_append, List.count_append] at leaving ⊢
  omega

theorem Accounted.start (config : DispatchConfig) (resolver : Option ResolverId)
    (sequence : ReferenceCounter) : (World.start config resolver sequence).Accounted where
  balanced := .rfl
  distinct := List.nodup_nil
  known := List.nil_subset _
  final := .nil

theorem Provides.entered_subset (provides : world.Provides surroundings command rest) :
    world.entered ⊆ rest.entered := by
  cases provides with
  | submitted | adopted =>
      intro message member
      simp only [entered, List.mem_append] at member ⊢
      tauto
  | reclaimed | reported | bare => exact fun _ => id

/-- What has left the controller with a command, what is in its queues afterwards and
what was outside before are all messages. -/
theorem Provides.settled {conditions : Conditions} (agrees : world.controller.Agrees)
    (provides : world.Provides conditions.now command rest) (accounted : world.Accounted) :
    (departures (rest.controller.handle conditions command).2 ++
      (rest.controller.handle conditions command).1.waiting ++ rest.outside).Perm
        rest.entered := by
  have conserved := Controller.handle_conserves (provides.controller_eq ▸ agrees) conditions
    command
  have whole := provides.balanced accounted
  rw [← List.append_assoc] at whole
  exact (conserved.append_right rest.outside).trans whole

theorem Provides.settled_distinct {conditions : Conditions} (agrees : world.controller.Agrees)
    (provides : world.Provides conditions.now command rest) (accounted : world.Accounted) :
    ((departures (rest.controller.handle conditions command).2 ++
      (rest.controller.handle conditions command).1.waiting ++ rest.outside).map
        (·.ticket)).Nodup :=
  ((provides.settled agrees accounted).map Message.ticket).nodup_iff.mpr
    (provides.distinct accounted.distinct)

theorem Accounted.handle {conditions : Conditions} (agrees : world.controller.Agrees)
    (provides : world.Provides conditions.now command rest) (accounted : world.Accounted) :
    (rest.handle conditions command).Accounted := by
  have settled := provides.settled agrees accounted
  have distinct := provides.settled_distinct agrees accounted
  rw [List.append_assoc, List.map_append, List.nodup_append] at distinct
  obtain ⟨leaving, -, apart⟩ := distinct
  refine ⟨?_, provides.distinct accounted.distinct, ?_, ?_⟩
  · refine ((outside_handle conditions command rest).append_left _).trans ?_
    refine (List.perm_append_comm_assoc ..).trans ?_
    rwa [List.append_assoc] at settled
  · intro message member
    rw [World.handle, departures, List.filterMap_append, List.mem_append] at member
    rcases member with old | new
    · rw [provides.log_eq] at old
      exact provides.entered_subset (accounted.known old)
    · exact settled.subset (List.mem_append_left _ (List.mem_append_left _ new))
  · have past := accounted.final
    rw [← provides.log_eq] at past
    refine List.pairwise_append.mpr ⟨past, ?_, ?_⟩
    · -- Each message leaves at most once with one command.
      rw [departures, List.map_filterMap, List.Nodup, List.pairwise_filterMap] at leaving
      refine leaving.imp fun {earlier later} different ticket completes releases => ?_
      obtain ⟨first, firstLeaves, firstTicket⟩ := completes.releases
      obtain ⟨second, secondLeaves, secondTicket⟩ := releases
      exact different first.ticket (by simp [firstLeaves]) second.ticket
        (by simp [secondLeaves]) (firstTicket.trans secondTicket.symm)
    · rintro earlier old later new ticket ⟨tracker, result, rfl, ended⟩ ⟨message, leaves, same⟩
      have completed : tracker.message ∈ rest.completedMessages :=
        List.mem_map.mpr ⟨_, List.mem_filterMap.mpr ⟨_, old, rfl⟩, rfl⟩
      refine apart message.ticket (List.mem_map_of_mem ?_) tracker.ticket ?_
        (same.trans ended.symm)
      · exact List.mem_filterMap.mpr ⟨later, new, leaves⟩
      · exact List.mem_map.mpr ⟨tracker.message, List.mem_append_right _
          (List.mem_append_right _ completed), rfl⟩

theorem Accounted.report {before after : List Holding} {holding : Holding} {report : Report}
    (held : world.held = before ++ holding :: after)
    (evolved : holding.tracker.Evolves report.tracker) (accounted : world.Accounted) :
    Accounted { world with held := before ++ after, reports := world.reports ++ [report] } := by
  refine ⟨?_, accounted.distinct, accounted.known, accounted.final⟩
  have balanced := accounted.balanced
  rw [List.perm_iff_count] at balanced ⊢
  intro message
  have balanced := balanced message
  simp only [entered, outside, heldMessages, reportedMessages, completedMessages, held,
    List.map_append, List.map_cons, List.map_nil, evolved.message_eq, List.count_append,
    List.count_cons, List.count_nil] at balanced ⊢
  omega

variable {config : DispatchConfig} {resolver : Option ResolverId}
  {sequence : ReferenceCounter} {later : World} {trace : List (World × Move)}

theorem Reachable.accounted (reachable : Reachable config resolver sequence world) :
    world.Accounted := by
  refine reachable.invariant World.Accounted (.start config resolver sequence) ?_
  intro world move after reachable accounted step
  cases step with
  | handle provides => exact accounted.handle reachable.agrees provides
  | report held evolved => exact accounted.report held evolved

/-! ### One place at any time -/

theorem Reachable.whereabouts_distinct (reachable : Reachable config resolver sequence world) :
    (world.whereabouts.map (·.2.ticket)).Nodup := by
  have accounted := reachable.accounted
  have balanced := accounted.balanced.map Message.ticket
  rw [← messages_whereabouts, List.map_map] at balanced
  exact balanced.nodup_iff.mpr accounted.distinct

theorem Reachable.whereabouts_filter (reachable : Reachable config resolver sequence world)
    {place : Place} {message : Message} (there : (place, message) ∈ world.whereabouts) :
    world.whereabouts.filter (·.2.ticket = message.ticket) = [(place, message)] :=
  filter_key_of_mem reachable.whereabouts_distinct there

theorem Reachable.answers_eq (reachable : Reachable config resolver sequence world)
    {place : Place} {message : Message} (there : (place, message) ∈ world.whereabouts) :
    answers message.ticket world.log = place.answers message := by
  have alone := congrArg (List.flatMap fun entry => entry.1.answers entry.2)
    (reachable.whereabouts_filter there)
  -- Nothing has been answered in any place but the last.
  have silent {α : Type} (values : List α) :
      (values.flatMap fun _ => ([] : List Receipt)) = [] :=
    List.flatMap_eq_nil_iff.mpr fun _ _ => rfl
  rw [OutboundSms.answers_eq]
  simpa [silent, whereabouts, List.filter_map, List.flatMap_map, Function.comp_def, Place.answers]
    using alone

theorem mem_whereabouts_completed {result : SendResult} {message : Message} :
    (.completed result, message) ∈ world.whereabouts ↔
      (.completed result, message) ∈ world.log.filterMap Effect.completion? := by
  simp [whereabouts]

theorem mem_whereabouts_queued {trafficClass : TrafficClass} {message : Message} :
    (.queued trafficClass, message) ∈ world.whereabouts ↔
      message ∈ (world.controller.lane trafficClass).queue := by
  have elsewhere : (.queued trafficClass, message) ∉ world.log.filterMap Effect.completion? := by
    intro member
    obtain ⟨effect, -, ends⟩ := List.mem_filterMap.mp member
    cases effect <;> simp [Effect.completion?] at ends
  cases trafficClass <;> simp [whereabouts, -List.mem_filterMap, elsewhere]

theorem trafficClass_of_whereabouts (agrees : world.controller.Agrees)
    {trafficClass : TrafficClass} {message : Message}
    (there : (.queued trafficClass, message) ∈ world.whereabouts) :
    message.trafficClass = trafficClass := by
  obtain ⟨tracker, member, rfl⟩ := List.mem_map.mp (mem_whereabouts_queued.mp there)
  exact Controller.trafficClass_of_queued agrees member

/-- Nothing is lost and nothing is duplicated. Every message that has come in is in
one place, be it a queue of its own class, the hands of one transport, one outcome
not handled yet or the end of its way; its sender has been given the result, once, if
it is there and nothing before; and once there it stays there and is neither handed
over nor completed again. -/
theorem Reachable.custody (reachable : Reachable config resolver sequence world) :
    (∀ message ∈ world.entered, ∃ place,
      world.whereabouts.filter (·.2.ticket = message.ticket) = [(place, message)] ∧
      (∀ trafficClass, place = .queued trafficClass → message.trafficClass = trafficClass) ∧
      answers message.ticket world.log = place.answers message) ∧
    (∀ entry ∈ world.whereabouts, entry.2 ∈ world.entered) ∧
    (world.log.Pairwise fun earlier later =>
      ∀ ticket, earlier.Completes ticket → ¬ later.Releases ticket) ∧
    (∀ message result, (.completed result, message) ∈ world.whereabouts →
      ∀ trace later, Run world trace later →
        later.whereabouts.filter (·.2.ticket = message.ticket) =
          [(.completed result, message)] ∧
        answers message.ticket later.log = answers message.ticket world.log) := by
  have accounted := reachable.accounted
  have balanced := accounted.balanced
  rw [← messages_whereabouts] at balanced
  refine ⟨?_, ?_, accounted.final, ?_⟩
  · intro message member
    obtain ⟨⟨place, _⟩, there, rfl⟩ := List.mem_map.mp (balanced.mem_iff.mpr member)
    refine ⟨place, reachable.whereabouts_filter there, ?_, reachable.answers_eq there⟩
    rintro trafficClass rfl
    exact trafficClass_of_whereabouts reachable.agrees there
  · intro entry there
    exact balanced.mem_iff.mp (List.mem_map_of_mem there)
  · intro message result there trace later run
    have there' : (.completed result, message) ∈ later.whereabouts :=
      mem_whereabouts_completed.mpr
        ((run.log_prefix.filterMap _).subset (mem_whereabouts_completed.mp there))
    have reachable' := run.reachable reachable
    refine ⟨reachable'.whereabouts_filter there', ?_⟩
    rw [reachable'.answers_eq there', reachable.answers_eq there]

end World

namespace Sample

/-- The outcome that the transport has for the message. -/
def outcome : Report where
  tracker := ((Controller.admitted surroundings (request 1)).assignRef 0).recordDispatch .ps
  domain := .ps
  outcome := .sent

/-- The outcome has been handled. -/
def completed : World :=
  World.handle (.steady surroundings) outcome.command { sent with held := [], reports := [] }

theorem completed_reachable : World.Reachable {} (some 0) (.new 256) completed := by
  have held : sent.held =
      [] ++ { slot := .ps, tracker := outcome.tracker, domain := .ps } :: [] := rfl
  have posted : { sent with held := [], reports := [outcome] : World }.reports =
      [] ++ outcome :: [] := rfl
  have reported := sent_reachable.next (.report held .unchanged)
  exact reported.next (.handle (.reported posted))

/-- The message has completed, is nowhere else, and has been answered once. -/
theorem completed_custody :
    completed.whereabouts.filter (·.2.ticket = 1) =
        [(.completed (.sent (some 0)), message 1)] ∧
      answers 1 completed.log = [.sent 1 (.sent (some 0))] := by
  have member : message 1 ∈ completed.entered := by decide
  have there : completed.whereabouts = [(.completed (.sent (some 0)), message 1)] := by decide
  obtain ⟨place, alone, -, answered⟩ :=
    (World.Reachable.custody completed_reachable).1 (message 1) member
  have filtered : completed.whereabouts.filter (·.2.ticket = 1) =
      [(.completed (.sent (some 0)), message 1)] := by
    rw [there]
    rfl
  obtain rfl : place = .completed (.sent (some 0)) := by
    have same := alone.symm.trans filtered
    simpa using same
  exact ⟨alone, answered⟩

end Sample

end OutboundSms
