import OutboundSms.Proofs.Custody

/-!
# Order

The order in which the messages submitted to a class are first handed to a
transport. A class that is selecting keeps it by the queue, as long as it puts what
comes in at the end of the queue. It does so exactly while selection is supported:
without a resolver what comes in overtakes the queue.
-/

set_option autoImplicit false

namespace OutboundSms

/-! ### Standings -/

/-- How the messages submitted to a class stand. `submitted` has all of them in order of
submission, `dispatched` those that a transport has been handed, in order of the first
time, and `waiting` the others, in queue order. -/
structure Standing where
  submitted : List Message
  dispatched : List Message
  waiting : List Message

namespace Standing

/-- Messages have first been handed over in the order in which they were submitted, and
none before one that still waits. -/
def InOrder (standing : Standing) : Prop :=
  standing.dispatched <+: standing.submitted

/-- What one move does to the standing of a class. `Step standing overtaking after` says
on the way whether a message overtakes another. -/
inductive Step (standing : Standing) : Prop → Standing → Prop where
  | still : Step standing False standing
  | queued {message} (fresh : message ∉ standing.submitted) :
      Step standing False
        { standing with
          submitted := standing.submitted ++ [message]
          waiting := standing.waiting ++ [message] }
  | direct {message} (fresh : message ∉ standing.submitted) :
      Step standing (standing.waiting ≠ [])
        { standing with
          submitted := standing.submitted ++ [message]
          dispatched := standing.dispatched ++ [message] }
  | flushed :
      Step standing False
        { standing with
          dispatched := standing.dispatched ++ standing.waiting
          waiting := [] }

/-- Messages are submitted once, and those that wait are the ones not handed over yet, in
order of submission. -/
structure Sound (standing : Standing) : Prop where
  distinct : standing.submitted.Nodup
  known : standing.dispatched ⊆ standing.submitted
  left : standing.waiting = standing.submitted.filter (· ∉ standing.dispatched)

variable {standing after : Standing} {overtaking : Prop}

theorem Step.sound (step : standing.Step overtaking after) (sound : standing.Sound) :
    after.Sound := by
  obtain ⟨distinct, known, left⟩ := sound
  cases step with
  | still => exact ⟨distinct, known, left⟩
  | @queued message fresh =>
      have unsent : message ∉ standing.dispatched := fun member => fresh (known member)
      refine ⟨?_, fun _ member => List.mem_append_left _ (known member), ?_⟩
      · exact List.concat_eq_append ▸ distinct.concat fresh
      · simp [left, unsent]
  | @direct message fresh =>
      refine ⟨List.concat_eq_append ▸ distinct.concat fresh, List.append_subset.mpr
        ⟨fun _ member => List.mem_append_left _ (known member), by simp⟩, ?_⟩
      simp only [left, List.filter_append, List.mem_append, List.mem_singleton, not_or]
      have others : standing.submitted.filter
          (fun other => other ∉ standing.dispatched ∧ ¬ other = message) =
          standing.submitted.filter (· ∉ standing.dispatched) := by
        refine List.filter_congr fun other member => ?_
        have different : ¬ other = message := fun same => fresh (same ▸ member)
        simp [different]
      rw [others]
      simp
  | flushed =>
      refine ⟨distinct, List.append_subset.mpr ⟨known, ?_⟩, ?_⟩
      · rw [left]
        exact List.filter_sublist.subset
      · refine (List.filter_eq_nil_iff.mpr fun message member => ?_).symm
        by_cases sent : message ∈ standing.dispatched <;> simp [left, member, sent]

/-- In order, those that wait are the rest of the submitted. -/
theorem Sound.append_waiting (sound : standing.Sound) (inOrder : standing.InOrder) :
    standing.dispatched ++ standing.waiting = standing.submitted := by
  obtain ⟨rest, whole⟩ := inOrder
  have distinct := sound.distinct
  rw [← whole] at distinct
  have apart := (List.nodup_append.mp distinct).2.2
  have waiting : standing.waiting = rest := by
    rw [sound.left, ← whole, List.filter_append]
    have none : standing.dispatched.filter (· ∉ standing.dispatched) = [] := by simp
    have all : rest.filter (· ∉ standing.dispatched) = rest :=
      List.filter_eq_self.mpr fun message member => by
        simpa using fun sent => apart message sent message member rfl
    rw [none, all, List.nil_append]
  rw [waiting, whole]

/-- Order is lost by overtaking, by nothing else, and for good. -/
theorem Step.inOrder_iff (step : standing.Step overtaking after) (sound : standing.Sound) :
    after.InOrder ↔ standing.InOrder ∧ ¬ overtaking := by
  cases step with
  | still => simp
  | @queued message fresh =>
      simp only [InOrder, not_false_eq_true, and_true, List.prefix_concat_iff]
      refine or_iff_right fun whole => fresh (sound.known ?_)
      simp [whole]
  | @direct message fresh =>
      simp only [InOrder, List.prefix_concat_iff, not_not]
      -- The message is the last of both lists, so nothing may be missing before it.
      constructor
      · rintro (whole | within)
        · have same := (List.append_inj' whole rfl).1
          exact ⟨same ▸ List.prefix_rfl, by simp [sound.left, same]⟩
        · exact absurd (within.subset (by simp)) fresh
      · rintro ⟨inOrder, none⟩
        have whole := sound.append_waiting inOrder
        rw [none, List.append_nil] at whole
        exact .inl (by rw [whole])
  | flushed =>
      simp only [not_false_eq_true, and_true]
      constructor
      · exact (List.prefix_append ..).trans
      · intro inOrder
        have whole := sound.append_waiting inOrder
        exact whole ▸ List.prefix_rfl

/-- The standing of a class: `submitted` are the messages submitted to all classes, `sent`
those of the class that have been handed over, and `queue` is its queue. -/
def of (trafficClass : TrafficClass) (submitted sent queue : List Message) : Standing where
  submitted := submitted.filter (·.trafficClass = trafficClass)
  dispatched := (sent.filter (· ∈ submitted)).eraseDups
  waiting := queue.filter fun message => message ∈ submitted ∧ message ∉ sent

variable {trafficClass : TrafficClass} {submitted sent queue : List Message} {message : Message}

private theorem dispatched_append (submitted sent : List Message) {later : List Message}
    (distinct : later.Nodup) :
    ((sent ++ later).filter (· ∈ submitted)).eraseDups =
      (sent.filter (· ∈ submitted)).eraseDups ++
        later.filter fun message => message ∈ submitted ∧ message ∉ sent := by
  rw [List.filter_append, eraseDups_append_of_nodup _ (distinct.filter _), List.filter_filter]
  congr 1
  refine List.filter_congr fun message _ => ?_
  by_cases fresh : message ∈ submitted <;> by_cases old : message ∈ sent <;> simp [fresh, old]

theorem of_flush (distinct : queue.Nodup) :
    of trafficClass submitted (sent ++ queue) [] =
      { of trafficClass submitted sent queue with
        dispatched := (of trafficClass submitted sent queue).dispatched ++
          (of trafficClass submitted sent queue).waiting
        waiting := [] } := by
  simp only [of, dispatched_append submitted sent distinct, List.filter_nil]

/-- A message counts for nothing once it has been handed over, and if it was not
submitted. -/
theorem of_sent_of_settled (settled : message ∈ submitted → message ∈ sent) :
    of trafficClass submitted (sent ++ [message]) queue =
      of trafficClass submitted sent queue := by
  have none : [message].filter (fun message => message ∈ submitted ∧ message ∉ sent) = [] := by
    simpa using settled
  have same : queue.filter (fun other => other ∈ submitted ∧ other ∉ sent ++ [message]) =
      queue.filter fun other => other ∈ submitted ∧ other ∉ sent := by
    refine List.filter_congr fun other _ => ?_
    by_cases equal : other = message
    · subst equal
      by_cases fresh : other ∈ submitted <;> simp [fresh, settled]
    · simp [equal]
  simp only [of, dispatched_append submitted sent (List.nodup_singleton message), none, same,
    List.append_nil]

theorem of_queued_of_settled (settled : message ∈ submitted → message ∈ sent) :
    of trafficClass submitted sent (queue ++ [message]) =
      of trafficClass submitted sent queue := by
  have none : [message].filter (fun message => message ∈ submitted ∧ message ∉ sent) = [] := by
    simpa using settled
  simp only [of, List.filter_append, none, List.append_nil]

private theorem filter_submit {messages : List Message} (new : message ∉ messages)
    (submitted : List Message) (keep : Message → Bool) :
    messages.filter (fun other => other ∈ submitted ++ [message] ∧ keep other) =
      messages.filter fun other => other ∈ submitted ∧ keep other := by
  refine List.filter_congr fun other member => ?_
  have different : ¬ other = message := fun same => new (same ▸ member)
  simp [different]

theorem of_submit (trafficClass : TrafficClass) (submitted : List Message)
    (unsent : message ∉ sent) (unqueued : message ∉ queue) :
    of trafficClass (submitted ++ [message]) sent queue =
      { of trafficClass submitted sent queue with
        submitted := (submitted ++ [message]).filter (·.trafficClass = trafficClass) } := by
  have sentSame := filter_submit unsent submitted fun _ => true
  have queueSame := filter_submit unqueued submitted fun other => other ∉ sent
  simp only [and_true, decide_eq_true_eq] at sentSame queueSame
  simp only [of, sentSame, queueSame]

theorem of_direct (submitted : List Message) (message : Message)
    (own : message.trafficClass = trafficClass) (unsent : message ∉ sent)
    (unqueued : message ∉ queue) :
    of trafficClass (submitted ++ [message]) (sent ++ [message]) queue =
      { of trafficClass submitted sent queue with
        submitted := (of trafficClass submitted sent queue).submitted ++ [message]
        dispatched := (of trafficClass submitted sent queue).dispatched ++ [message] } := by
  have sentSame := filter_submit unsent submitted fun _ => true
  have queueSame := filter_submit unqueued submitted fun other => other ∉ sent ++ [message]
  have waiting : queue.filter (fun other => other ∈ submitted ∧ other ∉ sent ++ [message]) =
      queue.filter fun other => other ∈ submitted ∧ other ∉ sent := by
    refine List.filter_congr fun other member => ?_
    have different : ¬ other = message := fun same => unqueued (same ▸ member)
    simp [different]
  simp only [and_true, decide_eq_true_eq] at sentSame queueSame
  simp only [of, dispatched_append _ sent (List.nodup_singleton message), sentSame, queueSame,
    waiting]
  simp [own, unsent]

theorem of_queued (submitted : List Message) (message : Message)
    (own : message.trafficClass = trafficClass) (unsent : message ∉ sent)
    (unqueued : message ∉ queue) :
    of trafficClass (submitted ++ [message]) sent (queue ++ [message]) =
      { of trafficClass submitted sent queue with
        submitted := (of trafficClass submitted sent queue).submitted ++ [message]
        waiting := (of trafficClass submitted sent queue).waiting ++ [message] } := by
  have sentSame := filter_submit unsent submitted fun _ => true
  have queueSame := filter_submit unqueued submitted fun other => other ∉ sent
  simp only [and_true, decide_eq_true_eq] at sentSame queueSame
  simp only [of, sentSame, List.filter_append, queueSame]
  simp [own, unsent]

end Standing

/-! ### What a command does to a standing -/

/-- A lane that gets only messages whose turn does not count moves on without overtaking:
its queue stays or is handed over as a whole. -/
theorem Lane.Step.standing {arriving : List Message} {before after : Lane}
    {events : List LaneEvent} (step : Lane.Step arriving before events after)
    (trafficClass : TrafficClass) {submitted sent : List Message}
    (settled : ∀ message ∈ arriving, message ∈ submitted → message ∈ sent)
    (distinct : before.queue.Nodup) :
    (Standing.of trafficClass submitted sent before.queue).Step False
      (Standing.of trafficClass submitted (sent ++ events.filterMap LaneEvent.sent?)
        after.queue) := by
  rcases step.moves with ⟨none, same⟩ | ⟨message, rfl, sent, same⟩ |
    ⟨message, rfl, none, queued⟩ | ⟨all, empty⟩
  · rw [none, same, List.append_nil]
    exact .still
  · rw [sent, same, Standing.of_sent_of_settled (settled message (List.mem_singleton.mpr rfl))]
    exact .still
  · rw [none, queued, List.append_nil,
      Standing.of_queued_of_settled (settled message (List.mem_singleton.mpr rfl))]
    exact .still
  · rw [all, empty, Standing.of_flush distinct]
    exact .flushed

/-- A message whose way is found is handed over at once or put at the end of the queue. -/
theorem Lane.Step.routed {message : Message} {before after : Lane} {events : List LaneEvent}
    (step : Lane.Step [message] before events after)
    (routing : ∀ event ∈ events, event.isRouting = true) :
    (events.filterMap LaneEvent.sent? = [message] ∧ after.queue = before.queue) ∨
      (events.filterMap LaneEvent.sent? = [] ∧ after.queue = before.queue ++ [message]) := by
  cases step with
  | sent => exact .inl ⟨rfl, rfl⟩
  | completed => cases routing _ (List.mem_singleton.mpr rfl)
  | queued => exact .inr ⟨rfl, rfl⟩
  | opened => exact .inr ⟨rfl, rfl⟩
  | unissued => exact .inl ⟨rfl, rfl⟩

namespace Controller

variable {controller : Controller} {conditions : Conditions} {kind : RequestKind}
  {tracker : Tracker}

theorem route_of_unsupported (unsupported : controller.selectionSupported = false) :
    controller.route conditions kind tracker =
      controller.dispatchDirect conditions.now tracker := by
  unfold route
  split
  · next enabled installed =>
    simp [selectionSupported, enabled, installed] at unsupported
  · rfl

theorem route_of_selecting (supported : controller.selectionSupported = true)
    (selecting : (controller.holder tracker.trafficClass).requested = true) :
    controller.route conditions kind tracker =
      (controller.enqueue conditions.now kind tracker, []) := by
  unfold route
  split
  · rw [if_pos selecting]
  · next other =>
    simp only [selectionSupported, Bool.and_eq_true, Option.isSome_iff_exists] at supported
    obtain ⟨enabled, resolver, installed⟩ := supported
    exact absurd installed (other resolver enabled)

/-- While selection is supported a message is handed over at once only where nothing
waits; otherwise it is handed over at once wherever it comes. -/
theorem route_queue (agrees : controller.Agrees) (conditions : Conditions) (kind : RequestKind)
    (tracker : Tracker) (unused : tracker.usedIms = false) :
    let turn := controller.route conditions kind tracker
    let queue := (controller.lane tracker.trafficClass).queue
    (sentOf tracker.trafficClass turn.2 = [tracker.message] ∧
      (turn.1.lane tracker.trafficClass).queue = queue ∧
      (controller.selectionSupported = true → queue = [])) ∨
    (sentOf tracker.trafficClass turn.2 = [] ∧
      (turn.1.lane tracker.trafficClass).queue = queue ++ [tracker.message] ∧
      controller.selectionSupported = true) := by
  have refines : Refines [tracker] controller (controller.route conditions kind tracker) :=
    route_refines agrees kind tracker unused
  have step := refines.lanes tracker.trafficClass
  have routing : ∀ event ∈ laneEvents tracker.trafficClass
      (controller.route conditions kind tracker).2, event.isRouting = true := by
    intro event member
    obtain ⟨entry, among, rfl⟩ := List.mem_map.mp member
    exact route_routing kind tracker entry (List.mem_filter.mp among).1
  simp only [arrivals, decide_true, List.filter_cons_of_pos, List.filter_nil, List.map_cons,
    List.map_nil] at step
  rcases step.routed routing with ⟨sent, same⟩ | ⟨none, queued⟩
  · refine .inl ⟨sent, same, fun supported => ?_⟩
    cases selecting : (controller.holder tracker.trafficClass).requested with
    | false => rw [lane_of_idle agrees selecting, Lane.idle]
    | true =>
        rw [route_of_selecting supported selecting] at sent
        cases sent
  · refine .inr ⟨none, queued, ?_⟩
    cases supported : controller.selectionSupported with
    | true => rfl
    | false =>
        rw [route_of_unsupported supported, dispatchDirect] at none
        simp [laneEvents, LaneEvent.sent?] at none

theorem handle_moves (agrees : controller.Agrees) (conditions : Conditions) (command : Command)
    (trafficClass : TrafficClass) :
    let turn := controller.handle conditions command
    let queue := (controller.lane trafficClass).queue
    (sentOf trafficClass turn.2 = [] ∧ (turn.1.lane trafficClass).queue = queue) ∨
    (∃ message, arrivals trafficClass (carried conditions.now command) = [message] ∧
      sentOf trafficClass turn.2 = [message] ∧ (turn.1.lane trafficClass).queue = queue) ∨
    (∃ message, arrivals trafficClass (carried conditions.now command) = [message] ∧
      sentOf trafficClass turn.2 = [] ∧
      (turn.1.lane trafficClass).queue = queue ++ [message]) ∨
    (sentOf trafficClass turn.2 = queue ∧ (turn.1.lane trafficClass).queue = []) :=
  ((handle_refines agrees conditions command).lanes trafficClass).moves

end Controller

/-! ### What a move does to a standing -/

theorem sentOf_subset_departures (trafficClass : TrafficClass) (effects : List Effect) :
    sentOf trafficClass effects ⊆ departures effects := by
  intro message member
  obtain ⟨event, seen, sends⟩ := List.mem_filterMap.mp member
  have leaves : event.departing? = some message := by
    cases event <;> simp_all [LaneEvent.sent?, LaneEvent.departing?]
  have both := (departures_perm effects).subset
  cases trafficClass with
  | normal => exact both (List.mem_append_left _ (List.mem_filterMap.mpr ⟨event, seen, leaves⟩))
  | emergency =>
      exact both (List.mem_append_right _ (List.mem_filterMap.mpr ⟨event, seen, leaves⟩))

theorem mem_sentOf {effects : List Effect} {slot : Slot} {tracker : Tracker} {domain : Domain}
    (sent : .send slot tracker domain ∈ effects) :
    tracker.message ∈ sentOf tracker.trafficClass effects := by
  refine List.mem_filterMap.mpr ⟨.sent tracker.message, ?_, rfl⟩
  refine List.mem_map.mpr
    ⟨(tracker.trafficClass, .sent tracker.message), List.mem_filter.mpr ⟨?_, by simp⟩, rfl⟩
  exact List.mem_filterMap.mpr ⟨_, sent, rfl⟩

namespace World

def standing (trafficClass : TrafficClass) (world : World) : Standing :=
  .of trafficClass world.submitted (sentOf trafficClass world.log)
    (world.controller.lane trafficClass).queue

/-- A message is submitted to a class while selection is not supported and a message
waits there that has never been handed over. -/
def Overtakes (trafficClass : TrafficClass) (moment : World × Move) : Prop :=
  ∃ conditions kind request, moment.2 = .handle conditions (.submit kind request) ∧
    (Controller.admitted conditions.now request).trafficClass = trafficClass ∧
    moment.1.controller.selectionSupported = false ∧
    (moment.1.standing trafficClass).waiting ≠ []

variable {config : DispatchConfig} {resolver : Option ResolverId}
  {sequence : ReferenceCounter} {world rest after : World} {command : Command}
  {conditions : Conditions} {trafficClass : TrafficClass}

theorem lane_queue_subset_waiting (controller : Controller) (trafficClass : TrafficClass) :
    (controller.lane trafficClass).queue ⊆ controller.waiting := by
  intro message member
  cases trafficClass <;> simp [Controller.waiting, member]

theorem Reachable.mem_sentOf_of_outside (reachable : Reachable config resolver sequence world) :
    ∀ tracker ∈ world.outsideTrackers,
      tracker.message ∈ sentOf tracker.trafficClass world.log := by
  refine reachable.invariant
    (fun world => ∀ tracker ∈ world.outsideTrackers,
      tracker.message ∈ sentOf tracker.trafficClass world.log) (fun _ member => by cases member) ?_
  intro world move after _ handed step
  cases step with
  | @report before holding behind report held evolved =>
      intro tracker member
      simp only [outsideTrackers, List.map_append, List.map_cons, List.map_nil, List.mem_append,
        List.mem_singleton] at member
      rcases member with kept | reported | rfl
      · refine handed tracker (List.mem_append_left _ ?_)
        simp only [held, List.map_append, List.map_cons, List.mem_append, List.mem_cons]
        tauto
      · exact handed tracker (List.mem_append_right _ reported)
      · have sent := handed holding.tracker (by simp [outsideTrackers, held])
        rw [← Tracker.trafficClass_message, ← evolved.message_eq] at sent
        exact sent
  | @handle rest conditions command provides =>
      intro tracker member
      rw [World.handle, sentOf_append, provides.log_eq, List.mem_append]
      simp only [outsideTrackers, World.handle, List.map_append, List.mem_append] at member
      rcases member with (held | sent) | reported
      · refine .inl (handed tracker (List.mem_append_left _ ?_))
        exact List.map_subset _ provides.held_subset held
      · obtain ⟨holding, there, rfl⟩ := List.mem_map.mp sent
        obtain ⟨effect, happened, holds⟩ := List.mem_filterMap.mp there
        cases effect <;> simp [Effect.holding?] at holds
        subst holds
        exact .inr (mem_sentOf happened)
      · refine .inl (handed tracker (List.mem_append_right _ ?_))
        exact List.map_subset _ provides.reports_subset reported

/-- A message that a command other than a submission brings has been handed over before,
or was never submitted. -/
theorem Provides.settled_of_not_submit (reachable : Reachable config resolver sequence world)
    (provides : world.Provides conditions.now command rest) (trafficClass : TrafficClass)
    (other : ∀ kind request, command ≠ .submit kind request) :
    ∀ message ∈ arrivals trafficClass (Controller.carried conditions.now command),
      message ∈ rest.submitted → message ∈ sentOf trafficClass world.log := by
  intro message member submitted
  rw [provides.submitted_eq other] at submitted
  obtain ⟨tracker, brought, rfl⟩ := List.mem_map.mp member
  obtain ⟨brought, own⟩ := List.mem_filter.mp brought
  have own : tracker.trafficClass = trafficClass := by simpa using own
  rcases provides.carried_origin brought with fresh | ⟨given, outside, evolved⟩
  · exact absurd (List.mem_map_of_mem (List.mem_append_left _ submitted)) fresh
  · have sent := reachable.mem_sentOf_of_outside given outside
    rw [← Tracker.trafficClass_message, ← evolved.message_eq, Tracker.trafficClass_message,
      own] at sent
    exact sent

theorem Accounted.queue_nodup (accounted : world.Accounted) (trafficClass : TrafficClass) :
    (world.controller.lane trafficClass).queue.Nodup := by
  have balanced := (accounted.balanced.map Message.ticket).nodup_iff.mpr accounted.distinct
  rw [List.map_append, List.nodup_append] at balanced
  have waiting := balanced.1.of_map
  rw [Controller.waiting, List.nodup_append] at waiting
  cases trafficClass with
  | normal => exact waiting.1
  | emergency => exact waiting.2.1

theorem Accounted.new_of_fresh (accounted : world.Accounted) (message : Message)
    (fresh : message.ticket ∉ world.tickets) (trafficClass : TrafficClass) :
    message ∉ world.submitted ∧ message ∉ sentOf trafficClass world.log ∧
      message ∉ (world.controller.lane trafficClass).queue := by
  have absent : message ∉ world.entered := fun member => fresh (List.mem_map_of_mem member)
  refine ⟨fun member => absent (List.mem_append_left _ member), fun member => absent ?_,
    fun member => absent ?_⟩
  · exact accounted.known (sentOf_subset_departures _ _ member)
  · exact accounted.balanced.subset
      (List.mem_append_left _ (lane_queue_subset_waiting _ _ member))

/-- A message is submitted to the class: it overtakes all that wait, or waits behind
them. -/
theorem standing_submit (agrees : world.controller.Agrees) (accounted : world.Accounted)
    {kind : RequestKind} {request : SendRequest} (fresh : request.ticket ∉ world.tickets)
    (own : (Controller.admitted conditions.now request).trafficClass = trafficClass) :
    ∃ overtaking,
      (Overtakes trafficClass (world, .handle conditions (.submit kind request)) ↔ overtaking) ∧
      (world.standing trafficClass).Step overtaking
        ((World.handle conditions (.submit kind request)
          { world with
            submitted := world.submitted ++
              [(Controller.admitted conditions.now request).message] }).standing
                trafficClass) := by
  obtain ⟨unsubmitted, unsent, unqueued⟩ := accounted.new_of_fresh
    (Controller.admitted conditions.now request).message fresh trafficClass
  have unlisted : (Controller.admitted conditions.now request).message ∉
      (world.standing trafficClass).submitted := fun member =>
    unsubmitted (List.mem_filter.mp member).1
  have routed := Controller.route_queue agrees conditions kind
    (Controller.admitted conditions.now request) rfl
  simp only [own] at routed
  rcases routed with ⟨sent, same, unqueuedOnly⟩ | ⟨none, queued, supported⟩
  · refine ⟨(world.standing trafficClass).waiting ≠ [], ⟨?_, ?_⟩, ?_⟩
    · rintro ⟨_, _, _, -, -, -, waits⟩
      exact waits
    · intro waits
      refine ⟨conditions, kind, request, rfl, own, ?_, waits⟩
      refine Bool.eq_false_iff.mpr fun supported => waits ?_
      simp [standing, Standing.of, unqueuedOnly supported]
    · have direct := Standing.of_direct world.submitted
        (Controller.admitted conditions.now request).message own unsent unqueued
      simp only [standing, World.handle, Controller.handle, Controller.accept, sentOf_append]
      rw [sent, same, direct]
      exact .direct unlisted
  · refine ⟨False, ⟨?_, False.elim⟩, ?_⟩
    · rintro ⟨_, _, _, -, -, unsupported, -⟩
      exact absurd (supported.symm.trans unsupported) (by decide)
    · have behind := Standing.of_queued world.submitted
        (Controller.admitted conditions.now request).message own unsent unqueued
      simp only [standing, World.handle, Controller.handle, Controller.accept, sentOf_append]
      rw [none, queued, List.append_nil, behind]
      exact .queued unlisted

/-- A command that submits nothing to the class does a step without overtaking. -/
theorem standing_of_settled (agrees : world.controller.Agrees) (accounted : world.Accounted)
    {submitted : List Message}
    (settled : ∀ message ∈ arrivals trafficClass (Controller.carried conditions.now command),
      message ∈ submitted → message ∈ sentOf trafficClass world.log) :
    (Standing.of trafficClass submitted (sentOf trafficClass world.log)
      (world.controller.lane trafficClass).queue).Step False
      (Standing.of trafficClass submitted
        (sentOf trafficClass (world.log ++ (world.controller.handle conditions command).2))
        ((world.controller.handle conditions command).1.lane trafficClass).queue) := by
  have lane := (Controller.handle_refines agrees conditions command).lanes trafficClass
  rw [sentOf_append]
  exact lane.standing trafficClass settled (accounted.queue_nodup trafficClass)

/-- A message submitted to one class changes nothing in the standing of the other. -/
theorem of_submit_other (accounted : world.Accounted) {request : SendRequest}
    (fresh : request.ticket ∉ world.tickets)
    (other : (Controller.admitted conditions.now request).trafficClass ≠ trafficClass) :
    world.standing trafficClass =
      .of trafficClass (world.submitted ++ [(Controller.admitted conditions.now request).message])
        (sentOf trafficClass world.log) (world.controller.lane trafficClass).queue := by
  obtain ⟨-, unsent, unqueued⟩ := accounted.new_of_fresh
    (Controller.admitted conditions.now request).message fresh trafficClass
  rw [Standing.of_submit trafficClass world.submitted unsent unqueued]
  simp [standing, Standing.of, other]

theorem Step.standing {move : Move} (reachable : Reachable config resolver sequence world)
    (step : World.Step world move after) (trafficClass : TrafficClass) :
    ∃ overtaking, (Overtakes trafficClass (world, move) ↔ overtaking) ∧
      (world.standing trafficClass).Step overtaking (after.standing trafficClass) := by
  have agrees := reachable.agrees
  have accounted := reachable.accounted
  cases step with
  | report =>
      refine ⟨False, ⟨?_, False.elim⟩, .still⟩
      rintro ⟨_, _, _, other, -⟩
      cases other
  | @handle rest conditions command provides =>
      by_cases submits : ∃ kind request, command = .submit kind request
      · obtain ⟨kind, request, rfl⟩ := submits
        cases provides with
        | adopted brings => simp [Command.tracker?] at brings
        | bare empty => simp [Controller.carried] at empty
        | submitted fresh =>
            by_cases own : (Controller.admitted conditions.now request).trafficClass =
                trafficClass
            · exact standing_submit agrees accounted fresh own
            · refine ⟨False, ⟨?_, False.elim⟩, ?_⟩
              · rintro ⟨_, _, _, same, mine, -⟩
                cases same
                exact own mine
              · rw [of_submit_other accounted fresh own]
                exact standing_of_settled agrees accounted
                  (by simp [arrivals, Controller.carried, own])
      · have other : ∀ kind request, command ≠ .submit kind request :=
          fun kind request same => submits ⟨kind, request, same⟩
        refine ⟨False, ⟨?_, False.elim⟩, ?_⟩
        · rintro ⟨_, kind, request, same, -⟩
          cases same
          exact other kind request rfl
        · have settled := provides.settled_of_not_submit reachable trafficClass other
          rw [provides.submitted_eq other] at settled
          simp only [World.standing, World.handle, provides.controller_eq, provides.log_eq,
            provides.submitted_eq other]
          exact standing_of_settled agrees accounted settled

/-! ### Runs -/

theorem Reachable.standing_sound (reachable : Reachable config resolver sequence world)
    (trafficClass : TrafficClass) : (world.standing trafficClass).Sound := by
  refine reachable.invariant (fun world => (world.standing trafficClass).Sound) ?_ ?_
  · cases trafficClass <;> exact ⟨List.nodup_nil, List.nil_subset _, rfl⟩
  · intro world move after reachable sound step
    obtain ⟨_, -, moved⟩ := step.standing reachable trafficClass
    exact moved.sound sound

/-- A class has kept its order exactly if no message has overtaken another there. -/
theorem Run.inOrder_iff {trace : List (World × Move)}
    (run : Run (.start config resolver sequence) trace world) (trafficClass : TrafficClass) :
    (world.standing trafficClass).InOrder ↔
      ∀ moment ∈ trace, ¬ Overtakes trafficClass moment := by
  induction run with
  | rest =>
      refine iff_of_true ?_ (by simp)
      cases trafficClass <;> exact List.nil_prefix
  | next run step ih =>
      have reachable : Reachable config resolver sequence _ := ⟨_, run⟩
      obtain ⟨overtaking, overtakes, moved⟩ := step.standing reachable trafficClass
      rw [moved.inOrder_iff (reachable.standing_sound trafficClass), ih, ← overtakes]
      simp only [List.forall_mem_append, List.forall_mem_singleton]

theorem Provides.not_arriving_of_queued (provides : world.Provides conditions.now command rest)
    (accounted : world.Accounted) {message : Message}
    (waits : message ∈ (world.controller.lane trafficClass).queue) :
    message ∉ arrivals trafficClass (Controller.carried conditions.now command) := by
  have distinct := ((provides.balanced accounted).map Message.ticket).nodup_iff.mpr
    (provides.distinct accounted.distinct)
  rw [provides.controller_eq, List.map_append, List.map_append, List.nodup_append] at distinct
  intro arrives
  refine distinct.2.2 message.ticket (List.mem_map_of_mem ?_) message.ticket
    (List.mem_append_left _ (List.mem_map_of_mem ?_)) rfl
  · exact List.map_subset _ List.filter_sublist.subset arrives
  · exact lane_queue_subset_waiting _ trafficClass waits

/-- A message that waits leaves its queue after all that are ahead of it there. -/
theorem Run.queue_kept {trace : List (World × Move)} {first later : World}
    (run : Run first trace later) (reachable : Reachable config resolver sequence first)
    {message : Message} {ahead behind : List Message}
    (queue : (first.controller.lane trafficClass).queue = ahead ++ message :: behind) :
    ∃ new, later.log = first.log ++ new ∧
      ((message ∉ sentOf trafficClass new ∧
          ∃ rest, (later.controller.lane trafficClass).queue = ahead ++ message :: rest) ∨
        ∃ early, early <+: sentOf trafficClass new ∧ message ∉ early ∧ ahead ⊆ early) := by
  induction run with
  | rest => exact ⟨[], by simp, .inl ⟨by simp [sentOf], behind, queue⟩⟩
  | @next trace world move after run step ih =>
      obtain ⟨new, log, sofar⟩ := ih
      have reachable := run.reachable reachable
      cases step with
      | report => exact ⟨new, log, sofar⟩
      | @handle rest conditions command provides =>
          refine ⟨new ++ (world.controller.handle conditions command).2, ?_, ?_⟩
          · rw [World.handle, provides.log_eq, provides.controller_eq, log, List.append_assoc]
          · rw [World.handle, provides.controller_eq, sentOf_append]
            -- The message still waits behind the same ones, or all of these have gone first.
            rcases sofar with ⟨unsent, others, waits⟩ | ⟨early, past, unsent, all⟩
            · have distinct := reachable.accounted.queue_nodup trafficClass
              rw [waits, List.nodup_append] at distinct
              rcases Controller.handle_moves reachable.agrees conditions command trafficClass with
                ⟨none, same⟩ | ⟨other, comes, sent, same⟩ | ⟨other, -, none, queued⟩ |
                ⟨flushed, -⟩
              · rw [none, List.append_nil]
                exact .inl ⟨unsent, others, same.trans waits⟩
              · have different : message ≠ other := by
                  rintro rfl
                  have waiting : message ∈ (world.controller.lane trafficClass).queue := by
                    simp [waits]
                  exact provides.not_arriving_of_queued reachable.accounted waiting
                    (by simp [comes])
                rw [sent]
                refine .inl ⟨?_, others, same.trans waits⟩
                rw [List.mem_append, List.mem_singleton, not_or]
                exact ⟨unsent, different⟩
              · rw [none, List.append_nil]
                refine .inl ⟨unsent, others ++ [other], ?_⟩
                rw [queued, waits, List.append_assoc, List.cons_append]
              · refine .inr ⟨sentOf trafficClass new ++ ahead, ⟨message :: others, ?_⟩, ?_,
                  List.subset_append_right _ _⟩
                · rw [List.append_assoc, ← waits, ← flushed]
                · rw [List.mem_append, not_or]
                  exact ⟨unsent, fun member =>
                    distinct.2.2 message member message List.mem_cons_self rfl⟩
            · exact .inr ⟨early, past.trans (List.prefix_append ..), unsent, all⟩

theorem Run.ahead_sent {trace : List (World × Move)} {first later : World}
    (run : Run first trace later) (reachable : Reachable config resolver sequence first)
    {message : Message} {ahead behind : List Message}
    (queue : (first.controller.lane trafficClass).queue = ahead ++ message :: behind)
    {new past : List Effect} (log : later.log = first.log ++ new) (before : past <+: new)
    (sent : message ∈ sentOf trafficClass past) : ahead ⊆ sentOf trafficClass past := by
  obtain ⟨recent, same, kept⟩ := run.queue_kept reachable queue
  obtain rfl : new = recent := List.append_cancel_left (log.symm.trans same)
  obtain ⟨after, rfl⟩ := before
  rw [sentOf_append] at kept
  rcases kept with ⟨unsent, -⟩ | ⟨early, past', unsent, all⟩
  · exact absurd (List.mem_append_left _ sent) unsent
  · rcases List.prefix_or_prefix_of_prefix past' (List.prefix_append ..) with inside | beyond
    · exact List.Subset.trans all inside.subset
    · exact absurd (beyond.subset sent) unsent

/-- A message submitted while its class is selecting is never handed over before those
that wait there, exactly if selection is supported at the time. -/
theorem Step.submit_behind_iff (reachable : Reachable config resolver sequence world)
    {kind : RequestKind} {request : SendRequest}
    (step : World.Step world (.handle conditions (.submit kind request)) after)
    (own : (Controller.admitted conditions.now request).trafficClass = trafficClass)
    (selecting : (world.controller.holder trafficClass).requested = true) :
    (∀ trace later new, Run after trace later → later.log = world.log ++ new →
      ∀ past, past <+: new →
        (Controller.admitted conditions.now request).message ∈ sentOf trafficClass past →
        (world.controller.lane trafficClass).queue ⊆ sentOf trafficClass past) ↔
      world.controller.selectionSupported = true := by
  have agrees := reachable.agrees
  have later := reachable.next step
  have waits : (world.controller.lane trafficClass).queue ≠ [] := by
    obtain ⟨active, held⟩ := (agrees trafficClass).active_of_selecting selecting
    have waiting := (agrees trafficClass).waiting
    simpa [Controller.lane, Controller.queued, held] using waiting
  cases step with
  | @handle rest _ _ provides =>
      have handled : world.controller.handle conditions (.submit kind request) =
          world.controller.route conditions kind (Controller.admitted conditions.now request) :=
        rfl
      have log : (rest.handle conditions (.submit kind request)).log = world.log ++
          (world.controller.handle conditions (.submit kind request)).2 := by
        rw [World.handle, provides.log_eq, provides.controller_eq]
      have routed := Controller.route_queue agrees conditions kind
        (Controller.admitted conditions.now request) rfl
      simp only [own, ← handled] at routed
      rcases routed with ⟨sent, -, empty⟩ | ⟨none, queued, supported⟩
      · refine iff_of_false (fun behind => ?_) fun supported => waits (empty supported)
        have all := behind [] _ _ .rest log _ List.prefix_rfl (by simp [sent])
        obtain ⟨first, member⟩ := List.exists_mem_of_ne_nil _ waits
        have same := all member
        rw [sent, List.mem_singleton] at same
        refine provides.not_arriving_of_queued reachable.accounted member ?_
        simp [arrivals, Controller.carried, own, same]
      · refine iff_of_true ?_ supported
        intro trace last new run ended past before sent
        have nothing : (world.controller.handle conditions (.submit kind request)).2 = [] := by
          rw [handled, Controller.route_of_selecting supported (own ▸ selecting)]
        rw [nothing, List.append_nil] at log
        have queue : ((rest.handle conditions (.submit kind request)).controller.lane
            trafficClass).queue = (world.controller.lane trafficClass).queue ++
              (Controller.admitted conditions.now request).message :: [] := by
          rw [World.handle, provides.controller_eq]
          exact queued
        exact run.ahead_sent later queue (log.symm ▸ ended) before sent

/-- When a class keeps its order. Messages submitted to it are first handed over in the
order of submission exactly if none is submitted while selection is not supported and a
message that has never been handed over waits. One that is submitted while the class is
selecting is handed over after all that wait exactly if selection is supported then. -/
theorem Run.order_kept_iff {trace : List (World × Move)}
    (run : Run (.start config resolver sequence) trace world) (trafficClass : TrafficClass) :
    ((world.standing trafficClass).InOrder ↔
      ∀ moment ∈ trace, ¬ Overtakes trafficClass moment) ∧
    ∀ conditions kind request after,
      World.Step world (.handle conditions (.submit kind request)) after →
      (Controller.admitted conditions.now request).trafficClass = trafficClass →
      (world.controller.holder trafficClass).requested = true →
      ((∀ trace later new, Run after trace later → later.log = world.log ++ new →
        ∀ past, past <+: new →
          (Controller.admitted conditions.now request).message ∈ sentOf trafficClass past →
          (world.controller.lane trafficClass).queue ⊆ sentOf trafficClass past) ↔
        world.controller.selectionSupported = true) :=
  ⟨run.inOrder_iff trafficClass, fun _ _ _ _ step own selecting =>
    Step.submit_behind_iff ⟨_, run⟩ step own selecting⟩

end World

namespace Sample

/-- The resolver is taken away while the first message waits. -/
def withoutResolver : World :=
  World.handle (.steady surroundings) (.installResolver none) selecting

/-- A second message is submitted, and overtakes the first. -/
def overtaken : World :=
  World.handle (.steady surroundings) (.submit .text (request 2))
    { withoutResolver with submitted := [message 1, message 2] }

def overtaken_trace : List (World × Move) :=
  [(start, .handle (.steady surroundings) (.submit .text (request 1))),
    (selecting, .handle (.steady surroundings) (.installResolver none)),
    (withoutResolver, .handle (.steady surroundings) (.submit .text (request 2)))]

theorem overtaken_run : World.Run start overtaken_trace overtaken := by
  have first : World.Run start _ selecting := .next .rest selecting_step
  have removal : World.Step selecting (.handle (.steady surroundings) (.installResolver none))
      withoutResolver := .handle (.bare rfl)
  exact (first.next removal).next (.handle (.submitted (by decide)))

/-- The second message has been handed over and the first has not. -/
theorem overtaken_not_inOrder :
    World.Overtakes .normal
        (withoutResolver, .handle (.steady surroundings) (.submit .text (request 2))) ∧
      ¬ (overtaken.standing .normal).InOrder := by
  have overtakes : World.Overtakes .normal
      (withoutResolver, .handle (.steady surroundings) (.submit .text (request 2))) :=
    ⟨_, _, _, rfl, rfl, rfl, by decide⟩
  refine ⟨overtakes, fun inOrder => ?_⟩
  exact (World.Run.order_kept_iff overtaken_run .normal).1.mp inOrder _
    (by simp [overtaken_trace]) overtakes

end Sample

end OutboundSms
