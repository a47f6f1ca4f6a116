import OutboundSms.Proofs.Holders
import OutboundSms.Proofs.Shares

/-!
# Emergency sessions

An emergency session is opened and closed by different operations on different
conditions: a dispatch opens one if its tracker has no last domain, and a completion
closes one in the domain it is told. Both are right because every tracker knows the last
domain of its message, wherever it is. So the dispatches and the result of a message fix
when its session is opened and closed.
-/

set_option autoImplicit false

namespace OutboundSms

theorem Tracker.Evolves.lastDomain_eq {given tracker : Tracker} (evolved : given.Evolves tracker) :
    tracker.lastDomain = given.lastDomain := by
  induction evolved with
  | unchanged => rfl
  | assignRef _ _ ih => exact ih
  | countRetry _ ih => exact ih
  | releaseDelivery _ ih => exact ih

/-! ### The milestones of a message -/

/-- What shows when the session of a message is opened and closed. -/
inductive Milestone where
  | opened (destination : String) (overIms : Bool)
  | dispatched (domain : Domain)
  | closed (messageId : UInt64) (success : Bool) (domain : Domain)
  | completed (result : SendResult)
  deriving DecidableEq

def Milestone.isSession : Milestone → Bool
  | opened _ _ | closed _ _ _ => true
  | dispatched _ | completed _ => false

def Effect.milestone? : Effect → Option Milestone
  | .openSession destination overIms => some (.opened destination overIms)
  | .send _ _ domain => some (.dispatched domain)
  | .closeSession messageId success domain => some (.closed messageId success domain)
  | .complete _ result => some (.completed result)
  | _ => none

def milestones (ticket : Ticket) (log : List Effect) : List Milestone :=
  (share ticket log).filterMap Effect.milestone?

/-- The domains that the message of a ticket has been handed over for, in order. -/
def domainsOf (ticket : Ticket) (log : List Effect) : List Domain :=
  ((handedOver log).filter (·.tracker.ticket = ticket)).map (·.domain)

namespace Message

/-- A session is opened at the first dispatch of an emergency message. `behind` is the
domain of the last dispatch it had behind it when it came in. -/
def opening (message : Message) (behind : Option Domain) (domains : List Domain) :
    List Milestone :=
  match behind, domains with
  | none, first :: _ =>
      if message.emergency then [.opened message.destination first.isPs] else []
  | _, _ => []

/-- The session is closed with the result, in the domain of the last dispatch. -/
def ending (message : Message) (last : Option Domain) (result : SendResult) : List Milestone :=
  (match last with
    | some domain =>
        if message.emergency then
          [.closed message.options.messageId result.isSuccess domain]
        else []
    | none => []) ++ [.completed result]

/-- The milestones of a message with these dispatches and this result. -/
def course (message : Message) (behind : Option Domain) (domains : List Domain)
    (result : Option SendResult) : List Milestone :=
  message.opening behind domains ++ domains.map .dispatched ++
    result.toList.flatMap (message.ending (domains.getLast?.or behind))

variable (message : Message) (behind : Option Domain) (domains : List Domain)

theorem course_nil : message.course behind [] none = [] := by
  cases behind <;> rfl

theorem course_concat (domain : Domain) :
    message.course behind (domains ++ [domain]) none =
      message.course behind domains none ++
        ((if (domains.getLast?.or behind).isNone && message.emergency then
          [.opened message.destination domain.isPs] else []) ++ [.dispatched domain]) := by
  cases domains with
  | nil => cases behind <;> simp [course, opening]
  | cons first rest =>
      cases behind <;> simp [course, opening]

theorem course_some (result : SendResult) :
    message.course behind domains (some result) =
      message.course behind domains none ++
        message.ending (domains.getLast?.or behind) result := by
  simp [course]

end Message

/-- Whether the milestones leave a session open. -/
def sessionOpen (milestones : List Milestone) : Bool :=
  milestones.foldl
    (fun isOpen milestone =>
      match milestone with
      | .opened _ _ => true
      | .closed _ _ _ => false
      | .dispatched _ | .completed _ => isOpen)
    false

theorem Message.sessionOpen_course (message : Message) (domains : List Domain)
    (result : Option SendResult) :
    sessionOpen (message.course none domains result) =
      (message.emergency && !domains.isEmpty && result.isNone) := by
  have dispatched (isOpen : Bool) (domains : List Domain) :
      (domains.map Milestone.dispatched).foldl
        (fun isOpen milestone =>
          match milestone with
          | .opened _ _ => true
          | .closed _ _ _ => false
          | .dispatched _ | .completed _ => isOpen) isOpen = isOpen := by
    induction domains with
    | nil => rfl
    | cons domain rest ih => exact ih
  unfold sessionOpen course
  rw [List.foldl_append, List.foldl_append, dispatched]
  cases domains with
  | nil => cases result <;> simp [opening, ending]
  | cons first rest =>
      cases emergency : message.emergency <;> cases result <;>
        simp [opening, ending, emergency, List.getLast?_cons]

/-! ### Dispatches and completions -/

namespace Controller

variable {conditions : Conditions} {surroundings : Surroundings} {controller : Controller}

theorem milestones_dispatch (tracks : surroundings.tracksEmergency = true) (slot : Slot)
    (tracker : Tracker) :
    (controller.dispatch surroundings slot tracker).2.filterMap Effect.milestone? =
      (if tracker.lastDomain.isNone && tracker.emergency then
        [.opened tracker.destination (surroundings.transport slot).domain.isPs] else []) ++
        [.dispatched (surroundings.transport slot).domain] := by
  have given := message_assignRef (surroundings.transport slot) tracker controller
  have fresh : ((controller.assignRef (surroundings.transport slot) tracker).1).isFirstDispatch =
      tracker.lastDomain.isNone := by
    unfold assignRef
    split <;> rfl
  have emergency : ((controller.assignRef (surroundings.transport slot) tracker).1).emergency =
      tracker.emergency := congrArg Message.emergency given
  have destination :
      ((controller.assignRef (surroundings.transport slot) tracker).1).destination =
        tracker.destination := congrArg Message.destination given
  simp only [dispatch_effects, sessionOpening, fresh, emergency, destination, tracks,
    Bool.and_true]
  split <;> rfl

theorem milestones_complete (tracks : surroundings.tracksEmergency = true) (tracker : Tracker)
    (result : SendResult) (domain : Option Domain) :
    (controller.complete surroundings tracker result domain).2.filterMap Effect.milestone? =
      tracker.message.ending domain result := by
  cases domain with
  | none => rfl
  | some domain =>
      cases emergency : tracker.emergency <;>
        simp only [complete, sessionClosing, Message.ending, Tracker.message, tracks, emergency] <;>
        rfl

end Controller

/-- The domain in which a command completes the message that it brings, if it does. -/
def Command.endDomain? : Command → Option Domain
  | .retry tracker | .outcome tracker _ .retryRequested => tracker.lastDomain
  | .outcome _ domain _ => some domain
  | _ => none

theorem Routing.not_complete {effects : List Effect} (routing : Routing effects)
    (tracker : Tracker) (result : SendResult) : .complete tracker result ∉ effects :=
  fun member => nomatch routing (tracker.trafficClass, .completed tracker.message result)
    (List.mem_filterMap.mpr ⟨_, member, rfl⟩)

namespace Controller

variable {conditions : Conditions} {surroundings : Surroundings} {controller : Controller}
  {tracker : Tracker} {result : SendResult}

theorem mem_complete {given : Tracker} {told : SendResult} {domain : Option Domain}
    (member : .complete tracker result ∈ (controller.complete surroundings given told domain).2) :
    tracker = given ∧ result = told := by
  unfold complete sessionClosing at member
  split at member
  · split at member <;> simpa using member
  · simpa using member

theorem sendRetry_of_complete {given : Tracker}
    (member : .complete tracker result ∈ (controller.sendRetry conditions given).2) :
    tracker = given ∧ (controller.sendRetry conditions given).2 =
      (controller.complete conditions.now given result given.lastDomain).2 := by
  unfold sendRetry at member ⊢
  split at member
  · next malformed =>
    obtain ⟨rfl, rfl⟩ := mem_complete member
    rw [if_pos malformed]
    exact ⟨rfl, rfl⟩
  · split at member
    · exact absurd member ((dispatch_routing _ _).not_complete _ _)
    · exact absurd member ((route_routing _ _).not_complete _ _)

/-- A command that completes a message does nothing else, and closes it in its domain. -/
theorem handle_of_complete (agrees : controller.Agrees) {command : Command}
    (member : .complete tracker result ∈ (controller.handle conditions command).2) :
    tracker ∈ carried conditions.now command ∧ (controller.handle conditions command).2 =
      (controller.complete conditions.now tracker result command.endDomain?).2 := by
  have moves := handle_moved agrees conditions command
  have about : .complete tracker result ∈
      messageEffects (controller.handle conditions command).2 :=
    List.mem_filter.mpr ⟨member, rfl⟩
  -- Without a message brought, the command hands over a queue at most.
  have bare (empty : carried conditions.now command = []) : False := by
    rw [empty] at moves
    cases moves with
    | still moved =>
        rw [moved.effects_eq] at about
        cases about
    | drained trafficClass choose moved =>
        rw [moved.effects_eq] at about
        have routing : Routing (controller.dispatchAll conditions choose
            (controller.queues trafficClass)).2 := by
          simp [Routing, LaneEvent.isRouting]
        exact routing.not_complete _ _ about
  cases command with
  | submit kind request => exact absurd member ((route_routing kind _).not_complete _ _)
  | retry given =>
      obtain ⟨rfl, same⟩ := sendRetry_of_complete member
      exact ⟨List.mem_cons_self, same⟩
  | outcome given domain outcome =>
      cases outcome with
      | sent | failed =>
          obtain ⟨rfl, rfl⟩ := mem_complete member
          exact ⟨List.mem_cons_self, rfl⟩
      | retryRequested =>
          obtain ⟨rfl, same⟩ := sendRetry_of_complete member
          exact ⟨List.mem_cons_self, same⟩
      | fallback =>
          cases domain with
          | cs =>
              obtain ⟨rfl, rfl⟩ := mem_complete member
              exact ⟨List.mem_cons_self, rfl⟩
          | ps =>
              rcases List.mem_cons.mp member with never | later
              · cases never
              · exact absurd later ((dispatch_routing _ _).not_complete _ _)
  | _ => exact (bare rfl).elim

end Controller

/-! ### What a share adds to a course -/

theorem domainsOf_append (ticket : Ticket) (log effects : List Effect) :
    domainsOf ticket (log ++ effects) =
      domainsOf ticket log ++ (handedOver (share ticket effects)).map (·.domain) := by
  simp [domainsOf, handedOver_share]

theorem milestones_append {log : List Effect} (whole : Whole log) (ticket : Ticket)
    (effects : List Effect) :
    milestones ticket (log ++ effects) =
      milestones ticket log ++ (share ticket effects).filterMap Effect.milestone? := by
  simp [milestones, share_append whole]

namespace Controller

variable {conditions : Conditions} {tracker : Tracker} {part : List Effect}

theorem resultOf?_dispatch (controller : Controller) (surroundings : Surroundings) (slot : Slot)
    (tracker : Tracker) (ticket : Ticket) :
    resultOf? ticket (controller.dispatch surroundings slot tracker).2 = none := by
  simp only [dispatch_effects, sessionOpening]
  split <;> rfl

theorem resultOf?_complete (controller : Controller) (surroundings : Surroundings)
    (tracker : Tracker) (result : SendResult) (domain : Option Domain) :
    resultOf? tracker.ticket (controller.complete surroundings tracker result domain).2 =
      some result := by
  unfold complete sessionClosing
  split
  · split <;> simp [resultOf?, List.findSome?_cons, Effect.resultOf?]
  · simp [resultOf?, List.findSome?_cons, Effect.resultOf?]

/-- A tracker that knows the last domain of its message takes the course on. -/
theorem Treats.course (treats : Treats conditions tracker part)
    (tracks : ∀ place, (conditions place).tracksEmergency = true)
    (ends : ∀ result, .complete tracker result ∈ part → ∃ controller : Controller,
      part = (controller.complete conditions.now tracker result tracker.lastDomain).2)
    {behind : Option Domain} {domains : List Domain}
    (last : tracker.lastDomain = domains.getLast?.or behind) :
    tracker.message.course behind domains none ++ part.filterMap Effect.milestone? =
      tracker.message.course behind (domains ++ (handedOver part).map (·.domain))
        (resultOf? tracker.ticket part) := by
  cases treats with
  | kept => simp [handedOver, resultOf?]
  | handed place slot counting lead leading =>
      have told : lead.filterMap Effect.milestone? = [] ∧ handedOver lead = [] ∧
          resultOf? tracker.ticket lead = none := by
        rcases leading with rfl | rfl <;> exact ⟨rfl, rfl, rfl⟩
      rw [List.filterMap_append, told.1, handedOver_append, told.2.1, resultOf?_append, told.2.2,
        milestones_dispatch (tracks place), handedOver_dispatch, resultOf?_dispatch, last]
      exact (Message.course_concat ..).symm
  | completed counting result domain =>
      obtain ⟨controller, same⟩ := ends result (by simp [complete])
      have tracked : conditions.now.tracksEmergency = true := tracks 0
      rw [same, milestones_complete tracked, handedOver_complete, resultOf?_complete, last,
        List.map_nil, List.append_nil]
      exact (Message.course_some ..).symm

/-- What is handed over of a message knows the domain it is handed over for. -/
theorem Treats.lastDomain_of_handed (treats : Treats conditions tracker part) {holding : Holding}
    (handed : holding ∈ handedOver part) :
    handedOver part = [holding] ∧ holding.tracker.lastDomain = some holding.domain := by
  cases treats with
  | kept => cases handed
  | completed counting result domain =>
      rw [handedOver_complete] at handed
      cases handed
  | handed place slot counting lead leading =>
      have only : handedOver (lead ++ (counting.dispatch (conditions place) slot tracker).2) =
          handedOver (counting.dispatch (conditions place) slot tracker).2 := by
        rcases leading with rfl | rfl <;> rfl
      rw [only, handedOver_dispatch] at handed ⊢
      obtain rfl := List.mem_singleton.mp handed
      exact ⟨rfl, rfl⟩

end Controller

/-! ### Courses of a run -/

namespace World

/-- The domain of the last dispatch that a message has behind it, where the entry has it come
in with a tracker of its own. -/
def broughtDomain? (ticket : Ticket) : World × Move → Option Domain
  | (world, .handle _ (.retry tracker)) =>
      if tracker.ticket = ticket ∧ ticket ∉ world.tickets then tracker.lastDomain else none
  | _ => none

def inherited (trace : List (World × Move)) (ticket : Ticket) : Option Domain :=
  trace.findSome? (broughtDomain? ticket)

/-- Emergency states are tracked, and transports report only trackers that they were sent,
each for the domain that it was sent for. -/
def Loyal : World × Move → Prop
  | (world, .handle conditions command) =>
      (∀ place, (conditions place).tracksEmergency = true) ∧
        ∀ tracker domain outcome, command = .outcome tracker domain outcome →
          ∃ report ∈ world.reports, command = report.command
  | (_, .report holding report) => report.domain = holding.domain

/-- Every tracker knows the last domain of its message, and every message is on its course. -/
structure OnCourse (trace : List (World × Move)) (world : World) : Prop where
  held : ∀ holding ∈ world.held, holding.tracker.lastDomain = some holding.domain
  reported : ∀ report ∈ world.reports, report.tracker.lastDomain = some report.domain
  last : ∀ tracker ∈ world.trackers, tracker.lastDomain =
    (domainsOf tracker.ticket world.log).getLast?.or (inherited trace tracker.ticket)
  course : ∀ message ∈ world.entered, milestones message.ticket world.log =
    message.course (inherited trace message.ticket) (domainsOf message.ticket world.log)
      (resultOf? message.ticket world.log)

variable {config : DispatchConfig} {resolver : Option ResolverId} {sequence : ReferenceCounter}
  {trace : List (World × Move)} {world rest : World} {conditions : Conditions}
  {command : Command} {surroundings : Surroundings} {ticket : Ticket} {tracker : Tracker}

theorem inherited_concat (trace : List (World × Move)) (entry : World × Move)
    (ticket : Ticket) :
    inherited (trace ++ [entry]) ticket =
      (inherited trace ticket).or (broughtDomain? ticket entry) := by
  rw [inherited, List.findSome?_append, List.findSome?_singleton, inherited]

theorem broughtDomain?_of_known (known : ticket ∈ world.tickets) (move : Move) :
    broughtDomain? ticket (world, move) = none := by
  unfold broughtDomain?
  split
  · next same =>
    cases same
    exact if_neg fun fresh => fresh.2 known
  · rfl

theorem Accounted.ticket_mem (accounted : world.Accounted) (member : tracker ∈ world.trackers) :
    tracker.ticket ∈ world.tickets := by
  have messages : (world.controller.waiting ++ (world.heldMessages ++ world.reportedMessages)) =
      world.trackers.map (·.message) := by
    rw [heldMessages_append_reportedMessages, waiting_eq_map_trackers, trackers, List.map_append]
  refine List.mem_map.mpr ⟨tracker.message, accounted.balanced.subset ?_, rfl⟩
  rw [outside, ← List.append_assoc, messages]
  exact List.mem_append_left _ (List.mem_map_of_mem member)

theorem Accounted.silent_of_fresh (accounted : world.Accounted)
    (fresh : ticket ∉ world.tickets) :
    share ticket world.log = [] ∧ domainsOf ticket world.log = [] ∧
      resultOf? ticket world.log = none := by
  have silent : share ticket world.log = [] := by
    refine share_of_staying fun departs => fresh ?_
    exact List.map_subset _ accounted.known departs
  refine ⟨silent, ?_, ?_⟩
  · rw [domainsOf, ← handedOver_share, silent]
    rfl
  · rw [← resultOf?_share, silent]
    rfl

theorem Provides.messages_perm (provides : world.Provides surroundings command rest)
    (accounted : world.Accounted) :
    ((Controller.carried surroundings command ++ rest.trackers).map (·.message) ++
      rest.completedMessages).Perm rest.entered := by
  refine .trans (.of_eq ?_) (provides.balanced accounted)
  rw [outside, heldMessages_append_reportedMessages, waiting_eq_map_trackers, trackers]
  simp

theorem Provides.unfinished (provides : world.Provides surroundings command rest)
    (accounted : world.Accounted)
    (member : tracker ∈ Controller.carried surroundings command ++ rest.trackers) :
    tracker.message ∈ rest.entered ∧ resultOf? tracker.ticket world.log = none := by
  have messages := provides.messages_perm accounted
  have mapped : tracker.message ∈
      (Controller.carried surroundings command ++ rest.trackers).map (·.message) :=
    List.mem_map_of_mem member
  refine ⟨messages.subset (List.mem_append_left _ mapped), ?_⟩
  have distinct := (messages.map Message.ticket).nodup_iff.mpr
    (provides.distinct accounted.distinct)
  rw [List.map_append, List.nodup_append] at distinct
  refine List.findSome?_eq_none_iff.mpr fun effect logged => ?_
  unfold Effect.resultOf?
  split
  · next given result =>
    refine if_neg fun same => ?_
    rw [← provides.log_eq] at logged
    have ended : given.message ∈ rest.completedMessages :=
      List.mem_map.mpr ⟨(.completed result, given.message),
        List.mem_filterMap.mpr ⟨_, logged, rfl⟩, rfl⟩
    exact distinct.2.2 _ (List.mem_map_of_mem mapped) _ (List.mem_map_of_mem ended) same.symm
  · rfl

theorem Provides.involved_nodup (provides : world.Provides surroundings command rest)
    (accounted : world.Accounted) :
    ((Controller.carried surroundings command ++ rest.controller.trackers).map
      (·.ticket)).Nodup := by
  have distinct := ((provides.messages_perm accounted).map Message.ticket).nodup_iff.mpr
    (provides.distinct accounted.distinct)
  rw [List.map_append, List.map_map, trackers, ← List.append_assoc, List.map_append,
    List.append_assoc] at distinct
  exact (List.nodup_append.mp distinct).1

/-! ### What a command does to each message -/

section Turn

variable (provides : world.Provides conditions.now command rest)
  (accounted : world.Accounted) (agrees : world.controller.Agrees)

include provides accounted agrees

theorem Provides.treats
    (member : tracker ∈ Controller.carried conditions.now command ++ rest.controller.trackers) :
    Controller.Treats conditions tracker
      (share tracker.ticket (rest.controller.handle conditions command).2) :=
  have agrees : rest.controller.Agrees := provides.controller_eq ▸ agrees
  (Controller.handle_moved agrees conditions command).treats
    (provides.involved_nodup accounted) member

omit accounted in
theorem Provides.share_of_apart
    (apart : ticket ∉ (Controller.carried conditions.now command ++
      rest.controller.trackers).map (·.ticket)) :
    share ticket (rest.controller.handle conditions command).2 = [] := by
  have agrees : rest.controller.Agrees := provides.controller_eq ▸ agrees
  have conserved := (Controller.handle_conserves agrees conditions command).map Message.ticket
  refine share_of_staying fun departs => apart ?_
  have there := conserved.subset (by
    rw [List.map_append]
    exact List.mem_append_left _ departs)
  simpa [waiting_eq_map_trackers] using there

/-- Each message is handed over at most once, and its tracker knows for which domain. -/
theorem Provides.handed_once {holding : Holding}
    (handed : holding ∈ handedOver (rest.controller.handle conditions command).2) :
    handedOver (share holding.tracker.ticket (rest.controller.handle conditions command).2) =
        [holding] ∧
      holding.tracker.lastDomain = some holding.domain := by
  obtain ⟨given, source, origin⟩ :=
    (Controller.handle_sourced conditions command rest.controller).handed holding handed
  have own : holding.tracker.ticket = given.ticket := congrArg Message.ticket origin.message_eq
  rw [own]
  refine (provides.treats accounted agrees source).lastDomain_of_handed ?_
  rw [handedOver_share]
  exact List.mem_filter.mpr ⟨handed, by simpa using own⟩

end Turn

theorem Run.inherited_of_fresh (run : Run (start config resolver sequence) trace world)
    (fresh : ticket ∉ world.tickets) : inherited trace ticket = none := by
  induction run with
  | rest => rfl
  | @next trace world move after run step ih =>
      have accounted := Reachable.accounted ⟨trace, run⟩
      cases step with
      | report => rw [inherited_concat, ih fresh]; rfl
      | @handle rest conditions command provides =>
          have before : ticket ∉ world.tickets := fun known =>
            fresh (List.map_subset _ provides.entered_subset known)
          rw [inherited_concat, ih before, Option.none_or]
          unfold broughtDomain?
          split
          · next tracker same =>
            cases same
            refine if_neg fun ⟨own, _⟩ => fresh ?_
            have entered := (provides.unfinished accounted (List.mem_append_left _
              List.mem_cons_self)).1
            exact own ▸ List.mem_map_of_mem entered
          · rfl

section Step

variable (provides : world.Provides conditions.now command rest)
  (accounted : world.Accounted) (onCourse : OnCourse trace world)
  (loyal : Loyal (world, .handle conditions command))

include accounted loyal in
theorem broughtDomain?_of_fresh (brought : tracker ∈ Controller.carried conditions.now command)
    (fresh : tracker.ticket ∉ world.tickets) :
    broughtDomain? tracker.ticket (world, .handle conditions command) = tracker.lastDomain := by
  cases command with
  | submit kind request =>
      obtain rfl := List.mem_singleton.mp brought
      rfl
  | retry given =>
      obtain rfl := List.mem_singleton.mp brought
      exact if_pos ⟨rfl, fresh⟩
  | outcome given domain outcome =>
      obtain rfl := List.mem_singleton.mp brought
      obtain ⟨report, posted, same⟩ := loyal.2 _ _ _ rfl
      cases same
      refine absurd (accounted.ticket_mem ?_) fresh
      exact List.mem_append_right _ (List.mem_append_right _ (List.mem_map_of_mem posted))
  | _ => cases brought

include onCourse loyal in
theorem OnCourse.endDomain?_eq (brought : tracker ∈ Controller.carried conditions.now command) :
    command.endDomain? = tracker.lastDomain := by
  cases command with
  | submit | retry =>
      obtain rfl := List.mem_singleton.mp brought
      rfl
  | outcome given domain outcome =>
      obtain rfl := List.mem_singleton.mp brought
      obtain ⟨report, posted, same⟩ := loyal.2 _ _ _ rfl
      cases same
      have last := onCourse.reported report posted
      cases report.outcome with
      | retryRequested => rfl
      | sent | failed | fallback => exact last.symm
  | _ => cases brought

include provides accounted onCourse

theorem OnCourse.course_provided {message : Message} (member : message ∈ rest.entered) :
    milestones message.ticket world.log =
      message.course (inherited (trace ++ [(world, .handle conditions command)]) message.ticket)
        (domainsOf message.ticket world.log) (resultOf? message.ticket world.log) := by
  by_cases known : message.ticket ∈ world.tickets
  · rw [inherited_concat, broughtDomain?_of_known known, Option.or_none]
    refine onCourse.course message ?_
    obtain ⟨other, entered, same⟩ := List.mem_map.mp known
    have equal := List.inj_on_of_nodup_map (provides.distinct accounted.distinct)
      (provides.entered_subset entered) member same
    exact equal ▸ entered
  · obtain ⟨silent, undispatched, unresolved⟩ := accounted.silent_of_fresh known
    rw [milestones, silent, undispatched, unresolved, Message.course_nil]
    rfl

include loyal

theorem OnCourse.last_provided
    (unknown : ∀ ticket ∉ world.tickets, inherited trace ticket = none)
    (member : tracker ∈ Controller.carried conditions.now command ++ rest.trackers) :
    tracker.lastDomain = (domainsOf tracker.ticket world.log).getLast?.or
      (inherited (trace ++ [(world, .handle conditions command)]) tracker.ticket) := by
  rw [inherited_concat]
  rcases provides.trackers_origin member with ⟨brought, fresh⟩ | ⟨given, there, evolved⟩
  · rw [(accounted.silent_of_fresh fresh).2.1, unknown _ fresh,
      broughtDomain?_of_fresh accounted loyal brought fresh]
    rfl
  · have own : tracker.ticket = given.ticket := congrArg Message.ticket evolved.message_eq
    rw [broughtDomain?_of_known (own ▸ accounted.ticket_mem there), Option.or_none,
      evolved.lastDomain_eq, own]
    exact onCourse.last given there

theorem OnCourse.treats_course (agrees : world.controller.Agrees)
    (unknown : ∀ ticket ∉ world.tickets, inherited trace ticket = none)
    (member : tracker ∈ Controller.carried conditions.now command ++ rest.controller.trackers) :
    let part := share tracker.ticket (rest.controller.handle conditions command).2
    let behind := inherited (trace ++ [(world, .handle conditions command)]) tracker.ticket
    tracker.message.course behind (domainsOf tracker.ticket world.log) none ++
        part.filterMap Effect.milestone? =
      tracker.message.course behind
        (domainsOf tracker.ticket world.log ++ (handedOver part).map (·.domain))
        (resultOf? tracker.ticket part) := by
  intro part behind
  have there : tracker ∈ Controller.carried conditions.now command ++ rest.trackers := by
    rw [trackers, ← List.append_assoc]
    exact List.mem_append_left _ member
  refine (provides.treats accounted agrees member).course loyal.1 ?_
    (onCourse.last_provided provides accounted loyal unknown there)
  intro result ended
  obtain ⟨brought, alone⟩ := Controller.handle_of_complete
    (provides.controller_eq ▸ agrees : rest.controller.Agrees)
    ((share_sublist _ _).subset ended)
  refine ⟨rest.controller, ?_⟩
  rw [onCourse.endDomain?_eq loyal brought] at alone
  rw [alone]
  exact share_map_self _ (Controller.attributed_complete ..)

theorem OnCourse.handle (agrees : world.controller.Agrees) (whole : Whole world.log)
    (unknown : ∀ ticket ∉ world.tickets, inherited trace ticket = none) :
    OnCourse (trace ++ [(world, .handle conditions command)])
      (rest.handle conditions command) := by
  have log : (rest.handle conditions command).log =
      world.log ++ (rest.controller.handle conditions command).2 := by
    rw [World.handle, provides.log_eq]
  have handed {holding : Holding} (new : holding ∈ handedOver
      (rest.controller.handle conditions command).2) := provides.handed_once accounted agrees new
  constructor
  case held =>
    intro holding member
    rcases List.mem_append.mp member with old | new
    · exact onCourse.held holding (provides.held_subset old)
    · exact (handed new).2
  case reported =>
    intro report member
    exact onCourse.reported report (provides.reports_subset member)
  case last =>
    intro tracker member
    rw [log, domainsOf_append]
    rcases provides.kept_or_handedOver agrees accounted member with
      ⟨holding, new, rfl⟩ | ⟨there, stays⟩
    · rw [(handed new).1, (handed new).2]
      simp
    · rw [share_of_staying]
      · simpa [handedOver] using
          onCourse.last_provided provides accounted loyal unknown there
      · intro departs
        obtain ⟨message, leaves, same⟩ := List.mem_map.mp departs
        exact stays message leaves same
  case course =>
    intro message member
    have entered : message ∈ rest.entered := member
    have before := onCourse.course_provided provides accounted entered
    rw [log, milestones_append whole, before, domainsOf_append, resultOf?_append,
      ← resultOf?_share message.ticket (rest.controller.handle conditions command).2]
    by_cases involved : message.ticket ∈ (Controller.carried conditions.now command ++
        rest.controller.trackers).map (·.ticket)
    · obtain ⟨tracker, there, same⟩ := List.mem_map.mp involved
      have there' : tracker ∈ Controller.carried conditions.now command ++ rest.trackers := by
        rw [trackers, ← List.append_assoc]
        exact List.mem_append_left _ there
      have unfinished := provides.unfinished accounted there'
      obtain rfl : tracker.message = message :=
        List.inj_on_of_nodup_map (provides.distinct accounted.distinct) unfinished.1 entered same
      rw [Tracker.ticket_message, unfinished.2, Option.none_or]
      exact onCourse.treats_course provides accounted loyal agrees unknown there
    · rw [provides.share_of_apart agrees involved]
      simp [handedOver, resultOf?]

end Step

theorem OnCourse.report {before later : List Holding} {holding : Holding} {report : Report}
    (onCourse : OnCourse trace world) (held : world.held = before ++ holding :: later)
    (evolved : holding.tracker.Evolves report.tracker)
    (loyal : Loyal (world, .report holding report)) :
    OnCourse (trace ++ [(world, .report holding report)])
      { world with held := before ++ later, reports := world.reports ++ [report] } := by
  have same (ticket : Ticket) :
      inherited (trace ++ [(world, .report holding report)]) ticket = inherited trace ticket := by
    rw [inherited_concat]
    exact Option.or_none
  have there : holding ∈ world.held := by simp [held]
  have subset : before ++ later ⊆ world.held := by
    intro other member
    rw [held]
    simp only [List.mem_append, List.mem_cons] at member ⊢
    tauto
  constructor
  case held => exact fun other member => onCourse.held other (subset member)
  case reported =>
    intro other member
    rcases List.mem_append.mp member with old | new
    · exact onCourse.reported other old
    · obtain rfl := List.mem_singleton.mp new
      rw [evolved.lastDomain_eq, onCourse.held holding there, loyal]
  case last =>
    intro tracker member
    rw [same]
    simp only [trackers, outsideTrackers, List.map_append, List.map_cons, List.map_nil,
      List.mem_append, List.mem_singleton] at member
    rcases member with queued | kept | reported | rfl
    · exact onCourse.last tracker (List.mem_append_left _ queued)
    · rw [← List.mem_append, ← List.map_append] at kept
      exact onCourse.last tracker (List.mem_append_right _ (List.mem_append_left _
        (List.map_subset _ subset kept)))
    · exact onCourse.last tracker (List.mem_append_right _ (List.mem_append_right _ reported))
    · have own : report.tracker.ticket = holding.tracker.ticket :=
        congrArg Message.ticket evolved.message_eq
      rw [evolved.lastDomain_eq, own]
      exact onCourse.last holding.tracker
        (List.mem_append_right _ (List.mem_append_left _ (List.mem_map_of_mem there)))
  case course =>
    intro message member
    rw [same]
    exact onCourse.course message member

theorem Reachable.whole (reachable : Reachable config resolver sequence world) :
    Whole world.log :=
  reachable.history (fun _ log => Whole log) trivial fun agrees whole conditions command =>
    whole.append (Controller.handle_moved agrees conditions command).whole

theorem OnCourse.start (config : DispatchConfig) (resolver : Option ResolverId)
    (sequence : ReferenceCounter) : OnCourse [] (start config resolver sequence) := by
  constructor
  case last =>
    intro tracker member
    have none : (World.start config resolver sequence).trackers = [] := rfl
    rw [none] at member
    cases member
  all_goals
    intro _ member
    cases member

theorem Run.onCourse (run : Run (start config resolver sequence) trace world)
    (loyal : ∀ entry ∈ trace, Loyal entry) : OnCourse trace world := by
  induction run with
  | rest => exact .start ..
  | @next trace world move after run step ih =>
      have onCourse := ih fun entry member => loyal entry (List.mem_append_left _ member)
      have now := loyal (world, move) (List.mem_append_right _ List.mem_cons_self)
      have reachable : Reachable config resolver sequence world := ⟨trace, run⟩
      cases step with
      | handle provides =>
          exact onCourse.handle provides reachable.accounted now reachable.agrees reachable.whole
            fun ticket fresh => run.inherited_of_fresh fresh
      | report held evolved => exact onCourse.report held evolved now

theorem Run.inherited_of_submitted (run : Run (start config resolver sequence) trace world)
    {message : Message} (member : message ∈ world.submitted) :
    inherited trace message.ticket = none := by
  induction run with
  | rest => cases member
  | @next trace world move after run step ih =>
      have kept (there : message ∈ world.submitted) :
          inherited (trace ++ [(world, move)]) message.ticket = none := by
        have known : message.ticket ∈ world.tickets :=
          List.mem_map_of_mem (List.mem_append_left _ there)
        rw [inherited_concat, ih there, broughtDomain?_of_known known]
        rfl
      cases step with
      | report => exact kept member
      | @handle rest conditions command provides =>
          cases provides with
          | adopted | reclaimed | reported | bare => exact kept member
          | @submitted kind request fresh =>
              rcases List.mem_append.mp member with old | new
              · exact kept old
              · obtain rfl := List.mem_singleton.mp new
                have unknown : inherited trace
                    (Controller.admitted conditions.now request).message.ticket = none :=
                  run.inherited_of_fresh fresh
                rw [inherited_concat, unknown]
                rfl

end World

theorem Message.emergency_of_course {message : Message} {behind : Option Domain}
    {domains : List Domain} {result : Option SendResult} {milestone : Milestone}
    (session : milestone.isSession = true)
    (member : milestone ∈ message.course behind domains result) : message.emergency = true := by
  by_contra normal
  have plain : message.course behind domains result =
      domains.map .dispatched ++ result.toList.map .completed := by
    have opening : message.opening behind domains = [] := by
      unfold opening
      split
      · exact if_neg normal
      · rfl
    have ending (last : Option Domain) (result : SendResult) :
        message.ending last result = [.completed result] := by
      unfold ending
      split
      · rw [if_neg normal]
        rfl
      · rfl
    cases result <;> simp [course, opening, ending]
  rw [plain] at member
  rcases List.mem_append.mp member with dispatched | completed
  · obtain ⟨_, -, rfl⟩ := List.mem_map.mp dispatched
    cases session
  · obtain ⟨_, -, rfl⟩ := List.mem_map.mp completed
    cases session

namespace World

variable {config : DispatchConfig} {resolver : Option ResolverId} {sequence : ReferenceCounter}
  {trace : List (World × Move)} {world : World}

/-- Emergency sessions are opened and closed symmetrically. Whatever happens, the milestones
of a message are fixed by its dispatches and its result: if it is an emergency message, its
session is opened once, before its first dispatch, and closed once, with its result and in
the domain of its last dispatch. Every session is some emergency message's. So a session
is open while its message has been dispatched and has not completed. -/
theorem Run.sessions_symmetric (run : Run (start config resolver sequence) trace world)
    (loyal : ∀ entry ∈ trace, Loyal entry) :
    (∀ message ∈ world.entered, milestones message.ticket world.log =
      message.course (inherited trace message.ticket) (domainsOf message.ticket world.log)
        (resultOf? message.ticket world.log)) ∧
    (∀ message ∈ world.submitted, inherited trace message.ticket = none) ∧
    (attributed world.log).map (·.2) = messageEffects world.log ∧
    (∀ entry ∈ attributed world.log, ∃ message ∈ world.entered, message.ticket = entry.1 ∧
      ∀ milestone, entry.2.milestone? = some milestone → milestone.isSession = true →
        message.emergency = true) ∧
    ∀ message ∈ world.entered, inherited trace message.ticket = none →
      (sessionOpen (milestones message.ticket world.log) = true ↔
        message.emergency = true ∧ domainsOf message.ticket world.log ≠ [] ∧
          resultOf? message.ticket world.log = none) := by
  have onCourse := run.onCourse loyal
  have reachable : Reachable config resolver sequence world := ⟨trace, run⟩
  refine ⟨onCourse.course, fun _ => run.inherited_of_submitted, reachable.whole.map_attributed,
    ?_, ?_⟩
  · intro entry member
    obtain ⟨message, departs, same⟩ := List.mem_map.mp (departs_of_attributed member)
    have entered := reachable.accounted.known departs
    refine ⟨message, entered, same, fun milestone shows session => ?_⟩
    have there : milestone ∈ milestones message.ticket world.log := by
      refine List.mem_filterMap.mpr ⟨entry.2, ?_, shows⟩
      exact List.mem_map.mpr ⟨entry, List.mem_filter.mpr ⟨member, by simp [same]⟩, rfl⟩
    rw [onCourse.course message entered] at there
    exact Message.emergency_of_course session there
  · intro message entered native
    rw [onCourse.course message entered, native, Message.sessionOpen_course]
    simp [and_assoc]

end World

namespace Sample

def urgent : Surroundings :=
  { surroundings with isEmergencyNumber := fun _ => true }

def alarm : Message :=
  (Controller.admitted urgent (request 1)).message

/-- A controller without a resolver hands an emergency message over at once. -/
def alarmed : World :=
  World.handle (.steady urgent) (.submit .text (request 1))
    { World.start {} none (.new 256) with submitted := [alarm] }

/-- The transport has the message back, and wants it to go over CS. -/
def alarmReport : Report where
  tracker := ((Controller.admitted urgent (request 1)).assignRef 0).recordDispatch .ps
  domain := .ps
  outcome := .fallback

def declined : World :=
  { alarmed with held := [], reports := [alarmReport] }

/-- The message is with a circuit-switched transport. -/
def rerouted : World :=
  World.handle (.steady urgent) alarmReport.command { declined with reports := [] }

def rerouted_trace : List (World × Move) :=
  [(.start {} none (.new 256), .handle (.steady urgent) (.submit .text (request 1))),
    (alarmed, .report { slot := .ps, tracker := alarmReport.tracker, domain := .ps } alarmReport),
    (declined, .handle (.steady urgent) alarmReport.command)]

theorem rerouted_run : World.Run (.start {} none (.new 256)) rerouted_trace rerouted := by
  have submitted : World.Step (.start {} none (.new 256))
      (.handle (.steady urgent) (.submit .text (request 1))) alarmed :=
    .handle (.submitted (by decide))
  have held : alarmed.held =
      [] ++ { slot := .ps, tracker := alarmReport.tracker, domain := .ps } :: [] := rfl
  have posted : declined.reports = [] ++ alarmReport :: [] := rfl
  have reported : World.Step alarmed _ declined := .report held .unchanged
  have handled : World.Step declined (.handle (.steady urgent) alarmReport.command) rerouted :=
    .handle (.reported posted)
  exact ((World.Run.rest.next submitted).next reported).next handled

theorem rerouted_loyal : ∀ entry ∈ rerouted_trace, World.Loyal entry := by
  intro entry member
  simp only [rerouted_trace, List.mem_cons, List.not_mem_nil, or_false] at member
  rcases member with rfl | rfl | rfl
  · refine ⟨fun _ => rfl, ?_⟩
    intro tracker domain outcome same
    cases same
  · rfl
  · refine ⟨fun _ => rfl, ?_⟩
    intro tracker domain outcome _
    exact ⟨alarmReport, List.mem_cons_self, rfl⟩

/-- The session was opened for PS and is still open, with the message over CS by now. -/
theorem rerouted_sessions :
    milestones 1 rerouted.log =
        [.opened "1111" true, .dispatched .ps, .dispatched .cs] ∧
      sessionOpen (milestones 1 rerouted.log) = true := by
  obtain ⟨course, native, -, -, isOpen⟩ :=
    World.Run.sessions_symmetric rerouted_run rerouted_loyal
  have submitted : alarm ∈ rerouted.submitted := by decide
  have entered : alarm ∈ rerouted.entered := List.mem_append_left _ submitted
  have domains : domainsOf alarm.ticket rerouted.log = [.ps, .cs] := by decide
  have unfinished : resultOf? alarm.ticket rerouted.log = none := by decide
  have route := course alarm entered
  rw [native alarm submitted, domains, unfinished] at route
  refine ⟨route, (isOpen alarm entered (native alarm submitted)).mpr ⟨rfl, ?_, unfinished⟩⟩
  rw [domains]
  exact List.cons_ne_nil _ _

end Sample

end OutboundSms
