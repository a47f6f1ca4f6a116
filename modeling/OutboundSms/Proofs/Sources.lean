import OutboundSms.Proofs.World

/-!
# Where trackers come from

A command puts no tracker in a queue and hands none to a transport but those it
brings and those it finds in the queues. A tracker in a queue is unchanged, and one
that is handed over only gains a reference and the domain it goes to.
-/

set_option autoImplicit false

namespace OutboundSms

/-- The message is the one given, and IMS has had it before or gets it now. -/
structure Holding.From (given : Tracker) (holding : Holding) : Prop where
  message_eq : holding.tracker.message = given.message
  usedIms_eq : holding.tracker.usedIms = (given.usedIms || holding.domain.isPs)

def handedOver (effects : List Effect) : List Holding :=
  effects.filterMap Effect.holding?

@[simp] theorem handedOver_append (first second : List Effect) :
    handedOver (first ++ second) = handedOver first ++ handedOver second :=
  List.filterMap_append

namespace Controller

/-- Whatever the controller has in its queues is among `sources`. -/
def Within (sources : List Tracker) (controller : Controller) : Prop :=
  ∀ trafficClass, controller.queued trafficClass ⊆ sources

variable {sources : List Tracker} {controller : Controller}

theorem Within.setHolder (within : controller.Within sources) {trafficClass : TrafficClass}
    {holder : ConnectionHolder} (subset : holder.pending.map (·.tracker) ⊆ sources) :
    (controller.setHolder trafficClass holder).Within sources := by
  intro other
  by_cases same : other = trafficClass
  · subst same
    simpa [queued] using subset
  · rw [queued, holder_setHolder_of_ne _ _ same]
    exact within other

theorem Within.of_holder_eq {other : Controller} (within : controller.Within sources)
    (same : ∀ trafficClass, other.holder trafficClass = controller.holder trafficClass) :
    other.Within sources := by
  intro trafficClass
  rw [queued, same]
  exact within trafficClass

def trackers (controller : Controller) : List Tracker :=
  controller.queued .normal ++ controller.queued .emergency

theorem mem_trackers_of_queued {trafficClass : TrafficClass} {tracker : Tracker}
    (member : tracker ∈ controller.queued trafficClass) : tracker ∈ controller.trackers := by
  cases trafficClass <;> simp [trackers, member]

theorem within_trackers (carried : List Tracker) (controller : Controller) :
    controller.Within (carried ++ controller.trackers) := by
  intro trafficClass tracker member
  exact List.mem_append_right _ (mem_trackers_of_queued member)

end Controller

/-- What a turn leaves in the queues and hands to transports comes from `sources`. -/
structure Sourced (sources : List Tracker) (turn : Turn) : Prop where
  queued : turn.1.Within sources
  handed : ∀ holding ∈ handedOver turn.2, ∃ given ∈ sources, holding.From given

namespace Sourced

variable {sources : List Tracker} {controller : Controller}

theorem idle {effects : List Effect} (within : controller.Within sources)
    (none : handedOver effects = []) : Sourced sources (controller, effects) :=
  ⟨within, by simp [none]⟩

theorem followedBy {turn : Turn} {next : Controller → Turn} (first : Sourced sources turn)
    (second : Sourced sources (next turn.1)) :
    Sourced sources (Controller.followedBy turn next) where
  queued := second.queued
  handed := by
    intro holding member
    simp only [Controller.followedBy, handedOver_append, List.mem_append] at member
    exact member.elim (first.handed holding) (second.handed holding)

end Sourced

namespace Controller

variable {sources : List Tracker} {controller : Controller} {tracker : Tracker}
  {conditions : Conditions} {surroundings : Surroundings}

theorem dispatch_sourced (surroundings : Surroundings) (within : controller.Within sources)
    (member : tracker ∈ sources) (slot : Slot) :
    Sourced sources (controller.dispatch surroundings slot tracker) := by
  refine ⟨within.of_holder_eq fun _ => holder_dispatch .., ?_⟩
  intro holding handed
  have opening : handedOver
      (sessionOpening surroundings (controller.assignRef (surroundings.transport slot) tracker).1
        (surroundings.transport slot).domain) = [] := by
    unfold sessionOpening
    split <;> rfl
  simp only [dispatch, handedOver_append, opening] at handed
  obtain rfl := List.mem_singleton.mp handed
  refine ⟨tracker, member, message_assignRef .., ?_⟩
  simp only [Tracker.recordDispatch, assignRef]
  split <;> rfl

theorem dispatchAll_sourced (conditions : Conditions) (within : controller.Within sources)
    (choose : Surroundings → Tracker → Slot) {trackers : List Tracker}
    (members : trackers ⊆ sources) :
    Sourced sources (controller.dispatchAll conditions choose trackers) := by
  induction trackers generalizing controller conditions with
  | nil => exact .idle within rfl
  | cons tracker rest ih =>
      obtain ⟨first, members⟩ := List.cons_subset.mp members
      have dispatched := dispatch_sourced conditions.now within first
        (choose conditions.now tracker)
      exact dispatched.followedBy (ih _ dispatched.queued members)

theorem complete_sourced (within : controller.Within sources) (result : SendResult)
    (domain : Option Domain) :
    Sourced sources (controller.complete surroundings tracker result domain) := by
  refine .idle within ?_
  unfold sessionClosing
  split
  · split <;> rfl
  · rfl

theorem enqueue_within (within : controller.Within sources) (member : tracker ∈ sources)
    (kind : RequestKind) : (controller.enqueue surroundings kind tracker).Within sources := by
  refine within.setHolder ?_
  simp only [ConnectionHolder.enqueue, List.map_append, List.append_subset]
  exact ⟨within _, by simpa using member⟩

theorem takePending_within (within : controller.Within sources) (trafficClass : TrafficClass) :
    (controller.takePending trafficClass).Within sources :=
  within.setHolder (List.nil_subset _)

theorem clearHolder_sourced (within : controller.Within sources) (trafficClass : TrafficClass) :
    Sourced sources (controller.clearHolder trafficClass) := by
  have none (connection : Option ConnectionId) (drained : Bool) (waiter : Option WaiterId) :
      handedOver (.dropConnection trafficClass connection drained ::
        (waiter.map .stopWaiter).toList) = [] := by
    cases waiter <;> rfl
  exact .idle (within.setHolder (within trafficClass)) (none ..)

theorem finishConnection_sourced (within : controller.Within sources)
    (trafficClass : TrafficClass) :
    Sourced sources (controller.finishConnection trafficClass) := by
  refine .idle within ?_
  cases (controller.holder trafficClass).connectionId <;> rfl

theorem openConnection_sourced (surroundings : Surroundings)
    (within : controller.Within sources) (member : tracker ∈ sources) (kind : RequestKind) :
    Sourced sources (controller.openConnection surroundings kind tracker) := by
  have counted : Within sources
      { controller with connectionsOpened := controller.connectionsOpened + 1 } :=
    within.of_holder_eq fun trafficClass => by cases trafficClass <;> rfl
  refine .idle (enqueue_within ?_ member kind) rfl
  exact counted.setHolder (within tracker.trafficClass)

theorem selectionUnissued_sourced (within : controller.Within sources)
    (trafficClass : TrafficClass) :
    Sourced sources (controller.selectionUnissued conditions trafficClass) := by
  unfold selectionUnissued
  refine (finishConnection_sourced within trafficClass).followedBy ?_
  have cleared := clearHolder_sourced (takePending_within within trafficClass) trafficClass
  exact cleared.followedBy (dispatchAll_sourced _ cleared.queued _ (within trafficClass))

theorem selectionIssued_sourced (within : controller.Within sources)
    (trafficClass : TrafficClass) (connection : ConnectionId) :
    Sourced sources (controller.selectionIssued trafficClass connection) := by
  unfold selectionIssued ConnectionHolder.setWaiter
  split
  · exact .idle (within.setHolder (within trafficClass)) rfl
  · exact .idle (within.setHolder (within trafficClass)) rfl

theorem requestSelection_sourced (within : controller.Within sources)
    (member : tracker ∈ sources) (resolver : ResolverId) (issued : Bool) (kind : RequestKind) :
    Sourced sources (controller.requestSelection conditions resolver issued kind tracker) := by
  have opened := openConnection_sourced conditions.now within member kind
  unfold requestSelection
  refine opened.followedBy (Sourced.followedBy (.idle opened.queued rfl) ?_)
  split
  · exact selectionIssued_sourced opened.queued ..
  · exact selectionUnissued_sourced opened.queued _

theorem route_sourced (within : controller.Within sources) (member : tracker ∈ sources)
    (kind : RequestKind) : Sourced sources (controller.route conditions kind tracker) := by
  unfold route
  split
  · split
    · exact .idle (enqueue_within within member kind) rfl
    · unfold consultResolver
      refine Sourced.followedBy (.idle within rfl) ?_
      split
      · exact dispatch_sourced _ within member _
      · exact requestSelection_sourced within member ..
      · exact requestSelection_sourced within member ..
  · exact dispatch_sourced _ within member _

theorem sendRetry_sourced (within : controller.Within sources) (member : tracker ∈ sources) :
    Sourced sources (controller.sendRetry conditions tracker) := by
  unfold sendRetry
  split
  · exact complete_sourced within ..
  · split
    · exact dispatch_sourced _ within member _
    · exact route_sourced within member _

theorem onOutcome_sourced (within : controller.Within sources) (member : tracker ∈ sources)
    (domain : Domain) (outcome : TransportOutcome) :
    Sourced sources (controller.onOutcome conditions tracker domain outcome) := by
  unfold onOutcome
  split
  · exact complete_sourced within ..
  · exact complete_sourced within ..
  · exact Sourced.followedBy (.idle within rfl) (dispatch_sourced _ within member _)
  · exact complete_sourced within ..
  · exact sendRetry_sourced within member

theorem onSelectionCompleted_sourced (within : controller.Within sources)
    (trafficClass : TrafficClass) (connection : ConnectionId)
    (result : Except SelectionError Domain) :
    Sourced sources
      (controller.onSelectionCompleted conditions trafficClass connection result) := by
  unfold onSelectionCompleted
  split
  · have taken := takePending_within within trafficClass
    refine Sourced.followedBy (.idle taken rfl) ?_
    have sent := dispatchAll_sourced conditions taken
      (slotAfterSelection result.toOption) (within trafficClass)
    refine sent.followedBy ?_
    exact (finishConnection_sourced sent.queued _).followedBy (clearHolder_sourced sent.queued _)
  · exact .idle within rfl

theorem onSelectionTerminated_sourced (within : controller.Within sources)
    (trafficClass : TrafficClass) (connection : ConnectionId) (cause : UInt32) :
    Sourced sources
      (controller.onSelectionTerminated conditions trafficClass connection cause) := by
  unfold onSelectionTerminated
  split
  · have taken := takePending_within within trafficClass
    refine Sourced.followedBy (.idle taken rfl) ?_
    have sent := dispatchAll_sourced conditions taken (slotAfterSelection none)
      (within trafficClass)
    exact sent.followedBy (clearHolder_sourced sent.queued _)
  · exact .idle within rfl

/-- Every tracker that a command queues or hands over is one that it brings or finds. -/
theorem handle_sourced (conditions : Conditions) (command : Command) (controller : Controller) :
    Sourced (carried conditions.now command ++ controller.trackers)
      (controller.handle conditions command) := by
  have within := within_trackers (carried conditions.now command) controller
  cases command with
  | submit kind request => exact route_sourced within (by simp [carried]) kind
  | retry tracker => exact sendRetry_sourced within (by simp [carried])
  | selectionCompleted trafficClass connection result =>
      exact onSelectionCompleted_sourced within ..
  | selectionTerminated trafficClass connection cause =>
      exact onSelectionTerminated_sourced within ..
  | outcome tracker domain outcome => exact onOutcome_sourced within (by simp [carried]) ..
  | inboundSms address =>
      refine .idle within ?_
      split <;> rfl
  | installResolver resolver =>
      exact .idle (within.of_holder_eq fun trafficClass => by cases trafficClass <;> rfl) rfl
  | subscribe awaited => exact .idle within rfl
  | unsubscribe subscription => exact .idle within rfl
  | snapshot awaited =>
      refine .idle within ?_
      cases awaited <;> rfl

end Controller

end OutboundSms
