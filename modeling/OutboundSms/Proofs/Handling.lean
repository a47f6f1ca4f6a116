import OutboundSms.Proofs.Lane

/-!
# What one command does

Every command takes a controller whose holders agree with themselves to another
such controller, and does to each lane one of the steps of `Lane.Step`. Each
operation of the controller has its own statement of this kind, and
`handle_refines` puts them together.
-/

set_option autoImplicit false

namespace OutboundSms

/-- The three facts about a selection agree: it is requested exactly while a
connection is held, and a connection is held exactly while something is queued.
What is queued belongs to the class and has never been handed to IMS. -/
structure ConnectionHolder.Agrees (trafficClass : TrafficClass) (holder : ConnectionHolder) :
    Prop where
  ownClass : holder.trafficClass = trafficClass
  connected : holder.requested = holder.active.isSome
  waiting : holder.active.isSome = !holder.pending.isEmpty
  members : ∀ request ∈ holder.pending,
    request.tracker.trafficClass = trafficClass ∧ request.tracker.usedIms = false

namespace ConnectionHolder.Agrees

variable {trafficClass : TrafficClass} {holder : ConnectionHolder}

theorem fresh (trafficClass : TrafficClass) :
    Agrees trafficClass { trafficClass := trafficClass } where
  ownClass := rfl
  connected := rfl
  waiting := rfl
  members := by simp

theorem active_of_idle (agrees : holder.Agrees trafficClass) (idle : holder.requested = false) :
    holder.active = none := by
  simpa [idle] using agrees.connected

theorem pending_of_idle (agrees : holder.Agrees trafficClass) (idle : holder.requested = false) :
    holder.pending = [] := by
  simpa [agrees.active_of_idle idle] using agrees.waiting

theorem active_of_selecting (agrees : holder.Agrees trafficClass)
    (selecting : holder.requested = true) : ∃ active, holder.active = some active := by
  have held := agrees.connected
  rw [selecting] at held
  exact Option.isSome_iff_exists.mp held.symm

theorem enqueue (agrees : holder.Agrees trafficClass) {request : PendingRequest}
    (selecting : holder.requested = true) (own : request.tracker.trafficClass = trafficClass)
    (unused : request.tracker.usedIms = false) : (holder.enqueue request).Agrees trafficClass := by
  obtain ⟨active, held⟩ := agrees.active_of_selecting selecting
  refine ⟨agrees.ownClass, agrees.connected, by simp [ConnectionHolder.enqueue, held], ?_⟩
  intro candidate member
  rcases List.mem_append.mp member with earlier | last
  · exact agrees.members candidate earlier
  · obtain rfl := List.mem_singleton.mp last
    exact ⟨own, unused⟩

theorem cleared (agrees : holder.Agrees trafficClass) :
    holder.takePending.clear.1.Agrees trafficClass :=
  ⟨agrees.ownClass, rfl, rfl, by simp [ConnectionHolder.clear, takePending]⟩

end ConnectionHolder.Agrees

def Controller.Agrees (controller : Controller) : Prop :=
  ∀ trafficClass, (controller.holder trafficClass).Agrees trafficClass

theorem Controller.agrees_new (config : DispatchConfig) (resolver : Option ResolverId)
    (sequence : ReferenceCounter) : ((new config resolver).withSequence sequence).Agrees := by
  intro trafficClass
  cases trafficClass <;> exact ConnectionHolder.Agrees.fresh _

def arrivals (trafficClass : TrafficClass) (trackers : List Tracker) : List Message :=
  (trackers.filter (·.trafficClass = trafficClass)).map (·.message)

def takenConnections (effects : List Effect) : List ConnectionId :=
  (traffic effects).filterMap (·.2.taken?)

@[simp] theorem takenConnections_append (first second : List Effect) :
    takenConnections (first ++ second) = takenConnections first ++ takenConnections second := by
  simp [takenConnections]

/-- A turn that takes the trackers `carried` into a controller keeps its holders in
agreement, does one step to each lane, and numbers the connection it opens, if it
opens one, after all the others. -/
structure Refines (carried : List Tracker) (before : Controller) (turn : Turn) : Prop where
  agrees : turn.1.Agrees
  lanes : ∀ trafficClass, Lane.Step (arrivals trafficClass carried) (before.lane trafficClass)
    (laneEvents trafficClass turn.2) (turn.1.lane trafficClass)
  numbered :
    (takenConnections turn.2 = [] ∧ turn.1.connectionsOpened = before.connectionsOpened) ∨
      (takenConnections turn.2 = [{ number := before.connectionsOpened + 1 }] ∧
        turn.1.connectionsOpened = before.connectionsOpened + 1)

namespace Controller

variable {conditions : Conditions} {surroundings : Surroundings} {controller : Controller}

theorem lane_of_idle (agrees : controller.Agrees) {trafficClass : TrafficClass}
    (idle : (controller.holder trafficClass).requested = false) :
    controller.lane trafficClass = .idle := by
  simp [lane, Lane.idle, ConnectionHolder.connectionId, queued,
    (agrees trafficClass).active_of_idle idle, (agrees trafficClass).pending_of_idle idle]

theorem lane_congr {other : Controller} {trafficClass : TrafficClass}
    (same : other.holder trafficClass = controller.holder trafficClass) :
    other.lane trafficClass = controller.lane trafficClass := by
  simp [lane, queued, same]

end Controller

namespace Refines

variable {carried : List Tracker} {before : Controller} {turn : Turn}

/-- It is enough to look at the lane in which everything happens. -/
theorem of_lane (trafficClass : TrafficClass) (events : List LaneEvent) (agrees : before.Agrees)
    (own : ∀ tracker ∈ carried, tracker.trafficClass = trafficClass)
    (seen : traffic turn.2 = events.map (trafficClass, ·))
    (frame : ∀ other, other ≠ trafficClass → turn.1.holder other = before.holder other)
    (holder : (turn.1.holder trafficClass).Agrees trafficClass)
    (step : Lane.Step (carried.map (·.message)) (before.lane trafficClass) events
      (turn.1.lane trafficClass))
    (numbered :
      (events.filterMap LaneEvent.taken? = [] ∧
          turn.1.connectionsOpened = before.connectionsOpened) ∨
        (events.filterMap LaneEvent.taken? = [{ number := before.connectionsOpened + 1 }] ∧
          turn.1.connectionsOpened = before.connectionsOpened + 1)) :
    Refines carried before turn where
  agrees := by
    intro other
    by_cases same : other = trafficClass
    · exact same ▸ holder
    · exact (frame other same).symm ▸ agrees other
  lanes := by
    intro other
    rw [laneEvents_eq_ite seen]
    by_cases same : other = trafficClass
    · subst same
      have all : carried.filter (·.trafficClass = other) = carried :=
        List.filter_eq_self.mpr fun tracker member => by simpa using own tracker member
      simpa [arrivals, all] using step
    · have none : carried.filter (·.trafficClass = other) = [] :=
        List.filter_eq_nil_iff.mpr fun tracker member => by
          simpa [own tracker member] using fun equal => same equal.symm
      rw [if_neg same, Controller.lane_congr (frame other same), arrivals, none]
      exact .still
  numbered := by
    simpa [takenConnections, seen, List.filterMap_map, Function.comp_def] using numbered

theorem still (agrees : before.Agrees) (seen : traffic turn.2 = [])
    (frame : ∀ trafficClass, turn.1.holder trafficClass = before.holder trafficClass)
    (opened : turn.1.connectionsOpened = before.connectionsOpened) :
    Refines [] before turn := by
  refine of_lane .normal [] agrees (by simp) seen
    (fun other _ => frame other) ?_ ?_ (.inl ⟨rfl, opened⟩)
  · rw [frame]
    exact agrees _
  · rw [Controller.lane_congr (frame _)]
    exact .still

theorem preceded {effects : List Effect} {next : Controller → Turn}
    (refines : Refines carried before (next before)) (unseen : traffic effects = []) :
    Refines carried before (Controller.followedBy (before, effects) next) where
  agrees := refines.agrees
  lanes := by
    intro trafficClass
    simpa [Controller.followedBy, laneEvents, unseen] using refines.lanes trafficClass
  numbered := by
    simpa [Controller.followedBy, takenConnections, unseen] using refines.numbered

end Refines

namespace Controller

variable {conditions : Conditions} {surroundings : Surroundings} {controller : Controller}

/-! ### Dispatch and completion -/

@[simp] theorem holder_assignRef (facts : TransportFacts) (tracker : Tracker)
    (controller : Controller) (trafficClass : TrafficClass) :
    (controller.assignRef facts tracker).2.holder trafficClass =
      controller.holder trafficClass := by
  unfold assignRef
  split <;> cases trafficClass <;> rfl

@[simp] theorem connectionsOpened_assignRef (facts : TransportFacts) (tracker : Tracker)
    (controller : Controller) :
    (controller.assignRef facts tracker).2.connectionsOpened =
      controller.connectionsOpened := by
  unfold assignRef
  split <;> rfl

@[simp] theorem message_assignRef (facts : TransportFacts) (tracker : Tracker)
    (controller : Controller) :
    (controller.assignRef facts tracker).1.message = tracker.message := by
  unfold assignRef
  split <;> rfl

@[simp] theorem traffic_sessionOpening (surroundings : Surroundings) (tracker : Tracker)
    (domain : Domain) : traffic (sessionOpening surroundings tracker domain) = [] := by
  unfold sessionOpening
  split <;> rfl

@[simp] theorem traffic_sessionClosing (surroundings : Surroundings) (tracker : Tracker)
    (success : Bool) (domain : Option Domain) :
    traffic (sessionClosing surroundings tracker success domain) = [] := by
  unfold sessionClosing
  split
  · split <;> rfl
  · rfl

@[simp] theorem holder_dispatch (slot : Slot) (tracker : Tracker) (trafficClass : TrafficClass) :
    (controller.dispatch surroundings slot tracker).1.holder trafficClass =
      controller.holder trafficClass :=
  holder_assignRef ..

@[simp] theorem connectionsOpened_dispatch (slot : Slot) (tracker : Tracker) :
    (controller.dispatch surroundings slot tracker).1.connectionsOpened =
      controller.connectionsOpened :=
  connectionsOpened_assignRef ..

@[simp] theorem traffic_dispatch (slot : Slot) (tracker : Tracker) :
    traffic (controller.dispatch surroundings slot tracker).2 =
      [(tracker.trafficClass, .sent tracker.message)] := by
  have same := message_assignRef (surroundings.transport slot) tracker controller
  have own := congrArg Message.trafficClass same
  simp only [Tracker.trafficClass_message] at own
  simp [dispatch, Effect.traffic?, same]
  exact own

theorem dispatch_refines (agrees : controller.Agrees) (slot : Slot) (tracker : Tracker) :
    Refines [tracker] controller (controller.dispatch surroundings slot tracker) := by
  refine .of_lane tracker.trafficClass [.sent tracker.message] agrees (by simp) (by simp)
    (fun other _ => holder_dispatch ..) ?_ ?_ (.inl ⟨rfl, connectionsOpened_dispatch ..⟩)
  · rw [holder_dispatch]
    exact agrees _
  · rw [lane_congr (holder_dispatch ..)]
    exact .sent

@[simp] theorem holder_dispatchAll (choose : Surroundings → Tracker → Slot)
    (trackers : List Tracker) (trafficClass : TrafficClass) :
    (controller.dispatchAll conditions choose trackers).1.holder trafficClass =
      controller.holder trafficClass := by
  induction trackers generalizing controller conditions with
  | nil => rfl
  | cons tracker rest ih =>
      simp only [dispatchAll, followedBy]
      rw [ih, holder_dispatch]

@[simp] theorem connectionsOpened_dispatchAll (choose : Surroundings → Tracker → Slot)
    (trackers : List Tracker) :
    (controller.dispatchAll conditions choose trackers).1.connectionsOpened =
      controller.connectionsOpened := by
  induction trackers generalizing controller conditions with
  | nil => rfl
  | cons tracker rest ih =>
      simp only [dispatchAll, followedBy]
      rw [ih, connectionsOpened_dispatch]

@[simp] theorem traffic_dispatchAll (choose : Surroundings → Tracker → Slot)
    (trackers : List Tracker) :
    traffic (controller.dispatchAll conditions choose trackers).2 =
      trackers.map fun tracker => (tracker.trafficClass, .sent tracker.message) := by
  induction trackers generalizing controller conditions with
  | nil => rfl
  | cons tracker rest ih =>
      simp only [dispatchAll, followedBy, traffic_append, traffic_dispatch, ih, List.map_cons,
        List.singleton_append]

theorem complete_refines (agrees : controller.Agrees) (tracker : Tracker) (result : SendResult)
    (domain : Option Domain) :
    Refines [tracker] controller (controller.complete surroundings tracker result domain) := by
  refine .of_lane tracker.trafficClass [.completed tracker.message result] agrees (by simp) ?_
    (fun _ _ => rfl) (agrees _) .completed (.inl ⟨rfl, rfl⟩)
  simp [complete, Effect.traffic?]

/-! ### Queueing and selection -/

theorem trafficClass_of_queued (agrees : controller.Agrees) {trafficClass : TrafficClass}
    {tracker : Tracker} (member : tracker ∈ controller.queued trafficClass) :
    tracker.trafficClass = trafficClass := by
  obtain ⟨request, queued, rfl⟩ := List.mem_map.mp member
  exact ((agrees trafficClass).members request queued).1

theorem traffic_dispatch_queued (agrees : controller.Agrees) (trafficClass : TrafficClass)
    (choose : Surroundings → Tracker → Slot) {other : Controller} :
    traffic (other.dispatchAll conditions choose (controller.queued trafficClass)).2 =
      ((controller.lane trafficClass).queue.map .sent).map (trafficClass, ·) := by
  rw [traffic_dispatchAll, lane, List.map_map, List.map_map]
  refine List.map_congr_left fun tracker member => ?_
  rw [trafficClass_of_queued agrees member]
  rfl

theorem enqueue_refines (agrees : controller.Agrees) (kind : RequestKind) (tracker : Tracker)
    (selecting : (controller.holder tracker.trafficClass).requested = true)
    (unused : tracker.usedIms = false) :
    Refines [tracker] controller (controller.enqueue surroundings kind tracker, []) := by
  have holds := agrees tracker.trafficClass
  obtain ⟨active, held⟩ := holds.active_of_selecting selecting
  refine .of_lane tracker.trafficClass [] agrees (by simp) rfl
    (fun other different => holder_setHolder_of_ne _ _ different) ?_ ?_
    (.inl ⟨rfl, connectionsOpened_setHolder ..⟩)
  · simp only [enqueue, holder_setHolder_self]
    exact holds.enqueue selecting rfl unused
  · simp only [lane, enqueue, queued, holder_setHolder_self, ConnectionHolder.enqueue,
      ConnectionHolder.connectionId, held, Option.map_some, List.map_append, List.map_cons,
      List.map_nil]
    exact .queued

def nextConnection (controller : Controller) : ConnectionId :=
  { number := controller.connectionsOpened + 1 }

theorem holder_openConnection (surroundings : Surroundings) (agrees : controller.Agrees)
    (kind : RequestKind) (tracker : Tracker)
    (idle : (controller.holder tracker.trafficClass).requested = false) :
    (controller.openConnection surroundings kind tracker).1.holder tracker.trafficClass =
      { trafficClass := tracker.trafficClass
        active := some { id := controller.nextConnection }
        requested := true
        pending := [{ kind, tracker, queuedAt := surroundings.now }] } := by
  have holds := agrees tracker.trafficClass
  simp [openConnection, enqueue, ConnectionHolder.setConnection, ConnectionHolder.enqueue,
    nextConnection, holds.ownClass, holds.pending_of_idle idle]

theorem holder_openConnection_of_ne (kind : RequestKind) (tracker : Tracker)
    {other : TrafficClass} (different : other ≠ tracker.trafficClass) :
    (controller.openConnection surroundings kind tracker).1.holder other =
      controller.holder other := by
  simp only [openConnection, enqueue]
  rw [holder_setHolder_of_ne _ _ different, holder_setHolder_of_ne _ _ different]
  cases other <;> rfl

@[simp] theorem connectionsOpened_openConnection (kind : RequestKind) (tracker : Tracker) :
    (controller.openConnection surroundings kind tracker).1.connectionsOpened =
      controller.connectionsOpened + 1 := by
  simp [openConnection, enqueue]

theorem traffic_openConnection (surroundings : Surroundings) (agrees : controller.Agrees)
    (kind : RequestKind) (tracker : Tracker)
    (idle : (controller.holder tracker.trafficClass).requested = false) :
    traffic (controller.openConnection surroundings kind tracker).2 =
      [(tracker.trafficClass, .taken controller.nextConnection true)] := by
  simp [openConnection, Effect.traffic?, nextConnection, ConnectionHolder.isVacant,
    (agrees tracker.trafficClass).active_of_idle idle]

/-- A selection under way: the lane selects on the new connection, with the message
that opened it at the head of its queue. -/
theorem requestSelection_issued_refines (agrees : controller.Agrees) (resolver : ResolverId)
    (kind : RequestKind) (tracker : Tracker)
    (idle : (controller.holder tracker.trafficClass).requested = false)
    (unused : tracker.usedIms = false) :
    Refines [tracker] controller
      (controller.requestSelection conditions resolver true kind tracker) := by
  have taken := holder_openConnection conditions.now agrees kind tracker idle
  have seen := traffic_openConnection conditions.now agrees kind tracker idle
  simp only [requestSelection, followedBy, selectionIssued, if_true, taken,
    ConnectionHolder.setWaiter, connectionsOpened_openConnection]
  refine .of_lane tracker.trafficClass
    [.taken controller.nextConnection true, .requested controller.nextConnection,
      .announced controller.nextConnection] agrees (by simp) ?_ ?_ ?_ ?_ (.inr ⟨rfl, ?_⟩)
  · simp [seen, Effect.traffic?, nextConnection]
  · intro other different
    rw [holder_setHolder_of_ne _ _ different, holder_openConnection_of_ne _ _ different]
  · rw [holder_setHolder_self]
    exact ⟨rfl, rfl, rfl, by simp [unused]⟩
  · rw [lane_of_idle agrees idle]
    simp only [lane, queued, holder_setHolder_self, ConnectionHolder.connectionId]
    exact .opened
  · simp

/-! ### The end of a selection -/

@[simp] theorem holder_takePending_self (trafficClass : TrafficClass) (controller : Controller) :
    (controller.takePending trafficClass).holder trafficClass =
      (controller.holder trafficClass).takePending :=
  holder_setHolder_self ..

theorem holder_takePending_of_ne {trafficClass other : TrafficClass} (controller : Controller)
    (different : other ≠ trafficClass) :
    (controller.takePending trafficClass).holder other = controller.holder other :=
  holder_setHolder_of_ne _ _ different

@[simp] theorem holder_clearHolder_self (trafficClass : TrafficClass) (controller : Controller) :
    (controller.clearHolder trafficClass).1.holder trafficClass =
      (controller.holder trafficClass).clear.1 :=
  holder_setHolder_self ..

theorem holder_clearHolder_of_ne {trafficClass other : TrafficClass} (controller : Controller)
    (different : other ≠ trafficClass) :
    (controller.clearHolder trafficClass).1.holder other = controller.holder other :=
  holder_setHolder_of_ne _ _ different

@[simp] theorem connectionsOpened_takePending (trafficClass : TrafficClass)
    (controller : Controller) :
    (controller.takePending trafficClass).connectionsOpened = controller.connectionsOpened :=
  connectionsOpened_setHolder ..

@[simp] theorem connectionsOpened_clearHolder (trafficClass : TrafficClass)
    (controller : Controller) :
    (controller.clearHolder trafficClass).1.connectionsOpened = controller.connectionsOpened :=
  connectionsOpened_setHolder ..

@[simp] theorem traffic_clearHolder (trafficClass : TrafficClass) (controller : Controller) :
    traffic (controller.clearHolder trafficClass).2 =
      [(trafficClass, .dropped (controller.holder trafficClass).connectionId
        (controller.holder trafficClass).isDrained)] := by
  cases waiter : (controller.holder trafficClass).clear.2 <;>
    simp [clearHolder, waiter, Effect.traffic?]

@[simp] theorem traffic_finishConnection (trafficClass : TrafficClass)
    (controller : Controller) :
    traffic (controller.finishConnection trafficClass).2 =
      ((controller.holder trafficClass).connectionId.map fun connection =>
        (trafficClass, LaneEvent.finished connection)).toList := by
  cases held : (controller.holder trafficClass).connectionId <;>
    simp [finishConnection, held, Effect.traffic?]

/-- A selection that cannot be requested: the lane is idle again, and the message
that opened the connection is handed over directly. -/
theorem requestSelection_unissued_refines (agrees : controller.Agrees) (resolver : ResolverId)
    (kind : RequestKind) (tracker : Tracker)
    (idle : (controller.holder tracker.trafficClass).requested = false) :
    Refines [tracker] controller
      (controller.requestSelection conditions resolver false kind tracker) := by
  have taken := holder_openConnection conditions.now agrees kind tracker idle
  have seen := traffic_openConnection conditions.now agrees kind tracker idle
  simp only [requestSelection, followedBy, selectionUnissued, Bool.false_eq_true, if_false,
    connectionsOpened_openConnection, finishConnection]
  refine .of_lane tracker.trafficClass
    [.taken controller.nextConnection true, .requested controller.nextConnection,
      .finished controller.nextConnection, .dropped (some controller.nextConnection) true,
      .sent tracker.message] agrees (by simp) ?_ ?_ ?_ ?_ (.inr ⟨rfl, ?_⟩)
  · simp [taken, seen, Effect.traffic?, ConnectionHolder.takePending,
      ConnectionHolder.connectionId, ConnectionHolder.isDrained, queued, nextConnection]
  · intro other different
    rw [holder_dispatchAll, holder_clearHolder_of_ne _ different,
      holder_takePending_of_ne _ different, holder_openConnection_of_ne _ _ different]
  · rw [holder_dispatchAll, holder_clearHolder_self, holder_takePending_self, taken]
    exact ⟨rfl, rfl, rfl, by simp [ConnectionHolder.clear, ConnectionHolder.takePending]⟩
  · rw [lane_of_idle agrees idle]
    simp only [lane, queued, holder_dispatchAll, holder_clearHolder_self,
      holder_takePending_self, taken]
    exact .unissued
  · simp

theorem lane_of_current {trafficClass : TrafficClass} {connection : ConnectionId}
    (current : (controller.holder trafficClass).isCurrent connection = true) :
    controller.lane trafficClass =
      { connection := some connection, queue := (controller.lane trafficClass).queue } := by
  have held : (controller.holder trafficClass).connectionId = some connection := by
    simpa [ConnectionHolder.isCurrent] using current
  simp [lane, held]

/-- A decision, or the failure to reach one, sends the whole queue and then finishes
and drops the connection. -/
theorem onSelectionCompleted_refines (agrees : controller.Agrees) {trafficClass : TrafficClass}
    {connection : ConnectionId} (result : Except SelectionError Domain)
    (current : (controller.holder trafficClass).isCurrent connection = true) :
    Refines [] controller
      (controller.onSelectionCompleted conditions trafficClass connection result) := by
  have held : (controller.holder trafficClass).connectionId = some connection := by
    simpa [ConnectionHolder.isCurrent] using current
  simp only [onSelectionCompleted, current, if_true, followedBy]
  refine .of_lane trafficClass
    (.decided connection result.toOption ::
      (controller.lane trafficClass).queue.map .sent ++
        [.finished connection, .dropped (some connection) true])
    agrees (by simp) ?_ ?_ ?_ ?_ (.inl ⟨?_, ?_⟩)
  · simp only [traffic_append, traffic_cons, traffic_dispatch_queued agrees,
      traffic_finishConnection, traffic_clearHolder]
    simp [Effect.traffic?, finishConnection, held]
  · intro other different
    simp only [finishConnection]
    rw [holder_clearHolder_of_ne _ different, holder_dispatchAll,
      holder_takePending_of_ne _ different]
  · simp only [finishConnection]
    rw [holder_clearHolder_self, holder_dispatchAll, holder_takePending_self]
    exact (agrees trafficClass).cleared
  · rw [lane_of_current current]
    simp only [lane, queued, finishConnection, holder_clearHolder_self, holder_dispatchAll,
      holder_takePending_self]
    exact .decided
  · simp only [List.filterMap_append, List.filterMap_cons, LaneEvent.taken?,
      LaneEvent.filterMap_taken?_map_sent, List.filterMap_nil, List.append_nil]
  · simp [finishConnection]

/-- A selection given up sends the whole queue and then drops the connection, which is
not finished. -/
theorem onSelectionTerminated_refines (agrees : controller.Agrees)
    {trafficClass : TrafficClass} {connection : ConnectionId} (cause : UInt32)
    (current : (controller.holder trafficClass).isCurrent connection = true) :
    Refines [] controller
      (controller.onSelectionTerminated conditions trafficClass connection cause) := by
  have held : (controller.holder trafficClass).connectionId = some connection := by
    simpa [ConnectionHolder.isCurrent] using current
  simp only [onSelectionTerminated, current, if_true, followedBy]
  refine .of_lane trafficClass
    (.terminated connection cause ::
      (controller.lane trafficClass).queue.map .sent ++ [.dropped (some connection) true])
    agrees (by simp) ?_ ?_ ?_ ?_ (.inl ⟨?_, ?_⟩)
  · simp only [traffic_append, traffic_cons, traffic_dispatch_queued agrees, traffic_clearHolder]
    simp [Effect.traffic?, held]
  · intro other different
    rw [holder_clearHolder_of_ne _ different, holder_dispatchAll,
      holder_takePending_of_ne _ different]
  · rw [holder_clearHolder_self, holder_dispatchAll, holder_takePending_self]
    exact (agrees trafficClass).cleared
  · rw [lane_of_current current]
    simp only [lane, queued, holder_clearHolder_self, holder_dispatchAll,
      holder_takePending_self]
    exact .terminated
  · simp only [List.filterMap_append, List.filterMap_cons, LaneEvent.taken?,
      LaneEvent.filterMap_taken?_map_sent, List.filterMap_nil, List.append_nil]
  · simp

theorem onSelectionCompleted_of_stale {trafficClass : TrafficClass} {connection : ConnectionId}
    (result : Except SelectionError Domain)
    (stale : (controller.holder trafficClass).isCurrent connection = false) :
    controller.onSelectionCompleted conditions trafficClass connection result =
      (controller, []) := by
  simp [onSelectionCompleted, stale]

theorem onSelectionTerminated_of_stale {trafficClass : TrafficClass}
    {connection : ConnectionId} (cause : UInt32)
    (stale : (controller.holder trafficClass).isCurrent connection = false) :
    controller.onSelectionTerminated conditions trafficClass connection cause =
      (controller, []) := by
  simp [onSelectionTerminated, stale]

/-! ### Messages on their way -/

theorem route_refines (agrees : controller.Agrees) (kind : RequestKind) (tracker : Tracker)
    (unused : tracker.usedIms = false) :
    Refines [tracker] controller (controller.route conditions kind tracker) := by
  unfold route
  split
  · next resolver _ _ =>
    split
    · next selecting => exact enqueue_refines agrees kind tracker selecting unused
    · next idle =>
      have idle : (controller.holder tracker.trafficClass).requested = false := by
        simpa using idle
      unfold consultResolver
      refine Refines.preceded ?_ rfl
      split
      · exact dispatch_refines agrees _ tracker
      · exact requestSelection_unissued_refines agrees resolver kind tracker idle
      · exact requestSelection_issued_refines agrees resolver kind tracker idle unused
  · exact dispatch_refines agrees _ tracker

theorem sendRetry_refines (agrees : controller.Agrees) (tracker : Tracker) :
    Refines [tracker] controller (controller.sendRetry conditions tracker) := by
  unfold sendRetry
  split
  · exact complete_refines agrees tracker _ _
  · split
    · exact dispatch_refines agrees _ tracker
    · next unused => exact route_refines agrees .retry tracker (by simpa using unused)

theorem onOutcome_refines (agrees : controller.Agrees) (tracker : Tracker) (domain : Domain)
    (outcome : TransportOutcome) :
    Refines [tracker] controller (controller.onOutcome conditions tracker domain outcome) := by
  unfold onOutcome
  split
  · exact complete_refines agrees tracker _ _
  · exact complete_refines agrees tracker _ _
  · exact Refines.preceded (dispatch_refines agrees _ tracker) rfl
  · exact complete_refines agrees tracker _ _
  · exact sendRetry_refines agrees tracker

/-! ### Routing ends nothing -/

theorem dispatch_routing (slot : Slot) (tracker : Tracker) :
    Routing (controller.dispatch surroundings slot tracker).2 := by
  simp [Routing, LaneEvent.isRouting]

theorem selectionUnissued_routing (trafficClass : TrafficClass) :
    Routing (controller.selectionUnissued conditions trafficClass).2 := by
  have finished : Routing (controller.finishConnection trafficClass).2 := by
    cases held : (controller.holder trafficClass).connectionId <;>
      simp [Routing, held, LaneEvent.isRouting]
  have cleared : Routing ((controller.takePending trafficClass).clearHolder trafficClass).2 := by
    simp [Routing, LaneEvent.isRouting]
  refine finished.append (cleared.append ?_)
  simp [Routing, LaneEvent.isRouting]

theorem selectionIssued_routing (trafficClass : TrafficClass) (connection : ConnectionId) :
    Routing (controller.selectionIssued trafficClass connection).2 := by
  unfold selectionIssued ConnectionHolder.setWaiter
  split <;> simp [Routing, Effect.traffic?, LaneEvent.isRouting]

theorem requestSelection_routing (resolver : ResolverId) (issued : Bool) (kind : RequestKind)
    (tracker : Tracker) :
    Routing (controller.requestSelection conditions resolver issued kind tracker).2 := by
  have opened :
      Routing (controller.openConnection conditions.now kind tracker).2 := by
    simp [Routing, openConnection, Effect.traffic?, LaneEvent.isRouting]
  refine opened.append (Routing.append ?_ ?_)
  · simp [Routing, Effect.traffic?, LaneEvent.isRouting]
  · split
    · exact selectionIssued_routing _ _
    · exact selectionUnissued_routing _

/-- To find the way of a message ends neither a selection nor a message. -/
theorem route_routing (kind : RequestKind) (tracker : Tracker) :
    Routing (controller.route conditions kind tracker).2 := by
  unfold route
  split
  · split
    · simp [Routing]
    · unfold consultResolver
      refine Routing.append (by simp [Routing, Effect.traffic?]) ?_
      split
      · exact dispatch_routing _ _
      · exact requestSelection_routing _ _ _ _
      · exact requestSelection_routing _ _ _ _
  · exact dispatch_routing _ _

/-! ### All commands -/

def carried (surroundings : Surroundings) : Command → List Tracker
  | .submit _ request => [admitted surroundings request]
  | .retry tracker | .outcome tracker _ _ => [tracker]
  | _ => []

theorem carried_of_brings {command : Command} {tracker : Tracker}
    (brings : command.tracker? = some tracker) : carried surroundings command = [tracker] := by
  cases command <;> simp_all [Command.tracker?, carried]

/-- Every command keeps the holders in agreement and does one step to each lane. -/
theorem handle_refines (agrees : controller.Agrees) (conditions : Conditions)
    (command : Command) :
    Refines (carried conditions.now command) controller
      (controller.handle conditions command) := by
  cases command with
  | submit kind request => exact route_refines agrees kind _ rfl
  | retry tracker => exact sendRetry_refines agrees tracker
  | selectionCompleted trafficClass connection result =>
      by_cases current : (controller.holder trafficClass).isCurrent connection = true
      · exact onSelectionCompleted_refines agrees result current
      · rw [handle, onSelectionCompleted_of_stale result (by simpa using current)]
        exact .still agrees rfl (fun _ => rfl) rfl
  | selectionTerminated trafficClass connection cause =>
      by_cases current : (controller.holder trafficClass).isCurrent connection = true
      · exact onSelectionTerminated_refines agrees cause current
      · rw [handle, onSelectionTerminated_of_stale cause (by simpa using current)]
        exact .still agrees rfl (fun _ => rfl) rfl
  | outcome tracker domain outcome => exact onOutcome_refines agrees tracker domain outcome
  | inboundSms address =>
      refine .still agrees ?_ (fun _ => rfl) rfl
      simp only [handle, onInboundSms]
      split <;> rfl
  | installResolver resolver =>
      exact .still agrees rfl (fun trafficClass => by cases trafficClass <;> rfl) rfl
  | subscribe awaited => exact .still agrees rfl (fun _ => rfl) rfl
  | unsubscribe subscription => exact .still agrees rfl (fun _ => rfl) rfl
  | snapshot awaited =>
      refine .still agrees ?_ (fun _ => rfl) rfl
      simp only [handle]
      split <;> rfl

/-- Handles commands one after another, each under conditions of its own. -/
def handleAll : List (Conditions × Command) → Controller → Turn
  | [], controller => (controller, [])
  | (conditions, command) :: rest, controller =>
      followedBy (controller.handle conditions command) (handleAll rest)

end Controller

end OutboundSms
