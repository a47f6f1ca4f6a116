import OutboundSms.Proofs.Custody
import OutboundSms.Proofs.Selections
import OutboundSms.Proofs.Sources

/-!
# Holders

What a holder says of its selection, its connection and its queue is in agreement
at all times. What waits in a queue has never been handed to PS, the two holders
never hold connections of the same id, and what a holder asserts of itself is true.
-/

set_option autoImplicit false

namespace OutboundSms

/-! ### Messages that PS has had -/

theorem message_mem_departures {effects : List Effect} {holding : Holding}
    (handed : holding ∈ handedOver effects) : holding.tracker.message ∈ departures effects :=
  (departures_perm_places effects).subset
    (List.mem_append_left _ (List.mem_map_of_mem handed))

/-- Messages that leave with different tickets are handed over once each. -/
theorem handedOver_injective {effects : List Effect}
    (distinct : ((departures effects).map (·.ticket)).Nodup) {first second : Holding}
    (firstIn : first ∈ handedOver effects) (secondIn : second ∈ handedOver effects)
    (same : first.tracker.ticket = second.tracker.ticket) : first = second := by
  have places := ((departures_perm_places effects).map Message.ticket).nodup_iff.mpr distinct
  rw [List.map_append, List.map_map] at places
  exact List.inj_on_of_nodup_map (List.nodup_append.mp places).1 firstIn secondIn same

namespace World

def trackers (world : World) : List Tracker :=
  world.controller.trackers ++ world.outsideTrackers

/-- The tracker says that IMS has had its message, should PS have had it. -/
def Marks (world : World) (tracker : Tracker) : Prop :=
  ∀ holding ∈ handedOver world.log, holding.domain = .ps →
    holding.tracker.ticket = tracker.ticket → tracker.usedIms = true

variable {world rest : World} {command : Command} {surroundings : Surroundings}
  {conditions : Conditions}

theorem Marks.of_same {given tracker : Tracker} (marks : world.Marks given)
    (message : tracker.message = given.message) (usedIms : tracker.usedIms = given.usedIms) :
    world.Marks tracker := by
  intro holding handed ps same
  have ticket := congrArg Message.ticket message
  rw [usedIms]
  exact marks holding handed ps (same.trans ticket)

theorem Accounted.marks_of_fresh (accounted : world.Accounted) {tracker : Tracker}
    (fresh : tracker.ticket ∉ world.tickets) : world.Marks tracker := by
  intro holding handed _ same
  have entered := accounted.known (message_mem_departures handed)
  exact absurd (same ▸ List.mem_map_of_mem entered) fresh

theorem Provides.outsideTrackers_subset
    (provides : world.Provides surroundings command rest) :
    rest.outsideTrackers ⊆ world.outsideTrackers :=
  List.append_subset.mpr
    ⟨List.subset_append_of_subset_left _ (List.map_subset _ provides.held_subset),
      List.subset_append_of_subset_right _ (List.map_subset _ provides.reports_subset)⟩

/-- A tracker that a command brings or leaves where it is has just come in, or is what has
become of one that was there. -/
theorem Provides.trackers_origin (provides : world.Provides surroundings command rest)
    {tracker : Tracker}
    (member : tracker ∈ Controller.carried surroundings command ++ rest.trackers) :
    (tracker ∈ Controller.carried surroundings command ∧ tracker.ticket ∉ world.tickets) ∨
      ∃ given ∈ world.trackers, given.Evolves tracker := by
  rcases List.mem_append.mp member with brought | there
  · rcases provides.carried_origin brought with fresh | ⟨given, outside, evolved⟩
    · exact .inl ⟨brought, fresh⟩
    · exact .inr ⟨given, List.mem_append_right _ outside, evolved⟩
  · refine .inr ⟨tracker, ?_, .unchanged⟩
    rw [trackers, provides.controller_eq] at there
    rcases List.mem_append.mp there with queued | outside
    · exact List.mem_append_left _ queued
    · exact List.mem_append_right _ (provides.outsideTrackers_subset outside)

theorem Provides.marks (provides : world.Provides surroundings command rest)
    (accounted : world.Accounted) (marked : ∀ tracker ∈ world.trackers, world.Marks tracker) :
    ∀ tracker ∈ Controller.carried surroundings command ++ rest.trackers,
      world.Marks tracker := by
  intro tracker member
  rcases provides.trackers_origin member with ⟨-, fresh⟩ | ⟨given, there, evolved⟩
  · exact accounted.marks_of_fresh fresh
  · exact (marked given there).of_same evolved.message_eq evolved.usedIms_eq

theorem waiting_eq_map_trackers (controller : Controller) :
    controller.waiting = controller.trackers.map (·.message) := by
  simp [Controller.waiting, Controller.trackers, Controller.lane]

/-- After a command a tracker has just been handed over, or it was there before and its
message has not left with the command. -/
theorem Provides.kept_or_handedOver (agrees : world.controller.Agrees)
    (provides : world.Provides conditions.now command rest) (accounted : world.Accounted)
    {tracker : Tracker} (member : tracker ∈ (rest.handle conditions command).trackers) :
    (∃ holding ∈ handedOver (rest.controller.handle conditions command).2,
      holding.tracker = tracker) ∨
    tracker ∈ Controller.carried conditions.now command ++ rest.trackers ∧
      ∀ message ∈ departures (rest.controller.handle conditions command).2,
        message.ticket ≠ tracker.ticket := by
  have sourced := Controller.handle_sourced conditions command rest.controller
  have distinct := provides.settled_distinct agrees accounted
  rw [List.append_assoc, List.map_append, List.nodup_append] at distinct
  have apart {message : Message} (leaves : message ∈ departures _)
      (stays : tracker.message ∈ _) : message.ticket ≠ tracker.ticket :=
    distinct.2.2 _ (List.mem_map_of_mem leaves) _ (List.mem_map_of_mem stays)
  have outside (there : tracker ∈ rest.outsideTrackers) :
      tracker ∈ Controller.carried conditions.now command ++ rest.trackers ∧
        ∀ message ∈ departures (rest.controller.handle conditions command).2,
          message.ticket ≠ tracker.ticket := by
    refine ⟨List.mem_append_right _ (List.mem_append_right _ there),
      fun message leaves => apart leaves ?_⟩
    refine List.mem_append_right _ (List.mem_append_left _ ?_)
    rw [heldMessages_append_reportedMessages]
    exact List.mem_map_of_mem there
  simp only [trackers, outsideTrackers, handle, List.map_append, List.mem_append] at member
  rcases member with queued | (held | sent) | reported
  · refine .inr ⟨?_, fun message leaves => apart leaves ?_⟩
    · have source : tracker ∈ Controller.carried conditions.now command ++
          rest.controller.trackers := by
        rcases List.mem_append.mp queued with normal | emergency
        · exact sourced.queued .normal normal
        · exact sourced.queued .emergency emergency
      simp only [trackers, List.mem_append] at source ⊢
      tauto
    · rw [waiting_eq_map_trackers]
      exact List.mem_append_left _ (List.mem_map_of_mem queued)
  · exact .inr (outside (List.mem_append_left _ held))
  · obtain ⟨holding, there, same⟩ := List.mem_map.mp sent
    exact .inl ⟨holding, there, same⟩
  · exact .inr (outside (List.mem_append_right _ reported))

/-- A command keeps the marks: a message that it hands to PS is marked from then on,
and is in no other hands. -/
theorem Provides.marks_handle (agrees : world.controller.Agrees)
    (provides : world.Provides conditions.now command rest) (accounted : world.Accounted)
    (marked : ∀ tracker ∈ world.trackers, world.Marks tracker) :
    ∀ tracker ∈ (rest.handle conditions command).trackers,
      (rest.handle conditions command).Marks tracker := by
  intro tracker member holding handed ps same
  simp only [handle, handedOver_append, List.mem_append, provides.log_eq] at handed
  rcases provides.kept_or_handedOver agrees accounted member with
    ⟨recent, sent, rfl⟩ | ⟨there, stays⟩
  · obtain ⟨given, source, from_⟩ :=
      (Controller.handle_sourced conditions command rest.controller).handed recent sent
    rcases handed with old | new
    · -- PS has had the message before, and the tracker that came in said so.
      have source : given ∈ Controller.carried conditions.now command ++ rest.trackers := by
        simp only [trackers, List.mem_append] at source ⊢
        tauto
      have ticket := congrArg Message.ticket from_.message_eq
      rw [from_.usedIms_eq, provides.marks accounted marked given source holding old ps
        (same.trans ticket), Bool.true_or]
    · have distinct := provides.settled_distinct agrees accounted
      rw [List.append_assoc, List.map_append, List.nodup_append] at distinct
      obtain rfl := handedOver_injective distinct.1 new sent same
      rw [from_.usedIms_eq, ps]
      exact Bool.or_true _
  · rcases handed with old | new
    · exact provides.marks accounted marked tracker there holding old ps same
    · exact absurd same (stays _ (message_mem_departures new))

variable {config : DispatchConfig} {resolver : Option ResolverId}
  {sequence : ReferenceCounter}

/-- Every tracker is marked once PS has had its message. -/
theorem Reachable.marked (reachable : Reachable config resolver sequence world) :
    ∀ tracker ∈ world.trackers, world.Marks tracker := by
  refine reachable.invariant
    (fun world => ∀ tracker ∈ world.trackers, world.Marks tracker) ?_ ?_
  · intro tracker _ holding handed
    cases handed
  · intro world move after reachable marked step
    cases step with
    | handle provides => exact provides.marks_handle reachable.agrees reachable.accounted marked
    | @report before holding after report held evolved =>
        intro tracker member
        simp only [trackers, outsideTrackers, List.map_append, List.map_cons, List.map_nil,
          List.mem_append, List.mem_singleton] at member
        rcases member with queued | kept | reported | rfl
        · exact marked tracker (List.mem_append_left _ queued)
        · refine marked tracker ?_
          simp only [trackers, outsideTrackers, held, List.map_append, List.map_cons,
            List.mem_append, List.mem_cons]
          tauto
        · refine marked tracker ?_
          exact List.mem_append_right _ (List.mem_append_right _ reported)
        · refine (marked holding.tracker ?_).of_same evolved.message_eq evolved.usedIms_eq
          simp [trackers, outsideTrackers, held]

end World

/-! ### One selection at a time -/

def LaneEvent.isRequest : LaneEvent → Bool
  | requested _ => true
  | _ => false

def LaneEvent.isDrop : LaneEvent → Bool
  | dropped _ _ => true
  | _ => false

/-- What a holder asserts when it takes a connection or gives one up. -/
def LaneEvent.isSound : LaneEvent → Bool
  | taken _ vacant => vacant
  | dropped _ drained => drained
  | _ => true

theorem Life.countP_isRequest (life : Life) : life.events.countP (·.isRequest) = 1 := by
  obtain ⟨connection, ending⟩ := life
  cases ending <;> rfl

theorem Life.countP_isDrop (life : Life) : life.events.countP (·.isDrop) = 1 := by
  obtain ⟨connection, ending⟩ := life
  cases ending <;> rfl

/-- At any moment of the lives of connections one after another, at most one of those
that have been requested has not been given up. -/
theorem countP_isRequest_le (lives : List Life) (current : Option ConnectionId)
    {events : List LaneEvent}
    (past : events <+: lives.flatMap Life.events ++ outstanding current) :
    events.countP (·.isRequest) ≤ events.countP (·.isDrop) + 1 := by
  induction lives generalizing events with
  | nil =>
      have most : (outstanding current).countP (·.isRequest) ≤ 1 := by
        cases current <;> simp [outstanding, LaneEvent.isRequest]
      exact Nat.le_trans past.sublist.countP_le (Nat.le_trans most (Nat.le_add_left ..))
  | cons life rest ih =>
      rw [List.flatMap_cons, List.append_assoc] at past
      -- The moment is in the first life or after it.
      rcases List.prefix_or_prefix_of_prefix past (List.prefix_append ..) with within | beyond
      · have most := within.sublist.countP_le (p := (·.isRequest))
        rw [life.countP_isRequest] at most
        omega
      · obtain ⟨later, rfl⟩ := beyond
        have bound := ih ((List.prefix_append_right_inj _).mp past)
        rw [List.countP_append, List.countP_append, life.countP_isRequest, life.countP_isDrop]
        omega

theorem Life.all_isSound (life : Life) : life.events.all (·.isSound) = true := by
  obtain ⟨connection, ending⟩ := life
  cases ending <;> rfl

theorem isSound_of_mem_lives (lives : List Life) (current : Option ConnectionId) :
    ∀ event ∈ lives.flatMap Life.events ++ outstanding current, event.isSound = true := by
  intro event member
  rcases List.mem_append.mp member with gone | now
  · obtain ⟨life, -, there⟩ := List.mem_flatMap.mp gone
    exact List.all_eq_true.mp life.all_isSound event there
  · have sound : (outstanding current).all (·.isSound) = true := by
      cases current <;> rfl
    exact List.all_eq_true.mp sound event now

namespace World

variable {config : DispatchConfig} {resolver : Option ResolverId}
  {sequence : ReferenceCounter} {world : World}

theorem Reachable.isSound (reachable : Reachable config resolver sequence world)
    {trafficClass : TrafficClass} {effect : Effect} {event : LaneEvent}
    (happened : effect ∈ world.log) (seen : effect.traffic? = some (trafficClass, event)) :
    event.isSound = true := by
  obtain ⟨lives, past⟩ := reachable.lives trafficClass
  cases selects : event.isSelection with
  | false => cases event <;> first | rfl | cases selects
  | true =>
      refine isSound_of_mem_lives lives (world.controller.lane trafficClass).connection event ?_
      rw [← past]
      refine List.mem_filter.mpr ⟨?_, selects⟩
      refine List.mem_map.mpr ⟨(trafficClass, event), List.mem_filter.mpr ⟨?_, by simp⟩, rfl⟩
      exact List.mem_filterMap.mpr ⟨effect, happened, seen⟩

/-- At any moment, in the middle of a command too, at most one selection of a class has
been requested and not given up. -/
theorem Reachable.countP_isRequest_le (reachable : Reachable config resolver sequence world)
    (trafficClass : TrafficClass) {past : List Effect} (before : past <+: world.log) :
    (selectionEvents trafficClass past).countP (·.isRequest) ≤
      (selectionEvents trafficClass past).countP (·.isDrop) + 1 := by
  obtain ⟨lives, all⟩ := reachable.lives trafficClass
  obtain ⟨later, same⟩ := before
  refine OutboundSms.countP_isRequest_le lives
    (world.controller.lane trafficClass).connection ⟨selectionEvents trafficClass later, ?_⟩
  rw [← all, ← same, selectionEvents_append]

theorem Reachable.taken_of_current (reachable : Reachable config resolver sequence world)
    (trafficClass : TrafficClass) {connection : ConnectionId}
    (current : (world.controller.lane trafficClass).connection = some connection) :
    connection ∈ takenConnections world.log := by
  obtain ⟨lives, past⟩ := reachable.lives trafficClass
  have mine : connection ∈
      (selectionEvents trafficClass world.log).filterMap LaneEvent.taken? := by
    rw [past, taken_lives, current]
    simp
  have both := (takenConnections_perm world.log).subset
  cases trafficClass with
  | normal => exact both (List.mem_append_left _ mine)
  | emergency => exact both (List.mem_append_right _ mine)

theorem Reachable.number_le (reachable : Reachable config resolver sequence world)
    (bounded : (takenConnections world.log).length < UInt64.size) {connection : ConnectionId}
    (taken : connection ∈ takenConnections world.log) :
    connection.number ≤ world.controller.connectionsOpened := by
  obtain ⟨count, all, opened⟩ := reachable.numbered
  rw [all] at bounded taken
  obtain ⟨place, member, rfl⟩ := List.mem_map.mp taken
  rw [List.length_map, List.length_range, UInt64.size] at bounded
  have within := List.mem_range.mp member
  rw [opened, UInt64.le_iff_toNat_le, ConnectionId.nth, UInt64.toNat_ofNat', UInt64.toNat_ofNat']
  omega

/-- The holder of each class in every world that can be reached. The flag, the connection
and the queue agree; what is queued is of the class and has never been handed to PS; as
long as the numbers last, the current ids are numbers given out and the two holders have
different ones; what the holders assert is true; and at most one selection of a class is
outstanding at any moment. -/
theorem Reachable.holders_sound (reachable : Reachable config resolver sequence world) :
    (∀ trafficClass,
      ((world.controller.holder trafficClass).requested = true ↔
        (world.controller.holder trafficClass).active.isSome = true) ∧
      ((world.controller.holder trafficClass).active.isSome = true ↔
        (world.controller.holder trafficClass).pending ≠ []) ∧
      ∀ request ∈ (world.controller.holder trafficClass).pending,
        request.tracker.trafficClass = trafficClass ∧
        request.tracker.usedIms = false ∧
        ∀ slot tracker, .send slot tracker .ps ∈ world.log →
          tracker.ticket ≠ request.tracker.ticket) ∧
    ((takenConnections world.log).length < UInt64.size →
      (∀ trafficClass connection,
        (world.controller.holder trafficClass).connectionId = some connection →
          connection.number ≤ world.controller.connectionsOpened) ∧
      ∀ connection, world.controller.normal.connectionId = some connection →
        world.controller.emergency.connectionId ≠ some connection) ∧
    (∀ trafficClass connection vacant,
      .takeConnection trafficClass connection vacant ∈ world.log → vacant = true) ∧
    (∀ trafficClass connection drained,
      .dropConnection trafficClass connection drained ∈ world.log → drained = true) ∧
    (∀ trafficClass past, past <+: world.log →
      (selectionEvents trafficClass past).countP (·.isRequest) ≤
        (selectionEvents trafficClass past).countP (·.isDrop) + 1) := by
  refine ⟨?_, ?_, ?_, ?_, ?_⟩
  · intro trafficClass
    have agrees := reachable.agrees trafficClass
    refine ⟨by rw [agrees.connected], ?_, ?_⟩
    · rw [agrees.waiting]
      simp
    · intro request member
      obtain ⟨own, unused⟩ := agrees.members request member
      refine ⟨own, unused, fun slot tracker sent same => ?_⟩
      have there : request.tracker ∈ world.trackers :=
        List.mem_append_left _
          (Controller.mem_trackers_of_queued (List.mem_map_of_mem member))
      have used := reachable.marked request.tracker there { slot, tracker, domain := .ps }
        (List.mem_filterMap.mpr ⟨_, sent, rfl⟩) rfl same
      simp [unused] at used
  · intro bounded
    refine ⟨fun trafficClass connection current =>
      reachable.number_le bounded (reachable.taken_of_current trafficClass current), ?_⟩
    intro connection normal emergency
    obtain ⟨trafficClass, -, elsewhere⟩ :=
      reachable.eventsOf_takenConnections bounded
        (reachable.taken_of_current .normal normal)
    cases trafficClass with
    | normal => exact (elsewhere .emergency (by decide)).2 emergency
    | emergency => exact (elsewhere .normal (by decide)).2 normal
  · exact fun _ _ _ happened => reachable.isSound happened rfl
  · exact fun _ _ _ happened => reachable.isSound happened rfl
  · exact fun trafficClass _ before => reachable.countP_isRequest_le trafficClass before

end World

/-- While a selection is under way its class has a queue and the other class has not. -/
theorem Sample.selecting_holders :
    (selecting.controller.holder .normal).pending ≠ [] ∧
      ¬ (selecting.controller.holder .emergency).requested = true ∧
      selecting.controller.emergency.connectionId ≠ some { number := 1 } := by
  obtain ⟨agreement, ids, -⟩ := World.Reachable.holders_sound selecting_reachable
  have taken : takenConnections selecting.log = [{ number := 1 }] := by decide
  refine ⟨(agreement .normal).2.1.mp (by decide), ?_, ?_⟩
  · rw [(agreement .emergency).1]
    decide
  · exact (ids (by rw [taken]; decide)).2 { number := 1 } (by decide)

end OutboundSms
