import OutboundSms.Proofs.World

/-!
# Selections

The connections of a class live one after another: each is taken while none is held,
ends in one of three ways, and is dropped before the next is taken. Connections are
numbered in the order in which both classes take them.
-/

set_option autoImplicit false

namespace OutboundSms

/-! ### Lives of connections -/

/-- How the selection on a connection ends: its request is not issued, the resolver
decides or fails, or the resolver gives it up. -/
inductive Ending where
  | unissued
  | decided (domain : Option Domain)
  | terminated (cause : UInt32)
  deriving DecidableEq, Repr

/-- A connection that has come and gone. -/
structure Life where
  connection : ConnectionId
  ending : Ending
  deriving DecidableEq, Repr

/-- What is seen of a connection from first to last. It is told to finish, once, in
every case but that of a termination. -/
def Life.events (life : Life) : List LaneEvent :=
  let connection := life.connection
  match life.ending with
  | .unissued =>
      [.taken connection true, .requested connection, .finished connection,
        .dropped (some connection) true]
  | .decided domain =>
      [.taken connection true, .requested connection, .announced connection,
        .decided connection domain, .finished connection, .dropped (some connection) true]
  | .terminated cause =>
      [.taken connection true, .requested connection, .announced connection,
        .terminated connection cause, .dropped (some connection) true]

/-- What has been seen of the connection that a lane selects on, if it does. -/
def outstanding : Option ConnectionId → List LaneEvent
  | none => []
  | some connection => [.taken connection true, .requested connection, .announced connection]

def LaneEvent.isSelection : LaneEvent → Bool
  | sent _ | completed _ _ => false
  | _ => true

/-- What is seen of the connections of a class in a list of effects. -/
def selectionEvents (trafficClass : TrafficClass) (effects : List Effect) : List LaneEvent :=
  (laneEvents trafficClass effects).filter (·.isSelection)

@[simp] theorem selectionEvents_append (trafficClass : TrafficClass) (first second : List Effect) :
    selectionEvents trafficClass (first ++ second) =
      selectionEvents trafficClass first ++ selectionEvents trafficClass second := by
  simp [selectionEvents]

private theorem filter_isSelection_map_sent (messages : List Message) :
    (messages.map LaneEvent.sent).filter (·.isSelection) = [] :=
  List.filter_eq_nil_iff.mpr (by simp [LaneEvent.isSelection])

theorem Lane.Step.lives {arriving : List Message} {before after : Lane}
    {events : List LaneEvent} (step : Lane.Step arriving before events after) :
    ∃ lives : List Life,
      outstanding before.connection ++ events.filter (·.isSelection) =
        lives.flatMap Life.events ++ outstanding after.connection := by
  cases step with
  | still => exact ⟨[], by simp⟩
  | sent => exact ⟨[], by simp [LaneEvent.isSelection]⟩
  | completed => exact ⟨[], by simp [LaneEvent.isSelection]⟩
  | queued => exact ⟨[], by simp⟩
  | opened => exact ⟨[], rfl⟩
  | @unissued connection => exact ⟨[{ connection, ending := .unissued }], rfl⟩
  | @decided connection _ domain =>
      refine ⟨[{ connection, ending := .decided domain }], ?_⟩
      rw [List.cons_append, List.filter_cons, List.filter_append, filter_isSelection_map_sent]
      rfl
  | @terminated connection _ cause =>
      refine ⟨[{ connection, ending := .terminated cause }], ?_⟩
      rw [List.cons_append, List.filter_cons, List.filter_append, filter_isSelection_map_sent]
      rfl

namespace World

variable {config : DispatchConfig} {resolver : Option ResolverId}
  {sequence : ReferenceCounter} {world : World}

/-- All that has been seen of the connections of a class are the lives of those that
are gone, one after another, and the beginning of the one that is held. -/
theorem Reachable.lives (reachable : Reachable config resolver sequence world)
    (trafficClass : TrafficClass) :
    ∃ lives : List Life,
      selectionEvents trafficClass world.log =
        lives.flatMap Life.events ++
          outstanding (world.controller.lane trafficClass).connection := by
  refine reachable.history
    (fun controller log => ∃ lives : List Life,
      selectionEvents trafficClass log =
        lives.flatMap Life.events ++ outstanding (controller.lane trafficClass).connection)
    ⟨[], by cases trafficClass <;> rfl⟩ ?_
  rintro controller log agrees ⟨lives, past⟩ conditions command
  obtain ⟨recent, now⟩ :=
    ((Controller.handle_refines agrees conditions command).lanes trafficClass).lives
  refine ⟨lives ++ recent, ?_⟩
  rw [selectionEvents_append, past, List.append_assoc, selectionEvents, now,
    List.flatMap_append, List.append_assoc]

end World

/-! ### Numbers -/

/-- The id of the connection that is taken after `place` others. -/
def ConnectionId.nth (place : Nat) : ConnectionId where
  number := .ofNat (place + 1)

theorem ConnectionId.nth_injOn {count : Nat} (bounded : count < UInt64.size) {left right : Nat}
    (leftIn : left < count) (rightIn : right < count) (same : nth left = nth right) :
    left = right := by
  have numbers := congrArg (·.number.toNat) same
  simp only [nth, UInt64.toNat_ofNat'] at numbers
  simp only [UInt64.size] at bounded
  omega

namespace World

variable {config : DispatchConfig} {resolver : Option ResolverId}
  {sequence : ReferenceCounter} {world : World}

/-- Connections get the numbers from 1 on in the order in which they are taken. -/
theorem Reachable.numbered (reachable : Reachable config resolver sequence world) :
    ∃ count, takenConnections world.log = (List.range count).map .nth ∧
      world.controller.connectionsOpened = .ofNat count := by
  refine reachable.history
    (fun controller log => ∃ count,
      takenConnections log = (List.range count).map .nth ∧
        controller.connectionsOpened = .ofNat count)
    ⟨0, rfl, rfl⟩ ?_
  rintro controller log agrees ⟨count, past, opened⟩ conditions command
  rcases (Controller.handle_refines agrees conditions command).numbered with
    ⟨none, same⟩ | ⟨one, next⟩
  · exact ⟨count, by simp [none, past], same.trans opened⟩
  · refine ⟨count + 1, ?_, ?_⟩
    · simp [one, past, List.range_succ, ConnectionId.nth, opened]
    · simp [next, opened]

theorem Reachable.takenConnections_nodup
    (reachable : Reachable config resolver sequence world)
    (bounded : (takenConnections world.log).length < UInt64.size) :
    (takenConnections world.log).Nodup := by
  obtain ⟨count, taken, -⟩ := reachable.numbered
  rw [taken, List.length_map, List.length_range] at bounded
  rw [taken]
  refine List.Nodup.map_on ?_ List.nodup_range
  intro left leftIn right rightIn same
  exact ConnectionId.nth_injOn bounded (List.mem_range.mp leftIn) (List.mem_range.mp rightIn)
    same

end World

/-! ### One connection -/

def LaneEvent.connection? : LaneEvent → Option ConnectionId
  | taken connection _ | requested connection | announced connection | decided connection _
  | terminated connection _ | finished connection => some connection
  | dropped connection _ => connection
  | sent _ | completed _ _ => none

/-- What a class sees of one connection in a list of effects. -/
def eventsOf (connection : ConnectionId) (trafficClass : TrafficClass) (effects : List Effect) :
    List LaneEvent :=
  (selectionEvents trafficClass effects).filter (·.connection? = some connection)

theorem Life.filter_events (life : Life) (connection : ConnectionId) :
    life.events.filter (·.connection? = some connection) =
      if life.connection = connection then life.events else [] := by
  obtain ⟨own, ending⟩ := life
  by_cases same : own = connection <;> cases ending <;>
    simp [events, LaneEvent.connection?, same]

theorem filter_outstanding (current : Option ConnectionId) (connection : ConnectionId) :
    (outstanding current).filter (·.connection? = some connection) =
      if current = some connection then outstanding current else [] := by
  cases current with
  | none => rfl
  | some own =>
      by_cases same : own = connection <;> simp [outstanding, LaneEvent.connection?, same]

theorem filter_lives (lives : List Life) (connection : ConnectionId) :
    (lives.flatMap Life.events).filter (·.connection? = some connection) =
      (lives.filter (·.connection = connection)).flatMap Life.events := by
  induction lives with
  | nil => rfl
  | cons life rest ih =>
      rw [List.flatMap_cons, List.filter_append, ih, Life.filter_events, List.filter_cons]
      by_cases same : life.connection = connection <;> simp [same]

theorem taken_selectionEvents (trafficClass : TrafficClass) (effects : List Effect) :
    (selectionEvents trafficClass effects).filterMap LaneEvent.taken? =
      (laneEvents trafficClass effects).filterMap LaneEvent.taken? := by
  rw [selectionEvents, List.filterMap_filter]
  refine List.filterMap_congr fun event _ => ?_
  cases event <;> rfl

theorem taken_lives (lives : List Life) (current : Option ConnectionId) :
    (lives.flatMap Life.events ++ outstanding current).filterMap LaneEvent.taken? =
      lives.map (·.connection) ++ current.toList := by
  induction lives with
  | nil => cases current <;> rfl
  | cons life rest ih =>
      have own : life.events.filterMap LaneEvent.taken? = [life.connection] := by
        obtain ⟨connection, ending⟩ := life
        cases ending <;> rfl
      rw [List.flatMap_cons, List.append_assoc, List.filterMap_append, own, ih]
      rfl

theorem takenConnections_perm (effects : List Effect) :
    ((selectionEvents .normal effects).filterMap LaneEvent.taken? ++
      (selectionEvents .emergency effects).filterMap LaneEvent.taken?).Perm
      (takenConnections effects) := by
  rw [taken_selectionEvents, taken_selectionEvents]
  exact laneEvents_perm LaneEvent.taken? effects

namespace World

variable {config : DispatchConfig} {resolver : Option ResolverId}
  {sequence : ReferenceCounter} {world : World} {trafficClass : TrafficClass}
  {connection : ConnectionId}

theorem Reachable.eventsOf_of_not_taken
    (reachable : Reachable config resolver sequence world)
    (absent : connection ∉ (selectionEvents trafficClass world.log).filterMap LaneEvent.taken?) :
    eventsOf connection trafficClass world.log = [] ∧
      (world.controller.lane trafficClass).connection ≠ some connection := by
  obtain ⟨lives, seen⟩ := reachable.lives trafficClass
  rw [seen, taken_lives, List.mem_append, not_or] at absent
  have other : (world.controller.lane trafficClass).connection ≠ some connection := by
    simpa using absent.2
  refine ⟨?_, other⟩
  rw [eventsOf, seen, List.filter_append, filter_lives, filter_outstanding, if_neg other,
    filter_key_of_not_mem absent.1]
  rfl

/-- A class sees one whole life of a connection that it has taken, or the beginning of
one while it holds the connection. -/
theorem Reachable.eventsOf_of_taken (reachable : Reachable config resolver sequence world)
    (distinct : ((selectionEvents trafficClass world.log).filterMap LaneEvent.taken?).Nodup)
    (taken : connection ∈ (selectionEvents trafficClass world.log).filterMap LaneEvent.taken?) :
    ((∃ ending, eventsOf connection trafficClass world.log =
        Life.events { connection, ending }) ∧
      (world.controller.lane trafficClass).connection ≠ some connection) ∨
    (eventsOf connection trafficClass world.log = outstanding (some connection) ∧
      (world.controller.lane trafficClass).connection = some connection) := by
  obtain ⟨lives, seen⟩ := reachable.lives trafficClass
  rw [seen, taken_lives] at distinct taken
  obtain ⟨livesDistinct, -, apart⟩ := List.nodup_append.mp distinct
  rw [eventsOf, seen, List.filter_append, filter_lives, filter_outstanding]
  -- A connection that is held has not been held before.
  by_cases current : (world.controller.lane trafficClass).connection = some connection
  · have gone : connection ∉ lives.map (·.connection) := fun member =>
      apart _ member connection (by simp [current]) rfl
    rw [filter_key_of_not_mem gone, if_pos current, current]
    exact .inr ⟨rfl, rfl⟩
  · have member : connection ∈ lives.map (·.connection) := by
      simpa [current] using taken
    obtain ⟨life, among, rfl⟩ := List.mem_map.mp member
    rw [filter_key_of_mem livesDistinct among, if_neg current]
    exact .inl ⟨⟨life.ending, by simp⟩, current⟩

/-- As long as the numbers last, each connection that has been taken lives once, in one
class. -/
theorem Reachable.eventsOf_takenConnections
    (reachable : Reachable config resolver sequence world)
    (bounded : (takenConnections world.log).length < UInt64.size)
    (taken : connection ∈ takenConnections world.log) :
    ∃ trafficClass,
      (((∃ ending, eventsOf connection trafficClass world.log =
          Life.events { connection, ending }) ∧
        (world.controller.lane trafficClass).connection ≠ some connection) ∨
      (eventsOf connection trafficClass world.log = outstanding (some connection) ∧
        (world.controller.lane trafficClass).connection = some connection)) ∧
      ∀ other, other ≠ trafficClass → eventsOf connection other world.log = [] ∧
        (world.controller.lane other).connection ≠ some connection := by
  have both := takenConnections_perm world.log
  obtain ⟨normal, emergency, apart⟩ := List.nodup_append.mp
    (both.nodup_iff.mpr (reachable.takenConnections_nodup bounded))
  rcases List.mem_append.mp (both.mem_iff.mpr taken) with mine | mine
  · refine ⟨.normal, reachable.eventsOf_of_taken normal mine, fun other different => ?_⟩
    cases other with
    | normal => exact absurd rfl different
    | emergency =>
        exact reachable.eventsOf_of_not_taken fun theirs => apart _ mine _ theirs rfl
  · refine ⟨.emergency, reachable.eventsOf_of_taken emergency mine, fun other different => ?_⟩
    cases other with
    | normal => exact reachable.eventsOf_of_not_taken fun theirs => apart _ theirs _ mine rfl
    | emergency => exact absurd rfl different

end World

/-! ### What a callback does -/

def LaneEvent.isEnd : LaneEvent → Bool
  | decided _ _ | terminated _ _ => true
  | _ => false

def ends (effects : List Effect) : List (TrafficClass × LaneEvent) :=
  (traffic effects).filter (·.2.isEnd)

namespace Controller

variable {conditions : Conditions} {surroundings : Surroundings} {controller : Controller}

/-- The end of a selection that a command brings about: the one it names, while that is
the selection its class is making. -/
def ended (controller : Controller) : Command → List (TrafficClass × LaneEvent)
  | .selectionCompleted trafficClass connection result =>
      if (controller.holder trafficClass).isCurrent connection then
        [(trafficClass, .decided connection result.toOption)]
      else []
  | .selectionTerminated trafficClass connection cause =>
      if (controller.holder trafficClass).isCurrent connection then
        [(trafficClass, .terminated connection cause)]
      else []
  | _ => []

@[simp] theorem ends_append (first second : List Effect) :
    ends (first ++ second) = ends first ++ ends second := by
  simp [ends]

theorem ends_of_routing {effects : List Effect} (routing : Routing effects) :
    ends effects = [] := by
  refine List.filter_eq_nil_iff.mpr fun entry member => ?_
  have seen := routing entry member
  revert seen
  cases entry.2 <;> simp [LaneEvent.isRouting, LaneEvent.isEnd]

@[simp] theorem ends_dispatchAll (choose : Surroundings → Tracker → Slot)
    (trackers : List Tracker) :
    ends (controller.dispatchAll conditions choose trackers).2 = [] := by
  simp [ends, LaneEvent.isEnd, List.filter_map, Function.comp_def]

@[simp] theorem ends_complete (tracker : Tracker) (result : SendResult)
    (domain : Option Domain) :
    ends (controller.complete surroundings tracker result domain).2 = [] := by
  simp [complete, ends, Effect.traffic?, LaneEvent.isEnd]

@[simp] theorem ends_clearHolder (trafficClass : TrafficClass) :
    ends (controller.clearHolder trafficClass).2 = [] := by
  simp [ends, LaneEvent.isEnd]

@[simp] theorem ends_finishConnection (trafficClass : TrafficClass) :
    ends (controller.finishConnection trafficClass).2 = [] := by
  cases held : (controller.holder trafficClass).connectionId <;>
    simp [ends, held, LaneEvent.isEnd]

theorem ends_sendRetry (tracker : Tracker) :
    ends (controller.sendRetry conditions tracker).2 = [] := by
  unfold sendRetry
  split
  · exact ends_complete ..
  · split
    · exact ends_of_routing (dispatch_routing _ _)
    · exact ends_of_routing (route_routing _ _)

/-- A command ends no selection but the one it names, and that one once. -/
theorem ends_handle (conditions : Conditions) (command : Command) :
    ends (controller.handle conditions command).2 = controller.ended command := by
  cases command with
  | submit kind request => exact ends_of_routing (route_routing _ _)
  | retry tracker => exact ends_sendRetry ..
  | selectionCompleted trafficClass connection result =>
      by_cases current : (controller.holder trafficClass).isCurrent connection = true
      · simp only [handle, onSelectionCompleted, ended, current, if_true, followedBy,
          ends_append, ends_dispatchAll, ends_finishConnection, ends_clearHolder]
        rfl
      · simp only [handle, onSelectionCompleted, ended, current]
        rfl
  | selectionTerminated trafficClass connection cause =>
      by_cases current : (controller.holder trafficClass).isCurrent connection = true
      · simp only [handle, onSelectionTerminated, ended, current, if_true, followedBy,
          ends_append, ends_dispatchAll, ends_clearHolder]
        rfl
      · simp only [handle, onSelectionTerminated, ended, current]
        rfl
  | outcome tracker domain outcome =>
      simp only [handle, onOutcome]
      split
      · exact ends_complete ..
      · exact ends_complete ..
      · simp only [followedBy, ends_append, ends_of_routing (dispatch_routing _ _)]
        rfl
      · exact ends_complete ..
      · exact ends_sendRetry ..
  | inboundSms address =>
      simp only [handle, onInboundSms]
      split <;> rfl
  | installResolver resolver => rfl
  | subscribe awaited => rfl
  | unsubscribe subscription => rfl
  | snapshot awaited =>
      simp only [handle]
      split <;> rfl

end Controller

namespace World

variable {config : DispatchConfig} {resolver : Option ResolverId}
  {sequence : ReferenceCounter} {world : World}

/-- The life cycle of a selection, whatever callbacks arrive and however often. One that
names any but the current connection of its class changes nothing and does nothing. No
command ends a selection but the one it names, and that one once. What a class sees of
its connections is one life after another, so each ends at most once, is finished as its
life says, and is gone before the next is requested. As long as the numbers last, no id
is given twice, and what both classes see of an id is one life or the beginning of one. -/
theorem Reachable.life_cycle (reachable : Reachable config resolver sequence world) :
    (∀ conditions trafficClass connection,
      (world.controller.holder trafficClass).connectionId ≠ some connection →
        (∀ result, world.controller.handle conditions
          (.selectionCompleted trafficClass connection result) = (world.controller, [])) ∧
        (∀ cause, world.controller.handle conditions
          (.selectionTerminated trafficClass connection cause) = (world.controller, []))) ∧
    (∀ conditions command,
      ends (world.controller.handle conditions command).2 = world.controller.ended command) ∧
    (∀ trafficClass, ∃ lives : List Life,
      selectionEvents trafficClass world.log =
        lives.flatMap Life.events ++
          outstanding (world.controller.holder trafficClass).connectionId) ∧
    ((takenConnections world.log).length < UInt64.size →
      (takenConnections world.log).Nodup ∧
      ∀ connection ∈ takenConnections world.log, ∃ trafficClass,
        (((∃ ending, eventsOf connection trafficClass world.log =
            Life.events { connection, ending }) ∧
          (world.controller.holder trafficClass).connectionId ≠ some connection) ∨
        (eventsOf connection trafficClass world.log = outstanding (some connection) ∧
          (world.controller.holder trafficClass).connectionId = some connection)) ∧
        ∀ other, other ≠ trafficClass → eventsOf connection other world.log = [] ∧
          (world.controller.holder other).connectionId ≠ some connection) := by
  refine ⟨?_, fun _ _ => Controller.ends_handle .., reachable.lives, ?_⟩
  · intro conditions trafficClass connection other
    have stale : (world.controller.holder trafficClass).isCurrent connection = false := by
      simpa [ConnectionHolder.isCurrent] using other
    exact ⟨fun result => Controller.onSelectionCompleted_of_stale result stale,
      fun cause => Controller.onSelectionTerminated_of_stale cause stale⟩
  · intro bounded
    exact ⟨reachable.takenConnections_nodup bounded,
      fun connection taken => reachable.eventsOf_takenConnections bounded taken⟩

end World

/-- A decision that is reported again is ignored, and its connection has been finished
once. -/
theorem Sample.sent_life_cycle :
    sent.controller.handle (.steady surroundings)
        (.selectionCompleted .normal { number := 1 } (.ok .cs)) = (sent.controller, []) ∧
      takenConnections sent.log = [{ number := 1 }] ∧
      ∃ trafficClass ending, eventsOf { number := 1 } trafficClass sent.log =
        Life.events { connection := { number := 1 }, ending } := by
  obtain ⟨ignored, -, -, byId⟩ := World.Reachable.life_cycle sent_reachable
  have taken : takenConnections sent.log = [{ number := 1 }] := by decide
  obtain ⟨-, lives⟩ := byId (by rw [taken]; decide)
  obtain ⟨trafficClass, (⟨⟨ending, seen⟩, -⟩ | ⟨-, held⟩), -⟩ :=
    lives { number := 1 } (by rw [taken]; decide)
  · exact ⟨(ignored _ .normal { number := 1 } (by decide)).1 _, taken, trafficClass, ending, seen⟩
  · cases trafficClass <;> exact absurd held (by decide)

end OutboundSms
