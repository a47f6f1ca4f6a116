import OutboundSms.Proofs.EventLog
import OutboundSms.Proofs.References

/-!
# The end of a selection

When a selection ends, everything that has waited for it is handed over in one turn, in the
order of the queue. What a message is handed over as depends on its place there: by then the
collaborators may answer in another way, and the messages before it may have moved the
reference counter. The turn is given here as a function of the place, and the recursion that
hands the messages over is shown to compute it.
-/

set_option autoImplicit false

namespace OutboundSms

/-- How a selection ends while messages wait for it. -/
inductive SelectionEnd where
  | completed (result : Except SelectionError Domain)
  | terminated (cause : UInt32)

namespace SelectionEnd

def command (trafficClass : TrafficClass) (connection : ConnectionId) : SelectionEnd → Command
  | completed result => .selectionCompleted trafficClass connection result
  | terminated cause => .selectionTerminated trafficClass connection cause

def domain? : SelectionEnd → Option Domain
  | completed (.ok domain) => some domain
  | completed (.error _) | terminated _ => none

def event (trafficClass : TrafficClass) (connection : ConnectionId)
    (ending : SelectionEnd) : DispatchEvent :=
  match ending with
  | completed _ => .selectionCompleted trafficClass connection ending.domain?
  | terminated cause => .selectionTerminated trafficClass connection cause

/-- Whether a message to `destination` goes over PS: as it has been decided, and otherwise
as PS says by then, of emergency messages to that destination or of itself. -/
def usesPs (surroundings : Surroundings) (trafficClass : TrafficClass) (destination : String)
    (ending : SelectionEnd) : Bool :=
  match ending.domain?, trafficClass with
  | some domain, _ => domain.isPs
  | none, .emergency => (surroundings.transport .ps).supportsEmergency destination
  | none, .normal => (surroundings.transport .ps).available

def slot (trafficClass : TrafficClass) (ending : SelectionEnd) (surroundings : Surroundings)
    (tracker : Tracker) : Slot :=
  if ending.usesPs surroundings trafficClass tracker.destination then .ps
  else .cs surroundings.voiceFormat

/-- What is done about the connection once all messages have been handed over. Only one that
has answered is told to finish. -/
def farewell (trafficClass : TrafficClass) (connection : ConnectionId)
    (waiter : Option WaiterId) (ending : SelectionEnd) : List Effect :=
  (match ending with
    | completed _ => [.finishSelection trafficClass connection]
    | terminated _ => []) ++
  .dropConnection trafficClass (some connection) true :: (waiter.map .stopWaiter).toList

theorem slotAfterSelection_eq (ending : SelectionEnd) {trafficClass : TrafficClass}
    {tracker : Tracker} (own : tracker.trafficClass = trafficClass)
    (surroundings : Surroundings) :
    Controller.slotAfterSelection ending.domain? surroundings tracker =
      ending.slot trafficClass surroundings tracker := by
  subst own
  unfold slot usesPs
  cases decided : ending.domain? with
  | some domain => cases domain <;> rfl
  | none =>
      cases emergency : tracker.emergency <;>
        simp only [Controller.slotAfterSelection, Controller.defaultSlot, Tracker.trafficClass,
          emergency] <;> rfl

end SelectionEnd

/-! ### A queue handed over place by place -/

def Tracker.takesRef (facts : TransportFacts) (tracker : Tracker) : Bool :=
  facts.controllerAssignsRef && tracker.messageRef.isNone

section Places

variable (conditions : Conditions) (choose : Surroundings → Tracker → Slot)

def factsAt (place : Nat) (tracker : Tracker) : TransportFacts :=
  (conditions place).transport (choose (conditions place) tracker)

/-- How many messages of a queue take a reference from the controller. -/
def takers (queue : List Tracker) : Nat :=
  (queue.mapIdx fun place tracker =>
    tracker.takesRef (factsAt conditions choose place tracker)).count true

variable (sequence : ReferenceCounter) (queue : List Tracker)

/-- What the transport gets of the message at a place of `queue`, where the counter stands
at `sequence` before the first of them. A reference that is taken is the next one after
those that the messages before have taken. -/
def handoverAt (place : Nat) (tracker : Tracker) : Holding :=
  let facts := factsAt conditions choose place tracker
  { slot := choose (conditions place) tracker
    tracker :=
      { tracker with
        messageRef :=
          if tracker.takesRef facts then
            some (sequence.advanceBy (takers conditions choose (queue.take place))).peek
          else tracker.messageRef
        lastDomain := some facts.domain
        usedIms := tracker.usedIms || facts.domain.isPs }
    domain := facts.domain }

def Holding.announcement (holding : Holding) : DispatchEvent :=
  .dispatched holding.tracker.messageId holding.tracker.messageRef holding.domain

/-- All that is done about the message at a place: its emergency session is opened if this
is its first dispatch, and it is announced and handed over. -/
def handoverEffectsAt (place : Nat) (tracker : Tracker) : List Effect :=
  let holding := handoverAt conditions choose sequence queue place tracker
  (if tracker.isFirstDispatch && tracker.emergency && (conditions place).tracksEmergency then
      [.openSession tracker.destination holding.domain.isPs] else []) ++
    [.publish holding.announcement, .send holding.slot holding.tracker holding.domain]

end Places

variable {conditions : Conditions} {choose : Surroundings → Tracker → Slot}
  {sequence : ReferenceCounter} {queue : List Tracker} {tracker : Tracker}

theorem takers_cons (tracker : Tracker) (rest : List Tracker) :
    takers conditions choose (tracker :: rest) =
      (tracker.takesRef (factsAt conditions choose 0 tracker)).toNat +
        takers conditions.later choose rest := by
  have shifted : (fun place tracker =>
      Tracker.takesRef (factsAt conditions choose (place + 1) tracker) tracker) =
    fun place tracker =>
      Tracker.takesRef (factsAt conditions.later choose place tracker) tracker := rfl
  rw [takers, List.mapIdx_cons, shifted, List.count_cons, Nat.add_comm]
  cases tracker.takesRef (factsAt conditions choose 0 tracker) <;> rfl

/-- The message at the next place of a longer queue finds the counter where the first one has
left it. -/
theorem handoverAt_succ (first : Tracker) (rest : List Tracker) (place : Nat)
    (tracker : Tracker) :
    handoverAt conditions choose sequence (first :: rest) (place + 1) tracker =
      handoverAt conditions.later choose
        (sequence.advanceBy (first.takesRef (factsAt conditions choose 0 first)).toNat) rest
        place tracker := by
  rw [handoverAt, List.take_succ_cons, takers_cons, ReferenceCounter.advanceBy_add]
  rfl

theorem handoverEffectsAt_succ (first : Tracker) (rest : List Tracker) (place : Nat)
    (tracker : Tracker) :
    handoverEffectsAt conditions choose sequence (first :: rest) (place + 1) tracker =
      handoverEffectsAt conditions.later choose
        (sequence.advanceBy (first.takesRef (factsAt conditions choose 0 first)).toNat) rest
        place tracker := by
  rw [handoverEffectsAt, handoverAt_succ]
  rfl

theorem handedOver_handoverEffectsAt (place : Nat) (tracker : Tracker) :
    handedOver (handoverEffectsAt conditions choose sequence queue place tracker) =
      [handoverAt conditions choose sequence queue place tracker] := by
  unfold handoverEffectsAt
  split <;> rfl

theorem published_handoverEffectsAt (place : Nat) (tracker : Tracker) :
    published (handoverEffectsAt conditions choose sequence queue place tracker) =
      [(handoverAt conditions choose sequence queue place tracker).announcement] := by
  unfold handoverEffectsAt
  split <;> rfl

theorem handedOver_places (conditions : Conditions) (choose : Surroundings → Tracker → Slot)
    (sequence : ReferenceCounter) (queue places : List Tracker) :
    handedOver (places.mapIdx (handoverEffectsAt conditions choose sequence queue)).flatten =
      places.mapIdx (handoverAt conditions choose sequence queue) :=
  filterMap_flatten_mapIdx handedOver_handoverEffectsAt places

theorem published_places (conditions : Conditions) (choose : Surroundings → Tracker → Slot)
    (sequence : ReferenceCounter) (queue places : List Tracker) :
    published (places.mapIdx (handoverEffectsAt conditions choose sequence queue)).flatten =
      (places.mapIdx (handoverAt conditions choose sequence queue)).map (·.announcement) := by
  rw [published, filterMap_flatten_mapIdx published_handoverEffectsAt places]
  apply List.ext_getElem?
  intro place
  rw [List.getElem?_map, List.getElem?_mapIdx, List.getElem?_mapIdx, Option.map_map]
  rfl

namespace Controller

variable {surroundings : Surroundings} {controller : Controller} {trafficClass : TrafficClass}
  {connection : ConnectionId}

theorem dispatch_controller (surroundings : Surroundings) (slot : Slot) (tracker : Tracker)
    (controller : Controller) :
    (controller.dispatch surroundings slot tracker).1 =
      { controller with
        sequence := controller.sequence.advanceBy
          (tracker.takesRef (surroundings.transport slot)).toNat } := by
  have taking : ((surroundings.transport slot).controllerAssignsRef &&
      tracker.messageRef.isNone) = tracker.takesRef (surroundings.transport slot) := rfl
  simp only [dispatch, assignRef, taking]
  cases tracker.takesRef (surroundings.transport slot) with
  | true => rfl
  | false => rfl

theorem outgoing_eq (facts : TransportFacts) (tracker : Tracker) (controller : Controller) :
    controller.outgoing facts tracker =
      { tracker with
        messageRef := if tracker.takesRef facts then some controller.sequence.peek
          else tracker.messageRef
        lastDomain := some facts.domain
        usedIms := tracker.usedIms || facts.domain.isPs } := by
  have ref := messageRef_outgoing facts tracker controller
  rw [Tracker.takesRef, ← ref]
  simp only [outgoing, assignRef, Tracker.recordDispatch]
  split <;> rfl

theorem dispatch_first (conditions : Conditions) (choose : Surroundings → Tracker → Slot)
    (tracker : Tracker) (rest : List Tracker) (controller : Controller) :
    (controller.dispatch conditions.now (choose conditions.now tracker) tracker).2 =
      handoverEffectsAt conditions choose controller.sequence (tracker :: rest) 0 tracker := by
  have opening (facts : TransportFacts) :
      sessionOpening conditions.now (controller.assignRef facts tracker).1 facts.domain =
        if tracker.isFirstDispatch && tracker.emergency && conditions.now.tracksEmergency then
          [.openSession tracker.destination facts.domain.isPs] else [] := by
    simp only [sessionOpening, assignRef]
    split <;> rfl
  rw [dispatch_effects]
  simp only [opening, outgoing_eq]
  rfl

/-- Handing a queue over does to each message what its place says, and moves the counter past
the references that are taken. -/
theorem dispatchAll_eq (conditions : Conditions) (choose : Surroundings → Tracker → Slot)
    (queue : List Tracker) (controller : Controller) :
    controller.dispatchAll conditions choose queue =
      ({ controller with
          sequence := controller.sequence.advanceBy (takers conditions choose queue) },
        (queue.mapIdx
          (handoverEffectsAt conditions choose controller.sequence queue)).flatten) := by
  induction queue generalizing conditions controller with
  | nil => rfl
  | cons tracker rest ih =>
      -- The places of the rest are counted from its own first message, and its counter starts
      -- where the first dispatch has left it.
      have shifted : (fun place => handoverEffectsAt conditions choose controller.sequence
            (tracker :: rest) (place + 1)) =
          handoverEffectsAt conditions.later choose (controller.sequence.advanceBy
            (tracker.takesRef (factsAt conditions choose 0 tracker)).toNat) rest := by
        funext place later
        exact handoverEffectsAt_succ tracker rest place later
      rw [dispatchAll, followedBy, ih, dispatch_first conditions choose tracker rest,
        dispatch_controller, takers_cons, ReferenceCounter.advanceBy_add, List.mapIdx_cons,
        List.flatten_cons, shifted]
      rfl

theorem dispatchAll_choose {other : Surroundings → Tracker → Slot}
    (same : ∀ tracker ∈ queue, ∀ surroundings, choose surroundings tracker =
      other surroundings tracker) :
    controller.dispatchAll conditions choose queue =
      controller.dispatchAll conditions other queue := by
  induction queue generalizing conditions controller with
  | nil => rfl
  | cons tracker rest ih =>
      have here := same tracker List.mem_cons_self conditions.now
      have there := fun later member => same later (List.mem_cons_of_mem _ member)
      simp only [dispatchAll, followedBy, here, ih there]

/-! ### The turn of an ended selection -/

/-- What a turn does in which the selection of a class on `connection` ends. The messages
that wait are handed over at their places, after the event and before anything is done about
the connection, and there is nothing else. Of the controller, one holder and the reference
counter change. -/
structure Drains (conditions : Conditions) (ending : SelectionEnd) (trafficClass : TrafficClass)
    (connection : ConnectionId) (before : Controller) (turn : Turn) : Prop where
  effects_eq : ∃ waiter, turn.2 =
    .publish (ending.event trafficClass connection) ::
      (((before.queued trafficClass).mapIdx
        (handoverEffectsAt conditions (ending.slot trafficClass) before.sequence
          (before.queued trafficClass))).flatten ++
      ending.farewell trafficClass connection waiter)
  handed_eq : handedOver turn.2 =
    (before.queued trafficClass).mapIdx
      (handoverAt conditions (ending.slot trafficClass) before.sequence
        (before.queued trafficClass))
  published_eq : published turn.2 =
    ending.event trafficClass connection :: (handedOver turn.2).map (·.announcement)
  idle : turn.1.holder trafficClass = { trafficClass }
  frame : ∀ other, other ≠ trafficClass → turn.1.holder other = before.holder other
  controller_eq : turn.1 =
    { before.setHolder trafficClass { trafficClass } with
      sequence := before.sequence.advanceBy
        (takers conditions (ending.slot trafficClass) (before.queued trafficClass)) }

theorem clearHolder_taken (agrees : controller.Agrees)
    (held : (controller.holder trafficClass).connectionId = some connection)
    (sequence : ReferenceCounter) :
    { controller.takePending trafficClass with sequence }.clearHolder trafficClass =
      ({ controller.setHolder trafficClass { trafficClass } with sequence },
        .dropConnection trafficClass (some connection) true ::
          (((controller.holder trafficClass).active.bind (·.waiter)).map .stopWaiter).toList) := by
  have own := (agrees trafficClass).ownClass
  cases trafficClass <;>
    simp_all [clearHolder, takePending, setHolder, holder, ConnectionHolder.clear,
      ConnectionHolder.takePending, ConnectionHolder.connectionId, ConnectionHolder.isDrained]

theorem finishConnection_taken
    (held : (controller.holder trafficClass).connectionId = some connection)
    (sequence : ReferenceCounter) :
    { controller.takePending trafficClass with sequence }.finishConnection trafficClass =
      ({ controller.takePending trafficClass with sequence },
        [.finishSelection trafficClass connection]) := by
  cases trafficClass <;>
    simp_all [finishConnection, takePending, setHolder, holder, ConnectionHolder.takePending,
      ConnectionHolder.connectionId]

theorem handle_ending (agrees : controller.Agrees)
    (held : (controller.holder trafficClass).connectionId = some connection)
    (conditions : Conditions) (ending : SelectionEnd) :
    controller.handle conditions (ending.command trafficClass connection) =
      ({ controller.setHolder trafficClass { trafficClass } with
          sequence := controller.sequence.advanceBy
            (takers conditions (ending.slot trafficClass) (controller.queued trafficClass)) },
        .publish (ending.event trafficClass connection) ::
          (((controller.queued trafficClass).mapIdx
            (handoverEffectsAt conditions (ending.slot trafficClass) controller.sequence
              (controller.queued trafficClass))).flatten ++
          ending.farewell trafficClass connection
            ((controller.holder trafficClass).active.bind (·.waiter)))) := by
  have current : (controller.holder trafficClass).isCurrent connection = true := by
    simp [ConnectionHolder.isCurrent, held]
  have finished := finishConnection_taken held
  have cleared := clearHolder_taken agrees held
  -- What waits belongs to the class, so the class stands for the tracker in the choice.
  have chosen (other : Controller) :
      other.dispatchAll conditions (slotAfterSelection ending.domain?)
          (controller.queued trafficClass) =
        other.dispatchAll conditions (ending.slot trafficClass)
          (controller.queued trafficClass) := by
    apply dispatchAll_choose
    intro tracker queued surroundings
    exact ending.slotAfterSelection_eq (trafficClass_of_queued agrees queued) surroundings
  cases ending with
  | completed result =>
      have decided : result.toOption = (SelectionEnd.completed result).domain? := by
        cases result <;> rfl
      simp only [SelectionEnd.command, handle, onSelectionCompleted, current, if_true,
        followedBy, decided, chosen, dispatchAll_eq, sequence_takePending, finished, cleared]
      simp [SelectionEnd.event, SelectionEnd.farewell]
  | terminated cause =>
      have undecided : none = (SelectionEnd.terminated cause).domain? := rfl
      simp only [SelectionEnd.command, handle, onSelectionTerminated, current, if_true,
        followedBy, undecided, chosen, dispatchAll_eq, sequence_takePending, cleared]
      simp [SelectionEnd.event, SelectionEnd.farewell]

theorem handle_drains (agrees : controller.Agrees)
    (held : (controller.holder trafficClass).connectionId = some connection)
    (conditions : Conditions) (ending : SelectionEnd) :
    Drains conditions ending trafficClass connection controller
      (controller.handle conditions (ending.command trafficClass connection)) := by
  have silent (waiter : Option WaiterId) :
      handedOver (ending.farewell trafficClass connection waiter) = [] ∧
        published (ending.farewell trafficClass connection waiter) = [] := by
    cases ending <;> cases waiter <;> exact ⟨rfl, rfl⟩
  have handed (effects : List Effect) :
      handedOver (.publish (ending.event trafficClass connection) :: effects) =
        handedOver effects := rfl
  have told (effects : List Effect) :
      published (.publish (ending.event trafficClass connection) :: effects) =
        ending.event trafficClass connection :: published effects := rfl
  rw [handle_ending agrees held conditions ending]
  constructor
  case effects_eq => exact ⟨_, rfl⟩
  case handed_eq =>
    rw [handed, handedOver_append, handedOver_places, (silent _).1, List.append_nil]
  case published_eq =>
    rw [told, published_append, published_places, (silent _).2, List.append_nil, handed,
      handedOver_append, handedOver_places, (silent _).1, List.append_nil]
  case idle => cases trafficClass <;> rfl
  case frame =>
    intro other different
    cases trafficClass <;> cases other <;> first | rfl | exact absurd rfl different
  case controller_eq => rfl

theorem Moves.sequence_advances {arriving : List Tracker} {turn : Turn}
    (moves : Moves conditions controller arriving turn) :
    ∃ count, turn.1.sequence = controller.sequence.advanceBy count := by
  cases moves with
  | still moved | joined _ moved | completed _ moved => exact ⟨0, moved.sequence_eq⟩
  | handed choose _ _ moved | drained _ choose moved =>
      rw [moved.sequence_eq, dispatchAll_eq]
      exact ⟨_, rfl⟩

end Controller

namespace World

variable {config : DispatchConfig} {resolver : Option ResolverId} {world : World}
  {trafficClass : TrafficClass} {connection : ConnectionId}

theorem Reachable.sequence_advanced (reachable : Reachable config resolver sequence world) :
    ∃ count, world.controller.sequence = sequence.advanceBy count := by
  refine reachable.history
    (fun controller _ => ∃ count, controller.sequence = sequence.advanceBy count) ⟨0, rfl⟩ ?_
  rintro controller log agrees ⟨before, past⟩ conditions command
  obtain ⟨count, now⟩ := (Controller.handle_moved agrees conditions command).sequence_advances
  refine ⟨before + count, ?_⟩
  rw [now, past, ReferenceCounter.advanceBy_add]

/-- However the selection of a class ends, and whatever the collaborators answer on the way,
all that waits for it is handed over in queue order, each message once and in the way its
place and the ending say, and the class is idle afterwards. The references that are taken
are consecutive ones. -/
theorem Reachable.selection_drains {start modulus : UInt16}
    (reachable : Reachable config resolver (.startingAt start modulus) world)
    (selecting : (world.controller.holder trafficClass).connectionId = some connection)
    (ending : SelectionEnd) (conditions : Conditions) :
    Controller.Drains conditions ending trafficClass connection world.controller
        (world.controller.handle conditions (ending.command trafficClass connection)) ∧
      ∀ count, (world.controller.sequence.advanceBy count).peek.toNat =
        (world.controller.sequence.peek.toNat + count) %
          (ReferenceCounter.clampModulus modulus).toNat := by
  constructor
  · exact Controller.handle_drains reachable.agrees selecting conditions ending
  · intro count
    obtain ⟨past, stands⟩ := reachable.sequence_advanced
    rw [stands, ← ReferenceCounter.advanceBy_add, ReferenceCounter.toNat_peek_advanceBy,
      ReferenceCounter.toNat_peek_advanceBy, Nat.mod_add_mod, Nat.add_assoc]

end World

namespace Sample

/-- A second message waits behind the first. -/
def crowded : World :=
  World.handle (.steady surroundings) (.submit .text (request 2))
    { selecting with submitted := [message 1, message 2] }

theorem crowded_reachable : World.Reachable {} (some 0) (.new 256) crowded :=
  selecting_reachable.next (.handle (.submitted (by decide)))

/-- PS is there for one message only, and the phone then has the other voice format. -/
def wavering : Conditions
  | 0 => surroundings
  | _ + 1 =>
      { surroundings with
        transport := fun slot => { surroundings.transport slot with available := false }
        voiceFormat := .threeGpp2 }

/-- The connection is given up: the first message goes over PS, the second one over the CS
transport of the format by then, and the connection is not told to finish. -/
theorem crowded_drained :
    let turn := crowded.controller.handle wavering (.selectionTerminated .normal { number := 1 } 9)
    published turn.2 =
        [.selectionTerminated .normal { number := 1 } 9, .dispatched 0 (some 0) .ps,
          .dispatched 0 (some 1) .cs] ∧
      (handedOver turn.2).map (fun holding => (holding.tracker.ticket, holding.slot)) =
        [(1, .ps), (2, .cs .threeGpp2)] ∧
      (turn.1.holder .normal).state = .idle := by
  have held : (crowded.controller.holder .normal).connectionId =
      some ({ number := 1 } : ConnectionId) := rfl
  obtain ⟨drains, -⟩ := World.Reachable.selection_drains crowded_reachable held
    (.terminated 9) wavering
  have handed := drains.handed_eq
  have told := drains.published_eq
  rw [handed] at told
  exact ⟨told, congrArg _ handed, congrArg ConnectionHolder.state drains.idle⟩

end Sample

end OutboundSms
