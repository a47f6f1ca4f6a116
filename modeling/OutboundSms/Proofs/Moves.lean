import OutboundSms.Proofs.Sources
import Mathlib.Logic.Function.Basic

/-!
# What a command does with messages

Apart from selections, a command does one of five things: nothing, put the message it
brings in a queue, hand that message over, complete it, or hand over a whole queue.
`Controller.Moves` says so with the trackers themselves, the effects that are about
messages and the reference counter, and `handle_moved` finds every command in it.
-/

set_option autoImplicit false

namespace OutboundSms

/-- Whether an effect is about a message. The others are about a selection or about a
subscriber. -/
def Effect.isAboutMessage : Effect → Bool
  | .send _ _ _ | .complete _ _ | .openSession _ _ | .closeSession _ _ _
  | .publish (.dispatched _ _ _) | .publish (.fellBack _ _) | .publish (.completed _ _) => true
  | _ => false

def messageEffects (effects : List Effect) : List Effect :=
  effects.filter (·.isAboutMessage)

@[simp] theorem messageEffects_append (first second : List Effect) :
    messageEffects (first ++ second) = messageEffects first ++ messageEffects second :=
  List.filter_append ..

/-- The tracker on its way to a transport: with a reference, and with the dispatch noted. -/
def Controller.outgoing (facts : TransportFacts) (tracker : Tracker) (controller : Controller) :
    Tracker :=
  (controller.assignRef facts tracker).1.recordDispatch facts.domain

namespace Controller

variable {conditions : Conditions} {surroundings : Surroundings} {controller other : Controller}

/-! ### The reference counter -/

@[simp] theorem sequence_setHolder (controller : Controller) (trafficClass : TrafficClass)
    (holder : ConnectionHolder) :
    (controller.setHolder trafficClass holder).sequence = controller.sequence := by
  cases trafficClass <;> rfl

@[simp] theorem sequence_takePending (trafficClass : TrafficClass) (controller : Controller) :
    (controller.takePending trafficClass).sequence = controller.sequence :=
  sequence_setHolder ..

@[simp] theorem sequence_clearHolder (trafficClass : TrafficClass) (controller : Controller) :
    (controller.clearHolder trafficClass).1.sequence = controller.sequence :=
  sequence_setHolder ..

@[simp] theorem sequence_openConnection (kind : RequestKind) (tracker : Tracker) :
    (controller.openConnection surroundings kind tracker).1.sequence = controller.sequence := by
  simp [openConnection, enqueue]

@[simp] theorem sequence_selectionIssued (trafficClass : TrafficClass)
    (connection : ConnectionId) :
    (controller.selectionIssued trafficClass connection).1.sequence = controller.sequence :=
  sequence_setHolder ..

/-- Of a controller, a dispatch looks at the reference counter only. -/
theorem dispatch_congr (same : controller.sequence = other.sequence) (slot : Slot)
    (tracker : Tracker) :
    (controller.dispatch surroundings slot tracker).2 =
        (other.dispatch surroundings slot tracker).2 ∧
      (controller.dispatch surroundings slot tracker).1.sequence =
        (other.dispatch surroundings slot tracker).1.sequence := by
  simp only [dispatch, assignRef, same]
  split
  · exact ⟨rfl, rfl⟩
  · exact ⟨rfl, same⟩

theorem dispatchAll_congr (same : controller.sequence = other.sequence)
    (choose : Surroundings → Tracker → Slot) (trackers : List Tracker) :
    (controller.dispatchAll conditions choose trackers).2 =
        (other.dispatchAll conditions choose trackers).2 ∧
      (controller.dispatchAll conditions choose trackers).1.sequence =
        (other.dispatchAll conditions choose trackers).1.sequence := by
  induction trackers generalizing controller other conditions with
  | nil => exact ⟨rfl, same⟩
  | cons tracker rest ih =>
      obtain ⟨effects, sequence⟩ := @dispatch_congr conditions.now controller other same
        (choose conditions.now tracker) tracker
      obtain ⟨later, last⟩ := @ih conditions.later _ _ sequence
      exact ⟨congrArg₂ (· ++ ·) effects later, last⟩

/-! ### Effects about messages -/

theorem dispatch_effects (slot : Slot) (tracker : Tracker) :
    (controller.dispatch surroundings slot tracker).2 =
      let facts := surroundings.transport slot
      let given := (controller.assignRef facts tracker).1
      let sent := controller.outgoing facts tracker
      sessionOpening surroundings given facts.domain ++
        [.publish (.dispatched sent.messageId sent.messageRef facts.domain),
          .send slot sent facts.domain] := rfl

theorem messageEffects_sessionOpening (surroundings : Surroundings) (tracker : Tracker)
    (domain : Domain) :
    messageEffects (sessionOpening surroundings tracker domain) =
      sessionOpening surroundings tracker domain := by
  unfold sessionOpening
  split <;> rfl

@[simp] theorem messageEffects_dispatch (slot : Slot) (tracker : Tracker) :
    messageEffects (controller.dispatch surroundings slot tracker).2 =
      (controller.dispatch surroundings slot tracker).2 := by
  rw [dispatch_effects, messageEffects_append, messageEffects_sessionOpening]
  rfl

@[simp] theorem messageEffects_dispatchAll (choose : Surroundings → Tracker → Slot)
    (trackers : List Tracker) :
    messageEffects (controller.dispatchAll conditions choose trackers).2 =
      (controller.dispatchAll conditions choose trackers).2 := by
  induction trackers generalizing controller conditions with
  | nil => rfl
  | cons tracker rest ih =>
      simp only [dispatchAll, followedBy, messageEffects_append, messageEffects_dispatch, ih]

@[simp] theorem messageEffects_complete (tracker : Tracker) (result : SendResult)
    (domain : Option Domain) :
    messageEffects (controller.complete surroundings tracker result domain).2 =
      (controller.complete surroundings tracker result domain).2 := by
  have closing : messageEffects (sessionClosing surroundings tracker result.isSuccess domain) =
      sessionClosing surroundings tracker result.isSuccess domain := by
    unfold sessionClosing
    split
    · split <;> rfl
    · rfl
  rw [complete, messageEffects_append, closing]
  rfl

@[simp] theorem messageEffects_clearHolder (trafficClass : TrafficClass) :
    messageEffects (controller.clearHolder trafficClass).2 = [] := by
  cases waiter : (controller.holder trafficClass).clear.2 <;> simp [clearHolder, waiter] <;> rfl

@[simp] theorem messageEffects_finishConnection (trafficClass : TrafficClass) :
    messageEffects (controller.finishConnection trafficClass).2 = [] := by
  cases held : (controller.holder trafficClass).connectionId <;>
    simp [finishConnection, held] <;> rfl

theorem messageEffects_selectionIssued (trafficClass : TrafficClass)
    (connection : ConnectionId) :
    messageEffects (controller.selectionIssued trafficClass connection).2 = [] := by
  unfold selectionIssued ConnectionHolder.setWaiter
  split <;> rfl

/-! ### The five moves -/

/-- What is left of a turn when one looks at messages only: the effects about them, the
reference counter and the queues. -/
structure Moved (turn : Turn) (effects : List Effect) (sequence : ReferenceCounter)
    (queues : TrafficClass → List Tracker) : Prop where
  effects_eq : messageEffects turn.2 = effects
  sequence_eq : turn.1.sequence = sequence
  queued_eq : ∀ trafficClass, turn.1.queued trafficClass = queues trafficClass

def queues (controller : Controller) (trafficClass : TrafficClass) : List Tracker :=
  controller.queued trafficClass

/-- What a turn does with messages. `Moves conditions before arriving turn` says that the
trackers `arriving` came in with it. One that IMS has had before is handed over to
circuit-switched transports only, and never joins a queue. -/
inductive Moves (conditions : Conditions) (before : Controller) : List Tracker → Turn → Prop where
  | still {turn} (moved : Moved turn [] before.sequence before.queues) :
      Moves conditions before [] turn
  | joined {turn tracker} (unused : tracker.usedIms = false)
      (moved : Moved turn [] before.sequence
        (Function.update before.queues tracker.trafficClass
          (before.queues tracker.trafficClass ++ [tracker]))) :
      Moves conditions before [tracker] turn
  | handed {turn tracker lead} (choose : Surroundings → Tracker → Slot)
      (onward : tracker.usedIms = true → ∀ surroundings, ∃ format,
        choose surroundings tracker = .cs format)
      (leading : lead = [] ∨
        lead = [.publish (.fellBack tracker.messageId tracker.messageRef)])
      (moved : Moved turn (lead ++ (before.dispatchAll conditions choose [tracker]).2)
        (before.dispatchAll conditions choose [tracker]).1.sequence before.queues) :
      Moves conditions before [tracker] turn
  | completed {turn tracker result domain}
      (told : ∀ messageRef, result = .sent messageRef → messageRef = tracker.messageRef)
      (moved : Moved turn (before.complete conditions.now tracker result domain).2
        before.sequence before.queues) :
      Moves conditions before [tracker] turn
  | drained {turn} (trafficClass : TrafficClass) (choose : Surroundings → Tracker → Slot)
      (moved : Moved turn
        (before.dispatchAll conditions choose (before.queues trafficClass)).2
        (before.dispatchAll conditions choose (before.queues trafficClass)).1.sequence
        (Function.update before.queues trafficClass [])) :
      Moves conditions before [] turn

/-! ### What each operation does -/

theorem queued_congr {trafficClass : TrafficClass}
    (same : controller.holder trafficClass = other.holder trafficClass) :
    controller.queued trafficClass = other.queued trafficClass := by
  rw [queued, queued, same]

theorem Moved.preceded {turn : Turn} {effects : List Effect} {sequence : ReferenceCounter}
    {queues : TrafficClass → List Tracker} (moved : Moved turn effects sequence queues)
    (past : List Effect) :
    Moved (turn.1, past ++ turn.2) (messageEffects past ++ effects) sequence queues :=
  ⟨by rw [messageEffects_append, moved.effects_eq], moved.sequence_eq, moved.queued_eq⟩

theorem Moves.preceded {arriving : List Tracker} {next : Controller → Turn}
    {effects : List Effect} (moves : Moves conditions controller arriving (next controller))
    (silent : messageEffects effects = []) :
    Moves conditions controller arriving (followedBy (controller, effects) next) := by
  have extended {past : List Effect} {sequence : ReferenceCounter}
      {queues : TrafficClass → List Tracker}
      (moved : Moved (next controller) past sequence queues) :
      Moved (followedBy (controller, effects) next) past sequence queues := by
    simpa [followedBy, silent] using moved.preceded effects
  cases moves with
  | still moved => exact .still (extended moved)
  | joined unused moved => exact .joined unused (extended moved)
  | handed choose onward leading moved => exact .handed choose onward leading (extended moved)
  | completed told moved => exact .completed told (extended moved)
  | drained trafficClass choose moved => exact .drained trafficClass choose (extended moved)

theorem dispatch_moved (slot : Slot) (tracker : Tracker)
    (onward : tracker.usedIms = true → ∃ format, slot = .cs format) :
    Moves conditions controller [tracker]
      (controller.dispatch conditions.now slot tracker) := by
  refine .handed (fun _ _ => slot) (fun used _ => onward used) (.inl rfl)
    ⟨?_, rfl, fun trafficClass => queued_congr (holder_dispatch ..)⟩
  simp [dispatchAll, followedBy]

theorem complete_moved (tracker : Tracker) (result : SendResult) (domain : Option Domain)
    (told : ∀ messageRef, result = .sent messageRef → messageRef = tracker.messageRef) :
    Moves conditions controller [tracker]
      (controller.complete conditions.now tracker result domain) :=
  .completed told ⟨messageEffects_complete .., rfl, fun _ => rfl⟩

theorem enqueue_moved (kind : RequestKind) (tracker : Tracker)
    (unused : tracker.usedIms = false) :
    Moves conditions controller [tracker]
      (controller.enqueue surroundings kind tracker, []) := by
  refine .joined unused ⟨rfl, sequence_setHolder .., fun trafficClass => ?_⟩
  by_cases same : trafficClass = tracker.trafficClass
  · subst same
    simp [queued, queues, enqueue, ConnectionHolder.enqueue]
  · rw [Function.update_of_ne same]
    exact queued_congr (holder_setHolder_of_ne _ _ same)

theorem requestSelection_unissued_moved (agrees : controller.Agrees) (resolver : ResolverId)
    (kind : RequestKind) (tracker : Tracker)
    (idle : (controller.holder tracker.trafficClass).requested = false)
    (unused : tracker.usedIms = false) :
    Moves conditions controller [tracker]
      (controller.requestSelection conditions resolver false kind tracker) := by
  have taken := holder_openConnection conditions.now agrees kind tracker idle
  have empty := (agrees tracker.trafficClass).pending_of_idle idle
  have waiting : (controller.openConnection conditions.now kind tracker).1.queued
      tracker.trafficClass = [tracker] := by
    simp [queued, taken]
  refine .handed (fun surroundings _ => directSlot surroundings)
    (fun used => by simp [unused] at used) (.inl rfl) ⟨?_, ?_, fun trafficClass => ?_⟩
  · simp only [requestSelection, followedBy, selectionUnissued, Bool.false_eq_true, if_false,
      finishConnection, waiting, messageEffects_append, messageEffects_clearHolder,
      messageEffects_dispatchAll]
    rw [(@dispatchAll_congr conditions _ controller (by simp) _ [tracker]).1]
    cases (controller.openConnection conditions.now kind tracker).1.holder
      tracker.trafficClass |>.connectionId <;> rfl
  · simp only [requestSelection, followedBy, selectionUnissued, Bool.false_eq_true, if_false,
      finishConnection, waiting]
    exact (dispatchAll_congr (by simp) _ [tracker]).2
  · simp only [requestSelection, followedBy, selectionUnissued, Bool.false_eq_true, if_false,
      finishConnection, queues]
    refine (queued_congr (holder_dispatchAll ..)).trans ?_
    by_cases same : trafficClass = tracker.trafficClass
    · subst same
      simp [queued, taken, ConnectionHolder.clear, ConnectionHolder.takePending, empty]
    · refine queued_congr ?_
      rw [holder_clearHolder_of_ne _ same, holder_takePending_of_ne _ same,
        holder_openConnection_of_ne _ _ same]

theorem requestSelection_issued_moved (agrees : controller.Agrees) (resolver : ResolverId)
    (kind : RequestKind) (tracker : Tracker)
    (idle : (controller.holder tracker.trafficClass).requested = false)
    (unused : tracker.usedIms = false) :
    Moves conditions controller [tracker]
      (controller.requestSelection conditions resolver true kind tracker) := by
  have taken := holder_openConnection conditions.now agrees kind tracker idle
  have empty := (agrees tracker.trafficClass).pending_of_idle idle
  refine .joined unused ⟨?_, ?_, fun trafficClass => ?_⟩
  · simp only [requestSelection, followedBy, if_true, messageEffects_append,
      messageEffects_selectionIssued]
    rfl
  · simp [requestSelection, followedBy]
  · simp only [requestSelection, followedBy, if_true, selectionIssued,
      ConnectionHolder.setWaiter, taken]
    by_cases same : trafficClass = tracker.trafficClass
    · subst same
      simp [queued, queues, empty]
    · rw [Function.update_of_ne same]
      refine queued_congr ?_
      rw [holder_setHolder_of_ne _ _ same, holder_openConnection_of_ne _ _ same]

theorem route_moved (agrees : controller.Agrees) (kind : RequestKind) (tracker : Tracker)
    (unused : tracker.usedIms = false) :
    Moves conditions controller [tracker] (controller.route conditions kind tracker) := by
  have onward {slot : Slot} : tracker.usedIms = true → ∃ format, slot = .cs format :=
    fun used => by simp [unused] at used
  unfold route
  split
  · next resolver _ _ =>
    split
    · exact enqueue_moved kind tracker unused
    · next idle =>
      have idle : (controller.holder tracker.trafficClass).requested = false := by
        simpa using idle
      unfold consultResolver
      refine Moves.preceded ?_ rfl
      split
      · exact dispatch_moved _ tracker onward
      · exact requestSelection_unissued_moved agrees resolver kind tracker idle unused
      · exact requestSelection_issued_moved agrees resolver kind tracker idle unused
  · exact dispatch_moved _ tracker onward

theorem sendRetry_moved (agrees : controller.Agrees) (tracker : Tracker) :
    Moves conditions controller [tracker] (controller.sendRetry conditions tracker) := by
  unfold sendRetry
  split
  · exact complete_moved tracker _ _ (by simp)
  · split
    · exact dispatch_moved _ tracker fun _ => ⟨_, rfl⟩
    · next unused => exact route_moved agrees .retry tracker (by simpa using unused)

theorem onOutcome_moved (agrees : controller.Agrees) (tracker : Tracker) (domain : Domain)
    (outcome : TransportOutcome) :
    Moves conditions controller [tracker]
      (controller.onOutcome conditions tracker domain outcome) := by
  unfold onOutcome
  split
  · exact complete_moved tracker _ _ (by simp)
  · exact complete_moved tracker _ _ (by simp)
  · refine .handed (fun _ _ => csSlot conditions.now) (fun _ _ => ⟨_, rfl⟩)
      (.inr rfl) ⟨?_, rfl, fun trafficClass => queued_congr (holder_dispatch ..)⟩
    simp only [dispatchAll, followedBy, List.append_nil]
    exact congrArg (_ :: ·) (messageEffects_dispatch ..)
  · exact complete_moved tracker _ _ (by simp)
  · exact sendRetry_moved agrees tracker

theorem queued_of_drained {turn : Turn} {trafficClass : TrafficClass}
    (emptied : turn.1.holder trafficClass = (controller.holder trafficClass).takePending.clear.1)
    (frame : ∀ other, other ≠ trafficClass → turn.1.holder other = controller.holder other) :
    ∀ other, turn.1.queued other = Function.update controller.queues trafficClass [] other := by
  intro other
  by_cases same : other = trafficClass
  · subst same
    simp [queued, emptied, ConnectionHolder.clear, ConnectionHolder.takePending]
  · rw [Function.update_of_ne same]
    exact queued_congr (frame other same)

theorem onSelectionCompleted_moved {trafficClass : TrafficClass} {connection : ConnectionId}
    (result : Except SelectionError Domain)
    (current : (controller.holder trafficClass).isCurrent connection = true) :
    Moves conditions controller []
      (controller.onSelectionCompleted conditions trafficClass connection result) := by
  simp only [onSelectionCompleted, current, if_true, followedBy]
  refine .drained trafficClass (slotAfterSelection result.toOption)
    ⟨?_, ?_, queued_of_drained ?_ ?_⟩
  · simp only [messageEffects_append, messageEffects_dispatchAll,
      messageEffects_finishConnection, messageEffects_clearHolder, List.append_nil]
    exact (dispatchAll_congr (sequence_takePending ..) ..).1
  · simp only [sequence_clearHolder, finishConnection]
    exact (dispatchAll_congr (sequence_takePending ..) ..).2
  · simp only [finishConnection]
    rw [holder_clearHolder_self, holder_dispatchAll, holder_takePending_self]
  · intro other different
    simp only [finishConnection]
    rw [holder_clearHolder_of_ne _ different, holder_dispatchAll,
      holder_takePending_of_ne _ different]

theorem onSelectionTerminated_moved {trafficClass : TrafficClass} {connection : ConnectionId}
    (cause : UInt32)
    (current : (controller.holder trafficClass).isCurrent connection = true) :
    Moves conditions controller []
      (controller.onSelectionTerminated conditions trafficClass connection cause) := by
  simp only [onSelectionTerminated, current, if_true, followedBy]
  refine .drained trafficClass (slotAfterSelection none)
    ⟨?_, ?_, queued_of_drained ?_ ?_⟩
  · simp only [messageEffects_append, messageEffects_dispatchAll, messageEffects_clearHolder,
      List.append_nil]
    exact (dispatchAll_congr (sequence_takePending ..) ..).1
  · rw [sequence_clearHolder]
    exact (dispatchAll_congr (sequence_takePending ..) ..).2
  · rw [holder_clearHolder_self, holder_dispatchAll, holder_takePending_self]
  · intro other different
    rw [holder_clearHolder_of_ne _ different, holder_dispatchAll,
      holder_takePending_of_ne _ different]

/-- Every command makes one of the five moves with the trackers it brings. -/
theorem handle_moved (agrees : controller.Agrees) (conditions : Conditions)
    (command : Command) :
    Moves conditions controller (carried conditions.now command)
      (controller.handle conditions command) := by
  have quiet {turn : Turn} (silent : messageEffects turn.2 = [])
      (sequence : turn.1.sequence = controller.sequence)
      (holders : ∀ trafficClass, turn.1.holder trafficClass = controller.holder trafficClass) :
      Moves conditions controller [] turn :=
    .still ⟨silent, sequence, fun trafficClass => queued_congr (holders trafficClass)⟩
  cases command with
  | submit kind request => exact route_moved agrees kind _ rfl
  | retry tracker => exact sendRetry_moved agrees tracker
  | selectionCompleted trafficClass connection result =>
      by_cases current : (controller.holder trafficClass).isCurrent connection = true
      · exact onSelectionCompleted_moved result current
      · rw [handle, onSelectionCompleted_of_stale result (by simpa using current)]
        exact quiet rfl rfl fun _ => rfl
  | selectionTerminated trafficClass connection cause =>
      by_cases current : (controller.holder trafficClass).isCurrent connection = true
      · exact onSelectionTerminated_moved cause current
      · rw [handle, onSelectionTerminated_of_stale cause (by simpa using current)]
        exact quiet rfl rfl fun _ => rfl
  | outcome tracker domain outcome => exact onOutcome_moved agrees tracker domain outcome
  | inboundSms address =>
      refine quiet ?_ rfl fun _ => rfl
      simp only [handle, onInboundSms]
      split <;> rfl
  | installResolver resolver =>
      exact quiet rfl rfl fun trafficClass => by cases trafficClass <;> rfl
  | subscribe awaited => exact quiet rfl rfl fun _ => rfl
  | unsubscribe subscription => exact quiet rfl rfl fun _ => rfl
  | snapshot awaited =>
      refine quiet ?_ rfl fun _ => rfl
      simp only [handle]
      split <;> rfl

/-! ### What is handed over -/

section Outgoing

variable (facts : TransportFacts) (tracker : Tracker) (controller : Controller)

@[simp] theorem message_outgoing : (controller.outgoing facts tracker).message = tracker.message :=
  message_assignRef ..

@[simp] theorem ticket_outgoing : (controller.outgoing facts tracker).ticket = tracker.ticket :=
  congrArg Message.ticket (message_outgoing ..)

@[simp] theorem retryCount_outgoing :
    (controller.outgoing facts tracker).retryCount = tracker.retryCount := by
  simp only [outgoing, assignRef, Tracker.recordDispatch]
  split <;> rfl

@[simp] theorem usedIms_outgoing :
    (controller.outgoing facts tracker).usedIms = (tracker.usedIms || facts.domain.isPs) := by
  simp only [outgoing, assignRef, Tracker.recordDispatch]
  split <;> rfl

@[simp] theorem awaitsDelivery_outgoing :
    (controller.outgoing facts tracker).awaitsDelivery = tracker.awaitsDelivery := by
  simp only [outgoing, assignRef, Tracker.recordDispatch]
  split <;> rfl

theorem messageRef_outgoing :
    (controller.outgoing facts tracker).messageRef =
      if facts.controllerAssignsRef && tracker.messageRef.isNone then
        some controller.sequence.peek
      else tracker.messageRef := by
  simp only [outgoing, assignRef, Tracker.recordDispatch]
  split
  · next assigned =>
    have bare : tracker.messageRef = none :=
      Option.isNone_iff_eq_none.mp ((Bool.and_eq_true _ _).mp assigned).2
    simp [Tracker.assignRef, bare]
  · rfl

end Outgoing

@[simp] theorem handedOver_sessionOpening (surroundings : Surroundings) (tracker : Tracker)
    (domain : Domain) : handedOver (sessionOpening surroundings tracker domain) = [] := by
  unfold sessionOpening
  split <;> rfl

@[simp] theorem handedOver_dispatch (slot : Slot) (tracker : Tracker) :
    handedOver (controller.dispatch surroundings slot tracker).2 =
      [{ slot
         tracker := controller.outgoing (surroundings.transport slot) tracker
         domain := (surroundings.transport slot).domain }] := by
  rw [dispatch_effects, handedOver_append, handedOver_sessionOpening]
  rfl

@[simp] theorem handedOver_complete (tracker : Tracker) (result : SendResult)
    (domain : Option Domain) :
    handedOver (controller.complete surroundings tracker result domain).2 = [] := by
  unfold complete sessionClosing
  split
  · split <;> rfl
  · rfl

theorem handedOver_messageEffects (effects : List Effect) :
    handedOver (messageEffects effects) = handedOver effects := by
  rw [handedOver, messageEffects, List.filterMap_filter]
  refine List.filterMap_congr fun effect _ => ?_
  cases effect with
  | publish event => cases event <;> rfl
  | _ => rfl

/-- The holding is what a transport has been given of the tracker `given`, which goes to a
circuit-switched one if IMS has had it before. -/
structure Sent (conditions : Conditions) (given : Tracker) (holding : Holding) : Prop where
  onward : given.usedIms = true → ∃ format, holding.slot = .cs format
  outgoing : ∃ place counting,
    let facts := (conditions place).transport holding.slot
    holding.domain = facts.domain ∧ holding.tracker = Controller.outgoing facts given counting

namespace Sent

variable {given : Tracker} {holding : Holding}

theorem message_eq (sent : Sent conditions given holding) :
    holding.tracker.message = given.message := by
  obtain ⟨_, _, -, same⟩ := sent.outgoing
  rw [same, message_outgoing]

theorem ticket_eq (sent : Sent conditions given holding) :
    holding.tracker.ticket = given.ticket :=
  congrArg Message.ticket sent.message_eq

theorem retryCount_eq (sent : Sent conditions given holding) :
    holding.tracker.retryCount = given.retryCount := by
  obtain ⟨_, _, -, same⟩ := sent.outgoing
  rw [same, retryCount_outgoing]

theorem usedIms_eq (sent : Sent conditions given holding) :
    holding.tracker.usedIms = (given.usedIms || holding.domain.isPs) := by
  obtain ⟨_, _, domain, same⟩ := sent.outgoing
  rw [same, usedIms_outgoing, domain]

theorem awaitsDelivery_eq (sent : Sent conditions given holding) :
    holding.tracker.awaitsDelivery = given.awaitsDelivery := by
  obtain ⟨_, _, -, same⟩ := sent.outgoing
  rw [same, awaitsDelivery_outgoing]

theorem messageRef_eq_of_some (sent : Sent conditions given holding) {messageRef : UInt8}
    (has : given.messageRef = some messageRef) : holding.tracker.messageRef = some messageRef := by
  obtain ⟨_, _, -, same⟩ := sent.outgoing
  rw [same, messageRef_outgoing]
  simp [has]

end Sent

/-- A dispatch hands the tracker to the transport in the slot. -/
theorem dispatch_sent (controller : Controller) (conditions : Conditions) {slot : Slot}
    {tracker : Tracker}
    (onward : tracker.usedIms = true → ∃ format, slot = .cs format) :
    ∃ holding, handedOver (controller.dispatch conditions.now slot tracker).2 = [holding] ∧
      Sent conditions tracker holding :=
  ⟨_, handedOver_dispatch .., onward, 0, controller, rfl, rfl⟩

theorem usedIms_of_queued (agrees : controller.Agrees) {trafficClass : TrafficClass}
    {tracker : Tracker} (member : tracker ∈ controller.queued trafficClass) :
    tracker.usedIms = false := by
  obtain ⟨request, queued, rfl⟩ := List.mem_map.mp member
  exact ((agrees trafficClass).members request queued).2

end Controller

end OutboundSms
