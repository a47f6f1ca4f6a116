import OutboundSms.Proofs.Selections
import OutboundSms.Proofs.Sessions
import Mathlib.Data.List.Induction

/-!
# The event log

What the subscribers are told is true. An event is published beside the act that it
tells of, so it is put down to the message of that act. What is told of one message is
then a sequence of dispatches, each with the reference and the domain of its handover and
some of them announced as fallbacks, and of one completion at most, which comes last. What
is told of a class ends with a request exactly while the class is selecting.
-/

set_option autoImplicit false

namespace OutboundSms

def Effect.published? : Effect → Option DispatchEvent
  | .publish event => some event
  | _ => none

/-- The events that subscribers see, in order. -/
def published (effects : List Effect) : List DispatchEvent :=
  effects.filterMap Effect.published?

@[simp] theorem published_append (first second : List Effect) :
    published (first ++ second) = published first ++ published second :=
  List.filterMap_append

/-! ### What is told of a message -/

/-- Whether an effect tells of a message or is what is told: all effects about messages but
those on emergency sessions. -/
def Effect.isNotice : Effect → Bool
  | .openSession _ _ | .closeSession _ _ _ => false
  | effect => effect.isAboutMessage

/-- What is told of the message of a ticket, along with its handovers and its completion. -/
def notices (ticket : Ticket) (log : List Effect) : List Effect :=
  (share ticket log).filter (·.isNotice)

namespace Message

/-- A handover of the message, told by the reference that its tracker has by then and the
domain it goes to. -/
def dispatchNotices (message : Message) (holding : Holding) : List Effect :=
  [.publish (.dispatched message.options.messageId holding.tracker.messageRef holding.domain),
    .send holding.slot holding.tracker holding.domain]

/-- The completion of the message, told by the result that its sender gets. -/
def completionNotices (message : Message) (tracker : Tracker) (result : SendResult) :
    List Effect :=
  [.publish (.completed message.options.messageId result), .complete tracker result]

/-- What is told of a message so far, and its result if that has been told. -/
inductive Recounted (message : Message) : List Effect → Option SendResult → Prop where
  | nothing : Recounted message [] none
  | dispatched {past lead : List Effect} (recounted : Recounted message past none)
      (leading : lead = [] ∨ ∃ messageRef,
        lead = [.publish (.fellBack message.options.messageId messageRef)])
      (holding : Holding) (own : holding.tracker.message = message) :
      Recounted message (past ++ (lead ++ message.dispatchNotices holding)) none
  | completed {past : List Effect} (recounted : Recounted message past none)
      (tracker : Tracker) (own : tracker.message = message) (result : SendResult) :
      Recounted message (past ++ message.completionNotices tracker result) (some result)

end Message

theorem notices_append {log : List Effect} (whole : Whole log) (ticket : Ticket)
    (effects : List Effect) :
    notices ticket (log ++ effects) =
      notices ticket log ++ (share ticket effects).filter (·.isNotice) := by
  simp [notices, share_append whole]

namespace Controller

variable {conditions : Conditions} {surroundings : Surroundings} {controller : Controller}
  {tracker : Tracker} {part : List Effect}

theorem notices_dispatch (slot : Slot) (tracker : Tracker) :
    (controller.dispatch surroundings slot tracker).2.filter (·.isNotice) =
      tracker.message.dispatchNotices
        { slot
          tracker := controller.outgoing (surroundings.transport slot) tracker
          domain := (surroundings.transport slot).domain } := by
  have named : (controller.outgoing (surroundings.transport slot) tracker).messageId =
      tracker.message.options.messageId :=
    congrArg (·.options.messageId)
      (message_outgoing (surroundings.transport slot) tracker controller)
  simp only [dispatch_effects, sessionOpening, named]
  split <;> rfl

theorem notices_complete (tracker : Tracker) (result : SendResult) (domain : Option Domain) :
    (controller.complete surroundings tracker result domain).2.filter (·.isNotice) =
      tracker.message.completionNotices tracker result := by
  unfold complete sessionClosing
  split
  · split <;> rfl
  · rfl

/-- A turn of a message goes on with what is told of it. -/
theorem Treats.recounted (treats : Treats conditions tracker part) {past : List Effect}
    (recounted : tracker.message.Recounted past none) :
    tracker.message.Recounted (past ++ part.filter (·.isNotice))
      (resultOf? tracker.ticket part) := by
  cases treats with
  | kept => simpa [resultOf?] using recounted
  | handed place slot counting lead leading =>
      have told : lead.filter (·.isNotice) = lead ∧ resultOf? tracker.ticket lead = none ∧
          (lead = [] ∨ ∃ messageRef,
            lead = [.publish (.fellBack tracker.message.options.messageId messageRef)]) := by
        rcases leading with rfl | rfl
        · exact ⟨rfl, rfl, .inl rfl⟩
        · exact ⟨rfl, rfl, .inr ⟨_, rfl⟩⟩
      rw [List.filter_append, told.1, notices_dispatch, resultOf?_append, told.2.1,
        resultOf?_dispatch]
      exact .dispatched recounted told.2.2 _ (message_outgoing ..)
  | completed counting result domain =>
      rw [notices_complete, resultOf?_complete]
      exact .completed recounted tracker rfl result

end Controller

namespace World

variable {config : DispatchConfig} {resolver : Option ResolverId} {sequence : ReferenceCounter}
  {trace : List (World × Move)} {world rest after : World} {conditions : Conditions}
  {command : Command} {move : Move}

/-- All that has been told of the messages that have come in is in order. -/
def Recounts (world : World) : Prop :=
  ∀ message ∈ world.entered, message.Recounted (notices message.ticket world.log)
    (resultOf? message.ticket world.log)

/-- In one turn a message that has come in is treated as its tracker is, if that comes with
the command or is in a queue, and is left alone otherwise. -/
theorem Provides.treated (provides : world.Provides conditions.now command rest)
    (accounted : world.Accounted) (agrees : world.controller.Agrees) {message : Message}
    (member : message ∈ rest.entered) :
    share message.ticket (rest.controller.handle conditions command).2 = [] ∨
      ∃ tracker, tracker.message = message ∧ resultOf? message.ticket world.log = none ∧
        Controller.Treats conditions tracker
          (share message.ticket (rest.controller.handle conditions command).2) := by
  by_cases involved : message.ticket ∈ (Controller.carried conditions.now command ++
      rest.controller.trackers).map (·.ticket)
  · obtain ⟨tracker, there, same⟩ := List.mem_map.mp involved
    have there' : tracker ∈ Controller.carried conditions.now command ++ rest.trackers := by
      rw [trackers, ← List.append_assoc]
      exact List.mem_append_left _ there
    have unfinished := provides.unfinished accounted there'
    obtain rfl : tracker.message = message :=
      List.inj_on_of_nodup_map (provides.distinct accounted.distinct) unfinished.1 member same
    exact .inr ⟨tracker, rfl, unfinished.2, provides.treats accounted agrees there⟩
  · exact .inl (provides.share_of_apart agrees involved)

/-- What has been told of a message that a command is about to find: as before, or nothing
if the message comes with the command. -/
theorem Provides.recounted (provides : world.Provides conditions.now command rest)
    (accounted : world.Accounted) (recounts : world.Recounts) {message : Message}
    (member : message ∈ rest.entered) :
    message.Recounted (notices message.ticket world.log)
      (resultOf? message.ticket world.log) := by
  by_cases known : message.ticket ∈ world.tickets
  · obtain ⟨other, entered, same⟩ := List.mem_map.mp known
    obtain rfl := List.inj_on_of_nodup_map (provides.distinct accounted.distinct)
      (provides.entered_subset entered) member same
    exact recounts other entered
  · obtain ⟨silent, -, unresolved⟩ := accounted.silent_of_fresh known
    rw [notices, silent, unresolved]
    exact .nothing

theorem Step.recounts (step : Step world move after) (accounted : world.Accounted)
    (agrees : world.controller.Agrees) (whole : Whole world.log) (recounts : world.Recounts) :
    after.Recounts := by
  cases step with
  | report => exact recounts
  | @handle rest conditions command provides =>
      intro message member
      have before := provides.recounted accounted recounts member
      have log : (rest.handle conditions command).log =
          world.log ++ (rest.controller.handle conditions command).2 := by
        rw [World.handle, provides.log_eq]
      rw [log, notices_append whole, resultOf?_append, ← resultOf?_share message.ticket
        (rest.controller.handle conditions command).2]
      rcases provides.treated accounted agrees member with
        apart | ⟨tracker, rfl, unfinished, treats⟩
      · rw [apart]
        simpa [resultOf?] using before
      · rw [unfinished] at before ⊢
        rw [Option.none_or]
        exact treats.recounted before

theorem Reachable.recounts (reachable : Reachable config resolver sequence world) :
    world.Recounts := by
  refine reachable.invariant Recounts (fun _ member => (List.not_mem_nil member).elim) ?_
  intro world move after reachable recounts step
  exact step.recounts reachable.accounted reachable.agrees reachable.whole recounts

end World

/-! ### Handovers and answers in what is told -/

theorem handedOver_notices (ticket : Ticket) (log : List Effect) :
    handedOver (notices ticket log) = (handedOver log).filter (·.tracker.ticket = ticket) := by
  rw [← handedOver_share, notices, handedOver, List.filterMap_filter, handedOver]
  refine List.filterMap_congr fun effect _ => ?_
  cases effect with
  | publish event => cases event <;> rfl
  | _ => rfl

theorem answers_append (ticket : Ticket) (first second : List Effect) :
    answers ticket (first ++ second) = answers ticket first ++ answers ticket second := by
  simp [answers]

/-- The sender of a message has been given the result that has been told of it, and nothing
else. -/
theorem Message.Recounted.answers_eq {message : Message} {told : List Effect}
    {result : Option SendResult} (recounted : message.Recounted told result) :
    answers message.ticket told = result.toList.flatMap fun result =>
      if message.awaitsSent then [.sent message.ticket result] else [] := by
  induction recounted with
  | nothing => rfl
  | @dispatched past lead _ leading holding own ih =>
      have silent : answers message.ticket (lead ++ message.dispatchNotices holding) = [] := by
        rcases leading with rfl | ⟨messageRef, rfl⟩ <;> rfl
      rw [answers_append, ih, silent]
      rfl
  | @completed past _ tracker own result ih =>
      subst own
      rw [answers_append, ih]
      cases awaits : tracker.awaitsSent <;> cases delivery : tracker.awaitsDelivery <;>
        simp [answers, completionNotices, Effect.receipts, Tracker.finish, Tracker.message,
          Receipt.endsDelivery, Receipt.ticket, awaits, delivery]

theorem answers_notices (ticket : Ticket) (log : List Effect) :
    answers ticket (notices ticket log) = answers ticket log := by
  induction log with
  | nil => rfl
  | cons effect rest ih =>
      rw [notices, share_cons, List.filter_append, answers_append, ← notices, ih,
        ← List.singleton_append, answers_append ticket [effect]]
      congr 1
      cases effect with
      | complete tracker result =>
          by_cases own : tracker.ticket = ticket
          · simp [Effect.isAboutMessage, Effect.isNotice, subject?, own]
          · cases awaits : tracker.awaitsSent <;> cases delivery : tracker.awaitsDelivery <;>
              simp [Effect.isAboutMessage, subject?, own, answers, Effect.receipts,
                Tracker.finish, awaits, delivery, Receipt.endsDelivery, Receipt.ticket]
      | publish event => split <;> cases event <;> rfl
      | _ => split <;> rfl

/-! ### Fallbacks -/

def Effect.isFallback : Effect → Bool
  | .publish (.fellBack _ _) => true
  | _ => false

def fallbacks (effects : List Effect) : List Effect :=
  effects.filter (·.isFallback)

@[simp] theorem fallbacks_append (first second : List Effect) :
    fallbacks (first ++ second) = fallbacks first ++ fallbacks second :=
  List.filter_append ..

/-- A transport for PS wants its message to go over CS. -/
def Command.fallback? : Command → Option Tracker
  | .outcome tracker .ps .fallback => some tracker
  | _ => none

namespace Controller

variable {conditions : Conditions} {surroundings : Surroundings} {controller : Controller}

@[simp] theorem fallbacks_dispatch (slot : Slot) (tracker : Tracker) :
    fallbacks (controller.dispatch surroundings slot tracker).2 = [] := by
  simp only [dispatch_effects, sessionOpening]
  split <;> rfl

@[simp] theorem fallbacks_dispatchAll (choose : Surroundings → Tracker → Slot)
    (trackers : List Tracker) :
    fallbacks (controller.dispatchAll conditions choose trackers).2 = [] := by
  induction trackers generalizing controller conditions with
  | nil => rfl
  | cons tracker rest ih => simp [dispatchAll, followedBy, ih]

@[simp] theorem fallbacks_complete (tracker : Tracker) (result : SendResult)
    (domain : Option Domain) :
    fallbacks (controller.complete surroundings tracker result domain).2 = [] := by
  unfold complete sessionClosing
  split
  · split <;> rfl
  · rfl

@[simp] theorem fallbacks_finishConnection (trafficClass : TrafficClass) :
    fallbacks (controller.finishConnection trafficClass).2 = [] := by
  cases held : (controller.holder trafficClass).connectionId <;>
    simp [finishConnection, held] <;> rfl

@[simp] theorem fallbacks_clearHolder (trafficClass : TrafficClass) :
    fallbacks (controller.clearHolder trafficClass).2 = [] := by
  cases waiter : (controller.holder trafficClass).clear.2 <;> simp [clearHolder, waiter] <;> rfl

@[simp] theorem fallbacks_selectionIssued (trafficClass : TrafficClass)
    (connection : ConnectionId) :
    fallbacks (controller.selectionIssued trafficClass connection).2 = [] := by
  unfold selectionIssued ConnectionHolder.setWaiter
  split <;> rfl

@[simp] theorem fallbacks_selectionUnissued (trafficClass : TrafficClass) :
    fallbacks (controller.selectionUnissued conditions trafficClass).2 = [] := by
  simp [selectionUnissued, followedBy]

theorem fallbacks_requestSelection (resolver : ResolverId) (issued : Bool) (kind : RequestKind)
    (tracker : Tracker) :
    fallbacks (controller.requestSelection conditions resolver issued kind tracker).2 = [] := by
  simp only [requestSelection, followedBy, fallbacks_append]
  split
  · rw [fallbacks_selectionIssued]
    rfl
  · rw [fallbacks_selectionUnissued]
    rfl

theorem fallbacks_route (kind : RequestKind) (tracker : Tracker) :
    fallbacks (controller.route conditions kind tracker).2 = [] := by
  unfold route
  split
  · split
    · rfl
    · simp only [consultResolver, followedBy, fallbacks_append]
      split
      · exact fallbacks_dispatch ..
      · exact fallbacks_requestSelection ..
      · exact fallbacks_requestSelection ..
  · exact fallbacks_dispatch ..

theorem fallbacks_sendRetry (tracker : Tracker) :
    fallbacks (controller.sendRetry conditions tracker).2 = [] := by
  unfold sendRetry
  split
  · exact fallbacks_complete ..
  · split
    · exact fallbacks_dispatch ..
    · exact fallbacks_route ..

theorem fallbacks_onOutcome (tracker : Tracker) (domain : Domain) (outcome : TransportOutcome) :
    fallbacks (controller.onOutcome conditions tracker domain outcome).2 =
      (Command.outcome tracker domain outcome).fallback?.toList.map fun tracker =>
        .publish (.fellBack tracker.messageId tracker.messageRef) := by
  cases outcome with
  | sent | failed => cases domain <;> exact fallbacks_complete ..
  | retryRequested => cases domain <;> exact fallbacks_sendRetry ..
  | fallback =>
      cases domain with
      | cs => exact fallbacks_complete ..
      | ps =>
          simp only [onOutcome, followedBy, fallbacks_append, fallbacks_dispatch]
          rfl

/-- A command announces no fallback but that of a message which PS brings back for one. -/
theorem fallbacks_handle (conditions : Conditions) (command : Command) :
    fallbacks (controller.handle conditions command).2 =
      command.fallback?.toList.map fun tracker =>
        .publish (.fellBack tracker.messageId tracker.messageRef) := by
  cases command with
  | submit kind request => exact fallbacks_route ..
  | retry tracker => exact fallbacks_sendRetry tracker
  | outcome tracker domain outcome => exact fallbacks_onOutcome ..
  | selectionCompleted trafficClass connection result =>
      simp only [handle, onSelectionCompleted]
      split
      · simp only [followedBy, fallbacks_append, fallbacks_dispatchAll, fallbacks_finishConnection,
          fallbacks_clearHolder]
        rfl
      · rfl
  | selectionTerminated trafficClass connection cause =>
      simp only [handle, onSelectionTerminated]
      split
      · simp only [followedBy, fallbacks_append, fallbacks_dispatchAll, fallbacks_clearHolder]
        rfl
      · rfl
  | inboundSms address =>
      simp only [handle, onInboundSms]
      split <;> rfl
  | installResolver | subscribe | unsubscribe => rfl
  | snapshot awaited =>
      simp only [handle]
      split <;> rfl

/-- A message that PS brings back goes to the circuit-switched transport of the current voice
format in the same turn, and nothing is published between the two announcements. -/
theorem handle_fallback (conditions : Conditions) (tracker : Tracker) :
    ∃ holding : Holding,
      handedOver (controller.handle conditions (.outcome tracker .ps .fallback)).2 = [holding] ∧
        holding.tracker.message = tracker.message ∧
        holding.slot = .cs conditions.now.voiceFormat ∧
        published (controller.handle conditions (.outcome tracker .ps .fallback)).2 =
          [.fellBack tracker.messageId tracker.messageRef,
            .dispatched tracker.messageId holding.tracker.messageRef holding.domain] := by
  have effects : (controller.handle conditions (.outcome tracker .ps .fallback)).2 =
      .publish (.fellBack tracker.messageId tracker.messageRef) ::
        (controller.dispatch conditions.now (csSlot conditions.now) tracker).2 := rfl
  have named (facts : TransportFacts) :
      (controller.outgoing facts tracker).messageId = tracker.messageId :=
    congrArg (·.options.messageId) (message_outgoing facts tracker controller)
  have handed : handedOver (controller.handle conditions (.outcome tracker .ps .fallback)).2 =
      [{ slot := csSlot conditions.now
         tracker := controller.outgoing (conditions.now.transport (csSlot conditions.now)) tracker
         domain := (conditions.now.transport (csSlot conditions.now)).domain }] := by
    rw [effects]
    exact handedOver_dispatch ..
  refine ⟨_, handed, message_outgoing .., rfl, ?_⟩
  simp only [effects, dispatch_effects, sessionOpening]
  split <;> simp [published, Effect.published?, List.filterMap_cons, named]

/-- Each message goes to a transport for the domain that the transport has when its turn
comes. -/
theorem domain_dispatchAll (choose : Surroundings → Tracker → Slot) (trackers : List Tracker)
    {place : Nat} {holding : Holding}
    (there : (handedOver (controller.dispatchAll conditions choose trackers).2)[place]? =
      some holding) :
    holding.domain = ((conditions place).transport holding.slot).domain := by
  induction trackers generalizing controller conditions place with
  | nil => simp [dispatchAll, handedOver] at there
  | cons tracker rest ih =>
      rw [dispatchAll, followedBy, handedOver_append, handedOver_dispatch] at there
      cases place with
      | zero =>
          obtain rfl := Option.some.inj there
          rfl
      | succ place =>
          show holding.domain = ((conditions.later place).transport holding.slot).domain
          exact ih there

theorem Moves.domain_eq {arriving : List Tracker} {turn : Turn}
    (moves : Moves conditions controller arriving turn) {place : Nat} {holding : Holding}
    (there : (handedOver turn.2)[place]? = some holding) :
    holding.domain = ((conditions place).transport holding.slot).domain := by
  rw [← handedOver_messageEffects] at there
  cases moves with
  | still moved | joined _ moved => simp [moved.effects_eq, handedOver] at there
  | completed _ moved => simp [moved.effects_eq] at there
  | drained trafficClass choose moved =>
      rw [moved.effects_eq] at there
      exact domain_dispatchAll choose _ there
  | @handed _ tracker lead choose onward leading moved =>
      have silent : handedOver lead = [] := by
        rcases leading with rfl | rfl <;> rfl
      rw [moved.effects_eq, handedOver_append, silent] at there
      exact domain_dispatchAll choose [tracker] there

end Controller

namespace World

variable {config : DispatchConfig} {resolver : Option ResolverId} {sequence : ReferenceCounter}
  {trace : List (World × Move)} {world first : World}

/-- What the controller does in one entry of a trace. -/
def entryEffects : World × Move → List Effect
  | (world, .handle conditions command) => (world.controller.handle conditions command).2
  | (_, .report _ _) => []

theorem Run.log_eq (run : Run first trace world) :
    world.log = first.log ++ trace.flatMap entryEffects := by
  induction run with
  | rest => simp
  | @next trace world move after run step ih =>
      rw [List.flatMap_append, ← List.append_assoc, ← ih]
      cases step with
      | report => simp [entryEffects]
      | handle provides =>
          simp [World.handle, entryEffects, provides.log_eq, provides.controller_eq]

theorem Run.agrees_of_mem (run : Run (start config resolver sequence) trace world)
    {entry : World × Move} (member : entry ∈ trace) : entry.1.controller.Agrees := by
  induction run with
  | rest => cases member
  | next run step ih =>
      rcases List.mem_append.mp member with earlier | now
      · exact ih earlier
      · obtain rfl := List.mem_singleton.mp now
        exact Reachable.agrees ⟨_, run⟩

end World

/-! ### What is told of a class -/

def DispatchEvent.trafficClass? : DispatchEvent → Option TrafficClass
  | selectionRequested trafficClass _ | selectionCompleted trafficClass _ _
  | selectionTerminated trafficClass _ _ => some trafficClass
  | _ => none

/-- The last event published about the selections of a class. -/
def lastSelection? (trafficClass : TrafficClass) (log : List Effect) : Option DispatchEvent :=
  ((published log).filter (·.trafficClass? = some trafficClass)).getLast?

/-- The event in which subscribers learn of something in a lane. -/
def LaneEvent.announcement? (trafficClass : TrafficClass) : LaneEvent → Option DispatchEvent
  | announced connection => some (.selectionRequested trafficClass connection)
  | decided connection domain => some (.selectionCompleted trafficClass connection domain)
  | terminated connection cause => some (.selectionTerminated trafficClass connection cause)
  | _ => none

theorem announcements_selectionEvents (trafficClass : TrafficClass) (effects : List Effect) :
    (selectionEvents trafficClass effects).filterMap (LaneEvent.announcement? trafficClass) =
      (published effects).filter (·.trafficClass? = some trafficClass) := by
  induction effects with
  | nil => rfl
  | cons effect rest ih =>
      rw [← List.singleton_append, selectionEvents_append, published_append,
        List.filterMap_append, List.filter_append, ih]
      congr 1
      cases effect with
      | publish event =>
          cases event with
          | selectionRequested other | selectionCompleted other | selectionTerminated other =>
              by_cases same : other = trafficClass <;>
                simp [selectionEvents, laneEvents, Effect.traffic?, published, Effect.published?,
                  DispatchEvent.trafficClass?, LaneEvent.isSelection, LaneEvent.announcement?, same]
          | _ => rfl
      | takeConnection other | requestSelection _ other | finishSelection other
      | dropConnection other =>
          by_cases same : other = trafficClass <;>
            simp [selectionEvents, laneEvents, Effect.traffic?, published, Effect.published?,
              LaneEvent.isSelection, LaneEvent.announcement?, List.filterMap_cons, same]
      | send _ tracker | complete tracker =>
          by_cases same : tracker.trafficClass = trafficClass <;>
            simp [selectionEvents, laneEvents, Effect.traffic?, published, Effect.published?,
              LaneEvent.isSelection, same]
      | _ => rfl

/-- What is told of connections that are gone never ends with a request. -/
theorem getLast?_announcements (lives : List Life) (trafficClass : TrafficClass)
    (connection : ConnectionId) :
    ((lives.flatMap Life.events).filterMap (LaneEvent.announcement? trafficClass)).getLast? ≠
      some (.selectionRequested trafficClass connection) := by
  induction lives using List.reverseRecOn with
  | nil => simp
  | append_singleton lives life ih =>
      rw [List.flatMap_append, List.filterMap_append, List.getLast?_append, List.flatMap_singleton]
      obtain ⟨own, ending⟩ := life
      cases ending with
      | unissued => simpa [Life.events, LaneEvent.announcement?, List.filterMap_cons] using ih
      | decided | terminated =>
          simp [Life.events, LaneEvent.announcement?, List.filterMap_cons]

namespace World

variable {config : DispatchConfig} {resolver : Option ResolverId} {sequence : ReferenceCounter}
  {trace : List (World × Move)} {world : World}

/-- The last that was told of a class is a request exactly while the class holds the
connection that was named in it. -/
theorem Reachable.lastSelection?_eq (reachable : Reachable config resolver sequence world)
    (trafficClass : TrafficClass) (connection : ConnectionId) :
    lastSelection? trafficClass world.log = some (.selectionRequested trafficClass connection) ↔
      (world.controller.holder trafficClass).connectionId = some connection := by
  obtain ⟨lives, seen⟩ := reachable.lives trafficClass
  rw [lastSelection?, ← announcements_selectionEvents, seen, List.filterMap_append,
    Controller.lane]
  cases held : (world.controller.holder trafficClass).connectionId with
  | none =>
      have gone := getLast?_announcements lives trafficClass connection
      simpa [outstanding] using gone
  | some current => simp [outstanding, LaneEvent.announcement?, List.filterMap_cons]

theorem Reachable.requested_iff (reachable : Reachable config resolver sequence world)
    (trafficClass : TrafficClass) :
    (world.controller.holder trafficClass).requested = true ↔ ∃ connection,
      (world.controller.holder trafficClass).connectionId = some connection := by
  rw [(reachable.agrees trafficClass).connected, ConnectionHolder.connectionId,
    ← Option.isSome_iff_exists, Option.isSome_map]

/-- The events are a faithful log. Each event about a message is some message's, and what is
told of a message is its handovers in order, each with its reference and its domain, and at
the end its completion, with the result that its sender has been given. The domain is that
of the transport, and a fallback is announced only if PS brings the message back for one,
just before its dispatch to the circuit-switched transport of the current voice format.
Of a class, the last event is a request exactly if the class is selecting, on the
connection that the event names. -/
theorem Run.events_faithful (run : Run (start config resolver sequence) trace world) :
    ((attributed world.log).map (·.2) = messageEffects world.log ∧
      ∀ entry ∈ attributed world.log, ∃ message ∈ world.entered, message.ticket = entry.1) ∧
    (∀ message ∈ world.entered,
      message.Recounted (notices message.ticket world.log)
        (resultOf? message.ticket world.log) ∧
      handedOver (notices message.ticket world.log) =
        (handedOver world.log).filter (·.tracker.ticket = message.ticket) ∧
      answers message.ticket world.log =
        (resultOf? message.ticket world.log).toList.flatMap fun result =>
          if message.awaitsSent then [.sent message.ticket result] else []) ∧
    (world.log = trace.flatMap entryEffects ∧
      ∀ before conditions command, (before, .handle conditions command) ∈ trace →
        let effects := (before.controller.handle conditions command).2
        (∀ (place : Nat) holding, (handedOver effects)[place]? = some holding →
          holding.domain = ((conditions place).transport holding.slot).domain) ∧
        fallbacks effects = (command.fallback?.toList.map fun tracker =>
          .publish (.fellBack tracker.messageId tracker.messageRef)) ∧
        ∀ tracker, command = .outcome tracker .ps .fallback → ∃ holding,
          handedOver effects = [holding] ∧ holding.tracker.message = tracker.message ∧
            holding.slot = .cs conditions.now.voiceFormat ∧
            published effects = [.fellBack tracker.messageId tracker.messageRef,
              .dispatched tracker.messageId holding.tracker.messageRef holding.domain]) ∧
    ∀ trafficClass,
      ((world.controller.holder trafficClass).requested = true ↔ ∃ connection,
        lastSelection? trafficClass world.log =
          some (.selectionRequested trafficClass connection)) ∧
      ∀ connection, lastSelection? trafficClass world.log =
          some (.selectionRequested trafficClass connection) →
        (world.controller.holder trafficClass).connectionId = some connection := by
  have reachable : Reachable config resolver sequence world := ⟨trace, run⟩
  refine ⟨⟨reachable.whole.map_attributed, fun entry member => ?_⟩, fun message member => ?_,
    ⟨run.log_eq, fun before conditions command member => ⟨fun place holding there => ?_,
      Controller.fallbacks_handle .., ?_⟩⟩, fun trafficClass => ⟨?_, fun connection =>
      (reachable.lastSelection?_eq trafficClass connection).mp⟩⟩
  · obtain ⟨message, departs, same⟩ := List.mem_map.mp (departs_of_attributed member)
    exact ⟨message, reachable.accounted.known departs, same⟩
  · have recounted := reachable.recounts message member
    exact ⟨recounted, handedOver_notices .., answers_notices .. ▸ recounted.answers_eq⟩
  · have agrees := run.agrees_of_mem member
    exact (Controller.handle_moved agrees conditions command).domain_eq there
  · rintro tracker rfl
    exact Controller.handle_fallback conditions tracker
  · rw [reachable.requested_iff]
    exact exists_congr fun connection =>
      (reachable.lastSelection?_eq trafficClass connection).symm

end World

/-- The message has been told to go over PS, to fall back, and to go over CS. -/
theorem Sample.rerouted_events :
    published rerouted.log =
        [.dispatched 0 (some 0) .ps, .fellBack 0 (some 0), .dispatched 0 (some 0) .cs] ∧
      alarm.Recounted (notices 1 rerouted.log) none ∧ answers 1 rerouted.log = [] ∧
      (rerouted.controller.holder .emergency).requested = false := by
  obtain ⟨-, messages, -, selections⟩ := World.Run.events_faithful rerouted_run
  have entered : alarm ∈ rerouted.entered := by decide
  have unfinished : resultOf? alarm.ticket rerouted.log = none := by decide
  obtain ⟨recounted, -, answered⟩ := messages alarm entered
  rw [unfinished] at recounted answered
  refine ⟨rfl, recounted, answered, Bool.eq_false_iff.mpr fun selecting => ?_⟩
  obtain ⟨connection, last⟩ := (selections .emergency).1.mp selecting
  cases last

end OutboundSms
