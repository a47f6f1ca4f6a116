import OutboundSms.Proofs.Network
import OutboundSms.Proofs.Shares

/-!
# Stories

What is heard of one message: the events about it, its handovers, its submissions to
links and its end. An event names a message by an id that its sender has chosen, so it
is put down to the message whose handover or completion it comes before. Of the
trackers that a command brings or finds in the queues, each has one of three fates.
-/

set_option autoImplicit false

namespace OutboundSms

/-! ### What is heard of a message -/

/-- Something heard of one message. -/
inductive Remark where
  /-- A resolver has been asked for a connection for its sake. -/
  | consulted
  | fellBack (messageRef : Option UInt8)
  | dispatched (messageRef : Option UInt8) (domain : Domain)
  | handedOver (slot : Slot) (domain : Domain)
  | submitted (slot : Slot) (submission : Submission)
  /-- Its end, as an event or as the answer to its sender. -/
  | completed (result : SendResult)

def Effect.remark? : Effect → Option Remark
  | .publish (.fellBack _ messageRef) => some (.fellBack messageRef)
  | .publish (.dispatched _ messageRef domain) => some (.dispatched messageRef domain)
  | .send slot _ domain => some (.handedOver slot domain)
  | .publish (.completed _ result) | .complete _ result => some (.completed result)
  | _ => none

/-- What is heard of messages, each with the ticket of its message. -/
def remarks : List Effect → List (Ticket × Remark)
  | [] => []
  | effect :: rest =>
      (effect.remark?.bind fun remark =>
        (subject? (effect :: rest)).map fun tracker => (tracker.ticket, remark)).toList ++
        remarks rest

def Effect.consults : Effect → Bool
  | .consult _ _ _ => true
  | _ => false

/-- A resolver is asked for the sake of the message that the command brings. -/
def Happening.remarks : Happening → List (Ticket × Remark)
  | .turn _ brought _ effects =>
      (if effects.any (·.consults) then brought.map (·.ticket, .consulted) else []) ++
        OutboundSms.remarks effects
  | .submission slot ticket made => [(ticket, .submitted slot made)]

def remarksOn (ticket : Ticket) (remarks : List (Ticket × Remark)) : List Remark :=
  (remarks.filter (·.1 = ticket)).map (·.2)

@[simp] theorem remarksOn_nil (ticket : Ticket) : remarksOn ticket [] = [] := rfl

@[simp] theorem remarksOn_append (ticket : Ticket) (first second : List (Ticket × Remark)) :
    remarksOn ticket (first ++ second) = remarksOn ticket first ++ remarksOn ticket second := by
  simp [remarksOn]

@[simp] theorem remarksOn_cons_self (ticket : Ticket) (remark : Remark)
    (rest : List (Ticket × Remark)) :
    remarksOn ticket ((ticket, remark) :: rest) = remark :: remarksOn ticket rest := by
  simp [remarksOn]

theorem remarksOn_of_ne {ticket : Ticket} {remarks : List (Ticket × Remark)}
    (others : ∀ remark ∈ remarks, remark.1 ≠ ticket) : remarksOn ticket remarks = [] := by
  rw [remarksOn, List.filter_eq_nil_iff.mpr (by simpa using others), List.map_nil]

/-- All that has been heard of a message, oldest first. -/
def Network.story (network : Network) (ticket : Ticket) : List Remark :=
  remarksOn ticket (network.history.flatMap Happening.remarks)

/-! ### The remarks of a turn -/

theorem remark?_of_silent {effect : Effect} (silent : effect.isAboutMessage = false) :
    effect.remark? = none := by
  cases effect with
  | publish event => cases event <;> first | rfl | cases silent
  | _ => first | rfl | cases silent

/-- What is heard of a message in a turn is heard in its share. -/
theorem remarksOn_remarks (ticket : Ticket) (effects : List Effect) :
    remarksOn ticket (remarks effects) = (share ticket effects).filterMap Effect.remark? := by
  induction effects with
  | nil => rfl
  | cons effect rest ih =>
      rw [remarks, remarksOn_append, ih, share_cons, List.filterMap_append]
      congr 1
      cases about : effect.isAboutMessage with
      | false => simp [remark?_of_silent about]
      | true =>
          cases subject : subject? (effect :: rest) with
          | none => cases effect.remark? <;> rfl
          | some tracker =>
              cases heard : effect.remark? <;> by_cases own : tracker.ticket = ticket <;>
                simp [remarksOn, heard, own]

/-- Something is heard of the messages that leave the controller only. -/
theorem remarksOn_of_staying {ticket : Ticket} {effects : List Effect}
    (staying : ticket ∉ (departures effects).map (·.ticket)) :
    remarksOn ticket (remarks effects) = [] := by
  rw [remarksOn_remarks, share_of_staying staying]
  rfl

/-- The id by which an event names a message. -/
def Effect.messageId? : Effect → Option UInt64
  | .publish (.fellBack messageId _) | .publish (.dispatched messageId _ _)
  | .publish (.completed messageId _) => some messageId
  | _ => none

/-- Every event that names a message is put down to one of that id. -/
def Named : List Effect → Prop
  | [] => True
  | effect :: rest =>
      (∀ messageId, effect.messageId? = some messageId →
        ∃ tracker, subject? (effect :: rest) = some tracker ∧ tracker.messageId = messageId) ∧
      Named rest

theorem messageId?_of_silent {effect : Effect} (silent : effect.isAboutMessage = false) :
    effect.messageId? = none := by
  cases effect with
  | publish event => cases event <;> first | rfl | cases silent
  | _ => rfl

theorem named_messageEffects (effects : List Effect) :
    Named (messageEffects effects) ↔ Named effects := by
  induction effects with
  | nil => exact .rfl
  | cons effect rest ih =>
      rw [messageEffects] at ih ⊢
      cases about : effect.isAboutMessage with
      | false =>
          rw [List.filter_cons_of_neg (by simp [about]), ih, Named, messageId?_of_silent about]
          simp
      | true =>
          have same := subject?_messageEffects (effect :: rest)
          rw [messageEffects, List.filter_cons_of_pos about] at same
          rw [List.filter_cons_of_pos about, Named, Named, same, ih]

/-- What is heard of a message that is handed over. -/
def Holding.remarks (holding : Holding) : List Remark :=
  [.dispatched holding.tracker.messageRef holding.domain,
    .handedOver holding.slot holding.domain]

namespace Controller

variable {conditions : Conditions} {surroundings : Surroundings} {controller : Controller}

theorem remarks_dispatch_append (slot : Slot) (tracker : Tracker) (later : List Effect) :
    let turn := controller.dispatch surroundings slot tracker
    remarks (turn.2 ++ later) =
      (handedOver turn.2).flatMap (fun holding =>
        holding.remarks.map (holding.tracker.ticket, ·)) ++ remarks later := by
  simp only [handedOver_dispatch]
  simp only [dispatch_effects, sessionOpening]
  split <;> simp [remarks, subject?, Effect.remark?, Holding.remarks]

theorem remarks_dispatchAll (choose : Surroundings → Tracker → Slot) (trackers : List Tracker) :
    let turn := controller.dispatchAll conditions choose trackers
    remarks turn.2 = (handedOver turn.2).flatMap fun holding =>
      holding.remarks.map (holding.tracker.ticket, ·) := by
  induction trackers generalizing controller conditions with
  | nil => rfl
  | cons tracker rest ih =>
      simp only [dispatchAll, followedBy] at ih ⊢
      rw [remarks_dispatch_append, ih, handedOver_append, List.flatMap_append]

theorem remarks_complete (tracker : Tracker) (result : SendResult) (domain : Option Domain) :
    remarks (controller.complete surroundings tracker result domain).2 =
      [(tracker.ticket, .completed result), (tracker.ticket, .completed result)] := by
  unfold complete sessionClosing
  split
  · split <;> rfl
  · rfl

theorem filterMap_remark?_dispatch (slot : Slot) (tracker : Tracker) :
    (controller.dispatch surroundings slot tracker).2.filterMap Effect.remark? =
      Holding.remarks
        { slot
          tracker := controller.outgoing (surroundings.transport slot) tracker
          domain := (surroundings.transport slot).domain } := by
  simp only [dispatch_effects, sessionOpening]
  split <;> rfl

theorem dispatch_named (slot : Slot) (tracker : Tracker) {later : List Effect}
    (named : Named later) :
    Named ((controller.dispatch surroundings slot tracker).2 ++ later) := by
  simp only [dispatch_effects, sessionOpening]
  split <;> simp [Named, subject?, Effect.messageId?, named]

theorem dispatchAll_named (controller : Controller) (conditions : Conditions)
    (choose : Surroundings → Tracker → Slot) (trackers : List Tracker) :
    Named (controller.dispatchAll conditions choose trackers).2 := by
  induction trackers generalizing controller conditions with
  | nil => trivial
  | cons tracker rest ih => exact dispatch_named _ _ (ih ..)

theorem complete_named (tracker : Tracker) (result : SendResult) (domain : Option Domain) :
    Named (controller.complete surroundings tracker result domain).2 := by
  unfold complete sessionClosing
  split
  · split <;> simp [Named, subject?, Effect.messageId?]
  · simp [Named, subject?, Effect.messageId?]

theorem Moves.named {arriving : List Tracker} {turn : Turn}
    (moves : Moves conditions controller arriving turn) : Named turn.2 := by
  rw [← named_messageEffects]
  cases moves with
  | still moved | joined _ moved => rw [moved.effects_eq]; trivial
  | completed _ moved => rw [moved.effects_eq]; exact complete_named ..
  | drained trafficClass choose moved => rw [moved.effects_eq]; exact dispatchAll_named ..
  | @handed _ tracker lead choose onward leading moved =>
      rw [moved.effects_eq]
      have named := dispatchAll_named controller conditions choose [tracker]
      rcases leading with rfl | rfl
      · exact named
      · refine ⟨fun messageId same => ⟨_, subject?_dispatch .., ?_⟩, named⟩
        have options : (controller.outgoing (conditions.now.transport (choose conditions.now
            tracker)) tracker).options = tracker.options :=
          congrArg Message.options (message_outgoing ..)
        exact (congrArg SendOptions.messageId options).trans (Option.some.inj same)

/-- Trackers handed over one after another are told of one by one. -/
theorem dispatchAll_fate (controller : Controller) (conditions : Conditions)
    (choose : Surroundings → Tracker → Slot)
    {trackers : List Tracker} (distinct : (trackers.map (·.ticket)).Nodup)
    (onward : ∀ tracker ∈ trackers, tracker.usedIms = true → ∀ surroundings, ∃ format,
      choose surroundings tracker = .cs format) {tracker : Tracker} (member : tracker ∈ trackers) :
    let turn := controller.dispatchAll conditions choose trackers
    ∃ holding ∈ handedOver turn.2, Sent conditions tracker holding ∧
      remarksOn tracker.ticket (remarks turn.2) = holding.remarks := by
  intro turn
  obtain ⟨place, counting, own⟩ := share_dispatchAll conditions controller choose distinct member
  have handed := handedOver_share tracker.ticket turn.2
  rw [own, handedOver_dispatch] at handed
  refine ⟨_, List.mem_of_mem_filter (handed ▸ List.mem_singleton_self _), ?_, ?_⟩
  · exact ⟨fun used => onward tracker member used _, place, counting, rfl, rfl⟩
  · rw [remarksOn_remarks, own, filterMap_remark?_dispatch]

theorem remarksOn_moved {turn : Turn} {effects : List Effect} {sequence : ReferenceCounter}
    {queues : TrafficClass → List Tracker} (moved : Moved turn effects sequence queues)
    (ticket : Ticket) : remarksOn ticket (remarks turn.2) = remarksOn ticket (remarks effects) := by
  rw [remarksOn_remarks, share_moved moved, remarksOn_remarks]

theorem handedOver_moved {turn : Turn} {effects : List Effect} {sequence : ReferenceCounter}
    {queues : TrafficClass → List Tracker} (moved : Moved turn effects sequence queues) :
    handedOver turn.2 = handedOver effects := by
  rw [← handedOver_messageEffects, moved.effects_eq]

theorem mem_trackers {tracker : Tracker} :
    tracker ∈ controller.trackers ↔ ∃ trafficClass, tracker ∈ controller.queued trafficClass := by
  refine ⟨fun member => ?_, fun ⟨_, member⟩ => mem_trackers_of_queued member⟩
  exact (List.mem_append.mp member).elim (⟨.normal, ·⟩) (⟨.emergency, ·⟩)

variable {arriving : List Tracker} {turn : Turn} {tracker : Tracker}

/-- What becomes of a tracker that a command brings: it joins a queue, is handed over, or
completes. -/
theorem Moves.fate_of_arriving (moves : Moves conditions controller arriving turn)
    (fresh : tracker.ticket ∉ controller.trackers.map (·.ticket)) (member : tracker ∈ arriving) :
    (tracker ∈ turn.1.trackers ∧ tracker.usedIms = false) ∨
    (∃ holding ∈ handedOver turn.2, Sent conditions tracker holding ∧ ∃ lead,
      (lead = [] ∨ lead = [.fellBack tracker.messageRef]) ∧
        remarksOn tracker.ticket (remarks turn.2) = lead ++ holding.remarks) ∨
    (∃ result, (∀ messageRef, result = .sent messageRef → messageRef = tracker.messageRef) ∧
      remarksOn tracker.ticket (remarks turn.2) = [.completed result, .completed result] ∧
      tracker.ticket ∉ turn.1.trackers.map (·.ticket) ∧ handedOver turn.2 = []) := by
  cases moves with
  | still => cases member
  | drained => cases member
  | joined unused moved =>
      obtain rfl := List.mem_singleton.mp member
      refine .inl ⟨mem_trackers.mpr ⟨tracker.trafficClass, ?_⟩, unused⟩
      simp [moved.queued_eq]
  | @handed _ _ lead choose onward leading moved =>
      obtain rfl := List.mem_singleton.mp member
      obtain ⟨holding, only, sent⟩ := dispatch_sent controller conditions
        fun used => onward used conditions.now
      refine .inr (.inl ⟨holding, ?_, sent, lead.filterMap Effect.remark?, ?_, ?_⟩)
      · rw [handedOver_moved moved, handedOver_append, dispatchAll, followedBy, handedOver_append,
          only]
        simp
      · rcases leading with rfl | rfl
        · exact .inl rfl
        · exact .inr rfl
      · have same := List.cons.inj ((handedOver_dispatch ..).symm.trans only)
        rw [remarksOn_moved moved, remarksOn_remarks, (share_handed leading choose _).2, if_pos rfl,
          List.filterMap_append, filterMap_remark?_dispatch, same.1]
  | @completed _ _ result domain told moved =>
      obtain rfl := List.mem_singleton.mp member
      refine .inr (.inr ⟨result, told, ?_, ?_, ?_⟩)
      · rw [remarksOn_moved moved, remarks_complete]
        simp
      · intro there
        obtain ⟨other, queued, same⟩ := List.mem_map.mp there
        obtain ⟨trafficClass, queued⟩ := mem_trackers.mp queued
        rw [moved.queued_eq] at queued
        exact fresh (List.mem_map.mpr ⟨other, mem_trackers_of_queued queued, same⟩)
      · rw [handedOver_moved moved, handedOver_complete]

/-- What becomes of a tracker in a queue: it stays there or is handed over. -/
theorem Moves.fate_of_queued (agrees : controller.Agrees)
    (moves : Moves conditions controller arriving turn)
    (distinct : (controller.trackers.map (·.ticket)).Nodup)
    (member : tracker ∈ controller.trackers) :
    tracker ∈ turn.1.trackers ∨
    (∃ holding ∈ handedOver turn.2, Sent conditions tracker holding ∧
      remarksOn tracker.ticket (remarks turn.2) = holding.remarks) := by
  obtain ⟨trafficClass, queued⟩ := mem_trackers.mp member
  have stays (kept : tracker ∈ turn.1.queued trafficClass) : tracker ∈ turn.1.trackers :=
    mem_trackers_of_queued kept
  cases moves with
  | still moved | handed _ _ _ moved | completed _ moved =>
      exact .inl (stays (by rwa [moved.queued_eq]))
  | @joined _ joining unused moved =>
      refine .inl (stays ?_)
      rw [moved.queued_eq]
      by_cases same : trafficClass = joining.trafficClass
      · subst same
        simp [queues, queued]
      · rwa [Function.update_of_ne same]
  | drained emptied choose moved =>
      by_cases same : trafficClass = emptied
      · subst same
        have once : ((controller.queues trafficClass).map (·.ticket)).Nodup := by
          rw [trackers, List.map_append, List.nodup_append] at distinct
          cases trafficClass with
          | normal => exact distinct.1
          | emergency => exact distinct.2.1
        have unused : ∀ tracker ∈ controller.queues trafficClass, tracker.usedIms = true →
            ∀ surroundings, ∃ format, choose surroundings tracker = .cs format :=
          fun tracker queued used => by simp [usedIms_of_queued agrees queued] at used
        obtain ⟨holding, among, sent, told⟩ := dispatchAll_fate controller
          conditions choose once unused queued
        rw [remarksOn_moved moved, handedOver_moved moved]
        exact .inr ⟨holding, among, sent, told⟩
      · refine .inl (stays ?_)
        rwa [moved.queued_eq, Function.update_of_ne same]

/-- A report for good completes its message and does nothing else, and a message reported
as sent completes as sent. -/
theorem handle_report_of_terminal (controller : Controller) (conditions : Conditions)
    {report : Report} (terminal : report.outcome.isTerminal = true) :
    ∃ result, (report.outcome = .sent → result = .sent report.tracker.messageRef) ∧
      controller.handle conditions report.command =
        controller.complete conditions.now report.tracker result (some report.domain) := by
  obtain ⟨tracker, domain, outcome⟩ := report
  cases outcome with
  | sent => exact ⟨_, fun _ => rfl, rfl⟩
  | failed code => exact ⟨_, nofun, rfl⟩
  | fallback => cases terminal
  | retryRequested => cases terminal

/-- Nobody asks a resolver in the course of the effects. -/
def Unasked (effects : List Effect) : Prop :=
  effects.any (·.consults) = false

theorem Unasked.append {first second : List Effect} (before : Unasked first)
    (after : Unasked second) : Unasked (first ++ second) := by
  rw [Unasked, List.any_append, before, after, Bool.or_self]

theorem dispatch_unasked (slot : Slot) (tracker : Tracker) :
    Unasked (controller.dispatch surroundings slot tracker).2 := by
  simp only [dispatch_effects, sessionOpening]
  split <;> rfl

theorem dispatchAll_unasked (choose : Surroundings → Tracker → Slot)
    (trackers : List Tracker) :
    Unasked (controller.dispatchAll conditions choose trackers).2 := by
  induction trackers generalizing controller conditions with
  | nil => rfl
  | cons tracker rest ih => exact (dispatch_unasked ..).append ih

theorem complete_unasked (tracker : Tracker) (result : SendResult) (domain : Option Domain) :
    Unasked (controller.complete surroundings tracker result domain).2 := by
  unfold complete sessionClosing
  split
  · split <;> rfl
  · rfl

theorem clearHolder_unasked (trafficClass : TrafficClass) :
    Unasked (controller.clearHolder trafficClass).2 := by
  have stopped (waiter : Option WaiterId) : Unasked (waiter.map .stopWaiter).toList := by
    cases waiter <;> rfl
  exact stopped _

theorem finishConnection_unasked (trafficClass : TrafficClass) :
    Unasked (controller.finishConnection trafficClass).2 := by
  unfold finishConnection
  cases (controller.holder trafficClass).connectionId <;> rfl

theorem onSelectionCompleted_unasked (trafficClass : TrafficClass) (connection : ConnectionId)
    (result : Except SelectionError Domain) :
    Unasked (controller.onSelectionCompleted conditions trafficClass connection result).2 := by
  unfold onSelectionCompleted
  split
  · have published : Unasked
        [.publish (.selectionCompleted trafficClass connection result.toOption)] := rfl
    exact published.append ((dispatchAll_unasked ..).append
      ((finishConnection_unasked ..).append (clearHolder_unasked ..)))
  · rfl

theorem onSelectionTerminated_unasked (trafficClass : TrafficClass) (connection : ConnectionId)
    (cause : UInt32) :
    Unasked (controller.onSelectionTerminated conditions trafficClass connection cause).2 := by
  unfold onSelectionTerminated
  split
  · have published : Unasked [.publish (.selectionTerminated trafficClass connection cause)] := rfl
    exact published.append ((dispatchAll_unasked ..).append (clearHolder_unasked ..))
  · rfl

theorem sendRetry_unasked {tracker : Tracker} (used : tracker.usedIms = true) :
    Unasked (controller.sendRetry conditions tracker).2 := by
  unfold sendRetry
  split
  · exact complete_unasked ..
  · exact dispatch_unasked ..

theorem onOutcome_unasked {tracker : Tracker} (used : tracker.usedIms = true) (domain : Domain)
    (outcome : TransportOutcome) :
    Unasked (controller.onOutcome conditions tracker domain outcome).2 := by
  unfold onOutcome
  split
  · exact complete_unasked ..
  · exact complete_unasked ..
  · have published : Unasked [.publish (.fellBack tracker.messageId tracker.messageRef)] := rfl
    exact published.append (dispatch_unasked ..)
  · exact complete_unasked ..
  · exact sendRetry_unasked used

/-- A resolver is asked only for a message that the command brings, and that IMS has not
had. -/
theorem asked_handle (controller : Controller) (conditions : Conditions) (command : Command)
    (asked : ¬ Unasked (controller.handle conditions command).2) :
    ∃ tracker, carried conditions.now command = [tracker] ∧ tracker.usedIms = false := by
  have unused {tracker : Tracker} {effects : List Effect} (asked : ¬ Unasked effects)
      (used : tracker.usedIms = true → Unasked effects) : tracker.usedIms = false := by
    cases had : tracker.usedIms with
    | false => rfl
    | true => exact absurd (used had) asked
  cases command with
  | submit kind request => exact ⟨_, rfl, rfl⟩
  | retry tracker => exact ⟨tracker, rfl, unused asked sendRetry_unasked⟩
  | outcome tracker domain outcome =>
      exact ⟨tracker, rfl, unused asked fun used => onOutcome_unasked used domain outcome⟩
  | selectionCompleted => exact absurd (onSelectionCompleted_unasked ..) asked
  | selectionTerminated => exact absurd (onSelectionTerminated_unasked ..) asked
  | inboundSms address =>
      refine absurd ?_ asked
      simp only [handle, onInboundSms]
      split <;> rfl
  | installResolver | subscribe | unsubscribe => exact absurd rfl asked
  | snapshot awaited =>
      refine absurd ?_ asked
      simp only [handle]
      split <;> rfl

end Controller

/-- In the long run every event is put down to a message of the id that it names. -/
theorem Network.Reachable.named {links : Links} {config : DispatchConfig}
    {resolver : Option ResolverId} {sequence : ReferenceCounter} {network : Network}
    (reachable : Reachable links config resolver sequence network) :
    ∀ happening ∈ network.history, Named happening.effects := by
  induction reachable with
  | refl => exact fun _ member => (List.not_mem_nil member).elim
  | tail run step ih =>
      intro happening member
      cases step with
      | @handle rest conditions command ownRefs answer provides =>
          have agrees : rest.controller.Agrees :=
            provides.controller_eq.symm ▸ (Reachable.world run).2.agrees
          rcases List.mem_append.mp member with before | now
          · exact ih happening (provides.history_eq ▸ before)
          · obtain rfl := List.mem_singleton.mp now
            exact (Controller.handle_moved agrees conditions command).named
      | advance =>
          rcases List.mem_append.mp member with before | now
          · exact ih happening before
          · obtain ⟨_, -, rfl⟩ := List.mem_map.mp now
            trivial
      | finish | report => exact ih happening member

end OutboundSms
