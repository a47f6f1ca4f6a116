import OutboundSms.Proofs.Admission
import OutboundSms.Proofs.Draining
import OutboundSms.Proofs.Stories

/-!
# Dispatching a message again

A message that comes back to be dispatched again is looked at before its class is: one that
cannot be encoded ends at once, and one that IMS has had goes over CS. Whether the class of
the message is selecting, and what is queued there, makes no difference to either.
-/

set_option autoImplicit false

namespace OutboundSms

/-- The commands that dispatch a message again: whoever holds it asks for that, or its
transport does. -/
inductive Command.Redispatches (tracker : Tracker) : Command → Prop where
  | asked : Redispatches tracker (.retry tracker)
  | requested (domain : Domain) : Redispatches tracker (.outcome tracker domain .retryRequested)

namespace Controller

variable {conditions : Conditions} {surroundings : Surroundings} {controller : Controller}
  {command : Command} {tracker : Tracker}

/-- What is done about a message that is not dispatched again. The session that its first
dispatch has opened is closed, and its sender is told of the failure. -/
def retryFailure (surroundings : Surroundings) (tracker : Tracker) : List Effect :=
  (if tracker.emergency && surroundings.tracksEmergency then
      tracker.lastDomain.toList.map (.closeSession tracker.messageId false) else []) ++
    [.publish (.completed tracker.messageId (.failed .sendRetryFailed)),
      .complete tracker (.failed .sendRetryFailed)]

/-- The turn ends the message with a failure and leaves the controller as it is. -/
structure FailsRetry (surroundings : Surroundings) (tracker : Tracker) (before : Controller)
    (turn : Turn) : Prop where
  controller_eq : turn.1 = before
  effects_eq : turn.2 = retryFailure surroundings tracker
  published_eq : published turn.2 = [.completed tracker.messageId (.failed .sendRetryFailed)]
  receipts_eq : turn.2.flatMap Effect.receipts = tracker.finish (.failed .sendRetryFailed)
  handed_eq : handedOver turn.2 = []
  unasked : Unasked turn.2

/-- The turn hands the message over to the CS transport of the current voice format, and asks
and queues nothing. A reference is taken only if the message has none. -/
structure RetriesOverCs (surroundings : Surroundings) (tracker : Tracker) (before : Controller)
    (turn : Turn) (holding : Holding) : Prop where
  handed_eq : handedOver turn.2 = [holding]
  slot_eq : holding.slot = .cs surroundings.voiceFormat
  tracker_eq : holding.tracker =
    { tracker with
      messageRef := holding.tracker.messageRef
      lastDomain := some holding.domain }
  kept : ∀ messageRef, tracker.messageRef = some messageRef →
    holding.tracker.messageRef = some messageRef ∧ turn.1 = before
  controller_eq : turn.1 = { before with sequence := turn.1.sequence }
  published_eq : published turn.2 = [holding.announcement]
  about : ∀ effect ∈ turn.2, effect.isAboutMessage = true
  unasked : Unasked turn.2

theorem handle_redispatches (redispatches : command.Redispatches tracker) :
    controller.handle conditions command = controller.sendRetry conditions tracker := by
  cases redispatches with
  | asked => rfl
  | requested domain => rfl

theorem sendRetry_of_malformed (malformed : ¬ tracker.payload.Encodable) :
    controller.sendRetry conditions tracker =
      (controller, retryFailure conditions.now tracker) := by
  have empty : tracker.payload.isWellFormed = false := by
    simpa using mt Payload.isWellFormed_iff.mp malformed
  simp only [sendRetry, empty, Bool.not_false, if_true, complete, sessionClosing, retryFailure]
  cases tracker.lastDomain with
  | none => simp
  | some domain => rfl

theorem sendRetry_of_usedIms (encodable : tracker.payload.Encodable)
    (used : tracker.usedIms = true) :
    controller.sendRetry conditions tracker =
      controller.dispatch conditions.now (.cs conditions.now.voiceFormat) tracker := by
  simp [sendRetry, Payload.isWellFormed_iff.mpr encodable, used, csSlot]

theorem retryFailure_eq (surroundings : Surroundings) (tracker : Tracker) :
    published (retryFailure surroundings tracker) =
        [.completed tracker.messageId (.failed .sendRetryFailed)] ∧
      (retryFailure surroundings tracker).flatMap Effect.receipts =
        tracker.finish (.failed .sendRetryFailed) ∧
      handedOver (retryFailure surroundings tracker) = [] ∧
      Unasked (retryFailure surroundings tracker) := by
  have heard : tracker.finish (.failed .sendRetryFailed) ++ [] =
      tracker.finish (.failed .sendRetryFailed) := List.append_nil _
  unfold retryFailure
  -- What is done about a session is neither published nor heard by the sender.
  split
  · cases tracker.lastDomain with
    | none => exact ⟨rfl, heard, rfl, rfl⟩
    | some domain => exact ⟨rfl, heard, rfl, rfl⟩
  · exact ⟨rfl, heard, rfl, rfl⟩

theorem sendRetry_failsRetry (controller : Controller) (conditions : Conditions)
    (malformed : ¬ tracker.payload.Encodable) :
    FailsRetry conditions.now tracker controller (controller.sendRetry conditions tracker) := by
  obtain ⟨told, heard, unsent, unasked⟩ := retryFailure_eq conditions.now tracker
  rw [sendRetry_of_malformed malformed]
  exact ⟨rfl, rfl, told, heard, unsent, unasked⟩

theorem sendRetry_retriesOverCs (controller : Controller) (conditions : Conditions)
    (encodable : tracker.payload.Encodable) (used : tracker.usedIms = true) :
    ∃ holding, RetriesOverCs conditions.now tracker controller
      (controller.sendRetry conditions tracker) holding := by
  -- The message is dispatched as a queue of its own would be.
  let choose : Surroundings → Tracker → Slot :=
    fun surroundings _ => .cs surroundings.voiceFormat
  have effects : (controller.dispatch conditions.now (.cs conditions.now.voiceFormat) tracker).2 =
      handoverEffectsAt conditions choose controller.sequence [tracker] 0 tracker :=
    dispatch_first conditions choose tracker [] controller
  rw [sendRetry_of_usedIms encodable used]
  refine ⟨handoverAt conditions choose controller.sequence [tracker] 0 tracker, ?_⟩
  constructor
  case handed_eq =>
    rw [effects]
    exact handedOver_handoverEffectsAt 0 tracker
  case slot_eq => rfl
  case tracker_eq => simp [handoverAt, used]
  case kept =>
    intro messageRef has
    have keeps (facts : TransportFacts) : tracker.takesRef facts = false := by
      simp [Tracker.takesRef, has]
    rw [dispatch_controller, keeps]
    simp [handoverAt, keeps, has, ReferenceCounter.advanceBy]
  case controller_eq => rw [dispatch_controller]
  case published_eq =>
    rw [effects]
    exact published_handoverEffectsAt 0 tracker
  case about => exact List.filter_eq_self.mp (messageEffects_dispatch ..)
  case unasked => exact dispatch_unasked ..

end Controller

namespace Bench

variable {command : Command} {tracker : Tracker}

/-- The bench once a message has not been dispatched again. Subscribers have got the event
and the sender the result, and the emergency state tracker has been told. -/
def retryFailed (tracker : Tracker) (bench : Bench) : Bench :=
  { bench with
    service :=
      { bench.service with
        events := bench.service.events.notify
          (.completed tracker.messageId (.failed .sendRetryFailed)) }
    emergencyLog := bench.emergencyLog.map fun log =>
      { log with
        closed := log.closed ++
          if tracker.emergency then
            tracker.lastDomain.toList.map fun domain =>
              { messageId := tracker.messageId, success := false, domain }
          else [] }
    receipts := bench.receipts ++ tracker.finish (.failed .sendRetryFailed) }

theorem apply_malformed (bench : Bench) (redispatches : command.Redispatches tracker)
    (malformed : ¬ tracker.payload.Encodable) :
    bench.apply command = bench.retryFailed tracker := by
  have tracks : bench.conditions.now.tracksEmergency = bench.emergencyLog.isSome := rfl
  rw [apply, Service.apply, Controller.handle_redispatches redispatches,
    Controller.sendRetry_of_malformed malformed, Controller.retryFailure, tracks, retryFailed]
  cases emergency : tracker.emergency <;> cases tracker.lastDomain <;>
    cases log : bench.emergencyLog <;>
      simp [take, Service.perform, carryOut, noteEmergency, receive, Registrants.applyEffect, log]

end Bench

/-- Whatever its class is at, a message that cannot be encoded fails at once when it is to be
dispatched again, and all else stays as it was. One that can be and that IMS has had is sent
over CS, once, as it is. -/
theorem Controller.redispatch_exact {command : Command} {tracker : Tracker}
    (redispatches : command.Redispatches tracker) (controller : Controller)
    (conditions : Conditions) :
    (¬ tracker.payload.Encodable →
      FailsRetry conditions.now tracker controller (controller.handle conditions command) ∧
        ∀ bench : Bench, bench.apply command = bench.retryFailed tracker) ∧
    (tracker.payload.Encodable → tracker.usedIms = true → ∃ holding,
      RetriesOverCs conditions.now tracker controller (controller.handle conditions command)
        holding) := by
  rw [handle_redispatches redispatches]
  constructor
  · intro malformed
    constructor
    · exact sendRetry_failsRetry controller conditions malformed
    · intro bench
      exact bench.apply_malformed redispatches malformed
  · intro encodable used
    exact sendRetry_retriesOverCs controller conditions encodable used

namespace Sample

/-- A message that PS has had twice, under a reference of its own. -/
def veteran (payload : Payload) (emergency : Bool) : Tracker :=
  { Controller.admitted surroundings (request 3) with
    payload, emergency, messageRef := some 7, retryCount := 2, usedIms := true
    lastDomain := some .ps }

/-- While two others wait, the empty message fails and the other one goes over CS. -/
theorem veteran_redispatched :
    crowded.controller.handle (.steady surroundings) (.retry (veteran (.text "") true)) =
        (crowded.controller,
          [.closeSession 0 false .ps, .publish (.completed 0 (.failed .sendRetryFailed)),
            .complete (veteran (.text "") true) (.failed .sendRetryFailed)]) ∧
      ∃ holding, handedOver (crowded.controller.handle (.steady surroundings)
          (.retry (veteran (.text "hello") false))).2 = [holding] ∧
        holding.slot = .cs .threeGpp ∧ holding.tracker.retryCount = 2 ∧
        holding.tracker.messageRef = some 7 := by
  obtain ⟨fails, -⟩ := Controller.redispatch_exact (.asked : Command.Redispatches
    (veteran (.text "") true) _) crowded.controller (.steady surroundings)
  obtain ⟨-, retries⟩ := Controller.redispatch_exact (.asked : Command.Redispatches
    (veteran (.text "hello") false) _) crowded.controller (.steady surroundings)
  obtain ⟨failed, -⟩ := fails (fun filled => filled rfl)
  obtain ⟨holding, retried⟩ := retries (by simp [veteran, Payload.Encodable]) rfl
  refine ⟨Prod.ext failed.controller_eq failed.effects_eq, holding, retried.handed_eq,
    retried.slot_eq, ?_, (retried.kept 7 rfl).1⟩
  rw [retried.tracker_eq]
  rfl

end Sample

end OutboundSms
