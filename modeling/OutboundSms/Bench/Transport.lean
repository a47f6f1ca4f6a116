import OutboundSms.Controller.Command
import OutboundSms.MessageRef
import OutboundSms.Transport.Link

/-!
# Transports on the bench

Two kinds of transport that can be watched and directed: a recorder, which holds
every message until it is told how to report on it, and a link transport whose
link answers from a script.
-/

set_option autoImplicit false

namespace OutboundSms.Bench

/-! ### Recorders -/

/-- What a recorder notes of one message. -/
structure SendRecord where
  messageId : UInt64
  destination : String
  messageRef : Option UInt8
  retryCount : UInt32
  emergency : Bool
  deriving DecidableEq, Repr

def SendRecord.ofTracker (tracker : Tracker) : SendRecord where
  messageId := tracker.messageId
  destination := tracker.destination
  messageRef := tracker.messageRef
  retryCount := tracker.retryCount
  emergency := tracker.emergency

/-- A message that waits for its outcome, and the domain it is held for. -/
structure HeldSend where
  tracker : Tracker
  domain : Domain
  deriving DecidableEq, Repr

/-- `script` holds the outcomes of the next messages. A message without one is
put at the end of `held`, where its place is empty once it has been taken. -/
structure Recorder where
  ownRefs : Bool := false
  script : List TransportOutcome := []
  records : List SendRecord := []
  held : List (Option HeldSend) := []
  deriving DecidableEq, Repr

namespace Recorder

/-- The references a recorder gives by itself count its messages from 100. -/
def assignRef (recorder : Recorder) (tracker : Tracker) : Tracker :=
  if recorder.ownRefs then tracker.assignRef (UInt8.ofNat recorder.records.length + 100)
  else tracker

/-- Takes a message in, and reports on it if the script has its outcome. -/
def receive (tracker : Tracker) (domain : Domain) (recorder : Recorder) :
    Recorder × Option Command :=
  let tracker := recorder.assignRef tracker
  let recorder := { recorder with records := recorder.records ++ [SendRecord.ofTracker tracker] }
  match recorder.script with
  | outcome :: rest => ({ recorder with script := rest }, some (.outcome tracker domain outcome))
  | [] => ({ recorder with held := recorder.held ++ [some (HeldSend.mk tracker domain)] }, none)

def heldAt? (recorder : Recorder) (index : Nat) : Option HeldSend :=
  (recorder.held[index]?).join

def vacate (recorder : Recorder) (index : Nat) : Recorder :=
  { recorder with held := recorder.held.set index none }

end Recorder

/-! ### Scripted links -/

/-- An answer of a scripted link and the milliseconds it takes. -/
structure LinkAnswer where
  response : LinkResponse
  latency : Nat := 0
  deriving DecidableEq, Repr

/-- A submission and the time at which it began. -/
structure TimedSubmission where
  time : Nat
  submission : Submission
  deriving DecidableEq, Repr

/-- What a link does with a delivery callback: keep it until it is told of a
status report, drop it, or report the message as delivered after a time. -/
inductive ReportHandling where
  | keep
  | discard
  | confirm (latency : Nat)
  deriving DecidableEq, Repr

/-- A link transport with its link. Once the script is used up, everything is
accepted after `latency`. `callbacks` holds the callbacks registered, in order,
with an empty place for each that has been used. -/
structure ScriptedLink where
  policy : RetryPolicy
  ownRefs : Option ReferenceCounter := none
  script : List LinkAnswer := []
  latency : Nat := 0
  keepsLog : Bool := true
  submissions : List TimedSubmission := []
  reports : ReportHandling := .keep
  callbacks : List (Option StatusCallback) := []
  deriving DecidableEq, Repr

namespace ScriptedLink

/-- Gives a message a reference of the link's own counter, where it has one and
the message has none. -/
def assignRef (tracker : Tracker) (link : ScriptedLink) : ScriptedLink × Tracker :=
  match link.ownRefs with
  | some counter =>
      if tracker.messageRef.isNone then
        ({ link with ownRefs := some counter.advance }, tracker.assignRef counter.peek)
      else (link, tracker)
  | none => (link, tracker)

def submit (time : Nat) (submission : Submission) (link : ScriptedLink) :
    ScriptedLink × LinkAnswer :=
  let link := if link.keepsLog then
      { link with submissions := link.submissions ++ [{ time, submission }] }
    else link
  match link.script with
  | answer :: rest => ({ link with script := rest }, answer)
  | [] => (link, { response := .accepted, latency := link.latency })

def callbackAt? (link : ScriptedLink) (index : Nat) : Option StatusCallback :=
  (link.callbacks[index]?).join

def useCallback (link : ScriptedLink) (index : Nat) : ScriptedLink :=
  { link with callbacks := link.callbacks.set index none }

end ScriptedLink

/-- Where a link transport stands with one message when it next has something to
do for it. -/
inductive LinkStage where
  | submitting (tracker : Tracker)
  | answered (tracker : Tracker) (response : LinkResponse)
  | handingBack (tracker : Tracker)
  deriving DecidableEq, Repr

namespace LinkStage

def tracker : LinkStage → Tracker
  | submitting tracker | answered tracker _ | handingBack tracker => tracker

def distance : LinkStage → Nat
  | submitting _ => 1
  | answered _ _ | handingBack _ => 0

end LinkStage

/-- Where a link transport stops: the message has its outcome, or a wait begins. -/
inductive LinkPause where
  | finished (tracker : Tracker) (outcome : TransportOutcome) (registers : Option StatusCallback)
  | waiting (delay : Nat) (stage : LinkStage)
  deriving DecidableEq, Repr

/-- Goes on with a message until a wait begins or its outcome is known. A wait of
no time does not begin. -/
def LinkStage.proceed (time : Nat) (domain : Domain) (format : SmsFormat) (policy : RetryPolicy)
    (stage : LinkStage) (link : ScriptedLink) : ScriptedLink × LinkPause :=
  match stage with
  | .submitting tracker =>
      let (link, answer) := link.submit time (.ofTracker tracker format)
      if answer.latency = 0 then
        (LinkStage.answered tracker answer.response).proceed time domain format policy link
      else
        (link, .waiting answer.latency (.answered tracker answer.response))
  | .answered tracker response =>
      match _ : response.react domain policy tracker with
      | .report tracker outcome registers => (link, .finished tracker outcome registers)
      | .handBack tracker =>
          if policy.delayMs = 0 then (link, .finished tracker .retryRequested none)
          else (link, .waiting policy.delayMs.toNat (.handingBack tracker))
      | .resubmit next =>
          if policy.delayMs = 0 then
            (LinkStage.submitting next).proceed time domain format policy link
          else (link, .waiting policy.delayMs.toNat (.submitting next))
  | .handingBack tracker => (link, .finished tracker .retryRequested none)
termination_by (policy.remaining stage.tracker, stage.distance)
decreasing_by
  · exact Prod.Lex.right _ Nat.one_pos
  · obtain ⟨allowed, rfl⟩ := LinkResponse.react_eq_resubmit ‹_ = LinkReaction.resubmit _›
    have := RetryPolicy.remaining_countRetry allowed
    refine Prod.Lex.left _ _ ?_
    simp only [LinkStage.tracker]
    omega

/-! ### Transports -/

inductive Device where
  | recorder (recorder : Recorder)
  | link (link : ScriptedLink)

/-- A transport as it stands on the bench. With `emergencyOnly` set, emergency
messages are supported for exactly those destinations. A transport that is not
`adjustable` stays as it was built. -/
structure Transport where
  domain : Domain
  format : SmsFormat
  available : Bool := true
  emergencySupport : Bool := false
  emergencyOnly : Option (List String) := none
  adjustable : Bool := true
  device : Device

namespace Transport

def supportsEmergency (transport : Transport) (destination : String) : Bool :=
  match transport.emergencyOnly with
  | some destinations => destinations.contains destination
  | none => transport.emergencySupport

def ownsRefs (transport : Transport) : Bool :=
  match transport.device with
  | .recorder recorder => recorder.ownRefs
  | .link link => link.ownRefs.isSome

def facts (transport : Transport) : TransportFacts where
  domain := transport.domain
  format := transport.format
  available := transport.available
  supportsEmergency := transport.supportsEmergency
  controllerAssignsRef := !transport.ownsRefs

def scriptLength (transport : Transport) : Nat :=
  match transport.device with
  | .recorder recorder => recorder.script.length
  | .link link => link.script.length

end Transport

end OutboundSms.Bench
