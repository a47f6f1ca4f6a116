import OutboundSms.DispatchConfig
import OutboundSms.Message.Tracker
import OutboundSms.Transport.Outcome

/-!
# Link transports

A link transport submits a message to the layer below it, IMS or the modem, and
acts on the answer. Over PS a link may ask for a retry, which is honoured until
the retries are used up, or for a fallback. Over CS a retry is handed back to the
controller after its delay.

`react` is one decision and `drive` is the whole conversation with a link that
answers without end. Both the virtual clock and `drive` go through `react`.
-/

set_option autoImplicit false

namespace OutboundSms

/-- What a link answers to one submission. A `retry` is a transient failure, and
`fallback` is the network's wish to carry the message over CS. -/
inductive LinkResponse where
  | accepted
  | rejected (code : ResultCode)
  | retry (code : ResultCode)
  | fallback
  deriving DecidableEq, Repr

/-- How often a message may be submitted again, and after how many milliseconds. -/
structure RetryPolicy where
  maxRetries : UInt32
  delayMs : UInt64
  deriving DecidableEq, Repr

namespace RetryPolicy

def ims (config : DispatchConfig) : RetryPolicy :=
  { maxRetries := config.maxImsRetries, delayMs := config.imsRetryDelayMs }

def cs (config : DispatchConfig) : RetryPolicy :=
  { maxRetries := config.maxCsRetries, delayMs := config.csRetryDelayMs }

def ofDomain (config : DispatchConfig) : Domain → RetryPolicy
  | .ps => ims config
  | .cs => cs config

/-- Whether a message with so many retries behind it may be retried again. -/
def allows (policy : RetryPolicy) (retryCount : UInt32) : Bool :=
  retryCount < policy.maxRetries

end RetryPolicy

/-- Everything a link needs to encode and submit one message. `isRetry` asks the
network to reject duplicates. -/
structure Submission where
  destination : String
  serviceCenter : Option String
  payload : Payload
  messageRef : Option UInt8
  isRetry : Bool
  isEmergency : Bool
  format : SmsFormat
  priority : Option UInt8
  validityPeriodMins : Option UInt32
  expectMore : Bool
  deriving DecidableEq, Repr

def Submission.ofTracker (tracker : Tracker) (format : SmsFormat) : Submission where
  destination := tracker.destination
  serviceCenter := tracker.serviceCenter
  payload := tracker.payload
  messageRef := tracker.messageRef
  isRetry := 0 < tracker.retryCount
  isEmergency := tracker.emergency
  format
  priority := tracker.options.priority
  validityPeriodMins := tracker.options.validityPeriodMins
  expectMore := tracker.options.expectMore

/-- What a link transport does on one answer: report an outcome, once it has
registered the delivery callback it took, submit the message again after the
retry delay, or report a requested retry after it. -/
inductive LinkReaction where
  | report (tracker : Tracker) (outcome : TransportOutcome) (registers : Option StatusCallback)
  | resubmit (tracker : Tracker)
  | handBack (tracker : Tracker)
  deriving DecidableEq, Repr

/-- The reaction of a transport of `domain` to one answer. -/
def LinkResponse.react (domain : Domain) (policy : RetryPolicy) (tracker : Tracker) :
    LinkResponse → LinkReaction
  | .accepted => .report tracker.afterAcceptance .sent tracker.statusCallback?
  | .rejected code => .report tracker (.failed code) none
  | .fallback =>
      match domain with
      | .ps =>
          if policy.allows tracker.retryCount then .report tracker.countRetry .fallback none
          else .report tracker .fallback none
      | .cs => .report tracker (.failed .genericFailure) none
  | .retry code =>
      if policy.allows tracker.retryCount then
        match domain with
        | .ps => .resubmit tracker.countRetry
        | .cs => .handBack tracker.countRetry
      else
        match domain with
        | .ps => .report tracker .fallback none
        | .cs => .report tracker (.failed code) none

/-- The retries that a policy leaves to a message. -/
def RetryPolicy.remaining (policy : RetryPolicy) (tracker : Tracker) : Nat :=
  policy.maxRetries.toNat - tracker.retryCount.toNat

/-- A permitted retry uses up one of the remaining ones. -/
theorem RetryPolicy.remaining_countRetry {policy : RetryPolicy} {tracker : Tracker}
    (allowed : policy.allows tracker.retryCount = true) :
    policy.remaining tracker.countRetry + 1 = policy.remaining tracker := by
  have below : tracker.retryCount.toNat < policy.maxRetries.toNat := by
    simpa [allows, UInt32.lt_iff_toNat_lt] using allowed
  have bound : policy.maxRetries.toNat < 4294967296 := policy.maxRetries.toNat_lt
  have notFull : ¬ tracker.retryCount = 0xFFFFFFFF := by
    intro full
    rw [full] at below
    have : (0xFFFFFFFF : UInt32).toNat = 4294967295 := rfl
    omega
  have counted : tracker.countRetry.retryCount.toNat = tracker.retryCount.toNat + 1 := by
    simp only [Tracker.countRetry, notFull, if_false, UInt32.toNat_add]
    have : (1 : UInt32).toNat = 1 := rfl
    omega
  unfold remaining
  omega

/-- A message is submitted again only as a permitted retry. -/
theorem LinkResponse.react_eq_resubmit {domain : Domain} {policy : RetryPolicy}
    {tracker next : Tracker} {response : LinkResponse}
    (again : response.react domain policy tracker = .resubmit next) :
    policy.allows tracker.retryCount = true ∧ next = tracker.countRetry := by
  unfold LinkResponse.react at again
  split at again <;> (try split at again) <;> (try split at again) <;> simp_all

/-- The conversation of a transport with its link about one message: what it
submitted, the callback it registered, and the tracker and outcome it reports. -/
structure LinkRun where
  submissions : List Submission
  registered : Option StatusCallback
  tracker : Tracker
  outcome : TransportOutcome
  deriving Repr

/-- Submits a message until an answer settles it. Only retries over PS submit it
again, and each of them uses up one of the remaining retries. -/
def drive (domain : Domain) (format : SmsFormat) (policy : RetryPolicy)
    (answers : Nat → LinkResponse) (tracker : Tracker) : LinkRun :=
  let submission := Submission.ofTracker tracker format
  match reaction : (answers 0).react domain policy tracker with
  | .report tracker outcome registered =>
      { submissions := [submission], registered, tracker, outcome }
  | .handBack tracker =>
      { submissions := [submission], registered := none, tracker, outcome := .retryRequested }
  | .resubmit next =>
      let rest := drive domain format policy (fun index => answers (index + 1)) next
      { rest with submissions := submission :: rest.submissions }
termination_by policy.remaining tracker
decreasing_by
  obtain ⟨allowed, rfl⟩ := LinkResponse.react_eq_resubmit reaction
  have := RetryPolicy.remaining_countRetry allowed
  omega

end OutboundSms
