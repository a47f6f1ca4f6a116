import OutboundSms.Proofs.Passage

/-!
# Attempts

How often a message is submitted where all three transports are link transports of one
configuration. One retry count serves the loop of the PS transport and the way back
through the controller. It counts what has been submitted before, but for the step from
PS to CS where the policy of PS is used up, so it bounds the submissions, and it tells
a repeated message from a new one, but for that step.
-/

set_option autoImplicit false

namespace OutboundSms

def Slot.domain : Slot → Domain
  | ps => .ps
  | cs _ => .cs

/-- Link transports in all slots, built from one configuration. -/
def Links.ofConfig (config : DispatchConfig) (formats : Slot → SmsFormat)
    (ownsRefs : Slot → Bool) : Links :=
  fun slot => some
    { domain := slot.domain
      format := formats slot
      policy := .ofDomain config slot.domain
      ownsRefs := ownsRefs slot }

/-! ### Submissions in a story -/

def Remark.submission? : Remark → Option (Slot × Submission)
  | submitted slot submission => some (slot, submission)
  | _ => none

def submissionsIn (story : List Remark) : List (Slot × Submission) :=
  story.filterMap Remark.submission?

@[simp] theorem submissionsIn_append (first second : List Remark) :
    submissionsIn (first ++ second) = submissionsIn first ++ submissionsIn second :=
  List.filterMap_append

@[simp] theorem submissionsIn_remarks (holding : Holding) :
    submissionsIn holding.remarks = [] := rfl

theorem submissionsIn_asked {asked : List Remark} {unused : Prop}
    (asking : asked = [] ∨ asked = [.consulted] ∧ unused) : submissionsIn asked = [] :=
  Passage.filterMap_asked rfl asking

theorem submissionsIn_lead {lead : List Remark} {messageRef : Option UInt8}
    (leading : lead = [] ∨ lead = [.fellBack messageRef]) : submissionsIn lead = [] :=
  Passage.filterMap_lead rfl leading

/-- How many of the submissions were over a domain. -/
def attempts (domain : Domain) (submissions : List (Slot × Submission)) : Nat :=
  submissions.countP (·.1.domain = domain)

@[simp] theorem attempts_concat (domain : Domain) (submissions : List (Slot × Submission))
    (slot : Slot) (submission : Submission) :
    attempts domain (submissions ++ [(slot, submission)]) =
      attempts domain submissions + if slot.domain = domain then 1 else 0 := by
  simp [attempts, List.countP_append, List.countP_cons]

theorem length_eq_attempts (submissions : List (Slot × Submission)) :
    submissions.length = attempts .ps submissions + attempts .cs submissions := by
  induction submissions with
  | nil => rfl
  | cons first rest ih =>
      simp only [attempts, List.countP_cons, List.length_cons] at ih ⊢
      cases first.1.domain <;> simp <;> omega

/-! ### What a retry count says -/

namespace Attempts

variable (config : DispatchConfig)

/-- The submission after these goes out as the first: nothing has been submitted, or only
once over PS, whose policy allows no retries. -/
def Unflagged (submissions : List (Slot × Submission)) : Prop :=
  submissions = [] ∨
    config.maxImsRetries = 0 ∧ ∃ submission, submissions = [(.ps, submission)]

/-- Every submission asks the network to reject duplicates but those that go out as first. -/
def Flagged (submissions : List (Slot × Submission)) : Prop :=
  ∀ earlier made later, submissions = earlier ++ made :: later →
    (made.2.isRetry = false ↔ Unflagged config earlier)

/-- No more submissions are to come. -/
structure Spent (submissions : List (Slot × Submission)) : Prop where
  ps_le : attempts .ps submissions ≤ config.maxImsRetries.toNat + 1
  cs_le : attempts .cs submissions ≤ config.maxCsRetries.toNat + 1
  all_le : attempts .ps submissions + attempts .cs submissions ≤
    max config.maxImsRetries.toNat config.maxCsRetries.toNat + 2

/-- What the retry count of a tracker says wherever the tracker is. -/
structure Counted (submissions : List (Slot × Submission)) (tracker : Tracker) : Prop where
  le_max : tracker.retryCount.toNat ≤ max config.maxImsRetries.toNat config.maxCsRetries.toNat
  flag : tracker.retryCount.toNat = 0 ↔ Unflagged config submissions

/-- The message may be submitted over CS, or over PS if IMS has not had it. The step from
PS to CS may have gone uncounted. -/
structure Ready (submissions : List (Slot × Submission)) (tracker : Tracker) : Prop
    extends Counted config submissions tracker where
  ps_le : attempts .ps submissions ≤ config.maxImsRetries.toNat + 1
  cs_le : attempts .cs submissions ≤ config.maxCsRetries.toNat
  cs_le_count : attempts .cs submissions ≤ tracker.retryCount.toNat
  all_le : attempts .ps submissions + attempts .cs submissions ≤
    tracker.retryCount.toNat + tracker.usedIms.toNat
  unused : tracker.usedIms = false → attempts .ps submissions = 0

/-- The message is about to be submitted over PS. -/
structure Trying (submissions : List (Slot × Submission)) (tracker : Tracker) : Prop
    extends Counted config submissions tracker where
  used : tracker.usedIms = true
  cs_le : attempts .cs submissions ≤ config.maxCsRetries.toNat
  all_le : attempts .ps submissions + attempts .cs submissions ≤ tracker.retryCount.toNat
  within : attempts .ps submissions = 0 ∨
    tracker.retryCount.toNat ≤ config.maxImsRetries.toNat

/-- Where a message may be, with what its retry count says there. -/
inductive Paced : Passage → Prop where
  | gone {story} (spent : Spent config (submissionsIn story)) : Paced ⟨story, none⟩
  | waiting {story tracker} (unused : tracker.usedIms = false)
      (ready : Ready config (submissionsIn story) tracker) :
      Paced ⟨story, some (.waiting tracker)⟩
  | submittingPs {story holding tracker} (ps : holding.slot = .ps)
      (trying : Trying config (submissionsIn story) tracker) :
      Paced ⟨story, some (.flying ⟨holding, .submitting tracker⟩)⟩
  | answeredPs {story holding tracker response before made} (ps : holding.slot = .ps)
      (told : submissionsIn story = before ++ [(.ps, made)])
      (trying : Trying config before tracker) :
      Paced ⟨story, some (.flying ⟨holding, .answered tracker response⟩)⟩
  | submittingCs {story holding tracker format} (cs : holding.slot = .cs format)
      (ready : Ready config (submissionsIn story) tracker) :
      Paced ⟨story, some (.flying ⟨holding, .submitting tracker⟩)⟩
  | answeredCs {story holding tracker response before made format} (cs : holding.slot = .cs format)
      (told : submissionsIn story = before ++ [(.cs format, made)])
      (ready : Ready config before tracker) :
      Paced ⟨story, some (.flying ⟨holding, .answered tracker response⟩)⟩
  | handingBack {story holding tracker} (ready : Ready config (submissionsIn story) tracker) :
      Paced ⟨story, some (.flying ⟨holding, .handingBack tracker⟩)⟩
  | returning {story report} (ready : Ready config (submissionsIn story) report.tracker) :
      Paced ⟨story, some (.returning report)⟩
  | settled {story report} (terminal : report.outcome.isTerminal = true)
      (spent : Spent config (submissionsIn story))
      (le_max : report.tracker.retryCount.toNat ≤
        max config.maxImsRetries.toNat config.maxCsRetries.toNat) :
      Paced ⟨story, some (.returning report)⟩

variable {config} {submissions : List (Slot × Submission)} {tracker other : Tracker}
  {slot : Slot} {made : Submission}

theorem Flagged.concat (flagged : Flagged config submissions)
    (flag : made.isRetry = false ↔ Unflagged config submissions) :
    Flagged config (submissions ++ [(slot, made)]) := by
  intro earlier last later split
  rcases List.eq_nil_or_concat later with rfl | ⟨rest, final, rfl⟩
  · obtain ⟨rfl, last⟩ := List.append_inj' split rfl
    obtain rfl := (List.cons.inj last).1
    exact flag
  · rw [List.concat_eq_append, ← List.cons_append, ← List.append_assoc] at split
    exact flagged earlier last rest (List.append_inj' split rfl).1

theorem not_unflagged_concat_cs (format : SmsFormat) :
    ¬ Unflagged config (submissions ++ [(.cs format, made)]) := by
  rintro (none | ⟨-, submission, only⟩)
  · simp at none
  · cases submissions <;> simp at only

theorem unflagged_concat_ps :
    Unflagged config (submissions ++ [(.ps, made)]) ↔
      submissions = [] ∧ config.maxImsRetries = 0 := by
  constructor
  · rintro (none | ⟨zero, submission, only⟩)
    · simp at none
    · refine ⟨?_, zero⟩
      cases submissions with
      | nil => rfl
      | cons => simp at only
  · rintro ⟨rfl, zero⟩
    exact .inr ⟨zero, made, rfl⟩

theorem retryCount_countRetry {policy : RetryPolicy}
    (allowed : policy.allows tracker.retryCount = true) :
    tracker.countRetry.retryCount.toNat = tracker.retryCount.toNat + 1 ∧
      tracker.retryCount.toNat < policy.maxRetries.toNat := by
  have below : tracker.retryCount.toNat < policy.maxRetries.toNat := by
    simpa [RetryPolicy.allows, UInt32.lt_iff_toNat_lt] using allowed
  have bound : policy.maxRetries.toNat < 4294967296 := policy.maxRetries.toNat_lt
  refine ⟨?_, below⟩
  have notFull : ¬ tracker.retryCount = 0xFFFFFFFF := by
    intro full
    have greatest : (0xFFFFFFFF : UInt32).toNat = 4294967295 := rfl
    rw [full] at below
    omega
  rw [Tracker.countRetry]
  simp only [notFull, if_false, UInt32.toNat_add, UInt32.toNat_ofNat]
  omega

theorem Counted.congr (counted : Counted config submissions tracker)
    (same : other.retryCount = tracker.retryCount) : Counted config submissions other :=
  ⟨same ▸ counted.le_max, same ▸ counted.flag⟩

theorem Ready.congr (ready : Ready config submissions tracker)
    (retryCount : other.retryCount = tracker.retryCount)
    (usedIms : other.usedIms = tracker.usedIms) :
    Ready config submissions other where
  toCounted := ready.toCounted.congr retryCount
  ps_le := ready.ps_le
  cs_le := ready.cs_le
  cs_le_count := retryCount ▸ ready.cs_le_count
  all_le := retryCount ▸ usedIms ▸ ready.all_le
  unused := usedIms ▸ ready.unused

/-! ### What an attempt does to the count -/

theorem Counted.flag_ofTracker (counted : Counted config submissions tracker)
    (format : SmsFormat) :
    (Submission.ofTracker tracker format).isRetry = false ↔ Unflagged config submissions := by
  rw [← counted.flag]
  simp [Submission.ofTracker, UInt32.lt_iff_toNat_lt]

/-- IMS gets a message that it has not had. -/
theorem Ready.trying (ready : Ready config submissions tracker)
    (unused : tracker.usedIms = false) (retryCount : other.retryCount = tracker.retryCount)
    (used : other.usedIms = true) : Trying config submissions other where
  toCounted := ready.toCounted.congr retryCount
  used := used
  cs_le := ready.cs_le
  all_le := by
    have all := ready.all_le
    rw [unused] at all
    simpa [retryCount] using all
  within := .inl (ready.unused unused)

theorem not_unflagged_of_ims {allowed : Nat} (below : allowed < config.maxImsRetries.toNat) :
    ¬ Unflagged config (submissions ++ [(.ps, made)]) := by
  rw [unflagged_concat_ps]
  rintro ⟨-, zero⟩
  simp [zero] at below

theorem Trying.again (trying : Trying config submissions tracker)
    (allowed : (RetryPolicy.ims config).allows tracker.retryCount = true) :
    Trying config (submissions ++ [(.ps, made)]) tracker.countRetry := by
  obtain ⟨counted, below⟩ := retryCount_countRetry allowed
  have below : tracker.retryCount.toNat < config.maxImsRetries.toNat := below
  have all := trying.all_le
  refine ⟨⟨by omega, ?_⟩, trying.used, ?_, ?_, .inr (by omega)⟩
  · simp [counted, not_unflagged_of_ims below]
  · simpa [Slot.domain] using trying.cs_le
  · simp only [attempts_concat, Slot.domain, if_true, reduceCtorEq, if_false]
    omega

/-- A fallback leaves room for CS, whether or not it is counted. -/
theorem Trying.fallback (trying : Trying config submissions tracker)
    (counts : (other = tracker ∧ (RetryPolicy.ims config).allows tracker.retryCount = false) ∨
      (other = tracker.countRetry ∧
        (RetryPolicy.ims config).allows tracker.retryCount = true)) :
    Ready config (submissions ++ [(.ps, made)]) other := by
  have all := trying.all_le
  have within := trying.within
  have cs := trying.cs_le
  rcases counts with ⟨rfl, refused⟩ | ⟨rfl, allowed⟩
  · have above : config.maxImsRetries.toNat ≤ other.retryCount.toNat := by
      simpa [RetryPolicy.allows, RetryPolicy.ims, decide_eq_false_iff_not,
        UInt32.lt_iff_toNat_lt] using refused
    have used : other.usedIms.toNat = 1 := by rw [trying.used]; rfl
    refine ⟨⟨trying.le_max, ?_⟩, ?_, ?_, ?_, ?_, by simp [trying.used]⟩
    · rw [unflagged_concat_ps]
      constructor
      · intro zero
        have none := length_eq_attempts submissions
        refine ⟨List.eq_nil_of_length_eq_zero (by omega), ?_⟩
        rw [← UInt32.toNat_inj]
        exact (by omega : config.maxImsRetries.toNat = 0)
      · rintro ⟨none, -⟩
        exact trying.flag.mpr (.inl none)
    all_goals
      simp only [attempts_concat, Slot.domain, if_true, reduceCtorEq, if_false]
      omega
  · obtain ⟨counted, below⟩ := retryCount_countRetry allowed
    have below : tracker.retryCount.toNat < config.maxImsRetries.toNat := below
    refine ⟨⟨by omega, ?_⟩, ?_, ?_, ?_, ?_, fun unused => ?_⟩
    · simp [counted, not_unflagged_of_ims below]
    · simp only [attempts_concat, Slot.domain, if_true]
      omega
    · simpa [Slot.domain] using cs
    · simp only [attempts_concat, Slot.domain, reduceCtorEq, if_false]
      omega
    · simp only [attempts_concat, Slot.domain, if_true, reduceCtorEq, if_false]
      omega
    · exact absurd (trying.used.symm.trans unused) (by decide)

theorem Trying.spent (trying : Trying config submissions tracker) :
    Spent config (submissions ++ [(.ps, made)]) := by
  have all := trying.all_le
  have within := trying.within
  have cs := trying.cs_le
  have most := trying.le_max
  constructor <;> simp only [attempts_concat, Slot.domain, if_true, reduceCtorEq, if_false] <;>
    omega

/-- An allowed retry over CS, which goes back to the controller. -/
theorem Ready.again (ready : Ready config submissions tracker) (format : SmsFormat)
    (allowed : (RetryPolicy.cs config).allows tracker.retryCount = true) :
    Ready config (submissions ++ [(.cs format, made)]) tracker.countRetry := by
  obtain ⟨counted, below⟩ := retryCount_countRetry allowed
  have below : tracker.retryCount.toNat < config.maxCsRetries.toNat := below
  have all := ready.all_le
  have count := ready.cs_le_count
  refine ⟨⟨by omega, ?_⟩, ?_, ?_, ?_, ?_, fun unused => ?_⟩
  · simp [counted, not_unflagged_concat_cs]
  · simpa [Slot.domain] using ready.ps_le
  · simp only [attempts_concat, Slot.domain, if_true]
    omega
  · simp only [attempts_concat, Slot.domain, if_true]
    omega
  · simp only [attempts_concat, Slot.domain, if_true, reduceCtorEq, if_false, counted]
    have same : tracker.countRetry.usedIms = tracker.usedIms := rfl
    rw [same]
    omega
  · simpa [Slot.domain] using ready.unused unused

theorem Ready.spent_cs (ready : Ready config submissions tracker) (format : SmsFormat) :
    Spent config (submissions ++ [(.cs format, made)]) := by
  have all := ready.all_le
  have cs := ready.cs_le
  have ps := ready.ps_le
  have most := ready.le_max
  have most' := tracker.usedIms.toNat_le
  constructor <;> simp only [attempts_concat, Slot.domain, if_true, reduceCtorEq, if_false] <;>
    omega

theorem Ready.spent (ready : Ready config submissions tracker) : Spent config submissions := by
  have all := ready.all_le
  have cs := ready.cs_le
  have ps := ready.ps_le
  have most := ready.le_max
  have most' := tracker.usedIms.toNat_le
  constructor <;> omega

theorem Trying.spent_before (trying : Trying config submissions tracker) :
    Spent config submissions := by
  have all := trying.all_le
  have within := trying.within
  have cs := trying.cs_le
  have most := trying.le_max
  constructor <;> omega

/-! ### Paced passages -/

variable {formats : Slot → SmsFormat} {ownsRefs : Slot → Bool} {holding : Holding}
  {story : List Remark} {passage after : Passage}

theorem slot_of_sent (sent : (Links.ofConfig config formats ownsRefs).Sent tracker holding) :
    holding.domain = holding.slot.domain ∧
      (tracker.usedIms = true → ∃ format, holding.slot = .cs format) := by
  obtain ⟨conditions, answer, given⟩ := sent
  refine ⟨?_, given.onward⟩
  obtain ⟨place, counting, domain, -⟩ := given.outgoing
  rw [domain]
  exact (answer place holding.slot _ rfl).1

theorem Paced.spent (paced : Paced config passage) :
    Spent config (submissionsIn passage.story) := by
  cases paced with
  | gone spent | settled _ spent => exact spent
  | waiting _ ready | submittingCs _ ready | handingBack ready | returning ready =>
      exact ready.spent
  | submittingPs _ trying => exact trying.spent_before
  | answeredPs _ told trying => exact told ▸ trying.spent
  | @answeredCs _ _ _ _ _ _ format _ told ready => exact told ▸ ready.spent_cs format

theorem Paced.le_max (paced : Paced config passage) {position : Position}
    (there : passage.position = some position) :
    position.tracker.retryCount.toNat ≤
      max config.maxImsRetries.toNat config.maxCsRetries.toNat := by
  cases paced with
  | gone => cases there
  | waiting _ ready | submittingCs _ ready | answeredCs _ _ ready | handingBack ready
  | returning ready =>
      obtain rfl := Option.some.inj there
      exact ready.le_max
  | submittingPs _ trying | answeredPs _ _ trying =>
      obtain rfl := Option.some.inj there
      exact trying.le_max
  | settled _ _ le_max =>
      obtain rfl := Option.some.inj there
      exact le_max

/-- What a command brings can be handed on, unless it has come back for good. -/
theorem Paced.ready_of_brings (paced : Paced config passage)
    (brings : passage.Brings (Links.ofConfig config formats ownsRefs) False tracker)
    (ongoing : passage.Ongoing) : Ready config (submissionsIn passage.story) tracker := by
  cases brings with
  | entered origin =>
      obtain ⟨request, emergency, rfl⟩ := origin.resolve_left id
      refine ⟨⟨Nat.zero_le _, ?_⟩, Nat.zero_le _, Nat.zero_le _, Nat.zero_le _, Nat.zero_le _,
        fun _ => rfl⟩
      exact ⟨fun _ => .inl rfl, fun _ => rfl⟩
  | reclaimed free => cases free
  | reported =>
      cases paced with
      | returning ready => exact ready
      | settled terminal => exact absurd (ongoing _ rfl) (by simp [terminal])

/-- A message that is handed over is on its way to its first or next submission. -/
theorem Paced.launched {ownRefs : Ticket → UInt8}
    (ready : Ready config (submissionsIn story) tracker)
    (sent : (Links.ofConfig config formats ownsRefs).Sent tracker holding) :
    Paced config ⟨story,
      some (.flying ((Links.ofConfig config formats ownsRefs).launch ownRefs holding))⟩ := by
  obtain ⟨domain, onward⟩ := slot_of_sent sent
  obtain ⟨conditions, -, given⟩ := sent
  have count := given.retryCount_eq
  have used := given.usedIms_eq
  have stage : ∃ launched : Tracker, launched.retryCount = holding.tracker.retryCount ∧
      launched.usedIms = holding.tracker.usedIms ∧
      (Links.ofConfig config formats ownsRefs).launch ownRefs holding =
        ⟨holding, .submitting launched⟩ := by
    unfold Links.launch
    split
    · exact ⟨holding.tracker.assignRef _, rfl, rfl, rfl⟩
    · exact ⟨holding.tracker, rfl, rfl, rfl⟩
  obtain ⟨launched, retryCount, usedIms, whole⟩ := stage
  rw [whole]
  cases slot : holding.slot with
  | ps =>
      have unused : tracker.usedIms = false := by
        cases had : tracker.usedIms with
        | false => rfl
        | true =>
            obtain ⟨format, cs⟩ := onward had
            cases slot.symm.trans cs
      refine .submittingPs slot (ready.trying unused (retryCount.trans count) ?_)
      rw [usedIms, used, domain, slot]
      simp [Slot.domain, Domain.isPs]
  | cs format =>
      refine .submittingCs slot (ready.congr (retryCount.trans count) ?_)
      rw [usedIms, used, domain, slot]
      simp [Slot.domain, Domain.isPs]

theorem linked_ofConfig {slot : Slot} {link : LinkTransport}
    (linked : Links.ofConfig config formats ownsRefs slot = some link) :
    link.domain = slot.domain ∧ link.policy = .ofDomain config slot.domain := by
  obtain rfl := Option.some.inj linked
  exact ⟨rfl, rfl⟩

/-- A link transport that goes on with a message keeps the pace, and flags what it submits
by the retry count. -/
theorem Paced.advanced {flight : Flight} {link : LinkTransport} {made : List Submission}
    {stage : Bench.LinkStage} (paced : Paced config ⟨story, some (.flying flight)⟩)
    (flagged : Flagged config (submissionsIn story))
    (linked : Links.ofConfig config formats ownsRefs flight.holding.slot = some link)
    (advances : link.Advances flight.stage made stage) :
    Flagged config (submissionsIn (story ++ made.map (.submitted flight.holding.slot))) ∧
      Paced config ⟨story ++ made.map (.submitted flight.holding.slot),
        some (.flying { flight with stage })⟩ := by
  obtain ⟨domain, policy⟩ := linked_ofConfig linked
  cases paced with
  | @submittingPs _ holding tracker ps trying =>
      cases advances with
      | submitted _ response =>
          have told : submissionsIn (story ++ [.submitted holding.slot
              (.ofTracker tracker link.format)]) =
              submissionsIn story ++ [(.ps, .ofTracker tracker link.format)] := by
            rw [submissionsIn_append, ps]
            rfl
          refine ⟨?_, .answeredPs ps told trying⟩
          exact told ▸ flagged.concat (trying.flag_ofTracker link.format)
  | @submittingCs _ holding tracker format cs ready =>
      cases advances with
      | submitted _ response =>
          have told : submissionsIn (story ++ [.submitted holding.slot
              (.ofTracker tracker link.format)]) =
              submissionsIn story ++ [(.cs format, .ofTracker tracker link.format)] := by
            rw [submissionsIn_append, cs]
            rfl
          refine ⟨?_, .answeredCs cs told ready⟩
          exact told ▸ flagged.concat (ready.flag_ofTracker link.format)
  | @answeredPs _ holding tracker response before last ps told trying =>
      rw [ps] at domain policy
      cases advances with
      | resubmits reaction =>
          obtain ⟨allowed, rfl⟩ := LinkResponse.react_eq_resubmit reaction
          rw [policy] at allowed
          rw [List.map_nil, List.append_nil]
          exact ⟨flagged, .submittingPs ps (told ▸ trying.again allowed)⟩
      | handsBack reaction =>
          obtain ⟨cs, -⟩ := LinkResponse.react_eq_handBack reaction
          cases domain.symm.trans cs
  | @answeredCs _ holding tracker response before last format cs told ready =>
      rw [cs] at domain policy
      cases advances with
      | resubmits reaction =>
          have ps := LinkResponse.react_eq_resubmit_ps reaction
          cases domain.symm.trans ps
      | handsBack reaction =>
          obtain ⟨-, allowed, rfl⟩ := LinkResponse.react_eq_handBack reaction
          rw [policy] at allowed
          rw [List.map_nil, List.append_nil]
          exact ⟨flagged, .handingBack (told ▸ ready.again format allowed)⟩
  | handingBack => cases advances

theorem retryCount_afterAcceptance (tracker : Tracker) :
    tracker.afterAcceptance.retryCount = tracker.retryCount := by
  unfold Tracker.afterAcceptance
  split <;> rfl

/-- A link transport that ends with a message hands it on or is done with it. -/
theorem Paced.finished {flight : Flight} {link : LinkTransport} {outcome : TransportOutcome}
    {domain : Domain} (paced : Paced config ⟨story, some (.flying flight)⟩)
    (linked : Links.ofConfig config formats ownsRefs flight.holding.slot = some link)
    (finishes : link.Finishes flight.stage tracker outcome) :
    Paced config ⟨story, some (.returning { tracker, domain, outcome })⟩ := by
  obtain ⟨same, policy⟩ := linked_ofConfig linked
  obtain ⟨holding, stage⟩ := flight
  cases finishes with
  | handedBack =>
      cases paced with
      | handingBack ready => exact .returning ready
  | answered reaction =>
      cases paced with
      | answeredPs ps told trying =>
          rw [ps] at policy
          rw [policy] at reaction
          -- Two reports are for good; of the two fallbacks one is counted as a retry.
          have spent := told ▸ trying.spent
          rcases LinkResponse.react_eq_report reaction with ⟨rfl, rfl⟩ |
            ⟨rfl, ⟨code, rfl⟩ | ⟨-, rfl, refused⟩⟩ | ⟨-, rfl, allowed, rfl⟩
          · refine .settled rfl spent ?_
            rw [retryCount_afterAcceptance]
            exact trying.le_max
          · exact .settled rfl spent trying.le_max
          · exact .returning (told ▸ trying.fallback (.inl ⟨rfl, refused⟩))
          · exact .returning (told ▸ trying.fallback (.inr ⟨rfl, allowed⟩))
      | @answeredCs _ _ _ _ _ _ format cs told ready =>
          rw [cs] at same
          have spent := told ▸ ready.spent_cs format
          rcases LinkResponse.react_eq_report reaction with ⟨rfl, rfl⟩ |
            ⟨rfl, ⟨code, rfl⟩ | ⟨ps, -⟩⟩ | ⟨ps, -⟩
          · refine .settled rfl spent ?_
            rw [retryCount_afterAcceptance]
            exact ready.le_max
          · exact .settled rfl spent ready.le_max
          · cases same.symm.trans ps
          · cases same.symm.trans ps

theorem Paced.step
    (step : Passage.Step (Links.ofConfig config formats ownsRefs) False passage after)
    (paced : Paced config passage) (flagged : Flagged config (submissionsIn passage.story)) :
    Paced config after ∧ Flagged config (submissionsIn after.story) := by
  cases step with
  | still => exact ⟨paced, flagged⟩
  | joined brings ongoing asking unused =>
      have ready := paced.ready_of_brings brings ongoing
      rw [← List.append_nil (submissionsIn passage.story), ← submissionsIn_asked asking,
        ← submissionsIn_append] at ready flagged
      exact ⟨.waiting unused ready, flagged⟩
  | @handed _ tracker holding asked lead ownRefs brings ongoing asking leading sent =>
      have ready := paced.ready_of_brings brings ongoing
      have same : submissionsIn (passage.story ++ (asked ++ lead ++ holding.remarks)) =
          submissionsIn passage.story := by
        simp [submissionsIn_asked asking, submissionsIn_lead leading]
      rw [← same] at ready flagged
      exact ⟨.launched ready sent, flagged⟩
  | @completed _ tracker asked result brings asking told =>
      have same : submissionsIn (passage.story ++
          (asked ++ [.completed result, .completed result])) = submissionsIn passage.story := by
        rw [submissionsIn_append, submissionsIn_append, submissionsIn_asked asking]
        exact List.append_nil _
      have spent := paced.spent
      rw [← same] at spent flagged
      exact ⟨.gone spent, flagged⟩
  | @drained story tracker holding ownRefs sent =>
      cases paced with
      | waiting unused ready =>
          have same : submissionsIn (story ++ holding.remarks) = submissionsIn story := by simp
          rw [← same] at ready flagged
          exact ⟨.launched ready sent, flagged⟩
  | advanced linked advances => exact (paced.advanced flagged linked advances).symm
  | finished linked finishes => exact ⟨paced.finished linked finishes, flagged⟩
  | reported free => cases free

theorem Paced.run
    (run : Passage.Run (Links.ofConfig config formats ownsRefs) False ⟨[], none⟩ passage) :
    Paced config passage ∧ Flagged config (submissionsIn passage.story) := by
  -- The two go together: the flag of a submission is read off the count before it.
  induction run with
  | refl =>
      refine ⟨.gone ⟨Nat.zero_le _, Nat.zero_le _, Nat.zero_le _⟩,
        fun earlier made later split => ?_⟩
      simp [submissionsIn] at split
  | tail _ step ih => exact ih.1.step step ih.2

end Attempts

/-! ### The way from PS to CS -/

/-- The domain that a message is handed over to. -/
def Remark.domain? : Remark → Option Domain
  | handedOver _ domain => some domain
  | _ => none

def domainsIn (story : List Remark) : List Domain :=
  story.filterMap Remark.domain?

@[simp] theorem domainsIn_append (first second : List Remark) :
    domainsIn (first ++ second) = domainsIn first ++ domainsIn second :=
  List.filterMap_append

@[simp] theorem domainsIn_remarks (holding : Holding) :
    domainsIn holding.remarks = [holding.domain] := rfl

/-- What is heard only until IMS has had the message. -/
def Remark.isEarly : Remark → Bool
  | consulted | handedOver _ .ps => true
  | _ => false

/-- Once PS has been handed the message, it goes over CS, and no resolver is asked. -/
def OneWay (story : List Remark) : Prop :=
  story.Pairwise fun earlier later => earlier.domain? = some .ps → later.isEarly = false

theorem OneWay.append {story new : List Remark} (oneWay : OneWay story) (onward : OneWay new)
    (early : ∀ remark ∈ new, remark.isEarly = true → .ps ∉ domainsIn story) :
    OneWay (story ++ new) := by
  refine List.pairwise_append.mpr ⟨oneWay, onward, fun earlier told later new ps => ?_⟩
  by_contra isEarly
  refine early later new (by simpa using isEarly) ?_
  exact List.mem_filterMap.mpr ⟨earlier, told, ps⟩

namespace Passage

variable {config : DispatchConfig} {formats : Slot → SmsFormat} {ownsRefs : Slot → Bool}
  {passage after : Passage} {story : List Remark} {tracker : Tracker} {holding : Holding}

/-- The tracker of the message says whether IMS has had it. -/
structure Onward (passage : Passage) : Prop where
  oneWay : OneWay passage.story
  marked : ∀ position, passage.position = some position → position.tracker.usedIms = false →
    .ps ∉ domainsIn passage.story

theorem Onward.unused_of_brings {links : Links} {foreign : Prop} (onward : passage.Onward)
    (brings : passage.Brings links foreign tracker) (unused : tracker.usedIms = false) :
    .ps ∉ domainsIn passage.story := by
  cases brings with
  | entered => exact List.not_mem_nil
  | reclaimed free evolved => exact onward.marked _ rfl (evolved.usedIms_eq ▸ unused)
  | reported => exact onward.marked _ rfl unused

theorem Onward.asked {asked : List Remark} (oneWay : OneWay story)
    (unused : tracker.usedIms = false → .ps ∉ domainsIn story)
    (asking : asked = [] ∨ asked = [.consulted] ∧ tracker.usedIms = false) :
    OneWay (story ++ asked) ∧
      (tracker.usedIms = false → .ps ∉ domainsIn (story ++ asked)) := by
  rcases asking with rfl | ⟨rfl, had⟩
  · simpa using ⟨oneWay, unused⟩
  · refine ⟨oneWay.append (List.pairwise_singleton ..) fun _ _ _ => unused had, fun _ => ?_⟩
    simpa [domainsIn, Remark.domain?] using unused had

theorem Onward.launched {ownRefs : Ticket → UInt8} (oneWay : OneWay story)
    (unused : tracker.usedIms = false → .ps ∉ domainsIn story)
    (sent : (Links.ofConfig config formats ownsRefs).Sent tracker holding) :
    Onward ⟨story ++ holding.remarks,
      some (.flying ((Links.ofConfig config formats ownsRefs).launch ownRefs holding))⟩ := by
  obtain ⟨domain, onward⟩ := Attempts.slot_of_sent sent
  obtain ⟨_, -, given⟩ := sent
  constructor
  · refine oneWay.append ?_ fun remark member early => unused ?_
    · simp [OneWay, Holding.remarks, Remark.domain?]
    · cases had : tracker.usedIms with
      | false => rfl
      | true =>
          obtain ⟨format, cs⟩ := onward had
          rw [cs] at domain
          simp only [Holding.remarks, domain, Slot.domain, List.mem_cons, List.not_mem_nil,
            or_false] at member
          rcases member with rfl | rfl <;> cases early
  · intro position there had
    obtain rfl := Option.some.inj there
    have same := (Links.launch_evolves (Links.ofConfig config formats ownsRefs) ownRefs
      holding).usedIms_eq
    rw [Position.tracker, same, given.usedIms_eq, Bool.or_eq_false_iff] at had
    rw [domainsIn_append, domainsIn_remarks, List.mem_append, not_or]
    refine ⟨unused had.1, fun ps => ?_⟩
    rw [← List.mem_singleton.mp ps] at had
    cases had.2

theorem Onward.step
    (step : Passage.Step (Links.ofConfig config formats ownsRefs) False passage after)
    (onward : passage.Onward) : after.Onward := by
  cases step with
  | still => exact onward
  | joined brings ongoing asking unused =>
      obtain ⟨oneWay, marked⟩ := Onward.asked onward.oneWay (onward.unused_of_brings brings) asking
      refine ⟨oneWay, fun position there had => ?_⟩
      obtain rfl := Option.some.inj there
      exact marked had
  | @handed _ tracker holding asked lead ownRefs brings ongoing asking leading sent =>
      obtain ⟨oneWay, marked⟩ := Onward.asked onward.oneWay (onward.unused_of_brings brings) asking
      have lead' : OneWay (passage.story ++ asked ++ lead) ∧
          domainsIn (passage.story ++ asked ++ lead) = domainsIn (passage.story ++ asked) := by
        rcases leading with rfl | rfl
        · simpa using oneWay
        · refine ⟨oneWay.append (List.pairwise_singleton ..) ?_, ?_⟩
          · simp [Remark.isEarly]
          · simp [domainsIn, Remark.domain?]
      rw [← List.append_assoc, ← List.append_assoc]
      exact .launched lead'.1 (fun had => lead'.2 ▸ marked had) sent
  | @completed _ tracker asked result brings asking told =>
      obtain ⟨oneWay, -⟩ := Onward.asked onward.oneWay (onward.unused_of_brings brings) asking
      rw [← List.append_assoc]
      refine ⟨oneWay.append ?_ ?_, fun _ there => by cases there⟩
      · simp [OneWay, Remark.domain?]
      · simp [Remark.isEarly]
  | drained sent => exact .launched onward.oneWay (onward.marked _ rfl) sent
  | @advanced story flight link made stage linked advances =>
      have quiet : domainsIn (made.map (.submitted flight.holding.slot)) = [] := by
        simp [domainsIn, List.filterMap_map, Function.comp_def, Remark.domain?]
      refine ⟨onward.oneWay.append ?_ ?_, fun position there had => ?_⟩
      · rw [OneWay, List.pairwise_map]
        exact List.pairwise_of_forall fun _ _ ps => by cases ps
      · intro remark member early
        obtain ⟨_, -, rfl⟩ := List.mem_map.mp member
        cases early
      · obtain rfl := Option.some.inj there
        rw [domainsIn_append, quiet, List.append_nil]
        exact onward.marked _ rfl (advances.evolves.usedIms_eq ▸ had)
  | finished linked finishes =>
      refine ⟨onward.oneWay, fun position there had => ?_⟩
      obtain rfl := Option.some.inj there
      exact onward.marked _ rfl (finishes.evolves.usedIms_eq ▸ had)
  | reported free => cases free

theorem Onward.run
    (run : Passage.Run (Links.ofConfig config formats ownsRefs) False ⟨[], none⟩ passage) :
    passage.Onward := by
  induction run with
  | refl => exact ⟨.nil, fun _ there => by cases there⟩
  | tail _ step ih => exact ih.step step

end Passage

namespace Network

variable {config settings : DispatchConfig} {formats : Slot → SmsFormat}
  {ownsRefs : Slot → Bool} {resolver : Option ResolverId} {sequence : ReferenceCounter}
  {network : Network} {message : Message}

/-- A message goes over PS at most once and over CS from then on, without a queue and
without a resolver, and it is submitted a bounded number of times, whatever the links
answer and however the selections end. -/
theorem Reachable.attempts_bounded
    (reachable :
      Reachable (.ofConfig config formats ownsRefs) settings resolver sequence network)
    (member : message ∈ network.submitted) :
    let story := network.story message.ticket
    let most := max config.maxImsRetries.toNat config.maxCsRetries.toNat
    ((domainsIn story).Pairwise fun earlier later => earlier = .ps → later = .cs) ∧
    (∀ earlier later, story = earlier ++ later → .ps ∈ domainsIn earlier →
      .consulted ∉ later) ∧
    (.ps ∈ domainsIn story →
      ∀ tracker ∈ network.controller.trackers, tracker.ticket ≠ message.ticket) ∧
    (∀ tracker ∈ network.trackers, tracker.ticket = message.ticket →
      tracker.retryCount.toNat ≤ most) ∧
    attempts .ps (submissionsIn story) ≤ config.maxImsRetries.toNat + 1 ∧
    attempts .cs (submissionsIn story) ≤ config.maxCsRetries.toNat + 1 ∧
    (submissionsIn story).length ≤ most + 2 := by
  obtain ⟨passage, shown, told⟩ := network.exists_shows message.ticket
  have run := reachable.run_of_submitted member shown
  obtain ⟨paced, -⟩ := Attempts.Paced.run run
  have onward := Passage.Onward.run run
  have spent := paced.spent
  have oneWay := onward.oneWay
  rw [told] at spent oneWay
  refine ⟨?_, ?_, ?_, ?_, spent.ps_le, spent.cs_le, ?_⟩
  · rw [domainsIn, List.pairwise_filterMap]
    refine oneWay.imp fun {earlier later} once first origin second target => ?_
    rintro rfl
    cases later with
    | handedOver slot domain =>
        have late := once origin
        cases domain with
        | ps => cases late
        | cs => exact (Option.some.inj target).symm
    | _ => cases target
  · intro earlier later split ps asked
    rw [split] at oneWay
    obtain ⟨remark, among, dispatched⟩ := List.mem_filterMap.mp ps
    cases (List.pairwise_append.mp oneWay).2.2 remark among _ asked dispatched
  · intro ps tracker queued same
    have placed : Position.waiting tracker ∈ network.positions := by
      simp only [positions, List.mem_append]
      exact .inl (.inl (List.mem_map_of_mem queued))
    have waits := Passage.Onward.run (reachable.run_of_submitted member (.there _ placed same))
    obtain ⟨trafficClass, there⟩ := Controller.mem_trackers.mp queued
    exact waits.marked _ rfl (Controller.usedIms_of_queued reachable.sound.agrees there) ps
  · intro tracker there same
    obtain ⟨position, placed, rfl⟩ := mem_positions_of_mem_trackers there
    exact (Attempts.Paced.run
      (reachable.run_of_submitted member (.there _ placed same))).1.le_max rfl
  · rw [length_eq_attempts]
    exact spent.all_le

/-- A submission asks the network to reject duplicates exactly if it is not the first of
its message, but for the second after one over PS whose policy allows no retries. -/
theorem Reachable.isRetry_iff
    (reachable :
      Reachable (.ofConfig config formats ownsRefs) settings resolver sequence network)
    (member : message ∈ network.submitted) {earlier later : List (Slot × Submission)}
    {made : Slot × Submission}
    (split : submissionsIn (network.story message.ticket) = earlier ++ made :: later) :
    made.2.isRetry = true ↔ earlier ≠ [] ∧
      ¬ (config.maxImsRetries = 0 ∧ ∃ submission, earlier = [(.ps, submission)]) := by
  obtain ⟨passage, shown, told⟩ := network.exists_shows message.ticket
  have flagged := (Attempts.Paced.run (reachable.run_of_submitted member shown)).2
  rw [told] at flagged
  have first := flagged earlier made later split
  rw [← not_or, ← Attempts.Unflagged, ← first, Bool.not_eq_false]

end Network

/-! ### A small run -/

namespace Sample

/-- A policy without retries over PS. -/
def impatient : DispatchConfig where
  maxImsRetries := 0

def format : Slot → SmsFormat
  | .ps => .threeGpp
  | .cs format => format

def links : Links :=
  .ofConfig impatient format fun _ => false

def link (slot : Slot) : LinkTransport where
  domain := slot.domain
  format := format slot
  policy := .ofDomain impatient slot.domain
  ownsRefs := false

theorem linked (slot : Slot) : links slot = some (link slot) := rfl

theorem links_answer : links.Answer (.steady surroundings) := by
  intro place slot link linked
  obtain rfl := Option.some.inj linked
  cases slot <;> exact ⟨rfl, rfl, rfl⟩

/-- Without a resolver the message goes to PS at once. -/
def flying : Network :=
  Network.handle links (fun _ => 0) (.steady surroundings) (.submit .text (request 1))
    { Network.start impatient none (.new 256) with submitted := [message 1] }

def flight (slot : Slot) (stage : Bench.LinkStage) : Flight where
  holding := { slot, tracker := stage.tracker, domain := slot.domain }
  stage

def given : Tracker :=
  ((Controller.admitted surroundings (request 1)).assignRef 0).recordDispatch .ps

/-- PS asks for a fallback. -/
def refused : Network :=
  { flying with
    flights := [flight .ps (.answered given .fallback)]
    history := flying.history ++ [.submission .ps 1 (.ofTracker given .threeGpp)] }

def returned : Network :=
  { refused with
    flights := []
    reports := [{ tracker := given, domain := .ps, outcome := .fallback }] }

/-- The message goes over CS. -/
def fallenBack : Network :=
  Network.handle links (fun _ => 0) (.steady surroundings) (.outcome given .ps .fallback)
    { returned with reports := [] }

def resubmitted : Network :=
  let tracker := given.recordDispatch .cs
  { fallenBack with
    flights := [flight (.cs .threeGpp) (.answered tracker .accepted)]
    history := fallenBack.history ++
      [.submission (.cs .threeGpp) 1 (.ofTracker tracker .threeGpp)] }

theorem flying_reachable : Network.Reachable links impatient none (.new 256) flying :=
  .single (.handle links_answer (.submitted (by decide)))

theorem refused_reachable : Network.Reachable links impatient none (.new 256) refused := by
  have launched : flying.flights = [] ++ flight .ps (.submitting given) :: [] := rfl
  exact flying_reachable.tail (.advance launched (linked _) (.submitted given .fallback))

theorem returned_reachable : Network.Reachable links impatient none (.new 256) returned := by
  have answered : refused.flights = [] ++ flight .ps (.answered given .fallback) :: [] := rfl
  exact refused_reachable.tail (.finish answered (linked _) (.answered rfl))

theorem resubmitted_reachable :
    Network.Reachable links impatient none (.new 256) resubmitted := by
  have posted : returned.reports =
      [] ++ { tracker := given, domain := .ps, outcome := .fallback } :: [] := rfl
  have handled : Network.Reachable links impatient none (.new 256) fallenBack :=
    returned_reachable.tail (.handle links_answer (.reported posted))
  have launched : fallenBack.flights =
      [] ++ flight (.cs .threeGpp) (.submitting (given.recordDispatch .cs)) :: [] := rfl
  exact handled.tail (.advance launched (linked _) (.submitted _ .accepted))

/-- PS has had the message once, CS has it now, and nothing more is to come but two
submissions. -/
theorem resubmitted_bounded :
    domainsIn (resubmitted.story 1) = [.ps, .cs] ∧
      1 ∉ resubmitted.controller.trackers.map (·.ticket) ∧
      (submissionsIn (resubmitted.story 1)).length = 2 ∧ 2 ≤ max 0 3 + 2 := by
  have entered : message 1 ∈ resubmitted.submitted := by decide
  have bounds := Network.Reachable.attempts_bounded resubmitted_reachable entered
  have domains : domainsIn (resubmitted.story 1) = [.ps, .cs] := rfl
  refine ⟨domains, fun queued => ?_, rfl, bounds.2.2.2.2.2.2⟩
  obtain ⟨tracker, there, same⟩ := List.mem_map.mp queued
  exact bounds.2.2.1 (domains ▸ List.mem_cons_self) tracker there same

/-- The second submission of the message goes out as a first one. -/
theorem resubmitted_unflagged :
    (submissionsIn (resubmitted.story 1)).map (·.1) = [.ps, .cs .threeGpp] ∧
      (Submission.ofTracker (given.recordDispatch .cs) .threeGpp).isRetry = false := by
  have split : submissionsIn (resubmitted.story 1) =
      [(.ps, .ofTracker given .threeGpp)] ++
        (.cs .threeGpp, .ofTracker (given.recordDispatch .cs) .threeGpp) :: [] := rfl
  have entered : message 1 ∈ resubmitted.submitted := by decide
  have flagged := Network.Reachable.isRetry_iff resubmitted_reachable entered split
  refine ⟨rfl, Bool.eq_false_iff.mpr fun set => ?_⟩
  exact (flagged.mp set).2 ⟨rfl, _, rfl⟩

end Sample

end OutboundSms
