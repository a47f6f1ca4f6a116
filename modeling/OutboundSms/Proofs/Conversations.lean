import OutboundSms.Proofs.Attempts
import OutboundSms.Proofs.Contacts
import Mathlib.Data.ENat.Lattice

/-!
# Conversations with a link

What comes of a message on a link transport, worked out from the answers alone. Over PS the
number of leading retries decides: the conversation ends with the first other answer, or
falls back when the retries that the policy leaves are used up before. Over CS the first
answer decides. A transport on the bench, which waits in between, goes through the same
conversations.
-/

set_option autoImplicit false

namespace OutboundSms

/-! ### Leading retries -/

def LinkResponse.asksRetry : LinkResponse → Bool
  | .retry _ => true
  | .accepted | .rejected _ | .fallback => false

def LinkResponse.andThen (first : LinkResponse) (answers : Nat → LinkResponse) :
    Nat → LinkResponse
  | 0 => first
  | place + 1 => answers place

theorem LinkResponse.asksRetry_iff {response : LinkResponse} :
    response.asksRetry = true ↔ ∃ code, response = .retry code := by
  cases response with
  | retry code => simp [asksRetry]
  | accepted | rejected | fallback => simp [asksRetry]

/-- How many retries a link asks for before it first answers in another way. -/
noncomputable def leadingRetries (answers : Nat → LinkResponse) : ℕ∞ :=
  ⨅ place : { place : ℕ // (answers place).asksRetry = false }, (place : ℕ∞)

theorem lt_leadingRetries {answers : Nat → LinkResponse} {count : ℕ} :
    (count : ℕ∞) < leadingRetries answers ↔
      ∀ place ≤ count, (answers place).asksRetry = true := by
  rw [← ENat.add_one_le_iff (ENat.natCast_ne_top count), leadingRetries, le_iInf_iff]
  constructor
  · intro least place within
    by_contra settles
    have later := least ⟨place, by simpa using settles⟩
    have : count + 1 ≤ place := by exact_mod_cast later
    omega
  · rintro again ⟨place, settles⟩
    have later : ¬ place ≤ count := by
      intro within
      simp [again place within] at settles
    exact_mod_cast Nat.lt_of_not_le later

theorem leadingRetries_eq {answers : Nat → LinkResponse} {count : ℕ}
    (again : ∀ place < count, (answers place).asksRetry = true)
    (settles : (answers count).asksRetry = false) : leadingRetries answers = count := by
  apply le_antisymm
  · exact iInf_le (fun place : { place : ℕ // (answers place).asksRetry = false } =>
      ((place : ℕ) : ℕ∞)) ⟨count, settles⟩
  · rw [leadingRetries, le_iInf_iff]
    rintro ⟨place, other⟩
    have later : ¬ place < count := by
      intro before
      simp [again place before] at other
    exact_mod_cast Nat.le_of_not_lt later

/-! ### Steps of a conversation -/

section Steps

variable {domain : Domain} {format : SmsFormat} {policy : RetryPolicy}
  {answers : Nat → LinkResponse} {tracker next last : Tracker} {outcome : TransportOutcome}
  {registers : Option StatusCallback}

theorem drive_report
    (reaction : (answers 0).react domain policy tracker = .report last outcome registers) :
    drive domain format policy answers tracker =
      ⟨[.ofTracker tracker format], registers, last, outcome⟩ := by
  rw [drive]
  split <;> simp_all

theorem drive_handBack (reaction : (answers 0).react domain policy tracker = .handBack next) :
    drive domain format policy answers tracker =
      ⟨[.ofTracker tracker format], none, next, .retryRequested⟩ := by
  rw [drive]
  split <;> simp_all

theorem drive_resubmit (reaction : (answers 0).react domain policy tracker = .resubmit next) :
    drive domain format policy answers tracker =
      let rest := drive domain format policy (fun place => answers (place + 1)) next
      { rest with submissions := .ofTracker tracker format :: rest.submissions } := by
  rw [drive]
  split <;> simp_all

end Steps

/-! ### The bench -/

namespace LinkTransport

variable {link : LinkTransport} {tracker last : Tracker} {outcome : TransportOutcome}
  {stage reached : Bench.LinkStage} {submissions : List Submission}

/-- What is left of a conversation at a stage, as part of one that is driven to its end. -/
def Driven (link : LinkTransport) (run : LinkRun) : Bench.LinkStage → Prop
  | .submitting tracker => ∃ answers,
      drive link.domain link.format link.policy answers tracker = run
  | .answered tracker response => ∃ answers, answers 0 = response ∧
      drive link.domain link.format link.policy answers tracker =
        { run with submissions := .ofTracker tracker link.format :: run.submissions }
  | .handingBack tracker => run = ⟨[], none, tracker, .retryRequested⟩

theorem Finishes.driven (finishes : link.Finishes stage last outcome) :
    link.Driven ⟨[], link.registers stage, last, outcome⟩ stage := by
  cases finishes with
  | handedBack => rfl
  | @answered tracker _ response _ registers reaction =>
      have same : link.registers (.answered tracker response) = registers := by
        simp only [LinkTransport.registers, reaction]
      rw [same]
      exact ⟨fun _ => response, rfl, drive_report reaction⟩

theorem Advances.driven {made : List Submission} {next : Bench.LinkStage} {run : LinkRun}
    (advances : link.Advances stage made next) (driven : link.Driven run next) :
    link.Driven { run with submissions := made ++ run.submissions } stage := by
  cases advances with
  | submitted tracker response =>
      obtain ⟨answers, -, driven⟩ := driven
      exact ⟨answers, driven⟩
  | @resubmits tracker next response reaction =>
      obtain ⟨answers, rfl⟩ := driven
      exact ⟨response.andThen answers, rfl, drive_resubmit reaction⟩
  | @handsBack tracker next response reaction =>
      cases driven
      exact ⟨fun _ => response, rfl, drive_handBack reaction⟩

theorem Converses.driven (converses : link.Converses stage submissions reached)
    (finishes : link.Finishes reached last outcome) :
    link.Driven ⟨submissions, link.registers reached, last, outcome⟩ stage := by
  induction converses with
  | rest => exact finishes.driven
  | next advances _ ih => exact advances.driven (ih finishes)

/-- The conversations of a transport on the bench are those that are driven to their end. -/
theorem converses_iff_drive (link : LinkTransport) (tracker : Tracker) (run : LinkRun) :
    (∃ reached, link.Converses (.submitting tracker) run.submissions reached ∧
      link.registers reached = run.registered ∧
      link.Finishes reached run.tracker run.outcome) ↔
    ∃ answers, drive link.domain link.format link.policy answers tracker = run := by
  constructor
  · rintro ⟨reached, converses, registers, finishes⟩
    have driven := converses.driven finishes
    rw [registers] at driven
    exact driven
  · rintro ⟨answers, rfl⟩
    obtain ⟨domain, format, policy, ownsRefs⟩ := link
    fun_induction drive domain format policy answers tracker with
    | case1 answers tracker submission last outcome registered reaction =>
        refine ⟨_, .next (.submitted tracker (answers 0)) .rest, ?_, .answered reaction⟩
        simp only [LinkTransport.registers, reaction]
    | case2 answers tracker submission next reaction =>
        exact ⟨_, .next (.submitted tracker (answers 0)) (.next (.handsBack reaction) .rest), rfl,
          .handedBack next⟩
    | case3 answers tracker submission next reaction rest ih =>
        obtain ⟨reached, converses, ending⟩ := ih
        exact ⟨reached, .next (.submitted tracker (answers 0))
          (.next (.resubmits reaction) converses), ending⟩

end LinkTransport

/-! ### What comes of a message -/

/-- The submission of a message after so many retries of one conversation. -/
def Tracker.submissionAt (format : SmsFormat) (tracker : Tracker) (place : Nat) : Submission :=
  { Submission.ofTracker tracker format with
    isRetry := decide (0 < tracker.retryCount.toNat + place) }

/-- The conversation about `given` makes so many submissions, counts so many retries and ends
with the outcome. Nothing else becomes of the tracker, but that an acceptance may take the
delivery callback from it. -/
structure LinkRun.Gives (run : LinkRun) (given : Tracker) (format : SmsFormat)
    (submitted retried : Nat) (outcome : TransportOutcome) : Prop where
  submissions_eq : run.submissions = (List.range submitted).map (given.submissionAt format)
  outcome_eq : run.outcome = outcome
  retryCount_eq : run.tracker.retryCount.toNat = given.retryCount.toNat + retried
  registered_eq : run.registered = if outcome = .sent then given.statusCallback? else none
  tracker_eq : run.tracker =
    { (if outcome = .sent then given.afterAcceptance else given) with
      retryCount := run.tracker.retryCount }

theorem Tracker.submissionAt_zero (format : SmsFormat) (tracker : Tracker) :
    tracker.submissionAt format 0 = .ofTracker tracker format := by
  have flag : decide (0 < tracker.retryCount.toNat + 0) = decide (0 < tracker.retryCount) := by
    simp [UInt32.lt_iff_toNat_lt]
  rw [submissionAt, flag]
  rfl

theorem Tracker.afterAcceptance_countRetry (tracker : Tracker) :
    tracker.countRetry.afterAcceptance = tracker.afterAcceptance.countRetry := by
  have same : tracker.countRetry.statusCallback? = tracker.statusCallback? := rfl
  rw [afterAcceptance, afterAcceptance, same]
  split <;> rfl

theorem RetryPolicy.allows_iff {policy : RetryPolicy} {tracker : Tracker} :
    policy.allows tracker.retryCount = true ↔ 0 < policy.remaining tracker := by
  rw [allows, decide_eq_true_iff, UInt32.lt_iff_toNat_lt, remaining]
  omega

namespace LinkRun.Gives

variable {run : LinkRun} {domain : Domain} {format : SmsFormat} {policy : RetryPolicy}
  {answers : Nat → LinkResponse} {tracker : Tracker} {outcome : TransportOutcome}
  {submitted retried : Nat}

theorem outcome_ne {other : TransportOutcome}
    (gives : run.Gives tracker format submitted retried outcome) (different : outcome ≠ other) :
    run.outcome ≠ other := by
  rw [gives.outcome_eq]
  exact different

theorem once {registers : Option StatusCallback} {last : Tracker}
    (counted : last.retryCount.toNat = tracker.retryCount.toNat + retried)
    (registered : registers = if outcome = .sent then tracker.statusCallback? else none)
    (same : last = { (if outcome = .sent then tracker.afterAcceptance else tracker) with
      retryCount := last.retryCount }) :
    Gives ⟨[.ofTracker tracker format], registers, last, outcome⟩ tracker format 1 retried
      outcome where
  submissions_eq := by
    rw [← tracker.submissionAt_zero format]
    rfl
  outcome_eq := rfl
  retryCount_eq := counted
  registered_eq := registered
  tracker_eq := same

theorem once_counted (allowed : policy.allows tracker.retryCount = true)
    (unsent : outcome ≠ .sent) :
    Gives ⟨[.ofTracker tracker format], none, tracker.countRetry, outcome⟩ tracker format 1 1
      outcome := by
  apply once (Attempts.retryCount_countRetry allowed).1
  · rw [if_neg unsent]
  · rw [if_neg unsent]
    rfl

/-- A report of the tracker as it is, which is never one of a message sent. -/
theorem of_unchanged (reaction : (answers 0).react domain policy tracker =
      .report tracker outcome none) (unsent : outcome ≠ .sent) :
    (drive domain format policy answers tracker).Gives tracker format 1 0 outcome := by
  rw [drive_report reaction]
  apply once rfl
  · rw [if_neg unsent]
  · rw [if_neg unsent]

theorem of_accepted (heard : answers 0 = .accepted) :
    (drive domain format policy answers tracker).Gives tracker format 1 0 .sent := by
  have reaction : (answers 0).react domain policy tracker =
      .report tracker.afterAcceptance .sent tracker.statusCallback? := by
    rw [heard]
    rfl
  have same : tracker.afterAcceptance.retryCount = tracker.retryCount := by
    unfold Tracker.afterAcceptance
    split <;> rfl
  rw [drive_report reaction]
  exact once (by rw [same]; rfl) rfl rfl

theorem of_rejected {code : ResultCode} (heard : answers 0 = .rejected code) :
    (drive domain format policy answers tracker).Gives tracker format 1 0 (.failed code) := by
  refine of_unchanged ?_ nofun
  rw [heard]
  rfl

theorem of_fallback (heard : answers 0 = .fallback) :
    (drive .ps format policy answers tracker).Gives tracker format 1
      (if 0 < policy.remaining tracker then 1 else 0) .fallback := by
  by_cases allowed : policy.allows tracker.retryCount = true
  · have reaction : (answers 0).react .ps policy tracker =
        .report tracker.countRetry .fallback none := by
      simp [heard, LinkResponse.react, allowed]
    rw [drive_report reaction, if_pos (RetryPolicy.allows_iff.mp allowed)]
    exact once_counted allowed nofun
  · rw [if_neg (mt RetryPolicy.allows_iff.mpr allowed)]
    refine of_unchanged ?_ nofun
    simp [heard, LinkResponse.react, allowed]

theorem of_refused {code : ResultCode} (heard : answers 0 = .retry code)
    (refused : policy.remaining tracker = 0) :
    (drive .ps format policy answers tracker).Gives tracker format 1 0 .fallback := by
  have forbidden : ¬ policy.allows tracker.retryCount = true := by
    rw [RetryPolicy.allows_iff]
    omega
  refine of_unchanged ?_ nofun
  simp [heard, LinkResponse.react, forbidden]

theorem resubmitted (allowed : policy.allows tracker.retryCount = true)
    (gives : run.Gives tracker.countRetry format submitted retried outcome) :
    LinkRun.Gives { run with submissions := .ofTracker tracker format :: run.submissions }
      tracker format (submitted + 1) (retried + 1) outcome := by
  have counted := (Attempts.retryCount_countRetry allowed).1
  constructor
  case submissions_eq =>
    -- One retry more has been counted before each of them, and one submission less made.
    have shifted (place : Nat) : tracker.countRetry.submissionAt format place =
        tracker.submissionAt format (place + 1) := by
      rw [Tracker.submissionAt, Tracker.submissionAt, counted, Nat.add_assoc, Nat.add_comm 1]
      rfl
    rw [gives.submissions_eq, List.range_succ_eq_map, List.map_cons, List.map_map,
      tracker.submissionAt_zero]
    exact congrArg _ (List.map_congr_left fun place _ => shifted place)
  case outcome_eq => exact gives.outcome_eq
  case retryCount_eq =>
    have later := gives.retryCount_eq
    show run.tracker.retryCount.toNat = _
    omega
  case registered_eq =>
    rw [gives.registered_eq]
    rfl
  case tracker_eq =>
    have kept := gives.tracker_eq
    show run.tracker = _
    rw [kept, tracker.afterAcceptance_countRetry]
    split <;> rfl

/-- Leading retries over PS, as long as the policy leaves some, come before a conversation
about the tracker with all of them counted. -/
theorem after_retries (format : SmsFormat) {asked : Nat}
    (within : asked ≤ policy.remaining tracker)
    (again : ∀ place < asked, (answers place).asksRetry = true) :
    ∃ last : Tracker, policy.remaining last = policy.remaining tracker - asked ∧
      ∀ {submitted retried outcome},
        (drive .ps format policy (fun place => answers (place + asked)) last).Gives last format
            submitted retried outcome →
          (drive .ps format policy answers tracker).Gives tracker format
            (asked + submitted) (asked + retried) outcome := by
  induction asked generalizing answers tracker with
  | zero =>
      refine ⟨tracker, rfl, ?_⟩
      intro submitted retried outcome gives
      rwa [Nat.zero_add, Nat.zero_add]
  | succ asked ih =>
      have allowed : policy.allows tracker.retryCount = true :=
        RetryPolicy.allows_iff.mpr (Nat.lt_of_lt_of_le (Nat.succ_pos asked) within)
      obtain ⟨code, first⟩ := LinkResponse.asksRetry_iff.mp (again 0 (Nat.succ_pos asked))
      have reaction : (answers 0).react .ps policy tracker = .resubmit tracker.countRetry := by
        simp [first, LinkResponse.react, allowed]
      have left := RetryPolicy.remaining_countRetry allowed
      obtain ⟨last, remains, settles⟩ := @ih (fun place => answers (place + 1))
        tracker.countRetry (by omega) (fun place before => again _ (Nat.succ_lt_succ before))
      refine ⟨last, by omega, ?_⟩
      intro submitted retried outcome gives
      rw [drive_resubmit reaction, Nat.add_right_comm asked 1 submitted,
        Nat.add_right_comm asked 1 retried]
      exact resubmitted allowed (settles gives)

end LinkRun.Gives

section Reference

variable (format : SmsFormat) (policy : RetryPolicy) (answers : Nat → LinkResponse)
  (tracker : Tracker)

/-- What a conversation over PS comes to, by the number of leading retries. -/
def LinkRun.SettlesPs (run : LinkRun) : Prop :=
  let left := policy.remaining tracker
  (left < leadingRetries answers ∧ run.Gives tracker format (left + 1) left .fallback) ∨
    ∃ asked : ℕ, leadingRetries answers = asked ∧ asked ≤ left ∧
      match answers asked with
      | .accepted => run.Gives tracker format (asked + 1) asked .sent
      | .rejected code => run.Gives tracker format (asked + 1) asked (.failed code)
      | .fallback =>
          run.Gives tracker format (asked + 1) (if asked < left then asked + 1 else asked)
            .fallback
      | .retry _ => False

/-- What a conversation over CS comes to, by the first answer. -/
def LinkRun.SettlesCs (run : LinkRun) : Prop :=
  match answers 0 with
  | .accepted => run.Gives tracker format 1 0 .sent
  | .rejected code => run.Gives tracker format 1 0 (.failed code)
  | .fallback => run.Gives tracker format 1 0 (.failed .genericFailure)
  | .retry code =>
      if tracker.retryCount.toNat < policy.maxRetries.toNat then
        run.Gives tracker format 1 1 .retryRequested
      else run.Gives tracker format 1 0 (.failed code)

theorem settlesPs_drive :
    (drive .ps format policy answers tracker).SettlesPs format policy answers tracker := by
  by_cases endless : ∀ place ≤ policy.remaining tracker, (answers place).asksRetry = true
  · -- The policy has no retry left for the last of these answers.
    obtain ⟨last, remains, settles⟩ := LinkRun.Gives.after_retries format le_rfl
      fun place before => endless place (Nat.le_of_lt before)
    obtain ⟨code, heard⟩ := LinkResponse.asksRetry_iff.mp (endless _ le_rfl)
    have first : (fun place => answers (place + policy.remaining tracker)) 0 = .retry code := by
      simpa using heard
    have gives := settles (.of_refused first (by omega))
    exact .inl ⟨lt_leadingRetries.mpr endless, gives⟩
  · simp only [not_forall, Bool.not_eq_true] at endless
    have other : ∃ place, (answers place).asksRetry = false := by
      obtain ⟨place, -, settled⟩ := endless
      exact ⟨place, settled⟩
    have within : Nat.find other ≤ policy.remaining tracker := by
      obtain ⟨place, within, settled⟩ := endless
      exact (Nat.find_min' other settled).trans within
    have again (place : ℕ) (before : place < Nat.find other) :
        (answers place).asksRetry = true := by
      simpa using Nat.find_min other before
    obtain ⟨last, remains, settles⟩ := LinkRun.Gives.after_retries format within again
    have first : (fun place => answers (place + Nat.find other)) 0 =
        answers (Nat.find other) := by
      simp
    refine .inr ⟨Nat.find other, leadingRetries_eq again (Nat.find_spec other), within, ?_⟩
    cases heard : answers (Nat.find other) with
    | accepted =>
        have gives := settles (.of_accepted (first.trans heard))
        exact gives
    | rejected code =>
        have gives := settles (.of_rejected (first.trans heard))
        exact gives
    | fallback =>
        have gives := settles (.of_fallback (first.trans heard))
        rw [remains] at gives
        show LinkRun.Gives _ tracker format _ (if _ then _ else _) .fallback
        by_cases spare : Nat.find other < policy.remaining tracker
        · rw [if_pos (by omega)] at gives
          rw [if_pos spare]
          exact gives
        · rw [if_neg (by omega)] at gives
          rw [if_neg spare]
          exact gives
    | retry code =>
        have settled := Nat.find_spec other
        rw [heard] at settled
        cases settled

theorem settlesCs_drive :
    (drive .cs format policy answers tracker).SettlesCs format policy answers tracker := by
  unfold LinkRun.SettlesCs
  cases heard : answers 0 with
  | accepted => exact .of_accepted heard
  | rejected code => exact .of_rejected heard
  | fallback =>
      refine .of_unchanged ?_ nofun
      rw [heard]
      rfl
  | retry code =>
      show if tracker.retryCount.toNat < policy.maxRetries.toNat then _ else _
      by_cases spare : tracker.retryCount.toNat < policy.maxRetries.toNat
      · have allowed : policy.allows tracker.retryCount = true := by
          rw [RetryPolicy.allows_iff, RetryPolicy.remaining]
          omega
        have reaction : (answers 0).react .cs policy tracker = .handBack tracker.countRetry := by
          simp [heard, LinkResponse.react, allowed]
        rw [if_pos spare, drive_handBack reaction]
        exact .once_counted allowed nofun
      · have forbidden : ¬ policy.allows tracker.retryCount = true := by
          rw [RetryPolicy.allows_iff, RetryPolicy.remaining]
          omega
        rw [if_neg spare]
        refine .of_unchanged ?_ nofun
        simp [heard, LinkResponse.react, forbidden]

variable {format policy answers tracker} {run : LinkRun}

theorem LinkRun.SettlesPs.outcome_ne (settles : run.SettlesPs format policy answers tracker) :
    run.outcome ≠ .retryRequested := by
  rcases settles with ⟨-, gives⟩ | ⟨asked, -, -, gives⟩
  · exact gives.outcome_ne nofun
  · split at gives
    · exact gives.outcome_ne nofun
    · exact gives.outcome_ne nofun
    · exact gives.outcome_ne nofun
    · exact gives.elim

theorem LinkRun.SettlesCs.outcome_ne (settles : run.SettlesCs format policy answers tracker) :
    run.outcome ≠ .fallback := by
  unfold SettlesCs at settles
  split at settles
  · exact settles.outcome_ne nofun
  · exact settles.outcome_ne nofun
  · exact settles.outcome_ne nofun
  · split at settles
    · exact settles.outcome_ne nofun
    · exact settles.outcome_ne nofun

end Reference

/-- Whatever the link answers, a conversation ends as is worked out from the answers: over PS
it never asks the controller for a retry, and over CS never for a fallback. A transport on
the bench, whichever waits come in between, has these conversations and no others. -/
theorem conversation_settles (domain : Domain) (format : SmsFormat) (policy : RetryPolicy)
    (answers : Nat → LinkResponse) (tracker : Tracker) :
    let run := drive domain format policy answers tracker
    (match domain with
      | .ps => run.SettlesPs format policy answers tracker ∧ run.outcome ≠ .retryRequested
      | .cs => run.SettlesCs format policy answers tracker ∧ run.outcome ≠ .fallback) ∧
    ∀ (ownsRefs : Bool) (other : LinkRun),
      let link : LinkTransport := { domain, format, policy, ownsRefs }
      (∃ reached, link.Converses (.submitting tracker) other.submissions reached ∧
        link.registers reached = other.registered ∧
        link.Finishes reached other.tracker other.outcome) ↔
      ∃ heard, drive domain format policy heard tracker = other := by
  constructor
  · cases domain with
    | ps =>
        have settles := settlesPs_drive format policy answers tracker
        exact ⟨settles, settles.outcome_ne⟩
    | cs =>
        have settles := settlesCs_drive format policy answers tracker
        exact ⟨settles, settles.outcome_ne⟩
  · intro ownsRefs other
    exact LinkTransport.converses_iff_drive ⟨domain, format, policy, ownsRefs⟩ tracker other

/-- A link that asks for nothing but retries is given as many as the policy has. -/
theorem Sample.insistent_settles :
    let tracker := Controller.admitted surroundings (request 1)
    let run := drive .ps .threeGpp ⟨2, 0⟩ (fun _ => .retry .networkError) tracker
    run.submissions.map (·.isRetry) = [false, true, true] ∧ run.outcome = .fallback ∧
      run.tracker.retryCount.toNat = 2 := by
  intro tracker run
  obtain ⟨⟨settles, -⟩, -⟩ := conversation_settles .ps .threeGpp ⟨2, 0⟩
    (fun _ => .retry .networkError) tracker
  rcases settles with ⟨-, gives⟩ | ⟨asked, -, -, ended⟩
  · have flags := congrArg (List.map Submission.isRetry) gives.submissions_eq
    exact ⟨flags, gives.outcome_eq, gives.retryCount_eq⟩
  · exact ended.elim

end OutboundSms
