import Mathlib.Data.Multiset.Bind
import Mathlib.Tactic.Abel
import OutboundSms.Proofs.Ledger
import OutboundSms.Proofs.Network

/-!
# How the matters of a simulation are settled

What holds of every matter on the ledger of a simulation, who is accounted for, and
that a class which selects has somebody who brings the selection to its end. A step
keeps all of this, and so does a run.
-/

set_option autoImplicit false

namespace OutboundSms

/-- The tracker of a message that can be encoded and whose sender waits for both its
callbacks. -/
structure Tracker.Whole (tracker : Tracker) : Prop where
  wellFormed : tracker.payload.isWellFormed = true
  awaitsSent : tracker.awaitsSent = true
  awaitsDelivery : tracker.awaitsDelivery = true

namespace SimulatorConfig

variable {config : SimulatorConfig} {given tracker : Tracker}

/-- The reference that the tracker may have is in the range of the simulation. -/
def Bounds (config : SimulatorConfig) (tracker : Tracker) : Prop :=
  ∀ messageRef, tracker.messageRef = some messageRef → config.InRange messageRef.toNat

theorem Refers.bounds (refers : config.Refers tracker) : config.Bounds tracker := by
  obtain ⟨messageRef, has, within⟩ := refers
  intro other same
  obtain rfl := Option.some.inj (has.symm.trans same)
  exact within

/-- A failure that the scripts explain: a link rejected the message with the code, the
modem kept asking for retries with it, or asked for a fallback that it cannot have. -/
def Explains (config : SimulatorConfig) (code : ResultCode) : Prop :=
  .rejected code ∈ config.ims.responses ++ config.cs.responses ∨
    .retry code ∈ config.cs.responses ∨
      code = .genericFailure ∧ .fallback ∈ config.cs.responses

theorem slot_injective {first second : Domain} (same : config.slot first = config.slot second) :
    first = second := by
  cases first <;> cases second <;> first | rfl | cases same

theorem Launches.whole (launches : config.Launches given tracker) (whole : given.Whole) :
    tracker.Whole where
  wellFormed := by
    rw [show tracker.payload = given.payload from congrArg Message.payload launches.message_eq]
    exact whole.wellFormed
  awaitsSent := by
    rw [show tracker.awaitsSent = given.awaitsSent from
      congrArg Message.awaitsSent launches.message_eq]
    exact whole.awaitsSent
  awaitsDelivery := launches.awaitsDelivery_eq.trans whole.awaitsDelivery

theorem Launches.ticket_eq (launches : config.Launches given tracker) :
    tracker.ticket = given.ticket :=
  congrArg Message.ticket launches.message_eq

end SimulatorConfig

/-! ### What is true of every matter -/

/-- What an outcome says of the tracker that comes with it. -/
def TransportOutcome.Sound (config : SimulatorConfig) (tracker : Tracker) (domain : Domain) :
    TransportOutcome → Prop
  | .sent => True
  | .failed code => config.Explains code
  | .fallback => domain = .ps ∧ tracker.Whole
  | .retryRequested => tracker.Whole

def Command.Sound (config : SimulatorConfig) : Command → Prop
  | .submit _ request =>
      request.payload.isWellFormed = true ∧ request.reportsSent = true ∧
        request.reportsDelivery = true
  | .outcome tracker domain result =>
      tracker.awaitsSent = true ∧ config.Refers tracker ∧ result.Sound config tracker domain
  | .selectionCompleted _ _ _ | .selectionTerminated _ _ _ => True
  | _ => False

def Receipt.Sound (config : SimulatorConfig) : Receipt → Prop
  | .sent _ (.sent messageRef) =>
      ∃ reference, messageRef = some reference ∧ config.InRange reference.toNat
  | .sent _ (.failed code) => config.Explains code
  | .delivered _ report => report.delivered = true
  | _ => True

theorem Command.Routes.whole {config : SimulatorConfig} {command : Command} {tracker : Tracker}
    (routes : command.Routes tracker) (sound : command.Sound config) : tracker.Whole := by
  cases routes with
  | submitted kind request emergency => exact ⟨sound.1, sound.2.1, sound.2.2⟩
  | again tracker domain => exact sound.2.2

theorem Command.Routes.bounds {config : SimulatorConfig} {command : Command} {tracker : Tracker}
    (routes : command.Routes tracker) (sound : command.Sound config) : config.Bounds tracker := by
  cases routes with
  | submitted kind request emergency => exact nofun
  | again tracker domain => exact sound.2.1.bounds

theorem Command.Ends.sound {config : SimulatorConfig} {command : Command}
    {trafficClass : TrafficClass} {connection : ConnectionId}
    (ends : command.Ends trafficClass connection) : command.Sound config := by
  cases ends <;> trivial

namespace Bench

/-- The answer stands in the script of the link, or is the one it gives without a script. -/
def LinkStage.Sound (config : SimulatorConfig) (domain : Domain) : LinkStage → Prop
  | .answered _ response => response = .accepted ∨ response ∈ (config.linkScript domain).responses
  | _ => True

def Errand.Sound (config : SimulatorConfig) : Errand → Prop
  | .proceed slot stage => stage.tracker.Whole ∧ config.Refers stage.tracker ∧
      ∃ domain, slot = config.slot domain ∧ stage.Sound config domain
  | .post command => ∃ trafficClass connection, command.Ends trafficClass connection
  | .serve | .awaitDecision _ | .decide _ _ | .confirm _ => True

def Matter.Sound (config : SimulatorConfig) : Matter → Prop
  | .command queued => queued.Sound config
  | .waiting tracker => tracker.Whole ∧ config.Bounds tracker
  | .errand work _ => work.Sound config
  | .handling => True

/-- What the ledger of a simulation has is in order. -/
structure Ledger.Sound (config : SimulatorConfig) (ledger : Ledger) : Prop where
  matters : ∀ matter ∈ ledger.matters, matter.Sound config
  script : ∀ domain, ledger.script domain ⊆ (config.linkScript domain).responses
  receipts : ∀ receipt ∈ ledger.receipts, receipt.Sound config

variable {config : SimulatorConfig} {ledger after : Ledger}

theorem Posts.sound {command : Command} {rest made : Multiset Matter}
    (posts : Posts command rest made) (sound : command.Sound config)
    (remaining : ∀ matter ∈ rest, matter.Sound config) :
    ∀ matter ∈ made, matter.Sound config := by
  cases posts with
  | woken => exact Multiset.forall_mem_cons.mpr ⟨sound, Multiset.forall_mem_cons.mpr
      ⟨trivial, remaining⟩⟩
  | awake => exact Multiset.forall_mem_cons.mpr ⟨sound, remaining⟩

/-- A link transport reports what its link has given it reason to. -/
theorem sound_of_report {domain : Domain} {tracker last : Tracker} {response : LinkResponse}
    {outcome : TransportOutcome} {registers : Option StatusCallback}
    (sound : (Errand.proceed (config.slot domain) (.answered tracker response)).Sound config)
    (reaction : response.react domain (.ofDomain config.dispatch domain) tracker =
      .report last outcome registers) :
    (Command.outcome last domain outcome).Sound config := by
  obtain ⟨whole, refers, other, same, source⟩ := sound
  obtain rfl := config.slot_injective same
  have scripted (never : response ≠ .accepted) :
      response ∈ (config.linkScript domain).responses := source.resolve_left never
  cases response with
  | accepted =>
      obtain ⟨rfl, rfl, -⟩ := LinkReaction.report.inj reaction
      unfold Tracker.afterAcceptance
      split
      · exact ⟨whole.awaitsSent, refers, trivial⟩
      · exact ⟨whole.awaitsSent, refers, trivial⟩
  | rejected code =>
      obtain ⟨rfl, rfl, -⟩ := LinkReaction.report.inj reaction
      refine ⟨whole.awaitsSent, refers, .inl ?_⟩
      cases domain with
      | ps => exact List.mem_append_left _ (scripted (by simp))
      | cs => exact List.mem_append_right _ (scripted (by simp))
  | retry code =>
      cases domain with
      | ps =>
          simp only [LinkResponse.react] at reaction
          split at reaction <;> cases reaction
          exact ⟨whole.awaitsSent, refers, rfl, whole⟩
      | cs =>
          simp only [LinkResponse.react] at reaction
          split at reaction <;> cases reaction
          exact ⟨whole.awaitsSent, refers, .inr (.inl (scripted (by simp)))⟩
  | fallback =>
      cases domain with
      | ps =>
          simp only [LinkResponse.react] at reaction
          split at reaction <;> cases reaction
          · exact ⟨whole.awaitsSent, refers, rfl, whole.1, whole.2, whole.3⟩
          · exact ⟨whole.awaitsSent, refers, rfl, whole⟩
      | cs =>
          cases reaction
          exact ⟨whole.awaitsSent, refers, .inr (.inr ⟨rfl, scripted (by simp)⟩)⟩

theorem sound_confirmations (registers : Option StatusCallback) (lead : Nat) :
    ∀ matter ∈ confirmations registers lead, matter.Sound config := by
  cases registers with
  | none => exact fun _ member => (Multiset.notMem_zero _ member).elim
  | some callback =>
      intro matter member
      obtain rfl := Multiset.mem_singleton.mp member
      trivial

namespace Ledger

theorem sound_finish {tracker : Tracker} {outcome : TransportOutcome} {result : SendResult}
    {domain : Domain} (ends : outcome.Ends tracker result)
    (sound : (Command.outcome tracker domain outcome).Sound config) :
    ∀ receipt ∈ tracker.finish result, receipt.Sound config := by
  have told : (Receipt.sent tracker.ticket result).Sound config := by
    cases ends with
    | sent => exact sound.2.1
    | failed code => exact sound.2.2
  intro receipt member
  simp only [Tracker.finish, List.mem_append] at member
  rcases member with first | second
  · split at first
    · exact List.mem_singleton.mp first ▸ told
    · cases first
  · split at second
    · exact List.mem_singleton.mp second ▸ trivial
    · cases second

/-- Every step keeps the ledger in order. -/
theorem Sound.step (sound : ledger.Sound config) (step : ledger.Step config after) :
    after.Sound config := by
  have split {matter : Matter} {rest : Multiset Matter} (there : ledger.matters = matter ::ₘ rest) :
      matter.Sound config ∧ ∀ other ∈ rest, other.Sound config :=
    Multiset.forall_mem_cons.mp (there ▸ sound.matters)
  have joined {first second : Multiset Matter} (one : ∀ matter ∈ first, matter.Sound config)
      (other : ∀ matter ∈ second, matter.Sound config) :
      ∀ matter ∈ first + second, matter.Sound config :=
    fun matter member => (Multiset.mem_add.mp member).elim (one matter) (other matter)
  have added {receipts : List Receipt} (new : ∀ receipt ∈ receipts, receipt.Sound config) :
      ∀ receipt ∈ ledger.receipts ++ receipts, receipt.Sound config :=
    fun receipt member => (List.mem_append.mp member).elim (sound.receipts receipt) (new receipt)
  cases step with
  | neared there =>
      obtain ⟨work, rest⟩ := split there
      exact ⟨Multiset.forall_mem_cons.mpr ⟨work, rest⟩, sound.script, sound.receipts⟩
  | served there =>
      exact ⟨Multiset.forall_mem_cons.mpr ⟨trivial, (split there).2⟩, sound.script, sound.receipts⟩
  | rested there => exact ⟨(split there).2, sound.script, sound.receipts⟩
  | completed there ends =>
      obtain ⟨told, rest⟩ := split there
      exact ⟨rest, sound.script, added (sound_finish ends told)⟩
  | @launched rest command given domain tracker there brings launches =>
      obtain ⟨brought, rest⟩ := split there
      have whole : given.Whole := by
        rcases brings with routes | rfl
        · exact routes.whole brought
        · exact brought.2.2.2
      have flying : (Errand.proceed (config.slot domain) (.submitting tracker)).Sound config :=
        ⟨launches.whole whole, launches.refers, domain, rfl, trivial⟩
      exact ⟨Multiset.forall_mem_cons.mpr ⟨flying, rest⟩, sound.script, sound.receipts⟩
  | joined there routes =>
      obtain ⟨brought, rest⟩ := split there
      exact ⟨Multiset.forall_mem_cons.mpr ⟨⟨routes.whole brought, routes.bounds brought⟩, rest⟩,
        sound.script, sound.receipts⟩
  | opened there routes vacant next own script unanswered going attended awaits =>
      obtain ⟨brought, rest⟩ := split there
      refine ⟨Multiset.forall_mem_cons.mpr ⟨⟨routes.whole brought, routes.bounds brought⟩,
        Multiset.forall_mem_cons.mpr ⟨trivial, joined ?_ rest⟩⟩, sound.script, sound.receipts⟩
      cases awaits with
      | answer => exact fun _ member => (Multiset.notMem_zero _ member).elim
      | termination =>
          intro matter member
          obtain rfl := Multiset.mem_singleton.mp member
          exact ⟨_, _, .terminated _⟩
  | @drained rest command trafficClass connection woken change departures ends there current going
      launches waking =>
      obtain ⟨-, remaining⟩ := split there
      have waited (departure : Departure) (member : departure ∈ departures) :
          departure.given.Whole :=
        (remaining _ (Multiset.mem_add.mpr (.inl (Multiset.mem_map_of_mem _ member)))).1
      refine ⟨joined ?_ (joined ?_ fun matter member =>
        remaining matter (Multiset.mem_add.mpr (.inr member))), sound.script, sound.receipts⟩
      · intro matter member
        obtain ⟨departure, among, rfl⟩ := Multiset.mem_map.mp member
        have launched := launches departure among
        exact ⟨launched.whole (waited departure among), launched.refers, departure.domain, rfl,
          trivial⟩
      · rcases waking with rfl | rfl
        · exact fun _ member => (Multiset.notMem_zero _ member).elim
        · intro matter member
          obtain rfl := Multiset.mem_singleton.mp member
          trivial
  | ignored ends there => exact ⟨(split there).2, sound.script, sound.receipts⟩
  | @answered rest domain tracker response more lead there script =>
      obtain ⟨⟨whole, refers, -⟩, rest⟩ := split there
      have source := sound.script domain
      rw [script] at source
      have flying :
          (Errand.proceed (config.slot domain) (.answered tracker response)).Sound config :=
        ⟨whole, refers, domain, rfl, .inr (source List.mem_cons_self)⟩
      refine ⟨Multiset.forall_mem_cons.mpr ⟨flying, rest⟩, fun other => ?_, sound.receipts⟩
      by_cases same : other = domain
      · subst same
        simpa using (List.cons_subset.mp source).2
      · simpa [Function.update_of_ne same] using sound.script other
  | @accepted rest domain tracker lead there =>
      obtain ⟨⟨whole, refers, -⟩, rest⟩ := split there
      have flying :
          (Errand.proceed (config.slot domain) (.answered tracker .accepted)).Sound config :=
        ⟨whole, refers, domain, rfl, .inl rfl⟩
      exact ⟨Multiset.forall_mem_cons.mpr ⟨flying, rest⟩, sound.script, sound.receipts⟩
  | @repeated rest domain tracker response next lead there reaction =>
      obtain ⟨⟨whole, refers, -⟩, rest⟩ := split there
      obtain ⟨-, rfl⟩ := LinkResponse.react_eq_resubmit reaction
      have flying : (Errand.proceed (config.slot domain)
          (.submitting tracker.countRetry)).Sound config :=
        ⟨⟨whole.1, whole.2, whole.3⟩, refers, domain, rfl, trivial⟩
      exact ⟨Multiset.forall_mem_cons.mpr ⟨flying, rest⟩, sound.script, sound.receipts⟩
  | @returned rest domain tracker response next lead there reaction =>
      obtain ⟨⟨whole, refers, -⟩, rest⟩ := split there
      obtain ⟨-, -, rfl⟩ := LinkResponse.react_eq_handBack reaction
      have flying : (Errand.proceed (config.slot domain)
          (.handingBack tracker.countRetry)).Sound config :=
        ⟨⟨whole.1, whole.2, whole.3⟩, refers, domain, rfl, trivial⟩
      exact ⟨Multiset.forall_mem_cons.mpr ⟨flying, rest⟩, sound.script, sound.receipts⟩
  | reported there reaction short posts =>
      obtain ⟨flying, rest⟩ := split there
      exact ⟨posts.sound (sound_of_report flying reaction)
        (joined (sound_confirmations _ _) rest), sound.script, sound.receipts⟩
  | handedBack there posts =>
      obtain ⟨⟨whole, refers, -⟩, rest⟩ := split there
      exact ⟨posts.sound ⟨whole.awaitsSent, refers, whole⟩ rest, sound.script, sound.receipts⟩
  | confirmed there delivered =>
      refine ⟨(split there).2, sound.script, added fun receipt member => ?_⟩
      exact List.mem_singleton.mp member ▸ delivered
  | asked there =>
      exact ⟨Multiset.forall_mem_cons.mpr ⟨trivial, (split there).2⟩, sound.script, sound.receipts⟩
  | parked there => exact ⟨(split there).2, sound.script, sound.receipts⟩
  | decided there found posts =>
      exact ⟨posts.sound trivial (split there).2, sound.script, sound.receipts⟩
  | dismissed there => exact ⟨(split there).2, sound.script, sound.receipts⟩
  | posted there ends posts =>
      exact ⟨posts.sound ends.sound (split there).2, sound.script, sound.receipts⟩

end Ledger

/-! ### Who is accounted for -/

def Command.tickets : Command → Multiset Ticket
  | .submit _ request => {request.ticket}
  | .outcome tracker _ _ => {tracker.ticket}
  | _ => 0

def Errand.tickets : Errand → Multiset Ticket
  | .proceed _ stage => {stage.tracker.ticket}
  | _ => 0

/-- The message that the matter is about. -/
def Matter.tickets : Matter → Multiset Ticket
  | .command queued => Command.tickets queued
  | .waiting tracker => {tracker.ticket}
  | .errand work _ => work.tickets
  | .handling => 0

def Errand.confirms : Errand → Multiset Ticket
  | .confirm callback => {callback.ticket}
  | _ => 0

/-- The message that the matter is to report as delivered. -/
def Matter.confirms : Matter → Multiset Ticket
  | .errand work _ => work.confirms
  | _ => 0

def Command.succeeds : Command → Multiset Ticket
  | .outcome tracker _ .sent => {tracker.ticket}
  | _ => 0

/-- The message that the matter is to report as sent. -/
def Matter.succeeds : Matter → Multiset Ticket
  | .command queued => Command.succeeds queued
  | _ => 0

def delivered? : Receipt → Option Ticket
  | .delivered ticket _ => some ticket
  | _ => none

def success? : Receipt → Option Ticket
  | .sent ticket (.sent _) => some ticket
  | _ => none

def sent? : Receipt → Option Ticket
  | .sent ticket _ => some ticket
  | _ => none

theorem Posts.bind_eq (count : Matter → Multiset Ticket) {command : Command}
    {rest made : Multiset Matter} (posts : Posts command rest made)
    (free : count (.errand .serve 0) = 0) :
    made.bind count = count (.command command) + rest.bind count := by
  cases posts with
  | woken => simp [free]
  | awake => simp

theorem Awaits.bind_eq (count : Matter → Multiset Ticket) {trafficClass : TrafficClass}
    {connection : ConnectionId} {waits : Multiset Matter}
    (awaits : Awaits config trafficClass connection waits)
    (free : ∀ command lead, count (.errand (.post command) lead) = 0) : waits.bind count = 0 := by
  cases awaits with
  | answer => rfl
  | termination => simp [free]

theorem tickets_of_routes {command : Command} {tracker : Tracker}
    (routes : command.Routes tracker) : Command.tickets command = {tracker.ticket} := by
  cases routes <;> rfl

theorem tickets_of_ends {command : Command} {trafficClass : TrafficClass}
    {connection : ConnectionId} (ends : command.Ends trafficClass connection) :
    Command.tickets command = 0 := by
  cases ends <;> rfl

theorem succeeds_of_routes {command : Command} {tracker : Tracker}
    (routes : command.Routes tracker) : Command.succeeds command = 0 := by
  cases routes <;> rfl

theorem succeeds_of_ends {command : Command} {trafficClass : TrafficClass}
    {connection : ConnectionId} (ends : command.Ends trafficClass connection) :
    Command.succeeds command = 0 := by
  cases ends <;> rfl

theorem ticket_of_report {domain : Domain} {policy : RetryPolicy} {tracker last : Tracker}
    {response : LinkResponse} {outcome : TransportOutcome} {registers : Option StatusCallback}
    (reaction : response.react domain policy tracker = .report last outcome registers) :
    last.ticket = tracker.ticket := by
  rcases LinkResponse.react_eq_report reaction with ⟨-, rfl⟩ | ⟨rfl, -⟩ | ⟨-, -, -, rfl⟩
  · unfold Tracker.afterAcceptance
    split <;> rfl
  · rfl
  · rfl

/-- A link transport registers the callback of a message that has been accepted. -/
theorem registers_of_report {domain : Domain} {policy : RetryPolicy} {tracker last : Tracker}
    {response : LinkResponse} {outcome : TransportOutcome} {registers : Option StatusCallback}
    (whole : tracker.Whole) (refers : config.Refers tracker)
    (reaction : response.react domain policy tracker = .report last outcome registers)
    (lead : Nat) :
    (confirmations registers lead).bind Matter.confirms =
      Command.succeeds (.outcome last domain outcome) := by
  have ticket := ticket_of_report reaction
  cases response with
  | accepted =>
      obtain ⟨messageRef, has, -⟩ := refers
      obtain ⟨rfl, rfl, rfl⟩ := LinkReaction.report.inj reaction
      simp [confirmations, Tracker.statusCallback?, whole.awaitsDelivery, has, Matter.confirms,
        Errand.confirms, Command.succeeds, ticket]
  | rejected code =>
      obtain ⟨rfl, rfl, rfl⟩ := LinkReaction.report.inj reaction
      rfl
  | retry code | fallback =>
      simp only [LinkResponse.react] at reaction
      split at reaction <;> (try split at reaction) <;> cases reaction <;> rfl

namespace Ledger

/-- What matters and receipts come to. -/
def tally (count : Matter → Multiset Ticket) (told : Receipt → Option Ticket) (ledger : Ledger) :
    Multiset Ticket :=
  ledger.matters.bind count + Multiset.ofList (ledger.receipts.filterMap told)

/-- The messages that are on their way or have completed. -/
def accounts (ledger : Ledger) : Multiset Ticket :=
  ledger.tally Matter.tickets sent?

/-- No step loses a message, and none repeats one. -/
theorem accounts_step (sound : ledger.Sound config) (step : ledger.Step config after) :
    after.accounts = ledger.accounts := by
  simp only [accounts]
  cases step with
  | neared there | served there | rested there | parked there =>
      simp [tally, there, Matter.tickets, Errand.tickets]
  | confirmed there =>
      simp [tally, there, Matter.tickets, Errand.tickets, sent?, List.filterMap_append,
        List.filterMap_cons]
  | @completed rest tracker domain outcome result there ends =>
      have awaits : tracker.awaitsSent = true :=
        (sound.matters (.command (.outcome tracker domain outcome))
          (there ▸ Multiset.mem_cons_self _ _)).1
      have told : (tracker.finish result).filterMap sent? = [tracker.ticket] := by
        cases tracker.awaitsDelivery <;> simp [Tracker.finish, awaits, sent?]
      simp only [tally, there, List.filterMap_append, told, Multiset.cons_bind, Matter.tickets,
        Command.tickets, ← Multiset.coe_add, Multiset.coe_singleton]
      abel
  | @launched rest command given domain tracker there brings launches =>
      have about : Command.tickets command = {given.ticket} := by
        rcases brings with routes | rfl
        · exact tickets_of_routes routes
        · rfl
      simp [tally, there, Matter.tickets, Errand.tickets, about, LinkStage.tracker,
        launches.ticket_eq]
  | joined there routes => simp [tally, there, Matter.tickets, tickets_of_routes routes]
  | opened there routes vacant next own script unanswered going attended awaits =>
      simp [tally, there, Matter.tickets, Errand.tickets, tickets_of_routes routes,
        awaits.bind_eq Matter.tickets fun _ _ => rfl]
  | @drained rest command trafficClass connection woken change departures ends there current going
      launches waking =>
      have woke : woken.bind Matter.tickets = 0 := by
        rcases waking with rfl | rfl <;> rfl
      have same : (departures.map (·.after config)).bind Matter.tickets =
          (departures.map (·.before)).bind Matter.tickets := by
        rw [Multiset.bind_map, Multiset.bind_map]
        refine Multiset.bind_congr fun departure among => ?_
        exact congrArg Singleton.singleton (launches departure among).ticket_eq
      simp [tally, there, Matter.tickets, tickets_of_ends ends, woke, same]
  | ignored ends there => simp [tally, there, Matter.tickets, tickets_of_ends ends]
  | answered there | accepted there =>
      simp [tally, there, Matter.tickets, Errand.tickets, LinkStage.tracker]
  | repeated there reaction =>
      obtain ⟨-, rfl⟩ := LinkResponse.react_eq_resubmit reaction
      simp [tally, there, Matter.tickets, Errand.tickets, LinkStage.tracker, Tracker.countRetry]
  | returned there reaction =>
      obtain ⟨-, -, rfl⟩ := LinkResponse.react_eq_handBack reaction
      simp [tally, there, Matter.tickets, Errand.tickets, LinkStage.tracker, Tracker.countRetry]
  | @reported _ _ _ _ _ _ registers lead _ there reaction short posts =>
      have free : (confirmations registers lead).bind Matter.tickets = 0 := by
        cases registers <;> rfl
      simp [tally, there, posts.bind_eq Matter.tickets rfl, free, Matter.tickets, Errand.tickets,
        Command.tickets, LinkStage.tracker, ticket_of_report reaction]
  | handedBack there posts =>
      simp [tally, there, posts.bind_eq Matter.tickets rfl, Matter.tickets, Errand.tickets,
        Command.tickets, LinkStage.tracker]
  | asked there => simp [tally, there, Matter.tickets, Errand.tickets]
  | decided there found posts =>
      simp [tally, there, posts.bind_eq Matter.tickets rfl, Matter.tickets, Errand.tickets,
        Command.tickets]
  | dismissed there about =>
      rcases about with rfl | ⟨_, rfl⟩ <;> simp [tally, there, Matter.tickets, Errand.tickets]
  | posted there ends posts =>
      simp [tally, there, posts.bind_eq Matter.tickets rfl, Matter.tickets, Errand.tickets,
        tickets_of_ends ends]

/-- Every success comes with its status report. -/
theorem reports_step (sound : ledger.Sound config) (step : ledger.Step config after) :
    ∃ new, after.tally Matter.confirms delivered? =
        ledger.tally Matter.confirms delivered? + new ∧
      after.tally Matter.succeeds success? = ledger.tally Matter.succeeds success? + new := by
  cases step with
  | neared there | served there | rested there | parked there | answered there
  | accepted there | repeated there | returned there | asked there =>
      refine ⟨0, ?_, ?_⟩ <;>
        simp [tally, there, Matter.confirms, Matter.succeeds, Errand.confirms]
  | confirmed there =>
      refine ⟨0, ?_, ?_⟩
      · simp only [tally, there, List.filterMap_append, Multiset.cons_bind, Matter.confirms,
          Errand.confirms, delivered?, List.filterMap_cons, List.filterMap_nil,
          ← Multiset.coe_add, Multiset.coe_singleton]
        abel
      · simp [tally, there, Matter.succeeds, List.filterMap_append, success?, List.filterMap_cons]
  | @completed rest tracker domain outcome result there ends =>
      have awaits : tracker.awaitsSent = true :=
        (sound.matters (.command (.outcome tracker domain outcome))
          (there ▸ Multiset.mem_cons_self _ _)).1
      have undelivered : (tracker.finish result).filterMap delivered? = [] := by
        cases tracker.awaitsDelivery <;> simp [Tracker.finish, awaits, delivered?]
      refine ⟨0, ?_, ?_⟩
      · simp [tally, there, Matter.confirms, List.filterMap_append, undelivered]
      · have told : Multiset.ofList ((tracker.finish result).filterMap success?) =
            Command.succeeds (.outcome tracker domain outcome) := by
          cases ends <;> cases tracker.awaitsDelivery <;>
            simp [Tracker.finish, awaits, success?, Command.succeeds]
        simp only [tally, there, List.filterMap_append, Multiset.cons_bind, Matter.succeeds,
          ← Multiset.coe_add, told]
        abel
  | @launched rest command given domain tracker there brings =>
      have silent : Command.succeeds command = 0 := by
        rcases brings with routes | rfl
        · exact succeeds_of_routes routes
        · rfl
      refine ⟨0, ?_, ?_⟩ <;>
        simp [tally, there, Matter.confirms, Matter.succeeds, Errand.confirms, silent]
  | joined there routes =>
      refine ⟨0, ?_, ?_⟩ <;>
        simp [tally, there, Matter.confirms, Matter.succeeds, succeeds_of_routes routes]
  | opened there routes vacant next own script unanswered going attended awaits =>
      refine ⟨0, ?_, ?_⟩
      · simp [tally, there, Matter.confirms, Errand.confirms,
          awaits.bind_eq Matter.confirms fun _ _ => rfl]
      · simp [tally, there, Matter.succeeds, succeeds_of_routes routes,
          awaits.bind_eq Matter.succeeds fun _ _ => rfl]
  | @drained rest command trafficClass connection woken change departures ends there current going
      launches waking =>
      have woke : woken.bind Matter.confirms = 0 ∧ woken.bind Matter.succeeds = 0 := by
        rcases waking with rfl | rfl <;> exact ⟨rfl, rfl⟩
      refine ⟨0, ?_, ?_⟩
      · simp [tally, there, Multiset.bind_map, Departure.before, Departure.after,
          Matter.confirms, Errand.confirms, woke.1]
      · simp [tally, there, Multiset.bind_map, Departure.before, Departure.after,
          Matter.succeeds, succeeds_of_ends ends, woke.2]
  | ignored ends there =>
      refine ⟨0, ?_, ?_⟩ <;>
        simp [tally, there, Matter.confirms, Matter.succeeds, succeeds_of_ends ends]
  | @reported rest domain tracker response last outcome registers lead made there reaction short
      posts =>
      obtain ⟨whole, refers, -⟩ := sound.matters _ (there ▸ Multiset.mem_cons_self _ _)
      -- The one step that both tallies grow with, and by the same message.
      have both := registers_of_report whole refers reaction lead
      refine ⟨Command.succeeds (.outcome last domain outcome), ?_, ?_⟩
      · simp only [tally, there, posts.bind_eq Matter.confirms rfl, Multiset.add_bind, both,
          Multiset.cons_bind, Matter.confirms, Errand.confirms]
        abel
      · have silent : (confirmations registers lead).bind Matter.succeeds = 0 := by
          cases registers <;> rfl
        simp only [tally, there, posts.bind_eq Matter.succeeds rfl, Multiset.add_bind, silent,
          Multiset.cons_bind, Matter.succeeds]
        abel
  | handedBack there posts | decided there found posts =>
      refine ⟨0, ?_, ?_⟩
      · simp [tally, there, posts.bind_eq Matter.confirms rfl, Matter.confirms, Errand.confirms]
      · simp [tally, there, posts.bind_eq Matter.succeeds rfl, Matter.succeeds, Command.succeeds]
  | dismissed there about =>
      refine ⟨0, ?_, ?_⟩ <;> rcases about with rfl | ⟨_, rfl⟩ <;>
        simp [tally, there, Matter.confirms, Matter.succeeds, Errand.confirms]
  | posted there ends posts =>
      refine ⟨0, ?_, ?_⟩
      · simp [tally, there, posts.bind_eq Matter.confirms rfl, Matter.confirms, Errand.confirms]
      · simp [tally, there, posts.bind_eq Matter.succeeds rfl, Matter.succeeds,
          succeeds_of_ends ends]

end Ledger

end Bench

end OutboundSms
