import Mathlib.Algebra.BigOperators.Group.Multiset.Basic
import Mathlib.Algebra.Order.BigOperators.Group.Multiset
import Mathlib.Algebra.Order.Group.Nat
import OutboundSms.Proofs.Lane
import OutboundSms.Simulator.Run

/-!
# The ledger of a simulation

A simulation seen as a list of open matters: commands, waiting messages and errands,
each of which leads to others or to a receipt. `Ledger.Step` lists every way in which a
matter is dealt with. A tariff puts a price on each kind of matter, and a fair one never
charges more for what a matter leads to than for the matter.
-/

set_option autoImplicit false

namespace OutboundSms

namespace SimulatorConfig

variable (config : SimulatorConfig)

/-- The one slot in use for a domain. -/
def slot : Domain → Slot
  | .ps => .ps
  | .cs => .cs config.voiceFormat

def linkScript : Domain → LinkScript
  | .ps => config.ims
  | .cs => config.cs

/-- The answer that every selection gets, unless it is terminated. -/
def answer? : Option (Except SelectionError Domain) :=
  config.resolver.bind Bench.scriptedAnswer?

/-- Whether the number has a place in the range of the references. -/
def InRange (number : Nat) : Prop :=
  number < config.dispatch.messageRefModulus.toNat

/-- The tracker has a reference, which is in the range of the simulation. -/
def Refers (tracker : Tracker) : Prop :=
  ∃ messageRef, tracker.messageRef = some messageRef ∧ config.InRange messageRef.toNat

/-- A link transport has been handed a tracker, which has a reference by then. -/
structure Launches (given tracker : Tracker) : Prop where
  message_eq : tracker.message = given.message
  awaitsDelivery_eq : tracker.awaitsDelivery = given.awaitsDelivery
  refers : config.Refers tracker

end SimulatorConfig

/-- Whether an answer of a link settles what becomes of the message. -/
def LinkResponse.settles : LinkResponse → Bool
  | accepted | rejected _ => true
  | retry _ | fallback => false

/-- The results that an outcome gives right away. -/
inductive TransportOutcome.Ends (tracker : Tracker) : TransportOutcome → SendResult → Prop where
  | sent : Ends tracker .sent (.sent tracker.messageRef)
  | failed (code : ResultCode) : Ends tracker (.failed code) (.failed code)

namespace Command

/-- The command brings a tracker that is to find its way. -/
inductive Routes : Command → Tracker → Prop where
  | submitted (kind : RequestKind) (request : SendRequest) (emergency : Bool) :
      Routes (.submit kind request) (.ofRequest request emergency)
  | again (tracker : Tracker) (domain : Domain) :
      Routes (.outcome tracker domain .retryRequested) tracker

/-- The command tells of the end of a selection. -/
inductive Ends (trafficClass : TrafficClass) (connection : ConnectionId) : Command → Prop where
  | completed (result : Except SelectionError Domain) :
      Ends trafficClass connection (.selectionCompleted trafficClass connection result)
  | terminated (cause : UInt32) :
      Ends trafficClass connection (.selectionTerminated trafficClass connection cause)

theorem Routes.not_ends {command : Command} {tracker : Tracker} (routes : command.Routes tracker)
    {trafficClass : TrafficClass} {connection : ConnectionId} :
    ¬ command.Ends trafficClass connection := by
  intro ends
  cases routes <;> cases ends

theorem Ends.unique {command : Command} {trafficClass other : TrafficClass}
    {connection another : ConnectionId} (ends : command.Ends trafficClass connection)
    (again : command.Ends other another) : other = trafficClass ∧ another = connection := by
  cases ends <;> cases again <;> exact ⟨rfl, rfl⟩

end Command

namespace Bench

/-! ### Ledgers -/

/-- Something on the bench that is still to be dealt with. An errand has its turn when
nothing leads up to it any more: no wait of its job, and no timer. -/
inductive Matter where
  | command (command : Command)
  | waiting (tracker : Tracker)
  | errand (errand : Errand) (lead : Nat)
  | handling

/-- A simulation as one reads it off the bench. `current` is the connection that a class
selects on, and `script` has the answers that the link of a domain has left. -/
structure Ledger where
  matters : Multiset Matter
  talks : List Conversation
  current : TrafficClass → Option ConnectionId
  opened : Nat
  script : Domain → List LinkResponse
  submissions : Nat
  receipts : List Receipt

def Matter.serves : Matter → Bool
  | .handling => true
  | .errand work _ => isServing work
  | .command _ | .waiting _ => false

/-- Somebody is at work on the commands, or about to be. -/
def Awake (matters : Multiset Matter) : Prop :=
  ∃ matter ∈ matters, matter.serves = true

/-- A command is put at the end of the queue, and the service is woken if need be. -/
inductive Posts (command : Command) (rest : Multiset Matter) : Multiset Matter → Prop where
  | woken : Posts command rest (.command command ::ₘ .errand .serve 0 ::ₘ rest)
  | awake (awake : Awake rest) : Posts command rest (.command command ::ₘ rest)

def modifyTalks (connection : ConnectionId) (change : Conversation → Conversation)
    (talks : List Conversation) : List Conversation :=
  talks.map fun talk => if talk.connection == connection then change talk else talk

def findTalk? (connection : ConnectionId) (talks : List Conversation) : Option Conversation :=
  talks.find? (·.connection == connection)

/-- What a conversation is about stays. -/
structure Keeps (change : Conversation → Conversation) : Prop where
  connection_eq : ∀ talk, (change talk).connection = talk.connection
  trafficClass_eq : ∀ talk, (change talk).trafficClass = talk.trafficClass
  script_eq : ∀ talk, (change talk).script = talk.script
  answer_eq : ∀ talk, (change talk).answer = talk.answer

def park (talk : Conversation) : Conversation :=
  { talk with waiter := .parked }

def finish (talk : Conversation) : Conversation :=
  { talk with waiter := .ended }

/-- How a selection on a new connection is to end: with the answer of the script, or
with a termination, which is under way by itself. -/
inductive Awaits (config : SimulatorConfig) (trafficClass : TrafficClass)
    (connection : ConnectionId) : Multiset Matter → Prop where
  | answer (answered : config.answer? ≠ none) : Awaits config trafficClass connection 0
  | termination {cause lead} (short : lead ≤ 2) :
      Awaits config trafficClass connection
        {.errand (.post (.selectionTerminated trafficClass connection cause)) lead}

/-- What is left to do for a status report, where one is registered. -/
def confirmations (registers : Option StatusCallback) (lead : Nat) : Multiset Matter :=
  match registers with
  | some callback => {.errand (.confirm callback) lead}
  | none => 0

/-- A tracker that waits for a domain, and what a link transport has made of it. -/
structure Departure where
  given : Tracker
  domain : Domain
  tracker : Tracker

namespace Departure

def before (departure : Departure) : Matter :=
  .waiting departure.given

def after (config : SimulatorConfig) (departure : Departure) : Matter :=
  .errand (.proceed (config.slot departure.domain) (.submitting departure.tracker)) 0

end Departure

/-- Every way in which a matter is dealt with. -/
inductive Ledger.Step (config : SimulatorConfig) : Ledger → Ledger → Prop where
  | neared {ledger rest errand lead}
      (there : ledger.matters = .errand errand (lead + 1) ::ₘ rest) :
      Step config ledger { ledger with matters := .errand errand lead ::ₘ rest }
  | served {ledger rest} (there : ledger.matters = .errand .serve 0 ::ₘ rest) :
      Step config ledger { ledger with matters := .handling ::ₘ rest }
  | rested {ledger rest} (there : ledger.matters = .handling ::ₘ rest)
      (idle : ∀ command, .command command ∉ rest) :
      Step config ledger { ledger with matters := rest }
  | completed {ledger rest tracker domain outcome result}
      (there : ledger.matters = .command (.outcome tracker domain outcome) ::ₘ rest)
      (ends : outcome.Ends tracker result) :
      Step config ledger
        { ledger with matters := rest, receipts := ledger.receipts ++ tracker.finish result }
  | launched {ledger rest command given domain tracker}
      (there : ledger.matters = .command command ::ₘ rest)
      (brings : command.Routes given ∨ command = .outcome given .ps .fallback)
      (launches : config.Launches given tracker) :
      Step config ledger
        { ledger with
          matters := .errand (.proceed (config.slot domain) (.submitting tracker)) 0 ::ₘ rest }
  | joined {ledger rest command tracker} (there : ledger.matters = .command command ::ₘ rest)
      (routes : command.Routes tracker) :
      Step config ledger { ledger with matters := .waiting tracker ::ₘ rest }
  | opened {ledger rest command tracker talk waits}
      (there : ledger.matters = .command command ::ₘ rest) (routes : command.Routes tracker)
      (vacant : ledger.current tracker.trafficClass = none)
      (next : talk.connection.number.toNat = ledger.opened + 1)
      (own : talk.trafficClass = tracker.trafficClass) (script : talk.script = config.resolver)
      (unanswered : talk.answer = .open) (going : talk.stopping = false)
      (attended : talk.isAttended = true)
      (awaits : Awaits config tracker.trafficClass talk.connection waits) :
      Step config ledger
        { ledger with
          matters := .waiting tracker ::ₘ .errand (.awaitDecision talk.connection) 0 ::ₘ
            (waits + rest)
          talks := ledger.talks ++ [talk]
          current := Function.update ledger.current tracker.trafficClass (some talk.connection)
          opened := ledger.opened + 1 }
  | drained {ledger rest command trafficClass connection woken change}
      {departures : Multiset Departure} (ends : command.Ends trafficClass connection)
      (there : ledger.matters =
        .command command ::ₘ (departures.map (·.before) + rest))
      (current : ledger.current trafficClass = some connection)
      (going : ∃ talk ∈ ledger.talks, talk.connection = connection ∧ talk.stopping = false)
      (launches : ∀ departure ∈ departures, config.Launches departure.given departure.tracker)
      (waking : woken = 0 ∨ woken = {.errand (.awaitDecision connection) 0})
      (keeps : Keeps change) (stops : ∀ talk, (change talk).stopping = true) :
      Step config ledger
        { ledger with
          matters := departures.map (·.after config) + (woken + rest)
          talks := modifyTalks connection change ledger.talks
          current := Function.update ledger.current trafficClass none }
  | ignored {ledger rest command trafficClass connection}
      (ends : command.Ends trafficClass connection)
      (there : ledger.matters = .command command ::ₘ rest)
      (stale : ledger.current trafficClass ≠ some connection) :
      Step config ledger { ledger with matters := rest }
  | answered {ledger rest domain tracker response more lead}
      (there : ledger.matters =
        .errand (.proceed (config.slot domain) (.submitting tracker)) 0 ::ₘ rest)
      (script : ledger.script domain = response :: more) (short : lead ≤ 1) :
      Step config ledger
        { ledger with
          matters := .errand (.proceed (config.slot domain) (.answered tracker response)) lead ::ₘ
            rest
          script := Function.update ledger.script domain more
          submissions := ledger.submissions + 1 }
  | accepted {ledger rest domain tracker lead}
      (there : ledger.matters =
        .errand (.proceed (config.slot domain) (.submitting tracker)) 0 ::ₘ rest)
      (script : ledger.script domain = []) (short : lead ≤ 1) :
      Step config ledger
        { ledger with
          matters := .errand (.proceed (config.slot domain) (.answered tracker .accepted)) lead ::ₘ
            rest
          submissions := ledger.submissions + 1 }
  | repeated {ledger rest domain tracker response next lead}
      (there : ledger.matters =
        .errand (.proceed (config.slot domain) (.answered tracker response)) 0 ::ₘ rest)
      (reaction : response.react domain (.ofDomain config.dispatch domain) tracker =
        .resubmit next) (short : lead ≤ 1) :
      Step config ledger
        { ledger with
          matters := .errand (.proceed (config.slot domain) (.submitting next)) lead ::ₘ rest }
  | returned {ledger rest domain tracker response next lead}
      (there : ledger.matters =
        .errand (.proceed (config.slot domain) (.answered tracker response)) 0 ::ₘ rest)
      (reaction : response.react domain (.ofDomain config.dispatch domain) tracker =
        .handBack next) (short : lead ≤ 1) :
      Step config ledger
        { ledger with
          matters := .errand (.proceed (config.slot domain) (.handingBack next)) lead ::ₘ rest }
  | reported {ledger rest domain tracker response last outcome registers lead made}
      (there : ledger.matters =
        .errand (.proceed (config.slot domain) (.answered tracker response)) 0 ::ₘ rest)
      (reaction : response.react domain (.ofDomain config.dispatch domain) tracker =
        .report last outcome registers) (short : lead ≤ 2)
      (posts : Posts (.outcome last domain outcome) (confirmations registers lead + rest) made) :
      Step config ledger { ledger with matters := made }
  | handedBack {ledger rest domain tracker made}
      (there : ledger.matters =
        .errand (.proceed (config.slot domain) (.handingBack tracker)) 0 ::ₘ rest)
      (posts : Posts (.outcome tracker domain .retryRequested) rest made) :
      Step config ledger { ledger with matters := made }
  | confirmed {ledger rest callback report}
      (there : ledger.matters = .errand (.confirm callback) 0 ::ₘ rest)
      (delivered : report.delivered = true) :
      Step config ledger
        { ledger with
          matters := rest
          receipts := ledger.receipts ++ [.delivered callback.ticket report] }
  | asked {ledger rest connection result lead}
      (there : ledger.matters = .errand (.awaitDecision connection) 0 ::ₘ rest)
      (answered : config.answer? = some result) (short : lead ≤ 1) :
      Step config ledger
        { ledger with
          matters := .errand (.decide connection result) lead ::ₘ rest
          talks := modifyTalks connection park ledger.talks }
  | parked {ledger rest connection}
      (there : ledger.matters = .errand (.awaitDecision connection) 0 ::ₘ rest)
      (unanswered : config.answer? = none) :
      Step config ledger
        { ledger with matters := rest, talks := modifyTalks connection park ledger.talks }
  | decided {ledger rest connection result talk made}
      (there : ledger.matters = .errand (.decide connection result) 0 ::ₘ rest)
      (found : findTalk? connection ledger.talks = some talk)
      (posts : Posts (.selectionCompleted talk.trafficClass connection result) rest made) :
      Step config ledger
        { ledger with matters := made, talks := modifyTalks connection finish ledger.talks }
  | dismissed {ledger rest errand connection}
      (there : ledger.matters = .errand errand 0 ::ₘ rest)
      (about : errand = .awaitDecision connection ∨ ∃ result, errand = .decide connection result)
      (gone : ∀ talk, findTalk? connection ledger.talks = some talk →
        talk.stopping = true ∨ talk.isAttended = false) :
      Step config ledger
        { ledger with matters := rest, talks := modifyTalks connection finish ledger.talks }
  | posted {ledger rest command trafficClass connection made}
      (there : ledger.matters = .errand (.post command) 0 ::ₘ rest)
      (ends : command.Ends trafficClass connection) (posts : Posts command rest made) :
      Step config ledger { ledger with matters := made }

/-! ### Tariffs -/

/-- What things cost: a step, a unit of lead, each kind of command and errand, a waiting
message, a conversation that has not been told to stop, an answer that is left in a
script, an opened connection and a submission. -/
structure Tariff where
  step : Nat := 0
  lead : Nat := 0
  handling : Nat := 0
  serve : Nat := 0
  entering : Nat := 0
  fallback : Nat := 0
  ended : Nat := 0
  selected : Nat := 0
  waiting : Nat := 0
  submitting : Nat := 0
  settled : Nat := 0
  unsettled : Nat := 0
  returning : Nat := 0
  confirming : Nat := 0
  awaiting : Nat := 0
  deciding : Nat := 0
  posting : Nat := 0
  talk : Nat := 0
  answer : Nat := 0
  opening : Nat := 0
  submission : Nat := 0

namespace Tariff

variable (tariff : Tariff)

def ofCommand : Command → Nat
  | .submit _ _ | .outcome _ _ .retryRequested => tariff.entering
  | .outcome _ _ .fallback => tariff.fallback
  | .outcome _ _ _ => tariff.ended
  | .selectionCompleted _ _ _ | .selectionTerminated _ _ _ => tariff.selected
  | _ => 0

def ofErrand : Errand → Nat
  | .serve => tariff.serve
  | .awaitDecision _ => tariff.awaiting
  | .decide _ _ => tariff.deciding
  | .proceed _ (.submitting _) => tariff.submitting
  | .proceed _ (.answered _ response) =>
      if response.settles then tariff.settled else tariff.unsettled
  | .proceed _ (.handingBack _) => tariff.returning
  | .post _ => tariff.posting
  | .confirm _ => tariff.confirming

def price : Matter → Nat
  | .command command => tariff.ofCommand command
  | .waiting _ => tariff.waiting
  | .errand errand lead => tariff.ofErrand errand + tariff.lead * lead
  | .handling => tariff.handling

def cost (ledger : Ledger) : Nat :=
  (ledger.matters.map tariff.price).sum +
    tariff.answer * ((ledger.script .ps).length + (ledger.script .cs).length) +
    tariff.talk * ledger.talks.countP (!·.stopping) +
    tariff.opening * ledger.opened + tariff.submission * ledger.submissions

/-- Nothing costs less than the step that deals with it and what it leads to. -/
structure Fair : Prop where
  neared : tariff.step ≤ tariff.lead
  served : tariff.step + tariff.handling ≤ tariff.serve
  rested : tariff.step ≤ tariff.handling
  completed : tariff.step ≤ tariff.ended
  launched : tariff.step + tariff.submitting ≤ tariff.fallback
  fallback : tariff.fallback ≤ tariff.entering
  joined : tariff.step + tariff.waiting ≤ tariff.entering
  opened : tariff.step + tariff.waiting + tariff.awaiting + (tariff.posting + tariff.lead * 2) +
    tariff.talk + tariff.opening ≤ tariff.entering
  drained : tariff.step + tariff.awaiting ≤ tariff.selected + tariff.talk
  departed : tariff.submitting ≤ tariff.waiting
  ignored : tariff.step ≤ tariff.selected
  answered : tariff.step + tariff.submission + tariff.unsettled + tariff.lead ≤
    tariff.submitting + tariff.answer
  settled : tariff.settled ≤ tariff.unsettled
  accepted : tariff.step + tariff.submission + tariff.settled + tariff.lead ≤ tariff.submitting
  repeated : tariff.step + tariff.submitting + tariff.lead ≤ tariff.unsettled
  returned : tariff.step + tariff.returning + tariff.lead ≤ tariff.unsettled
  reported : tariff.step + tariff.ended + tariff.serve + (tariff.confirming + tariff.lead * 2) ≤
    tariff.settled
  fellBack : tariff.step + tariff.fallback + tariff.serve ≤ tariff.unsettled
  failed : tariff.step + tariff.ended + tariff.serve ≤ tariff.unsettled
  handedBack : tariff.step + tariff.entering + tariff.serve ≤ tariff.returning
  confirmed : tariff.step ≤ tariff.confirming
  asked : tariff.step + tariff.deciding + tariff.lead ≤ tariff.awaiting
  decided : tariff.step + tariff.selected + tariff.serve ≤ tariff.deciding
  posted : tariff.step + tariff.selected + tariff.serve ≤ tariff.posting

theorem ofCommand_routes {command : Command} {tracker : Tracker}
    (routes : command.Routes tracker) : tariff.ofCommand command = tariff.entering := by
  cases routes <;> rfl

theorem ofCommand_ends {command : Command} {trafficClass : TrafficClass}
    {connection : ConnectionId} (ends : command.Ends trafficClass connection) :
    tariff.ofCommand command = tariff.selected := by
  cases ends <;> rfl

theorem lead_le {lead bound : Nat} (short : lead ≤ bound) :
    tariff.lead * lead ≤ tariff.lead * bound :=
  Nat.mul_le_mul_left _ short

/-- A command and the waking of the service cost no more than both. -/
theorem cost_posts {command : Command} {rest made : Multiset Matter}
    (posts : Posts command rest made) :
    (made.map tariff.price).sum ≤
      tariff.ofCommand command + tariff.serve + (rest.map tariff.price).sum := by
  cases posts with
  | woken =>
      simp only [Multiset.map_cons, Multiset.sum_cons, price, ofErrand]
      omega
  | awake =>
      simp only [Multiset.map_cons, Multiset.sum_cons, price]
      omega

theorem countP_modifyTalks (connection : ConnectionId) (change : Conversation → Conversation)
    (talks : List Conversation) (same : ∀ talk, (change talk).stopping = talk.stopping) :
    (modifyTalks connection change talks).countP (!·.stopping) = talks.countP (!·.stopping) := by
  rw [modifyTalks, List.countP_map]
  refine List.countP_congr fun talk _ => ?_
  simp only [Function.comp_apply]
  split
  · rw [same]
  · rfl

/-- Where a conversation is told to stop, fewer go on. -/
theorem countP_stopped {connection : ConnectionId} {change : Conversation → Conversation}
    {talks : List Conversation} (stops : ∀ talk, (change talk).stopping = true)
    (going : ∃ talk ∈ talks, talk.connection = connection ∧ talk.stopping = false) :
    (modifyTalks connection change talks).countP (!·.stopping) + 1 ≤
      talks.countP (!·.stopping) := by
  obtain ⟨talk, member, same, going⟩ := going
  obtain ⟨before, after, rfl⟩ := List.append_of_mem member
  have fewer (talks : List Conversation) :
      (modifyTalks connection change talks).countP (!·.stopping) ≤
        talks.countP (!·.stopping) := by
    rw [modifyTalks, List.countP_map]
    refine List.countP_mono_left fun talk _ => ?_
    simp only [Function.comp_apply]
    split
    · simp [stops]
    · exact id
  have earlier := fewer before
  have later := fewer after
  simp only [modifyTalks, List.map_append, List.map_cons, List.countP_append, List.countP_cons,
    same, beq_self_eq_true, if_true, stops, going] at earlier later ⊢
  simp only [Bool.not_true, Bool.not_false, if_true, Bool.false_eq_true, if_false]
  omega

variable {tariff}

/-- An answer pays for the report on it. -/
theorem cost_report (fair : tariff.Fair) {domain : Domain} {policy : RetryPolicy}
    {tracker last : Tracker} {response : LinkResponse} {outcome : TransportOutcome}
    {registers : Option StatusCallback} {lead : Nat} (short : lead ≤ 2)
    (reaction : response.react domain policy tracker = .report last outcome registers) :
    tariff.step + tariff.ofCommand (.outcome last domain outcome) + tariff.serve +
        ((confirmations registers lead).map tariff.price).sum ≤
      if response.settles then tariff.settled else tariff.unsettled := by
  have within : tariff.lead * lead ≤ tariff.lead * 2 := lead_le _ short
  obtain ⟨fairReported, fairFellBack, fairFailed⟩ := And.intro fair.reported
    (And.intro fair.fellBack fair.failed)
  cases response with
  | accepted =>
      obtain ⟨-, rfl, rfl⟩ := LinkReaction.report.inj reaction
      have most : ((confirmations tracker.statusCallback? lead).map tariff.price).sum ≤
          tariff.confirming + tariff.lead * 2 := by
        cases tracker.statusCallback? with
        | none => exact Nat.zero_le _
        | some => simpa [confirmations, price, ofErrand] using within
      simp only [ofCommand, LinkResponse.settles, if_true]
      omega
  | rejected code =>
      obtain ⟨-, rfl, rfl⟩ := LinkReaction.report.inj reaction
      simp only [ofCommand, LinkResponse.settles, if_true, confirmations, Multiset.map_zero,
        Multiset.sum_zero]
      omega
  | retry code | fallback =>
      simp only [LinkResponse.react] at reaction
      split at reaction <;> (try split at reaction) <;> cases reaction <;>
        simp only [ofCommand, LinkResponse.settles, Bool.false_eq_true, if_false, confirmations,
          Multiset.map_zero, Multiset.sum_zero] <;> omega

variable {config : SimulatorConfig} {ledger after : Ledger}

theorem cost_awaits (tariff : Tariff) {trafficClass : TrafficClass} {connection : ConnectionId}
    {waits : Multiset Matter} (awaits : Awaits config trafficClass connection waits) :
    (waits.map tariff.price).sum ≤ tariff.posting + tariff.lead * 2 := by
  cases awaits with
  | answer => exact Nat.zero_le _
  | termination short =>
      have within : tariff.lead * _ ≤ tariff.lead * 2 := lead_le _ short
      simp only [Multiset.map_singleton, Multiset.sum_singleton, price, ofErrand]
      omega

/-- A step costs what it costs and leaves the rest. -/
theorem cost_step (fair : tariff.Fair) (step : ledger.Step config after) :
    tariff.cost after + tariff.step ≤ tariff.cost ledger := by
  -- What a step deals with pays for what it leads to, as the fair tariff says for each.
  cases step with
  | neared there =>
      have paid := fair.neared
      simp only [cost, there, Multiset.map_cons, Multiset.sum_cons, price, Nat.mul_succ]
      omega
  | served there =>
      have paid := fair.served
      simp only [cost, there, Multiset.map_cons, Multiset.sum_cons, price, ofErrand]
      omega
  | rested there =>
      have paid := fair.rested
      simp only [cost, there, Multiset.map_cons, Multiset.sum_cons, price]
      omega
  | completed there ends =>
      have paid := fair.completed
      cases ends <;>
        simp only [cost, there, Multiset.map_cons, Multiset.sum_cons, price, ofCommand] <;> omega
  | launched there brings =>
      have paid := fair.launched
      have less := fair.fallback
      rcases brings with routes | rfl
      · have entering := ofCommand_routes tariff routes
        simp only [cost, there, Multiset.map_cons, Multiset.sum_cons, price, ofErrand, entering]
        omega
      · simp only [cost, there, Multiset.map_cons, Multiset.sum_cons, price, ofErrand, ofCommand]
        omega
  | joined there routes =>
      have paid := fair.joined
      have entering := ofCommand_routes tariff routes
      simp only [cost, there, Multiset.map_cons, Multiset.sum_cons, price, entering]
      omega
  | opened there routes vacant next own script unanswered going attended awaits =>
      have paid := fair.opened
      have entering := ofCommand_routes tariff routes
      have most := cost_awaits tariff awaits
      simp only [cost, there, Multiset.map_cons, Multiset.sum_cons, Multiset.map_add,
        Multiset.sum_add, price, ofErrand, entering, List.countP_append, List.countP_singleton,
        going, Nat.mul_add]
      simp only [Bool.not_false, if_true]
      omega
  | @drained rest command trafficClass connection woken change departures ends there current going
      launches waking keeps stops =>
      -- The conversation that ends pays for its waiter, and each message for its submission.
      have paid := fair.drained
      have selected := ofCommand_ends tariff ends
      have fewer := Nat.mul_le_mul_left tariff.talk (countP_stopped stops going)
      have woke : (woken.map tariff.price).sum ≤ tariff.awaiting := by
        rcases waking with rfl | rfl
        · exact Nat.zero_le _
        · simp [price, ofErrand]
      have less : ((departures.map (·.after config)).map tariff.price).sum ≤
          ((departures.map (·.before)).map tariff.price).sum := by
        rw [Multiset.map_map, Multiset.map_map]
        exact Multiset.sum_map_le_sum_map _ _ fun departure _ => by
          simpa [price, ofErrand, Departure.after, Departure.before] using fair.departed
      simp only [cost, there, Multiset.map_cons, Multiset.sum_cons, Multiset.map_add,
        Multiset.sum_add, price, selected]
      rw [Nat.mul_add] at fewer
      omega
  | ignored ends there =>
      have paid := fair.ignored
      have selected := ofCommand_ends tariff ends
      simp only [cost, there, Multiset.map_cons, Multiset.sum_cons, price, selected]
      omega
  | @answered rest domain tracker response more lead there script short =>
      have paid := fair.answered
      have less := fair.settled
      have within := lead_le tariff short
      have most : tariff.ofErrand (.proceed (config.slot domain) (.answered tracker response)) ≤
          tariff.unsettled := by
        simp only [ofErrand]
        split
        · exact less
        · exact le_rfl
      -- One answer less in the script pays for what the message may still have before it.
      have shorter : ((Function.update ledger.script domain more .ps).length +
          (Function.update ledger.script domain more .cs).length) + 1 =
            (ledger.script .ps).length + (ledger.script .cs).length := by
        cases domain <;> simp [script] <;> omega
      have charged : tariff.ofErrand (.proceed (config.slot domain) (.submitting tracker)) =
        tariff.submitting := rfl
      simp only [cost, there, Multiset.map_cons, Multiset.sum_cons, price, charged, ← shorter,
        Nat.mul_add]
      omega
  | accepted there script short =>
      have paid := fair.accepted
      have within := lead_le tariff short
      simp only [cost, there, Multiset.map_cons, Multiset.sum_cons, price, ofErrand,
        LinkResponse.settles, if_true, Nat.mul_add]
      omega
  | @repeated rest domain tracker response next lead there reaction short =>
      have paid := fair.repeated
      have within := lead_le tariff short
      have unsettled : response.settles = false := by
        cases response <;> first | rfl | cases reaction
      simp only [cost, there, Multiset.map_cons, Multiset.sum_cons, price, ofErrand, unsettled,
        Bool.false_eq_true, if_false]
      omega
  | @returned rest domain tracker response next lead there reaction short =>
      have paid := fair.returned
      have within := lead_le tariff short
      have unsettled : response.settles = false := by
        cases response <;> first | rfl | cases reaction
      simp only [cost, there, Multiset.map_cons, Multiset.sum_cons, price, ofErrand, unsettled,
        Bool.false_eq_true, if_false]
      omega
  | @reported rest domain tracker response last outcome registers lead made there reaction short
      posts =>
      have paid := cost_report fair short reaction
      have most := cost_posts tariff posts
      simp only [Multiset.map_add, Multiset.sum_add] at most
      simp only [cost, there, Multiset.map_cons, Multiset.sum_cons, price, ofErrand]
      omega
  | handedBack there posts =>
      have paid := fair.handedBack
      have most := cost_posts tariff posts
      simp only [ofCommand] at most
      simp only [cost, there, Multiset.map_cons, Multiset.sum_cons, price, ofErrand]
      omega
  | confirmed there =>
      have paid := fair.confirmed
      simp only [cost, there, Multiset.map_cons, Multiset.sum_cons, price, ofErrand]
      omega
  | @asked rest connection result lead there answered short =>
      have paid := fair.asked
      have within := lead_le tariff short
      have same := countP_modifyTalks connection park ledger.talks fun _ => rfl
      simp only [cost, there, Multiset.map_cons, Multiset.sum_cons, price, ofErrand, same]
      omega
  | @parked rest connection there =>
      have paid := fair.asked
      have same := countP_modifyTalks connection park ledger.talks fun _ => rfl
      simp only [cost, there, Multiset.map_cons, Multiset.sum_cons, price, ofErrand, same]
      omega
  | @decided rest connection result talk made there found posts =>
      have paid := fair.decided
      have most := cost_posts tariff posts
      have same := countP_modifyTalks connection finish ledger.talks fun _ => rfl
      simp only [ofCommand] at most
      simp only [cost, there, Multiset.map_cons, Multiset.sum_cons, price, ofErrand, same]
      omega
  | @dismissed rest errand connection there about gone =>
      have asked := fair.asked
      have decided := fair.decided
      have same := countP_modifyTalks connection finish ledger.talks fun _ => rfl
      rcases about with rfl | ⟨result, rfl⟩ <;>
        simp only [cost, there, Multiset.map_cons, Multiset.sum_cons, price, ofErrand, same] <;>
        omega
  | posted there ends posts =>
      have paid := fair.posted
      have most := cost_posts tariff posts
      have selected := ofCommand_ends tariff ends
      simp only [cost, there, Multiset.map_cons, Multiset.sum_cons, price, ofErrand]
      omega

/-! ### Three tariffs -/

/-- What bounds the steps: each one costs something. -/
def steps : Tariff where
  step := 1
  lead := 1
  handling := 1
  serve := 2
  entering := 28
  fallback := 10
  ended := 1
  selected := 1
  waiting := 9
  submitting := 9
  settled := 7
  unsettled := 33
  returning := 31
  confirming := 1
  awaiting := 6
  deciding := 4
  posting := 4
  talk := 6
  answer := 26

/-- What bounds the submissions: a message that may still be submitted costs one, and so
does an answer that may make it be submitted again. -/
def submissions : Tariff where
  entering := 1
  fallback := 1
  waiting := 1
  submitting := 1
  unsettled := 1
  returning := 1
  answer := 1
  submission := 1

/-- What bounds the connections: a message opens one where it comes in, or comes back for
a retry. -/
def openings : Tariff where
  entering := 1
  unsettled := 1
  returning := 1
  answer := 1
  opening := 1

theorem steps_fair : steps.Fair := by constructor <;> decide

theorem submissions_fair : submissions.Fair := by constructor <;> decide

theorem openings_fair : openings.Fair := by constructor <;> decide

end Tariff

end Bench

end OutboundSms
