import OutboundSms.Proofs.Errands

/-!
# Simulations end and settle every message

A simulation comes to rest in the steps it is given, with nothing left to do, and its
report has one outcome for every message: the message was refused because its body cannot
be encoded, or it completed in a way that the scripts explain.
-/

set_option autoImplicit false

namespace OutboundSms

namespace Bench

open Relation (TransGen ReflTransGen)

variable {config : SimulatorConfig} {bench : Bench} {ledger after : Ledger}

/-! ### Runs of a ledger -/

namespace Ledger

theorem Kept.run (kept : ledger.Kept config) (run : ReflTransGen (Step config) ledger after) :
    after.Kept config := by
  induction run with
  | refl => exact kept
  | tail _ step ih => exact ih.step step

/-- A message that has come in is on its way until it has completed. -/
theorem Kept.accounts (kept : ledger.Kept config)
    (run : ReflTransGen (Step config) ledger after) : after.accounts = ledger.accounts := by
  induction run with
  | refl => rfl
  | tail before step ih => exact (accounts_step (kept.run before).sound step).trans ih

/-- As many status reports as successes. -/
theorem Kept.reports (kept : ledger.Kept config)
    (run : ReflTransGen (Step config) ledger after)
    (even : ledger.tally Matter.confirms delivered? = ledger.tally Matter.succeeds success?) :
    after.tally Matter.confirms delivered? = after.tally Matter.succeeds success? := by
  induction run with
  | refl => exact even
  | tail before step ih =>
      obtain ⟨new, confirms, succeeds⟩ := reports_step (kept.run before).sound step
      rw [confirms, succeeds, ih]

end Ledger

/-- A run costs what its ledger had and leaves the rest. -/
theorem Tariff.cost_run {tariff : Tariff} (fair : tariff.Fair)
    (run : ReflTransGen (Ledger.Step config) ledger after) :
    tariff.cost after ≤ tariff.cost ledger := by
  induction run with
  | refl => exact le_rfl
  | tail _ step ih => exact (Nat.le_of_add_right_le (cost_step fair step)).trans ih

theorem Tariff.cost_lt {tariff : Tariff} (fair : tariff.Fair) (charges : 0 < tariff.step)
    (run : TransGen (Ledger.Step config) ledger after) :
    tariff.cost after < tariff.cost ledger := by
  induction run with
  | single step => exact Nat.lt_of_lt_of_le (Nat.lt_add_of_pos_right charges) (cost_step fair step)
  | tail _ step ih =>
      exact (Nat.lt_of_lt_of_le (Nat.lt_add_of_pos_right charges) (cost_step fair step)).trans ih

/-! ### Coming to rest -/

namespace Staged

/-- The bench of a simulation comes to rest in as many steps as its ledger can pay for. -/
theorem iterate (staged : bench.Staged config) (kept : (bench.ledger config).Kept config)
    {room : Nat} (enough : Tariff.steps.cost (bench.ledger config) ≤ room) :
    (bench.iterate .all room).Staged config ∧
      ReflTransGen (Ledger.Step config) (bench.ledger config)
        ((bench.iterate .all room).ledger config) ∧
      (bench.iterate .all room).step? .all = none := by
  induction room generalizing bench with
  | zero =>
      refine ⟨staged, .refl, ?_⟩
      cases stepped : bench.step? .all with
      | none => exact stepped
      | some after =>
          -- A step would cost something, and nothing is left.
          have cheaper := Tariff.cost_lt Tariff.steps_fair Nat.one_pos (staged.step kept stepped).2
          omega
  | succ room ih =>
      unfold Bench.iterate
      cases stepped : bench.step? .all with
      | none => exact ⟨staged, .refl, stepped⟩
      | some after =>
          obtain ⟨next, run⟩ := staged.step kept stepped
          have cheaper := Tariff.cost_lt Tariff.steps_fair Nat.one_pos run
          obtain ⟨last, rest, still⟩ := ih next (kept.run run.to_reflTransGen) (by omega)
          exact ⟨last, run.to_reflTransGen.trans rest, still⟩

/-- A bench that rests has no task left. -/
theorem duties_of_still (staged : bench.Staged config) (still : bench.step? .all = none) :
    bench.duties = 0 := by
  unfold step? at still
  split at still
  · split at still <;> cases still
  · next idle =>
      have byService : ¬ (decide (bench.operation = .byHand) && Extent.all.appliesCommands &&
          !bench.service.commands.isEmpty) = true := by simp [staged.operation]
      unfold stepTasks? Agenda.takeReady moveClock? at still
      cases ready : bench.agenda.ready with
      | cons job rest =>
          rw [ready] at still
          cases still
      | nil =>
          cases next : bench.agenda.nextDeadline? with
          | some time =>
              simp only [ready, byService, Bool.false_eq_true, if_false, next] at still
              cases still
          | none =>
              have timers : bench.agenda.timers = [] := by
                simpa [Agenda.nextDeadline?] using next
              simp [duties, jobs, ready, timers, idle]

/-- Nothing is left to be dealt with on a bench that rests: nobody would be at work on a
command, and nothing would end a selection that messages wait for. -/
theorem matters_of_still (staged : bench.Staged config)
    (kept : (bench.ledger config).Kept config) (still : bench.step? .all = none) :
    (bench.ledger config).matters = 0 := by
  have left : (bench.ledger config).matters = backlog bench.service := by
    simp only [Bench.ledger, staged.duties_of_still still, add_zero]
  have sorts (matter : Matter) (member : matter ∈ (bench.ledger config).matters) :
      (∃ command ∈ bench.service.commands, matter = .command command) ∨
        ∃ tracker ∈ bench.service.controller.trackers, matter = .waiting tracker := by
    rw [left] at member
    rcases Multiset.mem_add.mp member with waits | waits
    · obtain ⟨command, among, rfl⟩ := List.mem_map.mp waits
      exact .inl ⟨command, among, rfl⟩
    · obtain ⟨tracker, among, rfl⟩ := List.mem_map.mp waits
      exact .inr ⟨tracker, among, rfl⟩
  have commands : bench.service.commands = [] := by
    refine List.eq_nil_iff_forall_not_mem.mpr fun command among => ?_
    have member : .command command ∈ (bench.ledger config).matters := by
      rw [left]
      exact Multiset.mem_add.mpr (.inl (List.mem_map_of_mem among))
    obtain ⟨matter, there, serves⟩ := kept.attended command member
    rcases sorts matter there with ⟨_, -, rfl⟩ | ⟨_, -, rfl⟩ <;> cases serves
  have drives (matter : Matter) (member : matter ∈ (bench.ledger config).matters)
      (trafficClass : TrafficClass) (connection : ConnectionId) :
      ¬ matter.Ends trafficClass connection ∧ ¬ matter.Asks config connection := by
    rcases sorts matter member with ⟨command, among, -⟩ | ⟨_, -, rfl⟩
    · rw [commands] at among
      cases among
    · exact ⟨id, id⟩
  -- A class with a queue selects, and then something would drive its selection.
  have queued (trafficClass : TrafficClass) :
      bench.service.controller.queued trafficClass = [] := by
    have agrees := staged.controller.agrees trafficClass
    cases active : (bench.service.controller.holder trafficClass).active with
    | none =>
        have waiting := agrees.waiting
        rw [active] at waiting
        simpa [Controller.queued] using waiting
    | some current =>
        have selected : (bench.ledger config).current trafficClass = some current.id :=
          congrArg (Option.map ActiveConnection.id) active
        rcases (kept.orderly.selecting trafficClass current.id selected).driven with
          ⟨matter, member, ends⟩ | ⟨⟨matter, member, asks⟩, -⟩
        · exact absurd ends (drives matter member trafficClass current.id).1
        · exact absurd asks (drives matter member trafficClass current.id).2
  rw [left, backlog, commands, Controller.trackers, queued, queued]
  rfl

end Staged

end Bench

/-! ### The messages of a simulation -/

/-- What its entry point answers to a message with a destination. -/
def MessageScript.verdict (message : MessageScript) : Except DispatchError Unit :=
  if message.payload.isWellFormed then .ok () else .error (.rejected .emptyPayload)

/-- The command that an entry point posts for a message. -/
def MessageScript.command (message : MessageScript) (ticket : Ticket) : Command :=
  .submit message.payload.kind (message.request ticket)

/-- The message was refused at its entry point. -/
def Resolution.isRejected : Resolution → Bool
  | rejected _ => true
  | completed .. | dropped => false

namespace SimulatorConfig

open Bench

/-- The commands of the messages that are taken in, with tickets counted from `first`. -/
def posted (first : Ticket) : List MessageScript → List Command
  | [] => []
  | message :: rest =>
      if message.payload.isWellFormed then message.command first :: posted (first + 1) rest
      else posted (first + 1) rest

/-- The receipts of the messages that are refused. -/
def refused (first : Ticket) : List MessageScript → List Receipt
  | [] => []
  | message :: rest =>
      if message.payload.isWellFormed then refused (first + 1) rest
      else (message.request first).discard ++ refused (first + 1) rest

/-- The bench of a simulation after requests have been made. -/
def loaded (config : SimulatorConfig) (commands : List Command) (receipts : List Receipt)
    (issued : Nat) : Bench :=
  { config.bench with
    service := { config.bench.service with commands }
    agenda := { ready := if commands.isEmpty then [] else [{ work := .serve }] }
    receipts
    issued }

variable {config : SimulatorConfig}

theorem send_loaded {message : MessageScript}
    (filled : Text.isAllBlank message.destination = false) (commands : List Command)
    (receipts : List Receipt) (issued : Nat) :
    ((config.loaded commands receipts issued).issueTicket.send message.payload.kind
        (message.request issued)) =
      if message.payload.isWellFormed then
        (.ok (), config.loaded (commands ++ [message.command issued]) receipts (issued + 1))
      else
        (.error (.rejected .emptyPayload), config.loaded commands
          (receipts ++ (message.request issued).discard) (issued + 1)) := by
  have valid : (message.request issued).validate message.payload.kind =
      if message.payload.isWellFormed then .ok () else .error .emptyPayload := by
    cases wellFormed : message.payload.isWellFormed <;>
      simp [SendRequest.validate, MessageScript.request, filled, wellFormed]
  cases wellFormed : message.payload.isWellFormed with
  | false =>
      rw [wellFormed] at valid
      simp only [Bench.send, loaded, SimulatorConfig.bench, Bench.issueTicket, Service.send,
        SendRequest.admission, valid, Bool.false_eq_true, if_false]
      rfl
  | true =>
      rw [wellFormed] at valid
      simp only [Bench.send, loaded, SimulatorConfig.bench, Bench.issueTicket, Service.send,
        SendRequest.admission, valid, if_true, Service.post, Service.new, Bench.wakeService]
      cases commands with
      | nil => rfl
      | cons first rest => rfl

/-- Submitting the messages puts the well-formed ones in the queue, in order. -/
theorem submitAll_loaded {messages : List MessageScript}
    (filled : ∀ message ∈ messages, Text.isAllBlank message.destination = false)
    (commands : List Command) (receipts : List Receipt) (issued : Nat) :
    Bench.submitAll messages (config.loaded commands receipts issued) =
      (messages.map MessageScript.verdict,
        config.loaded (commands ++ posted issued messages) (receipts ++ refused issued messages)
          (issued + messages.length)) := by
  induction messages generalizing commands receipts issued with
  | nil => simp [Bench.submitAll, posted, refused]
  | cons message rest ih =>
      obtain ⟨first, others⟩ := List.forall_mem_cons.mp filled
      have ticket : (config.loaded commands receipts issued).nextTicket = issued := rfl
      simp only [Bench.submitAll, ticket, @send_loaded config message first, List.map_cons,
        MessageScript.verdict, posted, refused, List.length_cons]
      split
      · simp only [ih others, List.append_assoc, List.singleton_append]
        rw [Nat.add_right_comm, Nat.add_assoc]
      · simp only [ih others, List.append_assoc]
        rw [Nat.add_right_comm, Nat.add_assoc]

/-! ### The bench that is set up -/

theorem validate_eq_ok (valid : config.validate = .ok ()) :
    0 < config.dispatch.messageRefModulus.toNat ∧
      config.dispatch.messageRefModulus.toNat ≤ 256 ∧
      ∀ message ∈ config.messages, Text.isAllBlank message.destination = false := by
  unfold validate at valid
  dsimp only at valid
  split at valid
  · cases valid
  · next within =>
      split at valid
      · cases valid
      · next filled =>
          have one : (1 : UInt16).toNat = 1 := rfl
          have most : (256 : UInt16).toNat = 256 := rfl
          simp only [Bool.or_eq_true, decide_eq_true_eq, UInt16.lt_iff_toNat_lt, one,
            most] at within
          refine ⟨by omega, by omega, fun message member => ?_⟩
          simpa using List.findIdx?_eq_none_iff.mp filled message member

theorem runs_new (valid : config.validate = .ok ()) :
    (ReferenceCounter.new config.dispatch.messageRefModulus).Runs config := by
  obtain ⟨positive, bounded, -⟩ := validate_eq_ok valid
  have within := ReferenceCounter.Bounded.startingAt 0 config.dispatch.messageRefModulus
  have clamped : ReferenceCounter.clampModulus config.dispatch.messageRefModulus =
      config.dispatch.messageRefModulus := by
    rw [← UInt16.toNat_inj, ReferenceCounter.toNat_clampModulus, ReferenceCounter.period]
    omega
  exact ⟨clamped, within.modulus_le, within.next_lt⟩

theorem staged_link (valid : config.validate = .ok ()) (domain : Domain) :
    ((config.linkScript domain).link (.ofDomain config.dispatch domain)
      config.dispatch.messageRefModulus).Staged config domain where
  policy_eq := rfl
  logged := rfl
  reports := ⟨_, rfl⟩
  owns := by
    simp only [LinkScript.link]
    cases (config.linkScript domain).ownMessageRefs <;> rfl
  runs := by
    intro counter same
    simp only [LinkScript.link] at same
    split at same
    · exact Option.some.inj same ▸ runs_new valid
    · cases same

theorem staged_loaded (valid : config.validate = .ok ()) (commands : List Command)
    (receipts : List Receipt) (issued : Nat) :
    (config.loaded commands receipts issued).Staged config where
  operation := rfl
  running := rfl
  going := rfl
  awaited := rfl
  format := rfl
  untracked := rfl
  controller := by
    refine ⟨rfl, rfl, runs_new valid, fun trafficClass => ?_⟩
    cases trafficClass <;> exact ⟨.fresh _, nofun⟩
  transports := by
    intro slot
    cases slot with
    | ps => exact ⟨rfl, _, rfl, staged_link valid .ps⟩
    | cs format => cases format <;> exact ⟨rfl, _, rfl, staged_link valid .cs⟩
  resolvers := by
    simp only [loaded, bench, SimulatorConfig.resolvers]
    cases config.resolver <;> rfl

theorem ledger_loaded (commands : List Command) (receipts : List Receipt) (issued : Nat) :
    (config.loaded commands receipts issued).ledger config =
      { matters := Multiset.ofList (commands.map .command) +
          if commands.isEmpty then 0 else {.errand .serve 0}
        talks := []
        current := fun _ => none
        opened := 0
        script := fun domain => (config.linkScript domain).responses
        submissions := 0
        receipts } := by
  have script : (fun domain =>
      ((config.loaded commands receipts issued).transport (config.slot domain)).responses) =
        fun domain => (config.linkScript domain).responses := by
    funext domain
    have scripted (link : LinkScript) : (link.responses.map fun response =>
        { response, latency := link.latencyMs.toNat : LinkAnswer }).map (·.response) =
          link.responses := by
      rw [List.map_map]
      exact List.map_id _
    cases domain with
    | ps => exact scripted config.ims
    | cs =>
        simp only [slot]
        cases config.voiceFormat <;> exact scripted config.cs
  have matters : backlog (config.loaded commands receipts issued).service +
      (config.loaded commands receipts issued).duties =
        Multiset.ofList (commands.map .command) +
          if commands.isEmpty then 0 else {.errand .serve 0} := by
    have waiting : config.bench.service.controller.trackers = [] := rfl
    have idle : config.bench.handling = false := rfl
    cases commands <;>
      simp [backlog, duties, jobs, loaded, waiting, idle, Job.matter]
  have talks : (config.loaded commands receipts issued).resolvers.flatMap (·.conversations) =
      [] := by
    simp only [loaded, bench, SimulatorConfig.resolvers]
    cases config.resolver <;> rfl
  have current : (fun trafficClass =>
      ((config.loaded commands receipts issued).service.controller.holder
        trafficClass).connectionId) = fun _ => none := by
    funext trafficClass
    cases trafficClass <;> rfl
  simp only [Bench.ledger, script, matters, talks, current]
  rfl

theorem mem_posted {command : Command} {messages : List MessageScript} {first : Ticket}
    (member : command ∈ posted first messages) :
    ∃ (message : MessageScript) (ticket : Ticket),
      message.payload.isWellFormed = true ∧ command = message.command ticket := by
  induction messages generalizing first with
  | nil => cases member
  | cons message rest ih =>
      unfold posted at member
      split at member
      · next wellFormed =>
          rcases List.mem_cons.mp member with rfl | later
          · exact ⟨message, first, wellFormed, rfl⟩
          · exact ih later
      · exact ih member

theorem command_mem_posted {messages : List MessageScript} {message : MessageScript}
    {first index : Nat} (there : messages[index]? = some message)
    (wellFormed : message.payload.isWellFormed = true) :
    message.command (first + index) ∈ posted first messages := by
  induction messages generalizing first index with
  | nil => cases there
  | cons other rest ih =>
      cases index with
      | zero =>
          obtain rfl := Option.some.inj there
          simp [posted, wellFormed]
      | succ index =>
          have later := @ih (first + 1) index there
          rw [Nat.add_right_comm, Nat.add_assoc] at later
          unfold posted
          split
          · exact List.mem_cons_of_mem _ later
          · exact later

theorem length_posted (first : Ticket) (messages : List MessageScript) :
    (posted first messages).length = messages.countP (·.payload.isWellFormed) := by
  induction messages generalizing first with
  | nil => rfl
  | cons message rest ih =>
      unfold posted
      split <;> simp [*]

/-- A message that is refused has nothing to do with any other. -/
theorem mem_refused {receipt : Receipt} {messages : List MessageScript} {first : Ticket}
    (member : receipt ∈ refused first messages) :
    receipt.Sound config ∧ sent? receipt = none ∧ delivered? receipt = none ∧
      success? receipt = none := by
  induction messages generalizing first with
  | nil => cases member
  | cons message rest ih =>
      unfold refused at member
      split at member
      · exact ih member
      · rcases List.mem_append.mp member with here | later
        · simp only [MessageScript.request, SendRequest.discard, if_true, List.mem_append,
            List.mem_singleton] at here
          rcases here with rfl | rfl <;> exact ⟨trivial, rfl, rfl, rfl⟩
        · exact ih later

/-- The bench with all its messages submitted. -/
def ready (config : SimulatorConfig) : Bench :=
  config.loaded (posted 0 config.messages) (refused 0 config.messages) config.messages.length

theorem staged_ready (valid : config.validate = .ok ()) : config.ready.Staged config :=
  staged_loaded valid ..

theorem submitAll_eq (valid : config.validate = .ok ()) :
    config.bench.submitAll config.messages =
      (config.messages.map MessageScript.verdict, config.ready) := by
  have filled := (validate_eq_ok valid).2.2
  have submitted := @submitAll_loaded config config.messages filled [] [] 0
  rw [List.nil_append, List.nil_append, Nat.zero_add] at submitted
  exact submitted

/-- No message has been sent or delivered before the simulation runs. -/
theorem tally_ready {count : Matter → Multiset Ticket} {told : Receipt → Option Ticket}
    (commands : ∀ (message : MessageScript) ticket,
      count (.command (message.command ticket)) = 0)
    (serve : count (.errand .serve 0) = 0)
    (silent : ∀ receipt ∈ refused 0 config.messages, told receipt = none) :
    (config.ready.ledger config).tally count told = 0 := by
  have receipts : (refused 0 config.messages).filterMap told = [] :=
    List.filterMap_eq_nil_iff.mpr silent
  have matters : (Multiset.ofList ((posted 0 config.messages).map Matter.command)).bind count =
      0 := by
    refine Multiset.eq_zero_of_forall_notMem fun ticket member => ?_
    obtain ⟨matter, there, counted⟩ := Multiset.mem_bind.mp member
    obtain ⟨command, among, rfl⟩ := List.mem_map.mp there
    obtain ⟨message, own, -, rfl⟩ := mem_posted among
    rw [commands] at counted
    exact Multiset.notMem_zero _ counted
  simp only [ready, ledger_loaded, Ledger.tally, Multiset.add_bind, matters, receipts]
  split <;> simp [serve]

/-- What one message and what one answer cost, and waking the service. -/
theorem cost_ready (tariff : Tariff) :
    tariff.cost (config.ready.ledger config) ≤
      tariff.entering * config.messages.countP (·.payload.isWellFormed) + tariff.serve +
        tariff.answer * (config.ims.responses.length + config.cs.responses.length) := by
  have entering : (((posted 0 config.messages).map Matter.command).map tariff.price).sum =
      tariff.entering * config.messages.countP (·.payload.isWellFormed) := by
    rw [← length_posted 0, List.map_map, List.sum_eq_card_nsmul _ tariff.entering]
    · simp [Nat.mul_comm]
    · intro price member
      obtain ⟨command, among, rfl⟩ := List.mem_map.mp member
      obtain ⟨message, ticket, -, rfl⟩ := mem_posted among
      rfl
  simp only [ready, ledger_loaded, Tariff.cost, Multiset.map_add, Multiset.sum_add,
    Multiset.map_coe, Multiset.sum_coe, entering, List.countP_nil, Nat.mul_zero, add_zero,
    linkScript]
  split
  · simp
  · simp [Tariff.price, Tariff.ofErrand]

theorem kept_ready (size : config.messages.length + config.ims.responses.length +
    config.cs.responses.length < UInt64.size) : (config.ready.ledger config).Kept config where
  sound := by
    rw [ready, ledger_loaded]
    refine ⟨fun matter member => ?_, fun _ _ => id, fun receipt member => (mem_refused member).1⟩
    rcases Multiset.mem_add.mp member with command | serve
    · obtain ⟨command, among, rfl⟩ := List.mem_map.mp command
      obtain ⟨message, ticket, wellFormed, rfl⟩ := mem_posted among
      exact ⟨wellFormed, rfl, rfl⟩
    · split at serve
      · cases serve
      · exact Multiset.mem_singleton.mp serve ▸ trivial
  attended := by
    rw [ready, ledger_loaded]
    intro command member
    have some : posted 0 config.messages ≠ [] := by
      intro none
      simp [none] at member
    refine ⟨.errand .serve 0, Multiset.mem_add.mpr (.inr ?_), rfl⟩
    simp [some]
  orderly := by
    rw [ready, ledger_loaded]
    refine ⟨fun _ member => ?_, fun _ member => ?_, fun _ _ selected => ?_⟩
    · exact absurd member List.not_mem_nil
    · exact absurd member List.not_mem_nil
    · cases selected
  room := by
    refine Nat.lt_of_le_of_lt (cost_ready Tariff.openings) ?_
    have most := List.countP_le_length (p := fun message : MessageScript =>
      message.payload.isWellFormed) (l := config.messages)
    simp only [Tariff.openings]
    omega

theorem cost_le_workload :
    Tariff.steps.cost (config.ready.ledger config) ≤ config.ready.workload := by
  have links (script : LinkScript) (policy : RetryPolicy) (modulus : UInt16) :
      (script.link policy modulus).script.length = script.responses.length := List.length_map _
  have most : config.messages.countP (·.payload.isWellFormed) + config.ims.responses.length +
      config.cs.responses.length ≤ config.ready.openMatters := by
    have ims : config.ready.ps.scriptLength = config.ims.responses.length := links ..
    have cs : config.ready.cs3gpp.scriptLength = config.cs.responses.length := links ..
    have commands : config.ready.service.commands.length =
        config.messages.countP (·.payload.isWellFormed) := length_posted ..
    simp only [openMatters, ims, cs, commands]
    omega
  have cost := @cost_ready config Tariff.steps
  simp only [Tariff.steps] at cost ⊢
  simp only [workload]
  omega

/-! ### The end of a simulation -/

/-- The bench of a simulation when it has come to rest. -/
def finished (config : SimulatorConfig) : Bench :=
  (config.bench.submitAll config.messages).2.runThrough .all

/-- How the messages of a simulation have been settled when it has come to rest. -/
structure Settled (config : SimulatorConfig) : Prop where
  still : config.finished.step? .all = none
  sound : ∀ receipt ∈ config.finished.receipts, receipt.Sound config
  sent : ∀ ticket message, config.messages[ticket]? = some message →
    message.payload.isWellFormed = true → ticket ∈ config.finished.receipts.filterMap sent?
  reported : ∀ ticket, ticket ∈ config.finished.receipts.filterMap success? →
    ticket ∈ config.finished.receipts.filterMap delivered?
  submitted : config.finished.submitted ≤ config.messages.countP (·.payload.isWellFormed) +
    (config.ims.responses.length + config.cs.responses.length)

/-- A simulation comes to rest with everything settled. -/
theorem settled (valid : config.validate = .ok ())
    (size : config.messages.length + config.ims.responses.length +
      config.cs.responses.length < UInt64.size) : config.Settled := by
  have kept := kept_ready size
  have finished_eq : config.finished = config.ready.iterate .all config.ready.workload := by
    rw [finished, submitAll_eq valid]
    rfl
  obtain ⟨staged, run, still⟩ := (staged_ready valid).iterate kept cost_le_workload
  rw [← finished_eq] at staged run still
  have nothing := staged.matters_of_still (kept.run run) still
  have tallied (count : Matter → Multiset Ticket) (told : Receipt → Option Ticket) :
      (config.finished.ledger config).tally count told =
        Multiset.ofList (config.finished.receipts.filterMap told) := by
    rw [Ledger.tally, nothing, Multiset.zero_bind, zero_add]
    rfl
  refine ⟨still, (kept.run run).sound.receipts, ?_, ?_, ?_⟩
  · intro ticket message there wellFormed
    have accounts := kept.accounts run
    have posts := @command_mem_posted _ _ 0 _ there wellFormed
    rw [Nat.zero_add] at posts
    have came : ticket ∈ (config.ready.ledger config).accounts := by
      rw [ready, ledger_loaded]
      refine Multiset.mem_add.mpr (.inl (Multiset.mem_bind.mpr
        ⟨_, Multiset.mem_add.mpr (.inl (List.mem_map_of_mem posts)), ?_⟩))
      exact Multiset.mem_singleton_self ticket
    rwa [← accounts, Ledger.accounts, tallied] at came
  · intro ticket success
    have even := kept.reports run (by
      rw [tally_ready (fun _ _ => rfl) rfl fun receipt member =>
          (@mem_refused config receipt _ _ member).2.2.1,
        tally_ready (fun _ _ => rfl) rfl fun receipt member =>
          (@mem_refused config receipt _ _ member).2.2.2])
    rw [tallied, tallied] at even
    exact Multiset.mem_coe.mp (even ▸ Multiset.mem_coe.mpr success)
  · have cost := (Tariff.cost_run Tariff.submissions_fair run).trans (cost_ready Tariff.submissions)
    simp only [Tariff.cost, Tariff.submissions] at cost
    have submissions : (config.finished.ledger config).submissions = config.finished.submitted :=
      rfl
    omega

theorem result?_of_mem {bench : Bench} {ticket : Ticket}
    (sent : ticket ∈ bench.receipts.filterMap sent?) :
    ∃ result, bench.result? ticket = some result ∧ .sent ticket result ∈ bench.receipts := by
  cases found : bench.result? ticket with
  | some result =>
      obtain ⟨receipt, member, same⟩ := List.exists_of_findSome?_eq_some found
      cases receipt with
      | sent other result' =>
          simp only [Option.ite_none_right_eq_some, Option.some.injEq] at same
          obtain ⟨rfl, rfl⟩ := same
          exact ⟨_, rfl, member⟩
      | _ => cases same
  | none =>
      obtain ⟨receipt, member, told⟩ := List.mem_filterMap.mp sent
      have passed := List.findSome?_eq_none_iff.mp found receipt member
      cases receipt with
      | sent other result =>
          obtain rfl := Option.some.inj told
          simp at passed
      | _ => cases told

theorem delivery?_of_mem {bench : Bench} {ticket : Ticket}
    (delivered : ticket ∈ bench.receipts.filterMap delivered?) :
    ∃ report, bench.delivery? ticket = some report.delivered ∧
      .delivered ticket report ∈ bench.receipts := by
  cases found : bench.delivery? ticket with
  | some told =>
      obtain ⟨receipt, member, same⟩ := List.exists_of_findSome?_eq_some found
      cases receipt with
      | delivered other report =>
          simp only [Option.ite_none_right_eq_some, Option.some.injEq] at same
          obtain ⟨rfl, rfl⟩ := same
          exact ⟨report, rfl, member⟩
      | _ => cases same
  | none =>
      obtain ⟨receipt, member, told⟩ := List.mem_filterMap.mp delivered
      have passed := List.findSome?_eq_none_iff.mp found receipt member
      cases receipt with
      | delivered other report =>
          obtain rfl := Option.some.inj told
          simp at passed
      | _ => cases told

/-- How the outcome of a message may look. It is refused exactly if its body cannot be
encoded, and otherwise completes: sent with a reference in range and reported as
delivered, or failed with a code that the scripts explain. -/
structure Resolves (config : SimulatorConfig) (message : MessageScript)
    (outcome : MessageOutcome) : Prop where
  messageId_eq : outcome.messageId = message.options.messageId
  destination_eq : outcome.destination = message.destination
  rejected_iff : outcome.resolution.isRejected = true ↔ message.payload.isWellFormed = false
  not_dropped : outcome.resolution ≠ .dropped
  completed : ∀ result delivered, outcome.resolution = .completed result delivered →
    (∃ messageRef, result = .sent (some messageRef) ∧
      messageRef.toNat < config.dispatch.messageRefModulus.toNat ∧ delivered = some true) ∨
    ∃ code, result = .failed code ∧ delivered = none ∧ config.Explains code

theorem Settled.resolves (settled : config.Settled) {ticket : Ticket} {message : MessageScript}
    (there : config.messages[ticket]? = some message) :
    config.Resolves message
      { messageId := message.options.messageId
        destination := message.destination
        resolution := config.finished.resolution ticket message.verdict } := by
  cases wellFormed : message.payload.isWellFormed with
  | false =>
      have refused : config.finished.resolution ticket message.verdict =
          .rejected (DispatchError.rejected .emptyPayload).message := by
        simp [resolution, MessageScript.verdict, wellFormed]
      refine ⟨rfl, rfl, ?_, ?_, ?_⟩
      · simp [refused, wellFormed, Resolution.isRejected]
      · simp [refused]
      · simp [refused]
  | true =>
      obtain ⟨result, given, member⟩ :=
        result?_of_mem (settled.sent ticket message there wellFormed)
      have completes : config.finished.resolution ticket message.verdict =
          .completed result
            (if result.isSuccess then config.finished.delivery? ticket else none) := by
        simp [resolution, MessageScript.verdict, wellFormed, given]
      have sound := settled.sound _ member
      refine ⟨rfl, rfl, ?_, ?_, fun other delivered same => ?_⟩
      · simp [completes, wellFormed, Resolution.isRejected]
      · simp [completes]
      · obtain ⟨rfl, rfl⟩ := Resolution.completed.inj (completes.symm.trans same)
        cases result with
        | sent messageRef =>
            obtain ⟨reference, rfl, within⟩ := sound
            have success : ticket ∈ config.finished.receipts.filterMap success? :=
              List.mem_filterMap.mpr ⟨_, member, rfl⟩
            obtain ⟨report, told, reported⟩ :=
              delivery?_of_mem (settled.reported ticket success)
            have arrived : report.delivered = true := settled.sound _ reported
            exact .inl ⟨reference, rfl, within, by simp [SendResult.isSuccess, told, arrived]⟩
        | failed code => exact .inr ⟨code, rfl, by simp [SendResult.isSuccess], sound⟩

/-- The messages that are not refused are the well-formed ones. -/
theorem countP_isRejected {messages : List MessageScript} {outcomes : List MessageOutcome}
    (resolved : List.Forall₂ config.Resolves messages outcomes) :
    outcomes.countP (!·.resolution.isRejected) =
      messages.countP (·.payload.isWellFormed) := by
  induction resolved with
  | nil => rfl
  | @cons message outcome _ _ resolves _ ih =>
      have opposite : outcome.resolution.isRejected = !message.payload.isWellFormed := by
        rw [Bool.eq_iff_iff, resolves.rejected_iff, Bool.not_eq_true']
      rw [List.countP_cons, List.countP_cons, ih, opposite, Bool.not_not]

theorem outcomes_run (valid : config.validate = .ok ()) :
    config.run.outcomes = config.messages.mapIdx fun ticket message =>
      { messageId := message.options.messageId
        destination := message.destination
        resolution := config.finished.resolution ticket message.verdict } := by
  have submitted := submitAll_eq valid
  refine List.ext_getElem ?_ fun index there _ => ?_
  · simp [SimulatorConfig.run, submitted]
  · simp [SimulatorConfig.run, submitted, finished]

/-- A simulation whose configuration is consistent ends, with nothing left that could
happen, and settles every message in its turn. There are no more submissions than messages
that were not refused and answers that the scripts hold.

The size is that of what one machine can hold: selections are numbered by words, and a
configuration which fits in memory has too few items for a number to come up again. -/
theorem simulate_settles (valid : config.validate = .ok ())
    (size : config.messages.length + config.ims.responses.length +
      config.cs.responses.length < UInt64.size) :
    ∃ outcomes,
      config.simulate = .ok { outcomes, elapsedMs := config.finished.agenda.clock } ∧
      config.finished.step? .all = none ∧
      List.Forall₂ config.Resolves config.messages outcomes ∧
      config.finished.submitted ≤ outcomes.countP (!·.resolution.isRejected) +
        (config.ims.responses.length + config.cs.responses.length) := by
  have settled := config.settled valid size
  have resolved : List.Forall₂ config.Resolves config.messages config.run.outcomes := by
    rw [outcomes_run valid, List.forall₂_iff_get]
    refine ⟨(List.length_mapIdx ..).symm, fun ticket there _ => ?_⟩
    rw [List.get_eq_getElem, List.get_eq_getElem, List.getElem_mapIdx]
    exact settled.resolves (List.getElem?_eq_getElem there)
  refine ⟨config.run.outcomes, ?_, settled.still, resolved, ?_⟩
  · rw [simulate, valid]
    rfl
  · rw [countP_isRejected resolved]
    exact settled.submitted

end SimulatorConfig

namespace Sample

/-- Three messages, one of them empty, over links that are in trouble. -/
def troubled : SimulatorConfig where
  ims := { responses := [.fallback], latencyMs := 10 }
  cs := { responses := [.retry .networkError, .rejected .networkReject], latencyMs := 20 }
  resolver := some { decision := .select .ps, latencyMs := 5 }
  messages := [
    { destination := "1111", payload := .text "one", options := { messageId := 1 } },
    { destination := "1111", payload := .text "", options := { messageId := 2 } },
    { destination := "1111", payload := .text "two", options := { messageId := 3 } }]

/-- Every message has its outcome, and there are at most five submissions. -/
theorem troubled_settles :
    ∃ outcomes,
      troubled.simulate = .ok { outcomes, elapsedMs := troubled.finished.agenda.clock } ∧
      List.Forall₂ troubled.Resolves troubled.messages outcomes ∧
      troubled.finished.submitted ≤ 2 + 3 := by
  have valid : troubled.validate = .ok () := rfl
  have accepted : troubled.messages.countP (·.payload.isWellFormed) = 2 := rfl
  obtain ⟨outcomes, simulated, -, resolved, submitted⟩ :=
    SimulatorConfig.simulate_settles valid (by decide)
  rw [SimulatorConfig.countP_isRejected resolved, accepted] at submitted
  exact ⟨outcomes, simulated, resolved, submitted⟩

end Sample

end OutboundSms
