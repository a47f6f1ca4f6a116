import OutboundSms.Proofs.Progress
import OutboundSms.Proofs.References

/-!
# Reading a ledger off a bench

What the bench of a simulation comes to as a ledger, what of the bench stays as the
simulation set it up, and what each operation of the bench does to its ledger.
-/

set_option autoImplicit false

namespace OutboundSms

@[simp] theorem SimulatorConfig.domain_slot (config : SimulatorConfig) (domain : Domain) :
    (config.slot domain).domain = domain := by
  cases domain <;> rfl

/-- The counter goes round in the range of the simulation. -/
structure ReferenceCounter.Runs (config : SimulatorConfig) (counter : ReferenceCounter) :
    Prop where
  modulus_eq : counter.modulus = config.dispatch.messageRefModulus
  bounded : counter.modulus.toNat ≤ 256
  within : counter.next.toNat < counter.modulus.toNat

namespace ReferenceCounter.Runs

variable {config : SimulatorConfig} {counter : ReferenceCounter}

theorem isBounded (runs : counter.Runs config) : counter.Bounded :=
  ⟨runs.bounded, runs.within⟩

theorem advance (runs : counter.Runs config) : counter.advance.Runs config where
  modulus_eq := runs.modulus_eq
  bounded := runs.bounded
  within := runs.isBounded.advance.next_lt

theorem inRange_peek (runs : counter.Runs config) : config.InRange counter.peek.toNat := by
  rw [SimulatorConfig.InRange, ← runs.modulus_eq, runs.isBounded.isExact.toNat_peek]
  exact runs.within

end ReferenceCounter.Runs

namespace Bench

/-! ### The ledger of a bench -/

def Job.matter (job : Job Errand) : Matter :=
  .errand job.work (if job.delay = 0 then 0 else 2)

def Timer.matter (timer : Timer Errand) : Matter :=
  .errand timer.work 1

def jobs (agenda : Agenda Errand) : Multiset Matter :=
  Multiset.ofList (agenda.ready.map Job.matter) +
    Multiset.ofList (agenda.timers.map Timer.matter)

/-- What joins a list at its end is one matter more. -/
theorem ofList_map_concat {α : Type} (matter : α → Matter) (items : List α) (item : α) :
    Multiset.ofList ((items ++ [item]).map matter) =
      matter item ::ₘ Multiset.ofList (items.map matter) := by
  rw [List.map_append, ← Multiset.coe_add, List.map_singleton, Multiset.coe_singleton, add_comm,
    Multiset.singleton_add]

/-- What the tasks have to do. -/
def duties (bench : Bench) : Multiset Matter :=
  jobs bench.agenda + if bench.handling then {.handling} else 0

/-- What waits for the service: commands, and messages that wait for a domain. -/
def backlog (service : Service) : Multiset Matter :=
  Multiset.ofList (service.commands.map .command) +
    Multiset.ofList (service.controller.trackers.map .waiting)

def Transport.responses (transport : Transport) : List LinkResponse :=
  match transport.device with
  | .recorder _ => []
  | .link link => link.script.map (·.response)

def Transport.submitted (transport : Transport) : Nat :=
  match transport.device with
  | .recorder _ => 0
  | .link link => link.submissions.length

/-- The number of submissions on all links. -/
def submitted (bench : Bench) : Nat :=
  bench.ps.submitted + bench.cs3gpp.submitted + bench.cs3gpp2.submitted

/-- The ledger with one matter more. -/
def Ledger.add (matter : Matter) (ledger : Ledger) : Ledger :=
  { ledger with matters := matter ::ₘ ledger.matters }

@[simp] theorem Ledger.matters_add (matter : Matter) (ledger : Ledger) :
    (ledger.add matter).matters = matter ::ₘ ledger.matters := rfl

def ledger (config : SimulatorConfig) (bench : Bench) : Ledger where
  matters := backlog bench.service + bench.duties
  talks := bench.resolvers.flatMap (·.conversations)
  current trafficClass := (bench.service.controller.holder trafficClass).connectionId
  opened := bench.service.controller.connectionsOpened.toNat
  script domain := (bench.transport (config.slot domain)).responses
  submissions := bench.submitted
  receipts := bench.receipts

/-! ### What stays as it was set up -/

structure ScriptedLink.Staged (config : SimulatorConfig) (domain : Domain) (link : ScriptedLink) :
    Prop where
  policy_eq : link.policy = .ofDomain config.dispatch domain
  logged : link.keepsLog = true
  reports : ∃ latency, link.reports = .confirm latency
  owns : link.ownRefs.isSome = (config.linkScript domain).ownMessageRefs
  runs : ∀ counter, link.ownRefs = some counter → counter.Runs config

structure Transport.Staged (config : SimulatorConfig) (slot : Slot) (transport : Transport) :
    Prop where
  domain_eq : transport.domain = slot.domain
  linked : ∃ link, transport.device = .link link ∧ link.Staged config slot.domain

end Bench

/-- A holder knows its waiter by the number of its connection. -/
structure ConnectionHolder.Staged (trafficClass : TrafficClass) (holder : ConnectionHolder) :
    Prop where
  agrees : holder.Agrees trafficClass
  waiter : ∀ active, holder.active = some active → active.waiter = some active.id.number.toNat

structure Controller.Staged (config : SimulatorConfig) (controller : Controller) : Prop where
  config_eq : controller.config = config.dispatch
  resolver_eq : controller.resolver = config.resolver.map fun _ => 0
  runs : controller.sequence.Runs config
  holder : ∀ trafficClass, (controller.holder trafficClass).Staged trafficClass

theorem Controller.Staged.agrees {config : SimulatorConfig} {controller : Controller}
    (staged : controller.Staged config) : controller.Agrees :=
  fun trafficClass => (staged.holder trafficClass).agrees

/-- What a simulation sets up on its bench and nothing takes back. -/
structure Bench.Staged (config : SimulatorConfig) (bench : Bench) : Prop where
  operation : bench.operation = .byService
  running : bench.service.running = true
  going : bench.stopping = false
  awaited : bench.abandoned = []
  format : bench.voiceFormat = config.voiceFormat
  untracked : bench.emergencyLog = none
  controller : bench.service.controller.Staged config
  transports : ∀ slot, (bench.transport slot).Staged config slot
  resolvers : (bench.resolvers.map fun resolver => (resolver.mode, resolver.script)) =
    (config.resolver.map fun script => (ConnectAnswer.issued, some script)).toList

/-- The answers that a controller gets on the bench of a simulation. -/
structure Surroundings.Staged (config : SimulatorConfig) (surroundings : Surroundings) :
    Prop where
  assigns : ∀ slot, (surroundings.transport slot).controllerAssignsRef =
    !(config.linkScript slot.domain).ownMessageRefs
  untracked : surroundings.tracksEmergency = false
  connects : config.resolver ≠ none → ∀ emergency, surroundings.connect 0 emergency = .issued

namespace Bench

variable {config : SimulatorConfig} {bench : Bench}

namespace Staged

/-- The parts of a bench that a simulation keeps changing. -/
theorem update (staged : bench.Staged config) (service : Service)
    (running : service.running = true) (controller : service.controller.Staged config)
    (agenda : Agenda Errand) (handling : Bool) (receipts : List Receipt) :
    Staged config { bench with service, agenda, handling, receipts } :=
  { staged with running, controller, transports := staged.transports }

theorem link (staged : bench.Staged config) (slot : Slot) :
    ∃ link, (bench.transport slot).device = .link link ∧ link.Staged config slot.domain :=
  (staged.transports slot).linked

/-- There is one resolver exactly where the simulation has a script for it. -/
theorem resolver (staged : bench.Staged config) {script : ResolverScript}
    (scripted : config.resolver = some script) :
    ∃ resolver, bench.resolvers = [resolver] ∧ resolver.mode = .issued ∧
      resolver.script = some script := by
  have resolvers := staged.resolvers
  rw [scripted] at resolvers
  obtain ⟨resolver, rest, all, same, none⟩ := List.map_eq_cons_iff.mp resolvers
  obtain rfl := List.map_eq_nil_iff.mp none
  exact ⟨resolver, all, congrArg Prod.fst same, congrArg Prod.snd same⟩

theorem surroundings (staged : bench.Staged config) : bench.surroundings.Staged config where
  assigns slot := by
    obtain ⟨link, device, linked⟩ := staged.link slot
    simp only [Bench.surroundings, Transport.facts, Transport.ownsRefs, device, linked.owns]
  untracked := by simp [Bench.surroundings, staged.untracked]
  connects := by
    intro scripted emergency
    obtain ⟨script, has⟩ := Option.ne_none_iff_exists'.mp scripted
    obtain ⟨resolver, all, mode, script_eq⟩ := staged.resolver has
    simp [Bench.surroundings, all, Resolver.connect, script_eq, mode, ResolverScript.connects]

end Staged

/-! ### Tasks and receipts -/

theorem ledger_start (delay : Nat) (errand : Errand) :
    (bench.start delay errand).ledger config =
      (bench.ledger config).add (.errand errand (if delay = 0 then 0 else 2)) := by
  have more : (bench.start delay errand).duties =
      .errand errand (if delay = 0 then 0 else 2) ::ₘ bench.duties := by
    simp only [duties, jobs, start, Agenda.start, ofList_map_concat, Multiset.cons_add]
    rfl
  simp only [ledger, more, Multiset.add_cons]
  rfl

theorem ledger_wait (delay : Nat) (errand : Errand) :
    ledger config { bench with agenda := bench.agenda.wait delay errand } =
      (bench.ledger config).add (.errand errand 1) := by
  have more : duties { bench with agenda := bench.agenda.wait delay errand } =
      .errand errand 1 ::ₘ bench.duties := by
    simp only [duties, jobs, Agenda.wait, ofList_map_concat, Timer.matter, Multiset.add_cons,
      Multiset.cons_add]
  simp only [ledger, more, Multiset.add_cons]
  rfl

theorem ledger_receive (receipts : List Receipt) :
    (bench.receive receipts).ledger config =
      { bench.ledger config with receipts := (bench.ledger config).receipts ++ receipts } := rfl

theorem Staged.start (staged : bench.Staged config) (delay : Nat) (errand : Errand) :
    (bench.start delay errand).Staged config :=
  staged.update _ staged.running staged.controller _ _ _

theorem Staged.wait (staged : bench.Staged config) (delay : Nat) (errand : Errand) :
    Staged config { bench with agenda := bench.agenda.wait delay errand } :=
  staged.update _ staged.running staged.controller _ _ _

theorem Staged.receive (staged : bench.Staged config) (receipts : List Receipt) :
    (bench.receive receipts).Staged config :=
  staged.update _ staged.running staged.controller _ _ _

/-- A command that is posted on the bench is posted on the ledger. -/
theorem Staged.post (staged : bench.Staged config) (command : Command) :
    (bench.post command).Staged config ∧
      ∃ made, Posts command (bench.ledger config).matters made ∧
        (bench.post command).ledger config = { bench.ledger config with matters := made } := by
  let service : Service := { bench.service with commands := bench.service.commands ++ [command] }
  let queued : Bench := { bench with service }
  have posted : bench.post command = queued.wakeService := by
    simp only [Bench.post, Service.post, staged.running, if_true, queued, service]
  have more : queued.ledger config = (bench.ledger config).add (.command command) := by
    have more : backlog queued.service = .command command ::ₘ backlog bench.service := by
      simp only [queued, service, backlog, ofList_map_concat, Multiset.cons_add]
    simp only [ledger, more, Multiset.cons_add]
    rfl
  have stagedQueued : queued.Staged config :=
    staged.update service staged.running staged.controller _ _ _
  rw [posted, wakeService]
  by_cases waits : (queued.operation = .byService && queued.service.running && !queued.handling &&
      !queued.agenda.ready.any (isServing ·.work)) = true
  · rw [if_pos waits]
    refine ⟨stagedQueued.start _ _, _, .woken, ?_⟩
    rw [ledger_start, more, Ledger.add, Ledger.matters_add, Multiset.cons_swap]
    rfl
  · rw [if_neg waits]
    refine ⟨stagedQueued, _, .awake ?_, more⟩
    have busy : bench.handling = true ∨ ∃ job ∈ bench.agenda.ready, isServing job.work = true := by
      simpa [queued, service, staged.operation, staged.running, or_iff_not_imp_left] using waits
    rcases busy with handling | ⟨job, member, serves⟩
    · exact ⟨.handling, by simp [ledger, duties, handling], rfl⟩
    · refine ⟨job.matter, ?_, serves⟩
      have among := List.mem_map_of_mem (f := Job.matter) member
      simp [ledger, duties, jobs, among]

/-! ### Devices -/

@[simp] theorem transport_setDevice_self (slot : Slot) (device : Device) :
    (bench.setDevice slot device).transport slot = { bench.transport slot with device } := by
  cases slot with
  | ps => rfl
  | cs format => cases format <;> rfl

theorem transport_setDevice_of_ne {slot other : Slot} (device : Device)
    (different : other ≠ slot) :
    (bench.setDevice slot device).transport other = bench.transport other := by
  cases slot with
  | ps =>
      cases other with
      | ps => exact absurd rfl different
      | cs format => cases format <;> rfl
  | cs format =>
      cases other with
      | ps => cases format <;> rfl
      | cs another => cases format <;> cases another <;> first | rfl | exact absurd rfl different

theorem Staged.setLink (staged : bench.Staged config) {slot : Slot} {link : ScriptedLink}
    (linked : link.Staged config slot.domain) :
    (bench.setDevice slot (.link link)).Staged config := by
  have transports (other : Slot) :
      ((bench.setDevice slot (.link link)).transport other).Staged config other := by
    by_cases same : other = slot
    · subst same
      rw [transport_setDevice_self]
      exact ⟨(staged.transports other).domain_eq, link, rfl, linked⟩
    · rw [transport_setDevice_of_ne _ same]
      exact staged.transports other
  have same : bench.setDevice slot (.link link) =
      { bench with
        ps := (bench.setDevice slot (.link link)).ps
        cs3gpp := (bench.setDevice slot (.link link)).cs3gpp
        cs3gpp2 := (bench.setDevice slot (.link link)).cs3gpp2 } := by
    cases slot with
    | ps => rfl
    | cs format => cases format <;> rfl
  rw [same] at transports ⊢
  exact { staged with transports }

/-- The ledger sees of a link its script and how many submissions it has had. -/
theorem ledger_setLink {domain : Domain} {old link : ScriptedLink}
    (there : (bench.transport (config.slot domain)).device = .link old) (more : Nat)
    (longer : link.submissions.length = old.submissions.length + more) :
    (bench.setDevice (config.slot domain) (.link link)).ledger config =
      { bench.ledger config with
        script := Function.update (bench.ledger config).script domain
          (link.script.map (·.response))
        submissions := (bench.ledger config).submissions + more } := by
  have script : (fun other => ((bench.setDevice (config.slot domain) (.link link)).transport
      (config.slot other)).responses) = Function.update (bench.ledger config).script domain
        (link.script.map (·.response)) := by
    funext other
    by_cases same : other = domain
    · subst same
      simp [Transport.responses]
    · rw [Function.update_of_ne same,
        transport_setDevice_of_ne _ fun equal => same (config.slot_injective equal)]
      rfl
  have submissions : (bench.setDevice (config.slot domain) (.link link)).submitted =
      bench.submitted + more := by
    generalize config.slot domain = slot at there
    cases slot with
    | ps =>
        simp only [transport] at there
        simp only [submitted, setDevice, setTransport, Transport.submitted, there, longer]
        omega
    | cs format =>
        cases format <;> simp only [transport] at there <;>
          simp only [submitted, setDevice, setTransport, Transport.submitted, there, longer] <;>
          omega
  have same : (bench.setDevice (config.slot domain) (.link link)).ledger config =
      { bench.ledger config with
        script := (bench.setDevice (config.slot domain) (.link link)).ledger config |>.script
        submissions := (bench.setDevice (config.slot domain) (.link link)).submitted } := by
    generalize config.slot domain = slot
    cases slot with
    | ps => rfl
    | cs format => cases format <;> rfl
  rw [same, submissions]
  exact congrArg (fun script => { bench.ledger config with
    script, submissions := bench.submitted + more }) script

/-! ### Conversations -/

theorem conversation?_eq (connection : ConnectionId) :
    bench.conversation? connection = findTalk? connection (bench.ledger config).talks := by
  simp only [conversation?, findTalk?, ledger, List.find?_flatMap]
  rfl

theorem ledger_modifyConversation (connection : ConnectionId)
    (change : Conversation → Conversation) :
    (bench.modifyConversation connection change).ledger config =
      { bench.ledger config with
        talks := modifyTalks connection change (bench.ledger config).talks } := by
  have talks : (bench.modifyConversation connection change).resolvers.flatMap (·.conversations) =
      modifyTalks connection change (bench.resolvers.flatMap (·.conversations)) := by
    rw [modifyTalks, List.map_flatMap, modifyConversation, List.flatMap_map]
    rfl
  exact congrArg (fun talks => { bench.ledger config with talks }) talks

theorem Staged.modifyResolvers (staged : bench.Staged config) {resolvers : List Resolver}
    (same : (resolvers.map fun resolver => (resolver.mode, resolver.script)) =
      bench.resolvers.map fun resolver => (resolver.mode, resolver.script)) :
    Staged config { bench with resolvers } :=
  { staged with transports := staged.transports, resolvers := same.trans staged.resolvers }

theorem Staged.modifyConversation (staged : bench.Staged config) (connection : ConnectionId)
    (change : Conversation → Conversation) :
    (bench.modifyConversation connection change).Staged config :=
  staged.modifyResolvers (by rw [List.map_map]; rfl)

end Bench

end OutboundSms
