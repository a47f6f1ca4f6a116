import OutboundSms.Proofs.Turns

/-!
# What the bench of a simulation does step by step

Every step of the bench is at least one step of its ledger. A task that goes on until a
wait begins takes several, and so does the clock when it lets several waits end at once.
-/

set_option autoImplicit false

namespace OutboundSms.Bench

open Relation (TransGen ReflTransGen)

variable {config : SimulatorConfig} {bench : Bench}

/-! ### Waiters -/

theorem modifyTalks_of_none {connection : ConnectionId} {talks : List Conversation}
    (unknown : findTalk? connection talks = none) (change : Conversation → Conversation) :
    modifyTalks connection change talks = talks := by
  refine (List.map_congr_left fun talk member => ?_).trans (List.map_id talks)
  have different := List.find?_eq_none.mp unknown talk member
  simp only [different, Bool.false_eq_true, if_false, id]

namespace Staged

variable {connection : ConnectionId}

/-- A task that has nothing to pass on ends. -/
theorem dismiss (staged : bench.Staged config) {errand : Errand}
    (about : errand = .awaitDecision connection ∨ ∃ result, errand = .decide connection result)
    (gone : ∀ talk, bench.conversation? connection = some talk →
      talk.stopping = true ∨ talk.isAttended = false) :
    (bench.endWaiter connection).Staged config ∧
      Ledger.Step config ((bench.ledger config).add (.errand errand 0))
        ((bench.endWaiter connection).ledger config) := by
  refine ⟨staged.modifyConversation connection _, ?_⟩
  rw [endWaiter, ledger_modifyConversation]
  exact .dismissed rfl about fun talk found => gone talk (by rwa [@conversation?_eq config])

theorem dismiss_of_none (staged : bench.Staged config) {errand : Errand}
    (about : errand = .awaitDecision connection ∨ ∃ result, errand = .decide connection result)
    (unknown : bench.conversation? connection = none) :
    bench.Staged config ∧
      Ledger.Step config ((bench.ledger config).add (.errand errand 0)) (bench.ledger config) := by
  refine ⟨staged, ?_⟩
  have step := (staged.dismiss about fun talk found => by rw [unknown] at found; cases found).2
  rw [@conversation?_eq config] at unknown
  rwa [endWaiter, ledger_modifyConversation, modifyTalks_of_none unknown] at step

/-- A scripted answer is passed on while its waiter is there. -/
theorem runDecide (staged : bench.Staged config) (connection : ConnectionId)
    (result : Except SelectionError Domain) :
    (bench.runDecide connection result).Staged config ∧
      Ledger.Step config ((bench.ledger config).add (.errand (.decide connection result) 0))
        ((bench.runDecide connection result).ledger config) := by
  unfold Bench.runDecide
  split
  · next talk found =>
      split
      · have found' := found
        rw [@conversation?_eq config] at found'
        obtain ⟨-, rfl⟩ := Ledger.findTalk?_eq_some found'
        have ended := staged.modifyConversation talk.connection
          (fun conversation => { conversation with waiter := .ended })
        obtain ⟨posted, made, posts, more⟩ :=
          ended.post (.selectionCompleted talk.trafficClass talk.connection result)
        refine ⟨posted, ?_⟩
        rw [ledger_modifyConversation] at posts more
        rw [passOn, endWaiter, more]
        exact .decided rfl found' posts
      · next idle =>
          refine staged.dismiss (.inr ⟨result, rfl⟩) fun other same => ?_
          obtain rfl := Option.some.inj (found.symm.trans same)
          cases attended : talk.isAttended <;> simp_all
  · next unknown => exact staged.dismiss_of_none (.inr ⟨result, rfl⟩) unknown

/-- A waiter parks, and where the script has an answer it is on its way by then. -/
theorem runAwaitDecision (staged : bench.Staged config) (connection : ConnectionId)
    (scripted : ∀ talk ∈ (bench.ledger config).talks,
      talk.script = config.resolver ∧ talk.answer = .open) :
    (bench.runAwaitDecision connection).Staged config ∧
      TransGen (Ledger.Step config)
        ((bench.ledger config).add (.errand (.awaitDecision connection) 0))
        ((bench.runAwaitDecision connection).ledger config) := by
  have parked : (bench.parkWaiter connection).Staged config :=
    staged.modifyConversation connection park
  have parks : (bench.parkWaiter connection).ledger config =
      { bench.ledger config with
        talks := modifyTalks connection park (bench.ledger config).talks } :=
    ledger_modifyConversation connection park
  unfold Bench.runAwaitDecision
  split
  · next talk found =>
      have found' := found
      rw [@conversation?_eq config] at found'
      obtain ⟨script_eq, answer_eq⟩ := scripted talk (Ledger.findTalk?_eq_some found').1
      split
      · next stopping =>
          obtain ⟨kept, step⟩ := staged.dismiss (.inl rfl) fun other same =>
            .inl (by rw [← Option.some.inj (found.symm.trans same), stopping])
          exact ⟨kept, .single step⟩
      · simp only [answer_eq, script_eq]
        cases resolver : config.resolver with
        | none =>
            refine ⟨parked, .single ?_⟩
            rw [parks]
            exact .parked rfl (by simp [SimulatorConfig.answer?, resolver])
        | some script =>
            have answer : config.answer? = scriptedAnswer? script := by
              simp [SimulatorConfig.answer?, resolver]
            simp only [awaitScript]
            cases given : scriptedAnswer? script with
            | none =>
                refine ⟨parked, .single ?_⟩
                rw [parks]
                exact .parked rfl (answer.trans given)
            | some result =>
                dsimp only
                split
                · -- The answer takes no time, so it is passed on at once.
                  obtain ⟨decided, step⟩ := parked.runDecide connection result
                  refine ⟨decided, .head ?_ (.single step)⟩
                  rw [parks]
                  exact .asked rfl (answer.trans given) (Nat.zero_le _)
                · refine ⟨parked.wait _ _, .single ?_⟩
                  rw [ledger_wait, parks]
                  exact .asked rfl (answer.trans given) le_rfl
  · next unknown =>
      obtain ⟨kept, step⟩ := staged.dismiss_of_none (.inl rfl) unknown
      exact ⟨kept, .single step⟩

end Staged

/-! ### Links -/

theorem setDevice_setDevice (slot : Slot) (first second : Device) :
    (bench.setDevice slot first).setDevice slot second = bench.setDevice slot second := by
  cases slot with
  | ps => rfl
  | cs format => cases format <;> rfl

theorem setDevice_of_eq {slot : Slot} {device : Device}
    (same : (bench.transport slot).device = device) : bench.setDevice slot device = bench := by
  subst same
  cases slot with
  | ps => rfl
  | cs format => cases format <;> rfl

/-- What becomes of the bench where a link transport stops. -/
def halt (slot : Slot) (domain : Domain) (stopped : ScriptedLink × LinkPause) (bench : Bench) :
    Bench :=
  let bench := bench.setDevice slot (.link stopped.1)
  match stopped.2 with
  | .finished tracker outcome registers =>
      let bench := match registers with
        | some callback => bench.registerCallback slot callback
        | none => bench
      bench.post (.outcome tracker domain outcome)
  | .waiting delay stage =>
      { bench with agenda := bench.agenda.wait delay (.proceed slot stage) }

theorem runProceed_eq {slot : Slot} {link : ScriptedLink} (stage : LinkStage)
    (there : (bench.transport slot).device = .link link) :
    bench.runProceed slot stage = bench.halt slot (bench.transport slot).domain
      (stage.proceed bench.agenda.clock (bench.transport slot).domain
        (bench.transport slot).format link.policy link) := by
  simp only [runProceed, there]
  rfl

theorem ScriptedLink.Staged.submit {domain : Domain} {link : ScriptedLink}
    (staged : link.Staged config domain) (time : Nat) (submission : Submission) :
    (link.submit time submission).1.Staged config domain ∧
      (link.submit time submission).1.submissions.length = link.submissions.length + 1 ∧
      ((∃ more, link.script = (link.submit time submission).2 :: more ∧
          (link.submit time submission).1.script = more) ∨
        link.script = [] ∧ (link.submit time submission).1.script = [] ∧
          (link.submit time submission).2.response = .accepted) := by
  simp only [ScriptedLink.submit, staged.logged, if_true]
  split
  · next answer more script =>
      exact ⟨⟨staged.policy_eq, rfl, staged.reports, staged.owns, staged.runs⟩,
        by simp, .inl ⟨more, script, rfl⟩⟩
  · next script =>
      exact ⟨⟨staged.policy_eq, rfl, staged.reports, staged.owns, staged.runs⟩,
        by simp, .inr ⟨script, script, rfl⟩⟩

theorem halt_setDevice (slot : Slot) (domain : Domain) (device : Device)
    (stopped : ScriptedLink × LinkPause) :
    (bench.setDevice slot device).halt slot domain stopped = bench.halt slot domain stopped := by
  simp only [halt, setDevice_setDevice]

namespace Staged

variable {domain : Domain} {link : ScriptedLink}

/-- A submission takes the next answer of the script, or is accepted without one. -/
theorem submit (staged : bench.Staged config)
    (there : (bench.transport (config.slot domain)).device = .link link) (time : Nat)
    (tracker : Tracker) (submission : Submission) {lead : Nat} (short : lead ≤ 1) :
    (bench.setDevice (config.slot domain)
        (.link (link.submit time submission).1)).Staged config ∧
      Ledger.Step config
        ((bench.ledger config).add
          (.errand (.proceed (config.slot domain) (.submitting tracker)) 0))
        (((bench.setDevice (config.slot domain)
            (.link (link.submit time submission).1)).ledger config).add
          (.errand (.proceed (config.slot domain)
            (.answered tracker (link.submit time submission).2.response)) lead)) := by
  obtain ⟨old, device, linked⟩ := staged.link (config.slot domain)
  obtain rfl : old = link := Device.link.inj (device.symm.trans there)
  obtain ⟨kept, longer, script⟩ := linked.submit time submission
  refine ⟨staged.setLink kept, ?_⟩
  have left : (bench.ledger config).script domain = old.script.map (·.response) := by
    simp only [ledger, Transport.responses, device]
  rw [ledger_setLink device 1 longer]
  rcases script with ⟨more, scripted, rest⟩ | ⟨empty, rest, accepted⟩
  · rw [rest]
    exact .answered rfl (by rw [Ledger.add, left, scripted]; rfl) short
  · rw [rest, accepted]
    have same : (bench.ledger config).script domain = [] := by rw [left, empty]; rfl
    rw [List.map_nil, ← same, Function.update_eq_self]
    exact .accepted rfl same short

/-- A link transport that is done reports the outcome, and its link confirms the message
where it was given the callback. -/
theorem report (staged : bench.Staged config)
    (there : (bench.transport (config.slot domain)).device = .link link) {label : Domain}
    (tracker : Tracker) (outcome : TransportOutcome) (registers : Option StatusCallback) :
    (bench.halt (config.slot domain) label
        (link, .finished tracker outcome registers)).Staged config ∧
      ∃ lead made, lead ≤ 2 ∧
        Posts (.outcome tracker label outcome)
          (confirmations registers lead + (bench.ledger config).matters) made ∧
        (bench.halt (config.slot domain) label
            (link, .finished tracker outcome registers)).ledger config =
          { bench.ledger config with matters := made } := by
  simp only [halt, setDevice_of_eq there]
  cases registers with
  | none =>
      obtain ⟨kept, made, posts, more⟩ := staged.post (.outcome tracker label outcome)
      exact ⟨kept, 0, made, Nat.zero_le _, by rwa [confirmations, zero_add], more⟩
  | some callback =>
      obtain ⟨old, device, linked⟩ := staged.link (config.slot domain)
      obtain rfl : old = link := Device.link.inj (device.symm.trans there)
      obtain ⟨latency, reports⟩ := linked.reports
      have registered : bench.registerCallback (config.slot domain) callback =
          bench.start latency (.confirm callback) := by
        simp only [registerCallback, device, reports]
      obtain ⟨kept, made, posts, more⟩ :=
        (staged.start latency (.confirm callback)).post (.outcome tracker label outcome)
      rw [ledger_start] at posts more
      simp only [registered]
      refine ⟨kept, if latency = 0 then 0 else 2, made, by split <;> decide, ?_, more⟩
      rwa [confirmations, Multiset.singleton_add]

/-- A link transport goes on with a message until a wait begins or its outcome is known. -/
theorem proceed (staged : bench.Staged config)
    (there : (bench.transport (config.slot domain)).device = .link link) (time : Nat)
    (format : SmsFormat) (stage : LinkStage) :
    (bench.halt (config.slot domain) domain
        (stage.proceed time domain format (.ofDomain config.dispatch domain) link)).Staged config ∧
      TransGen (Ledger.Step config)
        ((bench.ledger config).add (.errand (.proceed (config.slot domain) stage) 0))
        ((bench.halt (config.slot domain) domain
          (stage.proceed time domain format (.ofDomain config.dispatch domain) link)).ledger
            config) := by
  fun_induction LinkStage.proceed time domain format (.ofDomain config.dispatch domain) stage link
    generalizing bench with
  -- A submission whose answer is there at once, and one whose answer takes its time.
  | case1 link tracker next answer submitted instant ih =>
      obtain ⟨kept, step⟩ :=
        staged.submit there time tracker (.ofTracker tracker format) (Nat.zero_le 1)
      rw [submitted] at kept step
      have halted := ih kept (by rw [transport_setDevice_self])
      rw [halt_setDevice] at halted
      exact ⟨halted.1, .head step halted.2⟩
  | case2 link tracker next answer submitted takes =>
      obtain ⟨kept, step⟩ := staged.submit there time tracker (.ofTracker tracker format) le_rfl
      rw [submitted] at kept step
      refine ⟨kept.wait _ _, .single ?_⟩
      rw [halt, ledger_wait]
      exact step
  -- An answer makes the link transport report, hand back or submit again. The last two may
  -- have to wait before, and a link transport that goes on at once takes two steps in one.
  | case3 link tracker response last outcome registers reaction =>
      obtain ⟨kept, lead, made, short, posts, more⟩ := staged.report there last outcome registers
      refine ⟨kept, .single ?_⟩
      rw [more]
      exact .reported rfl reaction short posts
  | case4 link tracker response last reaction instant =>
      obtain ⟨kept, lead, made, -, posts, more⟩ := staged.report there last .retryRequested none
      refine ⟨kept, .head (.returned rfl reaction (Nat.zero_le _)) (.single ?_)⟩
      rw [more]
      rw [confirmations, zero_add] at posts
      exact .handedBack rfl posts
  | case5 link tracker response last reaction takes =>
      simp only [halt, setDevice_of_eq there]
      refine ⟨staged.wait _ _, .single ?_⟩
      rw [ledger_wait]
      exact .returned rfl reaction le_rfl
  | case6 link tracker response next reaction instant ih =>
      obtain ⟨kept, steps⟩ := ih staged there
      exact ⟨kept, .head (.repeated rfl reaction (Nat.zero_le _)) steps⟩
  | case7 link tracker response next reaction takes =>
      simp only [halt, setDevice_of_eq there]
      refine ⟨staged.wait _ _, .single ?_⟩
      rw [ledger_wait]
      exact .repeated rfl reaction le_rfl
  | case8 link tracker =>
      obtain ⟨kept, lead, made, -, posts, more⟩ := staged.report there tracker .retryRequested none
      refine ⟨kept, .single ?_⟩
      rw [more]
      rw [confirmations, zero_add] at posts
      exact .handedBack rfl posts

end Staged

/-! ### Steps -/

theorem ledger_serve (idle : bench.handling = false) :
    ledger config { bench with handling := true } = (bench.ledger config).add .handling := by
  have more : duties { bench with handling := true } = .handling ::ₘ bench.duties := by
    simp only [duties, idle, if_true, Bool.false_eq_true, if_false, add_zero,
      ← Multiset.singleton_add]
    abel
  simp only [ledger, more, Multiset.add_cons]
  rfl

namespace Staged

/-- A task that runs is at least one step of the ledger. -/
theorem run (staged : bench.Staged config) (idle : bench.handling = false) {errand : Errand}
    (kept : ((bench.ledger config).add (.errand errand 0)).Kept config) :
    (bench.run errand).Staged config ∧
      TransGen (Ledger.Step config) ((bench.ledger config).add (.errand errand 0))
        ((bench.run errand).ledger config) := by
  have sound : errand.Sound config := kept.sound.matters _ (Multiset.mem_cons_self _ _)
  cases errand with
  | serve =>
      have serves : bench.run .serve = { bench with handling := true } := by
        simp only [Bench.run, runServe, staged.going, Bool.false_eq_true, if_false]
      rw [serves]
      refine ⟨staged.update _ staged.running staged.controller _ _ _, .single ?_⟩
      rw [ledger_serve idle]
      exact .served rfl
  | awaitDecision connection => exact staged.runAwaitDecision connection kept.orderly.scripted
  | decide connection result =>
      obtain ⟨decided, step⟩ := staged.runDecide connection result
      exact ⟨decided, .single step⟩
  | proceed slot stage =>
      obtain ⟨-, -, domain, rfl, -⟩ := sound
      obtain ⟨link, there, linked⟩ := staged.link (config.slot domain)
      have domain_eq := (staged.transports (config.slot domain)).domain_eq
      have policy_eq := linked.policy_eq
      rw [config.domain_slot] at domain_eq policy_eq
      rw [Bench.run, runProceed_eq stage there, domain_eq, policy_eq]
      exact staged.proceed there _ _ stage
  | post command =>
      obtain ⟨trafficClass, connection, ends⟩ := sound
      obtain ⟨posted, made, posts, more⟩ := staged.post command
      refine ⟨posted, .single ?_⟩
      rw [Bench.run, more]
      exact .posted rfl ends posts
  | confirm callback =>
      have told : bench.run (.confirm callback) = bench.receive
          [callback.deliver
            { messageRef := callback.messageRef, delivered := true, status := 0 }] := by
        simp [Bench.run, deliver, isAwaited, staged.awaited]
      rw [told]
      exact ⟨staged.receive _, .single (.confirmed rfl rfl)⟩

theorem runJob (staged : bench.Staged config) (idle : bench.handling = false) {job : Job Errand}
    (kept : ((bench.ledger config).add job.matter).Kept config) :
    (bench.runJob job).Staged config ∧
      TransGen (Ledger.Step config) ((bench.ledger config).add job.matter)
        ((bench.runJob job).ledger config) := by
  unfold Job.matter at kept ⊢
  unfold Bench.runJob
  split
  · next instant =>
      rw [if_pos instant] at kept
      exact staged.run idle kept
  · refine ⟨staged.wait _ _, .single ?_⟩
    rw [ledger_wait]
    exact .neared rfl

end Staged

theorem matters_cons (errand : Errand) (rest : List Errand) (lead : Nat)
    (matters : Multiset Matter) :
    Multiset.ofList ((errand :: rest).map (Matter.errand · lead)) + matters =
      .errand errand lead ::ₘ (Multiset.ofList (rest.map (Matter.errand · lead)) + matters) := by
  rw [List.map_cons, ← Multiset.cons_coe, Multiset.cons_add]

/-- Waits that end together end one after another on the ledger. -/
theorem near_all (errands : List Errand) (ledger : Ledger) :
    ReflTransGen (Ledger.Step config)
      { ledger with
        matters := Multiset.ofList (errands.map (.errand · 1)) + ledger.matters }
      { ledger with
        matters := Multiset.ofList (errands.map (.errand · 0)) + ledger.matters } := by
  induction errands generalizing ledger with
  | nil => exact .refl
  | cons errand rest ih =>
      simp only [matters_cons]
      have others := ih (ledger.add (.errand errand 0))
      simp only [Ledger.add, Multiset.add_cons] at others
      exact .head (.neared rfl) others

/-- Moving the clock on brings the waits that are over by then to their ends. -/
theorem jobs_advanceTo (agenda : Agenda Errand) (time : Nat) :
    ∃ (errands : List Errand) (others : Multiset Matter),
      jobs agenda = Multiset.ofList (errands.map (.errand · 1)) + others ∧
      jobs (agenda.advanceTo time) = Multiset.ofList (errands.map (.errand · 0)) + others ∧
      (agenda.nextDeadline? = some time → errands ≠ []) := by
  let due := agenda.timers.filter (·.deadline ≤ time)
  let waits := (agenda.timers.filter (time < ·.deadline)).map Timer.matter
  refine ⟨due.map (·.work),
    Multiset.ofList (agenda.ready.map Job.matter) + Multiset.ofList waits, ?_, ?_, ?_⟩
  · have split : agenda.timers.filter (time < ·.deadline) =
        agenda.timers.filter fun timer => !decide (timer.deadline ≤ time) :=
      List.filter_congr fun timer _ => by simp only [← Nat.not_le, decide_not]
    have timers : Multiset.ofList (agenda.timers.map Timer.matter) =
        Multiset.ofList ((due.map (·.work)).map (.errand · 1)) + Multiset.ofList waits := by
      simp only [waits, due, split, List.map_map, Multiset.coe_add]
      exact Multiset.coe_eq_coe.mpr ((List.map_append ..).symm ▸
        ((List.filter_append_perm _ _).map Timer.matter).symm)
    rw [jobs, timers]
    abel
  · have ready : (agenda.advanceTo time).ready.map Job.matter =
        agenda.ready.map Job.matter ++ (due.map (·.work)).map (.errand · 0) := by
      simp only [Agenda.advanceTo, List.map_append, List.map_map]
      rfl
    have timers : (agenda.advanceTo time).timers.map Timer.matter = waits := rfl
    rw [jobs, ready, timers, ← Multiset.coe_add]
    abel
  · intro next
    obtain ⟨timer, member, rfl⟩ := List.mem_map.mp (List.min?_mem next)
    have among : timer ∈ due := List.mem_filter.mpr ⟨member, by simp⟩
    exact List.ne_nil_of_mem (List.mem_map_of_mem among)

/-- The clock lets waits end, at least the one it moves on to. -/
theorem Staged.moveClock (staged : bench.Staged config) {after : Bench}
    (moved : bench.moveClock? .all = some after) :
    after.Staged config ∧ TransGen (Ledger.Step config) (bench.ledger config)
      (after.ledger config) := by
  unfold moveClock? at moved
  split at moved
  · next time next =>
      obtain rfl := Option.some.inj moved
      refine ⟨staged.update _ staged.running staged.controller _ _ _, ?_⟩
      obtain ⟨errands, others, before, later, some⟩ := jobs_advanceTo bench.agenda time
      -- At least one wait ends, because the clock moves on to the next deadline only.
      obtain ⟨first, rest, rfl⟩ := List.exists_cons_of_ne_nil (some next)
      let kept : Ledger :=
        { bench.ledger config with
          matters := others + (backlog bench.service + if bench.handling then {.handling} else 0) }
      have start : bench.ledger config =
          { kept with
            matters := Multiset.ofList ((first :: rest).map (.errand · 1)) + kept.matters } := by
        simp only [ledger, duties, before, kept]
        congr 1
        abel
      have goal : ledger config { bench with agenda := bench.agenda.advanceTo time } =
          { kept with
            matters := Multiset.ofList ((first :: rest).map (.errand · 0)) + kept.matters } := by
        simp only [ledger, duties, later, kept]
        congr 1
        abel
      have steps := @near_all config rest (kept.add (.errand first 0))
      rw [start, goal]
      simp only [Ledger.add, Multiset.add_cons, matters_cons] at steps ⊢
      exact .head' (.neared rfl) steps
  · cases moved

theorem ledger_takeCommand {command : Command} {rest : List Command}
    (queued : bench.service.commands = command :: rest) :
    bench.ledger config =
      (ledger config { bench with service := { bench.service with commands := rest } }).add
        (.command command) := by
  have backlog_eq : backlog bench.service =
      .command command ::ₘ backlog { bench.service with commands := rest } := by
    rw [backlog, queued, List.map_cons, ← Multiset.cons_coe, Multiset.cons_add]
    rfl
  simp only [ledger, backlog_eq, Multiset.cons_add]
  rfl

theorem ledger_takeJob {job : Job Errand} {rest : List (Job Errand)}
    (ready : bench.agenda.ready = job :: rest) :
    bench.ledger config =
      (ledger config { bench with agenda := { bench.agenda with ready := rest } }).add
        job.matter := by
  have duties_eq : bench.duties =
      job.matter ::ₘ duties { bench with agenda := { bench.agenda with ready := rest } } := by
    rw [duties, jobs, ready, List.map_cons, ← Multiset.cons_coe, Multiset.cons_add,
      Multiset.cons_add]
    rfl
  simp only [ledger, duties_eq, Multiset.add_cons]
  rfl

theorem command_notMem_duties (command : Command) : .command command ∉ bench.duties := by
  simp only [duties, jobs, Multiset.mem_add, Multiset.mem_coe, List.mem_map, Job.matter,
    Timer.matter]
  split <;> simp

/-- Every step of the bench of a simulation is at least one step of its ledger. -/
theorem Staged.step (staged : bench.Staged config) (kept : (bench.ledger config).Kept config)
    {after : Bench} (stepped : bench.step? .all = some after) :
    after.Staged config ∧
      TransGen (Ledger.Step config) (bench.ledger config) (after.ledger config) := by
  unfold step? at stepped
  split at stepped
  · next handling =>
      unfold applyNext Service.applyNext at stepped
      cases queued : bench.service.commands with
      | nil =>
          rw [queued] at stepped
          obtain rfl := Option.some.inj stepped
          refine ⟨staged.update _ staged.running staged.controller _ _ _, .single ?_⟩
          have before : bench.ledger config =
              (ledger config { bench with handling := false }).add .handling := by
            rw [← ledger_serve rfl, ← handling]
          rw [before]
          refine .rested rfl fun command member => ?_
          rcases Multiset.mem_add.mp member with waits | works
          · simp [backlog, queued] at waits
          · exact command_notMem_duties command works
      | cons command rest =>
          rw [queued] at stepped
          obtain rfl := Option.some.inj stepped
          have popped : Staged config
              { bench with service := { bench.service with commands := rest } } :=
            staged.update { bench.service with commands := rest } staged.running staged.controller
              bench.agenda bench.handling bench.receipts
          rw [ledger_takeCommand queued] at kept ⊢
          obtain ⟨applied, step⟩ := popped.apply kept
          exact ⟨applied, .single step⟩
  · next idle =>
      have idle : bench.handling = false := by simpa using idle
      unfold stepTasks? Agenda.takeReady at stepped
      cases ready : bench.agenda.ready with
      | nil =>
          rw [ready] at stepped
          have byService : ¬ (decide (bench.operation = .byHand) && Extent.all.appliesCommands &&
              !bench.service.commands.isEmpty) = true := by simp [staged.operation]
          simp only [byService, Bool.false_eq_true, if_false] at stepped
          exact staged.moveClock stepped
      | cons job rest =>
          rw [ready] at stepped
          obtain rfl := Option.some.inj stepped
          have popped : Staged config
              { bench with agenda := { bench.agenda with ready := rest } } :=
            staged.update bench.service staged.running staged.controller _ bench.handling
              bench.receipts
          rw [ledger_takeJob ready] at kept ⊢
          exact popped.runJob idle kept

end OutboundSms.Bench
