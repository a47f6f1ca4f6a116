import OutboundSms.Proofs.Reading

/-!
# What a command comes to on the bench

A command that is applied on the bench of a simulation is one step of the ledger. The
controller's turn says where the message or the selection stands by then, and carrying
out its effects one after another deals with the tasks and the conversations.
-/

set_option autoImplicit false

namespace OutboundSms

/-! ### The controller of a simulation -/

theorem ConnectionHolder.connectionId_of_isCurrent {holder : ConnectionHolder}
    {connection : ConnectionId} (current : holder.isCurrent connection = true) :
    holder.connectionId = some connection := by
  simpa [isCurrent] using current

namespace ConnectionHolder.Staged

variable {trafficClass : TrafficClass} {holder : ConnectionHolder}

theorem enqueue (staged : holder.Staged trafficClass) {request : PendingRequest}
    (selecting : holder.requested = true) (own : request.tracker.trafficClass = trafficClass)
    (unused : request.tracker.usedIms = false) : (holder.enqueue request).Staged trafficClass :=
  ⟨staged.agrees.enqueue selecting own unused, staged.waiter⟩

theorem cleared (staged : holder.Staged trafficClass) :
    holder.takePending.clear.1.Staged trafficClass :=
  ⟨staged.agrees.cleared, nofun⟩

/-- The holder of a current connection names the waiter of it. -/
theorem active_eq (staged : holder.Staged trafficClass) {connection : ConnectionId}
    (current : holder.isCurrent connection = true) :
    holder.active = some { id := connection, waiter := some connection.number.toNat } := by
  obtain ⟨⟨id, waiter⟩, active, rfl⟩ :=
    Option.map_eq_some_iff.mp (connectionId_of_isCurrent current)
  rw [active, ← staged.waiter _ active]

end ConnectionHolder.Staged

namespace Controller

variable {config : SimulatorConfig} {controller : Controller} {conditions : Conditions}
  {surroundings : Surroundings} {trafficClass : TrafficClass}

@[simp] theorem config_setHolder (holder : ConnectionHolder) :
    (controller.setHolder trafficClass holder).config = controller.config := by
  cases trafficClass <;> rfl

@[simp] theorem resolver_setHolder (holder : ConnectionHolder) :
    (controller.setHolder trafficClass holder).resolver = controller.resolver := by
  cases trafficClass <;> rfl

namespace Staged

theorem setHolder (staged : controller.Staged config) {holder : ConnectionHolder}
    (held : holder.Staged trafficClass) :
    (controller.setHolder trafficClass holder).Staged config where
  config_eq := (config_setHolder holder).trans staged.config_eq
  resolver_eq := (resolver_setHolder holder).trans staged.resolver_eq
  runs := by rw [sequence_setHolder]; exact staged.runs
  holder := by
    intro other
    by_cases same : other = trafficClass
    · subst same
      rw [holder_setHolder_self]
      exact held
    · rw [holder_setHolder_of_ne _ _ same]
      exact staged.holder other

end Staged

theorem runs_assignRef (runs : controller.sequence.Runs config) (facts : TransportFacts)
    (tracker : Tracker) : (controller.assignRef facts tracker).2.sequence.Runs config := by
  unfold assignRef
  split
  · exact runs.advance
  · exact runs

/-- Handing messages over moves nothing but the reference counter. -/
theorem dispatchAll_fixed (choose : Surroundings → Tracker → Slot) (trackers : List Tracker) :
    (controller.dispatchAll conditions choose trackers).1.config = controller.config ∧
      (controller.dispatchAll conditions choose trackers).1.resolver = controller.resolver := by
  induction trackers generalizing controller conditions with
  | nil => exact ⟨rfl, rfl⟩
  | cons tracker rest ih =>
      have first : (controller.assignRef (conditions.now.transport (choose conditions.now tracker))
          tracker).2.config = controller.config ∧ (controller.assignRef
            (conditions.now.transport (choose conditions.now tracker)) tracker).2.resolver =
              controller.resolver := by
        unfold assignRef
        split <;> exact ⟨rfl, rfl⟩
      exact ⟨ih.1.trans first.1, ih.2.trans first.2⟩

theorem runs_dispatchAll (runs : controller.sequence.Runs config)
    (choose : Surroundings → Tracker → Slot) (trackers : List Tracker) :
    (controller.dispatchAll conditions choose trackers).1.sequence.Runs config := by
  induction trackers generalizing controller conditions with
  | nil => exact runs
  | cons tracker rest ih => exact ih (runs_assignRef runs _ tracker)

theorem Staged.dispatchAll (staged : controller.Staged config)
    (choose : Surroundings → Tracker → Slot) (trackers : List Tracker) :
    (controller.dispatchAll conditions choose trackers).1.Staged config where
  config_eq := (dispatchAll_fixed choose trackers).1.trans staged.config_eq
  resolver_eq := (dispatchAll_fixed choose trackers).2.trans staged.resolver_eq
  runs := runs_dispatchAll staged.runs choose trackers
  holder := by
    intro trafficClass
    rw [holder_dispatchAll]
    exact staged.holder trafficClass

theorem Staged.dispatch (staged : controller.Staged config) (slot : Slot) (tracker : Tracker) :
    (controller.dispatch surroundings slot tracker).1.Staged config :=
  @Staged.dispatchAll config controller (.steady surroundings) staged (fun _ _ => slot) [tracker]

/-- The end of a selection leaves the class without one. -/
theorem Staged.ended (staged : controller.Staged config) (trafficClass : TrafficClass)
    (choose : Surroundings → Tracker → Slot) (trackers : List Tracker) :
    (((controller.takePending trafficClass).dispatchAll conditions choose trackers).1.clearHolder
      trafficClass).1.Staged config where
  config_eq := by
    rw [clearHolder, config_setHolder, (dispatchAll_fixed choose trackers).1, takePending,
      config_setHolder]
    exact staged.config_eq
  resolver_eq := by
    rw [clearHolder, resolver_setHolder, (dispatchAll_fixed choose trackers).2, takePending,
      resolver_setHolder]
    exact staged.resolver_eq
  runs := by
    rw [sequence_clearHolder]
    exact runs_dispatchAll (by rw [sequence_takePending]; exact staged.runs) choose trackers
  holder := by
    intro other
    by_cases same : other = trafficClass
    · subst same
      rw [holder_clearHolder_self, holder_dispatchAll, holder_takePending_self]
      exact (staged.holder other).cleared
    · rw [holder_clearHolder_of_ne _ same, holder_dispatchAll, holder_takePending_of_ne _ same]
      exact staged.holder other

/-- Letting go of a connection tells its waiter to stop. -/
theorem clearHolder_effects {connection : ConnectionId} {waiter : WaiterId}
    (active : (controller.holder trafficClass).active =
      some { id := connection, waiter := some waiter }) :
    (controller.clearHolder trafficClass).2 =
      [.dropConnection trafficClass (some connection)
          (controller.holder trafficClass).isDrained, .stopWaiter waiter] := by
  simp [clearHolder, ConnectionHolder.clear, ConnectionHolder.connectionId, active]

theorem finishConnection_effects {connection : ConnectionId} {waiter : WaiterId}
    (active : (controller.holder trafficClass).active =
      some { id := connection, waiter := some waiter }) :
    (controller.finishConnection trafficClass).2 =
      [.finishSelection trafficClass connection] := by
  simp [finishConnection, ConnectionHolder.connectionId, active]

/-! ### Opening a selection -/

section Opening

variable {tracker : Tracker} (kind : RequestKind) (resolver : ResolverId)

theorem requestSelection_effects (agrees : controller.Agrees)
    (idle : (controller.holder tracker.trafficClass).requested = false) :
    (controller.requestSelection conditions resolver true kind tracker).2 =
      [.takeConnection tracker.trafficClass controller.nextConnection
          (controller.holder tracker.trafficClass).isVacant,
        .requestSelection resolver tracker.trafficClass controller.nextConnection
          (selectionAttributes tracker),
        .publish (.selectionRequested tracker.trafficClass controller.nextConnection),
        .awaitSelection controller.nextConnection.number.toNat tracker.trafficClass
          controller.nextConnection] := by
  simp only [requestSelection, followedBy, selectionIssued, if_true,
    holder_openConnection conditions.now agrees kind tracker idle, ConnectionHolder.setWaiter,
    connectionsOpened_openConnection]
  rfl

theorem holder_requestSelection (agrees : controller.Agrees)
    (idle : (controller.holder tracker.trafficClass).requested = false) :
    (controller.requestSelection conditions resolver true kind tracker).1.holder
        tracker.trafficClass =
      { trafficClass := tracker.trafficClass
        active := some
          { id := controller.nextConnection
            waiter := some controller.nextConnection.number.toNat }
        requested := true
        pending := [{ kind, tracker, queuedAt := conditions.now.now }] } := by
  simp only [requestSelection, followedBy, selectionIssued, if_true,
    holder_openConnection conditions.now agrees kind tracker idle, ConnectionHolder.setWaiter,
    connectionsOpened_openConnection, holder_setHolder_self]
  rfl

theorem holder_requestSelection_of_ne {other : TrafficClass}
    (different : other ≠ tracker.trafficClass) :
    (controller.requestSelection conditions resolver true kind tracker).1.holder other =
      controller.holder other := by
  simp only [requestSelection, followedBy, selectionIssued, if_true]
  rw [holder_setHolder_of_ne _ _ different, holder_openConnection_of_ne _ _ different]

@[simp] theorem connectionsOpened_requestSelection :
    (controller.requestSelection conditions resolver true kind tracker).1.connectionsOpened =
      controller.connectionsOpened + 1 := by
  simp [requestSelection, followedBy, selectionIssued]

theorem Staged.requestSelection (staged : controller.Staged config)
    (idle : (controller.holder tracker.trafficClass).requested = false)
    (unused : tracker.usedIms = false) :
    (controller.requestSelection conditions resolver true kind tracker).1.Staged config where
  config_eq := by
    simp only [Controller.requestSelection, followedBy, selectionIssued, if_true,
      config_setHolder, openConnection, enqueue]
    exact staged.config_eq
  resolver_eq := by
    simp only [Controller.requestSelection, followedBy, selectionIssued, if_true,
      resolver_setHolder, openConnection, enqueue]
    exact staged.resolver_eq
  runs := by
    simp only [Controller.requestSelection, followedBy, if_true, sequence_selectionIssued,
      sequence_openConnection]
    exact staged.runs
  holder := by
    intro other
    by_cases same : other = tracker.trafficClass
    · subst same
      rw [holder_requestSelection kind resolver staged.agrees idle]
      refine ⟨⟨rfl, rfl, rfl, by simp [unused]⟩, fun active there => ?_⟩
      obtain rfl := Option.some.inj there
      rfl
    · rw [holder_requestSelection_of_ne kind resolver same]
      exact staged.holder other

end Opening

end Controller

/-! ### Messages on their way to a link -/

/-- A tracker that leaves for the link transport of a domain, which gives it a reference
where it has none. -/
structure SimulatorConfig.Leaves (config : SimulatorConfig) (domain : Domain)
    (given sent : Tracker) : Prop where
  message_eq : sent.message = given.message
  awaitsDelivery_eq : sent.awaitsDelivery = given.awaitsDelivery
  bounds : config.Bounds sent
  bare : sent.messageRef = none → (config.linkScript domain).ownMessageRefs = true

theorem Surroundings.Staged.leaves {config : SimulatorConfig} {surroundings : Surroundings}
    (staged : surroundings.Staged config) {controller : Controller}
    (runs : controller.sequence.Runs config) {given : Tracker} (bounds : config.Bounds given)
    (domain : Domain) :
    config.Leaves domain given
      (controller.outgoing (surroundings.transport (config.slot domain)) given) := by
  have assigns := staged.assigns (config.slot domain)
  rw [config.domain_slot] at assigns
  unfold Controller.outgoing Controller.assignRef
  split
  · next assigned =>
      have bare : given.messageRef = none := by simpa using (Bool.and_eq_true_iff.mp assigned).2
      refine ⟨rfl, rfl, fun messageRef same => ?_, fun lacks => ?_⟩
      · simp only [Tracker.recordDispatch, Tracker.assignRef, bare, Option.none_or,
          Option.some.injEq] at same
        exact same ▸ runs.inRange_peek
      · simp [Tracker.recordDispatch, Tracker.assignRef, bare] at lacks
  · next kept =>
      refine ⟨rfl, rfl, bounds, fun lacks => ?_⟩
      have bare : given.messageRef = none := lacks
      simpa [assigns, bare] using kept

namespace Bench

variable {config : SimulatorConfig} {bench : Bench} {given sent : Tracker} {domain : Domain}

theorem ScriptedLink.Staged.assignRef {link : ScriptedLink} (staged : link.Staged config domain)
    (leaves : config.Leaves domain given sent) :
    (link.assignRef sent).1.Staged config domain ∧
      config.Launches given (link.assignRef sent).2 ∧
      (link.assignRef sent).1.script = link.script ∧
      (link.assignRef sent).1.submissions = link.submissions := by
  have refers (messageRef : UInt8) (has : sent.messageRef = some messageRef) :
      config.Launches given sent :=
    ⟨leaves.message_eq, leaves.awaitsDelivery_eq, messageRef, has, leaves.bounds messageRef has⟩
  unfold ScriptedLink.assignRef
  cases own : link.ownRefs with
  | none =>
      have owns := staged.owns
      rw [own] at owns
      cases has : sent.messageRef with
      | none => exact absurd (leaves.bare has) (by simp [← owns])
      | some messageRef => exact ⟨staged, refers messageRef has, rfl, rfl⟩
  | some counter =>
      have runs := staged.runs counter own
      cases has : sent.messageRef with
      | none =>
          refine ⟨⟨staged.policy_eq, staged.logged, staged.reports, ?_, ?_⟩, ⟨?_, ?_, ?_⟩, rfl, rfl⟩
          · exact (congrArg Option.isSome own).symm.trans staged.owns
          · intro other same
            obtain rfl := Option.some.inj same
            exact runs.advance
          · exact leaves.message_eq
          · exact leaves.awaitsDelivery_eq
          · exact ⟨counter.peek, by simp [Tracker.assignRef, has], runs.inRange_peek⟩
      | some messageRef => exact ⟨staged, refers messageRef has, rfl, rfl⟩

theorem Staged.hand (staged : bench.Staged config) (leaves : config.Leaves domain given sent)
    (label : Domain) :
    ∃ tracker, config.Launches given tracker ∧
      (bench.hand (config.slot domain) sent label).Staged config ∧
      (bench.hand (config.slot domain) sent label).ledger config =
        (bench.ledger config).add
          (.errand (.proceed (config.slot domain) (.submitting tracker)) 0) := by
  obtain ⟨link, device, linked⟩ := staged.link (config.slot domain)
  rw [config.domain_slot] at linked
  obtain ⟨kept, launches, script, submissions⟩ := linked.assignRef leaves
  have handed : bench.hand (config.slot domain) sent label =
      (bench.setDevice (config.slot domain) (.link (link.assignRef sent).1)).start 0
        (.proceed (config.slot domain) (.submitting (link.assignRef sent).2)) := by
    simp only [Bench.hand, device]
  have same : (bench.ledger config).script domain = link.script.map (·.response) := by
    simp only [ledger, Transport.responses, device]
  refine ⟨_, launches, handed ▸ (staged.setLink (by rwa [config.domain_slot])).start _ _, ?_⟩
  rw [handed, ledger_start, ledger_setLink device 0 (by rw [submissions]; rfl), script, ← same,
    Function.update_eq_self]
  rfl

theorem Staged.dispatch (staged : bench.Staged config) {surroundings : Surroundings}
    (around : surroundings.Staged config) {controller : Controller}
    (runs : controller.sequence.Runs config) (bounds : config.Bounds given) (domain : Domain) :
    ∃ tracker, config.Launches given tracker ∧
      ((controller.dispatch surroundings (config.slot domain) given).2.foldl carryOut
        bench).Staged config ∧
      ((controller.dispatch surroundings (config.slot domain) given).2.foldl carryOut
          bench).ledger config =
        (bench.ledger config).add
          (.errand (.proceed (config.slot domain) (.submitting tracker)) 0) := by
  have silent (tracker : Tracker) (domain : Domain) :
      Controller.sessionOpening surroundings tracker domain = [] := by
    simp [Controller.sessionOpening, around.untracked]
  rw [Controller.dispatch_effects]
  simp only [silent, List.nil_append, List.foldl_cons, List.foldl_nil]
  exact staged.hand (around.leaves runs bounds domain) _

/-- The messages of a whole queue are handed over one after another. -/
theorem Staged.dispatchAll (staged : bench.Staged config) {surroundings : Surroundings}
    (around : surroundings.Staged config) {choose : Surroundings → Tracker → Slot}
    (chosen : ∀ tracker, ∃ domain, choose surroundings tracker = config.slot domain)
    {trackers : List Tracker} (bounds : ∀ tracker ∈ trackers, config.Bounds tracker)
    {controller : Controller} (runs : controller.sequence.Runs config) :
    ∃ departures : List Departure, departures.map (·.given) = trackers ∧
      (∀ departure ∈ departures, config.Launches departure.given departure.tracker) ∧
      ((controller.dispatchAll (.steady surroundings) choose trackers).2.foldl carryOut
        bench).Staged config ∧
      ((controller.dispatchAll (.steady surroundings) choose trackers).2.foldl carryOut
          bench).ledger config =
        { bench.ledger config with
          matters := Multiset.ofList (departures.map (·.after config)) +
            (bench.ledger config).matters } := by
  induction trackers generalizing controller bench with
  | nil => exact ⟨[], rfl, by simp, staged, by simp [Controller.dispatchAll]⟩
  | cons given rest ih =>
      obtain ⟨domain, slot⟩ := chosen given
      obtain ⟨tracker, launches, handed, more⟩ :=
        staged.dispatch around runs (bounds given List.mem_cons_self) domain
      have moved : (controller.dispatch surroundings (config.slot domain) given).1.sequence.Runs
          config := Controller.runs_assignRef runs _ given
      obtain ⟨departures, all, launched, last, most⟩ := ih handed
        (fun tracker member => bounds tracker (List.mem_cons_of_mem _ member)) moved
      have split : (controller.dispatchAll (.steady surroundings) choose (given :: rest)).2 =
          (controller.dispatch surroundings (config.slot domain) given).2 ++
            ((controller.dispatch surroundings (config.slot domain) given).1.dispatchAll
              (.steady surroundings) choose rest).2 := by
        rw [← slot]
        rfl
      rw [split, List.foldl_append]
      refine ⟨⟨given, domain, tracker⟩ :: departures, by simp [all], ?_, last, ?_⟩
      · intro departure member
        rcases List.mem_cons.mp member with rfl | member
        · exact launches
        · exact launched departure member
      · refine most.trans ?_
        simp only [more, Ledger.add, List.map_cons, ← Multiset.cons_coe, Departure.after,
          Multiset.add_cons, Multiset.cons_add]

/-! ### Turns -/

theorem modifyTalks_of_fresh {talks : List Conversation} {talk : Conversation}
    (fresh : ∀ other ∈ talks, other.connection ≠ talk.connection)
    (change : Conversation → Conversation) :
    modifyTalks talk.connection change (talks ++ [talk]) = talks ++ [change talk] := by
  have others : modifyTalks talk.connection change talks = talks := by
    refine (List.map_congr_left fun other member => ?_).trans (List.map_id talks)
    simp [fresh other member]
  rw [modifyTalks] at others
  rw [modifyTalks, List.map_append, others]
  simp

theorem Keeps.comp {first second : Conversation → Conversation} (later : Keeps second)
    (earlier : Keeps first) : Keeps fun talk => second (first talk) :=
  ⟨fun _ => (later.connection_eq _).trans (earlier.connection_eq _),
    fun _ => (later.trafficClass_eq _).trans (earlier.trafficClass_eq _),
    fun _ => (later.script_eq _).trans (earlier.script_eq _),
    fun _ => (later.answer_eq _).trans (earlier.answer_eq _)⟩

theorem modifyTalks_modifyTalks {first : Conversation → Conversation} (keeps : Keeps first)
    (connection : ConnectionId) (second : Conversation → Conversation)
    (talks : List Conversation) :
    modifyTalks connection second (modifyTalks connection first talks) =
      modifyTalks connection (fun talk => second (first talk)) talks := by
  simp only [modifyTalks, List.map_map]
  refine List.map_congr_left fun talk _ => ?_
  by_cases same : talk.connection = connection <;> simp [same, keeps.connection_eq]

/-- Once its effects have been carried out, a turn of the controller is a step of the
ledger that still had the command. -/
structure Plays (config : SimulatorConfig) (bench : Bench) (command : Command) (turn : Turn) :
    Prop where
  staged : (bench.take (bench.service.perform turn)).Staged config
  step : Ledger.Step config ((bench.ledger config).add (.command command))
    ((bench.take (bench.service.perform turn)).ledger config)

/-- What a turn that concerns one class does to the ledger by itself. -/
theorem ledger_perform {turn : Turn} {trafficClass : TrafficClass}
    (frame : ∀ other, other ≠ trafficClass →
      turn.1.holder other = bench.service.controller.holder other) :
    ∃ others : Multiset Matter,
      (bench.ledger config).matters =
        Multiset.ofList ((bench.service.controller.queued trafficClass).map .waiting) + others ∧
      ledger config { bench with service := (bench.service.perform turn).1 } =
        { bench.ledger config with
          matters := Multiset.ofList ((turn.1.queued trafficClass).map .waiting) + others
          current := Function.update (bench.ledger config).current trafficClass
            (turn.1.holder trafficClass).connectionId
          opened := turn.1.connectionsOpened.toNat } := by
  have current : (fun other => (turn.1.holder other).connectionId) =
      Function.update (bench.ledger config).current trafficClass
        (turn.1.holder trafficClass).connectionId := by
    funext other
    by_cases same : other = trafficClass
    · subst same
      rw [Function.update_self]
    · rw [Function.update_of_ne same, frame other same]
      rfl
  obtain ⟨others, before, after⟩ : ∃ others : Multiset Matter,
      Multiset.ofList (bench.service.controller.trackers.map .waiting) =
        Multiset.ofList ((bench.service.controller.queued trafficClass).map .waiting) + others ∧
      Multiset.ofList (turn.1.trackers.map .waiting) =
        Multiset.ofList ((turn.1.queued trafficClass).map .waiting) + others := by
    cases trafficClass with
    | normal =>
        have same := Controller.queued_congr (frame .emergency (by decide))
        exact ⟨_, by rw [Controller.trackers, List.map_append, ← Multiset.coe_add],
          by rw [Controller.trackers, List.map_append, ← Multiset.coe_add, same]⟩
    | emergency =>
        have same := Controller.queued_congr (frame .normal (by decide))
        exact ⟨_, by rw [Controller.trackers, List.map_append, ← Multiset.coe_add, add_comm],
          by rw [Controller.trackers, List.map_append, ← Multiset.coe_add, same, add_comm]⟩
  refine ⟨Multiset.ofList (bench.service.commands.map .command) + others + bench.duties, ?_, ?_⟩
  · simp only [ledger, backlog, before]
    abel
  · have matters : backlog (bench.service.perform turn).1 + bench.duties =
        Multiset.ofList ((turn.1.queued trafficClass).map .waiting) +
          (Multiset.ofList (bench.service.commands.map .command) + others + bench.duties) := by
      simp only [backlog, Service.perform, after]
      abel
    rw [← matters, ← current]
    rfl

/-- A turn that leaves the holders alone leaves the ledger alone. -/
theorem ledger_perform_of_still {turn : Turn}
    (frame : ∀ trafficClass,
      turn.1.holder trafficClass = bench.service.controller.holder trafficClass)
    (opened : turn.1.connectionsOpened = bench.service.controller.connectionsOpened) :
    ledger config { bench with service := (bench.service.perform turn).1 } =
      bench.ledger config := by
  obtain ⟨others, before, after⟩ :=
    @ledger_perform config bench turn .normal fun other _ => frame other
  rw [after, opened, frame, Controller.queued_congr (frame .normal), ← before]
  exact congrArg (fun current => { bench.ledger config with current })
    (Function.update_eq_self _ _)

/-- While there is room for it, the number of the next connection is the next one. -/
theorem number_nextConnection (room : (bench.ledger config).opened + 1 < UInt64.size) :
    bench.service.controller.nextConnection.number.toNat = (bench.ledger config).opened + 1 := by
  have one : (1 : UInt64).toNat = 1 := rfl
  simp only [Controller.nextConnection, UInt64.toNat_add, one]
  exact Nat.mod_eq_of_lt room

namespace Staged

variable {command : Command} {tracker : Tracker} {trafficClass : TrafficClass}
  {connection : ConnectionId}

theorem perform (staged : bench.Staged config) {turn : Turn} (kept : turn.1.Staged config) :
    Staged config { bench with service := (bench.service.perform turn).1 } :=
  staged.update (bench.service.perform turn).1 staged.running kept bench.agenda bench.handling
    bench.receipts

theorem plays_complete (staged : bench.Staged config) {outcome : TransportOutcome}
    {result : SendResult} (ends : outcome.Ends tracker result) (label : Option Domain) :
    Plays config bench (.outcome tracker domain outcome)
      (bench.service.controller.complete bench.surroundings tracker result label) := by
  have silent : Controller.sessionClosing bench.surroundings tracker result.isSuccess label =
      [] := by
    unfold Controller.sessionClosing
    split
    · simp [staged.surroundings.untracked]
    · rfl
  have taken : bench.take (bench.service.perform
      (bench.service.controller.complete bench.surroundings tracker result label)) =
        Bench.receive (tracker.finish result)
          { bench with service := (bench.service.perform (bench.service.controller.complete
            bench.surroundings tracker result label)).1 } := by
    simp only [take, Service.perform, Controller.complete, silent, List.nil_append]
    rfl
  have same := @ledger_perform_of_still config bench
    (bench.service.controller.complete bench.surroundings tracker result label) (fun _ => rfl) rfl
  constructor
  · rw [taken]
    exact (staged.perform staged.controller).receive _
  · rw [taken, ledger_receive, same]
    exact .completed rfl ends

theorem plays_dispatch (staged : bench.Staged config)
    (brings : command.Routes tracker ∨ command = .outcome tracker .ps .fallback)
    (bounds : config.Bounds tracker) (domain : Domain) {lead : List Effect}
    (silent : ∀ bench : Bench, lead.foldl carryOut bench = bench) :
    Plays config bench command
      (Controller.followedBy (bench.service.controller, lead) fun controller =>
        controller.dispatch bench.surroundings (config.slot domain) tracker) := by
  have kept := @Controller.Staged.dispatch config bench.service.controller bench.surroundings
    staged.controller (config.slot domain) tracker
  let turn := Controller.followedBy (bench.service.controller, lead) fun controller =>
    controller.dispatch bench.surroundings (config.slot domain) tracker
  have same := @ledger_perform_of_still config bench turn
    (fun _ => Controller.holder_dispatch ..) (Controller.connectionsOpened_dispatch ..)
  obtain ⟨sent, launches, handed, more⟩ := (staged.perform kept : Staged config
    { bench with service := (bench.service.perform turn).1 }).dispatch staged.surroundings
      staged.controller.runs bounds domain
  have taken : bench.take (bench.service.perform turn) =
      (bench.service.controller.dispatch bench.surroundings (config.slot domain) tracker).2.foldl
        carryOut { bench with service := (bench.service.perform turn).1 } := by
    change (lead ++ _).foldl carryOut _ = _
    rw [List.foldl_append, silent]
  constructor
  · rw [taken]
    exact handed
  · rw [taken, more, same]
    exact .launched rfl brings launches

theorem plays_enqueue (staged : bench.Staged config) (routes : command.Routes tracker)
    (kind : RequestKind)
    (selecting :
      (bench.service.controller.holder tracker.trafficClass).requested = true)
    (unused : tracker.usedIms = false) :
    Plays config bench command
      (bench.service.controller.enqueue bench.surroundings kind tracker, []) := by
  let turn : Turn := (bench.service.controller.enqueue bench.surroundings kind tracker, [])
  have kept : turn.1.Staged config :=
    staged.controller.setHolder ((staged.controller.holder _).enqueue selecting rfl unused)
  obtain ⟨others, before, after⟩ :=
    @ledger_perform config bench turn tracker.trafficClass fun other different =>
      Controller.holder_setHolder_of_ne _ _ different
  have connection : (turn.1.holder tracker.trafficClass).connectionId =
      (bench.ledger config).current tracker.trafficClass := by
    simp only [turn, Controller.enqueue, Controller.holder_setHolder_self]
    rfl
  have queued : turn.1.queued tracker.trafficClass =
      bench.service.controller.queued tracker.trafficClass ++ [tracker] := by
    simp [turn, Controller.queued, Controller.enqueue, ConnectionHolder.enqueue]
  have opened : turn.1.connectionsOpened.toNat = (bench.ledger config).opened :=
    congrArg UInt64.toNat (Controller.connectionsOpened_setHolder ..)
  have joined : ledger config { bench with service := (bench.service.perform turn).1 } =
      (bench.ledger config).add (.waiting tracker) := by
    rw [after, connection, Function.update_eq_self, opened, queued, Ledger.add, before,
      ofList_map_concat, Multiset.cons_add]
  constructor
  · exact staged.perform kept
  · change Ledger.Step config _
      (ledger config { bench with service := (bench.service.perform turn).1 })
    rw [joined]
    exact .joined rfl routes

/-- A request for a selection opens a conversation. Where the script is to give the
connection up, that is under way. -/
theorem recordSelection (staged : bench.Staged config) {script : ResolverScript}
    (scripted : config.resolver = some script) (trafficClass : TrafficClass)
    (connection : ConnectionId) (attributes : SelectionAttributes) :
    ∃ talk waits, talk.connection = connection ∧ talk.trafficClass = trafficClass ∧
      talk.script = config.resolver ∧ talk.answer = .open ∧ talk.stopping = false ∧
      Awaits config trafficClass connection waits ∧
      (bench.recordSelection 0 trafficClass connection attributes).Staged config ∧
      (bench.recordSelection 0 trafficClass connection attributes).ledger config =
        { bench.ledger config with
          matters := waits + (bench.ledger config).matters
          talks := (bench.ledger config).talks ++ [talk] } := by
  obtain ⟨resolver, all, mode, own⟩ := staged.resolver scripted
  let talk : Conversation :=
    { connection, trafficClass, attributes, answer := .open, script := some script }
  let recorded : Bench :=
    { bench with
      resolvers := [resolver.addConversation trafficClass connection attributes] }
  have added : (resolver.addConversation trafficClass connection attributes).conversations =
      resolver.conversations ++ [talk] := by
    simp only [Resolver.addConversation, mode, own, talk]
  have kept : recorded.Staged config := by
    refine staged.modifyResolvers ?_
    rw [all]
    rfl
  have more : recorded.ledger config =
      { bench.ledger config with talks := (bench.ledger config).talks ++ [talk] } := by
    have talks : [resolver.addConversation trafficClass connection attributes].flatMap
        (·.conversations) = bench.resolvers.flatMap (·.conversations) ++ [talk] := by
      rw [all]
      simp [added]
    exact congrArg (fun talks => { bench.ledger config with talks }) talks
  obtain ⟨decision, latency⟩ := script
  cases decision with
  | select domain | fail reason =>
      have done : bench.recordSelection 0 trafficClass connection attributes = recorded := by
        simp only [Bench.recordSelection, all, List.getElem?_cons_zero, Option.bind_some, own]
        rfl
      refine ⟨talk, 0, rfl, rfl, scripted.symm, rfl, rfl,
        .answer (by simp [SimulatorConfig.answer?, scripted, scriptedAnswer?]), ?_, ?_⟩
      · exact done ▸ kept
      · rw [done, more, zero_add]
  | terminate cause =>
      have done : bench.recordSelection 0 trafficClass connection attributes =
          recorded.start latency.toNat
            (.post (.selectionTerminated trafficClass connection cause)) := by
        simp only [Bench.recordSelection, all, List.getElem?_cons_zero, Option.bind_some, own]
        rfl
      refine ⟨talk, _, rfl, rfl, scripted.symm, rfl, rfl,
        @Awaits.termination config trafficClass connection cause
          (if latency.toNat = 0 then 0 else 2) (by split <;> decide), ?_, ?_⟩
      · exact done ▸ kept.start _ _
      · rw [done, ledger_start, more, Multiset.singleton_add]
        rfl

theorem startWaiter (staged : bench.Staged config) (connection : ConnectionId) :
    (bench.startWaiter connection).Staged config ∧
      (bench.startWaiter connection).ledger config =
        { bench.ledger config with
          matters := .errand (.awaitDecision connection) 0 ::ₘ (bench.ledger config).matters
          talks := modifyTalks connection
            (fun talk => { talk with waiter := .scheduled }) (bench.ledger config).talks } := by
  refine ⟨(staged.modifyConversation _ _).start _ _, ?_⟩
  rw [Bench.startWaiter, ledger_start, ledger_modifyConversation]
  rfl

theorem consult (staged : bench.Staged config) {script : ResolverScript}
    (scripted : config.resolver = some script) (emergency : Bool) (answer : ConnectAnswer) :
    (bench.carryOut (.consult 0 emergency answer)).Staged config ∧
      (bench.carryOut (.consult 0 emergency answer)).ledger config = bench.ledger config := by
  obtain ⟨resolver, all, -⟩ := staged.resolver scripted
  refine ⟨staged.modifyResolvers (by rw [all]; rfl), ?_⟩
  simp only [ledger, carryOut, all]
  rfl

/-- The controller itself lets the message wait that opens a selection, and its class
selects from then on. -/
theorem ledger_request (staged : bench.Staged config)
    (room : (bench.ledger config).opened + 1 < UInt64.size)
    (idle : (bench.service.controller.holder tracker.trafficClass).requested = false)
    (kind : RequestKind) {turn : Turn}
    (controller : turn.1 = (bench.service.controller.requestSelection (.steady bench.surroundings)
      0 true kind tracker).1) :
    ledger config { bench with service := (bench.service.perform turn).1 } =
      { bench.ledger config with
        matters := .waiting tracker ::ₘ (bench.ledger config).matters
        current := Function.update (bench.ledger config).current tracker.trafficClass
          (some bench.service.controller.nextConnection)
        opened := (bench.ledger config).opened + 1 } := by
  have agrees := staged.controller.agrees
  have holder := @Controller.holder_requestSelection bench.service.controller
    (.steady bench.surroundings) tracker kind 0 agrees idle
  obtain ⟨others, before, after⟩ :=
    @ledger_perform config bench turn tracker.trafficClass fun other different => by
      rw [controller, Controller.holder_requestSelection_of_ne kind 0 different]
  have alone : bench.service.controller.queued tracker.trafficClass = [] := by
    simp [Controller.queued, (agrees tracker.trafficClass).pending_of_idle idle]
  have queued : turn.1.queued tracker.trafficClass = [tracker] := by
    simp only [Controller.queued, controller, holder, List.map_cons, List.map_nil]
  have current : (turn.1.holder tracker.trafficClass).connectionId =
      some bench.service.controller.nextConnection := by
    simp only [controller, holder, ConnectionHolder.connectionId, Option.map_some]
  have opened : turn.1.connectionsOpened.toNat = (bench.ledger config).opened + 1 := by
    rw [controller, Controller.connectionsOpened_requestSelection, ← number_nextConnection room]
    rfl
  rw [after, queued, current, opened, before, alone]
  simp

/-- The message that opens a selection waits for its end, and so does a task. -/
theorem plays_request (staged : bench.Staged config) {script : ResolverScript}
    (scripted : config.resolver = some script)
    (numbered : ∀ talk ∈ (bench.ledger config).talks,
      talk.connection.number.toNat ≤ (bench.ledger config).opened)
    (room : (bench.ledger config).opened + 1 < UInt64.size)
    (routes : command.Routes tracker) (kind : RequestKind)
    (idle : (bench.service.controller.holder tracker.trafficClass).requested = false)
    (unused : tracker.usedIms = false) :
    Plays config bench command
      (Controller.followedBy
        (bench.service.controller, [.consult 0 tracker.trafficClass.isEmergency .issued])
        fun controller =>
          controller.requestSelection (.steady bench.surroundings) 0 true kind tracker) := by
  let conditions : Conditions := .steady bench.surroundings
  let turn := Controller.followedBy
    (bench.service.controller, [.consult 0 tracker.trafficClass.isEmergency .issued])
    fun controller => controller.requestSelection conditions 0 true kind tracker
  let connection := bench.service.controller.nextConnection
  have agrees := staged.controller.agrees
  have number : connection.number.toNat = (bench.ledger config).opened + 1 :=
    number_nextConnection room
  have vacant : (bench.ledger config).current tracker.trafficClass = none := by
    simp [ledger, ConnectionHolder.connectionId,
      (agrees tracker.trafficClass).active_of_idle idle]
  -- The effects of the turn, one after another: the resolver is asked, a conversation begins
  -- and a task waits for its end.
  have performed := @ledger_request config bench tracker staged room idle kind turn rfl
  obtain ⟨consulted, unmoved⟩ := (staged.perform (staged.controller.requestSelection kind 0 idle
    unused) : Staged config { bench with service := (bench.service.perform turn).1 }).consult
      scripted tracker.trafficClass.isEmergency .issued
  obtain ⟨talk, waits, same, own, script_eq, answer, going, awaits, recorded, more⟩ :=
    consulted.recordSelection scripted tracker.trafficClass connection
      (Controller.selectionAttributes tracker)
  obtain ⟨begun, most⟩ := recorded.startWaiter connection
  have effects : turn.2 =
      .consult 0 tracker.trafficClass.isEmergency .issued ::
        (bench.service.controller.requestSelection conditions 0 true kind tracker).2 := rfl
  have taken : bench.take (bench.service.perform turn) =
      Bench.startWaiter connection (Bench.recordSelection 0 tracker.trafficClass connection
        (Controller.selectionAttributes tracker) (Bench.carryOut
          { bench with service := (bench.service.perform turn).1 }
          (.consult 0 tracker.trafficClass.isEmergency .issued))) := by
    change turn.2.foldl carryOut _ = _
    rw [effects, Controller.requestSelection_effects kind 0 agrees idle]
    rfl
  have fresh : modifyTalks connection (fun talk => { talk with waiter := .scheduled })
      ((bench.ledger config).talks ++ [talk]) =
        (bench.ledger config).talks ++ [{ talk with waiter := .scheduled }] := by
    rw [← same]
    refine modifyTalks_of_fresh (fun other member equal => ?_) _
    have within := numbered other member
    rw [equal, same, number] at within
    omega
  have reached : (bench.take (bench.service.perform turn)).ledger config =
      { bench.ledger config with
        matters := .waiting tracker ::ₘ .errand (.awaitDecision connection) 0 ::ₘ
          (waits + (bench.ledger config).matters)
        talks := (bench.ledger config).talks ++ [{ talk with waiter := .scheduled }]
        current := Function.update (bench.ledger config).current tracker.trafficClass
          (some connection)
        opened := (bench.ledger config).opened + 1 } := by
    rw [taken, most, more, unmoved, performed]
    simp only [fresh, Multiset.add_cons, Multiset.cons_swap]
    rfl
  refine ⟨taken ▸ begun, ?_⟩
  rw [reached, ← same]
  rw [← same] at number awaits
  exact @Ledger.Step.opened config _ _ _ _ { talk with waiter := .scheduled } _ rfl routes vacant
    number own script_eq answer going rfl awaits

/-- A waiter that is told to stop runs once more if it is parked. -/
theorem stopWaiter (staged : bench.Staged config) (connection : ConnectionId) :
    ∃ change woken, Keeps change ∧ (∀ talk, (change talk).stopping = true) ∧
      (woken = 0 ∨ woken = {.errand (.awaitDecision connection) 0}) ∧
      (bench.stopWaiter connection.number.toNat).Staged config ∧
      (bench.stopWaiter connection.number.toNat).ledger config =
        { bench.ledger config with
          matters := woken + (bench.ledger config).matters
          talks := modifyTalks connection change (bench.ledger config).talks } := by
  let stop (talk : Conversation) : Conversation := { talk with stopping := true }
  have keepsStop : Keeps stop := ⟨fun _ => rfl, fun _ => rfl, fun _ => rfl, fun _ => rfl⟩
  have stopped := staged.modifyConversation connection stop
  have told : bench.stopWaiter connection.number.toNat =
      (bench.modifyConversation connection stop).wakeWaiter connection := by
    rw [Bench.stopWaiter, UInt64.ofNat_toNat]
  have wakes (talk : Conversation) : talk.wake.connection = talk.connection ∧
      talk.wake.trafficClass = talk.trafficClass ∧ talk.wake.script = talk.script ∧
      talk.wake.answer = talk.answer ∧ talk.wake.stopping = talk.stopping := by
    unfold Conversation.wake
    split <;> exact ⟨rfl, rfl, rfl, rfl, rfl⟩
  rw [told, wakeWaiter]
  split
  · refine ⟨fun talk => (stop talk).wake, _, ⟨?_, ?_, ?_, ?_⟩, ?_, .inr rfl,
      (stopped.modifyConversation _ _).start _ _, ?_⟩
    · exact fun talk => (wakes _).1
    · exact fun talk => (wakes _).2.1
    · exact fun talk => (wakes _).2.2.1
    · exact fun talk => (wakes _).2.2.2.1
    · exact fun talk => (wakes _).2.2.2.2
    · rw [ledger_start, ledger_modifyConversation, ledger_modifyConversation,
        Multiset.singleton_add]
      simp only [modifyTalks_modifyTalks keepsStop]
      rfl
  · refine ⟨stop, 0, keepsStop, fun _ => rfl, .inl rfl, stopped, ?_⟩
    rw [ledger_modifyConversation, zero_add]

/-- The connection may be told that its decision has been used. -/
theorem close (staged : bench.Staged config) (connection : ConnectionId) {closing : List Effect}
    (closes : closing = [] ∨ closing = [.finishSelection trafficClass connection]) :
    ∃ change, Keeps change ∧ (closing.foldl carryOut bench).Staged config ∧
      (closing.foldl carryOut bench).ledger config =
        { bench.ledger config with
          talks := modifyTalks connection change (bench.ledger config).talks } := by
  rcases closes with rfl | rfl
  · refine ⟨id, ⟨fun _ => rfl, fun _ => rfl, fun _ => rfl, fun _ => rfl⟩, staged, ?_⟩
    simp [modifyTalks]
  · exact ⟨fun talk => { talk with finishes := talk.finishes + 1 },
      ⟨fun _ => rfl, fun _ => rfl, fun _ => rfl, fun _ => rfl⟩,
      staged.modifyConversation connection _, ledger_modifyConversation connection _⟩

/-- Handing the queue over leaves the connection as it was. -/
theorem active_handed (staged : bench.Staged config) (choose : Surroundings → Tracker → Slot)
    (trackers : List Tracker)
    (current : (bench.service.controller.holder trafficClass).isCurrent connection = true) :
    (((bench.service.controller.takePending trafficClass).dispatchAll
      (.steady bench.surroundings) choose trackers).1.holder trafficClass).active =
        some { id := connection, waiter := some connection.number.toNat } := by
  rw [Controller.holder_dispatchAll, Controller.holder_takePending_self]
  exact (staged.controller.holder trafficClass).active_eq current

/-- The controller itself has nothing left that waits for a class whose selection has
ended. -/
theorem ledger_ended {choose : Surroundings → Tracker → Slot} {turn : Turn}
    (controller : turn.1 = (((bench.service.controller.takePending trafficClass).dispatchAll
      (.steady bench.surroundings) choose (bench.service.controller.queued trafficClass)).1
        |>.clearHolder trafficClass).1) :
    ∃ others : Multiset Matter,
      (bench.ledger config).matters =
        Multiset.ofList ((bench.service.controller.queued trafficClass).map .waiting) + others ∧
      ledger config { bench with service := (bench.service.perform turn).1 } =
        { bench.ledger config with
          matters := others
          current := Function.update (bench.ledger config).current trafficClass none } := by
  have emptied : turn.1.holder trafficClass =
      (bench.service.controller.holder trafficClass).takePending.clear.1 := by
    rw [controller, Controller.holder_clearHolder_self, Controller.holder_dispatchAll,
      Controller.holder_takePending_self]
  obtain ⟨others, before, after⟩ :=
    @ledger_perform config bench turn trafficClass fun other different => by
      rw [controller, Controller.holder_clearHolder_of_ne _ different,
        Controller.holder_dispatchAll, Controller.holder_takePending_of_ne _ different]
  have queued : turn.1.queued trafficClass = [] := by
    simp [Controller.queued, emptied, ConnectionHolder.clear, ConnectionHolder.takePending]
  have opened : turn.1.connectionsOpened = bench.service.controller.connectionsOpened := by
    rw [controller, Controller.connectionsOpened_clearHolder,
      Controller.connectionsOpened_dispatchAll, Controller.connectionsOpened_takePending]
  refine ⟨others, before, ?_⟩
  rw [after, queued, opened, emptied]
  simp [ConnectionHolder.clear, ConnectionHolder.takePending, ConnectionHolder.connectionId, ledger]

/-- The end of a selection: the messages of its class go on their way, and its
conversation is told to stop. -/
theorem plays_ended (staged : bench.Staged config) (ends : command.Ends trafficClass connection)
    (current : (bench.service.controller.holder trafficClass).isCurrent connection = true)
    (going : ∃ talk ∈ (bench.ledger config).talks,
      talk.connection = connection ∧ talk.stopping = false)
    (bounds : ∀ tracker ∈ bench.service.controller.queued trafficClass, config.Bounds tracker)
    {choose : Surroundings → Tracker → Slot}
    (chosen : ∀ tracker, ∃ domain, choose bench.surroundings tracker = config.slot domain)
    {turn : Turn} {closing : List Effect}
    (controller : turn.1 = (((bench.service.controller.takePending trafficClass).dispatchAll
      (.steady bench.surroundings) choose (bench.service.controller.queued trafficClass)).1
        |>.clearHolder trafficClass).1)
    (effects : ∃ event, turn.2 = .publish event ::
      (((bench.service.controller.takePending trafficClass).dispatchAll
        (.steady bench.surroundings) choose (bench.service.controller.queued trafficClass)).2 ++
        (closing ++ (((bench.service.controller.takePending trafficClass).dispatchAll
          (.steady bench.surroundings) choose (bench.service.controller.queued trafficClass)).1
            |>.clearHolder trafficClass).2)))
    (closes : closing = [] ∨ closing = [.finishSelection trafficClass connection]) :
    Plays config bench command turn := by
  have kept : turn.1.Staged config := controller ▸ staged.controller.ended trafficClass choose _
  obtain ⟨others, before, performed⟩ := @ledger_ended config bench trafficClass _ _ controller
  -- The effects of the turn, one after another: the messages go on their way, the connection
  -- may be told, and the waiter is to stop.
  have counts : (bench.service.controller.takePending trafficClass).sequence.Runs config := by
    rw [Controller.sequence_takePending]
    exact staged.controller.runs
  obtain ⟨departures, all, launches, sent, more⟩ := (staged.perform kept : Staged config
    { bench with service := (bench.service.perform turn).1 }).dispatchAll staged.surroundings chosen
      bounds counts
  obtain ⟨first, keeps, closed, told⟩ := sent.close connection closes
  obtain ⟨last, woken, keepsLast, stops, waking, stopped, most⟩ := closed.stopWaiter connection
  have taken : bench.take (bench.service.perform turn) = Bench.stopWaiter connection.number.toNat
      (closing.foldl carryOut (List.foldl carryOut
        { bench with service := (bench.service.perform turn).1 }
        ((bench.service.controller.takePending trafficClass).dispatchAll
          (.steady bench.surroundings) choose
            (bench.service.controller.queued trafficClass)).2)) := by
    obtain ⟨event, effects⟩ := effects
    change turn.2.foldl carryOut _ = _
    rw [effects, Controller.clearHolder_effects (staged.active_handed choose _ current),
      List.foldl_cons, List.foldl_append, List.foldl_append]
    rfl
  have reached : (bench.take (bench.service.perform turn)).ledger config =
      { bench.ledger config with
        matters := ((Multiset.ofList departures).map (·.after config)) + (woken + others)
        talks := modifyTalks connection (fun talk => last (first talk)) (bench.ledger config).talks
        current := Function.update (bench.ledger config).current trafficClass none } := by
    rw [taken, most, told, more, performed]
    simp only [modifyTalks_modifyTalks keeps, Multiset.map_coe]
    congr 1
    abel
  have there : (bench.ledger config).matters =
      (Multiset.ofList departures).map (·.before) + others := by
    rw [before, ← all, Multiset.map_coe, List.map_map]
    rfl
  refine ⟨taken ▸ stopped, ?_⟩
  rw [reached]
  exact .drained ends (congrArg (Multiset.cons _) there)
    (ConnectionHolder.connectionId_of_isCurrent current) going launches waking
    (keepsLast.comp keeps) fun _ => stops _

/-! ### Commands -/

section Commands

variable (staged : bench.Staged config)
  (kept : Ledger.Kept config ((bench.ledger config).add (.command command)))

include kept in
theorem bounds_queued : ∀ tracker ∈ bench.service.controller.queued trafficClass,
    config.Bounds tracker := by
  intro tracker member
  have waits : Matter.waiting tracker ∈ (bench.ledger config).matters := by
    have among := Controller.mem_trackers_of_queued member
    simp [ledger, backlog, among]
  exact (kept.sound.matters _ (Multiset.mem_cons_of_mem waits)).2

include staged in
theorem slot_direct : ∃ domain, Controller.directSlot bench.surroundings = config.slot domain := by
  unfold Controller.directSlot
  split
  · exact ⟨.ps, rfl⟩
  · exact ⟨.cs, congrArg Slot.cs staged.format⟩

include staged in
theorem slot_selected (domain : Option Domain) (tracker : Tracker) :
    ∃ chosen, Controller.slotAfterSelection domain bench.surroundings tracker =
      config.slot chosen := by
  have modem : Controller.csSlot bench.surroundings = config.slot .cs :=
    congrArg Slot.cs staged.format
  rcases domain with - | domain | domain
  · simp only [Controller.slotAfterSelection, Controller.defaultSlot]
    split <;> split
    · exact ⟨.ps, rfl⟩
    · exact ⟨.cs, modem⟩
    · exact ⟨.ps, rfl⟩
    · exact ⟨.cs, modem⟩
  · exact ⟨.ps, rfl⟩
  · exact ⟨.cs, modem⟩

include staged kept in
theorem plays_route (routes : command.Routes tracker) (kind : RequestKind)
    (unused : tracker.usedIms = false) :
    Plays config bench command
      (bench.service.controller.route (.steady bench.surroundings) kind tracker) := by
  have bounds := routes.bounds (kept.sound.matters _ (Multiset.mem_cons_self _ _))
  have direct : Plays config bench command
      (bench.service.controller.dispatchDirect bench.surroundings tracker) := by
    obtain ⟨domain, slot⟩ := staged.slot_direct
    rw [Controller.dispatchDirect, slot]
    exact staged.plays_dispatch (.inl routes) bounds domain
      fun bench => show [].foldl carryOut bench = bench from rfl
  unfold Controller.route
  split
  · next resolver enabled installed =>
      have given := staged.controller.resolver_eq
      rw [installed] at given
      obtain ⟨script, scripted, rfl⟩ := Option.map_eq_some_iff.mp given.symm
      split
      · next selecting => exact staged.plays_enqueue routes kind selecting unused
      · next idle =>
          have issued := staged.surroundings.connects (by simp [scripted])
            tracker.trafficClass.isEmergency
          have charged := Tariff.ofCommand_routes Tariff.openings routes
          have room := kept.room
          simp only [Tariff.cost, Ledger.add, Multiset.map_cons, Multiset.sum_cons, Tariff.price,
            charged] at room
          simp only [Controller.consultResolver, Conditions.now, Conditions.steady, issued]
          refine staged.plays_request scripted kept.orderly.numbered ?_ routes kind
            (by simpa using idle) unused
          simp only [Tariff.openings] at room
          omega
  · exact direct

include staged kept in
theorem plays_outcome {outcome : TransportOutcome}
    (same : command = .outcome tracker domain outcome) :
    Plays config bench command
      (bench.service.controller.onOutcome (.steady bench.surroundings) tracker domain outcome) := by
  subst same
  obtain ⟨-, refers, told⟩ : (Command.outcome tracker domain outcome).Sound config :=
    kept.sound.matters _ (Multiset.mem_cons_self _ _)
  have modem : Controller.csSlot bench.surroundings = config.slot .cs :=
    congrArg Slot.cs staged.format
  cases outcome with
  | sent => exact staged.plays_complete .sent (some domain)
  | failed code => exact staged.plays_complete (.failed code) (some domain)
  | fallback =>
      obtain ⟨rfl, whole⟩ := told
      simp only [Controller.onOutcome, Conditions.now, Conditions.steady, modem]
      exact staged.plays_dispatch (.inr rfl) refers.bounds .cs fun _ => rfl
  | retryRequested =>
      have routes : (Command.outcome tracker domain .retryRequested).Routes tracker := .again ..
      have wellFormed : tracker.payload.isWellFormed = true := told.wellFormed
      simp only [Controller.onOutcome, Controller.sendRetry, wellFormed, Bool.not_true,
        Bool.false_eq_true, if_false]
      split
      · simp only [Conditions.now, Conditions.steady, modem]
        exact staged.plays_dispatch (.inl routes) refers.bounds .cs
          fun bench => show [].foldl carryOut bench = bench from rfl
      · next unused => exact staged.plays_route kept routes .retry (by simpa using unused)

include kept in
/-- The conversation of the selection that a class is in goes on. -/
theorem talk_going (current : (bench.service.controller.holder trafficClass).isCurrent connection =
    true) : ∃ talk ∈ (bench.ledger config).talks,
      talk.connection = connection ∧ talk.stopping = false := by
  have talking := (kept.orderly.selecting trafficClass connection
    (ConnectionHolder.connectionId_of_isCurrent current)).talking
  obtain ⟨talk, member, same⟩ := talking.held
  exact ⟨talk, member, same, (talking.going talk member same).2⟩

include staged in
theorem plays_stale (ends : command.Ends trafficClass connection)
    (stale : (bench.service.controller.holder trafficClass).isCurrent connection = false) :
    Plays config bench command (bench.service.controller, []) := by
  have same := @ledger_perform_of_still config bench (bench.service.controller, [])
    (fun _ => rfl) rfl
  refine ⟨staged.perform staged.controller, ?_⟩
  change Ledger.Step config _ (ledger config
    { bench with service := (bench.service.perform (bench.service.controller, [])).1 })
  rw [same]
  refine .ignored ends rfl fun current => ?_
  have current : (bench.service.controller.holder trafficClass).connectionId = some connection :=
    current
  simp [ConnectionHolder.isCurrent, current] at stale

include staged kept in
theorem plays_completed {result : Except SelectionError Domain}
    (same : command = .selectionCompleted trafficClass connection result) :
    Plays config bench command
      (bench.service.controller.onSelectionCompleted (.steady bench.surroundings) trafficClass
        connection result) := by
  have ends : command.Ends trafficClass connection := same ▸ .completed result
  by_cases current : (bench.service.controller.holder trafficClass).isCurrent connection = true
  · have active := staged.active_handed (Controller.slotAfterSelection result.toOption)
      (bench.service.controller.queued trafficClass) current
    rw [Controller.onSelectionCompleted, if_pos current]
    refine staged.plays_ended ends current (talk_going kept current) (bounds_queued kept)
      (staged.slot_selected result.toOption) rfl
      ⟨.selectionCompleted trafficClass connection result.toOption, ?_⟩ (.inr rfl)
    rw [← Controller.finishConnection_effects active]
    rfl
  · have stale : (bench.service.controller.holder trafficClass).isCurrent connection = false :=
      Bool.eq_false_iff.mpr current
    rw [Controller.onSelectionCompleted_of_stale result stale]
    exact staged.plays_stale ends stale

include staged kept in
theorem plays_terminated {cause : UInt32}
    (same : command = .selectionTerminated trafficClass connection cause) :
    Plays config bench command
      (bench.service.controller.onSelectionTerminated (.steady bench.surroundings) trafficClass
        connection cause) := by
  have ends : command.Ends trafficClass connection := same ▸ .terminated cause
  by_cases current : (bench.service.controller.holder trafficClass).isCurrent connection = true
  · rw [Controller.onSelectionTerminated, if_pos current]
    exact staged.plays_ended ends current (talk_going kept current) (bounds_queued kept)
      (staged.slot_selected none) rfl
      ⟨.selectionTerminated trafficClass connection cause, rfl⟩ (.inl rfl)
  · have stale : (bench.service.controller.holder trafficClass).isCurrent connection = false :=
      Bool.eq_false_iff.mpr current
    rw [Controller.onSelectionTerminated_of_stale cause stale]
    exact staged.plays_stale ends stale

include staged kept in
/-- Every command that is applied on the bench of a simulation is a step of the ledger. -/
theorem apply : (bench.apply command).Staged config ∧
    Ledger.Step config ((bench.ledger config).add (.command command))
      ((bench.apply command).ledger config) := by
  have sound : command.Sound config := kept.sound.matters _ (Multiset.mem_cons_self _ _)
  have plays : Plays config bench command
      (bench.service.controller.handle (.steady bench.surroundings) command) := by
    cases command with
    | submit kind request => exact staged.plays_route kept (.submitted kind request _) kind rfl
    | outcome tracker domain outcome => exact staged.plays_outcome kept rfl
    | selectionCompleted trafficClass connection result => exact staged.plays_completed kept rfl
    | selectionTerminated trafficClass connection cause => exact staged.plays_terminated kept rfl
    | _ => exact sound.elim
  exact ⟨plays.staged, plays.step⟩

end Commands

end Staged

end Bench

end OutboundSms
