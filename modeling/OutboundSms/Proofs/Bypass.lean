import OutboundSms.Proofs.Custody
import OutboundSms.Proofs.Moves

/-!
# Selections that come to nothing

A controller does without a selection when selection is switched off, when it has no
resolver, when its resolver has no connection to give and when the connection does not
issue the request. The last of these opens a connection, queues the message, finishes
the connection, drains the queue and clears the holder, all in one command. Whoever
sees neither resolvers nor connections cannot tell the four apart.
-/

set_option autoImplicit false

namespace OutboundSms

/-- Whether an effect reaches anyone but a resolver. An answer to a snapshot shows how
the controller is set up, and is left out. -/
def Effect.isOvert : Effect → Bool
  | .consult _ _ _ | .takeConnection _ _ _ | .requestSelection _ _ _ _ | .awaitSelection _ _ _
  | .stopWaiter _ | .finishSelection _ _ | .dropConnection _ _ _ | .reportSnapshot _ => false
  | _ => true

def overt (effects : List Effect) : List Effect :=
  effects.filter (·.isOvert)

@[simp] theorem overt_append (first second : List Effect) :
    overt (first ++ second) = overt first ++ overt second :=
  List.filter_append ..

namespace Controller

/-- Neither class selects or has anything queued. -/
def Vacant (controller : Controller) : Prop :=
  ∀ trafficClass, controller.holder trafficClass = { trafficClass }

/-- The resolver, should the controller ask one, issues no request. -/
def Unaided (surroundings : Surroundings) (controller : Controller) : Prop :=
  controller.config.domainSelectionEnabled = true →
    ∀ resolver, controller.resolver = some resolver →
      ∀ emergency, surroundings.connect resolver emergency ≠ .issued

variable {conditions : Conditions} {surroundings : Surroundings}
  {controller left right : Controller}

theorem vacant_new (config : DispatchConfig) (resolver : Option ResolverId)
    (sequence : ReferenceCounter) : ((new config resolver).withSequence sequence).Vacant := by
  intro trafficClass
  cases trafficClass <;> rfl

theorem Vacant.state_eq (vacant : controller.Vacant) (trafficClass : TrafficClass) :
    (controller.holder trafficClass).state = .idle := by
  rw [vacant]
  rfl

theorem Vacant.pending_eq (vacant : controller.Vacant) (trafficClass : TrafficClass) :
    (controller.holder trafficClass).pending = [] := by
  rw [vacant]

theorem Vacant.not_isCurrent (vacant : controller.Vacant) (trafficClass : TrafficClass)
    (connection : ConnectionId) :
    (controller.holder trafficClass).isCurrent connection = false := by
  rw [vacant]
  rfl

/-! ### One message -/

/-- A turn that goes through effects no one sees, counts connections and then does what
`next` does. -/
def Passes (controller : Controller) (turn : Turn) (next : Controller → Turn) : Prop :=
  ∃ passing opened, overt passing = [] ∧
    turn = followedBy ({ controller with connectionsOpened := opened }, passing) next

theorem holder_opened (opened : UInt64) (trafficClass : TrafficClass) :
    { controller with connectionsOpened := opened }.holder trafficClass =
      controller.holder trafficClass := by
  cases trafficClass <;> rfl

theorem openConnection_clearHolder (vacant : controller.Vacant) (surroundings : Surroundings)
    (kind : RequestKind) (tracker : Tracker) :
    let opened := (controller.openConnection surroundings kind tracker).1
    opened.queued tracker.trafficClass = [tracker] ∧
      (opened.takePending tracker.trafficClass).clearHolder tracker.trafficClass =
        ({ controller with connectionsOpened := controller.connectionsOpened + 1 },
          [.dropConnection tracker.trafficClass (some controller.nextConnection) true]) := by
  have held := vacant tracker.trafficClass
  cases own : tracker.trafficClass <;> rw [own] at held <;> cases controller <;>
    simp_all [openConnection, enqueue, holder, setHolder, queued, takePending, clearHolder,
      ConnectionHolder.setConnection, ConnectionHolder.enqueue, ConnectionHolder.takePending,
      ConnectionHolder.clear, ConnectionHolder.connectionId, ConnectionHolder.isDrained,
      nextConnection]

theorem overt_finishConnection (trafficClass : TrafficClass) :
    overt (controller.finishConnection trafficClass).2 = [] := by
  cases held : (controller.holder trafficClass).connectionId <;>
    simp [finishConnection, held] <;> rfl

theorem requestSelection_passes (vacant : controller.Vacant) (conditions : Conditions)
    (resolver : ResolverId) (kind : RequestKind) (tracker : Tracker) :
    Passes controller (controller.requestSelection conditions resolver false kind tracker)
      fun controller => controller.dispatchDirect conditions.now tracker := by
  obtain ⟨waiting, cleared⟩ := openConnection_clearHolder vacant conditions.now kind tracker
  let opened := controller.openConnection conditions.now kind tracker
  refine ⟨opened.2 ++ ([.requestSelection resolver tracker.trafficClass
      { number := opened.1.connectionsOpened } (selectionAttributes tracker)] ++
        ((opened.1.finishConnection tracker.trafficClass).2 ++
          [.dropConnection tracker.trafficClass (some controller.nextConnection) true])),
    controller.connectionsOpened + 1, ?_, ?_⟩
  · simp only [overt_append, overt_finishConnection]
    rfl
  · simp [requestSelection, followedBy, selectionUnissued, finishConnection, waiting, cleared,
      dispatchAll, dispatchDirect, opened]

/-- Where no request is issued, a message is dispatched directly in the end. -/
theorem route_passes (vacant : controller.Vacant) (unaided : controller.Unaided conditions.now)
    (kind : RequestKind) (tracker : Tracker) :
    Passes controller (controller.route conditions kind tracker)
      fun controller => controller.dispatchDirect conditions.now tracker := by
  have direct : Passes controller (controller.dispatchDirect conditions.now tracker)
      fun controller => controller.dispatchDirect conditions.now tracker :=
    ⟨[], controller.connectionsOpened, rfl, rfl⟩
  unfold route
  split
  · next resolver enabled asked =>
    have idle : (controller.holder tracker.trafficClass).requested = false := by
      rw [vacant]
    simp only [idle, Bool.false_eq_true, if_false, consultResolver]
    cases answer : conditions.now.connect resolver tracker.trafficClass.isEmergency with
    | refused =>
        exact ⟨[.consult resolver tracker.trafficClass.isEmergency .refused],
          controller.connectionsOpened, rfl, rfl⟩
    | unissued =>
        obtain ⟨passing, opened, silent, turn_eq⟩ :=
          requestSelection_passes vacant conditions resolver kind tracker
        refine ⟨.consult resolver tracker.trafficClass.isEmergency .unissued :: passing, opened,
          silent, ?_⟩
        simp only [followedBy, turn_eq]
        rfl
    | issued => exact absurd answer (unaided enabled resolver asked _)
  · exact direct

/-! ### One command -/

/-- The turns cannot be told apart by anyone but a resolver, and the next references are
the same. -/
structure Alike (first second : Turn) : Prop where
  overt_eq : overt first.2 = overt second.2
  sequence_eq : first.1.sequence = second.1.sequence

theorem Passes.alike {first second : Turn} {next : Controller → Turn}
    (left_passes : Passes left first next) (right_passes : Passes right second next)
    (congr : ∀ {left right : Controller}, left.sequence = right.sequence →
      Alike (next left) (next right))
    (same : left.sequence = right.sequence) : Alike first second := by
  obtain ⟨before, opened, silent, rfl⟩ := left_passes
  obtain ⟨before', opened', silent', rfl⟩ := right_passes
  have alike := @congr { left with connectionsOpened := opened }
    { right with connectionsOpened := opened' } same
  refine ⟨?_, alike.sequence_eq⟩
  simp only [followedBy, overt_append, silent, silent', alike.overt_eq]

theorem dispatch_alike (same : left.sequence = right.sequence) (surroundings : Surroundings)
    (slot : Slot) (tracker : Tracker) :
    Alike (left.dispatch surroundings slot tracker) (right.dispatch surroundings slot tracker) :=
  have congr := dispatch_congr same slot tracker
  ⟨congrArg overt congr.1, congr.2⟩

theorem complete_alike (same : left.sequence = right.sequence) (tracker : Tracker)
    (result : SendResult) (domain : Option Domain) :
    Alike (left.complete surroundings tracker result domain)
      (right.complete surroundings tracker result domain) :=
  ⟨rfl, same⟩

section Pair

variable (same : left.sequence = right.sequence) (left_vacant : left.Vacant)
  (right_vacant : right.Vacant) (left_unaided : left.Unaided conditions.now)
  (right_unaided : right.Unaided conditions.now)

include same left_vacant right_vacant left_unaided right_unaided

theorem route_alike (kind : RequestKind) (tracker : Tracker) :
    Alike (left.route conditions kind tracker) (right.route conditions kind tracker) :=
  (route_passes left_vacant left_unaided kind tracker).alike
    (route_passes right_vacant right_unaided kind tracker)
    (fun same => dispatch_alike same _ _ tracker) same

theorem sendRetry_alike (tracker : Tracker) :
    Alike (left.sendRetry conditions tracker) (right.sendRetry conditions tracker) := by
  unfold sendRetry
  split
  · exact complete_alike same tracker _ _
  · split
    · exact dispatch_alike same _ _ tracker
    · exact route_alike same left_vacant right_vacant left_unaided right_unaided .retry tracker

theorem onOutcome_alike (tracker : Tracker) (domain : Domain) (outcome : TransportOutcome) :
    Alike (left.onOutcome conditions tracker domain outcome)
      (right.onOutcome conditions tracker domain outcome) := by
  unfold onOutcome
  split
  · exact complete_alike same tracker _ _
  · exact complete_alike same tracker _ _
  · have alike := dispatch_alike same conditions.now (csSlot conditions.now) tracker
    exact ⟨congrArg (_ :: ·) alike.overt_eq, alike.sequence_eq⟩
  · exact complete_alike same tracker _ _
  · exact sendRetry_alike same left_vacant right_vacant left_unaided right_unaided tracker

theorem handle_alike (command : Command) :
    Alike (left.handle conditions command) (right.handle conditions command) := by
  cases command with
  | submit kind request =>
      exact route_alike same left_vacant right_vacant left_unaided right_unaided kind _
  | retry tracker =>
      exact sendRetry_alike same left_vacant right_vacant left_unaided right_unaided tracker
  | selectionCompleted trafficClass connection result =>
      rw [handle, handle, onSelectionCompleted_of_stale result (left_vacant.not_isCurrent _ _),
        onSelectionCompleted_of_stale result (right_vacant.not_isCurrent _ _)]
      exact ⟨rfl, same⟩
  | selectionTerminated trafficClass connection cause =>
      rw [handle, handle, onSelectionTerminated_of_stale cause (left_vacant.not_isCurrent _ _),
        onSelectionTerminated_of_stale cause (right_vacant.not_isCurrent _ _)]
      exact ⟨rfl, same⟩
  | outcome tracker domain outcome =>
      exact onOutcome_alike same left_vacant right_vacant left_unaided right_unaided tracker
        domain outcome
  | inboundSms address => exact ⟨rfl, same⟩
  | installResolver resolver => exact ⟨rfl, same⟩
  | subscribe awaited => exact ⟨rfl, same⟩
  | unsubscribe subscription => exact ⟨rfl, same⟩
  | snapshot awaited =>
      refine ⟨?_, same⟩
      simp only [handle]
      split <;> rfl

end Pair

/-! ### Runs -/

/-- The controller has nothing under way, and asks none but useless resolvers. -/
structure Idles (useless : ResolverId → Prop) (controller : Controller) : Prop where
  vacant : controller.Vacant
  asks : controller.config.domainSelectionEnabled = true →
    ∀ resolver, controller.resolver = some resolver → useless resolver

variable {useless : ResolverId → Prop}

theorem Idles.unaided (idles : controller.Idles useless)
    (fruitless : ∀ resolver, useless resolver → ∀ emergency,
      surroundings.connect resolver emergency ≠ .issued) :
    controller.Unaided surroundings :=
  fun enabled resolver asked => fruitless resolver (idles.asks enabled resolver asked)

theorem Idles.of_same (idles : controller.Idles useless) {after : Controller}
    (holders : ∀ trafficClass, after.holder trafficClass = controller.holder trafficClass)
    (config : after.config = controller.config)
    (resolver : after.resolver = controller.resolver) : after.Idles useless where
  vacant trafficClass := (holders trafficClass).trans (idles.vacant trafficClass)
  asks := by
    rw [config, resolver]
    exact idles.asks

theorem Idles.dispatch (idles : controller.Idles useless) (slot : Slot) (tracker : Tracker) :
    (controller.dispatch surroundings slot tracker).1.Idles useless := by
  refine idles.of_same (fun _ => holder_dispatch ..) ?_ ?_ <;>
    (simp only [Controller.dispatch, assignRef]; split <;> rfl)

theorem Idles.route (idles : controller.Idles useless)
    (unaided : controller.Unaided conditions.now) (kind : RequestKind) (tracker : Tracker) :
    (controller.route conditions kind tracker).1.Idles useless := by
  obtain ⟨passing, opened, -, turn_eq⟩ := route_passes idles.vacant unaided kind tracker
  rw [turn_eq]
  have counted : { controller with connectionsOpened := opened }.Idles useless :=
    idles.of_same (fun _ => holder_opened ..) rfl rfl
  exact counted.dispatch _ tracker

theorem Idles.sendRetry (idles : controller.Idles useless)
    (unaided : controller.Unaided conditions.now) (tracker : Tracker) :
    (controller.sendRetry conditions tracker).1.Idles useless := by
  unfold Controller.sendRetry
  split
  · exact idles
  · split
    · exact idles.dispatch _ tracker
    · exact idles.route unaided .retry tracker

theorem Idles.onOutcome (idles : controller.Idles useless)
    (unaided : controller.Unaided conditions.now) (tracker : Tracker) (domain : Domain)
    (outcome : TransportOutcome) :
    (controller.onOutcome conditions tracker domain outcome).1.Idles useless := by
  unfold Controller.onOutcome
  split
  · exact idles
  · exact idles
  · exact idles.dispatch _ tracker
  · exact idles
  · exact idles.sendRetry unaided tracker

/-- A command leaves a controller idle, unless it brings a resolver that is of use. -/
theorem Idles.handle (idles : controller.Idles useless)
    (unaided : controller.Unaided conditions.now) (command : Command)
    (installs : ∀ resolver, command = .installResolver (some resolver) → useless resolver) :
    (controller.handle conditions command).1.Idles useless := by
  cases command with
  | submit kind request => exact idles.route unaided kind _
  | retry tracker => exact idles.sendRetry unaided tracker
  | selectionCompleted trafficClass connection result =>
      rw [Controller.handle,
        onSelectionCompleted_of_stale result (idles.vacant.not_isCurrent _ _)]
      exact idles
  | selectionTerminated trafficClass connection cause =>
      rw [Controller.handle,
        onSelectionTerminated_of_stale cause (idles.vacant.not_isCurrent _ _)]
      exact idles
  | outcome tracker domain outcome => exact idles.onOutcome unaided tracker domain outcome
  | installResolver resolver =>
      refine ⟨fun trafficClass => ?_, fun _ installed same => ?_⟩
      · cases trafficClass
        · exact idles.vacant .normal
        · exact idles.vacant .emergency
      · exact installs installed (congrArg _ same)
  | inboundSms | subscribe | unsubscribe | snapshot => exact idles

/-- Two controllers that have only useless resolvers to ask do the same with any commands,
and stay idle. -/
theorem handleAll_alike {inputs : List (Conditions × Command)}
    (fruitless : ∀ input ∈ inputs, ∀ resolver, useless resolver → ∀ emergency,
      input.1.now.connect resolver emergency ≠ .issued)
    (installs : ∀ input ∈ inputs, ∀ resolver,
      input.2 = .installResolver (some resolver) → useless resolver)
    (same : left.sequence = right.sequence) (left_idles : left.Idles useless)
    (right_idles : right.Idles useless) :
    Alike (left.handleAll inputs) (right.handleAll inputs) ∧
      (left.handleAll inputs).1.Idles useless := by
  induction inputs generalizing left right with
  | nil => exact ⟨⟨rfl, same⟩, left_idles⟩
  | cons input rest ih =>
      obtain ⟨conditions, command⟩ := input
      obtain ⟨now, later⟩ := List.forall_mem_cons.mp fruitless
      obtain ⟨installed, others⟩ := List.forall_mem_cons.mp installs
      have left_unaided := left_idles.unaided now
      have right_unaided := right_idles.unaided now
      have step := handle_alike same left_idles.vacant right_idles.vacant left_unaided
        right_unaided command
      obtain ⟨run, idles⟩ := ih later others step.sequence_eq
        (left_idles.handle left_unaided command installed)
        (right_idles.handle right_unaided command installed)
      refine ⟨⟨?_, run.sequence_eq⟩, idles⟩
      simp only [handleAll, followedBy, overt_append, step.overt_eq, run.overt_eq]

end Controller

/-- The resolver never has a connection to give. -/
def NeverConnects (inputs : List (Conditions × Command)) (resolver : ResolverId) : Prop :=
  ∀ input ∈ inputs, ∀ place emergency, (input.1 place).connect resolver emergency = .refused

/-- The resolver gives connections, and none of them ever issues a request. -/
def NeverIssues (inputs : List (Conditions × Command)) (resolver : ResolverId) : Prop :=
  ∀ input ∈ inputs, ∀ place emergency, (input.1 place).connect resolver emergency = .unissued

namespace Controller

/-- The controllers that do without selections: one with selection switched off, whatever
resolver it has, one with no resolver, and one with each of two resolvers. -/
def withoutSelection (config : DispatchConfig) (sequence : ReferenceCounter)
    (unasked : Option ResolverId) (refusing unissuing : ResolverId) : List Controller :=
  [(new { config with domainSelectionEnabled := false } unasked).withSequence sequence,
    (new config none).withSequence sequence,
    (new config (some refusing)).withSequence sequence,
    (new config (some unissuing)).withSequence sequence]

/-- All ways to do without a selection are one. Under the same commands and conditions, a
controller with selection switched off, one without a resolver, one whose resolver has no
connections and one whose connections issue nothing have the same overt effects, and
after every command both their classes are idle. -/
theorem bypasses_agree {inputs : List (Conditions × Command)} {refusing unissuing : ResolverId}
    (refuses : NeverConnects inputs refusing) (unissues : NeverIssues inputs unissuing)
    (installs : ∀ input ∈ inputs, ∀ resolver, input.2 = .installResolver (some resolver) →
      NeverConnects inputs resolver ∨ NeverIssues inputs resolver)
    (config : DispatchConfig) (sequence : ReferenceCounter) (unasked : Option ResolverId)
    {past : List (Conditions × Command)} (before : past <+: inputs) :
    ∀ first ∈ withoutSelection config sequence unasked refusing unissuing,
      ∀ second ∈ withoutSelection config sequence unasked refusing unissuing,
        overt (first.handleAll past).2 = overt (second.handleAll past).2 ∧
          ∀ trafficClass,
            ((first.handleAll past).1.holder trafficClass).state = .idle ∧
              ((first.handleAll past).1.holder trafficClass).pending = [] := by
  let useless (resolver : ResolverId) := NeverConnects inputs resolver ∨ NeverIssues inputs resolver
  have fruitless : ∀ input ∈ past, ∀ resolver, useless resolver → ∀ emergency,
      input.1.now.connect resolver emergency ≠ .issued := by
    intro input member resolver kind emergency issued
    rcases kind with never | never
    · exact nomatch (never input (before.subset member) 0 emergency).symm.trans issued
    · exact nomatch (never input (before.subset member) 0 emergency).symm.trans issued
  have idle : ∀ controller ∈ withoutSelection config sequence unasked refusing unissuing,
      controller.sequence = sequence ∧ controller.Idles useless := by
    intro controller member
    simp only [withoutSelection, List.mem_cons, List.not_mem_nil, or_false] at member
    rcases member with rfl | rfl | rfl | rfl
    · exact ⟨rfl, vacant_new _ _ _, fun enabled => nomatch enabled⟩
    · exact ⟨rfl, vacant_new _ _ _, fun _ _ asked => nomatch asked⟩
    · refine ⟨rfl, vacant_new _ _ _, fun _ resolver asked => ?_⟩
      obtain rfl := Option.some.inj asked
      exact .inl refuses
    · refine ⟨rfl, vacant_new _ _ _, fun _ resolver asked => ?_⟩
      obtain rfl := Option.some.inj asked
      exact .inr unissues
  intro first first_mem second second_mem
  obtain ⟨first_sequence, first_idles⟩ := idle first first_mem
  obtain ⟨second_sequence, second_idles⟩ := idle second second_mem
  obtain ⟨alike, idles⟩ := handleAll_alike fruitless
    (fun input member => installs input (before.subset member))
    (first_sequence.trans second_sequence.symm) first_idles second_idles
  exact ⟨alike.overt_eq, fun trafficClass =>
    ⟨idles.vacant.state_eq trafficClass, idles.vacant.pending_eq trafficClass⟩⟩

end Controller

namespace Sample

/-- One resolver has no connections, and those of the others issue nothing. -/
def unhelped : Surroundings :=
  { surroundings with
    connect := fun resolver _ => if resolver = 1 then .refused else .unissued }

/-- A message is submitted and falls back, with another resolver installed meanwhile. -/
def detour : List (Conditions × Command) :=
  [(.steady unhelped, .submit .text (request 1)),
    (.steady unhelped, .installResolver (some 1)),
    (.steady unhelped, .outcome outcome.tracker .ps .fallback)]

/-- One controller opens a connection for the message and the other has none to open. -/
theorem detour_agree :
    let plain := (Controller.new {} none).withSequence (.new 256)
    let vain := (Controller.new {} (some 2)).withSequence (.new 256)
    takenConnections (plain.handleAll detour).2 = [] ∧
      takenConnections (vain.handleAll detour).2 = [{ number := 1 }] ∧
      (handedOver (vain.handleAll detour).2).length = 2 ∧
      overt (plain.handleAll detour).2 = overt (vain.handleAll detour).2 := by
  intro plain vain
  have course : ∀ input ∈ detour, input.1 = .steady unhelped := by
    simp [detour]
  have refuses : NeverConnects detour 1 := by
    intro input member place emergency
    rw [course input member]
    rfl
  have unissues : NeverIssues detour 2 := by
    intro input member place emergency
    rw [course input member]
    rfl
  have installs : ∀ input ∈ detour, ∀ resolver, input.2 = .installResolver (some resolver) →
      NeverConnects detour resolver ∨ NeverIssues detour resolver := by
    intro input member resolver installed
    simp only [detour, List.mem_cons, List.not_mem_nil, or_false] at member
    rcases member with rfl | rfl | rfl
    · cases installed
    · cases installed
      exact .inl refuses
    · cases installed
  have agree := Controller.bypasses_agree refuses unissues installs {} (.new 256) none
    List.prefix_rfl plain (by simp [Controller.withoutSelection, plain]) vain
    (by simp [Controller.withoutSelection, vain])
  exact ⟨by decide, by decide, by decide, agree.1⟩

end Sample

end OutboundSms
