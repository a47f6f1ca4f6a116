import OutboundSms.Proofs.World

/-!
# The two classes apart

The classes share the reference counter, the numbers of connections, the resolver, the
transports and one queue of commands. A command that is not about a class neither looks
at the holder of that class nor touches it: putting another holder there before the
command is the same as putting it there afterwards.
-/

set_option autoImplicit false

namespace OutboundSms

/-- The command is about messages or connections of the class. A snapshot shows both
classes. -/
def Command.Concerns (surroundings : Surroundings) (trafficClass : TrafficClass) :
    Command → Prop
  | submit _ request => (Controller.admitted surroundings request).trafficClass = trafficClass
  | retry tracker | outcome tracker _ _ => tracker.trafficClass = trafficClass
  | selectionCompleted own _ _ | selectionTerminated own _ _ => own = trafficClass
  | snapshot _ => True
  | inboundSms _ | installResolver _ | subscribe _ | unsubscribe _ => False

namespace Controller

/-- Two controllers that differ in the holder of one class at most. -/
structure SameButFor (trafficClass : TrafficClass) (left right : Controller) : Prop where
  config_eq : left.config = right.config
  resolver_eq : left.resolver = right.resolver
  sequence_eq : left.sequence = right.sequence
  connectionsOpened_eq : left.connectionsOpened = right.connectionsOpened
  holder_eq : ∀ other, other ≠ trafficClass → left.holder other = right.holder other

variable {trafficClass own : TrafficClass} {conditions : Conditions}
  {surroundings : Surroundings}

theorem sameButFor_setHolder (controller : Controller) (holder : ConnectionHolder) :
    SameButFor trafficClass controller (controller.setHolder trafficClass holder) := by
  constructor
  case holder_eq =>
    intro other different
    rw [holder_setHolder_of_ne _ _ different]
  all_goals cases trafficClass <;> rfl

theorem SameButFor.eq_setHolder {left right : Controller}
    (same : SameButFor trafficClass left right) :
    right = left.setHolder trafficClass (right.holder trafficClass) := by
  obtain ⟨config, resolver, sequence, opened, others⟩ := same
  cases left
  cases right
  cases trafficClass with
  | normal =>
      have other := others .emergency (by decide)
      simp_all [holder, setHolder]
  | emergency =>
      have other := others .normal (by decide)
      simp_all [holder, setHolder]

theorem setHolder_holder (controller : Controller) (trafficClass : TrafficClass) :
    controller.setHolder trafficClass (controller.holder trafficClass) = controller := by
  cases trafficClass <;> rfl

theorem setHolder_comm (different : own ≠ trafficClass) (controller : Controller)
    (first second : ConnectionHolder) :
    (controller.setHolder trafficClass first).setHolder own second =
      (controller.setHolder own second).setHolder trafficClass first := by
  cases own <;> cases trafficClass <;> first | rfl | exact absurd rfl different

/-! ### Operations that spare a class -/

/-- The operation neither looks at the holder of the class nor touches it. -/
def Spares (trafficClass : TrafficClass) (operation : Controller → Turn) : Prop :=
  ∀ controller holder, operation (controller.setHolder trafficClass holder) =
    ((operation controller).1.setHolder trafficClass holder, (operation controller).2)

theorem Spares.followedBy {first next : Controller → Turn} (before : Spares trafficClass first)
    (after : Spares trafficClass next) :
    Spares trafficClass fun controller => Controller.followedBy (first controller) next := by
  intro controller holder
  simp only [Controller.followedBy, before controller holder, after (first controller).1 holder]

theorem Spares.still (effects : List Effect) :
    Spares trafficClass fun controller => (controller, effects) :=
  fun _ _ => rfl

theorem assignRef_setHolder (facts : TransportFacts) (tracker : Tracker)
    (controller : Controller) (holder : ConnectionHolder) :
    (controller.setHolder trafficClass holder).assignRef facts tracker =
      ((controller.assignRef facts tracker).1,
        (controller.assignRef facts tracker).2.setHolder trafficClass holder) := by
  unfold assignRef
  cases trafficClass <;> (dsimp only [setHolder]; split <;> rfl)

theorem dispatch_spares (slot : Slot) (tracker : Tracker) :
    Spares trafficClass (dispatch surroundings slot tracker) := by
  intro controller holder
  simp only [dispatch, assignRef_setHolder]

theorem dispatchAll_spares (choose : Surroundings → Tracker → Slot) (trackers : List Tracker) :
    Spares trafficClass (dispatchAll conditions choose trackers) := by
  induction trackers generalizing conditions with
  | nil => exact .still []
  | cons tracker rest ih => exact Spares.followedBy (dispatch_spares _ tracker) ih

theorem complete_spares (tracker : Tracker) (result : SendResult) (domain : Option Domain) :
    Spares trafficClass (complete surroundings tracker result domain) :=
  fun _ _ => rfl

/-! ### Operations on the other holder -/

section Other

variable (different : own ≠ trafficClass)

include different

theorem queued_setHolder (controller : Controller) (holder : ConnectionHolder) :
    (controller.setHolder trafficClass holder).queued own = controller.queued own := by
  rw [queued, queued, holder_setHolder_of_ne _ _ different]

theorem takePending_setHolder (controller : Controller) (holder : ConnectionHolder) :
    (controller.setHolder trafficClass holder).takePending own =
      (controller.takePending own).setHolder trafficClass holder := by
  rw [takePending, takePending, holder_setHolder_of_ne _ _ different, setHolder_comm different]

theorem takePending_spares (effects : List Effect) :
    Spares trafficClass fun controller => (controller.takePending own, effects) := by
  intro controller holder
  simp only [takePending_setHolder different]

theorem finishConnection_spares : Spares trafficClass (finishConnection own) := by
  intro controller holder
  simp only [finishConnection, holder_setHolder_of_ne _ _ different]

theorem clearHolder_spares : Spares trafficClass (clearHolder own) := by
  intro controller holder
  simp only [clearHolder, holder_setHolder_of_ne _ _ different, setHolder_comm different]

theorem selectionIssued_spares (connection : ConnectionId) :
    Spares trafficClass (selectionIssued own connection) := by
  intro controller holder
  simp only [selectionIssued, holder_setHolder_of_ne _ _ different, setHolder_comm different]

theorem selectionUnissued_spares : Spares trafficClass (selectionUnissued conditions own) := by
  intro controller holder
  have cleared : Spares trafficClass fun controller =>
      (controller.takePending own).clearHolder own := by
    intro controller holder
    simp only [takePending_setHolder different, clearHolder_spares different _ holder]
  rw [selectionUnissued, queued_setHolder different]
  exact Spares.followedBy (finishConnection_spares different)
    (Spares.followedBy cleared (dispatchAll_spares _ (controller.queued own))) controller holder

theorem onSelectionCompleted_spares (connection : ConnectionId)
    (result : Except SelectionError Domain) :
    Spares trafficClass fun controller =>
      controller.onSelectionCompleted conditions own connection result := by
  intro controller holder
  simp only [onSelectionCompleted, holder_setHolder_of_ne _ _ different,
    queued_setHolder different]
  split
  · exact Spares.followedBy (takePending_spares different _)
      (Spares.followedBy (dispatchAll_spares _ (controller.queued own))
        (Spares.followedBy (finishConnection_spares different) (clearHolder_spares different)))
      controller holder
  · rfl

theorem onSelectionTerminated_spares (connection : ConnectionId) (cause : UInt32) :
    Spares trafficClass fun controller =>
      controller.onSelectionTerminated conditions own connection cause := by
  intro controller holder
  simp only [onSelectionTerminated, holder_setHolder_of_ne _ _ different,
    queued_setHolder different]
  split
  · exact Spares.followedBy (takePending_spares different _)
      (Spares.followedBy (dispatchAll_spares _ (controller.queued own))
        (clearHolder_spares different))
      controller holder
  · rfl

end Other

/-! ### Messages of the other class -/

section Message

variable {tracker : Tracker} (different : tracker.trafficClass ≠ trafficClass)

include different

theorem enqueue_setHolder (kind : RequestKind) (controller : Controller)
    (holder : ConnectionHolder) :
    (controller.setHolder trafficClass holder).enqueue surroundings kind tracker =
      (controller.enqueue surroundings kind tracker).setHolder trafficClass holder := by
  simp only [enqueue, holder_setHolder_of_ne _ _ different, setHolder_comm different]

theorem openConnection_spares (kind : RequestKind) :
    Spares trafficClass (openConnection surroundings kind tracker) := by
  intro controller holder
  have counted (opened : UInt64) :
      { controller.setHolder trafficClass holder with connectionsOpened := opened } =
        { controller with connectionsOpened := opened }.setHolder trafficClass holder := by
    cases trafficClass <;> rfl
  simp only [openConnection, connectionsOpened_setHolder, counted,
    holder_setHolder_of_ne _ _ different, setHolder_comm different, enqueue_setHolder different]

theorem requestSelection_spares (resolver : ResolverId) (issued : Bool) (kind : RequestKind) :
    Spares trafficClass fun controller =>
      controller.requestSelection conditions resolver issued kind tracker := by
  unfold requestSelection
  refine Spares.followedBy (openConnection_spares different kind) fun controller holder => ?_
  simp only [connectionsOpened_setHolder]
  refine Spares.followedBy (Spares.still _) (fun controller holder => ?_) controller holder
  split
  · exact selectionIssued_spares different _ controller holder
  · exact selectionUnissued_spares different controller holder

theorem route_spares (kind : RequestKind) :
    Spares trafficClass fun controller => controller.route conditions kind tracker := by
  intro controller holder
  have settings : (controller.setHolder trafficClass holder).config = controller.config ∧
      (controller.setHolder trafficClass holder).resolver = controller.resolver := by
    cases trafficClass <;> exact ⟨rfl, rfl⟩
  simp only [route, settings.1, settings.2, holder_setHolder_of_ne _ _ different]
  split
  · split
    · rw [enqueue_setHolder different]
    · unfold consultResolver
      refine Spares.followedBy (Spares.still _) (fun controller holder => ?_) controller holder
      split
      · exact dispatch_spares _ tracker controller holder
      · exact requestSelection_spares different _ false kind controller holder
      · exact requestSelection_spares different _ true kind controller holder
  · exact dispatch_spares _ tracker controller holder

theorem sendRetry_spares :
    Spares trafficClass fun controller => controller.sendRetry conditions tracker := by
  intro controller holder
  simp only [sendRetry]
  split
  · exact complete_spares tracker _ _ controller holder
  · split
    · exact dispatch_spares _ tracker controller holder
    · exact route_spares different .retry controller holder

theorem onOutcome_spares (domain : Domain) (outcome : TransportOutcome) :
    Spares trafficClass fun controller =>
      controller.onOutcome conditions tracker domain outcome := by
  intro controller holder
  simp only [onOutcome]
  split
  · exact complete_spares tracker _ _ controller holder
  · exact complete_spares tracker _ _ controller holder
  · exact Spares.followedBy (Spares.still _) (dispatch_spares _ tracker) controller holder
  · exact complete_spares tracker _ _ controller holder
  · exact sendRetry_spares different controller holder

end Message

/-! ### All commands -/

theorem handle_spares {command : Command}
    (apart : ¬ command.Concerns conditions.now trafficClass) :
    Spares trafficClass fun controller => controller.handle conditions command := by
  cases command with
  | submit kind request => exact route_spares apart kind
  | retry tracker => exact sendRetry_spares apart
  | selectionCompleted own connection result =>
      exact onSelectionCompleted_spares apart connection result
  | selectionTerminated own connection cause =>
      exact onSelectionTerminated_spares apart connection cause
  | outcome tracker domain outcome => exact onOutcome_spares apart domain outcome
  | inboundSms address => exact .still _
  | installResolver resolver =>
      intro controller holder
      cases trafficClass <;> rfl
  | subscribe awaited => exact .still _
  | unsubscribe subscription => exact .still _
  | snapshot awaited => exact absurd trivial apart

theorem handleAll_spares {inputs : List (Conditions × Command)}
    (apart : ∀ input ∈ inputs, ¬ input.2.Concerns input.1.now trafficClass) :
    Spares trafficClass (handleAll inputs) := by
  induction inputs with
  | nil => exact .still []
  | cons input rest ih =>
      obtain ⟨first, others⟩ := List.forall_mem_cons.mp apart
      exact Spares.followedBy (handle_spares first) (ih others)

theorem Spares.holder_eq {operation : Controller → Turn} (spares : Spares trafficClass operation)
    (controller : Controller) :
    (operation controller).1.holder trafficClass = controller.holder trafficClass := by
  have put := congrArg Prod.fst (spares controller (controller.holder trafficClass))
  rw [setHolder_holder] at put
  rw [put, holder_setHolder_self]

/-- An operation that spares a class takes controllers that differ in its holder to such
controllers, with the same effects. -/
theorem Spares.separate {operation : Controller → Turn} (spares : Spares trafficClass operation)
    {left right : Controller} (same : SameButFor trafficClass left right) :
    SameButFor trafficClass (operation left).1 (operation right).1 ∧
      (operation left).2 = (operation right).2 := by
  have moved := spares left (right.holder trafficClass)
  rw [← same.eq_setHolder] at moved
  rw [moved]
  exact ⟨sameButFor_setHolder .., rfl⟩

/-- What a class does over any number of commands does not depend on the other class. -/
theorem handleAll_separate {left right : Controller} (same : SameButFor trafficClass left right)
    {inputs : List (Conditions × Command)}
    (apart : ∀ input ∈ inputs, ¬ input.2.Concerns input.1.now trafficClass) :
    SameButFor trafficClass (left.handleAll inputs).1 (right.handleAll inputs).1 ∧
      (left.handleAll inputs).2 = (right.handleAll inputs).2 :=
  (handleAll_spares apart).separate same

/-- The classes do not interfere. A command that is not about a class leaves the holder of
that class as it is, and whatever that holder is, it does the same to the rest of the
controller and has the same effects. -/
theorem handle_separate {left right : Controller} (same : SameButFor trafficClass left right)
    (conditions : Conditions) {command : Command}
    (apart : ¬ command.Concerns conditions.now trafficClass) :
    let first := left.handle conditions command
    let second := right.handle conditions command
    first.1.holder trafficClass = left.holder trafficClass ∧
      second.1.holder trafficClass = right.holder trafficClass ∧
      SameButFor trafficClass first.1 second.1 ∧
      first.2 = second.2 := by
  have spares := handle_spares apart
  exact ⟨spares.holder_eq left, spares.holder_eq right, spares.separate same⟩

end Controller

/-- An emergency message opens its selection alike whether or not a normal one waits. -/
theorem Sample.emergency_separate :
    let urgent := { surroundings with isEmergencyNumber := fun _ => true }
    let waiting := selecting.controller
    let vacant := waiting.setHolder .normal { trafficClass := .normal }
    let first := waiting.handle (.steady urgent) (.submit .text (request 2))
    let second := vacant.handle (.steady urgent) (.submit .text (request 2))
    waiting.holder .normal ≠ vacant.holder .normal ∧
      takenConnections first.2 = [{ number := 2 }] ∧
      first.1.holder .normal = waiting.holder .normal ∧ first.2 = second.2 := by
  intro urgent waiting vacant first second
  have same : Controller.SameButFor .normal waiting vacant :=
    Controller.sameButFor_setHolder _ _
  have apart : ¬ (Command.submit .text (request 2)).Concerns (Conditions.steady urgent).now
      .normal := by
    intro own
    cases own
  obtain ⟨kept, -, -, alike⟩ := Controller.handle_separate same (.steady urgent) apart
  exact ⟨by decide, by decide, kept, alike⟩

end OutboundSms
