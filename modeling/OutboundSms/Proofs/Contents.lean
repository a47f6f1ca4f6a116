import OutboundSms.Proofs.Attempts

/-!
# Contents

What a sender asked for, as it reaches the link. A submission is made from the message
and from the record of its delivery, and of the delivery only the reference and the
retry flag show in it. So whatever way a message has taken, each of its submissions
carries the request as it was accepted, with the options brought into range.
-/

set_option autoImplicit false

namespace OutboundSms

/-! ### Options -/

namespace SendOptions

variable {options : SendOptions} {priority : UInt8} {minutes : UInt32}

theorem priority_normalised :
    options.normalised.priority = some priority ↔
      options.priority = some priority ∧ priority.toNat ≤ 3 := by
  simp [normalised, priorityInRange, Option.filter_eq_some_iff, UInt8.le_iff_toNat_le]

theorem validityPeriodMins_normalised :
    options.normalised.validityPeriodMins = some minutes ↔
      options.validityPeriodMins = some minutes ∧
        5 ≤ minutes.toNat ∧ minutes.toNat ≤ 635040 := by
  simp [normalised, validityInRange, Option.filter_eq_some_iff, UInt32.le_iff_toNat_le]

@[simp] theorem normalised_normalised (options : SendOptions) :
    options.normalised.normalised = options.normalised := by
  simp [normalised, Option.filter_filter]

theorem normalised_eq_update (options : SendOptions) :
    options.normalised =
      { options with
        priority := options.normalised.priority
        validityPeriodMins := options.normalised.validityPeriodMins } := rfl

end SendOptions

/-- No option is a reason to refuse a request. -/
theorem SendRequest.admission_options (request : SendRequest) (options : SendOptions)
    (kind : RequestKind) (storageAvailable : Bool) :
    { request with options }.admission kind storageAvailable =
      request.admission kind storageAvailable := rfl

/-- A request is taken in with its options in range, whoever has brought them there. -/
theorem Controller.send_normalised (controller : Controller) (conditions : Conditions)
    (storageAvailable : Bool) (kind : RequestKind) (request : SendRequest) :
    controller.send conditions storageAvailable kind
        { request with options := request.options.normalised } =
      controller.send conditions storageAvailable kind request := by
  simp only [Controller.send, request.admission_options, accept, admitted, Tracker.ofRequest,
    SendOptions.normalised_normalised]

/-! ### Submissions -/

/-- A submission of a message. The reference and the retry flag are all that the course
of its delivery decides. -/
def Message.submission (message : Message) (format : SmsFormat) (messageRef : Option UInt8)
    (isRetry : Bool) : Submission where
  destination := message.destination
  serviceCenter := message.serviceCenter
  payload := message.payload
  messageRef
  isRetry
  isEmergency := message.emergency
  format
  priority := message.options.priority
  validityPeriodMins := message.options.validityPeriodMins
  expectMore := message.options.expectMore

/-- The submission asks the link for what `request` asks for. -/
structure Submission.Carries (submission : Submission) (request : SendRequest)
    (emergency : Bool) : Prop where
  destination : submission.destination = request.destination
  serviceCenter : submission.serviceCenter = request.serviceCenter
  payload : submission.payload = request.payload
  expectMore : submission.expectMore = request.options.expectMore
  isEmergency : submission.isEmergency = emergency
  priority : ∀ priority, submission.priority = some priority ↔
    request.options.priority = some priority ∧ priority.toNat ≤ 3
  validity : ∀ minutes, submission.validityPeriodMins = some minutes ↔
    request.options.validityPeriodMins = some minutes ∧
      5 ≤ minutes.toNat ∧ minutes.toNat ≤ 635040

theorem Controller.carries_admitted (surroundings : Surroundings) (request : SendRequest)
    (format : SmsFormat) (messageRef : Option UInt8) (isRetry : Bool) :
    ((admitted surroundings request).message.submission format messageRef isRetry).Carries
      request (surroundings.isEmergencyNumber request.destination) where
  destination := rfl
  serviceCenter := rfl
  payload := rfl
  expectMore := rfl
  isEmergency := rfl
  priority _ := SendOptions.priority_normalised
  validity _ := SendOptions.validityPeriodMins_normalised

/-- A link that is driven to the end gets the same message in every submission, and the
tracker that is reported is still of that message. -/
theorem drive_carries (domain : Domain) (format : SmsFormat) (policy : RetryPolicy)
    (answers : Nat → LinkResponse) (tracker : Tracker) :
    (drive domain format policy answers tracker).tracker.message = tracker.message ∧
      ∀ made ∈ (drive domain format policy answers tracker).submissions,
        ∃ messageRef isRetry, made = tracker.message.submission format messageRef isRetry := by
  let link : LinkTransport := ⟨domain, format, policy, false⟩
  have first : ∃ messageRef isRetry, Submission.ofTracker tracker format =
      tracker.message.submission format messageRef isRetry := ⟨_, _, rfl⟩
  fun_induction drive domain format policy answers tracker with
  | case1 answers tracker submission last outcome registered reaction =>
      have finishes : link.Finishes (.answered tracker _) last outcome := .answered reaction
      exact ⟨finishes.evolves.message_eq, by simpa using first⟩
  | case2 answers tracker submission next reaction =>
      have advances : link.Advances (.answered tracker _) [] (.handingBack next) :=
        .handsBack reaction
      exact ⟨advances.evolves.message_eq, by simpa using first⟩
  | case3 answers tracker submission next reaction rest ih =>
      have advances : link.Advances (.answered tracker _) [] (.submitting next) :=
        .resubmits reaction
      have same : next.message = tracker.message := advances.evolves.message_eq
      rw [← same] at first ⊢
      obtain ⟨reported, submitted⟩ := ih ⟨_, _, rfl⟩
      refine ⟨reported, fun made member => ?_⟩
      rcases List.mem_cons.mp member with rfl | later
      · exact first
      · exact submitted made later

namespace Network

variable {links : Links} {network rest after : Network} {config : DispatchConfig}
  {resolver : Option ResolverId} {sequence : ReferenceCounter}

/-! ### Messages stay known -/

theorem Step.entered_subset (step : Step links network after) (evolving : network.Evolving) :
    network.world.entered ⊆ after.world.entered := by
  cases step with
  | handle _ provides => exact (provides.world evolving).entered_subset
  | advance | finish | report => exact fun _ => id

theorem Run.entered_subset (run : Run links network after) (evolving : network.Evolving) :
    network.world.entered ⊆ after.world.entered ∧ after.Evolving := by
  induction run with
  | refl => exact ⟨fun _ => id, evolving⟩
  | tail _ step ih =>
      exact ⟨List.Subset.trans ih.1 (step.entered_subset ih.2), (step.world ih.2).1⟩

theorem Sound.entered_of_flight (sound : network.Sound) {flight : Flight}
    (flying : flight ∈ network.flights) :
    flight.stage.tracker.message ∈ network.world.entered := by
  refine sound.accounted.balanced.subset ?_
  rw [(sound.evolving flight flying).message_eq]
  simp only [World.outside, World.heldMessages, Network.world, List.mem_append, List.mem_map]
  exact .inr (.inl (.inl ⟨flight.holding, ⟨flight, flying, rfl⟩, rfl⟩))

/-! ### The history -/

/-- Every submission so far was made by a link transport in its own format, from a
message that has come in. -/
def Faithful (links : Links) (network : Network) : Prop :=
  ∀ slot ticket made, .submission slot ticket made ∈ network.history →
    ∃ link, links slot = some link ∧ ∃ message ∈ network.world.entered,
      message.ticket = ticket ∧
        ∃ messageRef isRetry, made = message.submission link.format messageRef isRetry

/-- Only a link transport that goes on with a message submits it, as it stands. -/
theorem Step.submission_origin (step : Step links network after) {slot : Slot} {ticket : Ticket}
    {made : Submission} (there : .submission slot ticket made ∈ after.history) :
    .submission slot ticket made ∈ network.history ∨
      ∃ flight ∈ network.flights, flight.holding.slot = slot ∧
        flight.holding.tracker.ticket = ticket ∧ ∃ link, links slot = some link ∧
          made = .ofTracker flight.stage.tracker link.format := by
  cases step with
  | handle _ provides =>
      refine .inl ?_
      rw [← provides.history_eq]
      simpa [Network.handle] using there
  | finish | report => exact .inl there
  | @advance before flight later link submissions stage flying linked advances =>
      rcases List.mem_append.mp there with old | new
      · exact .inl old
      · obtain ⟨submission, submitted, same⟩ := List.mem_map.mp new
        obtain ⟨rfl, rfl, rfl⟩ := Happening.submission.inj same
        refine .inr ⟨flight, by simp [flying], rfl, rfl, link, linked, ?_⟩
        generalize flight.stage = standing at advances
        cases advances with
        | submitted => exact List.mem_singleton.mp submitted
        | resubmits | handsBack => cases submitted

theorem Step.faithful (step : Step links network after) (sound : network.Sound)
    (faithful : network.Faithful links) : after.Faithful links := by
  intro slot ticket made there
  have known := step.entered_subset sound.evolving
  rcases step.submission_origin there with old | ⟨flight, flying, rfl, rfl, link, linked, rfl⟩
  · -- what was true of it when it was made is still true
    obtain ⟨link, linked, message, member, rest⟩ := faithful slot ticket made old
    exact ⟨link, linked, message, known member, rest⟩
  · exact ⟨link, linked, _, known (sound.entered_of_flight flying),
      (sound.evolving flight flying).ticket_eq, _, _, rfl⟩

theorem Reachable.faithful (reachable : Reachable links config resolver sequence network) :
    network.Faithful links := by
  induction reachable with
  | refl => exact fun _ _ _ made => (List.not_mem_nil made).elim
  | tail run step ih => exact step.faithful (Reachable.sound run) ih

theorem Sound.entered_unique (sound : network.Sound) {first second : Message}
    (member : first ∈ network.world.entered) (other : second ∈ network.world.entered)
    (same : first.ticket = second.ticket) : first = second :=
  List.inj_on_of_nodup_map sound.accounted.distinct member other same

/-- A request that comes up is in the network from then on, as it was accepted. -/
theorem Provides.entered_submit {surroundings : Surroundings} {kind : RequestKind}
    {request : SendRequest}
    (provides : network.Provides links surroundings (.submit kind request) rest) :
    (Controller.admitted surroundings request).message ∈ rest.world.entered := by
  generalize named : Command.submit kind request = command at provides
  cases provides with
  | submitted =>
      cases named
      exact List.mem_append_left _ List.mem_concat_self
  | adopted brings =>
      subst named
      cases brings
  | bare empty =>
      subst named
      cases empty
  | reclaimed | reported => cases named

/-- Whatever becomes of a request after it has been accepted, each submission of its
message is made by the link transport of some slot, in the format of that transport, and
asks for what the request asked for, with the class that the destination had on
acceptance. Bringing the options into range changes only those that are out of range, does
so once and for all, and is never a reason to refuse the request. -/
theorem Run.contents_carried {conditions : Conditions} {kind : RequestKind}
    {request : SendRequest} {ownRefs : Ticket → UInt8}
    (reachable : Reachable links config resolver sequence network)
    (answer : links.Answer conditions)
    (provides : network.Provides links conditions.now (.submit kind request) rest)
    (run : Run links (rest.handle links ownRefs conditions (.submit kind request)) after) :
    (∀ slot made, .submission slot request.ticket made ∈ after.history →
      ∃ link, links slot = some link ∧ made.format = link.format ∧
        made.Carries request (conditions.now.isEmergencyNumber request.destination)) ∧
    ∀ options : SendOptions,
      options.normalised = { options with
        priority := options.normalised.priority
        validityPeriodMins := options.normalised.validityPeriodMins } ∧
      options.normalised.normalised = options.normalised ∧
      ∀ (controller : Controller) (storageAvailable : Bool),
        { request with options }.admission kind storageAvailable =
          request.admission kind storageAvailable ∧
        controller.send conditions storageAvailable kind
            { request with options := options.normalised } =
          controller.send conditions storageAvailable kind { request with options } := by
  refine ⟨fun slot made submitted => ?_, fun options =>
    ⟨options.normalised_eq_update, options.normalised_normalised, fun controller storage =>
      ⟨request.admission_options .., controller.send_normalised _ _ _ { request with options }⟩⟩⟩
  have accepted : Reachable links config resolver sequence
      (rest.handle links ownRefs conditions (.submit kind request)) :=
    reachable.tail (.handle answer provides)
  have later : Reachable links config resolver sequence after := accepted.trans run
  have entered : (Controller.admitted conditions.now request).message ∈ after.world.entered :=
    (run.entered_subset accepted.sound.evolving).1 provides.entered_submit
  obtain ⟨link, linked, message, member, same, messageRef, isRetry, rfl⟩ :=
    later.faithful slot _ made submitted
  obtain rfl : message = _ := later.sound.entered_unique member entered same
  exact ⟨link, linked, rfl, Controller.carries_admitted ..⟩

end Network

/-! ### A small run -/

namespace Sample

/-- The least priority out of range and the shortest validity period in range. -/
def particular : SendRequest :=
  { request 1 with
    serviceCenter := some "2222"
    options := { priority := some 4, validityPeriodMins := some 5, expectMore := true } }

def entering : Network :=
  { Network.start impatient none (.new 256) with
    submitted := [(Controller.admitted surroundings particular).message] }

def particularGiven : Tracker :=
  ((Controller.admitted surroundings particular).assignRef 0).recordDispatch .ps

theorem entering_provided :
    Network.Provides links (.start impatient none (.new 256)) surroundings
      (.submit .text particular) entering :=
  .submitted (by decide)

/-- PS has the message, and the submission asks for no priority. -/
theorem particular_carried :
    ∃ made : Submission, made.priority = none ∧ made.validityPeriodMins = some 5 ∧
      made.Carries particular false ∧ made.format = .threeGpp := by
  have launched : (entering.handle links (fun _ => 0) (.steady surroundings)
      (.submit .text particular)).flights =
        [] ++ flight .ps (.submitting particularGiven) :: [] := rfl
  have run : Network.Run links _ _ :=
    .single (.advance launched (linked .ps) (.submitted particularGiven .accepted))
  obtain ⟨link, isLink, format, carries⟩ :=
    (Network.Run.contents_carried .refl links_answer entering_provided run).1
      .ps (.ofTracker particularGiven .threeGpp) (List.mem_append_right _ List.mem_cons_self)
  obtain rfl := Option.some.inj isLink
  exact ⟨_, rfl, rfl, carries, format⟩

end Sample

end OutboundSms
