import OutboundSms.Proofs.Attempts
import OutboundSms.Proofs.Counting

/-!
# References

A message has one reference for good, whoever gave it, and everything that names its
reference names that one. The controller's counter counts the messages that have got
theirs from the controller, each once, and nothing else moves it.
-/

set_option autoImplicit false

namespace OutboundSms

/-! ### What is heard of a reference -/

/-- The reference that a remark names, or that it has none. -/
def Remark.messageRef? : Remark → Option (Option UInt8)
  | fellBack messageRef | dispatched messageRef _ | completed (.sent messageRef) => some messageRef
  | submitted _ submission => some submission.messageRef
  | _ => none

def refsIn (story : List Remark) : List (Option UInt8) :=
  story.filterMap Remark.messageRef?

@[simp] theorem refsIn_append (first second : List Remark) :
    refsIn (first ++ second) = refsIn first ++ refsIn second :=
  List.filterMap_append

@[simp] theorem refsIn_remarks (holding : Holding) :
    refsIn holding.remarks = [holding.tracker.messageRef] := rfl

/-- Every reference that has been named is named again from then on. -/
def Steady (refs : List (Option UInt8)) : Prop :=
  refs.Pairwise fun earlier later =>
    ∀ messageRef, earlier = some messageRef → later = some messageRef

theorem Steady.append {past new : List (Option UInt8)} (steady : Steady past) (again : Steady new)
    (kept : ∀ messageRef, some messageRef ∈ past → ∀ ref ∈ new, ref = some messageRef) :
    Steady (past ++ new) := by
  refine List.pairwise_append.mpr ⟨steady, again, fun earlier told later next messageRef same => ?_⟩
  exact kept messageRef (same ▸ told) later next

namespace Passage

variable {links : Links} {foreign : Prop} {passage after : Passage} {tracker : Tracker}
  {holding : Holding} {messageRef : UInt8}

theorem messageRef_of_sent (sent : links.Sent tracker holding)
    (has : tracker.messageRef = some messageRef) :
    holding.tracker.messageRef = some messageRef := by
  obtain ⟨_, -, given⟩ := sent
  exact given.messageRef_eq_of_some has

theorem steady_of_all {refs : List (Option UInt8)} {ref : Option UInt8}
    (all : ∀ other ∈ refs, other = ref) : Steady refs :=
  List.Pairwise.imp_of_mem (fun earlier later _ => by
    rw [all _ earlier, all _ later]
    exact fun _ => id) (List.pairwise_of_forall fun _ _ => trivial)

theorem refsIn_asked {asked : List Remark} {unused : Prop}
    (asking : asked = [] ∨ asked = [.consulted] ∧ unused) : refsIn asked = [] :=
  filterMap_asked rfl asking

theorem refsIn_lead {lead : List Remark} {messageRef : Option UInt8}
    (leading : lead = [] ∨ lead = [.fellBack messageRef]) :
    ∀ ref ∈ refsIn lead, ref = messageRef := by
  rcases leading with rfl | rfl
  · exact fun _ member => (List.not_mem_nil member).elim
  · exact fun _ member => List.mem_singleton.mp member

theorem refsIn_ended (result : SendResult) {messageRef : Option UInt8}
    (told : ∀ given, result = .sent given → given = messageRef) :
    ∀ ref ∈ refsIn [.completed result, .completed result], ref = messageRef := by
  intro ref member
  cases result with
  | sent given =>
      have same := told given rfl
      simp_all [refsIn, Remark.messageRef?]
  | failed code => cases member

/-- The tracker comes from where the message was. -/
def Origin (passage : Passage) (tracker : Tracker) : Prop :=
  passage = ⟨[], none⟩ ∨
    ∃ position, passage.position = some position ∧ position.tracker.Evolves tracker

theorem Brings.origin (brings : passage.Brings links foreign tracker) :
    passage.Origin tracker := by
  cases brings with
  | entered => exact .inl rfl
  | reclaimed free evolved => exact .inr ⟨_, rfl, evolved⟩
  | reported => exact .inr ⟨_, rfl, .unchanged⟩

/-- The message goes on with the tracker while `new` is heard of it. Whatever names its
reference names the one that it has, and the one that has been named is the one that it
has afterwards. -/
structure GoesOn (passage after : Passage) (new : List Remark) (tracker : Tracker) : Prop where
  story_eq : after.story = passage.story ++ new
  origin : passage.Origin tracker
  told : ∀ messageRef, tracker.messageRef = some messageRef →
    ∀ ref ∈ refsIn new, ref = some messageRef
  steady : Steady (refsIn new)
  kept : ∀ next, after.position = some next → ∀ messageRef,
    (tracker.messageRef = some messageRef ∨ some messageRef ∈ refsIn new) →
      next.tracker.messageRef = some messageRef
  ended : after.position = none → new ≠ []

/-- Everything that is heard names the reference of the tracker. -/
theorem GoesOn.of_all {new : List Remark} {next : Option Position}
    (origin : passage.Origin tracker) (all : ∀ ref ∈ refsIn new, ref = tracker.messageRef)
    (kept : ∀ position, next = some position → ∀ messageRef,
      tracker.messageRef = some messageRef → position.tracker.messageRef = some messageRef)
    (ended : next = none → new ≠ []) :
    GoesOn passage ⟨passage.story ++ new, next⟩ new tracker where
  story_eq := rfl
  origin := origin
  told := fun _ has ref member => (all ref member).trans has
  steady := steady_of_all all
  kept := fun position there messageRef among => kept position there messageRef
    (among.elim id fun member => (all _ member).symm)
  ended := ended

/-- A message that is handed over keeps the reference it has, or gets one. -/
theorem GoesOn.launched {ownRefs : Ticket → UInt8} {lead : List Remark}
    (origin : passage.Origin tracker) (leading : ∀ ref ∈ refsIn lead, ref = tracker.messageRef)
    (sent : links.Sent tracker holding) :
    GoesOn passage ⟨passage.story ++ (lead ++ holding.remarks),
      some (.flying (links.launch ownRefs holding))⟩ (lead ++ holding.remarks) tracker := by
  have onward (messageRef : UInt8) (has : tracker.messageRef = some messageRef) :
      holding.tracker.messageRef = some messageRef := messageRef_of_sent sent has
  refine ⟨rfl, origin, ?_, ?_, ?_, fun none => by cases none⟩
  · intro messageRef has ref member
    rw [refsIn_append, refsIn_remarks, List.mem_append, List.mem_singleton] at member
    rcases member with before | rfl
    · exact (leading ref before).trans has
    · exact onward messageRef has
  · rw [refsIn_append, refsIn_remarks]
    refine (steady_of_all leading).append (List.pairwise_singleton ..) ?_
    intro messageRef before ref last
    rw [List.mem_singleton.mp last]
    exact onward messageRef (leading _ before).symm
  · intro next there messageRef among
    obtain rfl := Option.some.inj there
    refine (links.launch_evolves ownRefs holding).messageRef_eq ?_
    rw [refsIn_append, refsIn_remarks, List.mem_append, List.mem_singleton] at among
    rcases among with has | before | last
    · exact onward messageRef has
    · exact onward messageRef (leading _ before).symm
    · exact last.symm

/-- Every step of a passage goes on with one tracker, or is none. -/
theorem Step.goesOn (step : Step links foreign passage after) :
    after = passage ∨ ∃ new tracker, GoesOn passage after new tracker := by
  have lands {story : List Remark} {flight : Flight} {report : Report}
      (evolved : flight.stage.tracker.Evolves report.tracker) :
      GoesOn ⟨story, some (.flying flight)⟩ ⟨story, some (.returning report)⟩ []
        flight.stage.tracker := by
    refine ⟨(List.append_nil _).symm, .inr ⟨_, rfl, .unchanged⟩,
      fun _ _ _ member => (List.not_mem_nil member).elim, .nil, ?_, fun none => by cases none⟩
    intro next there messageRef among
    obtain rfl := Option.some.inj there
    exact evolved.messageRef_eq (among.elim id fun member => (List.not_mem_nil member).elim)
  cases step with
  | still => exact .inl rfl
  | joined brings ongoing asking unused =>
      refine .inr ⟨_, _, .of_all brings.origin ?_ ?_ (fun none => by cases none)⟩
      · rw [refsIn_asked asking]
        exact fun _ member => (List.not_mem_nil member).elim
      · intro position there messageRef has
        obtain rfl := Option.some.inj there
        exact has
  | handed brings ongoing asking leading sent =>
      refine .inr ⟨_, _, .launched brings.origin ?_ sent⟩
      rw [refsIn_append, refsIn_asked asking]
      exact refsIn_lead leading
  | @completed _ tracker asked result brings asking told =>
      refine .inr ⟨_, _, .of_all brings.origin ?_ (fun _ there => by cases there) (by simp)⟩
      rw [refsIn_append, refsIn_asked asking]
      exact refsIn_ended result told
  | @drained story tracker holding ownRefs sent =>
      have onward : GoesOn ⟨story, some (.waiting tracker)⟩
          ⟨story ++ ([] ++ holding.remarks), some (.flying (links.launch ownRefs holding))⟩
          ([] ++ holding.remarks) tracker :=
        .launched (.inr ⟨_, rfl, .unchanged⟩) (fun _ member => (List.not_mem_nil member).elim) sent
      exact .inr ⟨_, _, onward⟩
  | @advanced story flight link made stage linked advances =>
      have told : ∀ ref ∈ refsIn (made.map (.submitted flight.holding.slot)),
          ref = flight.stage.tracker.messageRef := by
        intro ref member
        obtain ⟨holding, now⟩ := flight
        cases advances with
        | submitted tracker response => exact List.mem_singleton.mp member
        | resubmits | handsBack => cases member
      refine .inr ⟨_, _, .of_all (.inr ⟨_, rfl, .unchanged⟩) told ?_ (fun none => by cases none)⟩
      intro position there messageRef has
      obtain rfl := Option.some.inj there
      exact advances.evolves.messageRef_eq has
  | finished linked finishes => exact .inr ⟨_, _, lands finishes.evolves⟩
  | reported free evolved => exact .inr ⟨_, _, lands evolved⟩

/-! ### One reference for good -/

/-- What is heard of the message names one reference, and its tracker has that one. -/
structure Consistent (passage : Passage) : Prop where
  steady : Steady (refsIn passage.story)
  kept : ∀ position, passage.position = some position → ∀ messageRef,
    some messageRef ∈ refsIn passage.story → position.tracker.messageRef = some messageRef

theorem Consistent.kept_of_origin (consistent : passage.Consistent)
    (origin : passage.Origin tracker) (told : some messageRef ∈ refsIn passage.story) :
    tracker.messageRef = some messageRef := by
  rcases origin with rfl | ⟨position, there, evolved⟩
  · cases told
  · exact evolved.messageRef_eq (consistent.kept position there messageRef told)

theorem Consistent.step (consistent : passage.Consistent)
    (step : Step links foreign passage after) : after.Consistent := by
  rcases step.goesOn with rfl | ⟨new, tracker, goesOn⟩
  · exact consistent
  · have kept (messageRef : UInt8) (told : some messageRef ∈ refsIn passage.story) :=
      consistent.kept_of_origin goesOn.origin told
    constructor
    · rw [goesOn.story_eq, refsIn_append]
      exact consistent.steady.append goesOn.steady fun messageRef told =>
        goesOn.told messageRef (kept messageRef told)
    · intro position there messageRef told
      rw [goesOn.story_eq, refsIn_append, List.mem_append] at told
      exact goesOn.kept position there messageRef (told.imp_left (kept messageRef))

theorem Consistent.run (run : Run links foreign ⟨[], none⟩ passage) : passage.Consistent := by
  induction run with
  | refl => exact ⟨.nil, fun _ there => by cases there⟩
  | tail _ step ih => exact ih.step step

/-- The message is known by the reference: its tracker has it, or it has completed. -/
def Known (messageRef : UInt8) (passage : Passage) : Prop :=
  (∀ position, passage.position = some position → position.tracker.messageRef = some messageRef) ∧
    (passage.position = none → passage.story ≠ [])

/-- A message keeps the reference it is known by, and all that is heard of it from then on
names that one. -/
theorem Known.run (known : passage.Known messageRef) (run : Run links foreign passage after) :
    after.Known messageRef ∧ ∃ new, after.story = passage.story ++ new ∧
      ∀ ref ∈ refsIn new, ref = some messageRef := by
  induction run with
  | refl => exact ⟨known, [], by simp, fun _ member => (List.not_mem_nil member).elim⟩
  | @tail middle last _ step ih =>
      obtain ⟨known, past, told, all⟩ := ih
      rcases step.goesOn with rfl | ⟨new, tracker, goesOn⟩
      · exact ⟨known, past, told, all⟩
      · have has : tracker.messageRef = some messageRef := by
          rcases goesOn.origin with rfl | ⟨position, there, evolved⟩
          · exact absurd rfl (known.2 rfl)
          · exact evolved.messageRef_eq (known.1 position there)
        refine ⟨⟨fun position there => goesOn.kept position there messageRef (.inl has),
          fun none empty => ?_⟩, past ++ new, ?_, ?_⟩
        · rw [goesOn.story_eq, List.append_eq_nil_iff] at empty
          exact goesOn.ended none empty.2
        · rw [goesOn.story_eq, told, List.append_assoc]
        · intro ref member
          rw [refsIn_append, List.mem_append] at member
          exact member.elim (all ref) (goesOn.told messageRef has ref)

end Passage

/-! ### References from the controller -/

/-- Whether the message of a ticket is among the trackers, without a reference. -/
def isBare (trackers : List Tracker) (ticket : Ticket) : Bool :=
  trackers.any fun tracker => tracker.ticket == ticket && tracker.messageRef.isNone

/-- Of what is handed over in a turn, that which takes a reference from the controller: a
message that came without one, at a transport that leaves references to the controller. -/
def granted (conditions : Conditions) (given : List Tracker) : List Holding → List Holding
  | [] => []
  | holding :: rest =>
      (if (conditions.now.transport holding.slot).controllerAssignsRef &&
          isBare given holding.tracker.ticket then [holding] else []) ++
        granted conditions.later given rest

theorem granted_sublist (conditions : Conditions) (given : List Tracker)
    (holdings : List Holding) : (granted conditions given holdings).Sublist holdings := by
  induction holdings generalizing conditions with
  | nil => exact .slnil
  | cons holding rest ih =>
      rw [granted]
      split
      · exact (ih conditions.later).cons_cons holding
      · exact (ih conditions.later).cons holding

theorem isBare_of_mem_granted {conditions : Conditions} {given : List Tracker}
    {holdings : List Holding} {holding : Holding}
    (member : holding ∈ granted conditions given holdings) :
    isBare given holding.tracker.ticket = true := by
  induction holdings generalizing conditions with
  | nil => cases member
  | cons first rest ih =>
      rw [granted, List.mem_append] at member
      rcases member with here | there
      · split at here
        · next taken =>
          obtain rfl := List.mem_singleton.mp here
          exact ((Bool.and_eq_true _ _).mp taken).2
        · cases here
      · exact ih there

theorem isBare_eq {given : List Tracker} (distinct : (given.map (·.ticket)).Nodup)
    {tracker : Tracker} (member : tracker ∈ given) :
    isBare given tracker.ticket = tracker.messageRef.isNone := by
  rw [Bool.eq_iff_iff, isBare, List.any_eq_true]
  constructor
  · rintro ⟨other, among, same⟩
    rw [Bool.and_eq_true, beq_iff_eq] at same
    obtain rfl := List.inj_on_of_nodup_map distinct among member same.1
    exact same.2
  · intro bare
    exact ⟨tracker, member, by simp [bare]⟩

namespace Controller

variable {conditions : Conditions} {controller : Controller} {given : List Tracker}

theorem dispatchAll_granted (controller : Controller) (conditions : Conditions)
    (choose : Surroundings → Tracker → Slot) (distinct : (given.map (·.ticket)).Nodup)
    {trackers : List Tracker} (among : trackers ⊆ given) :
    let turn := controller.dispatchAll conditions choose trackers
    let grants := granted conditions given (handedOver turn.2)
    turn.1.sequence = controller.sequence.advanceBy grants.length ∧
      grants.map (·.tracker.messageRef) = controller.sequence.upcoming grants.length := by
  induction trackers generalizing controller conditions with
  | nil => exact ⟨rfl, rfl⟩
  | cons tracker rest ih =>
      obtain ⟨first, among⟩ := List.cons_subset.mp among
      simp only [dispatchAll, followedBy, handedOver_append, handedOver_dispatch,
        List.singleton_append, granted, ticket_outgoing, isBare_eq distinct first]
      have later := ih
        (controller.dispatch conditions.now (choose conditions.now tracker) tracker).1
        conditions.later among
      have sequence : (controller.dispatch conditions.now (choose conditions.now tracker)
          tracker).1.sequence = if (conditions.now.transport
            (choose conditions.now tracker)).controllerAssignsRef && tracker.messageRef.isNone then
          controller.sequence.advance else controller.sequence := by
        simp only [dispatch, assignRef]
        split <;> rfl
      rw [sequence] at later
      -- A tracker that takes a reference moves the counter on before the next is looked at.
      split
      · next taken =>
        rw [if_pos taken] at later
        refine ⟨later.1, ?_⟩
        rw [List.singleton_append, List.map_cons, later.2, List.length_cons,
          ReferenceCounter.upcoming_succ, messageRef_outgoing, if_pos taken]
      · next kept =>
        rw [if_neg kept] at later
        exact later

/-- A turn moves the counter past the references that it grants, and these are the ones
that come next. -/
theorem Moves.granted {arriving : List Tracker} {turn : Turn}
    (moves : Moves conditions controller arriving turn)
    (distinct : ((arriving ++ controller.trackers).map (·.ticket)).Nodup) :
    let grants := OutboundSms.granted conditions (arriving ++ controller.trackers)
      (handedOver turn.2)
    turn.1.sequence = controller.sequence.advanceBy grants.length ∧
      grants.map (·.tracker.messageRef) = controller.sequence.upcoming grants.length := by
  cases moves with
  | still moved | joined _ moved =>
      rw [handedOver_moved moved, moved.sequence_eq]
      exact ⟨rfl, rfl⟩
  | completed _ moved =>
      rw [handedOver_moved moved, moved.sequence_eq, handedOver_complete]
      exact ⟨rfl, rfl⟩
  | @handed _ tracker lead choose onward leading moved =>
      have silent : handedOver lead = [] := by rcases leading with rfl | rfl <;> rfl
      rw [handedOver_moved moved, moved.sequence_eq, handedOver_append, silent, List.nil_append]
      exact dispatchAll_granted controller conditions choose distinct
        (List.subset_append_left _ _)
  | drained trafficClass choose moved =>
      rw [handedOver_moved moved, moved.sequence_eq]
      exact dispatchAll_granted controller conditions choose distinct
        fun _ queued => mem_trackers_of_queued queued

/-- Everything that is handed over is announced with the reference that it has. -/
theorem Moves.announced {arriving : List Tracker} {turn : Turn}
    (moves : Moves conditions controller arriving turn) {holding : Holding}
    (member : holding ∈ handedOver turn.2) :
    some holding.tracker.messageRef ∈
      (remarksOn holding.tracker.ticket (remarks turn.2)).map Remark.messageRef? := by
  have told {effects : List Effect} (whole : remarks effects =
      (handedOver effects).flatMap fun holding => holding.remarks.map (holding.tracker.ticket, ·))
      (among : holding ∈ handedOver effects) :
      some holding.tracker.messageRef ∈
        (remarksOn holding.tracker.ticket (remarks effects)).map Remark.messageRef? := by
    refine List.mem_map.mpr
      ⟨.dispatched holding.tracker.messageRef holding.domain, ?_, rfl⟩
    rw [remarksOn, whole]
    refine List.mem_map.mpr ⟨(holding.tracker.ticket, _), List.mem_filter.mpr ⟨?_, ?_⟩, rfl⟩
    · exact List.mem_flatMap.mpr ⟨holding, among, List.mem_map_of_mem List.mem_cons_self⟩
    · simp
  cases moves with
  | still moved | joined _ moved => rw [handedOver_moved moved] at member; cases member
  | completed _ moved =>
      rw [handedOver_moved moved, handedOver_complete] at member
      cases member
  | handed choose onward leading moved =>
      rw [remarksOn_moved moved]
      rw [handedOver_moved moved] at member
      rcases leading with rfl | rfl
      · exact told (remarks_dispatchAll ..) member
      · rw [List.singleton_append, remarks, remarksOn_append, List.map_append]
        exact List.mem_append_right _ (told (remarks_dispatchAll ..) member)
  | drained trafficClass choose moved =>
      rw [remarksOn_moved moved]
      rw [handedOver_moved moved] at member
      exact told (remarks_dispatchAll ..) member

end Controller

def Happening.grants : Happening → List Holding
  | .turn conditions brought waiting effects =>
      granted conditions (brought ++ waiting) (handedOver effects)
  | .submission .. => []

namespace Network

/-- Everything that has taken a reference from the controller, in order. -/
def grants (network : Network) : List Holding :=
  network.history.flatMap Happening.grants

/-- The references handed out are those of the counter, each to another message. -/
structure Counted (sequence : ReferenceCounter) (network : Network) : Prop where
  sequence_eq : network.controller.sequence = sequence.advanceBy network.grants.length
  refs_eq : network.grants.map (·.tracker.messageRef) = sequence.upcoming network.grants.length
  announced : ∀ holding ∈ network.grants,
    holding.tracker.messageRef ∈ refsIn (network.story holding.tracker.ticket)
  distinct : (network.grants.map (·.tracker.ticket)).Nodup

variable {links : Links} {config : DispatchConfig} {resolver : Option ResolverId}
  {sequence : ReferenceCounter} {network rest after : Network} {ticket : Ticket}
  {conditions : Conditions} {command : Command}

theorem Reachable.consistent (reachable : Reachable links config resolver sequence network)
    {passage : Passage} (shown : network.Shows ticket passage) : passage.Consistent :=
  .run (reachable.run_of_shown shown)

theorem Counted.isSome (counted : network.Counted sequence) {holding : Holding}
    (member : holding ∈ network.grants) :
    ∃ messageRef, holding.tracker.messageRef = some messageRef := by
  have among := List.mem_map_of_mem (f := (·.tracker.messageRef)) member
  rw [counted.refs_eq] at among
  obtain ⟨place, -, same⟩ := List.mem_map.mp among
  exact ⟨_, same.symm⟩

/-- A message that has taken a reference does not come without one. -/
theorem Counted.not_bare (counted : network.Counted sequence)
    (reachable : Reachable links config resolver sequence network)
    (handling : Handling links network rest conditions command)
    {holding : Holding} (member : holding ∈ network.grants) :
    isBare (Controller.carried conditions.now command ++ rest.controller.trackers)
      holding.tracker.ticket = false := by
  obtain ⟨messageRef, has⟩ := counted.isSome member
  have told := counted.announced holding member
  rw [has] at told
  refine Bool.eq_false_iff.mpr fun bare => ?_
  obtain ⟨tracker, among, named⟩ := List.any_eq_true.mp bare
  rw [Bool.and_eq_true, beq_iff_eq] at named
  obtain ⟨same, none⟩ := named
  suffices tracker.messageRef = some messageRef by simp [this] at none
  rw [← same] at told
  rcases List.mem_append.mp among with brought | queued
  · obtain ⟨passage, shown, brings, -⟩ := handling.provides.brings handling.evolving
      handling.accounted reachable.sound.silent brought
    refine (reachable.consistent shown).kept_of_origin brings.origin ?_
    cases shown <;> exact told
  · have placed : Position.waiting tracker ∈ network.positions := by
      refine handling.provides.positions_subset ?_
      exact List.mem_append_left _ (List.mem_append_left _ (List.mem_map_of_mem queued))
    exact (reachable.consistent (.there _ placed rfl)).kept _ rfl messageRef told

theorem Counted.start : (Network.start config resolver sequence).Counted sequence where
  sequence_eq := rfl
  refs_eq := rfl
  announced := fun _ member => (List.not_mem_nil member).elim
  distinct := .nil

/-- Where nothing is granted and the controller stays, the count stays. -/
theorem Counted.of_kept (counted : network.Counted sequence)
    (controller : after.controller = network.controller) (grants : after.grants = network.grants)
    (story : ∀ ticket, network.story ticket ⊆ after.story ticket) : after.Counted sequence where
  sequence_eq := by rw [controller, grants, counted.sequence_eq]
  refs_eq := by rw [grants, counted.refs_eq]
  announced := fun holding member =>
    List.filterMap_subset _ (story _) (counted.announced holding (grants ▸ member))
  distinct := by rw [grants]; exact counted.distinct

theorem Handling.handedOver_nodup (handling : Handling links network rest conditions command) :
    ((handedOver (rest.controller.handle conditions command).2).map (·.tracker.ticket)).Nodup := by
  have settled := handling.conserved.nodup_iff.mpr handling.involved_nodup
  have leaving := ((departures_perm_places
    (rest.controller.handle conditions command).2).map Message.ticket).nodup_iff.mpr
    (List.nodup_append.mp settled).1
  rw [List.map_append, List.map_map] at leaving
  exact (List.nodup_append.mp leaving).1

/-- A turn adds what it grants to what has been granted, and counts on. -/
theorem Counted.handle (counted : network.Counted sequence)
    (reachable : Reachable links config resolver sequence network)
    (handling : Handling links network rest conditions command) (ownRefs : Ticket → UInt8) :
    (rest.handle links ownRefs conditions command).Counted sequence := by
  generalize granting : granted conditions
    (Controller.carried conditions.now command ++ rest.controller.trackers)
    (handedOver (rest.controller.handle conditions command).2) = new
  have grants : (rest.handle links ownRefs conditions command).grants = network.grants ++ new := by
    simp [Network.grants, Network.handle, Happening.grants, handling.provides.history_eq,
      ← granting]
  obtain ⟨moved, refs⟩ := handling.moves.granted handling.involved_nodup
  rw [granting, handling.provides.controller_eq, counted.sequence_eq] at moved refs
  have handed {holding : Holding} (member : holding ∈ new) :
      holding ∈ handedOver (rest.controller.handle conditions command).2 :=
    (granted_sublist ..).subset (granting ▸ member)
  constructor
  · rw [grants, List.length_append, ReferenceCounter.advanceBy_add, ← moved,
      ← handling.provides.controller_eq]
    rfl
  · rw [grants, List.map_append, List.length_append, ReferenceCounter.upcoming_add, refs,
      counted.refs_eq]
  · intro holding member
    rw [handling.story_handle, refsIn_append, List.mem_append]
    rw [grants, List.mem_append] at member
    refine member.imp (counted.announced holding) fun member => ?_
    obtain ⟨remark, among, named⟩ := List.mem_map.mp (handling.moves.announced (handed member))
    refine List.mem_filterMap.mpr ⟨remark, ?_, named⟩
    rw [heard, Happening.remarks, remarksOn_append]
    exact List.mem_append_right _ among
  · rw [grants, List.map_append, List.nodup_append]
    refine ⟨counted.distinct, ?_, ?_⟩
    · exact handling.handedOver_nodup.sublist ((granting ▸ granted_sublist ..).map _)
    · rintro _ earlier _ later rfl
      obtain ⟨old, among, same⟩ := List.mem_map.mp earlier
      obtain ⟨holding, member, rfl⟩ := List.mem_map.mp later
      have bare := isBare_of_mem_granted (granting ▸ member)
      rw [← same, counted.not_bare reachable handling among] at bare
      cases bare

theorem Reachable.counted (reachable : Reachable links config resolver sequence network) :
    network.Counted sequence := by
  induction reachable with
  | refl => exact .start
  | @tail network after run step ih =>
      have sound := Reachable.sound run
      cases step with
      | handle answer provides =>
          exact ih.handle run ⟨answer, provides, sound.evolving, sound.accounted, sound.agrees⟩ _
      | @advance before flight later link submissions stage flying linked advances =>
          refine ih.of_kept rfl ?_ (Step.advance flying linked advances).story_subset
          simp [grants, Happening.grants, List.flatMap_map]
      | finish | report => exact ih.of_kept rfl rfl fun _ => List.Subset.refl _

/-! ### One reference for good, and the count of them -/

/-- A message that has a reference keeps it, and all that is heard of it from then on
names that one. -/
theorem Reachable.reference_kept
    (reachable : Reachable links config resolver sequence network) {tracker : Tracker}
    (member : tracker ∈ network.trackers) {messageRef : UInt8}
    (has : tracker.messageRef = some messageRef) {later : Network}
    (run : Run links network later) :
    (∀ next ∈ later.trackers, next.ticket = tracker.ticket →
      next.messageRef = some messageRef) ∧
    ∃ new, later.story tracker.ticket = network.story tracker.ticket ++ new ∧
      ∀ ref ∈ refsIn new, ref = some messageRef := by
  obtain ⟨position, placed, rfl⟩ := mem_positions_of_mem_trackers member
  have shown : network.Shows position.tracker.ticket
      ⟨network.story position.tracker.ticket, some position⟩ := .there position placed rfl
  have known : Passage.Known messageRef ⟨network.story position.tracker.ticket, some position⟩ :=
    ⟨fun next there => Option.some.inj there ▸ has, fun none => by cases none⟩
  have onward {passage : Passage} (there : later.Shows position.tracker.ticket passage) :
      passage.Known messageRef ∧ ∃ new,
        passage.story = network.story position.tracker.ticket ++ new ∧
          ∀ ref ∈ refsIn new, ref = some messageRef := by
    obtain ⟨before, first, passing⟩ := Run.passage run reachable there
    obtain rfl := shown.unique reachable.sound first
    exact known.run passing
  constructor
  · intro next there same
    obtain ⟨place, placed', rfl⟩ := mem_positions_of_mem_trackers there
    exact (onward (.there place placed' same)).1.1 place rfl
  · obtain ⟨passage, there, told⟩ := later.exists_shows position.tracker.ticket
    exact told ▸ (onward there).2

/-- The place in the row of those that have taken a reference gives the reference. -/
theorem Counted.ref_at {start modulus : UInt16}
    (counted : network.Counted (.startingAt start modulus)) {place : Nat} {holding : Holding}
    (there : network.grants[place]? = some holding) :
    ∃ messageRef, holding.tracker.messageRef = some messageRef ∧
      messageRef.toNat =
        (start.toNat + place) % (ReferenceCounter.clampModulus modulus).toNat := by
  have within := (List.getElem?_eq_some_iff.mp there).1
  have ref := congrArg (·[place]?) counted.refs_eq
  simp only [ReferenceCounter.upcoming, List.getElem?_map, there, List.getElem?_range within,
    Option.map_some, Option.some.injEq] at ref
  exact ⟨_, ref, ReferenceCounter.toNat_peek_advanceBy start modulus place⟩

/-- A message has one reference for good: it keeps the one it has, and whatever names its
reference names that one. The counter of the controller moves by one with each message
that takes a reference from it, and each does so once. The references come in a row,
and among as many as the modulus says no two are the same. -/
theorem Reachable.references {start modulus : UInt16}
    (reachable : Reachable links config resolver (.startingAt start modulus) network) :
    (∀ tracker ∈ network.trackers, ∀ messageRef, tracker.messageRef = some messageRef →
      ∀ later, Run links network later →
        (∀ next ∈ later.trackers, next.ticket = tracker.ticket →
          next.messageRef = some messageRef) ∧
        ∃ new, later.story tracker.ticket = network.story tracker.ticket ++ new ∧
          ∀ ref ∈ refsIn new, ref = some messageRef) ∧
    (∀ ticket, Steady (refsIn (network.story ticket)) ∧
      ∀ tracker ∈ network.trackers, tracker.ticket = ticket → ∀ messageRef,
        some messageRef ∈ refsIn (network.story ticket) →
          tracker.messageRef = some messageRef) ∧
    (∀ happening ∈ network.history, Named happening.effects) ∧
    network.controller.sequence =
      (ReferenceCounter.startingAt start modulus).advanceBy network.grants.length ∧
    network.controller.sequence.next.toNat =
      (start.toNat + network.grants.length) %
        (ReferenceCounter.clampModulus modulus).toNat ∧
    (network.grants.map (·.tracker.ticket)).Nodup ∧
    (∀ place holding, network.grants[place]? = some holding →
      ∃ messageRef, holding.tracker.messageRef = some messageRef ∧
        messageRef.toNat =
          (start.toNat + place) % (ReferenceCounter.clampModulus modulus).toNat) ∧
    (∀ first second earlier later, first < second →
      second < first + (ReferenceCounter.clampModulus modulus).toNat →
      network.grants[first]? = some earlier → network.grants[second]? = some later →
        earlier.tracker.messageRef ≠ later.tracker.messageRef) := by
  have counted := reachable.counted
  refine ⟨fun tracker member messageRef has later run =>
      reachable.reference_kept member has run, fun ticket => ⟨?_, ?_⟩, reachable.named,
    counted.sequence_eq, ?_, counted.distinct, fun place holding there => counted.ref_at there,
    ?_⟩
  · obtain ⟨passage, shown, told⟩ := network.exists_shows ticket
    exact told ▸ (reachable.consistent shown).steady
  · intro tracker member own messageRef told
    obtain ⟨position, placed, rfl⟩ := mem_positions_of_mem_trackers member
    exact (reachable.consistent (.there position placed own)).kept position rfl messageRef told
  · rw [counted.sequence_eq, ReferenceCounter.toNat_next_advanceBy]
  · intro first second earlier later before within here there same
    obtain ⟨firstRef, has, firstAt⟩ := counted.ref_at here
    obtain ⟨secondRef, has', secondAt⟩ := counted.ref_at there
    obtain rfl : firstRef = secondRef := Option.some.inj (has.symm.trans (same.trans has'))
    exact ReferenceCounter.mod_ne_of_lt start.toNat before within (firstAt.symm.trans secondAt)

end Network

/-- The message has its reference from its first transport and takes it over to CS; the
counter has moved once. -/
theorem Sample.resubmitted_references :
    refsIn (resubmitted.story 1) = List.replicate 5 (some 0) ∧
      resubmitted.grants.map (·.tracker.ticket) = [1] ∧
      resubmitted.controller.sequence = (ReferenceCounter.startingAt 0 256).advanceBy 1 :=
  ⟨rfl, rfl, (Network.Reachable.references resubmitted_reachable).2.2.2.1⟩

end OutboundSms
