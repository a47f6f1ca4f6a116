import OutboundSms.Proofs.Contacts
import OutboundSms.Proofs.References

/-!
# Status reports

A link transport whose link has accepted a message registers the delivery callback of the
message, unless the message has no reference to match a report by. Every message has one
once a link transport has it. A message that awaits delivery goes through three phases: no
link has accepted it, one has, and the controller is told.
-/

set_option autoImplicit false

namespace OutboundSms

namespace Passage

variable {links : Links} {foreign : Prop} {before after passage : Passage}

/-! ### References of submissions -/

/-- A message in the hands of a link transport has a reference. -/
structure Referenced (links : Links) (passage : Passage) : Prop where
  flying : ∀ flight, passage.position = some (.flying flight) →
    (links flight.holding.slot).isSome = true → flight.stage.tracker.messageRef.isSome = true
  submitted : ∀ made ∈ submissionsIn passage.story, made.2.messageRef.isSome = true

/-- Whoever owns the references of a link, a message has one once it is launched there. -/
theorem messageRef_launch {given : Tracker} {holding : Holding} (sent : links.Sent given holding)
    (ownRefs : Ticket → UInt8) (linked : (links holding.slot).isSome = true) :
    (links.launch ownRefs holding).stage.tracker.messageRef.isSome = true := by
  obtain ⟨conditions, answer, sent⟩ := sent
  obtain ⟨place, counting, -, outgoing⟩ := sent.outgoing
  obtain ⟨link, there⟩ := Option.isSome_iff_exists.mp linked
  have assigns := (answer place holding.slot link there).2.2
  unfold Links.launch
  rw [there, Option.any_some]
  cases owns : link.ownsRefs with
  | true =>
      cases has : holding.tracker.messageRef <;>
        simp [Bench.LinkStage.tracker, Tracker.assignRef, has]
  | false =>
      rw [owns] at assigns
      simp only [Bool.false_eq_true, if_false, Bench.LinkStage.tracker]
      rw [outgoing, Controller.messageRef_outgoing, assigns]
      cases has : given.messageRef <;> simp

theorem Referenced.launched {story : List Remark} {given : Tracker} {holding : Holding}
    (submitted : ∀ made ∈ submissionsIn story, made.2.messageRef.isSome = true)
    (ownRefs : Ticket → UInt8) (sent : links.Sent given holding) :
    Referenced links ⟨story, some (.flying (links.launch ownRefs holding))⟩ := by
  refine ⟨?_, submitted⟩
  intro flight there linked
  obtain rfl := Position.flying.inj (Option.some.inj there)
  exact messageRef_launch sent ownRefs linked

theorem Referenced.step (referenced : before.Referenced links)
    (step : Step links foreign before after) : after.Referenced links := by
  have submitted := referenced.submitted
  cases step with
  | still => exact referenced
  | joined brings ongoing asking unused =>
      refine ⟨fun _ there => (nomatch there), ?_⟩
      rwa [submissionsIn_append, submissionsIn_asked asking, List.append_nil]
  | handed brings ongoing asking leading sent =>
      refine .launched ?_ _ sent
      simpa [submissionsIn_asked asking, submissionsIn_lead leading] using submitted
  | @completed _ _ _ result brings asking told truly =>
      have ended : submissionsIn [.completed result, .completed result] = [] := rfl
      refine ⟨fun _ there => (nomatch there), ?_⟩
      simpa [submissionsIn_asked asking, ended] using submitted
  | drained sent =>
      refine .launched ?_ _ sent
      rwa [submissionsIn_append, submissionsIn_remarks, List.append_nil]
  | @advanced story flight link made stage linked advances =>
      have has := referenced.flying flight rfl (Option.isSome_iff_exists.mpr ⟨link, linked⟩)
      constructor
      · intro next there _
        obtain rfl := Position.flying.inj (Option.some.inj there)
        obtain ⟨messageRef, same⟩ := Option.isSome_iff_exists.mp has
        exact Option.isSome_iff_exists.mpr ⟨_, advances.evolves.messageRef_eq same⟩
      · intro submission member
        rw [submissionsIn_append, List.mem_append] at member
        rcases member with earlier | now
        · exact submitted submission earlier
        · obtain ⟨holding, current⟩ := flight
          cases advances with
          | submitted tracker response =>
              obtain rfl := List.mem_singleton.mp now
              exact has
          | resubmits | handsBack => cases now
  | finished | reported => exact ⟨fun _ there => (nomatch there), submitted⟩

theorem Referenced.run (run : Run links foreign ⟨[], none⟩ passage) :
    passage.Referenced links := by
  induction run with
  | refl => exact ⟨fun _ there => (nomatch there), List.forall_mem_nil _⟩
  | tail _ step ih => exact ih.step step

theorem Referenced.messageRef_eq {messageRef : UInt8} (referenced : passage.Referenced links)
    (named : ∀ other, some other ∈ refsIn passage.story → other = messageRef) :
    ∀ made ∈ submissionsIn passage.story, made.2.messageRef = some messageRef := by
  intro made member
  obtain ⟨other, has⟩ := Option.isSome_iff_exists.mp (referenced.submitted made member)
  obtain ⟨remark, among, submitted⟩ := List.mem_filterMap.mp member
  rw [has, named other]
  refine List.mem_filterMap.mpr ⟨remark, among, ?_⟩
  cases remark with
  | submitted slot submission =>
      obtain rfl := Option.some.inj submitted
      exact congrArg some has
  | _ => cases submitted

end Passage

/-! ### Results and carriers in a story -/

def Remark.result? : Remark → Option SendResult
  | completed result => some result
  | _ => none

def resultsIn (story : List Remark) : List SendResult :=
  story.filterMap Remark.result?

@[simp] theorem resultsIn_append (first second : List Remark) :
    resultsIn (first ++ second) = resultsIn first ++ resultsIn second :=
  List.filterMap_append

@[simp] theorem resultsIn_remarks (holding : Holding) : resultsIn holding.remarks = [] := rfl

theorem resultsIn_asked {asked : List Remark} {unused : Prop}
    (asking : asked = [] ∨ asked = [.consulted] ∧ unused) : resultsIn asked = [] :=
  Passage.filterMap_asked rfl asking

theorem resultsIn_lead {lead : List Remark} {messageRef : Option UInt8}
    (leading : lead = [] ∨ lead = [.fellBack messageRef]) : resultsIn lead = [] :=
  Passage.filterMap_lead rfl leading

theorem resultsIn_submitted (slot : Slot) (submissions : List Submission) :
    resultsIn (submissions.map (.submitted slot)) = [] := by
  simp [resultsIn, List.filterMap_map, Function.comp_def, Remark.result?]

def Remark.slot? : Remark → Option Slot
  | handedOver slot _ => some slot
  | _ => none

/-- The slots of the transports that have been handed a message. -/
def slotsIn (story : List Remark) : List Slot :=
  story.filterMap Remark.slot?

@[simp] theorem slotsIn_append (first second : List Remark) :
    slotsIn (first ++ second) = slotsIn first ++ slotsIn second :=
  List.filterMap_append

@[simp] theorem slotsIn_remarks (holding : Holding) : slotsIn holding.remarks = [holding.slot] :=
  rfl

/-- Only link transports have been handed the message. -/
def Links.Carry (links : Links) (story : List Remark) : Prop :=
  ∀ slot ∈ slotsIn story, (links slot).isSome = true

namespace Passage

variable {links : Links} {foreign : Prop} {before after passage : Passage} {tracker : Tracker}

/-- A message on its way has not been reported as sent or failed. -/
def Open (passage : Passage) : Prop :=
  passage.position.isSome = true → resultsIn passage.story = []

theorem Open.of_brings (isOpen : passage.Open) (brings : passage.Brings links foreign tracker) :
    resultsIn passage.story = [] := by
  cases brings with
  | entered => rfl
  | reclaimed | reported => exact isOpen rfl

theorem Open.step (isOpen : before.Open) (step : Step links foreign before after) :
    after.Open := by
  cases step with
  | still => exact isOpen
  | joined brings ongoing asking unused =>
      intro _
      rw [resultsIn_append, isOpen.of_brings brings, resultsIn_asked asking, List.nil_append]
  | handed brings ongoing asking leading sent =>
      intro _
      simp [isOpen.of_brings brings, resultsIn_asked asking, resultsIn_lead leading]
  | completed => exact fun there => nomatch there
  | drained sent =>
      intro _
      rw [resultsIn_append, isOpen rfl, resultsIn_remarks, List.nil_append]
  | advanced linked advances =>
      intro _
      rw [resultsIn_append, isOpen rfl, resultsIn_submitted, List.nil_append]
  | finished | reported => exact fun _ => isOpen rfl

theorem Open.run (run : Run links foreign ⟨[], none⟩ passage) : passage.Open := by
  induction run with
  | refl => exact fun there => nomatch there
  | tail _ step ih => exact ih.step step

end Passage

/-! ### The phases of a message that awaits delivery -/

/-- The message awaits delivery, and no link has accepted it. -/
def Position.Unaccepted (links : Links) : Position → Prop
  | .waiting tracker => tracker.awaitsDelivery = true
  | .flying flight =>
      (links flight.holding.slot).isSome = true ∧ flight.stage.tracker.awaitsDelivery = true ∧
        ∀ tracker, flight.stage ≠ .answered tracker .accepted
  | .returning report => report.tracker.awaitsDelivery = true ∧ report.outcome ≠ .sent

namespace Passage

variable {links : Links} {foreign : Prop} {before after passage : Passage} {tracker : Tracker}
  {holding : Holding} {messageRef : UInt8} {slot : Slot} {story : List Remark} {ticket : Ticket}

structure Unaccepted (links : Links) (passage : Passage) : Prop where
  pending : ∀ position, passage.position = some position → position.Unaccepted links
  begun : passage.position = none → passage.story ≠ []

/-- A link has accepted the message, and its transport is about to register the delivery
callback. -/
structure Accepted (links : Links) (slot : Slot) (messageRef : UInt8) (passage : Passage) :
    Prop where
  linked : (links slot).isSome = true
  flying : ∃ holding tracker,
    passage.position = some (.flying ⟨holding, .answered tracker .accepted⟩) ∧
      holding.slot = slot ∧ tracker.awaitsDelivery = true ∧ tracker.messageRef = some messageRef

theorem Accepted.isSome_position (accepted : passage.Accepted links slot messageRef) :
    passage.position.isSome = true := by
  obtain ⟨-, holding, tracker, there, -⟩ := accepted
  rw [there]
  rfl

theorem Accepted.named (accepted : passage.Accepted links slot messageRef)
    (consistent : passage.Consistent) {other : UInt8}
    (named : some other ∈ refsIn passage.story) : other = messageRef := by
  obtain ⟨-, holding, tracker, there, -, -, has⟩ := accepted
  exact Option.some.inj ((consistent.kept _ there other named).symm.trans has)

/-- The controller is told that the message has been sent. -/
structure Told (messageRef : UInt8) (passage : Passage) : Prop where
  known : passage.Known messageRef
  named : ∀ other, some other ∈ refsIn passage.story → other = messageRef
  sent : ∀ position, passage.position = some position →
    ∃ report, position = .returning report ∧ report.outcome = .sent
  ended : ∀ result ∈ resultsIn passage.story, result = .sent (some messageRef)

theorem Unaccepted.of_position {position : Position} (pending : position.Unaccepted links) :
    Unaccepted links ⟨story, some position⟩ := by
  constructor
  · intro other there
    exact Option.some.inj there ▸ pending
  · exact nofun

theorem Unaccepted.launched {given : Tracker} (carried : links.Carry story)
    (among : holding.slot ∈ slotsIn story) (awaits : given.awaitsDelivery = true)
    (ownRefs : Ticket → UInt8) (sent : links.Sent given holding) :
    Unaccepted links ⟨story, some (.flying (links.launch ownRefs holding))⟩ := by
  obtain ⟨_, -, sent⟩ := sent
  refine .of_position ⟨carried holding.slot among, ?_, fun _ => nofun⟩
  rw [Links.awaitsDelivery_launch, sent.awaitsDelivery_eq, awaits]

/-- Only a report can bring a message that link transports carry back to the controller. -/
theorem Unaccepted.of_brings (unaccepted : before.Unaccepted links)
    (brings : before.Brings links foreign tracker) :
    tracker.awaitsDelivery = true ∧ before.contacts links after = [] := by
  cases brings with
  | entered => exact absurd rfl (unaccepted.begun rfl)
  | reclaimed free evolved =>
      have linked := (unaccepted.pending _ rfl).1
      rw [free] at linked
      cases linked
  | reported =>
      refine ⟨(unaccepted.pending _ rfl).1, ?_⟩
      unfold contacts
      cases after.position <;> rfl

theorem Unaccepted.advanced {flight : Flight} {link : LinkTransport} {made : List Submission}
    {stage : Bench.LinkStage}
    (unaccepted : Unaccepted links ⟨story, some (.flying flight)⟩)
    (referenced : Referenced links ⟨story, some (.flying flight)⟩)
    (own : flight.stage.tracker.ticket = ticket)
    (advances : link.Advances flight.stage made stage) :
    let after : Passage := ⟨story ++ made.map (.submitted flight.holding.slot),
      some (.flying { flight with stage })⟩
    let new := contacts links ⟨story, some (.flying flight)⟩ after
    ((∀ contact ∈ new, contact.isQuiet = true) ∧ after.Unaccepted links) ∨
    ∃ slot messageRef, new = [.answered slot ticket .accepted] ∧
      after.Accepted links slot messageRef := by
  obtain ⟨linked, awaits, -⟩ := unaccepted.pending _ rfl
  obtain ⟨messageRef, has⟩ := Option.isSome_iff_exists.mp (referenced.flying flight rfl linked)
  obtain ⟨holding, current⟩ := flight
  cases advances with
  | submitted tracker response =>
      have heard : contacts links ⟨story, some (.flying ⟨holding, .submitting tracker⟩)⟩
          ⟨story ++ [.submitted holding.slot (.ofTracker tracker link.format)],
            some (.flying ⟨holding, .answered tracker response⟩)⟩ =
          [.answered holding.slot ticket response] := by
        rw [← own]
        rfl
      by_cases accepted : response = .accepted
      · subst accepted
        exact .inr ⟨holding.slot, messageRef, heard, linked, holding, tracker, rfl, rfl, awaits,
          has⟩
      · refine .inl ⟨?_, .of_position ⟨linked, awaits, fun _ same => ?_⟩⟩
        · intro contact member
          obtain rfl := List.mem_singleton.mp (heard ▸ member)
          cases response <;> first | rfl | exact absurd rfl accepted
        · exact accepted (Bench.LinkStage.answered.inj same).2
  | resubmits reaction =>
      obtain ⟨-, rfl⟩ := LinkResponse.react_eq_resubmit reaction
      exact .inl ⟨List.forall_mem_nil _,
        .of_position ⟨linked, awaits, fun _ => nofun⟩⟩
  | handsBack reaction =>
      obtain ⟨-, -, rfl⟩ := LinkResponse.react_eq_handBack reaction
      exact .inl ⟨List.forall_mem_nil _,
        .of_position ⟨linked, awaits, fun _ => nofun⟩⟩

theorem Unaccepted.finished {flight : Flight} {link : LinkTransport} {last : Tracker}
    {outcome : TransportOutcome} (linked : links flight.holding.slot = some link)
    (unaccepted : Unaccepted links ⟨story, some (.flying flight)⟩)
    (finishes : link.Finishes flight.stage last outcome) :
    let after : Passage :=
      ⟨story, some (.returning { tracker := last, domain := flight.holding.domain, outcome })⟩
    (∀ contact ∈ contacts links ⟨story, some (.flying flight)⟩ after, contact.isQuiet = true) ∧
      after.Unaccepted links := by
  intro after
  obtain ⟨-, awaits, unanswered⟩ := unaccepted.pending _ rfl
  rw [contacts_landed linked]
  obtain ⟨holding, current⟩ := flight
  cases finishes with
  | @answered tracker _ response _ registers reaction =>
      have unaccepted : response ≠ .accepted := by
        rintro rfl
        exact unanswered tracker rfl
      obtain ⟨rfl, unsent, kept⟩ := LinkResponse.react_of_unaccepted unaccepted reaction
      rw [LinkTransport.farewell_answered reaction]
      refine ⟨?_, .of_position ⟨kept.trans awaits, unsent⟩⟩
      intro contact member
      obtain rfl := List.mem_singleton.mp member
      cases outcome <;> first | rfl | exact absurd rfl unsent
  | handedBack =>
      refine ⟨?_, .of_position ⟨awaits, nofun⟩⟩
      intro contact member
      obtain rfl := List.mem_singleton.mp member
      rfl

/-- Until a link accepts the message, link transports make no other contacts. -/
theorem Unaccepted.step (unaccepted : before.Unaccepted links)
    (referenced : before.Referenced links) (carried : links.Carry after.story)
    (own : ∀ position, before.position = some position → position.tracker.ticket = ticket)
    (step : Step links foreign before after) :
    ((∀ contact ∈ before.contacts links after, contact.isQuiet = true) ∧
      after.Unaccepted links) ∨
    ∃ slot messageRef, before.contacts links after = [.answered slot ticket .accepted] ∧
      after.Accepted links slot messageRef := by
  have silently (none : before.contacts links after = []) (still : after.Unaccepted links) :
      (∀ contact ∈ before.contacts links after, contact.isQuiet = true) ∧
        after.Unaccepted links := by
    rw [none]
    exact ⟨List.forall_mem_nil _, still⟩
  cases step with
  | still => exact .inl (silently (contacts_of_same rfl) unaccepted)
  | joined brings ongoing asking unused =>
      obtain ⟨awaits, none⟩ := unaccepted.of_brings brings
      exact .inl (silently none (.of_position awaits))
  | handed brings ongoing asking leading sent =>
      obtain ⟨awaits, none⟩ := unaccepted.of_brings brings
      exact .inl (silently none (.launched carried (by simp) awaits _ sent))
  | completed brings asking told truly =>
      obtain ⟨-, none⟩ := unaccepted.of_brings brings
      exact .inl (silently none ⟨fun _ there => (nomatch there), by simp⟩)
  | drained sent =>
      have awaits := unaccepted.pending _ rfl
      exact .inl (silently rfl (.launched carried (by simp) awaits _ sent))
  | advanced linked advances => exact unaccepted.advanced referenced (own _ rfl) advances
  | finished linked finishes => exact .inl (unaccepted.finished linked finishes)
  | reported free evolved =>
      have linked := (unaccepted.pending _ rfl).1
      rw [free] at linked
      cases linked

theorem Told.of_accepted
    (consistent : Consistent ⟨story, some (.flying ⟨holding, .answered tracker .accepted⟩)⟩)
    (isOpen : resultsIn story = []) (has : tracker.messageRef = some messageRef)
    (domain : Domain) :
    Told messageRef ⟨story, some (.returning ⟨tracker.afterAcceptance, domain, .sent⟩)⟩ := by
  have kept : tracker.afterAcceptance.messageRef = tracker.messageRef := by
    unfold Tracker.afterAcceptance
    split <;> rfl
  refine ⟨⟨?_, fun none => nomatch none⟩, ?_, ?_, ?_⟩
  · intro position there
    obtain rfl := Option.some.inj there
    exact kept.trans has
  · intro other named
    exact Option.some.inj ((consistent.kept _ rfl other named).symm.trans has)
  · intro position there
    exact ⟨_, (Option.some.inj there).symm, rfl⟩
  · intro result member
    rw [isOpen] at member
    cases member

/-- An accepted message has its delivery callback registered, and then it is reported as
sent. -/
theorem Accepted.step (accepted : before.Accepted links slot messageRef)
    (consistent : before.Consistent) (isOpen : before.Open)
    (own : ∀ position, before.position = some position → position.tracker.ticket = ticket)
    (step : Step links foreign before after) :
    (before.contacts links after = [] ∧ after.Accepted links slot messageRef) ∨
    (before.contacts links after =
        [.registered slot { ticket, messageRef }, .reported slot ticket .sent] ∧
      after.Told messageRef) := by
  obtain ⟨linked, holding, tracker, there, rfl, awaits, has⟩ := accepted
  have taken {brought : Tracker} (brings : before.Brings links foreign brought) : False := by
    cases brings with
    | entered | reported => cases there
    | reclaimed free =>
        obtain rfl := Position.flying.inj (Option.some.inj there)
        rw [free] at linked
        cases linked
  cases step with
  | still => exact .inl ⟨contacts_of_same rfl, linked, holding, tracker, there, rfl, awaits, has⟩
  | joined brings | handed brings | completed brings => exact (taken brings).elim
  | drained => cases there
  | advanced _ advances =>
      obtain rfl := Position.flying.inj (Option.some.inj there)
      cases advances with
      | resubmits reaction | handsBack reaction => cases reaction
  | @finished story _ link last outcome here finishes =>
      obtain rfl := Position.flying.inj (Option.some.inj there)
      cases finishes with
      | answered reaction =>
          obtain ⟨rfl, rfl, -⟩ := LinkReaction.report.inj reaction
          have mine : tracker.ticket = ticket := own _ rfl
          refine .inr ⟨?_, .of_accepted consistent (isOpen rfl) has holding.domain⟩
          rw [contacts_landed here, LinkTransport.farewell_accepted link awaits has, mine]
  | reported free =>
      obtain rfl := Position.flying.inj (Option.some.inj there)
      rw [free] at linked
      cases linked

theorem Told.of_brings (told : before.Told messageRef)
    (brings : before.Brings links foreign tracker) :
    ∃ report, before.position = some (.returning report) ∧ report.outcome = .sent ∧
      tracker.messageRef = some messageRef := by
  cases brings with
  | entered => exact absurd rfl (told.known.2 rfl)
  | reclaimed =>
      obtain ⟨report, other, -⟩ := told.sent _ rfl
      cases other
  | @reported _ report =>
      obtain ⟨_, same, sent⟩ := told.sent _ rfl
      obtain rfl := Position.returning.inj same
      exact ⟨report, rfl, sent, told.known.1 _ rfl⟩

theorem Told.known_step (told : before.Told messageRef) (step : Step links foreign before after) :
    after.Known messageRef ∧ ∀ other, some other ∈ refsIn after.story → other = messageRef := by
  obtain ⟨known, new, grown, same⟩ := told.known.run (.single step)
  refine ⟨known, fun other member => ?_⟩
  rw [grown, refsIn_append, List.mem_append] at member
  rcases member with earlier | now
  · exact told.named other earlier
  · exact Option.some.inj (same _ now)

/-- Once the controller is told, link transports are done with the message. -/
theorem Told.step (told : before.Told messageRef) (step : Step links foreign before after) :
    before.contacts links after = [] ∧ after.Told messageRef := by
  obtain ⟨known, named⟩ := told.known_step step
  have elsewhere {flight : Flight} (there : before.position = some (.flying flight)) : False := by
    obtain ⟨report, other, -⟩ := told.sent _ there
    cases other
  cases step with
  | still => exact ⟨contacts_of_same rfl, told⟩
  | joined brings ongoing | handed brings ongoing =>
      obtain ⟨report, there, sent, -⟩ := told.of_brings brings
      have terminal := ongoing report there
      rw [sent] at terminal
      cases terminal
  | @completed _ _ _ result brings asking kept truly =>
      obtain ⟨report, there, sent, has⟩ := told.of_brings brings
      obtain ⟨given, rfl⟩ := truly report there sent
      obtain rfl := (kept given rfl).trans has
      refine ⟨?_, known, named, fun _ absent => (nomatch absent), ?_⟩
      · unfold contacts
        rw [there]
      · intro result member
        rw [resultsIn_append, resultsIn_append, resultsIn_asked asking, List.mem_append] at member
        rcases member with earlier | now
        · exact told.ended result earlier
        · simpa [resultsIn, Remark.result?] using now
  | drained =>
      obtain ⟨report, other, -⟩ := told.sent _ rfl
      cases other
  | advanced | finished | reported => exact (elsewhere rfl).elim

end Passage

/-- How far link transports have got with a message that awaits delivery, and what they
have done for it. -/
inductive Outlook (links : Links) (ticket : Ticket) : List Contact → Passage → Prop where
  | unaccepted {contacts passage} (quiet : ∀ contact ∈ contacts, contact.isQuiet = true)
      (unaccepted : passage.Unaccepted links) : Outlook links ticket contacts passage
  | accepted {earlier slot messageRef passage}
      (quiet : ∀ contact ∈ earlier, contact.isQuiet = true)
      (accepted : passage.Accepted links slot messageRef) :
      Outlook links ticket (earlier ++ [.answered slot ticket .accepted]) passage
  | told {earlier slot messageRef passage}
      (quiet : ∀ contact ∈ earlier, contact.isQuiet = true) (told : passage.Told messageRef) :
      Outlook links ticket (earlier ++ [.answered slot ticket .accepted,
        .registered slot { ticket, messageRef }, .reported slot ticket .sent]) passage

theorem Outlook.step {links : Links} {foreign : Prop} {ticket : Ticket} {contacts : List Contact}
    {before after : Passage} (outlook : Outlook links ticket contacts before)
    (past : Passage.Run links foreign ⟨[], none⟩ before) (carried : links.Carry after.story)
    (own : ∀ position, before.position = some position → position.tracker.ticket = ticket)
    (step : Passage.Step links foreign before after) :
    Outlook links ticket (contacts ++ before.contacts links after) after := by
  cases outlook with
  | unaccepted quiet unaccepted =>
      rcases unaccepted.step (.run past) carried own step with
        ⟨still, onward⟩ | ⟨slot, messageRef, new, accepted⟩
      · refine .unaccepted ?_ onward
        intro contact member
        exact (List.mem_append.mp member).elim (quiet contact) (still contact)
      · rw [new]
        exact .accepted quiet accepted
  | accepted quiet accepted =>
      rcases accepted.step (.run past) (.run past) own step with ⟨new, onward⟩ | ⟨new, told⟩
      · rw [new, List.append_nil]
        exact .accepted quiet onward
      · rw [new, List.append_assoc]
        exact .told quiet told
  | told quiet told =>
      obtain ⟨new, onward⟩ := told.step step
      rw [new, List.append_nil]
      exact .told quiet onward

/-! ### Runs -/

namespace Network

variable {links : Links} {network rest : Network} {ticket : Ticket} {conditions : Conditions}
  {command : Command} {entered : List Tracker} {contacts : List Contact} {config : DispatchConfig}
  {resolver : Option ResolverId} {sequence : ReferenceCounter}

theorem Handling.unaccepted (handling : Handling links network rest conditions command)
    (ownRefs : Ticket → UInt8) {tracker : Tracker}
    (brought : tracker ∈ Controller.carried conditions.now command)
    (awaits : tracker.awaitsDelivery = true)
    (carried : links.Carry
      ((rest.handle links ownRefs conditions command).story tracker.ticket)) :
    ∃ passage, (rest.handle links ownRefs conditions command).Shows tracker.ticket passage ∧
      passage.Unaccepted links := by
  obtain ⟨asked, -, ⟨-, -, shows⟩ | ⟨holding, -, sent, lead, -, shows⟩ | ⟨result, -, -, shows⟩⟩ :=
    handling.fate_of_brought ownRefs brought
  all_goals
    refine ⟨_, shows, ?_⟩
    rw [← shows.story_eq] at carried
  · exact .of_position awaits
  · exact .launched carried (by simp) awaits ownRefs sent
  · exact ⟨fun _ there => (nomatch there), by simp⟩

theorem Recording.outlook
    (recording : Recording links (start config resolver sequence) entered contacts network)
    {tracker : Tracker} (member : tracker ∈ entered) (awaits : tracker.awaitsDelivery = true)
    (carried : links.Carry (network.story tracker.ticket)) {passage : Passage}
    (shown : network.Shows tracker.ticket passage) :
    Outlook links tracker.ticket (contactsOn tracker.ticket contacts) passage := by
  induction recording generalizing passage with
  | rest => cases member
  | @next _ _ network newcomers _ after earlier records ih =>
      have sound := earlier.reachable.sound
      have later := (earlier.next records).reachable.sound
      rw [contactsOn_append]
      rcases List.mem_append.mp member with known | comes
      · obtain ⟨before, last, was, again, does⟩ := records.step.passage sound.evolving
          sound.accounted sound.agrees sound.silent tracker.ticket
        obtain rfl := again.unique later shown
        have prior : links.Carry (network.story tracker.ticket) := fun slot among =>
          carried slot (List.filterMap_subset _ (records.step.story_subset _) among)
        have past := (earlier.reachable.run_of_shown was).mono
          (List.map_subset _ records.step.adopted_subset ·)
        rw [records.contactsOn_eq sound later was shown]
        rw [← shown.story_eq] at carried
        exact (ih known prior was).step past carried (fun _ => was.ticket_eq) does
      · cases records with
        | handle answer provides =>
            obtain ⟨brought, fresh⟩ := List.mem_filter.mp comes
            have unknown : tracker.ticket ∉ network.world.tickets := by simpa using fresh
            have handling : Handling links network _ _ _ :=
              ⟨answer, provides, sound.evolving, sound.accounted, sound.agrees⟩
            obtain ⟨first, shown', unaccepted⟩ := handling.unaccepted _ brought awaits carried
            obtain rfl := shown'.unique later shown
            rw [earlier.contactsOn_of_unknown unknown]
            exact .unaccepted (List.forall_mem_nil _) unaccepted
        | advance | finish | report => cases comes

theorem mem_submissionsIn_story {slot : Slot} {submission : Submission}
    (member : .submission slot ticket submission ∈ network.history) :
    (slot, submission) ∈ submissionsIn (network.story ticket) := by
  refine List.mem_filterMap.mpr ⟨.submitted slot submission, ?_, rfl⟩
  refine List.mem_map.mpr ⟨(ticket, .submitted slot submission), ?_, rfl⟩
  refine List.mem_filter.mpr ⟨List.mem_flatMap.mpr ⟨_, member, List.mem_cons_self⟩, ?_⟩
  simp

/-- The link transport of an accepted message can go on, and registers the delivery
callback. -/
theorem Shows.registers {passage : Passage} (shown : network.Shows ticket passage) {slot : Slot}
    {messageRef : UInt8} (accepted : passage.Accepted links slot messageRef) :
    ∃ after, Records links network []
      [.registered slot { ticket, messageRef }, .reported slot ticket .sent] after := by
  obtain ⟨linked, holding, tracker, there, rfl, awaits, has⟩ := accepted
  obtain ⟨link, here⟩ := Option.isSome_iff_exists.mp linked
  have own : tracker.ticket = ticket := shown.ticket_eq there
  cases shown with
  | gone => cases there
  | there position placed =>
      obtain rfl := Option.some.inj there
      have flying : ⟨holding, .answered tracker .accepted⟩ ∈ network.flights := by
        simpa [positions] using placed
      obtain ⟨before, after, split⟩ := List.append_of_mem flying
      rw [← own, ← LinkTransport.farewell_accepted link awaits has]
      exact ⟨_, .finish split here (.answered rfl)⟩

/-- Every submission of a message has a reference. A message that awaits delivery, and that
only link transports carry, has its delivery callback registered exactly if a link accepts
it: once, with that link, and before the controller is told that it has been sent. The
callback goes with the reference of all its submissions and of its result. -/
theorem Recording.status_reports
    (recording : Recording links (start config resolver sequence) entered contacts network) :
    (∀ slot ticket submission, .submission slot ticket submission ∈ network.history →
      submission.messageRef.isSome = true) ∧
    ∀ tracker ∈ entered, tracker.awaitsDelivery = true →
      links.Carry (network.story tracker.ticket) →
      let ticket := tracker.ticket
      let story := network.story ticket
      let own := contactsOn ticket contacts
      (∀ contact ∈ own, contact.isQuiet = true) ∨
      ∃ earlier slot messageRef,
        let accepted := earlier ++ [.answered slot ticket .accepted]
        let registers := [.registered slot { ticket, messageRef }, .reported slot ticket .sent]
        (∀ contact ∈ earlier, contact.isQuiet = true) ∧
        (∀ made ∈ submissionsIn story, made.2.messageRef = some messageRef) ∧
        (own = accepted ∧ resultsIn story = [] ∧
            (∃ after, Records links network [] registers after) ∨
          own = accepted ++ registers ∧
            ∀ result ∈ resultsIn story, result = .sent (some messageRef)) := by
  constructor
  · intro slot ticket submission member
    obtain ⟨passage, shown, told⟩ := network.exists_shows ticket
    have referenced := Passage.Referenced.run (recording.reachable.run_of_shown shown)
    exact referenced.submitted (slot, submission) (told ▸ mem_submissionsIn_story member)
  · intro tracker member awaits carried ticket story own
    obtain ⟨passage, shown, whole⟩ := network.exists_shows ticket
    have whole : story = passage.story := whole.symm
    have past := recording.reachable.run_of_shown shown
    have referenced := Passage.Referenced.run past
    have outlook := recording.outlook member awaits carried shown
    generalize same : contactsOn ticket contacts = made at outlook
    have same : own = made := same
    rw [same, whole]
    cases outlook with
    | unaccepted quiet => exact .inl quiet
    | @accepted earlier slot messageRef _ quiet accepted =>
        refine .inr ⟨earlier, slot, messageRef, quiet, ?_, .inl ⟨rfl, ?_, shown.registers accepted⟩⟩
        · exact referenced.messageRef_eq fun _ => accepted.named (.run past)
        · exact Passage.Open.run past accepted.isSome_position
    | @told earlier slot messageRef _ quiet informed =>
        refine .inr ⟨earlier, slot, messageRef, quiet, ?_, .inr ⟨?_, informed.ended⟩⟩
        · exact referenced.messageRef_eq informed.named
        · rw [List.append_assoc]
          rfl

end Network

/-! ### A small recording -/

namespace Sample

def awaited : SendRequest :=
  { request 1 with reportsDelivery := true }

/-- The message as PS has it. -/
def entrusted : Tracker :=
  ((Controller.admitted surroundings awaited).assignRef 0).recordDispatch .ps

def entrusting : Network :=
  Network.handle links (fun _ => 0) (.steady surroundings) (.submit .text awaited)
    { Network.start impatient none (.new 256) with
      submitted := [(Controller.admitted surroundings awaited).message] }

def accepting : Network :=
  { entrusting with
    flights := [flight .ps (.answered entrusted .accepted)]
    history := entrusting.history ++ [.submission .ps 1 (.ofTracker entrusted .threeGpp)] }

def registered : Network :=
  { accepting with
    flights := []
    reports := [{ tracker := entrusted.releaseDelivery, domain := .ps, outcome := .sent }] }

def contacts : List Contact :=
  [.answered .ps 1 .accepted, .registered .ps { ticket := 1, messageRef := 0 },
    .reported .ps 1 .sent]

theorem registered_recording :
    Network.Recording links (.start impatient none (.new 256))
      [Controller.admitted surroundings awaited] contacts registered := by
  have launched : entrusting.flights = [] ++ flight .ps (.submitting entrusted) :: [] := rfl
  have answered : accepting.flights = [] ++ flight .ps (.answered entrusted .accepted) :: [] := rfl
  have entered : Network.Recording links (.start impatient none (.new 256))
      [Controller.admitted surroundings awaited] [] entrusting :=
    .next .rest (.handle links_answer (.submitted (by decide)))
  have accepted : Network.Recording links (.start impatient none (.new 256))
      [Controller.admitted surroundings awaited] [.answered .ps 1 .accepted] accepting :=
    entered.next (.advance launched (linked _) (.submitted entrusted .accepted))
  exact accepted.next (.finish answered (linked _) (.answered rfl))

/-- The status report is registered with PS, under the reference of the only submission. -/
theorem registered_status_report :
    links.Carry (registered.story 1) ∧ ∃ slot messageRef,
      .registered slot { ticket := 1, messageRef } ∈ contacts ∧
        ∀ made ∈ submissionsIn (registered.story 1), made.2.messageRef = some messageRef := by
  have carried : links.Carry (registered.story 1) := fun _ _ => rfl
  refine ⟨carried, ?_⟩
  have all : contactsOn 1 contacts = contacts := by decide
  have course := (Network.Recording.status_reports registered_recording).2 _
    List.mem_cons_self rfl carried
  have ticket : (Controller.admitted surroundings awaited).ticket = 1 := rfl
  simp only [ticket, all] at course
  rcases course with quiet | ⟨earlier, slot, messageRef, -, same, ⟨short, -⟩ | ⟨whole, -⟩⟩
  · have noisy := quiet (.answered .ps 1 .accepted) (by decide)
    cases noisy
  · have last := congrArg List.getLast? short
    simp [contacts] at last
  · refine ⟨slot, messageRef, ?_, same⟩
    rw [whole]
    simp

end Sample

end OutboundSms
