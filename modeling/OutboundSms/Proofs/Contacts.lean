import OutboundSms.Proofs.Passage

/-!
# Contacts

What a link transport does for a message: it hears the answers of its link, registers
delivery callbacks with it and reports to the controller. The contacts are recorded along
a run, with the trackers that come in, and those of one message follow from its passage.
-/

set_option autoImplicit false

namespace OutboundSms

/-- What a link transport does for a message: it hears the answer to a submission, registers
a delivery callback with its link, or reports to the controller. -/
inductive Contact where
  | answered (slot : Slot) (ticket : Ticket) (response : LinkResponse)
  | registered (slot : Slot) (callback : StatusCallback)
  | reported (slot : Slot) (ticket : Ticket) (outcome : TransportOutcome)
  deriving DecidableEq

namespace Contact

def ticket : Contact → Ticket
  | answered _ ticket _ | reported _ ticket _ => ticket
  | registered _ callback => callback.ticket

/-- Whether the contact has nothing to do with an acceptance. -/
def isQuiet : Contact → Bool
  | answered _ _ .accepted | registered _ _ | reported _ _ .sent => false
  | _ => true

end Contact

def contactsOn (ticket : Ticket) (contacts : List Contact) : List Contact :=
  contacts.filter (·.ticket = ticket)

theorem contactsOn_of_ne {ticket : Ticket} {contacts : List Contact}
    (others : ∀ contact ∈ contacts, contact.ticket ≠ ticket) : contactsOn ticket contacts = [] :=
  List.filter_eq_nil_iff.mpr (by simpa using others)

theorem contactsOn_of_eq {ticket : Ticket} {contacts : List Contact}
    (own : ∀ contact ∈ contacts, contact.ticket = ticket) :
    contactsOn ticket contacts = contacts :=
  List.filter_eq_self.mpr (by simpa using own)

@[simp] theorem contactsOn_append (ticket : Ticket) (first second : List Contact) :
    contactsOn ticket (first ++ second) = contactsOn ticket first ++ contactsOn ticket second :=
  List.filter_append ..

/-- The answer that a link transport has got to this stage with. -/
def Bench.LinkStage.heard (slot : Slot) : Bench.LinkStage → List Contact
  | .answered tracker response => [.answered slot tracker.ticket response]
  | .submitting _ | .handingBack _ => []

/-- The delivery callback that a link transport registers as it ends with a message. -/
def LinkTransport.registers (link : LinkTransport) : Bench.LinkStage → Option StatusCallback
  | .answered tracker response =>
      match response.react link.domain link.policy tracker with
      | .report _ _ registers => registers
      | .resubmit _ | .handBack _ => none
  | .submitting _ | .handingBack _ => none

/-- What a link transport does as it ends with a message. -/
def LinkTransport.farewell (link : LinkTransport) (slot : Slot) (stage : Bench.LinkStage)
    (tracker : Tracker) (outcome : TransportOutcome) : List Contact :=
  (link.registers stage).toList.map (.registered slot) ++
    [.reported slot tracker.ticket outcome]

theorem Bench.LinkStage.ticket_of_heard {stage : Bench.LinkStage} {slot : Slot}
    {contact : Contact} (member : contact ∈ stage.heard slot) :
    contact.ticket = stage.tracker.ticket := by
  cases stage with
  | answered => rw [List.mem_singleton.mp member]; rfl
  | submitting | handingBack => cases member

namespace LinkTransport

variable {link : LinkTransport} {slot : Slot} {tracker : Tracker} {messageRef : UInt8}

theorem ticket_of_farewell {stage : Bench.LinkStage} {last : Tracker}
    {outcome : TransportOutcome} (finishes : link.Finishes stage last outcome) {contact : Contact}
    (member : contact ∈ link.farewell slot stage last outcome) :
    contact.ticket = stage.tracker.ticket := by
  rcases List.mem_append.mp member with registered | reported
  · obtain ⟨callback, among, rfl⟩ := List.mem_map.mp registered
    rw [Option.mem_toList] at among
    cases finishes with
    | handedBack => cases among
    | @answered tracker _ response _ registers reaction =>
        simp only [LinkTransport.registers, reaction] at among
        subst among
        exact LinkResponse.ticket_of_registers reaction
  · rw [List.mem_singleton.mp reported]
    exact finishes.evolves.ticket_eq

theorem farewell_answered {response : LinkResponse} {last : Tracker}
    {outcome : TransportOutcome} {registers : Option StatusCallback}
    (reaction : response.react link.domain link.policy tracker =
      .report last outcome registers) :
    link.farewell slot (.answered tracker response) last outcome =
      registers.toList.map (.registered slot) ++ [.reported slot last.ticket outcome] := by
  simp [farewell, LinkTransport.registers, reaction]

theorem farewell_accepted (link : LinkTransport) (awaits : tracker.awaitsDelivery = true)
    (has : tracker.messageRef = some messageRef) :
    link.farewell slot (.answered tracker .accepted) tracker.afterAcceptance .sent =
      [.registered slot { ticket := tracker.ticket, messageRef },
        .reported slot tracker.ticket .sent] := by
  have callback : tracker.statusCallback? = some { ticket := tracker.ticket, messageRef } := by
    simp [Tracker.statusCallback?, awaits, has]
  have same : tracker.afterAcceptance.ticket = tracker.ticket := by
    unfold Tracker.afterAcceptance
    split <;> rfl
  rw [farewell_answered rfl, callback, same]
  rfl

/-- Everything that a link transport goes through with a message, and what it submits. -/
inductive Converses (link : LinkTransport) :
    Bench.LinkStage → List Submission → Bench.LinkStage → Prop where
  | rest {stage} : Converses link stage [] stage
  | next {stage made next submissions last} : link.Advances stage made next →
      Converses link next submissions last → Converses link stage (made ++ submissions) last

/-- Where a link transport stops that has got to the stage `reached`: it ends with the
message or waits. -/
inductive Stops (link : LinkTransport) (reached : Bench.LinkStage) : Bench.LinkPause → Prop where
  | finished {tracker outcome} (finishes : link.Finishes reached tracker outcome) :
      Stops link reached (.finished tracker outcome (link.registers reached))
  | waiting {delay} : Stops link reached (.waiting delay reached)

theorem logged_submit {scripted next : Bench.ScriptedLink} {answer : Bench.LinkAnswer}
    {time : Nat} {submission : Submission}
    (submitted : scripted.submit time submission = (next, answer)) :
    next.keepsLog = scripted.keepsLog ∧ (scripted.keepsLog = true →
      next.submissions.map (·.submission) =
        scripted.submissions.map (·.submission) ++ [submission]) := by
  have same : next = (scripted.submit time submission).1 := (congrArg Prod.fst submitted).symm
  subst same
  unfold Bench.ScriptedLink.submit
  by_cases logs : scripted.keepsLog = true
  · cases scripted.script <;> simp [logs]
  · cases script : scripted.script <;> simp [logs, script]

/-- At the bench a link transport goes through these steps, and where it ends with a message
it registers what is recorded here. -/
theorem proceed_converses (link : LinkTransport) (time : Nat) (stage : Bench.LinkStage)
    (scripted : Bench.ScriptedLink) :
    let stop := stage.proceed time link.domain link.format link.policy scripted
    ∃ submissions reached, link.Converses stage submissions reached ∧
      link.Stops reached stop.2 ∧ (scripted.keepsLog = true →
        stop.1.submissions.map (·.submission) =
          scripted.submissions.map (·.submission) ++ submissions) := by
  fun_induction Bench.LinkStage.proceed time link.domain link.format link.policy stage scripted with
  | case1 scripted tracker next answer submitted instant ih =>
      obtain ⟨submissions, reached, converses, stops, logged⟩ := ih
      obtain ⟨keeps, first⟩ := logged_submit submitted
      refine ⟨_, reached, .next (.submitted tracker answer.response) converses, stops, ?_⟩
      intro logs
      rw [logged (keeps.trans logs), first logs, List.append_assoc]
  | case2 scripted tracker next answer submitted takes =>
      obtain ⟨-, first⟩ := logged_submit submitted
      exact ⟨_, _, .next (.submitted tracker answer.response) .rest, .waiting, first⟩
  | case3 scripted tracker response last outcome registers reaction =>
      have same : link.registers (.answered tracker response) = registers := by
        simp only [LinkTransport.registers, reaction]
      refine ⟨[], _, .rest, ?_, fun _ => (List.append_nil _).symm⟩
      rw [← same]
      exact .finished (.answered reaction)
  | case4 scripted tracker response last reaction instant =>
      exact ⟨_, _, .next (.handsBack reaction) .rest, .finished (.handedBack last),
        fun _ => (List.append_nil _).symm⟩
  | case5 scripted tracker response last reaction takes =>
      exact ⟨_, _, .next (.handsBack reaction) .rest, .waiting,
        fun _ => (List.append_nil _).symm⟩
  | case6 scripted tracker response next reaction instant ih =>
      obtain ⟨submissions, reached, converses, stops, logged⟩ := ih
      exact ⟨_, reached, .next (.resubmits reaction) converses, stops, logged⟩
  | case7 scripted tracker response next reaction takes =>
      exact ⟨_, _, .next (.resubmits reaction) .rest, .waiting,
        fun _ => (List.append_nil _).symm⟩
  | case8 scripted tracker =>
      exact ⟨[], _, .rest, .finished (.handedBack tracker), fun _ => (List.append_nil _).symm⟩

end LinkTransport

/-! ### Recordings -/

namespace Network

/-- The steps of a network, with the trackers that come in and the contacts that are made. -/
inductive Records (links : Links) :
    Network → List Tracker → List Contact → Network → Prop where
  | handle {network rest conditions command ownRefs} (answer : links.Answer conditions)
      (provides : network.Provides links conditions.now command rest) :
      Records links network
        ((Controller.carried conditions.now command).filter (·.ticket ∉ network.world.tickets))
        [] (rest.handle links ownRefs conditions command)
  | advance {network before flight after link submissions stage}
      (flying : network.flights = before ++ flight :: after)
      (linked : links flight.holding.slot = some link)
      (advances : link.Advances flight.stage submissions stage) :
      Records links network [] (stage.heard flight.holding.slot)
        { network with
          flights := before ++ { flight with stage } :: after
          history := network.history ++
            submissions.map (.submission flight.holding.slot flight.holding.tracker.ticket) }
  | finish {network before flight after link tracker outcome}
      (flying : network.flights = before ++ flight :: after)
      (linked : links flight.holding.slot = some link)
      (finishes : link.Finishes flight.stage tracker outcome) :
      Records links network [] (link.farewell flight.holding.slot flight.stage tracker outcome)
        { network with
          flights := before ++ after
          reports := network.reports ++
            [{ tracker, domain := flight.holding.domain, outcome }] }
  | report {network before flight after report}
      (flying : network.flights = before ++ flight :: after)
      (free : links flight.holding.slot = none)
      (evolved : flight.stage.tracker.Evolves report.tracker) :
      Records links network [] []
        { network with
          flights := before ++ after
          reports := network.reports ++ [report] }

/-- Runs of any length, with all that is recorded on the way. -/
inductive Recording (links : Links) (first : Network) :
    List Tracker → List Contact → Network → Prop where
  | rest : Recording links first [] [] first
  | next {entered contacts network newcomers new after} :
      Recording links first entered contacts network →
      Records links network newcomers new after →
      Recording links first (entered ++ newcomers) (contacts ++ new) after

variable {links : Links} {first network after : Network} {entered : List Tracker}
  {contacts : List Contact}

theorem Records.step (records : Records links network entered contacts after) :
    Step links network after := by
  cases records with
  | handle answer provides => exact .handle answer provides
  | advance flying linked advances => exact .advance flying linked advances
  | finish flying linked finishes => exact .finish flying linked finishes
  | report flying free evolved => exact .report flying free evolved

theorem Step.records (step : Step links network after) :
    ∃ entered contacts, Records links network entered contacts after := by
  cases step with
  | handle answer provides => exact ⟨_, _, .handle answer provides⟩
  | advance flying linked advances => exact ⟨_, _, .advance flying linked advances⟩
  | finish flying linked finishes => exact ⟨_, _, .finish flying linked finishes⟩
  | report flying free evolved => exact ⟨_, _, .report flying free evolved⟩

theorem run_iff_recording :
    Run links first network ↔
      ∃ entered contacts, Recording links first entered contacts network := by
  constructor
  · intro run
    induction run with
    | refl => exact ⟨_, _, .rest⟩
    | tail _ step ih =>
        obtain ⟨entered, contacts, recording⟩ := ih
        obtain ⟨newcomers, new, records⟩ := step.records
        exact ⟨_, _, recording.next records⟩
  · rintro ⟨entered, contacts, recording⟩
    induction recording with
    | rest => exact .refl
    | next _ records ih => exact ih.tail records.step

end Network

/-! ### Contacts of a passage -/

/-- What link transports have done for a message that has got from one position to the
next. -/
def Position.contacts (links : Links) : Position → Position → List Contact
  | .flying flight, .flying next =>
      match flight.stage with
      | .submitting _ => next.stage.heard flight.holding.slot
      | .answered _ _ | .handingBack _ => []
  | .flying flight, .returning report =>
      match links flight.holding.slot with
      | some link =>
          link.farewell flight.holding.slot flight.stage report.tracker report.outcome
      | none => []
  | _, _ => []

theorem Position.contacts_self (links : Links) (position : Position) :
    position.contacts links position = [] := by
  cases position with
  | waiting | returning => rfl
  | flying flight =>
      obtain ⟨holding, stage⟩ := flight
      cases stage <;> rfl

namespace Passage

def contacts (links : Links) (before after : Passage) : List Contact :=
  match before.position, after.position with
  | some position, some next => position.contacts links next
  | _, _ => []

variable {links : Links} {before after : Passage}

theorem contacts_of_same (same : after.position = before.position) :
    before.contacts links after = [] := by
  unfold contacts
  rw [same]
  cases before.position with
  | none => rfl
  | some position => exact position.contacts_self links

theorem contacts_landed {story : List Remark} {flight : Flight} {link : LinkTransport}
    {report : Report} (linked : links flight.holding.slot = some link) :
    contacts links ⟨story, some (.flying flight)⟩ ⟨story, some (.returning report)⟩ =
      link.farewell flight.holding.slot flight.stage report.tracker report.outcome := by
  simp only [contacts, Position.contacts, linked]

end Passage

/-! ### Contacts along a run -/

namespace Network

variable {links : Links} {network rest after : Network} {ticket : Ticket}
  {conditions : Conditions} {command : Command} {entered newcomers : List Tracker}
  {contacts new : List Contact}

/-- Where one message moves, the contacts that are made are those of its passage. -/
theorem contactsOn_of_one {others : List Position} {position next : Position}
    (sound : network.Sound) (later : after.Sound)
    (was : network.positions.Perm (position :: others))
    (becomes : after.positions.Perm (next :: others))
    (own : next.tracker.ticket = position.tracker.ticket)
    (made : position.contacts links next = new)
    (mine : ∀ contact ∈ new, contact.ticket = position.tracker.ticket)
    {first last : Passage} (shown : network.Shows ticket first)
    (again : after.Shows ticket last) :
    contactsOn ticket new = first.contacts links last := by
  by_cases same : ticket = position.tracker.ticket
  · subst same
    obtain rfl := shown.unique sound (.there position (was.mem_iff.mpr List.mem_cons_self) rfl)
    obtain rfl := again.unique later (.there next (becomes.mem_iff.mpr List.mem_cons_self) own)
    rw [contactsOn_of_eq mine, ← made]
    rfl
  · rw [contactsOn_of_ne fun contact member => mine contact member ▸ Ne.symm same]
    cases shown with
    | gone => rfl
    | there other placed mine' =>
        rcases List.mem_cons.mp (was.mem_iff.mp placed) with rfl | elsewhere
        · exact absurd mine'.symm same
        · have stays := becomes.mem_iff.mpr (List.mem_cons_of_mem next elsewhere)
          obtain rfl := again.unique later (.there other stays mine')
          exact (other.contacts_self links).symm

/-- Link transports make no contacts while the controller handles a command. -/
theorem contacts_of_turn {ownRefs : Ticket → UInt8} (sound : network.Sound)
    (provides : network.Provides links conditions.now command rest) {first last : Passage}
    (shown : network.Shows ticket first)
    (again : (rest.handle links ownRefs conditions command).Shows ticket last) :
    first.contacts links last = [] := by
  cases shown with
  | gone => rfl
  | there position placed mine =>
      cases again with
      | gone => cases position <;> rfl
      | there next placed' mine' =>
          have unmoved (there : next ∈ rest.positions) : position.contacts links next = [] := by
            have same := Shows.unique sound (.there position placed mine)
              (.there next (provides.positions_subset there) mine')
            obtain rfl := Option.some.inj (Passage.mk.inj same).2
            exact position.contacts_self links
          cases position with
          | waiting | returning => rfl
          | flying flight =>
              simp only [positions, handle, List.map_append, List.mem_append, List.mem_map]
                at placed'
              rcases placed' with (⟨tracker, -, rfl⟩ | old | ⟨_, ⟨holding, -, rfl⟩, rfl⟩) | posted
              · rfl
              · refine unmoved (List.mem_append_left _ (List.mem_append_right _ ?_))
                exact List.mem_map.mpr old
              · obtain ⟨holding, stage⟩ := flight
                cases stage <;> rfl
              · exact unmoved (List.mem_append_right _ (List.mem_map.mpr posted))

theorem Records.contactsOn_eq (records : Records links network newcomers new after)
    (sound : network.Sound) (later : after.Sound) {first last : Passage}
    (shown : network.Shows ticket first) (again : after.Shows ticket last) :
    contactsOn ticket new = first.contacts links last := by
  cases records with
  | @handle rest conditions command ownRefs answer provides =>
      exact (contacts_of_turn sound provides shown again).symm
  | @advance before flight after link made stage flying linked advances =>
      refine contactsOn_of_one sound later (positions_perm_around flying)
        (positions_perm_around rfl) advances.evolves.ticket_eq ?_ ?_ shown again
      · obtain ⟨holding, current⟩ := flight
        cases advances <;> rfl
      · intro contact member
        exact (Bench.LinkStage.ticket_of_heard member).trans advances.evolves.ticket_eq
  | @finish before flight after link last outcome flying linked finishes =>
      refine contactsOn_of_one sound later (positions_perm_around flying)
        (network.positions_perm_landed before after _) finishes.evolves.ticket_eq ?_ ?_ shown again
      · simp only [Position.contacts, linked]
      · exact fun contact member => LinkTransport.ticket_of_farewell finishes member
  | @report before flight after report flying free evolved =>
      refine contactsOn_of_one sound later (positions_perm_around flying)
        (network.positions_perm_landed before after _) evolved.ticket_eq ?_ ?_ shown again
      · simp only [Position.contacts, free]
      · exact List.forall_mem_nil _

variable {config : DispatchConfig} {resolver : Option ResolverId} {sequence : ReferenceCounter}

theorem Recording.reachable
    (recording : Recording links (start config resolver sequence) entered contacts network) :
    Reachable links config resolver sequence network :=
  run_iff_recording.mpr ⟨entered, contacts, recording⟩

theorem Recording.contactsOn_of_unknown
    (recording : Recording links (start config resolver sequence) entered contacts network)
    (unknown : ticket ∉ network.world.tickets) : contactsOn ticket contacts = [] := by
  induction recording with
  | rest => rfl
  | @next _ _ network _ _ after earlier records ih =>
      have sound := earlier.reachable.sound
      have later := (earlier.next records).reachable.sound
      have before : ticket ∉ network.world.tickets := fun known =>
        unknown (records.step.tickets_subset sound.evolving known)
      obtain ⟨passage, shown, -⟩ := after.exists_shows ticket
      have absent := absent_of_unknown sound.evolving sound.accounted before
      rw [contactsOn_append, ih before, records.contactsOn_eq sound later (.gone absent) shown]
      rfl

end Network

end OutboundSms
