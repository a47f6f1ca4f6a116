import Mathlib.Logic.Relation
import OutboundSms.Proofs.Stories

/-!
# Passages

A passage is one message seen from outside: where it is and all that has been heard of
it. `Passage.Step` lists everything that can happen to a message, and every step of a
network is a step, or none, of the passage of each message. What holds of every message
is proved about passages.
-/

set_option autoImplicit false

namespace OutboundSms

/-! ### Passages -/

/-- Where a message on its way is: in a queue, in the hands of a transport, or on its way
back. -/
inductive Position where
  | waiting (tracker : Tracker)
  | flying (flight : Flight)
  | returning (report : Report)

def Position.tracker : Position → Tracker
  | waiting tracker => tracker
  | flying flight => flight.stage.tracker
  | returning report => report.tracker

/-- One message seen from outside. It has no position before it has come in and once it
has completed. -/
structure Passage where
  story : List Remark
  position : Option Position

/-- The holding is what a transport has been given of the tracker. -/
def Links.Sent (links : Links) (given : Tracker) (holding : Holding) : Prop :=
  ∃ conditions, links.Answer conditions ∧ Controller.Sent conditions given holding

namespace Passage

/-- A command can bring the tracker, which is new or has been in somebody's hands. Only a
foreign message comes in with a tracker of its own. -/
inductive Brings (links : Links) (foreign : Prop) : Passage → Tracker → Prop where
  | entered {tracker} (origin : foreign ∨ ∃ request emergency,
        tracker = .ofRequest request emergency) :
      Brings links foreign ⟨[], none⟩ tracker
  | reclaimed {story flight tracker} (free : links flight.holding.slot = none)
      (evolved : flight.stage.tracker.Evolves tracker) :
      Brings links foreign ⟨story, some (.flying flight)⟩ tracker
  | reported {story report} :
      Brings links foreign ⟨story, some (.returning report)⟩ report.tracker

/-- The message has not come back for good. -/
def Ongoing (passage : Passage) : Prop :=
  ∀ report, passage.position = some (.returning report) → report.outcome.isTerminal = false

/-- Everything that can happen to a message. A resolver is asked only for the sake of a
message that IMS has not had. -/
inductive Step (links : Links) (foreign : Prop) : Passage → Passage → Prop where
  | still {passage} : Step links foreign passage passage
  | joined {passage tracker asked} (brings : Brings links foreign passage tracker)
      (ongoing : passage.Ongoing)
      (asking : asked = [] ∨ asked = [.consulted] ∧ tracker.usedIms = false)
      (unused : tracker.usedIms = false) :
      Step links foreign passage ⟨passage.story ++ asked, some (.waiting tracker)⟩
  | handed {passage tracker holding asked lead ownRefs}
      (brings : Brings links foreign passage tracker) (ongoing : passage.Ongoing)
      (asking : asked = [] ∨ asked = [.consulted] ∧ tracker.usedIms = false)
      (leading : lead = [] ∨ lead = [.fellBack tracker.messageRef])
      (sent : links.Sent tracker holding) :
      Step links foreign passage
        ⟨passage.story ++ (asked ++ lead ++ holding.remarks),
          some (.flying (links.launch ownRefs holding))⟩
  | completed {passage tracker asked result} (brings : Brings links foreign passage tracker)
      (asking : asked = [] ∨ asked = [.consulted] ∧ tracker.usedIms = false)
      (told : ∀ messageRef, result = .sent messageRef → messageRef = tracker.messageRef)
      (truly : ∀ report, passage.position = some (.returning report) → report.outcome = .sent →
        ∃ messageRef, result = .sent messageRef) :
      Step links foreign passage
        ⟨passage.story ++ (asked ++ [.completed result, .completed result]), none⟩
  | drained {story tracker holding ownRefs} (sent : links.Sent tracker holding) :
      Step links foreign ⟨story, some (.waiting tracker)⟩
        ⟨story ++ holding.remarks, some (.flying (links.launch ownRefs holding))⟩
  | advanced {story flight link submissions stage}
      (linked : links flight.holding.slot = some link)
      (advances : link.Advances flight.stage submissions stage) :
      Step links foreign ⟨story, some (.flying flight)⟩
        ⟨story ++ submissions.map (.submitted flight.holding.slot),
          some (.flying { flight with stage })⟩
  | finished {story flight link tracker outcome}
      (linked : links flight.holding.slot = some link)
      (finishes : link.Finishes flight.stage tracker outcome) :
      Step links foreign ⟨story, some (.flying flight)⟩
        ⟨story, some (.returning { tracker, domain := flight.holding.domain, outcome })⟩
  | reported {story flight report} (free : links flight.holding.slot = none)
      (evolved : flight.stage.tracker.Evolves report.tracker) :
      Step links foreign ⟨story, some (.flying flight)⟩ ⟨story, some (.returning report)⟩

/-- What picks nothing out of the asking finds nothing in it. -/
theorem filterMap_asked {α : Type} {pick : Remark → Option α} (silent : pick .consulted = none)
    {asked : List Remark} {unused : Prop} (asking : asked = [] ∨ asked = [.consulted] ∧ unused) :
    asked.filterMap pick = [] := by
  rcases asking with rfl | ⟨rfl, -⟩
  · rfl
  · exact List.filterMap_cons_none silent

theorem filterMap_lead {α : Type} {pick : Remark → Option α} {messageRef : Option UInt8}
    (silent : pick (.fellBack messageRef) = none) {lead : List Remark}
    (leading : lead = [] ∨ lead = [.fellBack messageRef]) : lead.filterMap pick = [] := by
  rcases leading with rfl | rfl
  · rfl
  · exact List.filterMap_cons_none silent

variable {links : Links} {foreign wider : Prop} {before after : Passage} {tracker : Tracker}

theorem Brings.mono (brings : before.Brings links foreign tracker) (weaker : foreign → wider) :
    before.Brings links wider tracker := by
  cases brings with
  | entered origin => exact .entered (origin.imp_left weaker)
  | reclaimed free evolved => exact .reclaimed free evolved
  | reported => exact .reported

theorem Step.mono (step : Step links foreign before after) (weaker : foreign → wider) :
    Step links wider before after := by
  cases step with
  | still => exact .still
  | joined brings ongoing asking unused =>
      exact .joined (brings.mono weaker) ongoing asking unused
  | handed brings ongoing asking leading sent =>
      exact .handed (brings.mono weaker) ongoing asking leading sent
  | completed brings asking told truly => exact .completed (brings.mono weaker) asking told truly
  | drained sent => exact .drained sent
  | advanced linked advances => exact .advanced linked advances
  | finished linked finishes => exact .finished linked finishes
  | reported free evolved => exact .reported free evolved

/-- Everything that can happen to a message in the long run. -/
abbrev Run (links : Links) (foreign : Prop) : Passage → Passage → Prop :=
  Relation.ReflTransGen (Step links foreign)

theorem Run.mono (run : Run links foreign before after) (weaker : foreign → wider) :
    Run links wider before after := by
  induction run with
  | refl => exact .refl
  | tail _ step ih => exact .tail ih (step.mono weaker)

end Passage

namespace Network

/-- The positions of all messages on their way. -/
def positions (network : Network) : List Position :=
  network.controller.trackers.map .waiting ++ network.flights.map .flying ++
    network.reports.map .returning

theorem positions_tracker (network : Network) :
    network.positions.map (·.tracker) = network.trackers := by
  simp [positions, trackers, Position.tracker, Function.comp_def]

/-- The passage of a message as the network has it. -/
inductive Shows (network : Network) (ticket : Ticket) : Passage → Prop where
  | there (position : Position) (member : position ∈ network.positions)
      (own : position.tracker.ticket = ticket) :
      Shows network ticket ⟨network.story ticket, some position⟩
  | gone (absent : ticket ∉ network.trackers.map (·.ticket)) :
      Shows network ticket ⟨network.story ticket, none⟩

variable {links : Links} {network rest after : Network} {surroundings : Surroundings}
  {conditions : Conditions} {command : Command} {ownRefs : Ticket → UInt8} {ticket : Ticket}

theorem mem_positions_of_mem_trackers {tracker : Tracker} (member : tracker ∈ network.trackers) :
    ∃ position ∈ network.positions, position.tracker = tracker := by
  rw [← positions_tracker] at member
  exact List.mem_map.mp member

theorem ticket_of_position {position : Position} (member : position ∈ network.positions) :
    position.tracker.ticket ∈ network.trackers.map (·.ticket) := by
  rw [← positions_tracker]
  exact List.mem_map_of_mem (List.mem_map_of_mem member)

theorem Provides.positions_subset (provides : network.Provides links surroundings command rest) :
    rest.positions ⊆ network.positions := by
  cases provides with
  | submitted | adopted | bare => exact fun _ => id
  | reclaimed flying =>
      intro position member
      simp only [positions, flying, List.map_append, List.map_cons, List.mem_append,
        List.mem_cons] at member ⊢
      tauto
  | reported posted =>
      intro position member
      simp only [positions, posted, List.map_append, List.map_cons, List.mem_append,
        List.mem_cons] at member ⊢
      tauto

/-- Whoever is on the way has been brought or is left. -/
theorem Provides.tickets_subset (provides : network.Provides links surroundings command rest) :
    network.trackers.map (·.ticket) ⊆
      (Controller.carried surroundings command ++ rest.trackers).map (·.ticket) := by
  cases provides with
  | submitted | adopted | bare =>
      rw [List.map_append]
      exact List.subset_append_right _ _
  | reclaimed flying free evolved =>
      intro ticket member
      simp only [trackers, flying, Controller.carried, List.map_append, List.map_cons,
        List.map_map, List.map_nil, List.mem_append, List.mem_cons, evolved.ticket_eq] at member ⊢
      tauto
  | reported posted =>
      intro ticket member
      simp only [trackers, posted, Report.command, Controller.carried, List.map_append,
        List.map_cons, List.map_map, List.map_nil, List.mem_append, List.mem_cons] at member ⊢
      tauto

/-- Nothing is heard of a message that has not come in. -/
def Silent (network : Network) : Prop :=
  ∀ ticket ∉ network.world.tickets, network.story ticket = []

theorem absent_of_unknown (evolving : network.Evolving) (accounted : network.world.Accounted)
    (unknown : ticket ∉ network.world.tickets) : ticket ∉ network.trackers.map (·.ticket) := by
  intro there
  obtain ⟨other, among, rfl⟩ := List.mem_map.mp there
  refine unknown (List.map_subset _ (trackers_perm evolving accounted).subset ?_)
  exact List.mem_map.mpr
    ⟨other.message, List.mem_append_left _ (List.mem_map_of_mem among), rfl⟩

theorem Shows.story_eq {passage : Passage} (shown : network.Shows ticket passage) :
    passage.story = network.story ticket := by
  cases shown <;> rfl

theorem Shows.ticket_eq {passage : Passage} (shown : network.Shows ticket passage)
    {position : Position} (there : passage.position = some position) :
    position.tracker.ticket = ticket := by
  cases shown with
  | there _ _ own => exact Option.some.inj there ▸ own
  | gone => cases there

/-- A tracker that a command brings has come in just now or was somewhere before. -/
theorem Provides.brings (provides : network.Provides links surroundings command rest)
    (evolving : network.Evolving) (accounted : network.world.Accounted)
    (silent : network.Silent) {tracker : Tracker}
    (brought : tracker ∈ Controller.carried surroundings command) :
    ∃ passage, network.Shows tracker.ticket passage ∧
      passage.Brings links (tracker.ticket ∈ rest.adopted.map (·.ticket)) tracker ∧
      ∀ report, passage.position = some (.returning report) → command = report.command := by
  have entered (fresh : tracker.ticket ∉ network.world.tickets) :
      network.Shows tracker.ticket ⟨[], none⟩ := by
    rw [← silent tracker.ticket fresh]
    exact .gone (absent_of_unknown evolving accounted fresh)
  cases provides with
  | submitted fresh =>
      obtain rfl := List.mem_singleton.mp brought
      exact ⟨_, entered fresh, .entered (.inr ⟨_, _, rfl⟩), by simp⟩
  | adopted brings fresh =>
      rw [Controller.carried_of_brings brings] at brought
      obtain rfl := List.mem_singleton.mp brought
      exact ⟨_, entered fresh, .entered (.inl (by simp)), by simp⟩
  | @reclaimed before flight after _ flying free evolved =>
      obtain rfl := List.mem_singleton.mp brought
      refine ⟨_, .there (.flying flight) ?_ evolved.ticket_eq.symm,
        .reclaimed free evolved, by simp⟩
      simp [positions, flying]
  | @reported before report after posted =>
      obtain rfl := List.mem_singleton.mp brought
      refine ⟨_, .there (.returning report) ?_ rfl, .reported, by simp⟩
      simp [positions, posted]
  | bare empty => simp [empty] at brought

/-! ### Turns as steps of passages -/

/-- What is heard of a message while a command is handled. -/
def heard (conditions : Conditions) (command : Command) (ticket : Ticket) (network : Network) :
    List Remark :=
  remarksOn ticket (Happening.remarks (.turn conditions
    (Controller.carried conditions.now command) network.controller.trackers
    (network.controller.handle conditions command).2))

theorem heard_of_brought (network : Network) {tracker : Tracker}
    (brought : tracker ∈ Controller.carried conditions.now command) :
    ∃ asked, (asked = [] ∨ asked = [.consulted] ∧ tracker.usedIms = false) ∧
      network.heard conditions command tracker.ticket = asked ++
        remarksOn tracker.ticket (remarks (network.controller.handle conditions command).2) := by
  simp only [heard, Happening.remarks, remarksOn_append]
  split
  · next asked =>
    obtain ⟨only, alone, unused⟩ := Controller.asked_handle network.controller conditions
      command (by simpa [Controller.Unasked] using asked)
    rw [alone] at brought ⊢
    obtain rfl := List.mem_singleton.mp brought
    exact ⟨[.consulted], .inr ⟨rfl, unused⟩, by simp⟩
  · exact ⟨[], .inl rfl, by simp⟩

theorem heard_of_not_brought
    (elsewhere : ticket ∉ (Controller.carried conditions.now command).map (·.ticket)) :
    network.heard conditions command ticket =
      remarksOn ticket (remarks (network.controller.handle conditions command).2) := by
  simp only [heard, Happening.remarks, remarksOn_append]
  split
  · have others : remarksOn ticket ((Controller.carried conditions.now command).map fun tracker =>
        (tracker.ticket, Remark.consulted)) = [] :=
      remarksOn_of_ne fun remark member same => by
        obtain ⟨tracker, brought, rfl⟩ := List.mem_map.mp member
        exact elsewhere (List.mem_map.mpr ⟨tracker, brought, same⟩)
    rw [others, List.nil_append]
  · rfl

/-- Everything that is known where a network has a command handled. -/
structure Handling (links : Links) (network rest : Network) (conditions : Conditions)
    (command : Command) : Prop where
  answer : links.Answer conditions
  provides : network.Provides links conditions.now command rest
  evolving : network.Evolving
  accounted : network.world.Accounted
  agrees : network.controller.Agrees

namespace Handling

variable (handling : Handling links network rest conditions command)

include handling

theorem rest_agrees : rest.controller.Agrees :=
  handling.provides.controller_eq ▸ handling.agrees

theorem moves : Controller.Moves conditions rest.controller
    (Controller.carried conditions.now command) (rest.controller.handle conditions command) :=
  Controller.handle_moved handling.rest_agrees conditions command

theorem distinct :
    ((Controller.carried conditions.now command ++ rest.trackers).map (·.ticket)).Nodup :=
  handling.provides.nodup handling.evolving handling.accounted

theorem involved_nodup :
    ((Controller.carried conditions.now command ++ rest.controller.trackers).map
      (·.ticket)).Nodup := by
  have distinct := handling.distinct
  rw [trackers, List.append_assoc, ← List.append_assoc, List.map_append] at distinct
  exact (List.nodup_append.mp distinct).1

theorem apart_of_brought {tracker : Tracker}
    (brought : tracker ∈ Controller.carried conditions.now command) :
    tracker.ticket ∉ rest.trackers.map (·.ticket) := by
  have distinct := handling.distinct
  rw [List.map_append, List.nodup_append] at distinct
  exact fun there => distinct.2.2 _ (List.mem_map_of_mem brought) _ there rfl

/-- What has left and what is in the queues afterwards was brought or in the queues. -/
theorem conserved :
    ((departures (rest.controller.handle conditions command).2).map (·.ticket) ++
      (rest.controller.handle conditions command).1.trackers.map (·.ticket)).Perm
    ((Controller.carried conditions.now command ++ rest.controller.trackers).map (·.ticket)) := by
  have whole := (Controller.handle_conserves handling.rest_agrees conditions command).map
    Message.ticket
  simpa [World.waiting_eq_map_trackers, Function.comp_def] using whole

theorem story_handle (ownRefs : Ticket → UInt8) (ticket : Ticket) :
    (rest.handle links ownRefs conditions command).story ticket =
      network.story ticket ++ rest.heard conditions command ticket := by
  simp [story, heard, handle, handling.provides.history_eq]

/-- Nothing is heard of a message that the turn is not about. -/
theorem heard_of_apart
    (apart : ticket ∉
      (Controller.carried conditions.now command ++ rest.controller.trackers).map (·.ticket)) :
    rest.heard conditions command ticket = [] := by
  rw [heard_of_not_brought fun member => apart (by
    rw [List.map_append]
    exact List.mem_append_left _ member)]
  exact remarksOn_of_staying fun member =>
    apart (handling.conserved.subset (List.mem_append_left _ member))

theorem apart_of_outside {position : Position} (member : position ∈ rest.positions)
    (outside : ∀ tracker, position ≠ .waiting tracker) :
    position.tracker.ticket ∉
      (Controller.carried conditions.now command ++ rest.controller.trackers).map (·.ticket) := by
  have distinct := handling.distinct
  rw [trackers, List.append_assoc, ← List.append_assoc, List.map_append, List.nodup_append]
    at distinct
  intro there
  refine distinct.2.2 _ there _ ?_ rfl
  simp only [positions, List.append_assoc, List.mem_append, List.mem_map] at member
  rcases member with ⟨tracker, -, rfl⟩ | ⟨flight, among, rfl⟩ | ⟨report, among, rfl⟩
  · exact absurd rfl (outside tracker)
  · simp only [List.map_append, List.map_map, List.mem_append]
    exact .inl (List.mem_map.mpr ⟨flight, among, rfl⟩)
  · simp only [List.map_append, List.map_map, List.mem_append]
    exact .inr (List.mem_map.mpr ⟨report, among, rfl⟩)

/-- Whoever is on the way after a turn was brought, or was on the way before. -/
theorem tickets_handle (ownRefs : Ticket → UInt8) :
    (rest.handle links ownRefs conditions command).trackers.map (·.ticket) ⊆
      (Controller.carried conditions.now command ++ rest.trackers).map (·.ticket) := by
  intro ticket member
  have settled := fun there => handling.conserved.subset (a := ticket) there
  simp only [trackers, handle, List.map_append, List.mem_append] at member settled ⊢
  rcases member with (queued | (flying | launched)) | reported
  · have := settled (.inr queued)
    tauto
  · tauto
  · simp only [List.map_map, List.mem_map, Function.comp_apply, Links.ticket_launch] at launched
    obtain ⟨holding, among, rfl⟩ := launched
    have := settled (.inl (List.mem_map_of_mem (message_mem_departures among)))
    tauto
  · tauto

/-- Nothing but the asking is heard of a message that is in a queue after the turn. -/
theorem remarksOn_of_waiting {tracker : Tracker}
    (waits : tracker ∈ (rest.controller.handle conditions command).1.trackers) :
    remarksOn tracker.ticket (remarks (rest.controller.handle conditions command).2) = [] := by
  have settled := handling.conserved.nodup_iff.mpr handling.involved_nodup
  exact remarksOn_of_staying fun leaves =>
    (List.nodup_append.mp settled).2.2 _ leaves _ (List.mem_map_of_mem waits) rfl

omit handling in
theorem shows_waiting (ownRefs : Ticket → UInt8) {tracker : Tracker}
    (waits : tracker ∈ (rest.controller.handle conditions command).1.trackers) :
    let after := rest.handle links ownRefs conditions command
    after.Shows tracker.ticket ⟨after.story tracker.ticket, some (.waiting tracker)⟩ := by
  refine .there (.waiting tracker) ?_ rfl
  simp only [positions, handle, List.mem_append]
  exact .inl (.inl (List.mem_map_of_mem waits))

omit handling in
theorem shows_launched (ownRefs : Ticket → UInt8) {holding : Holding} {given : Tracker}
    (among : holding ∈ handedOver (rest.controller.handle conditions command).2)
    (sent : Controller.Sent conditions given holding) :
    let after := rest.handle links ownRefs conditions command
    after.Shows given.ticket
      ⟨after.story given.ticket, some (.flying (links.launch ownRefs holding))⟩ := by
  refine .there _ ?_ ?_
  · simp only [positions, handle, List.map_append, List.map_map, List.mem_append]
    exact .inl (.inr (.inr (List.mem_map.mpr ⟨holding, among, rfl⟩)))
  · rw [Position.tracker, Links.ticket_launch, sent.ticket_eq]

/-- What becomes of a tracker that the command brings, and what is heard of it. -/
theorem fate_of_brought (ownRefs : Ticket → UInt8) {tracker : Tracker}
    (brought : tracker ∈ Controller.carried conditions.now command) :
    let turn := rest.controller.handle conditions command
    let after := rest.handle links ownRefs conditions command
    ∃ asked, (asked = [] ∨ asked = [.consulted] ∧ tracker.usedIms = false) ∧
      ((tracker.usedIms = false ∧ tracker ∈ turn.1.trackers ∧
          after.Shows tracker.ticket
            ⟨network.story tracker.ticket ++ asked, some (.waiting tracker)⟩) ∨
        (∃ holding ∈ handedOver turn.2, links.Sent tracker holding ∧ ∃ lead,
          (lead = [] ∨ lead = [.fellBack tracker.messageRef]) ∧
            after.Shows tracker.ticket
              ⟨network.story tracker.ticket ++ (asked ++ lead ++ holding.remarks),
                some (.flying (links.launch ownRefs holding))⟩) ∨
        (∃ result, (∀ messageRef, result = .sent messageRef → messageRef = tracker.messageRef) ∧
          remarksOn tracker.ticket (remarks turn.2) = [.completed result, .completed result] ∧
          after.Shows tracker.ticket
            ⟨network.story tracker.ticket ++ (asked ++ [.completed result, .completed result]),
              none⟩)) := by
  intro turn after
  obtain ⟨asked, asking, heard⟩ := heard_of_brought rest brought
  have told : after.story tracker.ticket = _ := handling.story_handle ownRefs tracker.ticket
  rw [heard] at told
  have apart := handling.apart_of_brought brought
  simp only [trackers, List.map_append, List.mem_append, not_or] at apart
  obtain ⟨⟨unqueued, landed⟩, unreported⟩ := apart
  refine ⟨asked, asking, ?_⟩
  rcases handling.moves.fate_of_arriving unqueued brought with ⟨joins, unused⟩ |
    ⟨holding, among, sent, lead, leading, onward⟩ | ⟨result, truly, ended, absent, none⟩
  · refine .inl ⟨unused, joins, ?_⟩
    rw [handling.remarksOn_of_waiting joins, List.append_nil] at told
    exact told ▸ shows_waiting ownRefs joins
  · refine .inr (.inl ⟨holding, among, ⟨conditions, handling.answer, sent⟩, lead, leading, ?_⟩)
    rw [onward, ← List.append_assoc asked] at told
    exact told ▸ shows_launched ownRefs among sent
  · refine .inr (.inr ⟨result, truly, ended, ?_⟩)
    rw [ended] at told
    rw [← told]
    refine .gone ?_
    simp only [after, trackers, handle, none, List.map_append, List.mem_append, List.map_nil,
      List.append_nil, not_or]
    exact ⟨⟨absent, landed⟩, unreported⟩

theorem passage_of_brought (ownRefs : Ticket → UInt8) (silent : network.Silent)
    {tracker : Tracker} (brought : tracker ∈ Controller.carried conditions.now command) :
    ∃ before after, network.Shows tracker.ticket before ∧
      (rest.handle links ownRefs conditions command).Shows tracker.ticket after ∧
      Passage.Step links (tracker.ticket ∈ rest.adopted.map (·.ticket)) before after := by
  obtain ⟨before, shown, brings, returned⟩ :=
    handling.provides.brings handling.evolving handling.accounted silent brought
  -- What has come back for good completes as what it has come back, and goes nowhere else.
  have back {report : Report} (there : before.position = some (.returning report))
      (terminal : report.outcome.isTerminal = true) :
      ∃ final, (report.outcome = .sent → final = .sent tracker.messageRef) ∧
        rest.controller.handle conditions command =
          rest.controller.complete conditions.now tracker final (some report.domain) := by
    obtain rfl := returned report there
    obtain rfl : tracker = report.tracker := List.mem_singleton.mp brought
    exact Controller.handle_report_of_terminal rest.controller conditions terminal
  have ongoing (goes : tracker ∈ (rest.controller.handle conditions command).1.trackers ∨
      handedOver (rest.controller.handle conditions command).2 ≠ []) : before.Ongoing := by
    intro report there
    by_contra terminal
    obtain ⟨final, -, ends⟩ := back there (by simpa using terminal)
    rw [ends, Controller.handedOver_complete] at goes
    refine goes.elim (fun queued => handling.apart_of_brought brought ?_) (· rfl)
    exact List.mem_map_of_mem (List.mem_append_left _ (List.mem_append_left _ queued))
  obtain ⟨asked, asking, ⟨unused, joins, shows⟩ | ⟨holding, among, sent, lead, leading, shows⟩ |
    ⟨result, told, ended, shows⟩⟩ := handling.fate_of_brought ownRefs brought
  all_goals
    refine ⟨before, _, shown, shows, ?_⟩
    rw [← shown.story_eq]
  · exact .joined brings (ongoing (.inl joins)) asking unused
  · exact .handed brings (ongoing (.inr (List.ne_nil_of_mem among))) asking leading sent
  · refine .completed brings asking told ?_
    intro report there sent
    obtain ⟨final, truly, ends⟩ := back there (by rw [sent]; rfl)
    rw [ends, Controller.remarks_complete, remarksOn_cons_self] at ended
    obtain rfl := Remark.completed.inj (List.cons.inj ended).1
    exact ⟨_, truly sent⟩

theorem passage_of_queued (ownRefs : Ticket → UInt8) {tracker : Tracker}
    (queued : tracker ∈ rest.controller.trackers) :
    ∃ before after, network.Shows tracker.ticket before ∧
      (rest.handle links ownRefs conditions command).Shows tracker.ticket after ∧
      Passage.Step links (tracker.ticket ∈ rest.adopted.map (·.ticket)) before after := by
  have told := handling.story_handle ownRefs tracker.ticket
  have shown : network.Shows tracker.ticket
      ⟨network.story tracker.ticket, some (.waiting tracker)⟩ := by
    refine .there (.waiting tracker) (handling.provides.positions_subset ?_) rfl
    exact List.mem_append_left _ (List.mem_append_left _ (List.mem_map_of_mem queued))
  have distinct := handling.distinct
  rw [List.map_append, List.nodup_append] at distinct
  have there : tracker.ticket ∈ rest.trackers.map (·.ticket) :=
    List.mem_map_of_mem (List.mem_append_left _ (List.mem_append_left _ queued))
  rw [heard_of_not_brought fun brought => distinct.2.2 _ brought _ there rfl] at told
  have once : (rest.controller.trackers.map (·.ticket)).Nodup := by
    have all := distinct.2.1
    rw [trackers, List.append_assoc, List.map_append] at all
    exact (List.nodup_append.mp all).1
  rcases handling.moves.fate_of_queued handling.rest_agrees once queued with stays |
    ⟨holding, among, sent, onward⟩
  · refine ⟨_, _, shown, shows_waiting ownRefs stays, ?_⟩
    rw [told, handling.remarksOn_of_waiting stays, List.append_nil]
    exact .still
  · refine ⟨_, _, shown, shows_launched ownRefs among sent, ?_⟩
    rw [told, onward]
    exact .drained ⟨conditions, handling.answer, sent⟩

theorem passage_of_outside (ownRefs : Ticket → UInt8) {position : Position}
    (there : position ∈ rest.positions) (outside : ∀ tracker, position ≠ .waiting tracker) :
    ∃ before after, network.Shows position.tracker.ticket before ∧
      (rest.handle links ownRefs conditions command).Shows position.tracker.ticket after ∧
      Passage.Step links (position.tracker.ticket ∈ rest.adopted.map (·.ticket)) before after := by
  refine ⟨_, ⟨_, some position⟩, .there _ (handling.provides.positions_subset there) rfl,
    .there _ ?_ rfl, ?_⟩
  · simp only [positions, List.append_assoc, List.mem_append, List.mem_map] at there
    simp only [positions, handle, List.map_append, List.append_assoc, List.mem_append,
      List.mem_map]
    rcases there with ⟨tracker, -, rfl⟩ | flying | returning
    · exact absurd rfl (outside tracker)
    · exact .inr (.inl flying)
    · exact .inr (.inr (.inr returning))
  · rw [handling.story_handle,
      handling.heard_of_apart (handling.apart_of_outside there outside), List.append_nil]
    exact .still

/-- Every message does a step of its passage in the turn. -/
theorem passage (ownRefs : Ticket → UInt8) (silent : network.Silent) (ticket : Ticket) :
    ∃ before after, network.Shows ticket before ∧
      (rest.handle links ownRefs conditions command).Shows ticket after ∧
      Passage.Step links (ticket ∈ rest.adopted.map (·.ticket)) before after := by
  -- Where a message is decides which of the three cases it is; one that is nowhere stays so.
  by_cases involved : ticket ∈
      (Controller.carried conditions.now command ++ rest.trackers).map (·.ticket)
  · obtain ⟨tracker, member, rfl⟩ := List.mem_map.mp involved
    rcases List.mem_append.mp member with brought | left
    · exact handling.passage_of_brought ownRefs silent brought
    · obtain ⟨position, there, rfl⟩ := mem_positions_of_mem_trackers left
      cases position with
      | waiting tracker =>
          have queued : tracker ∈ rest.controller.trackers := by simpa [positions] using there
          exact handling.passage_of_queued ownRefs queued
      | flying | returning => exact handling.passage_of_outside ownRefs there (by simp)
  · refine ⟨_, _, .gone fun there => involved (handling.provides.tickets_subset there),
      .gone fun there => involved (handling.tickets_handle ownRefs there), ?_⟩
    rw [handling.story_handle, handling.heard_of_apart, List.append_nil]
    · exact .still
    · simp only [trackers, List.map_append, List.mem_append] at involved ⊢
      tauto

end Handling

/-! ### Steps of networks as steps of passages -/

theorem story_submitting (network after : Network) {slot : Slot} {sender : Ticket}
    (submissions : List Submission)
    (changed : after.history = network.history ++ submissions.map (.submission slot sender)) :
    after.story sender = network.story sender ++ submissions.map (.submitted slot) ∧
      ∀ ticket, ticket ≠ sender → after.story ticket = network.story ticket := by
  have new : (submissions.map (Happening.submission slot sender)).flatMap Happening.remarks =
      submissions.map fun made => (sender, .submitted slot made) := by
    rw [List.flatMap_map, List.map_eq_flatMap]
    rfl
  constructor
  · simp [story, changed, List.flatMap_append, new, remarksOn, List.filter_map, Function.comp_def]
  · intro ticket different
    have others : remarksOn ticket
        (submissions.map fun made => (sender, Remark.submitted slot made)) = [] :=
      remarksOn_of_ne fun remark member same => by
        obtain ⟨_, -, rfl⟩ := List.mem_map.mp member
        exact different same.symm
    rw [story, changed, List.flatMap_append, new, remarksOn_append, others, List.append_nil, story]

/-- A message that is told nothing and stays where it is stands still. -/
theorem passage_still (foreign : Prop) (ticket : Ticket)
    (same : after.story ticket = network.story ticket)
    (kept : ∀ position ∈ network.positions, position.tracker.ticket = ticket →
      position ∈ after.positions)
    (absent : ticket ∉ network.trackers.map (·.ticket) →
      ticket ∉ after.trackers.map (·.ticket)) :
    ∃ before later, network.Shows ticket before ∧ after.Shows ticket later ∧
      Passage.Step links foreign before later := by
  by_cases there : ticket ∈ network.trackers.map (·.ticket)
  · obtain ⟨tracker, member, own⟩ := List.mem_map.mp there
    obtain ⟨position, placed, rfl⟩ := mem_positions_of_mem_trackers member
    refine ⟨_, _, .there _ placed own, .there _ (kept position placed own) own, ?_⟩
    rw [same]
    exact .still
  · refine ⟨_, _, .gone there, .gone (absent there), ?_⟩
    rw [same]
    exact .still

/-- What one message does is a step of its passage and leaves the others where they are. -/
theorem passage_of_one (network after : Network) {others : List Position}
    {position next : Position}
    (was : network.positions.Perm (position :: others))
    (becomes : after.positions.Perm (next :: others))
    (own : next.tracker.ticket = position.tracker.ticket) (foreign : Prop)
    (does : Passage.Step links foreign
      ⟨network.story position.tracker.ticket, some position⟩
      ⟨after.story position.tracker.ticket, some next⟩)
    (silent : ∀ ticket, ticket ≠ position.tracker.ticket →
      after.story ticket = network.story ticket) (ticket : Ticket) :
    ∃ before later, network.Shows ticket before ∧ after.Shows ticket later ∧
      Passage.Step links foreign before later := by
  by_cases mine : ticket = position.tracker.ticket
  · subst mine
    exact ⟨_, _, .there _ (was.mem_iff.mpr List.mem_cons_self) rfl,
      .there _ (becomes.mem_iff.mpr List.mem_cons_self) own, does⟩
  · refine passage_still foreign ticket (silent ticket mine) ?_ ?_
    · intro other member same
      rcases List.mem_cons.mp (was.mem_iff.mp member) with rfl | elsewhere
      · exact absurd same.symm mine
      · exact becomes.mem_iff.mpr (List.mem_cons_of_mem _ elsewhere)
    · intro absent there
      obtain ⟨tracker, member, rfl⟩ := List.mem_map.mp there
      obtain ⟨other, placed, rfl⟩ := mem_positions_of_mem_trackers member
      rcases List.mem_cons.mp (becomes.mem_iff.mp placed) with rfl | elsewhere
      · exact mine own
      · exact absent (ticket_of_position (was.mem_iff.mpr (List.mem_cons_of_mem _ elsewhere)))

/-- The positions but for one in flight. -/
def around (network : Network) (before later : List Flight) : List Position :=
  network.controller.trackers.map .waiting ++ before.map .flying ++
    (later.map .flying ++ network.reports.map .returning)

theorem positions_perm_around {before later : List Flight} {flight : Flight}
    (flying : network.flights = before ++ flight :: later) :
    network.positions.Perm (.flying flight :: network.around before later) := by
  have split : network.positions = network.controller.trackers.map .waiting ++
      before.map .flying ++ .flying flight :: (later.map .flying ++
        network.reports.map .returning) := by
    simp [positions, flying]
  rw [split]
  exact List.perm_middle

theorem positions_perm_landed (network : Network) (before later : List Flight)
    (report : Report) :
    ({ network with
        flights := before ++ later
        reports := network.reports ++ [report] } : Network).positions.Perm
      (.returning report :: network.around before later) := by
  have split : ({ network with
      flights := before ++ later, reports := network.reports ++ [report] } : Network).positions =
        network.around before later ++ [.returning report] := by
    simp [positions, around]
  rw [split]
  exact List.perm_append_singleton ..

/-- Every step of a network is a step of the passage of each message. -/
theorem Step.passage (step : Step links network after) (evolving : network.Evolving)
    (accounted : network.world.Accounted) (agrees : network.controller.Agrees)
    (silent : network.Silent) (ticket : Ticket) :
    ∃ before later, network.Shows ticket before ∧ after.Shows ticket later ∧
      Passage.Step links (ticket ∈ after.adopted.map (·.ticket)) before later := by
  have landed {before later : List Flight} {flight : Flight} {report : Report}
      (flying : network.flights = before ++ flight :: later)
      (own : report.tracker.ticket = flight.stage.tracker.ticket)
      (does : ∀ story, Passage.Step links (ticket ∈ network.adopted.map (·.ticket))
        ⟨story, some (.flying flight)⟩ ⟨story, some (.returning report)⟩) :
      ∃ first last, network.Shows ticket first ∧ Shows { network with
          flights := before ++ later, reports := network.reports ++ [report] } ticket last ∧
        Passage.Step links (ticket ∈ network.adopted.map (·.ticket)) first last := by
    have becomes := network.positions_perm_landed before later report
    generalize next : ({ network with
      flights := before ++ later, reports := network.reports ++ [report] } : Network) = after
      at becomes ⊢
    have told (ticket : Ticket) : after.story ticket = network.story ticket := by
      rw [← next]
      rfl
    refine passage_of_one network after (positions_perm_around flying) becomes own _ ?_
      (fun ticket _ => told ticket) ticket
    rw [told]
    exact does _
  cases step with
  | handle answer provides =>
      have handling : Handling links network _ _ _ :=
        ⟨answer, provides, evolving, accounted, agrees⟩
      exact handling.passage _ silent ticket
  | @advance before flight later link submissions stage flying linked advances =>
      have own := (evolving flight (by simp [flying])).ticket_eq
      generalize next : ({ network with
          flights := before ++ { flight with stage } :: later
          history := network.history ++ submissions.map
            (.submission flight.holding.slot flight.holding.tracker.ticket) } : Network) = after
      have history : after.history = network.history ++ submissions.map
          (.submission flight.holding.slot flight.stage.tracker.ticket) := by
        rw [← next, own]
      have told := story_submitting network after submissions history
      have around : after.positions.Perm
          (.flying { flight with stage } :: network.around before later) := by
        have there : after.flights = before ++ { flight with stage } :: later := by rw [← next]
        have same : after.around before later = network.around before later := by rw [← next]; rfl
        exact same ▸ positions_perm_around there
      refine passage_of_one network after
        (positions_perm_around flying) around advances.evolves.ticket_eq _ ?_ told.2 ticket
      · rw [Position.tracker, told.1]
        exact .advanced linked advances
  | finish flying linked finishes =>
      exact landed flying finishes.evolves.ticket_eq fun _ => .finished linked finishes
  | report flying free evolved =>
      exact landed flying evolved.ticket_eq fun _ => .reported free evolved

/-! ### Runs of networks as runs of passages -/

theorem Step.adopted_subset (step : Step links network after) :
    network.adopted ⊆ after.adopted := by
  cases step with
  | handle answer provides =>
      cases provides with
      | adopted => exact List.subset_append_left _ _
      | submitted | reclaimed | reported | bare => exact fun _ => id
  | advance | finish | report => exact fun _ => id

theorem Step.tickets_subset (step : Step links network after) (evolving : network.Evolving) :
    network.world.tickets ⊆ after.world.tickets := by
  cases step with
  | handle answer provides => exact List.map_subset _ (provides.world evolving).entered_subset
  | advance | finish | report => exact fun _ => id

theorem Step.story_subset (step : Step links network after) (ticket : Ticket) :
    network.story ticket ⊆ after.story ticket := by
  cases step with
  | handle answer provides => simp [story, Network.handle, provides.history_eq]
  | advance => simp [story]
  | finish | report => exact fun _ => id

theorem Step.silent (step : Step links network after) (evolving : network.Evolving)
    (accounted : network.world.Accounted) (agrees : network.controller.Agrees)
    (silent : network.Silent) : after.Silent := by
  intro ticket unknown
  have quiet := silent ticket fun known => unknown (step.tickets_subset evolving known)
  cases step with
  | @handle rest conditions command ownRefs answer provides =>
      have handling : Handling links network rest conditions command :=
        ⟨answer, provides, evolving, accounted, agrees⟩
      have unknown' : ticket ∉ rest.world.entered.map (·.ticket) := unknown
      rw [handling.story_handle, quiet, handling.heard_of_apart, List.append_nil]
      intro there
      refine unknown' (List.map_subset _ (provides.perm evolving accounted).subset ?_)
      simp only [trackers, List.map_append, List.mem_append, List.map_map, List.mem_map,
        Function.comp_apply, Tracker.ticket_message] at there ⊢
      rcases there with brought | queued
      · exact .inl (.inl brought)
      · exact .inl (.inr (.inl (.inl queued)))
  | @advance before flight later link submissions stage flying linked advances =>
      have known : flight.holding.tracker.ticket ∈ network.world.tickets := by
        refine List.map_subset _ (accounted.balanced.subset) ?_
        simp [World.outside, World.heldMessages, Network.world, flying]
      have told := story_submitting network { network with
          flights := before ++ { flight with stage } :: later
          history := network.history ++ submissions.map
            (.submission flight.holding.slot flight.holding.tracker.ticket) }
        submissions rfl
      exact (told.2 ticket fun same => unknown (same ▸ known)).trans quiet
  | finish | report => exact quiet

/-- What holds of every network that can be reached. -/
structure Sound (network : Network) : Prop where
  evolving : network.Evolving
  accounted : network.world.Accounted
  agrees : network.controller.Agrees
  silent : network.Silent

variable {config : DispatchConfig} {resolver : Option ResolverId} {sequence : ReferenceCounter}

theorem Reachable.sound (reachable : Reachable links config resolver sequence network) :
    network.Sound := by
  have worlds {network : Network} (reachable : Reachable links config resolver sequence network) :=
    (Reachable.world reachable).2
  refine ⟨(Reachable.world reachable).1, (worlds reachable).accounted, (worlds reachable).agrees,
    ?_⟩
  induction reachable with
  | refl => exact fun _ _ => rfl
  | tail run step ih =>
      exact step.silent (Reachable.world run).1 (worlds run).accounted (worlds run).agrees ih

theorem Shows.unique (sound : network.Sound) {first second : Passage}
    (shown : network.Shows ticket first) (again : network.Shows ticket second) :
    first = second := by
  have distinct := tickets_nodup sound.evolving sound.accounted
  rw [← positions_tracker, List.map_map] at distinct
  cases shown with
  | gone absent =>
      cases again with
      | gone => rfl
      | there _ member own => exact absurd (own ▸ ticket_of_position member) absent
  | there _ member own =>
      cases again with
      | gone absent => exact absurd (own ▸ ticket_of_position member) absent
      | there _ member' own' =>
          rw [List.inj_on_of_nodup_map distinct member member' (own.trans own'.symm)]

theorem Run.passage (run : Run links network after)
    (reachable : Reachable links config resolver sequence network) {later : Passage}
    (shown : after.Shows ticket later) :
    ∃ before, network.Shows ticket before ∧
      Passage.Run links (ticket ∈ after.adopted.map (·.ticket)) before later := by
  induction run generalizing later with
  | refl => exact ⟨later, shown, .refl⟩
  | tail run step ih =>
      have sound := Reachable.sound (reachable.trans run)
      obtain ⟨middle, last, shown', again, moved⟩ := step.passage sound.evolving sound.accounted
        sound.agrees sound.silent ticket
      obtain rfl := again.unique (Reachable.sound ((reachable.trans run).tail step)) shown
      obtain ⟨first, start, past⟩ := ih shown'
      exact ⟨first, start, .tail (past.mono (List.map_subset _ step.adopted_subset ·)) moved⟩

theorem exists_shows (network : Network) (ticket : Ticket) :
    ∃ passage, network.Shows ticket passage ∧ passage.story = network.story ticket := by
  by_cases there : ticket ∈ network.trackers.map (·.ticket)
  · obtain ⟨tracker, member, rfl⟩ := List.mem_map.mp there
    obtain ⟨position, placed, rfl⟩ := mem_positions_of_mem_trackers member
    exact ⟨_, .there _ placed rfl, rfl⟩
  · exact ⟨_, .gone there, rfl⟩

theorem Reachable.run_of_shown (reachable : Reachable links config resolver sequence network)
    {passage : Passage} (shown : network.Shows ticket passage) :
    Passage.Run links (ticket ∈ network.adopted.map (·.ticket)) ⟨[], none⟩ passage := by
  obtain ⟨before, first, run⟩ := Run.passage reachable .refl shown
  cases first with
  | there _ absent => cases absent
  | gone => exact run

/-- The passage of a message that came in with a request starts from nothing and has no
foreign steps. -/
theorem Reachable.run_of_submitted
    (reachable : Reachable links config resolver sequence network) {message : Message}
    (member : message ∈ network.submitted) {passage : Passage}
    (shown : network.Shows message.ticket passage) :
    Passage.Run links False ⟨[], none⟩ passage := by
  have native : message.ticket ∉ network.adopted.map (·.ticket) := by
    have distinct := reachable.sound.accounted.distinct
    rw [World.tickets, World.entered, List.map_append] at distinct
    exact fun foreign =>
      (List.nodup_append.mp distinct).2.2 _ (List.mem_map_of_mem member) _ foreign rfl
  exact (reachable.run_of_shown shown).mono native

end Network

end OutboundSms
