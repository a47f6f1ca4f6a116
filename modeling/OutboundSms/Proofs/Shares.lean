import OutboundSms.Proofs.Custody
import OutboundSms.Proofs.Moves

/-!
# Shares

What a controller does falls into shares, one for each message. An event names a message
by an id that its sender has chosen, and a session is opened without a name, so each
effect about a message is put down to the next handover or completion. In one command a
message has one of three shares: nothing, a dispatch, or a completion.
-/

set_option autoImplicit false

namespace OutboundSms

/-- The tracker that the first of the effects is about: that of the next handover or
completion, which every effect about a message comes before. -/
def subject? : List Effect → Option Tracker
  | [] => none
  | .send _ tracker _ :: _ | .complete tracker _ :: _ => some tracker
  | _ :: rest => subject? rest

/-- The effects about messages, each with the ticket of its message. -/
def attributed : List Effect → List (Ticket × Effect)
  | [] => []
  | effect :: rest =>
      (if effect.isAboutMessage then
        ((subject? (effect :: rest)).map fun tracker => (tracker.ticket, effect)).toList
      else []) ++ attributed rest

def share (ticket : Ticket) (effects : List Effect) : List Effect :=
  ((attributed effects).filter (·.1 = ticket)).map (·.2)

/-- No effect about a message lacks the handover or completion that it comes before. -/
def Whole : List Effect → Prop
  | [] => True
  | effect :: rest =>
      (effect.isAboutMessage = true → (subject? (effect :: rest)).isSome = true) ∧ Whole rest

/-! ### Subjects -/

theorem subject?_cons_of_silent {effect : Effect} (silent : effect.isAboutMessage = false)
    (rest : List Effect) : subject? (effect :: rest) = subject? rest := by
  cases effect <;> first | rfl | cases silent

theorem subject?_messageEffects (effects : List Effect) :
    subject? (messageEffects effects) = subject? effects := by
  induction effects with
  | nil => rfl
  | cons effect rest ih =>
      cases about : effect.isAboutMessage with
      | false =>
          rw [subject?_cons_of_silent about, ← ih, messageEffects,
            List.filter_cons_of_neg (by simp [about]), messageEffects]
      | true =>
          rw [messageEffects, List.filter_cons_of_pos about]
          rw [messageEffects] at ih
          cases effect <;> simp [subject?, ih]

theorem subject?_append_of_isSome {first : List Effect}
    (closed : (subject? first).isSome = true) (second : List Effect) :
    subject? (first ++ second) = subject? first := by
  induction first with
  | nil => cases closed
  | cons effect rest ih =>
      cases effect with
      | send | complete => rfl
      | _ => exact ih closed

theorem message_of_subject? {effects : List Effect} {tracker : Tracker}
    (subject : subject? effects = some tracker) : tracker.message ∈ departures effects := by
  induction effects with
  | nil => cases subject
  | cons effect rest ih =>
      rw [departures, List.filterMap_cons]
      cases effect with
      | send | complete =>
          obtain rfl := Option.some.inj subject
          exact List.mem_cons_self
      | publish event => cases event <;> exact ih subject
      | _ => exact ih subject

/-! ### Attribution -/

theorem attributed_messageEffects (effects : List Effect) :
    attributed (messageEffects effects) = attributed effects := by
  induction effects with
  | nil => rfl
  | cons effect rest ih =>
      rw [messageEffects] at ih ⊢
      cases about : effect.isAboutMessage with
      | false =>
          rw [List.filter_cons_of_neg (by simp [about]), ih, attributed, about]
          rfl
      | true =>
          have same := subject?_messageEffects (effect :: rest)
          rw [messageEffects, List.filter_cons_of_pos about] at same
          rw [List.filter_cons_of_pos about, attributed, attributed, same, ih]

theorem attributed_append {first : List Effect} (whole : Whole first) (second : List Effect) :
    attributed (first ++ second) = attributed first ++ attributed second := by
  induction first with
  | nil => rfl
  | cons effect rest ih =>
      obtain ⟨closed, whole⟩ := whole
      rw [List.cons_append, attributed, attributed, ih whole, List.append_assoc]
      split
      · next about => rw [← List.cons_append, subject?_append_of_isSome (closed about)]
      · rfl

theorem Whole.append {first second : List Effect} (before : Whole first)
    (after : Whole second) : Whole (first ++ second) := by
  induction first with
  | nil => exact after
  | cons effect rest ih =>
      obtain ⟨closed, whole⟩ := before
      refine ⟨fun about => ?_, ih whole⟩
      have same := subject?_append_of_isSome (closed about) second
      exact same ▸ closed about

theorem whole_messageEffects (effects : List Effect) :
    Whole (messageEffects effects) ↔ Whole effects := by
  induction effects with
  | nil => exact .rfl
  | cons effect rest ih =>
      rw [messageEffects] at ih ⊢
      cases about : effect.isAboutMessage with
      | false =>
          rw [List.filter_cons_of_neg (by simp [about]), ih, Whole, about]
          simp
      | true =>
          have same := subject?_messageEffects (effect :: rest)
          rw [messageEffects, List.filter_cons_of_pos about] at same
          rw [List.filter_cons_of_pos about, Whole, Whole, same, ih]

theorem Whole.map_attributed {effects : List Effect} (whole : Whole effects) :
    (attributed effects).map (·.2) = messageEffects effects := by
  induction effects with
  | nil => rfl
  | cons effect rest ih =>
      obtain ⟨closed, whole⟩ := whole
      rw [messageEffects] at ih ⊢
      cases about : effect.isAboutMessage with
      | false =>
          rw [List.filter_cons_of_neg (by simp [about]), attributed, about]
          exact ih whole
      | true =>
          obtain ⟨tracker, subject⟩ := Option.isSome_iff_exists.mp (closed about)
          rw [List.filter_cons_of_pos about, attributed, about, subject, ← ih whole]
          rfl

theorem departs_of_attributed {effects : List Effect} {entry : Ticket × Effect}
    (member : entry ∈ attributed effects) :
    entry.1 ∈ (departures effects).map (·.ticket) := by
  induction effects with
  | nil => cases member
  | cons effect rest ih =>
      rcases List.mem_append.mp member with here | later
      · split at here
        · obtain ⟨tracker, subject, rfl⟩ :=
            Option.map_eq_some_iff.mp (Option.mem_toList.mp here)
          exact List.mem_map.mpr ⟨_, message_of_subject? subject, rfl⟩
        · cases here
      · exact List.map_subset _ (((List.sublist_cons_self effect rest).filterMap _).subset)
          (ih later)

/-! ### Shares -/

section Share

variable {ticket : Ticket} {first : List Effect}

@[simp] theorem share_nil (ticket : Ticket) : share ticket [] = [] := rfl

theorem share_messageEffects (ticket : Ticket) (effects : List Effect) :
    share ticket (messageEffects effects) = share ticket effects := by
  rw [share, attributed_messageEffects, share]

theorem share_append (whole : Whole first) (second : List Effect) :
    share ticket (first ++ second) = share ticket first ++ share ticket second := by
  simp [share, attributed_append whole]

theorem share_of_staying {effects : List Effect}
    (staying : ticket ∉ (departures effects).map (·.ticket)) : share ticket effects = [] := by
  rw [share, List.filter_eq_nil_iff.mpr, List.map_nil]
  intro entry member own
  exact staying (of_decide_eq_true own ▸ departs_of_attributed member)

theorem share_cons (ticket : Ticket) (effect : Effect) (rest : List Effect) :
    share ticket (effect :: rest) =
      (if effect.isAboutMessage = true ∧
          (subject? (effect :: rest)).map (·.ticket) = some ticket then [effect] else []) ++
        share ticket rest := by
  rw [share, attributed]
  cases about : effect.isAboutMessage with
  | false => simp [share]
  | true =>
      cases subject : subject? (effect :: rest) with
      | none => simp [share]
      | some tracker =>
          by_cases own : tracker.ticket = ticket <;> simp [share, own]

theorem share_sublist (ticket : Ticket) (effects : List Effect) :
    (share ticket effects).Sublist effects := by
  induction effects with
  | nil => exact .slnil
  | cons effect rest ih =>
      rw [share_cons]
      split
      · exact ih.cons_cons effect
      · exact ih.cons effect

theorem handedOver_share (ticket : Ticket) (effects : List Effect) :
    handedOver (share ticket effects) =
      (handedOver effects).filter (·.tracker.ticket = ticket) := by
  induction effects with
  | nil => rfl
  | cons effect rest ih =>
      rw [share_cons, handedOver_append, ih]
      cases effect with
      | send slot tracker domain =>
          by_cases own : tracker.ticket = ticket <;>
            simp [handedOver, Effect.isAboutMessage, subject?, Effect.holding?, own]
      | _ => split <;> rfl

/-- The result that the effect ends the message of the ticket with. -/
def Effect.resultOf? (ticket : Ticket) : Effect → Option SendResult
  | .complete tracker result => if tracker.ticket = ticket then some result else none
  | _ => none

def resultOf? (ticket : Ticket) (effects : List Effect) : Option SendResult :=
  effects.findSome? (Effect.resultOf? ticket)

theorem resultOf?_append (ticket : Ticket) (first second : List Effect) :
    resultOf? ticket (first ++ second) =
      (resultOf? ticket first).or (resultOf? ticket second) :=
  List.findSome?_append

theorem resultOf?_share (ticket : Ticket) (effects : List Effect) :
    resultOf? ticket (share ticket effects) = resultOf? ticket effects := by
  induction effects with
  | nil => rfl
  | cons effect rest ih =>
      have split_off := resultOf?_append ticket [effect] rest
      rw [List.singleton_append] at split_off
      rw [share_cons, resultOf?_append, ih, split_off]
      cases effect with
      | complete tracker result =>
          by_cases own : tracker.ticket = ticket <;>
            simp [Effect.isAboutMessage, subject?, own, resultOf?, Effect.resultOf?]
      | _ => split <;> rfl

theorem share_map_self (ticket : Ticket) {effects : List Effect}
    (all : attributed effects = effects.map (ticket, ·)) : share ticket effects = effects := by
  simp [share, all, List.filter_map, Function.comp_def]

theorem share_map_of_ne {other : Ticket} {effects : List Effect}
    (all : attributed effects = effects.map (other, ·)) (different : other ≠ ticket) :
    share ticket effects = [] := by
  simp [share, all, List.filter_map, Function.comp_def, different]

end Share

namespace Controller

variable {conditions : Conditions} {surroundings : Surroundings} {controller : Controller}

theorem subject?_dispatch (controller : Controller) (surroundings : Surroundings) (slot : Slot)
    (tracker : Tracker) (later : List Effect) :
    subject? ((controller.dispatch surroundings slot tracker).2 ++ later) =
      some (controller.outgoing (surroundings.transport slot) tracker) := by
  simp only [dispatch_effects, sessionOpening]
  split <;> rfl

theorem attributed_dispatch (slot : Slot) (tracker : Tracker) :
    attributed (controller.dispatch surroundings slot tracker).2 =
      (controller.dispatch surroundings slot tracker).2.map (tracker.ticket, ·) := by
  simp only [dispatch_effects, sessionOpening]
  split <;> simp [attributed, subject?, Effect.isAboutMessage]

theorem dispatch_whole (slot : Slot) (tracker : Tracker) :
    Whole (controller.dispatch surroundings slot tracker).2 := by
  simp only [dispatch_effects, sessionOpening]
  split <;> simp [Whole, subject?]

theorem attributed_complete (tracker : Tracker) (result : SendResult) (domain : Option Domain) :
    attributed (controller.complete surroundings tracker result domain).2 =
      (controller.complete surroundings tracker result domain).2.map (tracker.ticket, ·) := by
  unfold complete sessionClosing
  split
  · split <;> rfl
  · rfl

theorem complete_whole (tracker : Tracker) (result : SendResult) (domain : Option Domain) :
    Whole (controller.complete surroundings tracker result domain).2 := by
  unfold complete sessionClosing
  split
  · split <;> simp [Whole, subject?]
  · simp [Whole, subject?]

theorem dispatchAll_whole (choose : Surroundings → Tracker → Slot) (trackers : List Tracker) :
    Whole (controller.dispatchAll conditions choose trackers).2 := by
  induction trackers generalizing controller conditions with
  | nil => trivial
  | cons tracker rest ih => exact (dispatch_whole ..).append ih

theorem share_dispatchAll_of_ne {ticket : Ticket} (choose : Surroundings → Tracker → Slot)
    {trackers : List Tracker} (others : ticket ∉ trackers.map (·.ticket)) :
    share ticket (controller.dispatchAll conditions choose trackers).2 = [] := by
  induction trackers generalizing controller conditions with
  | nil => rfl
  | cons tracker rest ih =>
      obtain ⟨different, others⟩ := not_or.mp (List.mem_cons.not.mp others)
      rw [dispatchAll, followedBy, share_append (dispatch_whole ..),
        share_map_of_ne (attributed_dispatch ..) fun same => different same.symm, ih others]
      rfl

/-- Of trackers handed over one after another, each has its own dispatch for a share. -/
theorem share_dispatchAll (conditions : Conditions) (controller : Controller)
    (choose : Surroundings → Tracker → Slot) {trackers : List Tracker}
    (distinct : (trackers.map (·.ticket)).Nodup) {tracker : Tracker}
    (member : tracker ∈ trackers) :
    ∃ place, ∃ counting : Controller, share tracker.ticket
        (controller.dispatchAll conditions choose trackers).2 =
      (counting.dispatch (conditions place) (choose (conditions place) tracker) tracker).2 := by
  induction trackers generalizing controller conditions with
  | nil => cases member
  | cons first rest ih =>
      obtain ⟨unseen, distinct⟩ := List.nodup_cons.mp distinct
      simp only [dispatchAll, followedBy]
      rw [share_append (dispatch_whole ..)]
      rcases List.mem_cons.mp member with rfl | member
      · refine ⟨0, controller, ?_⟩
        rw [share_map_self _ (attributed_dispatch ..), share_dispatchAll_of_ne _ unseen,
          List.append_nil]
        rfl
      · obtain ⟨place, counting, same⟩ := ih conditions.later
          (controller.dispatch conditions.now (choose conditions.now first) first).1 distinct
          member
        refine ⟨place + 1, counting, ?_⟩
        have different : first.ticket ≠ tracker.ticket := fun same =>
          unseen (List.mem_map.mpr ⟨tracker, member, same.symm⟩)
        rw [share_map_of_ne (attributed_dispatch ..) different, List.nil_append, same]
        rfl

/-! ### The share of a message in a turn -/

/-- What a command can do to the message of a tracker. -/
inductive Treats (conditions : Conditions) (tracker : Tracker) : List Effect → Prop where
  | kept : Treats conditions tracker []
  | handed (place : Nat) (slot : Slot) (counting : Controller) (lead : List Effect)
      (leading : lead = [] ∨
        lead = [.publish (.fellBack tracker.messageId tracker.messageRef)]) :
      Treats conditions tracker
        (lead ++ (counting.dispatch (conditions place) slot tracker).2)
  | completed (counting : Controller) (result : SendResult) (domain : Option Domain) :
      Treats conditions tracker (counting.complete conditions.now tracker result domain).2

variable {arriving : List Tracker} {turn : Turn} {tracker : Tracker}

theorem share_moved {effects : List Effect} {sequence : ReferenceCounter}
    {queues : TrafficClass → List Tracker} (moved : Moved turn effects sequence queues)
    (ticket : Ticket) : share ticket turn.2 = share ticket effects := by
  rw [← share_messageEffects, moved.effects_eq]

/-- The fallback of a message is announced in its own share. -/
theorem share_handed {lead : List Effect}
    (leading : lead = [] ∨ lead = [.publish (.fellBack tracker.messageId tracker.messageRef)])
    (choose : Surroundings → Tracker → Slot) (ticket : Ticket) :
    let handed := (controller.dispatchAll conditions choose [tracker]).2
    Whole (lead ++ handed) ∧ share ticket (lead ++ handed) =
      if tracker.ticket = ticket then
        lead ++ (controller.dispatch conditions.now (choose conditions.now tracker) tracker).2
      else [] := by
  intro handed
  have only : handed =
      (controller.dispatch conditions.now (choose conditions.now tracker) tracker).2 :=
    List.append_nil _
  have subject : subject? handed = _ := subject?_dispatch controller conditions.now
    (choose conditions.now tracker) tracker []
  have own : share ticket handed = if tracker.ticket = ticket then handed else [] := by
    rw [only]
    split
    · next same => exact share_map_self _ (same ▸ attributed_dispatch ..)
    · next different => exact share_map_of_ne (attributed_dispatch ..) different
  have whole : Whole handed := dispatchAll_whole ..
  rw [← only]
  rcases leading with rfl | rfl
  · exact ⟨whole, own⟩
  · refine ⟨⟨fun _ => Option.isSome_iff_exists.mpr ⟨_, subject⟩, whole⟩, ?_⟩
    rw [List.singleton_append, share_cons, own]
    have told : subject? (.publish (.fellBack tracker.messageId tracker.messageRef) :: handed) =
        subject? handed := rfl
    by_cases same : tracker.ticket = ticket <;>
      simp [told, subject, same, Effect.isAboutMessage]

theorem Moves.whole (moves : Moves conditions controller arriving turn) : Whole turn.2 := by
  rw [← whole_messageEffects]
  cases moves with
  | still moved | joined _ moved => rw [moved.effects_eq]; trivial
  | completed _ moved => rw [moved.effects_eq]; exact complete_whole ..
  | drained trafficClass choose moved => rw [moved.effects_eq]; exact dispatchAll_whole ..
  | handed choose onward leading moved =>
      rw [moved.effects_eq]
      exact (share_handed leading choose 0).1

theorem Moves.treats_arriving (moves : Moves conditions controller arriving turn)
    (member : tracker ∈ arriving) : Treats conditions tracker (share tracker.ticket turn.2) := by
  cases moves with
  | still => cases member
  | drained => cases member
  | joined unused moved =>
      rw [share_moved moved]
      exact .kept
  | @completed _ _ result domain told moved =>
      obtain rfl := List.mem_singleton.mp member
      rw [share_moved moved, share_map_self _ (attributed_complete ..)]
      exact .completed controller result domain
  | @handed _ _ lead choose onward leading moved =>
      obtain rfl := List.mem_singleton.mp member
      rw [share_moved moved, (share_handed leading choose _).2, if_pos rfl]
      exact .handed 0 _ controller lead leading

theorem Moves.treats_queued (moves : Moves conditions controller arriving turn)
    (distinct : ((arriving ++ controller.trackers).map (·.ticket)).Nodup)
    (member : tracker ∈ controller.trackers) :
    Treats conditions tracker (share tracker.ticket turn.2) := by
  rw [List.map_append, List.nodup_append] at distinct
  obtain ⟨-, once, apart⟩ := distinct
  have elsewhere {arrival : Tracker} (arrives : arrival ∈ arriving) :
      arrival.ticket ≠ tracker.ticket :=
    apart _ (List.mem_map_of_mem arrives) _ (List.mem_map_of_mem member)
  cases moves with
  | still moved | joined _ moved =>
      rw [share_moved moved]
      exact .kept
  | completed _ moved =>
      rw [share_moved moved,
        share_map_of_ne (attributed_complete ..) (elsewhere List.mem_cons_self)]
      exact .kept
  | handed choose onward leading moved =>
      rw [share_moved moved, (share_handed leading choose _).2,
        if_neg (elsewhere List.mem_cons_self)]
      exact .kept
  | drained trafficClass choose moved =>
      rw [share_moved moved]
      by_cases queued : tracker ∈ controller.queues trafficClass
      · have single : ((controller.queues trafficClass).map (·.ticket)).Nodup := by
          rw [trackers, List.map_append, List.nodup_append] at once
          cases trafficClass with
          | normal => exact once.1
          | emergency => exact once.2.1
        obtain ⟨place, counting, own⟩ :=
          share_dispatchAll conditions controller choose single queued
        rw [own]
        exact .handed place _ counting [] (.inl rfl)
      · rw [share_dispatchAll_of_ne]
        · exact .kept
        · intro there
          obtain ⟨other, waits, same⟩ := List.mem_map.mp there
          have equal := List.inj_on_of_nodup_map once (mem_trackers_of_queued waits) member same
          exact queued (equal ▸ waits)

/-- Every tracker that comes with a command or is in a queue has one of the three shares. -/
theorem Moves.treats (moves : Moves conditions controller arriving turn)
    (distinct : ((arriving ++ controller.trackers).map (·.ticket)).Nodup)
    (member : tracker ∈ arriving ++ controller.trackers) :
    Treats conditions tracker (share tracker.ticket turn.2) :=
  (List.mem_append.mp member).elim moves.treats_arriving (moves.treats_queued distinct)

end Controller

end OutboundSms
