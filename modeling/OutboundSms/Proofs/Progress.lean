import OutboundSms.Proofs.Settlement

/-!
# Nothing is left lying

While there are commands, somebody is at work on them or about to be, and while a class
selects, something is under way that brings the selection to its end. So a ledger with
nothing left to do has settled everything.
-/

set_option autoImplicit false

namespace OutboundSms.Bench

variable {config : SimulatorConfig} {ledger after : Ledger}

/-! ### Commands -/

/-- Where there is a command, somebody is at work. -/
def Ledger.Attended (ledger : Ledger) : Prop :=
  ∀ command, .command command ∈ ledger.matters → Awake ledger.matters

theorem Awake.mono {few many : Multiset Matter} (awake : Awake few) (subset : few ⊆ many) :
    Awake many :=
  awake.imp fun _ found => ⟨subset found.1, found.2⟩

theorem Awake.of_cons {matter : Matter} {rest : Multiset Matter}
    (awake : Awake (matter ::ₘ rest)) (idle : matter.serves = false) : Awake rest := by
  obtain ⟨other, member, serves⟩ := awake
  rcases Multiset.mem_cons.mp member with rfl | member
  · rw [idle] at serves
    cases serves
  · exact ⟨other, member, serves⟩

theorem Posts.attended {command : Command} {rest made : Multiset Matter}
    (posts : Posts command rest made) : Awake made := by
  cases posts with
  | woken => exact ⟨.errand .serve 0, by simp, rfl⟩
  | awake awake => exact awake.mono (Multiset.subset_cons _ _)

theorem Posts.subset {command : Command} {rest made : Multiset Matter}
    (posts : Posts command rest made) : rest ⊆ made := by
  cases posts with
  | woken => exact fun _ member => Multiset.mem_cons_of_mem (Multiset.mem_cons_of_mem member)
  | awake => exact Multiset.subset_cons _ _

theorem Posts.mem {command : Command} {rest made : Multiset Matter}
    (posts : Posts command rest made) : .command command ∈ made := by
  cases posts <;> exact Multiset.mem_cons_self _ _

namespace Ledger

/-- A matter that nobody waits for to be at work can be dealt with. -/
theorem Attended.of_rest (attended : ledger.Attended) {matter : Matter} {rest : Multiset Matter}
    (there : ledger.matters = matter ::ₘ rest) (idle : matter.serves = false)
    (kept : ∀ other ∈ rest, other.serves = true → other ∈ after.matters)
    (old : ∀ command, .command command ∈ after.matters → .command command ∈ rest) :
    after.Attended := by
  intro command member
  have awake := attended command (there ▸ Multiset.mem_cons_of_mem (old command member))
  obtain ⟨other, among, serves⟩ := (there ▸ awake).of_cons idle
  exact ⟨other, kept other among serves, serves⟩

/-- Every step leaves somebody at work while there are commands. -/
theorem Attended.step (attended : ledger.Attended) (step : ledger.Step config after) :
    after.Attended := by
  cases step with
  | neared there =>
      intro command member
      obtain ⟨other, among, serves⟩ := attended command (by rw [there]; simpa using member)
      rw [there] at among
      rcases Multiset.mem_cons.mp among with rfl | among
      · exact ⟨_, Multiset.mem_cons_self _ _, serves⟩
      · exact ⟨other, Multiset.mem_cons_of_mem among, serves⟩
  | served there => exact fun _ _ => ⟨.handling, Multiset.mem_cons_self _ _, rfl⟩
  | rested there idle => exact fun command member => (idle command member).elim
  | reported there reaction short posts | handedBack there posts | decided there found posts
  | posted there ends posts => exact fun _ _ => posts.attended
  | completed there | launched there | joined there | ignored ends there | answered there
  | accepted there | repeated there | returned there | confirmed there | asked there
  | parked there =>
      refine attended.of_rest there rfl (fun other member _ => ?_) fun command member => ?_
      · simp [member]
      · simpa using member
  | opened there routes vacant next own script unanswered going present awaits =>
      refine attended.of_rest there rfl (fun other member _ => by simp [member])
        fun command member => ?_
      cases awaits <;> simpa using member
  | drained ends there current going launches waking =>
      refine attended.of_rest there rfl (fun other member serves => ?_) fun command member => ?_
      · rcases Multiset.mem_add.mp member with waited | member
        · obtain ⟨departure, -, rfl⟩ := Multiset.mem_map.mp waited
          cases serves
        · simp [member]
      · refine Multiset.mem_add.mpr (.inr ?_)
        rcases waking with rfl | rfl <;> simpa [Departure.after] using member
  | dismissed there about =>
      refine attended.of_rest there ?_ (fun other member _ => member) fun command member => member
      rcases about with rfl | ⟨_, rfl⟩ <;> rfl

end Ledger

/-! ### Selections -/

def Errand.Ends (trafficClass : TrafficClass) (connection : ConnectionId) : Errand → Prop
  | .post command => command.Ends trafficClass connection
  | _ => False

/-- The matter is the end of the selection, or leads to it by itself. -/
def Matter.Ends (trafficClass : TrafficClass) (connection : ConnectionId) : Matter → Prop
  | .command queued => queued.Ends trafficClass connection
  | .errand work _ => work.Ends trafficClass connection
  | _ => False

def Errand.Asks (config : SimulatorConfig) (connection : ConnectionId) : Errand → Prop
  | .awaitDecision other => other = connection ∧ config.answer? ≠ none
  | .decide other _ => other = connection
  | _ => False

/-- The matter leads to the end of the selection as long as its waiter is there. -/
def Matter.Asks (config : SimulatorConfig) (connection : ConnectionId) : Matter → Prop
  | .errand work _ => work.Asks config connection
  | _ => False

/-- The conversation on the connection of a class goes on. -/
structure Talking (trafficClass : TrafficClass) (connection : ConnectionId)
    (talks : List Conversation) : Prop where
  held : ∃ talk ∈ talks, talk.connection = connection
  going : ∀ talk ∈ talks, talk.connection = connection →
    talk.trafficClass = trafficClass ∧ talk.stopping = false

/-- The waiter of the connection is there. -/
def Waiting (connection : ConnectionId) (talks : List Conversation) : Prop :=
  ∀ talk ∈ talks, talk.connection = connection → talk.isAttended = true

/-- The selection of a class will come to its end. -/
structure Ledger.Selecting (config : SimulatorConfig) (trafficClass : TrafficClass)
    (connection : ConnectionId) (ledger : Ledger) : Prop where
  talking : Talking trafficClass connection ledger.talks
  driven : (∃ matter ∈ ledger.matters, matter.Ends trafficClass connection) ∨
    (∃ matter ∈ ledger.matters, matter.Asks config connection) ∧ Waiting connection ledger.talks

/-- The selections under way are in order. -/
structure Ledger.Orderly (config : SimulatorConfig) (ledger : Ledger) : Prop where
  numbered : ∀ talk ∈ ledger.talks, talk.connection.number.toNat ≤ ledger.opened
  scripted : ∀ talk ∈ ledger.talks, talk.script = config.resolver ∧ talk.answer = .open
  selecting : ∀ trafficClass connection, ledger.current trafficClass = some connection →
    ledger.Selecting config trafficClass connection

theorem keeps_park : Keeps park :=
  ⟨fun _ => rfl, fun _ => rfl, fun _ => rfl, fun _ => rfl⟩

theorem keeps_finish : Keeps finish :=
  ⟨fun _ => rfl, fun _ => rfl, fun _ => rfl, fun _ => rfl⟩

theorem mem_modifyTalks {connection : ConnectionId} {change : Conversation → Conversation}
    {talks : List Conversation} {talk : Conversation} (keeps : Keeps change)
    (member : talk ∈ modifyTalks connection change talks) :
    ∃ old ∈ talks, talk.connection = old.connection ∧ talk.trafficClass = old.trafficClass ∧
      talk.script = old.script ∧ talk.answer = old.answer ∧
      (old.connection = connection ∧ talk = change old ∨
        old.connection ≠ connection ∧ talk = old) := by
  obtain ⟨old, among, rfl⟩ := List.mem_map.mp member
  refine ⟨old, among, ?_⟩
  by_cases same : old.connection = connection
  · simp [same, keeps.trafficClass_eq, keeps.script_eq, keeps.answer_eq, keeps.connection_eq]
  · simp [same]

section Talks

variable {trafficClass : TrafficClass} {connection other : ConnectionId}
  {change : Conversation → Conversation} {talks : List Conversation}

theorem Talking.modify (talking : Talking trafficClass connection talks) (keeps : Keeps change)
    (stays : other = connection → ∀ talk, (change talk).stopping = talk.stopping) :
    Talking trafficClass connection (modifyTalks other change talks) where
  held := by
    obtain ⟨talk, member, same⟩ := talking.held
    refine ⟨_, List.mem_map_of_mem member, ?_⟩
    split
    · rw [keeps.connection_eq, same]
    · exact same
  going := by
    intro talk member own
    obtain ⟨old, among, connection_eq, trafficClass_eq, -, -, changed⟩ :=
      mem_modifyTalks keeps member
    obtain ⟨class_eq, going⟩ := talking.going old among (connection_eq ▸ own)
    refine ⟨trafficClass_eq.trans class_eq, ?_⟩
    rcases changed with ⟨here, rfl⟩ | ⟨-, rfl⟩
    · rw [stays (here.symm.trans (connection_eq.symm.trans own)), going]
    · exact going

theorem Waiting.modify_of_ne (waiting : Waiting connection talks) (keeps : Keeps change)
    (different : other ≠ connection) : Waiting connection (modifyTalks other change talks) := by
  intro talk member own
  obtain ⟨old, among, connection_eq, -, -, -, changed⟩ := mem_modifyTalks keeps member
  rcases changed with ⟨here, -⟩ | ⟨-, rfl⟩
  · exact absurd (here.symm.trans (connection_eq.symm.trans own)) different
  · exact waiting talk among own

/-- A waiter that is parked is there. -/
theorem Waiting.park (waiting : Waiting connection talks) :
    Waiting connection (modifyTalks other park talks) := by
  intro talk member own
  obtain ⟨old, among, connection_eq, -, -, -, changed⟩ := mem_modifyTalks keeps_park member
  rcases changed with ⟨-, rfl⟩ | ⟨-, rfl⟩
  · rfl
  · exact waiting talk among own

variable {talk begun : Conversation}

theorem mem_of_mem_concat (different : begun.connection ≠ connection)
    (member : talk ∈ talks ++ [begun]) (same : talk.connection = connection) : talk ∈ talks := by
  rcases List.mem_append.mp member with old | new
  · exact old
  · obtain rfl := List.mem_singleton.mp new
    exact absurd same different

/-- A conversation that has just begun is the only one on its connection. -/
theorem eq_of_mem_concat (fresh : ∀ other ∈ talks, other.connection ≠ begun.connection)
    (member : talk ∈ talks ++ [begun]) (same : talk.connection = begun.connection) :
    talk = begun := by
  rcases List.mem_append.mp member with old | new
  · exact absurd same (fresh talk old)
  · exact List.mem_singleton.mp new

theorem Talking.concat (talking : Talking trafficClass connection talks)
    (different : begun.connection ≠ connection) :
    Talking trafficClass connection (talks ++ [begun]) where
  held := by
    obtain ⟨talk, member, same⟩ := talking.held
    exact ⟨talk, List.mem_append_left _ member, same⟩
  going talk member same :=
    talking.going talk (mem_of_mem_concat different member same) same

theorem Waiting.concat (waiting : Waiting connection talks)
    (different : begun.connection ≠ connection) : Waiting connection (talks ++ [begun]) :=
  fun talk member same => waiting talk (mem_of_mem_concat different member same) same

end Talks

namespace Ledger

variable {trafficClass : TrafficClass} {connection : ConnectionId}

/-- A selection goes on where what leads to its end is kept. -/
theorem Selecting.of_kept (selecting : ledger.Selecting config trafficClass connection)
    {matter : Matter} {rest : Multiset Matter} (there : ledger.matters = matter ::ₘ rest)
    (kept : ∀ other ∈ rest, other.Ends trafficClass connection ∨ other.Asks config connection →
      other ∈ after.matters)
    (ends : matter.Ends trafficClass connection →
      ∃ other ∈ after.matters, other.Ends trafficClass connection)
    (asks : matter.Asks config connection → ∃ other ∈ after.matters, other.Asks config connection)
    (talking : Talking trafficClass connection after.talks)
    (waiting : Waiting connection ledger.talks → Waiting connection after.talks) :
    after.Selecting config trafficClass connection := by
  refine ⟨talking, selecting.driven.imp ?_ (.imp ?_ waiting)⟩
  · rintro ⟨other, member, there'⟩
    rw [there] at member
    rcases Multiset.mem_cons.mp member with rfl | member
    · exact ends there'
    · exact ⟨other, kept other member (.inl there'), there'⟩
  · rintro ⟨other, member, there'⟩
    rw [there] at member
    rcases Multiset.mem_cons.mp member with rfl | member
    · exact asks there'
    · exact ⟨other, kept other member (.inr there'), there'⟩

theorem Orderly.of_rest (orderly : ledger.Orderly config) {matter : Matter}
    {rest : Multiset Matter} (there : ledger.matters = matter ::ₘ rest)
    (talks : after.talks = ledger.talks) (current : after.current = ledger.current)
    (opened : after.opened = ledger.opened)
    (kept : ∀ other ∈ rest, other ∈ after.matters)
    (ends : ∀ trafficClass connection, ledger.current trafficClass = some connection →
      matter.Ends trafficClass connection →
        ∃ other ∈ after.matters, other.Ends trafficClass connection)
    (asks : ∀ connection, matter.Asks config connection →
      ∃ other ∈ after.matters, other.Asks config connection) :
    after.Orderly config where
  numbered := by rw [talks, opened]; exact orderly.numbered
  scripted := by rw [talks]; exact orderly.scripted
  selecting := by
    intro trafficClass connection selected
    rw [current] at selected
    have selecting := orderly.selecting trafficClass connection selected
    refine selecting.of_kept there (fun other member _ => kept other member)
      (ends trafficClass connection selected) (asks connection) ?_ ?_
    · rw [talks]; exact selecting.talking
    · rw [talks]; exact id

theorem numbered_modify (orderly : ledger.Orderly config) {change : Conversation → Conversation}
    (keeps : Keeps change) (connection : ConnectionId) :
    (∀ talk ∈ modifyTalks connection change ledger.talks,
      talk.connection.number.toNat ≤ ledger.opened) ∧
    ∀ talk ∈ modifyTalks connection change ledger.talks,
      talk.script = config.resolver ∧ talk.answer = .open := by
  constructor
  · intro talk member
    obtain ⟨old, among, same, -⟩ := mem_modifyTalks keeps member
    exact same ▸ orderly.numbered old among
  · intro talk member
    obtain ⟨old, among, -, -, script, answer, -⟩ := mem_modifyTalks keeps member
    obtain ⟨scripted, unanswered⟩ := orderly.scripted old among
    exact ⟨script.trans scripted, answer.trans unanswered⟩

/-- A conversation changes that no selection ends with. -/
theorem Orderly.of_modify (orderly : ledger.Orderly config)
    {change : Conversation → Conversation} (keeps : Keeps change)
    (talks : after.talks = modifyTalks connection change ledger.talks)
    (current : after.current = ledger.current) (opened : after.opened = ledger.opened)
    (goes : ∀ trafficClass other, ledger.Selecting config trafficClass other →
      after.Selecting config trafficClass other) : after.Orderly config where
  numbered := by rw [talks, opened]; exact (numbered_modify orderly keeps connection).1
  scripted := by rw [talks]; exact (numbered_modify orderly keeps connection).2
  selecting := by
    intro trafficClass other selected
    rw [current] at selected
    exact goes trafficClass other (orderly.selecting trafficClass other selected)

/-- Two classes never select on one connection, because a conversation has one class. -/
theorem Orderly.connection_ne (orderly : ledger.Orderly config) {other : TrafficClass}
    {another : ConnectionId} (current : ledger.current trafficClass = some connection)
    (selected : ledger.current other = some another) (different : other ≠ trafficClass) :
    connection ≠ another := by
  rintro rfl
  have selecting := (orderly.selecting other connection selected).talking
  obtain ⟨talk, member, same⟩ := selecting.held
  have one := (selecting.going talk member same).1
  have class_eq :=
    ((orderly.selecting trafficClass connection current).talking.going talk member same).1
  exact different (one.symm.trans class_eq)

theorem findTalk?_eq_some {connection : ConnectionId} {talks : List Conversation}
    {talk : Conversation} (found : findTalk? connection talks = some talk) :
    talk ∈ talks ∧ talk.connection = connection :=
  ⟨List.mem_of_find?_eq_some found, by simpa using List.find?_some found⟩

theorem exists_findTalk? {connection : ConnectionId} {talks : List Conversation}
    (held : ∃ talk ∈ talks, talk.connection = connection) :
    ∃ talk, findTalk? connection talks = some talk := by
  obtain ⟨talk, member, same⟩ := held
  exact Option.isSome_iff_exists.mp (List.find?_isSome.mpr ⟨talk, member, by simpa using same⟩)

/-- Every step keeps the selections in order. -/
theorem Orderly.step (orderly : ledger.Orderly config) (step : ledger.Step config after) :
    after.Orderly config := by
  cases step with
  | @neared rest work lead there =>
      refine orderly.of_rest there rfl rfl rfl (fun other member => Multiset.mem_cons_of_mem member)
        ?_ ?_
      · exact fun trafficClass connection _ ends => ⟨_, Multiset.mem_cons_self _ _, ends⟩
      · exact fun connection asks => ⟨_, Multiset.mem_cons_self _ _, asks⟩
  | served there | answered there | accepted there | repeated there | returned there =>
      exact orderly.of_rest there rfl rfl rfl (fun other member => Multiset.mem_cons_of_mem member)
        (fun _ _ _ ends => ends.elim) fun _ asks => asks.elim
  | rested there | confirmed there =>
      exact orderly.of_rest there rfl rfl rfl (fun other member => member)
        (fun _ _ _ ends => ends.elim) fun _ asks => asks.elim
  | completed there =>
      exact orderly.of_rest there rfl rfl rfl (fun other member => member)
        (fun _ _ _ ends => by cases ends) fun _ asks => asks.elim
  | launched there brings =>
      refine orderly.of_rest there rfl rfl rfl (fun other member => Multiset.mem_cons_of_mem member)
        (fun _ _ _ ends => ?_) fun _ asks => asks.elim
      rcases brings with routes | rfl
      · exact (routes.not_ends ends).elim
      · cases ends
  | joined there routes =>
      exact orderly.of_rest there rfl rfl rfl (fun other member => Multiset.mem_cons_of_mem member)
        (fun _ _ _ ends => (routes.not_ends ends).elim) fun _ asks => asks.elim
  | ignored own there stale =>
      refine orderly.of_rest there rfl rfl rfl (fun other member => member)
        (fun trafficClass connection selected ends => ?_) fun _ asks => asks.elim
      obtain ⟨rfl, rfl⟩ := own.unique ends
      exact absurd selected stale
  | reported there reaction short posts =>
      exact orderly.of_rest there rfl rfl rfl
        (fun other member => posts.subset (Multiset.mem_add.mpr (.inr member)))
        (fun _ _ _ ends => ends.elim) fun _ asks => asks.elim
  | handedBack there posts =>
      exact orderly.of_rest there rfl rfl rfl (fun other member => posts.subset member)
        (fun _ _ _ ends => ends.elim) fun _ asks => asks.elim
  | posted there own posts =>
      exact orderly.of_rest there rfl rfl rfl (fun other member => posts.subset member)
        (fun _ _ _ ends => ⟨_, posts.mem, ends⟩) fun _ asks => asks.elim
  | @opened rest command tracker talk waits there routes vacant next own script unanswered going
      attended awaits =>
      -- The new number is above all others, so nobody has talked on this connection before.
      have fresh (other : Conversation) (member : other ∈ ledger.talks) :
          other.connection ≠ talk.connection := by
        intro same
        have within := orderly.numbered other member
        rw [same, next] at within
        omega
      refine ⟨?_, ?_, ?_⟩
      · intro other member
        rcases List.mem_append.mp member with old | new
        · exact Nat.le_succ_of_le (orderly.numbered other old)
        · obtain rfl := List.mem_singleton.mp new
          exact next.le
      · intro other member
        rcases List.mem_append.mp member with old | new
        · exact orderly.scripted other old
        · obtain rfl := List.mem_singleton.mp new
          exact ⟨script, unanswered⟩
      · intro trafficClass connection selected
        change Function.update _ _ _ _ = _ at selected
        by_cases mine : trafficClass = tracker.trafficClass
        · subst mine
          rw [Function.update_self] at selected
          obtain rfl := Option.some.inj selected
          refine ⟨⟨⟨talk, by simp, rfl⟩, fun other member same => ?_⟩, ?_⟩
          · obtain rfl := eq_of_mem_concat fresh member same
            exact ⟨own, going⟩
          · cases awaits with
            | answer answered =>
                refine .inr
                  ⟨⟨.errand (.awaitDecision talk.connection) 0, by simp, rfl, answered⟩, ?_⟩
                intro other member same
                obtain rfl := eq_of_mem_concat fresh member same
                exact attended
            | @termination cause lead short =>
                exact .inl ⟨.errand (.post (.selectionTerminated tracker.trafficClass
                  talk.connection cause)) lead, by simp, .terminated cause⟩
        · rw [Function.update_of_ne mine] at selected
          have selecting := orderly.selecting trafficClass connection selected
          obtain ⟨held, among, same⟩ := selecting.talking.held
          have apart : talk.connection ≠ connection := fun equal =>
            fresh held among (same.trans equal.symm)
          exact selecting.of_kept there (fun other member _ => by simp [member])
            (fun ends => (routes.not_ends ends).elim) (fun asks => asks.elim)
            (selecting.talking.concat apart) fun waiting => waiting.concat apart
  | @drained rest command ended connection woken change departures own there current going launches
      waking keeps stops =>
      obtain ⟨numbered, scripted⟩ := numbered_modify orderly keeps connection
      refine ⟨numbered, scripted, fun trafficClass other selected => ?_⟩
      change Function.update _ _ _ _ = _ at selected
      by_cases mine : trafficClass = ended
      · subst mine
        rw [Function.update_self] at selected
        cases selected
      · rw [Function.update_of_ne mine] at selected
        have selecting := orderly.selecting trafficClass other selected
        have apart : connection ≠ other := orderly.connection_ne current selected mine
        refine selecting.of_kept there ?_ (fun ends => ?_) (fun asks => asks.elim) ?_ ?_
        · intro matter member drives
          rcases Multiset.mem_add.mp member with waited | member
          · obtain ⟨departure, -, rfl⟩ := Multiset.mem_map.mp waited
            exact drives.elim False.elim False.elim
          · simp [member]
        · exact absurd (own.unique ends).1 mine
        · exact selecting.talking.modify keeps fun same => absurd same apart
        · exact fun waiting => waiting.modify_of_ne keeps apart
  | @asked rest connection result lead there answered =>
      refine orderly.of_modify keeps_park rfl rfl rfl fun trafficClass other selecting => ?_
      exact selecting.of_kept there (fun matter member _ => Multiset.mem_cons_of_mem member)
        (fun ends => ends.elim) (fun asks => ⟨_, Multiset.mem_cons_self _ _, asks.1⟩)
        (selecting.talking.modify keeps_park fun _ _ => rfl) .park
  | @parked rest connection there unanswered =>
      refine orderly.of_modify keeps_park rfl rfl rfl fun trafficClass other selecting => ?_
      exact selecting.of_kept there (fun matter member _ => member) (fun ends => ends.elim)
        (fun asks => absurd unanswered asks.2)
        (selecting.talking.modify keeps_park fun _ _ => rfl) .park
  | @decided rest connection result talk made there found posts =>
      refine orderly.of_modify keeps_finish rfl rfl rfl fun trafficClass other selecting => ?_
      have talking : Talking trafficClass other (modifyTalks connection finish ledger.talks) :=
        selecting.talking.modify keeps_finish fun _ _ => rfl
      by_cases mine : connection = other
      · subst mine
        obtain ⟨member, same⟩ := findTalk?_eq_some found
        obtain ⟨rfl, -⟩ := selecting.talking.going talk member same
        exact ⟨talking, .inl ⟨_, posts.mem, .completed result⟩⟩
      · exact selecting.of_kept there (fun matter member _ => posts.subset member)
          (fun ends => ends.elim) (fun asks => absurd asks mine) talking
          fun waiting => waiting.modify_of_ne keeps_finish mine
  | @dismissed rest work connection there about gone =>
      refine orderly.of_modify keeps_finish rfl rfl rfl fun trafficClass other selecting => ?_
      have talking : Talking trafficClass other (modifyTalks connection finish ledger.talks) :=
        selecting.talking.modify keeps_finish fun _ _ => rfl
      have endless : ¬ work.Ends trafficClass other := by
        rcases about with rfl | ⟨_, rfl⟩ <;> exact id
      by_cases mine : connection = other
      · subst mine
        -- The selection goes on and its waiter found no reason to pass anything on, so the
        -- waiter had been given up, and something else ends the selection.
        obtain ⟨talk, found⟩ := exists_findTalk? selecting.talking.held
        obtain ⟨member, same⟩ := findTalk?_eq_some found
        have going := (selecting.talking.going talk member same).2
        refine ⟨talking, .inl ?_⟩
        rcases selecting.driven with ⟨matter, among, ends⟩ | ⟨-, waiting⟩
        · rw [there] at among
          rcases Multiset.mem_cons.mp among with rfl | among
          · exact absurd ends endless
          · exact ⟨matter, among, ends⟩
        · rcases gone talk found with stopping | unattended
          · rw [going] at stopping
            cases stopping
          · rw [waiting talk member same] at unattended
            cases unattended
      · have askless : ¬ work.Asks config other := by
          rcases about with rfl | ⟨_, rfl⟩
          · exact fun asks => mine asks.1
          · exact fun asks => mine asks
        exact selecting.of_kept there (fun matter member _ => member)
          (fun ends => absurd ends endless) (fun asks => absurd asks askless) talking
          fun waiting => waiting.modify_of_ne keeps_finish mine

/-- All that a ledger of a simulation keeps to. There is always room for the numbers of
the connections that may still be opened. -/
structure Kept (config : SimulatorConfig) (ledger : Ledger) : Prop where
  sound : ledger.Sound config
  attended : ledger.Attended
  orderly : ledger.Orderly config
  room : Tariff.openings.cost ledger < UInt64.size

theorem Kept.step (kept : ledger.Kept config) (step : ledger.Step config after) :
    after.Kept config where
  sound := kept.sound.step step
  attended := kept.attended.step step
  orderly := kept.orderly.step step
  room := Nat.lt_of_le_of_lt (Tariff.cost_step Tariff.openings_fair step) kept.room

end Ledger

end OutboundSms.Bench
