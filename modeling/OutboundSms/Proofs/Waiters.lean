import OutboundSms.Bench.Holder
import Mathlib.Data.List.Induction

/-!
# Waiters

What becomes of the tasks attached to a holder. A holder knows no more than the last task
attached to its connection, and stops that one when it is cleared. So a task is stopped if it
was attached where there was nothing to wait for, or if the holder is cleared before another
task takes its place; one whose place is taken is never stopped.
-/

set_option autoImplicit false

namespace OutboundSms.Bench.HolderTrial

/-- What can be done with a holder. -/
inductive Operation where
  | setConnection (id : ConnectionId)
  | setWaiter
  | enqueue (request : PendingRequest)
  | takePending
  | finish
  | clear
  deriving DecidableEq

def perform (trial : HolderTrial) : Operation → HolderTrial
  | .setConnection id => trial.setConnection id
  | .setWaiter => trial.setWaiter
  | .enqueue request => { trial with holder := trial.holder.enqueue request }
  | .takePending => trial.takePending
  | .finish => trial.finish
  | .clear => trial.clear

/-- What a holder asserts before an operation: it takes no second connection, and gives none
up while something is queued. -/
def Asserts (trial : HolderTrial) : Operation → Prop
  | .setConnection _ => trial.holder.isVacant = true
  | .clear => trial.holder.isDrained = true
  | _ => True

/-- The courses of operations that keep to what a holder asserts. -/
inductive Run (trafficClass : TrafficClass) : List Operation → HolderTrial → Prop where
  | start : Run trafficClass [] { holder := { trafficClass } }
  | next {operations : List Operation} {trial : HolderTrial} {operation : Operation}
      (run : Run trafficClass operations trial) (asserted : trial.Asserts operation) :
      Run trafficClass (operations ++ [operation]) (trial.perform operation)

/-! ### Attachments in a course of operations -/

namespace Operation

/-- Whether a connection is held after an operation, where it was `held` before. -/
def holds (held : Bool) : Operation → Bool
  | setConnection _ => true
  | clear => false
  | _ => held

/-- Whether this settles what becomes of the task attached last. -/
def settles : Operation → Bool
  | setWaiter | clear => true
  | _ => false

end Operation

/-- Whether a connection is held after these operations. -/
def holding (operations : List Operation) : Bool :=
  operations.foldl Operation.holds false

/-- The number of tasks attached, and so of the one attached next. -/
def attached (operations : List Operation) : Nat :=
  operations.count .setWaiter

/-- Whether the holder is cleared before another task is attached. -/
def clearedFirst (later : List Operation) : Bool :=
  later.find? Operation.settles == some .clear

/-- Whether another task is attached before the holder is cleared. -/
def superseded (later : List Operation) : Bool :=
  later.find? Operation.settles == some .setWaiter

variable {trafficClass : TrafficClass} {operations before later : List Operation}
  {operation : Operation} {trial : HolderTrial}

theorem holding_concat (operations : List Operation) (operation : Operation) :
    holding (operations ++ [operation]) = operation.holds (holding operations) := by
  simp [holding]

theorem attached_concat (operations : List Operation) (operation : Operation) :
    attached (operations ++ [operation]) =
      attached operations + if operation = .setWaiter then 1 else 0 := by
  simp [attached, List.count_append, List.count_singleton]

theorem attached_lt (split : operations = before ++ .setWaiter :: later) :
    attached before < attached operations := by
  simp [split, attached, List.count_append]

theorem find?_settling (later : List Operation) (operation : Operation)
    (settling : operation.settles = true) :
    (later ++ [operation]).find? Operation.settles =
      (later.find? Operation.settles).or (some operation) := by
  simp [List.find?_append, settling]

theorem find?_unsettling (later : List Operation) (operation : Operation)
    (unsettling : operation.settles = false) :
    (later ++ [operation]).find? Operation.settles = later.find? Operation.settles := by
  simp [List.find?_append, unsettling]

/-- An attachment in a course of operations stands at its end or was there before its last
operation. -/
theorem split_concat (split : operations ++ [operation] = before ++ .setWaiter :: later) :
    (operation = .setWaiter ∧ before = operations ∧ later = []) ∨
      ∃ rest, operations = before ++ .setWaiter :: rest ∧ later = rest ++ [operation] := by
  rcases List.eq_nil_or_concat later with rfl | ⟨rest, last, rfl⟩
  · obtain ⟨same, last⟩ := List.append_inj' split rfl
    exact .inl ⟨by simpa using last, same.symm, rfl⟩
  · rw [List.concat_eq_append, ← List.cons_append, ← List.append_assoc] at split
    obtain ⟨same, ends⟩ := List.append_inj' split rfl
    simp only [List.cons.injEq, and_true] at ends
    exact .inr ⟨rest, same, by rw [ends, List.concat_eq_append]⟩

/-! ### Stopping -/

theorem holder_stop (trial : HolderTrial) (waiter : Option WaiterId) :
    (trial.stop waiter).holder = trial.holder := by
  cases waiter <;> rfl

theorem length_waiters_stop (trial : HolderTrial) (waiter : Option WaiterId) :
    (trial.stop waiter).waiters.length = trial.waiters.length := by
  cases waiter with
  | none => rfl
  | some waiter => exact List.length_set

theorem getElem?_waiters_stop (trial : HolderTrial) (waiter : Option WaiterId) (other : WaiterId) :
    (trial.stop waiter).waiters[other]? =
      if waiter = some other then trial.waiters[other]?.map fun _ => false
      else trial.waiters[other]? := by
  cases waiter with
  | none => rfl
  | some waiter =>
      by_cases same : waiter = other
      · subst same
        rw [if_pos rfl]
        exact List.getElem?_set_self'
      · rw [if_neg fun equal => same (Option.some.inj equal)]
        exact List.getElem?_set_ne same

theorem getElem?_waiters_clear (trial : HolderTrial) (waiter : WaiterId) :
    trial.clear.waiters[waiter]? =
      if trial.holder.active.bind (·.waiter) = some waiter then
        trial.waiters[waiter]?.map fun _ => false
      else trial.waiters[waiter]? :=
  getElem?_waiters_stop _ _ _

/-! ### What the holder knows -/

/-- The tasks by their numbers: which are alive, and which is the one the holder knows of. -/
structure Accounts (operations : List Operation) (trial : HolderTrial) : Prop where
  holds : trial.holder.active.isSome = holding operations
  length_eq : trial.waiters.length = attached operations
  known_iff : ∀ before later, operations = before ++ .setWaiter :: later →
    (trial.holder.active.bind (·.waiter) = some (attached before) ↔
      holding before = true ∧ later.find? Operation.settles = none)
  alive_eq : ∀ before later, operations = before ++ .setWaiter :: later →
    trial.waiters[attached before]? = some (holding before && !clearedFirst later)

namespace Accounts

theorem start : Accounts [] { holder := { trafficClass } } where
  holds := rfl
  length_eq := rfl
  known_iff before later split := by simp at split
  alive_eq before later split := by simp at split

/-- An operation that attaches nothing and clears nothing changes no task, and the holder knows
of the same one afterwards. -/
theorem quiet (accounts : Accounts operations trial) {after : HolderTrial}
    (unsettling : operation.settles = false)
    (held : after.holder.active.isSome = operation.holds trial.holder.active.isSome)
    (known : after.holder.active.bind (·.waiter) = trial.holder.active.bind (·.waiter))
    (waiters : after.waiters = trial.waiters) : Accounts (operations ++ [operation]) after := by
  have other : operation ≠ .setWaiter := by
    rintro rfl
    cases unsettling
  refine ⟨?_, ?_, ?_, ?_⟩
  · rw [held, holding_concat, accounts.holds]
  · simp [waiters, attached_concat, other, accounts.length_eq]
  · intro before later split
    obtain ⟨attaches, -⟩ | ⟨rest, earlier, rfl⟩ := split_concat split
    · exact absurd attaches other
    · rw [known, find?_unsettling rest _ unsettling]
      exact accounts.known_iff before rest earlier
  · intro before later split
    obtain ⟨attaches, -⟩ | ⟨rest, earlier, rfl⟩ := split_concat split
    · exact absurd attaches other
    · simp only [clearedFirst, waiters, find?_unsettling rest _ unsettling]
      exact accounts.alive_eq before rest earlier

/-- A task attached takes the place of the one before it, which is no longer known and stays as
it is. Without a connection it is stopped at once. -/
theorem attach (accounts : Accounts operations trial) :
    Accounts (operations ++ [.setWaiter]) trial.setWaiter := by
  have waiters : trial.setWaiter.waiters = trial.waiters ++ [holding operations] := by
    rw [← accounts.holds]
    cases held : trial.holder.active <;>
      simp [setWaiter, ConnectionHolder.setWaiter, held, stop]
  have known : trial.setWaiter.holder.active.bind (·.waiter) =
      if holding operations then some (attached operations) else none := by
    rw [← accounts.holds, ← accounts.length_eq]
    cases held : trial.holder.active <;>
      simp [setWaiter, ConnectionHolder.setWaiter, held, stop]
  refine ⟨?_, ?_, ?_, ?_⟩
  · rw [holding_concat, ← accounts.holds]
    cases held : trial.holder.active <;>
      simp [setWaiter, ConnectionHolder.setWaiter, held, stop, Operation.holds]
  · simp [waiters, attached_concat, accounts.length_eq]
  · intro before later split
    rw [known]
    obtain ⟨-, rfl, rfl⟩ | ⟨rest, earlier, rfl⟩ := split_concat split
    · simp
    · have less := attached_lt earlier
      rw [find?_settling rest .setWaiter rfl]
      simp only [Option.or_eq_none_iff, reduceCtorEq, and_false, iff_false]
      split
      · simp only [Option.some.injEq]
        omega
      · nofun
  · intro before later split
    rw [waiters]
    obtain ⟨-, rfl, rfl⟩ | ⟨rest, earlier, rfl⟩ := split_concat split
    · simp [← accounts.length_eq, clearedFirst]
    · have less := attached_lt earlier
      rw [List.getElem?_append_left (by rw [accounts.length_eq]; exact less),
        accounts.alive_eq before rest earlier]
      simp only [clearedFirst, find?_settling rest .setWaiter rfl]
      cases rest.find? Operation.settles <;> simp

/-- The task that the holder knows of is stopped when it is cleared, and no other. -/
theorem release (accounts : Accounts operations trial) :
    Accounts (operations ++ [.clear]) trial.clear := by
  have vacant : trial.clear.holder.active = none := by
    rw [clear, holder_stop]
    rfl
  refine ⟨?_, ?_, ?_, ?_⟩
  · rw [vacant, holding_concat]
    rfl
  · rw [clear, length_waiters_stop]
    simp [attached_concat, accounts.length_eq]
  · intro before later split
    obtain ⟨attaches, -⟩ | ⟨rest, earlier, rfl⟩ := split_concat split
    · cases attaches
    · rw [vacant, find?_settling rest .clear rfl]
      simp
  · intro before later split
    obtain ⟨attaches, -⟩ | ⟨rest, earlier, rfl⟩ := split_concat split
    · cases attaches
    · have alive := accounts.alive_eq before rest earlier
      have known_iff := accounts.known_iff before rest earlier
      rw [getElem?_waiters_clear, alive, clearedFirst, clearedFirst,
        find?_settling rest .clear rfl]
      by_cases isKnown : trial.holder.active.bind (·.waiter) = some (attached before)
      · obtain ⟨held, unsettled⟩ := known_iff.mp isKnown
        simp [isKnown, unsettled]
      · cases first : rest.find? Operation.settles with
        | none => simp_all
        | some settling => simp [isKnown]

end Accounts

theorem Run.accounts (run : Run trafficClass operations trial) : Accounts operations trial := by
  induction run with
  | start => exact .start
  | @next operations trial operation run asserted accounts =>
      cases operation with
      | setConnection id =>
          -- A connection is taken only where none is held, so no task is lost from sight.
          have vacant : trial.holder.active = none := Option.isNone_iff_eq_none.mp asserted
          exact accounts.quiet rfl rfl (by rw [vacant]; rfl) rfl
      | setWaiter => exact accounts.attach
      | enqueue request => exact accounts.quiet rfl rfl rfl rfl
      | takePending => exact accounts.quiet rfl rfl rfl rfl
      | finish =>
          have same : trial.finish.holder = trial.holder ∧
              trial.finish.waiters = trial.waiters := by
            unfold finish
            split <;> exact ⟨rfl, rfl⟩
          exact accounts.quiet rfl (congrArg (·.active.isSome) same.1)
            (congrArg (·.active.bind (·.waiter)) same.1) same.2
      | clear => exact accounts.release

theorem exists_attachment (operations : List Operation) {waiter : Nat}
    (among : waiter < attached operations) :
    ∃ before later, operations = before ++ .setWaiter :: later ∧ attached before = waiter := by
  induction operations using List.reverseRecOn with
  | nil => cases among
  | append_singleton operations operation ih =>
      rw [attached_concat] at among
      by_cases earlier : waiter < attached operations
      · obtain ⟨before, later, rfl, numbered⟩ := ih earlier
        exact ⟨before, later ++ [operation], by simp, numbered⟩
      · split at among
        · rename_i attaches
          exact ⟨operations, [], by rw [attaches], by omega⟩
        · omega

/-- Once no connection is held, whatever was attached to one has been settled. -/
theorem Accounts.clearedFirst_eq (accounts : Accounts operations trial)
    (vacant : trial.holder.isVacant = true) (split : operations = before ++ .setWaiter :: later)
    (held : holding before = true) : clearedFirst later = !superseded later := by
  have none : trial.holder.active = none := Option.isNone_iff_eq_none.mp vacant
  have known_iff := accounts.known_iff before later split
  cases first : later.find? Operation.settles with
  | none => simp_all
  | some settling =>
      have settles := List.find?_some first
      simp only [clearedFirst, superseded, first]
      cases settling <;> first | rfl | cases settles

/-- A task attached to a holder is stopped at once if no connection is held, and otherwise when
the holder is cleared before another task is attached; in every other case it is alive. So all
tasks have been stopped by the time that no connection is held if and only if none of them was
superseded: the holder forgets a task whose place is taken, and never stops it. -/
theorem Run.waiter_alive_iff (run : Run trafficClass operations trial) :
    trial.waiters.length = attached operations ∧
      (∀ before later, operations = before ++ .setWaiter :: later →
        (trial.waiters[attached before]? = some true ↔
          holding before = true ∧ clearedFirst later = false)) ∧
      (trial.holder.isVacant = true →
        (true ∉ trial.waiters ↔
          ∀ before later, operations = before ++ .setWaiter :: later →
            holding before = true → superseded later = false)) := by
  have accounts := run.accounts
  have alive_iff : ∀ before later, operations = before ++ .setWaiter :: later →
      (trial.waiters[attached before]? = some true ↔
        holding before = true ∧ clearedFirst later = false) := by
    intro before later split
    rw [accounts.alive_eq before later split]
    simp
  refine ⟨accounts.length_eq, alive_iff, fun vacant => ⟨?_, ?_⟩⟩
  · intro stopped before later split held
    by_contra taken
    have cleared := accounts.clearedFirst_eq vacant split held
    rw [Bool.not_eq_false] at taken
    rw [taken] at cleared
    exact stopped (List.mem_of_getElem? ((alive_iff before later split).mpr ⟨held, cleared⟩))
  · intro unsuperseded alive
    obtain ⟨waiter, isAlive⟩ := List.mem_iff_getElem?.mp alive
    have among : waiter < attached operations := by
      rw [← accounts.length_eq]
      exact (List.getElem?_eq_some_iff.mp isAlive).1
    obtain ⟨before, later, split, rfl⟩ := exists_attachment operations among
    obtain ⟨held, uncleared⟩ := (alive_iff before later split).mp isAlive
    have settled := accounts.clearedFirst_eq vacant split held
    rw [uncleared, unsuperseded before later split held] at settled
    cases settled

/-- Two tasks are attached to one connection, which is then let go. -/
def replacing : List Operation :=
  [.setConnection { number := 1 }, .setWaiter, .setWaiter, .clear]

def replaced : HolderTrial where
  holder := { trafficClass := .normal }
  waiters := [true, false]

theorem replacing_run : Run .normal replacing replaced := by
  have fresh : Run .normal [] { holder := { trafficClass := .normal } } := .start
  have opened := @Run.next _ _ _ (.setConnection { number := 1 }) fresh rfl
  have first := @Run.next _ _ _ .setWaiter opened trivial
  have second := @Run.next _ _ _ .setWaiter first trivial
  exact @Run.next _ _ _ .clear second rfl

/-- The first of the two is alive when no connection is held any more. -/
theorem replaced_waiter_alive :
    replaced.holder.isVacant = true ∧ replaced.waiters[0]? = some true ∧
      ¬ ∀ before later, replacing = before ++ .setWaiter :: later →
        holding before = true → superseded later = false := by
  obtain ⟨-, alive_iff, stopped_iff⟩ := replacing_run.waiter_alive_iff
  have alive := (alive_iff [.setConnection { number := 1 }] [.setWaiter, .clear] rfl).mpr ⟨rfl, rfl⟩
  refine ⟨rfl, alive, ?_⟩
  intro unsuperseded
  exact (stopped_iff rfl).mpr unsuperseded (List.mem_of_getElem? alive)

end OutboundSms.Bench.HolderTrial
