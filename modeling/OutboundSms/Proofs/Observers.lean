import OutboundSms.Registrants
import Mathlib.Data.List.Basic

/-!
# Observers

What each subscriber to a stream of values gets to see. Whatever is done with a list of
subscribers, an operation matters to one of them in few ways: it puts a value on its
receiver, takes what is there away, or ends its service. Subscriptions and
notifications meant for others go past it, so its stream is a stretch of what was
notified.
-/

set_option autoImplicit false

namespace OutboundSms.Registrants

variable {α : Type}

/-- What can be done with a list of subscribers. The receiving end of a subscription may
be `read` to the last value or given up. -/
inductive Operation (α : Type) where
  | subscribe
  | unsubscribe (id : Nat)
  | notify (value : α)
  | abandon (id : Nat)
  | read (id : Nat)

namespace Operation

def notified? : Operation α → Option α
  | notify value => some value
  | _ => none

/-- Whether nothing reaches the receiver of `id` after this. -/
def ends (id : Nat) : Operation α → Bool
  | unsubscribe other | abandon other => other == id
  | _ => false

end Operation

/-- The values notified, oldest first. -/
def notified (operations : List (Operation α)) : List α :=
  operations.filterMap (·.notified?)

theorem notified_cons (operation : Operation α) (rest : List (Operation α)) :
    notified (operation :: rest) = operation.notified?.toList ++ notified rest := by
  cases named : operation.notified? <;> simp [notified, named]

def perform (registrants : Registrants α) : Operation α → Registrants α
  | .subscribe => registrants.subscribe
  | .unsubscribe id => registrants.unsubscribe id
  | .notify value => registrants.notify value
  | .abandon id => registrants.abandon id
  | .read id => registrants.markRead id

def performAll (registrants : Registrants α) (operations : List (Operation α)) : Registrants α :=
  operations.foldl perform registrants

/-- What becomes of a new list of subscribers. -/
def run (operations : List (Operation α)) : Registrants α :=
  performAll {} operations

def unread (registrants : Registrants α) (id : Nat) : List α :=
  (registrants.unread? id).getD []

/-- What an operation puts on a receiver: what is there then and was not there before. -/
def arriving (id : Nat) (registrants : Registrants α) (operation : Operation α) : List α :=
  ((registrants.perform operation).unread id).drop (registrants.unread id).length

/-- What an operation takes off a receiver: whoever reads it gets all that is there, and
what is there when the receiver is given up is lost. -/
def leaving (id : Nat) (registrants : Registrants α) : Operation α → List α
  | .read other | .abandon other => if other = id then registrants.unread id else []
  | _ => []

/-- What a course of operations does step by step, put together. -/
def gather (effect : Registrants α → Operation α → List α) :
    Registrants α → List (Operation α) → List α
  | _, [] => []
  | registrants, operation :: rest =>
      effect registrants operation ++ gather effect (registrants.perform operation) rest

/-- What has been put on the receiver of `id` since the list was new. -/
def arrived (id : Nat) (operations : List (Operation α)) : List α :=
  gather (arriving id) {} operations

/-- What has been taken off the receiver of `id` since the list was new. -/
def departed (id : Nat) (operations : List (Operation α)) : List α :=
  gather (leaving id) {} operations

theorem performAll_append (registrants : Registrants α) (first second : List (Operation α)) :
    registrants.performAll (first ++ second) = (registrants.performAll first).performAll second :=
  List.foldl_append

theorem run_append (first second : List (Operation α)) :
    run (first ++ second) = (run first).performAll second :=
  performAll_append ..

theorem gather_append (effect : Registrants α → Operation α → List α)
    (registrants : Registrants α) (first second : List (Operation α)) :
    gather effect registrants (first ++ second) =
      gather effect registrants first ++ gather effect (registrants.performAll first) second := by
  induction first generalizing registrants with
  | nil => rfl
  | cons operation rest ih =>
      rw [List.cons_append, gather, gather, ih, List.append_assoc]
      rfl

/-! ### One operation -/

variable {registrants : Registrants α} {id other : Nat}

/-- Whether values that are notified reach the receiver of `id`. -/
def serves (registrants : Registrants α) (id : Nat) : Bool :=
  registrants.isRegistered id && registrants.isListening id

section Subscribe

@[simp] theorem nextId_subscribe : registrants.subscribe.nextId = registrants.nextId + 1 := by
  simp [nextId, subscribe]

@[simp] theorem isRegistered_subscribe :
    registrants.subscribe.isRegistered id =
      (registrants.isRegistered id || id == registrants.nextId) := by
  simp [isRegistered, subscribe, List.contains_eq_mem, Bool.beq_eq_decide_eq]

theorem mailboxes_subscribe :
    registrants.subscribe.mailboxes[id]? =
      if id = registrants.nextId then
        some { values := registrants.last.toList, listening := true }
      else registrants.mailboxes[id]? := by
  rcases Nat.lt_trichotomy id registrants.nextId with earlier | rfl | later
  · rw [if_neg (Nat.ne_of_lt earlier)]
    exact List.getElem?_append_left earlier
  · rw [if_pos rfl]
    exact List.getElem?_concat_length
  · rw [if_neg (Nat.ne_of_gt later)]
    simp only [subscribe, nextId] at later ⊢
    rw [List.getElem?_eq_none (by simp; omega), List.getElem?_eq_none (by omega)]

@[simp] theorem isListening_subscribe :
    registrants.subscribe.isListening id =
      (registrants.isListening id || id == registrants.nextId) := by
  by_cases same : id = registrants.nextId <;> simp [isListening, mailboxes_subscribe, same]

end Subscribe

theorem isListening_of_unissued (unissued : registrants.nextId ≤ id) :
    registrants.isListening id = false := by
  simp [isListening, List.getElem?_eq_none unissued]

@[simp] theorem unread_nextId : registrants.unread registrants.nextId = [] := by
  simp [unread, unread?, nextId]

@[simp] theorem unread_subscribe :
    registrants.subscribe.unread id =
      if id = registrants.nextId then registrants.last.toList else registrants.unread id := by
  by_cases same : id = registrants.nextId <;> simp [unread, unread?, mailboxes_subscribe, same]

section Unsubscribe

@[simp] theorem nextId_unsubscribe : (registrants.unsubscribe other).nextId = registrants.nextId :=
  rfl

@[simp] theorem isRegistered_unsubscribe :
    (registrants.unsubscribe other).isRegistered id =
      (registrants.isRegistered id && id != other) := by
  rw [Bool.eq_iff_iff]
  simp [isRegistered, unsubscribe]

@[simp] theorem isListening_unsubscribe :
    (registrants.unsubscribe other).isListening id = registrants.isListening id := rfl

@[simp] theorem unread_unsubscribe :
    (registrants.unsubscribe other).unread id = registrants.unread id := rfl

end Unsubscribe

section Notify

variable {value : α}

@[simp] theorem nextId_notify : (registrants.notify value).nextId = registrants.nextId := by
  simp [nextId, notify]

theorem mailboxes_notify :
    (registrants.notify value).mailboxes[id]? = registrants.mailboxes[id]?.map fun mailbox =>
      if registrants.isRegistered id && mailbox.listening then
        { mailbox with values := mailbox.values ++ [value] }
      else mailbox := by
  simp [notify, List.getElem?_mapIdx]

@[simp] theorem isRegistered_notify :
    (registrants.notify value).isRegistered id = registrants.serves id := by
  rw [Bool.eq_iff_iff]
  simp [isRegistered, serves, notify]

@[simp] theorem isListening_notify :
    (registrants.notify value).isListening id = registrants.isListening id := by
  simp only [isListening, mailboxes_notify]
  cases registrants.mailboxes[id]? with
  | none => rfl
  | some mailbox =>
      simp only [Option.map_some]
      split <;> rfl

@[simp] theorem unread_notify :
    (registrants.notify value).unread id =
      registrants.unread id ++ if registrants.serves id then [value] else [] := by
  cases there : registrants.mailboxes[id]? with
  | none => simp [unread, unread?, mailboxes_notify, serves, isListening, there]
  | some mailbox =>
      cases listening : mailbox.listening <;> cases registered : registrants.isRegistered id <;>
        simp [unread, unread?, mailboxes_notify, serves, isListening, there, listening, registered]

end Notify

section Receiver

theorem getElem?_modify_mailboxes (change : Mailbox α → Mailbox α) :
    (registrants.mailboxes.modify other change)[id]? =
      registrants.mailboxes[id]?.map fun mailbox =>
        if other = id then change mailbox else mailbox := by
  rw [List.getElem?_modify]
  split <;> simp

@[simp] theorem nextId_abandon : (registrants.abandon other).nextId = registrants.nextId := by
  simp [nextId, abandon]

@[simp] theorem isRegistered_abandon :
    (registrants.abandon other).isRegistered id = registrants.isRegistered id := rfl

@[simp] theorem isListening_abandon :
    (registrants.abandon other).isListening id = (registrants.isListening id && id != other) := by
  simp only [isListening, abandon, getElem?_modify_mailboxes]
  cases registrants.mailboxes[id]? <;> by_cases same : other = id <;> simp [same, Ne.symm]

@[simp] theorem unread_abandon :
    (registrants.abandon other).unread id =
      if other = id then [] else registrants.unread id := by
  simp only [unread, unread?, abandon, getElem?_modify_mailboxes]
  cases registrants.mailboxes[id]? <;> by_cases same : other = id <;> simp [same]

@[simp] theorem nextId_markRead : (registrants.markRead other).nextId = registrants.nextId := by
  simp [nextId, markRead]

@[simp] theorem isRegistered_markRead :
    (registrants.markRead other).isRegistered id = registrants.isRegistered id := rfl

@[simp] theorem isListening_markRead :
    (registrants.markRead other).isListening id = registrants.isListening id := by
  simp only [isListening, markRead, getElem?_modify_mailboxes]
  cases registrants.mailboxes[id]? <;> by_cases same : other = id <;> simp [same]

@[simp] theorem unread_markRead :
    (registrants.markRead other).unread id =
      if other = id then [] else registrants.unread id := by
  simp only [unread, unread?, markRead, getElem?_modify_mailboxes]
  rcases registrants.mailboxes[id]? with - | ⟨values, listening⟩
  · simp
  · cases listening <;> by_cases same : other = id <;> simp [same]

end Receiver

/-! ### One operation on one subscription -/

/-- Of what reaches a receiver and what is taken off it nothing is lost or made up. -/
theorem unread_perform (operation : Operation α) :
    registrants.unread id ++ arriving id registrants operation =
      leaving id registrants operation ++ (registrants.perform operation).unread id := by
  cases operation with
  | subscribe =>
      by_cases same : id = registrants.nextId <;> simp [arriving, leaving, perform, same]
  | unsubscribe other => simp [arriving, leaving, perform]
  | notify value => simp [arriving, leaving, perform]
  | abandon other | read other =>
      by_cases same : other = id <;> simp [arriving, leaving, perform, same]

theorem le_nextId_perform (operation : Operation α) :
    registrants.nextId ≤ (registrants.perform operation).nextId := by
  cases operation <;> simp [perform]

/-- A notification reaches a receiver that is served, and nothing else reaches it once it
is there. -/
theorem arriving_of_issued (issued : id < registrants.nextId) (operation : Operation α) :
    arriving id registrants operation =
      if registrants.serves id then operation.notified?.toList else [] := by
  have old : id ≠ registrants.nextId := Nat.ne_of_lt issued
  cases operation with
  | subscribe | unsubscribe => simp [arriving, perform, old, Operation.notified?]
  | notify value =>
      cases served : registrants.serves id <;>
        simp [arriving, perform, served, Operation.notified?]
  | abandon other | read other =>
      by_cases same : other = id <;> simp [arriving, perform, same, Operation.notified?]

theorem serves_perform (issued : id < registrants.nextId) (operation : Operation α) :
    (registrants.perform operation).serves id =
      (registrants.serves id && !operation.ends id) := by
  have old : (id == registrants.nextId) = false := beq_false_of_ne (Nat.ne_of_lt issued)
  cases operation with
  | subscribe => simp [serves, perform, Operation.ends, old]
  | unsubscribe other =>
      simp [serves, perform, Operation.ends, bne, Bool.and_right_comm, BEq.comm]
  | notify value => simp [serves, perform, Operation.ends]
  | abandon other => simp [serves, perform, Operation.ends, bne, Bool.and_assoc, BEq.comm]
  | read other => simp [serves, perform, Operation.ends]

/-- Nothing reaches a receiver before its subscription is made. -/
theorem arriving_of_unissued (operation : Operation α)
    (unissued : (registrants.perform operation).nextId ≤ id) :
    arriving id registrants operation = [] := by
  have before := Nat.le_trans (le_nextId_perform operation) unissued
  cases operation with
  | subscribe =>
      have old : id ≠ registrants.nextId := by
        simp only [perform, nextId_subscribe] at unissued
        omega
      simp [arriving, perform, old]
  | notify value => simp [arriving, perform, serves, isListening_of_unissued before]
  | unsubscribe => simp [arriving, perform]
  | abandon other | read other => by_cases same : other = id <;> simp [arriving, perform, same]

/-! ### Courses of operations -/

theorem le_nextId_performAll (registrants : Registrants α) (operations : List (Operation α)) :
    registrants.nextId ≤ (registrants.performAll operations).nextId := by
  induction operations generalizing registrants with
  | nil => exact Nat.le_refl _
  | cons operation rest ih => exact Nat.le_trans (le_nextId_perform operation) (ih _)

theorem unread_performAll (operations : List (Operation α)) :
    registrants.unread id ++ gather (arriving id) registrants operations =
      gather (leaving id) registrants operations ++
        (registrants.performAll operations).unread id := by
  induction operations generalizing registrants with
  | nil => simp [gather, performAll]
  | cons operation rest ih =>
      rw [gather, ← List.append_assoc, unread_perform, List.append_assoc, ih, gather,
        ← List.append_assoc]
      rfl

theorem gather_arriving_of_unissued (operations : List (Operation α))
    (unissued : (registrants.performAll operations).nextId ≤ id) :
    gather (arriving id) registrants operations = [] := by
  induction operations generalizing registrants with
  | nil => rfl
  | cons operation rest ih =>
      have first := Nat.le_trans (le_nextId_performAll _ rest) unissued
      rw [gather, arriving_of_unissued operation first, ih unissued, List.nil_append]

/-- What reaches a receiver that is there: everything that is notified until its
subscription ends, or nothing if that has ended already. -/
theorem gather_arriving_of_issued (issued : id < registrants.nextId)
    (operations : List (Operation α)) :
    gather (arriving id) registrants operations =
      if registrants.serves id then notified (operations.takeWhile (!·.ends id)) else [] := by
  induction operations generalizing registrants with
  | nil => simp [gather, notified]
  | cons operation rest ih =>
      have still := Nat.lt_of_lt_of_le issued (le_nextId_perform operation)
      rw [gather, arriving_of_issued issued, ih still, serves_perform issued]
      cases served : registrants.serves id with
      | false => simp
      | true =>
          cases ends : operation.ends id with
          | true =>
              have silent : operation.notified? = none := by
                cases operation <;> first | rfl | cases ends
              simp [ends, silent, notified]
          | false => simp [ends, notified_cons]

theorem isListening_performAll (issued : id < registrants.nextId)
    (operations : List (Operation α)) :
    (registrants.performAll operations).isListening id = true ↔
      registrants.isListening id = true ∧ .abandon id ∉ operations := by
  induction operations generalizing registrants with
  | nil => simp [performAll]
  | cons operation rest ih =>
      have old : (id == registrants.nextId) = false := beq_false_of_ne (Nat.ne_of_lt issued)
      refine (ih (Nat.lt_of_lt_of_le issued (le_nextId_perform operation))).trans ?_
      cases operation <;> simp [perform, old, and_assoc]

/-- A subscription stays on the list until it is taken off, or until a notification comes
after its receiver has been given up. -/
theorem isRegistered_performAll (issued : id < registrants.nextId)
    (operations : List (Operation α)) :
    (registrants.performAll operations).isRegistered id = true ↔
      registrants.isRegistered id = true ∧ .unsubscribe id ∉ operations ∧
        (∀ value, .notify value ∈ operations → registrants.isListening id = true) ∧
        ∀ value, ¬ [.abandon id, .notify value].Sublist operations := by
  induction operations generalizing registrants with
  | nil => simp [performAll]
  | cons operation rest ih =>
      have old : (id == registrants.nextId) = false := beq_false_of_ne (Nat.ne_of_lt issued)
      refine (ih (Nat.lt_of_lt_of_le issued (le_nextId_perform operation))).trans ?_
      cases operation with
      | subscribe => simp [perform, old, List.cons_sublist_cons']
      | unsubscribe other => simp [perform, List.cons_sublist_cons', and_assoc]
      | notify value =>
          -- a receiver that is gone is found gone here, so it has to be there now
          simp only [perform, isRegistered_notify, serves, isListening_notify, Bool.and_eq_true,
            List.mem_cons, reduceCtorEq, false_or, List.cons_sublist_cons', false_and, or_false]
          constructor
          · rintro ⟨⟨registered, listening⟩, kept, -, heard⟩
            exact ⟨registered, kept, fun _ _ => listening, heard⟩
          · rintro ⟨registered, kept, listening, heard⟩
            exact ⟨⟨registered, listening value (.inl rfl)⟩, kept,
              fun other later => listening other (.inr later), heard⟩
      | abandon other =>
          -- no notification may follow, or the subscription would not outlast it
          simp only [perform, isRegistered_abandon, isListening_abandon, Bool.and_eq_true,
            bne_iff_ne, List.mem_cons, List.cons_sublist_cons', List.singleton_sublist]
          grind
      | read other => simp [perform, List.cons_sublist_cons']

/-- The list names subscriptions that have been made, each once, in the order in which
they were made. -/
structure Orderly (registrants : Registrants α) : Prop where
  ascending : registrants.subscribers.Pairwise (· < ·)
  issued : ∀ id ∈ registrants.subscribers, id < registrants.nextId

theorem Orderly.perform (orderly : registrants.Orderly) (operation : Operation α) :
    (registrants.perform operation).Orderly := by
  obtain ⟨ascending, issued⟩ := orderly
  cases operation with
  | subscribe =>
      refine ⟨List.pairwise_append.mpr ⟨ascending, List.pairwise_singleton .., ?_⟩, ?_⟩
      · simpa using issued
      · intro id member
        simp only [Registrants.perform, nextId_subscribe]
        rcases List.mem_append.mp member with old | new
        · exact Nat.lt_succ_of_lt (issued id old)
        · exact List.mem_singleton.mp new ▸ Nat.lt_succ_self _
  | unsubscribe other =>
      exact ⟨ascending.filter _, fun id member => issued id (List.mem_of_mem_filter member)⟩
  | notify value =>
      refine ⟨ascending.filter _, fun id member => ?_⟩
      simpa [Registrants.perform] using issued id (List.mem_of_mem_filter member)
  | abandon other | read other =>
      exact ⟨ascending, fun id member => by simpa [Registrants.perform] using issued id member⟩

theorem Orderly.performAll (orderly : registrants.Orderly) (operations : List (Operation α)) :
    (registrants.performAll operations).Orderly := by
  induction operations generalizing registrants with
  | nil => exact orderly
  | cons operation rest ih => exact ih (orderly.perform operation)

theorem last_performAll (operations : List (Operation α)) :
    (registrants.performAll operations).last =
      (registrants.last.toList ++ notified operations).getLast? := by
  induction operations generalizing registrants with
  | nil => cases last : registrants.last <;> simp [performAll, notified, last]
  | cons operation rest ih =>
      refine ih.trans ?_
      cases operation with
      | notify value =>
          have there : ∀ first last : List α,
              (first ++ value :: last).getLast? = (value :: last).getLast? := by
            intro first last
            rw [List.getLast?_append, List.getLast?_cons]
            rfl
          exact (there _ _).symm
      | subscribe | unsubscribe | abandon | read => rfl

theorem exists_subscribe (operations : List (Operation α))
    (issued : id < (registrants.performAll operations).nextId) :
    id < registrants.nextId ∨ ∃ before after, operations = before ++ .subscribe :: after ∧
      (registrants.performAll before).nextId = id := by
  induction operations generalizing registrants with
  | nil => exact .inl issued
  | cons operation rest ih =>
      rcases ih issued with made | ⟨before, after, rfl, same⟩
      · cases operation with
        | subscribe =>
            simp only [perform, nextId_subscribe] at made
            rcases Nat.lt_or_eq_of_le (Nat.le_of_lt_succ made) with old | new
            · exact .inl old
            · exact .inr ⟨[], rest, rfl, new.symm⟩
        | unsubscribe | notify | abandon | read => exact .inl (by simpa [perform] using made)
      · exact .inr ⟨operation :: before, after, rfl, same⟩

/-! ### From the beginning -/

/-- The subscription `id` is made in the course of `operations`, and `after` follows. -/
def Since (id : Nat) (operations after : List (Operation α)) : Prop :=
  ∃ before, operations = before ++ .subscribe :: after ∧ (run before).nextId = id

theorem run_since (before after : List (Operation α)) :
    run (before ++ .subscribe :: after) = (run before).subscribe.performAll after :=
  run_append ..

theorem orderly_run (operations : List (Operation α)) : (run operations).Orderly :=
  Orderly.performAll ⟨.nil, fun _ member => (List.not_mem_nil member).elim⟩ operations

/-- What is put on the receiver of a subscription: the latest value before it was made, and
all that is notified from then on until it ends. -/
theorem arrived_subscribe (before after : List (Operation α)) :
    arrived (run before).nextId (before ++ .subscribe :: after) =
      (notified before).getLast?.toList ++
        notified (after.takeWhile (!·.ends (run before).nextId)) := by
  have latest : (run before).last = (notified before).getLast? := last_performAll before
  have issued : (run before).nextId < (run before).subscribe.nextId := by simp
  have replayed : arriving (run before).nextId (run before) .subscribe =
      (notified before).getLast?.toList := by
    simp [arriving, perform, latest]
  have nothing : gather (arriving (run before).nextId) {} before = [] :=
    gather_arriving_of_unissued before (Nat.le_refl _)
  have later := gather_arriving_of_issued issued after
  simp only [serves, isRegistered_subscribe, isListening_subscribe, beq_self_eq_true,
    Bool.or_true, Bool.and_self, if_true] at later
  rw [arrived, gather_append, nothing, List.nil_append, ← later, ← replayed]
  rfl

theorem isListening_since {operations after : List (Operation α)}
    (since : Since id operations after) :
    (run operations).isListening id = true ↔ .abandon id ∉ after := by
  obtain ⟨before, rfl, rfl⟩ := since
  rw [run_since, isListening_performAll (by simp)]
  simp

theorem isRegistered_since {operations after : List (Operation α)}
    (since : Since id operations after) :
    (run operations).isRegistered id = true ↔ .unsubscribe id ∉ after ∧
      ∀ value, ¬ [.abandon id, .notify value].Sublist after := by
  obtain ⟨before, rfl, rfl⟩ := since
  rw [run_since, isRegistered_performAll (by simp)]
  simp

theorem mem_subscribers : id ∈ registrants.subscribers ↔ registrants.isRegistered id = true := by
  simp [isRegistered]

theorem exists_since {operations : List (Operation α)}
    (member : id ∈ (run operations).subscribers) : ∃ after, Since id operations after := by
  rcases exists_subscribe operations ((orderly_run operations).issued id member) with
    none | ⟨before, after, split, same⟩
  · cases none
  · exact ⟨after, before, split, same⟩

theorem length_unsubscribe :
    (registrants.unsubscribe id).subscribers.length ≠ registrants.subscribers.length ↔
      registrants.isRegistered id = true := by
  rw [← mem_subscribers, unsubscribe, ne_eq, List.length_filter_eq_length_iff]
  simp

theorem nextId_lt_of_subscribe (before between : List (Operation α)) :
    (run before).nextId < (run (before ++ .subscribe :: between)).nextId := by
  rw [run_since]
  exact Nat.lt_of_lt_of_le (by simp) (le_nextId_performAll _ between)

theorem word_nextId_ne_of_subscribe (before between : List (Operation α))
    (room : (run (before ++ .subscribe :: between)).nextId < UInt64.size) :
    UInt64.ofNat (run before).nextId ≠
      UInt64.ofNat (run (before ++ .subscribe :: between)).nextId := by
  have less := nextId_lt_of_subscribe before between
  intro same
  have same := congrArg UInt64.toNat same
  rw [UInt64.toNat_ofNat_of_lt' (Nat.lt_trans less room), UInt64.toNat_ofNat_of_lt' room] at same
  omega

/-- Every subscription gets what its stretch of the stream holds, whatever becomes of the
others. Its number is its own, it is on the list until it is taken off or found gone, the
list is in the order of subscription, and the latest value is kept. -/
theorem subscribers_served (operations : List (Operation α)) :
    (∀ before after, operations = before ++ .subscribe :: after →
      arrived (run before).nextId operations =
        (notified before).getLast?.toList ++
          notified (after.takeWhile (!·.ends (run before).nextId))) ∧
    (∀ id, arrived id operations = departed id operations ++ (run operations).unread id) ∧
    (∀ before between after,
      operations = before ++ .subscribe :: between ++ .subscribe :: after →
        (run before).nextId < (run (before ++ .subscribe :: between)).nextId ∧
        ((run (before ++ .subscribe :: between)).nextId < UInt64.size →
          UInt64.ofNat (run before).nextId ≠
            UInt64.ofNat (run (before ++ .subscribe :: between)).nextId)) ∧
    (∀ id, (run operations).isRegistered id = true ↔ ∃ after, Since id operations after ∧
      .unsubscribe id ∉ after ∧ ∀ value, ¬ [.abandon id, .notify value].Sublist after) ∧
    (∀ id, ((run operations).unsubscribe id).subscribers.length ≠
        (run operations).subscribers.length ↔ (run operations).isRegistered id = true) ∧
    (run operations).subscribers.Pairwise (· < ·) ∧
    (∀ value id, id ∈ (run (operations ++ [.notify value])).subscribers ↔
      id ∈ (run operations).subscribers ∧
        ∀ after, Since id operations after → .abandon id ∉ after) ∧
    (run operations).last = (notified operations).getLast? := by
  refine ⟨?replayed, ?kept, ?numbered, fun id => ⟨fun registered => ?_, ?_⟩,
    fun _ => length_unsubscribe, (orderly_run operations).ascending, ?pruned,
    last_performAll operations⟩
  case replayed =>
    rintro before after rfl
    exact arrived_subscribe before after
  case kept =>
    intro id
    calc arrived id operations
        _ = ({} : Registrants α).unread id ++ arrived id operations := rfl
        _ = departed id operations ++ (run operations).unread id := unread_performAll operations
  case numbered =>
    exact fun before between _ _ =>
      ⟨nextId_lt_of_subscribe before between, word_nextId_ne_of_subscribe before between⟩
  · obtain ⟨after, since⟩ := exists_since (mem_subscribers.mpr registered)
    exact ⟨after, since, (isRegistered_since since).mp registered⟩
  · rintro ⟨after, since, stays⟩
    exact (isRegistered_since since).mpr stays
  case pruned =>
    intro value id
    have told : (run (operations ++ [.notify value])).isRegistered id =
        (run operations).serves id := by
      rw [run_append]
      exact isRegistered_notify
    rw [mem_subscribers, mem_subscribers, told, serves, Bool.and_eq_true]
    refine and_congr_right fun registered => ?_
    refine ⟨fun listening after since => (isListening_since since).mp listening, fun stays => ?_⟩
    obtain ⟨after, since⟩ := exists_since (mem_subscribers.mpr registered)
    exact (isListening_since since).mpr (stays after since)

/-- The second subscriber comes when `2` has been notified, and goes before `4` is. The
first one gives its receiver up and is found gone. -/
theorem second_served :
    arrived 1 [.subscribe, .notify 2, .subscribe, .abandon 0, .notify 3, .unsubscribe 1,
      .notify 4] = [2, 3] ∧
    (run [.subscribe, .notify 2, .subscribe, .abandon 0, .notify 3, .unsubscribe 1,
      .notify 4]).isRegistered 0 = false := by
  have served := subscribers_served
    [.subscribe, .notify 2, .subscribe, .abandon 0, .notify 3, .unsubscribe 1, .notify 4]
  exact ⟨served.1 [.subscribe, .notify 2] _ rfl, rfl⟩

end OutboundSms.Registrants
