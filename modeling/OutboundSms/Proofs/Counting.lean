import Mathlib.Data.List.Nodup
import Mathlib.Data.Nat.ModEq
import OutboundSms.MessageRef

/-!
# Counting

A counter hands out its references in a row that closes after as many as its modulus allows.
It counts in machine words, and these stay small enough to do what the numbers would do: a
counter is bounded from its start, a bounded one stays so, and in a bounded one every reference
fits its 8 bits, every sum its 16, and every remainder has something to divide by.
-/

set_option autoImplicit false

namespace OutboundSms.ReferenceCounter

/-- How many references there are before they repeat. -/
def period (modulus : UInt16) : Nat :=
  max 1 (min modulus.toNat 256)

/-- The next step of a counter in words is the one in numbers: the reference is not too wide
for 8 bits, one more than it not too wide for 16, and the modulus is not zero. -/
structure Exact (counter : ReferenceCounter) : Prop where
  reference : counter.next.toNat < UInt8.size
  sum : counter.next.toNat + 1 < UInt16.size
  divisor : counter.modulus ≠ 0

/-- The modulus is one that 8 bits allow, and the reference lies below it. -/
structure Bounded (counter : ReferenceCounter) : Prop where
  modulus_le : counter.modulus.toNat ≤ UInt8.size
  next_lt : counter.next.toNat < counter.modulus.toNat

variable {counter left right : ReferenceCounter} {first second : Nat} (start modulus : UInt16)

theorem eq_of_toNat_next (modulus : left.modulus = right.modulus)
    (next : left.next.toNat = right.next.toNat) : left = right := by
  obtain ⟨leftNext, leftModulus⟩ := left
  obtain ⟨rightNext, rightModulus⟩ := right
  obtain rfl : leftModulus = rightModulus := modulus
  obtain rfl : leftNext = rightNext := UInt16.toNat_inj.mp next
  rfl

theorem period_pos : 0 < period modulus := Nat.lt_of_lt_of_le Nat.one_pos (Nat.le_max_left ..)

theorem period_le : period modulus ≤ UInt8.size :=
  Nat.max_le.mpr ⟨by decide, Nat.min_le_right ..⟩

theorem toNat_clampModulus : (clampModulus modulus).toNat = period modulus := by
  have one : (1 : UInt16).toNat = 1 := rfl
  have most : (256 : UInt16).toNat = 256 := rfl
  simp only [clampModulus, period, UInt16.lt_iff_toNat_lt, one, most]
  split
  · next none => rw [one]; omega
  · split
    · next => rw [most]; omega
    · next => omega

/-! ### One step -/

theorem Exact.toNat_peek (exactly : counter.Exact) : counter.peek.toNat = counter.next.toNat := by
  have fits : counter.next < 256 := UInt16.lt_iff_toNat_lt.mpr exactly.reference
  rw [peek, if_pos fits, UInt16.toNat_toUInt8]
  exact Nat.mod_eq_of_lt exactly.reference

theorem Exact.toNat_next_advance (exactly : counter.Exact) :
    counter.advance.next.toNat = (counter.next.toNat + 1) % counter.modulus.toNat := by
  have one : (1 : UInt16).toNat = 1 := rfl
  rw [advance, UInt16.toNat_mod, UInt16.toNat_add, one, Nat.mod_eq_of_lt exactly.sum]

namespace Bounded

theorem isExact (bounded : counter.Bounded) : counter.Exact where
  reference := Nat.lt_of_lt_of_le bounded.next_lt bounded.modulus_le
  sum := by
    have below := Nat.lt_of_lt_of_le bounded.next_lt bounded.modulus_le
    exact Nat.lt_of_le_of_lt below (by decide)
  divisor := by
    intro zero
    have below := bounded.next_lt
    rw [zero] at below
    exact Nat.not_lt_zero _ below

protected theorem startingAt : (startingAt start modulus).Bounded where
  modulus_le := by
    rw [startingAt, toNat_clampModulus]
    exact period_le modulus
  next_lt := by
    rw [startingAt, UInt16.toNat_mod, toNat_clampModulus]
    exact Nat.mod_lt _ (period_pos modulus)

protected theorem advance (bounded : counter.Bounded) : counter.advance.Bounded where
  modulus_le := bounded.modulus_le
  next_lt := by
    rw [bounded.isExact.toNat_next_advance]
    exact Nat.mod_lt _ (Nat.zero_lt_of_lt bounded.next_lt)

end Bounded

/-! ### Any number of steps -/

@[simp] theorem modulus_advanceBy (counter : ReferenceCounter) (count : Nat) :
    (counter.advanceBy count).modulus = counter.modulus := by
  induction count generalizing counter with
  | zero => rfl
  | succ count ih => exact ih counter.advance

theorem advanceBy_add (counter : ReferenceCounter) (first second : Nat) :
    counter.advanceBy (first + second) = (counter.advanceBy first).advanceBy second := by
  induction first generalizing counter with
  | zero => rw [Nat.zero_add]; rfl
  | succ first ih => rw [Nat.succ_add]; exact ih counter.advance

/-- The references that a counter hands out next. -/
def upcoming (counter : ReferenceCounter) (count : Nat) : List (Option UInt8) :=
  (List.range count).map fun place => some (counter.advanceBy place).peek

theorem upcoming_succ (counter : ReferenceCounter) (count : Nat) :
    counter.upcoming (count + 1) = some counter.peek :: counter.advance.upcoming count := by
  rw [upcoming, List.range_succ_eq_map, List.map_cons, List.map_map]
  rfl

theorem upcoming_add (counter : ReferenceCounter) (first second : Nat) :
    counter.upcoming (first + second) =
      counter.upcoming first ++ (counter.advanceBy first).upcoming second := by
  simp only [upcoming, List.range_add, List.map_append, List.map_map, Function.comp_def,
    advanceBy_add]

namespace Bounded

protected theorem advanceBy (bounded : counter.Bounded) (count : Nat) :
    (counter.advanceBy count).Bounded := by
  induction count generalizing counter with
  | zero => exact bounded
  | succ count ih => exact ih bounded.advance

theorem toNat_next_advanceBy (bounded : counter.Bounded) (count : Nat) :
    (counter.advanceBy count).next.toNat =
      (counter.next.toNat + count) % counter.modulus.toNat := by
  induction count generalizing counter with
  | zero => exact (Nat.mod_eq_of_lt bounded.next_lt).symm
  | succ count ih =>
      calc (counter.advance.advanceBy count).next.toNat
          = (counter.advance.next.toNat + count) % counter.modulus.toNat := ih bounded.advance
        _ = (counter.next.toNat + 1 + count) % counter.modulus.toNat := by
            rw [bounded.isExact.toNat_next_advance, Nat.mod_add_mod]
        _ = (counter.next.toNat + (count + 1)) % counter.modulus.toNat := by
            rw [Nat.add_assoc, Nat.add_comm 1]

theorem toNat_peek_advanceBy (bounded : counter.Bounded) (count : Nat) :
    (counter.advanceBy count).peek.toNat =
      (counter.next.toNat + count) % counter.modulus.toNat := by
  rw [(bounded.advanceBy count).isExact.toNat_peek, bounded.toNat_next_advanceBy]

/-- Two references in the row are the same if and only if they are whole rounds apart. -/
theorem peek_advanceBy_eq_iff (bounded : counter.Bounded) :
    (counter.advanceBy first).peek = (counter.advanceBy second).peek ↔
      first ≡ second [MOD counter.modulus.toNat] := by
  rw [← UInt8.toNat_inj, bounded.toNat_peek_advanceBy, bounded.toNat_peek_advanceBy]
  exact (Nat.ModEq.refl counter.next.toNat).add_iff_left

theorem advanceBy_eq_iff (bounded : counter.Bounded) :
    counter.advanceBy first = counter.advanceBy second ↔
      first ≡ second [MOD counter.modulus.toNat] := by
  rw [← bounded.peek_advanceBy_eq_iff]
  refine ⟨congrArg peek, fun same => eq_of_toNat_next ?_ ?_⟩
  · rw [modulus_advanceBy, modulus_advanceBy]
  · rw [← (bounded.advanceBy first).isExact.toNat_peek, same,
      (bounded.advanceBy second).isExact.toNat_peek]

end Bounded

theorem toNat_next_advanceBy (count : Nat) :
    ((startingAt start modulus).advanceBy count).next.toNat =
      (start.toNat + count) % (clampModulus modulus).toNat := by
  rw [(Bounded.startingAt start modulus).toNat_next_advanceBy, startingAt, UInt16.toNat_mod,
    Nat.mod_add_mod]

theorem toNat_peek_advanceBy (count : Nat) :
    ((startingAt start modulus).advanceBy count).peek.toNat =
      (start.toNat + count) % (clampModulus modulus).toNat := by
  rw [((Bounded.startingAt start modulus).advanceBy count).isExact.toNat_peek,
    toNat_next_advanceBy]

theorem mod_ne_of_lt {modulus first second : Nat} (start : Nat) (before : first < second)
    (within : second < first + modulus) :
    (start + first) % modulus ≠ (start + second) % modulus := by
  intro same
  have round := Nat.sub_mod_eq_zero_of_mod_eq same.symm
  rw [Nat.mod_eq_of_lt (by omega)] at round
  omega

/-! ### Courses of calls -/

/-- The two ways to ask a counter for its reference: to be told of it, or to be given it. -/
inductive Call where
  | peek
  | next
  deriving DecidableEq

/-- The answer to a call, and the counter that is left. -/
def call (counter : ReferenceCounter) : Call → UInt8 × ReferenceCounter
  | .peek => (counter.peek, counter)
  | .next => (counter.peek, counter.advance)

/-- The counter that a course of calls leaves. -/
def after (counter : ReferenceCounter) (calls : List Call) : ReferenceCounter :=
  calls.foldl (fun counter call => (counter.call call).2) counter

/-- The references that are given away in a course of calls. -/
def handedOut (counter : ReferenceCounter) : List Call → List UInt8
  | [] => []
  | .peek :: rest => (counter.call .peek).2.handedOut rest
  | .next :: rest => (counter.call .next).1 :: (counter.call .next).2.handedOut rest

/-- Nothing but the calls of `next` moves a counter. -/
theorem after_eq_advanceBy (counter : ReferenceCounter) (calls : List Call) :
    counter.after calls = counter.advanceBy (calls.count .next) := by
  induction calls generalizing counter with
  | nil => rfl
  | cons call rest ih =>
      cases call with
      | peek =>
          rw [List.count_cons_of_ne (by decide)]
          exact ih counter
      | next =>
          rw [List.count_cons_self]
          exact ih counter.advance

theorem map_some_handedOut (counter : ReferenceCounter) (calls : List Call) :
    (counter.handedOut calls).map some = counter.upcoming (calls.count .next) := by
  induction calls generalizing counter with
  | nil => rfl
  | cons call rest ih =>
      cases call with
      | peek =>
          rw [List.count_cons_of_ne (by decide)]
          exact ih counter
      | next =>
          rw [List.count_cons_self, upcoming_succ, ← ih counter.advance]
          rfl

namespace Bounded

theorem nodup_handedOut_iff (bounded : counter.Bounded) (calls : List Call) :
    (counter.handedOut calls).Nodup ↔ calls.count .next ≤ counter.modulus.toNat := by
  rw [← List.nodup_map_iff (Option.some_injective _), map_some_handedOut, upcoming,
    List.nodup_map_iff_inj_on List.nodup_range]
  simp only [List.mem_range, Option.some.injEq, bounded.peek_advanceBy_eq_iff]
  constructor
  · -- A row of more would hold its first reference twice.
    intro distinct
    by_contra more
    have within : counter.modulus.toNat < calls.count .next := Nat.not_le.mp more
    have positive : 0 < counter.modulus.toNat := Nat.zero_lt_of_lt bounded.next_lt
    have again : 0 ≡ counter.modulus.toNat [MOD counter.modulus.toNat] :=
      (Nat.modEq_zero_iff_dvd.mpr (Nat.dvd_refl _)).symm
    exact positive.ne (distinct 0 (positive.trans within) _ within again)
  · intro few first firstBelow second secondBelow same
    exact same.eq_of_lt_of_lt (firstBelow.trans_le few) (secondBelow.trans_le few)

theorem after_eq_self_iff (bounded : counter.Bounded) (calls : List Call) :
    counter.after calls = counter ↔ counter.modulus.toNat ∣ calls.count .next := by
  have home : counter.advanceBy (calls.count .next) = counter.advanceBy 0 ↔
      calls.count .next ≡ 0 [MOD counter.modulus.toNat] := bounded.advanceBy_eq_iff
  rw [after_eq_advanceBy, ← Nat.modEq_zero_iff_dvd, ← home, advanceBy]

end Bounded

/-- The references of a counter go round. In any course of calls the one that comes next, which
`peek` tells and `next` gives away, is as far from the start as references have been given away,
taken modulo the period; nothing else has moved the counter. It lies below the period, and the
words compute it as the numbers would. From wherever the counter stands, a row of references is
without repetition if and only if it is no longer than the period, and the counter is back where
it stood if and only if whole rounds have been given away. -/
theorem references_cycle (start modulus : UInt16) (calls : List Call) :
    let counter := (startingAt start modulus).after calls
    counter = (startingAt start modulus).advanceBy (calls.count .next) ∧
    (∀ call, (counter.call call).1.toNat =
      (start.toNat + calls.count .next) % period modulus) ∧
    counter.call .peek = ((counter.call .next).1, counter) ∧
    counter.modulus.toNat = period modulus ∧ counter.next.toNat < period modulus ∧
    counter.Exact ∧
    (∀ later, (counter.handedOut later).Nodup ↔ later.count .next ≤ period modulus) ∧
    ∀ later, counter.after later = counter ↔ period modulus ∣ later.count .next := by
  intro counter
  have counted : counter = (startingAt start modulus).advanceBy (calls.count .next) :=
    after_eq_advanceBy _ calls
  have bounded : counter.Bounded := counted ▸ (Bounded.startingAt start modulus).advanceBy _
  have clamped : counter.modulus.toNat = period modulus := by
    rw [counted, modulus_advanceBy, ← toNat_clampModulus]
    rfl
  have reference : counter.peek.toNat = (start.toNat + calls.count .next) % period modulus := by
    rw [counted, toNat_peek_advanceBy, toNat_clampModulus]
  refine ⟨counted, fun call => ?_, rfl, clamped, clamped ▸ bounded.next_lt, bounded.isExact,
    fun later => clamped ▸ bounded.nodup_handedOut_iff later,
    fun later => clamped ▸ bounded.after_eq_self_iff later⟩
  cases call with
  | peek => exact reference
  | next => exact reference

example : (startingAt 254 1000).handedOut [.peek, .next, .next, .peek, .next] = [254, 255, 0] := by
  decide

end OutboundSms.ReferenceCounter
