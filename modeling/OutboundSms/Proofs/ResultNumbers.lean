import Mathlib.Data.Set.Operations
import OutboundSms.ResultCode

/-!
# Result codes and their numbers

One table gives each code its number and another finds the code of a number. Each undoes the
other, but for the `unknown` codes that carry the number of a named one: these are never read
from a number.
-/

set_option autoImplicit false

namespace OutboundSms.ResultCode

variable {code left right : ResultCode} {number : UInt32}

def IsNamed (code : ResultCode) : Prop :=
  ∀ number, code ≠ unknown number

/-- An `unknown` code with the number of a named one. -/
def Doubles (code named : ResultCode) : Prop :=
  named.IsNamed ∧ code = unknown named.toNumber

theorem numbered_sound : ∀ row ∈ numbered, row.2.IsNamed ∧ row.2.toNumber = row.1 := by
  simp [numbered, IsNamed, toNumber]

/-- Every row of the table of numbers is one of the table of codes. -/
theorem mem_numbered_iff : (number, code) ∈ numbered ↔ code.IsNamed ∧ code.toNumber = number := by
  constructor
  · exact numbered_sound (number, code)
  · rintro ⟨isNamed, rfl⟩
    cases code with
    | unknown other => exact absurd rfl (isNamed other)
    | _ => decide

theorem lookup_numbered_of_mem (row : (number, code) ∈ numbered) :
    numbered.lookup number = some code := by
  obtain ⟨isNamed, rfl⟩ := mem_numbered_iff.mp row
  cases code with
  | unknown other => exact absurd rfl (isNamed other)
  | _ => rfl

theorem mem_of_lookup_numbered (found : numbered.lookup number = some code) :
    (number, code) ∈ numbered := by
  obtain ⟨before, after, rows, -⟩ := List.lookup_eq_some_iff.mp found
  rw [rows]
  exact List.mem_append_right before List.mem_cons_self

/-- The code of a number is the named one, if there is one with that number. -/
theorem ofNumber_toNumber (isNamed : code.IsNamed) : ofNumber code.toNumber = code := by
  have found := lookup_numbered_of_mem (mem_numbered_iff.mpr ⟨isNamed, rfl⟩)
  rw [ofNumber, found, Option.getD_some]

theorem ofNumber_eq_unknown
    (unnamed : ∀ named : ResultCode, named.IsNamed → named.toNumber ≠ number) :
    ofNumber number = unknown number := by
  cases found : numbered.lookup number with
  | none => rw [ofNumber, found, Option.getD_none]
  | some named =>
      obtain ⟨isNamed, same⟩ := mem_numbered_iff.mp (mem_of_lookup_numbered found)
      exact absurd same (unnamed named isNamed)

/-- A number has a named code, or none and then it is kept in an `unknown` one. -/
theorem named_or_unknown (number : UInt32) :
    (∃ named : ResultCode, named.IsNamed ∧ named.toNumber = number ∧ ofNumber number = named) ∨
      (∀ named : ResultCode, named.IsNamed → named.toNumber ≠ number) ∧
        ofNumber number = unknown number := by
  by_cases exists_named : ∃ named : ResultCode, named.IsNamed ∧ named.toNumber = number
  · obtain ⟨named, isNamed, rfl⟩ := exists_named
    exact .inl ⟨named, isNamed, rfl, ofNumber_toNumber isNamed⟩
  · have unnamed : ∀ named : ResultCode, named.IsNamed → named.toNumber ≠ number :=
      fun named isNamed same => exists_named ⟨named, isNamed, same⟩
    exact .inr ⟨unnamed, ofNumber_eq_unknown unnamed⟩

theorem toNumber_ofNumber (number : UInt32) : (ofNumber number).toNumber = number := by
  rcases named_or_unknown number with ⟨named, -, same, read⟩ | ⟨-, read⟩
  · rw [read, same]
  · rw [read, toNumber]

theorem not_doubles_ofNumber (number : UInt32) (named : ResultCode) :
    ¬ (ofNumber number).Doubles named := by
  rintro ⟨isNamed, doubled⟩
  rcases named_or_unknown number with ⟨other, otherNamed, -, read⟩ | ⟨unnamed, read⟩
  · exact otherNamed _ (read.symm.trans doubled)
  · rw [read] at doubled
    injection doubled with same
    exact unnamed named isNamed same.symm

theorem ofNumber_toNumber_of_not_doubles (single : ∀ named, ¬ code.Doubles named) :
    ofNumber code.toNumber = code := by
  by_cases isNamed : code.IsNamed
  · exact ofNumber_toNumber isNamed
  · obtain ⟨number, rfl⟩ := not_forall_not.mp isNamed
    exact ofNumber_eq_unknown fun named isNamed same => single named ⟨isNamed, same ▸ rfl⟩

/-- The numbers are a faithful form of the codes. Every number is the number of the code read
from it. A code is read back from its number, unless it doubles a named one, which is then read
in its place. No code that is read from a number doubles another, and of those two are equal if
and only if their numbers are. -/
theorem numbers_faithful :
    (∀ number, (ofNumber number).toNumber = number) ∧
    (∀ code : ResultCode, (∀ named, ¬ code.Doubles named) → ofNumber code.toNumber = code) ∧
    (∀ code named : ResultCode, code.Doubles named → ofNumber code.toNumber = named) ∧
    (∀ number named, ¬ (ofNumber number).Doubles named) ∧
    ∀ left ∈ Set.range ofNumber, ∀ right ∈ Set.range ofNumber,
      left = right ↔ left.toNumber = right.toNumber := by
  refine ⟨toNumber_ofNumber, fun code => ofNumber_toNumber_of_not_doubles, ?_,
    not_doubles_ofNumber, ?_⟩
  · rintro code named ⟨isNamed, rfl⟩
    exact ofNumber_toNumber isNamed
  · rintro - ⟨first, rfl⟩ - ⟨second, rfl⟩
    constructor
    · exact congrArg toNumber
    · rw [toNumber_ofNumber, toNumber_ofNumber]
      exact congrArg ofNumber

/-- 30 is the number of a named code, and 29 stands in a gap of the table. -/
theorem thirty_faithful :
    ofNumber (unknown 30).toNumber = sendRetryFailed ∧
      ofNumber (unknown 29).toNumber = unknown 29 ∧
      (ofNumber 29 = ofNumber 30 ↔ (ofNumber 29).toNumber = (ofNumber 30).toNumber) := by
  obtain ⟨-, single, doubled, -, equal⟩ := numbers_faithful
  refine ⟨doubled _ _ ⟨nofun, rfl⟩, single _ ?_, equal _ ⟨29, rfl⟩ _ ⟨30, rfl⟩⟩
  rintro named ⟨isNamed, same⟩
  cases named with
  | unknown other => exact isNamed other rfl
  | _ => exact absurd same (by decide)

end OutboundSms.ResultCode
