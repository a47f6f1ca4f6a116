import Mathlib.Data.List.Nodup
import Mathlib.Data.List.Perm.Basic

/-!
# Lists

Members of a list are told apart by a key when no key occurs twice, what is picked from the
parts that members come to keeps their order, and a list with repetitions has an order in
which its members first occur.
-/

set_option autoImplicit false

namespace OutboundSms

variable {α β : Type} [DecidableEq β] {key : α → β} {values : List α}

/-- Where no key occurs twice, a member is the only one with its key. -/
theorem filter_key_of_mem (distinct : (values.map key).Nodup) {value : α}
    (member : value ∈ values) : values.filter (key · = key value) = [value] := by
  induction values with
  | nil => simp at member
  | cons first rest ih =>
      obtain ⟨unseen, distinct⟩ := List.nodup_cons.mp distinct
      rcases List.mem_cons.mp member with rfl | member
      · have others : rest.filter (key · = key value) = [] :=
          List.filter_eq_nil_iff.mpr fun other member => by
            simpa using fun same : key other = key value =>
              unseen (same ▸ List.mem_map_of_mem member)
        simp [others]
      · have different : ¬ key first = key value := fun same =>
          unseen (same ▸ List.mem_map_of_mem member)
        simpa [different] using ih distinct member

theorem filter_key_of_not_mem {sought : β} (absent : sought ∉ values.map key) :
    values.filter (key · = sought) = [] :=
  List.filter_eq_nil_iff.mpr fun value member => by
    simpa using fun same : key value = sought => absent (same ▸ List.mem_map_of_mem member)

/-- Where each member of a list comes to one value, the values come in the order of the list. -/
theorem filterMap_flatten_mapIdx {α β γ : Type} {pick : β → Option γ}
    {parts : Nat → α → List β} {value : Nat → α → γ}
    (single : ∀ place member, (parts place member).filterMap pick = [value place member])
    (values : List α) :
    (values.mapIdx parts).flatten.filterMap pick = values.mapIdx value := by
  induction values generalizing parts value with
  | nil => rfl
  | cons first rest ih =>
      rw [List.mapIdx_cons, List.mapIdx_cons, List.flatten_cons, List.filterMap_append, single,
        ih fun place => single (place + 1)]
      rfl

/-! ### First occurrences -/

theorem eraseDups_of_nodup [DecidableEq α] (distinct : values.Nodup) :
    values.eraseDups = values := by
  induction values with
  | nil => rfl
  | cons first rest ih =>
      obtain ⟨unseen, distinct⟩ := List.nodup_cons.mp distinct
      rw [List.eraseDups_cons, List.filter_eq_self.mpr, ih distinct]
      intro value member
      have different : value ≠ first := fun same => unseen (same ▸ member)
      simpa using different

/-- Members that come later without repetition occur first there, unless they occurred
before. -/
theorem eraseDups_append_of_nodup [DecidableEq α] (values : List α) {later : List α}
    (distinct : later.Nodup) :
    (values ++ later).eraseDups = values.eraseDups ++ later.filter (· ∉ values) := by
  rw [List.eraseDups_append, List.removeAll, eraseDups_of_nodup (distinct.filter _)]
  congr 1
  refine List.filter_congr fun value _ => ?_
  by_cases member : value ∈ values <;> simp [member]

end OutboundSms
