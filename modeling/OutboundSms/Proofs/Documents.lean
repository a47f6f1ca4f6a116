import OutboundSms.Proofs.Spelling

/-!
# Documents of written forms

A written form fits when its integers have at most 64 bits, its names are plain, it has no
options of options, and it is not nested too deeply. The document of such a form spells it.
-/

set_option autoImplicit false

namespace OutboundSms.Format

/-! ### Written forms that fit -/

/-- Letters, digits and low lines, of which names are made up. -/
def isNameChar (c : Char) : Bool :=
  c.isAlphanum || c == '_'

/-- A letter with name characters behind it. -/
def IsWord (text : String) : Prop :=
  ∃ first rest, text.toList = first :: rest ∧ first.isAlpha = true ∧
    ∀ c ∈ rest, isNameChar c = true

/-- A word that no notation has a meaning of its own for. -/
def IsName (name : String) : Prop :=
  IsWord name ∧ name ∉ ["Some", "None", "true", "false"]

instance (text : String) : Decidable (IsWord text) :=
  match letters : text.toList with
  | [] => isFalse (by simp [IsWord, letters])
  | first :: rest =>
      decidable_of_iff ((first.isAlpha && rest.all isNameChar) = true)
        (by simp [IsWord, letters])

instance (name : String) : Decidable (IsName name) :=
  inferInstanceAs (Decidable (_ ∧ _))

mutual

/-- A form that can be written with so much room for nesting. -/
def Written.Fits : Nat → Written → Prop
  | _, .bool _ | _, .text _ | _, .absent => True
  | _, .natural value => value < 1 <<< 64
  | room, .present value =>
      1 ≤ room ∧ (value ≠ .absent ∧ ∀ inner, value ≠ .present inner) ∧ value.Fits (room - 1)
  | room, .list items => 2 ≤ room ∧ ItemsFit (room - 2) items
  | room, .record fields => 2 ≤ room ∧ FieldsFit (room - 2) fields
  | _, .choice name => IsName name
  | room, .choiceOf name content => IsName name ∧ 2 ≤ room ∧ content.Fits (room - 2)
  | room, .choiceWith name fields => IsName name ∧ 3 ≤ room ∧ FieldsFit (room - 3) fields

def ItemsFit : Nat → List Written → Prop
  | _, [] => True
  | room, item :: items => item.Fits room ∧ ItemsFit room items

def FieldsFit : Nat → List (String × Written) → Prop
  | _, [] => True
  | room, (name, value) :: fields => IsName name ∧ value.Fits room ∧ FieldsFit room fields

end

section Fit

variable {α : Type} {write : α → Written} {name : String} {fields : List (String × Written)}
  {room : Nat}

theorem itemsFit_iff {items : List Written} :
    ItemsFit room items ↔ ∀ item ∈ items, item.Fits room := by
  induction items with
  | nil => simp [ItemsFit]
  | cons item items ih => simp [ItemsFit, ih]

theorem fieldsFit_iff :
    FieldsFit room fields ↔ ∀ field ∈ fields, IsName field.1 ∧ field.2.Fits room := by
  induction fields with
  | nil => simp [FieldsFit]
  | cons field fields ih =>
      obtain ⟨label, value⟩ := field
      simp only [FieldsFit, ih, List.mem_cons, forall_eq_or_imp, and_assoc]

theorem one_shiftLeft_le {bits : Nat} (width : bits ≤ 64) : 1 <<< bits ≤ 1 <<< 64 := by
  rw [Nat.one_shiftLeft, Nat.one_shiftLeft]
  exact Nat.pow_le_pow_right Nat.two_pos width

/-- The numbers of an integer type fit if the type is no wider than 64 bits. -/
theorem fits_natural (bits : Nat) (width : bits ≤ 64) {toNat : α → Nat}
    (toNat_lt : ∀ value, toNat value < 1 <<< bits) (room : Nat) (value : α) :
    (Written.natural (toNat value)).Fits room :=
  Nat.lt_of_lt_of_le (toNat_lt value) (one_shiftLeft_le width)

theorem fits_listOf (fits : ∀ value, (write value).Fits room) (values : List α) :
    (Written.listOf write values).Fits (room + 2) := by
  refine ⟨by omega, itemsFit_iff.mpr fun item member => ?_⟩
  obtain ⟨value, -, rfl⟩ := List.mem_map.mp member
  exact fits value

theorem fits_optional (fits : ∀ value, (write value).Fits room)
    (plain : ∀ value, write value ≠ .absent ∧ ∀ inner, write value ≠ .present inner)
    (value : Option α) : (Written.optional write value).Fits (room + 1) := by
  cases value with
  | none => trivial
  | some value => exact ⟨by omega, plain value, fits value⟩

theorem fieldsFit_writtenField_append (isName : IsName name)
    (fits : ∀ value, (write value).Fits room) (entry : Option α) (fit : FieldsFit room fields) :
    FieldsFit room (writtenField name write entry ++ fields) := by
  cases entry with
  | none => exact fit
  | some value => exact ⟨isName, fits value, fit⟩

end Fit

/-! ### Documents -/

namespace Document

/-- An integer out of range is not read as another one. -/
theorem natural?_integer (bits : Nat) (number : Int) :
    Document.natural? bits (.integer number) =
      if 0 ≤ number ∧ number.toNat < 1 <<< bits then some number.toNat else none := by
  cases number with
  | ofNat value =>
      have range : 0 ≤ Int.ofNat value ∧ (Int.ofNat value).toNat < 1 <<< bits ↔
          value < 1 <<< bits :=
        and_iff_right (Int.natCast_nonneg value)
      simp only [Document.natural?, range]
      rfl
  | negSucc value =>
      have negative : ¬ 0 ≤ Int.negSucc value := by omega
      rw [if_neg fun range => negative range.1]
      rfl

instance : Bounded Document where
  natural?_lt := by
    intro bits value document found
    cases document with
    | integer number =>
        cases number with
        | ofNat number =>
            obtain ⟨lt, rfl⟩ : number < 1 <<< bits ∧ number = value := by
              simpa [Format.natural?, Document.natural?] using found
            exact lt
        | negSucc number => simp [Format.natural?, Document.natural?] at found
    | _ => simp [Format.natural?, Document.natural?] at found

end Document

theorem option?_toDocument {written : Written} (there : written ≠ .absent)
    (plain : ∀ inner, written ≠ .present inner) :
    option? written.toDocument = some (some written.toDocument) := by
  cases written with
  | absent => exact absurd rfl there
  | present inner => exact absurd rfl (plain inner)
  | _ => rfl

mutual

theorem spells_toDocument :
    ∀ (written : Written) {room : Nat}, written.Fits room → Spells written.toDocument written
  | .bool _, _, _ => rfl
  | .natural _, _, _ => fun _ => rfl
  | .text _, _, _ => rfl
  | .absent, _, _ => rfl
  | .present value, _, ⟨_, ⟨there, plain⟩, fits⟩ =>
      ⟨value.toDocument, (option?_toDocument there plain :), spells_toDocument value fits⟩
  | .list items, _, ⟨_, fit⟩ => ⟨toDocuments items, rfl, spellsItems_toDocuments items fit⟩
  | .record fields, _, ⟨_, fit⟩ =>
      ⟨toFields fields, spellsFields_toFields fields fit, fun _ _ => rfl⟩
  | .choice _, _, _ => ⟨rfl, rfl⟩
  | .choiceOf _ content, _, ⟨_, _, fits⟩ =>
      ⟨rfl, content.toDocument, rfl, spells_toDocument content fits⟩
  | .choiceWith _ fields, _, ⟨_, _, fit⟩ =>
      ⟨rfl, toFields fields, spellsFields_toFields fields fit, fun _ => rfl⟩

theorem spellsItems_toDocuments :
    ∀ (items : List Written) {room : Nat}, ItemsFit room items →
      SpellsItems (toDocuments items) items
  | [], _, _ => trivial
  | item :: items, _, ⟨fits, fit⟩ =>
      ⟨spells_toDocument item fits, spellsItems_toDocuments items fit⟩

theorem spellsFields_toFields :
    ∀ (fields : List (String × Written)) {room : Nat}, FieldsFit room fields →
      SpellsFields (toFields fields) fields
  | [], _, _ => trivial
  | (_, value) :: fields, _, ⟨_, fits, fit⟩ =>
      ⟨rfl, spells_toDocument value fits, spellsFields_toFields fields fit⟩

end

end OutboundSms.Format
