import Mathlib.Data.List.Perm.Basic
import OutboundSms.Format.Document

/-!
# Spelling

A document spells a written form when its notation gives for it what the form has. A reader
restores what a writer wrote when it reads every document that spells the written form, and
when it alters nothing in the documents it reads. Readers of parts make up readers of wholes.
-/

set_option autoImplicit false

namespace OutboundSms.Format

variable {δ : Type} [Structured δ] {α : Type}

/-- A record with these parts, some of which its type may not know. -/
def IsRecord (document : δ) (parts : Fields δ) : Prop :=
  ∀ typeName known, record? typeName known document = knownFields known parts

mutual

/-- Every operation gives for the document what stands in the written form. -/
def Spells : δ → Written → Prop
  | document, .bool value => bool? document = some value
  | document, .natural value =>
      ∀ bits, natural? bits document = if value < 1 <<< bits then some value else none
  | document, .text value => text? document = some value
  | document, .absent => option? document = some none
  | document, .present value => ∃ part, option? document = some (some part) ∧ Spells part value
  | document, .list items => ∃ parts, list? document = some parts ∧ SpellsItems parts items
  | document, .record fields =>
      ∃ parts, SpellsFields parts fields ∧ IsRecord document parts
  | document, .choice name => isBare document = true ∧ choiceName? document = some name
  | document, .choiceOf name content =>
      choiceName? document = some name ∧
        ∃ part, content? document = some part ∧ Spells part content
  | document, .choiceWith name fields =>
      choiceName? document = some name ∧
        ∃ parts, SpellsFields parts fields ∧
          ∀ known, contentFields? known document = knownFields known parts

def SpellsItems : List δ → List Written → Prop
  | [], [] => True
  | part :: parts, item :: items => Spells part item ∧ SpellsItems parts items
  | _, _ => False

def SpellsFields : Fields δ → List (String × Written) → Prop
  | [], [] => True
  | (name, part) :: parts, (label, value) :: fields =>
      name = label ∧ Spells part value ∧ SpellsFields parts fields
  | _, _ => False

end

mutual

/-- What stands in the document stands in the written form. Fields may be missing in the
document, and a choice without content may have another name there. -/
def Agrees : δ → Written → Prop
  | document, .bool value => bool? document = some value
  | document, .natural value => ∃ bits, natural? bits document = some value
  | document, .text value => text? document = some value
  | document, .absent => option? document = some none
  | document, .present value => ∃ part, option? document = some (some part) ∧ Agrees part value
  | document, .list items => ∃ parts, list? document = some parts ∧ AgreesItems parts items
  | document, .record fields =>
      ∃ typeName parts, record? typeName (fields.map (·.1)) document = some parts ∧
        AgreesFields parts fields
  | document, .choice _ => isBare document = true
  | document, .choiceOf name content =>
      choiceName? document = some name ∧
        ∃ part, content? document = some part ∧ Agrees part content
  | document, .choiceWith name fields =>
      choiceName? document = some name ∧
        ∃ parts, contentFields? (fields.map (·.1)) document = some parts ∧
          AgreesFields parts fields

def AgreesItems : List δ → List Written → Prop
  | [], [] => True
  | part :: parts, item :: items => Agrees part item ∧ AgreesItems parts items
  | _, _ => False

def AgreesFields : Fields δ → List (String × Written) → Prop
  | _, [] => True
  | parts, (name, value) :: fields =>
      (∀ part, parts.lookup name = some part → Agrees part value) ∧ AgreesFields parts fields

end

/-- An integer that is read has no more bits than it was read with. -/
class Bounded (δ : Type) [Structured δ] : Prop where
  natural?_lt {bits value : Nat} {document : δ} :
    natural? bits document = some value → value < 1 <<< bits

/-- A reader gives back what was written, and alters nothing of what it reads. -/
structure Restores (read : δ → Option α) (write : α → Written) : Prop where
  undoes {value : α} {document : δ} :
    Spells document (write value) → read document = some value
  keeps {value : α} {document : δ} :
    read document = some value → Agrees document (write value)

/-! ### Parts -/

section Parts

variable {read : δ → Option α} {write : α → Written}

theorem restores_bool : Restores (bool? : δ → Option Bool) .bool := by
  constructor
  · intro value document spelled
    exact spelled
  · intro value document found
    exact found

theorem restores_text : Restores (text? : δ → Option String) .text := by
  constructor
  · intro value document spelled
    exact spelled
  · intro value document found
    exact found

/-- An integer type has every number below a power of two once. -/
theorem restores_natural [Bounded δ] (bits : Nat) {toNat : α → Nat} {ofNat : Nat → α}
    (toNat_lt : ∀ value, toNat value < 1 <<< bits)
    (ofNat_toNat : ∀ value, ofNat (toNat value) = value)
    (toNat_ofNat : ∀ {number}, number < 1 <<< bits → toNat (ofNat number) = number) :
    Restores (δ := δ) (fun document => (natural? bits document).map ofNat)
      (fun value => .natural (toNat value)) := by
  constructor
  · intro value document spelled
    have found : natural? bits document = some (toNat value) := by
      rw [spelled bits, if_pos (toNat_lt value)]
    rw [found, Option.map_some, ofNat_toNat]
  · intro value document found
    obtain ⟨number, stands, rfl⟩ := Option.map_eq_some_iff.mp found
    refine ⟨bits, ?_⟩
    rw [toNat_ofNat (Bounded.natural?_lt stands)]
    exact stands

theorem restores_uInt8 [Bounded δ] :
    Restores (δ := δ) readUInt8 (fun value => .natural value.toNat) :=
  restores_natural 8 UInt8.toNat_lt (fun _ => UInt8.ofNat_toNat) UInt8.toNat_ofNat_of_lt'

theorem restores_uInt16 [Bounded δ] :
    Restores (δ := δ) readUInt16 (fun value => .natural value.toNat) :=
  restores_natural 16 UInt16.toNat_lt (fun _ => UInt16.ofNat_toNat) UInt16.toNat_ofNat_of_lt'

theorem restores_uInt32 [Bounded δ] :
    Restores (δ := δ) readUInt32 (fun value => .natural value.toNat) :=
  restores_natural 32 UInt32.toNat_lt (fun _ => UInt32.ofNat_toNat) UInt32.toNat_ofNat_of_lt'

theorem restores_uInt64 [Bounded δ] :
    Restores (δ := δ) readUInt64 (fun value => .natural value.toNat) :=
  restores_natural 64 UInt64.toNat_lt (fun _ => UInt64.ofNat_toNat) UInt64.toNat_ofNat_of_lt'

theorem Restores.optional (restores : Restores read write) :
    Restores (readOption read) (Written.optional write) := by
  constructor
  · intro value document spelled
    cases value with
    | none =>
        have absent : option? document = some none := spelled
        rw [readOption, absent]
    | some value =>
        obtain ⟨part, present, spelled⟩ := spelled
        rw [readOption, present]
        simp [restores.undoes spelled]
  · intro value document found
    rw [readOption] at found
    split at found
    · rename_i part present
      obtain ⟨content, stands, rfl⟩ := Option.map_eq_some_iff.mp found
      exact ⟨part, present, restores.keeps stands⟩
    · rename_i absent
      obtain rfl : none = value := by simpa using found
      exact absent
    · simp at found

theorem Restores.mapM (restores : Restores read write) {parts : List δ} {values : List α}
    (spelled : SpellsItems parts (values.map write)) : parts.mapM read = some values := by
  induction values generalizing parts with
  | nil =>
      cases parts with
      | nil => rfl
      | cons part parts => simp [SpellsItems] at spelled
  | cons value values ih =>
      cases parts with
      | nil => simp [SpellsItems] at spelled
      | cons part parts =>
          obtain ⟨first, rest⟩ := spelled
          simp [List.mapM_cons, restores.undoes first, ih rest]

theorem Restores.agreesItems (restores : Restores read write) {parts : List δ} {values : List α}
    (found : parts.mapM read = some values) : AgreesItems parts (values.map write) := by
  induction parts generalizing values with
  | nil =>
      obtain rfl : [] = values := by simpa using found
      trivial
  | cons part parts ih =>
      simp only [List.mapM_cons, Option.bind_eq_bind, Option.bind_eq_some_iff,
        Option.pure_def, Option.some.injEq] at found
      obtain ⟨value, first, values, rest, rfl⟩ := found
      exact ⟨restores.keeps first, ih rest⟩

theorem Restores.listOf (restores : Restores read write) :
    Restores (readList read) (Written.listOf write) := by
  constructor
  · intro values document spelled
    obtain ⟨parts, listed, spelled⟩ := spelled
    rw [readList, listed, Option.bind_some, restores.mapM spelled]
  · intro values document found
    obtain ⟨parts, listed, found⟩ := Option.bind_eq_some_iff.mp found
    exact ⟨parts, listed, restores.agreesItems found⟩

theorem mem_of_readNamed {table : List (String × α)} {value : α} {document : δ}
    (found : readNamed table document = some value) :
    isBare document = true ∧ value ∈ table.map (·.2) := by
  rw [readNamed] at found
  split at found
  · rename_i bare
    obtain ⟨name, chosen, found⟩ := Option.bind_eq_some_iff.mp found
    obtain ⟨before, after, rows, -⟩ := List.lookup_eq_some_iff.mp found
    exact ⟨bare, by simp [rows]⟩
  · simp at found

theorem restores_named {table : List (String × α)} {name : α → String}
    (named : ∀ value, table.lookup (name value) = some value) :
    Restores (δ := δ) (readNamed table) (fun value => .choice (name value)) := by
  constructor
  · intro value document spelled
    obtain ⟨bare, chosen⟩ := spelled
    rw [readNamed, if_pos bare, chosen, Option.bind_some, named]
  · intro value document found
    obtain ⟨bare, -⟩ := mem_of_readNamed found
    exact bare

variable {β : Type} {make : α → β} {document : δ}

theorem Restores.undoes_content (restores : Restores read write) {value : α}
    (spelled : ∃ part, content? document = some part ∧ Spells part (write value)) :
    ((content? document).bind read).map make = some (make value) := by
  obtain ⟨part, content, spelled⟩ := spelled
  rw [content, Option.bind_some, restores.undoes spelled, Option.map_some]

theorem Restores.keeps_content (restores : Restores read write) {result : β}
    (found : ((content? document).bind read).map make = some result) :
    ∃ value, make value = result ∧
      ∃ part, content? document = some part ∧ Agrees part (write value) := by
  obtain ⟨value, stands, made⟩ := Option.map_eq_some_iff.mp found
  obtain ⟨part, content, stands⟩ := Option.bind_eq_some_iff.mp stands
  exact ⟨value, made, part, content, restores.keeps stands⟩

end Parts

/-! ### Fields -/

section Fields

variable {parts present others : Fields δ} {fields : List (String × Written)}
  {read : δ → Option α} {write : α → Written} {name sought : String} {default : α}

theorem SpellsFields.names_eq (spelled : SpellsFields parts fields) :
    parts.map (·.1) = fields.map (·.1) := by
  induction parts generalizing fields with
  | nil =>
      cases fields with
      | nil => rfl
      | cons field fields => simp [SpellsFields] at spelled
  | cons part parts ih =>
      cases fields with
      | nil => simp [SpellsFields] at spelled
      | cons field fields =>
          obtain ⟨same, first, rest⟩ := spelled
          rw [List.map_cons, List.map_cons, same, ih rest]

/-- A field that is written is in the document, and no other one is. -/
theorem SpellsFields.lookup (spelled : SpellsFields parts fields) (sought : String) :
    Option.Rel Spells (parts.lookup sought) (fields.lookup sought) := by
  induction parts generalizing fields with
  | nil =>
      cases fields with
      | nil => exact .none
      | cons field fields => simp [SpellsFields] at spelled
  | cons part parts ih =>
      cases fields with
      | nil => simp [SpellsFields] at spelled
      | cons field fields =>
          obtain ⟨same, first, rest⟩ := spelled
          rw [List.lookup_cons, List.lookup_cons, same]
          cases sought == field.1 with
          | true => exact .some first
          | false => exact ih rest

theorem Restores.required (restores : Restores read write) (value : α)
    (holds : Option.Rel Spells (parts.lookup name) (some (write value))) :
    parts.required name read = some value := by
  rw [Fields.required]
  cases found : parts.lookup name with
  | none =>
      rw [found] at holds
      cases holds
  | some part =>
      rw [found] at holds
      cases holds with
      | some spelled => exact restores.undoes spelled

theorem Restores.withDefault (restores : Restores read write) (default : α) (entry : Option α)
    (holds : Option.Rel Spells (parts.lookup name) (entry.map write)) :
    parts.withDefault name default read = some (entry.getD default) := by
  rw [Fields.withDefault]
  cases entry with
  | none =>
      cases found : parts.lookup name with
      | none => rfl
      | some part =>
          rw [found] at holds
          cases holds
  | some value =>
      cases found : parts.lookup name with
      | none =>
          rw [found] at holds
          cases holds
      | some part =>
          rw [found] at holds
          cases holds with
          | some spelled => exact restores.undoes spelled

theorem Restores.agrees_required (restores : Restores read write) {value : α}
    (found : parts.required name read = some value) :
    ∀ part, parts.lookup name = some part → Agrees part (write value) := by
  intro part there
  rw [Fields.required, there, Option.bind_some] at found
  exact restores.keeps found

theorem Restores.agrees_withDefault (restores : Restores read write) {value : α}
    (found : parts.withDefault name default read = some value) :
    ∀ part, parts.lookup name = some part → Agrees part (write value) := by
  intro part there
  rw [Fields.withDefault, there] at found
  exact restores.keeps found

/-- Where no name occurs twice, the order of fields makes no difference. -/
theorem lookup_perm {β : Type} {fields others : List (String × β)} (arranged : fields.Perm others)
    (distinct : (fields.map (·.1)).Nodup) (sought : String) :
    fields.lookup sought = others.lookup sought := by
  induction arranged with
  | nil => rfl
  | cons field _ ih =>
      obtain ⟨-, distinct⟩ := List.nodup_cons.mp distinct
      rw [List.lookup_cons, List.lookup_cons, ih distinct]
  | swap first second rest =>
      have different : second.1 ≠ first.1 := by
        intro same
        simp [same] at distinct
      rw [List.lookup_cons, List.lookup_cons, List.lookup_cons, List.lookup_cons]
      cases isFirst : sought == first.1 with
      | false => cases sought == second.1 <;> rfl
      | true =>
          have isSecond : (sought == second.1) = false := by
            rw [eq_of_beq isFirst]
            simpa using different.symm
          rw [isSecond]
  | trans before _ ih later =>
      exact (ih distinct).trans (later ((before.map _).nodup_iff.mp distinct))

omit [Structured δ] in
/-- The known fields of a record are found among unknown ones, whatever the order. -/
theorem knownFields_of_perm {known : List String} (arranged : parts.Perm (present ++ others))
    (isKnown : ∀ part ∈ present, part.1 ∈ known) (isUnknown : ∀ part ∈ others, part.1 ∉ known)
    (distinct : (present.map (·.1)).Nodup) :
    ∃ kept, knownFields known parts = some kept ∧
      ∀ sought, kept.lookup sought = present.lookup sought := by
  have keptPerm : (parts.filter fun part => known.contains part.1).Perm present := by
    have presentKept : present.filter (fun part => known.contains part.1) = present :=
      List.filter_eq_self.mpr fun part member => by simpa using isKnown part member
    have othersLeft : others.filter (fun part => known.contains part.1) = [] :=
      List.filter_eq_nil_iff.mpr fun part member => by simpa using isUnknown part member
    have filtered := arranged.filter fun part => known.contains part.1
    rwa [List.filter_append, presentKept, othersLeft, List.append_nil] at filtered
  have keptDistinct := (keptPerm.map (·.1)).nodup_iff.mpr distinct
  refine ⟨_, ?_, lookup_perm keptPerm keptDistinct⟩
  rw [knownFields, if_pos keptDistinct]

/-- A written field, where there is a value for it. -/
def writtenField (name : String) (write : α → Written) (entry : Option α) :
    List (String × Written) :=
  (entry.map fun value => (name, write value)).toList

@[simp] theorem lookup_writtenField_append (entry : Option α) :
    (writtenField name write entry ++ fields).lookup sought =
      if sought = name then (entry.map write).or (fields.lookup sought)
      else fields.lookup sought := by
  by_cases same : sought = name
  · cases entry with
    | none => simp [writtenField, same]
    | some value => simp [writtenField, same]
  · have different : (sought == name) = false := by simpa using same
    cases entry with
    | none => simp [writtenField, same]
    | some value =>
        rw [writtenField, Option.map_some, Option.toList_some, List.singleton_append,
          List.lookup_cons, different, if_neg same]

@[simp] theorem lookup_writtenField (entry : Option α) :
    (writtenField name write entry).lookup sought =
      if sought = name then entry.map write else none := by
  rw [← List.append_nil (writtenField name write entry), lookup_writtenField_append,
    List.lookup_nil, Option.or_none]

theorem names_writtenField_append {known : List String} (entry : Option α)
    (names : (fields.map (·.1)).Sublist known) :
    ((writtenField name write entry ++ fields).map (·.1)).Sublist (name :: known) := by
  cases entry with
  | none => exact names.cons name
  | some value => exact names.cons_cons name

/-- The known fields are those that are present, among any others in any order. -/
theorem exists_known {known : List String} (arranged : parts.Perm (present ++ others))
    (spelled : SpellsFields present fields) (names : (fields.map (·.1)).Sublist known)
    (distinct : known.Nodup) (isUnknown : ∀ part ∈ others, part.1 ∉ known) :
    ∃ kept : Fields δ, knownFields known parts = some kept ∧
      ∀ sought, Option.Rel Spells (kept.lookup sought) (fields.lookup sought) := by
  have presentNames := spelled.names_eq
  obtain ⟨kept, keptFields, lookups⟩ := knownFields_of_perm arranged
    (fun part member => names.subset (presentNames ▸ List.mem_map_of_mem member)) isUnknown
    (presentNames ▸ distinct.sublist names)
  refine ⟨kept, keptFields, fun sought => ?_⟩
  rw [lookups]
  exact spelled.lookup sought

theorem SpellsFields.exists_known {known : List String} (spelled : SpellsFields parts fields)
    (names : (fields.map (·.1)).Sublist known) (distinct : known.Nodup) :
    ∃ kept : Fields δ, knownFields known parts = some kept ∧
      ∀ sought, Option.Rel Spells (kept.lookup sought) (fields.lookup sought) := by
  have alone : parts.Perm (parts ++ []) := by rw [List.append_nil]
  exact Format.exists_known alone spelled names distinct (by simp)

end Fields

end OutboundSms.Format
