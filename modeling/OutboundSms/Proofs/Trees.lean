import OutboundSms.Format.Ron.Reader
import OutboundSms.Proofs.Documents

/-!
# RON trees of written forms

A written form has one tree. Where the room for nesting suffices, that tree spells the form,
and it can be passed over as the value of a field that is not known.
-/

set_option autoImplicit false

namespace OutboundSms.Format.Ron

/-- Fields in parentheses; without any, nothing tells them from items. -/
def parenthesized (name : Option Identifier) : List (Identifier × Tree) → Tree
  | [] => .group name []
  | fields => .fields name fields

mutual

def toTree : Written → Tree
  | .bool value => .name { text := if value then "true" else "false" }
  | .natural value => .number (.integer { negative := false, magnitude := value })
  | .text value => .text value
  | .absent => .name { text := "None" }
  | .present value => .group (some { text := "Some" }) [toTree value]
  | .list items => .list (toTrees items)
  | .record fields => parenthesized none (toTreeFields fields)
  | .choice name => .name { text := name }
  | .choiceOf name content => .group (some { text := name }) [toTree content]
  | .choiceWith name fields => parenthesized (some { text := name }) (toTreeFields fields)

def toTrees : List Written → List Tree
  | [] => []
  | item :: rest => toTree item :: toTrees rest

def toTreeFields : List (String × Written) → List (Identifier × Tree)
  | [] => []
  | (name, value) :: rest => ({ text := name }, toTree value) :: toTreeFields rest

end

theorem toTreeFields_eq_map (fields : List (String × Written)) :
    toTreeFields fields = fields.map fun field => ({ text := field.1 }, toTree field.2) := by
  induction fields with
  | nil => rfl
  | cons field fields ih => exact congrArg (List.cons _) ih

theorem isWord_of_isName {name word : String} (isName : IsName name)
    (reserved : word ∈ ["Some", "None", "true", "false"]) :
    Identifier.isWord { text := name } word = false := by
  have different : name ≠ word := fun same => isName.2 (same ▸ reserved)
  simpa [Identifier.isWord] using different

/-! ### Passing over -/

theorem isSkippable_parenthesized {name : Option Identifier}
    {fields : List (Identifier × Tree)} {room : Nat}
    (plain : ∀ identifier ∈ name, ∀ word ∈ ["Some", "None", "true", "false"],
      identifier.isWord word = false)
    (skipped : fieldsAreSkippable (room + 2) fields = true) :
    (parenthesized name fields).isSkippable (room + 2) = true := by
  cases name with
  | none =>
      cases fields with
      | nil => simp [parenthesized, Tree.isSkippable, areSkippable]
      | cons field fields => simp [parenthesized, Tree.isSkippable, skipped]
  | some identifier =>
      have words := plain identifier rfl
      cases fields with
      | nil => simp [parenthesized, Tree.isSkippable, areSkippable, words]
      | cons field fields => simp [parenthesized, Tree.isSkippable, skipped, words]

-- The room is let grow, since passing over takes less of it than reading does: two levels for
-- the fields of a choice and not three.
mutual

theorem isSkippable_toTree :
    ∀ (written : Written) {room larger : Nat}, written.Fits room → room ≤ larger →
      (toTree written).isSkippable larger = true
  | .bool value, _, _, _, _ => by cases value <;> simp [toTree, Tree.isSkippable, Identifier.isWord]
  | .natural _, _, _, _, _ => by simp [toTree, Tree.isSkippable]
  | .text _, _, _, _, _ => by simp [toTree, Tree.isSkippable]
  | .absent, _, _, _, _ => by simp [toTree, Tree.isSkippable, Identifier.isWord]
  | .present value, room, larger, ⟨enough, _, fits⟩, le => by
      obtain ⟨left, rfl⟩ := Nat.exists_eq_add_of_le' (Nat.le_trans enough le)
      simpa [toTree, Tree.isSkippable, Identifier.isWord] using
        isSkippable_toTree value fits (by omega)
  | .list items, room, larger, ⟨enough, fit⟩, le => by
      obtain ⟨left, rfl⟩ := Nat.exists_eq_add_of_le' (Nat.le_trans enough le)
      simpa [toTree, Tree.isSkippable] using areSkippable_toTrees items fit (by omega)
  | .record fields, room, larger, ⟨enough, fit⟩, le => by
      obtain ⟨left, rfl⟩ := Nat.exists_eq_add_of_le' (Nat.le_trans enough le)
      exact isSkippable_parenthesized (by simp)
        (fieldsAreSkippable_toTreeFields fields fit (by omega))
  | .choice name, _, _, isName, _ => by
      simp [toTree, Tree.isSkippable, isWord_of_isName isName]
  | .choiceOf name content, room, larger, ⟨isName, enough, fits⟩, le => by
      obtain ⟨left, rfl⟩ := Nat.exists_eq_add_of_le' (Nat.le_trans enough le)
      have skipped : (toTree content).isSkippable left = true :=
        isSkippable_toTree content fits (by omega)
      simp [toTree, Tree.isSkippable, isWord_of_isName isName, areSkippable, skipped]
  | .choiceWith name fields, room, larger, ⟨isName, enough, fit⟩, le => by
      obtain ⟨left, rfl⟩ := Nat.exists_eq_add_of_le' (Nat.le_trans enough le)
      refine isSkippable_parenthesized ?_
        (fieldsAreSkippable_toTreeFields fields fit (by omega))
      rintro identifier ⟨⟩ word reserved
      exact isWord_of_isName isName reserved

theorem areSkippable_toTrees :
    ∀ (items : List Written) {room larger : Nat}, ItemsFit room items → room ≤ larger →
      areSkippable (larger + 2) (toTrees items) = true
  | [], _, _, _, _ => by simp [toTrees, areSkippable]
  | item :: items, _, _, ⟨fits, fit⟩, le => by
      simp [toTrees, areSkippable, isSkippable_toTree item fits le,
        areSkippable_toTrees items fit le]

theorem fieldsAreSkippable_toTreeFields :
    ∀ (fields : List (String × Written)) {room larger : Nat}, FieldsFit room fields →
      room ≤ larger → fieldsAreSkippable (larger + 2) (toTreeFields fields) = true
  | [], _, _, _, _ => by simp [toTreeFields, fieldsAreSkippable]
  | (name, value) :: fields, _, _, ⟨_, fits, fit⟩, le => by
      simp [toTreeFields, fieldsAreSkippable, isSkippable_toTree value fits le,
        fieldsAreSkippable_toTreeFields fields fit le]

end

/-! ### Nodes -/

/-- A tree of a text without attributes. -/
def plainNode (room : Nat) (tree : Tree) : Node :=
  { tree, room, extensions := [] }

def plainParts (room : Nat) (fields : List (Identifier × Tree)) : Fields Node :=
  fields.map fun field => (field.1.text, plainNode room field.2)

theorem part_plainNode {room levels : Nat} (enough : levels ≤ room) (tree part : Tree) :
    (plainNode room tree).part levels part = some (plainNode (room - levels) part) :=
  if_pos enough

theorem wrapped?_plainNode {room levels : Nat} (enough : levels ≤ room) (name : Identifier)
    (item : Tree) :
    (plainNode room (.group (some name) [item])).wrapped? levels =
      some (plainNode (room - levels) item) := by
  have part := part_plainNode enough (.group (some name) [item]) item
  rw [Node.wrapped?.eq_def]
  simp only [plainNode] at part ⊢
  rw [part]
  rfl

theorem mapM_part {room levels : Nat} (enough : levels ≤ room) (tree : Tree)
    (items : List Tree) :
    items.mapM ((plainNode room tree).part levels) =
      some (items.map (plainNode (room - levels))) := by
  rw [funext (part_plainNode enough tree)]
  exact List.mapM_pure

theorem mapM_fieldPart {room levels : Nat} (enough : levels ≤ room) (tree : Tree)
    (fields : List (Identifier × Tree)) :
    (fields.mapM fun (name, part) => do
      return (name.text, ← (plainNode room tree).part levels part)) =
      some (plainParts (room - levels) fields) := by
  simp only [part_plainNode enough]
  exact List.mapM_pure

/-- Fields that could all be passed over are the parts of a record, whichever are known. -/
theorem fieldParts_plainNode {fields : List (Identifier × Tree)} {room levels : Nat}
    (enough : levels ≤ room)
    (skippable : ∀ field ∈ fields, field.2.isSkippable (room - levels) = true) (tree : Tree)
    (known : List String) :
    (plainNode room tree).fieldParts levels known fields =
      knownFields known (plainParts (room - levels) fields) := by
  rw [Node.fieldParts, mapM_fieldPart enough]
  refine if_pos (List.all_eq_true.mpr ?_)
  intro part member
  obtain ⟨field, among, rfl⟩ := List.mem_map.mp member
  exact Bool.or_eq_true_iff.mpr (.inr (skippable field among))

theorem isRecord_parenthesized {fields : List (Identifier × Tree)} {room : Nat}
    (enough : 2 ≤ room)
    (skippable : ∀ field ∈ fields, field.2.isSkippable (room - 2) = true) :
    IsRecord (plainNode room (parenthesized none fields)) (plainParts (room - 2) fields) := by
  intro typeName known
  cases fields with
  | nil =>
      have positive : 0 < room := by omega
      simp [Format.record?, Node.record?, plainNode, parenthesized, plainParts,
        Node.allowsTypeName, Node.enables, knownFields, positive]
  | cons field fields => exact fieldParts_plainNode enough skippable _ known

theorem contentFields?_parenthesized {name : Identifier} {fields : List (Identifier × Tree)}
    {room : Nat} (enough : 3 ≤ room)
    (skippable : ∀ field ∈ fields, field.2.isSkippable (room - 3) = true) (known : List String) :
    contentFields? known (plainNode room (parenthesized (some name) fields)) =
      knownFields known (plainParts (room - 3) fields) := by
  cases fields with
  | nil => rfl
  | cons field fields => exact fieldParts_plainNode enough skippable _ known

theorem isSkippable_of_mem_toTreeFields {fields : List (String × Written)} {room : Nat}
    (fit : FieldsFit room fields) :
    ∀ field ∈ toTreeFields fields, field.2.isSkippable room = true := by
  induction fields with
  | nil => simp [toTreeFields]
  | cons field fields ih =>
      obtain ⟨-, fits, fit⟩ := fit
      intro part member
      rcases List.mem_cons.mp member with rfl | member
      · exact isSkippable_toTree field.2 fits (Nat.le_refl room)
      · exact ih fit part member

mutual

theorem spells_toTree :
    ∀ (written : Written) {room : Nat}, written.Fits room →
      Spells (plainNode room (toTree written)) written
  | .bool value, _, _ => by cases value <;> rfl
  | .natural value, _, _ => by
      intro bits
      simp [Format.natural?, Node.natural?, plainNode, toTree, IntegerLiteral.fits]
  | .text _, _, _ => rfl
  | .absent, _, _ => rfl
  | .present value, room, ⟨enough, _, fits⟩ => by
      refine ⟨plainNode (room - 1) (toTree value), ?_, spells_toTree value fits⟩
      exact congrArg (Option.map some) (wrapped?_plainNode enough { text := "Some" } (toTree value))
  | .list items, room, ⟨enough, fit⟩ => by
      refine ⟨(toTrees items).map (plainNode (room - 2)), ?_, spellsItems_toTrees items fit⟩
      have occupied : ¬ (((toTrees items).isEmpty && decide (room = 0)) = true) := by
        simp only [Bool.and_eq_true, decide_eq_true_eq]
        omega
      rw [← mapM_part enough (toTree (.list items))]
      exact if_neg occupied
  | .record fields, room, ⟨enough, fit⟩ =>
      ⟨plainParts (room - 2) (toTreeFields fields), spellsFields_toTreeFields fields fit,
        isRecord_parenthesized enough (isSkippable_of_mem_toTreeFields fit)⟩
  | .choice _, _, _ => ⟨rfl, rfl⟩
  | .choiceOf name content, room, ⟨_, enough, fits⟩ => by
      refine ⟨rfl, plainNode (room - 2) (toTree content), ?_, spells_toTree content fits⟩
      exact wrapped?_plainNode enough { text := name } (toTree content)
  | .choiceWith name fields, room, ⟨_, enough, fit⟩ => by
      refine ⟨?_, plainParts (room - 3) (toTreeFields fields),
        spellsFields_toTreeFields fields fit,
        contentFields?_parenthesized enough (isSkippable_of_mem_toTreeFields fit)⟩
      cases fields with
      | nil => rfl
      | cons field fields => rfl

theorem spellsItems_toTrees :
    ∀ (items : List Written) {room : Nat}, ItemsFit room items →
      SpellsItems ((toTrees items).map (plainNode room)) items
  | [], _, _ => trivial
  | item :: items, _, ⟨fits, fit⟩ => ⟨spells_toTree item fits, spellsItems_toTrees items fit⟩

theorem spellsFields_toTreeFields :
    ∀ (fields : List (String × Written)) {room : Nat}, FieldsFit room fields →
      SpellsFields (plainParts room (toTreeFields fields)) fields
  | [], _, _ => trivial
  | (_, value) :: fields, _, ⟨_, fits, fit⟩ =>
      ⟨rfl, spells_toTree value fits, spellsFields_toTreeFields fields fit⟩

end

/-! ### Integers -/

theorem fits_unsigned {literal : IntegerLiteral} {bits : Nat} :
    literal.fits { signed := false, bits } = true ↔
      literal.magnitude < 1 <<< bits ∧ (literal.negative = true → literal.magnitude = 0) := by
  have positive : 0 < 1 <<< bits := by
    rw [Nat.one_shiftLeft]
    exact Nat.two_pow_pos bits
  cases negative : literal.negative with
  | false => simp [IntegerLiteral.fits, negative]
  | true =>
      simp only [IntegerLiteral.fits, negative, Bool.false_eq_true, if_false, if_true, beq_iff_eq,
        forall_const]
      constructor
      · intro zero
        rw [zero]
        exact ⟨positive, rfl⟩
      · exact And.right

instance : Bounded Node where
  natural?_lt := by
    intro bits value node found
    obtain ⟨tree, room, extensions, mayBeRecord⟩ := node
    cases tree with
    | number number =>
        cases number with
        | integer literal =>
            simp only [Format.natural?, Node.natural?, Bool.and_eq_true,
              Option.ite_none_right_eq_some, Option.some.injEq] at found
            obtain ⟨⟨fits, -⟩, rfl⟩ := found
            exact (fits_unsigned.mp fits).1
        | float => simp [Format.natural?, Node.natural?] at found
    | _ => simp [Format.natural?, Node.natural?] at found

end OutboundSms.Format.Ron
