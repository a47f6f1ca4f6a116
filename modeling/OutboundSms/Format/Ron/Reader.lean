import OutboundSms.Format.Ron.Tree
import OutboundSms.Format.Structured

/-!
# Reading values from RON

A tree is read as a value of a type, with the extensions that its text enables and
the room that is left for nesting. Every list, record, option and choice takes up
some of it, and nothing is nested deeper than it allows.
-/

set_option autoImplicit false

namespace OutboundSms.Format.Ron

/-- The greatest depth of nesting. -/
def nestingLimit : Nat := 128

mutual

/-- Whether a tree can be passed over, where no type is known for it. -/
def Tree.isSkippable : Nat → Tree → Bool
  | _, .name identifier => !identifier.isWord "Some"
  | _, .number _ | _, .text _ | _, .other => true
  | room, .list items => areSkippable room items
  | room, .map entries => entriesAreSkippable room entries
  | room, .group name items =>
      match name with
      | some identifier =>
          if identifier.isWord "Some" then
            match room, items with
            | room + 1, [item] => item.isSkippable room
            | _, _ => false
          else
            !(["None", "true", "false"].any identifier.isWord) && areSkippable room items
      | none => areSkippable room items
  | room, .fields name fields =>
      !((name.map fun identifier =>
          ["Some", "None", "true", "false"].any identifier.isWord).getD false) &&
        fieldsAreSkippable room fields

/-- The items of a list take up two levels, and an empty list takes up one. -/
def areSkippable : Nat → List Tree → Bool
  | 0, _ => false
  | _ + 1, [] => true
  | 1, _ :: _ => false
  | room + 2, item :: rest => item.isSkippable room && areSkippable (room + 2) rest

def entriesAreSkippable : Nat → List (Tree × Tree) → Bool
  | 0, _ => false
  | _ + 1, [] => true
  | 1, _ :: _ => false
  | room + 2, (key, value) :: rest =>
      key.isSkippable room && value.isSkippable room && entriesAreSkippable (room + 2) rest

def fieldsAreSkippable : Nat → List (Identifier × Tree) → Bool
  | 0, _ => false
  | _ + 1, [] => true
  | 1, _ :: _ => false
  | room + 2, (_, value) :: rest =>
      value.isSkippable room && fieldsAreSkippable (room + 2) rest

end

/-- A tree to be read. The content of a choice or option whose parentheses are
shared with it is no record of its own: `mayBeRecord` does not hold for it. -/
structure Node where
  tree : Tree
  room : Nat
  extensions : List Extension
  mayBeRecord : Bool := true

namespace Node

def enables (node : Node) (extension : Extension) : Bool :=
  node.extensions.contains extension

/-- A part of a tree, so many levels below it. -/
def part (node : Node) (levels : Nat) (tree : Tree) : Option Node :=
  if levels ≤ node.room then
    some { tree, room := node.room - levels, extensions := node.extensions }
  else none

def bool? (node : Node) : Option Bool :=
  match node.tree with
  | .name identifier =>
      if identifier.isWord "true" then some true
      else if identifier.isWord "false" then some false
      else none
  | _ => none

/-- An integer may name its type, which then has to be the one that is read. -/
def natural? (bits : Nat) (node : Node) : Option Nat :=
  match node.tree with
  | .number (.integer literal) =>
      let type : IntegerType := { signed := false, bits }
      if literal.fits type && (literal.type.map (· == type)).getD true then some literal.magnitude
      else none
  | _ => none

def text? (node : Node) : Option String :=
  match node.tree with
  | .text value => some value
  | _ => none

/-- The tree in the parentheses of a choice or option of one value. -/
def wrapped? (node : Node) (levels : Nat) : Option Node :=
  match node.tree with
  | .group (some _) [item] =>
      (node.part levels item).map fun part =>
        { part with mayBeRecord := !node.enables .unwrapVariantNewtypes }
  | .group (some _) [] =>
      if node.enables .unwrapVariantNewtypes then node.part levels (.group none []) else none
  | .fields (some _) fields =>
      if node.enables .unwrapVariantNewtypes then node.part levels (.fields none fields) else none
  | _ => none

/-- Without an extension a value that is there is written as such. -/
def option? (node : Node) : Option (Option Node) :=
  let implicit := if node.enables .implicitSome then (node.part 1 node.tree).map some else none
  match node.tree with
  | .name identifier =>
      if identifier.isWord "None" then some none
      else if identifier.isWord "Some" then none
      else implicit
  | .group (some identifier) _ | .fields (some identifier) _ =>
      if identifier.isWord "Some" then (node.wrapped? 1).map some
      else if identifier.isWord "None" then none
      else implicit
  | _ => implicit

def list? (node : Node) : Option (List Node) :=
  match node.tree with
  | .list items =>
      if items.isEmpty && node.room = 0 then none else items.mapM (node.part 2)
  | _ => none

/-- Whether the name before a record is the one of its type. It may be left out,
unless it has to be given. -/
def allowsTypeName (node : Node) (typeName : String) : Option Identifier → Bool
  | some identifier => identifier.text == typeName
  | none => !node.enables .explicitStructNames

/-- The known fields of a record, some levels below it. The others have to be of a
shape that can be passed over. -/
def fieldParts (node : Node) (levels : Nat) (known : List String)
    (fields : List (Identifier × Tree)) : Option (List (String × Node)) := do
  let parts ← fields.mapM fun (name, tree) => do
    return (name.text, ← node.part levels tree)
  if parts.all fun (name, part) => known.contains name || part.tree.isSkippable part.room then
    knownFields known parts
  else none

def record? (typeName : String) (known : List String) (node : Node) :
    Option (List (String × Node)) :=
  if !node.mayBeRecord then none
  else
    match node.tree with
    | .fields name fields =>
        if node.allowsTypeName typeName name then node.fieldParts 2 known fields else none
    | .group name [] =>
        if node.allowsTypeName typeName name && 0 < node.room then some [] else none
    | _ => none

def choiceName? (node : Node) : Option String :=
  match node.tree with
  | .name identifier => some identifier.text
  | .group (some identifier) _ | .fields (some identifier) _ => some identifier.text
  | _ => none

def isBare (node : Node) : Bool :=
  match node.tree with
  | .name _ => true
  | _ => false

def content? (node : Node) : Option Node :=
  node.wrapped? 2

def contentFields? (known : List String) (node : Node) : Option (List (String × Node)) :=
  match node.tree with
  | .fields (some _) fields => node.fieldParts 3 known fields
  | .group (some _) [] => some []
  | _ => none

instance : Structured Node where
  bool?
  natural?
  text?
  option?
  list?
  record?
  choiceName?
  isBare
  content?
  contentFields?

end Node

/-- Reads the value of a text. -/
def read? {α : Type} (read : Node → Option α) (source : String) : Option α := do
  let (extensions, tree) ← tree? source
  read { tree, room := nestingLimit, extensions }

end OutboundSms.Format.Ron
