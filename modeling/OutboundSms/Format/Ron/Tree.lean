import OutboundSms.Format.Ron.Token

/-!
# RON trees

The shape of a RON text before anything is known about the type of its value: names,
literals, lists, maps, and parentheses with or without a name before them, around
items or named fields.
-/

set_option autoImplicit false

namespace OutboundSms.Format.Ron

/-- A tree. Characters, byte texts and decimal fractions have no value here, for no
type has them. -/
inductive Tree where
  | name (identifier : Identifier)
  | number (number : Number)
  | text (value : String)
  | other
  | list (items : List Tree)
  | map (entries : List (Tree × Tree))
  | group (name : Option Identifier) (items : List Tree)
  | fields (name : Option Identifier) (fields : List (Identifier × Tree))

/-- What a text may enable before its value. -/
inductive Extension where
  | unwrapNewtypes
  | implicitSome
  | unwrapVariantNewtypes
  | explicitStructNames
  deriving DecidableEq, Repr

namespace Extension

def named : List (String × Extension) :=
  [("unwrap_newtypes", unwrapNewtypes), ("implicit_some", implicitSome),
    ("unwrap_variant_newtypes", unwrapVariantNewtypes),
    ("explicit_struct_names", explicitStructNames)]

end Extension

/-! ### Atoms -/

/-- Reads a value that has no other values in it and does not begin with a name. -/
def atom? (chars : List Char) : Option (Tree × List Char) :=
  match chars with
  | [] => none
  | '"' :: _ | 'r' :: _ =>
      (text? chars).map fun (text, rest) => (.text (String.ofList text), rest)
  | '\'' :: rest => (enclosed? escape? rest).map fun (_, rest) => (.other, rest)
  | 'b' :: '\'' :: rest => (byteLiteral? rest).map fun (number, rest) => (.number number, rest)
  | 'b' :: _ => (byteText? chars).map fun (_, rest) => (.other, rest)
  | c :: _ =>
      if isDecimalDigit c || ['+', '-', '.'].contains c then
        (number? chars).map fun (number, rest) => (.number number, rest)
      else none

/-! ### Values

The readers below have room for so many calls within each other. No text needs more
than two for every character, as a parenthesis that opens also has to close. -/

/-- Whether a name and a colon come next. -/
def startsField (chars : List Char) : Bool :=
  match identifier? chars with
  | some (_, rest) => (skipBlank rest).bind (·.head?) == some ':'
  | none => false

/-- Passes over the comma between two items, or stops before the closing mark. -/
def separator? (close : Char) (chars : List Char) : Option (List Char) :=
  match chars with
  | ',' :: rest => skipBlank rest
  | c :: _ => if c = close then some chars else none
  | [] => none

mutual

def value? : Nat → List Char → Option (Tree × List Char)
  | 0, _ => none
  | room + 1, chars =>
      match identifier? chars with
      | some (name, rest) =>
          match skipBlank rest with
          | some ('(' :: inner) => parentheses? room (some name) inner
          | _ => some (.name name, rest)
      | none =>
          match chars with
          | '(' :: inner => parentheses? room none inner
          | '[' :: inner => do
              let (items, rest) ← items? room ']' (← skipBlank inner)
              return (.list items, rest)
          | '\x7b' :: inner => do
              let (entries, rest) ← entries? room (← skipBlank inner)
              return (.map entries, rest)
          | _ => atom? chars

def parentheses? : Nat → Option Identifier → List Char → Option (Tree × List Char)
  | 0, _, _ => none
  | room + 1, name, chars => do
      let chars ← skipBlank chars
      if startsField chars then
        let (fields, rest) ← fields? room chars
        return (.fields name fields, rest)
      else
        let (items, rest) ← items? room ')' chars
        return (.group name items, rest)

def items? : Nat → Char → List Char → Option (List Tree × List Char)
  | 0, _, _ => none
  | _ + 1, _, [] => none
  | room + 1, close, c :: chars =>
      if c = close then some ([], chars)
      else do
        let (item, rest) ← value? room (c :: chars)
        let rest ← separator? close (← skipBlank rest)
        let (items, rest) ← items? room close rest
        return (item :: items, rest)

def fields? : Nat → List Char → Option (List (Identifier × Tree) × List Char)
  | 0, _ => none
  | _ + 1, ')' :: chars => some ([], chars)
  | room + 1, chars => do
      let (name, rest) ← identifier? chars
      match ← skipBlank rest with
      | ':' :: rest => do
          let (value, rest) ← value? room (← skipBlank rest)
          let rest ← separator? ')' (← skipBlank rest)
          let (fields, rest) ← fields? room rest
          return ((name, value) :: fields, rest)
      | _ => none

def entries? : Nat → List Char → Option (List (Tree × Tree) × List Char)
  | 0, _ => none
  | _ + 1, '\x7d' :: chars => some ([], chars)
  | room + 1, chars => do
      let (key, rest) ← value? room chars
      match ← skipBlank rest with
      | ':' :: rest => do
          let (value, rest) ← value? room (← skipBlank rest)
          let rest ← separator? '\x7d' (← skipBlank rest)
          let (entries, rest) ← entries? room rest
          return ((key, value) :: entries, rest)
      | _ => none

end

/-! ### Whole texts -/

/-- Passes over marks with blanks between them. -/
def dropMarks? : List String → List Char → Option (List Char)
  | [], chars => some chars
  | mark :: rest, chars =>
      if mark.toList.isPrefixOf chars then
        (skipBlank (chars.drop mark.toList.length)).bind (dropMarks? rest)
      else none

/-- Reads the names of extensions up to the closing parenthesis. -/
def extensionNames? : Nat → List Char → Option (List Extension × List Char)
  | 0, _ => none
  | room + 1, chars => do
      let (name, rest) ← identifier? chars
      let extension ← Extension.named.lookup name.text
      match ← skipBlank rest with
      | ',' :: rest => do
          let rest ← skipBlank rest
          if (rest.head?.map fun c => c == '_' || Text.isIdentifierStart c).getD false then
            let (extensions, rest) ← extensionNames? room rest
            return (extension :: extensions, rest)
          else return ([extension], rest)
      | rest => return ([extension], rest)

/-- Reads the attributes before a value. -/
def attributes? : Nat → List Char → Option (List Extension × List Char)
  | 0, _ => none
  | room + 1, chars =>
      if chars.head? == some '#' then do
        let rest ← dropMarks? ["#", "!", "[", "enable", "("] chars
        let (extensions, rest) ← extensionNames? room rest
        let rest ← dropMarks? [")", "]"] (← skipBlank rest)
        let (others, rest) ← attributes? room rest
        return (extensions ++ others, rest)
      else some ([], chars)

/-- The extensions and the tree of a text that has exactly one value. -/
def tree? (source : String) : Option (List Extension × Tree) := do
  let room := source.length + 1
  let chars ← skipBlank source.toList
  let (extensions, chars) ← attributes? room chars
  let (tree, rest) ← value? (2 * room) chars
  match ← skipBlank rest with
  | [] => return (extensions, tree)
  | _ => none

end OutboundSms.Format.Ron
