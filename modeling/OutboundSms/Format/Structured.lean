/-!
# Structured documents

What a notation has to offer so that values can be read from its documents, and
the readers that are built from nothing else. A value is read the same way from
every notation.
-/

set_option autoImplicit false

namespace OutboundSms.Format

/-- Documents that values can be read from. Each operation fails on a document of
another shape.

`natural?` reads an integer of a width in bits and refuses one out of range.
`option?` tells an absent value from a present one. `record?` gives the fields of
a record type that are present, each at most once, and passes over unknown ones.
A choice has a name; it is bare, or it has one value or fields as its content. -/
class Structured (δ : Type) where
  bool? : δ → Option Bool
  natural? : (bits : Nat) → δ → Option Nat
  text? : δ → Option String
  option? : δ → Option (Option δ)
  list? : δ → Option (List δ)
  record? : (typeName : String) → (known : List String) → δ → Option (List (String × δ))
  choiceName? : δ → Option String
  isBare : δ → Bool
  content? : δ → Option δ
  contentFields? : (known : List String) → δ → Option (List (String × δ))

export Structured (bool? natural? text? option? list? record? choiceName? isBare content?
  contentFields?)

variable {δ : Type} [Structured δ]

/-! ### Readers -/

def readUInt8 (document : δ) : Option UInt8 :=
  (natural? 8 document).map UInt8.ofNat

def readUInt16 (document : δ) : Option UInt16 :=
  (natural? 16 document).map UInt16.ofNat

def readUInt32 (document : δ) : Option UInt32 :=
  (natural? 32 document).map UInt32.ofNat

def readUInt64 (document : δ) : Option UInt64 :=
  (natural? 64 document).map UInt64.ofNat

def readOption {α : Type} (read : δ → Option α) (document : δ) : Option (Option α) :=
  match option? document with
  | some (some document) => (read document).map some
  | some none => some none
  | none => none

/-- Reads a list; every item has to be readable. -/
def readList {α : Type} (read : δ → Option α) (document : δ) : Option (List α) :=
  (list? document).bind (·.mapM read)

def readNamed {α : Type} (table : List (String × α)) (document : δ) : Option α :=
  if isBare document then (choiceName? document).bind (List.lookup · table) else none

/-! ### Fields -/

abbrev Fields (δ : Type) := List (String × δ)

namespace Fields

def required {α : Type} (fields : Fields δ) (name : String) (read : δ → Option α) : Option α :=
  (fields.lookup name).bind read

def withDefault {α : Type} (fields : Fields δ) (name : String) (default : α)
    (read : δ → Option α) : Option α :=
  match fields.lookup name with
  | some document => read document
  | none => some default

end Fields

/-- The fields with one of the known names, in order, unless one of them occurs
twice. -/
def knownFields {α : Type} (known : List String) (fields : List (String × α)) :
    Option (List (String × α)) :=
  let kept := fields.filter fun field => known.contains field.1
  if (kept.map (·.1)).Nodup then some kept else none

end OutboundSms.Format
