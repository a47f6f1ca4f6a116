import OutboundSms.Format.Structured
import OutboundSms.Format.Written

/-!
# JSON-like documents

Trees of lists and objects. A written form has one document; a document is read
more freely than it is written: a record may be a list of its fields, a bare choice
may be an object with a null, and unknown fields are passed over.
-/

set_option autoImplicit false

namespace OutboundSms.Format

/-- A document. A number that is not written as an integer has no value here. -/
inductive Document where
  | null
  | bool (value : Bool)
  | integer (value : Int)
  | fraction
  | text (value : String)
  | list (items : List Document)
  | object (fields : List (String × Document))
  deriving Repr, Inhabited

mutual

def Written.toDocument : Written → Document
  | .bool value => .bool value
  | .natural value => .integer value
  | .text value => .text value
  | .absent => .null
  | .present value => value.toDocument
  | .list items => .list (toDocuments items)
  | .record fields => .object (toFields fields)
  | .choice name => .text name
  | .choiceOf name content => .object [(name, content.toDocument)]
  | .choiceWith name fields => .object [(name, .object (toFields fields))]

def toDocuments : List Written → List Document
  | [] => []
  | item :: rest => item.toDocument :: toDocuments rest

def toFields : List (String × Written) → List (String × Document)
  | [] => []
  | (name, value) :: rest => (name, value.toDocument) :: toFields rest

end

namespace Document

def bool? : Document → Option Bool
  | bool value => some value
  | _ => none

def natural? (bits : Nat) : Document → Option Nat
  | integer (.ofNat value) => if value < 1 <<< bits then some value else none
  | _ => none

def text? : Document → Option String
  | text value => some value
  | _ => none

def option? : Document → Option (Option Document)
  | null => some none
  | document => some (some document)

def list? : Document → Option (List Document)
  | list items => some items
  | _ => none

/-- The fields of an object, or the items of a list in the order of the known
fields. A list has no more items than there are fields. -/
def record? (_typeName : String) (known : List String) :
    Document → Option (List (String × Document))
  | object fields => knownFields known fields
  | list items => if items.length ≤ known.length then some (known.zip items) else none
  | _ => none

/-- A text is a choice, and so is an object with exactly one field. -/
def choiceName? : Document → Option String
  | text name => some name
  | object [(name, _)] => some name
  | _ => none

def isBare : Document → Bool
  | text _ => true
  | object [(_, null)] => true
  | _ => false

def content? : Document → Option Document
  | object [(_, content)] => some content
  | _ => none

def contentFields? (known : List String) : Document → Option (List (String × Document))
  | object [(_, object fields)] => knownFields known fields
  | _ => none

instance : Structured Document where
  bool?
  natural?
  text?
  option?
  list?
  record?
  choiceName?
  isBare
  content?
  contentFields?

end Document

end OutboundSms.Format
