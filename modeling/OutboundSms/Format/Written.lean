/-!
# Written forms

The shape in which a value is written, before a notation spells it out. A choice
is written by its name, with nothing, one value or named fields as its content.
-/

set_option autoImplicit false

namespace OutboundSms.Format

inductive Written where
  | bool (value : Bool)
  | natural (value : Nat)
  | text (value : String)
  | absent
  | present (value : Written)
  | list (items : List Written)
  | record (fields : List (String × Written))
  | choice (name : String)
  | choiceOf (name : String) (content : Written)
  | choiceWith (name : String) (fields : List (String × Written))
  deriving Repr

namespace Written

def optional {α : Type} (write : α → Written) : Option α → Written
  | none => absent
  | some value => present (write value)

def listOf {α : Type} (write : α → Written) (items : List α) : Written :=
  list (items.map write)

end Written

end OutboundSms.Format
