import OutboundSms.Format.Written
import OutboundSms.Text.Visible

/-!
# Printing RON

The text of a written form, with every item and field on a line of its own, four
spaces deeper than what it belongs to and with a comma behind it. Records are
printed without the names of their types.
-/

set_option autoImplicit false

namespace OutboundSms.Format.Ron

/-- A character as it stands in a quoted text. What cannot be shown is given by its
code point in base sixteen. -/
def quoteChar (c : Char) : List Char :=
  match c with
  | '\x00' => ['\\', '0']
  | '\t' => ['\\', 't']
  | '\r' => ['\\', 'r']
  | '\n' => ['\\', 'n']
  | '\'' => ['\\', '\'']
  | '"' => ['\\', '"']
  | '\\' => ['\\', '\\']
  | _ =>
      if Text.isVisible c then [c]
      else ['\\', 'u', '\x7b'] ++ Nat.toDigits 16 c.toNat ++ ['\x7d']

/-- A text in quotation marks. -/
def quote (text : String) : String :=
  "\"" ++ String.ofList (text.toList.flatMap quoteChar) ++ "\""

/-- The beginning of a line at a depth. -/
def indent (depth : Nat) : String :=
  String.ofList (List.replicate (4 * depth) ' ')

mutual

/-- The text of a written form whose first line stands at a depth. -/
def print (depth : Nat) : Written → String
  | .bool value => if value then "true" else "false"
  | .natural value => toString value
  | .text value => quote value
  | .absent => "None"
  | .present value => "Some(" ++ print depth value ++ ")"
  | .list [] => "[]"
  | .list (item :: rest) =>
      "[\n" ++ printItems (depth + 1) (item :: rest) ++ indent depth ++ "]"
  | .record fields => printRecord depth fields
  | .choice name => name
  | .choiceOf name content => name ++ "(" ++ print depth content ++ ")"
  | .choiceWith name fields => name ++ printRecord depth fields

def printRecord (depth : Nat) : List (String × Written) → String
  | [] => "()"
  | field :: rest => "(\n" ++ printFields (depth + 1) (field :: rest) ++ indent depth ++ ")"

def printItems (depth : Nat) : List Written → String
  | [] => ""
  | item :: rest => indent depth ++ print depth item ++ ",\n" ++ printItems depth rest

def printFields (depth : Nat) : List (String × Written) → String
  | [] => ""
  | (name, value) :: rest =>
      indent depth ++ name ++ ": " ++ print depth value ++ ",\n" ++ printFields depth rest

end

/-- The text of a written form. -/
def render (written : Written) : String :=
  print 0 written

end OutboundSms.Format.Ron
