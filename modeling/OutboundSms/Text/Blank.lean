/-!
# Blank characters and trimming

The characters with the Unicode property White_Space, and the removal of a run
of them from both ends of a text. Zero width spaces, byte order marks and the
information separators are not blank.
-/

set_option autoImplicit false

namespace OutboundSms.Text

/-- Membership in the Unicode property White_Space. -/
def isBlank (c : Char) : Bool :=
  let code := c.toNat
  (0x09 ≤ code && code ≤ 0x0D) || code == 0x20 || code == 0x85 || code == 0xA0 ||
    code == 0x1680 || (0x2000 ≤ code && code ≤ 0x200A) || code == 0x2028 || code == 0x2029 ||
    code == 0x202F || code == 0x205F || code == 0x3000

/-- Removes the blank characters at both ends of a list and no others. -/
def trimBlank (chars : List Char) : List Char :=
  ((chars.dropWhile isBlank).reverse.dropWhile isBlank).reverse

/-- Removes the blank characters at both ends of a text and no others. -/
def trim (text : String) : String :=
  String.ofList (trimBlank text.toList)

/-- Whether a text has no character other than blank ones. -/
def isAllBlank (text : String) : Bool :=
  text.toList.all isBlank

end OutboundSms.Text
