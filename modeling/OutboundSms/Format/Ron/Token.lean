import OutboundSms.Text.Identifier

/-!
# Tokens of RON

Blanks and comments, identifiers, numbers, and texts. A reader takes the characters
that are left and gives what it read with the rest.
-/

set_option autoImplicit false

namespace OutboundSms.Format.Ron

/-! ### Blanks and comments -/

/-- The characters that may stand between tokens. -/
def isBlank (c : Char) : Bool :=
  [' ', '\t', '\n', '\r', '\x0b', '\x0c', '\u0085', '\u200e', '\u200f', '\u2028',
    '\u2029'].contains c

/-- Where a reader stands between tokens: outside of comments, in a comment that
ends with its line, or in so many nested comments. -/
inductive Gap where
  | blank
  | line
  | block (depth : Nat)

/-- Passes over the rest of a gap. A nested comment has to be closed, and a solidus
begins nothing but a comment. -/
def passGap : Gap → List Char → Option (List Char)
  | .blank, '/' :: '/' :: rest => passGap .line rest
  | .blank, '/' :: '*' :: rest => passGap (.block 0) rest
  | .blank, '/' :: _ => none
  | .blank, c :: rest => if isBlank c then passGap .blank rest else some (c :: rest)
  | .blank, [] => some []
  | .line, c :: rest => if c = '\n' then passGap .blank rest else passGap .line rest
  | .line, [] => some []
  | .block depth, '/' :: '*' :: rest => passGap (.block (depth + 1)) rest
  | .block 0, '*' :: '/' :: rest => passGap .blank rest
  | .block (depth + 1), '*' :: '/' :: rest => passGap (.block depth) rest
  | .block depth, _ :: rest => passGap (.block depth) rest
  | .block _, [] => none

/-- Passes over blanks and comments. -/
def skipBlank (chars : List Char) : Option (List Char) :=
  passGap .blank chars

/-! ### Identifiers -/

/-- A name. A raw one is marked as such and may have more characters. -/
structure Identifier where
  text : String
  raw : Bool := false
  deriving DecidableEq, Repr

/-- Whether a name is a word of the notation itself. -/
def Identifier.isWord (identifier : Identifier) (word : String) : Bool :=
  !identifier.raw && identifier.text == word

def isRawContinue (c : Char) : Bool :=
  c == '.' || c == '+' || c == '-' || Text.isIdentifierContinue c

/-- The beginnings of byte and raw texts, which look like those of names. -/
def literalStarts : List (List Char) :=
  ["b\"", "b'", "br#", "br\"", "r\"", "r#\"", "r##"].map String.toList

/-- Reads a name. A name that is not raw ends before no character that a raw one
could go on with. -/
def identifier? (chars : List Char) : Option (Identifier × List Char) :=
  match chars with
  | [] => none
  | first :: _ =>
      if !(first == '_' || Text.isIdentifierStart first) then none
      else if literalStarts.any (·.isPrefixOf chars) then none
      else
        match chars with
        | 'r' :: '#' :: rest =>
            let name := rest.takeWhile isRawContinue
            if name.isEmpty then none
            else some ({ text := String.ofList name, raw := true }, rest.dropWhile isRawContinue)
        | _ =>
            let rest := chars.dropWhile Text.isIdentifierContinue
            if (rest.head?.map isRawContinue).getD false then none
            else some ({ text := String.ofList (chars.takeWhile Text.isIdentifierContinue) }, rest)

/-- Passes over a word that is not the beginning of a longer name. -/
def dropWord? (word : String) (chars : List Char) : Option (List Char) :=
  let letters := word.toList
  if letters.isPrefixOf chars then
    let rest := chars.drop letters.length
    if (rest.head?.map Text.isIdentifierContinue).getD false then none else some rest
  else none

/-! ### Digits -/

/-- The value of a digit, with letters for the digits from ten on. -/
def digitValue? (c : Char) : Option Nat :=
  let code := c.toNat
  if 0x30 ≤ code && code ≤ 0x39 then some (code - 0x30)
  else if 0x41 ≤ code && code ≤ 0x46 then some (code - 0x41 + 10)
  else if 0x61 ≤ code && code ≤ 0x66 then some (code - 0x61 + 10)
  else none

def isDecimalDigit (c : Char) : Bool :=
  0x30 ≤ c.toNat && c.toNat ≤ 0x39

/-- What an integer is made of: digits of any base and low lines between them. -/
def isIntegerChar (c : Char) : Bool :=
  c == '_' || (digitValue? c).isSome

/-- What a decimal fraction is made of. -/
def isFloatChar (c : Char) : Bool :=
  isDecimalDigit c || ['e', 'E', '.', '+', '-', '_'].contains c

/-! ### Numbers -/

/-- The integer types that a number may name behind its digits. -/
structure IntegerType where
  signed : Bool
  bits : Nat
  deriving DecidableEq, Repr

/-- An integer as it was written. -/
structure IntegerLiteral where
  negative : Bool
  magnitude : Nat
  type : Option IntegerType := none
  deriving DecidableEq, Repr

namespace IntegerLiteral

/-- Whether the number is one of a type of integers. -/
def fits (literal : IntegerLiteral) (type : IntegerType) : Bool :=
  if type.signed then
    if literal.negative then literal.magnitude ≤ 1 <<< (type.bits - 1)
    else literal.magnitude < 1 <<< (type.bits - 1)
  else if literal.negative then literal.magnitude == 0
  else literal.magnitude < 1 <<< type.bits

/-- Whether the number fits the type it names, or any type where it names none. -/
def isSound (literal : IntegerLiteral) : Bool :=
  match literal.type with
  | some type => literal.fits type
  | none => literal.fits { signed := literal.negative, bits := 64 }

end IntegerLiteral

inductive Number where
  | integer (literal : IntegerLiteral)
  | float
  deriving DecidableEq, Repr

def integerTypes : List (String × IntegerType) :=
  [("i8", { signed := true, bits := 8 }), ("i16", { signed := true, bits := 16 }),
    ("i32", { signed := true, bits := 32 }), ("i64", { signed := true, bits := 64 }),
    ("u8", { signed := false, bits := 8 }), ("u16", { signed := false, bits := 16 }),
    ("u32", { signed := false, bits := 32 }), ("u64", { signed := false, bits := 64 })]

/-- Reads the type that a number names, if it names one. -/
def integerType? (chars : List Char) : Option (IntegerType × List Char) :=
  integerTypes.findSome? fun (word, type) => (dropWord? word chars).map fun rest => (type, rest)

/-- Passes over a sign, and tells whether it is negative. -/
def dropSign : List Char → Bool × List Char
  | '+' :: rest => (false, rest)
  | '-' :: rest => (true, rest)
  | chars => (false, chars)

/-- Passes over the mark of a base. -/
def dropBase : List Char → Nat × List Char
  | '0' :: 'b' :: rest => (2, rest)
  | '0' :: 'o' :: rest => (8, rest)
  | '0' :: 'x' :: rest => (16, rest)
  | chars => (10, chars)

/-- The number that digits of a base stand for. The first has to be a digit, and a
digit that the base does not have ends the reading; the error is what is left there. -/
def magnitude (base : Nat) (value : Nat) : List Char → Except (List Char) Nat
  | [] => .ok value
  | c :: rest =>
      match digitValue? c with
      | none => magnitude base value rest
      | some digit =>
          if digit < base then magnitude base (value * base + digit) rest else .error (c :: rest)

/-- Reads an integer, with its sign, base and type. Only decimal and binary digits
may have a type behind them. The error is what is left where the reading failed. -/
def integer (chars : List Char) : Except (List Char) (IntegerLiteral × List Char) :=
  let (negative, unsigned) := dropSign chars
  let (base, body) := dropBase unsigned
  let digits := body.takeWhile isIntegerChar
  let rest := body.dropWhile isIntegerChar
  if digits.isEmpty || digits.head? == some '_' then .error body
  else
    match magnitude base 0 digits with
    | .error left => .error (left ++ rest)
    | .ok magnitude =>
        match if base = 10 ∨ base = 2 then integerType? rest else none with
        | some (type, rest) => .ok ({ negative, magnitude, type := some type }, rest)
        | none => .ok ({ negative, magnitude }, rest)

/-- Whether low lines stand only behind digits and exponent marks. -/
def underscoresAllowed (allowed : Bool) : List Char → Bool
  | [] => true
  | '_' :: rest => allowed && underscoresAllowed allowed rest
  | '.' :: rest => underscoresAllowed false rest
  | '+' :: rest | '-' :: rest => underscoresAllowed allowed rest
  | _ :: rest => underscoresAllowed true rest

/-- Whether characters are an exponent mark, a sign where there is one, and digits. -/
def isExponent : List Char → Bool
  | [] => true
  | c :: rest =>
      let digits := (dropSign rest).2
      (c == 'e' || c == 'E') && !digits.isEmpty && digits.all isDecimalDigit

/-- Whether characters are a decimal number: a sign, digits around a point with at
least one digit, and an exponent, of which all but the digits may be missing. -/
def isDecimal (chars : List Char) : Bool :=
  let body := (dropSign chars).2
  let whole := body.takeWhile isDecimalDigit
  match body.dropWhile isDecimalDigit with
  | '.' :: rest =>
      let part := rest.takeWhile isDecimalDigit
      !(whole.isEmpty && part.isEmpty) && isExponent (rest.dropWhile isDecimalDigit)
  | rest => !whole.isEmpty && isExponent rest

/-- Passes over the type of a decimal fraction, if it names one. -/
def dropFloatType (chars : List Char) : List Char :=
  ((dropWord? "f32" chars).or (dropWord? "f64" chars)).getD chars

/-- Passes over a decimal fraction, or one of the words for what is no number. -/
def float? (chars : List Char) : Option (List Char) :=
  match ["inf", "NaN"].findSome? fun word => dropWord? word (dropSign chars).2 with
  | some rest => some rest
  | none =>
      let digits := chars.takeWhile isFloatChar
      if digits.head? == some '_' then none
      else if underscoresAllowed false digits && isDecimal (digits.filter (· != '_')) then
        some (dropFloatType (chars.dropWhile isFloatChar))
      else none

/-- Reads a number. An integer that cannot be read as such may still be a decimal
fraction, if that leaves no more than was left where the reading failed. -/
def number? (chars : List Char) : Option (Number × List Char) :=
  let body := (dropSign chars).2
  let asFloat := (float? chars).map fun rest => (Number.float, rest)
  if (body.takeWhile isIntegerChar).length < (body.takeWhile isFloatChar).length then asFloat
  else
    match integer chars with
    | .ok (literal, rest) =>
        if literal.isSound then some (.integer literal, rest)
        else asFloat.filter (·.2.length ≤ rest.length)
    | .error left => asFloat.filter (·.2.length ≤ left.length)

/-! ### Texts -/

/-- Reads two digits of base sixteen. -/
def byte? : List Char → Option (Nat × List Char)
  | high :: low :: rest => do
      let high ← digitValue? high
      let low ← digitValue? low
      return (high * 16 + low, rest)
  | _ => none

/-- The character of a code point, unless it is none. -/
def charOf? (code : Nat) : Option Char :=
  if code.isValidChar then some (Char.ofNat code) else none

/-- Reads escaped bytes that continue a character of several bytes. -/
def continuation? : Nat → Nat → List Char → Option (Nat × List Char)
  | 0, code, chars => some (code, chars)
  | count + 1, code, '\\' :: 'x' :: chars => do
      let (byte, rest) ← byte? chars
      if 0x80 ≤ byte ∧ byte < 0xC0 then continuation? count (code * 64 + (byte - 0x80)) rest
      else none
  | _ + 1, _, _ => none

/-- Reads a character whose bytes are escaped one by one, in their shortest form. -/
def escapedBytes? (chars : List Char) : Option (Char × List Char) := do
  let (first, rest) ← byte? chars
  let (count, code, least) ←
    if first < 0x80 then some (0, first, 0)
    else if 0xC0 ≤ first ∧ first < 0xE0 then some (1, first - 0xC0, 0x80)
    else if 0xE0 ≤ first ∧ first < 0xF0 then some (2, first - 0xE0, 0x800)
    else if 0xF0 ≤ first ∧ first < 0xF8 then some (3, first - 0xF0, 0x10000)
    else none
  let (code, rest) ← continuation? count code rest
  if least ≤ code then return (← charOf? code, rest) else none

/-- Reads an escaped code point of one to six digits, up to the closing brace. -/
def escapedCode? (chars : List Char) : Option (Char × List Char) :=
  let digits := chars.takeWhile (· != '\x7d')
  if digits.isEmpty || 6 < digits.length then none
  else
    match digits.mapM digitValue?, chars.drop digits.length with
    | some values, '\x7d' :: rest =>
        (charOf? (values.foldl (fun code digit => code * 16 + digit) 0)).map (·, rest)
    | _, _ => none

/-- Reads an escaped character behind its reverse solidus. -/
def escape? : List Char → Option (Char × List Char)
  | '\'' :: rest => some ('\'', rest)
  | '"' :: rest => some ('"', rest)
  | '\\' :: rest => some ('\\', rest)
  | 'n' :: rest => some ('\n', rest)
  | 'r' :: rest => some ('\r', rest)
  | 't' :: rest => some ('\t', rest)
  | '0' :: rest => some ('\x00', rest)
  | 'x' :: rest => escapedBytes? rest
  | 'u' :: '\x7b' :: rest => escapedCode? rest
  | _ => none

/-- Reads an escape that stands for one byte, whichever byte it is. -/
def byteEscape? : List Char → Option (Char × List Char)
  | 'x' :: rest => (byte? rest).map fun (byte, rest) => (Char.ofNat byte, rest)
  | chars => escape? chars

/-- Reads a text up to its closing quotation mark, at most so many characters. -/
def quoted? (escape : List Char → Option (Char × List Char)) :
    Nat → List Char → Option (List Char × List Char)
  | 0, _ => none
  | _ + 1, '"' :: rest => some ([], rest)
  | room + 1, '\\' :: rest => do
      let (c, rest) ← escape rest
      let (text, rest) ← quoted? escape room rest
      return (c :: text, rest)
  | room + 1, c :: rest => do
      let (text, rest) ← quoted? escape room rest
      return (c :: text, rest)
  | _ + 1, [] => none

/-- Reads a text up to the first place where `ending` stands. -/
def upTo? (ending : List Char) : List Char → Option (List Char × List Char)
  | [] => none
  | c :: rest =>
      if ending.isPrefixOf (c :: rest) then some ([], (c :: rest).drop ending.length)
      else (upTo? ending rest).map fun (text, rest) => (c :: text, rest)

/-- Reads a raw text behind its mark: number signs, a quotation mark, and everything
up to the next quotation mark with as many number signs. -/
def rawText? (chars : List Char) : Option (List Char × List Char) :=
  let signs := chars.takeWhile (· == '#')
  match chars.drop signs.length with
  | '"' :: rest => upTo? ('"' :: signs) rest
  | _ => none

/-- Reads a text. -/
def text? : List Char → Option (List Char × List Char)
  | '"' :: rest => quoted? escape? (rest.length + 1) rest
  | 'r' :: rest => rawText? rest
  | _ => none

/-- Reads a text of bytes. -/
def byteText? : List Char → Option (List Char × List Char)
  | 'b' :: '"' :: rest => quoted? byteEscape? (rest.length + 1) rest
  | 'b' :: 'r' :: rest => rawText? rest
  | _ => none

/-- Reads what stands between two apostrophes: an escape, or a character. -/
def enclosed? (escape : List Char → Option (Char × List Char)) (chars : List Char) :
    Option (Char × List Char) := do
  let (c, rest) ←
    match chars with
    | '\\' :: rest => escape rest
    | c :: rest => some (c, rest)
    | [] => none
  match rest with
  | '\'' :: rest => return (c, rest)
  | _ => none

/-- Reads a byte in apostrophes, which is an integer of eight bits. A byte above the
ASCII characters has to be escaped. -/
def byteLiteral? (chars : List Char) : Option (Number × List Char) := do
  let (c, rest) ← enclosed? byteEscape? chars
  let bound := if chars.head? == some '\\' then 0x100 else 0x80
  if c.toNat < bound then
    return (.integer
      { negative := false, magnitude := c.toNat, type := some { signed := false, bits := 8 } },
      rest)
  else none

end OutboundSms.Format.Ron
