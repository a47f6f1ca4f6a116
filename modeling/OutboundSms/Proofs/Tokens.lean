import OutboundSms.Format.Ron.Printer
import OutboundSms.Proofs.Trees

/-!
# RON tokens

Names, numbers and texts are read back as they are printed, with whatever follows them left
over. What follows is a mark that belongs to no token before it, or nothing.
-/

set_option autoImplicit false

namespace OutboundSms

/-! ### Runs of characters -/

theorem takeWhile_run {α : Type} {p : α → Bool} {run rest : List α} (all : ∀ c ∈ run, p c = true)
    (stops : ∀ c ∈ rest.head?, p c = false) : (run ++ rest).takeWhile p = run := by
  rw [List.takeWhile_append_of_pos all]
  cases rest with
  | nil => simp
  | cons c rest => simp [stops c rfl]

theorem dropWhile_run {α : Type} {p : α → Bool} {run rest : List α} (all : ∀ c ∈ run, p c = true)
    (stops : ∀ c ∈ rest.head?, p c = false) : (run ++ rest).dropWhile p = rest := by
  rw [List.dropWhile_append_of_pos all]
  cases rest with
  | nil => rfl
  | cons c rest => simp [stops c rfl]

/-! ### Characters of names -/

namespace Text

theorem inRanges_of_mem {ranges : Array (Nat × Nat)} {range : Nat × Nat} {code : Nat}
    (member : range ∈ ranges.toList) (above : range.1 ≤ code) (below : code ≤ range.2) :
    inRanges ranges code = true := by
  rw [inRanges, ← Array.any_toList, List.any_eq_true]
  exact ⟨range, member, by simp [above, below]⟩

theorem not_inRanges {ranges : Array (Nat × Nat)} {code : Nat}
    (outside : ∀ range ∈ ranges.toList, code < range.1 ∨ range.2 < code) :
    inRanges ranges code = false := by
  rw [inRanges, ← Array.any_toList, List.any_eq_false]
  intro range member inside
  have apart := outside range member
  simp only [Bool.and_eq_true, decide_eq_true_eq] at inside
  omega

-- The tables have hundreds of rows, which the kernel goes through by itself.

theorem letters_mem_identifierStarts :
    (0x41, 0x5A) ∈ identifierStarts.toList ∧ (0x61, 0x7A) ∈ identifierStarts.toList := by
  decide +kernel

theorem digits_mem_identifierExtenders :
    (0x30, 0x39) ∈ identifierExtenders.toList ∧ (0x5F, 0x5F) ∈ identifierExtenders.toList := by
  decide +kernel

theorem identifierStarts_outside :
    ∀ range ∈ identifierStarts.toList, range = (0x41, 0x5A) ∨ 0x61 ≤ range.1 := by
  decide +kernel

theorem identifierExtenders_outside :
    ∀ range ∈ identifierExtenders.toList, range = (0x30, 0x39) ∨ 0x5F ≤ range.1 := by
  decide +kernel

theorem isAlpha_iff {c : Char} :
    c.isAlpha = true ↔ (0x41 ≤ c.toNat ∧ c.toNat ≤ 0x5A) ∨ (0x61 ≤ c.toNat ∧ c.toNat ≤ 0x7A) := by
  have upper : c.isUpper = true ↔ 0x41 ≤ c.toNat ∧ c.toNat ≤ 0x5A := decide_eq_true_iff
  have lower : c.isLower = true ↔ 0x61 ≤ c.toNat ∧ c.toNat ≤ 0x7A :=
    Bool.and_eq_true_iff.trans (and_congr decide_eq_true_iff decide_eq_true_iff)
  rw [← upper, ← lower]
  exact Bool.or_eq_true_iff

theorem isDigit_iff {c : Char} : c.isDigit = true ↔ 0x30 ≤ c.toNat ∧ c.toNat ≤ 0x39 := by
  simp only [Char.isDigit, Bool.and_eq_true, decide_eq_true_eq, ge_iff_le,
    UInt32.le_iff_toNat_le]
  rfl

theorem isIdentifierStart_of_isAlpha {c : Char} (letter : c.isAlpha = true) :
    isIdentifierStart c = true := by
  obtain ⟨upper, lower⟩ := letters_mem_identifierStarts
  rcases isAlpha_iff.mp letter with ⟨above, below⟩ | ⟨above, below⟩
  · exact inRanges_of_mem upper above below
  · exact inRanges_of_mem lower above below

theorem isIdentifierContinue_of_isNameChar {c : Char} (nameChar : Format.isNameChar c = true) :
    isIdentifierContinue c = true := by
  obtain ⟨digits, line⟩ := digits_mem_identifierExtenders
  rw [isIdentifierContinue, Bool.or_eq_true]
  rw [Format.isNameChar, Char.isAlphanum, Bool.or_eq_true, Bool.or_eq_true] at nameChar
  rcases nameChar with (letter | digit) | lowLine
  · exact .inl (isIdentifierStart_of_isAlpha letter)
  · obtain ⟨above, below⟩ := isDigit_iff.mp digit
    exact .inr (inRanges_of_mem digits above below)
  · obtain rfl := eq_of_beq lowLine
    exact .inr (inRanges_of_mem line (Nat.le_refl _) (Nat.le_refl _))

theorem not_isIdentifierStart {c : Char} (outside : c.toNat < 0x41 ∨ c.toNat = 0x5B) :
    isIdentifierStart c = false := by
  refine not_inRanges fun range member => ?_
  rcases identifierStarts_outside range member with rfl | above
  · simp only
    omega
  · omega

theorem not_isIdentifierContinue {c : Char}
    (outside : c.toNat < 0x30 ∨ (0x3A ≤ c.toNat ∧ c.toNat < 0x41)) :
    isIdentifierContinue c = false := by
  rw [isIdentifierContinue, Bool.or_eq_false_iff]
  refine ⟨not_isIdentifierStart (by omega), not_inRanges fun range member => ?_⟩
  rcases identifierExtenders_outside range member with rfl | above
  · simp only
    omega
  · omega

end Text

namespace Format.Ron

/-! ### Blanks -/

theorem skipBlank_of_solid {c : Char} {rest : List Char} (solid : isBlank c = false)
    (noComment : c ≠ '/') : skipBlank (c :: rest) = some (c :: rest) := by
  rw [skipBlank, passGap]
  · rw [solid]
    rfl
  all_goals simp [noComment]

theorem skipBlank_cons {c : Char} {rest : List Char} (blank : isBlank c = true) :
    skipBlank (c :: rest) = skipBlank rest := by
  have noComment : c ≠ '/' := by
    rintro rfl
    exact absurd blank (by decide)
  rw [skipBlank, passGap, skipBlank]
  · rw [blank]
    rfl
  all_goals simp [noComment]

theorem skipBlank_indent (depth : Nat) (rest : List Char) :
    skipBlank ((indent depth).toList ++ rest) = skipBlank rest := by
  rw [indent, String.toList_ofList]
  induction 4 * depth with
  | zero => rfl
  | succ count ih => rw [List.replicate_succ, List.cons_append, skipBlank_cons (by decide), ih]

/-! ### What follows a token -/

/-- What may follow a value: the comma or parenthesis behind it, or nothing. -/
def Closes (rest : List Char) : Prop :=
  ∀ c ∈ rest.head?, c = ',' ∨ c = ')'

/-- What may follow a name: a value ends behind it, a parenthesis opens, or it is the name of
a field. -/
def EndsName (rest : List Char) : Prop :=
  ∀ c ∈ rest.head?, c ∈ [',', ')', '(', ':']

theorem Closes.endsName {rest : List Char} (closes : Closes rest) : EndsName rest := by
  intro c first
  rcases closes c first with rfl | rfl <;> simp

theorem EndsName.not_isIdentifierContinue {rest : List Char} (ends : EndsName rest) :
    ∀ c ∈ rest.head?, Text.isIdentifierContinue c = false := by
  intro c first
  apply Text.not_isIdentifierContinue
  have listed := ends c first
  simp only [List.mem_cons, List.not_mem_nil, or_false] at listed
  rcases listed with rfl | rfl | rfl | rfl <;> decide

theorem EndsName.not_isRawContinue {rest : List Char} (ends : EndsName rest) :
    (rest.head?.map isRawContinue).getD false = false := by
  cases rest with
  | nil => rfl
  | cons c rest =>
      have listed := ends c rfl
      have stops := ends.not_isIdentifierContinue c rfl
      simp only [List.mem_cons, List.not_mem_nil, or_false] at listed
      rw [List.head?_cons, Option.map_some, Option.getD_some, isRawContinue, stops]
      rcases listed with rfl | rfl | rfl | rfl <;> rfl

/-! ### Names -/

/-- A literal or a raw name begins with letters and a mark that names do not have. -/
theorem mark_of_literalStart {start : List Char} (literal : start ∈ ['r', '#'] :: literalStarts)
    (rest : List Char) :
    ∃ mark ∈ ((start ++ rest).dropWhile Text.isIdentifierContinue).head?,
      mark ∈ ['"', '\'', '#'] := by
  have b : Text.isIdentifierContinue 'b' = true :=
    Text.isIdentifierContinue_of_isNameChar (by decide)
  have r : Text.isIdentifierContinue 'r' = true :=
    Text.isIdentifierContinue_of_isNameChar (by decide)
  have quotation : Text.isIdentifierContinue '"' = false :=
    Text.not_isIdentifierContinue (by decide)
  have apostrophe : Text.isIdentifierContinue '\'' = false :=
    Text.not_isIdentifierContinue (by decide)
  have sign : Text.isIdentifierContinue '#' = false :=
    Text.not_isIdentifierContinue (by decide)
  simp only [literalStarts, List.map_cons, List.map_nil, List.mem_cons, List.not_mem_nil,
    or_false] at literal
  rcases literal with rfl | rfl | rfl | rfl | rfl | rfl | rfl | rfl <;>
    simp [b, r, quotation, apostrophe, sign]

theorem EndsName.no_mark {rest : List Char} (ends : EndsName rest) :
    ¬ ∃ mark ∈ rest.head?, mark ∈ ['"', '\'', '#'] := by
  rintro ⟨mark, first, listed⟩
  have others := ends mark first
  simp only [List.mem_cons, List.not_mem_nil, or_false] at listed others
  rcases listed with rfl | rfl | rfl <;> simp at others

theorem isIdentifierContinue_of_isWord {word : String} (isWord : IsWord word) :
    ∀ c ∈ word.toList, Text.isIdentifierContinue c = true := by
  obtain ⟨first, tail, letters, letter, nameChars⟩ := isWord
  intro c member
  apply Text.isIdentifierContinue_of_isNameChar
  rw [letters] at member
  rcases List.mem_cons.mp member with rfl | member
  · simp [isNameChar, Char.isAlphanum, letter]
  · exact nameChars c member

theorem identifier?_word {word : String} (isWord : IsWord word) {rest : List Char}
    (ends : EndsName rest) :
    identifier? (word.toList ++ rest) = some ({ text := word }, rest) := by
  have run := isIdentifierContinue_of_isWord isWord
  have taken := takeWhile_run run ends.not_isIdentifierContinue
  have left := dropWhile_run run ends.not_isIdentifierContinue
  -- A word may well begin with the letters of a literal, but no mark stands behind the whole of it.
  have unmarked (start more : List Char) (literal : start ∈ ['r', '#'] :: literalStarts) :
      start ++ more ≠ word.toList ++ rest := by
    intro same
    have marked := mark_of_literalStart literal more
    rw [same, left] at marked
    exact ends.no_mark marked
  have noLiteral : literalStarts.any (·.isPrefixOf (word.toList ++ rest)) = false := by
    rw [List.any_eq_false]
    intro start literal isPrefix
    obtain ⟨more, whole⟩ := List.isPrefixOf_iff_prefix.mp isPrefix
    exact unmarked start more (List.mem_cons_of_mem _ literal) whole
  obtain ⟨first, tail, letters, letter, -⟩ := isWord
  have starts : (first == '_' || Text.isIdentifierStart first) = true := by
    rw [Text.isIdentifierStart_of_isAlpha letter, Bool.or_true]
  rw [letters, List.cons_append] at taken left noLiteral unmarked
  rw [letters, List.cons_append, identifier?, starts, noLiteral]
  simp only [Bool.not_true, Bool.false_eq_true, if_false]
  split
  · rename_i more same
    exact absurd same.symm (unmarked ['r', '#'] more List.mem_cons_self)
  · rw [taken, left, ends.not_isRawContinue, ← letters, String.ofList_toList]
    rfl

/-! ### Digits -/

theorem digitValue?_digitChar : ∀ {digit : Nat}, digit < 16 →
    digitValue? (Nat.digitChar digit) = some digit := by
  decide

/-- The digits of a number have the values that make it up. -/
theorem mapM_toDigits (base : Nat) (lower : 1 < base) (upper : base ≤ 16) (number : Nat) :
    ∃ values, (Nat.toDigits base number).mapM digitValue? = some values ∧
      values.foldl (fun code digit => code * base + digit) 0 = number ∧
      ∀ digit ∈ values, digit < base := by
  induction number using Nat.strongRecOn with
  | ind number ih =>
      by_cases single : number < base
      · refine ⟨[number], ?_, by simp, by simpa using single⟩
        rw [Nat.toDigits_of_lt_base single]
        simp [digitValue?_digitChar (Nat.lt_of_lt_of_le single upper)]
      · have smaller : number / base < number := Nat.div_lt_self (by omega) lower
        obtain ⟨values, read, folded, bounded⟩ := ih (number / base) smaller
        have last : number % base < base := Nat.mod_lt number (by omega)
        refine ⟨values ++ [number % base], ?_, ?_, ?_⟩
        · rw [Nat.toDigits_of_base_le lower (by omega), List.mapM_append, read]
          simp [digitValue?_digitChar (Nat.lt_of_lt_of_le last upper)]
        · rw [List.foldl_append, folded]
          exact Nat.div_add_mod' number base
        · intro digit member
          rcases List.mem_append.mp member with member | member
          · exact bounded digit member
          · rw [List.mem_singleton.mp member]
            exact last

theorem magnitude_of_mapM {base : Nat} {chars : List Char} {values : List Nat}
    (read : chars.mapM digitValue? = some values) (bounded : ∀ digit ∈ values, digit < base)
    (value : Nat) :
    magnitude base value chars =
      .ok (values.foldl (fun code digit => code * base + digit) value) := by
  induction chars generalizing values value with
  | nil =>
      obtain rfl : [] = values := by simpa using read
      rfl
  | cons c chars ih =>
      simp only [List.mapM_cons, Option.bind_eq_bind, Option.bind_eq_some_iff, Option.pure_def,
        Option.some.injEq] at read
      obtain ⟨digit, first, values, rest, rfl⟩ := read
      have small := bounded digit List.mem_cons_self
      have others := ih rest fun digit member => bounded digit (List.mem_cons_of_mem _ member)
      simp only [magnitude, first, small, if_true]
      exact others _

theorem magnitude_toDigits (number : Nat) :
    magnitude 10 0 (Nat.toDigits 10 number) = .ok number := by
  obtain ⟨values, read, folded, bounded⟩ := mapM_toDigits 10 (by decide) (by decide) number
  rw [magnitude_of_mapM read bounded, folded]

/-! ### Numbers -/

/-- The sign of a printed integer. -/
def sign (negative : Bool) : List Char :=
  if negative then ['-'] else []

section Digits

variable {digits rest : List Char}

theorem isIntegerChar_of_isDigit {c : Char} (digit : c.isDigit = true) :
    isIntegerChar c = true := by
  obtain ⟨above, below⟩ := Text.isDigit_iff.mp digit
  simp [isIntegerChar, digitValue?, above, below]

theorem isFloatChar_of_isDigit {c : Char} (digit : c.isDigit = true) : isFloatChar c = true := by
  obtain ⟨above, below⟩ := Text.isDigit_iff.mp digit
  simp [isFloatChar, isDecimalDigit, above, below]

theorem Closes.not_isIntegerChar (closes : Closes rest) :
    ∀ c ∈ rest.head?, isIntegerChar c = false := by
  intro c first
  rcases closes c first with rfl | rfl <;> decide

theorem Closes.not_isFloatChar (closes : Closes rest) :
    ∀ c ∈ rest.head?, isFloatChar c = false := by
  intro c first
  rcases closes c first with rfl | rfl <;> decide

theorem Closes.integerType? (closes : Closes rest) : Ron.integerType? rest = none := by
  cases rest with
  | nil => decide
  | cons c rest => rcases closes c rfl with rfl | rfl <;> rfl

theorem dropSign_digits (negative : Bool) (nonempty : digits ≠ [])
    (all : ∀ c ∈ digits, c.isDigit = true) :
    dropSign (sign negative ++ (digits ++ rest)) = (negative, digits ++ rest) := by
  cases negative with
  | true => rfl
  | false =>
      cases digits with
      | nil => exact absurd rfl nonempty
      | cons c digits =>
          have digit := all c List.mem_cons_self
          rw [sign, if_neg Bool.false_ne_true, List.nil_append, List.cons_append, dropSign]
          · rintro _ ⟨⟩
            exact absurd digit (by decide)
          · rintro _ ⟨⟩
            exact absurd digit (by decide)

/-- No base is read off decimal digits, as another digit or nothing stands behind the first. -/
theorem dropBase_digits (nonempty : digits ≠ []) (all : ∀ c ∈ digits, c.isDigit = true)
    (closes : Closes rest) : dropBase (digits ++ rest) = (10, digits ++ rest) := by
  have second (c : Char) (more : List Char) (mark : c.isDigit = false ∧ c ≠ ',' ∧ c ≠ ')') :
      digits ++ rest ≠ '0' :: c :: more := by
    intro same
    obtain ⟨noDigit, noComma, noParenthesis⟩ := mark
    cases digits with
    | nil => exact nonempty rfl
    | cons first digits =>
        obtain ⟨-, tail⟩ := List.cons_eq_cons.mp same
        cases digits with
        | nil =>
            have first : c ∈ rest.head? := by simp [show rest = c :: more from tail]
            rcases closes c first with comma | parenthesis
            · exact noComma comma
            · exact noParenthesis parenthesis
        | cons next digits =>
            obtain ⟨rfl, -⟩ := List.cons_eq_cons.mp tail
            have digit := all next (by simp)
            rw [noDigit] at digit
            exact Bool.false_ne_true digit
  generalize digits ++ rest = chars at second
  rw [dropBase]
  · rintro more rfl
    exact second 'b' more (by decide) rfl
  · rintro more rfl
    exact second 'o' more (by decide) rfl
  · rintro more rfl
    exact second 'x' more (by decide) rfl

end Digits

theorem isDigit_of_mem_toDigits (number : Nat) :
    ∀ c ∈ Nat.toDigits 10 number, c.isDigit = true :=
  fun _ member => Nat.isDigit_of_mem_toDigits (by decide) (by decide) member

theorem integer_decimal (negative : Bool) (number : Nat) {rest : List Char}
    (closes : Closes rest) :
    integer (sign negative ++ (Nat.toDigits 10 number ++ rest)) =
      .ok ({ negative, magnitude := number }, rest) := by
  have nonempty : Nat.toDigits 10 number ≠ [] := Nat.toDigits_ne_nil
  have all := isDigit_of_mem_toDigits number
  have run : ∀ c ∈ Nat.toDigits 10 number, isIntegerChar c = true :=
    fun c member => isIntegerChar_of_isDigit (all c member)
  have taken := takeWhile_run run closes.not_isIntegerChar
  have left := dropWhile_run run closes.not_isIntegerChar
  have begins : ((Nat.toDigits 10 number).isEmpty ||
      (Nat.toDigits 10 number).head? == some '_') = false := by
    cases digits : Nat.toDigits 10 number with
    | nil => exact absurd digits nonempty
    | cons c digits' =>
        have digit := all c (by simp [digits])
        have different : c ≠ '_' := by
          rintro rfl
          exact absurd digit (by decide)
        simpa using different
  simp only [integer, dropSign_digits negative nonempty all, dropBase_digits nonempty all closes,
    taken, left, magnitude_toDigits, closes.integerType?, begins]
  rfl

/-- A printed integer is read as such where it is in the range of any type, and otherwise at
most as a fraction. -/
theorem number?_decimal (negative : Bool) (number : Nat) {rest : List Char}
    (closes : Closes rest) :
    number? (sign negative ++ (Nat.toDigits 10 number ++ rest)) =
      if IntegerLiteral.isSound { negative, magnitude := number } then
        some (.integer { negative, magnitude := number }, rest)
      else
        ((float? (sign negative ++ (Nat.toDigits 10 number ++ rest))).map
          fun rest => (Number.float, rest)).filter (·.2.length ≤ rest.length) := by
  have nonempty : Nat.toDigits 10 number ≠ [] := Nat.toDigits_ne_nil
  have all := isDigit_of_mem_toDigits number
  have integerTaken := takeWhile_run (fun c member => isIntegerChar_of_isDigit (all c member))
    closes.not_isIntegerChar
  have floatTaken := takeWhile_run (fun c member => isFloatChar_of_isDigit (all c member))
    closes.not_isFloatChar
  simp only [number?, dropSign_digits negative nonempty all, integerTaken, floatTaken,
    Nat.lt_irrefl, integer_decimal negative number closes]
  rfl

theorem number?_toDigits {number : Nat} (lt : number < 1 <<< 64) {rest : List Char}
    (closes : Closes rest) :
    number? (Nat.toDigits 10 number ++ rest) =
      some (.integer { negative := false, magnitude := number }, rest) := by
  have sound : IntegerLiteral.isSound { negative := false, magnitude := number } = true := by
    simpa [IntegerLiteral.isSound, IntegerLiteral.fits] using lt
  have read := number?_decimal false number closes
  rw [if_pos sound] at read
  exact read

/-! ### Texts -/

theorem isSome_digitValue? {chars : List Char} {values : List Nat}
    (read : chars.mapM digitValue? = some values) : ∀ c ∈ chars, (digitValue? c).isSome = true := by
  induction chars generalizing values with
  | nil => simp
  | cons c chars ih =>
      simp only [List.mapM_cons, Option.bind_eq_bind, Option.bind_eq_some_iff] at read
      obtain ⟨digit, first, values, rest, -⟩ := read
      intro other member
      rcases List.mem_cons.mp member with rfl | member
      · rw [first]
        rfl
      · exact ih rest other member

theorem charOf?_toNat (c : Char) : charOf? c.toNat = some c := by
  have valid : c.toNat.isValidChar := c.valid
  rw [charOf?, if_pos valid, Char.ofNat_toNat]

theorem toNat_lt_of_char (c : Char) : c.toNat < 0x1000000 := by
  have valid : c.toNat.isValidChar := c.valid
  rcases valid with below | ⟨-, below⟩
  · omega
  · omega

theorem escapedCode?_toDigits (c : Char) (rest : List Char) :
    escapedCode? (Nat.toDigits 16 c.toNat ++ '\x7d' :: rest) = some (c, rest) := by
  obtain ⟨values, read, folded, -⟩ := mapM_toDigits 16 (by decide) (by decide) c.toNat
  have run : ∀ d ∈ Nat.toDigits 16 c.toNat, (d != '\x7d') = true := by
    intro d member
    have digit := isSome_digitValue? read d member
    rw [bne_iff_ne]
    rintro rfl
    exact absurd digit (by decide)
  have taken : (Nat.toDigits 16 c.toNat ++ '\x7d' :: rest).takeWhile (· != '\x7d') =
      Nat.toDigits 16 c.toNat := takeWhile_run run (by simp)
  have short : (Nat.toDigits 16 c.toNat).length ≤ 6 :=
    (Nat.length_toDigits_le_iff (by decide) (by decide)).mpr (toNat_lt_of_char c)
  have fits : ((Nat.toDigits 16 c.toNat).isEmpty ||
      decide (6 < (Nat.toDigits 16 c.toNat).length)) = false := by
    simp [short]
  simp only [escapedCode?, taken, fits, read, List.drop_left, folded, charOf?_toNat]
  rfl

/-- Every printed character is read as itself. -/
theorem quoted?_quoteChar (c : Char) (room : Nat) (rest : List Char) :
    quoted? escape? (room + 1) (quoteChar c ++ rest) =
      (quoted? escape? room rest).map fun (text, rest) => (c :: text, rest) := by
  rw [quoteChar.eq_def]
  split
  -- The last case is that of a character without an escape of its own.
  case h_8 =>
    rename_i noQuotation noSolidus
    split
    · rw [List.cons_append, List.nil_append, quoted?]
      · cases quoted? escape? room rest <;> rfl
      · exact noQuotation
      · exact fun solidus => noSolidus solidus
    · have escaped : escape? ('u' :: '\x7b' :: (Nat.toDigits 16 c.toNat ++ '\x7d' :: rest)) =
          some (c, rest) := escapedCode?_toDigits c rest
      cases left : quoted? escape? room rest <;> simp [quoted?, escaped, left]
  all_goals
    cases left : quoted? escape? room rest <;> simp [quoted?, escape?, left]

theorem quoted?_flatMap (text : List Char) {room : Nat} (rest : List Char)
    (enough : text.length < room) :
    quoted? escape? room (text.flatMap quoteChar ++ '"' :: rest) = some (text, rest) := by
  induction text generalizing room with
  | nil =>
      obtain ⟨left, rfl⟩ := Nat.exists_eq_add_of_lt enough
      simp [quoted?]
  | cons c text ih =>
      cases room with
      | zero => simp at enough
      | succ room =>
          have shorter : text.length < room := by simpa using enough
          rw [List.flatMap_cons, List.append_assoc, quoted?_quoteChar, ih shorter]
          rfl

theorem length_le_length_flatMap (text : List Char) :
    text.length ≤ (text.flatMap quoteChar).length := by
  induction text with
  | nil => simp
  | cons c text ih =>
      have some : 0 < (quoteChar c).length := by
        rw [quoteChar.eq_def]
        split <;> simp
        split <;> simp
      rw [List.flatMap_cons, List.length_append, List.length_cons]
      omega

theorem toList_quote (text : String) :
    (quote text).toList = '"' :: (text.toList.flatMap quoteChar ++ ['"']) := by
  simp [quote]

theorem text?_quote (text : String) (rest : List Char) :
    text? ((quote text).toList ++ rest) = some (text.toList, rest) := by
  have enough : text.toList.length <
      (text.toList.flatMap quoteChar ++ '"' :: rest).length + 1 := by
    have shorter := length_le_length_flatMap text.toList
    rw [List.length_append]
    omega
  have read := quoted?_flatMap text.toList rest enough
  simpa [toList_quote, text?] using read

end Format.Ron

end OutboundSms
