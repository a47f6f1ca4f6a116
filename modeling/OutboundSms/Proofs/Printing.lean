import OutboundSms.Proofs.Tokens

/-!
# Printed RON

What is printed for a written form that fits is read as the tree of that form, and no text
needs more calls within each other than it has characters.
-/

set_option autoImplicit false

namespace OutboundSms.Format.Ron

/-! ### Beginnings -/

/-- The characters that printed values begin with. -/
def BeginsValue (c : Char) : Prop :=
  c.isAlpha = true ∨ c.isDigit = true ∨ c ∈ ['"', '[', '(', '-']

instance (c : Char) : Decidable (BeginsValue c) :=
  inferInstanceAs (Decidable (_ ∨ _))

theorem BeginsValue.ne {c other : Char} (begins : BeginsValue c) (never : ¬ BeginsValue other) :
    c ≠ other := by
  rintro rfl
  exact never begins

theorem BeginsValue.not_isBlank {c : Char} (begins : BeginsValue c) : isBlank c = false := by
  -- Decided over the blanks, as it cannot be over all characters.
  have never : ([' ', '\t', '\n', '\r', '\x0b', '\x0c', '\u0085', '\u200e', '\u200f', '\u2028',
      '\u2029'].all fun blank => !decide (BeginsValue blank)) = true := by
    decide
  rw [isBlank, List.contains_eq_mem, decide_eq_false_iff_not]
  intro blank
  have noValue := List.all_eq_true.mp never c blank
  simp [begins] at noValue

/-- A beginning of a printed value, of which nothing is passed over. -/
def Opens (chars : List Char) : Prop :=
  ∃ c rest, chars = c :: rest ∧ BeginsValue c

theorem Opens.skipBlank {chars : List Char} (opens : Opens chars) (rest : List Char) :
    skipBlank (chars ++ rest) = some (chars ++ rest) := by
  obtain ⟨c, more, rfl, begins⟩ := opens
  exact skipBlank_of_solid begins.not_isBlank (begins.ne (by decide))

theorem Opens.append {chars : List Char} (opens : Opens chars) (rest : List Char) :
    Opens (chars ++ rest) := by
  obtain ⟨c, more, rfl, begins⟩ := opens
  exact ⟨c, more ++ rest, rfl, begins⟩

theorem opens_word {word : String} (isWord : IsWord word) : Opens word.toList := by
  obtain ⟨first, tail, letters, letter, -⟩ := isWord
  exact ⟨first, tail, letters, .inl letter⟩

theorem isWord_bool (value : Bool) : IsWord (if value then "true" else "false") := by
  cases value with
  | true => decide
  | false => decide

/-! ### Shapes -/

theorem toList_natural (depth value : Nat) :
    (print depth (.natural value)).toList = Nat.toDigits 10 value := by
  rw [print, Nat.toString_eq_ofList_toDigits, String.toList_ofList]

theorem toList_present (depth : Nat) (value : Written) :
    (print depth (.present value)).toList =
      "Some".toList ++ '(' :: ((print depth value).toList ++ [')']) := by
  simp [print]

theorem toList_choiceOf (depth : Nat) (name : String) (content : Written) :
    (print depth (.choiceOf name content)).toList =
      name.toList ++ '(' :: ((print depth content).toList ++ [')']) := by
  simp [print]

/-- What is printed behind the bracket of a list. -/
def listBody (depth : Nat) : List Written → List Char
  | [] => [']']
  | items => '\n' :: ((printItems (depth + 1) items).toList ++ ((indent depth).toList ++ [']']))

theorem toList_list (depth : Nat) (items : List Written) :
    (print depth (.list items)).toList = '[' :: listBody depth items := by
  cases items with
  | nil => simp [print, listBody]
  | cons item items => simp [print, listBody]

/-- What is printed behind the parenthesis of a record. -/
def recordBody (depth : Nat) : List (String × Written) → List Char
  | [] => [')']
  | fields => '\n' :: ((printFields (depth + 1) fields).toList ++ ((indent depth).toList ++ [')']))

theorem toList_record (depth : Nat) (fields : List (String × Written)) :
    (print depth (.record fields)).toList = '(' :: recordBody depth fields := by
  cases fields with
  | nil => simp [print, printRecord, recordBody]
  | cons field fields => simp [print, printRecord, recordBody]

theorem toList_choiceWith (depth : Nat) (name : String) (fields : List (String × Written)) :
    (print depth (.choiceWith name fields)).toList =
      name.toList ++ '(' :: recordBody depth fields := by
  cases fields with
  | nil => simp [print, printRecord, recordBody]
  | cons field fields => simp [print, printRecord, recordBody]

theorem toList_items (depth : Nat) (item : Written) (items : List Written) :
    (printItems depth (item :: items)).toList =
      (indent depth).toList ++ ((print depth item).toList ++
        ',' :: '\n' :: (printItems depth items).toList) := by
  simp [printItems]

theorem toList_fields (depth : Nat) (name : String) (value : Written)
    (fields : List (String × Written)) :
    (printFields depth ((name, value) :: fields)).toList =
      (indent depth).toList ++ (name.toList ++ ':' :: ' ' :: ((print depth value).toList ++
        ',' :: '\n' :: (printFields depth fields).toList)) := by
  simp [printFields]

theorem opens_print {written : Written} {room : Nat} (fits : written.Fits room) (depth : Nat) :
    Opens (print depth written).toList := by
  cases written with
  | bool value =>
      rw [print]
      exact opens_word (isWord_bool value)
  | natural value =>
      rw [toList_natural]
      cases digits : Nat.toDigits 10 value with
      | nil => exact absurd digits Nat.toDigits_ne_nil
      | cons c rest =>
          have digit := isDigit_of_mem_toDigits value c (by simp [digits])
          exact ⟨c, rest, rfl, .inr (.inl digit)⟩
  | text value =>
      rw [print, toList_quote]
      exact ⟨'"', _, rfl, by simp [BeginsValue]⟩
  | absent =>
      rw [print]
      exact opens_word (by decide)
  | present value =>
      rw [toList_present]
      exact (opens_word (by decide)).append _
  | list items =>
      rw [toList_list]
      exact ⟨'[', _, rfl, by simp [BeginsValue]⟩
  | record fields =>
      rw [toList_record]
      exact ⟨'(', _, rfl, by simp [BeginsValue]⟩
  | choice name =>
      rw [print]
      exact opens_word fits.1
  | choiceOf name content =>
      rw [toList_choiceOf]
      exact (opens_word fits.1.1).append _
  | choiceWith name fields =>
      rw [toList_choiceWith]
      exact (opens_word fits.1.1).append _

/-! ### Reading -/

theorem Closes.skipBlank {rest : List Char} (closes : Closes rest) :
    skipBlank rest = some rest := by
  cases rest with
  | nil => rfl
  | cons c rest =>
      rcases closes c rfl with rfl | rfl
      · exact skipBlank_of_solid (by decide) (by decide)
      · exact skipBlank_of_solid (by decide) (by decide)

theorem closes_parenthesis (rest : List Char) : Closes (')' :: rest) := by
  simp [Closes]

theorem closes_comma (rest : List Char) : Closes (',' :: rest) := by
  simp [Closes]

theorem endsName_parenthesis (rest : List Char) : EndsName ('(' :: rest) := by
  simp [EndsName]

theorem endsName_colon (rest : List Char) : EndsName (':' :: rest) := by
  simp [EndsName]

theorem identifier?_of_not_start {c : Char} (rest : List Char)
    (noStart : (c == '_' || Text.isIdentifierStart c) = false) :
    identifier? (c :: rest) = none := by
  rw [identifier?, noStart]
  rfl

theorem not_start {c : Char} (outside : c.toNat < 0x41 ∨ c.toNat = 0x5B) :
    (c == '_' || Text.isIdentifierStart c) = false := by
  rw [Text.not_isIdentifierStart outside, Bool.or_false, beq_eq_false_iff_ne]
  rintro rfl
  exact absurd outside (by decide)

/-- The equation of a value, which unfolding it cannot find. -/
theorem value?_succ (room : Nat) (chars : List Char) :
    value? (room + 1) chars =
      match identifier? chars with
      | some (name, rest) =>
          match skipBlank rest with
          | some ('(' :: inner) => parentheses? room (some name) inner
          | _ => some (.name name, rest)
      | none =>
          match chars with
          | '(' :: inner => parentheses? room none inner
          | '[' :: inner => do
              let (items, rest) ← items? room ']' (← skipBlank inner)
              return (.list items, rest)
          | '\x7b' :: inner => do
              let (entries, rest) ← entries? room (← skipBlank inner)
              return (.map entries, rest)
          | _ => atom? chars :=
  rfl

section Values

variable {word : String} {rest inner : List Char} {room : Nat}

theorem value?_word (isWord : IsWord word) (closes : Closes rest) (room : Nat) :
    value? (room + 1) (word.toList ++ rest) = some (.name { text := word }, rest) := by
  rw [value?_succ, identifier?_word isWord closes.endsName]
  simp only [closes.skipBlank]
  split
  · rename_i inner opening
    obtain rfl := Option.some.inj opening
    rcases closes '(' rfl with absurd | absurd <;> simp at absurd
  · rfl

theorem value?_named (isWord : IsWord word) (room : Nat) (inner : List Char) :
    value? (room + 1) (word.toList ++ '(' :: inner) =
      parentheses? room (some { text := word }) inner := by
  have opening : skipBlank ('(' :: inner) = some ('(' :: inner) :=
    skipBlank_of_solid (by decide) (by decide)
  rw [value?_succ, identifier?_word isWord (endsName_parenthesis inner)]
  simp only [opening]

theorem value?_unnamed (room : Nat) (inner : List Char) :
    value? (room + 1) ('(' :: inner) = parentheses? room none inner := by
  rw [value?_succ, identifier?_of_not_start inner (not_start (by decide))]
  rfl

theorem value?_list (room : Nat) (inner : List Char) :
    value? (room + 1) ('[' :: inner) =
      ((skipBlank inner).bind (items? room ']')).map fun (items, rest) => (.list items, rest) := by
  rw [value?_succ, identifier?_of_not_start inner (not_start (by decide))]
  cases skipped : skipBlank inner with
  | none => simp [skipped]
  | some chars => cases left : items? room ']' chars <;> simp [skipped, left]

theorem value?_atom {c : Char} (noStart : (c == '_' || Text.isIdentifierStart c) = false)
    (noBracket : c ∉ ['(', '[', '\x7b']) (room : Nat) (rest : List Char) :
    value? (room + 1) (c :: rest) = atom? (c :: rest) := by
  rw [value?_succ, identifier?_of_not_start rest noStart]
  simp only
  split
  iterate 3
    · rename_i same
      exact absurd (by simp [(List.cons_eq_cons.mp same).1]) noBracket
  · rfl

/-- A digit or a minus sign begins a number and nothing else. -/
theorem value?_number {c : Char} (begins : c.isDigit = true ∨ c = '-') (room : Nat)
    (rest : List Char) :
    value? (room + 1) (c :: rest) =
      (number? (c :: rest)).map fun (number, rest) => (.number number, rest) := by
  have different (other : Char) (noDigit : other.isDigit = false ∧ other ≠ '-') : c ≠ other := by
    rintro rfl
    rcases begins with digit | minus
    · rw [noDigit.1] at digit
      exact Bool.false_ne_true digit
    · exact noDigit.2 minus
  have noBracket : c ∉ ['(', '[', '\x7b'] := by
    simp only [List.mem_cons, List.not_mem_nil, or_false, not_or]
    exact ⟨different '(' (by decide), different '[' (by decide), different '\x7b' (by decide)⟩
  have noStart : (c == '_' || Text.isIdentifierStart c) = false := by
    rcases begins with digit | rfl
    · obtain ⟨-, below⟩ := Text.isDigit_iff.mp digit
      exact not_start (by omega)
    · exact not_start (by decide)
  have numeric : (isDecimalDigit c || ['+', '-', '.'].contains c) = true := by
    rcases begins with digit | rfl
    · obtain ⟨above, below⟩ := Text.isDigit_iff.mp digit
      simp [isDecimalDigit, above, below]
    · rfl
  rw [value?_atom noStart noBracket, atom?, numeric]
  · rfl
  · exact different '"' (by decide)
  · exact different 'r' (by decide)
  · exact different '\'' (by decide)
  · exact fun _ same _ => different 'b' (by decide) same
  · exact different 'b' (by decide)

theorem value?_natural {number : Nat} (lt : number < 1 <<< 64) (closes : Closes rest)
    (room : Nat) :
    value? (room + 1) (Nat.toDigits 10 number ++ rest) =
      some (.number (.integer { negative := false, magnitude := number }), rest) := by
  have read := number?_toDigits lt closes
  cases digits : Nat.toDigits 10 number with
  | nil => exact absurd digits Nat.toDigits_ne_nil
  | cons c tail =>
      have digit := isDigit_of_mem_toDigits number c (by simp [digits])
      rw [digits, List.cons_append] at read
      rw [List.cons_append, value?_number (.inl digit), read]
      rfl

theorem value?_text (text : String) (room : Nat) (rest : List Char) :
    value? (room + 1) ((quote text).toList ++ rest) = some (.text text, rest) := by
  have read := text?_quote text rest
  rw [toList_quote, List.cons_append] at read ⊢
  rw [value?_atom (not_start (by decide)) (by decide), atom?, read]
  simp

theorem skipBlank_separator (rest : List Char) (close : Char) :
    (skipBlank (',' :: '\n' :: rest)).bind (separator? close) = skipBlank rest := by
  rw [skipBlank_of_solid (by decide) (by decide), Option.bind_some, separator?,
    skipBlank_cons (by decide)]

theorem separator?_close (close : Char) (noComma : close ≠ ',') (rest : List Char) :
    separator? close (close :: rest) = some (close :: rest) := by
  rw [separator?, if_pos rfl]
  exact noComma

/-- No name of a field is read at the beginning of a value that a parenthesis follows. -/
theorem startsField_word (isWord : IsWord word) (ends : EndsName rest)
    (noColon : ∀ c ∈ rest.head?, c ≠ ':') : startsField (word.toList ++ rest) = false := by
  rw [startsField, identifier?_word isWord ends]
  cases rest with
  | nil => rfl
  | cons c rest =>
      have other := noColon c rfl
      have listed := ends c rfl
      have solid : skipBlank (c :: rest) = some (c :: rest) := by
        simp only [List.mem_cons, List.not_mem_nil, or_false] at listed
        rcases listed with rfl | rfl | rfl | rfl <;>
          exact skipBlank_of_solid (by decide) (by decide)
      simp [solid, other]

theorem startsField_colon (isWord : IsWord word) (rest : List Char) :
    startsField (word.toList ++ ':' :: rest) = true := by
  have colon : skipBlank (':' :: rest) = some (':' :: rest) :=
    skipBlank_of_solid (by decide) (by decide)
  rw [startsField, identifier?_word isWord (endsName_colon rest)]
  simp [colon]

theorem startsField_of_not_start {c : Char}
    (noStart : (c == '_' || Text.isIdentifierStart c) = false) (rest : List Char) :
    startsField (c :: rest) = false := by
  rw [startsField, identifier?_of_not_start rest noStart]

end Values

theorem startsField_print {written : Written} {room : Nat} (fits : written.Fits room)
    (depth : Nat) (rest : List Char) :
    startsField ((print depth written).toList ++ ')' :: rest) = false := by
  have ends := (closes_parenthesis rest).endsName
  cases written with
  | bool value =>
      rw [print]
      exact startsField_word (isWord_bool value) ends (by simp)
  | natural value =>
      rw [toList_natural]
      cases digits : Nat.toDigits 10 value with
      | nil => exact absurd digits Nat.toDigits_ne_nil
      | cons c tail =>
          have digit := isDigit_of_mem_toDigits value c (by simp [digits])
          obtain ⟨-, below⟩ := Text.isDigit_iff.mp digit
          exact startsField_of_not_start (not_start (by omega)) _
  | text value =>
      rw [print, toList_quote]
      exact startsField_of_not_start (not_start (by decide)) _
  | absent =>
      rw [print]
      exact startsField_word (by decide) ends (by simp)
  | present value =>
      rw [toList_present, List.append_assoc]
      exact startsField_word (by decide) (endsName_parenthesis _) (by simp)
  | list items =>
      rw [toList_list]
      exact startsField_of_not_start (not_start (by decide)) _
  | record fields =>
      rw [toList_record]
      exact startsField_of_not_start (not_start (by decide)) _
  | choice name =>
      rw [print]
      exact startsField_word fits.1 ends (by simp)
  | choiceOf name content =>
      rw [toList_choiceOf, List.append_assoc]
      exact startsField_word fits.1.1 (endsName_parenthesis _) (by simp)
  | choiceWith name fields =>
      rw [toList_choiceWith, List.append_assoc]
      exact startsField_word fits.1.1 (endsName_parenthesis _) (by simp)

/-! ### Items and fields -/

theorem items?_close (room : Nat) (close : Char) (rest : List Char) :
    items? (room + 1) close (close :: rest) = some ([], rest) := by
  rw [items?, if_pos rfl]

theorem items?_item {chars : List Char} (opens : Opens chars) (room : Nat) {close : Char}
    (isClose : close = ']' ∨ close = ')') (rest : List Char) :
    items? (room + 1) close (chars ++ rest) = (do
      let (item, rest) ← value? room (chars ++ rest)
      let rest ← separator? close (← skipBlank rest)
      let (items, rest) ← items? room close rest
      return (item :: items, rest)) := by
  obtain ⟨c, more, rfl, begins⟩ := opens
  have different : c ≠ close := by
    rcases isClose with rfl | rfl
    · exact begins.ne (by decide)
    · exact begins.ne (by decide)
  rw [List.cons_append, items?, if_neg different]

theorem fields?_close (room : Nat) (rest : List Char) :
    fields? (room + 1) (')' :: rest) = some ([], rest) := by
  rw [fields?]

theorem fields?_field {name : String} (isWord : IsWord name) (room : Nat) (rest : List Char) :
    fields? (room + 1) (name.toList ++ ':' :: rest) = (do
      let (value, rest) ← value? room (← skipBlank rest)
      let rest ← separator? ')' (← skipBlank rest)
      let (fields, rest) ← fields? room rest
      return (({ text := name }, value) :: fields, rest)) := by
  have colon : skipBlank (':' :: rest) = some (':' :: rest) :=
    skipBlank_of_solid (by decide) (by decide)
  have noClose (more : List Char) : name.toList ++ ':' :: rest ≠ ')' :: more := by
    obtain ⟨c, tail, letters, begins⟩ := opens_word isWord
    rw [letters, List.cons_append]
    intro same
    exact begins.ne (by decide) (List.cons_eq_cons.mp same).1
  rw [fields?, identifier?_word isWord (endsName_colon rest)]
  · simp [colon]
  · exact noClose

/-- A value in the parentheses of a name. -/
theorem value?_content {word : String} (isWord : IsWord word) {content : Written}
    {room depth fuel : Nat} {rest : List Char} (fits : content.Fits room)
    (read : value? (fuel + 1) ((print depth content).toList ++ ')' :: rest) =
      some (toTree content, ')' :: rest)) :
    value? (fuel + 4) (word.toList ++ '(' :: ((print depth content).toList ++ [')']) ++ rest) =
      some (.group (some { text := word }) [toTree content], rest) := by
  have opens := opens_print fits depth
  have closing := (closes_parenthesis rest).skipBlank
  rw [List.append_assoc, List.cons_append, List.append_assoc, List.singleton_append,
    value?_named isWord, parentheses?, opens.skipBlank, Option.bind_eq_bind, Option.bind_some,
    startsField_print fits, items?_item opens (fuel + 1) (.inr rfl), read]
  simp [closing, separator?_close, items?_close]

theorem skipBlank_fields {name : String} (isWord : IsWord name) (value : Written)
    (fields : List (String × Written)) (depth : Nat) (rest : List Char) :
    skipBlank ((printFields depth ((name, value) :: fields)).toList ++ rest) =
      some (name.toList ++ ':' :: ' ' :: ((print depth value).toList ++
        ',' :: '\n' :: ((printFields depth fields).toList ++ rest))) := by
  rw [toList_fields, List.append_assoc, skipBlank_indent, List.append_assoc,
    (opens_word isWord).skipBlank]
  simp

theorem parentheses?_fields {fields : List (String × Written)} {room depth fuel : Nat}
    {rest : List Char} (fit : FieldsFit room fields) (name : Option Identifier)
    (read : (skipBlank ((printFields (depth + 1) fields).toList ++
      ((indent depth).toList ++ ')' :: rest))).bind (fields? (fuel + 1)) =
        some (toTreeFields fields, rest)) :
    parentheses? (fuel + 2) name (recordBody depth fields ++ rest) =
      some (parenthesized name (toTreeFields fields), rest) := by
  cases fields with
  | nil =>
      have closing := (closes_parenthesis rest).skipBlank
      rw [recordBody, List.singleton_append, parentheses?, closing, Option.bind_eq_bind,
        Option.bind_some, startsField_of_not_start (not_start (by decide)), items?_close]
      rfl
  | cons field fields =>
      obtain ⟨⟨isWord, -⟩, -, -⟩ := fit
      have names := skipBlank_fields isWord field.2 fields (depth + 1)
        ((indent depth).toList ++ ')' :: rest)
      rw [names, Option.bind_some] at read
      rw [recordBody, List.cons_append, parentheses?, skipBlank_cons (by decide),
        List.append_assoc, List.append_assoc, List.singleton_append, names, Option.bind_eq_bind,
        Option.bind_some, startsField_colon isWord, if_pos rfl, read]
      · rfl
      · simp

theorem length_fields_lt (depth : Nat) (fields : List (String × Written)) :
    (printFields (depth + 1) fields).toList.length < (recordBody depth fields).length := by
  cases fields with
  | nil => simp [printFields, recordBody]
  | cons field fields =>
      simp only [recordBody, List.length_cons, List.length_append, List.length_nil]
      omega

theorem length_items_lt (depth : Nat) (items : List Written) :
    (printItems (depth + 1) items).toList.length < (listBody depth items).length := by
  cases items with
  | nil => simp [printItems, listBody]
  | cons item items =>
      simp only [listBody, List.length_cons, List.length_append, List.length_nil]
      omega

theorem skipBlank_listBody (depth : Nat) (items : List Written) (rest : List Char) :
    skipBlank (listBody depth items ++ rest) =
      skipBlank ((printItems (depth + 1) items).toList ++
        ((indent depth).toList ++ ']' :: rest)) := by
  cases items with
  | nil => simp [listBody, printItems, skipBlank_indent]
  | cons item items => simp [listBody, skipBlank_cons (c := '\n') (by decide)]

-- Each level of calls hands on one less than its own room, and a nested value is shorter than the
-- whole by at least as many characters as there are levels that lead to it. So the length of what
-- is printed is room enough.
mutual

theorem value?_print :
    ∀ (written : Written) (depth fuel : Nat) (rest : List Char) {room : Nat},
      written.Fits room → (print depth written).toList.length < fuel → Closes rest →
      value? fuel ((print depth written).toList ++ rest) = some (toTree written, rest)
  | .bool value, _, fuel + 1, rest, _, _, _, closes => by
      rw [print]
      exact value?_word (isWord_bool value) closes fuel
  | .natural value, _, fuel + 1, rest, _, fits, _, closes => by
      rw [toList_natural]
      exact value?_natural fits closes fuel
  | .text value, _, fuel + 1, rest, _, _, _, _ => by
      rw [print]
      exact value?_text value fuel rest
  | .absent, _, fuel + 1, rest, _, _, _, closes => by
      rw [print]
      exact value?_word (by decide) closes fuel
  | .present value, depth, fuel + 1, rest, _, ⟨_, _, fits⟩, enough, _ => by
      rw [toList_present] at enough ⊢
      have letters : 0 < "Some".toList.length := by decide
      simp only [List.length_append, List.length_cons, List.length_nil] at enough
      obtain ⟨left, rfl⟩ := Nat.exists_eq_add_of_le' (show 3 ≤ fuel by omega)
      exact value?_content (by decide) fits
        (value?_print value depth (left + 1) (')' :: rest) fits (by omega)
          (closes_parenthesis rest))
  | .list items, depth, fuel + 1, rest, _, ⟨_, fit⟩, enough, _ => by
      have shorter := length_items_lt depth items
      rw [toList_list] at enough ⊢
      rw [List.length_cons] at enough
      rw [List.cons_append, value?_list, skipBlank_listBody,
        items?_print items (depth + 1) depth fuel rest fit (by omega)]
      rfl
  | .record fields, depth, fuel + 1, rest, _, ⟨_, fit⟩, enough, _ => by
      have shorter := length_fields_lt depth fields
      rw [toList_record] at enough ⊢
      rw [List.length_cons] at enough
      obtain ⟨left, rfl⟩ := Nat.exists_eq_add_of_le' (show 2 ≤ fuel by omega)
      rw [List.cons_append, value?_unnamed]
      exact parentheses?_fields fit none
        (fields?_print fields (depth + 1) depth (left + 1) rest fit (by omega))
  | .choice name, _, fuel + 1, rest, _, isName, _, closes => by
      rw [print]
      exact value?_word isName.1 closes fuel
  | .choiceOf name content, depth, fuel + 1, rest, _, ⟨⟨isWord, _⟩, _, fits⟩, enough, _ => by
      obtain ⟨c, more, letters, -⟩ := opens_word isWord
      rw [toList_choiceOf] at enough ⊢
      simp only [letters, List.length_append, List.length_cons, List.length_nil] at enough
      obtain ⟨left, rfl⟩ := Nat.exists_eq_add_of_le' (show 3 ≤ fuel by omega)
      exact value?_content isWord fits
        (value?_print content depth (left + 1) (')' :: rest) fits (by omega)
          (closes_parenthesis rest))
  | .choiceWith name fields, depth, fuel + 1, rest, _, ⟨⟨isWord, _⟩, _, fit⟩, enough, _ => by
      have shorter := length_fields_lt depth fields
      rw [toList_choiceWith] at enough ⊢
      simp only [List.length_append, List.length_cons] at enough
      obtain ⟨left, rfl⟩ := Nat.exists_eq_add_of_le' (show 2 ≤ fuel by omega)
      rw [List.append_assoc, List.cons_append, value?_named isWord]
      exact parentheses?_fields fit (some { text := name })
        (fields?_print fields (depth + 1) depth (left + 1) rest fit (by omega))

theorem items?_print :
    ∀ (items : List Written) (deeper depth fuel : Nat) (rest : List Char) {room : Nat},
      ItemsFit room items → (printItems deeper items).toList.length < fuel →
      (skipBlank ((printItems deeper items).toList ++ ((indent depth).toList ++ ']' :: rest))).bind
        (items? fuel ']') = some (toTrees items, rest)
  | [], _, depth, fuel + 1, rest, _, _, _ => by
      have closing : skipBlank (']' :: rest) = some (']' :: rest) :=
        skipBlank_of_solid (by decide) (by decide)
      rw [printItems, String.toList_empty, List.nil_append, skipBlank_indent, closing,
        Option.bind_some, items?_close]
      rfl
  | item :: items, deeper, depth, fuel + 1, rest, _, ⟨fits, fit⟩, enough => by
      have opens := opens_print fits deeper
      rw [toList_items] at enough ⊢
      simp only [List.length_append, List.length_cons] at enough
      obtain ⟨chars, skipped, others⟩ := Option.bind_eq_some_iff.mp
        (items?_print items deeper depth fuel rest fit (by omega))
      have first := value?_print item deeper fuel
        (',' :: '\n' :: ((printItems deeper items).toList ++
          ((indent depth).toList ++ ']' :: rest)))
        fits (by omega) (closes_comma _)
      have separated := skipBlank_separator ((printItems deeper items).toList ++
        ((indent depth).toList ++ ']' :: rest)) ']'
      simp only [List.append_assoc, List.cons_append, skipBlank_indent, opens.skipBlank,
        Option.bind_eq_bind, Option.bind_some, items?_item opens fuel (.inl rfl), first]
      rw [← Option.bind_assoc, separated, skipped, Option.bind_some, others]
      rfl

theorem fields?_print :
    ∀ (fields : List (String × Written)) (deeper depth fuel : Nat) (rest : List Char) {room : Nat},
      FieldsFit room fields → (printFields deeper fields).toList.length < fuel →
      (skipBlank ((printFields deeper fields).toList ++
        ((indent depth).toList ++ ')' :: rest))).bind (fields? fuel) =
          some (toTreeFields fields, rest)
  | [], _, depth, fuel + 1, rest, _, _, _ => by
      rw [printFields, String.toList_empty, List.nil_append, skipBlank_indent,
        (closes_parenthesis rest).skipBlank, Option.bind_some, fields?_close]
      rfl
  | (name, value) :: fields, deeper, depth, fuel + 1, rest, _, ⟨isName, fits, fit⟩, enough => by
      have opens := opens_print fits deeper
      have letters := skipBlank_fields isName.1 value fields deeper
        ((indent depth).toList ++ ')' :: rest)
      rw [toList_fields] at enough
      simp only [List.length_append, List.length_cons] at enough
      obtain ⟨chars, skipped, others⟩ := Option.bind_eq_some_iff.mp
        (fields?_print fields deeper depth fuel rest fit (by omega))
      have first := value?_print value deeper fuel
        (',' :: '\n' :: ((printFields deeper fields).toList ++
          ((indent depth).toList ++ ')' :: rest)))
        fits (by omega) (closes_comma _)
      have separated := skipBlank_separator ((printFields deeper fields).toList ++
        ((indent depth).toList ++ ')' :: rest)) ')'
      rw [letters, Option.bind_some, fields?_field isName.1,
        skipBlank_cons (show isBlank ' ' = true by decide), opens.skipBlank]
      simp only [Option.bind_eq_bind, Option.bind_some, first]
      rw [← Option.bind_assoc, separated, skipped, Option.bind_some, others]
      rfl

end

/-! ### Whole texts -/

/-- A text that begins with a value has no attributes before it. -/
theorem tree?_of_opens {source : String} (opens : Opens source.toList) :
    tree? source =
      (value? (2 * (source.length + 1)) source.toList).bind fun (tree, rest) =>
        (skipBlank rest).bind fun
          | [] => some ([], tree)
          | _ => none := by
  have unskipped := opens.skipBlank []
  rw [List.append_nil] at unskipped
  have noAttribute : attributes? (source.length + 1) source.toList = some ([], source.toList) := by
    obtain ⟨c, rest, letters, begins⟩ := opens
    have noSign : (c == '#') = false := by simpa using begins.ne (by decide)
    simp [letters, attributes?, noSign]
  simp only [tree?, unskipped, noAttribute, Option.bind_eq_bind, Option.bind_some]
  rfl

theorem tree?_render {written : Written} {room : Nat} (fits : written.Fits room) :
    tree? (render written) = some ([], toTree written) := by
  have opens := opens_print fits 0
  have enough : (print 0 written).toList.length < 2 * ((print 0 written).length + 1) := by
    rw [String.length_toList]
    omega
  have whole := value?_print written 0 _ [] fits enough (by simp [Closes])
  rw [List.append_nil] at whole
  rw [render, tree?_of_opens opens, whole]
  rfl

/-! ### Integers out of range -/

theorem tree?_number {source : String} {c : Char} {rest : List Char}
    (letters : source.toList = c :: rest) (begins : c.isDigit = true ∨ c = '-') :
    tree? source =
      (number? source.toList).bind fun (number, rest) =>
        (skipBlank rest).bind fun
          | [] => some ([], .number number)
          | _ => none := by
  have opens : Opens source.toList := by
    refine ⟨c, rest, letters, ?_⟩
    rcases begins with digit | rfl
    · exact .inr (.inl digit)
    · decide
  have room : 2 * (source.length + 1) = 2 * source.length + 1 + 1 := by omega
  rw [tree?_of_opens opens, room, letters, value?_number begins]
  cases number? (c :: rest) <;> rfl

theorem isSound_of_fits {literal : IntegerLiteral} {bits : Nat} (width : bits ≤ 64)
    (untyped : literal.type = none) (fits : literal.fits { signed := false, bits } = true) :
    literal.isSound = true := by
  obtain ⟨small, nonnegative⟩ := fits_unsigned.mp fits
  have wider : 1 <<< bits ≤ 1 <<< 64 := one_shiftLeft_le width
  cases negative : literal.negative with
  | false =>
      simp only [IntegerLiteral.isSound, untyped, negative, IntegerLiteral.fits, Bool.false_eq_true,
        if_false, decide_eq_true_eq]
      omega
  | true =>
      simp [IntegerLiteral.isSound, untyped, negative, IntegerLiteral.fits, nonnegative negative]

/-- A decimal text is read as an integer of a width where it is one, and is refused where it
is not. -/
theorem natural?_decimal {bits : Nat} (width : bits ≤ 64) {source : String} {negative : Bool}
    {magnitude : Nat} (letters : source.toList = sign negative ++ Nat.toDigits 10 magnitude) :
    Ron.read? (Node.natural? bits) source =
      if IntegerLiteral.fits { negative, magnitude } { signed := false, bits } then
        some magnitude
      else none := by
  have whole : tree? source = (number? source.toList).bind fun (number, rest) =>
      (skipBlank rest).bind fun
        | [] => some ([], .number number)
        | _ => none := by
    cases negative with
    | true => exact tree?_number letters (.inr rfl)
    | false =>
        cases digits : Nat.toDigits 10 magnitude with
        | nil => exact absurd digits Nat.toDigits_ne_nil
        | cons c rest =>
            rw [digits] at letters
            exact tree?_number letters
              (.inl (isDigit_of_mem_toDigits magnitude c (by simp [digits])))
  have closes : Closes [] := by simp [Closes]
  have decimal := number?_decimal negative magnitude closes
  rw [List.append_nil, ← letters] at decimal
  rw [Ron.read?, whole, decimal]
  cases sound : IntegerLiteral.isSound { negative, magnitude } with
  | true => simp [closes.skipBlank, Node.natural?]
  | false =>
      have unfit : ¬ IntegerLiteral.fits { negative, magnitude } { signed := false, bits } := by
        intro fits
        rw [isSound_of_fits width rfl fits] at sound
        exact Bool.false_ne_true sound.symm
      rw [if_neg unfit, if_neg Bool.false_ne_true]
      cases float? source.toList with
      | none => rfl
      | some left =>
          cases left with
          | nil => rfl
          | cons c left => rfl

theorem toList_toString (number : Int) :
    (toString number).toList = sign (decide (number < 0)) ++ Nat.toDigits 10 number.natAbs := by
  rw [Int.toString_eq_repr, Int.repr_eq_if]
  by_cases nonnegative : 0 ≤ number
  · have magnitude : number.toNat = number.natAbs := by omega
    rw [if_pos nonnegative, decide_eq_false (by omega), magnitude, Nat.toList_repr]
    rfl
  · have magnitude : (-number).toNat = number.natAbs := by omega
    rw [if_neg nonnegative, decide_eq_true (by omega), magnitude, String.toList_append,
      Nat.toList_repr]
    rfl

/-- The text of an integer is read as one of a width, or refused. -/
theorem natural?_toString {bits : Nat} (width : bits ≤ 64) (number : Int) :
    Ron.read? (Node.natural? bits) (toString number) =
      if 0 ≤ number ∧ number.toNat < 1 <<< bits then some number.toNat else none := by
  have range : IntegerLiteral.fits
      { negative := decide (number < 0), magnitude := number.natAbs } { signed := false, bits } =
        true ↔ 0 ≤ number ∧ number.toNat < 1 <<< bits := by
    rw [fits_unsigned]
    simp only [decide_eq_true_eq]
    omega
  rw [natural?_decimal width (toList_toString number)]
  by_cases inside : 0 ≤ number ∧ number.toNat < 1 <<< bits
  · have magnitude : number.natAbs = number.toNat := by omega
    rw [if_pos inside, if_pos (range.mpr inside), magnitude]
  · rw [if_neg inside, if_neg fun fits => inside (range.mp fits)]

end OutboundSms.Format.Ron
