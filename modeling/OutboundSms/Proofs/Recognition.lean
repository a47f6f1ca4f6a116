import Mathlib.Data.List.DropRight
import Mathlib.Data.List.TakeWhile
import OutboundSms.Proofs.Admission

/-!
# Recognition of emergency numbers

An address is recognised by what is left of it without the white space at its ends, and the
configured numbers are compared as they stand. So white space around an address makes no
difference, while a number that was configured with white space around it is no address's
number, not even its own.
-/

set_option autoImplicit false

namespace OutboundSms

namespace Text

variable {before core after : List Char} {text kept other left right : String}

/-- What is left of a text without the white space at both its ends. -/
def Strips (text kept : String) : Prop :=
  ∃ before after : List Char, (∀ c ∈ before ++ after, c.toNat ∈ whiteSpace) ∧
    text.toList = before ++ kept.toList ++ after ∧
    (∀ c ∈ kept.toList.head?, c.toNat ∉ whiteSpace) ∧
    ∀ c ∈ kept.toList.getLast?, c.toNat ∉ whiteSpace

/-- Two texts that differ in nothing but white space at their ends. -/
def Alike (left right : String) : Prop :=
  ∃ kept, Strips left kept ∧ Strips right kept

theorem not_isBlank_iff {c : Char} : isBlank c = false ↔ c.toNat ∉ whiteSpace := by
  rw [← isBlank_iff, Bool.not_eq_true]

theorem trimBlank_append (blankBefore : ∀ c ∈ before, isBlank c = true)
    (blankAfter : ∀ c ∈ after, isBlank c = true) :
    trimBlank (before ++ core ++ after) = trimBlank core := by
  have emptied : after.dropWhile isBlank = [] := List.dropWhile_eq_nil_iff.mpr blankAfter
  have turned : ∀ c ∈ after.reverse, isBlank c = true := by simpa using blankAfter
  rw [trimBlank, List.append_assoc, List.dropWhile_append_of_pos blankBefore,
    List.dropWhile_append]
  split
  · rename_i blank
    rw [emptied, trimBlank, List.isEmpty_iff.mp blank]
  · rw [List.reverse_append, List.dropWhile_append_of_pos turned, trimBlank]

theorem trimBlank_eq_self (first : ∀ c ∈ core.head?, isBlank c = false)
    (last : ∀ c ∈ core.getLast?, isBlank c = false) : trimBlank core = core := by
  have kept (chars : List Char) (unblank : ∀ c ∈ chars.head?, isBlank c = false) :
      chars.dropWhile isBlank = chars := by
    cases chars with
    | nil => rfl
    | cons c rest => simp [unblank c rfl]
  rw [trimBlank, kept core first, kept core.reverse (by simpa using last), List.reverse_reverse]

/-- What trimming takes away is blank, and what it leaves does not begin or end so. -/
theorem trimBlank_spec (chars : List Char) :
    ∃ before after, (∀ c ∈ before, isBlank c = true) ∧ (∀ c ∈ after, isBlank c = true) ∧
      chars = before ++ trimBlank chars ++ after ∧
      (∀ c ∈ (trimBlank chars).head?, isBlank c = false) ∧
      ∀ c ∈ (trimBlank chars).getLast?, isBlank c = false := by
  have parts : trimBlank chars ++ (chars.dropWhile isBlank).rtakeWhile isBlank =
      chars.dropWhile isBlank := List.rdropWhile_append_rtakeWhile
  refine ⟨chars.takeWhile isBlank, (chars.dropWhile isBlank).rtakeWhile isBlank,
    fun c => List.mem_takeWhile_imp, fun c => List.mem_rtakeWhile_imp, ?_, ?_, ?_⟩
  · rw [List.append_assoc, parts, List.takeWhile_append_dropWhile]
  · intro c first
    have unblank := List.head?_dropWhile_not isBlank chars
    obtain ⟨rest, trimmed⟩ := List.head?_eq_some_iff.mp first
    rw [← parts, trimmed] at unblank
    exact unblank
  · intro c last
    have unblank := List.head?_dropWhile_not isBlank (chars.dropWhile isBlank).reverse
    rw [trimBlank, List.getLast?_reverse] at last
    rw [Option.mem_def.mp last] at unblank
    exact unblank

/-- Trimming takes away the white space at both ends. -/
theorem trim_eq_iff : trim text = kept ↔ Strips text kept := by
  constructor
  · rintro rfl
    obtain ⟨before, after, blankBefore, blankAfter, parts, first, last⟩ :=
      trimBlank_spec text.toList
    refine ⟨before, after, ?_, by simpa [trim] using parts, ?_, ?_⟩
    · intro c member
      rcases List.mem_append.mp member with among | among
      · exact isBlank_iff.mp (blankBefore c among)
      · exact isBlank_iff.mp (blankAfter c among)
    · intro c member
      exact not_isBlank_iff.mp (first c (by simpa [trim] using member))
    · intro c member
      exact not_isBlank_iff.mp (last c (by simpa [trim] using member))
  · rintro ⟨before, after, blank, parts, first, last⟩
    have blankBefore : ∀ c ∈ before, isBlank c = true :=
      fun c member => isBlank_iff.mpr (blank c (List.mem_append_left after member))
    have blankAfter : ∀ c ∈ after, isBlank c = true :=
      fun c member => isBlank_iff.mpr (blank c (List.mem_append_right before member))
    rw [trim, parts, trimBlank_append blankBefore blankAfter, trimBlank_eq_self,
      String.ofList_toList]
    · exact fun c member => not_isBlank_iff.mpr (first c member)
    · exact fun c member => not_isBlank_iff.mpr (last c member)

theorem alike_iff : Alike left right ↔ trim left = trim right := by
  constructor
  · rintro ⟨kept, leftKept, rightKept⟩
    rw [trim_eq_iff.mpr leftKept, trim_eq_iff.mpr rightKept]
  · intro same
    exact ⟨trim right, trim_eq_iff.mp same, trim_eq_iff.mp rfl⟩

theorem trim_trim (text : String) : trim (trim text) = trim text := by
  obtain ⟨before, after, blank, parts, first, last⟩ := trim_eq_iff.mp (Eq.refl (trim text))
  exact trim_eq_iff.mpr ⟨[], [], by simp, by simp, first, last⟩

end Text

namespace EmergencyNumbers

variable {table : EmergencyNumbers} {address other number : String}

theorem isEmergency_iff_mem :
    table.isEmergency address = true ↔ Text.trim address ∈ table.numbers := by
  simp [isEmergency]

/-- An address is a configured number if nothing but white space stands around that number in
it, and if the number was configured without. -/
theorem isEmergency_iff :
    table.isEmergency address = true ↔ ∃ number ∈ table.numbers, Text.Strips address number := by
  simp [isEmergency_iff_mem, ← Text.trim_eq_iff]

theorem isEmergency_congr (alike : Text.Alike address other) :
    table.isEmergency address = table.isEmergency other := by
  rw [isEmergency, isEmergency, Text.alike_iff.mp alike]

/-- Another number makes a difference to the addresses like it, if it was configured without
white space around it, and to no others. -/
theorem isEmergency_insert_iff (before after : List String) :
    isEmergency ⟨before ++ number :: after⟩ address = true ↔
      isEmergency ⟨before ++ after⟩ address = true ∨
        Text.trim number = number ∧ Text.Alike address number := by
  have bare_iff : Text.trim address = number ↔
      Text.trim number = number ∧ Text.Alike address number := by
    rw [Text.alike_iff]
    constructor
    · rintro rfl
      exact ⟨Text.trim_trim address, (Text.trim_trim address).symm⟩
    · rintro ⟨bare, same⟩
      exact same.trans bare
  rw [← bare_iff, isEmergency_iff_mem, isEmergency_iff_mem, List.mem_append, List.mem_append,
    List.mem_cons, or_right_comm, or_assoc]

theorem insensitive_iff (table : EmergencyNumbers) :
    (∀ address, table.isEmergency address = true ↔
        ∃ number ∈ table.numbers, Text.Alike address number) ↔
      ∀ number ∈ table.numbers, table.isEmergency number = true := by
  constructor
  · intro recognises number member
    exact (recognises number).mpr ⟨number, member, Text.alike_iff.mpr rfl⟩
  · intro recognised address
    constructor
    · intro emergency
      obtain ⟨number, member, stripped⟩ := isEmergency_iff.mp emergency
      have bare : Text.trim number = number := by
        rw [← Text.trim_eq_iff.mpr stripped, Text.trim_trim]
      exact ⟨number, member, number, stripped, Text.trim_eq_iff.mp bare⟩
    · rintro ⟨number, member, alike⟩
      rw [isEmergency_congr alike]
      exact recognised number member

/-- White space around one of the numbers matters if that number is recognised on one side
only, unless the bare number was configured too. -/
theorem isEmergency_respelled_iff {before after : List String} (alike : Text.Alike number other) :
    (∀ address, isEmergency ⟨before ++ other :: after⟩ address =
        isEmergency ⟨before ++ number :: after⟩ address) ↔
      (Text.trim other = other ↔ Text.trim number = number) ∨
        Text.trim number ∈ before ++ after := by
  have same := Text.alike_iff.mp alike
  have alike_iff (address : String) : Text.Alike address other ↔ Text.Alike address number := by
    rw [Text.alike_iff, Text.alike_iff, same]
  have unchanged_iff (address : String) :
      isEmergency ⟨before ++ other :: after⟩ address =
          isEmergency ⟨before ++ number :: after⟩ address ↔
        (isEmergency ⟨before ++ after⟩ address = true ∨
            Text.trim other = other ∧ Text.Alike address number ↔
          isEmergency ⟨before ++ after⟩ address = true ∨
            Text.trim number = number ∧ Text.Alike address number) := by
    rw [Bool.eq_iff_iff, isEmergency_insert_iff, isEmergency_insert_iff, alike_iff]
  simp only [unchanged_iff]
  constructor
  · intro unchanged
    have itself := unchanged number
    have reflexive : Text.Alike number number := Text.alike_iff.mpr rfl
    rw [isEmergency_iff_mem] at itself
    by_cases configured : Text.trim number ∈ before ++ after
    · exact .inr configured
    · exact .inl (by simpa [configured, reflexive] using itself)
  · rintro (bare_iff | configured) address
    · rw [bare_iff]
    · have covered : Text.Alike address number → isEmergency ⟨before ++ after⟩ address = true := by
        intro near
        rw [isEmergency_iff_mem, Text.alike_iff.mp near]
        exact configured
      by_cases near : Text.Alike address number
      · simp [covered near]
      · simp [near]

/-- White space around an address makes no difference: what is left of the address without it is
looked up, and a message is routed in the same class with it and without. Around a configured
number it does. A table recognises all addresses like its numbers if and only if it recognises
its own numbers, and to add white space to a number or to remove it keeps the classes of all
addresses if and only if it leaves the number bare or padded as it was, or if the bare number
is configured beside it. -/
theorem recognition_exact (table : EmergencyNumbers) :
    (∀ address, table.isEmergency address = true ↔
      ∃ number ∈ table.numbers, Text.Strips address number) ∧
    (∀ (surroundings : Surroundings) (request : SendRequest) (other : String),
      surroundings.isEmergencyNumber = table.isEmergency →
      Text.Alike other request.destination →
        (Controller.admitted surroundings { request with destination := other }).trafficClass =
          (Controller.admitted surroundings request).trafficClass) ∧
    ((∀ address, table.isEmergency address = true ↔
        ∃ number ∈ table.numbers, Text.Alike address number) ↔
      ∀ number ∈ table.numbers, table.isEmergency number = true) ∧
    ∀ before number after other, table.numbers = before ++ number :: after →
      Text.Alike number other →
        ((∀ address, isEmergency ⟨before ++ other :: after⟩ address = table.isEmergency address) ↔
          (Text.trim other = other ↔ Text.trim number = number) ∨
            Text.trim number ∈ before ++ after) := by
  refine ⟨fun address => isEmergency_iff, ?_, insensitive_iff table, ?_⟩
  · intro surroundings request other classifies alike
    simp only [Controller.admitted, Tracker.trafficClass, Tracker.ofRequest, classifies,
      isEmergency_congr alike]
  · intro before number after other numbers alike
    obtain rfl : table = ⟨before ++ number :: after⟩ := congrArg mk numbers
    exact isEmergency_respelled_iff alike

end EmergencyNumbers

namespace Sample

/-- One number, configured with a space on either side. -/
def paddedNumbers : EmergencyNumbers :=
  ⟨[" 911 "]⟩

def paddedSurroundings : Surroundings :=
  { surroundings with isEmergencyNumber := paddedNumbers.isEmergency }

/-- A message to the number is routed as normal traffic, however it is written. -/
theorem padded_unrecognised :
    (Controller.admitted paddedSurroundings
        { request 1 with destination := " 911 " }).trafficClass = .normal ∧
      (¬ ∀ address, paddedNumbers.isEmergency address = true ↔
        ∃ number ∈ paddedNumbers.numbers, Text.Alike address number) ∧
      ¬ ∀ address, EmergencyNumbers.isEmergency ⟨["911"]⟩ address =
        paddedNumbers.isEmergency address := by
  obtain ⟨-, routed, insensitive_iff, respelled_iff⟩ := paddedNumbers.recognition_exact
  have alike : Text.Alike " 911 " "911" := Text.alike_iff.mpr (by decide)
  refine ⟨?_, ?_, ?_⟩
  · have bare : (Controller.admitted paddedSurroundings
        { request 1 with destination := "911" }).trafficClass = .normal := by decide
    have classifies : paddedSurroundings.isEmergencyNumber = paddedNumbers.isEmergency := by
      rw [paddedSurroundings]
    exact (routed _ { request 1 with destination := "911" } " 911 " classifies alike).trans bare
  · intro insensitive
    have recognised := insensitive_iff.mp insensitive " 911 " (by simp [paddedNumbers])
    exact absurd recognised (by decide)
  · intro unchanged
    exact absurd ((respelled_iff [] " 911 " [] "911" rfl alike).mp unchanged) (by decide)

end Sample

end OutboundSms
