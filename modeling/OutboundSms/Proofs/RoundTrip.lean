import OutboundSms.Proofs.Decoding
import OutboundSms.Proofs.Printing

/-!
# Round trips

Every value is read back from its document and from its printed text, integers out of range
are refused, and the fields that a record gives take the place of the defaults of its type.
-/

set_option autoImplicit false

namespace OutboundSms

open Format

/-! ### Values that fit -/

theorem fits_uInt8 (room : Nat) (value : UInt8) : (Written.natural value.toNat).Fits room :=
  fits_natural 8 (by decide) UInt8.toNat_lt room value

theorem fits_uInt16 (room : Nat) (value : UInt16) : (Written.natural value.toNat).Fits room :=
  fits_natural 16 (by decide) UInt16.toNat_lt room value

theorem fits_uInt32 (room : Nat) (value : UInt32) : (Written.natural value.toNat).Fits room :=
  fits_natural 32 (by decide) UInt32.toNat_lt room value

theorem fits_uInt64 (room : Nat) (value : UInt64) : (Written.natural value.toNat).Fits room :=
  fits_natural 64 (by decide) UInt64.toNat_lt room value

theorem fits_bool (room : Nat) (value : Bool) : (Written.bool value).Fits room :=
  trivial

theorem fits_text (room : Nat) (value : String) : (Written.text value).Fits room :=
  trivial

theorem fits_choice (room : Nat) {name : String} (isName : IsName name) :
    (Written.choice name).Fits room :=
  isName

theorem Domain.fits (room : Nat) (domain : Domain) : domain.written.Fits room := by
  cases domain with
  | ps | cs => exact fits_choice room (by decide)

theorem SmsFormat.fits (room : Nat) (format : SmsFormat) : format.written.Fits room := by
  cases format with
  | threeGpp | threeGpp2 => exact fits_choice room (by decide)

theorem TrafficClass.fits (room : Nat) (trafficClass : TrafficClass) :
    trafficClass.written.Fits room := by
  cases trafficClass with
  | normal | emergency => exact fits_choice room (by decide)

theorem RequestKind.fits (room : Nat) (kind : RequestKind) : kind.written.Fits room := by
  cases kind with
  | text | data | multipartText | retry => exact fits_choice room (by decide)

theorem ResultCode.fits (room : Nat) (code : ResultCode) : code.written.Fits (room + 2) := by
  cases code with
  | unknown number =>
      exact ⟨by decide, by omega, fits_uInt32 _ number⟩
  | _ => exact fits_choice _ (by decide)

theorem LinkResponse.fits (room : Nat) (response : LinkResponse) :
    response.written.Fits (room + 4) := by
  cases response with
  | accepted | fallback => exact fits_choice _ (by decide)
  | rejected code | retry code =>
      exact ⟨by decide, by omega, ResultCode.fits room code⟩

theorem SendResult.fits (room : Nat) (result : SendResult) : result.written.Fits (room + 4) := by
  cases result with
  | sent messageRef =>
      refine ⟨by decide, by omega, ?_, ?_, trivial⟩
      · decide
      · exact fits_optional (fits_uInt8 room) (by simp) messageRef
  | failed code =>
      exact ⟨by decide, by omega, ResultCode.fits room code⟩

theorem Payload.fits (room : Nat) (payload : Payload) : payload.written.Fits (room + 5) := by
  cases payload with
  | text body => exact ⟨by decide, by omega, trivial⟩
  | data port octets =>
      refine ⟨by decide, by omega, ?_, fits_uInt16 _ port, ?_, ?_, trivial⟩
      · decide
      · decide
      · exact fits_listOf (fits_uInt8 room) octets
  | multipartText parts =>
      refine ⟨by decide, by omega, ?_⟩
      exact fits_listOf (fits_text _) parts

theorem DeliveryReport.fits (room : Nat) (report : DeliveryReport) :
    report.written.Fits (room + 2) := by
  refine ⟨by omega, ?_, fits_uInt8 _ report.messageRef, ?_, trivial, ?_,
    fits_uInt32 _ report.status, trivial⟩
  · decide
  · decide
  · decide

theorem DispatchConfig.Given.fieldsFit (room : Nat) (given : Given) :
    FieldsFit room given.fields := by
  simp only [fields, List.flatten_cons]
  refine fieldsFit_writtenField_append (by decide) (fits_bool room) _ ?_
  refine fieldsFit_writtenField_append (by decide) (fits_uInt32 room) _ ?_
  refine fieldsFit_writtenField_append (by decide) (fits_uInt32 room) _ ?_
  refine fieldsFit_writtenField_append (by decide) (fits_uInt64 room) _ ?_
  refine fieldsFit_writtenField_append (by decide) (fits_uInt64 room) _ ?_
  refine fieldsFit_writtenField_append (by decide) (fits_uInt16 room) _ ?_
  trivial

theorem DispatchConfig.fits (room : Nat) (config : DispatchConfig) :
    config.written.Fits (room + 2) :=
  ⟨by omega, (Given.all config).fieldsFit room⟩

theorem SendOptions.Given.fieldsFit (room : Nat) (given : Given) :
    FieldsFit (room + 1) given.fields := by
  simp only [fields, List.flatten_cons]
  refine fieldsFit_writtenField_append (by decide) (fits_text _) _ ?_
  refine fieldsFit_writtenField_append (by decide) (fits_bool _) _ ?_
  refine fieldsFit_writtenField_append (by decide)
    (fits_optional (fits_uInt8 room) (by simp)) _ ?_
  refine fieldsFit_writtenField_append (by decide) (fits_bool _) _ ?_
  refine fieldsFit_writtenField_append (by decide)
    (fits_optional (fits_uInt32 room) (by simp)) _ ?_
  refine fieldsFit_writtenField_append (by decide) (fits_uInt64 _) _ ?_
  refine fieldsFit_writtenField_append (by decide) (fits_uInt32 _) _ ?_
  trivial

theorem SendOptions.fits (room : Nat) (options : SendOptions) :
    options.written.Fits (room + 3) :=
  ⟨by omega, (Given.all options).fieldsFit room⟩

theorem LinkScript.Given.fieldsFit (room : Nat) (given : Given) :
    FieldsFit (room + 6) given.fields := by
  simp only [fields, List.flatten_cons]
  refine fieldsFit_writtenField_append (by decide) (fits_bool _) _ ?_
  refine fieldsFit_writtenField_append (by decide) (fits_bool _) _ ?_
  refine fieldsFit_writtenField_append (by decide)
    (fits_listOf (LinkResponse.fits room)) _ ?_
  refine fieldsFit_writtenField_append (by decide) (fits_uInt64 _) _ ?_
  refine fieldsFit_writtenField_append (by decide) (fits_bool _) _ ?_
  trivial

namespace Format

/-! ### Values -/

section Values

variable {α γ : Type}

/-- Whatever document spells a value is read as that value, and what is read agrees with the
document. So the value is read back from its own document and from its own text. -/
structure ReadsBack (write : α → Written) (read : {δ : Type} → [Structured δ] → δ → Option α) :
    Prop where
  restores (δ : Type) [Structured δ] [Bounded δ] : Restores (δ := δ) read write
  document (value : α) : read (write value).toDocument = some value
  text (value : α) : Ron.read? read (Ron.render (write value)) = some value

theorem ReadsBack.of_restores {write : α → Written}
    {read : {δ : Type} → [Structured δ] → δ → Option α}
    (restores : ∀ (δ : Type) [Structured δ] [Bounded δ], Restores (δ := δ) read write)
    (fits : ∀ value, (write value).Fits Ron.nestingLimit) : ReadsBack write read where
  restores := restores
  document value := (restores Document).undoes (spells_toDocument (write value) (fits value))
  text value := by
    rw [Ron.read?, Ron.tree?_render (fits value)]
    exact (restores Ron.Node).undoes (Ron.spells_toTree (write value) (fits value))

/-! ### Integers -/

/-- An integer is read as a value of a width where it is in its range, and is refused where it
is not. -/
structure ReadsWidth (bits : Nat) (toNat : α → Nat)
    (read : {δ : Type} → [Structured δ] → δ → Option α) : Prop where
  document (number : Int) : (read (Document.integer number)).map toNat =
    if 0 ≤ number ∧ number.toNat < 1 <<< bits then some number.toNat else none
  text (number : Int) : (Ron.read? read (toString number)).map toNat =
    if 0 ≤ number ∧ number.toNat < 1 <<< bits then some number.toNat else none

theorem readsWidth {bits : Nat} (width : bits ≤ 64) {toNat : α → Nat} {ofNat : Nat → α}
    (toNat_ofNat : ∀ {number}, number < 1 <<< bits → toNat (ofNat number) = number) :
    ReadsWidth bits toNat fun document => (natural? bits document).map ofNat := by
  have kept {found : Option Nat} (bounded : ∀ number ∈ found, number < 1 <<< bits) :
      (found.map ofNat).map toNat = found := by
    cases found with
    | none => rfl
    | some number => exact congrArg some (toNat_ofNat (bounded number rfl))
  constructor
  · intro number
    rw [kept fun value found => Bounded.natural?_lt found]
    exact Document.natural?_integer bits number
  · intro number
    rw [← Ron.natural?_toString width number, Ron.read?, Ron.read?]
    cases Ron.tree? (toString number) with
    | none => rfl
    | some found => exact kept fun value found => Bounded.natural?_lt found

/-! ### Defaults -/

/-- Where a record gives some of its fields, in any order and among any others that are not
known, the rest is completed. -/
structure Completes (known : List String) (fields : γ → List (String × Written))
    (complete : γ → α) (read : {δ : Type} → [Structured δ] → δ → Option α) : Prop where
  record (δ : Type) [Structured δ] [Bounded δ] (given : γ) (document : δ)
    (parts present others : Fields δ) :
    IsRecord document parts → parts.Perm (present ++ others) →
      SpellsFields present (fields given) → (∀ other ∈ others, other.1 ∉ known) →
        read document = some (complete given)
  document (given : γ) (parts others : List (String × Document)) :
    parts.Perm (toFields (fields given) ++ others) → (∀ other ∈ others, other.1 ∉ known) →
      read (Document.object parts) = some (complete given)
  tree (given : γ) (parts others : List (Ron.Identifier × Ron.Tree)) :
    parts.Perm (Ron.toTreeFields (fields given) ++ others) →
      (∀ other ∈ others, other.1.text ∉ known ∧
        other.2.isSkippable (Ron.nestingLimit - 2) = true) →
      read (Ron.plainNode Ron.nestingLimit (Ron.parenthesized none parts)) =
        some (complete given)
  text (given : γ) (parts others : List (String × Written)) :
    parts.Perm (fields given ++ others) → (∀ other ∈ others, other.1 ∉ known) →
      (Written.record parts).Fits Ron.nestingLimit →
        Ron.read? read (Ron.render (.record parts)) = some (complete given)

theorem completes {known : List String} {fields : γ → List (String × Written)}
    {complete : γ → α} {read : {δ : Type} → [Structured δ] → δ → Option α}
    (typeName : String) (distinct : known.Nodup)
    (names : ∀ given, ((fields given).map (·.1)).Sublist known)
    (fit : ∀ given, FieldsFit (Ron.nestingLimit - 2) (fields given))
    (completed : ∀ (δ : Type) [Structured δ] [Bounded δ] (given : γ) {document : δ}
      {parts : Fields δ}, record? typeName known document = some parts →
        (∀ sought, Option.Rel Spells (parts.lookup sought) ((fields given).lookup sought)) →
          read document = some (complete given)) :
    Completes known fields complete read := by
  have record (δ : Type) [Structured δ] [Bounded δ] (given : γ) (document : δ)
      (parts present others : Fields δ) (isRecord : IsRecord document parts)
      (arranged : parts.Perm (present ++ others)) (spelled : SpellsFields present (fields given))
      (isUnknown : ∀ other ∈ others, other.1 ∉ known) :
      read document = some (complete given) := by
    obtain ⟨kept, keptFields, holds⟩ :=
      exists_known arranged spelled (names given) distinct isUnknown
    exact completed δ given ((isRecord typeName known).trans keptFields) holds
  have tree (given : γ) (parts others : List (Ron.Identifier × Ron.Tree))
      (arranged : parts.Perm (Ron.toTreeFields (fields given) ++ others))
      (isOther : ∀ other ∈ others, other.1.text ∉ known ∧
        other.2.isSkippable (Ron.nestingLimit - 2) = true) :
      read (Ron.plainNode Ron.nestingLimit (Ron.parenthesized none parts)) =
        some (complete given) := by
    -- Only unknown fields are passed over; that known ones could be as well spares a case split.
    have skippable : ∀ part ∈ parts, part.2.isSkippable (Ron.nestingLimit - 2) = true := by
      intro part member
      rcases List.mem_append.mp (arranged.subset member) with present | other
      · exact Ron.isSkippable_of_mem_toTreeFields (fit given) part present
      · exact (isOther part other).2
    have rearranged : (Ron.plainParts (Ron.nestingLimit - 2) parts).Perm
        (Ron.plainParts (Ron.nestingLimit - 2) (Ron.toTreeFields (fields given)) ++
          Ron.plainParts (Ron.nestingLimit - 2) others) := by
      rw [Ron.plainParts, Ron.plainParts, Ron.plainParts, ← List.map_append]
      exact arranged.map _
    refine record Ron.Node given _ _ _ _ (Ron.isRecord_parenthesized (by decide) skippable)
      rearranged (Ron.spellsFields_toTreeFields (fields given) (fit given)) ?_
    intro other member
    obtain ⟨field, among, rfl⟩ := List.mem_map.mp member
    exact (isOther field among).1
  refine ⟨record, ?_, tree, ?_⟩
  · intro given parts others arranged isUnknown
    exact record Document given (.object parts) parts _ others (fun _ _ => rfl) arranged
      (spellsFields_toFields (fields given) (fit given)) isUnknown
  · intro given parts others arranged isUnknown fits
    rw [Ron.read?, Ron.tree?_render fits]
    obtain ⟨-, partsFit⟩ := fits
    refine tree given (Ron.toTreeFields parts) (Ron.toTreeFields others) ?_ ?_
    · rw [Ron.toTreeFields_eq_map, Ron.toTreeFields_eq_map, Ron.toTreeFields_eq_map,
        ← List.map_append]
      exact arranged.map _
    · intro other member
      rw [Ron.toTreeFields_eq_map] at member
      obtain ⟨field, among, rfl⟩ := List.mem_map.mp member
      refine ⟨isUnknown field among, ?_⟩
      have there : field ∈ parts :=
        arranged.symm.subset (List.mem_append_right (fields given) among)
      exact Ron.isSkippable_toTree field.2 (fieldsFit_iff.mp partsFit field there).2
        (Nat.le_refl _)

end Values

end Format

/-! ### The whole -/

/-- Decoding undoes encoding for every value of the eleven written types, each integer type has
exactly the integers of its range, and the fields that a document gives replace those of the
default value and no others. -/
theorem decoding_faithful :
    (ReadsBack Domain.written Domain.read? ∧ ReadsBack SmsFormat.written SmsFormat.read? ∧
      ReadsBack TrafficClass.written TrafficClass.read? ∧
      ReadsBack RequestKind.written RequestKind.read? ∧
      ReadsBack ResultCode.written ResultCode.read? ∧
      ReadsBack SendResult.written SendResult.read? ∧
      ReadsBack DeliveryReport.written DeliveryReport.read? ∧
      ReadsBack Payload.written Payload.read? ∧
      ReadsBack SendOptions.written SendOptions.read? ∧
      ReadsBack LinkResponse.written LinkResponse.read? ∧
      ReadsBack DispatchConfig.written DispatchConfig.read?) ∧
    (ReadsWidth 8 UInt8.toNat readUInt8 ∧ ReadsWidth 16 UInt16.toNat readUInt16 ∧
      ReadsWidth 32 UInt32.toNat readUInt32 ∧ ReadsWidth 64 UInt64.toNat readUInt64) ∧
    Completes DispatchConfig.fieldNames DispatchConfig.Given.fields (·.applyTo {})
      DispatchConfig.read? ∧
    Completes SendOptions.fieldNames SendOptions.Given.fields (·.applyTo {}) SendOptions.read? ∧
    Completes LinkScript.fieldNames LinkScript.Given.fields (·.applyTo {}) LinkScript.read? := by
  refine ⟨⟨?_, ?_, ?_, ?_, ?_, ?_, ?_, ?_, ?_, ?_, ?_⟩, ⟨?_, ?_, ?_, ?_⟩, ?_, ?_, ?_⟩
  · exact .of_restores (fun _ => Domain.restores) (Domain.fits _)
  · exact .of_restores (fun _ => SmsFormat.restores) (SmsFormat.fits _)
  · exact .of_restores (fun _ => TrafficClass.restores) (TrafficClass.fits _)
  · exact .of_restores (fun _ => RequestKind.restores) (RequestKind.fits _)
  · exact .of_restores (fun _ => ResultCode.restores) (ResultCode.fits _)
  · exact .of_restores (fun _ => SendResult.restores) (SendResult.fits _)
  · exact .of_restores (fun _ => DeliveryReport.restores) (DeliveryReport.fits _)
  · exact .of_restores (fun _ => Payload.restores) (Payload.fits _)
  · exact .of_restores (fun _ => SendOptions.restores) (SendOptions.fits _)
  · exact .of_restores (fun _ => LinkResponse.restores) (LinkResponse.fits _)
  · exact .of_restores (fun _ => DispatchConfig.restores) (DispatchConfig.fits _)
  · exact readsWidth (by decide) UInt8.toNat_ofNat_of_lt'
  · exact readsWidth (by decide) UInt16.toNat_ofNat_of_lt'
  · exact readsWidth (by decide) UInt32.toNat_ofNat_of_lt'
  · exact readsWidth (by decide) UInt64.toNat_ofNat_of_lt'
  · exact completes "DispatchConfig" (by simp [DispatchConfig.fieldNames])
      DispatchConfig.Given.names_fields (DispatchConfig.Given.fieldsFit _)
      fun _ => DispatchConfig.read?_given
  · exact completes "SendOptions" (by simp [SendOptions.fieldNames])
      SendOptions.Given.names_fields (SendOptions.Given.fieldsFit _)
      fun _ => SendOptions.read?_given
  · exact completes "LinkScript" (by simp [LinkScript.fieldNames])
      LinkScript.Given.names_fields (LinkScript.Given.fieldsFit _)
      fun _ => LinkScript.read?_given

/-- A configuration with an unknown field among two of its own, and a code whose number is the
greatest. -/
theorem sparse_decoded :
    DispatchConfig.read? (Document.object
        [("max_cs_retries", .integer 5), ("comment", .fraction),
          ("domain_selection_enabled", .bool false)]) =
      some { domainSelectionEnabled := false, maxCsRetries := 5 } ∧
    Ron.read? SendResult.read? (Ron.render (SendResult.failed (.unknown 4294967295)).written) =
      some (.failed (.unknown 4294967295)) ∧
    (Ron.read? readUInt8 (toString (256 : Int))).map UInt8.toNat = none := by
  obtain ⟨⟨-, -, -, -, -, result, -⟩, ⟨octet, -⟩, config, -⟩ := decoding_faithful
  refine ⟨?_, result.text _, octet.text 256⟩
  refine config.document { domainSelectionEnabled := some false, maxCsRetries := some 5 } _
    [("comment", .fraction)] ?_ ?_
  · exact (List.perm_append_comm : List.Perm ([_, _] ++ [_]) ([_] ++ [_, _]))
  · simp [DispatchConfig.fieldNames]

end OutboundSms
