import OutboundSms.Format.Configuration
import OutboundSms.Proofs.Spelling

/-!
# Decoding

Every value is read back from whatever document spells it, and what is read agrees with the
document. Of the records whose fields may be missing, the fields that a document gives take
the place of the defaults.
-/

set_option autoImplicit false

namespace OutboundSms

open Format

variable {δ : Type} [Structured δ]

/-! ### Names -/

theorem Domain.restores : Restores (δ := δ) Domain.read? Domain.written := by
  apply restores_named
  intro domain
  cases domain with
  | ps => rfl
  | cs => rfl

theorem SmsFormat.restores : Restores (δ := δ) SmsFormat.read? SmsFormat.written := by
  apply restores_named
  intro format
  cases format with
  | threeGpp => rfl
  | threeGpp2 => rfl

theorem TrafficClass.restores : Restores (δ := δ) TrafficClass.read? TrafficClass.written := by
  apply restores_named
  intro trafficClass
  cases trafficClass with
  | normal => rfl
  | emergency => rfl

theorem RequestKind.restores : Restores (δ := δ) RequestKind.read? RequestKind.written := by
  apply restores_named
  intro kind
  cases kind with
  | text => rfl
  | data => rfl
  | multipartText => rfl
  | retry => rfl

/-! ### Choices -/

variable [Bounded δ]

theorem ResultCode.restores : Restores (δ := δ) ResultCode.read? ResultCode.written := by
  constructor
  · intro code document spelled
    cases code with
    | unknown number =>
        obtain ⟨chosen, spelled⟩ := spelled
        simp only [read?, chosen]
        exact restores_uInt32.undoes_content spelled
    | _ =>
        obtain ⟨bare, chosen⟩ := spelled
        simp only [read?, chosen, readNamed, bare]
        rfl
  · intro code document found
    rw [read?] at found
    split at found
    · rename_i chosen
      obtain ⟨number, rfl, agreed⟩ := restores_uInt32.keeps_content found
      exact ⟨chosen, agreed⟩
    · obtain ⟨bare, member⟩ := mem_of_readNamed found
      cases code with
      | unknown number => simp [named] at member
      | _ => exact bare

theorem LinkResponse.restores : Restores (δ := δ) LinkResponse.read? LinkResponse.written := by
  constructor
  · intro response document spelled
    cases response with
    | accepted | fallback =>
        obtain ⟨bare, chosen⟩ := spelled
        simp only [read?, chosen, readNamed, bare]
        rfl
    | rejected code | retry code =>
        obtain ⟨chosen, spelled⟩ := spelled
        simp only [read?, chosen]
        exact ResultCode.restores.undoes_content spelled
  · intro response document found
    rw [read?] at found
    split at found
    · rename_i chosen
      obtain ⟨code, rfl, agreed⟩ := ResultCode.restores.keeps_content found
      exact ⟨chosen, agreed⟩
    · rename_i chosen
      obtain ⟨code, rfl, agreed⟩ := ResultCode.restores.keeps_content found
      exact ⟨chosen, agreed⟩
    · obtain ⟨bare, member⟩ := mem_of_readNamed found
      cases response with
      | accepted | fallback => exact bare
      | rejected code | retry code => simp at member

theorem SendResult.restores : Restores (δ := δ) SendResult.read? SendResult.written := by
  constructor
  · intro result document spelled
    cases result with
    | sent messageRef =>
        obtain ⟨chosen, parts, spelled, content⟩ := spelled
        obtain ⟨kept, known, holds⟩ :=
          spelled.exists_known (List.Sublist.refl ["message_ref"]) (by simp)
        have found := restores_uInt8.optional.withDefault none (some messageRef)
          (holds "message_ref")
        simp [read?, chosen, content, known, found]
    | failed code =>
        obtain ⟨chosen, spelled⟩ := spelled
        simp only [read?, chosen]
        exact ResultCode.restores.undoes_content spelled
  · intro result document found
    rw [read?] at found
    split at found
    · rename_i chosen
      simp only [Option.bind_eq_bind, Option.bind_eq_some_iff, Option.pure_def,
        Option.some.injEq] at found
      obtain ⟨parts, content, messageRef, found, rfl⟩ := found
      exact ⟨chosen, parts, content, restores_uInt8.optional.agrees_withDefault found, trivial⟩
    · rename_i chosen
      obtain ⟨code, rfl, agreed⟩ := ResultCode.restores.keeps_content found
      exact ⟨chosen, agreed⟩
    · simp at found

theorem Payload.restores : Restores (δ := δ) Payload.read? Payload.written := by
  constructor
  · intro payload document spelled
    cases payload with
    | text body =>
        obtain ⟨chosen, spelled⟩ := spelled
        simp only [read?, chosen]
        exact restores_text.undoes_content spelled
    | data port octets =>
        obtain ⟨chosen, parts, spelled, content⟩ := spelled
        obtain ⟨kept, known, holds⟩ :=
          spelled.exists_known (List.Sublist.refl ["port", "data"]) (by simp)
        have portFound := restores_uInt16.required port (holds "port")
        have dataFound := restores_uInt8.listOf.required octets (holds "data")
        simp [read?, chosen, content, known, portFound, dataFound]
    | multipartText bodies =>
        obtain ⟨chosen, spelled⟩ := spelled
        simp only [read?, chosen]
        exact restores_text.listOf.undoes_content spelled
  · intro payload document found
    rw [read?] at found
    split at found
    · rename_i chosen
      obtain ⟨body, rfl, agreed⟩ := restores_text.keeps_content found
      exact ⟨chosen, agreed⟩
    · rename_i chosen
      simp only [Option.bind_eq_bind, Option.bind_eq_some_iff, Option.pure_def,
        Option.some.injEq] at found
      obtain ⟨parts, content, port, portFound, octets, dataFound, rfl⟩ := found
      exact ⟨chosen, parts, content, restores_uInt16.agrees_required portFound,
        restores_uInt8.listOf.agrees_required dataFound, trivial⟩
    · rename_i chosen
      obtain ⟨bodies, rfl, agreed⟩ := restores_text.listOf.keeps_content found
      exact ⟨chosen, agreed⟩
    · simp at found

/-! ### Records -/

theorem DeliveryReport.restores :
    Restores (δ := δ) DeliveryReport.read? DeliveryReport.written := by
  constructor
  · intro report document spelled
    obtain ⟨parts, spelled, isRecord⟩ := spelled
    obtain ⟨kept, known, holds⟩ :=
      spelled.exists_known (List.Sublist.refl ["message_ref", "delivered", "status"]) (by simp)
    have refFound := restores_uInt8.required report.messageRef (holds "message_ref")
    have deliveredFound := restores_bool.required report.delivered (holds "delivered")
    have statusFound := restores_uInt32.required report.status (holds "status")
    simp [read?, isRecord _ _, known, refFound, deliveredFound, statusFound]
  · intro report document found
    simp only [read?, Option.bind_eq_bind, Option.bind_eq_some_iff, Option.pure_def,
      Option.some.injEq] at found
    obtain ⟨parts, there, messageRef, refFound, delivered, deliveredFound, status, statusFound,
      rfl⟩ := found
    exact ⟨"DeliveryReport", parts, there, restores_uInt8.agrees_required refFound,
      restores_bool.agrees_required deliveredFound, restores_uInt32.agrees_required statusFound,
      trivial⟩

/-- The fields that a document gives. -/
structure DispatchConfig.Given where
  domainSelectionEnabled : Option Bool := none
  maxImsRetries : Option UInt32 := none
  maxCsRetries : Option UInt32 := none
  imsRetryDelayMs : Option UInt64 := none
  csRetryDelayMs : Option UInt64 := none
  messageRefModulus : Option UInt16 := none

namespace DispatchConfig

namespace Given

def applyTo (given : Given) (config : DispatchConfig) : DispatchConfig where
  domainSelectionEnabled := given.domainSelectionEnabled.getD config.domainSelectionEnabled
  maxImsRetries := given.maxImsRetries.getD config.maxImsRetries
  maxCsRetries := given.maxCsRetries.getD config.maxCsRetries
  imsRetryDelayMs := given.imsRetryDelayMs.getD config.imsRetryDelayMs
  csRetryDelayMs := given.csRetryDelayMs.getD config.csRetryDelayMs
  messageRefModulus := given.messageRefModulus.getD config.messageRefModulus

def all (config : DispatchConfig) : Given where
  domainSelectionEnabled := some config.domainSelectionEnabled
  maxImsRetries := some config.maxImsRetries
  maxCsRetries := some config.maxCsRetries
  imsRetryDelayMs := some config.imsRetryDelayMs
  csRetryDelayMs := some config.csRetryDelayMs
  messageRefModulus := some config.messageRefModulus

def fields (given : Given) : List (String × Written) :=
  List.flatten
    [writtenField "domain_selection_enabled" .bool given.domainSelectionEnabled,
      writtenField "max_ims_retries" (fun number => .natural number.toNat) given.maxImsRetries,
      writtenField "max_cs_retries" (fun number => .natural number.toNat) given.maxCsRetries,
      writtenField "ims_retry_delay_ms" (fun number => .natural number.toNat)
        given.imsRetryDelayMs,
      writtenField "cs_retry_delay_ms" (fun number => .natural number.toNat) given.csRetryDelayMs,
      writtenField "message_ref_modulus" (fun number => .natural number.toNat)
        given.messageRefModulus]

theorem names_fields (given : Given) : (given.fields.map (·.1)).Sublist fieldNames := by
  simp only [fields, List.flatten_cons]
  repeat' apply names_writtenField_append
  exact List.Sublist.refl []

end Given

theorem read?_given (given : Given) {document : δ} {parts : Fields δ}
    (there : record? "DispatchConfig" fieldNames document = some parts)
    (holds : ∀ sought, Option.Rel Spells (parts.lookup sought) (given.fields.lookup sought)) :
    read? document = some (given.applyTo {}) := by
  have selection := restores_bool.withDefault true given.domainSelectionEnabled
    (by simpa [Given.fields] using holds "domain_selection_enabled")
  have imsRetries := restores_uInt32.withDefault 1 given.maxImsRetries
    (by simpa [Given.fields] using holds "max_ims_retries")
  have csRetries := restores_uInt32.withDefault 3 given.maxCsRetries
    (by simpa [Given.fields] using holds "max_cs_retries")
  have imsDelay := restores_uInt64.withDefault 2000 given.imsRetryDelayMs
    (by simpa [Given.fields] using holds "ims_retry_delay_ms")
  have csDelay := restores_uInt64.withDefault 2000 given.csRetryDelayMs
    (by simpa [Given.fields] using holds "cs_retry_delay_ms")
  have modulus := restores_uInt16.withDefault 256 given.messageRefModulus
    (by simpa [Given.fields] using holds "message_ref_modulus")
  -- Each number above is the default that the reader has; here it meets that of the type.
  simp [read?, there, selection, imsRetries, csRetries, imsDelay, csDelay, modulus, Given.applyTo]

theorem restores : Restores (δ := δ) read? written := by
  constructor
  · intro config document spelled
    obtain ⟨parts, spelled, isRecord⟩ := spelled
    obtain ⟨kept, known, holds⟩ :=
      spelled.exists_known (List.Sublist.refl fieldNames) (by simp [fieldNames])
    have there := (isRecord "DispatchConfig" fieldNames).trans known
    exact read?_given (.all config) there holds
  · intro config document found
    simp only [read?, Option.bind_eq_bind, Option.bind_eq_some_iff, Option.pure_def,
      Option.some.injEq] at found
    obtain ⟨parts, there, _, selection, _, imsRetries, _, csRetries, _, imsDelay, _, csDelay, _,
      modulus, rfl⟩ := found
    exact ⟨"DispatchConfig", parts, there, restores_bool.agrees_withDefault selection,
      restores_uInt32.agrees_withDefault imsRetries, restores_uInt32.agrees_withDefault csRetries,
      restores_uInt64.agrees_withDefault imsDelay, restores_uInt64.agrees_withDefault csDelay,
      restores_uInt16.agrees_withDefault modulus, trivial⟩

end DispatchConfig

/-- The fields that a document gives. -/
structure SendOptions.Given where
  callingPackage : Option String := none
  persist : Option Bool := none
  priority : Option (Option UInt8) := none
  expectMore : Option Bool := none
  validityPeriodMins : Option (Option UInt32) := none
  messageId : Option UInt64 := none
  uid : Option UInt32 := none

namespace SendOptions

namespace Given

def applyTo (given : Given) (options : SendOptions) : SendOptions where
  callingPackage := given.callingPackage.getD options.callingPackage
  persist := given.persist.getD options.persist
  priority := given.priority.getD options.priority
  expectMore := given.expectMore.getD options.expectMore
  validityPeriodMins := given.validityPeriodMins.getD options.validityPeriodMins
  messageId := given.messageId.getD options.messageId
  uid := given.uid.getD options.uid

def all (options : SendOptions) : Given where
  callingPackage := some options.callingPackage
  persist := some options.persist
  priority := some options.priority
  expectMore := some options.expectMore
  validityPeriodMins := some options.validityPeriodMins
  messageId := some options.messageId
  uid := some options.uid

def fields (given : Given) : List (String × Written) :=
  List.flatten
    [writtenField "calling_package" .text given.callingPackage,
      writtenField "persist" .bool given.persist,
      writtenField "priority" (Written.optional fun number => .natural number.toNat)
        given.priority,
      writtenField "expect_more" .bool given.expectMore,
      writtenField "validity_period_mins" (Written.optional fun number => .natural number.toNat)
        given.validityPeriodMins,
      writtenField "message_id" (fun number => .natural number.toNat) given.messageId,
      writtenField "uid" (fun number => .natural number.toNat) given.uid]

theorem names_fields (given : Given) : (given.fields.map (·.1)).Sublist fieldNames := by
  simp only [fields, List.flatten_cons]
  repeat' apply names_writtenField_append
  exact List.Sublist.refl []

end Given

theorem read?_given (given : Given) {document : δ} {parts : Fields δ}
    (there : record? "SendOptions" fieldNames document = some parts)
    (holds : ∀ sought, Option.Rel Spells (parts.lookup sought) (given.fields.lookup sought)) :
    read? document = some (given.applyTo {}) := by
  have package := restores_text.withDefault "" given.callingPackage
    (by simpa [Given.fields] using holds "calling_package")
  have persist := restores_bool.withDefault false given.persist
    (by simpa [Given.fields] using holds "persist")
  have priority := restores_uInt8.optional.withDefault none given.priority
    (by simpa [Given.fields] using holds "priority")
  have expectMore := restores_bool.withDefault false given.expectMore
    (by simpa [Given.fields] using holds "expect_more")
  have validity := restores_uInt32.optional.withDefault none given.validityPeriodMins
    (by simpa [Given.fields] using holds "validity_period_mins")
  have messageId := restores_uInt64.withDefault 0 given.messageId
    (by simpa [Given.fields] using holds "message_id")
  have uid := restores_uInt32.withDefault 0 given.uid
    (by simpa [Given.fields] using holds "uid")
  simp [read?, there, package, persist, priority, expectMore, validity, messageId, uid,
    Given.applyTo]

theorem restores : Restores (δ := δ) read? written := by
  constructor
  · intro options document spelled
    obtain ⟨parts, spelled, isRecord⟩ := spelled
    obtain ⟨kept, known, holds⟩ :=
      spelled.exists_known (List.Sublist.refl fieldNames) (by simp [fieldNames])
    have there := (isRecord "SendOptions" fieldNames).trans known
    exact read?_given (.all options) there holds
  · intro options document found
    simp only [read?, Option.bind_eq_bind, Option.bind_eq_some_iff, Option.pure_def,
      Option.some.injEq] at found
    obtain ⟨parts, there, _, package, _, persist, _, priority, _, expectMore, _, validity, _,
      messageId, _, uid, rfl⟩ := found
    exact ⟨"SendOptions", parts, there, restores_text.agrees_withDefault package,
      restores_bool.agrees_withDefault persist, restores_uInt8.optional.agrees_withDefault priority,
      restores_bool.agrees_withDefault expectMore,
      restores_uInt32.optional.agrees_withDefault validity,
      restores_uInt64.agrees_withDefault messageId, restores_uInt32.agrees_withDefault uid,
      trivial⟩

end SendOptions

/-- The fields that a document gives. -/
structure LinkScript.Given where
  available : Option Bool := none
  emergencySupport : Option Bool := none
  responses : Option (List LinkResponse) := none
  latencyMs : Option UInt64 := none
  ownMessageRefs : Option Bool := none

namespace LinkScript

namespace Given

def applyTo (given : Given) (script : LinkScript) : LinkScript where
  available := given.available.getD script.available
  emergencySupport := given.emergencySupport.getD script.emergencySupport
  responses := given.responses.getD script.responses
  latencyMs := given.latencyMs.getD script.latencyMs
  ownMessageRefs := given.ownMessageRefs.getD script.ownMessageRefs

def fields (given : Given) : List (String × Written) :=
  List.flatten
    [writtenField "available" .bool given.available,
      writtenField "emergency_support" .bool given.emergencySupport,
      writtenField "responses" (Written.listOf LinkResponse.written) given.responses,
      writtenField "latency_ms" (fun number => .natural number.toNat) given.latencyMs,
      writtenField "own_message_refs" .bool given.ownMessageRefs]

theorem names_fields (given : Given) : (given.fields.map (·.1)).Sublist fieldNames := by
  simp only [fields, List.flatten_cons]
  repeat' apply names_writtenField_append
  exact List.Sublist.refl []

end Given

theorem read?_given (given : Given) {document : δ} {parts : Fields δ}
    (there : record? "LinkScript" fieldNames document = some parts)
    (holds : ∀ sought, Option.Rel Spells (parts.lookup sought) (given.fields.lookup sought)) :
    read? document = some (given.applyTo {}) := by
  have available := restores_bool.withDefault true given.available
    (by simpa [Given.fields] using holds "available")
  have emergencySupport := restores_bool.withDefault false given.emergencySupport
    (by simpa [Given.fields] using holds "emergency_support")
  have responses := LinkResponse.restores.listOf.withDefault [] given.responses
    (by simpa [Given.fields] using holds "responses")
  have latency := restores_uInt64.withDefault 0 given.latencyMs
    (by simpa [Given.fields] using holds "latency_ms")
  have ownRefs := restores_bool.withDefault false given.ownMessageRefs
    (by simpa [Given.fields] using holds "own_message_refs")
  simp [read?, there, available, emergencySupport, responses, latency, ownRefs, Given.applyTo]

end LinkScript

end OutboundSms
