import OutboundSms.Bench.Actions
import OutboundSms.Proofs.Serving

/-!
# Admission

Which requests are taken in, said without the checks that find it out, and what the others
are refused for. The entry points of a controller and those of a service say the same, and
one that refuses leaves everything as it was: the sender's callbacks are given up with the
request, and no result reaches them.
-/

set_option autoImplicit false

namespace OutboundSms

/-- The code points with the Unicode property White_Space. -/
def Text.whiteSpace : List Nat :=
  [0x09, 0x0A, 0x0B, 0x0C, 0x0D, 0x20, 0x85, 0xA0, 0x1680, 0x2000, 0x2001, 0x2002, 0x2003,
    0x2004, 0x2005, 0x2006, 0x2007, 0x2008, 0x2009, 0x200A, 0x2028, 0x2029, 0x202F, 0x205F,
    0x3000]

theorem Text.isBlank_iff {c : Char} : isBlank c = true ↔ c.toNat ∈ whiteSpace := by
  simp only [isBlank, whiteSpace, Bool.or_eq_true, Bool.and_eq_true, decide_eq_true_eq,
    beq_iff_eq, List.mem_cons, List.not_mem_nil, or_false]
  omega

/-- A body that a transport can encode. -/
def Payload.Encodable : Payload → Prop
  | .text body => body ≠ ""
  | .data _ octets => octets ≠ []
  | .multipartText parts => parts ≠ [] ∧ "" ∉ parts

theorem Payload.isWellFormed_iff {payload : Payload} :
    payload.isWellFormed = true ↔ payload.Encodable := by
  cases payload with
  | text body => simp [isWellFormed, Encodable]
  | data port octets => simp [isWellFormed, Encodable]
  | multipartText parts =>
      simp only [isWellFormed, Encodable, Bool.and_eq_true, Bool.not_eq_true', List.all_eq_true,
        List.isEmpty_eq_false_iff, String.isEmpty_eq_false_iff]
      refine and_congr_right fun _ => ⟨fun all empty => all _ empty rfl, ?_⟩
      intro none part member empty
      exact none (empty ▸ member)

namespace SendRequest

variable {request : SendRequest} {kind : RequestKind} {storageAvailable : Bool}

/-- There is somebody to send to: a character of the destination that is not white space. -/
def Addressed (request : SendRequest) : Prop :=
  ∃ c ∈ request.destination.toList, c.toNat ∉ Text.whiteSpace

structure Admissible (request : SendRequest) (kind : RequestKind) (storageAvailable : Bool) :
    Prop where
  addressed : request.Addressed
  kind_eq : request.payload.kind = kind
  encodable : request.payload.Encodable
  stored : storageAvailable = true

/-- The first reason to refuse a request, where each comes after the ones before it. -/
inductive Refused (request : SendRequest) (kind : RequestKind) (storageAvailable : Bool) :
    RejectReason → Prop where
  | emptyDestination (unaddressed : ¬ request.Addressed) :
      Refused request kind storageAvailable .emptyDestination
  | payloadMismatch (addressed : request.Addressed) (different : request.payload.kind ≠ kind) :
      Refused request kind storageAvailable (.payloadMismatch kind request.payload.kind)
  | emptyPayload (addressed : request.Addressed) (kind_eq : request.payload.kind = kind)
      (malformed : ¬ request.payload.Encodable) :
      Refused request kind storageAvailable .emptyPayload
  | storageUnavailable (addressed : request.Addressed) (kind_eq : request.payload.kind = kind)
      (encodable : request.payload.Encodable) (full : storageAvailable = false) :
      Refused request kind storageAvailable .storageUnavailable

theorem isAllBlank_iff : Text.isAllBlank request.destination = true ↔ ¬ request.Addressed := by
  simp only [Text.isAllBlank, List.all_eq_true, Addressed, not_exists, not_and, not_not,
    Text.isBlank_iff]

theorem not_isAllBlank_iff :
    ¬ Text.isAllBlank request.destination = true ↔ request.Addressed := by
  rw [isAllBlank_iff, not_not]

theorem Admissible.admission_eq (admissible : request.Admissible kind storageAvailable) :
    request.admission kind storageAvailable = .ok () := by
  have addressed := not_isAllBlank_iff.mpr admissible.addressed
  have encodable := Payload.isWellFormed_iff.mpr admissible.encodable
  simp [admission, validate, addressed, encodable, admissible.kind_eq, admissible.stored]

theorem Refused.admission_eq {reason : RejectReason}
    (refused : request.Refused kind storageAvailable reason) :
    request.admission kind storageAvailable = .error (.rejected reason) := by
  cases refused with
  | emptyDestination unaddressed =>
      have blank := isAllBlank_iff.mpr unaddressed
      simp [admission, validate, blank]
  | payloadMismatch addressed different =>
      have filled := not_isAllBlank_iff.mpr addressed
      simp [admission, validate, filled, different]
  | emptyPayload addressed kind_eq malformed =>
      have filled := not_isAllBlank_iff.mpr addressed
      have empty := mt Payload.isWellFormed_iff.mp malformed
      simp [admission, validate, filled, kind_eq, empty]
  | storageUnavailable addressed kind_eq encodable full =>
      have filled := not_isAllBlank_iff.mpr addressed
      have encodable := Payload.isWellFormed_iff.mpr encodable
      simp [admission, validate, filled, kind_eq, encodable, full]

theorem admissible_or_refused (request : SendRequest) (kind : RequestKind)
    (storageAvailable : Bool) :
    request.Admissible kind storageAvailable ∨
      ∃ reason, request.Refused kind storageAvailable reason := by
  by_cases addressed : request.Addressed
  · by_cases kind_eq : request.payload.kind = kind
    · by_cases encodable : request.payload.Encodable
      · cases stored : storageAvailable with
        | true => exact .inl ⟨addressed, kind_eq, encodable, rfl⟩
        | false => exact .inr ⟨_, .storageUnavailable addressed kind_eq encodable rfl⟩
      · exact .inr ⟨_, .emptyPayload addressed kind_eq encodable⟩
    · exact .inr ⟨_, .payloadMismatch addressed kind_eq⟩
  · exact .inr ⟨_, .emptyDestination addressed⟩

theorem admission_eq_ok_iff :
    request.admission kind storageAvailable = .ok () ↔
      request.Admissible kind storageAvailable := by
  constructor
  · intro accepted
    rcases request.admissible_or_refused kind storageAvailable with
      admissible | ⟨reason, refused⟩
    · exact admissible
    · rw [refused.admission_eq] at accepted
      cases accepted
  · exact Admissible.admission_eq

theorem admission_eq_error_iff {error : DispatchError} :
    request.admission kind storageAvailable = .error error ↔
      ∃ reason, error = .rejected reason ∧ request.Refused kind storageAvailable reason := by
  constructor
  · intro failed
    rcases request.admissible_or_refused kind storageAvailable with
      admissible | ⟨reason, refused⟩
    · rw [admissible.admission_eq] at failed
      cases failed
    · rw [refused.admission_eq] at failed
      cases failed
      exact ⟨reason, rfl, refused⟩
  · rintro ⟨reason, rfl, refused⟩
    exact refused.admission_eq

theorem sent_not_mem_discard (request : SendRequest) (ticket : Ticket) (result : SendResult) :
    .sent ticket result ∉ request.discard :=
  Command.sent_not_mem_discard (.submit .text request) ticket result

end SendRequest

/-! ### Entry points -/

namespace Controller

variable {request : SendRequest} {kind : RequestKind} {storageAvailable : Bool}
  {conditions : Conditions} {controller : Controller}

theorem send_eq (controller : Controller) (conditions : Conditions) (storageAvailable : Bool)
    (kind : RequestKind) (request : SendRequest) :
    controller.send conditions storageAvailable kind request =
      (request.admission kind storageAvailable).map fun _ =>
        controller.handle conditions (.submit kind request) := by
  unfold send
  split <;> simp_all [Except.map, handle]

theorem send_eq_ok_iff {turn : Turn} :
    controller.send conditions storageAvailable kind request = .ok turn ↔
      request.Admissible kind storageAvailable ∧
        turn = controller.handle conditions (.submit kind request) := by
  rw [send_eq, ← SendRequest.admission_eq_ok_iff]
  cases request.admission kind storageAvailable with
  | ok => simp [Except.map, eq_comm]
  | error error => simp [Except.map]

theorem send_eq_error_iff {error : DispatchError} :
    controller.send conditions storageAvailable kind request = .error error ↔
      ∃ reason, error = .rejected reason ∧ request.Refused kind storageAvailable reason := by
  rw [send_eq, ← SendRequest.admission_eq_error_iff]
  cases request.admission kind storageAvailable with
  | ok => simp [Except.map]
  | error error => simp [Except.map]

end Controller

/-- A running service posts what it takes in, and says of a request what a controller says. -/
theorem Service.send_eq (service : Service) (running : service.running = true)
    (storageAvailable : Bool) (kind : RequestKind) (request : SendRequest) :
    service.send storageAvailable kind request =
      (request.admission kind storageAvailable).map fun _ =>
        { service with commands := service.commands ++ [.submit kind request] } := by
  unfold send
  split <;> simp_all [Except.map, post]

namespace Bench

variable {bench : Bench} {kind : RequestKind} {request : SendRequest} {error : DispatchError}

/-- The sender loses the callbacks of a request that is refused, and that is all. -/
theorem send_of_error (refused : (bench.send kind request).1 = .error error) :
    (bench.send kind request).2 = { bench with receipts := bench.receipts ++ request.discard } := by
  unfold send at refused ⊢
  split
  · split
    · simp_all
    · rfl
  · split
    · simp_all
    · rfl

theorem send_eq_ok_iff :
    (bench.send kind request).1 = .ok () ↔
      request.Admissible kind bench.storageAvailable ∧
        (bench.operation = .byHand ∨ bench.service.running = true) := by
  rw [← SendRequest.admission_eq_ok_iff]
  cases operated : bench.operation with
  | byHand =>
      cases admission : request.admission kind bench.storageAvailable <;>
        simp [send, operated, Controller.send, admission]
  | byService =>
      cases admission : request.admission kind bench.storageAvailable <;>
        cases running : bench.service.running <;>
          simp [send, operated, Service.send, Service.post, admission, running]

end Bench

/-- Admission is exact: a request is taken in if and only if it is admissible, whatever the
controller is at and its collaborators answer, and otherwise the first reason against it is
given. A running service says the same and posts what it takes in. Where a call fails, the
callbacks of the request are given up without a result, and nothing else changes. -/
theorem Controller.admission_exact (controller : Controller) (conditions : Conditions)
    (storageAvailable : Bool) (kind : RequestKind) (request : SendRequest) :
    (∀ turn, controller.send conditions storageAvailable kind request = .ok turn ↔
      request.Admissible kind storageAvailable ∧
        turn = controller.handle conditions (.submit kind request)) ∧
    (∀ error, controller.send conditions storageAvailable kind request = .error error ↔
      ∃ reason, error = .rejected reason ∧ request.Refused kind storageAvailable reason) ∧
    (∀ service : Service, service.running = true →
      service.send storageAvailable kind request =
        (controller.send conditions storageAvailable kind request).map fun _ =>
          { service with commands := service.commands ++ [.submit kind request] }) ∧
    ∀ bench : Bench,
      ((bench.send kind request).1 = .ok () ↔
        request.Admissible kind bench.storageAvailable ∧
          (bench.operation = .byHand ∨ bench.service.running = true)) ∧
      (∀ error, (bench.send kind request).1 = .error error →
        (bench.send kind request).2 =
            { bench with receipts := bench.receipts ++ request.discard } ∧
          ∀ ticket result, .sent ticket result ∉ request.discard) := by
  refine ⟨fun turn => send_eq_ok_iff, fun error => send_eq_error_iff, ?_, ?_⟩
  · intro service running
    rw [service.send_eq running, controller.send_eq]
    cases request.admission kind storageAvailable <;> rfl
  · intro bench
    refine ⟨Bench.send_eq_ok_iff, ?_⟩
    intro error refused
    exact ⟨Bench.send_of_error refused, request.sent_not_mem_discard⟩

namespace Sample

/-- Nothing but a no-break space and an ideographic one, and an empty text. -/
def blankRequest : SendRequest :=
  { request 2 with destination := "\u00a0\u3000", payload := .text "" }

def recorders (slot : Slot) : Bench.Transport where
  domain := (surroundings.transport slot).domain
  format := (surroundings.transport slot).format
  device := .recorder {}

def servingBench : Bench where
  operation := .byService
  service := .new {} none
  ps := recorders .ps
  cs3gpp := recorders (.cs .threeGpp)
  cs3gpp2 := recorders (.cs .threeGpp2)
  resolvers := []
  numbers := ⟨[]⟩
  voiceFormat := .threeGpp
  emergencyLog := none

/-- The blank destination is found before the empty text, at every entry point. -/
theorem blankRequest_exact :
    (Controller.new {} none).send (.steady surroundings) true .text blankRequest =
        .error (.rejected .emptyDestination) ∧
      (Service.new {} none).send true .text blankRequest =
        .error (.rejected .emptyDestination) ∧
      (servingBench.send .text blankRequest).2 =
        { servingBench with receipts := [.sentDropped 2] } := by
  obtain ⟨-, refuses, serves, benches⟩ := Controller.admission_exact (.new {} none)
    (.steady surroundings) true .text blankRequest
  have unaddressed : ¬ blankRequest.Addressed := SendRequest.isAllBlank_iff.mp rfl
  have refused := (refuses (.rejected .emptyDestination)).mpr
    ⟨_, rfl, .emptyDestination unaddressed⟩
  have served := serves (.new {} none) rfl
  rw [refused] at served
  exact ⟨refused, served, ((benches servingBench).2 (.rejected .emptyDestination) rfl).1⟩

end Sample

end OutboundSms
