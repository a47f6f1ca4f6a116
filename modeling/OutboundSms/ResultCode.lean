/-!
# Result codes and send results

The causes a sender may be told, their numeric form, and the terminal result of
one message. Reading a number back gives the named code when there is one, so a
number and its code determine each other except for an `unknown` code that was
built with the number of a named one.
-/

set_option autoImplicit false

namespace OutboundSms

/-- A cause of failure as the sender sees it. -/
inductive ResultCode where
  | genericFailure
  | radioOff
  | nullPdu
  | noService
  | limitExceeded
  | radioNotAvailable
  | networkReject
  | invalidArguments
  | invalidState
  | noMemory
  | invalidSmsFormat
  | systemError
  | modemError
  | networkError
  | sendRetryFailed
  | unknown (number : UInt32)
  deriving DecidableEq, Repr, Inhabited

namespace ResultCode

/-- The codes that have a name, in declaration order. -/
def named : List ResultCode :=
  [genericFailure, radioOff, nullPdu, noService, limitExceeded, radioNotAvailable,
    networkReject, invalidArguments, invalidState, noMemory, invalidSmsFormat, systemError,
    modemError, networkError, sendRetryFailed]

def toNumber : ResultCode → UInt32
  | genericFailure => 1
  | radioOff => 2
  | nullPdu => 3
  | noService => 4
  | limitExceeded => 5
  | radioNotAvailable => 9
  | networkReject => 10
  | invalidArguments => 11
  | invalidState => 12
  | noMemory => 13
  | invalidSmsFormat => 14
  | systemError => 15
  | modemError => 16
  | networkError => 17
  | sendRetryFailed => 30
  | unknown number => number

/-- The numbers that stand for a named code. -/
def numbered : List (UInt32 × ResultCode) :=
  [(1, genericFailure), (2, radioOff), (3, nullPdu), (4, noService), (5, limitExceeded),
    (9, radioNotAvailable), (10, networkReject), (11, invalidArguments), (12, invalidState),
    (13, noMemory), (14, invalidSmsFormat), (15, systemError), (16, modemError),
    (17, networkError), (30, sendRetryFailed)]

/-- The named code with this number, or `unknown` where there is none. -/
def ofNumber (number : UInt32) : ResultCode :=
  (numbered.lookup number).getD (unknown number)

/-- Whether the same message may succeed if it is handed to a transport again. -/
def isTransient : ResultCode → Bool
  | genericFailure | networkError | modemError | noService => true
  | _ => false

/-- The written name of a code, without the number an `unknown` code carries. -/
def name : ResultCode → String
  | genericFailure => "GenericFailure"
  | radioOff => "RadioOff"
  | nullPdu => "NullPdu"
  | noService => "NoService"
  | limitExceeded => "LimitExceeded"
  | radioNotAvailable => "RadioNotAvailable"
  | networkReject => "NetworkReject"
  | invalidArguments => "InvalidArguments"
  | invalidState => "InvalidState"
  | noMemory => "NoMemory"
  | invalidSmsFormat => "InvalidSmsFormat"
  | systemError => "SystemError"
  | modemError => "ModemError"
  | networkError => "NetworkError"
  | sendRetryFailed => "SendRetryFailed"
  | unknown _ => "Unknown"

/-- The code with its number in parentheses, such as `RadioOff (2)`. -/
def display (code : ResultCode) : String :=
  let number := toString code.toNumber.toNat
  match code with
  | unknown _ => code.name ++ "(" ++ number ++ ") (" ++ number ++ ")"
  | _ => code.name ++ " (" ++ number ++ ")"

/-- The position in declaration order; all `unknown` codes share the last one. -/
def rank (code : ResultCode) : Nat :=
  named.idxOf code

/-- The number that tells two codes of one rank apart. -/
def detail : ResultCode → UInt32
  | unknown number => number
  | _ => 0

/-- Declaration order, and `unknown` codes by their number. -/
instance : Ord ResultCode where
  compare left right :=
    (compare left.rank right.rank).then (compare left.detail.toNat right.detail.toNat)

end ResultCode

/-- The terminal result of one message: accepted by the network under a wire
reference, or failed. -/
inductive SendResult where
  | sent (messageRef : Option UInt8)
  | failed (code : ResultCode)
  deriving DecidableEq, Repr, Inhabited

def SendResult.isSuccess : SendResult → Bool
  | .sent _ => true
  | .failed _ => false

end OutboundSms
