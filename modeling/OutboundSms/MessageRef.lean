/-!
# Wire message references

An endless counter for the 8-bit reference a message carries on the wire. It
advances once per logical message, so that a receiver can tell a repeated
delivery of one message from a new one.
-/

set_option autoImplicit false

namespace OutboundSms

/-- The next reference and the number of references before they repeat. Both
are 16 bits wide, wide enough for a modulus of 256. -/
structure ReferenceCounter where
  next : UInt16
  modulus : UInt16
  deriving DecidableEq, Repr

namespace ReferenceCounter

/-- The nearest modulus that an 8-bit reference allows, from 1 to 256. -/
def clampModulus (modulus : UInt16) : UInt16 :=
  if modulus < 1 then 1 else if 256 < modulus then 256 else modulus

/-- Resumes counting at a remembered reference. -/
def startingAt (start modulus : UInt16) : ReferenceCounter :=
  let modulus := clampModulus modulus
  { next := start % modulus, modulus }

def new (modulus : UInt16) : ReferenceCounter :=
  startingAt 0 modulus

instance : Inhabited ReferenceCounter := ⟨new 256⟩

/-- The reference the next `advance` moves past. -/
def peek (counter : ReferenceCounter) : UInt8 :=
  if counter.next < 256 then counter.next.toUInt8 else 0

/-- The counter after its present reference has been handed out. -/
def advance (counter : ReferenceCounter) : ReferenceCounter :=
  { counter with next := (counter.next + 1) % counter.modulus }

/-- The counter after `count` references have been handed out. -/
def advanceBy (counter : ReferenceCounter) : Nat → ReferenceCounter
  | 0 => counter
  | count + 1 => counter.advance.advanceBy count

end ReferenceCounter

end OutboundSms
