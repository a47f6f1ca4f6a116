/-!
# Registrants

Subscribers to a stream of values. A new subscriber first receives the latest
value, if there was one, and then every value notified until it is unsubscribed
or stops listening. A subscriber that has stopped listening stays on the list
until the next notification finds it gone.
-/

set_option autoImplicit false

namespace OutboundSms

/-- The receiving end of one subscription: what has arrived and has not been
read yet, oldest first, and whether anyone still reads it. -/
structure Mailbox (α : Type) where
  values : List α
  listening : Bool
  deriving Repr

/-- Subscriptions are numbered from 0 in the order they were made. A number stands
for the 64-bit word that its subscription is known by, so the words differ as the
numbers do while fewer than `2 ^ 64` subscriptions have been made; a number from
there on has no word of its own. `subscribers` holds the numbers of those that are
still registered, in that order, and `mailboxes` holds the receiving end of every
subscription ever made. -/
structure Registrants (α : Type) where
  subscribers : List Nat := []
  mailboxes : List (Mailbox α) := []
  last : Option α := none
  deriving Repr

namespace Registrants

variable {α : Type}

instance : Inhabited (Registrants α) := ⟨{}⟩

def nextId (registrants : Registrants α) : Nat :=
  registrants.mailboxes.length

/-- Adds a subscriber, numbered `nextId`, and replays the latest value to it. -/
def subscribe (registrants : Registrants α) : Registrants α :=
  { registrants with
    subscribers := registrants.subscribers ++ [registrants.nextId]
    mailboxes := registrants.mailboxes ++
      [{ values := registrants.last.toList, listening := true }] }

def isRegistered (registrants : Registrants α) (id : Nat) : Bool :=
  registrants.subscribers.contains id

/-- Takes a subscription off the list. What it has received stays readable. -/
def unsubscribe (registrants : Registrants α) (id : Nat) : Registrants α :=
  { registrants with subscribers := registrants.subscribers.filter (· != id) }

def isListening (registrants : Registrants α) (id : Nat) : Bool :=
  match registrants.mailboxes[id]? with
  | some mailbox => mailbox.listening
  | none => false

/-- Gives a value to every subscriber on the list and strikes off those whose
receiving end is gone. -/
def notify (registrants : Registrants α) (value : α) : Registrants α :=
  { subscribers := registrants.subscribers.filter registrants.isListening
    mailboxes := registrants.mailboxes.mapIdx fun id mailbox =>
      if registrants.isRegistered id && mailbox.listening then
        { mailbox with values := mailbox.values ++ [value] }
      else mailbox
    last := some value }

/-- Gives up the receiving end of a subscription, with what it still held. -/
def abandon (registrants : Registrants α) (id : Nat) : Registrants α :=
  { registrants with
    mailboxes := registrants.mailboxes.modify id fun _ => { values := [], listening := false } }

/-- What a subscription has received and not read yet; `none` when its receiving
end does not exist. -/
def unread? (registrants : Registrants α) (id : Nat) : Option (List α) :=
  match registrants.mailboxes[id]? with
  | some mailbox => if mailbox.listening then some mailbox.values else none
  | none => none

def markRead (registrants : Registrants α) (id : Nat) : Registrants α :=
  { registrants with
    mailboxes := registrants.mailboxes.modify id fun mailbox => { mailbox with values := [] } }

/-- Takes every subscription off the list, as when the sending side ceases. -/
def dismissAll (registrants : Registrants α) : Registrants α :=
  { registrants with subscribers := [] }

end Registrants

end OutboundSms
