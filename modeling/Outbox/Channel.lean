import Outbox.Text.Utf8

/-!
The channel of records between the reader and the sink: a queue of limited length with an end that
sends and an end that takes.
-/

set_option autoImplicit false

namespace Outbox

structure Channel where
  capacity : Nat
  /-- Records sent and not taken, the first one first. -/
  queue : List Bytes
  /-- Whether no more records will be sent. -/
  finished : Bool
  /-- Whether no more records are taken in. -/
  closed : Bool
  deriving DecidableEq, Repr

/-- What becomes of a record that is offered to a channel. -/
inductive Offer where
  | sent (channel : Channel)
  /-- There is no room now. -/
  | full
  /-- There will be no room again. -/
  | refused
  deriving DecidableEq, Repr

namespace Channel

def ofCapacity (capacity : Nat) : Channel :=
  { capacity, queue := [], finished := false, closed := false }

/-- The most records that any channel has room for. -/
def maxCapacity : Nat := 2305843009213693951

def isCapacity (capacity : Nat) : Bool :=
  0 < capacity && capacity ≤ maxCapacity

def offer (c : Channel) (record : Bytes) : Offer :=
  if c.closed then .refused
  else if c.queue.length < c.capacity then .sent { c with queue := c.queue ++ [record] }
  else .full

/-- Takes the record that has been queued longest. -/
def take? (c : Channel) : Option (Bytes × Channel) :=
  match c.queue with
  | [] => none
  | record :: rest => some (record, { c with queue := rest })

def close (c : Channel) : Channel :=
  { c with closed := true }

/-- Drops the end that takes, and the queued records with it. -/
def drop (c : Channel) : Channel :=
  { c with closed := true, queue := [] }

def finish (c : Channel) : Channel :=
  { c with finished := true }

end Channel

end Outbox
