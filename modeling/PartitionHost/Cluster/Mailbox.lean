import PartitionHost.Host.Surroundings

/-!
# Mailboxes: events on the way to a consumer

A mailbox has room for so many events. Who finds it full takes a ticket and waits for its turn: there must
be room for the events of all who came before. Once the consumer is gone, events are thrown away and nobody
waits.
-/

namespace PartitionHost

structure Mailbox where
  capacity : Nat
  events : List Host.Event := []
  /-- Whether the consumer is still there. -/
  attended : Bool := true
  /-- The tickets of those who wait, in order. -/
  waiting : List Nat := []
  nextTicket : Nat := 0
deriving DecidableEq

namespace Mailbox

def ofBuffer (buffer : Nat) : Mailbox := { capacity := max buffer 1 }

instance : Inhabited Mailbox := ⟨ofBuffer 1⟩

/-- Whether there is room for an event behind `ahead` others that are still to come. -/
def hasRoom (m : Mailbox) (ahead : Nat) : Bool :=
  !m.attended || decide (m.events.length + ahead < m.capacity)

/-- Puts an event behind the others, unless nobody is there to take it out. -/
def put (m : Mailbox) (e : Host.Event) : Mailbox :=
  if m.attended then { m with events := m.events ++ [e] } else m

/-- Puts an event into the mailbox, or gives the ticket to wait with. -/
def post (m : Mailbox) (e : Host.Event) : Option Nat × Mailbox :=
  if m.hasRoom m.waiting.length then (none, m.put e)
  else (some m.nextTicket,
    { m with waiting := m.waiting ++ [m.nextTicket], nextTicket := m.nextTicket + 1 })

def isTurn (m : Mailbox) (ticket : Nat) : Bool :=
  m.hasRoom (m.waiting.takeWhile (· != ticket)).length

def handBack (m : Mailbox) (ticket : Nat) : Mailbox :=
  { m with waiting := m.waiting.filter (· != ticket) }

def drain (m : Mailbox) : List Host.Event × Mailbox := (m.events, { m with events := [] })

/-- The mailbox once its consumer is gone, and with it the events. -/
def forsake (m : Mailbox) : Mailbox := { m with attended := false, events := [] }

end Mailbox

end PartitionHost
