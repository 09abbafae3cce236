/-!
# Deadlines

A queue of what is to happen when its time comes. Each entry has a deadline and a number of its own,
and the queue is ordered by both, so equal deadlines expire in the order in which they were armed.
An entry leaves the queue when it is disarmed or when it expires, whichever comes first.

Numbers are counted in 64 bits. Should they come round, an entry takes the place of the one that has
its key.
-/

namespace SqlWire

/-- What identifies an entry: its deadline and its number. -/
structure DeadlineKey where
  deadline : Nat
  number : UInt64
  deriving DecidableEq, Repr

/-- The order of a queue: by deadline, then by number. -/
def DeadlineKey.before (a b : DeadlineKey) : Bool :=
  a.deadline < b.deadline || (a.deadline == b.deadline && a.number < b.number)

/-- The entries that wait, the next one first, and the number of the next new entry. -/
structure Deadlines (α : Type) where
  armed : List (DeadlineKey × α)
  nextNumber : UInt64

namespace Deadlines

variable {α : Type}

def empty : Deadlines α := ⟨[], 0⟩

def place (key : DeadlineKey) (a : α) : List (DeadlineKey × α) → List (DeadlineKey × α)
  | [] => [(key, a)]
  | (other, b) :: rest =>
    if key = other then (key, a) :: rest
    else if key.before other then (key, a) :: (other, b) :: rest
    else (other, b) :: place key a rest

/-- Adds an entry. Gives the key to disarm it with. -/
def arm (d : Deadlines α) (deadline : Nat) (a : α) : DeadlineKey × Deadlines α :=
  let key := ⟨deadline, d.nextNumber⟩
  (key, ⟨place key a d.armed, d.nextNumber + 1⟩)

/-- Drops an entry; one that has expired is gone already. -/
def disarm (d : Deadlines α) (key : DeadlineKey) : Deadlines α :=
  { d with armed := d.armed.filter fun (other, _) => other != key }

def next? (d : Deadlines α) : Option Nat := d.armed.head?.map (·.1.deadline)

/-- What comes of a look at the queue. -/
inductive Finding (α : Type) where
  /-- Nothing waits. Who looks may sleep until an entry is armed. -/
  | nothing
  /-- The next deadline is so far off. Who looks may sleep that long, or until an entry is armed. -/
  | soon (span : Nat)
  /-- The next entry has expired. -/
  | expired (key : DeadlineKey) (a : α)

/-- Looks at the queue at the time `now`, and takes the next entry if its deadline has passed. -/
def expire (d : Deadlines α) (now : Nat) : Finding α × Deadlines α :=
  match d.armed with
  | [] => (.nothing, d)
  | (key, a) :: rest =>
    if key.deadline ≤ now then (.expired key a, { d with armed := rest })
    else (.soon (key.deadline - now), d)

end Deadlines

end SqlWire
