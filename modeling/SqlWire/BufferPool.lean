/-!
# Recycled buffers

A connection works in a set of buffers. A set that is given back is emptied and kept for the next
connection, as long as the pool has room; the set that has waited longest is given out first. A set
that has grown too large is let go, so that one large packet does not hold on to its memory.
-/

namespace SqlWire

/-- Bytes, and the room that they lie in. -/
structure Buffer where
  content : ByteArray
  capacity : Nat
  size_le : content.size ≤ capacity

namespace Buffer

def empty (capacity : Nat) : Buffer := ⟨ByteArray.empty, capacity, by simp⟩

def size (b : Buffer) : Nat := b.content.size

/-- Least room of a buffer that grows. -/
def minCapacity : Nat := 8

/-- The room after growing to at least `size` bytes: at least twice what it was. -/
def grown (capacity size : Nat) : Nat :=
  if size ≤ capacity then capacity else max minCapacity (max (2 * capacity) size)

theorem le_grown (capacity size : Nat) : size ≤ grown capacity size := by
  unfold grown
  split <;> omega

/-- Other content. The room grows with it and never shrinks. -/
def withContent (b : Buffer) (content : ByteArray) : Buffer :=
  ⟨content, grown b.capacity content.size, le_grown ..⟩

def zeros (n : Nat) : ByteArray :=
  if n = 0 then ByteArray.empty
  else
    let half := zeros (n / 2)
    if n % 2 == 0 then half ++ half else (half ++ half).push 0
termination_by n
decreasing_by omega

/-- Cuts the content off, or appends zeros, so that it has a given size. -/
def resize (b : Buffer) (size : Nat) : Buffer :=
  if size ≤ b.size then b.withContent (b.content.extract 0 size)
  else b.withContent (b.content ++ zeros (size - b.size))

def reserve (b : Buffer) (more : Nat) : Buffer :=
  ⟨b.content, max b.capacity (b.size + more), by have := b.size_le; omega⟩

/-- Drops the content and keeps the room. -/
def clear (b : Buffer) : Buffer := empty b.capacity

end Buffer

/-- The buffers of one connection. -/
structure BufferSet where
  /-- The payload that was read last. -/
  read : Buffer
  /-- The payload to be written. -/
  write : Buffer
  /-- Framed bytes that were not handed on yet. -/
  packet : Buffer
  /-- The content of frames. -/
  inflated : Buffer
  /-- How much of `inflated` was taken. -/
  inflatedAt : Nat

namespace BufferSet

def freshCapacity : Nat := 8192

def fresh : BufferSet :=
  ⟨.empty freshCapacity, .empty freshCapacity, .empty freshCapacity, .empty 0, 0⟩

/-- Drops the content of every buffer and keeps the room. -/
def clear (s : BufferSet) : BufferSet :=
  ⟨s.read.clear, s.write.clear, s.packet.clear, s.inflated.clear, 0⟩

/-- The names of the buffers of a set. -/
inductive Slot where
  | read | write | packet | inflated
  deriving DecidableEq, Repr

def Slot.name : Slot → String
  | read => "read"
  | write => "write"
  | packet => "packet"
  | inflated => "inflated"

def Slot.ofName? (name : String) : Option Slot :=
  [read, write, packet, inflated].find? (·.name == name)

def modify (s : BufferSet) (slot : Slot) (f : Buffer → Buffer) : BufferSet :=
  match slot with
  | .read => { s with read := f s.read }
  | .write => { s with write := f s.write }
  | .packet => { s with packet := f s.packet }
  | .inflated => { s with inflated := f s.inflated }

/-- The sizes of the buffers, and how much of the last one was taken. -/
def sizes (s : BufferSet) : List Nat :=
  [s.read.size, s.write.size, s.packet.size, s.inflated.size, s.inflatedAt]

/-- A set for readers of a log. -/
def description (s : BufferSet) : String :=
  "BufferSet \x7b " ++
    s!"read_buffer: {s.read.size}, write_buffer: {s.write.size}, packet_buffer: {s.packet.size}" ++
    ", .. \x7d"

end BufferSet

/-- Sets that wait for the next connection, the one that has waited longest first. -/
structure BufferPool where
  capacity : Nat
  idle : List BufferSet

namespace BufferPool

/-- The most room of a buffer that is kept. -/
def maxPooled : Nat := 4 * 1024 * 1024

/-- An empty pool; it must have room for a set. -/
def new? (capacity : Nat) : Option BufferPool :=
  if capacity == 0 then none else some ⟨capacity, []⟩

def checkout (pool : BufferPool) : BufferSet × BufferPool :=
  match pool.idle with
  | [] => (.fresh, pool)
  | set :: idle => (set, { pool with idle })

def tooLarge (set : BufferSet) : Bool :=
  maxPooled < set.read.capacity || maxPooled < set.packet.capacity ||
    maxPooled < set.write.capacity

def recycle (pool : BufferPool) (set : BufferSet) : BufferPool :=
  if tooLarge set || pool.capacity ≤ pool.idle.length then pool
  else { pool with idle := pool.idle ++ [set.clear] }

end BufferPool

end SqlWire
