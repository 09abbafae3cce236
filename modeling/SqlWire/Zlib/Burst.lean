/-!
# Content in bursts

A stream is handed to its reader in pieces of `windowSize` bytes, and its content comes out through a
window of the same size. So the content comes in bursts: one ends when the window is full and
something more is to be written, or when the piece at hand is used up. How content is cut into
bursts decides how much of it is there when damage is met.
-/

namespace SqlWire.Zlib

/-- Bytes of the window that copies reach back into, and of a piece of a stream. -/
def windowSize : Nat := 32768

/-- Content that comes at once. -/
structure Burst where
  /-- Bytes of content. -/
  size : Nat
  /-- It ended with the piece that was at hand. -/
  emptied : Bool
  deriving DecidableEq, Repr

/-- Content that is being read from a stream. -/
structure Output where
  content : ByteArray
  /-- The bursts that have ended, last first. -/
  bursts : List Burst
  /-- Where the present burst starts in the content. -/
  start : Nat
  /-- Pieces of the stream that were used up. -/
  pieces : Nat

namespace Output

def empty : Output := ⟨ByteArray.empty, [], 0, 0⟩

/-- Bytes of a stream of `total` bytes up to the end of the piece at hand. -/
def limit (total : Nat) (out : Output) : Nat := min total ((out.pieces + 1) * windowSize)

/-- All pieces of a stream of `total` bytes were used up. -/
def isDrained (total : Nat) (out : Output) : Bool := total ≤ out.pieces * windowSize

def brim (out : Output) : Nat := (out.start / windowSize + 1) * windowSize

/-- Ends the burst in front of place `stop` of the content, where the piece at hand is used up if
`emptied`. -/
def endBurst (total stop : Nat) (emptied : Bool) (out : Output) : Output :=
  let emptied := emptied && !out.isDrained total
  { out with
    bursts := ⟨stop - out.start, emptied⟩ :: out.bursts
    start := stop
    pieces := if emptied then out.pieces + 1 else out.pieces }

/-- Goes on to the piece that holds the first `n` bits of the stream; to the end of the stream if it
has fewer. -/
def reach (total n : Nat) (out : Output) : Output :=
  if _more : out.limit total * 8 < n ∧ out.isDrained total = false then
    reach total n (out.endBurst total out.content.size true)
  else out
termination_by total - out.pieces * windowSize
decreasing_by
  have left := of_decide_eq_false _more.2
  simp only [endBurst, _more.2, Bool.not_false, Bool.and_self, ↓reduceIte]
  unfold windowSize at left ⊢
  omega

/-- Makes place for `size` bytes that the first `n` bits of the stream give. -/
def ready (total n size : Nat) (out : Output) : Output :=
  let out := out.reach total n
  if out.brim < out.content.size + size then
    out.endBurst total out.brim ((n + 7) / 8 == out.limit total)
  else out

/-- Appends a byte that the first `n` bits of the stream give. -/
def put (total n : Nat) (b : UInt8) (out : Output) : Output :=
  let out := out.ready total n 1
  { out with content := out.content.push b }

/-- Appends `n` bytes, each equal to the one `distance` places before it; in front of the content the
window holds zeros. -/
def copyBack (distance : Nat) : Nat → ByteArray → ByteArray
  | 0, content => content
  | n + 1, content =>
    copyBack distance n <| content.push <|
      if distance ≤ content.size then content.get! (content.size - distance) else 0

/-- Appends a copy that the first `n` bits of the stream give. -/
def copy (total n length distance : Nat) (out : Output) : Output :=
  let out := out.ready total n length
  { out with content := copyBack distance length out.content }

/-- Makes place for a byte that stands at `place` of the stream as it is. -/
def readyStored (total place : Nat) (out : Output) : Output :=
  let out := out.reach total (place * 8)
  let out :=
    if out.content.size == out.brim then
      out.endBurst total out.brim (place == out.limit total)
    else out
  out.reach total (place * 8 + 8)

/-- Appends `size` bytes that stand in the stream as they are, from `place` on; fewer if it ends. -/
def store (data : ByteArray) (place size : Nat) (out : Output) : Output :=
  if size = 0 then out
  else
    let next := out.readyStored data.size place
    let n := min size (min (next.brim - next.content.size) (next.limit data.size - place))
    if _none : n = 0 then next
    else
      store data (place + n) (size - n)
        { next with content := next.content ++ data.extract place (place + n) }
termination_by size
decreasing_by exact Nat.sub_lt (Nat.pos_of_ne_zero ‹_›) (Nat.pos_of_ne_zero _none)

end Output

/-- What was read from a stream. -/
structure Inflated where
  content : ByteArray
  /-- The bursts that came before the last one. -/
  bursts : List Burst
  /-- Bytes of the last one. -/
  last : Nat
  /-- The stream is whole; otherwise the last burst ends in damage. -/
  isWhole : Bool

/-- What was read when the first `n` bits of the stream had been seen. -/
def Output.inflated (total n : Nat) (isWhole : Bool) (out : Output) : Inflated :=
  let out := out.reach total n
  ⟨out.content, out.bursts.reverse, out.content.size - out.start, isWhole⟩

end SqlWire.Zlib
