import SqlWire.Zlib.Huffman

/-!
# Bits of a stream

Bits are taken from the low end of each byte. `Bits.Reader` reads them one after the other; where it
stops, its state tells how many bits it took to see why.
-/

namespace SqlWire.Zlib

/-- Why nothing more can be read. -/
inductive Stop where
  /-- The stream ends early. -/
  | ended
  /-- The stream is not one that can be written. -/
  | damaged
  deriving DecidableEq, Repr

/-- A stream and the number of its bits that were read. -/
structure Bits where
  data : ByteArray
  read : Nat

namespace Bits

def left (bits : Bits) : Nat := bits.data.size * 8 - bits.read

abbrev Reader := EStateM Stop Bits

def next : Reader Nat := fun bits =>
  if h : bits.read / 8 < bits.data.size then
    .ok ((bits.data[bits.read / 8] >>> UInt8.ofNat (bits.read % 8)) &&& 1).toNat
      { bits with read := bits.read + 1 }
  else .error .ended bits

/-- The next `n` bits as a number, the first one lowest. -/
def take : Nat → Reader Nat
  | 0 => return 0
  | n + 1 => do
    let bit ← next
    let more ← take n
    return bit + 2 * more

/-- Goes on with the next whole byte. -/
def align : Reader Unit := modify fun bits => { bits with read := (bits.read + 7) / 8 * 8 }

/-- What a stream that is not damaged has. -/
def known {α : Type} : Option α → Reader α
  | some a => return a
  | none => throw .damaged

/-- The next symbol of a code: `counts` are those of the lengths not tried yet, `value` the bits
read so far, `first` the first value of the length and `index` the place of its symbol. Where no
longer code is left, the bits are those of no symbol. -/
def symbolFrom (symbols : Array Nat) : List Nat → Nat → Nat → Nat → Reader Nat
  | [], _, _, _ => throw .damaged
  | count :: counts, value, first, index => do
    let bit ← next
    let value := value + bit
    if value < first + count then known symbols[index + (value - first)]?
    else if counts.all (· == 0) then throw .damaged
    else symbolFrom symbols counts (value * 2) ((first + count) * 2) (index + count)

def symbol (code : Code) : Reader Nat := symbolFrom code.symbols code.counts 0 0 0

end Bits

end SqlWire.Zlib
