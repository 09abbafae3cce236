import SqlWire.Zlib.Huffman

/-!
# Writing bits

A stream is written from the low end of each byte. The bits of a code word stand the other way round,
so that its first bit is read first.
-/

namespace SqlWire.Zlib

/-- A stream being written: whole bytes, and fewer than eight bits that follow them. -/
structure BitWriter where
  bytes : ByteArray
  pending : UInt64
  count : UInt64

namespace BitWriter

/-- Moves whole bytes out of the pending bits, at most `n` of them. -/
def drain : Nat → BitWriter → BitWriter
  | 0, w => w
  | n + 1, w =>
    if w.count < 8 then w
    else drain n ⟨w.bytes.push w.pending.toUInt8, w.pending >>> 8, w.count - 8⟩

/-- Appends the low `n` bits of `value`, the lowest first. -/
def write (w : BitWriter) (value n : UInt64) : BitWriter :=
  drain 4 ⟨w.bytes, w.pending ||| (value <<< w.count), w.count + n⟩

/-- Appends the low `n` bits of a number. -/
def writeNat (w : BitWriter) (value n : Nat) : BitWriter :=
  w.write (UInt64.ofNat value) (UInt64.ofNat n)

def align (w : BitWriter) : BitWriter :=
  if w.count == 0 then w else ⟨w.bytes.push w.pending.toUInt8, 0, 0⟩

def tail (w : BitWriter) : BitWriter := ⟨ByteArray.empty, w.pending, w.count⟩

/-- The whole bytes of `w`, and behind them what was written after its `tail`. -/
def append (w more : BitWriter) : BitWriter := ⟨w.bytes ++ more.bytes, more.pending, more.count⟩

end BitWriter

/-- The bits of a symbol, the first one lowest. -/
structure Codeword where
  bits : UInt64
  length : UInt64
  deriving Inhabited

/-- The low `n` bits of `value` in reverse order. -/
def reverseBits : Nat → UInt64 → UInt64
  | 0, _ => 0
  | n + 1, value => ((value &&& 1) <<< UInt64.ofNat n) ||| reverseBits n (value >>> 1)

/-- The first value of each length from zero on, when there are `counts` code words of them. -/
def firstValues (counts : List Nat) : List Nat :=
  (counts.foldl (fun (firsts : List Nat) (count : Nat) =>
    (firsts.headD 0 + count) * 2 :: firsts) [0, 0]).reverse

/-- The code words of symbols with the given lengths. -/
def codewords (lengths : List Nat) : Array Codeword :=
  let firsts := (firstValues (Code.ofLengths lengths).counts).toArray
  (lengths.foldl (fun (words, next) length =>
    let value := next.getD length 0
    (words.push ⟨reverseBits length (UInt64.ofNat value), UInt64.ofNat length⟩,
      next.setIfInBounds length (value + 1))) (#[], firsts)).1

def BitWriter.writeSymbol (w : BitWriter) (words : Array Codeword) (symbol : Nat) : BitWriter :=
  let word := words.getD symbol default
  w.write word.bits word.length

end SqlWire.Zlib
