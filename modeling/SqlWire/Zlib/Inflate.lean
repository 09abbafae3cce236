import SqlWire.Zlib.Bits
import SqlWire.Zlib.Burst

/-!
# Reading a zlib stream

`inflate` reads the two header bytes, the deflate blocks and the checksum; what follows them is
ignored. Of a stream that ends early or is damaged it gives what came before. Every symbol costs at
least one bit, so the number of bits left bounds each loop.
-/

namespace SqlWire.Zlib

/-- A stream and what was read from it. -/
structure Inflation where
  bits : Bits
  output : Output

namespace Inflation

/-- A step that reads from the stream and writes content. -/
abbrev Step := EStateM Stop Inflation

def read {α : Type} (reader : Bits.Reader α) : Step α := fun state =>
  match reader state.bits with
  | .ok a bits => .ok a { state with bits }
  | .error stop bits => .error stop { state with bits }

/-- Writes what the bits read so far give; told the size of the stream and the number of the bits. -/
def write (f : Nat → Nat → Output → Output) : Step Unit := fun state =>
  .ok () { state with output := f state.bits.data.size state.bits.read state.output }

def left : Step Nat := return (← get).bits.left

end Inflation

/-- Base length and extra bits of the length symbols from 257 on. -/
def lengthCodes : Array (Nat × Nat) :=
  #[(3, 0), (4, 0), (5, 0), (6, 0), (7, 0), (8, 0), (9, 0), (10, 0), (11, 1), (13, 1), (15, 1),
    (17, 1), (19, 2), (23, 2), (27, 2), (31, 2), (35, 3), (43, 3), (51, 3), (59, 3), (67, 4),
    (83, 4), (99, 4), (115, 4), (131, 5), (163, 5), (195, 5), (227, 5), (258, 0)]

/-- Base distance and extra bits of the distance symbols. -/
def distanceCodes : Array (Nat × Nat) :=
  #[(1, 0), (2, 0), (3, 0), (4, 0), (5, 1), (7, 1), (9, 2), (13, 2), (17, 3), (25, 3), (33, 4),
    (49, 4), (65, 5), (97, 5), (129, 6), (193, 6), (257, 7), (385, 7), (513, 8), (769, 8),
    (1025, 9), (1537, 9), (2049, 10), (3073, 10), (4097, 11), (6145, 11), (8193, 12), (12289, 12),
    (16385, 13), (24577, 13)]

def readCopy (distances : Code) (symbol : Nat) : Bits.Reader (Nat × Nat) := do
  let (base, extra) ← Bits.known lengthCodes[symbol - 257]?
  let more ← Bits.take extra
  let symbol ← Bits.symbol distances
  let (start, extra) ← Bits.known distanceCodes[symbol]?
  let further ← Bits.take extra
  return (base + more, start + further)

/-- Reads symbols until the end of the block, for at most `fuel` of them. -/
def inflateSymbols (literals distances : Code) : Nat → Inflation.Step Unit
  | 0 => throw .damaged
  | fuel + 1 => do
    let symbol ← Inflation.read (Bits.symbol literals)
    if symbol < 256 then
      Inflation.write fun total n => Output.put total n (UInt8.ofNat symbol)
      inflateSymbols literals distances fuel
    else if symbol == 256 then return
    else
      let (length, distance) ← Inflation.read (readCopy distances symbol)
      Inflation.write fun total n => Output.copy total n length distance
      inflateSymbols literals distances fuel

def fixedLengths : List Nat :=
  List.replicate 144 8 ++ List.replicate 112 9 ++ List.replicate 24 7 ++ List.replicate 8 8

def fixedLiterals : Code := .ofLengths fixedLengths

def fixedDistances : Code := .ofLengths (List.replicate 32 5)

def lengthOrder : List Nat := [16, 17, 18, 0, 8, 7, 9, 6, 10, 5, 11, 4, 12, 3, 13, 2, 14, 1, 15]

def threeBits : Nat → Bits.Reader (List Nat)
  | 0 => return []
  | n + 1 => do
    let length ← Bits.take 3
    let more ← threeBits n
    return length :: more

def lengthRun (code : Code) (lengths : List Nat) : Bits.Reader (List Nat) := do
  let symbol ← Bits.symbol code
  if symbol < 16 then return [symbol]
  else if symbol == 16 then
    let last ← Bits.known lengths.head?
    return List.replicate (3 + (← Bits.take 2)) last
  else if symbol == 17 then return List.replicate (3 + (← Bits.take 3)) 0
  else return List.replicate (11 + (← Bits.take 7)) 0

def codeLengths (code : Code) (total : Nat) : Nat → List Nat → Bits.Reader (List Nat)
  | 0, _ => throw .damaged
  | fuel + 1, lengths => do
    if lengths.length == total then return lengths.reverse
    else if total < lengths.length then throw .damaged
    else
      let run ← lengthRun code lengths
      codeLengths code total fuel (run ++ lengths)

def blockCodes : Bits.Reader (Code × Code) := do
  let literals ← Bits.take 5
  let distances ← Bits.take 5
  let lengths ← Bits.take 4
  if 286 < literals + 257 || 30 < distances + 1 then throw .damaged
  let given := lengthOrder.zip (← threeBits (lengths + 4))
  let code := Code.ofLengths ((List.range 19).map fun i => (given.lookup i).getD 0)
  if code.slack != 0 then throw .damaged
  let total := literals + 257 + (distances + 1)
  let lengths ← codeLengths code total (total + 1) []
  let literalCode := Code.ofLengths (lengths.take (literals + 257))
  let distanceCode := Code.ofLengths (lengths.drop (literals + 257))
  if literalCode.usable && distanceCode.usable then return (literalCode, distanceCode)
  else throw .damaged

def storedSize : Bits.Reader Nat := do
  Bits.align
  let size ← Bits.take 16
  let check ← Bits.take 16
  if size + check == 0xffff then return size else throw .damaged

/-- Reads a block that is stored as it is. -/
def inflateStored : Inflation.Step Unit := do
  let size ← Inflation.read storedSize
  let bits := (← get).bits
  let place := bits.read / 8
  Inflation.write fun _ _ => Output.store bits.data place size
  if bits.data.size < place + size then throw .ended
  else modify fun state => { state with bits := { bits with read := (place + size) * 8 } }

def inflateBlock (kind : Nat) : Inflation.Step Unit := do
  if kind == 0 then inflateStored
  else if kind == 1 then
    inflateSymbols fixedLiterals fixedDistances ((← Inflation.left) + 1)
  else if kind == 2 then
    let (literals, distances) ← Inflation.read blockCodes
    inflateSymbols literals distances ((← Inflation.left) + 1)
  else throw .damaged

/-- Reads blocks up to the last one, for at most `fuel` of them. -/
def inflateBlocks : Nat → Inflation.Step Unit
  | 0 => throw .damaged
  | fuel + 1 => do
    let start ← Inflation.read (Bits.take 3)
    inflateBlock (start / 2)
    if start % 2 == 1 then return else inflateBlocks fuel

/-! ## The stream around the blocks -/

/-- The two header bytes announce deflate with a window of at most 32 KiB and no dictionary. -/
def headerOk (cmf flg : Nat) : Bool :=
  (cmf * 256 + flg) % 31 == 0 && cmf % 16 == 8 && cmf / 16 ≤ 7 && flg / 32 % 2 == 0

def readHeader : Bits.Reader Unit := do
  let cmf ← Bits.take 8
  let flg ← Bits.take 8
  if headerOk cmf flg then return else throw .damaged

def adlerModulus : UInt32 := 65521

/-- The running sums after one more byte. -/
def adlerStep (sums : UInt32 × UInt32) (b : UInt8) : UInt32 × UInt32 :=
  let low := (sums.1 + b.toUInt32) % adlerModulus
  (low, (sums.2 + low) % adlerModulus)

/-- The checksum behind the blocks, Adler-32: two running sums, the second of the first. -/
def adler32 (data : ByteArray) : UInt32 :=
  let sums := data.foldl adlerStep (1, 0)
  sums.2 <<< 16 ||| sums.1

def readChecksum : Bits.Reader Nat := do
  Bits.align
  let b₃ ← Bits.take 8
  let b₂ ← Bits.take 8
  let b₁ ← Bits.take 8
  let b₀ ← Bits.take 8
  return ((b₃ * 256 + b₂) * 256 + b₁) * 256 + b₀

def inflateStream : Inflation.Step Unit := do
  Inflation.read readHeader
  inflateBlocks ((← Inflation.left) + 1)
  let sum ← Inflation.read readChecksum
  if sum == (adler32 (← get).output.content).toNat then return else throw .damaged

def inflate (data : ByteArray) : Inflated :=
  match inflateStream ⟨⟨data, 0⟩, .empty⟩ with
  | .ok () state => state.output.inflated data.size state.bits.read true
  | .error .damaged state => state.output.inflated data.size state.bits.read false
  | .error .ended state => state.output.inflated data.size (data.size * 8 + 1) false

end SqlWire.Zlib
