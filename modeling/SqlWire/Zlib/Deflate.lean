import SqlWire.Zlib.BitWriter
import SqlWire.Zlib.CodeLengths
import SqlWire.Zlib.Inflate
import SqlWire.Zlib.Matches

/-!
# Writing a zlib stream

Data is cut into copies and single bytes, and written in blocks. A short block has the fixed codes
and any other one codes of its own; a block that does not get shorter is stored as it is.
-/

namespace SqlWire.Zlib

/-- The last entry of a code table whose base is at most `n`: its number, the rest and the extra
bits. -/
def entryFor (table : Array (Nat × Nat)) (n : Nat) : Nat × Nat × Nat :=
  let i := (table.toList.takeWhile (·.1 ≤ n)).length - 1
  let (base, extra) := table.getD i (0, 0)
  (i, n - base, extra)

def lengthEntries : Array (Nat × Nat × Nat) :=
  ((List.range (maxCopy + 1)).map (entryFor lengthCodes)).toArray

def distanceEntries : Array (Nat × Nat × Nat) :=
  ((List.range 257).map (entryFor distanceCodes) ++
    (List.range 256).map fun i => entryFor distanceCodes (i * 128 + 1)).toArray

def distanceEntry (distance : Nat) : Nat × Nat × Nat :=
  if distance ≤ 256 then distanceEntries.getD distance (0, 0, 0)
  else
    let block := (distance - 1) / 128
    let (symbol, rest, extra) := distanceEntries.getD (257 + block) (0, 0, 0)
    (symbol, rest + (distance - 1) % 128, extra)

def count (symbol : Nat) (counts : Array Nat) : Array Nat := counts.modify symbol (· + 1)

/-- How often each symbol of the two codes occurs. -/
def symbolCounts (items : Array Item) : Array Nat × Array Nat :=
  items.foldl (fun (literals, distances) item =>
    match item with
    | .byte b => (count b.toNat literals, distances)
    | .copy length distance =>
      (count (257 + (lengthEntries.getD length (0, 0, 0)).1) literals,
        count (distanceEntry distance).1 distances))
    (count 256 (Array.replicate 286 0), Array.replicate 30 0)

def writeItems (literals distances : Array Codeword) (items : Array Item) (w : BitWriter) :
    BitWriter :=
  let w := items.foldl (fun w item =>
    match item with
    | .byte b => w.writeSymbol literals b.toNat
    | .copy length distance =>
      let (symbol, rest, extra) := lengthEntries.getD length (0, 0, 0)
      let w := (w.writeSymbol literals (257 + symbol)).writeNat rest extra
      let (symbol, rest, extra) := distanceEntry distance
      (w.writeSymbol distances symbol).writeNat rest extra) w
  w.writeSymbol literals 256

/-- A run of one code length: symbols of the length code, and the value and number of bits behind
each. -/
def lengthItems (length n : Nat) : List (Nat × Nat × Nat) :=
  if length == 0 then
    let rest := n % 138
    List.replicate (n / 138) (18, 127, 7) ++
      if rest < 3 then List.replicate rest (0, 0, 0)
      else if rest ≤ 10 then [(17, rest - 3, 3)]
      else [(18, rest - 11, 7)]
  else
    let rest := (n - 1) % 6
    (length, 0, 0) :: List.replicate ((n - 1) / 6) (16, 3, 2) ++
      if rest < 3 then List.replicate rest (length, 0, 0) else [(16, rest - 3, 2)]

/-- Cuts zeros off the end, but keeps `n` numbers. -/
def trimZeros (n : Nat) (xs : List Nat) : List Nat :=
  xs.take n ++ ((xs.drop n).reverse.dropWhile (· == 0)).reverse

def writeLengths (literals distances : List Nat) (w : BitWriter) : BitWriter :=
  let literals := trimZeros 257 literals
  let distances := trimZeros 1 distances
  let runs := (literals ++ distances).splitBy (· == ·) |>.flatMap fun run =>
    lengthItems (run.headD 0) run.length
  let counts := runs.foldl (fun counts (symbol, _) => count symbol counts) (Array.replicate 19 0)
  let lengths := bestLengths 7 counts
  let given := trimZeros 4 (lengthOrder.map fun symbol => lengths.getD symbol 0)
  let words := codewords lengths.toList
  let w := (w.writeNat (literals.length - 257) 5).writeNat (distances.length - 1) 5
  let w := given.foldl (·.writeNat · 3) (w.writeNat (given.length - 4) 4)
  runs.foldl (fun w (symbol, value, bits) => (w.writeSymbol words symbol).writeNat value bits) w

def fixedWords : Array Codeword × Array Codeword :=
  (codewords fixedLengths, codewords (List.replicate 32 5))

/-- Blocks of fewer bytes have the fixed codes. -/
def minOwnCodes : Nat := 48

/-- Writes items that stand for `size` bytes, behind the bit that says whether the block is the last
one. -/
def writePacked (items : Array Item) (size : Nat) (w : BitWriter) : BitWriter :=
  if size < minOwnCodes then writeItems fixedWords.1 fixedWords.2 items (w.writeNat 1 2)
  else
    let (literals, distances) := symbolCounts items
    let literals := (bestLengths maxCodeLength literals).toList
    let distances := (bestLengths maxCodeLength distances).toList
    writeItems (codewords literals) (codewords distances) items
      (writeLengths literals distances (w.writeNat 2 2))

def writeStored (content : ByteArray) (w : BitWriter) : BitWriter :=
  let w := (w.writeNat 0 2).align
  let w := (w.writeNat content.size 16).writeNat (0xffff - content.size) 16
  { w with bytes := w.bytes ++ content }

/-- Blocks of at most so many bytes are never stored as they are. -/
def maxPacked : Nat := 32

/-- Writes a block for the bytes of `data` from `start` on, when those up to `seen` were looked at. It
can be stored as it is only if the window holds all of them. -/
def writeBlock (data : ByteArray) (start seen : Nat) (isLast : Bool) (scan : Scan) (w : BitWriter) :
    BitWriter :=
  let w := w.writeNat isLast.toNat 1
  let packed := writePacked scan.items scan.size w.tail
  if maxPacked < scan.size && scan.size ≤ packed.bytes.size + 1 && seen - start ≤ windowSize then
    writeStored (data.extract start (start + scan.size)) w
  else w.append packed

def deflateFrom (data : ByteArray) (i start : Nat) (scan : Scan) (w : BitWriter) : BitWriter :=
  if i < data.size then
    let (more, scan) := scan.step data i
    if scan.isFull then
      let w := writeBlock data start (min data.size (i + maxCopy)) false scan w
      deflateFrom data (i + 1 + more) (start + scan.size) scan.restart w
    else deflateFrom data (i + 1 + more) start scan w
  else writeBlock data start data.size true scan w
termination_by data.size - i

/-- A zlib stream with the given content. -/
def deflate (data : ByteArray) : ByteArray :=
  let w := deflateFrom data 0 0 .empty ⟨[0x78, 0x9c].toByteArray, 0, 0⟩
  let sum := adler32 data
  w.align.bytes.push (sum >>> 24).toUInt8 |>.push (sum >>> 16).toUInt8
    |>.push (sum >>> 8).toUInt8 |>.push sum.toUInt8

end SqlWire.Zlib
