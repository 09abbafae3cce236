import SqlWire.Reply.Column

/-!
# Rows

A row is kept as the server sent it and split into cells on demand. A text row is a list of
length-encoded strings, where the lead byte 0xfb is NULL. A binary row has a bitmap of its NULLs,
two bits further than the column number, and for each other column a value whose extent follows
from the column's type.
-/

namespace SqlWire

/-- A row as the server sent it. -/
structure Row where
  data : ByteArray
  binary : Bool

/-- How the extent of a binary value is told. -/
inductive Extent where
  /-- Always this many bytes. -/
  | fixed (size : Nat)
  /-- One byte holds the length. -/
  | byteLength
  /-- A length-encoded integer holds the length. -/
  | lengthEncoded
  deriving DecidableEq, Repr

def Extent.ofType : Option ColumnType → Extent
  | some .tiny => .fixed 1
  | some .short | some .year => .fixed 2
  | some .long | some .int24 | some .float => .fixed 4
  | some .longLong | some .double => .fixed 8
  | some .null => .fixed 0
  | some .date | some .dateTime | some .timestamp | some .time => .byteLength
  | _ => .lengthEncoded

def Extent.read (extent : Extent) (data : Bytes) : Except ProtocolFault (Bytes × Bytes) := do
  match extent with
  | fixed size => Field.readBytes size data
  | byteLength =>
    let (size, rest) ← Field.readU8 data
    Field.readBytes size.toNat rest
  | lengthEncoded =>
    let (cell, rest) ← Field.readLenEncBytes data
    return (cell.getD [], rest)

namespace Row

abbrev Cell := Option Bytes

def textCells : Nat → Bytes → Except ProtocolFault (List Cell)
  | 0, _ => return []
  | count + 1, data => do
    let (cell, rest) ← Field.readLenEncBytes data
    return cell :: (← textCells count rest)

/-- Bytes of the NULL bitmap of a binary row. -/
def bitmapSize (columns : Nat) : Nat := (columns + 9) / 8

def bit (bitmap : ByteArray) (i : Nat) : Bool :=
  if h : i / 8 < bitmap.size then bitmap[i / 8].toNat.testBit (i % 8) else false

def binaryCells (bitmap : ByteArray) : Nat → List Column → Bytes → Except ProtocolFault (List Cell)
  | _, [], _ => return []
  | i, column :: columns, data => do
    if bit bitmap (i + 2) then
      return none :: (← binaryCells bitmap (i + 1) columns data)
    else
      let (cell, rest) ← (Extent.ofType column.type?).read data
      return some cell :: (← binaryCells bitmap (i + 1) columns rest)

def cells (row : Row) (columns : List Column) : Except ProtocolFault (List Cell) := do
  let data := Bytes.ofWire row.data
  if row.binary then
    let (lead, data) ← Field.readU8 data
    if lead != Lead.ok then
      throw (.unexpectedLead .binaryRow lead)
    let (bitmap, data) ← Field.readBytes (bitmapSize columns.length) data
    binaryCells bitmap.toWire 0 columns data
  else
    textCells columns.length data

end Row

end SqlWire
