import SqlWire.ColumnType
import SqlWire.Reply.Ok

/-!
# Column definitions

One packet describes one column of a result set or one parameter of a statement.
-/

namespace SqlWire

/-- The description of a column. -/
structure Column where
  schema : String
  table : String
  orgTable : String
  name : String
  orgName : String
  charset : UInt16
  length : UInt32
  typeCode : UInt8
  flags : UInt16
  decimals : UInt8
  deriving DecidableEq, Repr

def Column.type? (column : Column) : Option ColumnType := ColumnType.ofCode? column.typeCode

/-- Reads a column definition: six texts, a length that is not used, and ten bytes. -/
def Column.parse (packet : Bytes) : Except ProtocolFault Column := do
  let (_catalog, data) ← Field.readLenEncText packet
  let (schema, data) ← Field.readLenEncText data
  let (table, data) ← Field.readLenEncText data
  let (orgTable, data) ← Field.readLenEncText data
  let (name, data) ← Field.readLenEncText data
  let (orgName, data) ← Field.readLenEncText data
  let (_size, data) ← Field.readLenEncU64 data
  let (fixed, _) ← Field.readBytes 10 data
  let (charset, fixed) ← Field.readU16 fixed
  let (length, fixed) ← Field.readU32 fixed
  let (typeCode, fixed) ← Field.readU8 fixed
  let (flags, fixed) ← Field.readU16 fixed
  let (decimals, _) ← Field.readU8 fixed
  return ⟨schema, table, orgTable, name, orgName, charset, length, typeCode, flags, decimals⟩

/-- Most columns that a result set may have. -/
def maxColumns : UInt64 := 65535

/-- Reads the number of columns of a result set. -/
def columnCount (packet : Bytes) : Except ProtocolFault Nat := do
  let (count, _) ← Field.readLenEncU64 packet
  if count > maxColumns then
    throw (.tooManyColumns count)
  return count.toNat

end SqlWire
