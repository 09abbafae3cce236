import SqlWire.ColumnType
import SqlWire.Decimal.Double
import SqlWire.Field

/-!
# Parameter values

A value goes to the server in the binary form of a prepared statement (`binaryType`, `binary`) or as
a literal of SQL text (`literal`). A quoted literal escapes with backslashes, or only doubles quotes
when the session takes a backslash as an ordinary character.
-/

namespace SqlWire

/-- A parameter of a statement. -/
inductive Value where
  | null
  | int (v : Int64)
  | uint (v : UInt64)
  | double (v : Double)
  | bytes (v : Bytes)
  | text (v : String)
  deriving DecidableEq, Repr

namespace Value

/-- Two values are the same: doubles are compared as numbers. -/
def same : Value → Value → Bool
  | null, null => true
  | int a, int b => a == b
  | uint a, uint b => a == b
  | double a, double b => a.sameNumber b
  | bytes a, bytes b => a == b
  | text a, text b => a == b
  | _, _ => false

def isNull (value : Value) : Bool := value == null

def unsignedFlag : UInt8 := 0x80

def binaryType : Value → Bytes
  | null => [ColumnType.null.code, 0]
  | int _ => [ColumnType.longLong.code, 0]
  | uint _ => [ColumnType.longLong.code, unsignedFlag]
  | double _ => [ColumnType.double.code, 0]
  | bytes _ => [ColumnType.blob.code, 0]
  | text _ => [ColumnType.varString.code, 0]

/-- The binary form of a value. NULL has none; it stands in a bitmap. -/
def binary : Value → Bytes
  | null => []
  | int v => Field.u64 v.toUInt64
  | uint v => Field.u64 v
  | double v => Field.u64 v.bits
  | bytes v => Field.lenEncBytes v
  | text v => Field.lenEncBytes (Text.encode v)

def escapeByte (noBackslash : Bool) (b : UInt8) : Bytes :=
  if noBackslash then if b == 0x27 then [0x27, 0x27] else [b]
  else if b == 0x27 || b == 0x5c || b == 0x22 then [0x5c, b]
  else if b == 0 then [0x5c, 0x30]
  else [b]

def quoted (noBackslash : Bool) (data : Bytes) : Bytes :=
  0x27 :: (data.flatMap (escapeByte noBackslash) ++ [0x27])

def literal (noBackslash : Bool) : Value → Bytes
  | null => Bytes.ascii "NULL"
  | int v => Bytes.ascii (toString v.toInt)
  | uint v => Bytes.ascii (toString v.toNat)
  | double v => Bytes.ascii v.text
  | bytes v => Bytes.ascii "_binary" ++ quoted noBackslash v
  | text v => quoted noBackslash (Text.encode v)

end Value

end SqlWire
