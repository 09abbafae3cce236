import SqlWire.Capabilities
import SqlWire.Field
import SqlWire.Status

/-!
# OK and EOF packets

An OK packet reports a finished statement. An EOF packet ends a list of column definitions or of
rows; a session with the `deprecateEof` capability sends an OK packet with the EOF lead byte there
instead. Rows may start with the same byte, so `isResultEnd` also looks at the size.
-/

namespace SqlWire

namespace Lead

/-- First byte of an OK packet and of a binary row. -/
def ok : UInt8 := 0x00
def moreData : UInt8 := 0x01
/-- First byte of a request for a local file. -/
def localFile : UInt8 := 0xfb
/-- First byte of an EOF packet and of an authentication switch. -/
def eof : UInt8 := 0xfe
def err : UInt8 := 0xff

end Lead

/-- What an OK packet reports. -/
structure OkPacket where
  affectedRows : UInt64
  lastInsertId : UInt64
  status : Status
  warnings : UInt16
  info : String
  deriving DecidableEq, Repr

/-- Reads an OK packet. The info is text after its length, or else everything that is left. -/
def OkPacket.parse (packet : Bytes) : Except ProtocolFault OkPacket := do
  let (lead, data) ← Field.readU8 packet
  if lead != Lead.ok && lead != Lead.eof then
    throw (.unexpectedLead .ok lead)
  let (affectedRows, data) ← Field.readLenEncU64 data
  let (lastInsertId, data) ← Field.readLenEncU64 data
  let (status, data) ← Field.readU16 data
  let (warnings, data) ← Field.readU16 data
  let info := match Field.readLenEncText data with
    | .ok (info, _) => info
    | .error _ => Text.decodeLossy data
  return ⟨affectedRows, lastInsertId, ⟨status⟩, warnings, info⟩

/-- What an EOF packet reports. -/
structure EofPacket where
  warnings : UInt16
  status : Status
  deriving DecidableEq, Repr

def EofPacket.parse (packet : Bytes) : Except ProtocolFault EofPacket := do
  let (lead, data) ← Field.readU8 packet
  if lead != Lead.eof then
    throw (.unexpectedLead .eof lead)
  let (warnings, data) ← Field.readU16 data
  let (status, _) ← Field.readU16 data
  return ⟨warnings, ⟨status⟩⟩

/-- Largest payload of one packet on the wire. -/
def maxPayload : Nat := 0xffffff

def isResultEnd (lead : Option UInt8) (size : Nat) (deprecateEof : Bool) : Bool :=
  lead == some Lead.eof && if deprecateEof then size < maxPayload else size < 9

end SqlWire
