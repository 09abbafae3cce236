import SqlWire.Fault

/-!
# Fields of a packet

Readers take a field off the front of a message and return it with the rest; a message that does
not start with the field gives a `ProtocolFault`. Writers give the bytes of a field.

A length-encoded integer is one byte below 0xfb, or a lead byte 0xfc, 0xfd, 0xfe and two, three or
eight bytes; the lead 0xfb is NULL and 0xff is never written.
-/

namespace SqlWire.Field

def readU8 : Bytes → Except ProtocolFault (UInt8 × Bytes)
  | [] => .error .noByte
  | b :: rest => .ok (b, rest)

def take (field : FixedField) (n : Nat) (data : Bytes) : Except ProtocolFault (Bytes × Bytes) :=
  let taken := data.take n
  if taken.length < n then .error (.short field data.length n) else .ok (taken, data.drop n)

def readU16 (data : Bytes) : Except ProtocolFault (UInt16 × Bytes) := do
  let (bytes, rest) ← take .u16 2 data
  return (UInt16.ofNat bytes.toNatLE, rest)

def readU24 (data : Bytes) : Except ProtocolFault (UInt32 × Bytes) := do
  let (bytes, rest) ← take .u24 3 data
  return (UInt32.ofNat bytes.toNatLE, rest)

def readU32 (data : Bytes) : Except ProtocolFault (UInt32 × Bytes) := do
  let (bytes, rest) ← take .u32 4 data
  return (UInt32.ofNat bytes.toNatLE, rest)

def readU64 (data : Bytes) : Except ProtocolFault (UInt64 × Bytes) := do
  let (bytes, rest) ← take .u64 8 data
  return (UInt64.ofNat bytes.toNatLE, rest)

def readBytes (n : Nat) (data : Bytes) : Except ProtocolFault (Bytes × Bytes) := take .bytes n data

def readLenEnc (data : Bytes) : Except ProtocolFault (Option UInt64 × Bytes) := do
  let (lead, rest) ← readU8 data
  if lead == 0xfb then
    return (none, rest)
  else if lead == 0xfc then
    let (v, rest) ← readU16 rest
    return (some v.toUInt64, rest)
  else if lead == 0xfd then
    let (v, rest) ← readU24 rest
    return (some v.toUInt64, rest)
  else if lead == 0xfe then
    let (v, rest) ← readU64 rest
    return (some v, rest)
  else if lead == 0xff then
    throw .lengthLead
  else
    return (some lead.toUInt64, rest)

/-- A length-encoded integer that is not NULL. -/
def readLenEncU64 (data : Bytes) : Except ProtocolFault (UInt64 × Bytes) := do
  match ← readLenEnc data with
  | (some v, rest) => return (v, rest)
  | (none, _) => throw .unexpectedNull

/-- A byte string after its length, `none` for NULL. -/
def readLenEncBytes (data : Bytes) : Except ProtocolFault (Option Bytes × Bytes) := do
  match ← readLenEnc data with
  | (none, rest) => return (none, rest)
  | (some size, rest) =>
    let (bytes, rest) ← readBytes size.toNat rest
    return (some bytes, rest)

def text (field : TextField) (bytes : Bytes) : Except ProtocolFault String :=
  match Text.decode bytes with
  | .ok text => .ok text
  | .error fault => .error (.notUtf8 field fault)

/-- A text after its length; NULL reads as the empty text. -/
def readLenEncText (data : Bytes) : Except ProtocolFault (String × Bytes) := do
  let (bytes, rest) ← readLenEncBytes data
  return (← text .lengthEncoded (bytes.getD []), rest)

/-- The bytes before the next NUL; the rest starts after it. -/
def readTerminated (data : Bytes) : Except ProtocolFault (Bytes × Bytes) :=
  let bytes := data.takeWhile (· != 0)
  match data.drop bytes.length with
  | [] => .error .unterminated
  | _ :: rest => .ok (bytes, rest)

/-- A text that ends at the next NUL. -/
def readTerminatedText (data : Bytes) : Except ProtocolFault (String × Bytes) := do
  let (bytes, rest) ← readTerminated data
  return (← text .terminated bytes, rest)

def u16 (v : UInt16) : Bytes := Bytes.ofNatLE 2 v.toNat

/-- The low three bytes of an integer. -/
def u24 (v : UInt32) : Bytes := Bytes.ofNatLE 3 v.toNat

def u32 (v : UInt32) : Bytes := Bytes.ofNatLE 4 v.toNat

def u64 (v : UInt64) : Bytes := Bytes.ofNatLE 8 v.toNat

/-- The shortest length-encoded form of an integer. -/
def lenEnc (v : UInt64) : Bytes :=
  if v < 0xfb then [v.toUInt8]
  else if v ≤ 0xffff then 0xfc :: u16 v.toUInt16
  else if v ≤ 0xffffff then 0xfd :: u24 v.toUInt32
  else 0xfe :: u64 v

def lenEncBytes (bytes : Bytes) : Bytes := lenEnc (UInt64.ofNat bytes.length) ++ bytes

/-- A byte string with a NUL behind it. -/
def terminated (bytes : Bytes) : Bytes := bytes ++ [0]

/-- A text with a NUL behind it. -/
def terminatedText (text : String) : Bytes := terminated (Text.encode text)

def stripNul (bytes : Bytes) : Bytes :=
  if bytes.getLast? == some 0 then bytes.dropLast else bytes

end SqlWire.Field
