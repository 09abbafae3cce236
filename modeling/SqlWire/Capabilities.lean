/-!
# Capabilities

Bits that client and server exchange before they authenticate. A session uses those that both
sides have (`inter`).
-/

namespace SqlWire

/-- A set of capability bits. -/
structure Capabilities where
  bits : UInt64
  deriving DecidableEq, Repr, Inhabited

namespace Capabilities

/-- The user name and password exchange of old servers is not used. -/
def longPassword : UInt64 := 0x1
def longFlag : UInt64 := 0x4
def connectWithDatabase : UInt64 := 0x8
/-- Packets travel in compressed frames after authentication. -/
def compress : UInt64 := 0x20
/-- The server may ask for a local file. -/
def localFiles : UInt64 := 0x80
def protocol41 : UInt64 := 0x200
/-- The connection may be upgraded to TLS. -/
def tls : UInt64 := 0x800
def transactions : UInt64 := 0x2000
def secureConnection : UInt64 := 0x8000
def multiStatements : UInt64 := 0x10000
def multiResults : UInt64 := 0x20000
def preparedMultiResults : UInt64 := 0x40000
def pluginAuth : UInt64 := 0x80000
def connectAttributes : UInt64 := 0x100000
def lengthEncodedAuth : UInt64 := 0x200000
/-- A result set ends with an OK packet instead of an EOF packet. -/
def deprecateEof : UInt64 := 0x1000000

def has (caps : Capabilities) (flag : UInt64) : Bool := caps.bits &&& flag != 0

def set (caps : Capabilities) (flag : UInt64) : Capabilities := ⟨caps.bits ||| flag⟩

def unset (caps : Capabilities) (flag : UInt64) : Capabilities := ⟨caps.bits &&& ~~~flag⟩

def inter (a b : Capabilities) : Capabilities := ⟨a.bits &&& b.bits⟩

/-- The low 32 bits, which a handshake response carries. -/
def low (caps : Capabilities) : UInt32 := caps.bits.toUInt32

end Capabilities

end SqlWire
