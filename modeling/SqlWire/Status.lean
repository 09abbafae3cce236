/-!
# Server status

Flags that OK and EOF packets carry about the session.
-/

namespace SqlWire

/-- The status bits of a session. -/
structure Status where
  bits : UInt16
  deriving DecidableEq, Repr, Inhabited

namespace Status

def inTransactionBit : UInt16 := 0x1
def autocommitBit : UInt16 := 0x2
/-- Another result of the same command follows. -/
def moreResultsBit : UInt16 := 0x8
/-- A backslash in a string literal is an ordinary character. -/
def noBackslashEscapesBit : UInt16 := 0x200

def has (status : Status) (flag : UInt16) : Bool := status.bits &&& flag != 0

def inTransaction (status : Status) : Bool := status.has inTransactionBit

def autocommit (status : Status) : Bool := status.has autocommitBit

/-- Another result of the same command follows. -/
def moreResults (status : Status) : Bool := status.has moreResultsBit

/-- A backslash in a string literal is an ordinary character. -/
def noBackslashEscapes (status : Status) : Bool := status.has noBackslashEscapesBit

/-- The same status with no further result announced. -/
def lastResult (status : Status) : Status := ⟨status.bits &&& ~~~moreResultsBit⟩

end Status

end SqlWire
