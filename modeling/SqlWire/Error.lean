import SqlWire.Reply.Err
import SqlWire.Result.Completion

/-!
# Errors

What a call reports when it does not succeed. `isBroken` says that the connection cannot be used
any more; `sqlState` and `code` classify an error for callers that know the database's own codes.
-/

namespace SqlWire

/-- An error that a call reports. -/
inductive Error where
  /-- The server refused the command; the connection stays usable. -/
  | server (e : ServerError)
  /-- A packet broke the protocol. -/
  | protocol (fault : ProtocolFault)
  /-- The socket failed. -/
  | io (fault : IoFault)
  /-- A session could not be opened or brought back. -/
  | connection (fault : ConnectFault) (source : Option Error)
  /-- The connection was closed before the call. -/
  | closed (timedOut : Bool)
  /-- The command is not smaller than the server accepts. -/
  | tooLarge (size max : Nat) (mustReconnect : Bool)
  /-- The statement ran longer than it was given. -/
  | timeout
  /-- A batch failed part way. -/
  | batch (outcomes : Array BatchOutcome) (completions : Array Completion) (cause : Error)
  /-- The client refuses to authenticate. -/
  | auth (fault : AuthFault)
  /-- The call cannot be answered. -/
  | usage (fault : UsageFault)
  /-- The feature is missing. -/
  | unsupported (feature : MissingFeature)
  /-- An expiry lies beyond the range of the clock: the call ends without an answer. -/
  | clockRange
  deriving Inhabited

namespace Error

/-- Items that succeeded before the first failure. -/
def succeededBefore (outcomes : Array BatchOutcome) : Nat :=
  (outcomes.toList.takeWhile BatchOutcome.isSuccess).length

def message : Error → String
  | server e => "Server error: " ++ e.message
  | protocol fault => "Protocol error: " ++ fault.message
  | io fault => "I/O error: " ++ fault.message
  | connection fault _ => "Connection error: " ++ fault.message
  | closed true => "Connection is closed due to query timed out"
  | closed false => "Connection is closed"
  | tooLarge size max _ =>
    s!"Packet too big for current server max_allowed_packet value ({size} > {max})"
  | timeout => "Socket error: query timed out"
  | batch outcomes _ cause =>
    s!"Batch error: {cause.message} (after {succeededBefore outcomes} of {outcomes.size} items)"
  | auth fault => "Authentication failed: " ++ fault.message
  | usage fault => "Invalid usage: " ++ fault.message
  | unsupported feature => "Unsupported: " ++ feature.message
  | clockRange => "overflow when adding duration to instant"

/-- The class of an error, for programs that react to it. -/
def kind : Error → String
  | server _ => "Server"
  | protocol _ => "Protocol"
  | io _ => "Io"
  | connection _ _ => "Connection"
  | closed _ => "ConnectionClosed"
  | tooLarge _ _ _ => "PacketTooLarge"
  | timeout => "Timeout"
  | batch _ _ _ => "Batch"
  | auth _ => "Auth"
  | usage _ => "InvalidUsage"
  | unsupported _ => "Unsupported"
  | clockRange => "ClockRange"

/-- The connection cannot be used any more. -/
def isBroken : Error → Bool
  | protocol _ | io _ | connection _ _ | closed _ | timeout => true
  | tooLarge _ _ mustReconnect => mustReconnect
  | batch _ _ cause => cause.isBroken
  | server _ | auth _ | usage _ | unsupported _ | clockRange => false

/-- The call has ended abruptly, without the care that other errors get. -/
def isAbrupt : Error → Bool
  | clockRange => true
  | _ => false

def sqlState : Error → String
  | server e => e.state
  | protocol _ | io _ | connection _ _ | closed _ => "08000"
  | tooLarge _ _ mustReconnect => if mustReconnect then "08000" else "HZ000"
  | timeout => "70100"
  | batch _ _ cause => cause.sqlState
  | auth _ => "28000"
  | usage _ | clockRange => "HY000"
  | unsupported _ => "0A000"

/-- Server code for a refused user or password. -/
def accessDenied : UInt16 := 1045
def tokenExpired : UInt16 := 2628

def code? : Error → Option UInt16
  | server e => some e.code
  | closed _ => some 1220
  | timeout => some 1317
  | batch _ _ cause => cause.code?
  | auth _ => some accessDenied
  | _ => none

def serverError? : Error → Option ServerError
  | server e => some e
  | connection _ (some source) => source.serverError?
  | _ => none

end Error

end SqlWire
