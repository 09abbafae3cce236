import SqlWire.Command
import SqlWire.Options

/-!
# Session properties

Properties that a caller may change in the middle of a session. Some are set on the server by a
command, others are known to the client only. Which kinds were changed is kept in `Changed`;
`resetPlan` is what brings them back to what the options say.
-/

namespace SqlWire.Session

/-- Kinds of property that were changed, as bits. -/
structure Changed where
  bits : UInt8
  deriving DecidableEq, Repr

namespace Changed

def none : Changed := ⟨0⟩

def networkTimeout : UInt8 := 0x01
def autocommit : UInt8 := 0x02
def database : UInt8 := 0x04
def readOnly : UInt8 := 0x08
def isolation : UInt8 := 0x10

def has (changed : Changed) (flag : UInt8) : Bool := changed.bits &&& flag != 0

def set (changed : Changed) (flag : UInt8) : Changed := ⟨changed.bits ||| flag⟩

def names (changed : Changed) : List String :=
  ([("network_timeout", networkTimeout), ("autocommit", autocommit), ("database", database),
    ("read_only", readOnly), ("isolation", isolation)].filter fun (_, flag) => changed.has flag).map
    (·.1)

def isEmpty (changed : Changed) : Bool := changed.bits == 0

end Changed

/-- A value for a property. -/
inductive Property where
  | autocommit (on : Bool)
  | database (name : String)
  /-- Known to the client only. -/
  | readOnly (on : Bool)
  | isolation (level : Isolation)
  /-- The timeout of the socket. -/
  | networkTimeout (timeout : Option Nat)
  deriving DecidableEq, Repr

namespace Property

def flag : Property → UInt8
  | autocommit _ => Changed.autocommit
  | database _ => Changed.database
  | readOnly _ => Changed.readOnly
  | isolation _ => Changed.isolation
  | networkTimeout _ => Changed.networkTimeout

/-- The command that sets a property on the server, if it is known there. -/
def command? : Property → Option Command
  | autocommit on => some (.query (if on then "set autocommit=1" else "set autocommit=0"))
  | database name => some (.initDb name)
  | isolation level => some (.query ("SET SESSION TRANSACTION ISOLATION LEVEL " ++ level.sql))
  | readOnly _ | networkTimeout _ => none

end Property

/-- The properties to set, in order, to bring the changed kinds back. The server's own reset has
brought back the isolation level already. -/
def resetPlan (changed : Changed) (opts : Options) (serverReset : Bool) : List Property :=
  (if changed.has Changed.networkTimeout then [.networkTimeout opts.socketTimeout] else []) ++
  (if changed.has Changed.autocommit then [.autocommit (opts.autocommit.getD true)] else []) ++
  (if changed.has Changed.database then (opts.database.map .database).toList else []) ++
  (if changed.has Changed.readOnly then [.readOnly false] else []) ++
  (if !serverReset && changed.has Changed.isolation then
    [.isolation (opts.isolation.getD .repeatableRead)] else [])

end SqlWire.Session
