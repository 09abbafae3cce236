import SqlWire.Handshake.Machine
import SqlWire.Session.Property
import SqlWire.Session.Version
import SqlWire.Statement.Cache

/-!
# The state of a session

What the handshake agreed on, what the server has reported since, and what the caller has changed;
and the commands of the open transaction, kept so that they can be sent again on another session.
-/

namespace SqlWire.Session

/-! ## The redo log -/

/-- Commands sent since the transaction began, the first one first. -/
abbrev RedoLog := List Command

namespace RedoLog

/-- Adds a command, if it can be sent again. -/
def record (log : RedoLog) (command : Command) : RedoLog :=
  if command.canRedo then log ++ [command] else log

/-- Outside a transaction there is nothing to send again. -/
def observe (log : RedoLog) (inTransaction : Bool) : RedoLog := if inTransaction then log else []

end RedoLog

/-! ## The session -/

/-- The state of a session. -/
structure Context where
  capabilities : Capabilities
  status : Status
  threadId : UInt32
  serverVersion : String
  seed : Bytes
  charset : UInt8
  tls : Bool
  database : Option String
  readOnly : Bool
  isolation : Option Isolation
  /-- Warnings since the session began or was reset, modulo 2^32. -/
  warnings : UInt32
  changed : Changed
  networkTimeout : Option Nat
  maxAllowedPacket : Option Nat
  /-- Seconds after which the server ends an idle session. -/
  waitTimeout : Option Nat
  /-- `none` until it was asked for, then what the server reported. -/
  version : Option (Option Version)
  statements : StatementCache
  redo : Option RedoLog

namespace Context

def new (outcome : Handshake.Outcome) (opts : Options) : Context where
  capabilities := outcome.capabilities
  status := outcome.status
  threadId := outcome.threadId
  serverVersion := outcome.serverVersion
  seed := outcome.seed
  charset := outcome.charset
  tls := outcome.tls
  database := opts.database
  readOnly := false
  isolation := opts.isolation
  warnings := 0
  changed := .none
  networkTimeout := opts.socketTimeout
  maxAllowedPacket := opts.maxAllowedPacket
  waitTimeout := none
  version := none
  statements := .new opts.statementCacheSize opts.cacheStatements
  redo := if opts.transactionReplay then some [] else none

def inTransaction (ctx : Context) : Bool := ctx.status.inTransaction

/-- A backslash in a string literal is an ordinary character. -/
def noBackslashEscapes (ctx : Context) : Bool := ctx.status.noBackslashEscapes

/-- A result set ends with an OK packet. -/
def deprecateEof (ctx : Context) : Bool := ctx.capabilities.has Capabilities.deprecateEof

/-- The server may ask for a local file. -/
def localInfile (ctx : Context) : Bool := ctx.capabilities.has Capabilities.localFiles

def addWarnings (ctx : Context) (warnings : UInt16) : Context :=
  { ctx with warnings := ctx.warnings + warnings.toUInt32 }

/-- Takes over the status and the warnings of a result. -/
def applyStatus (ctx : Context) (status : Status) (warnings : UInt16) : Context :=
  { ctx with status }.addWarnings warnings

def applyError (ctx : Context) : Context := { ctx with status := ctx.status.lastResult }

/-- Takes over a property that was set. -/
def recordProperty (ctx : Context) (property : Property) : Context :=
  let ctx := { ctx with changed := ctx.changed.set property.flag }
  match property with
  | .database name => { ctx with database := some name }
  | .readOnly on => { ctx with readOnly := on }
  | .isolation level => { ctx with isolation := some level }
  | .networkTimeout timeout => { ctx with networkTimeout := timeout }
  | .autocommit _ => ctx

/-- Adds a command to the redo log, if there is one. -/
def recordCommand (ctx : Context) (command : Command) : Context :=
  { ctx with redo := ctx.redo.map (·.record command) }

/-- Shortens the redo log after a response. -/
def observe (ctx : Context) : Context :=
  { ctx with redo := ctx.redo.map (·.observe ctx.inTransaction) }

/-- The state after a reset: as after the handshake, apart from what the server reports. -/
def afterReset (ctx : Context) (opts : Options) : Context :=
  { ctx with
    warnings := 0
    changed := .none
    database := opts.database
    readOnly := false
    isolation := opts.isolation
    networkTimeout := opts.socketTimeout
    redo := ctx.redo.map fun _ => [] }

end Context

end SqlWire.Session
