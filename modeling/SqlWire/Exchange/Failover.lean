import SqlWire.Exchange.Connect

/-!
# Failover

When the connection is lost inside a transaction, a new session is opened and brought to where the
lost one was: the properties that the caller changed, the prepared statements that somebody holds,
and the commands of the open transaction. Then the failed command is sent once more.
-/

namespace SqlWire.Exchange

open Net (Env)

def replayed (log : Session.RedoLog) (failed : Command) : List Command :=
  match log.getLast? with
  | some last => if last.same failed then log.dropLast else log
  | none => log

def carryOver (lost fresh : Session.Context) : Session.Context :=
  { fresh with
    statements := lost.statements
    redo := lost.redo
    warnings := lost.warnings
    readOnly := lost.readOnly
    changed := lost.changed
    networkTimeout := lost.networkTimeout }

def setTimeout (timeout : Option Nat) : EStateM Error Client Unit := fun c =>
  match c.channel.setTimeout timeout with
  | .error fault => Client.fail (.io fault) c
  | .ok channel => .ok () { c with channel }

/-- Opens a new session in place of the lost one. -/
def reconnect (env : Env) : EStateM Error Client Unit := fun c =>
  match connect env true c.world with
  | .error e world => .error e { c with world }
  | .ok (channel, ctx, journal) world =>
    let journal := c.journal ++ journal
    .ok () (Client.note { c with channel, world, ctx := carryOver c.ctx ctx, journal } .adopted)

/-- The properties to set again: those on the server that the caller has changed. -/
def changedProperties (lost : Session.Context) : List Session.Property :=
  open Session in
  (if lost.changed.has Changed.database then (lost.database.map .database).toList else []) ++
  (if lost.changed.has Changed.isolation then (lost.isolation.map .isolation).toList else []) ++
  (if lost.changed.has Changed.autocommit then [.autocommit lost.status.autocommit] else [])

def replayProperty (env : Env) (property : Session.Property) : EStateM Error Client Unit := do
  if let some command := property.command? then
    let _ ← executeOnce env command {}
  modify (·.withContext (·.recordProperty property))

/-- Prepares a statement again and binds its handle to the new id. -/
def prepareAgain (env : Env) (statement : PreparedStatement) : EStateM Error Client Unit := do
  let command := Command.prepare statement.sql
  let mark ← send env command
  match ← readFor env command mark {} with
  | .prepared fresh =>
    modify (·.withContext fun ctx =>
      { ctx with statements := ctx.statements.rebind statement.handle fresh.id })
  | _ => Client.fail (.protocol .notPrepared)

/-- Sends a command of the transaction again. -/
def replayCommand (env : Env) (command : Command) : EStateM Error Client Unit := do
  let mark ← send env command
  match ← (readFor env command mark {}).attempt with
  | .ok _ => return
  | .error e => throw (.connection .replay (some e))

def isPrepare : Command → Bool
  | .prepare _ => true
  | _ => false

/-- Gives the session up, with its redo log. -/
def abandonSession (c : Client) : Client :=
  (c.withContext fun ctx => { ctx with redo := ctx.redo.map fun _ => [] }).closeChannel.note .lost

/-- Brings a new session to where the lost one was, apart from its transaction. -/
def restoreSession (env : Env) (lost : Session.Context) : EStateM Error Client Unit := do
  setTimeout lost.networkTimeout
  (changedProperties lost).forM (replayProperty env)
  modify (·.withContext fun ctx => { ctx with statements := ctx.statements.forgetUnreferenced })
  (env.arrange (← get).ctx.statements.referenced).forM (prepareAgain env)

/-- Sends the commands of the lost transaction again, before the failed one. -/
def replayLog (env : Env) (log : Session.RedoLog) (failed : Command) :
    EStateM Error Client Unit := do
  modify (·.note .replaying)
  ((replayed log failed).filter (!isPrepare ·)).forM (replayCommand env)

/-- Opens a new session and brings it to where the lost one was before the failed command. -/
def failover (env : Env) (failed : Command) : EStateM Error Client Unit := do
  let lost := (← get).ctx
  modify abandonSession
  reconnect env
  restoreSession env lost
  replayLog env (lost.redo.getD []) failed

def noteStranded (run : EStateM Error Client Unit) : EStateM Error Client Unit := fun c =>
  match run c with
  | .ok () c => .ok () c
  | .error e c => .error e (c.note (.stranded e))

/-- The connection was lost at a command that can be sent again on another session. -/
def canReplay (c : Client) (command : Command) (e : Error) : Bool :=
  match e with
  | .io _ => c.ctx.redo.isSome && command.canRedo && !c.world.control.timedOut
  | _ => false

/-- What follows a command that failed: it runs once more after a failover if that is called for. -/
def recover (env : Env) (command : Command) (options : StatementOptions) (e : Error) :
    EStateM Error Client Response := do
  if canReplay (← get) command e then
    noteStranded (failover env command)
    executeOnce env command options
  else throw e

/-- Runs a command, after a failover if that is called for. -/
def execute (env : Env) (command : Command) (options : StatementOptions) :
    EStateM Error Client Response := do
  settle env
  match ← (executeOnce env command options).attempt with
  | .ok response => return response
  | .error e => recover env command options e

end SqlWire.Exchange
