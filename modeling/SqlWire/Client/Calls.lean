import SqlWire.Exchange.Properties
import SqlWire.Exchange.Statement
import SqlWire.Exchange.Streaming

/-!
# Calls of a client

What a caller can do with a connection. A call on a closed connection is refused. A call that fails
with an error that breaks the connection closes it, and so does one that another thread has ended; a
statement that ran too long reports just that. A call that ends abruptly leaves everything as it is
at that point. `close` and `abort` on an idle connection say goodbye to the server.
-/

namespace SqlWire

open Net (Env World)

namespace Client

def new (env : Env) : World → EStateM.Result Error World Client := fun w =>
  match Exchange.connect env true w with
  | .error e w => .error e w
  | .ok (channel, ctx, journal) w => .ok { Client.idle channel w ctx with journal } w

def isClosed (c : Client) : Bool := c.world.control.closed

def markClosed (c : Client) : Client := { c with world := c.world.markClosed }

/-- Runs a call unless the connection is closed, and closes the connection behind a call that leaves
it broken. -/
def guarded {α : Type} (run : EStateM Error Client α) : EStateM Error Client α := fun c =>
  if c.isClosed then .error (.closed c.world.control.timedOut) c
  else
    match run c with
    | .ok a c => .ok a c
    | .error e c =>
      if e.isAbrupt then .error e c
      else if c.world.control.timedOut then .error .timeout c.closeChannel
      else if e.isBroken then .error e c.markClosed.closeChannel
      else if c.isClosed then .error e c.closeChannel
      else .error e c

def timed {α : Type} (timeout : Option Nat) (run : EStateM Error Client α) :
    EStateM Error Client α := fun c =>
  match timeout with
  | none => guarded run c
  | some timeout =>
    let (key, deadlines) := c.world.deadlines.arm (c.world.clock + timeout) ()
    let disarm (c : Client) : Client :=
      { c with world := { c.world with deadlines := c.world.deadlines.disarm key } }
    match guarded run { c with world := { c.world with deadlines } } with
    | .ok a c => .ok a (disarm c)
    | .error e c => .error e (disarm c)

/-- Runs a command and reads its results. With a fetch size the first result set may be incomplete;
`readStreaming` gives the rest. -/
def execute (env : Env) (command : Command) (options : StatementOptions) :
    EStateM Error Client (Array Completion) :=
  if Exchange.isPrepare command then throw (.usage .prepareSeparately)
  else timed options.timeout do return (← Exchange.execute env command options).toCompletions

def query (env : Env) (sql : String) : EStateM Error Client (Array Completion) :=
  execute env (.query sql) {}

/-- Runs several commands, sent ahead where that is possible. -/
def executeAll (env : Env) (commands : List Command) (options : StatementOptions) :
    EStateM Error Client (Array Completion) :=
  if commands.any Exchange.isPrepare then throw (.usage .prepareSeparately)
  else timed options.timeout do return (← Exchange.runBatch env commands options).2

/-- Sends a command without reading its response. Gives the number of responses to read. -/
def sendOne (env : Env) (command : Command) : EStateM Error Client Nat :=
  guarded (Exchange.sendOne env command)

/-- Reads the response to the oldest command that `sendOne` has sent. -/
def readResponse (env : Env) (options : StatementOptions) : EStateM Error Client Response :=
  timed options.timeout (Exchange.readResponse env options)

def readStreaming (env : Env) : EStateM Error Client Exchange.Part :=
  guarded (Exchange.readStreaming env)

/-- Drops the rest of a result that is given out in parts. -/
def abandonStreaming (env : Env) : EStateM Error Client Unit :=
  guarded (Exchange.settleStreaming env)

def prepare (env : Env) (sql : String) : EStateM Error Client PreparedStatement :=
  guarded (Exchange.prepare env sql)

def closeStatement (env : Env) (statement : PreparedStatement) : EStateM Error Client Unit :=
  guarded (Exchange.closeStatement env statement)

/-- Runs a statement once for each list of parameters. -/
def executeBatch (env : Env) (sql : String) (paramSets : List (List Value)) :
    EStateM Error Client (Array BatchOutcome) :=
  guarded (Exchange.executeBatch env sql paramSets)

def setProperty (env : Env) (property : Session.Property) : EStateM Error Client Unit :=
  guarded (Exchange.setProperty env property)

/-- Brings the session back to its first state. -/
def reset (env : Env) : EStateM Error Client Unit := guarded (Exchange.reset env)

/-- Asks the server for a sign of life. -/
def ping (env : Env) : EStateM Error Client Unit :=
  guarded do let _ ← Exchange.execute env .ping {}

/-- Says goodbye to the server, if it can be reached, and closes the channel. -/
def quit (env : Env) : EStateM Error Client Unit := do
  if !(← get).channel.isClosed then
    let _ ← (Exchange.send env .quit).attempt
    modify (·.closeChannel)

/-- Closes an idle connection. The second time it has no effect. -/
def close (env : Env) : EStateM Error Client Unit := do
  if !(← get).isClosed then
    modify (·.markClosed)
    quit env

/-- Closes an idle connection from any thread. -/
def abort (env : Env) : EStateM Error Client Unit := close env

/-- Runs one statement on a connection of its own. It has flags of its own, no deadlines, and no
other thread knows of it. -/
def runAside (env : Env) (sql : String) : EStateM Error World Unit := fun w =>
  let env := env.alone
  let back (after : World) : World :=
    { after with control := w.control, deadlines := w.deadlines }
  match Exchange.connect env false { w with control := .fresh, deadlines := .empty } with
  | .error e after => .error e (back after)
  | .ok (channel, ctx, _) after =>
    match Exchange.execute env (.query sql) {} (.idle channel after ctx) with
    | .ok _ c => .ok () (back (quit env c).state.world)
    | .error e c =>
      if e.isAbrupt then .error e (back c.world) else .error e (back (quit env c).state.world)

/-- The surroundings of a connection that can end its own session from aside. -/
def surroundings (env : Env) : Env :=
  { env with kill := fun sql w => (runAside env sql w).state }

/-- Ends the running query of this session, from aside. -/
def killQuery (env : Env) : EStateM Error Client Unit := fun c =>
  if c.isClosed then .error (.closed c.world.control.timedOut) c
  else
    match runAside env (World.killQuery c.world.control.threadId) c.world with
    | .ok () world => .ok () { c with world }
    | .error e world => .error e { c with world }

end Client

end SqlWire
