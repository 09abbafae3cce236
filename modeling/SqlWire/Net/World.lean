import SqlWire.Deadlines
import SqlWire.Frame
import SqlWire.LocalFiles
import SqlWire.Options
import SqlWire.Statement.Cache

/-!
# The surroundings of a connection

`World` is what a connection shares with others: the servers that will accept connections, what was
sent to them, the clock, and the flags through which another thread ends a running call. `Env` is
what stays the same throughout: the options, and how the surroundings behave. A server is known by
the bytes that it sends, so one that reacts to a client is one script for each way it may react.
Faults of sockets and calls of other threads come at numbered I/O steps.
-/

namespace SqlWire.Net

/-- What a server sends on one connection: these bytes, and then either the end of the stream or
nothing ever. -/
structure Script where
  bytes : ByteArray
  stalls : Bool

/-- What was done to one connection. -/
structure Transcript where
  /-- The bytes that the client sent. -/
  sent : ByteArray
  /-- The socket was shut down. -/
  down : Bool

/-- What threads know of a connection without taking it over. -/
structure Control where
  closed : Bool
  timedOut : Bool
  threadId : UInt32
  /-- The link that ends a running call when it is shut down. -/
  attached : Option Nat
  /-- What had been sent on each link when another thread ended a running call. Nothing depends on
  it. -/
  sentByThen : Option (List Bytes)
  closed_of_timedOut : timedOut = true → closed = true := by simp
  closed_of_sentByThen : sentByThen.isSome = true → closed = true := by simp
  deriving DecidableEq, Repr

/-- A connection that has not been opened. -/
def Control.fresh : Control where
  closed := false
  timedOut := false
  threadId := 0
  attached := none
  sentByThen := none

/-- A call of another thread. -/
inductive Interrupt where
  | close
  /-- Ends the server's session as well. -/
  | abort
  deriving DecidableEq, Repr

/-- What a connection shares with others. -/
structure World where
  control : Control
  /-- What the servers that are still to accept a connection send. -/
  servers : List Script
  /-- One transcript for each connection that was accepted, in order. -/
  links : Array Transcript
  /-- Milliseconds. -/
  clock : Nat
  /-- The deadlines of running statements. -/
  deadlines : Deadlines Unit
  /-- I/O steps so far. -/
  ioSteps : Nat
  credentials : Auth.CredentialLog
  gssapi : Auth.GssapiCalls

def World.start (servers : List Script) : World :=
  ⟨.fresh, servers, #[], 0, .empty, 0, ⟨[], .empty⟩, []⟩

/-- What stays the same. -/
structure Env where
  opts : Options
  processId : Nat
  /-- Seconds since the epoch. -/
  now : Nat
  /-- A server listens at the address of the options. -/
  listening : Bool
  /-- What paths lead to. -/
  files : String → Place
  compressor : Frame.Compressor
  /-- The order in which statements are prepared again on a new session. -/
  arrange : List PreparedStatement → List PreparedStatement
  /-- The fault of an I/O step, if it fails. -/
  fault : Nat → Option IoFault
  /-- What another thread does just before an I/O step. -/
  interrupt : Nat → Option Interrupt
  /-- What another thread does once a read waits for a silent server. -/
  whenBlocked : Option Interrupt
  /-- Runs a statement on a connection of its own. -/
  kill : String → World → World

/-- The surroundings of a connection that nothing else interferes with. -/
def Env.quiet (opts : Options) : Env where
  opts
  processId := 0
  now := 0
  listening := true
  files := Directory.empty.place
  compressor := Frame.zlib
  arrange := id
  fault := fun _ => none
  interrupt := fun _ => none
  whenBlocked := none
  kill := fun _ w => w

/-- The surroundings of a connection that no other thread uses. -/
def Env.alone (env : Env) : Env :=
  { env with interrupt := fun _ => none, whenBlocked := none, kill := fun _ w => w }

namespace World

def isDown (w : World) (id : Nat) : Bool := (w.links[id]?.map (·.down)).getD false

def shutDown (w : World) (id : Nat) : World :=
  { w with links := w.links.modify id fun t => { t with down := true } }

/-- Shuts down the socket under the running call. -/
def shutDownAttached (w : World) : World :=
  match w.control.attached with
  | some id => w.shutDown id
  | none => w

def addSent (w : World) (id : Nat) (bytes : ByteArray) : World :=
  { w with links := w.links.modify id fun t => { t with sent := t.sent ++ bytes } }

def markClosed (w : World) : World :=
  { w with control := { w.control with
      closed := true, closed_of_timedOut := fun _ => rfl, closed_of_sentByThen := fun _ => rfl } }

/-- What was sent on each link. -/
def sent (w : World) : List Bytes := w.links.toList.map fun t => Bytes.ofWire t.sent

/-- Another thread has ended a running call. -/
def markEnded (w : World) : World :=
  { w with control := { w.control with
      closed := true, sentByThen := some w.sent
      closed_of_timedOut := fun _ => rfl, closed_of_sentByThen := fun _ => rfl } }

/-- Gives the link and the server's session that ending the running call is about. -/
def attach (w : World) (link : Option Nat) (threadId : UInt32) : World :=
  { w with control := { w.control with threadId, attached := link } }

/-- The statement that ends a session of the server. -/
def killSession (threadId : UInt32) : String := s!"KILL {threadId}"

/-- The statement that ends the running query of a session. -/
def killQuery (threadId : UInt32) : String := s!"KILL QUERY {threadId}"

/-- Another thread closes or aborts the connection while a call runs. The second time it has no
effect. -/
def interrupted (env : Env) (how : Interrupt) (w : World) : World :=
  if w.control.closed then w
  else
    let w := w.markClosed
    let w := match how with
      | .close => w
      | .abort => env.kill (killSession w.control.threadId) w
    w.shutDownAttached.markEnded

/-- The next deadline passes while a call runs. -/
def expired (env : Env) (deadline : Nat) (w : World) : World :=
  let clock := max w.clock deadline
  let (_, deadlines) := w.deadlines.expire clock
  let control : Control :=
    { w.control with
      closed := true, timedOut := true
      closed_of_timedOut := fun _ => rfl, closed_of_sentByThen := fun _ => rfl }
  let w := env.kill (killSession control.threadId) { w with clock, deadlines, control }
  w.shutDownAttached

def beginStep (env : Env) : EStateM Error World Unit := fun w =>
  let step := w.ioSteps
  let w := { w with ioSteps := step + 1 }
  let w := match env.interrupt step with
    | some how => w.interrupted env how
    | none => w
  match env.fault step with
  | some fault => .error (.io fault) w
  | none => .ok () w

end World

end SqlWire.Net
