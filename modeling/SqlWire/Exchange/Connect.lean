import SqlWire.Exchange.Batch
import SqlWire.Handshake.Machine
import SqlWire.Text.Number

/-!
# Opening sessions

A session is opened by a handshake on a fresh link. A single sign-on credential that the server
rejects is fetched once more. Then the session is set up as the options say; connections that only
run one statement skip that.
-/

namespace SqlWire.Exchange

open Net (Env Link World)
open Handshake (Machine Outcome)

/-! ## The handshake -/

/-- Notes the calls of a GSS-API provider. -/
def noteCalls (calls : Auth.GssapiCalls) : EStateM Error Line Unit :=
  modify fun line => { line with world := { line.world with gssapi := calls } }

/-- Does what a step of the handshake asks for, short of reading. Also says whether the handshake is
finished. -/
def perform (env : Env) (machine : Machine) : Handshake.Action → EStateM Error Line (Machine × Bool)
  | .finished => return (machine, true)
  | .read => return (machine, false)
  | .sendAndRead bytes => do
    Line.writePacket env bytes.toWire none
    return (machine, false)
  | .sendAndSecure bytes => do
    Line.writePacket env bytes.toWire none
    fun line => .error line.secure.1 line.secure.2

def turn (env : Env) (machine : Machine) (packet : Bytes) : EStateM Error Line (Machine × Bool) := do
  let calls := (← get).world.gssapi
  match Machine.step packet { machine with gssapiCalls := calls } with
  | .error e machine =>
    noteCalls machine.gssapiCalls
    throw e
  | .ok action machine =>
    noteCalls machine.gssapiCalls
    perform env machine action

theorem lowers_turn {env : Env} {machine : Machine} {packet : Bytes} :
    Lowers Line.supply (turn env machine packet) := by
  have write : ∀ bytes, Lowers Line.supply (Line.writePacket env bytes none) := fun bytes line =>
    Nat.le_of_eq (Line.supply_writePacket line)
  have note : ∀ calls, Lowers Line.supply (noteCalls calls) := fun calls line => Nat.le_refl _
  refine .bind (fun _ => Nat.le_refl _) fun line => ?_
  dsimp only
  split
  · exact .bind (note _) fun _ => .throw _
  · refine .bind (note _) fun _ => ?_
    unfold perform
    split
    · exact .pure _
    · exact .pure _
    · exact .bind (write _) fun _ => .pure _
    · exact .bind (write _) fun _ line => Line.supply_close line

/-- Takes steps of a handshake until it is finished. -/
def converse (env : Env) (machine : Machine) (packet : Bytes) (line : Line) :
    EStateM.Result Error Line Machine :=
  match _turn : turn env machine packet line with
  | .error e line => .error e line
  | .ok (next, true) line => .ok next line
  | .ok (next, false) line₁ =>
    match _packet : line₁.readPacket env with
    | .error e line => .error e line
    | .ok payload line₂ => converse env next (Bytes.ofWire payload) line₂
termination_by line.supply
decreasing_by
  have lower : (turn env machine packet line).state.supply ≤ line.supply := lowers_turn line
  rw [_turn] at lower
  exact Nat.lt_of_lt_of_le (Line.supply_readPacket _packet) lower

/-- User and password: those of the source, if there is one. -/
def findCredential (env : Env) : EStateM Error World Auth.Credential := fun w =>
  match env.opts.credentialSource with
  | none => .ok ⟨env.opts.user, env.opts.password⟩ w
  | some source =>
    match source.credential env.now env.opts.host w.credentials with
    | .ok credential credentials => .ok credential { w with credentials }
    | .error e credentials => .error e { w with credentials }

def handshakeError (opts : Options) (e : Error) : Error :=
  match e with
  | .connection _ _ | .unsupported _ => e
  | _ => .connection (.handshake opts.target) (some e)

/-- Opens a link and runs the handshake on it. -/
def openSession (env : Env) : EStateM Error World (Channel × Outcome) := do
  let link ← Link.dial env
  let credential ← findCredential env
  let hint := env.opts.credentialSource.bind (·.plugin)
  fun w =>
    let start := Machine.start env.opts env.processId credential hint w.gssapi
    let failed (e : Error) (line : Line) : EStateM.Result Error World (Channel × Outcome) :=
      .error (handshakeError env.opts e) line.close.world
    match converse env start [] ⟨.new link, w⟩ with
    | .error e line => failed e line
    | .ok machine line =>
      match machine.outcome with
      | .error fault => failed (.protocol fault) line
      | .ok outcome =>
        let channel :=
          if outcome.capabilities.has Capabilities.compress then line.channel.enableCompression
          else line.channel
        .ok (channel, outcome) line.world

/-- The server rejects user or password, or says that the token has expired. -/
def isRejection (e : Error) : Bool :=
  match e.serverError? with
  | some e => e.code == Error.accessDenied || e.code == Error.tokenExpired
  | none => false

/-- Attempts something, and once more with a fresh credential if the server rejected one that can be
fetched again. -/
def withFreshCredential {α : Type} (env : Env) (run : EStateM Error World α) :
    EStateM Error World α := do
  match ← run.attempt with
  | .ok a => return a
  | .error e =>
    match env.opts.credentialSource with
    | none => throw e
    | some source =>
      if source.canRefresh && isRejection e then
        modify fun w => { w with credentials := source.clear w.credentials }
        run
      else throw e

/-! ## Setting a session up -/

def quotedNameChar (c : Char) : List Char := if c == '\x60' then [c, c] else [c]

/-- A name between backticks; those inside are doubled. -/
def quoteName (name : String) : String :=
  String.ofList ('\x60' :: (name.toList.flatMap quotedNameChar ++ ['\x60']))

/-- The statement that reads what the client needs to know of the server. -/
def limitsQuery : String := "SELECT @@max_allowed_packet, @@wait_timeout"

def setUpCommands (opts : Options) : List Command :=
  let assignments := opts.sessionVariables.map fun (name, value) => name ++ "=" ++ value
  (if assignments.isEmpty then [] else [.query ("set " ++ ",".intercalate assignments)]) ++
  (opts.isolation.bind fun level => (Session.Property.isolation level).command?).toList ++
  (opts.autocommit.bind fun on => (Session.Property.autocommit on).command?).toList ++
  (match opts.createDatabase, opts.database with
    | true, some database =>
      [.query ("CREATE DATABASE IF NOT EXISTS " ++ quoteName database),
        .query ("USE " ++ quoteName database)]
    | _, _ => []) ++
  opts.initSql.map .query ++ [.query limitsQuery]

/-- The cells of the first row of the last result set, where they are text. -/
def firstRow (completions : Array Completion) : Except ProtocolFault (List (Option String)) :=
  match completions.toList.reverse.findSome? (·.resultSet?) with
  | none => .ok []
  | some set =>
    match set.rows[0]? with
    | none => .ok []
    | some row => do
      let cells ← row.cells set.columns.toList
      return cells.map fun cell => cell.bind fun bytes => (Text.decode bytes).toOption

def cellNumber? (cells : List (Option String)) (i : Nat) : Option Nat :=
  (cells[i]?.join).bind (Text.signedNumber? UInt64.size)

def setUp (env : Env) : EStateM Error Client Unit := do
  let (_, completions) ← runBatch env (setUpCommands env.opts) {}
  match firstRow completions with
  | .error fault => Client.fail (.protocol fault)
  | .ok cells =>
    modify (·.withContext fun ctx =>
      { ctx with
        maxAllowedPacket := ctx.maxAllowedPacket <|> cellNumber? cells 0
        waitTimeout := cellNumber? cells 1 })

def setUpSession (env : Env) (channel : Channel) (ctx : Session.Context) :
    EStateM Error World (Channel × Session.Context × Journal) := fun w =>
  match setUp env ((Client.idle channel w ctx).note .opened) with
  | .ok () c => .ok (c.channel, c.ctx, c.journal) c.world
  | .error e c => .error (.connection .setUp (some e)) c.closeChannel.world

def connect (env : Env) (wantSetUp : Bool) :
    EStateM Error World (Channel × Session.Context × Journal) := do
  let (channel, outcome) ← withFreshCredential env (openSession env)
  modify (·.attach (channel.link.map (·.id)) outcome.threadId)
  let ctx := Session.Context.new outcome env.opts
  if wantSetUp then setUpSession env channel ctx
  else return (channel, ctx, [.opened])

end SqlWire.Exchange
