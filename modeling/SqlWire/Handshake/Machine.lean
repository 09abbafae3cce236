import SqlWire.Handshake.Greeting
import SqlWire.Handshake.Response
import SqlWire.Options

/-!
# The handshake

`Machine.step` takes the packet that was read, if the phase expects one, and says what to do next.
After the last step, `Machine.outcome` is what was agreed on. This build has no TLS: where TLS is
only preferred the handshake goes on without it, and where it is required the handshake fails.
-/

namespace SqlWire.Handshake

open Auth (Credential Plugin GssapiCalls)

/-- What to do next. -/
inductive Action where
  /-- Send these bytes, then change to TLS. -/
  | sendAndSecure (bytes : Bytes)
  /-- Read a packet. -/
  | read
  /-- Send these bytes as one packet, then read one. -/
  | sendAndRead (bytes : Bytes)
  | finished
  deriving DecidableEq, Repr

def Action.name : Action → String
  | sendAndSecure _ => "WriteAndUpgradeTls"
  | read => "ReadPacket"
  | sendAndRead _ => "WriteAndReadPacket"
  | finished => "Finished"

/-- What a handshake agreed on. -/
structure Outcome where
  capabilities : Capabilities
  status : Status
  threadId : UInt32
  serverVersion : String
  seed : Bytes
  charset : UInt8
  tls : Bool
  plugin : String
  deriving DecidableEq, Repr

def clientCapabilities (opts : Options) (tls : Bool) : Capabilities :=
  let whenSet (condition : Bool) (flag : UInt64) (caps : Capabilities) : Capabilities :=
    if condition then caps.set flag else caps
  let always : Capabilities := ⟨Capabilities.longPassword ||| Capabilities.longFlag |||
    Capabilities.protocol41 ||| Capabilities.transactions ||| Capabilities.secureConnection |||
    Capabilities.multiResults ||| Capabilities.preparedMultiResults ||| Capabilities.pluginAuth |||
    Capabilities.lengthEncodedAuth ||| Capabilities.connectAttributes |||
    Capabilities.deprecateEof⟩
  always
    |> whenSet opts.allowMultiQueries Capabilities.multiStatements
    |> whenSet opts.allowLocalInfile Capabilities.localFiles
    |> whenSet (opts.database.isSome && !opts.createDatabase) Capabilities.connectWithDatabase
    |> whenSet opts.compress Capabilities.compress
    |> whenSet tls Capabilities.tls

/-- This build can change a socket to TLS. -/
def tlsBuilt : Bool := false

/-- A handshake in progress. -/
structure Machine where
  phase : Phase
  opts : Options
  processId : Nat
  credential : Credential
  /-- The plugin to use in place of the server's. -/
  hint : Option String
  greeting : Option Greeting
  capabilities : Capabilities
  plugin : Option Plugin
  tls : Bool
  status : Status
  gssapiCalls : GssapiCalls

namespace Machine

def start (opts : Options) (processId : Nat) (credential : Credential) (hint : Option String)
    (calls : GssapiCalls) : Machine :=
  ⟨.initial, opts, processId, credential, hint, none, ⟨0⟩, none, false, ⟨0⟩, calls⟩

/-- What a plugin may need to know. -/
def context (m : Machine) : Auth.Context :=
  ⟨m.credential.password, m.tls, m.opts.enableCleartext, m.opts.servicePrincipal⟩

abbrev Step := EStateM.Result Error Machine Action

def withCalls {α : Type} (m : Machine) (run : EStateM Error GssapiCalls α)
    (next : α → Machine → Step) : Step :=
  match run m.gssapiCalls with
  | .ok a calls => next a { m with gssapiCalls := calls }
  | .error e calls => .error e { m with gssapiCalls := calls }

def respond (m : Machine) : Step :=
  match m.greeting with
  | none => .error (.protocol .responseBeforeGreeting) m
  | some greeting =>
    match Plugin.ofName (m.hint.getD greeting.plugin) m.opts.gssapi with
    | .error fault => .error (.auth fault) m
    | .ok plugin =>
      m.withCalls (plugin.firstResponse m.context greeting.seed) fun (authResponse, plugin) m =>
        let response : Response :=
          { capabilities := m.capabilities
            maxPacket := clientMaxPacket
            charset := clientCharset
            user := m.credential.user
            authResponse
            database := if m.opts.createDatabase then none else m.opts.database
            plugin := plugin.name
            attributes := clientAttributes m.processId ++ m.opts.connectionAttributes }
        .ok (.sendAndRead response.bytes)
          { m with plugin := some plugin, phase := .authenticating }

def greet (m : Machine) (packet : Bytes) : Step :=
  if packet.head? == some Lead.err then
    match ServerError.parse packet with
    | .error fault => .error (.protocol fault) m
    | .ok e => .error (.server e) m
  else
    match Greeting.parse packet with
    | .error fault => .error (.protocol fault) m
    | .ok greeting =>
      let offered := greeting.capabilities.has Capabilities.tls
      if m.opts.tlsMode.isRequired && !offered then
        .error (.connection .tlsNotOffered none) m
      else if m.opts.tlsMode.isRequired && !tlsBuilt then
        .error (.unsupported .tls) m
      else
        let useTls := m.opts.tlsMode != .disable && offered && tlsBuilt
        let caps := (clientCapabilities m.opts useTls).inter greeting.capabilities
        let m :=
          { m with capabilities := caps, status := greeting.status, greeting := some greeting }
        if useTls then
          .ok (.sendAndSecure (sslRequest caps clientMaxPacket clientCharset))
            { m with phase := .tlsRequested }
        else m.respond

def authenticate (m : Machine) (packet : Bytes) : Step :=
  if packet.head? == some Lead.ok then
    match OkPacket.parse packet with
    | .error fault => .error (.protocol fault) m
    | .ok packet => .ok .finished { m with status := packet.status, phase := .authenticated }
  else if packet.head? == some Lead.err then
    match ServerError.parse packet with
    | .error fault => .error (.protocol fault) m
    | .ok e => .error (.server e) m
  else if packet.head? == some Lead.eof then
    match AuthSwitch.parse packet with
    | .error fault => .error (.protocol fault) m
    | .ok switch =>
      match Plugin.ofName switch.plugin m.opts.gssapi with
      | .error fault => .error (.auth fault) m
      | .ok plugin =>
        m.withCalls (plugin.firstResponse m.context switch.data) fun (response, plugin) m =>
          let greeting := m.greeting.map fun g => { g with seed := switch.data }
          .ok (.sendAndRead response) { m with greeting, plugin := some plugin }
  else if packet.head? == some Lead.moreData then
    match moreData packet with
    | .error fault => .error (.protocol fault) m
    | .ok data =>
      match m.plugin with
      | none => .error (.protocol .dataBeforePlugin) m
      | some plugin =>
        m.withCalls (plugin.moreData m.context data) fun reply m =>
          match reply with
          | .send bytes => .ok (.sendAndRead bytes) m
          | .wait => .ok .read m
  else .error (.protocol (.strayAuthPacket packet.head?)) m

/-- The step that the phase asks for. -/
def advance (m : Machine) (packet : Bytes) : Step :=
  match m.phase with
  | .initial => .ok .read { m with phase := .awaitingGreeting }
  | .awaitingGreeting => m.greet packet
  | .tlsRequested => respond { m with tls := true }
  | .authenticating => m.authenticate packet
  | .authenticated | .failed => .error (.protocol (.handshakeOver m.phase)) m

/-- One step. A step that fails ends the handshake. -/
def step (packet : Bytes) : EStateM Error Machine Action := fun m =>
  match m.advance packet with
  | .ok action m => .ok action m
  | .error e m => .error e { m with phase := .failed }

def outcome (m : Machine) : Except ProtocolFault Outcome :=
  match m.phase, m.greeting with
  | .authenticated, some greeting => .ok
      { capabilities := m.capabilities
        status := m.status
        threadId := greeting.threadId
        serverVersion := greeting.serverVersion
        seed := greeting.seed
        charset := clientCharset
        tls := m.tls
        plugin := (m.plugin.map Plugin.name).getD "" }
  | phase, _ => .error (.handshakeUnfinished phase)

end Machine

end SqlWire.Handshake
