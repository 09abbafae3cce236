import SqlWire.Reply.Err

/-!
# Answers to the greeting

The client asks for TLS with the front part of its response, or sends the whole response: its
capabilities, the user, the bytes of the authentication plugin, and what the capabilities announce.
Later the server may switch to another plugin or send it further data.
-/

namespace SqlWire.Handshake

def clientMaxPacket : UInt32 := 0x40000000

/-- The character set of the client, `utf8mb4_general_ci`. -/
def clientCharset : UInt8 := 45

/-- A client's response to the greeting. -/
structure Response where
  capabilities : Capabilities
  maxPacket : UInt32
  charset : UInt8
  user : String
  authResponse : Bytes
  database : Option String
  plugin : String
  attributes : List (String × String)
  deriving DecidableEq, Repr

/-- The front part of a response, which by itself asks for TLS. -/
def sslRequest (caps : Capabilities) (maxPacket : UInt32) (charset : UInt8) : Bytes :=
  Field.u32 caps.low ++ Field.u32 maxPacket ++ charset :: List.replicate 23 0

/-- Names and values, each after its length. -/
def attributeBytes (attributes : List (String × String)) : Bytes :=
  attributes.flatMap fun (name, value) =>
    Field.lenEncBytes (Text.encode name) ++ Field.lenEncBytes (Text.encode value)

namespace Response

/-- The bytes of the plugin after their length; without `lengthEncodedAuth` at most 255 of them. -/
def authBytes (r : Response) : Bytes :=
  if r.capabilities.has Capabilities.lengthEncodedAuth then Field.lenEncBytes r.authResponse
  else
    let sent := r.authResponse.take 255
    UInt8.ofNat sent.length :: sent

def bytes (r : Response) : Bytes :=
  sslRequest r.capabilities r.maxPacket r.charset ++ Field.terminatedText r.user ++ r.authBytes ++
    (if r.capabilities.has Capabilities.connectWithDatabase then
      Field.terminatedText (r.database.getD "") else []) ++
    (if r.capabilities.has Capabilities.pluginAuth then Field.terminatedText r.plugin else []) ++
    (if r.capabilities.has Capabilities.connectAttributes then
      Field.lenEncBytes (attributeBytes r.attributes) else [])

end Response

/-- The server asks for another plugin. -/
structure AuthSwitch where
  plugin : String
  data : Bytes
  deriving DecidableEq, Repr

def AuthSwitch.parse (packet : Bytes) : Except ProtocolFault AuthSwitch := do
  let (lead, data) ← Field.readU8 packet
  if lead != Lead.eof then
    throw (.unexpectedLead .authSwitch lead)
  let (plugin, data) ← Field.readTerminatedText data
  return ⟨plugin, Field.stripNul data⟩

def moreData (packet : Bytes) : Except ProtocolFault Bytes :=
  match packet with
  | lead :: data => if lead == Lead.moreData then .ok data else .error .notMoreData
  | [] => .error .notMoreData

def clientAttributes (processId : Nat) : List (String × String) :=
  [("_client_name", "zero-singlestore"), ("_client_version", "0.1.0"), ("_os", "linux"),
    ("_pid", toString processId)]

end SqlWire.Handshake
