import SqlWire.Handshake.Phase
import SqlWire.Text.Utf8

/-!
# Causes of failure

One constructor for each thing that can go wrong, and its wording in one place. `ProtocolFault` is
a packet that breaks the protocol, `IoFault` a failure of the socket or of a file, `AuthFault` a
refusal on the client's side of authentication, `UsageFault` a call that cannot be answered, and
`ConnectFault` the step of opening a session that failed. Each type also has `stated`, the words of
a party outside this library.
-/

namespace SqlWire

/-- Fixed-width fields and byte strings that a packet may be too short for. -/
inductive FixedField where
  | u16 | u24 | u32 | u64 | bytes
  deriving DecidableEq, Repr

def FixedField.name : FixedField → String
  | u16 => "read_u16"
  | u24 => "read_u24"
  | u32 => "read_u32"
  | u64 => "read_u64"
  | bytes => "read_bytes"

/-- Text fields that must be UTF-8. -/
inductive TextField where
  | lengthEncoded | terminated
  deriving DecidableEq, Repr

def TextField.name : TextField → String
  | lengthEncoded => "read_lenenc_str"
  | terminated => "read_cstr"

/-- Packets that are recognised by their first byte. -/
inductive PacketName where
  | ok | eof | err | prepareOk | binaryRow | authSwitch
  deriving DecidableEq, Repr

def PacketName.name : PacketName → String
  | ok => "OkPacket"
  | eof => "EofPacket"
  | err => "ErrPacket"
  | prepareOk => "PrepareOk"
  | binaryRow => "binary row"
  | authSwitch => "AuthSwitchRequest"

def hexDigit (n : Nat) : Char := if n < 10 then Char.ofNat (48 + n) else Char.ofNat (87 + n)

def hexByte (b : UInt8) : String :=
  "0x".push (hexDigit (b.toNat / 16)) |>.push (hexDigit (b.toNat % 16))

/-- The first byte of a packet that may be empty, as errors show it. -/
def firstByte : Option UInt8 → String
  | none => "None"
  | some b => s!"Some({b.toNat})"

/-- How a packet breaks the protocol. -/
inductive ProtocolFault where
  | noByte
  | short (field : FixedField) (left need : Nat)
  | lengthLead
  | unexpectedNull
  | notUtf8 (field : TextField) (fault : Text.Utf8Fault)
  | unterminated
  | headerSize
  | outOfOrder (expected received : UInt8)
  | unexpectedLead (packet : PacketName) (lead : UInt8)
  | shortPrepareOk (size : Nat)
  | tooManyColumns (count : UInt64)
  | noColumns
  | emptyResponse
  | notPrepareResponse
  | strayRow
  | strayDefinition
  | missingPrepareOk
  | unfinishedResponse
  | afterResponse (lead : UInt8)
  | notPrepared
  | damagedFrame
  | frameSize (size announced : Nat)
  | greetingVersion (version : UInt8)
  | notMoreData
  | strayAuthPacket (lead : Option UInt8)
  | strayShaData (lead : Option UInt8)
  | strayAuthData (plugin : String)
  | handshakeOver (phase : Handshake.Phase)
  | handshakeUnfinished (phase : Handshake.Phase)
  | responseBeforeGreeting
  | dataBeforePlugin
  | stated (text : String)

def ProtocolFault.message : ProtocolFault → String
  | noByte => "read_u8: empty buffer"
  | short field left need => s!"{field.name}: buffer too short: {left} < {need}"
  | lengthLead => "read_lenenc_int: 0xff is not a valid prefix"
  | unexpectedNull => "read_lenenc_u64: unexpected NULL"
  | notUtf8 field fault => s!"{field.name}: invalid UTF-8: {fault.message}"
  | unterminated => "read_cstring: no null terminator found"
  | headerSize => "header of another size"
  | outOfOrder expected received =>
    s!"Packets out of order: expected sequence {expected}, got {received}"
  | unexpectedLead packet lead => s!"{packet.name}: unexpected header {hexByte lead}"
  | shortPrepareOk size => s!"PrepareOk: short packet ({size} bytes)"
  | tooManyColumns count => s!"column count too large: {count}"
  | noColumns => "result set without columns"
  | emptyResponse => "empty response packet"
  | notPrepareResponse => "expected COM_STMT_PREPARE response"
  | strayRow => "row outside of a result set"
  | strayDefinition => "prepare metadata without PREPARE OK"
  | missingPrepareOk => "missing PREPARE OK"
  | unfinishedResponse => "response is not complete"
  | afterResponse lead => s!"unexpected packet after end of response ({hexByte lead})"
  | notPrepared => "expected a COM_STMT_PREPARE response"
  | damagedFrame => "zlib decompression failed"
  | frameSize size announced =>
    s!"compressed frame inflated to {size} bytes, header says {announced}"
  | greetingVersion version => s!"unsupported protocol version {version}"
  | notMoreData => "AuthMoreData: unexpected header"
  | strayAuthPacket lead => s!"unexpected packet during authentication: {firstByte lead}"
  | strayShaData lead => s!"caching_sha2_password: unexpected AuthMoreData {firstByte lead}"
  | strayAuthData plugin => s!"{plugin}: unexpected AuthMoreData"
  | handshakeOver phase => s!"handshake step in state {phase.name}"
  | handshakeUnfinished phase => s!"handshake not finished (state {phase.name})"
  | responseBeforeGreeting => "handshake response before greeting"
  | dataBeforePlugin => "AuthMoreData before plugin selection"
  | stated text => text

/-- How the socket, its address or a file fails. -/
inductive IoFault where
  | endOfStream
  | notConnected
  | brokenPipe
  | timedOut
  | badFrame (fault : ProtocolFault)
  | zeroTimeout
  | notFound
  | networkUnreachable
  | invalidArgument
  | nulInName
  | nulInPath
  | pathTooLong
  | isDirectory
  | notDirectory
  | noDevice
  | refused
  | nameTooLong
  | endlessWait
  | statedEnd (text : String)
  | statedData (text : String)

/-- The class of an I/O fault, for programs that react to it. -/
def IoFault.kind : IoFault → String
  | endOfStream | statedEnd _ => "UnexpectedEof"
  | notConnected => "NotConnected"
  | brokenPipe => "BrokenPipe"
  | timedOut => "WouldBlock"
  | badFrame _ | statedData _ => "InvalidData"
  | zeroTimeout | invalidArgument | nulInName | nulInPath | pathTooLong => "InvalidInput"
  | notFound => "NotFound"
  | networkUnreachable => "NetworkUnreachable"
  | isDirectory => "IsADirectory"
  | notDirectory => "NotADirectory"
  | noDevice => "Uncategorized"
  | refused => "ConnectionRefused"
  | nameTooLong => "InvalidFilename"
  | endlessWait => "TimedOut"

def IoFault.message : IoFault → String
  | endOfStream => "failed to fill whole buffer"
  | notConnected => "connection closed"
  | brokenPipe => "Broken pipe (os error 32)"
  | timedOut => "Resource temporarily unavailable (os error 11)"
  | badFrame fault => "Protocol error: " ++ fault.message
  | zeroTimeout => "cannot set a 0 duration timeout"
  | notFound => "No such file or directory (os error 2)"
  | networkUnreachable => "Network is unreachable (os error 101)"
  | invalidArgument => "Invalid argument (os error 22)"
  | nulInName => "file name contained an unexpected NUL byte"
  | nulInPath => "paths must not contain interior null bytes"
  | pathTooLong => "path must be shorter than SUN_LEN"
  | isDirectory => "Is a directory (os error 21)"
  | notDirectory => "Not a directory (os error 20)"
  | noDevice => "No such device or address (os error 6)"
  | refused => "Connection refused (os error 111)"
  | nameTooLong => "File name too long (os error 36)"
  | endlessWait => "nothing ends the wait for the server"
  | statedEnd text => text
  | statedData text => text

/-- Why the client refuses to go on with authentication. -/
inductive AuthFault where
  | noGssapiProvider
  | unsupportedPlugin (name : String)
  | cleartextRefused
  | noPrincipal
  | fullAuthNeedsTls
  | noToken
  | tokenWithoutPayload
  | tokenPayload
  | tokenClaims
  | noExpiry
  | stated (text : String)

def AuthFault.message : AuthFault → String
  | noGssapiProvider => "server requested auth_gssapi_client but no GSSAPI provider is configured"
  | unsupportedPlugin name =>
    s!"Client does not support authentication protocol requested by server: {name}"
  | cleartextRefused => "mysql_clear_password requires TLS (or enable_cleartext_plugin)"
  | noPrincipal =>
    "No principal name defined on server. Please set server variable " ++
      "\"gssapi-principal-name\" or set option service_principal_name"
  | fullAuthNeedsTls => "caching_sha2_password full authentication requires TLS"
  | noToken => "SSO credential has no token"
  | tokenWithoutPayload => "malformed JWT: missing payload"
  | tokenPayload => "malformed JWT payload"
  | tokenClaims => "malformed JWT claims"
  | noExpiry => "JWT has no exp claim"
  | stated text => text

/-- Why a call cannot be answered. -/
inductive UsageFault where
  | tooManyParameters (count : Nat)
  | placeholderCount (placeholders parameters : Nat)
  | closedStatement
  | prepareSeparately
  | nothingPending
  | nothingStreaming
  | noHost
  | localFilesDisabled
  | foreignFile (name : String)
  | unreadableFile (name : String) (fault : IoFault)
  | stated (text : String)

def UsageFault.message : UsageFault → String
  | tooManyParameters count => s!"too many parameters: {count}"
  | placeholderCount placeholders parameters =>
    s!"statement has {placeholders} placeholders but {parameters} parameters were given"
  | closedStatement => "prepared statement is closed"
  | prepareSeparately => "prepare statements with Conn::prepare"
  | nothingPending => "no response is pending"
  | nothingStreaming => "no streaming result is pending"
  | noHost => "host is empty"
  | localFilesDisabled => "LOCAL INFILE is disabled; enable it with allow_local_infile"
  | foreignFile name => s!"LOCAL INFILE asked for file {name} that does not match the query"
  | unreadableFile name fault => s!"could not read local file {name}: {fault.message}"
  | stated text => text

/-- The step of opening a session, or of bringing one back, that failed. -/
inductive ConnectFault where
  | socket (target : String)
  | handshake (target : String)
  | tlsNotOffered
  | setUp
  | replay
  | stated (text : String)

def ConnectFault.message : ConnectFault → String
  | socket target => s!"Socket fail to connect to {target}"
  | handshake target => s!"could not connect to {target}"
  | tlsNotOffered => "Trying to connect with ssl, but ssl not enabled in the server"
  | setUp => "Initialization command fail"
  | replay => "transaction replay failed"
  | stated text => text

/-- Features that this build does not have. -/
inductive MissingFeature where
  | tls
  | stated (text : String)

def MissingFeature.message : MissingFeature → String
  | tls => "TLS requested but the tls feature is not enabled"
  | stated text => text

end SqlWire
