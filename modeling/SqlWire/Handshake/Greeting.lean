import SqlWire.Reply.Ok

/-!
# The greeting

The first packet of a connection: the server's version, a seed in two parts, its capabilities and
the plugin it would like to authenticate with. A server may leave out everything behind the low half
of the capabilities.
-/

namespace SqlWire.Handshake

/-- What a server says about itself. -/
structure Greeting where
  protocolVersion : UInt8
  serverVersion : String
  threadId : UInt32
  /-- Both parts of the seed, without the NUL behind them. -/
  seed : Bytes
  capabilities : Capabilities
  charset : UInt8
  status : Status
  plugin : String
  deriving DecidableEq, Repr

def firstSeedSize : Nat := 8

/-- Bytes that the second part of the seed takes: what the announced length leaves, at least
thirteen, and no more than there are. -/
def secondSeedSize (announced left : Nat) : Nat := min (max (announced - firstSeedSize) 13) left

/-- The plugin's name: up to its NUL, or all that is left. -/
def pluginName (data : Bytes) : String :=
  match Field.readTerminated data with
  | .ok (name, _) => Text.decodeLossy name
  | .error _ => Text.decodeLossy data

def Greeting.parse (packet : Bytes) : Except ProtocolFault Greeting := do
  let (version, data) ← Field.readU8 packet
  if version != 10 then
    throw (.greetingVersion version)
  let (serverVersion, data) ← Field.readTerminatedText data
  let (threadId, data) ← Field.readU32 data
  let (seed, data) ← Field.readBytes firstSeedSize data
  let (_, data) ← Field.readU8 data
  let (low, data) ← Field.readU16 data
  if data.isEmpty then
    return ⟨version, serverVersion, threadId, seed, ⟨low.toUInt64⟩, 0, ⟨0⟩, ""⟩
  let (charset, data) ← Field.readU8 data
  let (status, data) ← Field.readU16 data
  let (high, data) ← Field.readU16 data
  let (announced, data) ← Field.readU8 data
  let (_, data) ← Field.readBytes 10 data
  let caps : Capabilities := ⟨low.toUInt64 ||| (high.toUInt64 <<< 16)⟩
  let (second, data) ←
    if caps.has Capabilities.secureConnection then
      Field.readBytes (secondSeedSize announced.toNat data.length) data
    else pure ([], data)
  let plugin := if caps.has Capabilities.pluginAuth then pluginName data else ""
  return ⟨version, serverVersion, threadId, seed ++ Field.stripNul second, caps, charset, ⟨status⟩,
    plugin⟩

end SqlWire.Handshake
