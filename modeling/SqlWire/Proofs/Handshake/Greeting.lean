import SqlWire.Handshake.Greeting
import SqlWire.Proofs.Fields

/-!
# Greetings, as a server sends them

A greeting of today's servers has all its fields: the capabilities in two halves, the seed in two parts
with a NUL behind the second one, and the plugin's name with a NUL behind it or without. It is read back
as it was sent (`parse_bytes`). The size of the second part of the seed is not sent as such, but with
the first part and the NUL; a server announces 21 at least.

Nothing is known of a packet that anyone else may have made up. `parse?` is `parse` with `none` for a
slice that goes beyond the end of what is left: there is none (`bounded_parse`). What such a packet is
refused for is `Refused`.
-/

namespace SqlWire.Handshake

open SqlWire.Field

/-! ## Greetings that were sent -/

/-- A greeting as a server sends it, with what is not looked at. -/
structure SentGreeting where
  version : String
  threadId : UInt32
  firstSeed : Bytes
  filler : UInt8
  capabilities : UInt32
  charset : UInt8
  status : UInt16
  reserved : Bytes
  secondSeed : Bytes
  plugin : String
  /-- There is a NUL behind the name of the plugin. -/
  nulBehind : Bool

namespace SentGreeting

def caps (sent : SentGreeting) : Capabilities := ⟨sent.capabilities.toUInt64⟩

/-- The size of both parts of the seed with the NUL. -/
def announced (sent : SentGreeting) : UInt8 := UInt8.ofNat (8 + sent.secondSeed.length + 1)

def pluginBytes (sent : SentGreeting) : Bytes :=
  if sent.caps.has Capabilities.pluginAuth then
    if sent.nulBehind then terminatedText sent.plugin else Text.encode sent.plugin
  else []

def bytes (sent : SentGreeting) : Bytes :=
  10 :: (terminatedText sent.version ++ (u32 sent.threadId ++ (sent.firstSeed ++ (sent.filler ::
    (u16 sent.capabilities.toUInt16 ++ (sent.charset :: (u16 sent.status ++
      (u16 (sent.capabilities >>> 16).toUInt16 ++ (sent.announced :: (sent.reserved ++
        (terminated sent.secondSeed ++ sent.pluginBytes)))))))))))

/-- The sizes and the texts are those of a server that sends its seed in two parts. -/
structure Proper (sent : SentGreeting) : Prop where
  version : 0 ∉ Text.encode sent.version
  firstSeed : sent.firstSeed.length = 8
  reserved : sent.reserved.length = 10
  secure : sent.caps.has Capabilities.secureConnection = true
  least : 12 ≤ sent.secondSeed.length
  most : sent.secondSeed.length ≤ 246
  plugin : sent.caps.has Capabilities.pluginAuth = true → 0 ∉ Text.encode sent.plugin

/-- What a client is to read. -/
def greeting (sent : SentGreeting) : Greeting where
  protocolVersion := 10
  serverVersion := sent.version
  threadId := sent.threadId
  seed := sent.firstSeed ++ sent.secondSeed
  capabilities := sent.caps
  charset := sent.charset
  status := ⟨sent.status⟩
  plugin := if sent.caps.has Capabilities.pluginAuth then sent.plugin else ""

variable {sent : SentGreeting}

/-- The two halves of the capabilities. -/
theorem halves (v : UInt32) :
    v.toUInt16.toUInt64 ||| ((v >>> 16).toUInt16.toUInt64 <<< 16) = v.toUInt64 := by
  have bound := v.toNat_lt
  have low : v.toUInt16.toUInt64.toNat = v.toNat % 2 ^ 16 := rfl
  have high : ((v >>> 16).toUInt16.toUInt64 <<< 16).toNat = (v.toNat / 2 ^ 16) <<< 16 := by
    have half : (v >>> 16).toUInt16.toUInt64.toNat = v.toNat / 2 ^ 16 := by
      rw [UInt16.toNat_toUInt64, UInt32.toNat_toUInt16, UInt32.toNat_shiftRight]
      show v.toNat >>> 16 % 2 ^ 16 = _
      rw [Nat.shiftRight_eq_div_pow]
      omega
    rw [UInt64.toNat_shiftLeft, half]
    show (v.toNat / 2 ^ 16) <<< 16 % 2 ^ 64 = _
    rw [Nat.shiftLeft_eq]
    omega
  apply UInt64.toNat_inj.mp
  rw [UInt64.toNat_or, low, high, Nat.or_comm, ← Nat.shiftLeft_add_eq_or_of_lt (by omega),
    Nat.shiftLeft_eq, UInt32.toNat_toUInt64]
  omega

theorem stripNul_terminated (bytes : Bytes) : stripNul (terminated bytes) = bytes := by
  unfold stripNul terminated
  simp

theorem secondSeedSize_announced (proper : sent.Proper) (rest : Bytes) :
    secondSeedSize sent.announced.toNat (terminated sent.secondSeed ++ rest).length =
      (terminated sent.secondSeed).length := by
  have least := proper.least
  have most := proper.most
  unfold secondSeedSize announced firstSeedSize terminated
  rw [UInt8.toNat_ofNat']
  simp only [List.length_append, List.length_singleton]
  omega

theorem pluginName_pluginBytes (proper : sent.Proper)
    (named : sent.caps.has Capabilities.pluginAuth = true) : pluginName sent.pluginBytes = sent.plugin := by
  unfold pluginName pluginBytes
  rw [if_pos named]
  cases sent.nulBehind with
  | true =>
    have read : readTerminated (terminatedText sent.plugin) = .ok (Text.encode sent.plugin, []) := by
      rw [← List.append_nil (terminatedText sent.plugin)]
      exact readTerminated_terminated (proper.plugin named)
    simp only [if_true, read]
    exact Text.decodeLossy_encode sent.plugin
  | false =>
    have read : readTerminated (Text.encode sent.plugin) = .error .unterminated :=
      readTerminated_of_not_mem (proper.plugin named)
    simp only [Bool.false_eq_true, if_false, read]
    exact Text.decodeLossy_encode sent.plugin

theorem parse_bytes (proper : sent.Proper) : Greeting.parse sent.bytes = .ok sent.greeting := by
  have version (rest : Bytes) : readTerminatedText (terminatedText sent.version ++ rest) =
      .ok (sent.version, rest) := readTerminatedText_terminatedText proper.version
  have firstSeed (rest : Bytes) : readBytes firstSeedSize (sent.firstSeed ++ rest) =
      .ok (sent.firstSeed, rest) := take_append proper.firstSeed
  have reserved (rest : Bytes) : readBytes 10 (sent.reserved ++ rest) = .ok (sent.reserved, rest) :=
    take_append proper.reserved
  have secondSeed : readBytes (secondSeedSize sent.announced.toNat
      (terminated sent.secondSeed ++ sent.pluginBytes).length)
      (terminated sent.secondSeed ++ sent.pluginBytes) =
        .ok (terminated sent.secondSeed, sent.pluginBytes) := by
    rw [secondSeedSize_announced proper]
    exact readBytes_append _
  have plugin : (if sent.caps.has Capabilities.pluginAuth then pluginName sent.pluginBytes else "") =
      if sent.caps.has Capabilities.pluginAuth then sent.plugin else "" := by
    split
    · next named => exact pluginName_pluginBytes proper named
    · rfl
  have known : ((10 : UInt8) != 10) = false := rfl
  have secure : Capabilities.has ⟨sent.capabilities.toUInt64⟩ Capabilities.secureConnection = true :=
    proper.secure
  unfold Greeting.parse bytes
  simp only [bind, Except.bind, readU8_cons, known, version, readU32_u32, firstSeed, readU16_u16,
    List.isEmpty_cons, reserved, halves, secure, secondSeed, stripNul_terminated, Bool.false_eq_true,
    if_false, if_true]
  unfold greeting
  rw [← plugin]
  rfl

end SentGreeting

/-! ## Any packet -/

/-- A reading in which a slice may go beyond the end of what it is taken from. -/
abbrev Sliced := ExceptT ProtocolFault Option

/-- The bytes from one place up to another, if the places are in this order and there are as many. -/
def slice? (start stop : Nat) (data : Bytes) : Option Bytes :=
  if start ≤ stop ∧ stop ≤ data.length then some ((data.drop start).take (stop - start)) else none

def take? (field : FixedField) (n : Nat) (data : Bytes) : Sliced (Bytes × Bytes) :=
  if data.length < n then throw (.short field data.length n)
  else return (← slice? 0 n data, ← slice? n data.length data)

def readU16? (data : Bytes) : Sliced (UInt16 × Bytes) := do
  let (bytes, rest) ← take? .u16 2 data
  return (UInt16.ofNat bytes.toNatLE, rest)

def readU32? (data : Bytes) : Sliced (UInt32 × Bytes) := do
  let (bytes, rest) ← take? .u32 4 data
  return (UInt32.ofNat bytes.toNatLE, rest)

def readTerminated? (data : Bytes) : Sliced (Bytes × Bytes) :=
  match data.idxOf? 0 with
  | none => throw .unterminated
  | some place => return (← slice? 0 place data, ← slice? (place + 1) data.length data)

def readTerminatedText? (data : Bytes) : Sliced (String × Bytes) := do
  let (bytes, rest) ← readTerminated? data
  return (← text .terminated bytes, rest)

def pluginName? (data : Bytes) : Sliced String :=
  tryCatch (do return Text.decodeLossy (← readTerminated? data).1)
    fun _ => return Text.decodeLossy data

def secondSeed? (caps : Capabilities) (announced : UInt8) (data : Bytes) : Sliced (Bytes × Bytes) :=
  if caps.has Capabilities.secureConnection then
    take? .bytes (min (max (announced.toNat - 8) 13) data.length) data
  else return ([], data)

def plugin? (caps : Capabilities) (data : Bytes) : Sliced String :=
  if caps.has Capabilities.pluginAuth then pluginName? data else return ""

/-- `Greeting.parse`, with `none` for a slice beyond the end. -/
def Greeting.parse? (packet : Bytes) : Sliced Greeting := do
  let (version, data) ← readU8 packet
  if version ≠ 10 then
    throw (.greetingVersion version)
  let (serverVersion, data) ← readTerminatedText? data
  let (threadId, data) ← readU32? data
  let (seed, data) ← take? .bytes 8 data
  let (_, data) ← readU8 data
  let (low, data) ← readU16? data
  if data.isEmpty then
    return ⟨version, serverVersion, threadId, seed, ⟨low.toUInt64⟩, 0, ⟨0⟩, ""⟩
  let (charset, data) ← readU8 data
  let (status, data) ← readU16? data
  let (high, data) ← readU16? data
  let (announced, data) ← readU8 data
  let (_, data) ← take? .bytes 10 data
  let caps : Capabilities := ⟨low.toUInt64 ||| (high.toUInt64 <<< 16)⟩
  let (second, data) ← secondSeed? caps announced data
  let plugin ← plugin? caps data
  return ⟨version, serverVersion, threadId, seed ++ stripNul second, caps, charset, ⟨status⟩, plugin⟩

/-- What a packet that is no greeting is refused for. -/
inductive Refused : ProtocolFault → Prop where
  | ended : Refused .noByte
  | short {field : FixedField} {left need : Nat} : left < need → Refused (.short field left need)
  | unterminated : Refused .unterminated
  | noText {fault : Text.Utf8Fault} : Refused (.notUtf8 .terminated fault)
  | unknown {version : UInt8} : version ≠ 10 → Refused (.greetingVersion version)

variable {α β : Type} {data rest : Bytes}

/-- A reading with slices takes none beyond the end: it gives what the reading without them gives. -/
structure Bounded (sliced : Sliced α) (read : Except ProtocolFault α) : Prop where
  eq : sliced.run = some read
  refused : ∀ {fault}, read = .error fault → Refused fault

namespace Bounded

theorem pure (a : α) : Bounded (pure a) (.ok a) := ⟨rfl, nofun⟩

theorem throw {fault : ProtocolFault} (h : Refused fault) :
    Bounded (throw fault) (.error fault : Except ProtocolFault α) :=
  ⟨rfl, fun eq => by cases eq; exact h⟩

/-- A reading that takes no slices. -/
theorem plain {read : Except ProtocolFault α} (refused : ∀ {fault}, read = .error fault → Refused fault) :
    Bounded (liftM read) read := ⟨rfl, refused⟩

theorem bind {sliced : Sliced α} {read : Except ProtocolFault α} {next? : α → Sliced β}
    {next : α → Except ProtocolFault β} (first : Bounded sliced read)
    (second : ∀ a, Bounded (next? a) (next a)) : Bounded (sliced >>= next?) (read >>= next) := by
  obtain ⟨eq, refused⟩ := first
  obtain rfl : sliced = ExceptT.mk (some read) := eq
  cases read with
  | error fault => exact ⟨rfl, fun eq => by cases eq; exact refused rfl⟩
  | ok a => exact second a

end Bounded

/-! ### Readers of fields -/

theorem slice?_front (front rest : Bytes) : slice? 0 front.length (front ++ rest) = some front := by
  unfold slice?
  rw [if_pos (by simp), List.drop_zero, Nat.sub_zero, List.take_left]

theorem slice?_behind (front rest : Bytes) :
    slice? front.length (front ++ rest).length (front ++ rest) = some rest := by
  unfold slice?
  rw [if_pos (by simp), List.drop_left, List.length_append, Nat.add_sub_cancel_left, List.take_length]

theorem bounded_readU8 : Bounded (liftM (readU8 data)) (readU8 data) := by
  refine .plain fun error => ?_
  cases data with
  | nil =>
    cases error
    exact .ended
  | cons b rest => cases error

theorem bounded_take (field : FixedField) (n : Nat) : Bounded (take? field n data) (take field n data) := by
  by_cases short : data.length < n
  · have cut : take field n data = .error (.short field data.length n) := by
      unfold take
      rw [List.take_of_length_le (Nat.le_of_lt short), if_pos short]
    rw [take?, if_pos short, cut]
    exact .throw (.short short)
  · obtain ⟨front, rest, rfl, rfl⟩ : ∃ front rest, data = front ++ rest ∧ front.length = n :=
      ⟨data.take n, data.drop n, (List.take_append_drop n data).symm,
        List.length_take_of_le (Nat.not_lt.mp short)⟩
    rw [take?, if_neg short, take_append rfl, slice?_front, slice?_behind]
    exact .pure _

theorem bounded_readU16 : Bounded (readU16? data) (readU16 data) :=
  .bind (bounded_take .u16 2) fun _ => .pure _

theorem bounded_readU32 : Bounded (readU32? data) (readU32 data) :=
  .bind (bounded_take .u32 4) fun _ => .pure _

theorem bounded_readTerminated : Bounded (readTerminated? data) (readTerminated data) := by
  by_cases mem : 0 ∈ data
  · obtain ⟨front, rest, rfl, plain⟩ := List.eq_append_cons_of_mem mem
    have place : (front ++ 0 :: rest).idxOf? 0 = some front.length := by
      have none : front.findIdx? (· == 0) = none :=
        List.findIdx?_eq_none_iff.mpr fun b mem => beq_false_of_ne fun zero => plain (zero ▸ mem)
      rw [List.idxOf?, List.findIdx?_append, none, List.findIdx?_cons]
      simp
    have behind :
        slice? (front.length + 1) (front ++ 0 :: rest).length (front ++ 0 :: rest) = some rest := by
      have parts : front ++ 0 :: rest = (front ++ [0]) ++ rest := List.append_cons ..
      have size : front.length + 1 = (front ++ [0]).length := by rw [List.length_append]; rfl
      rw [parts, size]
      exact slice?_behind (front ++ [0]) rest
    have read : readTerminated (front ++ 0 :: rest) = .ok (front, rest) := by
      rw [List.append_cons]
      exact readTerminated_terminated plain
    unfold readTerminated?
    rw [place, read]
    dsimp only
    rw [slice?_front, behind]
    exact .pure _
  · unfold readTerminated?
    rw [List.idxOf?_eq_none_iff.mpr mem, readTerminated_of_not_mem mem]
    exact .throw .unterminated

theorem bounded_readTerminatedText : Bounded (readTerminatedText? data) (readTerminatedText data) := by
  refine .bind bounded_readTerminated fun r => .bind (.plain fun error => ?_) fun _ => .pure _
  unfold Field.text at error
  split at error
  · cases error
  · cases error
    exact .noText

theorem bounded_pluginName : Bounded (pluginName? data) (.ok (pluginName data)) := by
  have bounded : Bounded (readTerminated? data) (readTerminated data) := bounded_readTerminated
  obtain ⟨eq, -⟩ := bounded
  unfold pluginName? pluginName
  generalize readTerminated? data = sliced at eq ⊢
  obtain rfl : sliced = ExceptT.mk (some (readTerminated data)) := eq
  cases readTerminated data <;> exact .pure _

theorem bounded_plugin (caps : Capabilities) : Bounded (plugin? caps data)
    (.ok (if caps.has Capabilities.pluginAuth then pluginName data else "")) := by
  unfold plugin?
  split
  · exact bounded_pluginName
  · exact .pure _

theorem bounded_parse (packet : Bytes) : Bounded (Greeting.parse? packet) (Greeting.parse packet) := by
  unfold Greeting.parse? Greeting.parse
  refine .bind bounded_readU8 fun (version, data) => ?_
  dsimp only
  by_cases known : version = 10
  · rw [if_neg (not_not_intro known), if_neg (by simp [known])]
    refine .bind bounded_readTerminatedText fun _ => .bind bounded_readU32 fun _ =>
      .bind (bounded_take .bytes 8) fun _ => .bind bounded_readU8 fun _ =>
        .bind bounded_readU16 fun low => ?_
    split
    · exact .pure _
    · refine .bind bounded_readU8 fun _ => .bind bounded_readU16 fun _ => .bind bounded_readU16 fun high =>
        .bind bounded_readU8 fun _ => .bind (bounded_take .bytes 10) fun _ => ?_
      unfold secondSeed?
      split
      · exact .bind (bounded_take .bytes _) fun _ => .bind (bounded_plugin _) fun _ => .pure _
      · exact .bind (.pure _) fun _ => .bind (bounded_plugin _) fun _ => .pure _
  · rw [if_pos known, if_pos (by simpa using known)]
    exact .throw (.unknown known)

/-- A greeting that a server has sent is read back as it was sent, with all bits of its capabilities.
Whatever a packet holds, no slice of it goes beyond its end: it is a greeting, or it is refused as one
that is cut off or not understood. -/
theorem Greeting.parse_spec :
    (∀ sent : SentGreeting, sent.Proper → Greeting.parse sent.bytes = .ok sent.greeting) ∧
    ∀ packet, (Greeting.parse? packet).run = some (Greeting.parse packet) ∧
      ((∃ greeting, Greeting.parse packet = .ok greeting) ∨
        ∃ fault, Greeting.parse packet = .error fault ∧ Refused fault) := by
  refine ⟨fun _ => SentGreeting.parse_bytes, fun packet => ⟨(bounded_parse packet).eq, ?_⟩⟩
  cases read : Greeting.parse packet with
  | ok greeting => exact .inl ⟨greeting, rfl⟩
  | error fault => exact .inr ⟨fault, rfl, (bounded_parse packet).refused read⟩

/-- A seed of 27 bytes with a NUL in it, bits in both halves of the capabilities, and no NUL behind the
plugin's name. -/
def longSeed : SentGreeting where
  version := "8.0.32"
  threadId := 0x01020304
  firstSeed := [0, 1, 2, 3, 4, 5, 6, 7]
  filler := 0
  capabilities := 0x81088005
  charset := 45
  status := 0x0002
  reserved := List.replicate 10 0
  secondSeed := [8, 9, 0, 11, 12, 13, 14, 15, 16, 17, 18, 19, 20, 21, 22, 23, 24, 25, 26]
  plugin := "caching_sha2_password"
  nulBehind := false

theorem Greeting.parse_longSeed : Greeting.parse longSeed.bytes =
    .ok ⟨10, "8.0.32", 0x01020304,
      [0, 1, 2, 3, 4, 5, 6, 7, 8, 9, 0, 11, 12, 13, 14, 15, 16, 17, 18, 19, 20, 21, 22, 23, 24, 25, 26],
      ⟨0x81088005⟩, 45, ⟨2⟩, "caching_sha2_password"⟩ := by
  obtain ⟨read, -⟩ := Greeting.parse_spec
  exact read longSeed ⟨by decide, by decide, by decide, by decide, by decide, by decide, by decide⟩

end SqlWire.Handshake
