import Mathlib.Algebra.Group.Nat.Defs
import SqlWire.Handshake.Response
import SqlWire.Proofs.Fields

/-!
# Responses to the greeting, as a server reads them

The capabilities that a response begins with tell the server what follows (`Received.read`). It reads
back what the client has written, up to the last byte, as long as no name has a NUL in it
(`read_bytes`). Only the bytes of the plugin may come back shortened: without `lengthEncodedAuth`
there is one byte for their length, and the client sends no more than it can count.
-/

namespace SqlWire.Handshake

open SqlWire.Field

/-! ## What the server reads -/

/-- What a server has read of a response. -/
structure Received where
  capabilities : UInt32
  maxPacket : UInt32
  charset : UInt8
  user : String
  authResponse : Bytes
  database : Option String
  plugin : Option String
  attributes : Option (List (String × String))
  deriving DecidableEq

/-- Names and values, up to the end of the data. -/
def readAttributes (data : Bytes) : Option (List (String × String)) :=
  if data.isEmpty then some []
  else
    match _name : readLenEncText data with
    | .error _ => none
    | .ok (name, behind) =>
      match _value : readLenEncText behind with
      | .error _ => none
      | .ok (value, rest) => (readAttributes rest).map ((name, value) :: ·)
termination_by data.length
decreasing_by exact Nat.lt_trans (length_of_readLenEncText _value) (length_of_readLenEncText _name)

def readAttributeBlock (data : Bytes) : Option (List (String × String) × Bytes) := do
  let (block, rest) ← (readLenEncBytes data).toOption
  return (← readAttributes (← block), rest)

def readAuth (caps : Capabilities) (data : Bytes) : Option (Bytes × Bytes) := do
  if caps.has Capabilities.lengthEncodedAuth then
    let (auth, rest) ← (readLenEncBytes data).toOption
    return (← auth, rest)
  else
    let (size, rest) ← (readU8 data).toOption
    (readBytes size.toNat rest).toOption

def readName (data : Bytes) : Option (String × Bytes) := (readTerminatedText data).toOption

/-- A field that is there if its capability is. -/
def readWhen {α : Type} (announced : Bool) (read : Bytes → Option (α × Bytes)) (data : Bytes) :
    Option (Option α × Bytes) :=
  if announced then (read data).map fun (a, rest) => (some a, rest) else some (none, data)

/-- A response, and what is left behind it. -/
def Received.read (data : Bytes) : Option (Received × Bytes) := do
  let (low, data) ← (readU32 data).toOption
  let (maxPacket, data) ← (readU32 data).toOption
  let (charset, data) ← (readU8 data).toOption
  let (_, data) ← (readBytes 23 data).toOption
  let (user, data) ← readName data
  let caps : Capabilities := ⟨low.toUInt64⟩
  let (authResponse, data) ← readAuth caps data
  let (database, data) ← readWhen (caps.has Capabilities.connectWithDatabase) readName data
  let (plugin, data) ← readWhen (caps.has Capabilities.pluginAuth) readName data
  let (attributes, rest) ← readWhen (caps.has Capabilities.connectAttributes) readAttributeBlock data
  return (⟨low, maxPacket, charset, user, authResponse, database, plugin, attributes⟩, rest)

/-! ## Each field is read back -/

variable {rest : Bytes}

/-- The low half of the capabilities keeps the flags that are in it. -/
theorem has_low {caps : Capabilities} {flag : UInt64} (low : flag.toNat < 2 ^ 32) :
    Capabilities.has ⟨caps.low.toUInt64⟩ flag = caps.has flag := by
  have same : caps.low.toUInt64 &&& flag = caps.bits &&& flag := by
    apply UInt64.toNat_inj.mp
    rw [UInt64.toNat_and, UInt64.toNat_and, UInt32.toNat_toUInt64]
    unfold Capabilities.low
    rw [UInt64.toNat_toUInt32]
    apply Nat.eq_of_testBit_eq
    intro i
    rw [Nat.testBit_and, Nat.testBit_and, Nat.testBit_mod_two_pow]
    by_cases inside : i < 32
    · simp [inside]
    · have : flag.toNat.testBit i = false :=
        Nat.testBit_lt_two_pow (Nat.lt_of_lt_of_le low (Nat.pow_le_pow_right (by decide) (by omega)))
      simp [this]
  unfold Capabilities.has
  rw [same]

theorem readAttributes_of_texts {name value : String} {data behind : Bytes}
    (first : readLenEncText data = .ok (name, behind))
    (second : readLenEncText behind = .ok (value, rest)) :
    readAttributes data = (readAttributes rest).map ((name, value) :: ·) := by
  have some : data.isEmpty = false := by
    cases data with
    | nil => cases first
    | cons => rfl
  rw [readAttributes, some, if_neg Bool.false_ne_true]
  split
  · next error => rw [first] at error; cases error
  · next eq =>
    cases first.symm.trans eq
    split
    · next error => rw [second] at error; cases error
    · next eq =>
      cases second.symm.trans eq
      rfl

theorem readAttributes_attributeBytes {attributes : List (String × String)}
    (fits : (attributeBytes attributes).length < UInt64.size) :
    readAttributes (attributeBytes attributes) = some attributes := by
  induction attributes with
  | nil =>
    unfold readAttributes
    rfl
  | cons pair attributes ih =>
    obtain ⟨name, value⟩ := pair
    have pieces : attributeBytes ((name, value) :: attributes) =
        lenEncText name ++ (lenEncText value ++ attributeBytes attributes) := List.append_assoc ..
    rw [pieces] at fits ⊢
    have bounds := fits
    simp only [List.length_append, lenEncText, lenEncBytes] at bounds
    have first : readLenEncText (lenEncText name ++ (lenEncText value ++ attributeBytes attributes)) =
        .ok (name, _) := readLenEncText_lenEncText (by omega)
    have second : readLenEncText (lenEncText value ++ attributeBytes attributes) = .ok (value, _) :=
      readLenEncText_lenEncText (by omega)
    rw [readAttributes_of_texts first second, ih (by omega)]
    rfl

theorem readAttributeBlock_attributeBytes {attributes : List (String × String)}
    (fits : (attributeBytes attributes).length < UInt64.size) :
    readAttributeBlock (lenEncBytes (attributeBytes attributes) ++ rest) = some (attributes, rest) := by
  unfold readAttributeBlock
  rw [readLenEncBytes_lenEncBytes fits]
  simp [Except.toOption, readAttributes_attributeBytes fits]

theorem readName_terminatedText {name : String} (plain : 0 ∉ Text.encode name) :
    readName (terminatedText name ++ rest) = some (name, rest) := by
  unfold readName
  rw [readTerminatedText_terminatedText plain]
  rfl

theorem readWhen_eq {α : Type} (announced : Bool) {read : Bytes → Option (α × Bytes)} {written : Bytes}
    {a : α} (back : read (written ++ rest) = some (a, rest)) :
    readWhen announced read ((if announced then written else []) ++ rest) =
      some (if announced then some a else none, rest) := by
  cases announced with
  | true => simp [readWhen, back]
  | false => rfl

namespace Response

/-- The bytes of the plugin that are sent. -/
def sentAuth (r : Response) : Bytes :=
  if r.capabilities.has Capabilities.lengthEncodedAuth then r.authResponse
  else r.authResponse.take 255

theorem readAuth_authBytes {r : Response} {caps : Capabilities}
    (same : caps.has Capabilities.lengthEncodedAuth =
      r.capabilities.has Capabilities.lengthEncodedAuth)
    (fits : r.authResponse.length < UInt64.size) :
    readAuth caps (r.authBytes ++ rest) = some (r.sentAuth, rest) := by
  unfold readAuth authBytes sentAuth
  rw [same]
  by_cases counted : r.capabilities.has Capabilities.lengthEncodedAuth = true
  · simp [counted, readLenEncBytes_lenEncBytes fits, Except.toOption]
  · have short : (r.authResponse.take 255).length ≤ 255 := List.length_take_le ..
    have size : (UInt8.ofNat (r.authResponse.take 255).length).toNat =
        (r.authResponse.take 255).length := by
      rw [UInt8.toNat_ofNat']
      omega
    simp only [counted, if_false, Bool.false_eq_true, List.cons_append, readU8_cons, Except.toOption,
      Option.bind_eq_bind, Option.bind_some, size, readBytes_append]

/-- No name has a NUL in it, and what is sent after its length can be counted. -/
structure Plain (r : Response) : Prop where
  user : 0 ∉ Text.encode r.user
  database : 0 ∉ Text.encode (r.database.getD "")
  plugin : 0 ∉ Text.encode r.plugin
  auth : r.authResponse.length < UInt64.size
  attributes : (attributeBytes r.attributes).length < UInt64.size

/-- What a server is to read of a response. -/
def received (r : Response) : Received where
  capabilities := r.capabilities.low
  maxPacket := r.maxPacket
  charset := r.charset
  user := r.user
  authResponse := r.sentAuth
  database :=
    if r.capabilities.has Capabilities.connectWithDatabase then some (r.database.getD "") else none
  plugin := if r.capabilities.has Capabilities.pluginAuth then some r.plugin else none
  attributes := if r.capabilities.has Capabilities.connectAttributes then some r.attributes else none

theorem read_bytes_append {r : Response} (plain : r.Plain) :
    Received.read (r.bytes ++ rest) = some (r.received, rest) := by
  have filler (rest : Bytes) : readBytes 23 (List.replicate 23 0 ++ rest) =
      .ok (List.replicate 23 0, rest) := readBytes_append (List.replicate 23 0)
  have user (rest : Bytes) : readName (terminatedText r.user ++ rest) = some (r.user, rest) :=
    readName_terminatedText plain.user
  have auth (rest : Bytes) : readAuth ⟨r.capabilities.low.toUInt64⟩ (r.authBytes ++ rest) =
      some (r.sentAuth, rest) := readAuth_authBytes (has_low (by decide)) plain.auth
  have database (rest : Bytes) := readWhen_eq (r.capabilities.has Capabilities.connectWithDatabase)
    (readName_terminatedText plain.database : _ = some (_, rest))
  have plugin (rest : Bytes) := readWhen_eq (r.capabilities.has Capabilities.pluginAuth)
    (readName_terminatedText plain.plugin : _ = some (_, rest))
  have attributes := readWhen_eq (r.capabilities.has Capabilities.connectAttributes)
    (readAttributeBlock_attributeBytes plain.attributes : _ = some (_, rest))
  have flag (flag : UInt64) (low : flag.toNat < 2 ^ 32) :
      Capabilities.has ⟨r.capabilities.low.toUInt64⟩ flag = r.capabilities.has flag := has_low low
  unfold Received.read bytes sslRequest
  simp only [List.append_assoc, List.cons_append, readU32_u32, readU8_cons, Except.toOption,
    Option.bind_eq_bind, Option.bind_some, filler, user, auth,
    flag Capabilities.connectWithDatabase (by decide), flag Capabilities.pluginAuth (by decide),
    flag Capabilities.connectAttributes (by decide), database, plugin, attributes, Option.pure_def]
  rfl

theorem read_of_plain {r : Response} (plain : r.Plain) :
    Received.read r.bytes = some (r.received, []) := by
  rw [← List.append_nil r.bytes]
  exact read_bytes_append plain

theorem sentAuth_eq_iff (r : Response) : r.sentAuth = r.authResponse ↔
    r.capabilities.has Capabilities.lengthEncodedAuth = true ∨ r.authResponse.length ≤ 255 := by
  unfold sentAuth
  by_cases counted : r.capabilities.has Capabilities.lengthEncodedAuth = true
  · simp [counted]
  · rw [if_neg counted, or_iff_right counted]
    refine ⟨fun whole => ?_, List.take_of_length_le⟩
    rw [← whole]
    exact List.length_take_le ..

/-- A server reads back user, database, plugin, attributes and every byte of the response, whatever
the capabilities. It has the bytes of the plugin exactly if their length is encoded or fits into a
byte; else it has the first 255 of them, and cannot tell. -/
theorem read_bytes {r : Response} (plain : r.Plain) :
    ∃ received, Received.read r.bytes = some (received, []) ∧
      received.capabilities = r.capabilities.low ∧ received.user = r.user ∧
      received.database = (if r.capabilities.has Capabilities.connectWithDatabase then
        some (r.database.getD "") else none) ∧
      received.plugin = (if r.capabilities.has Capabilities.pluginAuth then some r.plugin else none) ∧
      received.attributes = (if r.capabilities.has Capabilities.connectAttributes then
        some r.attributes else none) ∧
      received.authResponse = (if r.capabilities.has Capabilities.lengthEncodedAuth then
        r.authResponse else r.authResponse.take 255) ∧
      (received.authResponse = r.authResponse ↔
        r.capabilities.has Capabilities.lengthEncodedAuth = true ∨ r.authResponse.length ≤ 255) :=
  ⟨r.received, read_of_plain plain, rfl, rfl, rfl, rfl, rfl, rfl, r.sentAuth_eq_iff⟩

/-- A token of 256 bytes for a server that counts in one byte. -/
def longToken : Response where
  capabilities := ⟨Capabilities.protocol41 ||| Capabilities.secureConnection |||
    Capabilities.connectWithDatabase ||| Capabilities.pluginAuth ||| Capabilities.connectAttributes⟩
  maxPacket := clientMaxPacket
  charset := clientCharset
  user := "root"
  authResponse := List.replicate 256 0x61
  database := some "db"
  plugin := "mysql_clear_password"
  attributes := [("_os", "linux")]

theorem length_longToken : longToken.authResponse.length = 256 := List.length_replicate

theorem read_bytes_longToken : ∃ received, Received.read longToken.bytes = some (received, []) ∧
    received.user = "root" ∧ received.database = some "db" ∧
    received.authResponse = List.replicate 255 0x61 ∧ received.authResponse ≠ longToken.authResponse := by
  obtain ⟨received, read, -, user, database, -, -, sent, whole⟩ :=
    read_bytes (r := longToken)
      ⟨by decide, by decide, by decide, by rw [length_longToken]; decide, by decide⟩
  have cut : received.authResponse = List.replicate 255 0x61 := by
    rw [sent, if_neg (by decide)]
    exact List.take_replicate
  refine ⟨received, read, user, database, cut, fun all => ?_⟩
  rcases whole.mp all with counted | short
  · exact absurd counted (by decide)
  · rw [length_longToken] at short
    exact absurd short (by decide)

end Response

end SqlWire.Handshake
