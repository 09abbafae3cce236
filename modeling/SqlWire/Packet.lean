import SqlWire.Error
import SqlWire.Run

/-!
# Packets

A packet is a size of three bytes, a sequence number and that many bytes. A payload of `maxPayload`
bytes or more goes on in further packets; the first packet that is not full ends it, so a payload
of an exact multiple ends with an empty packet. Sequence numbers wrap at 256.

`write` frames a payload behind what is pending and hands the pending bytes on whenever they reach
`flushThreshold` (`writeFrom` leaves open what is done with them then); `read` puts a payload
together again. Both keep the sequence number also when they fail. A `Source` is what `read` takes
bytes from; `supply` bounds what it can still give, which is why reading ends.
-/

namespace SqlWire.Packet

/-- The size and the sequence number at the front of a packet. -/
structure Header where
  size : Nat
  sequence : UInt8
  deriving DecidableEq, Repr

def Header.length : Nat := 4

def Header.bytes (header : Header) : Bytes := Bytes.ofNatLE 3 header.size ++ [header.sequence]

/-- Reads a header of exactly four bytes. -/
def Header.parse? : Bytes → Option Header
  | [b₀, b₁, b₂, sequence] => some ⟨Bytes.toNatLE [b₀, b₁, b₂], sequence⟩
  | _ => none

def checkSequence (expected received : UInt8) : Except ProtocolFault UInt8 :=
  if received == expected then .ok (expected + 1) else .error (.outOfOrder expected received)

/-- Pending bytes are handed on once there are this many. -/
def flushThreshold : Nat := maxPayload

/-- Outgoing bytes: those pending, the next sequence number and where they are handed on to. -/
structure Outgoing (σ : Type) where
  pending : ByteArray
  sequence : UInt8
  sink : σ

/-- What takes the pending bytes off: it leaves what stays pending, and where they went. -/
abbrev Flush (σ : Type) := EStateM Error (ByteArray × σ) Unit

section Writing

variable {σ : Type} {send : ByteArray → EStateM Error σ Unit}

/-- Hands all pending bytes on. They stay pending when that fails. -/
def handOn (send : ByteArray → EStateM Error σ Unit) : Flush σ := fun (pending, sink) =>
  match send pending sink with
  | .ok () sink => .ok () (ByteArray.empty, sink)
  | .error e sink => .error e (pending, sink)

def Outgoing.flush (flush : Flush σ) (o : Outgoing σ) : EStateM.Result Error (Outgoing σ) Unit :=
  match flush (o.pending, o.sink) with
  | .ok () (pending, sink) => .ok () { o with pending, sink }
  | .error e (pending, sink) => .error e { o with pending, sink }

/-- Takes the pending bytes off once there are many of them. -/
def Outgoing.relieve (flush : Flush σ) (o : Outgoing σ) : EStateM.Result Error (Outgoing σ) Unit :=
  if flushThreshold ≤ o.pending.size then o.flush flush else .ok () o

/-- Frames the payload from `offset` on. A packet that would reach `limit` is refused before it is
framed; the connection must be given up if an earlier packet of the payload was framed. -/
def writeFrom (flush : Flush σ) (payload : ByteArray) (limit : Option Nat) (offset : Nat) :
    EStateM Error (Outgoing σ) Unit := fun o =>
  let size := min maxPayload (payload.size - offset)
  match limit.filter (· ≤ offset + size) with
  | some max => .error (.tooLarge payload.size max (offset != 0)) o
  | none =>
    let header := Header.bytes ⟨size, o.sequence⟩
    let pending := o.pending ++ header.toWire ++ payload.extract offset (offset + size)
    match { o with pending, sequence := o.sequence + 1 }.relieve flush with
    | .error e o => .error e o
    | .ok () o =>
      if size < maxPayload then .ok () o
      else writeFrom flush payload limit (offset + size) o
termination_by payload.size - offset
decreasing_by simp only [maxPayload] at *; omega

def write (send : ByteArray → EStateM Error σ Unit) (payload : ByteArray) (limit : Option Nat) :
    EStateM Error (Outgoing σ) Unit :=
  writeFrom (handOn send) payload limit 0

theorem Outgoing.flush_handOn (o : Outgoing σ) :
    o.flush (handOn send) = match send o.pending o.sink with
      | .ok () sink => .ok () { o with pending := ByteArray.empty, sink }
      | .error e sink => .error e { o with sink } := by
  unfold Outgoing.flush handOn
  dsimp only
  cases send o.pending o.sink <;> rfl

theorem flush_sink {P : σ → Prop} (kept : ∀ bytes s, P s → P (send bytes s).state)
    (o : Outgoing σ) (start : P o.sink) : P (o.flush (handOn send)).state.sink := by
  have := kept o.pending o.sink start
  rw [Outgoing.flush_handOn]
  split <;> next eq => rw [eq] at this; exact this

theorem relieve_sink {P : σ → Prop} (kept : ∀ bytes s, P s → P (send bytes s).state)
    (o : Outgoing σ) (start : P o.sink) : P (o.relieve (handOn send)).state.sink := by
  unfold Outgoing.relieve
  split
  · exact flush_sink kept o start
  · exact start

/-- Framing a payload changes the sink only through `send`. -/
theorem writeFrom_sink {P : σ → Prop} (kept : ∀ bytes s, P s → P (send bytes s).state)
    (payload : ByteArray) (limit : Option Nat) (offset : Nat) (o : Outgoing σ) (start : P o.sink) :
    P (writeFrom (handOn send) payload limit offset o).state.sink := by
  fun_induction writeFrom (handOn send) payload limit offset o with
  | case1 => exact start
  | case2 offset o size _ header pending e o' eq =>
    have := relieve_sink kept { o with pending, sequence := o.sequence + 1 } start
    rw [eq] at this
    exact this
  | case3 offset o size _ header pending o' eq =>
    have := relieve_sink kept { o with pending, sequence := o.sequence + 1 } start
    rw [eq] at this
    exact this
  | case4 offset o size _ header pending o' eq _ ih =>
    have := relieve_sink kept { o with pending, sequence := o.sequence + 1 } start
    rw [eq] at this
    exact ih this

end Writing

/-- Something that bytes can be taken from: `pull n` gives exactly `n` bytes or fails, and `supply`
bounds the bytes that are left. -/
structure Source (σ : Type) where
  pull : Nat → EStateM Error σ ByteArray
  supply : σ → Nat
  supply_pull : ∀ {n s bytes s'}, pull n s = .ok bytes s' → supply s' + n ≤ supply s

/-- Incoming bytes: the next sequence number and where they come from. -/
structure Incoming (σ : Type) where
  sequence : UInt8
  source : σ

/-- Puts the rest of a payload together behind `out`. -/
def readOnto {σ : Type} (source : Source σ) (out : ByteArray) (i : Incoming σ) :
    EStateM.Result Error (Incoming σ) ByteArray :=
  match _head : source.pull Header.length i.source with
  | .error e s => .error e { i with source := s }
  | .ok head s =>
    match Header.parse? (Bytes.ofWire head) with
    | none => .error (.protocol .headerSize) { i with source := s }
    | some header =>
      match checkSequence i.sequence header.sequence with
      | .error fault => .error (.protocol fault) { i with source := s }
      | .ok sequence =>
        match _body : source.pull header.size s with
        | .error e s => .error e ⟨sequence, s⟩
        | .ok body s =>
          if header.size < maxPayload then .ok (out ++ body) ⟨sequence, s⟩
          else readOnto source (out ++ body) ⟨sequence, s⟩
termination_by source.supply i.source
decreasing_by
  have h₁ := source.supply_pull _head
  have h₂ := source.supply_pull _body
  simp only [Header.length] at h₁
  omega

/-- Reading a payload takes at least a header from the source. -/
theorem supply_readOnto {σ : Type} {source : Source σ} {out payload : ByteArray}
    {i i' : Incoming σ} (h : readOnto source out i = .ok payload i') :
    source.supply i'.source + Header.length ≤ source.supply i.source := by
  fun_induction readOnto source out i with
  | case1 | case2 | case3 | case4 => simp at h
  | case5 out i head s head_eq header _ sequence _ body s' body_eq full =>
    injection h with _ hi
    subst hi
    have h₁ := source.supply_pull head_eq
    have h₂ := source.supply_pull body_eq
    simp only
    omega
  | case6 out i head s head_eq header _ sequence _ body s' body_eq full ih =>
    have h₁ := source.supply_pull head_eq
    have h₂ := source.supply_pull body_eq
    have h₃ := ih h
    simp only at h₃
    omega

def read {σ : Type} (source : Source σ) : EStateM Error (Incoming σ) ByteArray :=
  readOnto source ByteArray.empty

/-- Bytes in an array, from position `at` on. -/
structure Cursor where
  data : ByteArray
  at_ : Nat

namespace Cursor

/-- The next `n` bytes; with fewer left nothing is taken. -/
def pull (fault : Error) (n : Nat) : EStateM Error Cursor ByteArray := fun cursor =>
  if cursor.at_ + n ≤ cursor.data.size then
    .ok (cursor.data.extract cursor.at_ (cursor.at_ + n)) { cursor with at_ := cursor.at_ + n }
  else .error fault cursor

/-- An array as a source that fails with `fault` at its end. -/
def source (fault : Error) : Source Cursor where
  pull := pull fault
  supply cursor := cursor.data.size - cursor.at_
  supply_pull := by
    intro n s bytes s' h
    unfold pull at h
    split at h
    · injection h with _ hs
      subst hs
      simp only
      omega
    · cases h

end Cursor

end SqlWire.Packet
