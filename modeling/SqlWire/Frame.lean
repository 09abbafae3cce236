import SqlWire.Frame.Intake
import SqlWire.Packet
import SqlWire.Zlib.Deflate
import SqlWire.Zlib.Inflate

/-!
# Compressed frames

Once compression is on, the bytes of packets travel in frames: the size of the body in three bytes,
a sequence number of its own, the size of the content in three bytes, and the body. A content size
of zero says that the body is the content. Only content of at least `minDeflated` bytes is
compressed, and only if that makes it shorter.
-/

namespace SqlWire.Frame

/-- A way to compress. -/
structure Compressor where
  deflate : ByteArray → ByteArray
  inflate : ByteArray → Zlib.Inflated

def zlib : Compressor := ⟨Zlib.deflate, Zlib.inflate⟩

/-- What is written can be read again. -/
def Compressor.Lawful (z : Compressor) : Prop :=
  ∀ content, (z.inflate (z.deflate content)).isWhole = true ∧
    (z.inflate (z.deflate content)).content = content

/-- The front of a frame. -/
structure Header where
  bodySize : Nat
  sequence : UInt8
  /-- Zero if the body is the content. -/
  contentSize : Nat
  deriving DecidableEq, Repr

def Header.length : Nat := 7

/-- The bytes of a header; only the low three bytes of each size fit. -/
def Header.bytes (header : Header) : Bytes :=
  Bytes.ofNatLE 3 header.bodySize ++ [header.sequence] ++ Bytes.ofNatLE 3 header.contentSize

/-- Reads a header of exactly seven bytes. -/
def Header.parse? : Bytes → Option Header
  | [b₀, b₁, b₂, sequence, c₀, c₁, c₂] =>
    some ⟨Bytes.toNatLE [b₀, b₁, b₂], sequence, Bytes.toNatLE [c₀, c₁, c₂]⟩
  | _ => none

def minDeflated : Nat := 1536

def frame (z : Compressor) (content : ByteArray) (sequence : UInt8) : ByteArray :=
  let stored := (Header.bytes ⟨content.size, sequence, 0⟩).toWire ++ content
  if minDeflated ≤ content.size then
    let body := z.deflate content
    if body.size < content.size then
      (Header.bytes ⟨body.size, sequence, content.size⟩).toWire ++ body
    else stored
  else stored

def writeFrom (z : Compressor) (data : ByteArray) (offset : Nat) (sequence : UInt8)
    (out : ByteArray) : ByteArray × UInt8 :=
  if offset < data.size then
    let content := data.extract offset (offset + maxPayload)
    writeFrom z data (offset + maxPayload) (sequence + 1) (out ++ frame z content sequence)
  else (out, sequence)
termination_by data.size - offset
decreasing_by simp only [maxPayload]; omega

def write (z : Compressor) (data : ByteArray) (sequence : UInt8) : ByteArray × UInt8 :=
  writeFrom z data 0 sequence ByteArray.empty

/-- What reading a body gives: its content, the fault if the content is not as announced, and the
room of the buffer that took it in. -/
structure Unpacked where
  content : ByteArray
  fault : Option ProtocolFault
  room : Nat

/-- Reads the body of a frame whose announced content size is `announced` into an empty buffer with
room for `room` bytes. Of a damaged body the content that was taken in is given all the same, and so
is content of another size. -/
def unpack (z : Compressor) (room announced : Nat) (body : ByteArray) : Unpacked :=
  if announced == 0 then ⟨body, none, reserve room 0 body.size⟩
  else
    let inflated := z.inflate body
    let intake := intake inflated (reserve room 0 announced)
    if inflated.isWhole then
      if inflated.content.size == announced then ⟨inflated.content, none, intake.room⟩
      else ⟨inflated.content, some (.frameSize inflated.content.size announced), intake.room⟩
    else ⟨inflated.content.extract 0 intake.kept, some .damagedFrame, intake.room⟩

/-- What a frame carries fits in three bytes. -/
theorem size_unpack {z : Compressor} {head : Bytes} {header : Header} {room : Nat}
    {body : ByteArray} (parsed : Header.parse? head = some header)
    (size : body.size = header.bodySize)
    (whole : (unpack z room header.contentSize body).fault = none) :
    (unpack z room header.contentSize body).content.size < 0x1000000 := by
  unfold Header.parse? at parsed
  split at parsed
  · next b₀ b₁ b₂ _ c₀ c₁ c₂ =>
    injection parsed with eq
    subst eq
    have power : Nat.pow 256 (0 + 1 + 1 + 1) = 0x1000000 := rfl
    have h₁ := Bytes.toNatLE_lt [b₀, b₁, b₂]
    have h₂ := Bytes.toNatLE_lt [c₀, c₁, c₂]
    simp only [List.length_cons, List.length_nil, power] at h₁ h₂ size
    unfold unpack at whole ⊢
    split
    · simp only; omega
    · dsimp only at whole ⊢
      split
      · split
        · next same => simp only [beq_iff_eq] at same; simp only; omega
        · next other => simp_all
      · next damaged => simp_all
  · cases parsed

end SqlWire.Frame
