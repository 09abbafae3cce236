import SqlWire.Bytes

/-!
# Text on the wire

Text travels as UTF-8. `encode` writes it and `decode` reads it strictly: bytes that are not UTF-8
give the position of the first bad sequence and its length, or say that the text ends inside a
character. `decodeLossy` reads any bytes and puts U+FFFD for each bad sequence.

`next` classifies the bytes at one position. A bad sequence is the longest run that starts some
character: a byte that can start nothing counts alone.
-/

namespace SqlWire.Text

/-- Where and how bytes fail to be UTF-8. -/
structure Utf8Fault where
  /-- Bytes before the bad sequence; they are valid. -/
  validUpTo : Nat
  /-- Length of the bad sequence, `none` when the bytes end inside a character. -/
  badLength : Option Nat
  deriving DecidableEq, Repr

def Utf8Fault.message (fault : Utf8Fault) : String :=
  match fault.badLength with
  | some n => s!"invalid utf-8 sequence of {n} bytes from index {fault.validUpTo}"
  | none => s!"incomplete utf-8 byte sequence from index {fault.validUpTo}"

/-- What stands at the start of some bytes. -/
inductive Piece where
  /-- A character and the number of bytes after its first. -/
  | char (c : Char) (more : Nat)
  /-- A bad sequence and the number of bytes after its first. -/
  | bad (more : Nat)
  /-- The bytes end inside a character. -/
  | cut

def isContinuation (b : UInt8) : Bool := 0x80 ≤ b && b ≤ 0xbf

/-- The six payload bits of a continuation byte. -/
def payload (b : UInt8) : Nat := b.toNat % 64

/-- Second bytes that may follow `lead` without an overlong form, a surrogate or a code point
above U+10FFFF. -/
def secondAllowed (lead second : UInt8) : Bool :=
  if lead == 0xe0 then 0xa0 ≤ second && second ≤ 0xbf
  else if lead == 0xed then 0x80 ≤ second && second ≤ 0x9f
  else if lead == 0xf0 then 0x90 ≤ second && second ≤ 0xbf
  else if lead == 0xf4 then 0x80 ≤ second && second ≤ 0x8f
  else isContinuation second

def next (lead : UInt8) (rest : Bytes) : Piece :=
  if lead < 0x80 then .char (Char.ofNat lead.toNat) 0
  else if lead < 0xc2 || 0xf4 < lead then .bad 0
  else match rest with
    | [] => .cut
    | b₂ :: rest =>
      if !secondAllowed lead b₂ then .bad 0
      else if lead < 0xe0 then .char (Char.ofNat (lead.toNat % 32 * 64 + payload b₂)) 1
      else match rest with
        | [] => .cut
        | b₃ :: rest =>
          if !isContinuation b₃ then .bad 1
          else if lead < 0xf0 then
            .char (Char.ofNat ((lead.toNat % 16 * 64 + payload b₂) * 64 + payload b₃)) 2
          else match rest with
            | [] => .cut
            | b₄ :: _ =>
              if !isContinuation b₄ then .bad 2
              else .char (Char.ofNat
                (((lead.toNat % 8 * 64 + payload b₂) * 64 + payload b₃) * 64 + payload b₄)) 3

def locate (at_ : Nat) : Bytes → Utf8Fault
  | [] => ⟨at_, none⟩
  | lead :: rest =>
    match next lead rest with
    | .char _ more => locate (at_ + 1 + more) (rest.drop more)
    | .bad more => ⟨at_, some (1 + more)⟩
    | .cut => ⟨at_, none⟩
  termination_by bytes => bytes.length
  decreasing_by simp only [List.length_drop, List.length_cons]; omega

def appendLossy (text : String) : Bytes → String
  | [] => text
  | lead :: rest =>
    match next lead rest with
    | .char c more => appendLossy (text.push c) (rest.drop more)
    | .bad more => appendLossy (text.push '\uFFFD') (rest.drop more)
    | .cut => text.push '\uFFFD'
  termination_by bytes => bytes.length
  decreasing_by all_goals simp only [List.length_drop, List.length_cons]; omega

def encode (text : String) : Bytes := Bytes.ofWire text.toUTF8

def decode (bytes : Bytes) : Except Utf8Fault String :=
  match String.fromUTF8? bytes.toWire with
  | some text => .ok text
  | none => .error (locate 0 bytes)

/-- The text of any bytes; each bad sequence reads as U+FFFD. -/
def decodeLossy (bytes : Bytes) : String :=
  match String.fromUTF8? bytes.toWire with
  | some text => text
  | none => appendLossy "" bytes

theorem fromUTF8?_encode (text : String) : String.fromUTF8? (encode text).toWire = some text := by
  simp [String.fromUTF8?, encode, String.fromUTF8]
  exact text.isValidUTF8

@[simp] theorem decode_encode (text : String) : decode (encode text) = .ok text := by
  simp [decode, fromUTF8?_encode]

@[simp] theorem decodeLossy_encode (text : String) : decodeLossy (encode text) = text := by
  simp [decodeLossy, fromUTF8?_encode]

end SqlWire.Text
