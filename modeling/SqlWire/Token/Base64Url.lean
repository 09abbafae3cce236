import SqlWire.Bytes

/-!
# Base64 for URLs

Four letters stand for three bytes. There is no padding; bits of the last letter that belong to no
byte must be zero.
-/

namespace SqlWire.Token

def letterBits? (b : UInt8) : Option Nat :=
  if 0x41 ≤ b && b ≤ 0x5a then some (b.toNat - 0x41)
  else if 0x61 ≤ b && b ≤ 0x7a then some (b.toNat - 0x61 + 26)
  else if 0x30 ≤ b && b ≤ 0x39 then some (b.toNat - 0x30 + 52)
  else if b == 0x2d then some 62
  else if b == 0x5f then some 63
  else none

/-- The bytes that some letters stand for. -/
def decodeBase64 : Bytes → Option Bytes
  | [] => some []
  | [_] => none
  | [a, b] => do
    let n := (← letterBits? a) * 64 + (← letterBits? b)
    if n % 16 == 0 then some [UInt8.ofNat (n / 16)] else none
  | [a, b, c] => do
    let n := ((← letterBits? a) * 64 + (← letterBits? b)) * 64 + (← letterBits? c)
    if n % 4 == 0 then some [UInt8.ofNat (n / 1024), UInt8.ofNat (n / 4)] else none
  | a :: b :: c :: d :: rest => do
    let n := (((← letterBits? a) * 64 + (← letterBits? b)) * 64 + (← letterBits? c)) * 64 +
      (← letterBits? d)
    let more ← decodeBase64 rest
    some (UInt8.ofNat (n / 65536) :: UInt8.ofNat (n / 256) :: UInt8.ofNat n :: more)

end SqlWire.Token
