import SqlWire.Bytes

/-!
# Digests

A digest is a function to byte strings of one length. `pad` fills a message up to whole blocks of 64
bytes, as the SHA family does: a one bit, zeros, and the number of message bits in eight bytes.
-/

namespace SqlWire

/-- A digest with results of a fixed length. -/
structure Digest where
  run : Bytes → Bytes
  length : Nat
  length_run : ∀ message, (run message).length = length

namespace Digest

/-- The low `k` bytes of `n`, most significant first. -/
def bigEndian (k n : Nat) : Bytes := (Bytes.ofNatLE k n).reverse

/-- A message filled up to whole blocks. -/
def pad (message : Bytes) : Bytes :=
  let zeros := (119 - message.length % 64) % 64
  message ++ 0x80 :: (List.replicate zeros 0 ++ bigEndian 8 (message.length * 8))

/-- The words of four bytes of a padded message, most significant byte first. -/
def words : Bytes → List UInt32
  | b₃ :: b₂ :: b₁ :: b₀ :: rest =>
    (b₃.toUInt32 <<< 24 ||| b₂.toUInt32 <<< 16 ||| b₁.toUInt32 <<< 8 ||| b₀.toUInt32) :: words rest
  | _ => []

def blocks (words : List UInt32) : List (List UInt32) :=
  match words with
  | [] => []
  | w :: rest => (w :: rest.take 15) :: blocks (rest.drop 15)
termination_by words.length
decreasing_by simp only [List.length_drop, List.length_cons]; omega

def rotateLeft (x n : UInt32) : UInt32 := x <<< n ||| x >>> (32 - n)

/-- The bytes of a word, most significant first. -/
def wordBytes (w : UInt32) : Bytes := bigEndian 4 w.toNat

@[simp] theorem length_wordBytes (w : UInt32) : (wordBytes w).length = 4 := by
  simp [wordBytes, bigEndian]

end Digest

end SqlWire
