import SqlWire.Digest.Basic

/-!
# SHA-1

Eighty rounds on five words for each block; the result has twenty bytes.
-/

namespace SqlWire.Sha1

/-- The five words of the state. -/
structure State where
  a : UInt32
  b : UInt32
  c : UInt32
  d : UInt32
  e : UInt32

def initial : State := ⟨0x67452301, 0xefcdab89, 0x98badcfe, 0x10325476, 0xc3d2e1f0⟩

/-- The eighty words of a block's schedule. -/
def schedule (block : List UInt32) : Array UInt32 :=
  (List.range 64).foldl (fun w i =>
    let x := w.getD (i + 13) 0 ^^^ w.getD (i + 8) 0 ^^^ w.getD (i + 2) 0 ^^^ w.getD i 0
    w.push (Digest.rotateLeft x 1)) block.toArray

def roundFunction (t : Nat) (s : State) : UInt32 :=
  if t < 20 then ((s.b &&& s.c) ||| (~~~s.b &&& s.d)) + 0x5a827999
  else if t < 40 then (s.b ^^^ s.c ^^^ s.d) + 0x6ed9eba1
  else if t < 60 then ((s.b &&& s.c) ||| (s.b &&& s.d) ||| (s.c &&& s.d)) + 0x8f1bbcdc
  else (s.b ^^^ s.c ^^^ s.d) + 0xca62c1d6

def round (t : Nat) (w : UInt32) (s : State) : State :=
  ⟨Digest.rotateLeft s.a 5 + roundFunction t s + s.e + w, s.a, Digest.rotateLeft s.b 30, s.c, s.d⟩

def compress (s : State) (block : List UInt32) : State :=
  let w := schedule block
  let r := (List.range 80).foldl (fun r t => round t (w.getD t 0) r) s
  ⟨s.a + r.a, s.b + r.b, s.c + r.c, s.d + r.d, s.e + r.e⟩

def hash (message : Bytes) : Bytes :=
  let s := (Digest.blocks (Digest.words (Digest.pad message))).foldl compress initial
  [s.a, s.b, s.c, s.d, s.e].flatMap Digest.wordBytes

def digest : Digest where
  run := hash
  length := 20
  length_run message := by simp [hash]

end SqlWire.Sha1
