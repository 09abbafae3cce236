/-!
# Huffman codes by length

A deflate stream gives only the length of each symbol's code. Codes of one length are consecutive
numbers in the order of their symbols, and shorter codes come first, so a code is found by counting
(`Code.decode`).
-/

namespace SqlWire.Zlib

def maxCodeLength : Nat := 15

/-- A canonical code: how many symbols have each length from one bit on, and the symbols ordered
by length and then by number. -/
structure Code where
  counts : List Nat
  symbols : Array Nat

namespace Code

/-- Positions of `length` in `lengths`, from number `i` on. -/
def withLength (length : Nat) (lengths : List Nat) : List Nat :=
  (List.range lengths.length).zip lengths |>.filterMap fun (symbol, l) =>
    if l == length then some symbol else none

/-- The code whose symbol number `i` has `lengths[i]` bits; zero bits is no code. -/
def ofLengths (lengths : List Nat) : Code :=
  let groups := (List.range maxCodeLength).map fun l => withLength (l + 1) lengths
  { counts := groups.map List.length, symbols := groups.flatten.toArray }

/-- Unused codes of fifteen bits, counted down from all of them: zero for a complete code and
negative when lengths are given out twice. -/
def slack (code : Code) : Int :=
  code.counts.foldl (fun (left : Int) (count : Nat) => left * 2 - count) 1

/-- The code can be decoded: it is complete, or has no symbol, or a single one of one bit. -/
def usable (code : Code) : Bool :=
  code.slack == 0 || code.symbols.size == 0 ||
    (code.symbols.size == 1 && code.counts.head? == some 1)

end Code

end SqlWire.Zlib
