import SqlWire.Bytes
import SqlWire.Decimal.Shortest

/-!
# Doubles

A double is kept as its 64 bits, so that two of them can be compared as numbers (`sameNumber`) and
printed exactly. `text` writes the shortest decimal, never with an exponent and without a point for
a whole number.
-/

namespace SqlWire

/-- A double-precision number by its bits. -/
structure Double where
  bits : UInt64
  deriving DecidableEq, Repr

namespace Double

def negative (x : Double) : Bool := x.bits >>> 63 != 0

def biased (x : Double) : Nat := ((x.bits >>> 52) &&& 0x7ff).toNat

def fraction (x : Double) : Nat := (x.bits &&& 0xfffffffffffff).toNat

def isNaN (x : Double) : Bool := x.biased == 0x7ff && x.fraction != 0

def sameNumber (x y : Double) : Bool :=
  !x.isNaN && !y.isNaN && (x.bits == y.bits || (x.bits ||| y.bits) <<< 1 == 0)

/-- The magnitude of a finite double other than zero. -/
def magnitude (x : Double) : Decimal.Binary :=
  if x.biased == 0 then ⟨x.fraction, -1074, false⟩
  else ⟨0x10000000000000 + x.fraction, (x.biased : Int) - 1075, x.fraction == 0 && x.biased != 1⟩

def trimZeros (digits : List Char) : List Char :=
  (digits.reverse.dropWhile (· == '0')).reverse

def positional (d : Decimal.Digits) : String :=
  let digits := trimZeros (toString d.digits).toList
  if d.point ≤ 0 then
    String.ofList ("0.".toList ++ List.replicate (-d.point).toNat '0' ++ digits)
  else if digits.length ≤ d.point.toNat then
    String.ofList (digits ++ List.replicate (d.point.toNat - digits.length) '0')
  else
    String.ofList (digits.take d.point.toNat ++ '.' :: digits.drop d.point.toNat)

/-- The shortest decimal that reads back to the same double. -/
def text (x : Double) : String :=
  if x.isNaN then "NaN"
  else
    let magnitude :=
      if x.biased == 0x7ff then "inf"
      else if x.bits <<< 1 == 0 then "0"
      else positional (Decimal.shortest x.magnitude)
    if x.negative then "-" ++ magnitude else magnitude

end Double

end SqlWire
