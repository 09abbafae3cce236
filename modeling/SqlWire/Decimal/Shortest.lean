/-!
# Shortest decimals

A finite binary number `mantissa * 2 ^ exponent` stands for every real that rounds to it; the ends
of that interval belong to it if the mantissa is even. `shortest` finds the decimal with the fewest
digits in the interval, and of several the one closest to the number. For each number of digits only
the two neighbours of the number on that decimal grid can lie in the interval and be closest. Each
grid is part of the finest one, so the number and its interval are first placed on that one
(`Binary.onGrid`).
-/

namespace SqlWire.Decimal

/-- A positive binary number. -/
structure Binary where
  mantissa : Nat
  exponent : Int
  /-- The next smaller number is only half as far away as the next larger one. -/
  narrowBelow : Bool
  deriving Repr

/-- A decimal: the digits after a point that stands `point` places from their start. -/
structure Digits where
  digits : Nat
  point : Int
  deriving DecidableEq, Repr

def scaled (n base : Nat) (e : Int) : Nat × Nat :=
  if 0 ≤ e then (n * Nat.pow base e.toNat, 1) else (n, Nat.pow base (-e).toNat)

/-- The number as a fraction of a quarter unit of its last place, with the ends of its interval:
lower end, number, upper end and denominator. -/
def Binary.interval (x : Binary) : Nat × Nat × Nat × Nat :=
  let (unit, den) := scaled 1 2 (x.exponent - 2)
  let below := if x.narrowBelow then 1 else 2
  ((4 * x.mantissa - below) * unit, 4 * x.mantissa * unit, (4 * x.mantissa + 2) * unit, den)

/-- The least number of digits from `k` on that hold `n`. -/
def lengthFrom (n k : Nat) : Nat :=
  if h : Nat.pow 10 k ≤ n then lengthFrom n (k + 1) else k
termination_by n - k
decreasing_by
  have : k < Nat.pow 10 k := Nat.lt_pow_self (by decide)
  omega

/-- How many digits `n` has: `10 ^ (k - 1) ≤ n < 10 ^ k` for a positive one. A binary place is worth
a little more than 1233 / 4096 of a decimal one. -/
def decimalLength (n : Nat) : Nat := lengthFrom n (n.log2 * 1233 / 4096)

def leadingPlace (num den : Nat) : Int :=
  if den ≤ num then (decimalLength (num / den) : Int)
  else
    let zeros := decimalLength (den / num)
    if den ≤ num * Nat.pow 10 (zeros - 1) then 2 - (zeros : Int) else 1 - (zeros : Int)

/-- Digits of the finest grid; that many are always enough. -/
def maxDigits : Nat := 17

/-- A number and its interval on the finest grid. -/
structure OnGrid where
  /-- The first point of the interval. -/
  low : Nat
  /-- The last point of the interval. -/
  high : Nat
  /-- The last point that is not above the number. -/
  floor : Nat
  /-- That point is closer than the next one. -/
  closerBelow : Bool

def Binary.onGrid (x : Binary) (place : Int) : OnGrid :=
  let (low, num, high, den) := x.interval
  let (grid, gridDen) := scaled 1 10 (place - maxDigits)
  let unit := den * grid
  let low := low * gridDen
  let num := num * gridDen
  let high := high * gridDen
  let closed := x.mantissa % 2 == 0
  { low := if closed then (low + unit - 1) / unit else low / unit + 1
    high := if closed then high / unit else (high - 1) / unit
    floor := num / unit
    closerBelow := 2 * (num % unit) < unit }

/-- The decimal of `n` digits in the interval that is closest to the number; of two equally close
ones the larger. -/
def nearest? (x : OnGrid) (place : Int) (n : Nat) : Option Digits :=
  let step := Nat.pow 10 (maxDigits - n)
  let floor := x.floor / step
  let inside (d : Nat) : Bool := x.low ≤ d * step && d * step ≤ x.high
  let pick (d : Nat) : Option Digits :=
    some ⟨d, if Nat.pow 10 n ≤ d then place + 1 else place⟩
  let closerBelow : Bool :=
    if step == 1 then x.closerBelow else 2 * x.floor < (2 * floor + 1) * step
  match inside floor, inside (floor + 1) with
  | true, true => pick (if closerBelow then floor else floor + 1)
  | true, false => pick floor
  | false, true => pick (floor + 1)
  | false, false => none

/-- The first `some` of `f n, f (n + 1), …` among `count` of them. -/
def firstFrom {α : Type} (f : Nat → Option α) : Nat → Nat → Option α
  | 0, _ => none
  | count + 1, n => (f n).or (firstFrom f count (n + 1))

/-- The shortest decimal of a binary number of at most 53 bits. -/
def shortest (x : Binary) : Digits :=
  let (_, num, _, den) := x.interval
  let place := leadingPlace num den
  (firstFrom (nearest? (x.onGrid place) place) maxDigits 1).getD ⟨0, 0⟩

end SqlWire.Decimal
