/-!
# Numbers in texts

Whole numbers are read from decimal digits, with a bound that they must be below, and written in
hexadecimal ones.
-/

namespace SqlWire.Text

/-- The number that `n` and some ASCII digits behind it write, as long as it is below `bound`. -/
def numberFrom (bound n : Nat) : List Char → Option Nat
  | [] => if n < bound then some n else none
  | c :: digits =>
    if n < bound then numberFrom bound (n * 10 + (c.toNat - '0'.toNat)) digits else none

/-- A number that is written in digits alone, one of them at least. -/
def number? (bound : Nat) (digits : List Char) : Option Nat :=
  if digits.isEmpty || !digits.all Char.isDigit then none else numberFrom bound 0 digits

/-- A number that may have a plus sign in front. -/
def signedNumber? (bound : Nat) (text : String) : Option Nat :=
  match text.toList with
  | '+' :: digits => number? bound digits
  | digits => number? bound digits

/-- The hexadecimal digits of a number, without zeros in front. -/
def hexNumber (n : Nat) : String := String.ofList (Nat.toDigits 16 n)

end SqlWire.Text
