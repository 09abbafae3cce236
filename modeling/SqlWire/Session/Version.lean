import SqlWire.Text.Characters

/-!
# Server versions

A version is three numbers. Whatever follows the digits of a part is ignored, and a missing minor or
patch number is zero.
-/

namespace SqlWire.Session

/-- A server's version. -/
structure Version where
  major : Nat
  minor : Nat
  patch : Nat
  deriving DecidableEq, Repr

namespace Version

/-- The parts of a text between points. -/
def parts (part : List Char) : List Char → List (List Char)
  | [] => [part.reverse]
  | c :: rest => if c == '.' then part.reverse :: parts [] rest else parts (c :: part) rest

def partNumber? (part : List Char) : Option Nat :=
  Text.number? UInt32.size (part.takeWhile Char.isDigit)

/-- Reads a version; it needs a major number. -/
def parse? (text : String) : Option Version :=
  let numbers := (parts [] (Text.trimBlanks text.toList)).map partNumber?
  match numbers with
  | some major :: rest =>
    some ⟨major, (rest[0]?.join).getD 0, (rest[1]?.join).getD 0⟩
  | _ => none

def atLeast (v w : Version) : Bool :=
  v.major > w.major || (v.major == w.major &&
    (v.minor > w.minor || (v.minor == w.minor && v.patch ≥ w.patch)))

def firstWithReset : Version := ⟨7, 5, 2⟩

def supportsReset (v : Version) : Bool := v.atLeast firstWithReset

end Version

end SqlWire.Session
