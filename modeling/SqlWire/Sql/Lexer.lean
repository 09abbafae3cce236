import SqlWire.Bytes

/-!
# Lexical structure of SQL text

A statement is read byte by byte. A byte is ordinary text, or belongs to a string literal or quoted
identifier, to a comment to the end of the line, or to a comment between `/*` and `*/`. `State.next`
is the state after a byte, which may look at the two bytes behind it. A `?` in ordinary text is a
placeholder.
-/

namespace SqlWire.Sql

/-- What a byte of SQL text belongs to. -/
inductive Mode where
  | normal
  /-- A literal or identifier between two of these bytes. -/
  | quoted (quote : UInt8)
  | lineComment
  | blockComment
  deriving DecidableEq, Repr

/-- The state of the lexer before a byte. -/
structure State where
  mode : Mode
  /-- The byte belongs to what the byte before it started. -/
  taken : Bool
  deriving DecidableEq, Repr

def isBlank (b : UInt8) : Bool := b == 0x20 || b == 0x09 || b == 0x0a || b == 0x0c || b == 0x0d

/-- A comment to the end of the line starts with a `-` before `rest`: a second one follows, and
behind it a blank or the end. -/
def startsDashes (rest : Bytes) : Bool :=
  match rest with
  | [0x2d] => true
  | 0x2d :: b :: _ => isBlank b
  | _ => false

/-- The byte that may escape a quote inside a literal. -/
def backslash : UInt8 := 0x5c

namespace State

def start : State := ⟨.normal, false⟩

def next (noBackslash : Bool) (state : State) (b : UInt8) (rest : Bytes) : State :=
  if state.taken then { state with taken := false }
  else match state.mode with
    | .normal =>
      if b == 0x27 || b == 0x22 || b == 0x60 then ⟨.quoted b, false⟩
      else if b == 0x23 then ⟨.lineComment, false⟩
      else if b == 0x2d && startsDashes rest then ⟨.lineComment, false⟩
      else if b == 0x2f && rest.head? == some 0x2a then ⟨.blockComment, true⟩
      else state
    | .quoted quote =>
      if b == backslash && quote != 0x60 && !noBackslash then ⟨.quoted quote, true⟩
      else if b == quote then ⟨.normal, false⟩
      else state
    | .lineComment => if b == 0x0a then ⟨.normal, false⟩ else state
    | .blockComment =>
      if b == 0x2a && rest.head? == some 0x2f then ⟨.normal, true⟩ else state

def atPlaceholder (state : State) (b : UInt8) : Bool :=
  state.mode == .normal && !state.taken && b == 0x3f

end State

def placeholdersFrom (noBackslash : Bool) (state : State) (i : Nat) : Bytes → List Nat
  | [] => []
  | b :: rest =>
    if state.atPlaceholder b then
      i :: placeholdersFrom noBackslash (state.next noBackslash b rest) (i + 1) rest
    else placeholdersFrom noBackslash (state.next noBackslash b rest) (i + 1) rest

/-- Byte positions of the placeholders of a statement. -/
def placeholders (noBackslash : Bool) (sql : Bytes) : List Nat :=
  placeholdersFrom noBackslash .start 0 sql

end SqlWire.Sql
