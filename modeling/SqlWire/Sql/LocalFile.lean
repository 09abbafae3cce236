import SqlWire.Sql.Lexer

/-!
# Statements that name a local file

A server may ask for a file of the client. The request is honoured only if the statement itself
names that file behind the words `LOCAL INFILE` (`namesLocalFile`).
-/

namespace SqlWire.Sql

def isWordByte (b : UInt8) : Bool :=
  (0x30 ≤ b && b ≤ 0x39) || (0x41 ≤ b && b ≤ 0x5a) || (0x61 ≤ b && b ≤ 0x7a) || b == 0x5f

/-- A letter in upper case; other bytes are kept. -/
def upper (b : UInt8) : UInt8 := if 0x61 ≤ b && b ≤ 0x7a then b - 32 else b

def isKeyword (keyword : String) (word : Bytes) : Bool := word.map upper == Bytes.ascii keyword

def skipBlanks (bytes : Bytes) : Bytes := bytes.dropWhile isBlank

/-- The next word and what follows it; any other byte is a word of its own. -/
def nextWord? (bytes : Bytes) : Option (Bytes × Bytes) :=
  match skipBlanks bytes with
  | [] => none
  | b :: rest =>
    if isWordByte b then
      let word := rest.takeWhile isWordByte
      some (b :: word, rest.drop word.length)
    else some ([b], rest)

theorem length_dropWhile_le (p : UInt8 → Bool) (bytes : Bytes) :
    (bytes.dropWhile p).length ≤ bytes.length :=
  (List.dropWhile_sublist p).length_le

theorem nextWord?_length {bytes word rest : Bytes} (h : nextWord? bytes = some (word, rest)) :
    rest.length < bytes.length := by
  have blanks := length_dropWhile_le isBlank bytes
  unfold nextWord? at h
  split at h
  · cases h
  · next b tail e =>
    have size : tail.length + 1 ≤ bytes.length := by
      have := congrArg List.length e
      simp only [skipBlanks, List.length_cons] at this
      omega
    split at h <;> injection h with h <;> injection h with _ h <;> subst h
    · simp only [List.length_drop]
      omega
    · omega

/-- The content of a literal that `quote` ends, behind `content` in reverse; `none` if nothing ends
it. A doubled quote is one quote, and a backslash takes the byte after it as it is. -/
def literalFrom (noBackslash : Bool) (quote : UInt8) (content : Bytes) : Bytes → Option Bytes
  | [] => none
  | [b] =>
    if b == backslash && !noBackslash then none
    else if b == quote then some content.reverse
    else none
  | b :: c :: rest =>
    if b == backslash && !noBackslash then literalFrom noBackslash quote (c :: content) rest
    else if b == quote then
      if c == quote then literalFrom noBackslash quote (quote :: content) rest
      else some content.reverse
    else literalFrom noBackslash quote (b :: content) (c :: rest)

/-- The content of the string literal that the bytes start with. -/
def nextLiteral? (noBackslash : Bool) (bytes : Bytes) : Option Bytes :=
  match skipBlanks bytes with
  | quote :: rest =>
    if quote == 0x27 || quote == 0x22 then literalFrom noBackslash quote [] rest else none
  | [] => none

/-- The statement holds `LOCAL INFILE` and names `file` behind the first such pair of words. -/
def namesLocalFile (noBackslash : Bool) (file sql : Bytes) : Bool :=
  match _first : nextWord? sql with
  | none => false
  | some (word, rest) =>
    if isKeyword "LOCAL" word then
      match _second : nextWord? rest with
      | none => false
      | some (word, rest) =>
        if isKeyword "INFILE" word then nextLiteral? noBackslash rest == some file
        else namesLocalFile noBackslash file rest
    else namesLocalFile noBackslash file rest
termination_by sql.length
decreasing_by
  · have h₁ := nextWord?_length _first
    have h₂ := nextWord?_length _second
    omega
  · exact nextWord?_length _first

end SqlWire.Sql
