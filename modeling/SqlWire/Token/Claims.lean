import SqlWire.Text.Utf8

/-!
# Claims of a token

The claims are a JSON object of which one member counts: `exp`, a whole number of at most 64 bits or
null, at most once. An array with just that value is read in the same way. Other members are skipped:
their values must be JSON, but their strings are not looked into.
-/

namespace SqlWire.Token

def isJsonBlank (b : UInt8) : Bool := b == 0x20 || b == 0x0a || b == 0x09 || b == 0x0d

def skipBlanks (bytes : Bytes) : Bytes := bytes.dropWhile isJsonBlank

def isDigit (b : UInt8) : Bool := 0x30 ≤ b && b ≤ 0x39

def hexValue? (b : UInt8) : Option Nat :=
  if isDigit b then some (b.toNat - 0x30)
  else if 0x41 ≤ b && b ≤ 0x46 then some (b.toNat - 0x41 + 10)
  else if 0x61 ≤ b && b ≤ 0x66 then some (b.toNat - 0x61 + 10)
  else none

/-- Four hexadecimal digits and what follows them. -/
def hexUnit? : Bytes → Option (Nat × Bytes)
  | a :: b :: c :: d :: rest => do
    let n := (((← hexValue? a) * 16 + (← hexValue? b)) * 16 + (← hexValue? c)) * 16 +
      (← hexValue? d)
    some (n, rest)
  | _ => none

/-- The byte that a one-letter escape stands for. -/
def escaped? (b : UInt8) : Option UInt8 :=
  if b == 0x22 || b == 0x5c || b == 0x2f then some b
  else if b == 0x62 then some 0x08
  else if b == 0x66 then some 0x0c
  else if b == 0x6e then some 0x0a
  else if b == 0x72 then some 0x0d
  else if b == 0x74 then some 0x09
  else none

/-- A code point written as one or two units, and what follows it; surrogates come in pairs. -/
def codePoint? (bytes : Bytes) : Option (Nat × Bytes) := do
  let (n, rest) ← hexUnit? bytes
  if n < 0xd800 || 0xe000 ≤ n then some (n, rest)
  else if 0xdc00 ≤ n then none
  else
    match rest with
    | 0x5c :: 0x75 :: rest =>
      let (m, rest) ← hexUnit? rest
      if 0xdc00 ≤ m && m < 0xe000 then some (0x10000 + (n - 0xd800) * 1024 + (m - 0xdc00), rest)
      else none
    | _ => none

/-- The content of a string behind its opening quote, after `content` in reverse, and what follows
the closing quote. Each round takes a byte, so `fuel` of one more than the bytes is enough. -/
def stringFrom : Nat → Bytes → Bytes → Option (Bytes × Bytes)
  | 0, _, _ => none
  | _, _, [] => none
  | fuel + 1, content, b :: rest =>
    if b == 0x22 then some (content.reverse, rest)
    else if b == 0x5c then
      match rest with
      | 0x75 :: rest =>
        match codePoint? rest with
        | some (n, rest) =>
          stringFrom fuel ((Text.encode (String.singleton (Char.ofNat n))).reverse ++ content) rest
        | none => none
      | c :: rest =>
        match escaped? c with
        | some d => stringFrom fuel (d :: content) rest
        | none => none
      | [] => none
    else if b < 0x20 then none
    else stringFrom fuel (b :: content) rest

/-- The text of a string behind its opening quote, and what follows the closing quote. -/
def key? (bytes : Bytes) : Option (String × Bytes) := do
  let (content, rest) ← stringFrom (bytes.length + 1) [] bytes
  match Text.decode content with
  | .ok text => some (text, rest)
  | .error _ => none

/-- What follows a string behind its opening quote. -/
def skipString : Bytes → Option Bytes
  | [] => none
  | 0x22 :: rest => some rest
  | 0x5c :: 0x75 :: a :: b :: c :: d :: rest => do
    let _ ← hexUnit? [a, b, c, d]
    skipString rest
  | 0x5c :: c :: rest => do
    let _ ← escaped? c
    skipString rest
  | b :: rest => if b < 0x20 || b == 0x5c then none else skipString rest

def skipDigits (bytes : Bytes) : Option Bytes :=
  match bytes with
  | b :: rest => if isDigit b then some (rest.dropWhile isDigit) else none
  | [] => none

/-- What follows a number without its sign. -/
def skipNumber (bytes : Bytes) : Option Bytes := do
  let rest ← match bytes with
    | 0x30 :: rest => if (rest.head?.map isDigit).getD false then none else some rest
    | _ => skipDigits bytes
  let rest ← match rest with
    | 0x2e :: rest => skipDigits rest
    | _ => some rest
  match rest with
  | e :: rest' =>
    if e == 0x65 || e == 0x45 then
      match rest' with
      | sign :: digits => if sign == 0x2b || sign == 0x2d then skipDigits digits else skipDigits rest'
      | [] => none
    else some rest
  | [] => some rest

def skipWord (word : String) (bytes : Bytes) : Option Bytes :=
  let word := Bytes.ascii word
  if bytes.take word.length == word then some (bytes.drop word.length) else none

/-- What follows a value that is neither an array nor an object. -/
def skipScalar (bytes : Bytes) : Option Bytes :=
  match bytes with
  | 0x22 :: rest => skipString rest
  | 0x2d :: rest => skipNumber rest
  | 0x6e :: _ => skipWord "null" bytes
  | 0x74 :: _ => skipWord "true" bytes
  | 0x66 :: _ => skipWord "false" bytes
  | _ => skipNumber bytes

/-- A value that is being skipped. -/
inductive Nest where
  | array | object
  deriving DecidableEq, Repr

/-- What follows a member name and its colon. -/
def skipName (bytes : Bytes) : Option Bytes :=
  match skipBlanks bytes with
  | 0x22 :: rest => do
    match skipBlanks (← skipString rest) with
    | 0x3a :: rest => some rest
    | _ => none
  | _ => none

/-- Where a skipped value is read on. -/
inductive Skipping where
  /-- At the start of a value. -/
  | value
  /-- Behind a value. -/
  | behind

/-- What follows a value inside `nests`, the innermost first. Each round takes a byte. -/
def skipValue : Nat → Skipping → List Nest → Bytes → Option Bytes
  | 0, _, _, _ => none
  | _ + 1, .behind, [], bytes => some bytes
  | fuel + 1, .behind, nest :: nests, bytes =>
    match skipBlanks bytes with
    | 0x2c :: rest =>
      match nest with
      | .array => skipValue fuel .value (nest :: nests) rest
      | .object =>
        match skipName rest with
        | some rest => skipValue fuel .value (nest :: nests) rest
        | none => none
    | 0x5d :: rest => if nest = .array then skipValue fuel .behind nests rest else none
    | 0x7d :: rest => if nest = .object then skipValue fuel .behind nests rest else none
    | _ => none
  | fuel + 1, .value, nests, bytes =>
    match skipBlanks bytes with
    | 0x5b :: rest =>
      match skipBlanks rest with
      | 0x5d :: rest => skipValue fuel .behind nests rest
      | _ => skipValue fuel .value (.array :: nests) rest
    | 0x7b :: rest =>
      match skipBlanks rest with
      | 0x7d :: rest => skipValue fuel .behind nests rest
      | _ =>
        match skipName rest with
        | some rest => skipValue fuel .value (.object :: nests) rest
        | none => none
    | bytes =>
      match skipScalar bytes with
      | some rest => skipValue fuel .behind nests rest
      | none => none

/-- The number that `n` and some digits behind it write, as long as it is below `bound`. -/
def numberBelow (bound n : Nat) : Bytes → Option Nat
  | [] => if n < bound then some n else none
  | b :: digits =>
    if n < bound then numberBelow bound (n * 10 + (b.toNat - 0x30)) digits else none

/-- An expiry, or null, and what follows it. -/
def expiry? (bytes : Bytes) : Option (Option UInt64 × Bytes) :=
  match skipBlanks bytes with
  | 0x6e :: rest => do
    let rest ← skipWord "ull" rest
    some (none, rest)
  | bytes => do
    let digits := bytes.takeWhile isDigit
    let rest := bytes.drop digits.length
    if digits.isEmpty || (digits.head? == some 0x30 && 1 < digits.length) then none
    if rest.head? == some 0x2e || rest.head? == some 0x65 || rest.head? == some 0x45 then none
    let n ← numberBelow UInt64.size 0 digits
    some (some (UInt64.ofNat n), rest)

/-- The members of an object from the next name on. `found` is the expiry read so far. -/
def members? : Nat → Option (Option UInt64) → Bytes → Option (Option UInt64 × Bytes)
  | 0, _, _ => none
  | fuel + 1, found, bytes =>
    match skipBlanks bytes with
    | 0x22 :: rest => do
      let (name, rest) ← key? rest
      match skipBlanks rest with
      | 0x3a :: rest =>
        let (found, rest) ← (
          if name == "exp" then
            match found with
            | some _ => none
            | none => (expiry? rest).map fun (exp, rest) => (some exp, rest)
          else (skipValue (2 * rest.length + 2) .value [] rest).map fun rest => (found, rest))
        match skipBlanks rest with
        | 0x2c :: rest => members? fuel found rest
        | 0x7d :: rest => some (found.join, rest)
        | _ => none
      | _ => none
    | _ => none

/-- The expiry in some claims, if there is one; the outer `none` says that these are no claims. -/
def claimedExpiry? (json : Bytes) : Option (Option UInt64) := do
  let (found, rest) ← (
    match skipBlanks json with
    | 0x7b :: rest =>
      match skipBlanks rest with
      | 0x7d :: rest => some (none, rest)
      | _ => members? (rest.length + 1) none rest
    | 0x5b :: rest => do
      let (found, rest) ← expiry? rest
      match skipBlanks rest with
      | 0x5d :: rest => some (found, rest)
      | _ => none
    | _ => none)
  if (skipBlanks rest).isEmpty then some found else none

end SqlWire.Token
