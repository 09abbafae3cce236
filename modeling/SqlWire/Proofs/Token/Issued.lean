import SqlWire.Token.Jwt

/-!
# Tokens as they are issued

A provider of identities writes a token as three texts in base64, joined by points: a header, the claims
and a signature (`issued`). Whatever the header and the signature are, the claims are read back
(`claims_issued`), and every expiry of 64 bits is (`expiry_issued`).
-/

namespace SqlWire.Token

/-! ## Base64 -/

/-- The letter for six bits. -/
def letter (n : Nat) : UInt8 :=
  if n < 26 then UInt8.ofNat (0x41 + n)
  else if n < 52 then UInt8.ofNat (0x61 + (n - 26))
  else if n < 62 then UInt8.ofNat (0x30 + (n - 52))
  else if n = 62 then 0x2d
  else 0x5f

/-- The letters that stand for some bytes. -/
def encodeBase64 : Bytes → Bytes
  | [] => []
  | [a] => [letter (a.toNat / 4), letter (a.toNat % 4 * 16)]
  | [a, b] =>
    let n := a.toNat * 256 + b.toNat
    [letter (n / 1024), letter (n / 16 % 64), letter (n % 16 * 4)]
  | a :: b :: c :: rest =>
    let n := (a.toNat * 256 + b.toNat) * 256 + c.toNat
    letter (n / 262144) :: letter (n / 4096 % 64) :: letter (n / 64 % 64) :: letter (n % 64) ::
      encodeBase64 rest

theorem letterBits?_letter : ∀ n < 64, letterBits? (letter n) = some n := by
  decide

theorem ofNat_eq {n : Nat} {b : UInt8} (low : n % 256 = b.toNat) : UInt8.ofNat n = b := by
  rw [← UInt8.toNat_inj, UInt8.toNat_ofNat']
  exact low

theorem decodeBase64_encodeBase64 (bytes : Bytes) : decodeBase64 (encodeBase64 bytes) = some bytes := by
  fun_induction encodeBase64 bytes with
  | case1 => rfl
  | case2 a =>
    have lt := a.toNat_lt
    have sum : a.toNat / 4 * 64 + a.toNat % 4 * 16 = a.toNat * 16 := by omega
    rw [decodeBase64, letterBits?_letter _ (by omega), letterBits?_letter _ (by omega)]
    simp only [Option.bind_eq_bind, Option.bind_some, sum]
    rw [if_pos (by simp), ofNat_eq (b := a) (by omega)]
  | case3 a b n =>
    have lt := a.toNat_lt
    have lt' := b.toNat_lt
    have bound : n < 65536 := by omega
    have sum : (n / 1024 * 64 + n / 16 % 64) * 64 + n % 16 * 4 = n * 4 := by omega
    rw [decodeBase64, letterBits?_letter _ (by omega), letterBits?_letter _ (by omega),
      letterBits?_letter _ (by omega)]
    simp only [Option.bind_eq_bind, Option.bind_some, sum]
    rw [if_pos (by simp), ofNat_eq (b := a) (by omega), ofNat_eq (b := b) (by omega)]
  | case4 a b c rest n ih =>
    have lt := a.toNat_lt
    have lt' := b.toNat_lt
    have lt'' := c.toNat_lt
    have bound : n < 16777216 := by omega
    have sum : ((n / 262144 * 64 + n / 4096 % 64) * 64 + n / 64 % 64) * 64 + n % 64 = n := by omega
    rw [decodeBase64, letterBits?_letter _ (by omega), letterBits?_letter _ (by omega),
      letterBits?_letter _ (by omega), letterBits?_letter _ (by omega), ih]
    simp only [Option.bind_eq_bind, Option.bind_some, sum]
    rw [ofNat_eq (b := a) (by omega), ofNat_eq (b := b) (by omega), ofNat_eq (b := c) (by omega)]

/-- No point, no equals sign, and in ASCII: all that counts about the letters of a token. -/
abbrev IsPlainLetter (b : UInt8) : Prop := b.toNat < 128 ∧ b ≠ 0x2e ∧ b ≠ 0x3d

theorem isPlainLetter_letter : ∀ n < 64, IsPlainLetter (letter n) := by
  decide

theorem isPlainLetter_of_mem {b : UInt8} {bytes : Bytes} (mem : b ∈ encodeBase64 bytes) :
    IsPlainLetter b := by
  fun_induction encodeBase64 bytes with
  | case1 => cases mem
  | case2 a =>
    have lt := a.toNat_lt
    simp only [List.mem_cons, List.not_mem_nil, or_false] at mem
    rcases mem with rfl | rfl <;> exact isPlainLetter_letter _ (by omega)
  | case3 a b n =>
    have lt := a.toNat_lt
    have lt' := b.toNat_lt
    simp only [List.mem_cons, List.not_mem_nil, or_false] at mem
    rcases mem with rfl | rfl | rfl <;> exact isPlainLetter_letter _ (by omega)
  | case4 a b c rest n ih =>
    have lt := a.toNat_lt
    have lt' := b.toNat_lt
    have lt'' := c.toNat_lt
    simp only [List.mem_cons] at mem
    rcases mem with rfl | rfl | rfl | rfl | mem
    iterate 4 exact isPlainLetter_letter _ (by omega)
    exact ih mem

/-! ## The parts of a token -/

/-- The text of some ASCII characters. -/
def textOf (bytes : Bytes) : String := String.ofList (bytes.map fun b => Char.ofNat b.toNat)

theorem encode_textOf {bytes : Bytes} (low : ∀ b ∈ bytes, b.toNat < 128) :
    Text.encode (textOf bytes) = bytes := by
  have table : ∀ n < 128, String.utf8EncodeChar (Char.ofNat n) = [UInt8.ofNat n] := by decide
  rw [Text.encode, textOf, String.toUTF8, String.toByteArray_ofList, List.utf8Encode]
  refine (Bytes.ofWire_toWire _).trans ?_
  induction bytes with
  | nil => rfl
  | cons b bytes ih =>
    obtain ⟨first, low⟩ := List.forall_mem_cons.mp low
    rw [List.map_cons, List.flatMap_cons, ih low, table _ first, UInt8.ofNat_toNat]
    rfl

theorem splitAt_append {separator : UInt8} {part : Bytes} (inPart : ∀ b ∈ part, b ≠ separator)
    (before rest : Bytes) : splitAt separator before (part ++ separator :: rest) =
      (before.reverse ++ part) :: splitAt separator [] rest := by
  induction part generalizing before with
  | nil => simp [splitAt]
  | cons b part ih =>
    obtain ⟨ne, inPart⟩ := List.forall_mem_cons.mp inPart
    simp [splitAt, ne, ih inPart]

theorem trimEquals_of_not_mem {bytes : Bytes} (none : ∀ b ∈ bytes, b ≠ 0x3d) :
    trimEquals bytes = bytes := by
  have kept : bytes.reverse.dropWhile (· == 0x3d) = bytes.reverse := by
    cases last : bytes.reverse with
    | nil => rfl
    | cons b rest =>
      have mem : b ∈ bytes := List.mem_reverse.mp (last ▸ List.mem_cons_self)
      exact List.dropWhile_cons_of_neg (by simpa using none b mem)
  rw [trimEquals, kept, List.reverse_reverse]

/-- A token with a header, claims and a signature. -/
def issued (header json signature : Bytes) : String :=
  textOf (encodeBase64 header ++ 0x2e :: (encodeBase64 json ++ 0x2e :: encodeBase64 signature))

theorem claims_issued (header json signature : Bytes) :
    claims (issued header json signature) = .ok json := by
  have noPoint (bytes : Bytes) : ∀ b ∈ encodeBase64 bytes, b ≠ 0x2e :=
    fun _ mem => (isPlainLetter_of_mem mem).2.1
  have noEquals (bytes : Bytes) : ∀ b ∈ encodeBase64 bytes, b ≠ 0x3d :=
    fun _ mem => (isPlainLetter_of_mem mem).2.2
  have read : Text.encode (issued header json signature) =
      encodeBase64 header ++ 0x2e :: (encodeBase64 json ++ 0x2e :: encodeBase64 signature) := by
    refine encode_textOf fun b mem => ?_
    simp only [List.mem_append, List.mem_cons] at mem
    rcases mem with mem | rfl | mem | rfl | mem
    · exact (isPlainLetter_of_mem mem).1
    · decide
    · exact (isPlainLetter_of_mem mem).1
    · decide
    · exact (isPlainLetter_of_mem mem).1
  rw [claims, read, splitAt_append (noPoint header), splitAt_append (noPoint json)]
  simp [trimEquals_of_not_mem (noEquals json), decodeBase64_encodeBase64]

/-! ## The claims -/

/-- The digits of a number. -/
def decimal (n : Nat) : Bytes := Bytes.ascii (toString n)

theorem decimal_eq (n : Nat) :
    decimal n = (Nat.toDigits 10 n).map fun c => UInt8.ofNat c.toNat := by
  rw [decimal, Bytes.ascii, Nat.toString_eq_ofList_toDigits, String.toList_ofList]

theorem toNat_digit {c : Char} (digit : c.isDigit = true) : (UInt8.ofNat c.toNat).toNat = c.toNat := by
  obtain ⟨low, high⟩ := Bytes.digit_bounds digit
  rw [UInt8.toNat_ofNat']
  omega

theorem isDigit_decimal {n : Nat} {b : UInt8} (mem : b ∈ decimal n) : isDigit b = true := by
  rw [decimal_eq] at mem
  obtain ⟨c, inText, rfl⟩ := List.mem_map.mp mem
  have digit : c.isDigit = true := Nat.isDigit_of_mem_toDigits (by decide) (by decide) inText
  obtain ⟨low, high⟩ := Bytes.digit_bounds digit
  simp only [isDigit, Bool.and_eq_true, decide_eq_true_eq, UInt8.le_iff_toNat_le, toNat_digit digit]
  exact ⟨low, high⟩

theorem le_ofDigitChars (digits : List Char) (n : Nat) : n ≤ Nat.ofDigitChars 10 digits n := by
  induction digits generalizing n with
  | nil => exact Nat.le_refl n
  | cons c digits ih =>
    have le := ih (10 * n + (c.toNat - '0'.toNat))
    rw [Nat.ofDigitChars_cons]
    omega

theorem numberBelow_digits {bound : Nat} {digits : List Char} (isDigit : ∀ c ∈ digits, c.isDigit = true)
    {n : Nat} (small : Nat.ofDigitChars 10 digits n < bound) :
    numberBelow bound n (digits.map fun c => UInt8.ofNat c.toNat) =
      some (Nat.ofDigitChars 10 digits n) := by
  induction digits generalizing n with
  | nil => exact if_pos small
  | cons c digits ih =>
    obtain ⟨first, isDigit⟩ := List.forall_mem_cons.mp isDigit
    have inRange : n < bound := Nat.lt_of_le_of_lt (le_ofDigitChars _ n) small
    rw [Nat.ofDigitChars_cons] at small ⊢
    rw [List.map_cons, numberBelow, if_pos inRange, toNat_digit first, Nat.mul_comm n 10]
    exact ih isDigit small

/-- A number that is not zero does not begin with a zero. -/
theorem head?_toDigits {n : Nat} (pos : 0 < n) : (Nat.toDigits 10 n).head? ≠ some '0' := by
  induction n using Nat.strongRecOn with
  | ind n ih =>
    rw [Nat.toDigits_eq_if (by decide)]
    split
    · next small =>
      have table : ∀ d < 10, 0 < d → d.digitChar ≠ '0' := by decide
      simpa using table n small pos
    · next large =>
      have first := ih (n / 10) (by omega) (by omega)
      cases digits : Nat.toDigits 10 (n / 10) with
      | nil => exact absurd digits Nat.toDigits_ne_nil
      | cons c rest => simpa [digits] using first

/-- Claims with nothing but an expiry. -/
def expiring (seconds : UInt64) : Bytes :=
  Bytes.ascii "\x7b\"exp\":" ++ decimal seconds.toNat ++ Bytes.ascii "\x7d"

theorem takeWhile_decimal (n : Nat) (rest : Bytes) :
    (decimal n ++ 0x7d :: rest).takeWhile isDigit = decimal n := by
  rw [List.takeWhile_append_of_pos fun b mem => isDigit_decimal mem]
  simp [isDigit]

theorem numberBelow_decimal (seconds : UInt64) :
    numberBelow UInt64.size 0 (decimal seconds.toNat) = some seconds.toNat := by
  have value : Nat.ofDigitChars 10 (Nat.toDigits 10 seconds.toNat) 0 = seconds.toNat :=
    Nat.ofDigitChars_toDigits (by decide) (by decide)
  have small : Nat.ofDigitChars 10 (Nat.toDigits 10 seconds.toNat) 0 < UInt64.size := by
    rw [value]
    exact seconds.toNat_lt
  rw [decimal_eq, numberBelow_digits (fun c mem => Nat.isDigit_of_mem_toDigits (by decide) (by decide) mem)
    small, value]

/-- There is a digit, and only zero begins with a zero. -/
theorem decimal_starts (n : Nat) :
    ∃ b rest, decimal n = b :: rest ∧ isDigit b = true ∧ (b = 0x30 → rest = []) := by
  cases starts : decimal n with
  | nil =>
    rw [decimal_eq, List.map_eq_nil_iff] at starts
    exact absurd starts Nat.toDigits_ne_nil
  | cons b rest =>
    refine ⟨b, rest, rfl, isDigit_decimal (starts ▸ List.mem_cons_self), ?_⟩
    rintro rfl
    rcases Nat.eq_zero_or_pos n with rfl | pos
    · exact (List.cons.inj (starts.symm.trans (rfl : decimal 0 = [0x30]))).2
    · rw [decimal_eq] at starts
      obtain ⟨c, digits, text, code, -⟩ := List.map_eq_cons_iff.mp starts
      have digit : c.isDigit = true :=
        Nat.isDigit_of_mem_toDigits (by decide) (by decide) (text ▸ List.mem_cons_self)
      have zero : c.toNat = 48 := by
        rw [← toNat_digit digit, code]
        rfl
      have first : c = '0' := by
        rw [← Char.ofNat_toNat c, zero]
      exact absurd (by rw [text, first]; rfl) (head?_toDigits pos)

theorem of_isDigit {b : UInt8} (digit : isDigit b = true) : isJsonBlank b = false ∧ b ≠ 0x6e := by
  grind [isDigit, isJsonBlank]

theorem expiry?_decimal (seconds : UInt64) (rest : Bytes) :
    expiry? (decimal seconds.toNat ++ 0x7d :: rest) = some (some seconds, 0x7d :: rest) := by
  obtain ⟨b, digits, starts, digit, noZero⟩ := decimal_starts seconds.toNat
  obtain ⟨notBlank, notNull⟩ := of_isDigit digit
  have skipped : skipBlanks (decimal seconds.toNat ++ 0x7d :: rest) =
      decimal seconds.toNat ++ 0x7d :: rest := by
    rw [starts, skipBlanks, List.cons_append, List.dropWhile_cons_of_neg (by simp [notBlank])]
  unfold expiry?
  rw [skipped]
  split
  · next null =>
    rw [starts] at null
    exact absurd (List.cons.inj null).1 notNull
  · have short : ((decimal seconds.toNat).isEmpty ||
        ((decimal seconds.toNat).head? == some 0x30 && 1 < (decimal seconds.toNat).length)) = false := by
      rw [starts]
      by_cases zero : b = 0x30
      · simp [noZero zero]
      · simp [zero]
    simp only [takeWhile_decimal, List.drop_left, short, numberBelow_decimal]
    simp

theorem claimedExpiry?_expiring (seconds : UInt64) :
    claimedExpiry? (expiring seconds) = some (some seconds) := by
  have written : expiring seconds =
      0x7b :: 0x22 :: 0x65 :: 0x78 :: 0x70 :: 0x22 :: 0x3a :: (decimal seconds.toNat ++ [0x7d]) := rfl
  have key : key? (0x65 :: 0x78 :: 0x70 :: 0x22 :: 0x3a :: (decimal seconds.toNat ++ [0x7d])) =
      some ("exp", 0x3a :: (decimal seconds.toNat ++ [0x7d])) := by
    rfl
  have members (fuel : Nat) : members? (fuel + 1) none
      (0x22 :: 0x65 :: 0x78 :: 0x70 :: 0x22 :: 0x3a :: (decimal seconds.toNat ++ [0x7d])) =
        some (some seconds, []) := by
    simp [members?, skipBlanks, isJsonBlank, key, expiry?_decimal]
  rw [written]
  simp [claimedExpiry?, skipBlanks, isJsonBlank, members]

/-- The first second that the clock does not show, 2^63. -/
def clockEnd : Nat := 0x8000000000000000

/-- Every expiry of 64 bits is found in a token that is issued with it, and read if the clock shows it. -/
theorem expiry_issued (header signature : Bytes) (seconds : UInt64) :
    expiry (issued header (expiring seconds) signature) =
      if seconds.toNat < clockEnd then .ok seconds.toNat else .error .clockRange := by
  rw [expiry, claims_issued]
  dsimp only
  rw [claimedExpiry?_expiring]
  rfl

end SqlWire.Token
