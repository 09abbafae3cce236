import SqlWire.Proofs.Sql.Words
import SqlWire.Value

/-!
# Literals

The literal of a value is read from ordinary text to ordinary text, whatever stands behind it, and
no placeholder is met in it; nor does it change how the text in front of it is read (`Isolated`).
This holds of a quoted literal of any bytes (`isolated_quoted`), since what would end it is escaped
in the mode in which it is read (`spells_escaped`), and of names and numbers, which have no bytes that
matter (`isPlain`).
-/

namespace SqlWire

namespace Sql

/-- A literal that keeps to itself. -/
structure Isolated (noBackslash : Bool) (literal : Bytes) : Prop where
  passes : ∀ rest, Passes noBackslash rest .start literal .start
  /-- It does not turn a `-` in front of it into a comment. -/
  dashes : ∀ rest, startsDashes (literal ++ rest) = false
  /-- Nor a `--`, a `/` or a `*`. -/
  first : ∃ b more, literal = b :: more ∧ isBlank b = false ∧ b ≠ 0x2a ∧ b ≠ 0x2f

variable {noBackslash : Bool}

/-! ## Names and numbers -/

/-- Letters, digits, `_` and the decimal point. -/
def isPlain (b : UInt8) : Bool := isWordByte b || b == 0x2e

theorem beq_of_isPlain {b : UInt8} (plain : isPlain b = true) (c : UInt8)
    (other : isPlain c = false) : (b == c) = false := by
  refine beq_false_of_ne ?_
  rintro rfl
  cases plain.symm.trans other

theorem isBlank_of_isPlain {b : UInt8} (plain : isPlain b = true) : isBlank b = false := by
  have other := beq_of_isPlain plain
  simp [isBlank, other 0x20 rfl, other 0x09 rfl, other 0x0a rfl, other 0x0c rfl, other 0x0d rfl]

theorem ne_dash_of_isPlain {b : UInt8} (plain : isPlain b = true) : b ≠ 0x2d :=
  ne_of_beq_false (beq_of_isPlain plain 0x2d rfl)

theorem passes_plain {a : Bytes} (plain : a.all isPlain = true) (rest : Bytes) :
    Passes noBackslash rest .start a .start :=
  passes_ordinary (all_isOrdinary (by decide) plain) rest

theorem isolated_plain {a : Bytes} (some : a ≠ []) (plain : a.all isPlain = true) :
    Isolated noBackslash a := by
  obtain ⟨b, more, rfl⟩ := List.exists_cons_of_ne_nil some
  have first : isPlain b = true := (Bool.and_eq_true_iff.mp plain).1
  refine ⟨passes_plain plain, fun rest => startsDashes_of_ne (ne_dash_of_isPlain first),
    b, more, rfl, isBlank_of_isPlain first, ?_, ?_⟩
  · exact ne_of_beq_false (beq_of_isPlain first 0x2a rfl)
  · exact ne_of_beq_false (beq_of_isPlain first 0x2f rfl)

/-- A sign in front of a number does not begin a comment. -/
theorem isolated_negative {a : Bytes} (some : a ≠ []) (plain : a.all isPlain = true) :
    Isolated noBackslash (0x2d :: a) := by
  obtain ⟨b, more, rfl⟩ := List.exists_cons_of_ne_nil some
  have first : isPlain b = true := (Bool.and_eq_true_iff.mp plain).1
  have sign (rest : Bytes) : State.start.next noBackslash 0x2d (b :: rest) = .start := by
    simp [State.next, State.start, startsDashes_of_ne (ne_dash_of_isPlain first)]
  refine ⟨fun rest => .cons rfl ?_, fun rest => isBlank_of_isPlain first, 0x2d, b :: more, rfl, rfl,
    by decide, by decide⟩
  rw [List.cons_append, sign]
  exact passes_plain plain rest

/-- A name in front of a literal. -/
theorem Isolated.behind_plain {a literal : Bytes} (some : a ≠ []) (plain : a.all isPlain = true)
    (isolated : Isolated noBackslash literal) : Isolated noBackslash (a ++ literal) := by
  have name : Isolated noBackslash a := isolated_plain some plain
  obtain ⟨-, dashes, b, more, rfl, first⟩ := name
  refine ⟨fun rest => (passes_plain plain _).append (isolated.passes rest), fun rest => ?_,
    b, more ++ literal, rfl, first⟩
  rw [List.append_assoc]
  exact dashes _

/-! ## Quoted literals -/

/-- What is read of a byte that was written into a literal. Where a backslash escapes, a NUL is
written with the digit zero. -/
def readBack (noBackslash : Bool) (b : UInt8) : UInt8 := if !noBackslash && b == 0 then 0x30 else b

/-- A byte as it is written into a literal, in front of what follows it there. -/
theorem Spells.escapeByte {body content : Bytes}
    (spells : Spells noBackslash 0x27 body content) (b : UInt8) :
    Spells noBackslash 0x27 (Value.escapeByte noBackslash b ++ body)
      (readBack noBackslash b :: content) := by
  cases noBackslash with
  | true =>
    have read : readBack true b = b := rfl
    rw [read]
    by_cases mark : b = 0x27
    · subst mark
      exact .doubled spells
    · have kept : Value.escapeByte true b = [b] := by simp [Value.escapeByte, mark]
      rw [kept]
      exact .plain mark (fun _ => rfl) spells
  | false =>
    by_cases escaped : b = 0x27 ∨ b = 0x5c ∨ b = 0x22
    · have double : Value.escapeByte false b = [0x5c, b] := by
        simp [Value.escapeByte, or_assoc, escaped]
      have read : readBack false b = b := by
        rcases escaped with rfl | rfl | rfl <;> rfl
      rw [double, read]
      exact .escaped rfl spells
    · obtain ⟨mark, other, -⟩ := not_or.mp escaped |>.imp_right not_or.mp
      by_cases zero : b = 0
      · subst zero
        exact .escaped rfl spells
      · have kept : Value.escapeByte false b = [b] := by simp_all [Value.escapeByte]
        have read : readBack false b = b := by simp [readBack, zero]
        rw [kept, read]
        exact .plain mark (fun same => absurd same other) spells

theorem spells_escaped (data : Bytes) :
    Spells noBackslash 0x27 (data.flatMap (Value.escapeByte noBackslash))
      (data.map (readBack noBackslash)) := by
  induction data with
  | nil => exact .nil
  | cons b data ih =>
    rw [List.flatMap_cons, List.map_cons]
    exact ih.escapeByte b

/-- Inside the quotes of a literal. -/
def inLiteral : State := ⟨.quoted 0x27, false⟩

theorem passes_escaped (data rest : Bytes) :
    Passes noBackslash rest inLiteral (data.flatMap (Value.escapeByte noBackslash)) inLiteral :=
  (spells_escaped data).passes (.inl rfl) rest

theorem passes_quoted (data rest : Bytes) :
    Passes noBackslash rest .start (Value.quoted noBackslash data) .start :=
  .cons rfl ((passes_escaped data _).append (.single rfl rfl))

theorem isolated_quoted (data : Bytes) : Isolated noBackslash (Value.quoted noBackslash data) :=
  ⟨passes_quoted data, fun _ => startsDashes_of_ne (by decide), _, _, rfl, rfl, by decide,
    by decide⟩

/-! ## The literals of values -/

/-- A name or a number without a sign. -/
def IsWord (text : List Char) : Prop :=
  text ≠ [] ∧ ∀ c ∈ text, isPlain (UInt8.ofNat c.toNat) = true

theorem isPlain_of_isDigit {c : Char} (digit : c.isDigit = true) :
    isPlain (UInt8.ofNat c.toNat) = true := by
  have table : ∀ n < 58, 48 ≤ n → isPlain (UInt8.ofNat n) = true := by decide
  obtain ⟨low, high⟩ := Bytes.digit_bounds digit
  exact table _ (by omega) low

theorem isWord_digits {text : List Char} (some : text ≠ [])
    (digits : ∀ c ∈ text, c.isDigit = true) : IsWord text :=
  ⟨some, fun c mem => isPlain_of_isDigit (digits c mem)⟩

theorem isWord_toString (n : Nat) : IsWord (toString n).toList := by
  rw [Nat.toString_eq_ofList_toDigits, String.toList_ofList]
  exact isWord_digits Nat.toDigits_ne_nil fun c mem =>
    Nat.isDigit_of_mem_toDigits (by decide) (by decide) mem

theorem isolated_ascii {text : String} (word : IsWord text.toList) :
    Isolated noBackslash (Bytes.ascii text) := by
  refine isolated_plain (by simpa [Bytes.ascii] using word.1) ?_
  simpa [Bytes.ascii, Function.comp_def] using word.2

theorem isolated_ascii_negative {text : String} (word : IsWord text.toList) :
    Isolated noBackslash (Bytes.ascii ("-" ++ text)) := by
  have signed : Bytes.ascii ("-" ++ text) = 0x2d :: Bytes.ascii text := by
    simp [Bytes.ascii]
  rw [signed]
  refine isolated_negative (by simpa [Bytes.ascii] using word.1) ?_
  simpa [Bytes.ascii, Function.comp_def] using word.2

theorem mem_of_mem_trimZeros {c : Char} {digits : List Char} (mem : c ∈ Double.trimZeros digits) :
    c ∈ digits := by
  unfold Double.trimZeros at mem
  rw [List.mem_reverse] at mem
  exact List.mem_reverse.mp ((List.dropWhile_sublist _).mem mem)

/-- The decimal of a double consists of digits and a point. -/
theorem isWord_positional (d : Decimal.Digits) : IsWord (Double.positional d).toList := by
  have zero : isPlain (UInt8.ofNat '0'.toNat) = true := rfl
  have digits {c : Char} (mem : c ∈ Double.trimZeros (toString d.digits).toList) :
      isPlain (UInt8.ofNat c.toNat) = true :=
    (isWord_toString d.digits).2 c (mem_of_mem_trimZeros mem)
  unfold Double.positional
  dsimp only
  split
  · rw [String.toList_ofList]
    refine ⟨by simp, fun c mem => ?_⟩
    simp only [List.mem_append] at mem
    rcases mem with (mem | mem) | mem
    · obtain rfl | rfl : c = '0' ∨ c = '.' := by simpa using mem
      · rfl
      · rfl
    · rw [List.eq_of_mem_replicate mem]
      exact zero
    · exact digits mem
  · next positive =>
    split
    · rw [String.toList_ofList]
      refine ⟨?_, fun c mem => ?_⟩
      · rw [← List.length_pos_iff, List.length_append, List.length_replicate]
        omega
      · rcases List.mem_append.mp mem with mem | mem
        · exact digits mem
        · rw [List.eq_of_mem_replicate mem]
          exact zero
    · rw [String.toList_ofList]
      refine ⟨by simp, fun c mem => ?_⟩
      rcases List.mem_append.mp mem with mem | mem
      · exact digits (List.mem_of_mem_take mem)
      · rcases List.mem_cons.mp mem with rfl | mem
        · rfl
        · exact digits (List.mem_of_mem_drop mem)

/-- A double is a name, or a number with or without a sign. -/
theorem isolated_double (x : Double) : Isolated noBackslash (Bytes.ascii x.text) := by
  have name {text : String} (some : text.toList ≠ [])
      (letters : text.toList.all (fun c => isPlain (UInt8.ofNat c.toNat)) = true) :
      IsWord text.toList := ⟨some, List.all_eq_true.mp letters⟩
  have magnitude : IsWord (if x.biased == 0x7ff then "inf"
      else if x.bits <<< 1 == 0 then "0"
      else Double.positional (Decimal.shortest x.magnitude)).toList := by
    split
    · exact name (by decide) (by decide)
    · split
      · exact name (by decide) (by decide)
      · exact isWord_positional _
  unfold Double.text
  split
  · exact isolated_ascii (name (by decide) (by decide))
  · dsimp only
    split
    · exact isolated_ascii_negative magnitude
    · exact isolated_ascii magnitude

theorem isolated_literal (value : Value) : Isolated noBackslash (value.literal noBackslash) := by
  cases value with
  | null =>
    show Isolated noBackslash (Bytes.ascii "NULL")
    exact isolated_plain (by decide) (by decide)
  | int v =>
    show Isolated noBackslash (Bytes.ascii (toString v.toInt))
    cases v.toInt with
    | ofNat n => exact isolated_ascii (isWord_toString n)
    | negSucc n => exact isolated_ascii_negative (isWord_toString (n + 1))
  | uint v => exact isolated_ascii (isWord_toString v.toNat)
  | double v => exact isolated_double v
  | bytes v => exact (isolated_quoted v).behind_plain (by decide) (by decide)
  | text v => exact isolated_quoted (Text.encode v)

end Sql

end SqlWire
