import SqlWire.Field

/-!
# Fields that were written

Each reader of a field takes back what its writer has put in front of a message, and leaves the rest.
The first byte of a length-encoded integer is never the one of NULL or of an error, and it tells how
large the integer is (`lenEnc_cons`). Of any message, what was read of an integer is one of its forms
(`form_of_readLenEnc`), and what a reader leaves is the message's end (`suffix_of_readLenEncBytes`).
-/

namespace Except

variable {ε α β : Type}

/-- A reading in two parts that went well did so in both. -/
theorem ok_of_bind {read : Except ε α} {next : α → Except ε β} {b : β} (h : (read >>= next) = .ok b) :
    ∃ a, read = .ok a ∧ next a = .ok b := by
  cases read with
  | error e => cases h
  | ok a => exact ⟨a, rfl, h⟩

end Except

namespace SqlWire.Field

variable {data rest : Bytes}

theorem take_append {field : FixedField} {n : Nat} {bytes : Bytes} (length : bytes.length = n) :
    take field n (bytes ++ rest) = .ok (bytes, rest) := by
  subst length
  unfold take
  rw [List.take_left, List.drop_left, if_neg (Nat.lt_irrefl _)]

theorem readBytes_append (bytes : Bytes) :
    readBytes bytes.length (bytes ++ rest) = .ok (bytes, rest) :=
  take_append rfl

@[simp] theorem readU8_cons (b : UInt8) : readU8 (b :: rest) = .ok (b, rest) := rfl

/-- An integer of fixed width is read back if its bytes have room for it. -/
theorem return_ofNatLE {α : Type} {field : FixedField} {n k : Nat} {ofNat : Nat → α} {a : α}
    (value : ofNat k = a) (small : k < Nat.pow 256 n) :
    (take field n (Bytes.ofNatLE n k ++ rest) >>= fun r => pure (ofNat r.1.toNatLE, r.2)) =
      .ok (a, rest) := by
  rw [take_append (Bytes.length_ofNatLE n k)]
  change Except.ok (ofNat (Bytes.ofNatLE n k).toNatLE, rest) = _
  rw [Bytes.toNatLE_ofNatLE, Nat.mod_eq_of_lt small, value]

@[simp] theorem readU16_u16 (v : UInt16) : readU16 (u16 v ++ rest) = .ok (v, rest) :=
  return_ofNatLE UInt16.ofNat_toNat v.toNat_lt

@[simp] theorem readU32_u32 (v : UInt32) : readU32 (u32 v ++ rest) = .ok (v, rest) :=
  return_ofNatLE UInt32.ofNat_toNat v.toNat_lt

@[simp] theorem readU64_u64 (v : UInt64) : readU64 (u64 v ++ rest) = .ok (v, rest) :=
  return_ofNatLE UInt64.ofNat_toNat v.toNat_lt

theorem readU24_u24 {v : UInt32} (small : v ≤ 0xffffff) : readU24 (u24 v ++ rest) = .ok (v, rest) :=
  return_ofNatLE UInt32.ofNat_toNat (Nat.lt_succ_of_le (UInt32.le_iff_toNat_le.mp small))

/-! ## Length-encoded fields -/

theorem toNat_of_small {v : UInt64} (small : v < 0xfb) : v.toUInt8.toNat = v.toNat := by
  have bound : v.toNat < 251 := UInt64.lt_iff_toNat_lt.mp small
  rw [UInt64.toNat_toUInt8]
  omega

theorem toUInt8_lt_of_small {v : UInt64} (small : v < 0xfb) : v.toUInt8 < 0xfb := by
  rw [UInt8.lt_iff_toNat_lt, toNat_of_small small]
  exact UInt64.lt_iff_toNat_lt.mp small

/-- The first byte of a length-encoded integer. -/
theorem lenEnc_cons (v : UInt64) : ∃ lead behind, lenEnc v = lead :: behind ∧ lead ≠ 0xff ∧ lead ≠ 0xfb ∧
    (lead = 0 → v = 0) ∧ (lead = 0xfe → 0xffffff < v) := by
  unfold lenEnc
  split
  · next small =>
    have byte := toUInt8_lt_of_small small
    have other {b : UInt8} (large : 0xfb ≤ b) : v.toUInt8 ≠ b := by
      rintro rfl
      exact absurd byte (UInt8.not_lt.mpr large)
    refine ⟨v.toUInt8, [], rfl, other (by decide), other (by decide), fun zero => ?_,
      fun eof => absurd eof (other (by decide))⟩
    apply UInt64.toNat_inj.mp
    rw [← toNat_of_small small, zero]
    rfl
  · split
    · exact ⟨0xfc, _, rfl, by decide, by decide, nofun, nofun⟩
    · split
      · exact ⟨0xfd, _, rfl, by decide, by decide, nofun, nofun⟩
      · next large => exact ⟨0xfe, _, rfl, by decide, by decide, nofun, fun _ => UInt64.not_le.mp large⟩

theorem readLenEnc_of_small {b : UInt8} (small : b < 0xfb) :
    readLenEnc (b :: rest) = .ok (some b.toUInt64, rest) := by
  have other {lead : UInt8} (large : 0xfb ≤ lead) : (b == lead) = false := by
    rw [beq_eq_false_iff_ne]
    rintro rfl
    exact absurd small (UInt8.not_lt.mpr large)
  unfold readLenEnc
  rw [readU8_cons]
  change (if (b == 0xfb) = true then _ else _) = _
  rw [other (by decide), other (by decide), other (by decide), other (by decide), other (by decide)]
  rfl

theorem readLenEnc_lenEnc (v : UInt64) : readLenEnc (lenEnc v ++ rest) = .ok (some v, rest) := by
  unfold lenEnc
  split
  · next small =>
    have value : v.toUInt8.toUInt64 = v := by
      apply UInt64.toNat_inj.mp
      rw [UInt8.toNat_toUInt64, toNat_of_small small]
    rw [List.singleton_append, readLenEnc_of_small (toUInt8_lt_of_small small), value]
  · split
    · next small =>
      have value : v.toUInt16.toUInt64 = v := by
        have bound : v.toNat ≤ 0xffff := UInt64.le_iff_toNat_le.mp small
        apply UInt64.toNat_inj.mp
        rw [UInt16.toNat_toUInt64, UInt64.toNat_toUInt16]
        omega
      change (readU16 (u16 v.toUInt16 ++ rest) >>= fun r => pure (some r.1.toUInt64, r.2)) = _
      rw [readU16_u16]
      exact congrArg (fun v => Except.ok (some v, rest)) value
    · split
      · next small =>
        have bound : v.toNat ≤ 0xffffff := UInt64.le_iff_toNat_le.mp small
        have low : v.toUInt32.toNat = v.toNat := by
          rw [UInt64.toNat_toUInt32]
          omega
        have value : v.toUInt32.toUInt64 = v := by
          apply UInt64.toNat_inj.mp
          rw [UInt32.toNat_toUInt64, low]
        change (readU24 (u24 v.toUInt32 ++ rest) >>= fun r => pure (some r.1.toUInt64, r.2)) = _
        rw [readU24_u24 (UInt32.le_iff_toNat_le.mpr (low ▸ bound))]
        exact congrArg (fun v => Except.ok (some v, rest)) value
      · change (readU64 (u64 v ++ rest) >>= fun r => pure (some r.1, r.2)) = _
        rw [readU64_u64]
        rfl

@[simp] theorem readLenEncU64_lenEnc (v : UInt64) : readLenEncU64 (lenEnc v ++ rest) = .ok (v, rest) := by
  unfold readLenEncU64
  rw [readLenEnc_lenEnc]
  rfl

/-- A byte string is read back if its length fits into the integer before it. -/
theorem readLenEncBytes_lenEncBytes {bytes : Bytes} (fits : bytes.length < UInt64.size) :
    readLenEncBytes (lenEncBytes bytes ++ rest) = .ok (some bytes, rest) := by
  unfold readLenEncBytes lenEncBytes
  rw [List.append_assoc, readLenEnc_lenEnc]
  change (readBytes (UInt64.ofNat bytes.length).toNat (bytes ++ rest) >>= fun r =>
    pure (some r.1, r.2)) = _
  rw [UInt64.toNat_ofNat_of_lt' fits, readBytes_append]
  rfl

/-- A text after its length. -/
def lenEncText (text : String) : Bytes := lenEncBytes (Text.encode text)

theorem readLenEncText_lenEncText {text : String} (fits : (Text.encode text).length < UInt64.size) :
    readLenEncText (lenEncText text ++ rest) = .ok (text, rest) := by
  unfold readLenEncText lenEncText
  rw [readLenEncBytes_lenEncBytes fits]
  change (Field.text .lengthEncoded (Text.encode text) >>= fun text => pure (text, rest)) = _
  unfold Field.text
  rw [Text.decode_encode]
  rfl

/-! ## Texts that end at a NUL -/

theorem readTerminated_terminated {bytes : Bytes} (plain : 0 ∉ bytes) :
    readTerminated (terminated bytes ++ rest) = .ok (bytes, rest) := by
  have front : (bytes ++ 0 :: rest).takeWhile (· != 0) = bytes := by
    rw [List.takeWhile_append_of_pos, List.takeWhile_cons_of_neg (by decide), List.append_nil]
    intro b mem
    exact bne_iff_ne.mpr fun zero => plain (zero ▸ mem)
  unfold readTerminated terminated
  rw [List.append_assoc, List.singleton_append]
  dsimp only
  rw [front, List.drop_left]

theorem readTerminated_of_not_mem {bytes : Bytes} (plain : 0 ∉ bytes) :
    readTerminated bytes = .error .unterminated := by
  have whole : bytes.takeWhile (· != 0) = bytes := by
    rw [← List.append_nil bytes, List.takeWhile_append_of_pos, List.takeWhile_nil]
    intro b mem
    exact bne_iff_ne.mpr fun zero => plain (zero ▸ mem)
  unfold readTerminated
  dsimp only
  rw [whole, List.drop_length]

theorem readTerminatedText_terminatedText {text : String} (plain : 0 ∉ Text.encode text) :
    readTerminatedText (terminatedText text ++ rest) = .ok (text, rest) := by
  unfold readTerminatedText terminatedText
  rw [readTerminated_terminated plain]
  change (Field.text .terminated (Text.encode text) >>= fun text => pure (text, rest)) = _
  unfold Field.text
  rw [Text.decode_encode]
  rfl

/-! ## What a reader leaves -/

theorem eq_of_take {field : FixedField} {n : Nat} {bytes : Bytes}
    (read : take field n data = .ok (bytes, rest)) : data = bytes ++ rest := by
  unfold take at read
  dsimp only at read
  split at read
  · cases read
  · cases read
    exact (List.take_append_drop n data).symm

theorem length_of_take {field : FixedField} {n : Nat} {bytes : Bytes}
    (read : take field n data = .ok (bytes, rest)) : bytes.length = n := by
  unfold take at read
  dsimp only at read
  split at read
  · cases read
  · next long =>
    cases read
    have := List.length_take_le n data
    omega

theorem eq_of_readU8 {b : UInt8} (read : readU8 data = .ok (b, rest)) : data = b :: rest := by
  cases data with
  | nil => cases read
  | cons b data =>
    cases read
    rfl

/-- The bytes of an integer of fixed width stand in front of what is left. -/
theorem bytes_of_return {α : Type} {field : FixedField} {n : Nat} {ofNat : Nat → α} {toNat : α → Nat}
    (faithful : ∀ k < Nat.pow 256 n, toNat (ofNat k) = k) {a : α}
    (read : (take field n data >>= fun r => pure (ofNat r.1.toNatLE, r.2)) = .ok (a, rest)) :
    ∃ bytes : Bytes, bytes.length = n ∧ data = bytes ++ rest ∧ toNat a = bytes.toNatLE := by
  obtain ⟨⟨bytes, behind⟩, taken, eq⟩ := Except.ok_of_bind read
  cases eq
  have length : bytes.length = n := length_of_take taken
  exact ⟨bytes, length, eq_of_take taken, faithful _ (length ▸ bytes.toNatLE_lt)⟩

theorem bytes_of_readU16 {v : UInt16} (read : readU16 data = .ok (v, rest)) :
    ∃ bytes : Bytes, bytes.length = 2 ∧ data = bytes ++ rest ∧ v.toNat = bytes.toNatLE :=
  bytes_of_return (fun _ => UInt16.toNat_ofNat_of_lt') read

theorem bytes_of_readU24 {v : UInt32} (read : readU24 data = .ok (v, rest)) :
    ∃ bytes : Bytes, bytes.length = 3 ∧ data = bytes ++ rest ∧ v.toNat = bytes.toNatLE :=
  bytes_of_return (fun _ small => UInt32.toNat_ofNat_of_lt' (Nat.lt_trans small (by decide))) read

theorem bytes_of_readU64 {v : UInt64} (read : readU64 data = .ok (v, rest)) :
    ∃ bytes : Bytes, bytes.length = 8 ∧ data = bytes ++ rest ∧ v.toNat = bytes.toNatLE :=
  bytes_of_return (fun _ => UInt64.toNat_ofNat_of_lt') read

/-- The lead bytes of wide integers, and how many bytes follow each. -/
def widths : List (UInt8 × Nat) := [(0xfc, 2), (0xfd, 3), (0xfe, 8)]

/-- The forms from which a length-encoded integer is read, `none` for NULL. A wide form may have more
bytes than its integer needs. -/
inductive LenEncForm : Option UInt64 → Bytes → Prop
  | null : LenEncForm none [0xfb]
  | small {lead : UInt8} {v : UInt64} (small : lead < 0xfb) (value : v.toNat = lead.toNat) :
      LenEncForm (some v) [lead]
  | wide {lead : UInt8} {bytes : Bytes} {v : UInt64} (width : (lead, bytes.length) ∈ widths)
      (value : v.toNat = bytes.toNatLE) : LenEncForm (some v) (lead :: bytes)

/-- The bytes behind a lead, whatever integer they were read into. -/
theorem form_of_wide {α : Type} {lead : UInt8} {n : Nat} {run : Except ProtocolFault (α × Bytes)}
    {v : Option UInt64} (width : (lead, n) ∈ widths) (f : α → UInt64)
    (value : ∀ {a rest}, run = .ok (a, rest) →
      ∃ bytes : Bytes, bytes.length = n ∧ data = bytes ++ rest ∧ (f a).toNat = bytes.toNatLE)
    (read : (run >>= fun r => pure (some (f r.1), r.2)) = .ok (v, rest)) :
    ∃ form, LenEncForm v form ∧ lead :: data = form ++ rest := by
  obtain ⟨⟨a, behind⟩, given, eq⟩ := Except.ok_of_bind read
  cases eq
  obtain ⟨bytes, rfl, rfl, same⟩ := value given
  exact ⟨lead :: bytes, .wide width same, rfl⟩

/-- What was read as a length-encoded integer is one of its forms, in front of what is left. -/
theorem form_of_readLenEnc {v : Option UInt64} (read : readLenEnc data = .ok (v, rest)) :
    ∃ form, LenEncForm v form ∧ data = form ++ rest := by
  unfold readLenEnc at read
  obtain ⟨⟨lead, behind⟩, first, read⟩ := Except.ok_of_bind read
  rw [eq_of_readU8 first]
  dsimp only at read
  split at read
  · next null =>
    cases read
    rw [eq_of_beq null]
    exact ⟨[0xfb], .null, rfl⟩
  split at read
  · next two =>
    rw [eq_of_beq two]
    exact form_of_wide (n := 2) (by decide) UInt16.toUInt64 bytes_of_readU16 read
  split at read
  · next three =>
    rw [eq_of_beq three]
    exact form_of_wide (n := 3) (by decide) UInt32.toUInt64 bytes_of_readU24 read
  split at read
  · next eight =>
    rw [eq_of_beq eight]
    exact form_of_wide (n := 8) (by decide) id bytes_of_readU64 read
  split at read
  · cases read
  · next null two three eight reserved =>
    cases read
    have small : lead < 0xfb := by grind
    exact ⟨[lead], .small small (UInt8.toNat_toUInt64 lead), rfl⟩

/-- A length-encoded integer takes one byte at least. -/
theorem suffix_of_readLenEnc {v : Option UInt64} (read : readLenEnc data = .ok (v, rest)) :
    ∃ lead behind, data = lead :: behind ∧ rest <:+ behind := by
  obtain ⟨form, h, rfl⟩ := form_of_readLenEnc read
  cases h with
  | null => exact ⟨0xfb, rest, rfl, List.suffix_rfl⟩
  | @small lead => exact ⟨lead, rest, rfl, List.suffix_rfl⟩
  | @wide lead bytes => exact ⟨lead, bytes ++ rest, rfl, List.suffix_append bytes rest⟩

/-- A byte string stands in front of what is left, behind its length. -/
theorem suffix_of_readLenEncBytes {bytes : Option Bytes}
    (read : readLenEncBytes data = .ok (bytes, rest)) :
    ∃ lead behind, data = lead :: behind ∧ bytes.getD [] ++ rest <:+ behind := by
  unfold readLenEncBytes at read
  obtain ⟨⟨size, behind⟩, length, read⟩ := Except.ok_of_bind read
  obtain ⟨lead, tail, rfl, suffix⟩ := suffix_of_readLenEnc length
  refine ⟨lead, tail, rfl, ?_⟩
  cases size with
  | none =>
    cases read
    exact suffix
  | some size =>
    obtain ⟨⟨bytes, rest⟩, taken, eq⟩ := Except.ok_of_bind read
    cases eq
    rw [Option.getD_some, ← eq_of_take taken]
    exact suffix

theorem length_of_readLenEncText {text : String} (read : readLenEncText data = .ok (text, rest)) :
    rest.length < data.length := by
  unfold readLenEncText at read
  obtain ⟨⟨bytes, behind⟩, counted, read⟩ := Except.ok_of_bind read
  obtain ⟨text, _, eq⟩ := Except.ok_of_bind read
  cases eq
  obtain ⟨lead, tail, rfl, suffix⟩ := suffix_of_readLenEncBytes counted
  have := suffix.length_le
  simp only [List.length_append, List.length_cons] at this ⊢
  omega

end SqlWire.Field
