import SqlWire.Proofs.Fields

/-!
# The shortest form of a length

A length may be written with more bytes than it needs, and readers take such forms too. How long a form
is settles its lead byte, so that an integer has at most one form of each length (`LenEncForm.unique`), and
how large it may be. The written form is therefore the only one as short as itself
(`LenEncForm.eq_or_longer`).
-/

namespace SqlWire.Field

variable {v : UInt64} {form rest : Bytes}

/-! ## Forms of one integer -/

theorem mem_widths {lead : UInt8} {n : Nat} :
    (lead, n) ∈ widths ↔ lead = 0xfc ∧ n = 2 ∨ lead = 0xfd ∧ n = 3 ∨ lead = 0xfe ∧ n = 8 := by
  simp [widths]

theorem pos_of_width {lead : UInt8} {n : Nat} (width : (lead, n) ∈ widths) : 0 < n := by
  have := mem_widths.mp width
  omega

theorem lead_unique {lead lead' : UInt8} {n : Nat} (width : (lead, n) ∈ widths)
    (width' : (lead', n) ∈ widths) : lead = lead' := by
  rw [mem_widths] at width width'
  grind

/-- An integer has at most one form of each length. -/
theorem LenEncForm.unique {form' : Bytes} (h : LenEncForm (some v) form)
    (h' : LenEncForm (some v) form') (length : form.length = form'.length) : form = form' := by
  cases h with
  | small _ value =>
    cases h' with
    | small _ value' => rw [UInt8.toNat_inj.mp (value.symm.trans value')]
    | wide width' =>
      have := pos_of_width width'
      rw [List.length_singleton, List.length_cons] at length
      omega
  | wide width value =>
    cases h' with
    | small =>
      have := pos_of_width width
      rw [List.length_singleton, List.length_cons] at length
      omega
    | @wide lead' bytes' _ width' value' =>
      have length := Nat.succ.inj length
      have same := value.symm.trans value'
      rw [← Bytes.ofNatLE_toNatLE bytes', ← length, ← same, Bytes.ofNatLE_toNatLE,
        lead_unique width (length ▸ width')]

theorem form_of_append {v : Option UInt64} (read : readLenEnc (form ++ rest) = .ok (v, rest)) :
    LenEncForm v form := by
  obtain ⟨form', h, same⟩ := form_of_readLenEnc read
  rwa [List.append_cancel_right same]

/-! ## The written form -/

theorem form_lenEnc (v : UInt64) : LenEncForm (some v) (lenEnc v) :=
  form_of_append (@readLenEnc_lenEnc [] v)

theorem length_lenEnc (v : UInt64) : (lenEnc v).length =
    if v < 0xfb then 1 else if v ≤ 0xffff then 3 else if v ≤ 0xffffff then 4 else 9 := by
  unfold lenEnc
  split
  · rfl
  split
  · rfl
  split <;> rfl

/-- No form of an integer is shorter than the written one. -/
theorem LenEncForm.length_lenEnc_le (h : LenEncForm (some v) form) :
    (lenEnc v).length ≤ form.length := by
  rw [length_lenEnc]
  cases h with
  | small small value =>
    have small : v < 0xfb := UInt64.lt_iff_toNat_lt.mpr (value ▸ UInt8.lt_iff_toNat_lt.mp small)
    rw [if_pos small]
    exact Nat.le_refl 1
  | @wide lead bytes _ width value =>
    have bound := bytes.toNatLE_lt
    rw [← value] at bound
    rw [List.length_cons]
    obtain ⟨-, length⟩ | ⟨-, length⟩ | ⟨-, length⟩ := mem_widths.mp width <;> rw [length] at bound ⊢
    · have small : v ≤ 0xffff := UInt64.le_iff_toNat_le.mpr (Nat.le_of_lt_succ bound)
      rw [if_pos small]
      split <;> omega
    · have small : v ≤ 0xffffff := UInt64.le_iff_toNat_le.mpr (Nat.le_of_lt_succ bound)
      rw [if_pos small]
      split
      · omega
      split <;> omega
    · split
      · omega
      split
      · omega
      split <;> omega

/-- Each other form of an integer is longer than the written one. -/
theorem LenEncForm.eq_or_longer (h : LenEncForm (some v) form) :
    form = lenEnc v ∨ (lenEnc v).length < form.length := by
  obtain same | longer := Nat.eq_or_lt_of_le h.length_lenEnc_le
  · exact .inl (h.unique (form_lenEnc v) same.symm)
  · exact .inr longer

/-! ## Reading what was written -/

theorem proper_of_suffix {lead : UInt8} {behind : Bytes} (suffix : rest <:+ behind) :
    rest <:+ lead :: behind ∧ rest ≠ lead :: behind := by
  refine ⟨suffix.trans (List.suffix_cons lead behind), ?_⟩
  rintro rfl
  have := suffix.length_le
  rw [List.length_cons] at this
  omega

/-- Integers and byte strings are read back whatever follows them, and what follows is left. Each form of
an integer that is not the written one is longer; the written one starts neither like NULL nor like an
error. What is left of a message, whatever it was, is a proper end of it. -/
theorem lenEnc_spec :
    (∀ (v : UInt64) (rest : Bytes), readLenEnc (lenEnc v ++ rest) = .ok (some v, rest)) ∧
    (∀ bytes rest : Bytes, bytes.length < UInt64.size →
      readLenEncBytes (lenEncBytes bytes ++ rest) = .ok (some bytes, rest)) ∧
    (∀ (v : UInt64) (form rest : Bytes), readLenEnc (form ++ rest) = .ok (some v, rest) →
      form = lenEnc v ∨ (lenEnc v).length < form.length) ∧
    (∀ v : UInt64, ∃ lead behind, lenEnc v = lead :: behind ∧ lead ≠ 0xfb ∧ lead ≠ 0xff) ∧
    (∀ (data rest : Bytes) (v : Option UInt64), readLenEnc data = .ok (v, rest) →
      rest <:+ data ∧ rest ≠ data) ∧
    ∀ (data rest : Bytes) (bytes : Option Bytes), readLenEncBytes data = .ok (bytes, rest) →
      rest <:+ data ∧ rest ≠ data := by
  refine ⟨fun v rest => readLenEnc_lenEnc v, fun bytes rest => readLenEncBytes_lenEncBytes,
    fun v form rest read => (form_of_append read).eq_or_longer, fun v => ?lead,
    fun data rest v read => ?integer, fun data rest bytes read => ?bytes⟩
  case lead =>
    obtain ⟨lead, behind, eq, notError, notNull, -⟩ := lenEnc_cons v
    exact ⟨lead, behind, eq, notNull, notError⟩
  case integer =>
    obtain ⟨lead, behind, rfl, suffix⟩ := suffix_of_readLenEnc read
    exact proper_of_suffix suffix
  case bytes =>
    obtain ⟨lead, behind, rfl, suffix⟩ := suffix_of_readLenEncBytes read
    exact proper_of_suffix ((List.suffix_append _ rest).trans suffix)

/-- A value that would be a lead byte, in four bytes where three would do, and a byte string as long. -/
theorem lenEnc_spec_reserved :
    ([0xfd, 0xff, 0, 0] = lenEnc 0xff ∨ (lenEnc 0xff).length < 4) ∧
    readLenEncBytes (lenEncBytes (List.replicate 0xff 0xfb) ++ [0xfb]) =
      .ok (some (List.replicate 0xff 0xfb), [0xfb]) ∧
    ([7] <:+ ([0xfe, 0xff, 0, 0, 0, 0, 0, 0, 0, 7] : Bytes) ∧
      [7] ≠ ([0xfe, 0xff, 0, 0, 0, 0, 0, 0, 0, 7] : Bytes)) ∧
    ([7] <:+ ([2, 0xfb, 0xff, 7] : Bytes) ∧ [7] ≠ ([2, 0xfb, 0xff, 7] : Bytes)) := by
  obtain ⟨-, bytes, shortest, -, integer, string⟩ := lenEnc_spec
  have fits : (List.replicate 0xff (0xfb : UInt8)).length < UInt64.size := by
    rw [List.length_replicate]
    decide
  exact ⟨shortest 0xff [0xfd, 0xff, 0, 0] [0xfb] rfl, bytes _ [0xfb] fits,
    integer [0xfe, 0xff, 0, 0, 0, 0, 0, 0, 0, 7] [7] (some 0xff) rfl,
    string [2, 0xfb, 0xff, 7] [7] (some [0xfb, 0xff]) rfl⟩

end SqlWire.Field
