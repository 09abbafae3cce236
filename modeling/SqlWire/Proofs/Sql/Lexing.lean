import SqlWire.Sql.Lexer

/-!
# How a text is read

`State.at_` is the state of the lexer in front of each byte of a text, and behind the last one.
`Passes` reads a piece of text with what stands behind it in view, from one state to another, and
meets no placeholder; pieces are put together by `Passes.append`. Of what stands behind a byte only
three things count (`Alike`).
-/

namespace SqlWire.Sql

variable {noBackslash : Bool} {s s' s'' : State} {a b rest rest' : Bytes}

/-- The state in front of the byte at place `i`; the last one from the end of the text on. -/
def State.at_ (noBackslash : Bool) (s : State) : Bytes → Nat → State
  | [], _ => s
  | _ :: _, 0 => s
  | b :: rest, i + 1 => (s.next noBackslash b rest).at_ noBackslash rest i

@[simp] theorem State.at_zero (s : State) (text : Bytes) : s.at_ noBackslash text 0 = s := by
  cases text <;> rfl

theorem State.at_append (s : State) (a rest : Bytes) (i : Nat) :
    s.at_ noBackslash (a ++ rest) (a.length + i) =
      (s.at_ noBackslash (a ++ rest) a.length).at_ noBackslash rest i := by
  induction a generalizing s with
  | nil => rw [List.nil_append, List.length_nil, Nat.zero_add, at_zero]
  | cons b a ih =>
    rw [List.cons_append, List.length_cons, Nat.add_right_comm, State.at_, State.at_]
    exact ih _

/-- Reads `a`, behind which `rest` stands, without a placeholder. -/
inductive Passes (noBackslash : Bool) (rest : Bytes) : State → Bytes → State → Prop where
  | nil {s : State} : Passes noBackslash rest s [] s
  | cons {s s' : State} {b : UInt8} {a : Bytes} : s.atPlaceholder b = false →
      Passes noBackslash rest (s.next noBackslash b (a ++ rest)) a s' →
      Passes noBackslash rest s (b :: a) s'

namespace Passes

theorem append (first : Passes noBackslash (b ++ rest) s a s')
    (second : Passes noBackslash rest s' b s'') : Passes noBackslash rest s (a ++ b) s'' := by
  induction first with
  | nil => exact second
  | cons none _ ih =>
    rw [List.cons_append]
    refine .cons none ?_
    rw [List.append_assoc]
    exact ih second

theorem single {c : UInt8} (none : s.atPlaceholder c = false)
    (next : s.next noBackslash c rest = s') : Passes noBackslash rest s [c] s' := by
  refine .cons none ?_
  rw [List.nil_append, next]
  exact .nil

theorem at_add (passes : Passes noBackslash rest s a s') (i : Nat) :
    s.at_ noBackslash (a ++ rest) (a.length + i) = s'.at_ noBackslash rest i := by
  induction passes with
  | nil => rw [List.nil_append, List.length_nil, Nat.zero_add]
  | cons _ _ ih =>
    rw [List.cons_append, List.length_cons, Nat.add_right_comm, State.at_]
    exact ih

theorem placeholdersFrom_append (passes : Passes noBackslash rest s a s') (i : Nat) :
    placeholdersFrom noBackslash s i (a ++ rest) =
      placeholdersFrom noBackslash s' (i + a.length) rest := by
  induction passes generalizing i with
  | nil => rfl
  | cons none _ ih =>
    rw [List.cons_append, placeholdersFrom, if_neg (by simp [none]), ih, List.length_cons]
    congr 1
    omega

end Passes

/-! ## Bytes without a meaning -/

/-- The bytes that in ordinary text may open something or are a placeholder. -/
def meant : Bytes := [0x27, 0x22, 0x60, 0x23, 0x2d, 0x2f, 0x3f]

def isOrdinary (b : UInt8) : Bool := !meant.contains b

theorem all_isOrdinary {p : UInt8 → Bool} (none : meant.any p = false) (all : a.all p = true) :
    a.all isOrdinary = true := by
  rw [List.all_eq_true] at all ⊢
  intro c mem
  rw [isOrdinary, Bool.not_eq_true', List.contains_eq_mem, decide_eq_false_iff_not]
  intro means
  exact absurd (all c mem) (List.any_eq_false.mp none c means)

theorem next_of_isOrdinary {c : UInt8} (ordinary : isOrdinary c = true) (rest : Bytes) :
    State.start.next noBackslash c rest = .start := by
  simp_all [isOrdinary, meant, State.next, State.start]

theorem passes_ordinary (ordinary : a.all isOrdinary = true) (rest : Bytes) :
    Passes noBackslash rest .start a .start := by
  induction a with
  | nil => exact .nil
  | cons c a ih =>
    obtain ⟨first, others⟩ := Bool.and_eq_true_iff.mp ordinary
    refine .cons ?_ ?_
    · simp_all [isOrdinary, meant, State.atPlaceholder]
    · rw [next_of_isOrdinary first]
      exact ih others

theorem at_of_ordinary (ordinary : a.all isOrdinary = true) {i : Nat} (le : i ≤ a.length) :
    State.start.at_ noBackslash (a ++ rest) i = .start := by
  induction a generalizing i with
  | nil =>
    obtain rfl : i = 0 := by simpa using le
    exact State.at_zero _ _
  | cons c a ih =>
    obtain ⟨first, others⟩ := Bool.and_eq_true_iff.mp ordinary
    cases i with
    | zero => rfl
    | succ i =>
      rw [List.cons_append, State.at_, next_of_isOrdinary first]
      exact ih others (Nat.le_of_succ_le_succ le)

/-! ## Inside a string literal -/

section

variable {quote : UInt8}

theorem next_quoted_escape (mark : quote = 0x27 ∨ quote = 0x22) (rest : Bytes) :
    State.next false ⟨.quoted quote, false⟩ backslash rest = ⟨.quoted quote, true⟩ := by
  rcases mark with rfl | rfl <;> rfl

theorem next_quoted_end (mark : quote = 0x27 ∨ quote = 0x22) (rest : Bytes) :
    State.next noBackslash ⟨.quoted quote, false⟩ quote rest = .start := by
  rcases mark with rfl | rfl <;> rfl

theorem next_start_quote (mark : quote = 0x27 ∨ quote = 0x22) (rest : Bytes) :
    State.start.next noBackslash quote rest = ⟨.quoted quote, false⟩ := by
  rcases mark with rfl | rfl <;> rfl

theorem next_quoted_plain {b : UInt8} (ordinary : b ≠ quote)
    (kept : b = backslash → noBackslash = true) (rest : Bytes) :
    State.next noBackslash ⟨.quoted quote, false⟩ b rest = ⟨.quoted quote, false⟩ := by
  by_cases same : b = backslash
  · simp [State.next, same, kept same, same ▸ ordinary]
  · simp [State.next, same, ordinary]

end

/-! ## What stands behind a byte -/

/-- Behind a byte these texts make no difference. -/
structure Alike (rest rest' : Bytes) : Prop where
  dashes : startsDashes rest = startsDashes rest'
  star : (rest.head? == some 0x2a) = (rest'.head? == some 0x2a)
  slash : (rest.head? == some 0x2f) = (rest'.head? == some 0x2f)

theorem Alike.symm (alike : Alike rest rest') : Alike rest' rest :=
  ⟨alike.dashes.symm, alike.star.symm, alike.slash.symm⟩

theorem next_of_alike (alike : Alike rest rest') (c : UInt8) :
    s.next noBackslash c rest = s.next noBackslash c rest' := by
  unfold State.next
  rw [alike.dashes, alike.star, alike.slash]

theorem startsDashes_of_ne {c : UInt8} (other : c ≠ 0x2d) : startsDashes (c :: rest) = false := by
  unfold startsDashes
  split
  · next eq => exact absurd (List.cons.inj eq).1 other
  · next eq => exact absurd (List.cons.inj eq).1 other
  · rfl

theorem eq_start_of_atPlaceholder {c : UInt8} (h : s.atPlaceholder c = true) :
    s = .start ∧ c = 0x3f := by
  obtain ⟨mode, taken⟩ := s
  simp only [State.atPlaceholder, Bool.and_eq_true, beq_iff_eq, Bool.not_eq_true'] at h
  obtain ⟨⟨rfl, rfl⟩, same⟩ := h
  exact ⟨rfl, same⟩

end SqlWire.Sql
