import SqlWire.Proofs.Sql.Literals
import SqlWire.Sql.Interpolate

/-!
# Statements with literals in place of placeholders

Each byte of a statement becomes itself or a literal (`parts`). Literals that keep to themselves
leave every byte in the state in which it was read before (`at_parts`), and once each placeholder
has one no placeholder is left (`placeholdersFrom_parts`). So no parameter changes how the statement
around it is read (`interpolate_keeps_states`).
-/

namespace SqlWire.Sql

variable {noBackslash : Bool} {s : State} {literals : List Bytes} {sql : Bytes}

/-- What the bytes of a statement become. -/
def parts (noBackslash : Bool) (s : State) (literals : List Bytes) : Bytes → List Bytes
  | [] => []
  | b :: rest =>
    match s.atPlaceholder b, literals with
    | true, literal :: literals =>
      literal :: parts noBackslash (s.next noBackslash b rest) literals rest
    | _, _ => [b] :: parts noBackslash (s.next noBackslash b rest) literals rest

theorem parts_of_placeholder {b : UInt8} {rest : Bytes} (h : s.atPlaceholder b = true)
    (literal : Bytes) (literals : List Bytes) :
    parts noBackslash s (literal :: literals) (b :: rest) =
      literal :: parts noBackslash (s.next noBackslash b rest) literals rest := by
  rw [parts]
  exact h

theorem parts_of_copied {b : UInt8} {rest : Bytes}
    (h : s.atPlaceholder b = true → literals = []) :
    parts noBackslash s literals (b :: rest) =
      [b] :: parts noBackslash (s.next noBackslash b rest) literals rest := by
  rw [parts]
  intro literal more placeholder eq
  rw [h placeholder] at eq
  cases eq

/-- A byte is a placeholder for which there is a literal, or it stays. -/
theorem placeholder_or_copied (s : State) (literals : List Bytes) (b : UInt8) :
    (s.atPlaceholder b = true ∧ ∃ literal more, literals = literal :: more) ∨
      (s.atPlaceholder b = true → literals = []) := by
  cases literals with
  | nil => exact .inr fun _ => rfl
  | cons literal more =>
    cases h : s.atPlaceholder b with
    | true => exact .inl ⟨rfl, literal, more, rfl⟩
    | false => exact .inr nofun

theorem substituteOnto_eq (s : State) (literals : List Bytes) (out sql : Bytes) :
    substituteOnto noBackslash s literals out sql =
      out.reverse ++ (parts noBackslash s literals sql).flatten := by
  induction sql generalizing s literals out with
  | nil => simp [substituteOnto, parts]
  | cons b rest ih =>
    obtain ⟨placeholder, literal, more, rfl⟩ | copied := placeholder_or_copied s literals b
    · rw [parts_of_placeholder placeholder, substituteOnto]
      · simp [ih]
      · exact placeholder
    · rw [parts_of_copied copied, substituteOnto]
      · simp [ih]
      · intro literal more placeholder eq
        rw [copied placeholder] at eq
        cases eq

theorem length_parts (s : State) (literals : List Bytes) (sql : Bytes) :
    (parts noBackslash s literals sql).length = sql.length := by
  induction sql generalizing s literals with
  | nil => rfl
  | cons b rest ih =>
    obtain ⟨placeholder, literal, more, rfl⟩ | copied := placeholder_or_copied s literals b
    · rw [parts_of_placeholder placeholder, List.length_cons, ih, List.length_cons]
    · rw [parts_of_copied copied, List.length_cons, ih, List.length_cons]

/-! ## Which byte becomes what -/

theorem placeholdersFrom_succ (s : State) (i : Nat) (sql : Bytes) :
    placeholdersFrom noBackslash s (i + 1) sql =
      (placeholdersFrom noBackslash s i sql).map (· + 1) := by
  induction sql generalizing s i with
  | nil => rfl
  | cons b rest ih =>
    rw [placeholdersFrom, placeholdersFrom]
    split
    · rw [ih, List.map_cons]
    · exact ih _ _

/-- The places behind a byte are counted from the byte on. -/
theorem placeholdersFrom_cons (s : State) (b : UInt8) (rest : Bytes) :
    placeholdersFrom noBackslash s 0 (b :: rest) =
      if s.atPlaceholder b then
        0 :: (placeholdersFrom noBackslash (s.next noBackslash b rest) 0 rest).map (· + 1)
      else (placeholdersFrom noBackslash (s.next noBackslash b rest) 0 rest).map (· + 1) := by
  rw [placeholdersFrom, placeholdersFrom_succ]

theorem zero_mem_placeholdersFrom {b : UInt8} {rest : Bytes} :
    0 ∈ placeholdersFrom noBackslash s 0 (b :: rest) ↔ s.atPlaceholder b = true := by
  rw [placeholdersFrom_cons]
  split <;> simp [*]

theorem succ_mem_placeholdersFrom {i : Nat} {b : UInt8} {rest : Bytes} :
    i + 1 ∈ placeholdersFrom noBackslash s 0 (b :: rest) ↔
      i ∈ placeholdersFrom noBackslash (s.next noBackslash b rest) 0 rest := by
  rw [placeholdersFrom_cons]
  split <;> simp

/-- A placeholder stands in ordinary text. -/
theorem at_of_mem_placeholdersFrom {i : Nat} (mem : i ∈ placeholdersFrom noBackslash s 0 sql) :
    s.at_ noBackslash sql i = .start ∧ s.at_ noBackslash sql (i + 1) = .start := by
  induction sql generalizing s i with
  | nil => cases mem
  | cons b rest ih =>
    cases i with
    | zero =>
      obtain ⟨rfl, rfl⟩ := eq_start_of_atPlaceholder (zero_mem_placeholdersFrom.mp mem)
      exact ⟨rfl, State.at_zero _ _⟩
    | succ i => exact ih (succ_mem_placeholdersFrom.mp mem)

theorem getElem?_parts_of_not_mem {i : Nat} {b : UInt8} (here : sql[i]? = some b)
    (not_mem : i ∉ placeholdersFrom noBackslash s 0 sql) :
    (parts noBackslash s literals sql)[i]? = some [b] := by
  induction sql generalizing s literals i with
  | nil => cases here
  | cons c rest ih =>
    have behind {i : Nat} (not_mem : i + 1 ∉ placeholdersFrom noBackslash s 0 (c :: rest)) :
        i ∉ placeholdersFrom noBackslash (s.next noBackslash c rest) 0 rest :=
      fun mem => not_mem (succ_mem_placeholdersFrom.mpr mem)
    obtain ⟨placeholder, literal, more, rfl⟩ | copied := placeholder_or_copied s literals c
    · rw [parts_of_placeholder placeholder]
      cases i with
      | zero => exact absurd (zero_mem_placeholdersFrom.mpr placeholder) not_mem
      | succ i => exact ih here (behind not_mem)
    · rw [parts_of_copied copied]
      cases i with
      | zero => exact congrArg (fun b => some [b]) (Option.some.inj here)
      | succ i => exact ih here (behind not_mem)

theorem getElem?_parts_of_placeholder {i k : Nat} {literal : Bytes}
    (here : (placeholdersFrom noBackslash s 0 sql)[k]? = some i)
    (given : literals[k]? = some literal) :
    (parts noBackslash s literals sql)[i]? = some literal := by
  induction sql generalizing s literals i k with
  | nil => cases here
  | cons c rest ih =>
    rw [placeholdersFrom_cons] at here
    obtain ⟨placeholder, first, more, rfl⟩ | copied := placeholder_or_copied s literals c
    · rw [if_pos placeholder] at here
      rw [parts_of_placeholder placeholder]
      cases k with
      | zero =>
        cases here
        exact given
      | succ k =>
        rw [List.getElem?_cons_succ, List.getElem?_map, Option.map_eq_some_iff] at here
        obtain ⟨i, here, rfl⟩ := here
        exact ih here given
    · by_cases placeholder : s.atPlaceholder c = true
      · rw [copied placeholder] at given
        cases given
      · rw [if_neg placeholder, List.getElem?_map, Option.map_eq_some_iff] at here
        obtain ⟨i, here, rfl⟩ := here
        rw [parts_of_copied copied]
        exact ih here given

/-! ## The state in front of a byte -/

theorem startsDashes_dash (rest : Bytes) :
    startsDashes (0x2d :: rest) = (rest.head?.map isBlank).getD true := by
  cases rest <;> rfl

theorem head?_parts (isolated : ∀ literal ∈ literals, Isolated noBackslash literal) :
    (parts noBackslash s literals sql).flatten.head?.map isBlank = sql.head?.map isBlank := by
  cases sql with
  | nil => rfl
  | cons b rest =>
    obtain ⟨placeholder, literal, more, rfl⟩ | copied := placeholder_or_copied s literals b
    · obtain ⟨-, rfl⟩ := eq_start_of_atPlaceholder placeholder
      obtain ⟨c, others, rfl, solid, -⟩ := (isolated literal (.head _)).first
      rw [parts_of_placeholder placeholder]
      exact congrArg some solid
    · rw [parts_of_copied copied]
      rfl

/-- What stands behind a byte makes the same difference as before. -/
theorem alike_parts (isolated : ∀ literal ∈ literals, Isolated noBackslash literal) :
    Alike sql (parts noBackslash s literals sql).flatten := by
  cases sql with
  | nil => exact ⟨rfl, rfl, rfl⟩
  | cons b rest =>
    obtain ⟨placeholder, literal, more, rfl⟩ | copied := placeholder_or_copied s literals b
    · obtain ⟨-, rfl⟩ := eq_start_of_atPlaceholder placeholder
      obtain ⟨-, dashes, c, others, rfl, -, star, slash⟩ := isolated literal (.head _)
      rw [parts_of_placeholder placeholder, List.flatten_cons]
      refine ⟨(dashes _).symm, ?_, ?_⟩
      · simp [star]
      · simp [slash]
    · rw [parts_of_copied copied]
      refine ⟨?_, rfl, rfl⟩
      rw [List.flatten_cons, List.singleton_append]
      by_cases dash : b = 0x2d
      · rw [dash, startsDashes_dash, startsDashes_dash, head?_parts isolated]
      · rw [startsDashes_of_ne dash, startsDashes_of_ne dash]

/-- In front of what a byte becomes, the lexer is in the state in which it read the byte. -/
theorem at_parts (isolated : ∀ literal ∈ literals, Isolated noBackslash literal) (i : Nat) :
    s.at_ noBackslash (parts noBackslash s literals sql).flatten
      ((parts noBackslash s literals sql).take i).flatten.length = s.at_ noBackslash sql i := by
  induction sql generalizing s literals i with
  | nil => simp [parts, State.at_]
  | cons b rest ih =>
    cases i with
    | zero => simp
    | succ i =>
      obtain ⟨placeholder, literal, more, rfl⟩ | copied := placeholder_or_copied s literals b
      · obtain ⟨rfl, rfl⟩ := eq_start_of_atPlaceholder placeholder
        have others : ∀ literal ∈ more, Isolated noBackslash literal :=
          fun literal mem => isolated literal (.tail _ mem)
        rw [parts_of_placeholder placeholder, List.take_succ_cons, List.flatten_cons,
          List.flatten_cons, List.length_append,
          ((isolated literal (.head _)).passes _).at_add, State.at_]
        exact ih others i
      · rw [parts_of_copied copied, List.take_succ_cons, List.flatten_cons, List.flatten_cons,
          List.length_append, List.singleton_append, List.length_singleton, Nat.add_comm, State.at_,
          State.at_, next_of_alike (alike_parts isolated).symm]
        exact ih isolated i

theorem placeholdersFrom_parts (isolated : ∀ literal ∈ literals, Isolated noBackslash literal)
    {i j : Nat} (enough : (placeholdersFrom noBackslash s j sql).length ≤ literals.length) :
    placeholdersFrom noBackslash s i (parts noBackslash s literals sql).flatten = [] := by
  induction sql generalizing s literals i j with
  | nil => rfl
  | cons b rest ih =>
    rw [placeholdersFrom] at enough
    obtain ⟨placeholder, literal, more, rfl⟩ | copied := placeholder_or_copied s literals b
    · rw [if_pos placeholder] at enough
      obtain ⟨rfl, rfl⟩ := eq_start_of_atPlaceholder placeholder
      have others : ∀ literal ∈ more, Isolated noBackslash literal :=
        fun literal mem => isolated literal (.tail _ mem)
      rw [parts_of_placeholder placeholder, List.flatten_cons,
        ((isolated literal (.head _)).passes _).placeholdersFrom_append]
      exact ih others (Nat.le_of_succ_le_succ enough)
    · have none : s.atPlaceholder b = false := by
        rw [Bool.eq_false_iff]
        intro placeholder
        rw [if_pos placeholder, copied placeholder] at enough
        cases enough
      rw [none] at enough
      rw [parts_of_copied copied, List.flatten_cons, List.singleton_append, placeholdersFrom, none,
        next_of_alike (alike_parts isolated).symm]
      exact ih isolated enough

/-! ## The statement that goes to the server -/

/-- The lexer in front of the piece at place `i`. -/
def stateAt (noBackslash : Bool) (pieces : List Bytes) (i : Nat) : State :=
  State.start.at_ noBackslash pieces.flatten (pieces.take i).flatten.length

/-- What each byte of a statement becomes. -/
structure Interpolated (noBackslash : Bool) (sql : Bytes) (params : List Value)
    (pieces : List Bytes) : Prop where
  length : pieces.length = sql.length
  /-- A placeholder becomes the literal of its parameter, which begins and ends in ordinary text. -/
  literal : ∀ {k i : Nat} {param : Value}, (placeholders noBackslash sql)[k]? = some i →
    params[k]? = some param →
      pieces[i]? = some (param.literal noBackslash) ∧ stateAt noBackslash pieces i = .start ∧
        stateAt noBackslash pieces (i + 1) = .start
  /-- Any other byte stays, and is read in the state in which it was read before. -/
  copied : ∀ {i : Nat} {b : UInt8}, sql[i]? = some b → i ∉ placeholders noBackslash sql →
    pieces[i]? = some [b] ∧ stateAt noBackslash pieces i = State.start.at_ noBackslash sql i
  none : placeholders noBackslash pieces.flatten = []

/-- Parameters are read where their placeholders were, and no bytes in them change how the statement
around them is read. -/
theorem interpolate_keeps_states (noBackslash : Bool) (sql : Bytes) (params : List Value)
    (count : params.length = (placeholders noBackslash sql).length) :
    ∃ pieces, interpolate noBackslash sql params = .ok pieces.flatten ∧
      Interpolated noBackslash sql params pieces := by
  have isolated : ∀ literal ∈ params.map (Value.literal noBackslash),
      Isolated noBackslash literal := by
    intro literal mem
    obtain ⟨param, -, rfl⟩ := List.mem_map.mp mem
    exact isolated_literal param
  let pieces := parts noBackslash .start (params.map (Value.literal noBackslash)) sql
  have state (i : Nat) : stateAt noBackslash pieces i = State.start.at_ noBackslash sql i :=
    at_parts isolated i
  refine ⟨pieces, ?_, length_parts _ _ sql, ?_, ?_, placeholdersFrom_parts isolated (j := 0) ?_⟩
  · simp [interpolate, count, substitute, substituteOnto_eq, pieces]
  · intro k i param here given
    obtain ⟨before, behind⟩ := at_of_mem_placeholdersFrom (List.mem_of_getElem? here)
    refine ⟨getElem?_parts_of_placeholder here ?_, (state i).trans before,
      (state (i + 1)).trans behind⟩
    rw [List.getElem?_map, given]
    rfl
  · intro i b here not_mem
    exact ⟨getElem?_parts_of_not_mem here not_mem, state i⟩
  · rw [List.length_map, count]
    exact Nat.le_refl _

/-- A text that looks like the end of its literal, and a sign in front of a negative number. -/
theorem interpolate_hostile :
    let sql := Bytes.ascii "SELECT '?', -?, ?"
    let params := [.int (-1), .text "' -- ?"]
    params.length = (placeholders false sql).length ∧
      ∃ pieces, interpolate false sql params = .ok pieces.flatten ∧
        Interpolated false sql params pieces :=
  ⟨by decide, interpolate_keeps_states false _ _ (by decide)⟩

end SqlWire.Sql
