import SqlWire.Proofs.Sql.Lexing
import SqlWire.Sql.LocalFile

/-!
# Words and literals of a statement

What the scanner of words takes from a text, as equivalences: a word of letters stands behind blanks
and goes on as far as it can (`nextWord?_eq_some_iff`), and a string literal is one that `Spells`
its content and whose last quote is not doubled (`nextLiteral?_eq_some_iff`).

The lexer of placeholders reads such a literal from ordinary text to ordinary text
(`Quotes.passes`): at a doubled quote it leaves the literal and enters it again.
-/

namespace SqlWire.Sql

variable {noBackslash : Bool} {quote : UInt8} {text blanks word rest content : Bytes}

/-! ## Blanks -/

theorem skipBlanks_append (blank : blanks.all isBlank = true)
    (solid : rest.head?.any isBlank = false) : skipBlanks (blanks ++ rest) = rest := by
  rw [skipBlanks, List.dropWhile_append_of_pos (by simpa using blank)]
  cases rest with
  | nil => rfl
  | cons b rest => exact List.dropWhile_cons_of_neg (by simpa using solid)

theorem exists_blanks (text : Bytes) :
    ∃ blanks, blanks.all isBlank = true ∧ text = blanks ++ skipBlanks text :=
  ⟨text.takeWhile isBlank, List.all_takeWhile, List.takeWhile_append_dropWhile.symm⟩

theorem isBlank_of_isWordByte {b : UInt8} (letter : isWordByte b = true) : isBlank b = false := by
  rw [Bool.eq_false_iff]
  intro blank
  simp only [isBlank, Bool.or_eq_true, beq_iff_eq] at blank
  rcases blank with (((rfl | rfl) | rfl) | rfl) | rfl <;> exact absurd letter (by decide)

/-! ## Words -/

theorem isWordByte_upper (b : UInt8) : isWordByte (upper b) = isWordByte b := by
  have table : ∀ n < 256, isWordByte (upper (UInt8.ofNat n)) = isWordByte (UInt8.ofNat n) := by
    decide +kernel
  simpa using table b.toNat b.toNat_lt

theorem all_isWordByte_of_isKeyword {keyword : String} (name : isKeyword keyword word = true)
    (letters : (Bytes.ascii keyword).all isWordByte = true) : word.all isWordByte = true := by
  rw [← eq_of_beq name, List.all_map] at letters
  simpa [Function.comp_def, isWordByte_upper] using letters

theorem ne_nil_of_isKeyword {keyword : String} (name : isKeyword keyword word = true)
    (letters : Bytes.ascii keyword ≠ []) : word ≠ [] := by
  rintro rfl
  exact letters (eq_of_beq name).symm

/-- Blanks end a word; so does what stands behind them, if there are none. -/
theorem ends_of_blank (blank : blanks.all isBlank = true)
    (ends : blanks = [] → rest.head?.any isWordByte = false) :
    (blanks ++ rest).head?.any isWordByte = false := by
  cases blanks with
  | nil => exact ends rfl
  | cons b blanks =>
    show isWordByte b = false
    rw [Bool.eq_false_iff]
    intro letter
    have : isBlank b = true := (Bool.and_eq_true_iff.mp blank).1
    rw [isBlank_of_isWordByte letter] at this
    cases this

theorem takeWhile_append_of_ends (letters : word.all isWordByte = true)
    (ends : rest.head?.any isWordByte = false) : (word ++ rest).takeWhile isWordByte = word := by
  rw [List.takeWhile_append_of_pos (by simpa using letters)]
  cases rest with
  | nil => simp
  | cons b rest => rw [List.takeWhile_cons_of_neg (by simpa using ends), List.append_nil]

theorem any_head?_dropWhile (p : UInt8 → Bool) (text : Bytes) :
    (text.dropWhile p).head?.any p = false := by
  have := List.head?_dropWhile_not p text
  cases h : (text.dropWhile p).head? with
  | none => rfl
  | some b => simpa [h] using this

/-- A word stands behind blanks at the front of a text. If it is one of letters, it goes on as far as
there are any. -/
theorem parts_of_nextWord? (read : nextWord? text = some (word, rest)) :
    word ≠ [] ∧ ∃ blanks, blanks.all isBlank = true ∧ text = blanks ++ (word ++ rest) ∧
      (word.all isWordByte = true → rest.head?.any isWordByte = false) := by
  obtain ⟨blanks, blank, parts⟩ := exists_blanks text
  unfold nextWord? at read
  split at read
  · cases read
  · next b tail eq =>
    rw [eq] at parts
    split at read
    · injection read with read
      obtain ⟨rfl, rfl⟩ := Prod.mk.inj read
      have whole := List.takeWhile_append_dropWhile (p := isWordByte) (l := tail)
      have behind : tail.drop (tail.takeWhile isWordByte).length = tail.dropWhile isWordByte :=
        (congrArg (List.drop _) whole.symm).trans List.drop_left
      rw [behind]
      refine ⟨List.cons_ne_nil _ _, blanks, blank, ?_, fun _ => any_head?_dropWhile _ _⟩
      rw [parts, List.cons_append, whole]
    · next other =>
      injection read with read
      obtain ⟨rfl, rfl⟩ := Prod.mk.inj read
      refine ⟨List.cons_ne_nil _ _, blanks, blank, parts, fun letters => ?_⟩
      simp [other] at letters

/-- A word of letters is what stands behind the blanks, up to the first byte that is not part of
it. -/
theorem nextWord?_eq_some_iff (letters : word.all isWordByte = true) :
    nextWord? text = some (word, rest) ↔
      word ≠ [] ∧ ∃ blanks, blanks.all isBlank = true ∧ text = blanks ++ (word ++ rest) ∧
        rest.head?.any isWordByte = false := by
  constructor
  · intro read
    obtain ⟨some, blanks, blank, parts, ends⟩ := parts_of_nextWord? read
    exact ⟨some, blanks, blank, parts, ends letters⟩
  · rintro ⟨some, blanks, blank, rfl, ends⟩
    obtain ⟨b, word, rfl⟩ := List.exists_cons_of_ne_nil some
    obtain ⟨first, others⟩ := Bool.and_eq_true_iff.mp letters
    have solid : ((b :: word) ++ rest).head?.any isBlank = false := isBlank_of_isWordByte first
    have whole := takeWhile_append_of_ends others ends
    unfold nextWord?
    rw [skipBlanks_append blank solid]
    simp [first, whole]

/-! ## Literals -/

/-- Between two of the quotes `body` stands for `content`. -/
inductive Spells (noBackslash : Bool) (quote : UInt8) : Bytes → Bytes → Prop where
  | nil : Spells noBackslash quote [] []
  | escaped {c : UInt8} {body content : Bytes} : noBackslash = false →
      Spells noBackslash quote body content →
      Spells noBackslash quote (backslash :: c :: body) (c :: content)
  | doubled {body content : Bytes} : Spells noBackslash quote body content →
      Spells noBackslash quote (quote :: quote :: body) (quote :: content)
  | plain {b : UInt8} {body content : Bytes} : b ≠ quote → (b = backslash → noBackslash = true) →
      Spells noBackslash quote body content → Spells noBackslash quote (b :: body) (b :: content)

theorem literalFrom_of_spells {body after : Bytes} (other : quote ≠ backslash)
    (spells : Spells noBackslash quote body content) (last : after.head? ≠ some quote)
    (done : Bytes) : literalFrom noBackslash quote done (body ++ quote :: after) =
      some (done.reverse ++ content) := by
  induction spells generalizing done with
  | nil =>
    cases after with
    | nil => simp [literalFrom, other]
    | cons c after =>
      have : c ≠ quote := fun eq => last (congrArg some eq)
      simp [literalFrom, other, this]
  | escaped on _ ih =>
    subst on
    simp [literalFrom, ih]
  | doubled _ ih => simp [literalFrom, other, ih]
  | @plain b body content ordinary kept _ ih =>
    obtain ⟨c, more, eq⟩ : ∃ c more, body ++ quote :: after = c :: more :=
      List.exists_cons_of_ne_nil (by simp)
    have : (b == backslash && !noBackslash) = false := by
      by_cases same : b = backslash
      · simp [kept same]
      · simp [same]
    rw [eq] at ih
    rw [List.cons_append, eq, literalFrom, this]
    simp [ordinary, ih]

theorem spells_of_literalFrom {done out : Bytes} (other : quote ≠ backslash)
    (read : literalFrom noBackslash quote done text = some out) :
    ∃ body content after, text = body ++ quote :: after ∧ after.head? ≠ some quote ∧
      Spells noBackslash quote body content ∧ out = done.reverse ++ content := by
  fun_induction literalFrom noBackslash quote done text with
  | case1 => cases read
  | case2 => cases read
  | case3 done b _ same =>
    obtain rfl := eq_of_beq same
    exact ⟨[], [], [], rfl, nofun, .nil, by simpa using read.symm⟩
  | case4 => cases read
  | case5 done b c rest escape ih =>
    obtain ⟨rfl, on⟩ : b = backslash ∧ noBackslash = false := by simpa using escape
    obtain ⟨body, content, after, rfl, last, spells, rfl⟩ := ih read
    exact ⟨_, _, after, rfl, last, .escaped on spells, by simp⟩
  | case6 done b c rest _ same double ih =>
    obtain rfl := eq_of_beq same
    obtain rfl := eq_of_beq double
    obtain ⟨body, content, after, rfl, last, spells, rfl⟩ := ih read
    exact ⟨_, _, after, rfl, last, .doubled spells, by simp⟩
  | case7 done b c rest _ same single =>
    obtain rfl := eq_of_beq same
    exact ⟨[], [], c :: rest, rfl, fun eq => single (beq_of_eq (Option.some.inj eq)), .nil,
      by simpa using read.symm⟩
  | case8 done b c rest kept ordinary ih =>
    obtain ⟨body, content, after, eq, last, spells, rfl⟩ := ih read
    refine ⟨b :: body, b :: content, after, by rw [eq, List.cons_append], last,
      .plain (ne_of_beq_false (by simpa using ordinary)) ?_ spells, by simp⟩
    intro same
    simpa [same] using kept

/-- A literal in front of `after`, in single or double quotes. -/
inductive Quotes (noBackslash : Bool) (content after : Bytes) : Bytes → Prop where
  | intro {quote : UInt8} {body : Bytes} : quote = 0x27 ∨ quote = 0x22 →
      Spells noBackslash quote body content → after.head? ≠ some quote →
      Quotes noBackslash content after (quote :: (body ++ [quote]))

theorem Quotes.ends {after literal : Bytes} (quotes : Quotes noBackslash content after literal) :
    (literal ++ rest).head?.any isWordByte = false := by
  obtain ⟨mark, -, -⟩ := quotes
  rcases mark with rfl | rfl <;> rfl

theorem nextLiteral?_eq_some_iff :
    nextLiteral? noBackslash text = some content ↔
      ∃ blanks literal after, blanks.all isBlank = true ∧ text = blanks ++ (literal ++ after) ∧
        Quotes noBackslash content after literal := by
  constructor
  · intro read
    obtain ⟨blanks, blank, parts⟩ := exists_blanks text
    unfold nextLiteral? at read
    split at read
    · next quote rest eq =>
      split at read
      · next mark =>
        have mark : quote = 0x27 ∨ quote = 0x22 := by simpa using mark
        obtain ⟨body, content, after, rfl, last, spells, rfl⟩ :=
          spells_of_literalFrom (by rcases mark with rfl | rfl <;> decide) read
        refine ⟨blanks, _, after, blank, ?_, .intro mark spells last⟩
        rw [parts, eq]
        simp
      · cases read
    · cases read
  · rintro ⟨blanks, _, after, blank, rfl, @⟨quote, body, mark, spells, last⟩⟩
    have solid : ((quote :: (body ++ [quote])) ++ after).head?.any isBlank = false := by
      rcases mark with rfl | rfl <;> rfl
    have read := literalFrom_of_spells (by rcases mark with rfl | rfl <;> decide) spells last []
    unfold nextLiteral?
    rw [skipBlanks_append blank solid]
    simpa [mark] using read

/-! ## The lexer of placeholders -/

theorem Spells.passes {body : Bytes} (spells : Spells noBackslash quote body content)
    (mark : quote = 0x27 ∨ quote = 0x22) (rest : Bytes) :
    Passes noBackslash rest ⟨.quoted quote, false⟩ body ⟨.quoted quote, false⟩ := by
  induction spells with
  | nil => exact .nil
  | escaped on _ ih =>
    subst on
    refine .cons rfl ?_
    rw [next_quoted_escape mark]
    exact .cons rfl ih
  | doubled _ ih =>
    refine .cons rfl ?_
    rw [next_quoted_end mark]
    refine .cons ?_ ?_
    · rcases mark with rfl | rfl <;> rfl
    · rw [next_start_quote mark]
      exact ih
  | plain ordinary kept _ ih =>
    refine .cons rfl ?_
    rw [next_quoted_plain ordinary kept]
    exact ih

/-- A literal begins and ends in ordinary text. -/
theorem Quotes.passes {after literal : Bytes} (quotes : Quotes noBackslash content after literal)
    (rest : Bytes) : Passes noBackslash rest .start literal .start := by
  obtain @⟨quote, body, mark, spells, -⟩ := quotes
  refine .cons ?_ ?_
  · rcases mark with rfl | rfl <;> rfl
  · rw [next_start_quote mark]
    exact (spells.passes mark _).append (.single rfl (next_quoted_end mark _))

end SqlWire.Sql
