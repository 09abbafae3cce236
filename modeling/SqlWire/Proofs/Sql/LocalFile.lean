import SqlWire.Proofs.Sql.Words

/-!
# What a statement must hold for its file to be sent

The check of a file request goes through the words of a statement up to the first `LOCAL` in front
of `INFILE` and compares the literal behind them with the file (`namesLocalFile_iff`).

The scanner of words knows no literals and no comments: what stands in them are words to it as well.
So the pair at which it stops belongs to the statement exactly if the lexer of placeholders is in
ordinary text in front of `LOCAL`; from there on the two agree up to the end of the literal
(`Request.inText_iff`). How the statement begins is not looked at (`genuine_iff_of_named`).
-/

namespace SqlWire.Sql

variable {noBackslash : Bool} {file sql text word word' rest rest' : Bytes}

/-! ## The words in front of a request -/

theorem namesLocalFile_of_word (read : nextWord? text = some (word, rest))
    (other : isKeyword "LOCAL" word = false) :
    namesLocalFile noBackslash file text = namesLocalFile noBackslash file rest := by
  rw [namesLocalFile]
  split <;> simp_all

theorem namesLocalFile_of_pair (read : nextWord? text = some (word, rest))
    (isLocal : isKeyword "LOCAL" word = true) (read' : nextWord? rest = some (word', rest'))
    (other : isKeyword "INFILE" word' = false) :
    namesLocalFile noBackslash file text = namesLocalFile noBackslash file rest' := by
  rw [namesLocalFile]
  split <;> simp_all
  split <;> simp_all

theorem namesLocalFile_of_words (read : nextWord? text = some (word, rest))
    (isLocal : isKeyword "LOCAL" word = true) (read' : nextWord? rest = some (word', rest'))
    (isInfile : isKeyword "INFILE" word' = true) :
    namesLocalFile noBackslash file text = (nextLiteral? noBackslash rest' == some file) := by
  rw [namesLocalFile]
  split <;> simp_all
  split <;> simp_all

/-- The scanner gets to a word, past words that are no request. -/
inductive Scans : Bytes → Bytes → Prop where
  | here {text found : Bytes} : skipBlanks text = found → Scans text found
  | word {text word rest found : Bytes} : nextWord? text = some (word, rest) →
      isKeyword "LOCAL" word = false → Scans rest found → Scans text found
  | pair {text word rest word' rest' found : Bytes} : nextWord? text = some (word, rest) →
      isKeyword "LOCAL" word = true → nextWord? rest = some (word', rest') →
      isKeyword "INFILE" word' = false → Scans rest' found → Scans text found

theorem Scans.exists_before {found : Bytes} (scans : Scans text found) :
    ∃ before, text = before ++ found := by
  induction scans with
  | @here text _ found =>
    obtain ⟨blanks, -, parts⟩ := exists_blanks text
    exact ⟨blanks, found ▸ parts⟩
  | @word _ word _ _ read _ _ ih =>
    obtain ⟨before, rfl⟩ := ih
    obtain ⟨-, blanks, -, rfl, -⟩ := parts_of_nextWord? read
    exact ⟨blanks ++ (word ++ before), by simp⟩
  | @pair _ word _ word' _ _ read _ read' _ _ ih =>
    obtain ⟨before, rfl⟩ := ih
    obtain ⟨-, gap, -, rfl, -⟩ := parts_of_nextWord? read'
    obtain ⟨-, blanks, -, rfl, -⟩ := parts_of_nextWord? read
    exact ⟨blanks ++ (word ++ (gap ++ (word' ++ before))), by simp⟩

/-! ## Requests -/

/-- The words that ask for a file, in front of `after`. -/
structure Phrase (noBackslash : Bool) (file : Bytes) where
  localWord : Bytes
  gap : Bytes
  infileWord : Bytes
  gap' : Bytes
  literal : Bytes
  after : Bytes
  isLocal : isKeyword "LOCAL" localWord = true
  isInfile : isKeyword "INFILE" infileWord = true
  blank : gap.all isBlank = true
  blank' : gap'.all isBlank = true
  apart : gap ≠ []
  quotes : Quotes noBackslash file after literal

namespace Phrase

variable (phrase : Phrase noBackslash file)

/-- All in front of the literal. -/
def words : Bytes :=
  phrase.localWord ++ (phrase.gap ++ (phrase.infileWord ++ phrase.gap'))

def bytes : Bytes := phrase.words ++ (phrase.literal ++ phrase.after)

theorem all_localWord : phrase.localWord.all isWordByte = true :=
  all_isWordByte_of_isKeyword phrase.isLocal (by decide)

theorem all_infileWord : phrase.infileWord.all isWordByte = true :=
  all_isWordByte_of_isKeyword phrase.isInfile (by decide)

theorem isKeyword_take : isKeyword "LOCAL" (phrase.bytes.take 5) = true := by
  have length : phrase.localWord.length = 5 := by
    have := congrArg List.length (eq_of_beq phrase.isLocal)
    rwa [List.length_map] at this
  rw [bytes, words, List.append_assoc, ← length, List.take_left]
  exact phrase.isLocal

/-- No byte in front of the literal means anything to the lexer. -/
theorem all_words : phrase.words.all isOrdinary = true := by
  simp only [words, List.all_append, Bool.and_eq_true]
  exact ⟨all_isOrdinary (by decide) phrase.all_localWord, all_isOrdinary (by decide) phrase.blank,
    all_isOrdinary (by decide) phrase.all_infileWord, all_isOrdinary (by decide) phrase.blank'⟩

/-- Behind `LOCAL`. -/
def behind : Bytes :=
  phrase.gap ++ (phrase.infileWord ++ (phrase.gap' ++ (phrase.literal ++ phrase.after)))

theorem bytes_eq : phrase.bytes = phrase.localWord ++ phrase.behind := by
  simp [bytes, words, behind]

theorem at_words {i : Nat} (le : i ≤ phrase.words.length) :
    State.start.at_ noBackslash phrase.bytes i = .start :=
  at_of_ordinary phrase.all_words le

/-- The lexer leaves the literal where the scanner does. -/
theorem at_literal : State.start.at_ noBackslash phrase.bytes
    (phrase.words.length + phrase.literal.length) = .start := by
  have passes := (passes_ordinary phrase.all_words _).append (phrase.quotes.passes phrase.after)
  rw [bytes, ← List.append_assoc, ← List.length_append]
  exact (passes.at_add 0).trans (State.at_zero _ _)

theorem nextWord?_bytes {blanks : Bytes} (blank : blanks.all isBlank = true) :
    nextWord? (blanks ++ phrase.bytes) = some (phrase.localWord, phrase.behind) := by
  rw [nextWord?_eq_some_iff phrase.all_localWord]
  refine ⟨ne_nil_of_isKeyword phrase.isLocal (by decide), blanks, blank, by rw [bytes_eq], ?_⟩
  exact ends_of_blank phrase.blank fun none => absurd none phrase.apart

theorem nextWord?_behind : nextWord? phrase.behind =
    some (phrase.infileWord, phrase.gap' ++ (phrase.literal ++ phrase.after)) := by
  rw [nextWord?_eq_some_iff phrase.all_infileWord]
  refine ⟨ne_nil_of_isKeyword phrase.isInfile (by decide), phrase.gap, phrase.blank, rfl, ?_⟩
  exact ends_of_blank phrase.blank' fun _ => phrase.quotes.ends

theorem nextLiteral?_behind :
    nextLiteral? noBackslash (phrase.gap' ++ (phrase.literal ++ phrase.after)) = some file :=
  nextLiteral?_eq_some_iff.mpr ⟨_, _, _, phrase.blank', rfl, phrase.quotes⟩

end Phrase

theorem exists_phrase_of_named (named : namesLocalFile noBackslash file sql = true) :
    ∃ phrase : Phrase noBackslash file, Scans sql phrase.bytes := by
  fun_induction namesLocalFile noBackslash file sql with
  | case1 => cases named
  | case2 => cases named
  | case3 text word rest read isLocal word' rest' read' isInfile =>
    have letters : word.all isWordByte = true := all_isWordByte_of_isKeyword isLocal (by decide)
    have letters' : word'.all isWordByte = true := all_isWordByte_of_isKeyword isInfile (by decide)
    obtain ⟨some, blanks, blank₀, rfl, ends⟩ := (nextWord?_eq_some_iff letters).mp read
    obtain ⟨some', gap, blank, rfl, -⟩ := (nextWord?_eq_some_iff letters').mp read'
    obtain ⟨gap', literal, after, blank', rfl, quotes⟩ :=
      nextLiteral?_eq_some_iff.mp (eq_of_beq named)
    -- with nothing between them the two words would be one
    have apart : gap ≠ [] := by
      rintro rfl
      obtain ⟨b, more, rfl⟩ := List.exists_cons_of_ne_nil some'
      have letter : isWordByte b = true := (Bool.and_eq_true_iff.mp letters').1
      exact absurd (letter.symm.trans ends) (by decide)
    let phrase : Phrase noBackslash file :=
      { localWord := word, gap, infileWord := word', gap', literal, after, isLocal, isInfile, blank,
        blank', apart, quotes }
    have solid : phrase.bytes.head?.any isBlank = false := by
      obtain ⟨b, more, rfl⟩ := List.exists_cons_of_ne_nil some
      exact isBlank_of_isWordByte (Bool.and_eq_true_iff.mp letters).1
    refine ⟨phrase, ?_⟩
    have found := skipBlanks_append blank₀ solid
    rw [phrase.bytes_eq] at found ⊢
    exact .here found
  | case4 text word rest read isLocal word' rest' read' other ih =>
    obtain ⟨phrase, scans⟩ := ih named
    exact ⟨phrase, .pair read isLocal read' (by simpa using other) scans⟩
  | case5 text word rest read other ih =>
    obtain ⟨phrase, scans⟩ := ih named
    exact ⟨phrase, .word read (by simpa using other) scans⟩

theorem named_of_scans (phrase : Phrase noBackslash file) (scans : Scans sql phrase.bytes) :
    namesLocalFile noBackslash file sql = true := by
  generalize eq : phrase.bytes = found at scans
  induction scans with
  | @here text _ found =>
    obtain ⟨blanks, blank, parts⟩ := exists_blanks text
    have read := phrase.nextWord?_bytes blank
    rw [eq, ← found, ← parts] at read
    rw [namesLocalFile_of_words read phrase.isLocal phrase.nextWord?_behind phrase.isInfile,
      phrase.nextLiteral?_behind]
    exact beq_self_eq_true _
  | word read other _ ih => rw [namesLocalFile_of_word read other, ih eq]
  | pair read isLocal read' other _ ih =>
    rw [namesLocalFile_of_pair read isLocal read' other, ih eq]

/-! ## Where a request stands -/

/-- The request that the scanner finds in a statement. -/
structure Request (noBackslash : Bool) (file sql : Bytes) where
  before : Bytes
  phrase : Phrase noBackslash file
  sql_eq : sql = before ++ phrase.bytes
  scans : Scans sql phrase.bytes

theorem namesLocalFile_iff :
    namesLocalFile noBackslash file sql = true ↔ Nonempty (Request noBackslash file sql) := by
  constructor
  · intro named
    obtain ⟨phrase, scans⟩ := exists_phrase_of_named named
    obtain ⟨before, sql_eq⟩ := scans.exists_before
    exact ⟨before, phrase, sql_eq, scans⟩
  · rintro ⟨request⟩
    exact named_of_scans request.phrase request.scans

namespace Request

variable (request : Request noBackslash file sql)

/-- The place of the literal. -/
def opening : Nat := request.before.length + request.phrase.words.length

/-- The place behind the literal. -/
def closing : Nat := request.opening + request.phrase.literal.length

/-- The word that the scanner stops at is the one at its place in the statement. -/
theorem isKeyword_take_drop :
    isKeyword "LOCAL" ((sql.drop request.before.length).take 5) = true := by
  obtain ⟨before, phrase, rfl, -⟩ := request
  rw [List.drop_left]
  exact phrase.isKeyword_take

/-- The words and the literal stand outside of other literals, identifiers and comments. -/
structure InText : Prop where
  words : ∀ i, request.before.length ≤ i → i ≤ request.opening →
    State.start.at_ noBackslash sql i = .start
  literal : State.start.at_ noBackslash sql request.closing = .start

theorem inText_iff :
    request.InText ↔ State.start.at_ noBackslash sql request.before.length = .start := by
  constructor
  · intro inText
    exact inText.words _ (Nat.le_refl _) (Nat.le_add_right _ _)
  · obtain ⟨before, phrase, rfl, scans⟩ := request
    intro start
    have later (i : Nat) :
        State.start.at_ noBackslash (before ++ phrase.bytes) (before.length + i) =
          State.start.at_ noBackslash phrase.bytes i := by
      rw [State.at_append, start]
    constructor
    · intro i low high
      obtain ⟨j, rfl⟩ := Nat.exists_eq_add_of_le low
      rw [later]
      exact phrase.at_words (Nat.le_of_add_le_add_left high)
    · rw [closing, opening, Nat.add_assoc, later]
      exact phrase.at_literal

end Request

/-- The first words of the statement. -/
def beginsLoadData (sql : Bytes) : Bool :=
  match nextWord? sql with
  | some (word, rest) =>
    isKeyword "LOAD" word && (nextWord? rest).any fun (word, _) => isKeyword "DATA" word
  | none => false

/-- The request is what the statement asks for. -/
structure Request.Genuine (request : Request noBackslash file sql) : Prop where
  begins : beginsLoadData sql = true
  inText : request.InText

/-- The file of a statement that is let through is named by words that the statement holds, but they
may stand in a literal or a comment of another one: they ask for the file exactly if the statement
begins with `LOAD DATA` and the lexer is in ordinary text in front of `LOCAL`. -/
theorem genuine_iff_of_named (named : namesLocalFile noBackslash file sql = true) :
    Nonempty (Request noBackslash file sql) ∧ ∀ request : Request noBackslash file sql,
      request.Genuine ↔ beginsLoadData sql = true ∧
        State.start.at_ noBackslash sql request.before.length = .start := by
  refine ⟨namesLocalFile_iff.mp named, fun request => ?_⟩
  rw [← request.inText_iff]
  exact ⟨fun genuine => ⟨genuine.begins, genuine.inText⟩, fun ⟨begins, inText⟩ => ⟨begins, inText⟩⟩

/-- A comment is enough. -/
theorem named_inComment :
    let file := Bytes.ascii "/etc/passwd"
    let sql := Bytes.ascii "SELECT 1 -- LOCAL INFILE '/etc/passwd'"
    namesLocalFile false file sql = true ∧ beginsLoadData sql = false ∧
      ∃ request : Request false file sql, ¬ request.Genuine ∧
        (State.start.at_ false sql request.before.length).mode = .lineComment := by
  intro file sql
  have named : namesLocalFile false file sql = true := by decide +kernel
  obtain ⟨⟨request⟩, genuine_iff⟩ := genuine_iff_of_named named
  have inComment : ∀ i < 39, isKeyword "LOCAL" ((sql.drop i).take 5) = true →
      (State.start.at_ false sql i).mode = .lineComment := by
    decide +kernel
  have here : request.before.length < 39 := by
    have whole := congrArg List.length request.sql_eq
    rw [List.length_append, show sql.length = 38 from rfl] at whole
    omega
  have comment := inComment _ here request.isKeyword_take_drop
  refine ⟨named, by decide, request, ?_, comment⟩
  intro genuine
  have start := ((genuine_iff request).mp genuine).2
  rw [start] at comment
  cases comment

end SqlWire.Sql
