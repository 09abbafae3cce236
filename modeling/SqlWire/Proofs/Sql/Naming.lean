import SqlWire.Proofs.Sql.Literals
import SqlWire.Proofs.Sql.LocalFile

/-!
# Statements that were written for a file

A client that writes the name of a file into `LOAD DATA LOCAL INFILE`, as the literal of a text, has
the server ask for that file. The check of file requests reads the literal back: it takes back each
escape but the one of a NUL, of which it keeps the digit (`readBack`). So such a statement names its
own file exactly if the mode has no such escape or the name has no NUL; else it names another one
(`namesLocalFile_loadData_iff`).
-/

namespace SqlWire.Sql

variable {noBackslash : Bool} {suffix file : Bytes}

theorem map_readBack_eq_self_iff (data : Bytes) :
    data.map (readBack noBackslash) = data ↔ noBackslash = true ∨ 0 ∉ data := by
  have pointwise : data.map (readBack noBackslash) = data ↔ ∀ b ∈ data, readBack noBackslash b = b := by
    simpa using List.map_inj_left (l := data) (f := readBack noBackslash) (g := id)
  rw [pointwise]
  cases noBackslash with
  | true => simp [readBack]
  | false =>
    rw [or_iff_right Bool.false_ne_true]
    constructor
    · intro fixed zero
      exact absurd (fixed 0 zero) (by decide)
    · intro plain b mem
      have other : b ≠ 0 := fun zero => plain (zero ▸ mem)
      simp [readBack, other]

/-! ## What the scanner reads of a literal -/

/-- A quote behind the literal would be taken for a part of it. -/
theorem nextLiteral?_quoted (blanks data : Bytes) (blank : blanks.all isBlank = true)
    (ends : suffix.head? ≠ some 0x27) :
    nextLiteral? noBackslash (blanks ++ (Value.quoted noBackslash data ++ suffix)) =
      some (data.map (readBack noBackslash)) :=
  nextLiteral?_eq_some_iff.mpr
    ⟨blanks, _, suffix, blank, rfl, .intro (.inl rfl) (spells_escaped data) ends⟩

/-! ## What the statement names -/

/-- The statement that loads a file, with the literal of its name. -/
def loadData (noBackslash : Bool) (name : String) (suffix : Bytes) : Bytes :=
  Bytes.ascii "LOAD DATA LOCAL INFILE " ++ (Value.literal noBackslash (.text name) ++ suffix)

theorem namesLocalFile_loadData (name : String) :
    namesLocalFile noBackslash file (loadData noBackslash name suffix) =
      (nextLiteral? noBackslash (Bytes.ascii " " ++ (Value.literal noBackslash (.text name) ++ suffix)) ==
        some file) := by
  have word (blanks word rest : Bytes) (blank : blanks.all isBlank = true) (some : word ≠ [])
      (letters : word.all isWordByte = true) (ends : rest.head?.any isWordByte = false) :
      nextWord? (blanks ++ (word ++ rest)) = Option.some (word, rest) :=
    (nextWord?_eq_some_iff letters).mpr ⟨some, blanks, blank, rfl, ends⟩
  unfold loadData
  generalize Value.literal noBackslash (.text name) ++ suffix = behind
  have load := word [] (Bytes.ascii "LOAD") (Bytes.ascii " DATA LOCAL INFILE " ++ behind) rfl
    (by decide) (by decide) rfl
  have data := word (Bytes.ascii " ") (Bytes.ascii "DATA") (Bytes.ascii " LOCAL INFILE " ++ behind)
    (by decide) (by decide) (by decide) rfl
  have localWord := word (Bytes.ascii " ") (Bytes.ascii "LOCAL") (Bytes.ascii " INFILE " ++ behind)
    (by decide) (by decide) (by decide) rfl
  have infileWord := word (Bytes.ascii " ") (Bytes.ascii "INFILE") (Bytes.ascii " " ++ behind)
    (by decide) (by decide) (by decide) rfl
  calc namesLocalFile noBackslash file (Bytes.ascii "LOAD DATA LOCAL INFILE " ++ behind)
      = namesLocalFile noBackslash file (Bytes.ascii " DATA LOCAL INFILE " ++ behind) :=
        namesLocalFile_of_word load (by decide)
    _ = namesLocalFile noBackslash file (Bytes.ascii " LOCAL INFILE " ++ behind) :=
        namesLocalFile_of_word data (by decide)
    _ = (nextLiteral? noBackslash (Bytes.ascii " " ++ behind) == some file) :=
        namesLocalFile_of_words localWord (by decide) infileWord (by decide)

/-- A statement that was written for a file asks the server for that file. It is let through for the file
whose name is read back, and so for its own exactly if no NUL has to be escaped. -/
theorem namesLocalFile_loadData_iff (noBackslash : Bool) (name : String) (suffix : Bytes)
    (ends : suffix.head? ≠ some 0x27) :
    nextLiteral? noBackslash (Value.literal noBackslash (.text name) ++ suffix) =
        some ((Text.encode name).map (readBack noBackslash)) ∧
    (∀ file, namesLocalFile noBackslash file (loadData noBackslash name suffix) = true ↔
        file = (Text.encode name).map (readBack noBackslash)) ∧
    (namesLocalFile noBackslash (Text.encode name) (loadData noBackslash name suffix) = true ↔
        noBackslash = true ∨ 0 ∉ Text.encode name) := by
  have names (file : Bytes) : namesLocalFile noBackslash file (loadData noBackslash name suffix) = true ↔
      file = (Text.encode name).map (readBack noBackslash) := by
    have read : nextLiteral? noBackslash
        (Bytes.ascii " " ++ (Value.literal noBackslash (.text name) ++ suffix)) =
          some ((Text.encode name).map (readBack noBackslash)) :=
      nextLiteral?_quoted (Bytes.ascii " ") _ (by decide) ends
    rw [namesLocalFile_loadData, read, beq_iff_eq, Option.some_inj]
    exact eq_comm
  refine ⟨nextLiteral?_quoted [] _ rfl ends, names, ?_⟩
  rw [names, eq_comm]
  exact map_readBack_eq_self_iff _

/-- With a NUL in its name a file is refused, and the one with a zero in its place is let through. -/
theorem namesLocalFile_loadData_withNul :
    let sql := loadData false "a\x00b" (Bytes.ascii " INTO TABLE t")
    sql = Bytes.ascii "LOAD DATA LOCAL INFILE 'a\\0b' INTO TABLE t" ∧
      namesLocalFile false (Text.encode "a\x00b") sql = false ∧
      namesLocalFile false (Text.encode "a0b") sql = true := by
  obtain ⟨-, names, own⟩ :=
    namesLocalFile_loadData_iff false "a\x00b" (Bytes.ascii " INTO TABLE t") (by decide)
  refine ⟨by decide, ?_, (names _).mpr (by decide)⟩
  rw [Bool.eq_false_iff, Ne, own]
  decide

end SqlWire.Sql
