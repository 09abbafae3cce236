import Mathlib.Data.List.Forall2
import SqlWire.Proofs.Bitmap
import SqlWire.Proofs.Response.Encoding

/-!
# Cells of a row

A server writes the cells of a row one behind the other. In a text row each tells its length; in a
binary row a bitmap tells the NULLs, and the type of a column tells how the length of its values is
told (`Extent.ofCode`). What was written is read back, whichever of the bitmap's other bits are set
(`cells_textBytes`, `cells_binaryBytes`).

Nothing is known of a row that a server has made up. `cells?` is `cells` with `none` for a look beyond
the end of the bitmap: there is none (`cells?_eq`). Cells that are read stand in the row.
-/

namespace SqlWire

open SqlWire.Field

/-! ## Values of binary rows -/

namespace Extent

/-- How the length of a value is told, by the code of its column's type. -/
def ofCode (code : UInt8) : Extent :=
  if code = 0x01 then .fixed 1
  else if code = 0x02 ∨ code = 0x0d then .fixed 2
  else if code = 0x03 ∨ code = 0x04 ∨ code = 0x09 then .fixed 4
  else if code = 0x05 ∨ code = 0x08 then .fixed 8
  else if code = 0x06 then .fixed 0
  else if code = 0x07 ∨ code = 0x0a ∨ code = 0x0b ∨ code = 0x0c then .byteLength
  else .lengthEncoded

theorem ofType_ofCode? (code : UInt8) : ofType (ColumnType.ofCode? code) = ofCode code := by
  have table : ∀ n : Fin 256,
      ofType (ColumnType.ofCode? (UInt8.ofFin n)) = ofCode (UInt8.ofFin n) := by decide +kernel
  exact table code.toFin

/-- The lengths that values may have. -/
def Allows : Extent → Bytes → Prop
  | fixed size, bytes => bytes.length = size
  | byteLength, bytes => bytes.length ≤ 255
  | lengthEncoded, bytes => bytes.length < UInt64.size

instance (extent : Extent) (bytes : Bytes) : Decidable (extent.Allows bytes) := by
  cases extent <;> unfold Allows <;> infer_instance

def write : Extent → Bytes → Bytes
  | fixed _, bytes => bytes
  | byteLength, bytes => UInt8.ofNat bytes.length :: bytes
  | lengthEncoded, bytes => lenEncBytes bytes

theorem read_write {extent : Extent} {bytes rest : Bytes} (allowed : extent.Allows bytes) :
    extent.read (extent.write bytes ++ rest) = .ok (bytes, rest) := by
  cases extent with
  | fixed size => exact take_append allowed
  | byteLength =>
    have short : bytes.length ≤ 255 := allowed
    have length : (UInt8.ofNat bytes.length).toNat = bytes.length := by
      rw [UInt8.toNat_ofNat']
      omega
    show readBytes (UInt8.ofNat bytes.length).toNat (bytes ++ rest) = _
    rw [length, readBytes_append]
  | lengthEncoded =>
    show (readLenEncBytes (lenEncBytes bytes ++ rest) >>= fun r => pure (r.1.getD [], r.2)) = _
    rw [readLenEncBytes_lenEncBytes allowed]
    rfl

/-- A value that is read stands in front of what is left. -/
theorem suffix_of_read {extent : Extent} {data bytes rest : Bytes}
    (read : extent.read data = .ok (bytes, rest)) : bytes ++ rest <:+ data := by
  cases extent with
  | fixed size =>
    exact ⟨[], (eq_of_take read).symm⟩
  | byteLength =>
    obtain ⟨⟨size, behind⟩, length, read⟩ := Except.ok_of_bind read
    rw [eq_of_readU8 length, ← eq_of_take read]
    exact List.suffix_cons size behind
  | lengthEncoded =>
    obtain ⟨⟨cell, behind⟩, value, eq⟩ := Except.ok_of_bind read
    cases eq
    obtain ⟨lead, behind, rfl, suffix⟩ := suffix_of_readLenEncBytes value
    exact suffix.trans (List.suffix_cons lead behind)

end Extent

namespace Row

variable {columns : List Column} {cells : List Cell} {bitmap data : Bytes} {i : Nat}

/-! ## Rows as a server writes them -/

/-- A cell that a column may have. -/
def Allows (column : Column) (cell : Cell) : Prop :=
  ∀ bytes ∈ cell, (Extent.ofCode column.typeCode).Allows bytes

instance (column : Column) (cell : Cell) : Decidable (Allows column cell) := by
  unfold Allows
  infer_instance

/-- The values of the cells that are not NULL. -/
def valueBytes : List Column → List Cell → Bytes
  | column :: columns, some bytes :: cells =>
    (Extent.ofCode column.typeCode).write bytes ++ valueBytes columns cells
  | _ :: columns, none :: cells => valueBytes columns cells
  | _, _ => []

def binaryBytes (bitmap : Bytes) (columns : List Column) (cells : List Cell) : Bytes :=
  0x00 :: (bitmap ++ valueBytes columns cells)

/-- A bitmap of so many bytes, with a bit for each cell, two places further than the cell. -/
structure Marks (bitmap : Bytes) (cells : List Cell) : Prop where
  length : bitmap.length = (cells.length + 2 + 7) / 8
  nulls : bitmap.Holds 2 (cells.map Option.isNone)

/-- The bitmap in which no other bit is set. -/
def nullBitmap (cells : List Cell) : Bytes :=
  Command.packBits (false :: false :: cells.map Option.isNone)

theorem marks_nullBitmap (cells : List Cell) : Marks (nullBitmap cells) cells where
  length := by simp [nullBitmap, Command.length_packBits]
  nulls := (Command.holds_packBits (false :: false :: cells.map Option.isNone)).tail.tail

theorem bit_toWire {bit : Bool} (place : bitmap.bit? i = some bit) :
    Row.bit bitmap.toWire i = bit := by
  obtain ⟨byte, at_, rfl⟩ := Option.map_eq_some_iff.mp place
  obtain ⟨inside, rfl⟩ := List.getElem?_eq_some_iff.mp at_
  unfold Row.bit
  rw [dif_pos (by rwa [Bytes.size_toWire])]
  simp [Bytes.toWire]

theorem textCells_textBytes (fits : ∀ bytes, some bytes ∈ cells → bytes.length < UInt64.size) :
    textCells cells.length (textBytes cells) = .ok cells := by
  induction cells with
  | nil => rfl
  | cons cell cells ih =>
    have behind := ih fun bytes mem => fits bytes (List.mem_cons_of_mem _ mem)
    have first : readLenEncBytes (textBytes (cell :: cells)) = .ok (cell, textBytes cells) := by
      cases cell with
      | none => rfl
      | some bytes => exact readLenEncBytes_lenEncBytes (fits bytes List.mem_cons_self)
    rw [List.length_cons, textCells, first]
    show (textCells cells.length (textBytes cells) >>= fun cells => pure (cell :: cells)) = _
    rw [behind]
    rfl

/-- The induction is on columns and cells together; the bitmap holds the marks of the cells that are
still to come. -/
theorem binaryCells_valueBytes (allowed : List.Forall₂ Allows columns cells)
    (nulls : bitmap.Holds (i + 2) (cells.map Option.isNone)) :
    binaryCells bitmap.toWire i columns (valueBytes columns cells) = .ok cells := by
  induction allowed generalizing i with
  | nil => rfl
  | @cons column cell columns cells first _ ih =>
    have behind := ih (i := i + 1) (by rw [Nat.add_right_comm]; exact nulls.tail)
    have mark := bit_toWire nulls.head
    unfold binaryCells
    cases cell with
    | none =>
      rw [mark, Option.isNone_none, if_pos rfl, valueBytes, behind]
      rfl
    | some bytes =>
      rw [mark, Option.isNone_some, if_neg Bool.false_ne_true, valueBytes, Column.type?,
        Extent.ofType_ofCode?, Extent.read_write (first bytes rfl)]
      show (binaryCells bitmap.toWire (i + 1) columns (valueBytes columns cells) >>= fun cells =>
        pure (some bytes :: cells)) = _
      rw [behind]
      rfl

theorem cells_textBytes (count : cells.length = columns.length)
    (fits : ∀ bytes, some bytes ∈ cells → bytes.length < UInt64.size) :
    Row.cells ⟨(textBytes cells).toWire, false⟩ columns = .ok cells := by
  unfold Row.cells
  rw [Bytes.ofWire_toWire, ← count]
  exact textCells_textBytes fits

theorem cells_binaryBytes (allowed : List.Forall₂ Allows columns cells) (marks : Marks bitmap cells) :
    Row.cells ⟨(binaryBytes bitmap columns cells).toWire, true⟩ columns = .ok cells := by
  have size : bitmapSize columns.length = bitmap.length := by
    rw [marks.length, allowed.length_eq]
    rfl
  unfold Row.cells
  rw [Bytes.ofWire_toWire]
  show (readBytes (bitmapSize columns.length) (bitmap ++ valueBytes columns cells) >>= fun r =>
    binaryCells r.1.toWire 0 columns r.2) = _
  rw [size, readBytes_append]
  exact binaryCells_valueBytes allowed marks.nulls

/-! ## Any row -/

/-- `binaryCells`, with `none` where a byte of the bitmap is missing. -/
def binaryCells? (bitmap : Bytes) :
    Nat → List Column → Bytes → Option (Except ProtocolFault (List Cell))
  | _, [], _ => some (.ok [])
  | i, column :: columns, data => do
    if ← bitmap.bit? (i + 2) then
      return (← binaryCells? bitmap (i + 1) columns data).map (none :: ·)
    else
      match (Extent.ofType column.type?).read data with
      | .error fault => return .error fault
      | .ok (cell, rest) => return (← binaryCells? bitmap (i + 1) columns rest).map (some cell :: ·)

/-- `cells`, with `none` where a byte of the bitmap is missing. -/
def cells? (row : Row) (columns : List Column) : Option (Except ProtocolFault (List Cell)) :=
  if row.binary then
    match Field.readU8 (Bytes.ofWire row.data) with
    | .error fault => some (.error fault)
    | .ok (lead, data) =>
      if lead = 0x00 then
        match Field.readBytes ((columns.length + 2 + 7) / 8) data with
        | .error fault => some (.error fault)
        | .ok (bitmap, data) => binaryCells? bitmap 0 columns data
      else some (.error (.unexpectedLead .binaryRow lead))
  else some (textCells columns.length (Bytes.ofWire row.data))

theorem exists_bit? (inside : i / 8 < bitmap.length) : ∃ bit, bitmap.bit? i = some bit := by
  unfold Bytes.bit?
  rw [List.getElem?_eq_getElem inside]
  exact ⟨_, rfl⟩

theorem binaryCells?_eq (inside : (i + columns.length + 9) / 8 ≤ bitmap.length) :
    binaryCells? bitmap i columns data = some (binaryCells bitmap.toWire i columns data) := by
  induction columns generalizing i data with
  | nil => rfl
  | cons column columns ih =>
    rw [List.length_cons] at inside
    obtain ⟨bit, place⟩ : ∃ bit, bitmap.bit? (i + 2) = some bit := exists_bit? (by omega)
    have behind (rest : Bytes) : binaryCells? bitmap (i + 1) columns rest =
        some (binaryCells bitmap.toWire (i + 1) columns rest) := ih (by omega)
    unfold binaryCells? binaryCells
    rw [place, bit_toWire place]
    cases bit with
    | true =>
      show ((binaryCells? bitmap (i + 1) columns data).bind fun cells => some (cells.map (none :: ·))) = _
      rw [behind]
      cases binaryCells bitmap.toWire (i + 1) columns data <;> rfl
    | false =>
      cases (Extent.ofType column.type?).read data with
      | error fault => rfl
      | ok r =>
        obtain ⟨cell, rest⟩ := r
        show ((binaryCells? bitmap (i + 1) columns rest).bind fun cells =>
          some (cells.map (some cell :: ·))) =
            some (binaryCells bitmap.toWire (i + 1) columns rest >>= fun cells => pure (some cell :: cells))
        rw [behind]
        cases binaryCells bitmap.toWire (i + 1) columns rest <;> rfl

/-- No byte beyond the end of the bitmap is looked at. -/
theorem cells?_eq (row : Row) (columns : List Column) :
    row.cells? columns = some (row.cells columns) := by
  unfold cells? cells
  cases row.binary with
  | false => rfl
  | true =>
    rw [if_pos rfl, if_pos rfl]
    cases readU8 (Bytes.ofWire row.data) with
    | error fault => rfl
    | ok r =>
      obtain ⟨lead, data⟩ := r
      show (if lead = 0x00 then _ else _) = some (if lead != Lead.ok then _ else _)
      by_cases ok : lead = 0x00
      · rw [if_pos ok, if_neg (by simpa [Lead.ok] using ok)]
        show _ = some (readBytes ((columns.length + 2 + 7) / 8) data >>= _)
        cases read : readBytes ((columns.length + 2 + 7) / 8) data with
        | error fault => rfl
        | ok r =>
          have length : r.1.length = (columns.length + 2 + 7) / 8 := length_of_take read
          exact binaryCells?_eq (by omega)
      · rw [if_neg ok, if_pos (by simpa [Lead.ok] using ok)]
        rfl

/-- Each cell that is not NULL is a part of the data. -/
def StandsIn (cells : List Cell) (data : Bytes) : Prop :=
  ∀ bytes, some bytes ∈ cells → bytes <:+: data

theorem standsIn_nil : StandsIn [] data := by simp [StandsIn]

theorem StandsIn.cons {cell : Cell} {rest : Bytes} (behind : StandsIn cells rest)
    (suffix : cell.getD [] ++ rest <:+ data) : StandsIn (cell :: cells) data := by
  intro bytes mem
  rcases List.mem_cons.mp mem with eq | mem
  · rw [← eq, Option.getD_some] at suffix
    exact (List.infix_append' [] bytes rest).trans suffix.isInfix
  · exact (behind bytes mem).trans ((List.suffix_append _ rest).trans suffix).isInfix

theorem standsIn_of_textCells {count : Nat} (read : textCells count data = .ok cells) :
    cells.length = count ∧ StandsIn cells data := by
  induction count generalizing data cells with
  | zero =>
    cases read
    exact ⟨rfl, standsIn_nil⟩
  | succ count ih =>
    obtain ⟨⟨cell, rest⟩, first, read⟩ := Except.ok_of_bind read
    obtain ⟨others, behind, eq⟩ := Except.ok_of_bind read
    cases eq
    obtain ⟨length, stands⟩ := ih behind
    obtain ⟨lead, tail, rfl, suffix⟩ := suffix_of_readLenEncBytes first
    exact ⟨congrArg (· + 1) length, stands.cons (suffix.trans (List.suffix_cons lead tail))⟩

theorem standsIn_of_binaryCells {bitmap : ByteArray}
    (read : binaryCells bitmap i columns data = .ok cells) :
    cells.length = columns.length ∧ StandsIn cells data := by
  induction columns generalizing i data cells with
  | nil =>
    cases read
    exact ⟨rfl, standsIn_nil⟩
  | cons column columns ih =>
    unfold binaryCells at read
    split at read
    · obtain ⟨others, behind, eq⟩ := Except.ok_of_bind read
      cases eq
      obtain ⟨length, stands⟩ := ih behind
      exact ⟨congrArg (· + 1) length, stands.cons List.suffix_rfl⟩
    · obtain ⟨⟨value, rest⟩, first, read⟩ := Except.ok_of_bind read
      obtain ⟨others, behind, eq⟩ := Except.ok_of_bind read
      cases eq
      obtain ⟨length, stands⟩ := ih behind
      exact ⟨congrArg (· + 1) length, stands.cons (Extent.suffix_of_read first)⟩

theorem standsIn_of_cells {row : Row} (read : row.cells columns = .ok cells) :
    cells.length = columns.length ∧ StandsIn cells (Bytes.ofWire row.data) := by
  unfold Row.cells at read
  dsimp only at read
  split at read
  · obtain ⟨⟨lead, data⟩, first, read⟩ := Except.ok_of_bind read
    dsimp only at read
    split at read
    · cases read
    · obtain ⟨⟨bitmap, values⟩, marks, read⟩ := Except.ok_of_bind read
      obtain ⟨length, stands⟩ := standsIn_of_binaryCells read
      refine ⟨length, fun bytes mem => ?_⟩
      rw [eq_of_readU8 first, eq_of_take marks]
      exact (stands bytes mem).trans
        ((List.suffix_append bitmap values).trans (List.suffix_cons lead _)).isInfix
  · exact standsIn_of_textCells read

/-- Cells come back from both encodings as they were written. Whatever a row holds, it is read within
its bounds: there are as many cells as columns, each a part of the row, or the row has a fault. -/
theorem cells_spec (columns : List Column) :
    (∀ cells, cells.length = columns.length →
      (∀ bytes, some bytes ∈ cells → bytes.length < UInt64.size) →
        Row.cells ⟨(textBytes cells).toWire, false⟩ columns = .ok cells) ∧
    (∀ cells bitmap, List.Forall₂ Allows columns cells → Marks bitmap cells →
      Row.cells ⟨(binaryBytes bitmap columns cells).toWire, true⟩ columns = .ok cells) ∧
    ∀ row : Row, row.cells? columns = some (row.cells columns) ∧
      ((∃ cells, row.cells columns = .ok cells ∧ cells.length = columns.length ∧
        StandsIn cells (Bytes.ofWire row.data)) ∨ ∃ fault, row.cells columns = .error fault) := by
  refine ⟨fun _ => cells_textBytes, fun _ _ => cells_binaryBytes, fun row => ⟨cells?_eq row columns, ?_⟩⟩
  cases read : row.cells columns with
  | ok cells => exact .inl ⟨cells, rfl, standsIn_of_cells read⟩
  | error fault => exact .inr ⟨fault, rfl⟩

/-- A column of each extent, one of a type that is not known among them. -/
def mixedColumns : List Column :=
  [0x01, 0x08, 0x0d, 0x09, 0x05, 0x06, 0x0c, 0xfd, 0xfc, 0x20].map fun code =>
    ⟨"", "", "", "", "", 0, 0, code, 0, 0⟩

/-- Cells of these columns, with NULLs in both bytes of the bitmap. -/
def mixedCells : List Cell :=
  [some [0xff], none, some [1, 2], some [1, 2, 3, 4], some [1, 2, 3, 4, 5, 6, 7, 8], some [],
    some [4, 0xea, 7, 1, 1], some [0xfb], none, some []]

theorem cells_spec_mixed :
    Row.cells ⟨(textBytes mixedCells).toWire, false⟩ mixedColumns = .ok mixedCells ∧
    Row.cells ⟨(binaryBytes (nullBitmap mixedCells) mixedColumns mixedCells).toWire, true⟩ mixedColumns =
      .ok mixedCells := by
  obtain ⟨text, binary, -⟩ := cells_spec mixedColumns
  exact ⟨text mixedCells rfl (by simp [mixedCells, UInt64.size]),
    binary mixedCells (nullBitmap mixedCells) (by decide) (marks_nullBitmap mixedCells)⟩

end Row

end SqlWire
