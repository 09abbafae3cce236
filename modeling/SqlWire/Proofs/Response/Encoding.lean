import SqlWire.Proofs.Fields
import SqlWire.Result.Reader

/-!
# Packets of a response, as a server writes them

The packets of results in MySQL's format, with integers in their shortest length-encoded form: OK
packets and EOF packets, the number of columns and their definitions, and rows. Each is read back as
what was written (`OkPacket.parse_bytes`, `EofPacket.parse_bytes`, `columnCount_lenEnc`,
`Column.parse_bytes`), and a row is taken neither for an error nor for the end of the rows
(`Row.Sent.head?_ne_err`, `Row.Sent.not_isResultEnd`).
-/

namespace SqlWire

open SqlWire.Field

/-! ## OK and EOF packets -/

namespace OkPacket

/-- An OK packet with this first byte and this field for its info. -/
def bytes (lead : UInt8) (ok : OkPacket) (info : Bytes) : Bytes :=
  lead :: (lenEnc ok.affectedRows ++ (lenEnc ok.lastInsertId ++
    (u16 ok.status.bits ++ (u16 ok.warnings ++ info))))

/-- Fields in which an info is sent. -/
inductive InfoField (info : String) : Bytes → Prop where
  /-- The info after its length, and whatever follows it. -/
  | counted (behind : Bytes) (fits : (Text.encode info).length < UInt64.size) :
      InfoField info (lenEncText info ++ behind)
  /-- The info alone, where its first bytes cannot be the length of the others. -/
  | plain {fault : ProtocolFault} (uncounted : readLenEncText (Text.encode info) = .error fault) :
      InfoField info (Text.encode info)

/-- What is read from the field of an info. -/
def readInfo (field : Bytes) : String :=
  match readLenEncText field with
  | .ok (info, _) => info
  | .error _ => Text.decodeLossy field

theorem InfoField.readInfo_eq {info : String} {field : Bytes} (sent : InfoField info field) :
    readInfo field = info := by
  unfold readInfo
  cases sent with
  | counted behind fits => rw [readLenEncText_lenEncText fits]
  | plain uncounted => rw [uncounted, Text.decodeLossy_encode]

theorem parse_bytes {lead : UInt8} (known : lead = Lead.ok ∨ lead = Lead.eof) (ok : OkPacket)
    (info : Bytes) : parse (ok.bytes lead info) = .ok { ok with info := readInfo info } := by
  unfold parse bytes
  rcases known with rfl | rfl <;>
    simp [Lead.ok, Lead.eof, bind, Except.bind, pure, Except.pure] <;> rfl

end OkPacket

namespace EofPacket

def bytes (eof : EofPacket) : Bytes := Lead.eof :: (u16 eof.warnings ++ u16 eof.status.bits)

theorem parse_bytes (eof : EofPacket) : parse eof.bytes = .ok eof := by
  have status : readU16 (u16 eof.status.bits) = .ok (eof.status.bits, []) := by
    rw [← List.append_nil (u16 eof.status.bits), readU16_u16]
  unfold parse bytes
  simp [bind, Except.bind, pure, Except.pure, status]

end EofPacket

/-! ## Columns -/

theorem columnCount_lenEnc {count : Nat} (few : count ≤ 65535) :
    columnCount (lenEnc (UInt64.ofNat count)) = .ok count := by
  have value : (UInt64.ofNat count).toNat = count :=
    UInt64.toNat_ofNat_of_lt' (Nat.lt_of_le_of_lt few (by decide))
  have bound : ¬ UInt64.ofNat count > maxColumns := by
    rw [gt_iff_lt, UInt64.lt_iff_toNat_lt, value]
    exact Nat.not_lt.mpr few
  unfold columnCount
  rw [← List.append_nil (lenEnc _), readLenEncU64_lenEnc]
  simp [bind, Except.bind, pure, Except.pure, bound, value]

/-- A column definition as a server sends it. -/
structure Column.Sent where
  catalog : String
  column : Column
  /-- What follows the fields that are read. -/
  filler : Bytes

namespace Column.Sent

/-- The fields of fixed width. -/
def fixedBytes (column : Column) : Bytes :=
  u16 column.charset ++ (u32 column.length ++ (column.typeCode :: (u16 column.flags ++ [column.decimals])))

def bytes (sent : Sent) : Bytes :=
  lenEncText sent.catalog ++ (lenEncText sent.column.schema ++ (lenEncText sent.column.table ++
    (lenEncText sent.column.orgTable ++ (lenEncText sent.column.name ++
      (lenEncText sent.column.orgName ++ (lenEnc 12 ++ (fixedBytes sent.column ++ sent.filler)))))))

/-- The length of each text can be written before it. -/
def Fits (sent : Sent) : Prop :=
  ∀ text ∈ [sent.catalog, sent.column.schema, sent.column.table, sent.column.orgTable,
    sent.column.name, sent.column.orgName], (Text.encode text).length < UInt64.size

theorem parse_bytes {sent : Sent} (fits : sent.Fits) : parse sent.bytes = .ok sent.column := by
  have fixed : readBytes 10 (fixedBytes sent.column ++ sent.filler) =
      .ok (fixedBytes sent.column, sent.filler) := readBytes_append (fixedBytes sent.column)
  simp only [Fits, List.mem_cons, List.not_mem_nil, or_false, forall_eq_or_imp, forall_eq] at fits
  obtain ⟨catalog, schema, table, orgTable, name, orgName⟩ := fits
  unfold parse bytes
  simp [bind, Except.bind, pure, Except.pure, readLenEncText_lenEncText, catalog, schema, table,
    orgTable, name, orgName, fixed]
  simp [fixedBytes]

end Column.Sent

/-! ## Rows -/

namespace Row

/-- The cells of a text row. -/
def textBytes (cells : List Cell) : Bytes :=
  cells.flatMap fun
    | none => [0xfb]
    | some bytes => lenEncBytes bytes

/-- Rows as a server sends them, in responses of this kind. -/
inductive Sent : ResponseKind → Bytes → Prop where
  /-- Cells of any content, of which there is one at least. -/
  | text {cells : List Cell} (some : cells ≠ [])
      (fits : ∀ bytes, .some bytes ∈ cells → bytes.length < UInt64.size) :
      Sent .text (textBytes cells)
  /-- A bitmap of NULLs and values, of whatever types. -/
  | binary (content : Bytes) : Sent .binary (Lead.ok :: content)

/-- A row begins with a byte, which is not that of an error; the one of an EOF packet begins only rows
that are too large for a single packet on the wire. -/
theorem Sent.cons {kind : ResponseKind} {bytes : Bytes} (sent : Sent kind bytes) :
    ∃ lead behind, bytes = lead :: behind ∧ lead ≠ Lead.err ∧
      (lead = Lead.eof → maxPayload ≤ bytes.length) := by
  cases sent with
  | binary content => exact ⟨_, _, rfl, nofun, nofun⟩
  | @text cells some fits =>
    obtain ⟨cell, cells, rfl⟩ := List.exists_cons_of_ne_nil some
    cases cell with
    | none => exact ⟨0xfb, _, rfl, nofun, nofun⟩
    | some bytes =>
      obtain ⟨lead, behind, eq, notErr, -, -, large⟩ := lenEnc_cons (UInt64.ofNat bytes.length)
      have first : textBytes (.some bytes :: cells) = lead :: (behind ++ bytes ++ textBytes cells) := by
        change lenEncBytes bytes ++ textBytes cells = _
        rw [lenEncBytes, eq, List.cons_append, List.cons_append]
      refine ⟨lead, _, first, notErr, fun eof => ?_⟩
      have length : (0xffffff : UInt64).toNat < (UInt64.ofNat bytes.length).toNat :=
        UInt64.lt_iff_toNat_lt.mp (large eof)
      rw [UInt64.toNat_ofNat_of_lt' (fits bytes List.mem_cons_self)] at length
      rw [first, List.length_cons, List.length_append, List.length_append]
      exact Nat.le_of_lt (Nat.lt_of_lt_of_le length (by omega))

theorem Sent.head?_ne_err {kind : ResponseKind} {bytes : Bytes} (sent : Sent kind bytes) :
    bytes.head? ≠ some Lead.err := by
  obtain ⟨lead, behind, rfl, notErr, -⟩ := sent.cons
  exact fun err => notErr (Option.some_inj.mp err)

theorem Sent.not_isResultEnd {kind : ResponseKind} {bytes : Bytes} (sent : Sent kind bytes)
    (deprecateEof : Bool) : isResultEnd bytes.head? bytes.length deprecateEof = false := by
  obtain ⟨lead, behind, rfl, -, large⟩ := sent.cons
  unfold isResultEnd
  by_cases eof : lead = Lead.eof
  · have size := large eof
    have notEnd : ¬(lead :: behind).length < maxPayload := Nat.not_lt.mpr size
    have notSmall : ¬(lead :: behind).length < 9 := Nat.not_lt.mpr (Nat.le_trans (by decide) size)
    rw [decide_eq_false notEnd, decide_eq_false notSmall, ite_self, Bool.and_false]
  · have other : (some lead == some Lead.eof) = false := beq_eq_false_iff_ne.mpr (by simpa using eof)
    rw [List.head?_cons, other, Bool.false_and]

end Row

end SqlWire
