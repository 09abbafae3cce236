import Mathlib.Control.Basic
import SqlWire.Proofs.Bitmap

/-!
# Parameters, as a server reads them

A server knows from the statement how many parameters there are. It reads a bitmap of the NULLs, the
mark of new types, a type and an unsigned flag for each parameter, and then the values of those that
are not NULL, each to the extent that its type tells. What `writeExecute` appends is read back as the
statement's id and the parameters, with nothing left (`readExecute_writeExecute`).
-/

namespace SqlWire

namespace Value

/-- The lengths of bytes and texts are numbers of 64 bits, as are those of all that a memory holds. -/
def Fits : Value → Prop
  | bytes v => v.length < UInt64.size
  | text v => (Text.encode v).length < UInt64.size
  | _ => True

instance (value : Value) : Decidable value.Fits := by
  cases value <;> unfold Fits <;> infer_instance

/-- The type of a parameter, and whether it is unsigned. -/
def sentAs : Value → ColumnType × Bool
  | null => (.null, false)
  | int _ => (.longLong, false)
  | uint _ => (.longLong, true)
  | double _ => (.double, false)
  | bytes _ => (.blob, false)
  | text _ => (.varString, false)

end Value

namespace Command

/-! ## What the server reads -/

def readType : Bytes → Option ((ColumnType × Bool) × Bytes)
  | code :: flags :: rest => do
    let type ← ColumnType.ofCode? code
    return ((type, flags.toNat.testBit 7), rest)
  | _ => none

def readTypes : Nat → Bytes → Option (List (ColumnType × Bool) × Bytes)
  | 0, data => return ([], data)
  | count + 1, data => do
    let (type, data) ← readType data
    let (types, rest) ← readTypes count data
    return (type :: types, rest)

/-- The value of a parameter that is not NULL. -/
def readValue (type : ColumnType × Bool) (data : Bytes) : Option (Value × Bytes) :=
  match type with
  | (.longLong, false) => do
    let (v, rest) ← (Field.readU64 data).toOption
    return (.int v.toInt64, rest)
  | (.longLong, true) => do
    let (v, rest) ← (Field.readU64 data).toOption
    return (.uint v, rest)
  | (.double, _) => do
    let (v, rest) ← (Field.readU64 data).toOption
    return (.double ⟨v⟩, rest)
  | (.blob, _) => do
    let (v, rest) ← (Field.readLenEncBytes data).toOption
    return (.bytes (← v), rest)
  | (.varString, _) => do
    let (v, rest) ← (Field.readLenEncText data).toOption
    return (.text v, rest)
  | _ => none

/-- The values of the parameters from number `i` on. -/
def readValues (bitmap : Bytes) : Nat → List (ColumnType × Bool) → Bytes → Option (List Value × Bytes)
  | _, [], data => return ([], data)
  | i, type :: types, data => do
    if ← bitmap.bit? i then
      let (values, rest) ← readValues bitmap (i + 1) types data
      return (.null :: values, rest)
    else
      let (value, data) ← readValue type data
      let (values, rest) ← readValues bitmap (i + 1) types data
      return (value :: values, rest)

/-- The parameters of a statement that has `count` of them. -/
def readParams (count : Nat) (data : Bytes) : Option (List Value × Bytes) := do
  if count = 0 then
    return ([], data)
  let (bitmap, data) ← (Field.readBytes ((count + 7) / 8) data).toOption
  let (bound, data) ← (Field.readU8 data).toOption
  guard (bound = 1)
  let (types, data) ← readTypes count data
  readValues bitmap 0 types data

/-- Statement and parameters; also what is left of the command. -/
def readExecute (count : Nat) (data : Bytes) : Option ((UInt32 × List Value) × Bytes) := do
  let (code, data) ← (Field.readU8 data).toOption
  guard (code = 0x17)
  let (id, data) ← (Field.readU32 data).toOption
  let (cursor, data) ← (Field.readU8 data).toOption
  guard (cursor = 0)
  let (iterations, data) ← (Field.readU32 data).toOption
  guard (iterations = 1)
  let (params, rest) ← readParams count data
  return ((id, params), rest)

/-! ## Each section is read back -/

variable {rest : Bytes}

theorem readType_binaryType (value : Value) :
    readType (value.binaryType ++ rest) = some (value.sentAs, rest) := by
  cases value <;> rfl

theorem readTypes_binaryType (params : List Value) :
    readTypes params.length (params.flatMap Value.binaryType ++ rest) =
      some (params.map Value.sentAs, rest) := by
  induction params with
  | nil => rfl
  | cons value params ih =>
    simp [readTypes, List.flatMap_cons, readType_binaryType, ih]

theorem readValue_binary {value : Value} (fits : value.Fits) (notNull : value.isNull = false) :
    readValue value.sentAs (value.binary ++ rest) = some (value, rest) := by
  cases value with
  | null => cases notNull
  | int v | uint v | double v => simp [readValue, Value.sentAs, Value.binary, Except.toOption]
  | bytes v =>
    simp [readValue, Value.sentAs, Value.binary, Field.readLenEncBytes_lenEncBytes fits,
      Except.toOption]
  | text v =>
    have read : Field.readLenEncText (Field.lenEncBytes (Text.encode v) ++ rest) = .ok (v, rest) :=
      Field.readLenEncText_lenEncText fits
    simp [readValue, Value.sentAs, Value.binary, read, Except.toOption]

theorem binary_of_isNull {value : Value} (null : value.isNull = true) :
    value = .null ∧ value.binary = [] := by
  cases value <;> first | exact ⟨rfl, rfl⟩ | cases null

/-- The induction is on the parameters; the bitmap holds the marks of those that are still to come. -/
theorem readValues_binary {params : List Value} {bitmap : Bytes} {i : Nat}
    (fits : ∀ value ∈ params, value.Fits) (holds : bitmap.Holds i (params.map Value.isNull)) :
    readValues bitmap i (params.map Value.sentAs) (params.flatMap Value.binary ++ rest) =
      some (params, rest) := by
  induction params generalizing i with
  | nil => rfl
  | cons value params ih =>
    have behind := ih (fun value mem => fits value (List.mem_cons_of_mem _ mem)) holds.tail
    have mark : bitmap.bit? i = some value.isNull := holds.head
    rw [List.map_cons, List.flatMap_cons, List.append_assoc]
    by_cases null : value.isNull = true
    · obtain ⟨rfl, nothing⟩ := binary_of_isNull null
      simp [readValues, mark, null, nothing, behind]
    · have notNull : value.isNull = false := by simpa using null
      have first : readValue value.sentAs (value.binary ++ (params.flatMap Value.binary ++ rest)) =
          some (value, params.flatMap Value.binary ++ rest) :=
        readValue_binary (fits value List.mem_cons_self) notNull
      simp [readValues, mark, notNull, first, behind]

theorem readParams_paramSections {params : List Value} (fits : ∀ value ∈ params, value.Fits) :
    readParams params.length (paramSections params ++ rest) = some (params, rest) := by
  unfold paramSections
  by_cases empty : params.isEmpty = true
  · rw [List.isEmpty_iff.mp empty]
    rfl
  · have some : params.length ≠ 0 := by simpa using empty
    have bitmap (rest : Bytes) := readBytes_packBits (params.map Value.isNull) rest
    rw [List.length_map] at bitmap
    unfold readParams
    rw [if_neg empty, if_neg some, List.append_assoc, bitmap, List.cons_append, List.append_assoc]
    simp only [Except.toOption, Option.bind_eq_bind, Option.bind_some, Field.readU8_cons, guard, if_true,
      Option.pure_def, readTypes_binaryType, readValues_binary fits (holds_packBits _)]

theorem readExecute_executeSections {params : List Value} (fits : ∀ value ∈ params, value.Fits)
    (id : UInt32) :
    readExecute params.length (executeSections id params ++ rest) = some ((id, params), rest) := by
  have code : Code.stmtExecute.byte = 0x17 := rfl
  unfold readExecute executeSections
  simp [Except.toOption, guard, readParams_paramSections fits, code]

/-- A server that knows the number of parameters reads back the statement's id and the parameters, and
takes every byte; what has been in the buffer before stays. Too many parameters leave it as it was. -/
theorem readExecute_writeExecute {params : List Value} (fits : ∀ value ∈ params, value.Fits)
    (id : UInt32) (buffer : Bytes) :
    (params.length ≤ 65535 → ∃ bytes, writeExecute id params buffer = .ok () (buffer ++ bytes) ∧
      readExecute params.length bytes = some ((id, params), [])) ∧
    (65535 < params.length → writeExecute id params buffer =
      .error (.tooManyParameters params.length) buffer) := by
  refine ⟨fun few => ⟨executeSections id params, writeExecute_of_few few, ?_⟩, writeExecute_of_many⟩
  rw [← List.append_nil (executeSections id params)]
  exact readExecute_executeSections fits id

/-- Ten parameters with NULLs in both bytes of the bitmap. -/
def mixedParams : List Value :=
  [.null, .int (-1), .uint 18446744073709551615, .bytes [0xfb, 0], .text "naïve", .null, .null,
    .double ⟨0x7ff8000000000001⟩, .text "", .null]

theorem readExecute_writeExecute_mixed :
    (mixedParams.length ≤ 65535 → ∃ bytes, writeExecute 7 mixedParams [0xaa] =
      .ok () ([0xaa] ++ bytes) ∧ readExecute mixedParams.length bytes = some ((7, mixedParams), [])) ∧
    (65535 < mixedParams.length → writeExecute 7 mixedParams [0xaa] =
      .error (.tooManyParameters mixedParams.length) [0xaa]) :=
  readExecute_writeExecute (by decide) 7 [0xaa]

end Command

end SqlWire
