import SqlWire.Reply.Ok

/-!
# The answer to PREPARE

The first packet of the response names the statement and announces how many parameter and column
definitions follow.
-/

namespace SqlWire

/-- The first packet of a PREPARE response. -/
structure PrepareOk where
  statementId : UInt32
  columns : UInt16
  params : UInt16
  reserved : UInt8
  warnings : UInt16
  deriving DecidableEq, Repr

/-- Reads the first packet of a PREPARE response. -/
def PrepareOk.parse (packet : Bytes) : Except ProtocolFault PrepareOk := do
  let (lead, data) ← Field.readU8 packet
  if lead != Lead.ok then
    throw (.unexpectedLead .prepareOk lead)
  if (data.take 11).length < 11 then
    throw (.shortPrepareOk packet.length)
  let (statementId, data) ← Field.readU32 data
  let (columns, data) ← Field.readU16 data
  let (params, data) ← Field.readU16 data
  let (reserved, data) ← Field.readU8 data
  let (warnings, _) ← Field.readU16 data
  return ⟨statementId, columns, params, reserved, warnings⟩

end SqlWire
