import SqlWire.Reply.Ok

/-!
# Error packets

The server's refusal of a command: a code, a five-character state and a message.
-/

namespace SqlWire

/-- An error that the server reported. -/
structure ServerError where
  code : UInt16
  state : String
  text : String
  deriving DecidableEq, Repr, Inhabited

def ServerError.message (e : ServerError) : String := s!"({e.code}) {e.text} [{e.state}]"

/-- The state of an error packet that carries none. -/
def ServerError.defaultState : String := "HY000"

/-- Reads an error packet. A `#` and five bytes after the code are the state. -/
def ServerError.parse (packet : Bytes) : Except ProtocolFault ServerError := do
  let (lead, data) ← Field.readU8 packet
  if lead != Lead.err then
    throw (.unexpectedLead .err lead)
  let (code, data) ← Field.readU16 data
  match data with
  | 0x23 :: s₁ :: s₂ :: s₃ :: s₄ :: s₅ :: text =>
    return ⟨code, Text.decodeLossy [s₁, s₂, s₃, s₄, s₅], Text.decodeLossy text⟩
  | _ => return ⟨code, defaultState, Text.decodeLossy data⟩

end SqlWire
