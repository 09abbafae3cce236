import SqlWire.Handshake.Response
import SqlWire.Proofs.Handshake.Greeting
import SqlWire.Reply.Column
import SqlWire.Reply.Prepared

/-!
# Packets that are malformed

A packet may be wrong by itself, or come at the wrong time. Those who read single packets find only
faults of the first kind (`Formal`); faults of the second kind are left to readers of responses and
to handshakes. They also have faults for what they lack themselves (`isAstray`).
-/

namespace SqlWire

/-- A fault that can be found in a packet without knowing when it comes. -/
def ProtocolFault.isFormal : ProtocolFault → Bool
  | noByte | short .. | lengthLead | unexpectedNull | notUtf8 .. | unterminated | unexpectedLead ..
  | shortPrepareOk _ | tooManyColumns _ | greetingVersion _ | notMoreData => true
  | _ => false

/-- A fault of a reader or of a handshake without something that it must have at hand by then. -/
def ProtocolFault.isAstray : ProtocolFault → Bool
  | strayRow | strayDefinition | missingPrepareOk | responseBeforeGreeting | dataBeforePlugin => true
  | _ => false

variable {α β : Type}

/-- What this finds fault with is the form of a packet. -/
def Formal (read : Except ProtocolFault α) : Prop :=
  ∀ fault, read = .error fault → fault.isFormal = true

namespace Formal

theorem pure (a : α) : Formal (Pure.pure a) := nofun

theorem throw {fault : ProtocolFault} (formal : fault.isFormal = true) :
    Formal (throw fault : Except ProtocolFault α) := by
  intro fault' same
  cases same
  exact formal

theorem bind {read : Except ProtocolFault α} {next : α → Except ProtocolFault β} (h : Formal read)
    (h' : ∀ a, Formal (next a)) : Formal (read >>= next) := by
  intro fault failed
  cases given : read with
  | error fault' =>
    rw [given] at failed
    cases failed
    exact h _ given
  | ok a =>
    rw [given] at failed
    exact h' a fault failed

theorem not_astray {read : Except ProtocolFault α} {fault : ProtocolFault} (formal : Formal read)
    (failed : read = .error fault) : fault.isAstray = false := by
  have form : fault.isFormal = true := formal fault failed
  cases fault <;> first | rfl | cases form

/-- A check in front of the rest. -/
theorem check {condition : Prop} [Decidable condition] {fault : ProtocolFault}
    {rest : PUnit → Except ProtocolFault α} (formal : fault.isFormal = true) (h : ∀ u, Formal (rest u)) :
    Formal (if condition then MonadExcept.throw fault >>= rest else rest ⟨⟩) := by
  split
  · exact .bind (.throw formal) h
  · exact h _

end Formal

/-! ## Fields -/

namespace Field

variable {data : Bytes}

theorem formal_readU8 : Formal (readU8 data) := by
  cases data with
  | nil => exact .throw rfl
  | cons b rest => exact .pure _

theorem formal_take (field : FixedField) (n : Nat) : Formal (take field n data) := by
  unfold take
  dsimp only
  split
  · exact .throw rfl
  · exact .pure _

theorem formal_readU16 : Formal (readU16 data) := .bind (formal_take _ _) fun _ => .pure _

theorem formal_readU32 : Formal (readU32 data) := .bind (formal_take _ _) fun _ => .pure _

theorem formal_readLenEnc : Formal (readLenEnc data) := by
  refine .bind formal_readU8 fun (lead, rest) => ?_
  dsimp only
  split
  · exact .pure _
  split
  · exact .bind formal_readU16 fun _ => .pure _
  split
  · exact .bind (.bind (formal_take _ _) fun _ => .pure _) fun _ => .pure _
  split
  · exact .bind (.bind (formal_take _ _) fun _ => .pure _) fun _ => .pure _
  split
  · exact .throw rfl
  · exact .pure _

theorem formal_readLenEncU64 : Formal (readLenEncU64 data) := by
  refine .bind formal_readLenEnc fun (v, rest) => ?_
  cases v with
  | none => exact .throw rfl
  | some v => exact .pure _

theorem formal_text (field : TextField) (bytes : Bytes) : Formal (text field bytes) := by
  unfold text
  split
  · exact .pure _
  · exact .throw rfl

theorem formal_readLenEncText : Formal (readLenEncText data) := by
  refine .bind (.bind formal_readLenEnc fun (size, rest) => ?_) fun _ =>
    .bind (formal_text _ _) fun _ => .pure _
  cases size with
  | none => exact .pure _
  | some size => exact .bind (formal_take _ _) fun _ => .pure _

theorem formal_readTerminatedText : Formal (readTerminatedText data) := by
  refine .bind ?_ fun _ => .bind (formal_text _ _) fun _ => .pure _
  unfold readTerminated
  dsimp only
  split
  · exact .throw rfl
  · exact .pure _

end Field

/-! ## Packets -/

section

open SqlWire.Field

variable (packet : Bytes)

theorem ServerError.formal_parse : Formal (ServerError.parse packet) := by
  refine .bind formal_readU8 fun _ => .check rfl fun _ => .bind formal_readU16 fun (code, data) => ?_
  dsimp only
  split <;> exact .pure _

theorem OkPacket.formal_parse : Formal (OkPacket.parse packet) :=
  .bind formal_readU8 fun _ => .check rfl fun _ => .bind formal_readLenEncU64 fun _ =>
    .bind formal_readLenEncU64 fun _ => .bind formal_readU16 fun _ => .bind formal_readU16 fun _ => .pure _

theorem EofPacket.formal_parse : Formal (EofPacket.parse packet) :=
  .bind formal_readU8 fun _ => .check rfl fun _ => .bind formal_readU16 fun _ =>
    .bind formal_readU16 fun _ => .pure _

theorem PrepareOk.formal_parse : Formal (PrepareOk.parse packet) :=
  .bind formal_readU8 fun _ => .check rfl fun _ => .check rfl fun _ => .bind formal_readU32 fun _ =>
    .bind formal_readU16 fun _ => .bind formal_readU16 fun _ => .bind formal_readU8 fun _ =>
    .bind formal_readU16 fun _ => .pure _

theorem Column.formal_parse : Formal (Column.parse packet) :=
  .bind formal_readLenEncText fun _ => .bind formal_readLenEncText fun _ =>
    .bind formal_readLenEncText fun _ => .bind formal_readLenEncText fun _ =>
    .bind formal_readLenEncText fun _ => .bind formal_readLenEncText fun _ =>
    .bind formal_readLenEncU64 fun _ => .bind (formal_take _ _) fun _ => .bind formal_readU16 fun _ =>
    .bind formal_readU32 fun _ => .bind formal_readU8 fun _ => .bind formal_readU16 fun _ =>
    .bind formal_readU8 fun _ => .pure _

theorem formal_columnCount : Formal (columnCount packet) :=
  .bind formal_readLenEncU64 fun _ => .check rfl fun _ => .pure _

namespace Handshake

theorem Greeting.formal_parse : Formal (Greeting.parse packet) := by
  intro fault failed
  cases (bounded_parse packet).refused failed <;> rfl

theorem AuthSwitch.formal_parse : Formal (AuthSwitch.parse packet) :=
  .bind formal_readU8 fun _ => .check rfl fun _ => .bind formal_readTerminatedText fun _ => .pure _

theorem formal_moreData : Formal (moreData packet) := by
  unfold moreData
  split
  · split
    · exact .pure _
    · exact .throw rfl
  · exact .throw rfl

end Handshake

end

end SqlWire
