import SqlWire.Proofs.Alignment.Wire
import SqlWire.Proofs.Framing.Packets

/-!
# Packets that are offered

A payload is sent as packets, numbered from some number on. Where a line offers these and expects just
this number, `readPacket` gives the payload, and the line expects the number that follows.
-/

namespace SqlWire

open EStateM (Result)
open Net (Env)

variable {env : Env}

namespace Packet

/-- Payloads one after the other. -/
def framedAll : UInt8 → List ByteArray → Bytes
  | _, [] => []
  | sequence, payload :: payloads =>
    framed sequence (Bytes.ofWire payload) ++ framedAll (following sequence payload.size) payloads

end Packet

namespace Line

/-- Bytes are offered on a line that stays as `line` otherwise. -/
def Stocked (env : Env) (later : Bytes) (stop : UInt8) (line line' : Line) (content : Bytes) : Prop :=
  line'.OffersUpTo env content later stop ∧ line'.channel.compressed = line.channel.compressed ∧
    (line.channel.compressed = false → line'.channel.left = line.channel.left)

theorem gives_source (faultless : env.Faultless) (later : Bytes) (stop : UInt8) (line : Line) :
    (source env).Gives (Stocked env later stop line) := by
  rintro line₁ bytes rest ⟨offers, compressed₁, left₁⟩
  obtain ⟨line₂, pulled, offers₂, -, compressed₂, left₂⟩ := pull_of_offers faultless offers
  refine ⟨line₂, pulled, offers₂, compressed₂.trans compressed₁, fun plain => ?_⟩
  exact (left₂ (compressed₁.trans plain)).trans (left₁ plain)

/-- A payload that is offered under the expected number is read. -/
theorem readPacket_of_framed (faultless : env.Faultless) {line : Line} {payload : ByteArray}
    {content later : Bytes} {stop : UInt8}
    (offers : line.OffersUpTo env
      (Packet.framed line.channel.sequence (Bytes.ofWire payload) ++ content) later stop) :
    ∃ line', readPacket env line = .ok payload line' ∧ line'.OffersUpTo env content later stop ∧
      line'.channel.sequence = Packet.following line.channel.sequence payload.size ∧
      line'.channel.compressed = line.channel.compressed ∧
      (line.channel.compressed = false → line'.channel.left = line.channel.left) := by
  have stocked : Stocked env later stop line line _ := ⟨offers, rfl, fun _ => rfl⟩
  obtain ⟨line', ⟨offers', compressed, left⟩, read⟩ :=
    Packet.readOnto_of_framed (gives_source faultless later stop line) ByteArray.empty stocked
  rw [ByteArray.empty_append, Bytes.toWire_ofWire, Bytes.length_ofWire] at read
  unfold readPacket Packet.read
  dsimp only
  rw [read]
  exact ⟨_, rfl, offers', rfl, compressed, left⟩

/-- The next payload that is offered under the expected number is read. -/
theorem readPacket_of_offers (faultless : env.Faultless) {line : Line} {payload : ByteArray}
    {payloads : List ByteArray} {later : Bytes}
    (offers : line.Offers env (Packet.framedAll line.channel.sequence (payload :: payloads)) later) :
    ∃ line', readPacket env line = .ok payload line' ∧
      line'.Offers env (Packet.framedAll line'.channel.sequence payloads) later ∧
      line'.channel.compressed = line.channel.compressed := by
  obtain ⟨stop, offers⟩ := offers_iff.mp offers
  obtain ⟨line', read, offers', sequence, compressed, -⟩ := readPacket_of_framed faultless offers
  refine ⟨line', read, offers_iff.mpr ⟨stop, ?_⟩, compressed⟩
  rwa [sequence]

end Line

end SqlWire
