import SqlWire.Proofs.Alignment.Reading
import SqlWire.Proofs.Framing.Sending

/-!
# What a server gets of a command

A command goes out as packets that are numbered from zero on, and with compression in frames that
are numbered from zero on as well. So `Mark.behind` says which numbers follow the last ones that the
server has seen of the command (`Exchange.sent_of_send`).
-/

namespace SqlWire

open EStateM (Result)
open Net (Env World)

variable {env : Env}

/-- A command was sent as packets, or in frames, that are numbered from zero on. The response to it is
expected under the numbers that follow these. -/
theorem Exchange.sent_of_send (faultless : env.Faultless) {format : Format} {later : Bytes}
    {command : Command} {mark : Mark} {c c' : Client} (awaits : c.Awaits env format [] later)
    (accepted : c.line.IsAccepted) (sends : send env command c = .ok mark c') :
    ∃ bytes, encode c.ctx command = .ok bytes ∧ mark.sequence = Packet.following 0 bytes.length ∧
      if format.compressed then
        ∃ frames : List Frame.Packed, c'.line.sent = c.line.sent ++ Frame.wire 0 frames ∧
          mark.frameSequence = UInt8.ofNat frames.length
      else c'.line.sent = c.line.sent ++ Packet.framed 0 bytes := by
  obtain ⟨-, -, bytes, encoded, mark_eq⟩ := (send_of_awaits command faultless awaits).result sends
  have compressed : c.channel.compressed = format.compressed :=
    congrArg Format.compressed awaits.format
  refine ⟨bytes, encoded, congrArg Mark.sequence mark_eq, ?_⟩
  rw [send_of_bytes encoded] at sends
  split at sends
  · next wrote =>
    cases sends
    have anew : (Line.mk c.channel.resetSequence c.world).IsAccepted := accepted
    obtain ⟨_, wrote', -, -, -, adds⟩ := Line.writePacket_of_accepted faultless _ anew
      (offers_nil.mp awaits.offers).1
    cases (Line.writePacket_of_limit wrote).symm.trans wrote'
    unfold Line.Adds at adds
    rw [← compressed]
    cases isCompressed : c.channel.compressed with
    | true =>
      obtain ⟨frames, sent, number, -⟩ := (if_pos isCompressed).mp adds
      exact ⟨frames, sent, number.trans (UInt8.zero_add _)⟩
    | false =>
      have sent := ((if_neg (by simp [Channel.resetSequence, isCompressed])).mp adds).1
      rw [Bytes.ofWire_toWire] at sent
      exact sent
  · cases sends

end SqlWire
