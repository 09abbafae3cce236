import SqlWire.Proofs.Alignment.Reading
import SqlWire.Proofs.Framing.Sending

/-!
# What was sent, step by step

The bytes that a client has sent on its link grow with each command by bytes that bring its payload
to the server (`Packet.Brings`), and reading leaves them as they are: a read that goes well takes
bytes from the link and changes nothing else about it (`Line.Quiet`).
-/

namespace SqlWire

open EStateM (Result)
open Net (Env Link World)

variable {env : Env}

/-! ## Reading sends nothing -/

namespace Line

/-- The line holds the same link, and the world has the same transcripts. -/
structure Untouched (line line' : Line) : Prop where
  link : line'.channel.link.map (·.id) = line.channel.link.map (·.id)
  links : line'.world.links = line.world.links

namespace Untouched

variable {line line' line'' : Line}

theorem refl (line : Line) : Untouched line line := ⟨rfl, rfl⟩

theorem trans (h : Untouched line line') (h' : Untouched line' line'') : Untouched line line'' :=
  ⟨h'.link.trans h.link, h'.links.trans h.links⟩

theorem sent (h : Untouched line line') : line'.sent = line.sent := by
  obtain ⟨link, links⟩ := h
  unfold Line.sent
  rw [links]
  cases held : line.channel.link with
  | none =>
    rw [held] at link
    rw [Option.map_eq_none_iff.mp link]
  | some known =>
    rw [held] at link
    obtain ⟨_, held', id⟩ := Option.map_eq_some_iff.mp link
    rw [held']
    dsimp only at id ⊢
    rw [id]

theorem isAccepted (h : Untouched line line') (accepted : line.IsAccepted) : line'.IsAccepted := by
  obtain ⟨link, links⟩ := h
  obtain ⟨held, held_eq, known⟩ := accepted
  rw [held_eq] at link
  obtain ⟨held', held_eq', id⟩ := Option.map_eq_some_iff.mp link
  exact ⟨held', held_eq', by rw [id, links]; exact known⟩

end Untouched

/-- A read that goes well leaves the line untouched. -/
def Quiet {α : Type} (run : EStateM Error Line α) : Prop :=
  ∀ ⦃line a line'⦄, run line = .ok a line' → Untouched line line'

theorem quiet_pullRaw (faultless : env.Faultless) (n : Nat) : Quiet (pullRaw env n) := by
  intro line bytes line' pulled
  unfold pullRaw at pulled
  split at pulled
  · cases pulled
  · next link held =>
    split at pulled
    · next bytes link' world took =>
      cases pulled
      obtain ⟨id, links⟩ : link'.id = link.id ∧ world.links = line.world.links := by
        unfold Link.take at took
        dsimp only at took
        rw [World.beginStep_of_faultless faultless] at took
        dsimp only at took
        split at took
        · cases took
          exact ⟨rfl, rfl⟩
        · split at took
          · cases took
            exact ⟨rfl, rfl⟩
          · cases took
      exact ⟨by rw [held, Option.map_some, Option.map_some, id], links⟩
    · cases pulled

theorem quiet_readFrame (faultless : env.Faultless) : Quiet (readFrame env) := by
  intro line _ line' read
  dsimp only [readFrame] at read
  split at read
  · cases read
  · next headed =>
    split at read
    · cases read
    · split at read
      · cases read
      · split at read
        · cases read
        · next embodied =>
          split at read
          · cases read
          · cases read
            have head := quiet_pullRaw faultless _ headed
            have body := quiet_pullRaw faultless _ embodied
            exact ⟨body.link.trans head.link, body.links.trans head.links⟩

theorem quiet_fill (faultless : env.Faultless) (n : Nat) (out : ByteArray) :
    Quiet (fill env n out) := by
  intro line bytes line' filled
  fun_induction fill env n out line with
  | case1 =>
    cases filled
    exact .refl _
  | case2 => cases filled
  | case3 n out line _ _ line₁ read ih => exact (quiet_readFrame faultless read).trans (ih filled)
  | case4 n out line _ _ size stop ih =>
    have rest := ih filled
    exact ⟨rest.link, rest.links⟩

theorem quiet_pull (faultless : env.Faultless) (n : Nat) : Quiet (pull env n) := by
  intro line bytes line' pulled
  unfold pull at pulled
  split at pulled
  · exact quiet_fill faultless _ _ pulled
  · exact quiet_pullRaw faultless _ pulled

theorem quiet_readOnto (faultless : env.Faultless) {out payload : ByteArray}
    {i i' : Packet.Incoming Line} (read : Packet.readOnto (source env) out i = .ok payload i') :
    Untouched i.source i'.source := by
  fun_induction Packet.readOnto (source env) out i with
  | case1 | case2 | case3 | case4 => cases read
  | case5 out i head line₁ headed _ _ _ _ body line₂ embodied =>
    cases read
    exact (quiet_pull faultless _ headed).trans (quiet_pull faultless _ embodied)
  | case6 out i head line₁ headed _ _ _ _ body line₂ embodied _ ih =>
    exact ((quiet_pull faultless _ headed).trans (quiet_pull faultless _ embodied)).trans (ih read)

theorem quiet_readPacket (faultless : env.Faultless) : Quiet (readPacket env) := by
  intro line payload line' read
  unfold readPacket Packet.read at read
  dsimp only at read
  split at read
  · next taken =>
    cases read
    have untouched := quiet_readOnto faultless taken
    exact ⟨untouched.link, untouched.links⟩
  · cases read

end Line

/-! ## Sending -/

/-- Bytes that bring this payload to the server: its packets, or frames that hold just these. The
numbers begin at zero. -/
def Packet.Brings (env : Env) (compressed : Bool) (payload bytes : Bytes) : Prop :=
  if compressed then
    ∃ frames : List Frame.Packed, bytes = Frame.wire 0 frames ∧
      (env.compressor.Lawful → Frame.Carry env.compressor frames (Packet.framed 0 payload))
  else bytes = Packet.framed 0 payload

namespace Exchange

variable {format : Format} {later payload : Bytes} {command : Command} {mark : Mark} {c c' : Client}

/-- A command that was sent adds its payload to what was sent before. -/
theorem brings_of_send (faultless : env.Faultless) (awaits : c.Awaits env format [] later)
    (accepted : c.line.IsAccepted) (encoded : encode c.ctx command = .ok payload)
    (sends : send env command c = .ok mark c') :
    c'.line.IsAccepted ∧ ∃ bytes, c'.line.sent = c.line.sent ++ bytes ∧
      Packet.Brings env format.compressed payload bytes := by
  have compressed : c.channel.compressed = format.compressed :=
    congrArg Format.compressed awaits.format
  rw [send_of_bytes encoded] at sends
  split at sends
  · next line wrote =>
    cases sends
    have anew : (Line.mk c.channel.resetSequence c.world).IsAccepted := accepted
    obtain ⟨_, wrote', accepted', -, -, adds⟩ :=
      Line.writePacket_of_accepted faultless payload.toWire anew (offers_nil.mp awaits.offers).1
    cases (Line.writePacket_of_limit wrote).symm.trans wrote'
    refine ⟨accepted', ?_⟩
    unfold Line.Adds at adds
    unfold Packet.Brings
    rw [← compressed]
    cases isCompressed : c.channel.compressed with
    | true =>
      obtain ⟨frames, sent, -, carry⟩ := (if_pos isCompressed).mp adds
      rw [Bytes.ofWire_toWire] at carry
      exact ⟨_, sent, frames, rfl, carry⟩
    | false =>
      have sent := ((if_neg (by simp [Channel.resetSequence, isCompressed])).mp adds).1
      rw [Bytes.ofWire_toWire] at sent
      exact ⟨_, sent, rfl⟩
  · cases sends

end Exchange

end SqlWire
