import SqlWire.Proofs.Alignment.Packets

/-!
# The numbers behind a command

A command is sent as packets, and with compression each packet travels in frames of its own. What is
to be read is not touched by that. `writePacket_of_inbound` says which numbers follow: they depend on
the size of the command only. Where no step fails, a command is not sent only because it is too
large, and it is then not even begun unless the connection is given up.
-/

namespace SqlWire

open EStateM (Result)
open Net (Env World)

variable {env : Env}

namespace Frame

/-- How many frames are filled by bytes that are handed on at once. -/
def count (size : Nat) : Nat := (size + maxPayload - 1) / maxPayload

/-- How many frames the packets of a payload travel in. -/
def countPackets (size : Nat) : Nat :=
  size / maxPayload * count (Packet.Header.length + maxPayload) +
    count (Packet.Header.length + size % maxPayload)

theorem countPackets_of_lt {size : Nat} (h : size < maxPayload) :
    countPackets size = count (Packet.Header.length + size) := by
  rw [countPackets, Nat.div_eq_of_lt h, Nat.mod_eq_of_lt h, Nat.zero_mul, Nat.zero_add]

theorem countPackets_of_le {size : Nat} (h : maxPayload ≤ size) :
    countPackets size =
      count (Packet.Header.length + maxPayload) + countPackets (size - maxPayload) := by
  rw [countPackets, countPackets, Nat.div_eq_sub_div Packet.maxPayload_pos h, Nat.mod_eq_sub_mod h,
    Nat.succ_mul, Nat.add_right_comm, Nat.add_comm]

theorem snd_writeFrom (z : Compressor) (data : ByteArray) (offset : Nat) (sequence : UInt8)
    (out : ByteArray) :
    (writeFrom z data offset sequence out).2 =
      sequence + UInt8.ofNat (count (data.size - offset)) := by
  fun_induction writeFrom z data offset sequence out with
  | case1 offset sequence out more content ih =>
    have step : count (data.size - offset) = 1 + count (data.size - (offset + maxPayload)) := by
      unfold count maxPayload
      omega
    rw [ih, step, UInt8.ofNat_add, UInt8.add_assoc]
    rfl
  | case2 offset sequence out stop =>
    have none : data.size - offset = 0 := Nat.sub_eq_zero_of_le (Nat.not_lt.mp stop)
    rw [none]
    exact (UInt8.add_zero _).symm

end Frame

/-- The frame number behind so many bytes that are handed on at once. -/
def Channel.frameBehind (channel : Channel) (size : Nat) : UInt8 :=
  if channel.compressed then channel.frameSequence + UInt8.ofNat (Frame.count size)
  else channel.frameSequence

theorem Net.World.isDown_addSent (w : World) (id id' : Nat) (bytes : ByteArray) :
    (w.addSent id bytes).isDown id' = w.isDown id' := by
  unfold isDown addSent
  dsimp only
  rw [Array.getElem?_modify]
  split
  · cases w.links[id']? <;> rfl
  · rfl

namespace Line

theorem sendRaw_of_inbound (faultless : env.Faultless) {line : Line} {behind : Bytes}
    (bytes : ByteArray) (inbound : line.Inbound behind) :
    ∃ line', sendRaw env bytes line = .ok () line' ∧ line'.Inbound behind ∧
      line'.channel = line.channel := by
  obtain ⟨isOpen, link, held, isUp, rest⟩ := inbound
  unfold sendRaw
  rw [held]
  dsimp only
  unfold Net.Link.send
  rw [World.beginStep_of_faultless faultless]
  dsimp only
  have up : World.isDown { line.world with ioSteps := line.world.ioSteps + 1 } link.id = false := isUp
  rw [up]
  refine ⟨_, rfl, ⟨isOpen, link, held, ?_, rest⟩, rfl⟩
  exact (World.isDown_addSent ..).trans up

theorem send_of_inbound (faultless : env.Faultless) {line : Line} {behind : Bytes}
    (bytes : ByteArray) (inbound : line.Inbound behind) :
    ∃ line', send env bytes line = .ok () line' ∧ line'.Inbound behind ∧
      line'.channel = { line.channel with frameSequence := line.channel.frameBehind bytes.size } := by
  unfold send Channel.frameBehind
  cases compressed : line.channel.compressed with
  | true =>
    obtain ⟨frames, number, written⟩ : ∃ frames number,
        Frame.write env.compressor bytes line.channel.frameSequence = (frames, number) := ⟨_, _, rfl⟩
    have number_eq : number = line.channel.frameSequence + UInt8.ofNat (Frame.count bytes.size) :=
      (congrArg Prod.snd written).symm.trans (Frame.snd_writeFrom ..)
    have numbered : Inbound { line with channel := { line.channel with frameSequence := number } }
      behind := inbound
    obtain ⟨line', sent, inbound', channel⟩ := sendRaw_of_inbound faultless frames numbered
    rw [number_eq] at channel
    simp only [written]
    exact ⟨line', sent, inbound', channel⟩
  | false => exact sendRaw_of_inbound faultless bytes inbound

end Line

namespace Packet

/-- Bytes go out on a line, on which nothing else changes. -/
structure Outward (line : Line) (behind : Bytes) (o : Outgoing Line) : Prop where
  inbound : o.sink.Inbound behind
  channel : o.sink.channel = { line.channel with frameSequence := o.sink.channel.frameSequence }

/-- The frame number once what is pending is handed on. -/
def Outgoing.frameBehind (o : Outgoing Line) : UInt8 := o.sink.channel.frameBehind o.pending.size

theorem Outgoing.frameBehind_of_empty {o : Outgoing Line} (none : o.pending.size = 0) :
    o.frameBehind = o.sink.channel.frameSequence := by
  unfold frameBehind Channel.frameBehind
  rw [none]
  split
  · exact UInt8.add_zero _
  · rfl

variable {line : Line} {behind : Bytes} {o : Outgoing Line}

theorem flush_of_outward (faultless : env.Faultless) (outward : Outward line behind o) :
    ∃ o', o.flush (handOn (Line.send env)) = .ok () o' ∧ Outward line behind o' ∧
      o'.sequence = o.sequence ∧ o'.pending.size = 0 ∧ o'.frameBehind = o.frameBehind := by
  obtain ⟨line', sent, inbound, channel⟩ := Line.send_of_inbound faultless o.pending outward.inbound
  rw [Outgoing.flush_handOn, sent]
  refine ⟨_, rfl, ⟨inbound, ?_⟩, rfl, rfl, ?_⟩
  · show line'.channel = _
    rw [channel, outward.channel]
  · rw [Outgoing.frameBehind_of_empty rfl]
    show line'.channel.frameSequence = _
    rw [channel]
    rfl

theorem relieve_of_outward (faultless : env.Faultless) (outward : Outward line behind o) :
    ∃ o', o.relieve (handOn (Line.send env)) = .ok () o' ∧ Outward line behind o' ∧
      o'.sequence = o.sequence ∧ (maxPayload ≤ o.pending.size → o'.pending.size = 0) ∧
      o'.frameBehind = o.frameBehind := by
  unfold Outgoing.relieve flushThreshold
  split
  · obtain ⟨o', flushed, outward', sequence, none, frame⟩ := flush_of_outward faultless outward
    exact ⟨o', flushed, outward', sequence, fun _ => none, frame⟩
  · next small => exact ⟨o, rfl, outward, rfl, fun full => absurd full small, rfl⟩

/-- Which frame number follows the packets of so many bytes. -/
def Outgoing.frameAfter (o : Outgoing Line) (size : Nat) : UInt8 :=
  if o.sink.channel.compressed then
    o.sink.channel.frameSequence + UInt8.ofNat (Frame.countPackets size)
  else o.sink.channel.frameSequence

theorem frameAfter_of_lt {size : Nat} (last : size < maxPayload) :
    o.frameAfter size = o.sink.channel.frameBehind (Header.length + size) := by
  unfold Outgoing.frameAfter Channel.frameBehind
  rw [Frame.countPackets_of_lt last]

theorem frameAfter_of_le {size : Nat} {o' : Outgoing Line} (more : maxPayload ≤ size)
    (outward : Outward line behind o) (outward' : Outward line behind o')
    (frame : o'.sink.channel.frameSequence = o.sink.channel.frameBehind (Header.length + maxPayload)) :
    o'.frameAfter (size - maxPayload) = o.frameAfter size := by
  have compressed : o'.sink.channel.compressed = o.sink.channel.compressed := by
    rw [outward.channel, outward'.channel]
  unfold Outgoing.frameAfter
  rw [compressed, frame, Frame.countPackets_of_le more]
  unfold Channel.frameBehind
  split
  · rw [UInt8.ofNat_add, UInt8.add_assoc]
  · rfl

/-- One packet of a payload is put behind what is pending, which is nothing. -/
theorem relieve_of_packet (faultless : env.Faultless) (outward : Outward line behind o)
    (none : o.pending.size = 0) {payload : ByteArray} {offset size : Nat}
    (within : offset + size ≤ payload.size) :
    let header := Header.bytes ⟨size, o.sequence⟩
    let pending := o.pending ++ header.toWire ++ payload.extract offset (offset + size)
    ∃ o', Outgoing.relieve (handOn (Line.send env)) { o with pending, sequence := o.sequence + 1 } =
        .ok () o' ∧ Outward line behind o' ∧ o'.sequence = o.sequence + 1 ∧
      (size = maxPayload → o'.pending.size = 0) ∧
      o'.frameBehind = o.sink.channel.frameBehind (Header.length + size) := by
  intro header pending
  have length : pending.size = Header.length + size := by
    have header_size : header.toWire.size = Header.length := rfl
    simp only [pending, ByteArray.size_append, ByteArray.size_extract, none, header_size]
    omega
  have framed : Outward line behind { o with pending, sequence := o.sequence + 1 } :=
    ⟨outward.inbound, outward.channel⟩
  obtain ⟨o', relieved, outward', sequence, emptied, frame⟩ := relieve_of_outward faultless framed
  refine ⟨o', relieved, outward', sequence, fun full => emptied ?_, frame.trans ?_⟩
  · rw [length, full]
    exact Nat.le_add_left ..
  · exact congrArg o.sink.channel.frameBehind length

/-- What becomes of a payload: it is sent, or it is too large. -/
theorem writeFrom_of_outward (faultless : env.Faultless) (payload : ByteArray) (limit : Option Nat)
    (offset : Nat) (o : Outgoing Line) (outward : Outward line behind o) (none : o.pending.size = 0)
    (within : offset ≤ payload.size) :
    (∃ o', writeFrom (handOn (Line.send env)) payload limit offset o = .ok () o' ∧
        Outward line behind o' ∧ o'.sequence = following o.sequence (payload.size - offset) ∧
        o'.frameBehind = o.frameAfter (payload.size - offset)) ∨
      ∃ max mustReconnect o', writeFrom (handOn (Line.send env)) payload limit offset o =
          .error (.tooLarge payload.size max mustReconnect) o' ∧ Outward line behind o' ∧
        limit = some max ∧ max ≤ payload.size := by
  have reach {offset : Nat} (within : offset ≤ payload.size) :
      offset + min maxPayload (payload.size - offset) ≤ payload.size := by omega
  fun_induction writeFrom (handOn (Line.send env)) payload limit offset o with
  | case1 offset o size max refused =>
    obtain ⟨limit_eq, reached⟩ := Option.filter_eq_some_iff.mp refused
    exact .inr ⟨max, _, o, rfl, outward, limit_eq,
      Nat.le_trans (of_decide_eq_true reached) (reach within)⟩
  | case2 offset o size _ header pending e o' failed =>
    obtain ⟨_, relieved, _⟩ := relieve_of_packet faultless outward none (reach within)
    cases failed.symm.trans relieved
  | case3 offset o size _ header pending o' ok last =>
    obtain ⟨_, relieved, outward', sequence, _, frame⟩ :=
      relieve_of_packet faultless outward none (reach within)
    cases ok.symm.trans relieved
    have size_eq : size = payload.size - offset := by omega
    rw [size_eq] at last
    refine .inl ⟨o', rfl, outward', sequence.trans (following_of_lt last).symm, ?_⟩
    rw [frame, frameAfter_of_lt last]
    exact congrArg (fun n => o.sink.channel.frameBehind (Header.length + n)) size_eq
  | case4 offset o size _ header pending o' ok more ih =>
    obtain ⟨_, relieved, outward', sequence, emptied, frame⟩ :=
      relieve_of_packet faultless outward none (reach within)
    cases ok.symm.trans relieved
    have full : min maxPayload (payload.size - offset) = maxPayload := by omega
    have rest : maxPayload ≤ payload.size - offset := by omega
    have none' := emptied full
    have frame' : o'.sink.channel.frameSequence =
        o.sink.channel.frameBehind (Header.length + maxPayload) := by
      rw [← Outgoing.frameBehind_of_empty none', frame, full]
    have rest_eq : payload.size - (offset + size) = payload.size - offset - maxPayload := by omega
    obtain ⟨o'', wrote, outward'', sequence', frame''⟩ | tooLarge := ih outward' none' (reach within)
    · refine .inl ⟨o'', wrote, outward'', ?_, ?_⟩
      · rw [sequence', sequence, rest_eq, following_of_le rest]
      · rw [frame'', rest_eq, frameAfter_of_le rest outward outward' frame']
    · exact .inr tooLarge

end Packet

/-- The numbers that follow a command of this size. -/
def Mark.behind (compressed : Bool) (size : Nat) : Mark :=
  ⟨Packet.following 0 size, if compressed then UInt8.ofNat (Frame.countPackets size) else 0⟩

namespace Line

/-- A payload under new numbers: it is sent, or it is too large. -/
theorem writePacket_of_inbound (faultless : env.Faultless) {line : Line} {behind : Bytes}
    (payload : ByteArray) (limit : Option Nat) (inbound : line.Inbound behind)
    (anew : line.channel.mark = ⟨0, 0⟩) :
    (∃ line', writePacket env payload limit line = .ok () line' ∧ line'.Inbound behind ∧
        line'.channel = line.channel.restore (.behind line.channel.compressed payload.size)) ∨
      ∃ max mustReconnect line', writePacket env payload limit line =
          .error (.tooLarge payload.size max mustReconnect) line' ∧ line'.Inbound behind ∧
        (∃ mark, line'.channel = line.channel.restore mark) ∧ limit = some max ∧
        max ≤ payload.size := by
  have start : Packet.Outward line behind ⟨ByteArray.empty, line.channel.sequence, line⟩ := ⟨inbound, rfl⟩
  obtain ⟨sequence₀, frame₀⟩ := Mark.mk.inj anew
  -- What has gone out leaves a channel that differs in its numbers only.
  have restored {o : Packet.Outgoing Line} (outward : Packet.Outward line behind o) :
      { o.sink.channel with sequence := o.sequence } =
        line.channel.restore ⟨o.sequence, o.sink.channel.frameSequence⟩ := by
    rw [outward.channel]
    rfl
  have numbers {o : Packet.Outgoing Line} (outward : Packet.Outward line behind o)
      (sequence : o.sequence = Packet.following line.channel.sequence (payload.size - 0))
      (frame : o.sink.channel.frameSequence = Packet.Outgoing.frameAfter
        ⟨ByteArray.empty, line.channel.sequence, line⟩ (payload.size - 0)) :
      { o.sink.channel with sequence := o.sequence } =
        line.channel.restore (.behind line.channel.compressed payload.size) := by
    rw [restored outward, sequence, frame, sequence₀, Nat.sub_zero, Mark.behind]
    unfold Packet.Outgoing.frameAfter
    dsimp only
    rw [frame₀, UInt8.zero_add]
  unfold writePacket Packet.write
  dsimp only
  rcases Packet.writeFrom_of_outward faultless payload limit 0 _ start rfl (Nat.zero_le _) with
    ⟨o, wrote, outward, sequence, frame⟩ | ⟨max, mustReconnect, o, refused, outward, limit_eq, reached⟩
  · left
    rw [wrote]
    dsimp only
    split
    · next none =>
      rw [Packet.Outgoing.frameBehind_of_empty (beq_iff_eq.mp none)] at frame
      exact ⟨_, rfl, outward.inbound, numbers outward sequence frame⟩
    · obtain ⟨o', flushed, outward', sequence', none, frame'⟩ :=
        Packet.flush_of_outward faultless outward
      rw [Packet.Outgoing.frameBehind_of_empty none, frame] at frame'
      rw [flushed]
      exact ⟨_, rfl, outward'.inbound, numbers outward' (sequence'.trans sequence) frame'⟩
  · right
    rw [refused]
    exact ⟨max, mustReconnect, _, rfl, outward.inbound, ⟨_, restored outward⟩, limit_eq, reached⟩

end Line

end SqlWire
