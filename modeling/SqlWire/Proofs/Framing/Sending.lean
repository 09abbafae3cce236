import SqlWire.Proofs.Alignment.Numbering

/-!
# What a line sends

Bytes that a line sends go out as they are, or with compression in frames that are numbered on, one
for each `maxPayload` bytes (`delivers_send`). If the compressor is lawful, these are frames whose
content is just what was handed on. A payload is sent as its packets (`writePacket_of_accepted`).
-/

namespace SqlWire

open EStateM (Result)
open Net (Env World)

variable {env : Env}

/-! ## Frames -/

namespace Frame

theorem wire_append (sequence : UInt8) (frames more : List Packed) :
    wire sequence (frames ++ more) =
      wire sequence frames ++ wire (sequence + UInt8.ofNat frames.length) more := by
  induction frames generalizing sequence with
  | nil => exact congrArg (wire · more) (UInt8.add_zero sequence).symm
  | cons f frames ih =>
    have number : sequence + 1 + UInt8.ofNat frames.length =
        sequence + UInt8.ofNat (f :: frames).length := by
      rw [List.length_cons, Nat.add_comm, UInt8.ofNat_add, UInt8.add_assoc]
      rfl
    rw [List.cons_append, wire, wire, ih, number]
    simp only [List.append_assoc]

theorem contents_append (z : Compressor) (frames more : List Packed) :
    contents z (frames ++ more) = contents z frames ++ contents z more :=
  List.flatMap_append

/-- These frames carry just these bytes. -/
def Carry (z : Compressor) (frames : List Packed) (bytes : Bytes) : Prop :=
  (∀ f ∈ frames, f.Valid z) ∧ contents z frames = bytes

theorem Carry.append {z : Compressor} {frames more : List Packed} {bytes bytes' : Bytes}
    (first : Carry z frames bytes) (second : Carry z more bytes') :
    Carry z (frames ++ more) (bytes ++ bytes') := by
  refine ⟨fun f mem => ?_, by rw [contents_append, first.2, second.2]⟩
  rcases List.mem_append.mp mem with mem | mem
  · exact first.1 f mem
  · exact second.1 f mem

/-- Content is stored, or compressed if that makes it shorter. -/
theorem exists_packed (z : Compressor) (content : ByteArray) (sequence : UInt8) :
    ∃ f : Packed, Bytes.ofWire (frame z content sequence) =
        Header.bytes ⟨f.body.size, sequence, f.announced⟩ ++ Bytes.ofWire f.body ∧
      (z.Lawful → 0 < content.size → content.size ≤ maxPayload →
        f.Valid z ∧ f.content z = content) := by
  have fits {n : Nat} (h : n ≤ maxPayload) : n < 0x1000000 := Nat.lt_succ_of_le h
  have stored : ∃ f : Packed, Bytes.ofWire
        ((Header.bytes ⟨content.size, sequence, 0⟩).toWire ++ content) =
        Header.bytes ⟨f.body.size, sequence, f.announced⟩ ++ Bytes.ofWire f.body ∧
      (z.Lawful → 0 < content.size → content.size ≤ maxPayload →
        f.Valid z ∧ f.content z = content) := by
    refine ⟨⟨0, content⟩, by rw [Bytes.ofWire_append, Bytes.ofWire_toWire], ?_⟩
    intro _ some size
    exact ⟨⟨fits size, fits (Nat.zero_le _), some, fun announced => absurd rfl announced⟩, rfl⟩
  unfold frame
  dsimp only
  split
  · split
    · next shorter =>
      refine ⟨⟨content.size, z.deflate content⟩,
        by rw [Bytes.ofWire_append, Bytes.ofWire_toWire], ?_⟩
      intro lawful some size
      obtain ⟨whole, same⟩ := lawful content
      have content_eq : Packed.content z ⟨content.size, z.deflate content⟩ = content := by
        rw [Packed.content, if_neg (by simpa using Nat.ne_of_gt some), same]
      refine ⟨⟨fits (by simp only; omega), fits size, by rwa [content_eq], ?_⟩, content_eq⟩
      intro _
      exact ⟨whole, by rw [same]⟩
    · exact stored
  · exact stored

/-- Bytes are cut into frames that are numbered one after the other. -/
theorem exists_wire_of_writeFrom (z : Compressor) (data : ByteArray) (offset : Nat)
    (sequence : UInt8) (out : ByteArray) :
    ∃ frames : List Packed, Bytes.ofWire (writeFrom z data offset sequence out).1 =
        Bytes.ofWire out ++ wire sequence frames ∧
      (writeFrom z data offset sequence out).2 = sequence + UInt8.ofNat frames.length ∧
      (z.Lawful → Carry z frames ((Bytes.ofWire data).drop offset)) := by
  fun_induction writeFrom z data offset sequence out with
  | case1 offset sequence out more content ih =>
    obtain ⟨frames, written, number, carry⟩ := ih
    obtain ⟨f, framed, valid⟩ := exists_packed z content sequence
    refine ⟨f :: frames, ?_, ?_, fun lawful => ?_⟩
    · rw [written, Bytes.ofWire_append, framed, wire, List.append_assoc]
    · rw [number, List.length_cons, Nat.add_comm, UInt8.ofNat_add, UInt8.add_assoc]
      rfl
    · have size : content.size = min maxPayload (data.size - offset) := by
        rw [ByteArray.size_extract]
        omega
      obtain ⟨valid, content_eq⟩ :=
        valid lawful (by simp only [maxPayload] at size; omega) (by omega)
      have first : Carry z [f] (((Bytes.ofWire data).drop offset).take maxPayload) := by
        refine ⟨by simpa using valid, ?_⟩
        rw [contents, List.flatMap_singleton, content_eq, Bytes.ofWire_extract,
          Nat.add_sub_cancel_left]
      have := first.append (carry lawful)
      rwa [← List.drop_drop, List.take_append_drop] at this
  | case2 offset sequence out stop =>
    refine ⟨[], (List.append_nil _).symm, (UInt8.add_zero _).symm, fun _ => ⟨by simp, ?_⟩⟩
    rw [List.drop_eq_nil_of_le (by rw [Bytes.length_ofWire]; omega)]
    rfl

end Frame

/-! ## Lines -/

namespace Line

/-- What was sent on the link of a line. -/
def sent (line : Line) : Bytes :=
  match line.channel.link with
  | some link => (line.world.links[link.id]?.map fun t => Bytes.ofWire t.sent).getD []
  | none => []

/-- The link is one that the world has accepted. -/
def IsAccepted (line : Line) : Prop :=
  ∃ link, line.channel.link = some link ∧ link.id < line.world.links.size

variable {start line line' : Line} {behind bytes : Bytes}

theorem sent_sendRaw (faultless : env.Faultless) (accepted : line.IsAccepted) {bytes : ByteArray}
    (sends : sendRaw env bytes line = .ok () line') :
    line'.sent = line.sent ++ Bytes.ofWire bytes ∧ line'.IsAccepted := by
  obtain ⟨link, held, known⟩ := accepted
  unfold sendRaw Net.Link.send at sends
  rw [held, World.beginStep_of_faultless faultless] at sends
  dsimp only at sends
  split at sends
  · next eq =>
    split at eq
    · cases eq
    · cases eq
      cases sends
      refine ⟨?_, ⟨link, held, ?_⟩⟩
      · unfold sent World.addSent
        simp [held, known, Array.getElem_modify]
      · simpa [World.addSent] using known
  · cases sends

/-- Since `start` just these bytes were sent, as they are or in frames that are numbered on. -/
def Adds (env : Env) (start line : Line) (bytes : Bytes) : Prop :=
  if start.channel.compressed then
    ∃ frames : List Frame.Packed,
      line.sent = start.sent ++ Frame.wire start.channel.frameSequence frames ∧
        line.channel.frameSequence = start.channel.frameSequence + UInt8.ofNat frames.length ∧
        (env.compressor.Lawful → Frame.Carry env.compressor frames bytes)
  else line.sent = start.sent ++ bytes ∧ line.channel.frameSequence = start.channel.frameSequence

/-- Since `start` these bytes were handed on, and nothing else was done on the line. -/
structure Handed (env : Env) (behind : Bytes) (start line : Line) (bytes : Bytes) : Prop where
  accepted : line.IsAccepted
  inbound : line.Inbound behind
  channel : line.channel = { start.channel with frameSequence := line.channel.frameSequence }
  adds : Adds env start line bytes

theorem handed_nil (accepted : line.IsAccepted) (inbound : line.Inbound behind) :
    Handed env behind line line [] := by
  refine ⟨accepted, inbound, rfl, ?_⟩
  unfold Adds
  split
  · exact ⟨[], (List.append_nil _).symm, (UInt8.add_zero _).symm, fun _ => ⟨nofun, rfl⟩⟩
  · exact ⟨(List.append_nil _).symm, rfl⟩

theorem delivers_send (faultless : env.Faultless) :
    Packet.Delivers (send env) (Handed env behind start) := by
  intro line bytes more handed
  obtain ⟨accepted, inbound, channel, adds⟩ := handed
  have compressed : line.channel.compressed = start.channel.compressed := by rw [channel]
  unfold send
  rw [compressed]
  split
  · next isCompressed =>
    obtain ⟨frames, sent_eq, number, carry⟩ := (if_pos isCompressed).mp adds
    obtain ⟨frames', written, number', carry'⟩ := Frame.exists_wire_of_writeFrom env.compressor
      more 0 line.channel.frameSequence ByteArray.empty
    have numbered : Inbound { line with channel := { line.channel with frameSequence :=
        (Frame.write env.compressor more line.channel.frameSequence).2 } } behind := inbound
    obtain ⟨line', sends, inbound', channel'⟩ := sendRaw_of_inbound faultless
      (Frame.write env.compressor more line.channel.frameSequence).1 numbered
    obtain ⟨sent', accepted'⟩ := sent_sendRaw faultless (by exact accepted) sends
    refine ⟨line', sends, accepted', inbound', by rw [channel', channel], ?_⟩
    refine (if_pos isCompressed).mpr
      ⟨frames ++ frames', ?_, ?_, fun lawful => (carry lawful).append (carry' lawful)⟩
    · refine sent'.trans ?_
      show line.sent ++ _ = _
      rw [sent_eq, Frame.write, written, number, Frame.wire_append, List.append_assoc]
      rfl
    · rw [channel', List.length_append, UInt8.ofNat_add, ← UInt8.add_assoc, ← number]
      exact number'
  · next plain =>
    obtain ⟨line', sends, inbound', channel'⟩ := sendRaw_of_inbound faultless more inbound
    obtain ⟨sent', accepted'⟩ := sent_sendRaw faultless accepted sends
    obtain ⟨sent_eq, number⟩ := (if_neg plain).mp adds
    refine ⟨line', sends, accepted', inbound', by rw [channel', ← channel], ?_⟩
    exact (if_neg plain).mpr ⟨by rw [sent', sent_eq, List.append_assoc], by rw [channel', number]⟩

/-- A payload is sent as packets under the numbers from the present one on. -/
theorem writePacket_of_accepted (faultless : env.Faultless) (payload : ByteArray)
    (accepted : line.IsAccepted) (inbound : line.Inbound behind) :
    ∃ line', writePacket env payload none line = .ok () line' ∧ line'.IsAccepted ∧
      line'.Inbound behind ∧
      line'.channel = { line.channel with
        sequence := Packet.following line.channel.sequence payload.size
        frameSequence := line'.channel.frameSequence } ∧
      Adds env line line' (Packet.framed line.channel.sequence (Bytes.ofWire payload)) := by
  have start : Packet.Outgoing.Holds (Handed env behind line)
      ⟨ByteArray.empty, line.channel.sequence, line⟩ [] :=
    ⟨[], handed_nil accepted inbound, rfl⟩
  obtain ⟨o, wrote, holds, number⟩ :=
    Packet.writeFrom_of_delivers (delivers_send faultless) payload 0 start
  rw [List.nil_append, List.drop_zero] at holds
  rw [Nat.sub_zero] at number
  -- Once nothing is pending, everything was handed on.
  have done {o : Packet.Outgoing Line} (none : o.pending.size = 0)
      (number : o.sequence = Packet.following line.channel.sequence payload.size)
      (holds : o.Holds (Handed env behind line)
        (Packet.framed line.channel.sequence (Bytes.ofWire payload))) :
      o.sink.IsAccepted ∧ o.sink.Inbound behind ∧
        { o.sink.channel with sequence := o.sequence } = { line.channel with
          sequence := Packet.following line.channel.sequence payload.size
          frameSequence := o.sink.channel.frameSequence } ∧
        Adds env line o.sink (Packet.framed line.channel.sequence (Bytes.ofWire payload)) := by
    obtain ⟨sent, handed, all⟩ := holds
    have empty : Bytes.ofWire o.pending = [] := List.eq_nil_of_length_eq_zero none
    rw [empty, List.append_nil] at all
    rw [all] at handed
    refine ⟨handed.accepted, handed.inbound, ?_, handed.adds⟩
    rw [handed.channel, number]
  unfold writePacket Packet.write
  dsimp only
  rw [wrote]
  dsimp only
  split
  · next none => exact ⟨_, rfl, done (beq_iff_eq.mp none) number holds⟩
  · obtain ⟨o', flushed, holds', sequence, none⟩ :=
      Packet.flush_of_delivers (delivers_send faultless) holds
    rw [flushed]
    exact ⟨_, rfl, done (by rw [none]; rfl) (sequence.trans number) holds'⟩

theorem writePacket_of_limit {payload : ByteArray} {limit : Option Nat}
    (wrote : writePacket env payload limit line = .ok () line') :
    writePacket env payload none line = .ok () line' := by
  unfold writePacket Packet.write at wrote ⊢
  dsimp only at wrote ⊢
  split at wrote
  · cases wrote
  · next written =>
    rw [Packet.writeFrom_of_limit written]
    exact wrote

end Line

end SqlWire
