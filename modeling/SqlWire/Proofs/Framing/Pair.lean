import SqlWire.Proofs.Framing.Sending

/-!
# Two ends of a connection

What one end writes comes to the other end, where it is read. The ends are `Settled` when everything
was read: they agree on the next numbers then, and nothing is left of a frame. Between them are some
payloads that were written and not read (`Carries`); writing puts one behind them (`carries_write`)
and reading takes the first (`carries_read`). So the reader gets the payloads in the order in which
they were written, and once it has got them all the ends are settled again (`received_of_settled`).
-/

namespace SqlWire

open EStateM (Result)
open Net (Env)

/-- Two ends of a connection. -/
structure Pair where
  writer : Line
  reader : Line

variable {here there : Env}

/-! ## What comes to a line -/

namespace Line

/-- More bytes have come, behind those that are still to be read. -/
def receives (line : Line) (bytes : Bytes) : Line :=
  { line with channel := { line.channel with
      link := line.channel.link.map fun link =>
        { link with inbound := (link.rest ++ bytes).toWire, position := 0 } } }

variable {line : Line} {bytes more content : Bytes} {stop : UInt8}

theorem inbound_receives (inbound : line.Inbound bytes) :
    (line.receives more).Inbound (bytes ++ more) := by
  obtain ⟨isOpen, link, held, isUp, rest⟩ := inbound
  refine ⟨isOpen, { link with inbound := (link.rest ++ more).toWire, position := 0 }, ?_, isUp, ?_⟩
  · simp only [receives, held, Option.map_some]
  · rw [Net.Link.rest, Bytes.ofWire_toWire, List.drop_zero, rest]

theorem offers_receives_plain (plain : line.channel.compressed = false)
    (offers : line.OffersUpTo there content [] stop) :
    (line.receives more).OffersUpTo there (content ++ more) [] stop := by
  obtain ⟨inbound, number⟩ := (if_neg (by simp [plain])).mp offers
  refine (if_neg (by simp [receives, plain])).mpr ⟨?_, number⟩
  rw [List.append_nil] at inbound ⊢
  exact inbound_receives inbound

theorem offers_receives_frames (compressed : line.channel.compressed = true)
    (offers : line.OffersUpTo there content [] stop) {frames : List Frame.Packed}
    (carry : Frame.Carry there.compressor frames more) :
    (line.receives (Frame.wire stop frames)).OffersUpTo there (content ++ more) []
      (stop + UInt8.ofNat frames.length) := by
  obtain ⟨before, valid, inbound, offered, number⟩ := (if_pos compressed).mp offers
  refine (if_pos compressed).mpr ⟨before ++ frames, ?_, ?_, ?_, ?_⟩
  · intro f mem
    rcases List.mem_append.mp mem with mem | mem
    · exact valid f mem
    · exact carry.1 f mem
  · rw [List.append_nil] at inbound ⊢
    rw [← number]
    show Inbound _ (Frame.wire line.channel.frameSequence _)
    rw [Frame.wire_append]
    exact inbound_receives inbound
  · rw [offered, Frame.contents_append, carry.2, List.append_assoc]
    rfl
  · rw [List.length_append, UInt8.ofNat_add, ← UInt8.add_assoc]
    exact congrArg (· + _) number

end Line

namespace Packet

/-- The number that follows payloads. -/
def followingAll (sequence : UInt8) (payloads : List ByteArray) : UInt8 :=
  payloads.foldl (fun sequence payload => following sequence payload.size) sequence

theorem framedAll_concat (sequence : UInt8) (payloads : List ByteArray) (payload : ByteArray) :
    framedAll sequence (payloads ++ [payload]) =
      framedAll sequence payloads ++
        framed (followingAll sequence payloads) (Bytes.ofWire payload) := by
  induction payloads generalizing sequence with
  | nil => simp [framedAll, followingAll]
  | cons first payloads ih => simp [framedAll, followingAll, ih]

end Packet

/-! ## What the ends do -/

namespace Pair

/-- What one of the ends does. -/
inductive Move where
  | write (payload : ByteArray)
  | read

/-- The payloads that are written, in order. -/
def written (moves : List Move) : List ByteArray :=
  moves.filterMap fun
    | .write payload => some payload
    | .read => none

/-- How many payloads are read. -/
def reads (moves : List Move) : Nat :=
  moves.countP fun
    | .write _ => false
    | .read => true

/-- One end writes a payload, which comes to the other end, or that one reads one. -/
def step (here there : Env) : Move → EStateM Error Pair (Option ByteArray)
  | .write payload => fun p =>
    let deliver (writer : Line) : Pair :=
      ⟨writer, p.reader.receives (writer.sent.drop p.writer.sent.length)⟩
    match Line.writePacket here payload none p.writer with
    | .ok () writer => .ok none (deliver writer)
    | .error e writer => .error e (deliver writer)
  | .read => fun p =>
    match Line.readPacket there p.reader with
    | .ok payload reader => .ok (some payload) { p with reader }
    | .error e reader => .error e { p with reader }

/-- The payloads that are read when the ends do all this. -/
def run (here there : Env) : List Move → EStateM Error Pair (List ByteArray)
  | [] => pure []
  | move :: moves => do
    let got ← step here there move
    return got.toList ++ (← run here there moves)

/-- Everything that was written was read. -/
structure Settled (p : Pair) : Prop where
  accepted : p.writer.IsAccepted
  writer : ∃ behind, p.writer.Inbound behind
  reader : p.reader.Inbound []
  compressed : p.reader.channel.compressed = p.writer.channel.compressed
  mark : p.reader.channel.mark = p.writer.channel.mark
  left : p.reader.channel.leftover = 0

/-- These payloads were written and not read. -/
structure Carries (there : Env) (queue : List ByteArray) (p : Pair) : Prop where
  accepted : p.writer.IsAccepted
  writer : ∃ behind, p.writer.Inbound behind
  compressed : p.reader.channel.compressed = p.writer.channel.compressed
  offers : p.reader.OffersUpTo there (Packet.framedAll p.reader.channel.sequence queue) []
    p.writer.channel.frameSequence
  sequence : p.writer.channel.sequence = Packet.followingAll p.reader.channel.sequence queue
  plain : p.reader.channel.compressed = false → p.reader.channel.left = []

variable {p : Pair} {queue : List ByteArray} {moves : List Move}

theorem carries_nil_iff : p.Carries there [] ↔ p.Settled := by
  constructor
  · rintro ⟨accepted, writer, compressed, offers, sequence, plain⟩
    have settled (reader : p.reader.Inbound [])
        (number : p.reader.channel.frameSequence = p.writer.channel.frameSequence)
        (left : p.reader.channel.left = []) : p.Settled := by
      refine ⟨accepted, writer, reader, compressed, ?_, by rw [← Line.length_left, left]; rfl⟩
      rw [Channel.mark, Channel.mark, number, sequence]
      rfl
    cases isCompressed : p.reader.channel.compressed with
    | true =>
      obtain ⟨frames, valid, inbound, offered, number⟩ := (if_pos isCompressed).mp offers
      obtain ⟨left, none⟩ := List.append_eq_nil_iff.mp offered.symm
      obtain rfl := Frame.eq_nil_of_contents valid none
      exact settled inbound ((UInt8.add_zero _).symm.trans number) left
    | false =>
      obtain ⟨inbound, number⟩ := (if_neg (by simp [isCompressed])).mp offers
      exact settled inbound number (plain isCompressed)
  · rintro ⟨accepted, writer, reader, compressed, mark, left⟩
    obtain ⟨sequence, number⟩ := Mark.mk.inj mark
    have left : p.reader.channel.left = [] :=
      List.eq_nil_of_length_eq_zero ((Line.length_left _).trans left)
    refine ⟨accepted, writer, compressed, ?_, sequence.symm, fun _ => left⟩
    unfold Line.OffersUpTo
    split
    · exact ⟨[], nofun, reader, by rw [left]; rfl, (UInt8.add_zero _).trans number⟩
    · exact ⟨reader, number⟩

/-- What was sent since comes to the reader, whatever it is. -/
theorem drop_of_adds {writer : Line} {bytes : Bytes} (same : there.compressor = here.compressor)
    (lawful : here.compressor.Lawful) (adds : Line.Adds here p.writer writer bytes)
    (compressed : p.reader.channel.compressed = p.writer.channel.compressed) {content : Bytes}
    (offers : p.reader.OffersUpTo there content [] p.writer.channel.frameSequence) :
    (p.reader.receives (writer.sent.drop p.writer.sent.length)).OffersUpTo there
      (content ++ bytes) [] writer.channel.frameSequence := by
  unfold Line.Adds at adds
  rw [← compressed] at adds
  cases isCompressed : p.reader.channel.compressed with
  | true =>
    obtain ⟨frames, sent, number, carry⟩ := (if_pos isCompressed).mp adds
    rw [sent, List.drop_left, number]
    exact Line.offers_receives_frames isCompressed offers (same ▸ carry lawful)
  | false =>
    obtain ⟨sent, number⟩ := (if_neg (by simp [isCompressed])).mp adds
    rw [sent, List.drop_left, number]
    exact Line.offers_receives_plain isCompressed offers

theorem carries_write (faultless : here.Faultless) (same : there.compressor = here.compressor)
    (lawful : here.compressor.Lawful) (payload : ByteArray) (carries : p.Carries there queue) :
    ∃ p', step here there (.write payload) p = .ok none p' ∧
      p'.Carries there (queue ++ [payload]) := by
  obtain ⟨accepted, ⟨behind, writer⟩, compressed, offers, sequence, plain⟩ := carries
  obtain ⟨writer', wrote, accepted', inbound', channel', adds⟩ :=
    Line.writePacket_of_accepted faultless payload accepted writer
  refine ⟨⟨writer', p.reader.receives (writer'.sent.drop p.writer.sent.length)⟩, ?_,
    accepted', ⟨behind, inbound'⟩, ?_, ?_, ?_, plain⟩
  · simp only [step, wrote]
  · exact compressed.trans (by rw [channel'])
  · have offers' := drop_of_adds same lawful adds compressed offers
    rw [sequence, ← Packet.framedAll_concat] at offers'
    exact offers'
  · show writer'.channel.sequence = Packet.followingAll p.reader.channel.sequence _
    rw [channel', sequence, Packet.followingAll, Packet.followingAll, List.foldl_append]
    rfl

theorem carries_read (faultless : there.Faultless) {payload : ByteArray}
    (carries : p.Carries there (payload :: queue)) :
    ∃ p', step here there .read p = .ok (some payload) p' ∧ p'.Carries there queue := by
  obtain ⟨accepted, writer, compressed, offers, sequence, plain⟩ := carries
  obtain ⟨reader', read, offers', number, compressed', left⟩ :=
    Line.readPacket_of_framed faultless offers
  refine ⟨{ p with reader := reader' }, ?_, accepted, writer, compressed'.trans compressed, ?_, ?_,
    fun isPlain => ?_⟩
  · simp only [step, read]
  · show reader'.OffersUpTo there (Packet.framedAll reader'.channel.sequence queue) [] _
    rwa [number]
  · show _ = Packet.followingAll reader'.channel.sequence queue
    rw [sequence, number]
    rfl
  · have isPlain : p.reader.channel.compressed = false := compressed'.symm.trans isPlain
    exact (left isPlain).trans (plain isPlain)

/-- The reader never is ahead of the writer, who is ahead by so many payloads at first. -/
def Paced (ahead : Nat) (moves : List Move) : Prop :=
  ∀ k, reads (moves.take k) ≤ ahead + (written (moves.take k)).length

theorem run_of_carries (writes : here.Faultless) (read : there.Faultless)
    (same : there.compressor = here.compressor) (lawful : here.compressor.Lawful)
    (carries : p.Carries there queue) (paced : Paced queue.length moves) :
    ∃ p', run here there moves p = .ok ((queue ++ written moves).take (reads moves)) p' ∧
      p'.Carries there ((queue ++ written moves).drop (reads moves)) := by
  induction moves generalizing p queue with
  | nil => exact ⟨p, rfl, by simpa [written, reads] using carries⟩
  | cons move moves ih =>
    cases move with
    | write payload =>
      obtain ⟨p₁, stepped, carries₁⟩ := carries_write writes same lawful payload carries
      have paced₁ : Paced (queue ++ [payload]).length moves := by
        intro k
        have := paced (k + 1)
        simp only [List.take_succ_cons, reads, written, List.countP_cons, List.filterMap_cons,
          List.length_cons, List.length_append, List.length_nil] at this ⊢
        simpa [Nat.add_assoc, Nat.add_comm] using this
      obtain ⟨p', ran, carries'⟩ := ih carries₁ paced₁
      have queued :
          queue ++ [payload] ++ written moves = queue ++ written (.write payload :: moves) :=
        List.append_assoc ..
      rw [queued] at ran carries'
      refine ⟨p', ?_, carries'⟩
      rw [run, EStateM.bind_of_ok stepped, EStateM.bind_of_ok ran]
      rfl
    | read =>
      cases queue with
      | nil =>
        have := paced 1
        simp [reads, written] at this
      | cons payload queue =>
        obtain ⟨p₁, stepped, carries₁⟩ := carries_read read carries
        have paced₁ : Paced queue.length moves := by
          intro k
          have := paced (k + 1)
          simp only [List.take_succ_cons, reads, written, List.countP_cons, List.filterMap_cons,
            List.length_cons] at this ⊢
          simp only [if_true] at this
          omega
        obtain ⟨p', ran, carries'⟩ := ih carries₁ paced₁
        have counted : reads (.read :: moves) = reads moves + 1 := by simp [reads]
        refine ⟨p', ?_, ?_⟩
        · rw [run, EStateM.bind_of_ok stepped, EStateM.bind_of_ok ran, counted]
          rfl
        · rw [counted]
          exact carries'

/-- However the ends take turns, the reader gets the payloads in the order in which they were
written. Whenever it has got them all, the ends agree on the next numbers of packets and of frames,
and nothing is left of a frame. -/
theorem received_of_settled (writes : here.Faultless) (read : there.Faultless)
    (same : there.compressor = here.compressor) (lawful : here.compressor.Lawful)
    (settled : p.Settled) (moves : List Move) (paced : Paced 0 moves) :
    ∃ p', run here there moves p = .ok ((written moves).take (reads moves)) p' ∧
      (reads moves = (written moves).length → p'.Settled) := by
  obtain ⟨p', ran, carries⟩ :=
    run_of_carries writes read same lawful (carries_nil_iff.mpr settled) paced
  refine ⟨p', ran, fun all => ?_⟩
  rw [List.nil_append, all, List.drop_length] at carries
  exact carries_nil_iff.mp carries

/-- A compressor that exchanges two contents and leaves others as they are. -/
def exchanging (a b : ByteArray) : Frame.Compressor :=
  let exchange (content : ByteArray) : ByteArray :=
    if content.data = a.data then b else if content.data = b.data then a else content
  ⟨exchange, fun body => ⟨exchange body, [], (exchange body).size, true⟩⟩

theorem lawful_exchanging (a b : ByteArray) : (exchanging a b).Lawful := by
  intro content
  refine ⟨rfl, ?_⟩
  simp only [exchanging]
  split
  · next same =>
    obtain rfl := ByteArray.ext same
    split
    · next same' => exact ByteArray.ext same'
    · rw [if_pos rfl]
  · next other =>
    split
    · next same => rw [if_pos rfl, ByteArray.ext same]
    · rfl

/-- An end at which nothing is to be read, just before the numbers begin anew. -/
def idleEnd : Line where
  channel := { Channel.new ⟨0, ByteArray.empty, 0, false, none⟩ with
    sequence := 254, frameSequence := 255, compressed := true }
  world := { Net.World.start [] with links := #[⟨ByteArray.empty, false⟩] }

/-- A payload whose packet is compressed, and one whose packet is not. -/
def longAndShort : List ByteArray := [(List.replicate 2000 7).toByteArray, [1, 2, 3].toByteArray]

/-- The packet of the long payload is the only content that is compressed. -/
def zippedEnv : Env :=
  let packet := (Packet.framed 254 (List.replicate 2000 7)).toByteArray
  { Env.quiet {} with compressor := exchanging packet (Zlib.deflate packet) }

theorem received_longAndShort :
    zippedEnv.Faultless ∧ zippedEnv.compressor.Lawful ∧ Settled ⟨idleEnd, idleEnd⟩ ∧
      ∃ moves p', moves = longAndShort.map Move.write ++ [.read, .read] ∧ Paced 0 moves ∧
        run zippedEnv zippedEnv moves ⟨idleEnd, idleEnd⟩ = .ok longAndShort p' ∧ p'.Settled := by
  have faultless : zippedEnv.Faultless := ⟨fun _ => rfl, fun _ => rfl⟩
  have lawful : zippedEnv.compressor.Lawful := lawful_exchanging _ _
  have idle : idleEnd.Inbound [] := ⟨rfl, _, rfl, rfl, rfl⟩
  have settled : Settled ⟨idleEnd, idleEnd⟩ :=
    ⟨⟨_, rfl, by decide⟩, ⟨[], idle⟩, idle, rfl, rfl, rfl⟩
  have paced (a b : ByteArray) : Paced 0 [.write a, .write b, .read, .read] := by
    intro k
    match k with
    | 0 | 1 | 2 | 3 => simp [reads, written]
    | k + 4 => simp [reads, written]
  obtain ⟨p', ran, settled'⟩ :=
    received_of_settled faultless faultless rfl lawful settled _ (paced _ _)
  exact ⟨faultless, lawful, settled, _, p', rfl, paced _ _, ran, settled' rfl⟩

end Pair

end SqlWire
