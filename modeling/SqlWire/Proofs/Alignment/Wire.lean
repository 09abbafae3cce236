import SqlWire.Channel

/-!
# What a line offers

The bytes that a server sends are packets, and with compression these travel in frames. A line offers
some bytes of a response, and behind them others that are not for now: uncompressed they simply come
first, and compressed they are what is left of the last frame and the content of frames that are
numbered from the present number on. Where no step fails, `pull` takes just the first of the bytes
that are offered, however they are cut into frames, and the number that follows all of these frames
stays the same (`OffersUpTo`).
-/

namespace SqlWire

open EStateM (Result)
open Net (Env Link World)

/-- No I/O step fails, and no other thread interferes with one. -/
structure Net.Env.Faultless (env : Env) : Prop where
  fault : ∀ step, env.fault step = none
  interrupt : ∀ step, env.interrupt step = none

variable {env : Env}

/-! ## Links -/

namespace Net

theorem World.beginStep_of_faultless (faultless : env.Faultless) (w : World) :
    beginStep env w = .ok () { w with ioSteps := w.ioSteps + 1 } := by
  unfold beginStep
  dsimp only
  rw [faultless.interrupt, faultless.fault]

namespace Link

/-- The bytes that are still to be read. -/
def rest (link : Link) : Bytes := (Bytes.ofWire link.inbound).drop link.position

theorem length_rest (link : Link) : link.rest.length = link.remaining := by
  unfold rest remaining
  rw [List.length_drop, Bytes.length_ofWire]

theorem take_of_rest (faultless : env.Faultless) {link : Link} {w : World} {bytes behind : Bytes}
    (rest : link.rest = bytes ++ behind) :
    ∃ link' w', take env bytes.length (link, w) = .ok bytes.toWire (link', w') ∧
      link'.rest = behind ∧ link'.id = link.id ∧ w'.control = w.control ∧ w'.links = w.links := by
  unfold take
  dsimp only
  cases bytes with
  | nil => exact ⟨link, w, rfl, rest, rfl, rfl, rfl⟩
  | cons b bytes =>
    have enough : (b :: bytes).length ≤ link.remaining := by
      rw [← length_rest, rest, List.length_append]
      exact Nat.le_add_right ..
    rw [if_neg (by simp), World.beginStep_of_faultless faultless]
    dsimp only
    rw [if_pos enough]
    refine ⟨_, _, congrArg (Result.ok · _) ?_, ?_, rfl, rfl, rfl⟩
    · rw [← Bytes.toWire_ofWire (link.inbound.extract _ _), Bytes.ofWire_extract,
        Nat.add_sub_cancel_left]
      exact congrArg Bytes.toWire ((congrArg (List.take _) rest).trans List.take_left)
    · have dropped : link.rest.drop (b :: bytes).length = behind := by rw [rest, List.drop_left]
      rw [← dropped]
      exact (List.drop_drop ..).symm

end Link

end Net

/-! ## Frames -/

namespace Frame

theorem parse?_bytes {header : Header} (body : header.bodySize < 0x1000000)
    (content : header.contentSize < 0x1000000) : Header.parse? header.bytes = some header := by
  have low (n : Nat) (h : n < 0x1000000) : Bytes.toNatLE (Bytes.ofNatLE 3 n) = n :=
    (Bytes.toNatLE_ofNatLE 3 n).trans (Nat.mod_eq_of_lt h)
  obtain ⟨bodySize, sequence, contentSize⟩ := header
  show some (Header.mk (Bytes.toNatLE (Bytes.ofNatLE 3 bodySize)) sequence
    (Bytes.toNatLE (Bytes.ofNatLE 3 contentSize))) = _
  rw [low _ body, low _ content]

/-- What a server puts into a frame: its body, and the size of the content that it announces. -/
structure Packed where
  announced : Nat
  body : ByteArray

namespace Packed

def content (z : Compressor) (f : Packed) : ByteArray :=
  if f.announced == 0 then f.body else (z.inflate f.body).content

/-- The sizes fit in a header, the content is as announced, and there is some. -/
structure Valid (z : Compressor) (f : Packed) : Prop where
  bodyFits : f.body.size < 0x1000000
  announcedFits : f.announced < 0x1000000
  some : 0 < (f.content z).size
  whole : f.announced ≠ 0 →
    (z.inflate f.body).isWhole = true ∧ (z.inflate f.body).content.size = f.announced

theorem Valid.unpack {z : Compressor} {f : Packed} (valid : f.Valid z) (room : Nat) :
    (unpack z room f.announced f.body).fault = none ∧
      (Frame.unpack z room f.announced f.body).content = f.content z := by
  unfold Frame.unpack content
  by_cases stored : f.announced = 0
  · simp [stored]
  · obtain ⟨whole, size⟩ := valid.whole stored
    simp [stored, whole, size]

end Packed

/-- Frames on the wire, numbered from `sequence` on. -/
def wire : UInt8 → List Packed → Bytes
  | _, [] => []
  | sequence, f :: frames =>
    Header.bytes ⟨f.body.size, sequence, f.announced⟩ ++ Bytes.ofWire f.body ++
      wire (sequence + 1) frames

/-- The content of frames. -/
def contents (z : Compressor) (frames : List Packed) : Bytes :=
  frames.flatMap fun f => Bytes.ofWire (f.content z)

theorem eq_nil_of_contents {z : Compressor} {frames : List Packed}
    (valid : ∀ f ∈ frames, f.Valid z) (none : contents z frames = []) : frames = [] := by
  cases frames with
  | nil => rfl
  | cons f frames =>
    have some := (valid f (.head _)).some
    have empty : Bytes.ofWire (f.content z) = [] := (List.append_eq_nil_iff.mp none).1
    rw [← Bytes.length_ofWire, empty] at some
    exact absurd some (Nat.lt_irrefl 0)

end Frame

/-! ## Lines -/

/-- The content of the last frame that was not taken. -/
def Channel.left (channel : Channel) : Bytes := (Bytes.ofWire channel.content).drop channel.taken

namespace Line

/-- The line is in use, and the server still sends these bytes. -/
def Inbound (line : Line) (bytes : Bytes) : Prop :=
  line.world.control.closed = false ∧
    ∃ link, line.channel.link = some link ∧ line.world.isDown link.id = false ∧ link.rest = bytes

/-- The next bytes to be pulled are `content`, and behind them the server sends `later`. -/
def Offers (env : Env) (line : Line) (content later : Bytes) : Prop :=
  if line.channel.compressed then
    ∃ frames : List Frame.Packed, (∀ f ∈ frames, f.Valid env.compressor) ∧
      line.Inbound (Frame.wire line.channel.frameSequence frames ++ later) ∧
      content = line.channel.left ++ Frame.contents env.compressor frames
  else line.Inbound (content ++ later)

/-- As `Offers`, and the frames of what is offered are numbered up to `stop`, which follows them. -/
def OffersUpTo (env : Env) (line : Line) (content later : Bytes) (stop : UInt8) : Prop :=
  if line.channel.compressed then
    ∃ frames : List Frame.Packed, (∀ f ∈ frames, f.Valid env.compressor) ∧
      line.Inbound (Frame.wire line.channel.frameSequence frames ++ later) ∧
      content = line.channel.left ++ Frame.contents env.compressor frames ∧
      line.channel.frameSequence + UInt8.ofNat frames.length = stop
  else line.Inbound (content ++ later) ∧ line.channel.frameSequence = stop

theorem offers_iff {line : Line} {content later : Bytes} :
    line.Offers env content later ↔ ∃ stop, line.OffersUpTo env content later stop := by
  unfold Offers OffersUpTo
  split
  · constructor
    · rintro ⟨frames, valid, inbound, offered⟩
      exact ⟨_, frames, valid, inbound, offered, rfl⟩
    · rintro ⟨_, frames, valid, inbound, offered, -⟩
      exact ⟨frames, valid, inbound, offered⟩
  · constructor
    · intro inbound
      exact ⟨_, inbound, rfl⟩
    · rintro ⟨_, inbound, -⟩
      exact inbound

theorem pullRaw_of_inbound (faultless : env.Faultless) {line : Line} {bytes behind : Bytes}
    (inbound : line.Inbound (bytes ++ behind)) :
    ∃ line', pullRaw env bytes.length line = .ok bytes.toWire line' ∧ line'.Inbound behind ∧
      line'.channel = { line.channel with link := line'.channel.link } := by
  obtain ⟨isOpen, link, held, isUp, rest⟩ := inbound
  obtain ⟨link', w', took, rest', id, control, links⟩ :=
    Link.take_of_rest faultless (w := line.world) rest
  unfold pullRaw
  rw [held]
  dsimp only
  rw [took]
  refine ⟨_, rfl, ⟨(congrArg _ control).trans isOpen, link', rfl, ?_, rest'⟩, rfl⟩
  unfold World.isDown
  rw [links, id]
  exact isUp

/-- A frame whose content is all there. -/
theorem readFrame_of_inbound (faultless : env.Faultless) {line : Line} {f : Frame.Packed}
    {frames : List Frame.Packed} {later : Bytes} (valid : f.Valid env.compressor)
    (inbound : line.Inbound (Frame.wire line.channel.frameSequence (f :: frames) ++ later)) :
    ∃ line', readFrame env line = .ok () line' ∧
      line'.Inbound (Frame.wire line'.channel.frameSequence frames ++ later) ∧
      line'.channel.left = Bytes.ofWire (f.content env.compressor) ∧
      line'.channel.frameSequence = line.channel.frameSequence + 1 ∧
      line'.channel.sequence = line.channel.sequence ∧
      line'.channel.compressed = line.channel.compressed := by
  obtain ⟨header, header_eq⟩ : ∃ header : Frame.Header,
    header = ⟨f.body.size, line.channel.frameSequence, f.announced⟩ := ⟨_, rfl⟩
  have length : header.bytes.length = Frame.Header.length := rfl
  have parsed : Frame.Header.parse? header.bytes = some header :=
    Frame.parse?_bytes (header_eq ▸ valid.bodyFits) (header_eq ▸ valid.announcedFits)
  have inOrder : Packet.checkSequence line.channel.frameSequence header.sequence =
      .ok (line.channel.frameSequence + 1) := by
    rw [header_eq]
    exact if_pos (beq_self_eq_true _)
  simp only [Frame.wire, ← header_eq, List.append_assoc] at inbound
  obtain ⟨line₁, headed, inbound₁, channel₁⟩ := pullRaw_of_inbound faultless inbound
  -- The body is pulled behind the new number.
  obtain ⟨line₂, line₂_eq⟩ : ∃ line₂ : Line, line₂ =
    { line₁ with channel := { line₁.channel with frameSequence := line.channel.frameSequence + 1 } } :=
    ⟨_, rfl⟩
  have inbound₂ : line₂.Inbound (Bytes.ofWire f.body ++
      (Frame.wire (line.channel.frameSequence + 1) frames ++ later)) := by
    rw [line₂_eq]
    exact inbound₁
  obtain ⟨line₃, embodied, inbound₃, channel₃⟩ := pullRaw_of_inbound faultless inbound₂
  have size : (Bytes.ofWire f.body).length = header.bodySize := by rw [header_eq]; rfl
  rw [size, Bytes.toWire_ofWire] at embodied
  have announced : header.contentSize = f.announced := by rw [header_eq]
  obtain ⟨whole, content⟩ := valid.unpack line₃.channel.room
  have sequence₁ : line₁.channel.frameSequence = line.channel.frameSequence := by rw [channel₁]
  unfold readFrame
  rw [← length, headed]
  dsimp only
  rw [Bytes.ofWire_toWire, parsed]
  dsimp only
  rw [sequence₁, inOrder]
  dsimp only
  rw [← line₂_eq, embodied]
  dsimp only
  rw [announced, whole]
  have after : line₃.channel.frameSequence = line.channel.frameSequence + 1 := by
    rw [channel₃, line₂_eq]
  refine ⟨_, rfl, ?_, congrArg Bytes.ofWire content, after, ?_, ?_⟩
  · rw [← after] at inbound₃
    exact inbound₃
  · show line₃.channel.sequence = _
    rw [channel₃, line₂_eq, channel₁]
  · show line₃.channel.compressed = _
    rw [channel₃, line₂_eq, channel₁]

theorem length_left (channel : Channel) : channel.left.length = channel.leftover := by
  unfold Channel.left Channel.leftover
  rw [List.length_drop, Bytes.length_ofWire]

/-- Where something is offered and nothing is left of the last frame, another one comes. -/
theorem readFrame_of_offers (faultless : env.Faultless) {line : Line} {content later : Bytes}
    {stop : UInt8} (compressed : line.channel.compressed = true)
    (none : line.channel.leftover = 0) (some : content ≠ [])
    (offers : line.OffersUpTo env content later stop) :
    ∃ line', readFrame env line = .ok () line' ∧ line'.OffersUpTo env content later stop ∧
      line'.channel.sequence = line.channel.sequence ∧ line'.channel.compressed = true := by
  obtain ⟨frames, valid, inbound, offered, stop_eq⟩ := (if_pos compressed).mp offers
  have left : line.channel.left = [] := List.eq_nil_of_length_eq_zero ((length_left _).trans none)
  rw [left, List.nil_append] at offered
  cases frames with
  | nil => exact absurd offered some
  | cons f frames =>
    obtain ⟨line', read, inbound', content', number, sequence, compressed'⟩ :=
      readFrame_of_inbound faultless (valid f (.head _)) inbound
    refine ⟨line', read, ?_, sequence, compressed'.trans compressed⟩
    refine (if_pos (compressed'.trans compressed)).mpr
      ⟨frames, fun f mem => valid f (.tail _ mem), inbound', ?_, ?_⟩
    · rw [offered, content']
      rfl
    · rw [← stop_eq, number, List.length_cons, Nat.add_comm, UInt8.ofNat_add, UInt8.add_assoc]
      rfl

/-- What is offered is pulled out of frames, wherever these end. -/
theorem fill_of_offers (faultless : env.Faultless) {line : Line} {n : Nat} {out : ByteArray}
    {bytes content later : Bytes} {stop : UInt8} (compressed : line.channel.compressed = true)
    (offers : line.OffersUpTo env (bytes ++ content) later stop) (length : n = bytes.length) :
    ∃ line', fill env n out line = .ok (out ++ bytes.toWire) line' ∧
      line'.OffersUpTo env content later stop ∧ line'.channel.sequence = line.channel.sequence ∧
      line'.channel.compressed = true := by
  fun_induction fill env n out line generalizing bytes with
  | case1 out line =>
    obtain rfl : bytes = [] := List.eq_nil_of_length_eq_zero length.symm
    exact ⟨line, congrArg (Result.ok · line) (ByteArray.append_empty).symm, offers, rfl, compressed⟩
  | case2 n out line more none e line' failed =>
    have some : bytes ++ content ≠ [] := fun nil =>
      more (by simp [length, (List.append_eq_nil_iff.mp nil).1])
    obtain ⟨_, read, _⟩ := readFrame_of_offers faultless compressed none some offers
    cases failed.symm.trans read
  | case3 n out line more none line' read ih =>
    have some : bytes ++ content ≠ [] := fun nil =>
      more (by simp [length, (List.append_eq_nil_iff.mp nil).1])
    obtain ⟨line₁, read', offers₁, sequence, compressed₁⟩ :=
      readFrame_of_offers faultless compressed none some offers
    cases read.symm.trans read'
    obtain ⟨line₂, filled, offers₂, sequence₂, compressed₂⟩ := ih compressed₁ offers₁ length
    exact ⟨line₂, filled, offers₂, sequence₂.trans sequence, compressed₂⟩
  | case4 n out line more left size upTo =>
    rename_i ih
    obtain ⟨frames, valid, inbound, offered, stop_eq⟩ := (if_pos compressed).mp offers
    have size_le : size ≤ line.channel.left.length := length_left line.channel ▸ Nat.min_le_right ..
    have size_le' : size ≤ bytes.length := length ▸ Nat.min_le_left ..
    -- What is left of the frame begins with the bytes that are wanted.
    have first : line.channel.left.take size = bytes.take size := by
      have same := congrArg (List.take size) offered
      rw [List.take_append_of_le_length size_le', List.take_append_of_le_length size_le] at same
      exact same.symm
    have taken : line.channel.content.extract line.channel.taken upTo =
        Bytes.toWire (bytes.take size) := by
      rw [← first, ← Bytes.toWire_ofWire (ByteArray.extract ..), Bytes.ofWire_extract,
        Nat.add_sub_cancel_left]
      rfl
    have offers' : OffersUpTo env { line with channel := { line.channel with taken := upTo } }
        (bytes.drop size ++ content) later stop := by
      refine (if_pos compressed).mpr ⟨frames, valid, inbound, ?_, stop_eq⟩
      rw [← List.drop_append_of_le_length size_le', offered, List.drop_append_of_le_length size_le]
      exact congrArg (· ++ _) (List.drop_drop ..)
    obtain ⟨line', filled, offers₁, sequence, compressed₁⟩ :=
      ih compressed offers' (by rw [List.length_drop, length])
    refine ⟨line', filled.trans ?_, offers₁, sequence, compressed₁⟩
    rw [taken, ByteArray.append_assoc, ← Bytes.toWire_append, List.take_append_drop]

theorem pull_of_offers (faultless : env.Faultless) {line : Line} {bytes content later : Bytes}
    {stop : UInt8} (offers : line.OffersUpTo env (bytes ++ content) later stop) :
    ∃ line', pull env bytes.length line = .ok bytes.toWire line' ∧
      line'.OffersUpTo env content later stop ∧
      line'.channel.sequence = line.channel.sequence ∧
      line'.channel.compressed = line.channel.compressed ∧
      (line.channel.compressed = false → line'.channel.left = line.channel.left) := by
  unfold pull
  cases compressed : line.channel.compressed with
  | true =>
    obtain ⟨line', filled, offers', sequence, compressed'⟩ :=
      fill_of_offers faultless compressed offers rfl
    exact ⟨line', filled.trans (by rw [ByteArray.empty_append]), offers', sequence, compressed',
      nofun⟩
  | false =>
    obtain ⟨inbound, stop_eq⟩ := (if_neg (by simp [compressed])).mp offers
    rw [List.append_assoc] at inbound
    obtain ⟨line', pulled, inbound', channel⟩ := pullRaw_of_inbound faultless inbound
    have compressed' : line'.channel.compressed = false := by rw [channel, compressed]
    refine ⟨line', pulled, (if_neg (by simp [compressed'])).mpr ⟨inbound', ?_⟩, ?_, compressed', ?_⟩
    · rw [channel, ← stop_eq]
    · rw [channel]
    · intro _
      rw [channel]
      rfl

end Line

end SqlWire
