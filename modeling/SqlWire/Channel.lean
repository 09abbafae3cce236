import SqlWire.Net.Link
import SqlWire.Run

/-!
# Channels

A channel carries packets over a link, in compressed frames once compression is on. Packets and
frames have sequence numbers of their own; both begin anew with each command, and a `Mark` keeps
them so that the response can be read after other commands were sent. Closing a channel lets go of
its link.

`readPacket` and `writePacket` are what the rest of the client uses. Reading a packet uses up what
the server sends (`supply_readPacket`), and writing does not (`supply_writePacket`).
-/

namespace SqlWire

open Net (Env Link World)

/-- The sequence numbers behind a command, where its response goes on. -/
structure Mark where
  sequence : UInt8
  frameSequence : UInt8
  deriving DecidableEq, Repr

/-- One connection's way to carry packets. -/
structure Channel where
  /-- `none` once the channel is closed. -/
  link : Option Link
  sequence : UInt8
  frameSequence : UInt8
  compressed : Bool
  /-- The content of the last frame. -/
  content : ByteArray
  /-- How much of the content was taken. -/
  taken : Nat
  /-- Room of the buffer for content. -/
  room : Nat

namespace Channel

def new (link : Link) : Channel := ⟨some link, 0, 0, false, ByteArray.empty, 0, 0⟩

def isClosed (channel : Channel) : Bool := channel.link.isNone

def resetSequence (channel : Channel) : Channel :=
  { channel with sequence := 0, frameSequence := 0 }

/-- The sequence numbers as they are now. -/
def mark (channel : Channel) : Mark := ⟨channel.sequence, channel.frameSequence⟩

def restore (channel : Channel) (mark : Mark) : Channel :=
  { channel with sequence := mark.sequence, frameSequence := mark.frameSequence }

/-- From now on packets travel in frames. -/
def enableCompression (channel : Channel) : Channel := { channel with compressed := true }

def setTimeout (channel : Channel) (timeout : Option Nat) : Except IoFault Channel :=
  match channel.link with
  | none => .ok channel
  | some link => (link.setTimeout timeout).map fun link => { channel with link := some link }

def leftover (channel : Channel) : Nat := channel.content.size - channel.taken

def remaining (channel : Channel) : Nat := (channel.link.map (·.remaining)).getD 0

end Channel

/-- A line is a channel and the world around it. -/
structure Line where
  channel : Channel
  world : World

namespace Line

/-- The content of a frame is smaller than this. -/
@[irreducible] def frameBound : Nat := 0x1000000

theorem frameBound_pos : 0 < frameBound := by
  unfold frameBound
  decide

/-- A bound of what can still be read: each byte that the server still sends may be the last one of a
frame. -/
def supply (line : Line) : Nat := frameBound * line.channel.remaining + line.channel.leftover

/-- Shuts the socket down and lets go of it. -/
def close (line : Line) : Line :=
  match line.channel.link with
  | none => line
  | some link => ⟨{ line.channel with link := none }, line.world.shutDown link.id⟩

theorem supply_close (line : Line) : line.close.supply ≤ line.supply := by
  unfold close
  split
  · exact Nat.le_refl _
  · simp only [supply, Channel.remaining, Channel.leftover, Option.map_none, Option.getD_none,
      Nat.mul_zero, Nat.zero_add]
    exact Nat.le_add_left ..

/-- Changes to TLS, which this build cannot: the socket is lost. -/
def secure (line : Line) : Error × Line :=
  (.unsupported .tls, line.close)

/-! ## Reading -/

def pullRaw (env : Env) (n : Nat) : EStateM Error Line ByteArray := fun line =>
  match line.channel.link with
  | none => .error (.io .notConnected) line
  | some link =>
    match Link.take env n (link, line.world) with
    | .ok bytes (link, world) => .ok bytes ⟨{ line.channel with link := some link }, world⟩
    | .error e (link, world) => .error e ⟨{ line.channel with link := some link }, world⟩

/-- Reads the next frame. The content of the last one must have been taken. -/
def readFrame (env : Env) : EStateM Error Line Unit := fun line =>
  match pullRaw env Frame.Header.length line with
  | .error e line => .error e line
  | .ok head line =>
    match Frame.Header.parse? (Bytes.ofWire head) with
    | none => .error (.io (.badFrame .headerSize)) line
    | some header =>
      match Packet.checkSequence line.channel.frameSequence header.sequence with
      | .error fault => .error (.io (.badFrame fault)) line
      | .ok frameSequence =>
        let line := { line with channel := { line.channel with frameSequence } }
        match pullRaw env header.bodySize line with
        | .error e line => .error e line
        | .ok body line =>
          let unpacked :=
            Frame.unpack env.compressor line.channel.room header.contentSize body
          let channel :=
            { line.channel with content := unpacked.content, taken := 0, room := unpacked.room }
          let line := { line with channel }
          match unpacked.fault with
          | some fault => .error (.io (.badFrame fault)) line
          | none => .ok () line

theorem remaining_pullRaw {env : Env} {n : Nat} {line line' : Line} {bytes : ByteArray}
    (h : pullRaw env n line = .ok bytes line') :
    line'.channel.remaining + n = line.channel.remaining ∧
      line'.channel.leftover = line.channel.leftover := by
  unfold pullRaw at h
  split at h
  · cases h
  · next link link_eq =>
    split at h
    · next bytes' link' world' taken =>
      injection h with _ hs
      subst hs
      exact ⟨by simpa [Channel.remaining, link_eq] using Link.remaining_take taken, rfl⟩
    · cases h

theorem size_pullRaw {env : Env} {n : Nat} {line line' : Line} {bytes : ByteArray}
    (h : pullRaw env n line = .ok bytes line') : bytes.size = n := by
  unfold pullRaw at h
  split at h
  · cases h
  · split at h
    · next taken =>
      injection h with hb _
      subst hb
      exact Link.size_take taken
    · cases h

/-- Reading a frame uses up its header, and puts less than a frame's content in its place. -/
theorem remaining_readFrame {env : Env} {line line' : Line} (h : readFrame env line = .ok () line') :
    line'.channel.remaining + Frame.Header.length ≤ line.channel.remaining ∧
      line'.channel.leftover < frameBound := by
  dsimp only [readFrame] at h
  split at h
  · cases h
  · next head line₁ head_eq =>
    split at h
    · cases h
    · next header parsed =>
      split at h
      · cases h
      · next frameSequence _ =>
        split at h
        · cases h
        · next body line₂ body_eq =>
          split at h
          · cases h
          · next whole =>
            injection h with _ hs
            subst hs
            have h₁ := (remaining_pullRaw head_eq).1
            have h₂ := (remaining_pullRaw body_eq).1
            have h₃ := Frame.size_unpack parsed (size_pullRaw body_eq) whole
            simp only [Channel.remaining, Channel.leftover] at h₁ h₂ ⊢
            exact ⟨by omega, by rw [frameBound]; exact h₃⟩

/-- Takes `n` bytes from frames, behind `out`. -/
def fill (env : Env) (n : Nat) (out : ByteArray) (line : Line) :
    EStateM.Result Error Line ByteArray :=
  if n = 0 then .ok out line
  else if line.channel.leftover = 0 then
    match _frame : readFrame env line with
    | .error e line => .error e line
    | .ok () line => fill env n out line
  else
    let size := min n line.channel.leftover
    let stop := line.channel.taken + size
    fill env (n - size) (out ++ line.channel.content.extract line.channel.taken stop)
      { line with channel := { line.channel with taken := stop } }
termination_by (line.channel.remaining, n)
decreasing_by
  · have := (remaining_readFrame _frame).1
    simp only [Frame.Header.length] at this
    exact Prod.Lex.left _ _ (by omega)
  · exact Prod.Lex.right _ (by simp only [Channel.leftover] at *; omega)

/-- Takes bytes from the link, or from the frames that come over it. -/
def pull (env : Env) (n : Nat) : EStateM Error Line ByteArray := fun line =>
  if line.channel.compressed then fill env n ByteArray.empty line else pullRaw env n line

theorem supply_fill {env : Env} {n : Nat} {out bytes : ByteArray} {line line' : Line}
    (h : fill env n out line = .ok bytes line') : line'.supply + n ≤ line.supply := by
  fun_induction fill env n out line with
  | case1 =>
    injection h with _ hs
    subst hs
    omega
  | case2 => cases h
  | case3 n out line _ none_left line₁ frame ih =>
    have ⟨h₁, h₂⟩ := remaining_readFrame frame
    have h₃ := ih h
    have h₄ : frameBound * (line₁.channel.remaining + 1) ≤ frameBound * line.channel.remaining :=
      Nat.mul_le_mul_left _ (by simp only [Frame.Header.length] at h₁; omega)
    rw [Nat.mul_add, Nat.mul_one] at h₄
    simp only [supply] at h₃ ⊢
    omega
  | case4 n out line _ some_left size stop ih =>
    have h₁ := ih h
    have h₂ : size ≤ n := Nat.min_le_left ..
    have h₃ : size ≤ line.channel.leftover := Nat.min_le_right ..
    have h₄ : stop = line.channel.taken + size := rfl
    simp only [supply, Channel.leftover, Channel.remaining] at h₁ h₃ ⊢
    omega

theorem supply_pull {env : Env} {n : Nat} {line line' : Line} {bytes : ByteArray}
    (h : pull env n line = .ok bytes line') : line'.supply + n ≤ line.supply := by
  unfold pull at h
  split at h
  · exact supply_fill h
  · have ⟨h₁, h₂⟩ := remaining_pullRaw h
    have h₃ : frameBound * line.channel.remaining =
        frameBound * line'.channel.remaining + frameBound * n := by rw [← h₁, Nat.mul_add]
    have h₄ : n ≤ frameBound * n := Nat.le_mul_of_pos_left n frameBound_pos
    simp only [supply]
    omega

def source (env : Env) : Packet.Source Line := ⟨pull env, supply, supply_pull⟩

def readPacket (env : Env) : EStateM Error Line ByteArray := fun line =>
  let after (i : Packet.Incoming Line) : Line :=
    { i.source with channel := { i.source.channel with sequence := i.sequence } }
  match Packet.read (source env) ⟨line.channel.sequence, line⟩ with
  | .ok payload i => .ok payload (after i)
  | .error e i => .error e (after i)

theorem supply_readPacket {env : Env} {line line' : Line} {payload : ByteArray}
    (h : readPacket env line = .ok payload line') : line'.supply < line.supply := by
  unfold readPacket at h
  dsimp only at h
  split at h
  · next i read_eq =>
    injection h with _ hs
    subst hs
    have := Packet.supply_readOnto read_eq
    simp only [source, Packet.Header.length] at this
    simp only [supply, Channel.remaining, Channel.leftover] at this ⊢
    omega
  · cases h

/-! ## Writing -/

def sendRaw (env : Env) (bytes : ByteArray) : EStateM Error Line Unit := fun line =>
  match line.channel.link with
  | none => .error (.io .notConnected) line
  | some link =>
    match link.send env bytes line.world with
    | .ok () world => .ok () { line with world }
    | .error e world => .error e { line with world }

/-- Sends framed packets, in compressed frames if compression is on. -/
def send (env : Env) (bytes : ByteArray) : EStateM Error Line Unit := fun line =>
  if line.channel.compressed then
    let (frames, frameSequence) := Frame.write env.compressor bytes line.channel.frameSequence
    sendRaw env frames { line with channel := { line.channel with frameSequence } }
  else sendRaw env bytes line

theorem supply_sendRaw {env : Env} {bytes : ByteArray} (line : Line) :
    (sendRaw env bytes line).state.supply = line.supply := by
  unfold sendRaw
  split
  · rfl
  · split <;> rfl

theorem supply_send {env : Env} {bytes : ByteArray} (line : Line) :
    (send env bytes line).state.supply = line.supply := by
  unfold send
  split
  · exact supply_sendRaw _
  · exact supply_sendRaw _

def writePacket (env : Env) (payload : ByteArray) (limit : Option Nat) : EStateM Error Line Unit :=
  fun line =>
    let after (o : Packet.Outgoing Line) : Line :=
      { o.sink with channel := { o.sink.channel with sequence := o.sequence } }
    match Packet.write (send env) payload limit ⟨ByteArray.empty, line.channel.sequence, line⟩ with
    | .error e o => .error e (after o)
    | .ok () o =>
      if o.pending.size == 0 then .ok () (after o)
      else match o.flush (Packet.handOn (send env)) with
        | .ok () o => .ok () (after o)
        | .error e o => .error e (after o)

theorem supply_writePacket {env : Env} {payload : ByteArray} {limit : Option Nat} (line : Line) :
    (writePacket env payload limit line).state.supply = line.supply := by
  have kept : ∀ bytes p, p.supply = line.supply → (send env bytes p).state.supply = line.supply :=
    fun _ p h => (supply_send p).trans h
  have numbered : ∀ (o : Packet.Outgoing Line), o.sink.supply = line.supply →
      supply { o.sink with channel := { o.sink.channel with sequence := o.sequence } } =
        line.supply := by
    intro o h
    simpa only [supply, Channel.remaining, Channel.leftover] using h
  have written :=
    Packet.writeFrom_sink kept payload limit 0 ⟨ByteArray.empty, line.channel.sequence, line⟩ rfl
  dsimp only [writePacket, Packet.write]
  split
  · next e o eq =>
    rw [eq] at written
    exact numbered o written
  · next o eq =>
    rw [eq] at written
    split
    · exact numbered o written
    · have after := Packet.flush_sink kept o written
      split <;> next o' eq' => rw [eq'] at after; exact numbered o' after

end Line

end SqlWire
