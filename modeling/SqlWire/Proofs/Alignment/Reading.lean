import SqlWire.Proofs.Alignment.Answer
import SqlWire.Proofs.Alignment.Numbering
import SqlWire.Proofs.Outcome
import SqlWire.Proofs.Undisturbed

/-!
# Reading what was asked for

A client awaits some packets, and behind them the server sends other bytes. Where these packets are
what is left of a response, `readUntil` takes them up to the end of the response or to a pause, no
further (`readUntil_of_awaits`). A command is sent where no packets are awaited; the response to it
is then the next thing to be read once the numbers behind the command are restored. What is given
for a response, and what is left of it, depends on its packets alone (`Reader.Gives.unique`).
-/

namespace SqlWire

open EStateM (Result)
open Net (Env)
open Answer (Completes)
open Exchange (Stop)

/-- How a session writes responses. -/
structure Format where
  compressed : Bool
  deprecateEof : Bool
  deriving DecidableEq

def Client.format (c : Client) : Format := ⟨c.channel.compressed, c.ctx.deprecateEof⟩

/-- Packets under the numbers that follow a mark, as bytes of the server. -/
def Answer.OnWire (env : Env) (compressed : Bool) (mark : Mark) (packets : List ByteArray)
    (wire : Bytes) : Prop :=
  if compressed then
    ∃ frames : List Frame.Packed, (∀ f ∈ frames, f.Valid env.compressor) ∧
      wire = Frame.wire mark.frameSequence frames ∧
      Packet.framedAll mark.sequence packets = Frame.contents env.compressor frames
  else wire = Packet.framedAll mark.sequence packets

/-- The next packets are these, and behind them the server sends `later`. -/
structure Client.Awaits (env : Env) (format : Format) (packets : List ByteArray) (later : Bytes)
    (c : Client) : Prop where
  format : c.format = format
  offers : c.line.Offers env (Packet.framedAll c.channel.sequence packets) later
  infile : c.infileError = none

/-- The command cannot be sent: it has no bytes, or too many. -/
def Session.Context.Refuses (ctx : Session.Context) (command : Command) (e : Error) : Prop :=
  match Exchange.encode ctx command with
  | .error fault => e = .usage fault
  | .ok bytes => ∃ max mustReconnect, e = .tooLarge bytes.length max mustReconnect ∧
      ctx.maxAllowedPacket = some max ∧ max ≤ bytes.length

variable {env : Env} {format : Format} {packets : List ByteArray} {packet : ByteArray}
  {later : Bytes} {command : Command} {options : StatementOptions} {mark : Mark} {c c' : Client}

namespace Session.Context

variable {ctx : Session.Context}

theorem refuses_of_fault {fault : UsageFault} (encoded : Exchange.encode ctx command = .error fault) :
    ctx.Refuses command (.usage fault) := by
  unfold Refuses
  rw [encoded]

theorem refuses_of_tooLarge {bytes : Bytes} {max : Nat} {mustReconnect : Bool}
    (encoded : Exchange.encode ctx command = .ok bytes) (limit : ctx.maxAllowedPacket = some max)
    (reached : max ≤ bytes.length) :
    ctx.Refuses command (.tooLarge bytes.length max mustReconnect) := by
  unfold Refuses
  rw [encoded]
  exact ⟨max, mustReconnect, rfl, limit, reached⟩

end Session.Context

/-! ## Nothing awaited -/

/-- Between two responses, nothing is left of a frame. -/
theorem offers_nil {line : Line} :
    line.Offers env [] later ↔
      line.Inbound later ∧ (line.channel.compressed = true → line.channel.left = []) := by
  unfold Line.Offers
  cases compressed : line.channel.compressed with
  | true =>
    constructor
    · rintro ⟨frames, valid, inbound, offered⟩
      obtain ⟨left, none⟩ := List.append_eq_nil_iff.mp offered.symm
      rw [Frame.eq_nil_of_contents valid none] at inbound
      exact ⟨inbound, fun _ => left⟩
    · rintro ⟨inbound, left⟩
      exact ⟨[], nofun, inbound, by rw [left rfl]; rfl⟩
  | false => exact ⟨fun inbound => ⟨inbound, nofun⟩, And.left⟩

namespace Client.Awaits

/-- Numbers play no part while nothing is awaited. -/
theorem of_idle (awaits : c.Awaits env format [] later) (format_eq : c'.format = format)
    (inbound : c'.line.Inbound later)
    (channel : c'.channel.left = c.channel.left) (infile : c'.infileError = none) :
    c'.Awaits env format [] later := by
  refine ⟨format_eq, offers_nil.mpr ⟨inbound, fun compressed => channel.trans ?_⟩, infile⟩
  have same : c.channel.compressed = c'.channel.compressed :=
    congrArg Format.compressed (awaits.format.trans format_eq.symm)
  exact (offers_nil.mp awaits.offers).2 (same.trans compressed)

/-- The numbers behind a command are restored before the response to it is read. -/
theorem restore {wire : Bytes} (awaits : c.Awaits env format [] (wire ++ later))
    (onWire : Answer.OnWire env format.compressed mark packets wire) :
    ({ c with channel := c.channel.restore mark } : Client).Awaits env format packets later := by
  obtain ⟨inbound, left⟩ := offers_nil.mp awaits.offers
  have compressed_eq : c.channel.compressed = format.compressed :=
    congrArg Format.compressed awaits.format
  refine ⟨awaits.format, ?_, awaits.infile⟩
  show Line.Offers env ⟨c.channel.restore mark, c.world⟩ (Packet.framedAll mark.sequence packets) later
  unfold Line.Offers
  unfold Answer.OnWire at onWire
  rw [← compressed_eq] at onWire
  cases compressed : c.channel.compressed with
  | true =>
    rw [if_pos compressed] at onWire
    obtain ⟨frames, valid, wire_eq, contents⟩ := onWire
    rw [wire_eq] at inbound
    refine (if_pos compressed).mpr ⟨frames, valid, inbound, contents.trans ?_⟩
    have none : (c.channel.restore mark).left = [] := left compressed
    rw [none]
    rfl
  | false =>
    rw [if_neg (by simp [compressed])] at onWire
    rw [onWire] at inbound
    exact (if_neg (by simp [Channel.restore, compressed])).mpr inbound

theorem isOpen (awaits : c.Awaits env format packets later) : c.isClosed = false := by
  have offers := awaits.offers
  unfold Line.Offers at offers
  split at offers
  · obtain ⟨_, _, inbound, _⟩ := offers
    exact inbound.1
  · exact offers.1

end Client.Awaits

/-! ## Sending -/

namespace Exchange

/-- A command without bytes is not sent. -/
theorem send_of_fault {fault : UsageFault} (encoded : encode c.ctx command = .error fault) :
    send env command c = .error (.usage fault) { c with channel := c.channel.resetSequence } := by
  unfold send
  dsimp only
  rw [encoded]

/-- The bytes of a command are sent under numbers from zero on. -/
theorem send_of_bytes {bytes : Bytes} (encoded : encode c.ctx command = .ok bytes) :
    send env command c =
      match Line.writePacket env bytes.toWire c.ctx.maxAllowedPacket
        ⟨c.channel.resetSequence, c.world⟩ with
      | .ok _ line => .ok line.channel.mark
          (((c.withLine line).withContext (·.recordCommand command)).note (.sent command))
      | .error e line => .error e ((c.withLine line).note (.failed e)) := by
  unfold send Client.onLine
  dsimp only
  rw [encoded]
  dsimp only [Client.line]
  generalize Line.writePacket .. = written
  cases written <;> rfl

/-- Where nothing is awaited, a command is sent, or it is refused by the client. -/
theorem send_of_awaits (command : Command) (faultless : env.Faultless)
    (awaits : c.Awaits env format [] later) :
    Yields (send env command) c fun given c' =>
      c'.Awaits env format [] later ∧ Undisturbed c c' ∧
        match given with
        | .ok mark => ∃ bytes, encode c.ctx command = .ok bytes ∧
            mark = .behind format.compressed bytes.length
        | .error e => c'.ctx.Refuses command e := by
  have inbound : (Line.mk c.channel.resetSequence c.world).Inbound later :=
    (offers_nil.mp awaits.offers).1
  have compressed : c.channel.compressed = format.compressed :=
    congrArg Format.compressed awaits.format
  -- What was written leaves a line that differs in its numbers only.
  have idle {line : Line} (mark : Mark) (inbound : line.Inbound later)
      (channel : line.channel = c.channel.resetSequence.restore mark) :
      (c.withLine line).Awaits env format [] later := by
    have left : line.channel.left = c.channel.left := by
      rw [channel]
      rfl
    have compressed : line.channel.compressed = c.channel.compressed := by
      rw [channel]
      rfl
    exact awaits.of_idle ((congrArg (Format.mk · _) compressed).trans awaits.format) inbound left
      awaits.infile
  have undisturbed : Along Undisturbed (send env command) := undisturbed_send
  cases encoded : encode c.ctx command with
  | error fault =>
    have sent : send env command c = _ := send_of_fault encoded
    exact .of_error sent ⟨idle ⟨0, 0⟩ inbound rfl, undisturbed.result sent,
      Session.Context.refuses_of_fault encoded⟩
  | ok bytes =>
    have sent : send env command c = _ := send_of_bytes encoded
    have size : bytes.toWire.size = bytes.length := by
      rw [← Bytes.length_ofWire, Bytes.ofWire_toWire]
    have written := Line.writePacket_of_inbound faultless bytes.toWire c.ctx.maxAllowedPacket inbound rfl
    rw [size] at written
    obtain ⟨line, wrote, inbound', channel⟩ |
      ⟨max, mustReconnect, line, refused, inbound', ⟨mark, channel⟩, limit, reached⟩ := written
    · rw [wrote] at sent
      have mark : line.channel.mark = .behind format.compressed bytes.length := by
        rw [channel, ← compressed]
        rfl
      have awaits' := idle _ inbound' channel
      exact .of_ok sent ⟨⟨awaits'.format, awaits'.offers, awaits'.infile⟩, undisturbed.result sent,
        bytes, rfl, mark⟩
    · rw [refused] at sent
      have awaits' := idle _ inbound' channel
      exact .of_error sent ⟨⟨awaits'.format, awaits'.offers, awaits'.infile⟩,
        undisturbed.result sent, Session.Context.refuses_of_tooLarge encoded limit reached⟩

end Exchange

/-! ## Reading -/

theorem readPacket_of_awaits (faultless : env.Faultless)
    (awaits : c.Awaits env format (packet :: packets) later) :
    ∃ c', Client.onLine (Line.readPacket env) c = .ok packet c' ∧
      c'.Awaits env format packets later := by
  obtain ⟨line, read, offers, compressed⟩ := Line.readPacket_of_offers faultless awaits.offers
  unfold Client.onLine
  rw [read]
  refine ⟨_, rfl, ?_, offers, awaits.infile⟩
  rw [← awaits.format]
  show Format.mk line.channel.compressed _ = _
  rw [compressed]
  rfl

/-- Where a reader stops, the response is over or in the midst of its rows. -/
def Reader.Halts (deprecateEof : Bool) (r : Reader) (left : List ByteArray) : Stop → Prop
  | .done => r.Expects .ended ∧ left = []
  | .suspended => r.Expects .rows ∧ r.deprecateEof = deprecateEof ∧ Completes deprecateEof .rows left

namespace Exchange

/-- A packet was taken by a reader that expected it. -/
theorem awaits_of_step {reader reader' : Reader} {ctx : Session.Context} {wanted : ReadStep}
    (awaits : c.Awaits env format packets later)
    (step : Reader.step packet (reader, c.ctx) = .ok wanted (reader', ctx)) :
    ({ c with ctx } : Client).Awaits env format packets later := by
  have calm : Reader.Calm reader c.ctx (Reader.step packet (reader, c.ctx)) := Reader.calm_step packet
  have calm := calm.updated
  rw [step] at calm
  obtain ⟨status, warnings, rfl⟩ := calm
  exact ⟨awaits.format, awaits.offers, awaits.infile⟩

theorem readUntil_of_step {reader reader' : Reader} {ctx : Session.Context} {wanted : ReadStep}
    (going : reader.isDone = false) (read : Client.onLine (Line.readPacket env) c = .ok packet c')
    (step : Reader.step packet (reader, c'.ctx) = .ok wanted (reader', ctx))
    (noFile : ∀ name, wanted ≠ .localFile name) :
    readUntil env command reader c =
      if wanted = .suspended then .ok (reader', .suspended) { c' with ctx }
      else readUntil env command reader' { c' with ctx } := by
  rw [readUntil, if_neg (by simp [going])]
  split
  · next failed => cases failed.symm.trans read
  · next read' =>
    cases read.symm.trans read'
    cases wanted with
    | localFile name => exact absurd rfl (noFile name)
    | needPacket | done | suspended => simp only [step]; rfl

/-- A response is read to its end or to a pause, and no further. -/
theorem readUntil_of_awaits (command : Command) (faultless : env.Faultless) {reader : Reader}
    {point : Answer.Point}
    (expects : reader.Expects point) (eof : reader.deprecateEof = format.deprecateEof)
    (completes : Completes format.deprecateEof point packets)
    (awaits : c.Awaits env format packets later) :
    ∃ reader' stop left c', readUntil env command reader c = .ok (reader', stop) c' ∧
      reader.Reads packets reader' stop left ∧ reader'.Halts format.deprecateEof left stop ∧
      c'.Awaits env format left later := by
  induction completes generalizing reader c with
  | ended =>
    have done := (Reader.isDone_iff expects).mpr rfl
    have read : readUntil env command reader c = .ok (reader, .done) c := by
      rw [readUntil, if_pos done]
    exact ⟨_, _, _, _, read, .done done, ⟨expects, rfl⟩, awaits⟩
  | @packet point next packet packets follows completes ih =>
    have going : reader.isDone = false := by
      rw [← Bool.not_eq_true, Reader.isDone_iff expects]
      rintro rfl
      cases (Completes.packet follows completes).eq_nil
    obtain ⟨c₁, read, awaits₁⟩ := readPacket_of_awaits faultless awaits
    rw [← eof] at follows
    have moves : Reader.Moves reader _ (Reader.step packet (reader, c₁.ctx)) :=
      Reader.step_of_follows expects follows
    obtain ⟨wanted, reader₁, ctx₁, step, moved⟩ := moves
    have awaits₂ := awaits_of_step awaits₁ step
    have eof₁ := moved.deprecateEof.trans eof
    -- What is wanted next decides whether reading goes on.
    have unfolded : readUntil env command reader c =
        if wanted = .suspended then .ok (reader₁, .suspended) { c₁ with ctx := ctx₁ }
        else readUntil env command reader₁ { c₁ with ctx := ctx₁ } :=
      readUntil_of_step going read step moved.noFile
    have goesOn (more : wanted ≠ .suspended) :
        ∃ reader' stop left c', readUntil env command reader c = .ok (reader', stop) c' ∧
          reader.Reads (packet :: packets) reader' stop left ∧
          reader'.Halts format.deprecateEof left stop ∧ c'.Awaits env format left later := by
      obtain ⟨reader', stop, left, c', read', reads, halts, awaits'⟩ := ih moved.expects eof₁ awaits₂
      exact ⟨_, _, _, _, (unfolded.trans (if_neg more)).trans read', .next going step more reads,
        halts, awaits'⟩
    cases wanted with
    | needPacket => exact goesOn nofun
    | done => exact goesOn nofun
    | localFile name => exact absurd rfl (moved.noFile name)
    | suspended =>
      obtain rfl := moved.suspended rfl
      exact ⟨_, _, _, _, unfolded.trans (if_pos rfl), .suspended going step,
        ⟨moved.expects, eof₁, completes⟩, awaits₂⟩

end Exchange

/-! ## Responses -/

/-- What is given at a pause. -/
def Reader.soFar (r : Reader) : Response :=
  .completions (r.completions ++ (r.takePartial.1.map Completion.rows).toArray)

/-- The reader that goes on behind a pause. -/
def Reader.resumed (r : Reader) : Reader := r.takeCompletions.2.takePartial.2

/-- What the packets of a response give, and what is left if that is only a part of it. -/
inductive Reader.Gives (r : Reader) (command : Command) (packets : List ByteArray) :
    Except ServerError Response → Option (Streaming × List ByteArray) → Prop where
  | whole {r' : Reader} {result : Except ServerError Response} : r.Reads packets r' .done [] →
      r'.finish = .ok result → Gives r command packets result none
  | paused {r' : Reader} {left : List ByteArray} : r.Reads packets r' .suspended left →
      Gives r command packets (.ok r'.soFar) (some (⟨r'.resumed, command⟩, left))

/-- The client is in the midst of a response that is given out in parts, or of none. -/
structure Client.Amid (env : Env) (format : Format) (current : Option (Streaming × List ByteArray))
    (later : Bytes) (c : Client) : Prop where
  streaming : c.streaming = current.map Prod.fst
  awaits : c.Awaits env format (current.elim [] Prod.snd) later
  rows : ∀ s left, current = some (s, left) → s.reader.Halts format.deprecateEof left .suspended

/-- A statement cannot be closed. -/
def Session.Context.Unclosed (ctx : Session.Context) (e : Error) : Prop :=
  ∃ id, ctx.Refuses (.closeStatement id) e

/-- The statement that was prepared, under a handle of the client. -/
def Response.withHandle (handle : UInt32) : Response → Response
  | prepared statement => prepared { statement with handle }
  | other => other

variable {current : Option (Streaming × List ByteArray)}

theorem Client.Amid.of_awaits (awaits : c.Awaits env format [] later) (streaming : c.streaming = none) :
    c.Amid env format none later where
  streaming := streaming
  awaits := awaits
  rows := by rintro _ _ ⟨⟩

/-- What is shown of the session changes nothing here. -/
theorem Client.Amid.of_same (amid : c.Amid env format current later) (channel : c'.channel = c.channel)
    (world : c'.world = c.world) (streaming : c'.streaming = c.streaming)
    (deprecateEof : c'.ctx.deprecateEof = c.ctx.deprecateEof) (infile : c'.infileError = none) :
    c'.Amid env format current later := by
  refine ⟨streaming.trans amid.streaming, ⟨?_, ?_, infile⟩, amid.rows⟩
  · rw [← amid.awaits.format, Client.format, Client.format, channel, deprecateEof]
  · have offers := amid.awaits.offers
    rwa [Client.line, ← channel, ← world] at offers

theorem Reader.Halts.resumed {deprecateEof : Bool} {r : Reader} {left : List ByteArray}
    (halts : r.Halts deprecateEof left .suspended) : r.resumed.Halts deprecateEof left .suspended := by
  obtain ⟨⟨stage, kind, some⟩, eof, completes⟩ := halts
  refine ⟨⟨stage, kind, ?_⟩, eof, completes⟩
  show (Option.map _ r.current).isSome = true
  rw [Option.isSome_map, some]

theorem Reader.Halts.takeRows {deprecateEof : Bool} {r : Reader} {left : List ByteArray}
    (halts : r.Halts deprecateEof left .suspended) : r.takeRows.2.Halts deprecateEof left .suspended :=
  halts.resumed

/-- Only a whole response describes a prepared statement. -/
theorem Reader.Gives.of_prepared {r : Reader} {statement : PreparedStatement}
    (gives : r.Gives command packets (.ok (.prepared statement)) current) : current = none := by
  cases gives with
  | whole => rfl

/-- The same packets give the same. -/
theorem Reader.Gives.unique {r : Reader} {result result' : Except ServerError Response}
    {current' : Option (Streaming × List ByteArray)}
    (h : r.Gives command packets result current) (h' : r.Gives command packets result' current') :
    result = result' ∧ current = current' := by
  cases h with
  | whole reads finished =>
    cases h' with
    | whole reads' finished' =>
      obtain ⟨rfl, -, -⟩ := reads.unique reads'
      exact ⟨Except.ok.inj (finished.symm.trans finished'), rfl⟩
    | paused reads' => cases (reads.unique reads').2.1
  | paused reads =>
    cases h' with
    | whole reads' => cases (reads.unique reads').2.1
    | paused reads' =>
      obtain ⟨rfl, -, rfl⟩ := reads.unique reads'
      exact ⟨rfl, rfl⟩

namespace Exchange

theorem verdict_none (result : Except ServerError Response) :
    verdict none result = result.mapError Error.server := by
  cases result <;> rfl

theorem finishResponse_of_ended {reader : Reader} (expects : reader.Expects .ended)
    (awaits : c.Awaits env format packets later) :
    Yields (finishResponse command reader) c fun given c' =>
      c'.Awaits env format packets later ∧ c'.streaming = c.streaming ∧ c'.unread = c.unread ∧
        ∃ result, reader.finish = .ok result ∧ given = result.mapError Error.server := by
  obtain ⟨result, finished⟩ := Reader.exists_finish expects
  have kept : ({ c.withContext (·.observe) with infileError := none } : Client).Awaits env format
      packets later := ⟨awaits.format, awaits.offers, rfl⟩
  unfold Yields finishResponse
  rw [finished]
  dsimp only
  rw [awaits.infile, verdict_none]
  cases result with
  | ok response => exact ⟨⟨kept.format, kept.offers, rfl⟩, rfl, rfl, _, rfl, rfl⟩
  | error e => exact ⟨⟨kept.format, kept.offers, rfl⟩, rfl, rfl, _, rfl, rfl⟩

/-- The response to a command is read, or its first part. -/
theorem readFor_of_amid (faultless : env.Faultless) {wire : Bytes}
    (completes : Completes format.deprecateEof (.first command.responseKind) packets)
    (onWire : Answer.OnWire env format.compressed mark packets wire)
    (amid : c.Amid env format none (wire ++ later)) :
    Yields (readFor env command mark options) c fun given c' =>
      c'.unread = c.unread ∧ ∃ result current,
        (Reader.new command format.deprecateEof options).Gives command packets result current ∧
          given = result.mapError Error.server ∧ c'.Amid env format current later := by
  obtain ⟨c₁, c₁_eq⟩ : ∃ c₁, c₁ = { c with channel := c.channel.restore mark } := ⟨_, rfl⟩
  have awaits₁ : c₁.Awaits env format packets later := c₁_eq ▸ amid.awaits.restore onWire
  have eof : c.ctx.deprecateEof = format.deprecateEof :=
    congrArg Format.deprecateEof amid.awaits.format
  obtain ⟨reader, stop, left, c₂, read, reads, halts, awaits₂⟩ := readUntil_of_awaits command
    faultless (Reader.expects_new command format.deprecateEof options) rfl completes awaits₁
  have undisturbed : Undisturbed c₁ c₂ := undisturbed_readUntil.result read
  have streaming : c₂.streaming = none := by
    rw [undisturbed.streaming, c₁_eq]
    exact amid.streaming
  have unread : c₂.unread = c.unread := by
    rw [undisturbed.unread, c₁_eq]
  rw [← eof, c₁_eq] at read
  cases stop with
  | suspended =>
    have suspended : readFor env command mark options c =
        .ok (suspend reader command c₂).1 (suspend reader command c₂).2 := by
      unfold readFor
      dsimp only
      rw [read]
    refine .of_ok suspended ⟨unread, _, _, .paused reads, rfl, rfl, ?_, ?_⟩
    · exact ⟨awaits₂.format, awaits₂.offers, awaits₂.infile⟩
    · rintro _ _ ⟨⟩
      exact halts.resumed
  | done =>
    obtain ⟨expects, rfl⟩ := halts
    have finished : readFor env command mark options c = finishResponse command reader c₂ := by
      unfold readFor
      dsimp only
      rw [read]
    refine .of_eq finished ((finishResponse_of_ended expects awaits₂).mono ?_)
    rintro given c' ⟨awaits', streaming', unread', result, finished, given_eq⟩
    exact ⟨unread'.trans unread, result, none, .whole reads finished, given_eq,
      .of_awaits awaits' (streaming'.trans streaming)⟩

end Exchange

end SqlWire
