import Mathlib.Data.List.Forall2
import SqlWire.Proofs.Alignment.Conversation
import SqlWire.Proofs.Alignment.Told
import SqlWire.Proofs.Batch.Items
import SqlWire.Proofs.Redo.OneByOne

/-!
# The modes that a batch is escaped under

Literals are escaped under the mode that the client knows of when it encodes a command. One by one,
that is the mode which the responses to the commands in front have told (`Server.Heeds`). Sent ahead,
it is the mode at the start, whatever the server tells later. Against a server whose responses depend
on what it has received, the two strategies therefore send the same up to some item exactly if each
of the items up to there, encoded at the start, has heeded what the server tells
(`payloads_runBatch`).
-/

namespace SqlWire

open EStateM (Result)
open Net (Env)
open Answer (Completes OnWire)

/-- A server that answers a command with packets that depend on the payloads of the commands it has
received so far. -/
abbrev Server := List Bytes → List ByteArray

namespace Server

variable {server : Server} {ctx : Session.Context} {received : List Bytes} {status : Status}
  {items items' : List (Command × Bytes)}

/-- The status that the session has behind a command, where the payload of that is the last one. -/
def statusBehind (server : Server) (deprecateEof : Bool) (received : List Bytes) (command : Command) :
    Status → Status :=
  Answer.statusBehind deprecateEof (.first command.responseKind) (server received)

/-- Each command is encoded under the status that the session has behind the commands in front. -/
inductive Heeds (server : Server) (ctx : Session.Context) :
    List Bytes → Status → List (Command × Bytes) → Prop
  | nil {received : List Bytes} {status : Status} : Heeds server ctx received status []
  | cons {received : List Bytes} {status : Status} {command : Command} {payload : Bytes}
      {items : List (Command × Bytes)} :
      Exchange.encode { ctx with status } command = .ok payload →
      Heeds server ctx (received ++ [payload])
        (server.statusBehind ctx.deprecateEof (received ++ [payload]) command status) items →
      Heeds server ctx received status ((command, payload) :: items)

theorem Heeds.take (heeds : server.Heeds ctx received status items) (n : Nat) :
    server.Heeds ctx received status (items.take n) := by
  induction heeds generalizing n with
  | nil =>
    rw [List.take_nil]
    exact .nil
  | cons encoded _ ih =>
    cases n with
    | zero => exact .nil
    | succ n => exact .cons encoded (ih n)

/-- Of the session, only the statements play a role besides. -/
theorem Heeds.of_ctx (heeds : server.Heeds ctx received status items) (status' : Status)
    (warnings : UInt32) (redo : Option Session.RedoLog) :
    server.Heeds { ctx with status := status', warnings, redo } received status items := by
  induction heeds with
  | nil => exact .nil
  | @cons _ _ command _ _ encoded _ ih =>
    refine .cons ?_ ih
    rw [← encoded]
    cases command <;> rfl

/-- The commands determine their payloads. -/
theorem Heeds.unique (heeds : server.Heeds ctx received status items)
    (heeds' : server.Heeds ctx received status items')
    (same : items.map Prod.fst = items'.map Prod.fst) : items = items' := by
  induction heeds generalizing items' with
  | nil => exact (List.map_eq_nil_iff.mp same.symm).symm
  | cons encoded _ ih =>
    cases heeds' with
    | nil => cases same
    | cons encoded' heeds' =>
      rw [List.map_cons, List.map_cons, List.cons.injEq] at same
      obtain ⟨rfl, same⟩ := same
      cases encoded.symm.trans encoded'
      rw [ih heeds' same]

/-- What the server sends in response to these payloads of commands. -/
inductive Answers (env : Env) (format : Format) (server : Server) :
    List Bytes → List (Command × Bytes) → Bytes → Prop
  | nil {received : List Bytes} : Answers env format server received [] []
  | cons {received : List Bytes} {command : Command} {payload wire wires : Bytes}
      {items : List (Command × Bytes)} :
      Completes format.deprecateEof (.first command.responseKind) (server (received ++ [payload])) →
      OnWire env format.compressed (.behind format.compressed payload.length)
        (server (received ++ [payload])) wire →
      Answers env format server (received ++ [payload]) items wires →
      Answers env format server received ((command, payload) :: items) (wire ++ wires)

end Server

/-- Bytes were sent that bring these payloads to the server, one after the other. -/
def Client.Transmits (env : Env) (compressed : Bool) (payloads : List Bytes) (c c' : Client) : Prop :=
  ∃ chunks, List.Forall₂ (Packet.Brings env compressed) payloads chunks ∧
    c'.line.sent = c.line.sent ++ chunks.flatten

namespace Client.Transmits

variable {env : Env} {compressed : Bool} {payload bytes : Bytes} {payloads : List Bytes}
  {c c' c'' : Client}

theorem nil (untouched : c.line.Untouched c'.line) : Transmits env compressed [] c c' :=
  ⟨[], .nil, untouched.sent.trans (List.append_nil _).symm⟩

theorem cons (sent : c'.line.sent = c.line.sent ++ bytes)
    (brings : Packet.Brings env compressed payload bytes)
    (rest : Transmits env compressed payloads c' c'') :
    Transmits env compressed (payload :: payloads) c c'' := by
  obtain ⟨chunks, all, sent'⟩ := rest
  exact ⟨bytes :: chunks, .cons brings all, by rw [sent', sent, List.append_assoc]; rfl⟩

end Client.Transmits

namespace Exchange

open Batch (outcome failure?)

variable {env : Env} {format : Format} {server : Server} {options : StatementOptions}
  {command : Command} {payload wire later : Bytes} {packets : List ByteArray}
  {items : List (Command × Bytes)} {received : List Bytes} {ends : List (Except Error Response)}
  {c c' c₀ c₁ : Client}

/-- An item whose end is what the server gives or refuses is not the last one. -/
theorem Attempts.cons_of_yields {α : Type} {attempt : α → EStateM Error Client Response} {item : α}
    {items : List α} {post : Client → Prop} (attempts : Attempts attempt c (item :: items) ends c')
    (yields : Yields (attempt item) c fun given c₁ =>
      post c₁ ∧ ∃ result : Except ServerError Response, given = result.mapError Error.server) :
    ∃ result : Except ServerError Response, ∃ rest c₁,
      ends = result.mapError Error.server :: rest ∧ post c₁ ∧ Attempts attempt c₁ items rest c' := by
  cases attempts with
  | answered ran rest =>
    obtain ⟨known, result, given⟩ := yields.result ran
    exact ⟨result, _, _, congrArg (· :: _) given, known, rest⟩
  | failed ran _ rest =>
    obtain ⟨known, result, given⟩ := yields.failure ran
    exact ⟨result, _, _, congrArg (· :: _) given, known, rest⟩
  | broke ran broken =>
    obtain ⟨-, result, given⟩ := yields.failure ran
    cases result with
    | ok => cases given
    | error =>
      cases given
      cases broken

/-- A command that has bytes, and not too many, is sent. -/
theorem send_of_short (faultless : env.Faultless) (amid : c.Amid env format none later)
    (accepted : c.line.IsAccepted) (encoded : encode c.ctx command = .ok payload)
    (short : ∀ max ∈ c.ctx.maxAllowedPacket, payload.length < max) :
    ∃ redo bytes c', send env command c = .ok (.behind format.compressed payload.length) c' ∧
      c'.Amid env format none later ∧ c'.line.IsAccepted ∧ c'.ctx = { c.ctx with redo } ∧
      c'.line.sent = c.line.sent ++ bytes ∧
      Packet.Brings env format.compressed payload bytes := by
  have sending := send_of_awaits command faultless amid.awaits
  unfold Yields at sending
  cases sent : send env command c with
  | ok mark c' =>
    rw [sent] at sending
    obtain ⟨awaits, undisturbed, payload', encoded', rfl⟩ := sending
    cases encoded.symm.trans encoded'
    obtain ⟨accepted', bytes, adds, brings⟩ :=
      brings_of_send faultless amid.awaits accepted encoded sent
    have ctx : ∃ redo, c'.ctx = { c.ctx with redo } := by
      rw [send_of_bytes encoded] at sent
      split at sent
      · injection sent with _ left
        exact ⟨c.ctx.redo.map (·.record command), by rw [← left]; rfl⟩
      · cases sent
    obtain ⟨redo, ctx⟩ := ctx
    exact ⟨redo, bytes, c', rfl, .of_awaits awaits (undisturbed.streaming.trans amid.streaming),
      accepted', ctx, adds, brings⟩
  | error e c' =>
    rw [sent] at sending
    obtain ⟨-, -, refuses⟩ := sending
    rw [send_of_bytes encoded] at sent
    split at sent
    · cases sent
    · cases sent
      have refuses : c.ctx.Refuses command e := refuses
      unfold Session.Context.Refuses at refuses
      rw [encoded] at refuses
      obtain ⟨max, _, -, limit, reached⟩ := refuses
      exact absurd (short max limit) (Nat.not_lt.mpr reached)

/-! ## Sent ahead -/

/-- Commands that are sent ahead are all encoded under the status that the client has at the start. -/
theorem sends_of_short (faultless : env.Faultless) (amid : c.Amid env format none later)
    (accepted : c.line.IsAccepted) (encoded : ∀ item ∈ items, encode c.ctx item.1 = .ok item.2)
    (short : ∀ item ∈ items, ∀ max ∈ c.ctx.maxAllowedPacket, item.2.length < max)
    {sent : List (Command × Mark)} {unsent : Option Error}
    (sends : Sends env c (items.map Prod.fst) sent unsent c') :
    unsent = none ∧ sent = items.map (fun item => (item.1, .behind format.compressed item.2.length)) ∧
      c'.Amid env format none later ∧ (∃ redo, c'.ctx = { c.ctx with redo }) ∧
      c.Transmits env format.compressed (items.map Prod.snd) c' := by
  induction items generalizing c sent with
  | nil =>
    cases sends
    exact ⟨rfl, rfl, amid, ⟨_, rfl⟩, .nil (.refl _)⟩
  | cons item items ih =>
    obtain ⟨command, payload⟩ := item
    obtain ⟨redo, bytes, c₁, ran, amid₁, accepted₁, ctx₁, adds, brings⟩ :=
      send_of_short faultless amid accepted (encoded _ (.head _)) (short _ (.head _))
    cases sends with
    | stopped failed => cases failed.symm.trans ran
    | sent ran' rest =>
      cases ran'.symm.trans ran
      -- Only the redo log has changed, and no command has its bytes from there.
      have same (command : Command) : encode c₁.ctx command = encode c.ctx command := by
        rw [ctx₁]
        cases command <;> rfl
      obtain ⟨none, rfl, amid', ⟨redo', ctx'⟩, transmits⟩ := ih amid₁ accepted₁
        (fun item mem => (same _).trans (encoded item (.tail _ mem)))
        (by rw [ctx₁]; exact fun item mem => short item (.tail _ mem)) rest
      exact ⟨none, rfl, amid', ⟨redo', by rw [ctx', ctx₁]⟩, transmits.cons adds brings⟩

/-- The responses to commands that were sent ahead are read one after the other. -/
theorem attempts_of_answers (faultless : env.Faultless) (whole : options.fetchSize = 0)
    (ordinary : ∀ item ∈ items, isPrepare item.1 = false)
    (answers : server.Answers env format received items wire)
    (amid : c.Amid env format none (wire ++ later))
    (attempts : Attempts (receiveAhead env options) c
      (items.map fun item => (item.1, .behind format.compressed item.2.length)) ends c') :
    (∃ results : List (Except ServerError Response), results.length = items.length ∧
      ends = results.map (Except.mapError Error.server)) ∧ c.line.Untouched c'.line := by
  induction answers generalizing c ends with
  | nil =>
    cases attempts
    exact ⟨⟨[], rfl, rfl⟩, .refl _⟩
  | @cons _ command payload wire wires items completes onWire _ ih =>
    rw [List.append_assoc] at amid
    have received : Yields (receiveAhead env options (command, _)) c _ :=
      took_receive faultless whole (ordinary _ (.head _)) completes onWire amid
    have received : Yields (receiveAhead env options (command, _)) c fun given c₁ =>
        (c₁.Amid env format none (wires ++ later) ∧ c.line.Untouched c₁.line) ∧ _ :=
      received.mono fun _ _ ⟨amid₁, _, took, given⟩ => ⟨⟨amid₁, took.untouched⟩, given⟩
    obtain ⟨result, rest, c₁, rfl, ⟨amid₁, quiet⟩, attempts⟩ := attempts.cons_of_yields received
    obtain ⟨⟨results, length, rfl⟩, untouched⟩ :=
      ih (fun item mem => ordinary item (.tail _ mem)) amid₁ attempts
    exact ⟨⟨result :: results, congrArg (· + 1) length, rfl⟩, quiet.trans untouched⟩

/-! ## One by one -/

/-- A command is encoded under the status that the client has before it, and behind it the client has
the status that the response tells. -/
theorem executeOnce_of_short (options : StatementOptions) (faultless : env.Faultless)
    (whole : options.fetchSize = 0) (other : isPrepare command = false)
    (completes : Completes format.deprecateEof (.first command.responseKind) packets)
    (onWire : OnWire env format.compressed (.behind format.compressed payload.length) packets wire)
    (amid : c.Amid env format none (wire ++ later)) (accepted : c.line.IsAccepted)
    (encoded : encode c.ctx command = .ok payload)
    (short : ∀ max ∈ c.ctx.maxAllowedPacket, payload.length < max) :
    Yields (executeOnce env command options) c fun given c' =>
      (c'.Amid env format none later ∧ c'.line.IsAccepted ∧
        (∃ warnings redo, c'.ctx = { c.ctx with
          status := Answer.statusBehind format.deprecateEof (.first command.responseKind) packets
            c.ctx.status
          warnings, redo }) ∧
        ∃ bytes, c'.line.sent = c.line.sent ++ bytes ∧
          Packet.Brings env format.compressed payload bytes) ∧
        ∃ result : Except ServerError Response, given = result.mapError Error.server := by
  obtain ⟨redo, bytes, c₁, sent, amid₁, accepted₁, ctx₁, adds, brings⟩ :=
    send_of_short faultless amid accepted encoded short
  refine .of_eq (EStateM.bind_of_ok sent) ?_
  refine (took_receive faultless whole other completes onWire amid₁).mono ?_
  rintro given c' ⟨amid', undisturbed, took, given_eq⟩
  obtain ⟨status, warnings, redo, ctx'⟩ := undisturbed.ctx
  have told := took.status
  rw [ctx₁] at told ctx'
  have status_eq : c'.ctx.status = status := by rw [ctx']
  refine ⟨⟨amid', took.untouched.isAccepted accepted₁, ⟨warnings, redo, ?_⟩, bytes, ?_, brings⟩, given_eq⟩
  · rw [← told, status_eq]
    exact ctx'
  · rw [took.untouched.sent, adds]

/-- Commands that are run one by one are each encoded under the status that was told before. -/
theorem attempts_of_heeds (faultless : env.Faultless) (whole : options.fetchSize = 0)
    (ordinary : ∀ item ∈ items, isPrepare item.1 = false)
    (answers : server.Answers env format received items wire)
    (amid : c.Amid env format none (wire ++ later)) (accepted : c.line.IsAccepted)
    (short : ∀ item ∈ items, ∀ max ∈ c.ctx.maxAllowedPacket, item.2.length < max)
    (heeds : server.Heeds c.ctx received c.ctx.status items)
    (attempts : Attempts (executeOnce env · options) c (items.map Prod.fst) ends c') :
    (∃ results : List (Except ServerError Response), results.length = items.length ∧
      ends = results.map (Except.mapError Error.server)) ∧
      c.Transmits env format.compressed (items.map Prod.snd) c' := by
  induction answers generalizing c ends with
  | nil =>
    cases attempts
    exact ⟨⟨[], rfl, rfl⟩, .nil (.refl _)⟩
  | @cons received command payload wire wires items completes onWire _ ih =>
    rw [List.append_assoc] at amid
    obtain _ | ⟨encoded, heeds⟩ := heeds
    have ran := executeOnce_of_short options faultless whole (ordinary _ (.head _))
      completes onWire amid accepted encoded (short _ (.head _))
    obtain ⟨result, rest, c₁, rfl, ⟨amid₁, accepted₁, ⟨warnings, redo, ctx₁⟩, bytes, adds, brings⟩,
      attempts⟩ := attempts.cons_of_yields ran
    have heeds₁ : server.Heeds c₁.ctx (received ++ [payload]) c₁.ctx.status items := by
      have eof : c.ctx.deprecateEof = format.deprecateEof :=
        congrArg Format.deprecateEof amid.awaits.format
      rw [Server.statusBehind, eof] at heeds
      rw [ctx₁]
      exact heeds.of_ctx _ warnings redo
    obtain ⟨⟨results, length, rfl⟩, transmits⟩ :=
      ih (fun item mem => ordinary item (.tail _ mem)) amid₁ accepted₁
        (by rw [ctx₁]; exact fun item mem => short item (.tail _ mem)) heeds₁ attempts
    exact ⟨⟨result :: results, congrArg (· + 1) length, rfl⟩, transmits.cons adds brings⟩

/-! ## Both ways -/

/-- The client begins a batch once it is settled. The server answers these payloads of commands, and
they are not too large. -/
structure Faces (env : Env) (server : Server) (items : List (Command × Bytes)) (c₀ c : Client) :
    Prop where
  faultless : env.Faultless
  settled : settle env c₀ = .ok () c
  answers : ∃ wire later, server.Answers env c.format [] items wire ∧
    c.Amid env c.format none (wire ++ later)
  accepted : c.line.IsAccepted
  short : ∀ item ∈ items, ∀ max ∈ c.ctx.maxAllowedPacket, item.2.length < max
  ordinary : ∀ item ∈ items, isPrepare item.1 = false

/-- The batch runs to its end: each item has the end that the server gives it, and just these
payloads were sent. -/
def RunsThrough (env : Env) (options : StatementOptions) (items : List (Command × Bytes))
    (c₀ c : Client) : Prop :=
  ∃ (results : List (Except ServerError Response)) (completions : Array Completion) (c' : Client),
    results.length = items.length ∧
    runBatch env (items.map Prod.fst) options c₀ = conclude
      ⟨(results.map (outcome ∘ Except.mapError Error.server)).toArray, completions,
        results.findSome? (failure? ∘ Except.mapError Error.server)⟩ c' ∧
    c.Transmits env c.format.compressed (items.map Prod.snd) c'

theorem runsThrough_of_ahead (faces : Faces env server items c₀ c)
    (pipelined : strategy env c = .pipelined)
    (encoded : ∀ item ∈ items, encode c.ctx item.1 = .ok item.2) :
    RunsThrough env options items c₀ c := by
  obtain ⟨wire, later, answers, amid⟩ := faces.answers
  obtain ⟨ends, unsent, c', completions, proceeds, ran⟩ :=
    runBatch_proceeds (items.map Prod.fst) options faces.settled
  cases proceeds with
  | sequential sequential => cases pipelined.symm.trans sequential
  | pipelined _ sends attempts =>
    obtain ⟨rfl, rfl, amid₁, -, chunks, brings, sent⟩ :=
      sends_of_short faces.faultless amid faces.accepted encoded faces.short sends
    obtain ⟨⟨results, length, rfl⟩, untouched⟩ :=
      attempts_of_answers faces.faultless rfl faces.ordinary answers amid₁ attempts
    refine ⟨results, completions, c', length, ?_, chunks, brings, untouched.sent.trans sent⟩
    rw [ran, List.map_map, List.findSome?_map]
    rfl

theorem runsThrough_of_heeds (faces : Faces env server items c₀ c)
    (sequential : strategy env c = .sequential)
    (heeds : server.Heeds c.ctx [] c.ctx.status items) :
    RunsThrough env options items c₀ c := by
  obtain ⟨wire, later, answers, amid⟩ := faces.answers
  obtain ⟨ends, unsent, c', completions, proceeds, ran⟩ :=
    runBatch_proceeds (items.map Prod.fst) options faces.settled
  cases proceeds with
  | pipelined pipelined => cases sequential.symm.trans pipelined
  | sequential _ attempts =>
    obtain ⟨⟨results, length, rfl⟩, transmits⟩ := attempts_of_heeds faces.faultless rfl faces.ordinary
      answers amid faces.accepted faces.short heeds attempts
    refine ⟨results, completions, c', length, ?_, transmits⟩
    rw [ran, List.map_map, List.findSome?_map]
    rfl

/-- For a batch of commands and a server whose responses depend on what it has received:
* sent ahead, the batch sends each command as it is encoded at the start;
* one by one, it sends each command as it is encoded under the status that the responses to the
  commands in front have told;
* so up to any item the two send the same exactly if each command up to there, as it is encoded at the
  start, is also encoded under the status that the server has told in front of it. -/
theorem payloads_runBatch {env' : Env} {ahead turn : List (Command × Bytes)} {c₀' c' : Client}
    (options : StatementOptions) (same : ahead.map Prod.fst = turn.map Prod.fst)
    (faces : Faces env server ahead c₀ c) (pipelined : strategy env c = .pipelined)
    (encoded : ∀ item ∈ ahead, encode c.ctx item.1 = .ok item.2)
    (faces' : Faces env' server turn c₀' c') (sequential : strategy env' c' = .sequential)
    (session : c'.ctx = c.ctx) (heeds : server.Heeds c.ctx [] c.ctx.status turn) :
    RunsThrough env options ahead c₀ c ∧ RunsThrough env' options turn c₀' c' ∧
      ∀ n, ahead.take n = turn.take n ↔ server.Heeds c.ctx [] c.ctx.status (ahead.take n) := by
  refine ⟨runsThrough_of_ahead faces pipelined encoded,
    runsThrough_of_heeds faces' sequential (session ▸ heeds), fun n => ⟨fun eq => ?_, fun upTo => ?_⟩⟩
  · rw [eq]
    exact heeds.take n
  · refine upTo.unique (heeds.take n) ?_
    rw [List.map_take, List.map_take, same]

/-- A response that tells that backslashes are ordinary characters. -/
def literally : List ByteArray := [Bytes.toWire [0, 0, 0, 0, 2, 0, 0]]

/-- The client to which a server will answer two commands so. -/
def beforeEscapes : Client :=
  .opened attentive (.start [⟨(greetingPacket ++ okPacket 2 false ++ okPacket 1 false ++
    (Packet.framedAll 1 literally ++ Packet.framedAll 1 literally)).toWire, false⟩])

/-- Surroundings in which commands are not sent ahead. -/
def unhurried : Env := .quiet { host := "h", autocommit := none, disablePipeline := true }

/-- A command with its payload under this status. -/
def escapedUnder (status : Status) (command : Command) : Command × Bytes :=
  (command, (encode { beforeEscapes.ctx with status } command).toOption.getD [])

/-- A batch that sets the mode, and then has a literal with a backslash and a quote. -/
def escapes (status status' : Status) : List (Command × Bytes) :=
  [escapedUnder status (.query "SET sql_mode='NO_BACKSLASH_ESCAPES'"),
    escapedUnder status' (.clientPrepared "SELECT ?" [.text "\\' OR 1=1 -- "])]

theorem encode_of_toOption {ctx : Session.Context}
    (h : (encode ctx command).toOption = some payload) : encode ctx command = .ok payload := by
  cases encoded : encode ctx command with
  | ok => rw [encoded] at h; exact congrArg _ (Option.some_inj.mp h)
  | error => rw [encoded] at h; cases h

theorem faces_escapes {status status' : Status} (faultless : env.Faultless)
    (plain : ∀ item ∈ escapes status status',
      item.1.responseKind = .text ∧ Packet.following 0 item.2.length = 1) :
    Faces env (fun _ => literally) (escapes status status') beforeEscapes beforeEscapes := by
  obtain ⟨format, idle, known, unlimited⟩ : beforeEscapes.format = ⟨false, false⟩ ∧
      beforeEscapes.isIdle (Packet.framedAll 1 literally ++ Packet.framedAll 1 literally) = true ∧
      beforeEscapes.channel.link.any (·.id < beforeEscapes.world.links.size) = true ∧
      beforeEscapes.ctx.maxAllowedPacket = none := by decide +kernel
  have aligned : beforeEscapes.Aligned env _ .clear _ := Client.aligned_of_isIdle idle
  obtain ⟨inbound, left, streaming, unread, infile⟩ := Client.aligned_clear_iff.mp aligned
  have awaits : beforeEscapes.Awaits env beforeEscapes.format [] _ :=
    ⟨rfl, offers_nil.mpr ⟨inbound, left⟩, infile⟩
  have answered {item : Command × Bytes} (plain : item.1.responseKind = .text ∧
      Packet.following 0 item.2.length = 1) :
      Completes beforeEscapes.format.deprecateEof (.first item.1.responseKind) literally ∧
        OnWire env beforeEscapes.format.compressed
          (.behind beforeEscapes.format.compressed item.2.length) literally
          (Packet.framedAll 1 literally) := by
    rw [format, plain.1]
    refine ⟨Answer.completes_of_next (by decide +kernel), ?_⟩
    show _ = Packet.framedAll (Packet.following 0 item.2.length) literally
    rw [plain.2]
  obtain ⟨completes₁, onWire₁⟩ := answered (plain _ (.head _))
  obtain ⟨completes₂, onWire₂⟩ := answered (plain _ (.tail _ (.head _)))
  exact {
    faultless
    settled := settle_of_none streaming unread
    answers := ⟨_, [], .cons completes₁ onWire₁ (.cons completes₂ onWire₂ .nil), by
      rw [List.append_nil, List.append_nil]
      exact .of_awaits awaits streaming⟩
    accepted := by
      obtain ⟨link, held, known⟩ := (Option.any_eq_true ..).mp known
      exact ⟨link, held, of_decide_eq_true known⟩
    short := by
      rw [unlimited]
      exact fun _ _ => nofun
    ordinary := fun item mem => by
      obtain ⟨text, -⟩ := plain item mem
      unfold isPrepare
      split <;> simp_all [Command.responseKind] }

/-- Sent ahead, the literal has not heeded the mode: under the one that is then in force, it ends at
its quote. -/
theorem payloads_escapes :
    let start := beforeEscapes.ctx.status
    RunsThrough attentive {} (escapes start start) beforeEscapes beforeEscapes ∧
      RunsThrough unhurried {} (escapes start ⟨0x200⟩) beforeEscapes beforeEscapes ∧
      escapes start start ≠ escapes start ⟨0x200⟩ ∧
      ¬ Server.Heeds (fun _ => literally) beforeEscapes.ctx [] start (escapes start start) := by
  intro start
  obtain ⟨plain, plain', encoded, same, differ, pipelined, sequential⟩ :
      (∀ item ∈ escapes start start,
        item.1.responseKind = .text ∧ Packet.following 0 item.2.length = 1) ∧
      (∀ item ∈ escapes start ⟨0x200⟩,
        item.1.responseKind = .text ∧ Packet.following 0 item.2.length = 1) ∧
      (∀ item ∈ escapes start start, (encode beforeEscapes.ctx item.1).toOption = some item.2) ∧
      (escapes start start).map Prod.fst = (escapes start ⟨0x200⟩).map Prod.fst ∧
      escapes start start ≠ escapes start ⟨0x200⟩ ∧
      strategy attentive beforeEscapes = .pipelined ∧
      strategy unhurried beforeEscapes = .sequential := by decide +kernel
  have quiet (opts : Options) : (Env.quiet opts).Faultless := ⟨fun _ => rfl, fun _ => rfl⟩
  have ahead : Faces attentive (fun _ => literally) (escapes start start) beforeEscapes
      beforeEscapes := faces_escapes (quiet _) plain
  have turn : Faces unhurried (fun _ => literally) (escapes start ⟨0x200⟩) beforeEscapes
      beforeEscapes := faces_escapes (quiet _) plain'
  have heeds : Server.Heeds (fun _ => literally) beforeEscapes.ctx [] start
      (escapes start ⟨0x200⟩) :=
    .cons (encode_of_toOption (by decide +kernel))
      (.cons (encode_of_toOption (by decide +kernel)) .nil)
  obtain ⟨sentAhead, sentInTurn, agree⟩ := payloads_runBatch {} same ahead pipelined
    (fun item mem => encode_of_toOption (encoded item mem)) turn sequential rfl heeds
  exact ⟨sentAhead, sentInTurn, differ, fun heeds => differ ((agree 2).mpr heeds)⟩

end Exchange

end SqlWire
