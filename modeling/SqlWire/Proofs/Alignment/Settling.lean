import SqlWire.Exchange.Streaming
import SqlWire.Proofs.Alignment.Reading

/-!
# What stays aligned

A client that is in the midst of a response, or of none, may leave it, run a command and read the
responses to commands that were sent ahead. Each of these takes exactly the packets that are its own;
what fails besides is only a command that the client does not send.
-/

namespace SqlWire

open EStateM (Result)
open Net (Env)
open Answer (Completes)
open Exchange (Stop)

variable {α : Type} {env : Env} {format : Format} {packets : List ByteArray} {wire later : Bytes}
  {command : Command} {options : StatementOptions} {mark : Mark} {c c' : Client}
  {current : Option (Streaming × List ByteArray)}

/-- Nothing is awaited, and nothing but the closing of a statement has failed. -/
structure Client.Tidied (env : Env) (format : Format) (later : Bytes)
    (unread : List (Command × Mark)) (given : Except Error α) (c : Client) : Prop where
  amid : c.Amid env format none later
  unread : c.unread = unread
  unclosed : ∀ e, given = .error e → c.ctx.Unclosed e

/-- A response was read, as a whole or in part. A statement for which there was no room any more may
not have been closed. -/
inductive Session.Context.Received (ctx : Session.Context) (reader : Reader) (command : Command)
    (packets : List ByteArray) :
    Except Error Response → Option (Streaming × List ByteArray) → Prop where
  | given {result : Except ServerError Response} {current : Option (Streaming × List ByteArray)}
      (handle : UInt32) : reader.Gives command packets result current →
      Received ctx reader command packets ((result.map (·.withHandle handle)).mapError .server) current
  | unclosed {statement : PreparedStatement} {e : Error} :
      reader.Gives command packets (.ok (.prepared statement)) none → ctx.Unclosed e →
      Received ctx reader command packets (.error e) none

/-- The size of the command if the client sends it. -/
def Client.asks (env : Env) (command : Command) (c : Client) : Option Nat :=
  match Exchange.send env command c with
  | .ok _ _ => (Exchange.encode c.ctx command).toOption.map List.length
  | .error _ _ => none

/-- The server answers a command of this size if it gets it, and else it sends nothing. -/
def Answer.Answers (env : Env) (format : Format) (command : Command) (size? : Option Nat)
    (packets : List ByteArray) (wire : Bytes) : Prop :=
  match size? with
  | some size => Completes format.deprecateEof (.first command.responseKind) packets ∧
      Answer.OnWire env format.compressed (.behind format.compressed size) packets wire
  | none => packets = [] ∧ wire = []

namespace Exchange

/-! ## Commands without a response -/

theorem closeOnServer_of_amid (faultless : env.Faultless) (ids : List UInt32)
    (amid : c.Amid env format none later) :
    Yields (closeOnServer env ids) c (Client.Tidied env format later c.unread) := by
  induction ids generalizing c with
  | nil => exact .pure ⟨amid, rfl, nofun⟩
  | cons id ids ih =>
    refine .bind (send_of_awaits _ faultless amid.awaits) ?_ ?_
    · rintro mark c₁ ⟨awaits, undisturbed, -⟩
      rw [← undisturbed.unread]
      exact ih (.of_awaits awaits (undisturbed.streaming.trans amid.streaming))
    · rintro e c₁ ⟨awaits, undisturbed, refuses⟩
      refine ⟨.of_awaits awaits (undisturbed.streaming.trans amid.streaming), undisturbed.unread, ?_⟩
      rintro _ ⟨⟩
      exact ⟨id, refuses⟩

/-- Statements for which there is no room any more are closed. -/
theorem complete_of_amid (faultless : env.Faultless) {response : Response}
    (whole : ∀ statement, response = .prepared statement → current = none)
    (amid : c.Amid env format current later) :
    Yields (complete env response) c fun given c' => c'.unread = c.unread ∧
      c'.Amid env format current later ∧
        ((∃ handle, given = .ok (response.withHandle handle)) ∨
          ∃ statement e, response = .prepared statement ∧ given = .error e ∧ c'.ctx.Unclosed e) := by
  cases response with
  | none | completions cs => exact .pure ⟨rfl, amid, .inl ⟨0, rfl⟩⟩
  | prepared statement =>
    obtain rfl := whole statement rfl
    obtain ⟨kept, evicted, statements, inserted⟩ :
        ∃ kept evicted statements, c.ctx.statements.insert statement = (kept, evicted, statements) :=
      ⟨_, _, _, rfl⟩
    have kept_eq : kept = { statement with handle := c.ctx.statements.nextHandle } := by
      have first : (c.ctx.statements.insert statement).1 = kept := congrArg Prod.fst inserted
      rw [← first]
      unfold StatementCache.insert
      dsimp only
      split <;> rfl
    have shown : (c.withContext ({ · with statements })).Amid env format none later :=
      amid.of_same rfl rfl rfl rfl amid.awaits.infile
    have closed := closeOnServer_of_amid faultless evicted shown
    unfold Yields at closed
    unfold Yields complete
    dsimp only
    rw [inserted]
    dsimp only
    split at closed
    · next eq =>
      rw [eq]
      exact ⟨closed.unread, closed.amid, .inl ⟨_, by rw [kept_eq]; rfl⟩⟩
    · next e _ eq =>
      rw [eq]
      exact ⟨closed.unread, closed.amid, .inr ⟨_, e, rfl, rfl, closed.unclosed e rfl⟩⟩

/-! ## Commands and their responses -/

/-- The response to a command is read and taken into the client. -/
theorem receive_of_amid (faultless : env.Faultless)
    (completes : Completes format.deprecateEof (.first command.responseKind) packets)
    (onWire : Answer.OnWire env format.compressed mark packets wire)
    (amid : c.Amid env format none (wire ++ later)) :
    Yields (readFor env command mark options >>= complete env) c fun given c' =>
      c'.unread = c.unread ∧ ∃ current, c'.Amid env format current later ∧
        c'.ctx.Received (.new command format.deprecateEof options) command packets given current := by
  refine .bind (readFor_of_amid faultless completes onWire amid) ?_ ?_
  · rintro response c₁ ⟨unread, result, current, gives, given, amid₁⟩
    cases result with
    | error e => cases given
    | ok response' =>
      cases given
      have whole (statement : PreparedStatement) (eq : response = .prepared statement) :
          current = none := (eq ▸ gives).of_prepared
      refine (complete_of_amid faultless whole amid₁).mono ?_
      rintro given c' ⟨unread', amid', ⟨handle, rfl⟩ | ⟨statement, e, rfl, rfl, unclosed⟩⟩
      · exact ⟨unread'.trans unread, current, amid', .given handle gives⟩
      · obtain rfl := gives.of_prepared
        exact ⟨unread'.trans unread, none, amid', .unclosed gives unclosed⟩
  · rintro e c₁ ⟨unread, result, current, gives, given, amid₁⟩
    cases result with
    | ok response => cases given
    | error e' =>
      cases given
      exact ⟨unread, current, amid₁, .given 0 gives⟩

/-- A command is sent, and the server then sends the response to it, or it is refused by the client. -/
theorem send_of_answers (faultless : env.Faultless)
    (answers : Answer.Answers env format command (c.asks env command) packets wire)
    (amid : c.Amid env format none later) :
    Yields (send env command) c fun given c' =>
      c'.Amid env format none later ∧ c'.unread = c.unread ∧ match given with
        | .ok mark => Completes format.deprecateEof (.first command.responseKind) packets ∧
            Answer.OnWire env format.compressed mark packets wire
        | .error e => c'.ctx.Refuses command e ∧ wire = [] := by
  have sending := send_of_awaits command faultless amid.awaits
  unfold Yields at sending
  unfold Client.asks at answers
  cases sent : send env command c with
  | ok mark c₁ =>
    rw [sent] at sending answers
    obtain ⟨awaits, undisturbed, bytes, encoded, rfl⟩ := sending
    rw [encoded] at answers
    have amid₁ := Client.Amid.of_awaits awaits (undisturbed.streaming.trans amid.streaming)
    exact .of_ok sent ⟨amid₁, undisturbed.unread, answers⟩
  | error e c₁ =>
    rw [sent] at sending answers
    obtain ⟨awaits, undisturbed, refuses⟩ := sending
    have amid₁ := Client.Amid.of_awaits awaits (undisturbed.streaming.trans amid.streaming)
    exact .of_error sent ⟨amid₁, undisturbed.unread, refuses, answers.2⟩

/-- A command is refused by the client, or the response to it is read. -/
theorem executeOnce_of_amid (options : StatementOptions) (faultless : env.Faultless)
    (answers : Answer.Answers env format command (c.asks env command) packets wire)
    (amid : c.Amid env format none (wire ++ later)) :
    Yields (executeOnce env command options) c fun given c' =>
      c'.unread = c.unread ∧ ∃ current, c'.Amid env format current later ∧
        (c'.ctx.Received (.new command format.deprecateEof options) command packets given current ∨
          current = none ∧ ∃ e, given = .error e ∧ c'.ctx.Refuses command e) := by
  refine .bind (send_of_answers faultless answers amid) ?_ ?_
  · rintro mark c₁ ⟨amid₁, unread₁, completes, onWire⟩
    refine (receive_of_amid faultless completes onWire amid₁).mono ?_
    rintro given c' ⟨unread, current, amid', received⟩
    exact ⟨unread.trans unread₁, current, amid', .inl received⟩
  · rintro e c₁ ⟨amid₁, unread₁, refuses, rfl⟩
    exact ⟨unread₁, none, amid₁, .inr ⟨rfl, e, rfl, refuses⟩⟩

/-! ## What nobody reads -/

/-- An error of the server does not break a connection. -/
theorem tolerate_mapError (result : Except ServerError α) :
    tolerate (result.mapError Error.server) c = .ok result.toOption c := by
  cases result <;> rfl

/-- The rest of a response that was given out in parts is dropped. -/
theorem settleStreaming_of_amid (faultless : env.Faultless) (amid : c.Amid env format current later) :
    ∃ c', settleStreaming env c = .ok () c' ∧ c'.Amid env format none later ∧ c'.unread = c.unread := by
  suffices Yields (settleStreaming env) c fun given c' =>
      given = .ok () ∧ c'.Amid env format none later ∧ c'.unread = c.unread by
    unfold Yields at this
    split at this
    · next eq => exact ⟨_, eq, this.2⟩
    · cases this.1
  refine .get_bind ?_
  rw [amid.streaming]
  cases current with
  | none => exact .pure ⟨rfl, amid, rfl⟩
  | some current =>
    obtain ⟨⟨reader, command⟩, packets⟩ := current
    obtain ⟨expects, eof, completes⟩ := amid.rows _ _ rfl
    have awaits : ({ c with streaming := none } : Client).Awaits env format packets later :=
      ⟨amid.awaits.format, amid.awaits.offers, amid.awaits.infile⟩
    obtain ⟨reader', stop, left, c₁, read, reads, halts, awaits₁⟩ := readUntil_of_awaits
      command faultless expects.discard eof completes awaits
    obtain rfl := reads.stop_eq_done rfl
    obtain ⟨ended, rfl⟩ := halts
    have undisturbed : Undisturbed { c with streaming := none } c₁ := undisturbed_readUntil.result read
    refine .modify_bind (.of_eq (EStateM.bind_of_ok read) ?_)
    refine .attempt_bind (finishResponse_of_ended ended awaits₁) ?_
    rintro _ c₂ ⟨awaits₂, streaming, unread, result, -, rfl⟩
    refine .of_eq (EStateM.bind_of_ok (tolerate_mapError result)) (.pure ⟨rfl, ?_, ?_⟩)
    · exact .of_awaits awaits₂ (streaming.trans undisturbed.streaming)
    · exact unread.trans undisturbed.unread

/-- A statement that nobody asked for is given back. -/
theorem releaseUnread_of_amid (faultless : env.Faultless) (statement : PreparedStatement)
    (amid : c.Amid env format none later) :
    Yields (releaseUnread env statement) c (Client.Tidied env format later c.unread) := by
  refine .get_bind (.modify_bind ?_)
  exact closeOnServer_of_amid faultless _ (amid.of_same rfl rfl rfl rfl amid.awaits.infile)

/-- A response that was read to its end is taken in, or it is an error. -/
theorem complete_of_ended (faultless : env.Faultless) {reader : Reader} (ended : reader.Expects .ended)
    (awaits : c.Awaits env format [] later) (streaming : c.streaming = none) :
    Yields (finishResponse command reader >>= complete env) c fun given c' =>
      c'.Amid env format none later ∧ c'.unread = c.unread ∧
        ((∃ result : Except ServerError Response, given = result.mapError Error.server) ∨
          ∃ e, given = .error e ∧ c'.ctx.Unclosed e) := by
  refine .bind (finishResponse_of_ended ended awaits) ?_ ?_
  · rintro response c₁ ⟨awaits₁, streaming₁, unread₁, -⟩
    have amid₁ := Client.Amid.of_awaits awaits₁ (streaming₁.trans streaming)
    refine (complete_of_amid faultless (fun _ _ => rfl) amid₁).mono ?_
    rintro _ c' ⟨unread', amid', ⟨handle, rfl⟩ | ⟨_, e, -, given, unclosed⟩⟩
    · exact ⟨amid', unread'.trans unread₁, .inl ⟨.ok _, rfl⟩⟩
    · exact ⟨amid', unread'.trans unread₁, .inr ⟨e, given, unclosed⟩⟩
  · rintro e c₁ ⟨awaits₁, streaming₁, unread₁, result, -, given⟩
    have amid₁ := Client.Amid.of_awaits awaits₁ (streaming₁.trans streaming)
    cases result with
    | ok response => cases given
    | error e' =>
      cases given
      exact ⟨amid₁, unread₁, .inl ⟨.error e', rfl⟩⟩

/-- A response that nobody reads is dropped. -/
theorem dropResponse_of_amid (faultless : env.Faultless)
    (completes : Completes format.deprecateEof (.first command.responseKind) packets)
    (onWire : Answer.OnWire env format.compressed mark packets wire)
    (amid : c.Amid env format none (wire ++ later)) :
    Yields (dropResponse env command mark) c (Client.Tidied env format later c.unread) := by
  have awaits := amid.awaits.restore onWire
  have eof : c.ctx.deprecateEof = format.deprecateEof :=
    congrArg Format.deprecateEof amid.awaits.format
  obtain ⟨reader, stop, left, c₁, read, reads, halts, awaits₁⟩ := readUntil_of_awaits command
    faultless (Reader.expects_new command c.ctx.deprecateEof {}).discard eof completes awaits
  obtain rfl := reads.stop_eq_done rfl
  obtain ⟨ended, rfl⟩ := halts
  have undisturbed : Undisturbed { c with channel := c.channel.restore mark } c₁ :=
    undisturbed_readUntil.result read
  have streaming := undisturbed.streaming.trans amid.streaming
  refine .modify_bind (.get_bind (.of_eq (EStateM.bind_of_ok read) ?_))
  refine .attempt_bind (complete_of_ended faultless ended awaits₁ streaming) ?_
  rintro _ c₂ ⟨amid₂, unread, ⟨result, rfl⟩ | ⟨e, rfl, unclosed⟩⟩
  all_goals have unread := unread.trans undisturbed.unread
  · refine .of_eq (EStateM.bind_of_ok (tolerate_mapError result)) ?_
    rw [← unread]
    split
    · exact releaseUnread_of_amid faultless _ amid₂
    · exact .pure ⟨amid₂, rfl, nofun⟩
  · by_cases broken : e.isBroken = true
    · have thrown : tolerate (.error e : Except Error Response) c₂ = .error e c₂ := by
        rw [tolerate, if_pos broken]
        rfl
      refine .of_error (EStateM.bind_of_error thrown) ⟨amid₂, unread, ?_⟩
      rintro _ ⟨⟩
      exact unclosed
    · have dropped : tolerate (.error e : Except Error Response) c₂ = .ok none c₂ := by
        rw [tolerate, if_neg broken]
        rfl
      exact .of_eq (EStateM.bind_of_ok dropped) (.pure ⟨amid₂, unread, nofun⟩)

end Exchange

end SqlWire
