import SqlWire.Proofs.Journal.Account
import SqlWire.Proofs.Journal.Reader

/-!
# What exchanges note

Each part of an exchange with the server, from one packet to a batch, keeps the account and does its
duty. Reading notes failures only, a command that was sent or answered is noted where the redo log
changes with it, and only a batch hides a failure that breaks the connection.
-/

namespace SqlWire

open EStateM (Result)
open Net (Env)

variable {α : Type} {env : Env} {command : Command} {mark : Mark} {options : StatementOptions}
  {c c' : Client} {e : Error}

theorem notes_fail (e : Error) : Notes .reading (Client.fail e : EStateM Error Client α) := fun _ =>
  .one (.failed e) rfl Option.map_id'.symm id

theorem notes_onLine (run : EStateM Error Line α) : Notes .reading (Client.onLine run) := by
  intro c
  unfold Client.onLine
  split
  · exact .still rfl rfl
  · exact (notes_fail _ _).from_same rfl rfl

theorem onLine_ok {run : EStateM Error Line α} {a : α} (h : Client.onLine run c = .ok a c') :
    ∃ line, run c.line = .ok a line ∧ c' = c.withLine line := by
  unfold Client.onLine at h
  split at h
  · next ran =>
    cases h
    exact ⟨_, ran, rfl⟩
  · cases h

theorem onLine_error {run : EStateM Error Line α} {e : Error}
    (h : Client.onLine run c = .error e c') : ∃ line, run c.line = .error e line := by
  unfold Client.onLine at h
  split at h
  · cases h
  · next ran =>
    cases h
    exact ⟨_, ran⟩

namespace Exchange

/-! ## Sending -/

theorem send_ok (h : send env command c = .ok mark c') : Accounted c [.sent command] c' := by
  unfold send at h
  dsimp only at h
  split at h
  · cases h
  · split at h
    · cases h
    · next written =>
      obtain ⟨line, -, rfl⟩ := onLine_ok written
      injection h with _ eq
      subst eq
      exact ⟨rfl, rfl⟩

theorem send_error (h : send env command c = .error e c') :
    Noted .reading c (.error e c' : Result Error Client Mark) := by
  unfold send at h
  dsimp only at h
  split at h
  · injection h with _ eq
    subst eq
    exact .still rfl rfl
  · split at h
    · next written =>
      injection h with eq eq'
      subst eq eq'
      have noted : Noted .reading _ _ := (notes_onLine _).result written
      exact noted.from_same rfl rfl
    · cases h

/-- What is noted of a command that was sent, under a duty that allows it. -/
theorem notes_send_of {kinds : Event → Bool} (sends : kinds (.sent command)) :
    Notes (.shown kinds Error.isBroken) (send env command) := by
  intro c
  cases eq : send env command c with
  | ok mark c' => exact ⟨_, send_ok eq, fun _ mem => List.mem_singleton.mp mem ▸ sends⟩
  | error e c' => exact (send_error eq).mono Duty.reading_within

theorem notes_send : Notes .exchange (send env command) := notes_send_of rfl

theorem notes_sendPayload {payload : ByteArray} : Notes .reading (sendPayload env payload) :=
  notes_onLine _

/-! ## Local files -/

theorem notes_sendChunks {content : ByteArray} {offset : Nat} :
    Notes .reading (sendChunks env content offset) := by
  fun_induction sendChunks env content offset with
  | case1 offset _ ih => exact .bind notes_sendPayload fun _ => ih
  | case2 => exact .pure _

theorem notes_noteInfileError : Notes .reading (noteInfileError e) :=
  .modify (fun _ => rfl) fun _ => rfl

theorem notes_sendFile {name : String} : Notes .reading (sendFile env name) := by
  have content : Notes .reading (sendContent env name) := by
    refine .bind notes_sendChunks fun _ => ?_
    split
    · exact .throw _
    · exact .pure _
  refine .attempt_bind content (fun result => ?_) fun e c => Notes.broken_of_throw
  split
  · exact .pure _
  · split
    · exact .throw _
    · exact notes_noteInfileError

theorem notes_answerFileRequest {name : String} :
    Notes .reading (answerFileRequest env command name) := by
  refine .bind .get fun c => ?_
  split
  · exact .bind notes_noteInfileError fun _ => notes_sendPayload
  · exact .bind notes_sendFile fun _ => notes_sendPayload

/-! ## Reading -/

/-- A reader's step keeps the redo log. -/
theorem redo_step {payload : ByteArray} {reader : Reader} {ctx : Session.Context}
    {result : Reader.Result} (h : Reader.step payload (reader, ctx) = result) :
    result.state.2.redo = ctx.redo := h ▸ (Reader.calm_step payload).redo

theorem notes_readUntil {reader : Reader} : Notes .reading (readUntil env command reader) := by
  intro c
  fun_induction readUntil env command reader c with
  | case1 => exact .still rfl rfl
  | case2 reader c _ e c₁ packet => exact ((notes_onLine _).result packet).recast
  | case3 reader c _ payload c₁ packet fault reader' ctx step =>
    exact ((notes_onLine _).result packet).andThen ((notes_fail _ _).from_same rfl (redo_step step))
  | case4 reader c _ payload c₁ packet reader' ctx step =>
    exact ((notes_onLine _).result packet).andThen (.still rfl (redo_step step))
  | case5 reader c _ payload c₁ packet name reader' ctx step e c₂ file =>
    have noted := notes_answerFileRequest.result file
    exact ((notes_onLine _).result packet).andThen (noted.recast.from_same rfl (redo_step step))
  | case6 reader c _ payload c₁ packet name reader' ctx step c₂ file ih =>
    have noted := (notes_answerFileRequest.result file).andThen ih
    exact ((notes_onLine _).result packet).andThen (noted.from_same rfl (redo_step step))
  | case7 reader c _ payload c₁ packet reader' ctx step ih
  | case8 reader c _ payload c₁ packet reader' ctx step ih =>
    exact ((notes_onLine _).result packet).andThen (ih.from_same rfl (redo_step step))

/-- Whether the response fails the command or not, it is noted, and the log shortened with it. -/
theorem finishResponse_of_finish {reader : Reader} {result : Except ServerError Response}
    (h : reader.finish = .ok result) :
    ∃ refusal : Journal, (∀ event ∈ refusal, ∃ e, event = .refused e) ∧
      Accounted c (refusal ++ [.answered command c.ctx.inTransaction])
        (finishResponse command reader c).state ∧
      (finishResponse command reader c).state.ctx.inTransaction = c.ctx.inTransaction := by
  unfold finishResponse
  rw [h]
  dsimp only
  split
  · next e _ =>
    refine ⟨[.refused e], fun event mem => ⟨e, List.mem_singleton.mp mem⟩, ⟨?_, rfl⟩, rfl⟩
    exact List.append_assoc ..
  · exact ⟨[], nofun, ⟨rfl, rfl⟩, rfl⟩

theorem notes_finishResponse {reader : Reader} :
    Notes .answering (finishResponse command reader) := by
  intro c
  cases h : reader.finish with
  | error fault =>
    unfold finishResponse
    rw [h]
    exact (notes_fail _ _).mono Duty.reading_within
  | ok result =>
    obtain ⟨refusal, refused, accounted, _⟩ := finishResponse_of_finish h
    refine ⟨_, accounted, fun event mem => ?_⟩
    rcases List.mem_append.mp mem with first | last
    · obtain ⟨e, rfl⟩ := refused event first
      rfl
    · exact List.mem_singleton.mp last ▸ rfl

theorem notes_readFor : Notes .answering (readFor env command mark options) := by
  intro c
  unfold readFor
  dsimp only
  split
  · next read =>
    exact .from_same ((notes_readUntil.result read).mono Duty.reading_within).recast rfl rfl
  · next read =>
    exact .from_same (((notes_readUntil.result read).mono Duty.reading_within).andThen
      (.still rfl rfl)) rfl rfl
  · next read =>
    exact .from_same (((notes_readUntil.result read).mono Duty.reading_within).andThen
      (notes_finishResponse _)) rfl rfl

/-! ## Commands -/

theorem notes_closeOnServer {ids : List UInt32} : Notes .aside (closeOnServer env ids) := by
  induction ids with
  | nil => exact .pure ()
  | cons id ids ih => exact .bind (notes_send_of rfl) fun _ => ih

theorem notes_complete {response : Response} : Notes .aside (complete env response) := by
  cases response with
  | prepared statement =>
    intro c
    dsimp only [complete]
    split
    · next closed =>
      have noted := notes_closeOnServer.result closed
      exact noted.recast.from_same rfl rfl
    · next closed =>
      have noted := notes_closeOnServer.result closed
      exact .from_same (noted.andThen (.still rfl rfl)) rfl rfl
  | none => exact .pure _
  | completions completions => exact .pure _

theorem notes_executeOnce : Notes .exchange (executeOnce env command options) :=
  .bind notes_send fun _ => .bind (notes_readFor.mono Duty.answering_exchange) fun _ =>
    notes_complete.mono Duty.aside_exchange

/-! ## Settling -/

theorem notes_tolerate {result : Except Error α} : Notes .exchange (tolerate result) := by
  unfold tolerate
  split
  · exact .pure _
  · split
    · exact .throw _
    · exact .pure _

/-- To tolerate a failure is not to hide that the connection is broken. -/
theorem broken_tolerate (broken : e.isBroken = true) :
    (tolerate (.error e : Except Error α) c).error?.any Error.isBroken :=
  Notes.broken_of_throw broken

theorem notes_settleStreaming : Notes .exchange (settleStreaming env) := by
  refine .bind .get fun c => ?_
  split
  · exact .pure _
  · refine .bind (.modify (fun _ => rfl) fun _ => rfl) fun _ => ?_
    refine .bind (notes_readUntil.mono Duty.reading_exchange) fun _ => ?_
    refine .attempt_bind (notes_finishResponse.mono Duty.answering_exchange)
      (fun _ => .bind notes_tolerate fun _ => .pure _) ?_
    exact fun e c broken => Notes.broken_bind (broken_tolerate broken)

theorem notes_releaseUnread {statement : PreparedStatement} :
    Notes .exchange (releaseUnread env statement) :=
  .bind .get fun _ => .bind (.modify (fun _ => rfl) fun _ => rfl) fun _ =>
    notes_closeOnServer.mono Duty.aside_exchange

theorem notes_dropResponse : Notes .exchange (dropResponse env command mark) := by
  refine .bind (.modify (fun _ => rfl) fun _ => rfl) fun _ => .bind .get fun c => ?_
  refine .bind (notes_readUntil.mono Duty.reading_exchange) fun _ => ?_
  refine .attempt_bind ?_ (fun _ => .bind notes_tolerate fun _ => ?_) ?_
  · exact .bind (notes_finishResponse.mono Duty.answering_exchange) fun _ =>
      notes_complete.mono Duty.aside_exchange
  · split
    · exact notes_releaseUnread
    · exact .pure _
  · exact fun e c broken => Notes.broken_bind (broken_tolerate broken)

theorem notes_settleUnread {unread : List (Command × Mark)} :
    Notes .exchange (settleUnread env unread) := by
  induction unread with
  | nil => exact .pure ()
  | cons sent rest ih =>
    exact .bind (.modify (fun _ => rfl) fun _ => rfl) fun _ => .bind notes_dropResponse fun _ => ih

theorem notes_settle : Notes .exchange (settle env) :=
  .bind notes_settleStreaming fun _ => .bind .get fun _ => notes_settleUnread

/-! ## Calls that stay on one session -/

theorem notes_sendOne : Notes .exchange (sendOne env command) := by
  refine .bind notes_settleStreaming fun _ => .bind notes_send fun _ => ?_
  split
  · exact .bind (.modify (fun _ => rfl) fun _ => rfl) fun _ => .pure _
  · exact .pure _

theorem notes_readResponse : Notes .exchange (readResponse env options) := by
  refine .bind notes_settleStreaming fun _ => .bind .get fun c => ?_
  split
  · exact .throw _
  · exact .bind (.modify (fun _ => rfl) fun _ => rfl) fun _ =>
      .bind (notes_readFor.mono Duty.answering_exchange) fun _ =>
        notes_complete.mono Duty.aside_exchange

theorem notes_readStreaming : Notes .exchange (readStreaming env) := by
  refine .bind .get fun c => ?_
  split
  · exact .throw _
  · refine .bind (.modify (fun _ => rfl) fun _ => rfl) fun _ => ?_
    refine .bind (notes_readUntil.mono Duty.reading_exchange) fun _ => ?_
    split
    · exact .bind (.modify (fun _ => rfl) fun _ => rfl) fun _ => .pure _
    · exact .bind (notes_finishResponse.mono Duty.answering_exchange) fun _ => .pure _

theorem notes_closeStatement {statement : PreparedStatement} :
    Notes .exchange (closeStatement env statement) := by
  refine .bind .get fun c => .bind (.modify (fun _ => rfl) fun _ => rfl) fun _ => ?_
  split
  · exact .pure _
  · exact .bind notes_settleStreaming fun _ => notes_closeOnServer.mono Duty.aside_exchange

theorem notes_askVersion : Notes .exchange (askVersion env) := by
  refine .attempt_bind notes_executeOnce (fun result => ?_) fun e c => Notes.broken_of_throw
  split
  · split
    · exact .throw _
    · exact .pure _
  · split
    · exact (notes_fail _).mono Duty.reading_exchange
    · exact .pure _

theorem notes_usesServerReset : Notes .exchange (usesServerReset env) := by
  unfold usesServerReset
  split
  · refine .bind (.bind .get fun c => ?_) fun _ => .pure _
    split
    · exact .pure _
    · exact .bind notes_askVersion fun _ =>
        .bind (.modify (fun _ => rfl) fun _ => rfl) fun _ => .pure _
  · exact .pure _

theorem notes_setTimeout {timeout : Option Nat} : Notes .exchange (setTimeout timeout) := by
  intro c
  unfold setTimeout
  split
  · exact (notes_fail _ _).mono Duty.reading_exchange
  · exact .still rfl rfl

end Exchange

end SqlWire
