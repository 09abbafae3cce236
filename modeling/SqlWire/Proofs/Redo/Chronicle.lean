import SqlWire.Proofs.Redo.Replay

/-!
# What became of the commands

A `Chronicle` is read off a journal: for each command that was answered, whether the server refused it
and under which database it ran, as far as that is set by commands. `transaction` has the commands of
the open transaction, and `replay` those that were answered since a failover began to send
commands again. A database is set by an accepted `initDb`, and a new session begins with its own.

`chronicle_executeOnce` and `chronicle_replayCommand` say what one command adds. A run that fails
`Tells` why: something was wrong with the connection, or the server refused a command.
-/

namespace SqlWire

open EStateM (Result)
open Net (Env)

variable {α β : Type} {env : Env} {command : Command} {mark : Mark} {options : StatementOptions}
  {c c' : Client} {e : Error}

namespace Journal

/-- A command that was answered. -/
structure Deed where
  command : Command
  refused : Bool
  /-- The current database when the command ran; `none` is the one that a session begins with. -/
  database : Option String

/-- The database that a command sets. -/
def setsDatabase? : Command → Option String
  | .initDb name => some name
  | _ => none

/-- The current database behind a command. -/
def Deed.next (deed : Deed) : Option String :=
  if deed.refused then deed.database else (setsDatabase? deed.command).or deed.database

/-- The command is for preparing a statement. -/
def Deed.prepares (deed : Deed) : Bool := Exchange.isPrepare deed.command

structure Chronicle where
  /-- The next answer is a refusal. -/
  refusing : Bool
  database : Option String
  /-- What was answered since the open transaction began and can be sent again. -/
  transaction : List Deed
  /-- What was answered since commands began to be sent again. -/
  replay : List Deed

namespace Chronicle

def start : Chronicle := ⟨false, none, [], []⟩

/-- A command is answered. -/
def answer (h : Chronicle) (command : Command) (inTransaction : Bool) : Chronicle :=
  let deed : Deed := ⟨command, h.refusing, h.database⟩
  { refusing := false
    database := deed.next
    transaction :=
      if inTransaction then if command.canRedo then h.transaction ++ [deed] else h.transaction
      else []
    replay := h.replay ++ [deed] }

/-- A command is sent, which was not refused yet. -/
def sent (h : Chronicle) : Chronicle := { h with refusing := false }

def after (h : Chronicle) : Event → Chronicle
  | .opened | .adopted => { h with database := none, transaction := [] }
  | .lost | .reset => { h with transaction := [] }
  | .replaying => { h with replay := [] }
  | .sent _ => h.sent
  | .refused _ => { h with refusing := true }
  | .answered command inTransaction => h.answer command inTransaction
  | .failed _ | .stranded _ => h

end Chronicle

def chronicle (journal : Journal) : Chronicle := journal.foldl Chronicle.after .start

theorem chronicle_append (journal news : Journal) :
    chronicle (journal ++ news) = news.foldl Chronicle.after journal.chronicle := List.foldl_append

/-- The commands of the open transaction are those that were answered in it. -/
theorem map_transaction (journal : Journal) :
    journal.chronicle.transaction.map Deed.command = journal.answered := by
  have run : ∀ (journal : Journal) {h : Chronicle} {log : Session.RedoLog},
      h.transaction.map Deed.command = log →
      (journal.foldl Chronicle.after h).transaction.map Deed.command =
        journal.foldl Session.RedoLog.afterAnswer log := by
    intro journal
    induction journal with
    | nil => exact fun same => same
    | cons event journal ih =>
      intro h log same
      refine ih ?_
      cases event with
      | opened | lost | adopted | reset => rfl
      | sent _ | refused _ | failed _ | replaying | stranded _ => exact same
      | answered command inTransaction =>
        cases inTransaction with
        | false => rfl
        | true =>
          unfold Session.RedoLog.afterAnswer Session.RedoLog.observe Session.RedoLog.record
          simp only [Chronicle.after, Chronicle.answer, if_true]
          split
          · rw [List.map_append, same]
            rfl
          · exact same
  exact run journal rfl

end Journal

open Journal (Chronicle Deed)

/-! ## Reading and sending -/

/-- Whoever reads a part of a response adds nothing. -/
theorem chronicle_of_reading {r : Result Error Client α} (h : Noted .reading c r) :
    r.state.journal.chronicle = c.journal.chronicle := by
  obtain ⟨news, accounted, allowed⟩ := h
  rw [accounted.journal, Journal.chronicle_append]
  exact Journal.foldl_of_reading (fun _ _ => rfl) allowed _

namespace Exchange

theorem chronicle_send (sent : send env command c = .ok mark c') :
    c'.journal.chronicle = c.journal.chronicle.sent := by
  rw [(send_ok sent).journal, Journal.chronicle_append]
  rfl

/-- A response that is complete. -/
theorem chronicle_finishResponse_ok {reader : Reader} {response : Response}
    (h : finishResponse command reader c = .ok response c') :
    c'.journal.chronicle = c.journal.chronicle.answer command c.ctx.inTransaction := by
  unfold finishResponse at h
  split at h
  · cases h
  · dsimp only at h
    split at h
    · cases h
    · cases h
      exact Journal.chronicle_append _ [_]

/-- A command whose whole response was read was answered. -/
theorem chronicle_readFor_ok {response : Response}
    (h : readFor env command mark {} c = .ok response c') :
    ∃ inTransaction,
      c'.journal.chronicle = c.journal.chronicle.answer command inTransaction := by
  unfold readFor at h
  dsimp only at h
  split at h
  · cases h
  · next read => cases stop_of_readUntil rfl read
  · next reader c₁ read =>
    have same : c₁.journal.chronicle = c.journal.chronicle :=
      chronicle_of_reading (notes_readUntil.result read)
    exact ⟨_, same ▸ chronicle_finishResponse_ok h⟩

/-- A command that was sent again was answered and accepted. -/
theorem chronicle_replayCommand (h : replayCommand env command c = .ok () c') :
    ∃ inTransaction,
      c'.journal.chronicle = c.journal.chronicle.sent.answer command inTransaction := by
  obtain ⟨mark, c₁, sent, h⟩ := EStateM.ok_of_bind h
  cases read : readFor env command mark {} c₁ with
  | error e c₂ => cases (EStateM.bind_of_ok (EStateM.attempt_of_error read)).symm.trans h
  | ok response c₂ =>
    cases (EStateM.bind_of_ok (EStateM.attempt_of_ok read)).symm.trans h
    obtain ⟨inTransaction, answered⟩ := chronicle_readFor_ok read
    exact ⟨inTransaction, chronicle_send sent ▸ answered⟩

/-- A command other than a prepare that has run was answered and accepted. -/
theorem chronicle_executeOnce {response : Response} (other : isPrepare command = false)
    (h : executeOnce env command {} c = .ok response c') :
    ∃ inTransaction,
      c'.journal.chronicle = c.journal.chronicle.sent.answer command inTransaction := by
  obtain ⟨mark, c₁, sent, h⟩ := EStateM.ok_of_bind h
  obtain ⟨response', c₂, read, h⟩ := EStateM.ok_of_bind h
  obtain ⟨inTransaction, answered⟩ := chronicle_readFor_ok read
  refine ⟨inTransaction, ?_⟩
  cases response' with
  | prepared statement => cases other.symm.trans (isPrepare_of_prepared read)
  | none | completions _ =>
    cases h
    exact chronicle_send sent ▸ answered

end Exchange

/-! ## Failures that are told -/

/-- Something was wrong with the connection. -/
def Event.isFailure : Event → Bool
  | .failed _ => true
  | _ => false

theorem isFailure_of_breaks (event : Event) (h : event.breaks) : event.isFailure := by
  cases event <;> first | rfl | cases h

/-- Something was wrong with the connection, or the server refused a command. -/
def Event.isSetback : Event → Bool
  | .failed _ | .refused _ => true
  | _ => false

/-- When the run fails, its journal tells of something like this. -/
def Tells (kind : Event → Bool) (run : EStateM Error Client α) : Prop :=
  ∀ ⦃c e c'⦄, run c = .error e c' → ∃ news, c'.journal = c.journal ++ news ∧ ∃ event ∈ news, kind event

namespace Tells

variable {kind kind' : Event → Bool} {duty : Duty} {run : EStateM Error Client α}

theorem mono (h : Tells kind run) (within : ∀ event, kind event → kind' event) : Tells kind' run := by
  intro c e c' failed
  obtain ⟨news, journal, event, mem, told⟩ := h failed
  exact ⟨news, journal, event, mem, within event told⟩

theorem pure (a : α) : Tells kind (Pure.pure a : EStateM Error Client α) := fun _ _ _ failed => by
  cases failed

theorem get : Tells kind (MonadState.get : EStateM Error Client Client) := fun _ _ _ failed => by
  cases failed

theorem modify (f : Client → Client) : Tells kind (modify f : EStateM Error Client PUnit) :=
  fun _ _ _ failed => by cases failed

theorem fail (e : Error) (told : kind (.failed e)) :
    Tells kind (Client.fail e : EStateM Error Client α) := by
  intro c e' c' failed
  cases failed
  exact ⟨[.failed e], rfl, _, .head _, told⟩

theorem onLine (run : EStateM Error Line α) : Tells Event.isFailure (Client.onLine run) := by
  intro c e c' failed
  unfold Client.onLine at failed
  split at failed
  · cases failed
  · next e₁ line _ =>
    have told : Tells Event.isFailure (Client.fail e₁ : EStateM Error Client α) := fail e₁ rfl
    have := told failed
    exact this

/-- What always breaks the connection tells of it. -/
theorem onLine_of_breaks {run : EStateM Error Line α} (h : Breaks run) :
    Tells Event.breaks (Client.onLine run) := by
  intro c e c' failed
  unfold Client.onLine at failed
  split at failed
  · cases failed
  · next e₁ line eq =>
    have told : Tells Event.breaks (Client.fail e₁ : EStateM Error Client α) := fail e₁ (h eq)
    have := told failed
    exact this

theorem bind {next : α → EStateM Error Client β} (notes : Notes duty run) (h : Tells kind run)
    (h' : ∀ a, Tells kind (next a)) : Tells kind (run >>= next) := by
  intro c e c' failed
  rcases EStateM.error_of_bind failed with first | ⟨a, c₁, ran, second⟩
  · exact h first
  · obtain ⟨news, accounted, _⟩ := notes.result ran
    obtain ⟨news', journal, event, mem, told⟩ := h' a second
    refine ⟨news ++ news', ?_, event, List.mem_append_right _ mem, told⟩
    rw [journal, show c₁.journal = _ from accounted.journal, List.append_assoc]

theorem forM {list : List β} {f : β → EStateM Error Client Unit} (notes : ∀ b, Notes duty (f b))
    (h : ∀ b ∈ list, Tells kind (f b)) : Tells kind (list.forM f) := by
  induction list with
  | nil => exact .pure ()
  | cons b list ih =>
    exact .bind (notes b) (h b (.head _)) fun _ => ih fun b mem => h b (.tail _ mem)

end Tells

namespace Exchange

theorem tells_sendPayload {payload : ByteArray} : Tells Event.breaks (sendPayload env payload) :=
  .onLine_of_breaks Line.breaks_writePacket

theorem tells_sendChunks {content : ByteArray} {offset : Nat} :
    Tells Event.breaks (sendChunks env content offset) := by
  fun_induction sendChunks env content offset with
  | case1 offset _ ih => exact .bind notes_sendPayload tells_sendPayload fun _ => ih
  | case2 => exact .pure _

/-- A file that cannot be read is reported later; only what goes wrong with the line fails. -/
theorem tells_sendFile {name : String} : Tells Event.breaks (sendFile env name) := by
  intro c e c' failed
  cases content : sendContent env name c with
  | ok _ c₁ => cases (EStateM.bind_of_ok (EStateM.attempt_of_ok content)).symm.trans failed
  | error e₁ c₁ =>
    have rest := (EStateM.bind_of_ok (EStateM.attempt_of_error content)).symm.trans failed
    dsimp only at rest
    split at rest
    · next broken =>
      cases rest
      rcases EStateM.error_of_bind content with chunks | ⟨_, c₂, _, unreadable⟩
      · exact tells_sendChunks chunks
      · cases fault : (env.files name).read.fault with
        | none =>
          simp only [fault] at unreadable
          cases unreadable
        | some fault =>
          simp only [fault] at unreadable
          cases unreadable
          cases broken
    · cases rest

theorem tells_answerFileRequest {name : String} :
    Tells Event.breaks (answerFileRequest env command name) := by
  have got : Notes .reading (MonadState.get : EStateM Error Client Client) := .get
  refine .bind got .get fun c => ?_
  split
  · exact .bind notes_noteInfileError (.modify _) fun _ => tells_sendPayload
  · exact .bind notes_sendFile tells_sendFile fun _ => tells_sendPayload

theorem tells_readUntil {reader : Reader} : Tells Event.breaks (readUntil env command reader) := by
  intro c e c' failed
  fun_induction readUntil env command reader c with
  | case1 | case4 => cases failed
  | case2 reader c _ e₁ c₁ packet =>
    cases failed
    exact Tells.onLine_of_breaks Line.breaks_readPacket packet
  | case3 reader c _ payload c₁ packet fault reader' ctx step =>
    obtain ⟨line, -, rfl⟩ := onLine_ok packet
    have told : Tells Event.breaks
        (Client.fail (.protocol fault) : EStateM Error Client (Reader × Stop)) := .fail _ rfl
    have told := told failed
    exact told
  | case5 reader c _ payload c₁ packet name reader' ctx step e₁ c₂ file =>
    obtain ⟨line, -, rfl⟩ := onLine_ok packet
    cases failed
    have told := tells_answerFileRequest file
    exact told
  | case6 reader c _ payload c₁ packet name reader' ctx step c₂ file ih =>
    obtain ⟨line, -, rfl⟩ := onLine_ok packet
    obtain ⟨news, accounted, _⟩ := notes_answerFileRequest.result file
    obtain ⟨news', journal, event, mem, told⟩ := ih failed
    refine ⟨news ++ news', ?_, event, List.mem_append_right _ mem, told⟩
    rw [journal, show c₂.journal = _ from accounted.journal]
    exact List.append_assoc ..
  | case7 reader c _ payload c₁ packet reader' ctx step ih
  | case8 reader c _ payload c₁ packet reader' ctx step ih =>
    obtain ⟨line, -, rfl⟩ := onLine_ok packet
    exact ih failed

/-- A response was not read to its end, or its end was that the command is refused. -/
theorem readFor_error (failed : readFor env command mark options c = .error e c') :
    ∃ news, c'.journal = c.journal ++ news ∧
      ((∃ event ∈ news, event.isFailure) ∨ (∃ e, .refused e ∈ news) ∧ ∃ inTransaction,
        c'.journal.chronicle =
          { c.journal.chronicle with refusing := true }.answer command inTransaction) := by
  unfold readFor at failed
  dsimp only at failed
  split at failed
  · next read =>
    cases failed
    obtain ⟨news, journal, told⟩ := tells_readUntil.mono isFailure_of_breaks read
    exact ⟨news, journal, .inl told⟩
  · cases failed
  · next reader c₁ read =>
    obtain ⟨news, accounted, _⟩ := notes_readUntil.result read
    have same : c₁.journal.chronicle = c.journal.chronicle :=
      chronicle_of_reading (notes_readUntil.result read)
    have journal : c₁.journal = c.journal ++ news := accounted.journal
    unfold finishResponse at failed
    split at failed
    · next fault _ =>
      cases failed
      refine ⟨news ++ [.failed (.protocol fault)], ?_, .inl ⟨.failed (.protocol fault), by simp, rfl⟩⟩
      rw [← List.append_assoc, ← journal]
      rfl
    · dsimp only at failed
      split at failed
      · cases failed
        refine ⟨news ++ [.refused e, .answered command c₁.ctx.inTransaction], ?_, .inr ⟨⟨e, by simp⟩,
          c₁.ctx.inTransaction, ?_⟩⟩
        · rw [← List.append_assoc, ← journal]
          exact List.append_assoc ..
        · rw [← same]
          exact (congrArg Journal.chronicle (List.append_assoc ..)).trans
            (Journal.chronicle_append c₁.journal [.refused e, .answered command _])
      · cases failed

theorem tells_readFor : Tells Event.isSetback (readFor env command mark options) := by
  intro c e c' failed
  obtain ⟨news, journal, ⟨event, mem, told⟩ | ⟨⟨e', mem⟩, _⟩⟩ := readFor_error failed
  · refine ⟨news, journal, event, mem, ?_⟩
    cases event <;> first | rfl | cases told
  · exact ⟨news, journal, .refused e', mem, rfl⟩

/-- What has bytes is sent unless something is wrong with the connection. -/
theorem failure_of_send {bytes : Bytes} (encoded : encode c.ctx command = .ok bytes)
    (failed : send env command c = .error e c') :
    ∃ news, c'.journal = c.journal ++ news ∧ ∃ event ∈ news, event.isFailure := by
  unfold send at failed
  dsimp only at failed
  split at failed
  · next refused => cases encoded.symm.trans refused
  · split at failed
    · next written =>
      cases failed
      have told := Tells.onLine _ written
      exact told
    · cases failed

/-- A command that cannot be put into bytes is not told of. -/
theorem tells_send (encodes : ∀ ctx, ∃ bytes, encode ctx command = .ok bytes) :
    Tells Event.isFailure (send env command) := fun c _ _ failed =>
  let ⟨_, encoded⟩ := encodes c.ctx
  failure_of_send encoded failed

end Exchange

end SqlWire
