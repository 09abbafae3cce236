import SqlWire.Proofs.Journal.Broken
import SqlWire.Proofs.Journal.Failover
import SqlWire.Proofs.Redo.Clear

/-!
# Clients in step

When each response is read to its end before the next command is sent, nothing is overtaken: between
two commands the redo log is exactly what was answered since the open transaction began, and while a
response is read it holds the command as well. `InStep` says so of a clear client. A run either leaves
a client in step behind or breaks the connection (`Rests`): a command that fails and leaves the
connection usable was answered or never sent, because reading fails for good. The same holds of what
a failover does on the new session.
-/

namespace SqlWire

open EStateM (Result)
open Net (Env)

variable {α β : Type} {env : Env} {command : Command} {mark : Mark} {options : StatementOptions}
  {c c' : Client}

/-! ## What was answered -/

/-- What an answer leaves of the commands of the open transaction. -/
def Session.RedoLog.afterAnswer (log : Session.RedoLog) : Event → Session.RedoLog
  | .answered command inTransaction => (log.record command).observe inTransaction
  | .opened | .lost | .adopted | .reset => []
  | .sent _ | .refused _ | .failed _ | .replaying | .stranded _ => log

/-- The commands that were answered since the open transaction began and can be sent again. A
session that takes the place of a lost one begins without any. -/
def Journal.answered (journal : Journal) : List Command :=
  journal.foldl Session.RedoLog.afterAnswer []

/-- The same, and behind them a command whose response is still to be read. -/
def Journal.outstanding (journal : Journal) : Option Command → List Command
  | none => journal.answered
  | some command => Session.RedoLog.record journal.answered command

theorem Journal.answered_append (journal news : Journal) :
    Journal.answered (journal ++ news) = news.foldl Session.RedoLog.afterAnswer journal.answered :=
  List.foldl_append

/-- What is sent aside changes neither the log nor what was answered. -/
theorem foldl_aside {news : Journal} {finish : Option Error}
    (h : ∀ event ∈ news, Duty.aside.allows event finish) (log : Session.RedoLog) :
    news.foldl Session.RedoLog.after log = log ∧
      news.foldl Session.RedoLog.afterAnswer log = log := by
  have one : ∀ event, Duty.aside.allows event finish →
      log.after event = log ∧ log.afterAnswer event = log := by
    intro event allowed
    cases event with
    | failed e => exact ⟨rfl, rfl⟩
    | sent command =>
      refine ⟨if_neg ?_, rfl⟩
      simpa [Duty.aside, Duty.shown, Event.isAside] using allowed
    | _ => exact nomatch allowed
  induction news with
  | nil => exact ⟨rfl, rfl⟩
  | cons event news ih =>
    obtain ⟨after, afterAnswer⟩ := one event (h event (.head _))
    rw [List.foldl_cons, List.foldl_cons, after, afterAnswer]
    exact ih fun event mem => h event (.tail _ mem)

/-- What a server refuses is answered all the same. -/
theorem foldl_refused {refusal : Journal} (h : ∀ event ∈ refusal, ∃ e, event = .refused e)
    (log : Session.RedoLog) :
    refusal.foldl Session.RedoLog.after log = log ∧
      refusal.foldl Session.RedoLog.afterAnswer log = log := by
  induction refusal with
  | nil => exact ⟨rfl, rfl⟩
  | cons event refusal ih =>
    obtain ⟨e, rfl⟩ := h event (.head _)
    exact ih fun event mem => h event (.tail _ mem)

/-- Nothing is held back, and the redo log is what was answered, with the command whose response is
to be read. -/
structure InStep (pending : Option Command) (c : Client) : Prop where
  clear : Clear c
  redo : c.ctx.redo = some (c.journal.outstanding pending)

/-- A result is given out in parts, and the client is in step apart from that. -/
def Paused (c : Client) : Prop :=
  ∃ s, c.streaming = some s ∧ InStep (some s.command) { c with streaming := none }

/-- What a client is between two calls: in step or paused. -/
def Between (c : Client) : Prop := InStep none c ∨ Paused c

variable {pending : Option Command} {r : Result Error Client α}

theorem InStep.aside (h : InStep pending c) (noted : Noted .aside c r)
    (clear : Clear r.state) : InStep pending r.state := by
  obtain ⟨news, accounted, allowed⟩ := noted
  have same : Journal.answered r.state.journal = c.journal.answered := by
    rw [accounted.journal, Journal.answered_append]
    exact (foldl_aside allowed _).2
  refine ⟨clear, ?_⟩
  rw [accounted.redo, h.redo, Option.map_some, (foldl_aside allowed _).1]
  unfold Journal.outstanding
  rw [same]

/-- A client that is still usable is in step. -/
def Rests (r : Result Error Client α) : Prop :=
  r.error?.any Error.isBroken = true ∨ InStep none r.state

/-- From a client in step, a run leaves one in step or breaks the connection. -/
def KeepsStep (run : EStateM Error Client α) : Prop := ∀ ⦃c⦄, InStep none c → Rests (run c)

theorem Rests.bind {run : EStateM Error Client α} {next : α → EStateM Error Client β}
    (h : Rests (run c)) (h' : ∀ a, KeepsStep (next a)) : Rests ((run >>= next) c) := by
  cases eq : run c with
  | ok a c₁ =>
    rw [eq] at h
    rw [EStateM.bind_of_ok eq]
    exact h' a (h.resolve_left nofun)
  | error e c₁ =>
    rw [eq] at h
    rw [EStateM.bind_of_error eq]
    exact h

/-- The client is in step, or a result is given out in parts. -/
def Serves (fetchSize : Nat) (r : Result Error Client Response) : Prop :=
  Rests r ∨ fetchSize ≠ 0 ∧ ∃ completions c, r = .ok (.completions completions) c ∧ Paused c

/-- The client can take the next call. -/
def Leaves (r : Result Error Client α) : Prop :=
  r.error?.any Error.isBroken = true ∨ Between r.state

theorem Rests.leaves (h : Rests r) : Leaves r := h.imp_right .inl

namespace KeepsStep

theorem pure (a : α) : KeepsStep (Pure.pure a) := fun _ h => .inr h

theorem modify {f : Client → Client} (clear : ∀ c, Clear c → Clear (f c))
    (redo : ∀ c, (f c).ctx.redo = c.ctx.redo)
    (answered : ∀ c, (f c).journal.answered = c.journal.answered) : KeepsStep (modify f) := by
  refine fun c h => .inr ⟨clear c h.clear, ?_⟩
  show (f c).ctx.redo = some (f c).journal.answered
  rw [redo, answered]
  exact h.redo

theorem bind {run : EStateM Error Client α} {next : α → EStateM Error Client β} (h : KeepsStep run)
    (h' : ∀ a, KeepsStep (next a)) : KeepsStep (run >>= next) := fun _ inStep => (h inStep).bind h'

theorem forM {list : List β} {f : β → EStateM Error Client Unit} (h : ∀ b, KeepsStep (f b)) :
    KeepsStep (list.forM f) := by
  induction list with
  | nil => exact .pure ()
  | cons b list ih => exact .bind (h b) fun _ => ih

end KeepsStep

namespace Exchange

/-! ## One command -/

theorem inStep_send_ok (h : InStep none c) (sent : send env command c = .ok mark c') :
    InStep (some command) c' := by
  have accounted := send_ok sent
  refine ⟨keepsClear_send.of_ok sent h.clear, ?_⟩
  rw [accounted.redo, accounted.journal, h.redo]
  simp only [Journal.outstanding, Journal.answered_append]
  rfl

theorem inStep_send_error {e : Error} (h : InStep none c)
    (failed : send env command c = .error e c') : InStep none c' :=
  h.aside ((send_error failed).mono Duty.reading_within) (keepsClear_send.of_error failed h.clear)

theorem inStep_readUntil {reader reader' : Reader} {stop : Stop} (h : InStep pending c)
    (read : readUntil env command reader c = .ok (reader', stop) c') : InStep pending c' :=
  h.aside ((notes_readUntil.result read).mono Duty.reading_within)
    (keepsClear_readUntil.of_ok read h.clear)

theorem rests_finishResponse {reader : Reader} (h : InStep (some command) c) :
    Rests (finishResponse command reader c) := by
  cases finish : reader.finish with
  | error fault =>
    left
    unfold finishResponse
    rw [finish]
    rfl
  | ok result =>
    right
    obtain ⟨refusal, refused, accounted, _⟩ := finishResponse_of_finish finish
    refine ⟨keepsClear_finishResponse h.clear, ?_⟩
    rw [accounted.redo, accounted.journal, h.redo]
    simp only [Journal.outstanding, Journal.answered_append, Option.map_some, List.foldl_append,
      foldl_refused refused]
    rfl

theorem serves_readFor (h : InStep (some command) c) :
    Serves options.fetchSize (readFor env command mark options c) := by
  have restored : InStep (some command) { c with channel := c.channel.restore mark } :=
    ⟨h.clear, h.redo⟩
  unfold readFor
  dsimp only
  split
  · next read => exact .inl (.inl (breaks_readUntil read))
  · next reader c₁ read =>
    have inStep := inStep_readUntil restored read
    have streams : options.fetchSize ≠ 0 := fun whole => nomatch stop_of_readUntil whole read
    have paused : InStep (some command) { c₁ with streaming := none } :=
      ⟨⟨rfl, inStep.clear.unread, inStep.clear.infile⟩, inStep.redo⟩
    exact .inr ⟨streams, _, _, rfl, _, rfl, paused⟩
  · next reader c₁ read => exact .inl (rests_finishResponse (inStep_readUntil restored read))

/-- Without a fetch size a response is read to its end. -/
theorem rests_readFor (h : InStep (some command) c) : Rests (readFor env command mark {} c) :=
  (serves_readFor h).resolve_right fun streams => streams.1 rfl

theorem clear_of_readFor {e : Error} (h : InStep (some command) c)
    (failed : readFor env command mark options c = .error e c') : Clear c' := by
  have restored : Clear { c with channel := c.channel.restore mark } :=
    h.clear
  unfold readFor at failed
  dsimp only at failed
  split at failed
  · next read =>
    cases failed
    exact keepsClear_readUntil.of_error read restored
  · cases failed
  · next read =>
    exact keepsClear_finishResponse.of_error failed (keepsClear_readUntil.of_ok read restored)

theorem inStep_complete {response : Response} (h : InStep none c) :
    InStep none (complete env response c).state :=
  h.aside (notes_complete c) (keepsClear_complete h.clear)

theorem serves_executeOnce (h : InStep none c) :
    Serves options.fetchSize (executeOnce env command options c) := by
  unfold executeOnce
  cases sent : send env command c with
  | error e c₁ =>
    rw [EStateM.bind_of_error sent]
    exact .inl (.inr (inStep_send_error h sent))
  | ok mark c₁ =>
    rw [EStateM.bind_of_ok sent]
    have reading : Serves options.fetchSize (readFor env command mark options c₁) :=
      serves_readFor (inStep_send_ok h sent)
    cases read : readFor env command mark options c₁ with
    | error e c₂ =>
      rw [EStateM.bind_of_error read]
      exact read ▸ reading
    | ok response c₂ =>
      rw [EStateM.bind_of_ok read]
      rw [read] at reading
      rcases reading with (broken | inStep) | ⟨streams, completions, c₃, eq, paused⟩
      · cases broken
      · exact .inl (.inr (inStep_complete inStep))
      · cases eq
        exact .inr ⟨streams, _, _, rfl, paused⟩

/-! ## Failing over -/

theorem keepsStep_executeOnce (whole : options.fetchSize = 0) :
    KeepsStep (executeOnce env command options) := fun _ h =>
  (serves_executeOnce h).resolve_right fun streams => streams.1 whole

theorem keepsStep_fail {e : Error} (broken : e.isBroken = true) :
    KeepsStep (Client.fail e : EStateM Error Client α) := fun _ _ => .inl broken

theorem keepsStep_setTimeout {timeout : Option Nat} : KeepsStep (setTimeout timeout) := by
  intro c h
  unfold setTimeout
  split
  · exact .inl rfl
  · exact .inr ⟨h.clear, h.redo⟩

theorem keepsStep_replayProperty {property : Session.Property} :
    KeepsStep (replayProperty env property) := by
  have record : KeepsStep (modify (·.withContext (·.recordProperty property))) :=
    .modify (fun _ h => h) (fun c => redo_recordProperty c.ctx property) fun _ => rfl
  unfold replayProperty
  split
  · exact .bind (keepsStep_executeOnce rfl) fun _ => record
  · exact record

/-- A command is sent, and what follows takes care of its response. -/
theorem keepsStep_send {next : Mark → EStateM Error Client β}
    (h : ∀ ⦃c⦄ mark, InStep (some command) c → Rests (next mark c)) :
    KeepsStep (send env command >>= next) := by
  intro c inStep
  cases sent : send env command c with
  | error e c₁ =>
    rw [EStateM.bind_of_error sent]
    exact .inr (inStep_send_error inStep sent)
  | ok mark c₁ =>
    rw [EStateM.bind_of_ok sent]
    exact h mark (inStep_send_ok inStep sent)

theorem keepsStep_prepareAgain {statement : PreparedStatement} :
    KeepsStep (prepareAgain env statement) := by
  refine keepsStep_send fun _ mark inStep => (rests_readFor inStep).bind fun response => ?_
  split
  · exact .modify (fun _ h => h) (fun _ => rfl) fun _ => rfl
  · exact keepsStep_fail rfl

theorem keepsStep_replayCommand : KeepsStep (replayCommand env command) := by
  refine keepsStep_send fun c mark inStep => ?_
  have reading : Rests (readFor env command mark {} c) := rests_readFor inStep
  cases read : readFor env command mark {} c with
  | error e c₁ =>
    rw [EStateM.bind_of_ok (EStateM.attempt_of_error read)]
    exact .inl rfl
  | ok response c₁ =>
    rw [read] at reading
    rw [EStateM.bind_of_ok (EStateM.attempt_of_ok read)]
    exact .inr (reading.resolve_left nofun)

theorem keepsStep_restoreSession {lost : Session.Context} :
    KeepsStep (restoreSession env lost) := by
  refine .bind keepsStep_setTimeout fun _ => ?_
  refine .bind (.forM fun _ => keepsStep_replayProperty) fun _ => ?_
  refine .bind (.modify (fun _ h => h) (fun _ => rfl) fun _ => rfl) fun _ => ?_
  exact .bind (fun _ h => .inr h) fun _ => .forM fun _ => keepsStep_prepareAgain

theorem keepsStep_replayLog {log : Session.RedoLog} : KeepsStep (replayLog env log command) := by
  refine .bind (.modify (fun _ h => h) (fun _ => rfl) fun c => ?_) fun _ =>
    .forM fun _ => keepsStep_replayCommand
  exact Journal.answered_append c.journal [.replaying]

/-- A client that has lost its session is in step when another one has taken its place. -/
theorem rests_reconnect (clear : Clear c) (redo : c.ctx.redo = some [])
    (answered : c.journal.answered = []) : Rests (reconnect env c) := by
  unfold reconnect
  split
  · exact .inr ⟨clear, redo.trans (congrArg some answered.symm)⟩
  · refine .inr ⟨clear, redo.trans (congrArg some ?_)⟩
    exact (Journal.answered_append _ [.adopted]).symm

theorem rests_failover (clear : Clear c) (redo : c.ctx.redo.isSome) :
    Rests (failover env command c) := by
  obtain ⟨log, redo⟩ := Option.isSome_iff_exists.mp redo
  have lost : (abandonSession c).ctx.redo = some [] := congrArg (Option.map fun _ => []) redo
  have answered : (abandonSession c).journal.answered = [] := Journal.answered_append _ [.lost]
  have opened : Rests (reconnect env (abandonSession c)) := rests_reconnect clear lost answered
  exact opened.bind fun _ => .bind keepsStep_restoreSession fun _ => keepsStep_replayLog

theorem rests_noteStranded {run : EStateM Error Client Unit} (h : Rests (run c)) :
    Rests (noteStranded run c) := by
  unfold noteStranded
  cases eq : run c with
  | ok a c₁ =>
    rw [eq] at h
    exact h
  | error e c₁ =>
    rw [eq] at h
    refine h.imp_right fun inStep => ⟨inStep.clear, inStep.redo.trans (congrArg some ?_)⟩
    exact (Journal.answered_append _ [.stranded e]).symm

/-- Behind a command that failed: its failure is taken up on another session or stays as it is. -/
theorem serves_recover {e : Error} (clear : Clear c)
    (h : Rests (.error e c : Result Error Client Response)) :
    Serves options.fetchSize (recover env command options e c) := by
  show Serves _ ((if canReplay c command e then _ else _ : EStateM Error Client Response) c)
  split
  · next replay =>
    have replaced : Rests (failover env command c) :=
      rests_failover clear (isSome_of_canReplay replay)
    have noted := rests_noteStranded replaced
    cases eq : noteStranded (failover env command) c with
    | error e c₁ =>
      rw [EStateM.bind_of_error eq]
      rw [eq] at noted
      exact .inl noted
    | ok _ c₁ =>
      rw [EStateM.bind_of_ok eq]
      rw [eq] at noted
      exact serves_executeOnce (noted.resolve_left nofun)
  · exact .inl h

/-- A command that fails holds nothing back. -/
theorem clear_of_executeOnce {e : Error} (h : InStep none c)
    (failed : executeOnce env command options c = .error e c') : Clear c' := by
  rcases EStateM.error_of_bind failed with sent | ⟨mark, c₁, sent, failed⟩
  · exact keepsClear_send.of_error sent h.clear
  have inStep := inStep_send_ok h sent
  rcases EStateM.error_of_bind failed with read | ⟨response, c₂, read, closed⟩
  · exact clear_of_readFor inStep read
  · have reading : Serves options.fetchSize (readFor env command mark options c₁) :=
      serves_readFor inStep
    rw [read] at reading
    rcases reading with (broken | inStep) | ⟨streams, completions, c₃, eq, paused⟩
    · cases broken
    · exact keepsClear_complete.of_error closed inStep.clear
    · cases eq
      cases closed

end Exchange

end SqlWire
