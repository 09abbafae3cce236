import SqlWire.Proofs.Redo.OneByOne

/-!
# What another session receives

A failover sends the commands of the redo log again, without the failed command at its end, and then
the failed command. For a client that runs its commands one at a time the log is what was answered,
and at its end the failed command if it was sent. So the other session should receive what was
answered, and then the failed command. `resent_eq_iff` says when it does: whether the command at the
end of the log is the failed one is found out by comparing the two, and equal commands need not be
one command, nor is every command the same as itself.
-/

namespace SqlWire

open EStateM (Result)
open Net (Env World)

variable {env : Env} {command : Command} {mark : Mark} {options : StatementOptions} {c c' : Client}

/-! ## What was sent again -/

namespace Journal

/-- What an event adds to the commands that are sent again. -/
def goOnResending (commands : List Command) : Event → List Command
  | .replaying => []
  | .sent command => commands ++ [command]
  | _ => commands

/-- The commands that were sent since the last failover began to send commands again. -/
def resent (journal : Journal) : List Command := journal.foldl goOnResending []

theorem resent_append (journal news : Journal) :
    resent (journal ++ news) = news.foldl goOnResending journal.resent := List.foldl_append

theorem sent_append (journal news : Journal) : sent (journal ++ news) = journal.sent ++ news.sent :=
  List.filterMap_append

end Journal

/-- Whoever reads a response sends no commands. -/
theorem not_sent_of_answering {news : Journal} {finish : Option Error}
    (h : ∀ event ∈ news, Duty.answering.allows event finish) (commands : List Command) :
    news.sent = [] ∧ news.foldl Journal.goOnResending commands = commands := by
  induction news with
  | nil => exact ⟨rfl, rfl⟩
  | cons event news ih =>
    have rest := ih fun event mem => h event (.tail _ mem)
    cases event with
    | failed _ | answered _ _ | refused _ => exact rest
    | _ => exact nomatch h _ (.head _)

namespace Exchange

theorem resent_send (sent : send env command c = .ok mark c') :
    c'.journal.resent = c.journal.resent ++ [command] := by
  rw [(send_ok sent).journal, Journal.resent_append]
  rfl

theorem resent_replayCommand (h : replayCommand env command c = .ok () c') :
    c'.journal.resent = c.journal.resent ++ [command] := by
  obtain ⟨mark, c₁, sent, h⟩ := EStateM.ok_of_bind h
  cases read : readFor env command mark {} c₁ with
  | error e c₂ => cases (EStateM.bind_of_ok (EStateM.attempt_of_error read)).symm.trans h
  | ok response c₂ =>
    cases (EStateM.bind_of_ok (EStateM.attempt_of_ok read)).symm.trans h
    obtain ⟨news, accounted, allowed⟩ := notes_readFor.result read
    have journal : c'.journal = c₁.journal ++ news := accounted.journal
    rw [journal, Journal.resent_append, (not_sent_of_answering allowed _).2, resent_send sent]

theorem resent_replayCommands {commands : List Command}
    (h : commands.forM (replayCommand env) c = .ok () c') :
    c'.journal.resent = c.journal.resent ++ commands := by
  induction commands generalizing c with
  | nil =>
    cases h
    exact (List.append_nil _).symm
  | cons command commands ih =>
    obtain ⟨_, c₁, first, rest⟩ := EStateM.ok_of_bind h
    rw [ih rest, resent_replayCommand first, List.append_assoc]
    rfl

theorem resent_replayLog {log : Session.RedoLog} (h : replayLog env log command c = .ok () c') :
    c'.journal.resent = (replayed log command).filter (!isPrepare ·) := by
  obtain ⟨_, c₁, noted, h⟩ := EStateM.ok_of_bind h
  cases noted
  have begun : (c.note .replaying).journal.resent = [] := Journal.resent_append c.journal [.replaying]
  exact (resent_replayCommands h).trans (congrArg (· ++ _) begun)

theorem resent_failover (h : failover env command c = .ok () c') :
    c'.journal.resent = (replayed (c.ctx.redo.getD []) command).filter (!isPrepare ·) := by
  obtain ⟨_, _, looked, h⟩ := EStateM.ok_of_bind h
  cases looked
  obtain ⟨_, c₁, _, h⟩ := EStateM.ok_of_bind h
  obtain ⟨_, c₂, _, h⟩ := EStateM.ok_of_bind h
  obtain ⟨_, c₃, _, h⟩ := EStateM.ok_of_bind h
  exact resent_replayLog h

/-! ## Which commands are left out -/

theorem isPrepare_of_same {a b : Command} (h : a.same b = true) : isPrepare a = isPrepare b := by
  cases a <;> cases b <;> first | rfl | cases h

theorem same_of_isPrepare (h : isPrepare command = true) : command.same command = true := by
  cases command with
  | prepare sql => exact beq_self_eq_true sql
  | _ => cases h

/-- A command that was not sent is not in the log, but the one before it may be the same. -/
theorem filter_replayed_of_unsent (answered : List Command) :
    (replayed answered command).filter (!isPrepare ·) = answered.filter (!isPrepare ·) ↔
      isPrepare command = true ∨ answered.getLast?.any (·.same command) = false := by
  unfold replayed
  rcases List.eq_nil_or_concat answered with rfl | ⟨before, last, rfl⟩
  · simp
  · rw [List.concat_eq_append, List.getLast?_concat, Option.any_some]
    dsimp only
    cases same : last.same command with
    | true =>
      rw [if_pos rfl, List.dropLast_concat, List.filter_append, ← isPrepare_of_same same]
      cases prepares : isPrepare last <;> simp [prepares]
    | false =>
      rw [if_neg Bool.false_ne_true]
      exact iff_of_true rfl (.inr rfl)

/-- A command that was sent is at the end of the log, but need not be the same as itself. -/
theorem filter_replayed_of_sent (answered : List Command) :
    (replayed (answered ++ [command]) command).filter (!isPrepare ·) =
      answered.filter (!isPrepare ·) ↔ command.same command = true := by
  unfold replayed
  rw [List.getLast?_concat]
  dsimp only
  cases same : command.same command with
  | true =>
    rw [if_pos rfl, List.dropLast_concat]
    exact iff_of_true rfl rfl
  | false =>
    have sentAgain : isPrepare command = false := Bool.eq_false_iff.mpr fun prepares =>
      nomatch same.symm.trans (same_of_isPrepare prepares)
    rw [if_neg Bool.false_ne_true, List.filter_append, List.append_right_eq_self,
      List.filter_cons_of_pos (by rw [sentAgain]; rfl)]
    exact iff_of_false (List.cons_ne_nil _ _) Bool.false_ne_true

/-! ## Where a command loses the connection -/

/-- Whoever reads notes no commands. -/
theorem sent_of_noted {α : Type} {r : Result Error Client α} (h : Noted .answering c r) :
    r.state.journal.sent = c.journal.sent := by
  obtain ⟨news, accounted, allowed⟩ := h
  rw [accounted.journal, Journal.sent_append, (not_sent_of_answering allowed []).1, List.append_nil]

theorem finishResponse_ne_io {fault : IoFault} {reader : Reader} (clear : Clear c) :
    finishResponse command reader c ≠ .error (.io fault) c' := by
  intro failed
  have infile := clear.infile
  unfold finishResponse at failed
  split at failed
  · cases failed
  · dsimp only at failed
    split at failed
    · next verdict =>
      cases failed
      unfold Exchange.verdict at verdict
      split at verdict
      · next kept _ =>
        cases verdict
        rw [kept] at infile
        cases infile
      · cases verdict
      · cases verdict
    · cases failed

/-- The connection is lost before the response is complete. -/
theorem readFor_io {fault : IoFault} (h : InStep (some command) c)
    (failed : readFor env command mark options c = .error (.io fault) c') :
    InStep (some command) c' := by
  have restored : InStep (some command) { c with channel := c.channel.restore mark } :=
    ⟨h.clear, h.redo⟩
  unfold readFor at failed
  dsimp only at failed
  split at failed
  · next read =>
    cases failed
    exact restored.aside ((notes_readUntil.result read).mono Duty.reading_within)
      (keepsClear_readUntil.of_error read restored.clear)
  · cases failed
  · next read =>
    exact absurd failed (finishResponse_ne_io (keepsClear_readUntil.of_ok read restored.clear))

theorem sent_ne {α : Type} {duty : Duty} {r : Result Error Client α}
    (sent : send env command c = .ok mark c') (noted : Noted duty c' r) :
    r.state.journal.sent ≠ c.journal.sent := by
  obtain ⟨news, accounted, _⟩ := noted
  rw [accounted.journal, (send_ok sent).journal, Journal.sent_append, Journal.sent_append,
    List.append_assoc]
  intro eq
  cases List.append_right_eq_self.mp eq

/-- The command was not sent, or its response is not complete, or it has prepared a statement and
another one was to be closed in its place. -/
theorem executeOnce_io {fault : IoFault} (h : InStep none c)
    (lost : executeOnce env command options c = .error (.io fault) c') :
    c'.journal.sent = c.journal.sent ∧ InStep none c' ∨
      c'.journal.sent ≠ c.journal.sent ∧
        (InStep (some command) c' ∨ isPrepare command = true ∧ InStep none c') := by
  rcases EStateM.error_of_bind lost with failed | ⟨mark, c₁, sent, lost⟩
  · left
    exact ⟨sent_of_noted ((send_error failed).mono Duty.reading_within), inStep_send_error h failed⟩
  right
  have inStep : InStep (some command) c₁ := inStep_send_ok h sent
  rcases EStateM.error_of_bind lost with failed | ⟨response, c₂, read, failed⟩
  · exact ⟨sent_ne sent (notes_readFor.result failed), .inl (readFor_io inStep failed)⟩
  · have noted : Noted .aside c₂ _ := notes_complete.result failed
    have sentSince := sent_ne sent
      (((notes_readFor.result read).mono Duty.answering_exchange).andThen
        (noted.mono Duty.aside_exchange))
    refine ⟨sentSince, .inr ?_⟩
    cases response with
    | none | completions _ => cases failed
    | prepared statement =>
      have reading : Serves options.fetchSize (readFor env command mark options c₁) :=
        serves_readFor inStep
      rw [read] at reading
      rcases reading with (broken | rested) | ⟨_, _, _, impossible, _⟩
      · cases broken
      · refine ⟨isPrepare_of_prepared read, ?_⟩
        exact rested.aside noted (keepsClear_complete.of_error failed rested.clear)
      · cases impossible

/-- The runs of a command that fails over. -/
theorem execute_of_failover {c₀ c₁ c₂ : Client} {e : Error} (settled : settle env c = .ok () c₀)
    (lost : executeOnce env command options c₀ = .error e c₁)
    (taken : canReplay c₁ command e = true) (recovered : failover env command c₁ = .ok () c₂) :
    execute env command options c = executeOnce env command options c₂ := by
  have whole : noteStranded (failover env command) c₁ = .ok () c₂ := by
    unfold noteStranded
    rw [recovered]
  unfold execute
  rw [EStateM.bind_of_ok settled, EStateM.bind_of_ok (EStateM.attempt_of_error lost)]
  show (if canReplay c₁ command e then _ else _ : EStateM Error Client Response) c₁ = _
  rw [if_pos taken, EStateM.bind_of_ok whole]

end Exchange

open Exchange

/-- A command loses the connection and a failover succeeds. Then the command is run on the other
session, which has received by then what was answered since the transaction began, and the command
itself, exactly if
* the command was not sent, and what was answered last is not the same; or only the preparing of
  a statement was;
* the command was sent, and it is the same as itself. -/
theorem resent_eq_iff {fault : IoFault} {c₀ c₁ c₂ : Client} (h : OneByOne env c)
    (replay : env.opts.transactionReplay = true) (settled : settle env c = .ok () c₀)
    (lost : executeOnce env command options c₀ = .error (.io fault) c₁)
    (taken : canReplay c₁ command (.io fault) = true)
    (recovered : failover env command c₁ = .ok () c₂) :
    execute env command options c = executeOnce env command options c₂ ∧
      ∀ mark c₃, send env command c₂ = .ok mark c₃ →
        (c₃.journal.resent = c₁.journal.answered.filter (!isPrepare ·) ++ [command] ↔
          if c₁.journal.sent = c₀.journal.sent then
            isPrepare command = true ∨ c₁.journal.answered.getLast?.any (·.same command) = false
          else command.same command = true) := by
  have settling : Rests (settle env c) := rests_settle (h.between replay)
  rw [settled] at settling
  have before : InStep none c₀ := settling.resolve_left nofun
  refine ⟨execute_of_failover settled lost taken recovered, fun mark c₃ again => ?_⟩
  rw [resent_send again, List.append_left_inj, resent_failover recovered]
  rcases executeOnce_io before lost with ⟨unsent, inStep⟩ | ⟨sent, inStep | ⟨prepares, inStep⟩⟩
  · rw [if_pos unsent, inStep.redo]
    exact filter_replayed_of_unsent _
  · have redo : command.canRedo = true := by
      simp only [canReplay, Bool.and_eq_true] at taken
      exact taken.1.2
    rw [if_neg sent, inStep.redo, Journal.outstanding, Session.RedoLog.record, if_pos redo]
    exact filter_replayed_of_sent _
  · rw [if_neg sent, inStep.redo]
    exact iff_of_true ((filter_replayed_of_unsent _).mpr (.inl prepares)) (same_of_isPrepare prepares)

/-- A command with a parameter that is not a number. -/
def insertNotANumber : Command := .clientPrepared "INSERT ?" [.double ⟨0x7ff8000000000000⟩]

/-- A client in a transaction whose server is about to end the stream. Another one will answer. -/
def begunThenCut : Client :=
  (Client.timed none (execute replaying (.query "BEGIN") {})
    (.opened replaying (answeringInTurn [[true], [true, true, true]]))).state

/-- The client when the command has lost the connection. -/
def cutAtInsert : Client := (executeOnce replaying insertNotANumber {} begunThenCut).state

/-- The command is sent twice on the other session. -/
theorem resent_insertNotANumber : ∃ c₂ mark c₃,
    failover replaying insertNotANumber cutAtInsert = .ok () c₂ ∧
      send replaying insertNotANumber c₂ = .ok mark c₃ ∧
      c₃.journal.resent ≠
        cutAtInsert.journal.answered.filter (!isPrepare ·) ++ [insertNotANumber] := by
  have oneByOne : OneByOne replaying begunThenCut :=
    .executed none _ {} (.begun (.of_opened (by decide +kernel)) (clear_opened ..)
      (by decide +kernel)) (by decide +kernel)
  have clear : Clear begunThenCut :=
    ⟨Option.isNone_iff_eq_none.mp (by decide +kernel), List.isEmpty_iff.mp (by decide +kernel),
      by decide +kernel⟩
  obtain ⟨e, lost, isIo⟩ := EStateM.Result.exists_error (p := canReplay cutAtInsert insertNotANumber)
    (by decide +kernel : (executeOnce replaying insertNotANumber {} begunThenCut).error?.any
      (canReplay cutAtInsert insertNotANumber) = true)
  obtain ⟨_, recovered⟩ := EStateM.Result.exists_ok
    (by decide +kernel : (failover replaying insertNotANumber cutAtInsert).error?.isNone = true)
  obtain ⟨mark, again⟩ := EStateM.Result.exists_ok
    (by decide +kernel : (send replaying insertNotANumber
      (failover replaying insertNotANumber cutAtInsert).state).error?.isNone = true)
  refine ⟨_, mark, _, recovered, again, fun whole => ?_⟩
  cases e with
  | io fault =>
    have same := ((resent_eq_iff oneByOne rfl (settle_of_clear clear) lost isIo recovered).2
      mark _ again).mp whole
    rw [if_neg (by decide +kernel)] at same
    revert same
    decide +kernel
  | _ => cases isIo

end SqlWire
