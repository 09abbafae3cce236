import SqlWire.Proofs.Call

/-!
# What the redo log holds

The commands of the open transaction are those that the server was asked since it last answered that
no transaction is open. `Tally` reads them off a journal, taking the answers to come in the order of
the commands. The redo log is meant to be the same list. It is filled when commands are sent and
emptied when answers are read, so a command that is sent ahead may be dropped by the answer to an
earlier one: these are the `overtaken` commands, and `redo_eq_iff` says that nothing else is missing.
-/

namespace SqlWire

open EStateM (Result)
open Net (Env World)

namespace Journal

/-- What a session was asked, and what of it was answered. -/
structure Tally where
  /-- The commands with a response, the first one first. -/
  asked : List Command
  /-- How many of them were answered. -/
  answered : Nat
  /-- How many there were up to the last answer that no transaction is open. -/
  opening : Nat
  /-- How many there were when the redo log was last emptied. -/
  emptied : Nat

namespace Tally

/-- Nothing was asked yet. -/
def start : Tally := ⟨[], 0, 0, 0⟩

/-- The next command was answered. -/
def answer (t : Tally) (inTransaction : Bool) : Tally :=
  if t.answered < t.asked.length then
    { t with
      answered := t.answered + 1
      opening := if inTransaction then t.opening else t.answered + 1 }
  else t

/-- Goes on with an event. -/
def after (t : Tally) : Event → Tally
  | .opened | .lost => start
  | .sent command =>
    if 0 < command.expectedResponses then { t with asked := t.asked ++ [command] } else t
  | .answered command inTransaction =>
    let t := if 0 < command.expectedResponses then t.answer inTransaction else t
    if inTransaction then t else { t with emptied := t.asked.length }
  | .adopted | .reset => { t with emptied := t.asked.length }
  | .refused _ | .failed _ | .replaying | .stranded _ => t

/-- Every command was answered. -/
def isSettled (t : Tally) : Prop := t.answered = t.asked.length

/-- The last answer was that a transaction is open. -/
def inTransaction (t : Tally) : Prop := t.opening < t.answered

/-- The commands of the open transaction that can be sent again. -/
def transaction (t : Tally) : List Command := (t.asked.drop t.opening).filter Command.canRedo

/-- Those of them that had been sent already when the redo log was last emptied. -/
def overtaken (t : Tally) : List Command :=
  ((t.asked.drop t.opening).take (t.emptied - t.opening)).filter Command.canRedo

end Tally

/-- The tally of the present session. -/
def tally (journal : Journal) : Tally := journal.foldl Tally.after .start

end Journal

namespace Journal.Tally

/-- A redo log holds what was asked since it was last emptied. -/
structure Logs (t : Tally) (log : Session.RedoLog) : Prop where
  log_eq : log = (t.asked.drop t.emptied).filter Command.canRedo
  answered_le : t.answered ≤ t.asked.length
  opening_le : t.opening ≤ t.emptied
  emptied_le : t.emptied ≤ t.asked.length

variable {t : Tally} {log : Session.RedoLog}

theorem expectedResponses_of_canRedo {command : Command} (h : command.canRedo = true) :
    0 < command.expectedResponses := by
  cases command <;> first | exact Nat.one_pos | cases h

theorem Logs.start : Logs start [] := ⟨rfl, Nat.le_refl _, Nat.le_refl _, Nat.le_refl _⟩

theorem Logs.empty (h : Logs t log) : Logs { t with emptied := t.asked.length } [] where
  log_eq := by simp
  answered_le := h.answered_le
  opening_le := Nat.le_trans h.opening_le h.emptied_le
  emptied_le := Nat.le_refl _

theorem Logs.ask (h : Logs t log) (command : Command) :
    Logs { t with asked := t.asked ++ [command] } (log.record command) where
  log_eq := by
    rw [List.drop_append_of_le_length h.emptied_le, List.filter_append, ← h.log_eq]
    unfold Session.RedoLog.record
    split <;> next redo => simp [redo]
  answered_le := by simpa using Nat.le_succ_of_le h.answered_le
  opening_le := h.opening_le
  emptied_le := by simpa using Nat.le_succ_of_le h.emptied_le

theorem Logs.goOn (h : Logs t log) : Logs (t.answer true) log := by
  unfold answer
  split
  · next pending => exact ⟨h.log_eq, pending, h.opening_le, h.emptied_le⟩
  · exact h

/-- An answer that no transaction is open empties the log, whatever was sent by then. -/
theorem Logs.finish (h : Logs t log) :
    Logs { t.answer false with emptied := (t.answer false).asked.length } [] := by
  unfold answer
  split
  · next pending => exact ⟨by simp, pending, pending, Nat.le_refl _⟩
  · exact h.empty

theorem Logs.after (h : Logs t log) (event : Event) : Logs (t.after event) (log.after event) := by
  cases event with
  | opened | lost => exact .start
  | adopted | reset => exact h.empty
  | refused _ | failed _ | replaying | stranded _ => exact h
  | sent command =>
    unfold Tally.after Session.RedoLog.after
    dsimp only
    split
    · exact h.ask command
    · next quiet =>
      have aside : command.canRedo ≠ true := fun redo => quiet (expectedResponses_of_canRedo redo)
      rw [Session.RedoLog.record, if_neg aside]
      exact h
  | answered command inTransaction =>
    unfold Tally.after Session.RedoLog.after
    by_cases response : 0 < command.expectedResponses <;> simp only [response, if_true, if_false]
    case pos =>
      cases inTransaction with
      | true => exact h.goOn
      | false => exact h.finish
    case neg =>
      cases inTransaction with
      | true => exact h
      | false => exact h.empty

theorem logs_tally (journal : Journal) :
    Logs journal.tally (journal.foldl Session.RedoLog.after []) := by
  have run : ∀ (journal : Journal) {t : Tally} {log : Session.RedoLog}, Logs t log →
      Logs (journal.foldl Tally.after t) (journal.foldl Session.RedoLog.after log) := by
    intro journal
    induction journal with
    | nil => exact fun h => h
    | cons event journal ih => exact fun h => ih (h.after event)
  exact run journal .start

/-- Behind the overtaken commands the log holds the rest of the transaction. -/
theorem Logs.transaction_eq (h : Logs t log) : t.transaction = t.overtaken ++ log := by
  rw [transaction, overtaken, h.log_eq, ← List.filter_append]
  congr 1
  have rest : (t.asked.drop t.opening).drop (t.emptied - t.opening) = t.asked.drop t.emptied := by
    rw [List.drop_drop, Nat.add_sub_cancel' h.opening_le]
  rw [← rest, List.take_append_drop]

theorem Logs.nil_of_closed (h : Logs t log) (settled : t.isSettled) (closed : ¬ t.inTransaction) :
    log = [] := by
  have all : t.asked.length ≤ t.emptied :=
    Nat.le_trans (settled ▸ Nat.not_lt.mp closed) h.opening_le
  rw [h.log_eq, List.drop_eq_nil_of_le all]
  rfl

end Journal.Tally

/-! ## Clients -/

/-- A client to which calls were made, in any order and with any outcome, while others did what they
like to the world. -/
inductive Reached (env : Env) : Client → Prop where
  | opened {w w' : World} {c : Client} : Client.new env w = .ok c w' → Reached env c
  | called {c : Client} (call : Call) : Reached env c → Reached env (call.perform env c).state
  | elsewhere {c : Client} (world : World) : Reached env c → Reached env { c with world }

variable {env : Env} {c : Client}

/-- The journal accounts for the redo log. -/
theorem Reached.redo (h : Reached env c) :
    c.ctx.redo = if env.opts.transactionReplay then
      some (c.journal.foldl Session.RedoLog.after []) else none := by
  induction h with
  | @opened w w' c opened =>
    unfold Client.new at opened
    split at opened
    · cases opened
    · next channel ctx journal w₁ connected =>
      injection opened with eq _
      subst eq
      obtain ⟨news, _, _, redo⟩ := Exchange.connect_ok connected
      exact redo
  | elsewhere world _ ih => exact ih
  | @called c call _ ih =>
    cases closed : c.isClosed with
    | true =>
      obtain ⟨world, eq⟩ := call.perform_of_isClosed env closed
      rw [eq]
      exact ih
    | false =>
      have guarded := call.guarded_perform env closed
      obtain ⟨news, accounted, _⟩ := call.conducts_attempt env c
      rw [guarded.ctx, guarded.journal, accounted.redo, accounted.journal, ih, List.foldl_append]
      split <;> rfl

theorem Reached.of_opened {w : World} (h : (Client.new env w).error?.isNone = true) :
    Reached env (.opened env w) := by
  obtain ⟨c, opened⟩ := EStateM.Result.exists_ok h
  exact Client.opened_of_new opened ▸ .opened opened

/-- In every state in which all commands were answered, the redo log is what the server was asked in
the open transaction exactly if nothing was overtaken. It always lacks just that, and without a
transaction it is empty. -/
theorem redo_eq_iff (h : Reached env c) (replay : env.opts.transactionReplay = true)
    (settled : c.journal.tally.isSettled) :
    (c.ctx.redo = some c.journal.tally.transaction ↔ c.journal.tally.overtaken = []) ∧
      (∃ log, c.ctx.redo = some log ∧
        c.journal.tally.transaction = c.journal.tally.overtaken ++ log) ∧
      (¬ c.journal.tally.inTransaction → c.ctx.redo = some []) := by
  have logs := Journal.Tally.logs_tally c.journal
  rw [h.redo, if_pos replay]
  refine ⟨?_, ⟨_, rfl, logs.transaction_eq⟩, fun closed => congrArg some ?_⟩
  · rw [logs.transaction_eq, Option.some_inj, List.self_eq_append_left]
  · exact logs.nil_of_closed settled closed

/-- A client with commands sent ahead, of which the second one begins a transaction. -/
def sentAhead : Client :=
  ((Call.executeAll [.query "SELECT", .query "BEGIN", .query "INSERT"] {}).perform replaying
    (.opened replaying (answeringInTurn [[false, true, true]]))).state

/-- The answer to the command before the transaction drops the transaction from the log. -/
theorem redo_sentAhead : sentAhead.ctx.redo ≠ some sentAhead.journal.tally.transaction := by
  have reached : Reached replaying sentAhead := .called _ (.of_opened (by decide +kernel))
  have settled : sentAhead.journal.tally.isSettled := by
    unfold Journal.Tally.isSettled
    decide +kernel
  have overtaken : sentAhead.journal.tally.overtaken ≠ [] := by decide +kernel
  exact fun whole => overtaken ((redo_eq_iff reached rfl settled).1.mp whole)

end SqlWire
