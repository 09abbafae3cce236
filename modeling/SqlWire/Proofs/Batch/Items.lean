import Mathlib.Data.List.TakeWhile
import SqlWire.Proofs.Call
import SqlWire.Proofs.Framing.Limit
import SqlWire.Proofs.Journal.Broken

/-!
# What becomes of the items of a batch

An item that is attempted ends with a response or an error; `Attempts` says how items are attempted
in order, each from where the one before has left the client, up to one that breaks the connection.
The strategies differ in what an item is: the whole exchange of a command, or the response to a
command that was sent ahead. `Batch.Progress.after` adds up the ends of items, so that a batch tells
one outcome for each of them, in order.

A command cannot be sent when it has no bytes or too many (`canSend`). One by one, such a command is
an item that has failed. Sent ahead, it takes the items behind it along, and neither it nor they have
an outcome (`length_of_proceeds`).
-/

namespace SqlWire

open EStateM (Result)
open Net (Env)

/-! ## Adding up -/

namespace Batch

/-- What an item has come to. -/
def outcome : Except Error Response → BatchOutcome
  | .ok response => .ofCompletions response.toCompletions.toList
  | .error _ => .failed

def failure? : Except Error Response → Option Error
  | .ok _ => none
  | .error e => some e

namespace Progress

def note (progress : Progress) : Except Error Response → Progress
  | .ok response => progress.success response.toCompletions
  | .error e => progress.failure e

/-- The progress behind further items. -/
def after (progress : Progress) (ends : List (Except Error Response)) : Progress :=
  ends.foldl note progress

variable {progress : Progress} {given : Except Error Response} {ends : List (Except Error Response)}

theorem outcomes_note : (progress.note given).outcomes = progress.outcomes.push (outcome given) := by
  cases given <;> rfl

theorem cause_note : (progress.note given).cause = (progress.cause <|> failure? given) := by
  cases given with
  | ok response => cases cause : progress.cause <;> exact cause
  | error e => rfl

theorem outcomes_after :
    (progress.after ends).outcomes = progress.outcomes ++ (ends.map outcome).toArray := by
  induction ends generalizing progress with
  | nil => exact Array.append_empty.symm
  | cons given ends ih =>
    refine (@ih (progress.note given)).trans ?_
    rw [outcomes_note]
    simp

theorem cause_after : (progress.after ends).cause = (progress.cause <|> ends.findSome? failure?) := by
  induction ends generalizing progress with
  | nil => cases cause : progress.cause <;> exact cause
  | cons given ends ih =>
    refine (@ih (progress.note given)).trans ?_
    rw [cause_note, List.findSome?_cons]
    cases progress.cause <;> cases failure? given <;> rfl

end Progress

end Batch

namespace Exchange

open Batch (outcome failure?)

variable {α : Type} {env : Env} {command : Command} {commands : List Command} {mark : Mark}
  {options : StatementOptions} {progress : Batch.Progress} {c c' c₁ : Client} {e : Error}
  {ends : List (Except Error Response)}

/-! ## Attempts -/

/-- Items are attempted in order, up to one that breaks the connection. -/
inductive Attempts (attempt : α → EStateM Error Client Response) :
    Client → List α → List (Except Error Response) → Client → Prop
  | done (c : Client) : Attempts attempt c [] [] c
  | answered {c c₁ c' : Client} {item : α} {items : List α} {response : Response}
      {ends : List (Except Error Response)} (ran : attempt item c = .ok response c₁)
      (rest : Attempts attempt c₁ items ends c') :
      Attempts attempt c (item :: items) (.ok response :: ends) c'
  | failed {c c₁ c' : Client} {item : α} {items : List α} {e : Error}
      {ends : List (Except Error Response)} (ran : attempt item c = .error e c₁)
      (whole : e.isBroken = false) (rest : Attempts attempt c₁ items ends c') :
      Attempts attempt c (item :: items) (.error e :: ends) c'
  | broke {c c₁ : Client} {item : α} {items : List α} {e : Error}
      (ran : attempt item c = .error e c₁) (broken : e.isBroken = true) :
      Attempts attempt c (item :: items) [.error e] c₁

/-- None of these errors breaks the connection. -/
def Whole (ends : List (Except Error Response)) (unsent : Option Error) : Prop :=
  (∀ e, .error e ∈ ends → e.isBroken = false) ∧ ∀ e ∈ unsent, e.isBroken = false

/-- Every item has an end, unless one has broken the connection. -/
theorem Attempts.length {attempt : α → EStateM Error Client Response} {items : List α}
    (h : Attempts attempt c items ends c') (whole : ∀ e, .error e ∈ ends → e.isBroken = false) :
    ends.length = items.length := by
  induction h with
  | done => rfl
  | answered _ _ ih | failed _ _ _ ih =>
    exact congrArg (· + 1) (ih fun e mem => whole e (.tail _ mem))
  | broke _ broken => cases broken.symm.trans (whole _ (.head _))

/-- A loop that attempts one item after the other adds up their ends. -/
theorem attempts_of_loop (attempt : α → EStateM Error Client Response)
    (loop : List α → Batch.Progress → EStateM Error Client Batch.Progress)
    (nil : ∀ progress, loop [] progress = pure progress)
    (cons : ∀ item items progress, loop (item :: items) progress =
      ((attempt item).attempt >>= fun given => match noteItem progress given with
        | (progress, true) => loop items progress
        | (progress, false) => pure progress))
    (items : List α) (progress : Batch.Progress) (c : Client) :
    ∃ ends c', Attempts attempt c items ends c' ∧
      loop items progress c = .ok (progress.after ends) c' := by
  induction items generalizing progress c with
  | nil => exact ⟨[], c, .done c, congrFun (nil progress) c⟩
  | cons item items ih =>
    rw [cons]
    cases ran : attempt item c with
    | ok response c₁ =>
      rw [EStateM.bind_of_ok (EStateM.attempt_of_ok ran)]
      obtain ⟨ends, c', attempts, rest⟩ := ih (progress.note (.ok response)) c₁
      exact ⟨.ok response :: ends, c', .answered ran attempts, rest⟩
    | error e c₁ =>
      have noted : noteItem progress (.error e) = (progress.note (.error e), !e.isBroken) := rfl
      rw [EStateM.bind_of_ok (EStateM.attempt_of_error ran), noted]
      cases broken : e.isBroken with
      | true => exact ⟨[.error e], c₁, .broke ran broken, rfl⟩
      | false =>
        obtain ⟨ends, c', attempts, rest⟩ := ih (progress.note (.error e)) c₁
        exact ⟨.error e :: ends, c', .failed ran broken attempts, rest⟩

/-! ## Commands that cannot be sent -/

/-- The command has bytes, and fewer than the server accepts. -/
def canSend (ctx : Session.Context) (command : Command) : Bool :=
  match encode ctx command with
  | .ok bytes => ctx.maxAllowedPacket.all (bytes.length < ·)
  | .error _ => false

/-- The redo log plays no role. -/
theorem canSend_redo (ctx : Session.Context) (redo : Option Session.RedoLog) :
    canSend { ctx with redo } = canSend ctx := by
  funext command
  cases command <;> rfl

/-- A command that was sent could be sent, and what can be sent is the same behind it. -/
theorem canSend_of_send (sent : send env command c = .ok mark c') :
    canSend c.ctx command = true ∧ canSend c'.ctx = canSend c.ctx := by
  unfold send at sent
  dsimp only at sent
  split at sent
  · cases sent
  · next bytes encoded =>
    split at sent
    · cases sent
    · next written =>
      obtain ⟨line, wrote, rfl⟩ := onLine_ok written
      cases sent
      refine ⟨?_, canSend_redo ..⟩
      unfold canSend
      rw [encoded, Option.all_eq_true]
      intro max limit
      have short := Line.lt_of_writePacket wrote max limit
      rw [Bytes.size_toWire] at short
      exact decide_eq_true short

/-- A command that could have been sent only fails with the connection. -/
theorem not_canSend_of_send (failed : send env command c = .error e c')
    (whole : e.isBroken = false) : canSend c.ctx command = false := by
  unfold send at failed
  dsimp only at failed
  unfold canSend
  split at failed
  · next refused => rw [refused]
  · next bytes encoded =>
    split at failed
    · next written =>
      cases failed
      obtain ⟨line, wrote⟩ := onLine_error written
      obtain broken | ⟨max, limit, reached⟩ := Line.broken_or_le_of_writePacket wrote
      · cases whole.symm.trans broken
      · rw [Bytes.size_toWire] at reached
        rw [encoded, Option.all_eq_false]
        exact ⟨max, limit, decide_eq_false (Nat.not_lt.mpr reached)⟩
    · cases failed

/-- Commands are sent, up to one that cannot be sent. -/
inductive Sends (env : Env) :
    Client → List Command → List (Command × Mark) → Option Error → Client → Prop
  | all (c : Client) : Sends env c [] [] none c
  | sent {c c₁ c' : Client} {command : Command} {commands : List Command} {mark : Mark}
      {sent : List (Command × Mark)} {unsent : Option Error}
      (ran : send env command c = .ok mark c₁) (rest : Sends env c₁ commands sent unsent c') :
      Sends env c (command :: commands) ((command, mark) :: sent) unsent c'
  | stopped {c c₁ : Client} {command : Command} {commands : List Command} {e : Error}
      (ran : send env command c = .error e c₁) : Sends env c (command :: commands) [] (some e) c₁

/-- The commands in front of one that cannot be sent are sent, and no others. -/
theorem Sends.commands_eq {sent : List (Command × Mark)} {unsent : Option Error}
    (h : Sends env c commands sent unsent c') (whole : ∀ e ∈ unsent, e.isBroken = false) :
    sent.map Prod.fst = commands.takeWhile (canSend c.ctx) := by
  induction h with
  | all => rfl
  | sent ran _ ih =>
    obtain ⟨could, same⟩ := canSend_of_send ran
    rw [List.takeWhile_cons_of_pos could, List.map_cons, ih whole, same]
  | stopped ran =>
    have could := not_canSend_of_send ran (whole _ rfl)
    rw [List.takeWhile_cons_of_neg (by simp [could]), List.map_nil]

theorem sends_of_sendAhead (env : Env) (commands : List Command) (progress : Batch.Progress)
    (c : Client) :
    ∃ sent unsent c', Sends env c commands sent unsent c' ∧
      sendAhead env commands progress c = .ok (sent, unsent.elim progress progress.abort) c' := by
  induction commands generalizing c with
  | nil => exact ⟨[], none, c, .all c, rfl⟩
  | cons command commands ih =>
    cases ran : send env command c with
    | ok mark c₁ =>
      obtain ⟨sent, unsent, c', sends, rest⟩ := ih c₁
      exact ⟨(command, mark) :: sent, unsent, c', .sent ran sends,
        (EStateM.bind_of_ok (EStateM.attempt_of_ok ran)).trans (EStateM.bind_of_ok rest)⟩
    | error e c₁ =>
      exact ⟨[], some e, c₁, .stopped ran, EStateM.bind_of_ok (EStateM.attempt_of_error ran)⟩

/-! ## Batches -/

/-- Reads the response to a command that was sent ahead. -/
def receiveAhead (env : Env) (options : StatementOptions) (sent : Command × Mark) :
    EStateM Error Client Response := do
  complete env (← readFor env sent.1 sent.2 options)

/-- The strategy of a batch that this client begins. -/
def strategy (env : Env) (c : Client) : Batch.Strategy :=
  Batch.strategy env.opts.disablePipeline c.ctx.localInfile

/-- The commands of a batch are run by a client that has nothing left to read. The error is that of
the command that could not be sent ahead. -/
inductive Proceeds (env : Env) (options : StatementOptions) (c : Client) (commands : List Command) :
    List (Except Error Response) → Option Error → Client → Prop
  | sequential {ends : List (Except Error Response)} {c' : Client}
      (sequential : strategy env c = .sequential)
      (attempts : Attempts (executeOnce env · options) c commands ends c') :
      Proceeds env options c commands ends none c'
  | pipelined {sent : List (Command × Mark)} {unsent : Option Error}
      {ends : List (Except Error Response)} {c₁ c' : Client}
      (pipelined : strategy env c = .pipelined) (sends : Sends env c commands sent unsent c₁)
      (attempts : Attempts (receiveAhead env options) c₁ sent ends c') :
      Proceeds env options c commands ends unsent c'

/-- How many items have an end. -/
theorem length_of_proceeds {unsent : Option Error}
    (h : Proceeds env options c commands ends unsent c') (whole : Whole ends unsent) :
    ends.length = match strategy env c with
      | .sequential => commands.length
      | .pipelined => (commands.takeWhile (canSend c.ctx)).length := by
  cases h with
  | sequential sequential attempts =>
    rw [sequential]
    exact attempts.length whole.1
  | pipelined pipelined sends attempts =>
    rw [pipelined]
    dsimp only
    rw [attempts.length whole.1, ← sends.commands_eq whole.2, List.length_map]

/-- How a batch ends. -/
def conclude (progress : Batch.Progress) :
    EStateM Error Client (Array BatchOutcome × Array Completion) :=
  match progress.finish with
  | .ok result => return result
  | .error e => throw e

/-- A batch ends with the outcomes of the items that have an end. Its cause is what kept a command
from being sent ahead, or else the first failure. -/
theorem runBatch_proceeds (commands : List Command) (options : StatementOptions)
    (settled : settle env c = .ok () c₁) :
    ∃ ends unsent c' completions,
      Proceeds env { options with fetchSize := 0 } c₁ commands ends unsent c' ∧
      runBatch env commands options c =
        conclude ⟨(ends.map outcome).toArray, completions, unsent <|> ends.findSome? failure?⟩ c' := by
  have concluded {progress progress' : Batch.Progress} (c : Client)
      (outcomes : progress.outcomes = progress'.outcomes) (cause : progress.cause = progress'.cause)
      (completions : progress.completions = progress'.completions) :
      conclude progress c = conclude progress' c := by
    cases progress
    cases outcomes
    cases cause
    cases completions
    rfl
  unfold runBatch
  rw [EStateM.bind_of_ok settled, EStateM.get_bind]
  dsimp only
  cases chosen : strategy env c₁ with
  | sequential =>
    obtain ⟨ends, c', attempts, ran⟩ := attempts_of_loop
      (executeOnce env · { options with fetchSize := 0 })
      (runSequential env { options with fetchSize := 0 }) (fun _ => rfl) (fun _ _ _ => rfl)
      commands .start c₁
    refine ⟨ends, none, c', (Batch.Progress.start.after ends).completions,
      .sequential chosen attempts, ?_⟩
    unfold strategy at chosen
    rw [chosen]
    dsimp only
    rw [EStateM.bind_of_ok ran]
    refine concluded c' ?_ Batch.Progress.cause_after rfl
    exact Batch.Progress.outcomes_after.trans Array.empty_append
  | pipelined =>
    obtain ⟨sent, unsent, c₂, sends, ahead⟩ := sends_of_sendAhead env commands .start c₁
    obtain ⟨ends, c', attempts, ran⟩ := attempts_of_loop
      (receiveAhead env { options with fetchSize := 0 })
      (readAhead env { options with fetchSize := 0 }) (fun _ => rfl) (fun _ _ _ => rfl)
      sent (unsent.elim .start Batch.Progress.start.abort) c₂
    refine ⟨ends, unsent, c',
      ((unsent.elim .start Batch.Progress.start.abort).after ends).completions,
      .pipelined chosen sends attempts, ?_⟩
    unfold strategy at chosen
    rw [chosen]
    dsimp only
    rw [EStateM.bind_of_ok ahead, EStateM.bind_of_ok ran]
    refine concluded c' ?_ ?_ rfl
    · rw [Batch.Progress.outcomes_after]
      cases unsent <;> exact Array.empty_append
    · rw [Batch.Progress.cause_after]
      cases unsent <;> rfl

/-! ## Ways to ask for a batch -/

/-- What a batch is asked for with. -/
inductive BatchRequest where
  | all (commands : List Command) (options : StatementOptions)
  /-- The same text with each list of parameters. -/
  | each (sql : String) (paramSets : List (List Value))

namespace BatchRequest

def run (env : Env) : BatchRequest → EStateM Error Client (Array BatchOutcome)
  | all commands options => do return (← runBatch env commands options).1
  | each sql paramSets => executeBatch env sql paramSets

/-- Which commands the batch consists of, which statement is given back behind it, and which client
begins it. -/
inductive Begins (env : Env) : BatchRequest → Client → List Command → StatementOptions →
    Option PreparedStatement → Client → Prop
  | all (commands : List Command) (options : StatementOptions) (c : Client) :
      Begins env (.all commands options) c commands options none c
  | literals (literals : env.opts.useServerPrepare = false) (sql : String)
      (paramSets : List (List Value)) (c : Client) :
      Begins env (.each sql paramSets) c (paramSets.map (.clientPrepared sql)) {} none c
  | prepared (server : env.opts.useServerPrepare = true) {sql : String}
      (paramSets : List (List Value)) {c c₁ : Client} {statement : PreparedStatement}
      (prepared : prepare env sql c = .ok statement c₁) :
      Begins env (.each sql paramSets) c (paramSets.map statement.execute) {} (some statement) c₁

end BatchRequest

/-- What a run tells of the items of a batch: their outcomes, and why it failed. -/
def told? : Result Error Client (Array BatchOutcome) → Option (Array BatchOutcome × Option Error)
  | .ok outcomes _ => some (outcomes, none)
  | .error (.batch outcomes _ cause) _ => some (outcomes, some cause)
  | .error _ _ => none

theorem told?_conclude (h : runBatch env commands options c = conclude progress c') :
    told? ((do return (← runBatch env commands options).1 :
      EStateM Error Client (Array BatchOutcome)) c) = some (progress.outcomes, progress.cause) := by
  obtain ⟨outcomes, completions, cause⟩ := progress
  cases cause with
  | none =>
    have h : runBatch env commands options c = .ok (outcomes, completions) c' := h
    rw [EStateM.bind_of_ok h]
    rfl
  | some cause =>
    have h : runBatch env commands options c = .error (.batch outcomes completions cause) c' := h
    rw [EStateM.bind_of_error h]
    rfl

/-- Behind a batch the statement is given back. The failure of the batch comes before another one. -/
theorem told?_executeBatch (server : env.opts.useServerPrepare = true) {sql : String}
    {paramSets : List (List Value)} {statement : PreparedStatement}
    (prepared : prepare env sql c = .ok statement c₁)
    (h : runBatch env (paramSets.map statement.execute) {} c₁ = conclude progress c') :
    told? (executeBatch env sql paramSets c) = some (progress.outcomes, progress.cause) ∨
      ∃ e c₃, closeStatement env statement c' = .error e c₃ ∧
        executeBatch env sql paramSets c = .error e c₃ := by
  obtain ⟨outcomes, completions, cause⟩ := progress
  unfold executeBatch
  rw [if_pos server, EStateM.bind_of_ok prepared]
  cases cause with
  | none =>
    have h : runBatch env _ {} c₁ = .ok (outcomes, completions) c' := h
    rw [EStateM.bind_of_ok (EStateM.attempt_of_ok h)]
    cases released : closeStatement env statement c' with
    | ok _ c₃ =>
      rw [EStateM.bind_of_ok (EStateM.attempt_of_ok released)]
      exact .inl rfl
    | error e c₃ =>
      rw [EStateM.bind_of_ok (EStateM.attempt_of_error released)]
      exact .inr ⟨e, c₃, rfl, rfl⟩
  | some cause =>
    have h : runBatch env _ {} c₁ = .error (.batch outcomes completions cause) c' := h
    rw [EStateM.bind_of_ok (EStateM.attempt_of_error h)]
    left
    cases released : closeStatement env statement c' with
    | ok _ c₃ =>
      rw [EStateM.bind_of_ok (EStateM.attempt_of_ok released)]
      rfl
    | error e c₃ =>
      rw [EStateM.bind_of_ok (EStateM.attempt_of_error released)]
      rfl

/-- For a batch of commands or of parameters that a client begins once it is settled:
* its items are attempted in order, by either strategy;
* it tells the outcomes of the items that have an end, in order, unless they all succeed and the
  statement they shared cannot be given back;
* if no item breaks the connection, each item has an end when they are run one by one, but sent
  ahead, only the items in front of the first one that has no bytes or too many. So no item is left
  out exactly if they are run one by one or every command can be sent. -/
theorem outcomes_run {request : BatchRequest} {lent : Option PreparedStatement} {c₀ : Client}
    (begins : request.Begins env c commands options lent c₀) (settled : settle env c₀ = .ok () c₁) :
    ∃ ends unsent c₂,
      Proceeds env { options with fetchSize := 0 } c₁ commands ends unsent c₂ ∧
      (told? (request.run env c) =
          some ((ends.map outcome).toArray, unsent <|> ends.findSome? failure?) ∨
        ∃ statement ∈ lent, ∃ e c₃, closeStatement env statement c₂ = .error e c₃ ∧
          request.run env c = .error e c₃) ∧
      (Whole ends unsent →
        (ends.length = match strategy env c₁ with
          | .sequential => commands.length
          | .pipelined => (commands.takeWhile (canSend c₁.ctx)).length) ∧
        (ends.length = commands.length ↔
          strategy env c₁ = .sequential ∨ ∀ command ∈ commands, canSend c₁.ctx command = true)) := by
  obtain ⟨ends, unsent, c₂, completions, proceeds, ran⟩ := runBatch_proceeds commands options settled
  refine ⟨ends, unsent, c₂, proceeds, ?_, fun whole => ?_⟩
  · cases begins with
    | all => exact .inl (told?_conclude ran)
    | literals literals sql paramSets =>
      have eq : executeBatch env sql paramSets = do
          return (← runBatch env (paramSets.map (.clientPrepared sql)) {}).1 := by
        unfold executeBatch
        rw [literals]
        rfl
      rw [BatchRequest.run, eq]
      exact .inl (told?_conclude ran)
    | prepared server paramSets prepared =>
      rcases told?_executeBatch server prepared ran with told | ⟨e, c₃, released, failed⟩
      · exact .inl told
      · exact .inr ⟨_, rfl, e, c₃, released, failed⟩
  · have length := length_of_proceeds proceeds whole
    refine ⟨length, ?_⟩
    cases chosen : strategy env c₁ with
    | sequential =>
      rw [chosen] at length
      exact iff_of_true length (.inl rfl)
    | pipelined =>
      rw [chosen] at length
      rw [length, ← List.takeWhile_eq_self_iff,
        (List.takeWhile_prefix _).sublist.length_eq]
      exact (or_iff_right nofun).symm

/-- Surroundings in which parameters are put into the text. -/
def literal : Env := .quiet { host := "h", autocommit := none, useServerPrepare := false }

/-- The second parameters are missing. -/
def unevenBatch : BatchRequest := .each "INSERT INTO t VALUES (?)" [[.int 1], [], [.int 3]]

/-- Two of the commands will be answered. -/
def beforeUnevenBatch : Client := .opened literal (answeringInTurn [[false, false]])

/-- Only the first item is told of, and the third one is not attempted. -/
theorem outcomes_run_unevenBatch : ∃ c₁ ends unsent c₂,
    settle literal beforeUnevenBatch = .ok () c₁ ∧
      Proceeds literal {} c₁ ([[.int 1], [], [.int 3]].map (.clientPrepared "INSERT INTO t VALUES (?)"))
        ends unsent c₂ ∧
      told? (unevenBatch.run literal beforeUnevenBatch) = some ((ends.map outcome).toArray, unsent) ∧
      Whole ends unsent ∧ ends.length = 1 ∧
      ¬ (strategy literal c₁ = .sequential ∨ ∀ params ∈ [[.int 1], [], [.int 3]],
        canSend c₁.ctx (.clientPrepared "INSERT INTO t VALUES (?)" params) = true) := by
  obtain ⟨_, settled⟩ := EStateM.Result.exists_ok
    (by decide +kernel : (settle literal beforeUnevenBatch).error?.isNone = true)
  obtain ⟨ends, unsent, c₂, proceeds, told | ⟨_, nothing, _⟩, complete⟩ :=
    outcomes_run (.literals rfl "INSERT INTO t VALUES (?)" [[.int 1], [], [.int 3]] beforeUnevenBatch)
      settled
  · have tells : (told? (unevenBatch.run literal beforeUnevenBatch)).any fun told =>
        told.1.toList == [.updated 0] && told.2.any (!·.isBroken) := by decide +kernel
    have told : told? (unevenBatch.run literal beforeUnevenBatch) = _ := told
    rw [told, Option.any_some, Bool.and_eq_true] at tells
    obtain ⟨outcomes, unbroken⟩ := tells
    have outcomes : ends.map outcome = [.updated 0] := eq_of_beq outcomes
    obtain ⟨given, _, rfl, updated, none⟩ := List.map_eq_cons_iff.mp outcomes
    cases List.map_eq_nil_iff.mp none
    cases given with
    | error e => cases updated
    | ok response =>
      have cause : (unsent <|> [Except.ok response].findSome? failure?) = unsent := by
        cases unsent <;> rfl
      rw [cause] at told unbroken
      have whole : Whole [.ok response] unsent := by
        refine ⟨fun e mem => by simp at mem, fun e mem => ?_⟩
        cases mem
        simpa using unbroken
      refine ⟨_, _, unsent, c₂, settled, proceeds, told, whole, rfl, fun all => ?_⟩
      exact nomatch (complete whole).2.mpr (all.imp_right List.forall_mem_map.mpr)
  · cases nothing

end Exchange

end SqlWire
