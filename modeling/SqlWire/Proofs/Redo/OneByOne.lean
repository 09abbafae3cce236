import SqlWire.Proofs.Redo.InStep
import SqlWire.Proofs.Redo.Tally

/-!
# Commands one at a time

`OneByOne env c` says that a client has run its commands one at a time since no transaction was open.
`OneByOne.between` is what this comes to: the client is in step, or a result is given out in parts and
it is in step apart from that.
-/

namespace SqlWire

open EStateM (Result)
open Net (Env World)

variable {α : Type} {env : Env} {command : Command} {options : StatementOptions} {c : Client}
  {run : EStateM Error Client α}

namespace Exchange

/-- To drop a response is to be done with it, too. -/
theorem rests_tolerated {reader : Reader} (h : InStep (some command) c) :
    Rests ((do let _ ← tolerate (← (finishResponse command reader).attempt) :
      EStateM Error Client Unit) c) := by
  have finished : Rests (finishResponse command reader c) := rests_finishResponse h
  cases finish : finishResponse command reader c with
  | ok response c₁ =>
    rw [finish] at finished
    rw [EStateM.bind_of_ok (EStateM.attempt_of_ok finish)]
    exact .inr (finished.resolve_left nofun)
  | error e c₁ =>
    rw [finish] at finished
    rw [EStateM.bind_of_ok (EStateM.attempt_of_error finish)]
    cases broken : e.isBroken with
    | true => exact .inl (Notes.broken_bind (broken_tolerate broken))
    | false =>
      have inStep : InStep none c₁ := finished.resolve_left (by simp [Result.error?, broken])
      unfold tolerate
      simp only [broken]
      exact .inr inStep

theorem rests_settleStreaming (h : Between c) : Rests (settleStreaming env c) := by
  unfold settleStreaming
  rw [EStateM.get_bind]
  rcases h with inStep | ⟨⟨reader, command⟩, streaming, inStep⟩
  · rw [inStep.clear.streaming]
    exact .inr inStep
  · rw [streaming]
    dsimp only
    rw [EStateM.modify_bind]
    cases read : readUntil env command reader.discard { c with streaming := none } with
    | error e c₁ =>
      rw [EStateM.bind_of_error read]
      exact .inl (breaks_readUntil read)
    | ok result c₁ =>
      obtain ⟨reader', stop⟩ := result
      rw [EStateM.bind_of_ok read]
      exact rests_tolerated (inStep_readUntil inStep read)

theorem leaves_settleStreaming (h : Between c) : Leaves (settleStreaming env c) :=
  (rests_settleStreaming h).leaves

/-- Without a result that is given out in parts there is nothing to drop. -/
theorem settleStreaming_of_none (idle : c.streaming = none) : settleStreaming env c = .ok () c := by
  unfold settleStreaming
  rw [EStateM.get_bind, idle]
  rfl

/-- Without responses to be read later there is nothing to settle. -/
theorem settle_of_none (idle : c.streaming = none) (read : c.unread = []) :
    settle env c = .ok () c := by
  unfold settle
  rw [EStateM.bind_of_ok (settleStreaming_of_none idle)]
  show settleUnread env c.unread c = _
  rw [read]
  rfl

theorem settle_of_clear (clear : Clear c) : settle env c = .ok () c :=
  settle_of_none clear.streaming clear.unread

theorem rests_settle (h : Between c) : Rests (settle env c) := by
  refine (rests_settleStreaming h).bind fun _ c inStep => ?_
  show Rests (settleUnread env c.unread c)
  rw [inStep.clear.unread]
  exact .inr inStep

theorem serves_execute (h : Between c) :
    Serves options.fetchSize (execute env command options c) := by
  have settled : Rests (settle env c) := rests_settle h
  cases eq : settle env c with
  | error e c₁ =>
    unfold execute
    rw [EStateM.bind_of_error eq]
    rw [eq] at settled
    exact .inl settled
  | ok _ c₁ =>
    rw [eq] at settled
    have inStep : InStep none c₁ := settled.resolve_left nofun
    unfold execute
    rw [EStateM.bind_of_ok eq]
    have once : Serves options.fetchSize (executeOnce env command options c₁) :=
      serves_executeOnce inStep
    cases first : executeOnce env command options c₁ with
    | ok response c₂ =>
      rw [EStateM.bind_of_ok (EStateM.attempt_of_ok first)]
      rw [first] at once
      exact once
    | error e c₂ =>
      rw [EStateM.bind_of_ok (EStateM.attempt_of_error first)]
      rw [first] at once
      have rests : Rests (.error e c₂ : Result Error Client Response) :=
        once.resolve_right fun ⟨_, _, _, impossible, _⟩ => nomatch impossible
      exact serves_recover (clear_of_executeOnce inStep first) rests

theorem leaves_execute (h : Between c) : Leaves (execute env command options c) := by
  have serves : Serves options.fetchSize (execute env command options c) := serves_execute h
  refine serves.elim Rests.leaves fun ⟨_, completions, c₁, eq, paused⟩ => ?_
  rw [eq]
  exact .inr (.inr paused)

theorem leaves_readStreaming (h : Between c) : Leaves (readStreaming env c) := by
  unfold readStreaming
  rw [EStateM.get_bind]
  rcases h with inStep | ⟨⟨reader, command⟩, streaming, inStep⟩
  · rw [inStep.clear.streaming]
    exact .inr (.inl inStep)
  · rw [streaming]
    dsimp only
    rw [EStateM.modify_bind]
    cases read : readUntil env command reader { c with streaming := none } with
    | error e c₁ =>
      rw [EStateM.bind_of_error read]
      exact .inl (breaks_readUntil read)
    | ok result c₁ =>
      rw [EStateM.bind_of_ok read]
      obtain ⟨reader', stop⟩ := result
      have inStep₁ := inStep_readUntil inStep read
      cases stop with
      | suspended =>
        exact .inr (.inr ⟨_, rfl, ⟨rfl, inStep₁.clear.unread, inStep₁.clear.infile⟩, inStep₁.redo⟩)
      | done => exact ((rests_finishResponse inStep₁).bind fun _ => .pure _).leaves

end Exchange

/-! ## Clients -/

/-- A response was read, and no transaction is open. -/
def Event.endsTransaction : Event → Bool
  | .answered _ inTransaction => !inTransaction
  | _ => false

/-- A client that has run its commands one at a time since no transaction was open, and is still open
itself. Others did what they like to the world. -/
inductive OneByOne (env : Env) : Client → Prop where
  | begun {c : Client} : Reached env c → Clear c →
      c.journal.getLast?.any Event.endsTransaction = true → OneByOne env c
  | executed {c : Client} (timeout : Option Nat) (command : Command) (options : StatementOptions) :
      OneByOne env c →
      (Client.timed timeout (Exchange.execute env command options) c).state.isClosed = false →
      OneByOne env (Client.timed timeout (Exchange.execute env command options) c).state
  | streamed {c : Client} : OneByOne env c → (Client.readStreaming env c).state.isClosed = false →
      OneByOne env (Client.readStreaming env c).state
  | dropped {c : Client} : OneByOne env c → (Client.abandonStreaming env c).state.isClosed = false →
      OneByOne env (Client.abandonStreaming env c).state
  | elsewhere {c : Client} (world : World) : OneByOne env c → OneByOne env { c with world }

theorem clear_opened (env : Env) (w : World) : Clear (.opened env w) := by
  unfold Client.opened Client.new
  split
  · next opened =>
    split at opened
    · cases opened
    · cases opened
      exact ⟨rfl, rfl, rfl⟩
  · exact ⟨rfl, rfl, rfl⟩

theorem Between.withLine (h : Between c) (line : Line) : Between (c.withLine line) := by
  rcases h with ⟨⟨streaming, unread, infile⟩, redo⟩ | ⟨s, streaming, ⟨rest, unread, infile⟩, redo⟩
  · exact .inl ⟨⟨streaming, unread, infile⟩, redo⟩
  · exact .inr ⟨s, streaming, ⟨rest, unread, infile⟩, redo⟩

/-- A call that leaves a client as it should be does so under its guard. -/
theorem Between.timed (h : Between c) (timeout : Option Nat)
    (leaves : ∀ c, Between c → Leaves (run c))
    (isOpen : (Client.timed timeout run c).state.isClosed = false) :
    Between (Client.timed timeout run c).state := by
  cases closed : c.isClosed with
  | true =>
    obtain ⟨world, eq⟩ := Client.timed_of_isClosed timeout run closed
    rw [eq]
    exact h.withLine ⟨c.channel, world⟩
  | false =>
    have guarded := Client.timed_spec timeout run closed
    rw [guarded.isClosed, Bool.or_eq_false_iff] at isOpen
    obtain ⟨line, eq⟩ := guarded.only_line
    rw [eq]
    have armed : Between (Client.armed timeout c) := by
      cases timeout with
      | none => exact h
      | some timeout => exact h.withLine ⟨c.channel, _⟩
    exact ((leaves _ armed).resolve_left (by simp [isOpen.2])).withLine line

theorem Reached.inStep (h : Reached env c) (replay : env.opts.transactionReplay = true)
    (clear : Clear c) (last : c.journal.getLast?.any Event.endsTransaction = true) :
    InStep none c := by
  obtain ⟨event, eq, ends⟩ := (Option.any_eq_true _ _).mp last
  obtain ⟨before, eq⟩ := List.getLast?_eq_some_iff.mp eq
  refine ⟨clear, ?_⟩
  rw [h.redo, if_pos replay]
  simp only [Journal.outstanding, Journal.answered, eq, List.foldl_append]
  cases event with
  | answered command inTransaction =>
    cases inTransaction with
    | true => cases ends
    | false => rfl
  | _ => cases ends

theorem OneByOne.between (h : OneByOne env c) (replay : env.opts.transactionReplay = true) :
    Between c := by
  induction h with
  | begun reached clear last => exact .inl (reached.inStep replay clear last)
  | executed timeout command options _ isOpen ih =>
    exact ih.timed timeout (fun _ => Exchange.leaves_execute) isOpen
  | streamed _ isOpen ih => exact ih.timed none (fun _ => Exchange.leaves_readStreaming) isOpen
  | dropped _ isOpen ih => exact ih.timed none (fun _ => Exchange.leaves_settleStreaming) isOpen
  | elsewhere world _ ih => exact ih.withLine ⟨_, world⟩

end SqlWire
