import SqlWire.Proofs.Journal.Exchange

/-!
# What batches note

The loops over the items of a batch never fail themselves: what fails is collected. A failure that
breaks the connection leaves the batch with a cause, but that may be the failure of an earlier item.
-/

namespace SqlWire

open EStateM (Result)
open Net (Env)

/-- Of a loop over items: a failure that breaks the connection leaves some cause. -/
def Duty.collected : Duty := .shown Event.isExchange fun _ => true

theorem Duty.exchange_collected {event : Event} {finish cause : Option Error}
    (h : Duty.exchange.allows event finish) (collected : finish.isSome → cause.isSome) :
    Duty.collected.allows event cause := by
  cases event with
  | failed e =>
    intro broken
    cases finish with
    | none => exact absurd (h broken) (by simp)
    | some e' => simpa using collected rfl
  | _ => exact h

theorem Duty.collected_mono {event : Event} {cause cause' : Option Error}
    (h : Duty.collected.allows event cause) (kept : cause.isSome → cause'.isSome) :
    Duty.collected.allows event cause' := by
  cases event with
  | failed e => exact fun broken => by simpa using kept (by simpa using h broken)
  | _ => exact h

namespace Exchange

variable {env : Env} {command : Command} {mark : Mark} {options : StatementOptions}
  {progress : Batch.Progress} {c : Client} {e : Error}

/-- From `progress` on, a loop gives another progress, which keeps a cause. -/
def Collected (progress : Batch.Progress) (c : Client) (progress' : Batch.Progress) (c' : Client) :
    Prop :=
  (progress.cause.isSome → progress'.cause.isSome) ∧
    ∃ news, Accounted c news c' ∧ ∀ event ∈ news, Duty.collected.allows event progress'.cause

theorem Collected.refl : Collected progress c progress c :=
  ⟨id, [], .still rfl rfl, fun _ mem => nomatch mem⟩

theorem Collected.trans {progress' progress'' : Batch.Progress} {c' c'' : Client}
    (h : Collected progress c progress' c') (h' : Collected progress' c' progress'' c'') :
    Collected progress c progress'' c'' := by
  obtain ⟨kept, news, accounted, allowed⟩ := h
  obtain ⟨kept', news', accounted', allowed'⟩ := h'
  refine ⟨kept' ∘ kept, news ++ news', accounted.trans accounted', fun event mem => ?_⟩
  rcases List.mem_append.mp mem with first | second
  · exact Duty.collected_mono (allowed event first) kept'
  · exact allowed' event second

theorem isSome_abort : (progress.abort e).cause.isSome := by
  cases h : progress.cause <;> simp [Batch.Progress.abort, h]

/-- A part that is attempted: its failure ends up in `progress'`. -/
theorem Collected.attempt {α : Type} {r : Result Error Client α} {progress' : Batch.Progress}
    (h : Noted .exchange c r) (kept : progress.cause.isSome → progress'.cause.isSome)
    (collected : r.error?.isSome → progress'.cause.isSome) :
    Collected progress c progress' r.state := by
  obtain ⟨news, accounted, allowed⟩ := h
  exact ⟨kept, news, accounted, fun event mem =>
    Duty.exchange_collected (allowed event mem) collected⟩

/-- An item is attempted, noted, and the loop goes on behind it or ends. -/
theorem collected_item {run : EStateM Error Client Response}
    {next : Batch.Progress → EStateM Error Client Batch.Progress} (h : Notes .exchange run)
    (h' : ∀ p c, ∃ p' c', next p c = .ok p' c' ∧ Collected p c p' c') :
    ∃ p' c', (run.attempt >>= fun result => match noteItem progress result with
        | (p, true) => next p
        | (p, false) => pure p) c = .ok p' c' ∧ Collected progress c p' c' := by
  have item := h c
  cases eq : run c with
  | ok response c₁ =>
    rw [eq] at item
    rw [EStateM.bind_of_ok (EStateM.attempt_of_ok eq)]
    obtain ⟨p', c', ran, collected⟩ := h' (progress.success response.toCompletions) c₁
    exact ⟨p', c', ran, .trans (.attempt item id nofun) collected⟩
  | error e c₁ =>
    rw [eq] at item
    rw [EStateM.bind_of_ok (EStateM.attempt_of_error eq)]
    have failed : Collected progress c (progress.failure e) c₁ :=
      .attempt item (fun _ => isSome_abort) fun _ => isSome_abort
    cases broken : e.isBroken with
    | true => exact ⟨_, c₁, by simp [noteItem, broken]; rfl, failed⟩
    | false =>
      obtain ⟨p', c', ran, collected⟩ := h' (progress.failure e) c₁
      exact ⟨p', c', by simpa [noteItem, broken] using ran, failed.trans collected⟩

theorem collected_runSequential (env : Env) (options : StatementOptions) (commands : List Command)
    (progress : Batch.Progress) (c : Client) :
    ∃ progress' c', runSequential env options commands progress c = .ok progress' c' ∧
      Collected progress c progress' c' := by
  induction commands generalizing progress c with
  | nil => exact ⟨progress, c, rfl, .refl⟩
  | cons command rest ih => exact collected_item notes_executeOnce ih

theorem collected_readAhead (env : Env) (options : StatementOptions) (sent : List (Command × Mark))
    (progress : Batch.Progress) (c : Client) :
    ∃ progress' c', readAhead env options sent progress c = .ok progress' c' ∧
      Collected progress c progress' c' := by
  induction sent generalizing progress c with
  | nil => exact ⟨progress, c, rfl, .refl⟩
  | cons sent rest ih =>
    refine collected_item ?_ ih
    exact .bind (notes_readFor.mono Duty.answering_exchange) fun _ =>
      notes_complete.mono Duty.aside_exchange

theorem collected_sendAhead (env : Env) (commands : List Command) (progress : Batch.Progress)
    (c : Client) :
    ∃ sent progress' c', sendAhead env commands progress c = .ok (sent, progress') c' ∧
      Collected progress c progress' c' := by
  induction commands generalizing c with
  | nil => exact ⟨[], progress, c, rfl, .refl⟩
  | cons command rest ih =>
    have item : Noted .exchange c (send env command c) := notes_send c
    cases eq : send env command c with
    | ok mark c₁ =>
      rw [eq] at item
      obtain ⟨sent, progress', c', ran, collected⟩ := ih c₁
      refine ⟨(command, mark) :: sent, progress', c', ?_, .trans (.attempt item id nofun) collected⟩
      exact (EStateM.bind_of_ok (EStateM.attempt_of_ok eq)).trans (EStateM.bind_of_ok ran)
    | error e c₁ =>
      rw [eq] at item
      refine ⟨[], progress.abort e, c₁, EStateM.bind_of_ok (EStateM.attempt_of_error eq), ?_⟩
      exact .attempt item (fun _ => isSome_abort) fun _ => isSome_abort

/-- A batch with a cause fails with it. -/
theorem noted_finish {c' : Client} (h : Collected .start c progress c') :
    Noted .batch c ((match progress.finish with
      | .ok result => pure result
      | .error e => throw e :
        EStateM Error Client (Array BatchOutcome × Array Completion)) c') := by
  obtain ⟨_, news, accounted, allowed⟩ := h
  unfold Batch.Progress.finish
  cases cause : progress.cause with
  | none =>
    refine ⟨news, accounted, fun event mem => ?_⟩
    cases event with
    | failed e => exact fun broken => absurd (allowed _ mem broken) (by simp [cause])
    | _ => exact allowed _ mem
  | some e =>
    refine ⟨news, accounted, fun event mem => ?_⟩
    cases event with
    | failed e' => exact fun _ => Bool.or_true _
    | _ => exact allowed _ mem

theorem notes_runBatch {commands : List Command} : Notes .batch (runBatch env commands options) := by
  refine .bind (notes_settle.mono Duty.exchange_batch) fun _ => .get_bind fun c => ?_
  dsimp only
  cases Batch.strategy env.opts.disablePipeline c.ctx.localInfile with
  | sequential =>
    obtain ⟨progress, c', ran, collected⟩ := collected_runSequential env
      { options with fetchSize := 0 } commands .start c
    dsimp only
    rw [EStateM.bind_of_ok ran]
    exact noted_finish collected
  | pipelined =>
    obtain ⟨sent, progress, c₁, ran, collected⟩ := collected_sendAhead env commands .start c
    obtain ⟨progress', c', ran', collected'⟩ := collected_readAhead env
      { options with fetchSize := 0 } sent progress c₁
    dsimp only
    rw [EStateM.bind_of_ok ran, EStateM.bind_of_ok ran']
    exact noted_finish (collected.trans collected')

end Exchange

end SqlWire
