import SqlWire.Proofs.Statements.Calls

/-!
# Clients that were just opened

The statements that set a session up are no prepared ones, so a client that was just opened has an empty
cache, whatever the server has answered. Its books begin with no deals (`Client.books_new`).
-/

namespace SqlWire

open Net (Env World)

variable {env : Env} {commands : List Command} {progress : Batch.Progress} {c : Client}

namespace Exchange

/-! ## Batches without prepares -/

section

variable (other : ∀ command ∈ commands, isPrepare command = false)

include other

theorem undisturbed_runSequential : Along Undisturbed (runSequential env {} commands progress) := by
  induction commands generalizing progress with
  | nil => exact .pure _
  | cons command commands ih =>
    obtain ⟨first, others⟩ := List.forall_mem_cons.mp other
    refine .bind (.attempt (undisturbed_executeOnce first rfl)) fun given => ?_
    split
    · exact ih others
    · exact .pure _

omit other in
theorem undisturbed_sendAhead : Along Undisturbed (sendAhead env commands progress) := by
  induction commands with
  | nil => exact .pure _
  | cons command commands ih =>
    refine .bind (.attempt undisturbed_send) fun given => ?_
    cases given with
    | error e => exact .pure _
    | ok mark => exact .bind ih fun _ => .pure _

omit other in
theorem undisturbed_readAhead {sent : List (Command × Mark)}
    (other : ∀ command mark, (command, mark) ∈ sent → isPrepare command = false) :
    Along Undisturbed (readAhead env {} sent progress) := by
  induction sent generalizing progress with
  | nil => exact .pure _
  | cons first sent ih =>
    refine .bind (.attempt (undisturbed_receive (other _ _ (.head _)) rfl)) fun given => ?_
    split
    · exact ih fun command mark mem => other command mark (.tail _ mem)
    · exact .pure _

omit other in
theorem undisturbed_finish (progress : Batch.Progress) :
    Along Undisturbed (match progress.finish with
      | .ok result => pure result
      | .error e => throw e :
      EStateM Error Client (Array BatchOutcome × Array Completion)) := by
  split
  · exact .pure _
  · exact .throw _

theorem undisturbed_runBatch (clear : Clear c) :
    Undisturbed c (runBatch env commands {} c).state := by
  unfold runBatch
  rw [EStateM.bind_of_ok (settle_of_clear clear), EStateM.get_bind]
  cases Batch.strategy env.opts.disablePipeline c.ctx.localInfile with
  | sequential => exact Along.bind (undisturbed_runSequential other) undisturbed_finish c
  | pipelined =>
    dsimp only
    cases ahead : sendAhead env commands .start c with
    | error e c₁ =>
      rw [EStateM.bind_of_error ahead]
      exact undisturbed_sendAhead.result ahead
    | ok result c₁ =>
      rw [EStateM.bind_of_ok ahead]
      have sent : Undisturbed c c₁ := undisturbed_sendAhead.result ahead
      have reads : Along Undisturbed (readAhead env {} result.1 result.2) :=
        undisturbed_readAhead fun _ _ mem => other _ (mem_of_sendAhead ahead mem)
      exact sent.trans (Along.bind reads undisturbed_finish c₁)

end

/-! ## Setting a session up -/

theorem isPrepare_of_setUp (opts : Options) :
    ∀ command ∈ setUpCommands opts, isPrepare command = false := by
  have setting {α : Type} {given : Option α} {property : α → Session.Property} :
      ∀ command ∈ (given.bind fun a => (property a).command?).toList, isPrepare command = false := by
    intro command mem
    obtain ⟨a, _, sets⟩ := Option.bind_eq_some_iff.mp (Option.mem_toList.mp mem)
    cases eq : property a <;> rw [eq] at sets <;> cases sets <;> rfl
  intro command mem
  unfold setUpCommands at mem
  simp only [List.mem_append] at mem
  rcases mem with ((((assigned | isolation) | autocommit) | database) | queries) | limits
  · split at assigned
    · cases assigned
    · cases List.mem_singleton.mp assigned
      rfl
  · exact setting _ isolation
  · exact setting _ autocommit
  · split at database
    · rcases List.mem_cons.mp database with rfl | use
      · rfl
      · cases List.mem_singleton.mp use
        rfl
    · cases database
  · obtain ⟨sql, _, rfl⟩ := List.mem_map.mp queries
    rfl
  · cases List.mem_singleton.mp limits
    rfl

/-- Setting a session up leaves its statements. -/
theorem statements_setUp (clear : Clear c) :
    (setUp env c).state.ctx.statements = c.ctx.statements := by
  have ran : Undisturbed c (runBatch env (setUpCommands env.opts) {} c).state :=
    undisturbed_runBatch (isPrepare_of_setUp env.opts) clear
  unfold setUp
  cases eq : runBatch env (setUpCommands env.opts) {} c with
  | error e c₁ =>
    rw [EStateM.bind_of_error eq]
    rw [eq] at ran
    exact ran.statements
  | ok result c₁ =>
    obtain ⟨_, completions⟩ := result
    rw [EStateM.bind_of_ok eq]
    rw [eq] at ran
    have same : c₁.ctx.statements = c.ctx.statements := ran.statements
    dsimp only
    cases firstRow completions <;> exact same

end Exchange

variable {start : Client} {w w' : World}

theorem Client.statements_new (opened : Client.new env w = .ok start w') :
    start.ctx.statements = .new env.opts.statementCacheSize env.opts.cacheStatements := by
  unfold Client.new at opened
  split at opened
  · cases opened
  · next channel ctx journal w₃ connected =>
    cases opened
    obtain ⟨⟨channel', outcome⟩, w₁, _, connected⟩ := EStateM.ok_of_bind connected
    obtain ⟨_, w₂, _, connected⟩ := EStateM.ok_of_bind connected
    have setUp : Exchange.setUpSession env channel' (.new outcome env.opts) w₂ = _ := connected
    unfold Exchange.setUpSession at setUp
    let idle := (Client.idle channel' w₂ (.new outcome env.opts)).note .opened
    have same : (Exchange.setUp env idle).state.ctx.statements = idle.ctx.statements :=
      Exchange.statements_setUp ⟨rfl, rfl, rfl⟩
    split at setUp
    · next c ready =>
      cases setUp
      rw [ready] at same
      exact same
    · cases setUp

/-- The books of a client that was just opened. -/
theorem Client.books_new (opened : Client.new env w = .ok start w')
    (room : ∀ max ∈ start.ctx.maxAllowedPacket, 5 < max) : Books env start [] (.rest [] ⟨[], 0⟩) start where
  dealt := .none
  resets := rfl
  rest := by
    unfold Client.new at opened
    split at opened <;> cases opened
    exact ⟨rfl, rfl, nofun, room⟩
  balanced _ := by
    rw [Client.statements_new opened]
    exact .start ..

end SqlWire
