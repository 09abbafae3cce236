import SqlWire.Proofs.Statements.Holding

/-!
# Calls that use statements

A batch on a statement of its own prepares it, runs, and gives it back whatever became of its items
(`keeps_executeBatch`). A prepare that is sent ahead is taken over when its response is read
(`keeps_readResponse`). A reset lets the server take all statements away, or leaves them
(`yields_reset`).
-/

namespace SqlWire

open EStateM (Result)
open Net (Env)

variable {env : Env} {start c c' : Client} {deals : List Deal} {held : List PreparedStatement}
  {stale : Stale} {options : StatementOptions} {accounts : Accounts}

namespace Exchange

/-! ## Batches -/

section

variable {commands : List Command} {progress progress' : Batch.Progress}

theorem keeps_runSequential (spares : ∀ command ∈ commands, command.sparesStatements = true)
    (whole : options.fetchSize = 0) :
    Keeps env start (.rest held stale) (runSequential env options commands progress)
      fun _ => .rest held stale := by
  induction commands generalizing progress with
  | nil => exact .pure rfl
  | cons command commands ih =>
    obtain ⟨first, others⟩ := List.forall_mem_cons.mp spares
    refine .attempt_bind (keeps_executeOnce first whole) fun given => ?_
    split
    · exact ih others
    · exact .pure rfl

theorem keeps_sendAhead (spares : ∀ command ∈ commands, command.sparesStatements = true) :
    Keeps env start (.rest held stale) (sendAhead env commands progress)
      fun _ => .rest held stale := by
  induction commands with
  | nil => exact .pure rfl
  | cons command commands ih =>
    obtain ⟨first, others⟩ := List.forall_mem_cons.mp spares
    refine .attempt_bind (keeps_send (Command.sent_of_spares first)) fun given => ?_
    cases given with
    | error e => exact .pure rfl
    | ok mark => exact .bind (ih others) (fun _ _ => .pure rfl) fun _ => rfl

/-- What is sent ahead is of the batch. -/
theorem mem_of_sendAhead {sent : List (Command × Mark)} {command : Command} {mark : Mark}
    (ran : sendAhead env commands progress c = .ok (sent, progress') c') (mem : (command, mark) ∈ sent) :
    command ∈ commands := by
  induction commands generalizing c c' sent progress' with
  | nil =>
    cases ran
    cases mem
  | cons first commands ih =>
    obtain ⟨given, c₁, _, ran⟩ := EStateM.ok_of_bind ran
    cases given with
    | error e =>
      cases ran
      cases mem
    | ok mark' =>
      obtain ⟨⟨others, progress₁⟩, c₂, ahead, ran⟩ := EStateM.ok_of_bind ran
      cases ran
      rcases List.mem_cons.mp mem with same | later
      · cases same
        exact .head _
      · exact .tail _ (ih ahead later)

theorem keeps_readAhead {sent : List (Command × Mark)}
    (spares : ∀ command mark, (command, mark) ∈ sent → command.sparesStatements = true)
    (whole : options.fetchSize = 0) :
    Keeps env start (.rest held stale) (readAhead env options sent progress)
      fun _ => .rest held stale := by
  induction sent generalizing progress with
  | nil => exact .pure rfl
  | cons first sent ih =>
    refine .attempt_bind (keeps_receive (spares _ _ (.head _)) whole) fun given => ?_
    split
    · exact ih fun command mark mem => spares command mark (.tail _ mem)
    · exact .pure rfl

/-- What a batch gives at its end. -/
theorem keeps_finish (progress : Batch.Progress) :
    Keeps env start accounts
      (match progress.finish with
        | .ok result => pure result
        | .error e => throw e) fun _ => accounts := by
  split
  · exact .pure rfl
  · exact .throw rfl

theorem keeps_runBatch (spares : ∀ command ∈ commands, command.sparesStatements = true) :
    Keeps env start (.rest held stale) (runBatch env commands options)
      fun _ => .rest held stale := by
  refine .bind keeps_settle (fun _ _ => .get_bind fun c => ?_) fun _ => rfl
  dsimp only
  split
  · exact .bind (keeps_runSequential spares rfl) (fun _ _ => keeps_finish _) fun _ => rfl
  · refine .bind (keeps_sendAhead spares) (fun sent gave => ?_) fun _ => rfl
    obtain ⟨_, _, ahead⟩ := gave
    refine .bind (keeps_readAhead (fun _ _ mem => spares _ (mem_of_sendAhead ahead mem)) rfl)
      (fun _ _ => keeps_finish _) fun _ => rfl

/-- A statement that is given back while the outcome of a batch is known. -/
theorem keeps_executeBatch {sql : String} {paramSets : List (List Value)} :
    Keeps env start (.rest held stale) (executeBatch env sql paramSets) fun _ => .rest held stale := by
  have executes {f : List Value → Command} (spares : ∀ params, (f params).sparesStatements = true) :
      ∀ command ∈ paramSets.map f, command.sparesStatements = true := by
    intro command mem
    obtain ⟨params, _, rfl⟩ := List.mem_map.mp mem
    exact spares params
  unfold executeBatch
  split
  · refine .bind keeps_prepare (fun statement _ => ?_) fun _ => rfl
    refine .attempt_bind (keeps_runBatch (executes fun _ => rfl)) fun result => ?_
    refine .attempt_bind keeps_closeStatement fun released => ?_
    rw [afterRelease_cons]
    split
    · exact .throw rfl
    · exact .throw rfl
    · exact .pure rfl
  · exact .bind (keeps_runBatch (executes fun _ => rfl)) (fun _ _ => .pure rfl) fun _ => rfl

end

/-! ## Responses that are read later -/

theorem keeps_sendOne {sql : String} :
    Keeps env start (.rest held stale) (sendOne env (.prepare sql)) fun _ => .rest held stale := by
  have waits (mark : Mark) : Keeps env start (.rest held stale)
      (modify fun c => { c with unread := c.unread ++ [(.prepare sql, mark)] })
      fun _ => .rest held stale := by
    refine .modify (fun _ => .known rfl rfl rfl rfl (.inl rfl)) (fun c rest => ?_) (fun _ lost => lost)
      fun _ => rfl
    refine ⟨rest.streaming, rest.infile, fun sent mem => ?_, rest.room⟩
    rcases List.mem_append.mp mem with before | last
    · exact rest.unread sent before
    · exact List.mem_singleton.mp last ▸ rfl
  refine .bind keeps_settleStreaming (fun _ _ => ?_) fun _ => rfl
  refine .bind (keeps_send fun _ => rfl) (fun mark _ => ?_) fun _ => rfl
  exact .bind (waits mark) (fun _ _ => .pure rfl) fun _ => rfl

/-- The oldest statement that was prepared ahead is taken over. -/
theorem keeps_readResponse :
    Keeps env start (.rest held stale) (readResponse env options) (.completed held stale) := by
  refine .of_books notes_readResponse.lasting fun deals c books => ?_
  unfold readResponse
  refine .of_eq (EStateM.bind_of_ok (settleStreaming_of_none books.rest.streaming)) (.get_bind ?_)
  have prepares := books.rest.unread
  cases waiting : c.unread with
  | nil => exact .throw books.kept
  | cons sent unread =>
    rw [waiting] at prepares
    obtain ⟨first, others⟩ := List.forall_mem_cons.mp prepares
    have other : sent.1 ≠ .resetConnection := fun same => by
      rw [same] at first
      cases first
    have reads : Keeps env start (.rest held stale) (do
        modify fun c : Client => { c with unread }
        complete env (← readFor env sent.1 sent.2 options)) (.completed held stale) :=
      .bind (keeps_setUnread others) (fun _ _ => .bind (keeps_readFor other (.inl first))
        (fun response _ => keeps_complete response) fun _ => rfl) fun _ => rfl
    exact reads books.kept

/-! ## Resets -/

theorem keeps_setTimeout {timeout : Option Nat} :
    Keeps env start accounts (setTimeout timeout) fun _ => accounts := by
  refine .of_books notes_setTimeout.lasting fun deals c books => ?_
  cases set : c.channel.setTimeout timeout with
  | error fault =>
    have failed : setTimeout timeout c = Client.fail (.io fault) c := by
      unfold setTimeout
      rw [set]
    exact .of_eq failed (keeps_fail rfl books.kept)
  | ok channel =>
    have ran : setTimeout timeout c = .ok () { c with channel } := by
      unfold setTimeout
      rw [set]
    exact .of_ok ran (books.aside (.limited set) (books.rest.of_same rfl) rfl).kept

theorem keeps_applyProperty {property : Session.Property} :
    Keeps env start (.rest held stale) (applyProperty env property) fun _ => .rest held stale := by
  have executes {command : Command} (spares : command.sparesStatements = true) :
      Keeps env start (.rest held stale) (do let _ ← execute env command {})
        fun _ => .rest held stale :=
    .bind (keeps_execute (keeps_executeOnce spares rfl) fun _ => rfl) (fun _ _ => .pure rfl) fun _ => rfl
  cases property with
  | networkTimeout timeout => exact keeps_setTimeout
  | readOnly on => exact .pure rfl
  | autocommit _ | database _ | isolation _ => exact executes rfl

theorem keeps_askVersion :
    Keeps env start (.rest held stale) (askVersion env) fun _ => .rest held stale := by
  refine .attempt_bind (keeps_executeOnce rfl rfl) fun given => ?_
  cases given with
  | error e =>
    dsimp only
    split
    · exact .throw rfl
    · exact .pure rfl
  | ok response =>
    dsimp only
    split
    · exact keeps_fail rfl
    · exact .pure rfl

theorem keeps_usesServerReset :
    Keeps env start (.rest held stale) (usesServerReset env) fun _ => .rest held stale := by
  have asks : Keeps env start (.rest held stale) (serverVersion env) fun _ => .rest held stale := by
    refine .get_bind fun c => ?_
    split
    · exact .pure rfl
    · refine .bind keeps_askVersion (fun version _ => ?_) fun _ => rfl
      have noted : Keeps env start (.rest held stale)
          (modify (·.withContext ({ · with version := some version }))) fun _ => .rest held stale :=
        .modify (fun _ => .known rfl rfl rfl rfl (.inl rfl))
          (fun _ rest => rest.of_same rfl) (fun _ lost => lost) fun _ => rfl
      exact .bind noted (fun _ _ => .pure rfl) fun _ => rfl
  unfold usesServerReset
  split
  · exact .bind asks (fun _ _ => .pure rfl) fun _ => rfl
  · exact .pure rfl

/-- The response to a reset is read, and the cache cleared. -/
theorem cleared_of_books (books : Books env start deals (.rest held stale) c)
    (step : c.Step env [.reset] c') (rest : c'.AtRest) (same : c'.ctx.statements = c.ctx.statements) :
    Books env start (deals ++ [.reset]) (.rest [] (stale.taken held))
      (c'.withContext fun ctx => { ctx with statements := ctx.statements.clear.2 }) := by
  refine ⟨(books.dealt.more step).aside (.cached .cleared), rest.of_same rfl, ?_, fun few => ?_⟩
  · rw [List.countP_append, books.resets]
    rfl
  · have cleared := (books.balanced few.of_append).cleared
    rwa [← same] at cleared

/-- The server takes all statements away, and the client drops them. -/
theorem keeps_resetConnection :
    Keeps env start (.rest held stale) (do
        let _ ← executeOnce env .resetConnection {}
        modify (·.withContext fun ctx => { ctx with statements := ctx.statements.clear.2 }))
      (.cleared held stale) := by
  unfold executeOnce
  rw [bind_assoc]
  refine .bind (keeps_send fun _ => rfl) (fun mark _ => ?_) fun _ => rfl
  have notes : Notes .exchange (do
      let _ ← (do complete env (← readFor env .resetConnection mark {}))
      modify (·.withContext fun ctx => { ctx with statements := ctx.statements.clear.2 })) :=
    .bind (.bind (notes_readFor.mono Duty.answering_exchange) fun _ =>
      notes_complete.mono Duty.aside_exchange) fun _ => .modify (fun _ => rfl) fun _ => rfl
  refine .of_books notes.lasting fun deals c books => ?_
  let c₀ := { c with channel := c.channel.restore mark }
  have restored : Books env start deals (.rest held stale) c₀ := books.restored mark
  have received : Yields (do complete env (← readFor env .resetConnection mark {})) c fun given c' =>
      c'.IsLost ∨ Taken env .resetConnection c₀ given c' := by
    refine (yields_readFor books.rest (.inr rfl)).bind (fun response c₁ read => ?_) fun _ _ => id
    rcases read with lost | taken
    · exact (notes_complete.lasting.yields lost).mono fun _ _ => .inl
    · cases response with
      | none | completions _ => exact .pure (.inr taken)
      | prepared statement => cases taken.prepares statement rfl
  refine received.bind (fun response c₁ read => .of_ok rfl (read.imp_right fun taken => ?_))
    fun e c₁ read => read.imp_right fun taken => ?_
  · have step : c₀.Step env [.reset] c₁ := by
      cases response with
      | none | completions _ => exact taken.step
      | prepared statement => cases taken.prepares statement rfl
    exact ⟨_, cleared_of_books restored step taken.rest taken.statements⟩
  · have same : c₁.ctx.statements = c₀.ctx.statements := taken.statements
    have after : Books env start deals (.rest held stale) c₁ :=
      restored.still taken.step taken.rest fun _ balanced => same ▸ balanced
    exact ⟨[], (List.append_nil deals).symm ▸ after⟩

/-- The changed properties are set again, and the client is in its first state. -/
theorem keeps_restart {onServer : Bool} :
    Keeps env start (.rest held stale) (do
        (Session.resetPlan (← get).ctx.changed env.opts onServer).forM (applyProperty env)
        modify fun c => (c.withContext (·.afterReset env.opts)).note .reset)
      fun _ => .rest held stale := by
  have lasting : Lasting (modify fun c : Client => (c.withContext (·.afterReset env.opts)).note .reset :
      EStateM Error Client PUnit) := fun c lost => by
    have after : ((c.withContext (·.afterReset env.opts)).note .reset).IsLost := lost.of_journal rfl
    exact after
  refine .get_bind fun c => .bind (.forM fun _ _ => keeps_applyProperty) (fun _ _ => ?_) fun _ => rfl
  exact .modify (fun _ => .known rfl rfl rfl rfl (.inr rfl))
    (fun _ rest => rest.of_same rfl) lasting fun _ => rfl

/-- Statements that were held are held behind a reset, or the server has taken all of them away. -/
theorem yields_reset (kept : Kept env start deals (.rest held stale) c) :
    Yields (reset env) c fun _ c' => Kept env start deals (.rest held stale) c' ∨
      Kept env start deals (.rest [] (stale.taken held)) c' := by
  unfold reset
  refine (keeps_settle kept).bind (fun _ c kept => ?_) fun _ _ kept => .inl kept
  refine (keeps_usesServerReset kept).bind (fun onServer c kept => ?_) fun _ _ kept => .inl kept
  cases onServer with
  | true =>
    rw [if_pos rfl, ← bind_assoc]
    refine (keeps_resetConnection kept).bind (fun _ c kept => ?_) fun _ _ kept => .inl kept
    exact (keeps_restart kept).mono fun _ _ => .inr
  | false =>
    rw [if_neg Bool.false_ne_true]
    refine .get_bind ?_
    split
    · refine (keeps_executeOnce rfl rfl kept).bind (fun _ c kept => ?_) fun _ _ kept => .inl kept
      exact (keeps_restart kept).mono fun _ _ => .inl
    · exact (keeps_restart kept).mono fun _ _ => .inl

end Exchange

end SqlWire
