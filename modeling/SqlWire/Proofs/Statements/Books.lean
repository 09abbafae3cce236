import SqlWire.Proofs.Statements.Answers

/-!
# Books of a run

`Books env start deals accounts c` says that a run has led from `start` to `c` with these deals, and
that they balance with these accounts. A part of a run that `Keeps` the books leads from accounts to
others that depend on what it gives; the only other outcome is a lost connection. The rules follow the
way runs are put together, and the lemmas behind them go from one command to what is done with its
response (`keeps_executeOnce`).
-/

namespace SqlWire

open EStateM (Result)
open Net (Env)

variable {α β : Type} {env : Env} {start c c' : Client} {deals more new : List Deal}
  {accounts accounts' : Accounts} {held : List PreparedStatement} {stale : Stale} {command : Command}
  {mark : Mark} {options : StatementOptions} {e : Error}

/-- A run has led here with these deals, and they balance with the accounts. -/
structure Books (env : Env) (start : Client) (deals : List Deal) (accounts : Accounts) (c : Client) :
    Prop where
  dealt : start.Deals env deals c
  rest : c.AtRest
  resets : deals.countP Deal.isReset = accounts.stale.resets
  balanced : Deal.Few deals → Balanced deals accounts c.ctx.statements

namespace Books

theorem step (books : Books env start deals accounts c) (step : c.Step env new c') (rest : c'.AtRest)
    (resets : accounts.stale.resets + new.countP Deal.isReset = accounts'.stale.resets)
    (balanced : Deal.Few (deals ++ new) → Balanced deals accounts c.ctx.statements →
      Balanced (deals ++ new) accounts' c'.ctx.statements) :
    Books env start (deals ++ new) accounts' c' where
  dealt := books.dealt.more step
  rest := rest
  resets := by rw [List.countP_append, books.resets, resets]
  balanced few := balanced few (books.balanced few.of_append)

/-- A step without deals. -/
theorem still (books : Books env start deals accounts c) (step : c.Step env [] c') (rest : c'.AtRest)
    (balanced : Deal.Few deals → Balanced deals accounts c.ctx.statements →
      Balanced deals accounts' c'.ctx.statements)
    (same : accounts.stale.resets = accounts'.stale.resets := by rfl) :
    Books env start deals accounts' c' := by
  have after : Books env start (deals ++ []) accounts' c' := books.step step rest same <| by
    rw [List.append_nil]
    exact balanced
  rwa [List.append_nil] at after

/-- A step that leaves the statements. -/
theorem aside (books : Books env start deals accounts c) (aside : c.Aside c') (rest : c'.AtRest)
    (same : c'.ctx.statements = c.ctx.statements) : Books env start deals accounts c' :=
  books.still (.aside aside) rest fun _ balanced => same.symm ▸ balanced

/-- Reading goes back to where a response begins. -/
theorem restored (books : Books env start deals accounts c) (mark : Mark) :
    Books env start deals accounts { c with channel := c.channel.restore mark } :=
  books.aside (.restored mark) (books.rest.of_same rfl) rfl

/-- The cache is changed. -/
theorem cached {statements : StatementCache} (books : Books env start deals accounts c)
    (cached : Client.Cached c.ctx.statements statements)
    (balanced : Deal.Few deals → Balanced deals accounts c.ctx.statements →
      Balanced deals accounts' statements)
    (same : accounts.stale.resets = accounts'.stale.resets := by rfl) :
    Books env start deals accounts' (c.withContext ({ · with statements })) :=
  books.still (.aside (.cached cached)) (books.rest.of_same rfl) balanced same

end Books

/-- The connection is lost, or the books were kept, with more deals behind these. -/
def Kept (env : Env) (start : Client) (deals : List Deal) (accounts : Accounts) (c : Client) : Prop :=
  c.IsLost ∨ ∃ more, Books env start (deals ++ more) accounts c

theorem Books.kept (books : Books env start deals accounts c) : Kept env start deals accounts c :=
  .inr ⟨[], (List.append_nil deals).symm ▸ books⟩

theorem Kept.of_append (kept : Kept env start (deals ++ more) accounts c) :
    Kept env start deals accounts c :=
  kept.imp_right fun ⟨others, books⟩ => ⟨more ++ others, List.append_assoc .. ▸ books⟩

/-! ## Runs -/

/-- A lost connection stays lost. -/
def Lasting (run : EStateM Error Client α) : Prop := ∀ ⦃c⦄, c.IsLost → (run c).state.IsLost

theorem Notes.lasting {duty : Duty} {run : EStateM Error Client α} (notes : Notes duty run) :
    Lasting run := fun c lost => (notes c).isLost lost

theorem Conducts.lasting {hides : Error → Bool} {run : EStateM Error Client α}
    (conducts : Conducts hides run) : Lasting run := fun c lost => (conducts c).isLost lost

theorem Lasting.yields {run : EStateM Error Client α} (lasting : Lasting run) (lost : c.IsLost) :
    Yields run c fun _ c' => c'.IsLost := by
  have stays := lasting lost
  unfold Yields
  split <;> next eq =>
    rw [eq] at stays
    exact stays

/-- From books with these accounts, the run leads to books with those accounts, which depend on what
it gives. -/
def Keeps (env : Env) (start : Client) (accounts : Accounts) (run : EStateM Error Client α)
    (after : Except Error α → Accounts) : Prop :=
  ∀ ⦃deals c⦄, Kept env start deals accounts c →
    Yields run c fun given c' => Kept env start deals (after given) c'

namespace Keeps

variable {run : EStateM Error Client α} {mid after : Except Error α → Accounts}

theorem of_books (lasting : Lasting run) (h : ∀ ⦃deals c⦄, Books env start deals accounts c →
    Yields run c fun given c' => Kept env start deals (after given) c') :
    Keeps env start accounts run after := by
  rintro deals c (lost | ⟨more, books⟩)
  · exact (lasting.yields lost).mono fun _ _ => .inl
  · exact (h books).mono fun _ _ => .of_append

theorem pure {a : α} (same : accounts = after (.ok a)) : Keeps env start accounts (Pure.pure a) after :=
  fun _ _ kept => .pure (same ▸ kept)

theorem throw (same : accounts = after (.error e)) : Keeps env start accounts (throw e) after :=
  fun _ _ kept => .throw (same ▸ kept)

/-- What the first part can give is known in the second one. -/
theorem bind {next : α → EStateM Error Client β} {after : Except Error β → Accounts}
    (h : Keeps env start accounts run mid)
    (h' : ∀ a, (∃ c c', run c = .ok a c') → Keeps env start (mid (.ok a)) (next a) after)
    (failed : ∀ e, mid (.error e) = after (.error e)) :
    Keeps env start accounts (run >>= next) after := by
  intro deals c kept
  have first := h kept
  cases eq : run c with
  | ok a c₁ => exact .of_eq (EStateM.bind_of_ok eq) (h' a ⟨c, c₁, eq⟩ (first.result eq))
  | error e c₁ => exact .of_error (EStateM.bind_of_error eq) (failed e ▸ first.failure eq)

theorem attempt_bind {next : Except Error α → EStateM Error Client β}
    {after : Except Error β → Accounts} (h : Keeps env start accounts run mid)
    (h' : ∀ given, Keeps env start (mid given) (next given) after) :
    Keeps env start accounts (run.attempt >>= next) after :=
  fun _ _ kept => (h kept).attempt_bind fun given _ kept => h' given kept

theorem get_bind {next : Client → EStateM Error Client α}
    (h : ∀ c, Keeps env start accounts (next c) after) :
    Keeps env start accounts (MonadState.get >>= next) after := fun _ c kept => h c kept

/-- The client changes something that the books are not about. -/
theorem modify {f : Client → Client} (aside : ∀ c : Client, c.Aside (f c))
    (rest : ∀ c : Client, c.AtRest → (f c).AtRest)
    (journal : Lasting (modify f : EStateM Error Client PUnit))
    (statements : ∀ c, (f c).ctx.statements = c.ctx.statements) :
    Keeps env start accounts (modify f) fun _ => accounts :=
  .of_books journal fun _ c books =>
    (books.aside (aside c) (rest c books.rest) (statements c)).kept

theorem forM {list : List β} {f : β → EStateM Error Client Unit}
    (h : ∀ b ∈ list, Keeps env start accounts (f b) fun _ => accounts) :
    Keeps env start accounts (list.forM f) fun _ => accounts := by
  induction list with
  | nil => exact .pure rfl
  | cons b list ih =>
    exact .bind (h b (.head _)) (fun _ _ => ih fun b mem => h b (.tail _ mem)) fun _ => rfl

end Keeps

/-! ## One command -/

/-- The server opens no statement for the command and closes none. -/
def Command.sparesStatements : Command → Bool
  | prepare _ | closeStatement _ | resetConnection => false
  | _ => true

namespace Command

variable (spares : command.sparesStatements = true)

include spares

theorem ne_reset_of_spares : command ≠ .resetConnection := by
  rintro rfl
  cases spares

theorem isPrepare_of_spares : Exchange.isPrepare command = false := by
  cases command <;> first | rfl | cases spares

theorem sent_of_spares (c : Client) : Deal.sent c command = [] := by
  cases command <;> first | rfl | cases spares

end Command

/-- What a response that was read makes of the accounts. -/
def Accounts.read (held : List PreparedStatement) (stale : Stale) : Except Error Response → Accounts
  | .ok (.prepared statement) => ⟨held, stale, [statement.id], []⟩
  | _ => .rest held stale

/-- What a response that was taken over makes of them. -/
def Accounts.completed (held : List PreparedStatement) (stale : Stale) : Except Error Response → Accounts
  | .ok (.prepared statement) => .rest (statement :: held) stale
  | _ => .rest held stale

/-- What a statement that was given out makes of them. -/
def Accounts.prepared (held : List PreparedStatement) (stale : Stale) :
    Except Error PreparedStatement → Accounts
  | .ok statement => .rest (statement :: held) stale
  | .error _ => .rest held stale

/-- Statements that the server takes away are not held any more. -/
def Accounts.cleared (held : List PreparedStatement) (stale : Stale) : Except Error PUnit → Accounts
  | .ok _ => .rest [] (stale.taken held)
  | .error _ => .rest held stale

theorem Books.taken {given : Except Error Response} (books : Books env start deals (.rest held stale) c)
    (other : command ≠ .resetConnection) (taken : Taken env command c given c') :
    Books env start (deals ++ Deal.given command given) (.read held stale given) c' := by
  have ⟨step, rest, statements, _⟩ := taken
  cases given with
  | error e =>
    exact books.step step rest rfl fun _ balanced => statements ▸ (List.append_nil deals).symm ▸ balanced
  | ok response =>
    cases response with
    | prepared statement =>
      exact books.step step rest rfl fun _ balanced => statements ▸ balanced.returned statement.id
    | none | completions _ =>
      unfold Deal.given at *
      rw [if_neg other] at *
      exact books.step step rest rfl fun _ balanced =>
        statements ▸ (List.append_nil deals).symm ▸ balanced

namespace Exchange

theorem keeps_send (other : ∀ c, Deal.sent c command = []) :
    Keeps env start accounts (send env command) fun _ => accounts := by
  refine .of_books notes_send.lasting fun deals c books => ?_
  have rest : Client.AtRest (send env command c).state := atRest_send books.rest
  have same : Undisturbed c (send env command c).state := undisturbed_send c
  have step : c.Step env [] (send env command c).state := by
    cases eq : send env command c with
    | ok mark c' => exact other c ▸ Client.Step.sent eq
    | error e c' => exact .unsent eq
  have kept := (books.still step rest fun _ balanced => same.statements ▸ balanced).kept
  unfold Yields
  split <;> next eq =>
    rw [eq] at kept
    exact kept

/-- What the cache has passed on is closed. -/
theorem keeps_closeOnServer {ids : List UInt32} {after : Except Error Unit → Accounts}
    (closed : after (.ok ()) = .rest held stale) :
    Keeps env start ⟨held, stale, [], ids⟩ (closeOnServer env ids) after := by
  induction ids with
  | nil => exact .pure closed.symm
  | cons id ids ih =>
    refine .of_books notes_closeOnServer.lasting fun deals c books => ?_
    cases sent : send env (.closeStatement id) c with
    | error e c' => exact .of_error (EStateM.bind_of_error sent) (.inl (isLost_of_send books.rest sent))
    | ok mark c' =>
      have rest : Client.AtRest (send env (.closeStatement id) c).state := atRest_send books.rest
      rw [sent] at rest
      have same : c'.ctx.statements = c.ctx.statements := (undisturbed_send.result sent).statements
      have closed : Books env start _ ⟨held, stale, [], ids⟩ c' :=
        books.step (.sent sent) rest rfl fun _ balanced => by
          rw [same]
          exact balanced.closed
      exact .of_eq (EStateM.bind_of_ok sent) ((ih closed.kept).mono fun _ _ => .of_append)

/-- Without a stop, a response is read to its end. -/
theorem yields_readFor (rest : c.AtRest) (whole : isPrepare command = true ∨ options.fetchSize = 0) :
    Yields (readFor env command mark options) c fun given c' => c'.IsLost ∨
      Taken env command { c with channel := c.channel.restore mark } given c' := by
  have rest₀ : Client.AtRest { c with channel := c.channel.restore mark } := rest.of_same rfl
  have begins : Reader.Begins (.new command c.ctx.deprecateEof options) command c.ctx :=
    ⟨options, .inl rfl⟩
  cases read : readUntil env command (.new command c.ctx.deprecateEof options)
      { c with channel := c.channel.restore mark } with
  | error e c₁ =>
    have ran : readFor env command mark options c = .error e c₁ := by
      unfold readFor
      dsimp only
      rw [read]
    exact .of_error ran (.inl (tells_readUntil.isLost read))
  | ok result c₁ =>
    obtain ⟨reader', stop⟩ := result
    have done : stop = .done := by
      rcases whole with prepares | whole
      · exact (done_of_readUntil (kind_of_isPrepare prepares) begins.isPrepared read).1
      · exact stop_of_readUntil whole read
    subst done
    have ran : readFor env command mark options c = finishResponse command reader' c₁ := by
      unfold readFor
      dsimp only
      rw [read]
    exact .of_eq ran (taken_finishResponse rest₀ begins read)

theorem keeps_readFor (other : command ≠ .resetConnection)
    (whole : isPrepare command = true ∨ options.fetchSize = 0) :
    Keeps env start (.rest held stale) (readFor env command mark options) (.read held stale) := by
  refine .of_books notes_readFor.lasting fun deals c books => ?_
  refine (yields_readFor books.rest whole).mono fun given c' read => read.imp_right fun taken => ?_
  exact ⟨_, (books.restored mark).taken other taken⟩

/-- A statement that was returned is taken over, and the ones that leave the cache are closed. -/
theorem keeps_complete (response : Response) :
    Keeps env start (.read held stale (.ok response)) (complete env response)
      (.completed held stale) := by
  cases response with
  | none | completions _ => exact .pure rfl
  | prepared statement =>
    refine .of_books notes_complete.lasting fun deals c books => ?_
    let cache := c.ctx.statements
    let c₁ := c.withContext ({ · with statements := (cache.insert statement).2.2 })
    have inserted : Books env start deals
        ⟨(cache.insert statement).1 :: held, stale, [], (cache.insert statement).2.1⟩ c₁ :=
      books.cached (.inserted statement) fun few balanced => balanced.inserted few
    let after : Except Error Unit → Accounts
      | .ok _ => .rest ((cache.insert statement).1 :: held) stale
      | .error _ => .rest held stale
    have closed : Yields (closeOnServer env (cache.insert statement).2.1) c₁ fun given c' =>
        Kept env start deals (after given) c' := keeps_closeOnServer rfl inserted.kept
    cases eq : closeOnServer env (cache.insert statement).2.1 c₁ with
    | ok _ c' =>
      have ran : complete env (.prepared statement) c = .ok (.prepared (cache.insert statement).1) c' := by
        dsimp only [complete]
        rw [eq]
      exact .of_ok ran (closed.result eq)
    | error e c' =>
      have ran : complete env (.prepared statement) c = .error e c' := by
        dsimp only [complete]
        rw [eq]
      exact .of_error ran (closed.failure eq)

/-- A statement is prepared and taken over. -/
theorem keeps_executeOnce_prepare {sql : String} :
    Keeps env start (.rest held stale) (executeOnce env (.prepare sql) options)
      (.completed held stale) :=
  .bind (keeps_send fun _ => rfl) (fun _ _ => .bind (keeps_readFor nofun (.inl rfl))
    (fun response _ => keeps_complete response) fun _ => rfl) fun _ => rfl

/-- The response to another command has nothing to be taken over. -/
theorem keeps_receive (spares : command.sparesStatements = true) (whole : options.fetchSize = 0) :
    Keeps env start (.rest held stale) (do complete env (← readFor env command mark options))
      fun _ => .rest held stale := by
  refine .bind (keeps_readFor (Command.ne_reset_of_spares spares) (.inr whole))
    (fun response ⟨_, _, gave⟩ => ?_) fun _ => rfl
  cases response with
  | none | completions _ => exact .pure rfl
  | prepared statement =>
    cases (isPrepare_of_prepared gave).symm.trans (Command.isPrepare_of_spares spares)

theorem keeps_executeOnce (spares : command.sparesStatements = true) (whole : options.fetchSize = 0) :
    Keeps env start (.rest held stale) (executeOnce env command options)
      fun _ => .rest held stale :=
  .bind (keeps_send (Command.sent_of_spares spares)) (fun _ _ => keeps_receive spares whole) fun _ => rfl

end Exchange

end SqlWire
