import SqlWire.Proofs.Statements.Books

/-!
# Holding statements

A client gives statements back (`keeps_closeStatement`), drops the responses to prepares that nobody
waits for (`keeps_settle`), and takes statements over for its caller (`keeps_prepare`), all of which
keeps the books. A command is sent once more only behind a failure of the socket, and then the
connection is lost (`isLost_of_executeOnce`), so the books have nothing to say about a failover
(`keeps_execute`).
-/

namespace SqlWire

open EStateM (Result)
open Net (Env)

variable {α : Type} {env : Env} {start c c' : Client} {deals : List Deal}
  {held : List PreparedStatement} {stale : Stale} {command : Command} {mark : Mark}
  {options : StatementOptions} {e : Error} {accounts : Accounts}

namespace Exchange

/-! ## Giving statements back -/

/-- The cache after a release is taken over, and what it passes on is to be closed. -/
theorem released_of_books (books : Books env start deals (.rest held stale) c) (handle : UInt32) :
    Books env start deals
      ⟨afterRelease held handle, stale, [], (c.ctx.statements.release handle).1.toList⟩
      (c.withContext ({ · with statements := (c.ctx.statements.release handle).2 })) :=
  books.cached (.released handle) fun _ balanced => balanced.released handle

theorem keeps_releaseUnread {statement : PreparedStatement} :
    Keeps env start (.rest held stale) (releaseUnread env statement)
      fun _ => .rest (afterRelease held statement.handle) stale := by
  refine .of_books notes_releaseUnread.lasting fun deals c books => ?_
  exact .get_bind (.modify_bind (keeps_closeOnServer rfl (released_of_books books statement.handle).kept))

theorem keeps_settleStreaming : Keeps env start (.rest held stale) (settleStreaming env)
    fun _ => .rest held stale :=
  .of_books notes_settleStreaming.lasting fun _ _ books =>
    .of_ok (settleStreaming_of_none books.rest.streaming) books.kept

theorem keeps_closeStatement {statement : PreparedStatement} :
    Keeps env start (.rest held stale) (closeStatement env statement)
      fun _ => .rest (afterRelease held statement.handle) stale := by
  refine .of_books notes_closeStatement.lasting fun deals c books => ?_
  have released := released_of_books books statement.handle
  unfold closeStatement
  refine .get_bind ?_
  generalize c.ctx.statements.release statement.handle = passed at released ⊢
  obtain ⟨id?, statements⟩ := passed
  refine .modify_bind ?_
  cases id? with
  | none => exact .pure released.kept
  | some id =>
    exact .of_eq (EStateM.bind_of_ok (settleStreaming_of_none released.rest.streaming))
      (keeps_closeOnServer rfl released.kept)

/-! ## Settling -/

/-- A statement that nobody waits for is given back at once. -/
theorem keeps_tolerate {result : Except Error Response} :
    Keeps env start (.completed held stale result) (do
        match ← tolerate result with
        | some (.prepared statement) => releaseUnread env statement
        | _ => return) fun _ => .rest held stale := by
  cases result with
  | ok response =>
    cases response with
    | none | completions _ => exact .pure rfl
    | prepared statement =>
      have released : Keeps env start (.rest (statement :: held) stale) (releaseUnread env statement)
          fun _ => .rest (afterRelease (statement :: held) statement.handle) stale :=
        keeps_releaseUnread
      rwa [afterRelease_cons] at released
  | error e =>
    have tolerated : Keeps env start (.rest held stale) (tolerate (.error e : Except Error Response))
        fun _ => .rest held stale := by
      unfold tolerate
      dsimp only
      split
      · exact .throw rfl
      · exact .pure rfl
    refine .bind tolerated (fun response? gave => ?_) fun _ => rfl
    -- What failed gives no statement.
    obtain ⟨c, c', gave⟩ := gave
    have none : response? = none := by
      unfold tolerate at gave
      dsimp only at gave
      split at gave <;> cases gave
      rfl
    rw [none]
    exact .pure rfl

/-- The response to a prepare is dropped, and its statement given back. -/
theorem keeps_dropResponse (prepares : isPrepare command = true) :
    Keeps env start (.rest held stale) (dropResponse env command mark) fun _ => .rest held stale := by
  have other : command ≠ .resetConnection := by
    rintro rfl
    cases prepares
  refine .of_books notes_dropResponse.lasting fun deals c books => ?_
  let c₀ := { c with channel := c.channel.restore mark }
  let reader := (Reader.new command c₀.ctx.deprecateEof {}).discard
  have restored : Books env start deals (.rest held stale) c₀ := books.restored mark
  unfold dropResponse
  refine .modify_bind (.get_bind ?_)
  cases read : readUntil env command reader c₀ with
  | error e c₁ => exact .of_error (EStateM.bind_of_error read) (.inl (tells_readUntil.isLost read))
  | ok result c₁ =>
    obtain ⟨reader', stop⟩ := result
    obtain rfl := stop_of_readUntil rfl read
    have finished : Yields (finishResponse command reader') c₁ fun given c' =>
        Kept env start deals (.read held stale given) c' :=
      (taken_finishResponse restored.rest ⟨{}, .inr rfl⟩ read).mono fun given c' =>
        .imp_right fun taken => ⟨_, restored.taken other taken⟩
    have received : Yields (do complete env (← finishResponse command reader')) c₁ fun given c' =>
        Kept env start deals (.completed held stale given) c' :=
      finished.bind (fun response _ kept => keeps_complete response kept) fun _ _ kept => kept
    exact .of_eq (EStateM.bind_of_ok read) (received.attempt_bind fun _ _ kept => keeps_tolerate kept)

theorem keeps_setUnread {unread : List (Command × Mark)}
    (prepare : ∀ sent ∈ unread, isPrepare sent.1 = true) :
    Keeps env start accounts (modify fun c => { c with unread }) fun _ => accounts :=
  .modify (fun _ => .known rfl rfl rfl rfl (.inl rfl))
    (fun _ rest => ⟨rest.streaming, rest.infile, prepare, rest.room⟩) (fun _ lost => lost) fun _ => rfl

/-- The responses to prepares are dropped. -/
theorem keeps_settleUnread {unread : List (Command × Mark)}
    (prepare : ∀ sent ∈ unread, isPrepare sent.1 = true) :
    Keeps env start (.rest held stale) (settleUnread env unread) fun _ => .rest held stale := by
  induction unread with
  | nil => exact .pure rfl
  | cons sent unread ih =>
    obtain ⟨first, others⟩ := List.forall_mem_cons.mp prepare
    refine .bind (keeps_setUnread others) (fun _ _ => ?_) fun _ => rfl
    exact .bind (keeps_dropResponse first) (fun _ _ => ih others) fun _ => rfl

theorem keeps_settle : Keeps env start (.rest held stale) (settle env) fun _ => .rest held stale := by
  refine .of_books notes_settle.lasting fun deals c books => ?_
  unfold settle
  refine .of_eq (EStateM.bind_of_ok (settleStreaming_of_none books.rest.streaming)) (.get_bind ?_)
  exact keeps_settleUnread books.rest.unread books.kept

/-! ## Running commands -/

/-- What is still to be read stays the same. -/
def SameUnread (c c' : Client) : Prop := c'.unread = c.unread

instance : IsPreorder Client SameUnread where
  refl _ := rfl
  trans _ _ _ h h' := h'.trans h

theorem sameUnread_closeOnServer {ids : List UInt32} : Along SameUnread (closeOnServer env ids) := by
  induction ids with
  | nil => exact .pure _
  | cons id ids ih => exact .bind (fun c => (undisturbed_send c).unread) fun _ => ih

theorem sameUnread_complete {response : Response} : Along SameUnread (complete env response) := by
  cases response with
  | none | completions _ => exact .pure _
  | prepared statement =>
    intro c
    dsimp only [complete]
    split <;> next closed =>
      have same := sameUnread_closeOnServer.result closed
      exact same

theorem sameUnread_releaseUnread {statement : PreparedStatement} :
    Along SameUnread (releaseUnread env statement) :=
  .get_bind fun _ => .bind (.modify fun _ => rfl) fun _ => sameUnread_closeOnServer

theorem sameUnread_dropResponse : Along SameUnread (dropResponse env command mark) := by
  have finish (reader : Reader) : Along SameUnread (finishResponse command reader) := fun c =>
    (undisturbed_finishResponse c).unread
  have tolerated (result : Except Error Response) : Along SameUnread (tolerate result) := by
    unfold tolerate
    split
    · exact .pure _
    · split
      · exact .throw _
      · exact .pure _
  refine .bind (.modify fun _ => rfl) fun _ => .get_bind fun c => ?_
  refine .bind (fun c => (undisturbed_readUntil c).unread) fun _ => ?_
  refine .bind (.attempt (.bind (finish _) fun _ => sameUnread_complete)) fun result => ?_
  refine .bind (tolerated result) fun _ => ?_
  split
  · exact sameUnread_releaseUnread
  · exact .pure _

/-- What is settled has nothing left to be read. -/
theorem unread_settleUnread {unread : List (Command × Mark)} {c' : Client} (same : c.unread = unread)
    (settled : settleUnread env unread c = .ok () c') : c'.unread = [] := by
  induction unread generalizing c with
  | nil =>
    cases settled
    exact same
  | cons sent unread ih =>
    obtain ⟨_, c₁, dropped, settled⟩ :=
      EStateM.ok_of_bind (EStateM.modify_bind.symm.trans settled)
    exact ih (sameUnread_dropResponse.result dropped) settled

theorem unread_settle (settled : settle env c = .ok () c') : c'.unread = [] := by
  obtain ⟨_, c₁, _, settled⟩ := EStateM.ok_of_bind settled
  exact unread_settleUnread rfl settled

/-! A failure of the socket that a command reports has broken the connection. -/

section

variable {fault : IoFault}

theorem isLost_of_send_io (failed : send env command c = .error (.io fault) c') : c'.IsLost := by
  unfold send at failed
  dsimp only at failed
  split at failed
  · cases failed
  · split at failed
    · next written =>
      cases failed
      exact isLost_of_onLine rfl written
    · cases failed

theorem isLost_of_closeOnServer {ids : List UInt32}
    (failed : closeOnServer env ids c = .error (.io fault) c') : c'.IsLost := by
  induction ids generalizing c with
  | nil => cases failed
  | cons id ids ih =>
    rcases EStateM.error_of_bind failed with unsent | ⟨_, c₁, _, failed⟩
    · exact isLost_of_send_io unsent
    · exact ih failed

theorem isLost_of_complete {response : Response}
    (failed : complete env response c = .error (.io fault) c') : c'.IsLost := by
  cases response with
  | none | completions _ => cases failed
  | prepared statement =>
    dsimp only [complete] at failed
    split at failed
    · next closed =>
      cases failed
      exact isLost_of_closeOnServer closed
    · cases failed

theorem isLost_of_readFor (clear : Clear c)
    (failed : readFor env command mark options c = .error (.io fault) c') : c'.IsLost := by
  have restored : Clear { c with channel := c.channel.restore mark } := clear
  unfold readFor at failed
  dsimp only at failed
  split at failed
  · next read =>
    cases failed
    exact tells_readUntil.isLost read
  · cases failed
  · next read =>
    exact absurd failed (finishResponse_ne_io (keepsClear_readUntil.of_ok read restored))

theorem isLost_of_executeOnce (clear : Clear c)
    (failed : executeOnce env command options c = .error (.io fault) c') : c'.IsLost := by
  rcases EStateM.error_of_bind failed with unsent | ⟨mark, c₁, sent, failed⟩
  · exact isLost_of_send_io unsent
  · rcases EStateM.error_of_bind failed with broken | ⟨response, c₂, _, failed⟩
    · exact isLost_of_readFor (keepsClear_send.of_ok sent clear) broken
    · exact isLost_of_complete failed

end

theorem lasting_recover : Lasting (recover env command options e) := by
  intro c lost
  show ((if canReplay c command e then _ else _ : EStateM Error Client Response) c).state.IsLost
  split
  · have failover : Noted (.call true fun _ => false) c
        (noteStranded (failover env command) c) := noted_noteStranded (noted_failover c)
    have again : Noted (.call true fun _ => false) c
        ((do noteStranded (Exchange.failover env command); executeOnce env command options) c) :=
      failover.bind fun _ => notes_executeOnce.mono Duty.exchange_call
    exact again.isLost lost
  · exact lost

/-- What failed is not sent once more unless the connection is lost. -/
theorem yields_recover {accounts : Accounts} {after : Except Error Response → Accounts}
    (kept : Kept env start deals accounts c) (same : after (.error e) = accounts)
    (lost : ∀ fault, e = .io fault → c.IsLost) :
    Yields (recover env command options e) c fun given c' => Kept env start deals (after given) c' := by
  cases replay : canReplay c command e with
  | true =>
    have io : ∃ fault, e = .io fault := by
      unfold canReplay at replay
      split at replay
      · exact ⟨_, rfl⟩
      · cases replay
    obtain ⟨fault, rfl⟩ := io
    exact (lasting_recover.yields (lost fault rfl)).mono fun _ _ => .inl
  | false =>
    have thrown : recover env command options e c = .error e c := by
      show (if canReplay c command e then _ else _ : EStateM Error Client Response) c = _
      rw [if_neg (Bool.not_eq_true _ ▸ replay)]
      rfl
    exact .of_error thrown (same.symm ▸ kept)

/-- A command runs on one session: only on a lost connection it is sent once more. -/
theorem keeps_execute {after : Except Error Response → Accounts}
    (once : Keeps env start (.rest held stale) (executeOnce env command options) after)
    (failed : ∀ e, after (.error e) = .rest held stale) :
    Keeps env start (.rest held stale) (execute env command options) after := by
  have conducts : Conducts (fun _ => false) (execute env command options) := conducts_execute
  refine .of_books conducts.lasting fun deals c books => ?_
  have settles : Yields (settle env) c fun _ c' => Kept env start deals (.rest held stale) c' :=
    keeps_settle books.kept
  cases settled : settle env c with
  | error e c₁ =>
    refine .of_error (EStateM.bind_of_error settled) ?_
    rw [failed]
    exact settles.failure settled
  | ok _ c₁ =>
    refine .of_eq (EStateM.bind_of_ok settled) ?_
    have kept := settles.result settled
    cases ran : executeOnce env command options c₁ with
    | ok response c₂ =>
      exact .of_eq (EStateM.bind_of_ok (EStateM.attempt_of_ok ran)) (.pure ((once kept).result ran))
    | error e c₂ =>
      refine .of_eq (EStateM.bind_of_ok (EStateM.attempt_of_error ran)) ?_
      have after := (once kept).failure ran
      rw [failed] at after
      refine yields_recover after (failed e) fun fault io => ?_
      rcases kept with lost | ⟨_, books⟩
      · exact (notes_executeOnce.result ran).isLost lost
      · have clear : Clear c₁ :=
          ⟨books.rest.streaming, unread_settle settled, by rw [books.rest.infile]; rfl⟩
        exact isLost_of_executeOnce clear (io ▸ ran)

/-! ## Taking statements over -/

theorem keeps_fail {after : Except Error α → Accounts} (broken : e.isBroken = true) :
    Keeps env start accounts (Client.fail e) after :=
  fun _ _ _ => .of_error rfl (.inl (List.any_eq_true.mpr ⟨_, List.mem_append_right _ (.head _), broken⟩))

theorem keeps_prepare {sql : String} :
    Keeps env start (.rest held stale) (prepare env sql) (.prepared held stale) := by
  have conducts : Conducts (fun _ => false) (prepare env sql) := conducts_prepare
  refine .of_books conducts.lasting fun deals c books => ?_
  unfold prepare
  refine .get_bind ?_
  have acquired : ∀ statement, (c.ctx.statements.acquire sql).1 = some statement →
      Books env start deals (.rest (statement :: held) stale)
        (c.withContext ({ · with statements := (c.ctx.statements.acquire sql).2 })) :=
    fun statement found =>
      books.cached (.acquired sql) fun _ balanced => balanced.acquired found
  generalize c.ctx.statements.acquire sql = cached at acquired ⊢
  obtain ⟨cached?, statements⟩ := cached
  cases cached? with
  | some statement => exact .modify_bind (.pure (acquired statement rfl).kept)
  | none =>
    have executes : Keeps env start (.rest held stale) (execute env (.prepare sql) {})
        (.completed held stale) := keeps_execute keeps_executeOnce_prepare fun _ => rfl
    refine (executes books.kept).bind (fun response c₁ kept => ?_) fun _ _ kept => kept
    cases response with
    | none | completions _ => exact keeps_fail rfl kept
    | prepared statement => exact .pure kept

end Exchange

end SqlWire
