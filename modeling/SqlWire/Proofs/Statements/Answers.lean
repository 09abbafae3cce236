import SqlWire.Proofs.Outcome
import SqlWire.Proofs.Redo.Chronicle
import SqlWire.Proofs.Statements.Dealings
import SqlWire.Proofs.Undisturbed

/-!
# Answers about statements

The response to a prepare has no rows, so it is read without a stop and no local file is asked for on
the way (`done_of_readUntil`). A client `IsLost` once a failure has broken its connection. While a
response is read, that is the only way to fail; a short command that closes a statement cannot fail in
another way either (`isLost_of_send`). `Taken` is what a response leaves of a client that is `AtRest`:
a client that is lost, or a step whose deals show in what the response gives.
-/

namespace SqlWire

open EStateM (Result)
open Net (Env)

/-! ## The response to a prepare -/

namespace Reader

open Session (Context)

variable {r r' : Reader} {ctx ctx' : Context}

/-- A stage in the response to a prepare. -/
def Stage.isPrepared : Stage → Bool
  | columns _ | columnsEnd | rows => false
  | _ => true

/-- The response goes on as that to a prepare does: packets are wanted until it is complete. -/
def Straight (result : Result) : Prop :=
  ∀ ⦃wanted r' ctx'⦄, result = .ok wanted (r', ctx') → r'.stage.isPrepared ∧ wanted = r'.progress

theorem straight_error {fault : ProtocolFault} {s : Reader × Context} : Straight (.error fault s) :=
  fun _ _ _ eq => nomatch eq

theorem straight_progress (stage : r'.stage.isPrepared) : Straight (.ok r'.progress (r', ctx')) := by
  intro wanted r'' ctx'' eq
  cases eq
  exact ⟨stage, rfl⟩

theorem isPrepared_afterParams (r : Reader) : r.afterParams.isPrepared := by
  unfold afterParams
  split <;> rfl

theorem straight_firstOfPrepare (packet : Bytes) : Straight (r.firstOfPrepare packet ctx) := by
  unfold firstOfPrepare
  split
  · split
    · exact straight_error
    · refine straight_progress ?_
      dsimp only
      split
      · exact isPrepared_afterParams _
      · rfl
  · exact straight_error

theorem straight_definition (packet : Bytes) (add : Column → Pending → Pending) {next : Reader → Stage}
    (stage : ∀ r, (next r).isPrepared) : Straight (r.definition packet ctx add next) := by
  unfold definition
  split
  · exact straight_error
  · split
    · exact straight_error
    · exact straight_progress (stage _)

theorem straight_definitionsEnd (packet : Bytes) {next : Reader} (stage : next.stage.isPrepared) :
    Straight (r.definitionsEnd packet ctx next) := by
  unfold definitionsEnd
  split
  · exact straight_error
  · exact straight_progress stage

theorem straight_accept (kind : r.kind = .prepare) (stage : r.stage.isPrepared) (payload : ByteArray) :
    Straight (r.accept payload ctx) := by
  unfold accept
  dsimp only
  split
  case h_1 =>
    rw [kind]
    exact straight_firstOfPrepare _
  case h_2 between | h_3 between | h_4 between =>
    rw [between] at stage
    cases stage
  case h_5 =>
    refine straight_definition _ _ fun r => ?_
    split
    · rfl
    · split
      · exact isPrepared_afterParams _
      · rfl
  case h_6 => exact straight_definitionsEnd _ (isPrepared_afterParams _)
  case h_7 =>
    refine straight_definition _ _ fun r => ?_
    split
    · rfl
    · split <;> rfl
  case h_8 => exact straight_definitionsEnd _ rfl
  case h_9 => exact straight_error

theorem straight_step (kind : r.kind = .prepare) (stage : r.stage.isPrepared) (payload : ByteArray) :
    Straight (step payload (r, ctx)) := by
  dsimp only [step]
  split
  · split
    · exact straight_error
    · next e _ => exact straight_progress (show (r.fail e).stage.isPrepared from rfl)
  · exact straight_accept kind stage payload

theorem Begins.kind {command : Command} (begins : r.Begins command ctx) :
    r.kind = command.responseKind := by
  obtain ⟨options, rfl | rfl⟩ := begins <;> rfl

theorem Begins.isPrepared {command : Command} (begins : r.Begins command ctx) :
    r.stage.isPrepared := by
  have first : (if command.responseKind == .none then Stage.done else .start).isPrepared := by
    split <;> rfl
  obtain ⟨options, rfl | rfl⟩ := begins <;> exact first

end Reader

variable {α : Type} {env : Env} {command : Command} {reader reader' : Reader} {c c' c₁ : Client}
  {e : Error}

namespace Exchange

theorem done_of_readUntil {stop : Stop} (kind : reader.kind = .prepare)
    (stage : reader.stage.isPrepared)
    (read : readUntil env command reader c = .ok (reader', stop) c') :
    stop = .done ∧ c'.infileError = c.infileError := by
  fun_induction readUntil env command reader c with
  | case1 =>
    cases read
    exact ⟨rfl, rfl⟩
  | case2 | case3 | case5 => cases read
  | case4 reader c _ payload c₁ _ reader₁ ctx taken =>
    exact absurd (Reader.straight_step kind stage payload taken).2.symm (Reader.progress_ne _)
  | case6 reader c _ payload c₁ _ name reader₁ ctx taken =>
    have wanted := (Reader.straight_step kind stage payload taken).2
    unfold Reader.progress at wanted
    split at wanted <;> cases wanted
  | case7 reader c _ payload c₁ packet reader₁ ctx taken ih
  | case8 reader c _ payload c₁ packet reader₁ ctx taken ih =>
    obtain ⟨line, -, rfl⟩ := onLine_ok packet
    exact ih ((Reader.kind_step taken).trans kind) (Reader.straight_step kind stage payload taken).1 read

end Exchange

/-! ## Lost connections -/

/-- A failure has broken the connection. -/
def Client.IsLost (c : Client) : Prop := c.journal.any Event.breaks = true

instance (c : Client) : Decidable c.IsLost := inferInstanceAs (Decidable (_ = true))

theorem Client.IsLost.of_journal {news : Journal} (lost : c.IsLost)
    (journal : c'.journal = c.journal ++ news) : c'.IsLost := by
  unfold Client.IsLost at *
  rw [journal, List.any_append, lost, Bool.true_or]

theorem Noted.isLost {duty : Duty} {r : Result Error Client α} (noted : Noted duty c r)
    (lost : c.IsLost) : r.state.IsLost := by
  obtain ⟨news, accounted, _⟩ := noted
  exact lost.of_journal accounted.journal

theorem Tells.isLost {run : EStateM Error Client α} (tells : Tells Event.breaks run)
    (failed : run c = .error e c') : c'.IsLost := by
  obtain ⟨news, journal, event, mem, told⟩ := tells failed
  unfold Client.IsLost
  rw [journal, List.any_append, List.any_eq_true.mpr ⟨event, mem, told⟩, Bool.or_true]

theorem isLost_of_onLine {run : EStateM Error Line α} (broken : e.isBroken = true)
    (failed : Client.onLine run c = .error e c') : c'.IsLost := by
  unfold Client.onLine at failed
  split at failed
  · cases failed
  · cases failed
    exact List.any_eq_true.mpr ⟨_, List.mem_append_right _ (.head _), broken⟩

/-! ## Clients at rest -/

/-- Nothing is given out in parts and no local file was kept back, the responses that are still to be
read are those to prepares, and the server takes the command that closes a statement. -/
structure Client.AtRest (c : Client) : Prop where
  streaming : c.streaming = none
  infile : c.infileError = none
  unread : ∀ sent ∈ c.unread, Exchange.isPrepare sent.1 = true
  room : ∀ max ∈ c.ctx.maxAllowedPacket, 5 < max

/-- Only these parts of a client count. -/
theorem Client.AtRest.of_same (rest : c.AtRest)
    (same : (c'.streaming, c'.infileError, c'.unread, c'.ctx.maxAllowedPacket) =
      (c.streaming, c.infileError, c.unread, c.ctx.maxAllowedPacket)) : c'.AtRest := by
  simp only [Prod.mk.injEq] at same
  obtain ⟨streaming, infile, unread, room⟩ := same
  exact ⟨streaming.trans rest.streaming, infile.trans rest.infile, unread ▸ rest.unread,
    room ▸ rest.room⟩

theorem Client.AtRest.of_undisturbed (rest : c.AtRest) (same : Undisturbed c c')
    (infile : c'.infileError = none) : c'.AtRest where
  streaming := same.streaming.trans rest.streaming
  infile := infile
  unread := same.unread ▸ rest.unread
  room := by
    obtain ⟨_, _, _, eq⟩ := same.ctx
    rw [eq]
    exact rest.room

namespace Exchange

theorem infileError_send : (send env command c).state.infileError = c.infileError := by
  have line {run : EStateM Error Line Unit} {c : Client} {r : Result Error Client Unit}
      (eq : Client.onLine run c = r) : r.state.infileError = c.infileError := by
    subst eq
    unfold Client.onLine
    split <;> rfl
  unfold send
  dsimp only
  split
  · rfl
  · split <;> next written => exact (line written :)

theorem atRest_send (rest : c.AtRest) : Client.AtRest (send env command c).state :=
  rest.of_undisturbed (undisturbed_send c) (infileError_send.trans rest.infile)

/-- A statement is closed on the server unless that breaks the connection. -/
theorem isLost_of_send {id : UInt32} (rest : c.AtRest)
    (failed : send env (.closeStatement id) c = .error e c') : c'.IsLost := by
  let c₁ := { c with channel := c.channel.resetSequence }
  let payload := Bytes.toWire (Command.Code.stmtClose.byte :: Field.u32 id)
  have size : payload.size = 5 := by
    rw [← Bytes.length_ofWire, Bytes.ofWire_toWire]
    rfl
  have written : Breaks (Line.writePacket env payload c.ctx.maxAllowedPacket) :=
    fun _ _ _ failed => (Line.broken_or_le_of_writePacket failed).resolve_right
      fun ⟨max, limit, reached⟩ => Nat.not_lt.mpr (size ▸ reached) (rest.room max limit)
  have encoded : encode c₁.ctx (.closeStatement id) =
      .ok (Command.Code.stmtClose.byte :: Field.u32 id) := rfl
  unfold send at failed
  dsimp only at failed
  rw [encoded] at failed
  dsimp only at failed
  split at failed
  · next wrote =>
    cases failed
    exact (Tells.onLine_of_breaks written).isLost wrote
  · cases failed

end Exchange

/-- The deal that shows in what a response gives. -/
def Deal.given (command : Command) : Except Error Response → List Deal
  | .ok (.prepared statement) => [.returned statement.id]
  | .ok _ => if command = .resetConnection then [.reset] else []
  | .error _ => []

/-- The response to a command was read, and gave this, on a client that was at rest before. -/
structure Taken (env : Env) (command : Command) (c : Client) (given : Except Error Response)
    (c' : Client) : Prop where
  step : c.Step env (Deal.given command given) c'
  rest : c'.AtRest
  statements : c'.ctx.statements = c.ctx.statements
  prepares : ∀ statement, given = .ok (.prepared statement) → Exchange.isPrepare command = true

namespace Exchange

theorem kind_of_isPrepare (prepares : isPrepare command = true) : command.responseKind = .prepare := by
  cases command <;> first | rfl | cases prepares

theorem isPrepare_of_kind (kind : command.responseKind = .prepare) : isPrepare command = true := by
  cases command <;> first | rfl | cases kind

/-- What the server has answered shows in what the response gives, since nothing keeps the response to
a prepare back. -/
theorem given_eq_answered {infileError : Option Error} {result : Except ServerError Response}
    (whole : ∀ statement, result = .ok (.prepared statement) → infileError = none) :
    Deal.given command (verdict infileError result) = Deal.answered command infileError result := by
  cases result with
  | error e => cases infileError <;> rfl
  | ok response =>
    cases response with
    | prepared statement =>
      rw [whole statement rfl]
      rfl
    | none | completions _ => cases infileError <;> simp [verdict, Deal.given, Deal.answered]

/-- The end of a response. -/
theorem taken_finishResponse (rest : c.AtRest) (begins : reader.Begins command c.ctx)
    (read : readUntil env command reader c = .ok (reader', .done) c₁) :
    Yields (finishResponse command reader') c₁ fun given c' =>
      c'.IsLost ∨ Taken env command c given c' := by
  have kind : reader'.kind = command.responseKind := (kind_of_readUntil read).trans begins.kind
  have same : Undisturbed c (finishResponse command reader' c₁).state :=
    (undisturbed_readUntil.result read).trans (undisturbed_finishResponse c₁)
  cases finish : reader'.finish with
  | error fault =>
    have failed : finishResponse command reader' c₁ = Client.fail (.protocol fault) c₁ := by
      unfold finishResponse
      rw [finish]
    have fails : Tells Event.breaks (Client.fail (.protocol fault) : EStateM Error Client Response) :=
      .fail _ rfl
    exact .of_error failed (.inl (fails.isLost rfl))
  | ok result =>
    have gives : Yields (finishResponse command reader') c₁ fun given c' =>
        given = verdict c₁.infileError result ∧ c' = (finishResponse command reader' c₁).state ∧
          c'.infileError = none := by
      unfold Yields finishResponse
      rw [finish]
      dsimp only
      cases verdict c₁.infileError result <;> exact ⟨rfl, rfl, rfl⟩
    refine gives.mono fun given c' ⟨given_eq, state, infile⟩ => .inr ?_
    -- Only a prepare is answered with a statement, and then no file was asked for.
    have prepare {statement : PreparedStatement} (prepared : result = .ok (.prepared statement)) :
        command.responseKind = .prepare := kind.symm.trans (Reader.kind_of_finish (prepared ▸ finish))
    have whole : ∀ statement, result = .ok (.prepared statement) → c₁.infileError = none :=
      fun statement prepared =>
        (done_of_readUntil (begins.kind.trans (prepare prepared)) begins.isPrepared read).2.trans
          rest.infile
    have step := Client.Step.answered begins read finish
    rw [← given_eq_answered whole, ← given_eq, ← state] at step
    rw [← state] at same
    refine ⟨step, rest.of_undisturbed same infile, same.statements, fun statement gave => ?_⟩
    have answered : verdict c₁.infileError result = .ok (.prepared statement) := given_eq.symm.trans gave
    have prepared : result = .ok (.prepared statement) := by
      unfold verdict at answered
      split at answered <;> cases answered
      rfl
    exact isPrepare_of_kind (prepare prepared)

end Exchange

end SqlWire
