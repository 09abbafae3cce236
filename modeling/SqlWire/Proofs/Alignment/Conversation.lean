import SqlWire.Proofs.Alignment.Desk
import SqlWire.Proofs.Call

/-!
# Conversations

A conversation is a run of calls on one connection, to which a server answers command by command. In
whatever order commands are sent ahead, executed, prepared and closed, and responses are read as a
whole, in parts or not at all: the client stays aligned with its desk, so each response is taken to
its end before the next one is touched, and what a call gives is what the server answered to just
the command that the call is about (`faithful_of_served`).
-/

namespace SqlWire

open EStateM (Result)
open Net (Env World)
open Exchange (Part Executed)

/-- A call of a conversation. -/
inductive Talk where
  | sendOne (command : Command)
  | readResponse (options : StatementOptions)
  | execute (command : Command) (options : StatementOptions)
  | readStreaming
  | abandonStreaming
  | prepare (sql : String)
  | closeStatement (statement : PreparedStatement)

namespace Talk

/-- What a call gives. -/
inductive Given where
  | responses (count : Nat)
  | response (response : Response)
  | completions (completions : Array Completion)
  | part (part : Part)
  | statement (statement : PreparedStatement)
  | nothing

def run (env : Env) : Talk → EStateM Error Client Given
  | sendOne command => do return .responses (← Client.sendOne env command)
  | readResponse options => do return .response (← Client.readResponse env options)
  | execute command options => do return .completions (← Client.execute env command options)
  | readStreaming => do return .part (← Client.readStreaming env)
  | abandonStreaming => do
    Client.abandonStreaming env
    return .nothing
  | prepare sql => do return .statement (← Client.prepare env sql)
  | closeStatement statement => do
    Client.closeStatement env statement
    return .nothing

/-- The command with a response that a call is about. -/
def command? : Talk → Option Command
  | sendOne command | execute command _ => some command
  | prepare sql => some (.prepare sql)
  | _ => none

/-- The size of that command if the call comes to send it: what is still to be read is settled first,
and a statement that is in the cache is not prepared again. -/
def asks (env : Env) (c : Client) : Talk → Option Nat
  | sendOne command => Exchange.asksBehind env (Exchange.settleStreaming env) command c
  | execute command options =>
    if Exchange.isPrepare command then none
    else Exchange.asksBehind env (Exchange.settle env) command (c.armed options.timeout)
  | prepare sql =>
    if (c.ctx.statements.acquire sql).1.isSome then none
    else Exchange.asksBehind env (Exchange.settle env) (.prepare sql) c
  | _ => none

/-- What a call may give, and what it leaves on the desk. -/
inductive Right (deprecateEof : Bool) (desk : Desk) (packets : List ByteArray)
    (ctx ctx' : Session.Context) : Talk → Except Error Given → Desk → Prop where
  | sent {command : Command} :
      Right deprecateEof desk packets ctx ctx' (.sendOne command)
        (.ok (.responses command.expectedResponses))
        ⟨none, desk.waiting ++ if 0 < command.expectedResponses then [(command, packets)] else []⟩
  | notSent {command : Command} {e : Error} : ctx'.Refuses command e →
      Right deprecateEof desk packets ctx ctx' (.sendOne command) (.error e) ⟨none, desk.waiting⟩
  | nothingPending {options : StatementOptions} : desk.waiting = [] →
      Right deprecateEof desk packets ctx ctx' (.readResponse options)
        (.error (.usage .nothingPending)) .clear
  /-- The response to the oldest command that waits. -/
  | received {options : StatementOptions} {command : Command} {answer : List ByteArray}
      {waiting : List (Command × List ByteArray)} {given : Except Error Response}
      {current : Option (Streaming × List ByteArray)} : desk.waiting = (command, answer) :: waiting →
      ctx'.Received (.new command deprecateEof options) command answer given current →
      Right deprecateEof desk packets ctx ctx' (.readResponse options) (given.map .response)
        ⟨current, waiting⟩
  | prepareSeparately {command : Command} {options : StatementOptions} :
      Exchange.isPrepare command = true →
      Right deprecateEof desk packets ctx ctx' (.execute command options)
        (.error (.usage .prepareSeparately)) desk
  /-- The response to the command itself. -/
  | executed {command : Command} {options : StatementOptions} {given : Except Error Response}
      {desk' : Desk} : Exchange.isPrepare command = false →
      Executed deprecateEof desk command options packets ctx' given desk' →
      Right deprecateEof desk packets ctx ctx' (.execute command options)
        (given.map fun response => .completions response.toCompletions) desk'
  | nothingStreaming : desk.current = none →
      Right deprecateEof desk packets ctx ctx' .readStreaming (.error (.usage .nothingStreaming)) desk
  /-- The next rows of the response that is given out in parts. -/
  | rows {reader reader' : Reader} {command : Command} {left left' : List ByteArray} :
      desk.current = some (⟨reader, command⟩, left) → reader.Reads left reader' .suspended left' →
      Right deprecateEof desk packets ctx ctx' .readStreaming (.ok (.part (.rows reader'.takeRows.1)))
        ⟨some (⟨reader'.takeRows.2, command⟩, left'), desk.waiting⟩
  /-- The rest of it. -/
  | last {reader reader' : Reader} {command : Command} {left : List ByteArray}
      {result : Except ServerError Response} : desk.current = some (⟨reader, command⟩, left) →
      reader.Reads left reader' .done [] → reader'.finish = .ok result →
      Right deprecateEof desk packets ctx ctx' .readStreaming
        ((result.mapError .server).map fun response => .part (.last response.toCompletions))
        ⟨none, desk.waiting⟩
  | abandoned :
      Right deprecateEof desk packets ctx ctx' .abandonStreaming (.ok .nothing) ⟨none, desk.waiting⟩
  | cached {sql : String} {statement : PreparedStatement} :
      (ctx.statements.acquire sql).1 = some statement →
      Right deprecateEof desk packets ctx ctx' (.prepare sql) (.ok (.statement statement)) desk
  | prepared {sql : String} {statement : PreparedStatement} {desk' : Desk} :
      (ctx.statements.acquire sql).1 = none →
      Executed deprecateEof desk (.prepare sql) {} packets ctx' (.ok (.prepared statement)) desk' →
      Right deprecateEof desk packets ctx ctx' (.prepare sql) (.ok (.statement statement)) desk'
  | notPrepared {sql : String} {e : Error} {desk' : Desk} :
      (ctx.statements.acquire sql).1 = none →
      Executed deprecateEof desk (.prepare sql) {} packets ctx' (.error e) desk' →
      Right deprecateEof desk packets ctx ctx' (.prepare sql) (.error e) desk'
  | kept {statement : PreparedStatement} : (ctx.statements.release statement.handle).1 = none →
      Right deprecateEof desk packets ctx ctx' (.closeStatement statement) (.ok .nothing) desk
  | closed {statement : PreparedStatement} {id : UInt32} :
      (ctx.statements.release statement.handle).1 = some id →
      Right deprecateEof desk packets ctx ctx' (.closeStatement statement) (.ok .nothing)
        ⟨none, desk.waiting⟩
  | notClosed {statement : PreparedStatement} {e : Error} : ctx'.Unclosed e →
      Right deprecateEof desk packets ctx ctx' (.closeStatement statement) (.error e)
        ⟨none, desk.waiting⟩

/-- A call ends as is right, and the client is aligned with what is left on the desk. -/
def Ends (env : Env) (format : Format) (desk : Desk) (packets : List ByteArray) (later : Bytes)
    (ctx : Session.Context) (talk : Talk) (given : Except Error Given) (c : Client) : Prop :=
  ∃ desk', talk.Right format.deprecateEof desk packets ctx c.ctx given desk' ∧
    c.Aligned env format desk' later

end Talk

/-- A call of a conversation, with the response to the command that it sends: as its packets and as
the bytes that carry them. Without a response there are none. -/
structure Turn where
  talk : Talk
  packets : List ByteArray
  wire : Bytes

/-- The server answers the command that the call sends, if it does. -/
def Turn.Answered (env : Env) (turn : Turn) (c : Client) : Prop :=
  match turn.talk.command? with
  | some command =>
    Answer.Answers env c.format command (turn.talk.asks env c) turn.packets turn.wire
  | none => turn.packets = [] ∧ turn.wire = []

/-- The server answers each command that it gets, as long as the connection is open. -/
def Served (env : Env) : List Turn → Client → Prop
  | [], _ => True
  | turn :: turns, c => (c.isClosed = false → turn.Answered env c) ∧
      Served env turns (turn.talk.run env c).state

/-! ## Calls one by one -/

variable {α : Type} {env : Env} {format : Format} {packets : List ByteArray} {wire later : Bytes}
  {command : Command} {options : StatementOptions} {c c' : Client} {desk : Desk} {talk : Talk}

open Talk (Ends Given Right)

namespace Exchange

theorem sendOne_of_aligned (faultless : env.Faultless)
    (answers : Answer.Answers env format command ((Talk.sendOne command).asks env c) packets wire)
    (aligned : c.Aligned env format desk (wire ++ later)) :
    Yields (sendOne env command) c fun given c' =>
      Ends env format desk packets later c.ctx (.sendOne command) (given.map .responses) c' := by
  obtain ⟨bytes, amid, waits⟩ := aligned
  obtain ⟨c₁, settled, amid₁, unread₁⟩ := settleStreaming_of_amid faultless amid
  have asked : (Talk.sendOne command).asks env c = c₁.asks env command := by
    rw [Talk.asks, asksBehind, settled]
  rw [asked] at answers
  rw [← unread₁] at waits
  refine .of_eq (EStateM.bind_of_ok settled) (.bind (send_of_answers faultless answers amid₁) ?_ ?_)
  · rintro mark c₂ ⟨amid₂, unread₂, completes, onWire⟩
    rw [← unread₂] at waits
    by_cases answered : 0 < command.expectedResponses
    · rw [if_pos answered]
      refine .modify_bind (.pure ⟨_, .sent, bytes, ?_, ?_⟩)
      · exact amid₂.of_same rfl rfl rfl rfl amid₂.awaits.infile
      · rw [if_pos answered]
        exact waits.concat completes onWire
    · rw [if_neg answered]
      have silent : command.responseKind = .none := by
        unfold Command.expectedResponses at answered
        split at answered
        · next eq => exact eq_of_beq eq
        · exact absurd Nat.one_pos answered
      rw [silent] at completes
      obtain rfl := completes.eq_nil
      obtain rfl := onWire.eq_nil
      refine .pure ⟨_, .sent, bytes, amid₂, ?_⟩
      rw [if_neg answered, List.append_nil]
      exact waits
  · rintro e c₂ ⟨amid₂, unread₂, refuses, rfl⟩
    rw [← unread₂] at waits
    exact ⟨_, .notSent refuses, bytes, amid₂, waits⟩

theorem readResponse_of_aligned (packets : List ByteArray) (options : StatementOptions)
    (faultless : env.Faultless)
    (aligned : c.Aligned env format desk later) :
    Yields (readResponse env options) c fun given c' =>
      Ends env format desk packets later c.ctx (.readResponse options) (given.map .response) c' := by
  obtain ⟨bytes, amid, waits⟩ := aligned
  obtain ⟨c₁, settled, amid₁, unread₁⟩ := settleStreaming_of_amid faultless amid
  refine .of_eq (EStateM.bind_of_ok settled) (.get_bind ?_)
  rw [unread₁]
  generalize unread_eq : c.unread = unread at waits
  generalize waiting_eq : desk.waiting = waiting at waits
  cases waits with
  | nil => exact .throw ⟨_, .nothingPending waiting_eq, .clear amid₁ (unread₁.trans unread_eq)⟩
  | @cons command mark answer wire bytes _ unread waiting completes onWire waits =>
    have amid₂ : ({ c₁ with unread } : Client).Amid env format none (wire ++ bytes) :=
      amid₁.of_same rfl rfl rfl rfl amid₁.awaits.infile
    refine .modify_bind ((receive_of_amid faultless completes onWire amid₂).mono ?_)
    rintro given c' ⟨unread', current, amid', received⟩
    refine ⟨_, .received waiting_eq received, bytes, amid', ?_⟩
    rw [unread']
    exact waits

theorem readStreaming_of_aligned (faultless : env.Faultless)
    (aligned : c.Aligned env format desk later) :
    Yields (readStreaming env) c fun given c' =>
      Ends env format desk packets later c.ctx .readStreaming (given.map .part) c' := by
  obtain ⟨bytes, amid, waits⟩ := aligned
  refine .get_bind ?_
  rw [amid.streaming]
  generalize current_eq : desk.current = current at amid
  cases current with
  | none =>
    refine .throw ⟨_, .nothingStreaming current_eq, bytes, ?_, waits⟩
    rw [current_eq]
    exact amid
  | some current =>
    obtain ⟨⟨reader, command⟩, left⟩ := current
    obtain ⟨expects, eof, completes⟩ := amid.rows _ _ rfl
    have awaits : ({ c with streaming := none } : Client).Awaits env format left bytes :=
      ⟨amid.awaits.format, amid.awaits.offers, amid.awaits.infile⟩
    obtain ⟨reader', stop, left', c₁, read, reads, halts, awaits₁⟩ := readUntil_of_awaits
      command faultless expects eof completes awaits
    have undisturbed : Undisturbed { c with streaming := none } c₁ := undisturbed_readUntil.result read
    have waits₁ : Waits env format c₁.unread desk.waiting bytes later := by
      rw [undisturbed.unread]
      exact waits
    refine .modify_bind (.of_eq (EStateM.bind_of_ok read) ?_)
    cases stop with
    | suspended =>
      refine .modify_bind (.pure ⟨_, .rows current_eq reads, bytes, ⟨rfl, ?_, ?_⟩, waits₁⟩)
      · exact ⟨awaits₁.format, awaits₁.offers, awaits₁.infile⟩
      · rintro _ _ ⟨⟩
        exact halts.takeRows
    | done =>
      obtain ⟨ended, rfl⟩ := halts
      refine .map ((finishResponse_of_ended ended awaits₁).mono ?_)
      rintro _ c₂ ⟨awaits₂, streaming, unread, result, finished, rfl⟩
      have right : Right format.deprecateEof desk packets c.ctx c₂.ctx .readStreaming _
          ⟨none, desk.waiting⟩ := .last current_eq reads finished
      have amid₂ := Client.Amid.of_awaits awaits₂ (streaming.trans undisturbed.streaming)
      rw [← unread] at waits₁
      cases result with
      | ok | error => exact ⟨_, right, bytes, amid₂, waits₁⟩

theorem settleStreaming_of_aligned (faultless : env.Faultless)
    (aligned : c.Aligned env format desk later) :
    Yields (settleStreaming env) c fun given c' =>
      Ends env format desk packets later c.ctx .abandonStreaming (given.map fun _ => .nothing) c' := by
  obtain ⟨bytes, amid, waits⟩ := aligned
  obtain ⟨c₁, settled, amid₁, unread⟩ := settleStreaming_of_amid faultless amid
  refine .of_ok settled ⟨_, .abandoned, bytes, amid₁, ?_⟩
  rw [unread]
  exact waits

/-- What is given for a PREPARE is a prepared statement. -/
theorem Executed.exists_statement {deprecateEof : Bool} {sql : String} {ctx : Session.Context}
    {response : Response} {desk' : Desk}
    (executed : Executed deprecateEof desk (.prepare sql) {} packets ctx (.ok response) desk') :
    ∃ statement, response = .prepared statement := by
  generalize given_eq : (Except.ok response : Except Error Response) = given at executed
  cases executed with
  | refused | unsettled => cases given_eq
  | received received =>
    cases received with
    | unclosed => cases given_eq
    | @given result current handle gives =>
      cases gives with
      | paused reads => cases reads.stop_eq_done rfl
      | @whole reader _ reads finished =>
        cases result with
        | error => cases given_eq
        | ok response' =>
          obtain ⟨statement, rfl⟩ := Reader.exists_statement_of_finish reads.kind finished
          cases given_eq
          exact ⟨_, rfl⟩

theorem prepare_of_aligned (faultless : env.Faultless) {sql : String}
    (answers : Answer.Answers env format (.prepare sql) ((Talk.prepare sql).asks env c) packets wire)
    (aligned : c.Aligned env format desk (wire ++ later)) :
    Yields (prepare env sql) c fun given c' =>
      Ends env format desk packets later c.ctx (.prepare sql) (given.map .statement) c' := by
  rw [Talk.asks] at answers
  obtain ⟨cached?, statements, acquired⟩ :
      ∃ cached? statements, c.ctx.statements.acquire sql = (cached?, statements) := ⟨_, _, rfl⟩
  have first : (c.ctx.statements.acquire sql).1 = cached? := congrArg Prod.fst acquired
  refine .get_bind ?_
  rw [acquired]
  cases cached? with
  | some statement =>
    rw [if_pos (by rw [first]; rfl)] at answers
    obtain ⟨-, rfl⟩ := answers
    obtain ⟨bytes, amid, waits⟩ := aligned
    refine .modify_bind (.pure ⟨_, .cached first, bytes, ?_, waits⟩)
    exact amid.of_same rfl rfl rfl rfl amid.awaits.infile
  | none =>
    rw [if_neg (by rw [first]; exact Bool.false_ne_true)] at answers
    refine .bind (execute_of_aligned faultless answers aligned) ?_ ?_
    · rintro response c₁ ⟨desk', aligned₁, executed⟩
      obtain ⟨statement, rfl⟩ := executed.exists_statement
      exact .pure ⟨_, .prepared first executed, aligned₁⟩
    · rintro e c₁ ⟨desk', aligned₁, executed⟩
      exact ⟨_, .notPrepared first executed, aligned₁⟩

theorem closeStatement_of_aligned (faultless : env.Faultless) (statement : PreparedStatement)
    (aligned : c.Aligned env format desk later) :
    Yields (closeStatement env statement) c fun given c' =>
      Ends env format desk packets later c.ctx (.closeStatement statement) (given.map fun _ => .nothing)
        c' := by
  obtain ⟨bytes, amid, waits⟩ := aligned
  obtain ⟨id?, statements, released⟩ : ∃ id? statements,
      c.ctx.statements.release statement.handle = (id?, statements) := ⟨_, _, rfl⟩
  have first : (c.ctx.statements.release statement.handle).1 = id? := congrArg Prod.fst released
  refine .get_bind ?_
  rw [released]
  refine .modify_bind ?_
  have amid₁ : (c.withContext ({ · with statements })).Amid env format desk.current bytes :=
    amid.of_same rfl rfl rfl rfl amid.awaits.infile
  cases id? with
  | none => exact .pure ⟨_, .kept first, bytes, amid₁, waits⟩
  | some id =>
    obtain ⟨c₂, settled, amid₂, unread₂⟩ := settleStreaming_of_amid faultless amid₁
    have waits₂ : Waits env format c₂.unread desk.waiting bytes later := by
      rw [unread₂]
      exact waits
    refine .of_eq (EStateM.bind_of_ok settled) ((closeOnServer_of_amid faultless [id] amid₂).mono ?_)
    rintro given c' tidied
    rw [← tidied.unread] at waits₂
    cases given with
    | ok _ => exact ⟨_, .closed first, bytes, tidied.amid, waits₂⟩
    | error e => exact ⟨_, .notClosed (tidied.unclosed e rfl), bytes, tidied.amid, waits₂⟩

end Exchange

/-! ## Under the guard of a call -/

/-- A call fails only with an error of the server, or because the client does not send a command. -/
theorem Talk.Right.isInOrder {deprecateEof : Bool} {ctx ctx' : Session.Context} {e : Error}
    {desk' : Desk} (right : talk.Right deprecateEof desk packets ctx ctx' (.error e) desk') :
    e.isInOrder = true := by
  have executed {command : Command} {options : StatementOptions}
      (executed : Executed deprecateEof desk command options packets ctx' (.error e) desk') :
      e.isInOrder = true := by
    cases executed with
    | received received => exact received.isInOrder
    | refused refuses => exact refuses.isInOrder
    | unsettled _ unclosed => exact unclosed.choose_spec.isInOrder
  generalize given_eq : (Except.error e : Except Error Given) = given at right
  cases right with
  | notSent refuses => cases given_eq; exact refuses.isInOrder
  | nothingPending | prepareSeparately | nothingStreaming => cases given_eq; rfl
  | @received _ _ _ _ given _ _ received =>
    cases given <;> cases given_eq
    exact received.isInOrder
  | @executed _ _ given _ _ executed' =>
    cases given <;> cases given_eq
    exact executed executed'
  | @last _ _ _ _ result _ _ _ =>
    cases result <;> cases given_eq
    rfl
  | notPrepared _ executed' => cases given_eq; exact executed executed'
  | notClosed unclosed => cases given_eq; exact unclosed.choose_spec.isInOrder
  | _ => cases given_eq

theorem Error.isAbrupt_of_isInOrder {e : Error} (own : e.isInOrder = true) : e.isAbrupt = false := by
  cases e with
  | clockRange => cases own
  | _ => rfl

namespace Client

/-- The deadlines of calls play no part. -/
theorem Aligned.of_deadlines (aligned : c.Aligned env format desk later) (deadlines : Deadlines Unit) :
    ({ c with world := { c.world with deadlines } } : Client).Aligned env format desk later := by
  obtain ⟨bytes, amid, waits⟩ := aligned
  exact ⟨bytes, ⟨amid.streaming, ⟨amid.awaits.format, amid.awaits.offers, amid.awaits.infile⟩, amid.rows⟩,
    waits⟩

theorem Aligned.armed (aligned : c.Aligned env format desk later) (timeout : Option Nat) :
    (c.armed timeout).Aligned env format desk later := by
  cases timeout with
  | none => exact aligned
  | some timeout => exact aligned.of_deadlines _

end Client

/-- A call ends as is right, and the client is aligned unless the connection is closed. -/
def Talk.Closes (env : Env) (format : Format) (desk : Desk) (packets : List ByteArray) (later : Bytes)
    (ctx : Session.Context) (talk : Talk) (given : Except Error Given) (c : Client) : Prop :=
  ∃ desk', talk.Right format.deprecateEof desk packets ctx c.ctx given desk' ∧
    (c.isClosed = false → c.Aligned env format desk' later)

theorem Talk.Ends.closes {given : Except Error Given} {ctx : Session.Context}
    (ends : talk.Ends env format desk packets later ctx given c) :
    talk.Closes env format desk packets later ctx given c := by
  obtain ⟨desk', right, aligned⟩ := ends
  exact ⟨desk', right, fun _ => aligned⟩

open Talk (Closes)

namespace Client

theorem guarded_of_ends {run : EStateM Error Client α} {f : α → Given} {ctx : Session.Context}
    (isOpen : c.isClosed = false)
    (ends : Yields run c fun given c' =>
      talk.Ends env format desk packets later ctx (given.map f) c') :
    Yields (guarded run) c fun given c' =>
      talk.Closes env format desk packets later ctx (given.map f) c' := by
  unfold Yields at ends
  cases ran : run c with
  | ok a c₁ =>
    rw [ran] at ends
    refine .of_ok ?_ ends.closes
    unfold guarded
    rw [if_neg (by simp [isOpen]), ran]
  | error e c₁ =>
    rw [ran] at ends
    obtain ⟨desk', right, aligned⟩ := ends
    have abrupt : e.isAbrupt = false := Error.isAbrupt_of_isInOrder right.isInOrder
    have timely : c₁.world.control.timedOut = false := by
      rw [← Bool.not_eq_true]
      intro timedOut
      have closed := isClosed_of_timedOut timedOut
      rw [aligned.isOpen] at closed
      cases closed
    have ended : guarded run c = if e.isBroken then .error e c₁.markClosed.closeChannel
        else .error e c₁ := by
      unfold guarded
      rw [if_neg (by simp [isOpen]), ran]
      simp only [abrupt, timely, aligned.isOpen, Bool.false_eq_true, if_false]
    by_cases broken : e.isBroken = true
    · rw [if_pos broken] at ended
      refine .of_error ended ⟨desk', right, fun isOpen' => ?_⟩
      rw [isClosed_closeChannel] at isOpen'
      cases isOpen'
    · rw [if_neg broken] at ended
      exact .of_error ended ⟨desk', right, fun _ => aligned⟩

theorem timed_of_ends {run : EStateM Error Client α} {f : α → Given} {timeout : Option Nat}
    (isOpen : c.isClosed = false)
    (ends : Yields run (c.armed timeout) fun given c' =>
      talk.Ends env format desk packets later c.ctx (given.map f) c') :
    Yields (timed timeout run) c fun given c' =>
      talk.Closes env format desk packets later c.ctx (given.map f) c' := by
  have guarded := guarded_of_ends ((isClosed_armed timeout c).trans isOpen) ends
  cases timeout with
  | none => exact guarded
  | some timeout =>
    unfold Yields armed at guarded
    unfold Yields timed
    dsimp only at guarded ⊢
    split at guarded
    · next eq =>
      obtain ⟨desk', right, aligned⟩ := guarded
      rw [eq]
      exact ⟨desk', right, fun isOpen => (aligned isOpen).of_deadlines _⟩
    · next eq =>
      obtain ⟨desk', right, aligned⟩ := guarded
      rw [eq]
      exact ⟨desk', right, fun isOpen => (aligned isOpen).of_deadlines _⟩

end Client

/-- What holds of one call of a conversation. -/
theorem Turn.closes_of_answered (faultless : env.Faultless) {turn : Turn}
    (answered : turn.Answered env c) (aligned : c.Aligned env format desk (turn.wire ++ later)) :
    Yields (turn.talk.run env) c
      (turn.talk.Closes env format desk turn.packets later c.ctx) := by
  have isOpen := aligned.isOpen
  obtain ⟨talk, packets, wire⟩ := turn
  have format_eq : c.format = format := by
    obtain ⟨_, amid, _⟩ := aligned
    exact amid.awaits.format
  unfold Answered at answered
  rw [format_eq] at answered
  -- A call that asks for nothing is not answered.
  have silent (none : talk.command? = none) : c.Aligned env format desk later := by
    rw [none] at answered
    obtain ⟨-, rfl⟩ := answered
    exact aligned
  cases talk with
  | sendOne command =>
    exact .map (Client.guarded_of_ends isOpen (Exchange.sendOne_of_aligned faultless answered aligned))
  | readResponse options =>
    have ends := Exchange.readResponse_of_aligned packets options faultless
      ((silent rfl).armed options.timeout)
    rw [Client.ctx_armed] at ends
    exact .map (Client.timed_of_ends isOpen ends)
  | execute command options =>
    have answered : Answer.Answers env format command ((Talk.execute command options).asks env c)
        packets wire := answered
    rw [Talk.asks] at answered
    by_cases prepares : Exchange.isPrepare command = true
    · rw [if_pos prepares] at answered
      obtain ⟨-, rfl⟩ := answered
      have refused : Client.execute env command options c = .error (.usage .prepareSeparately) c := by
        unfold Client.execute
        rw [if_pos prepares]
        rfl
      exact .of_error (EStateM.bind_of_error refused) ⟨desk, .prepareSeparately prepares, fun _ => aligned⟩
    · rw [if_neg prepares] at answered
      have executes : Client.execute env command options =
          Client.timed options.timeout do
            return (← Exchange.execute env command options).toCompletions := if_neg prepares
      have ends : Yields (do return (← Exchange.execute env command options).toCompletions)
          (c.armed options.timeout) fun given c' => Ends env format desk packets later c.ctx
            (.execute command options) (given.map .completions) c' := by
        have separate := Bool.not_eq_true _ ▸ prepares
        have aligned := aligned.armed options.timeout
        refine .map ((Exchange.execute_of_aligned faultless answered aligned).mono ?_)
        rintro given c' ⟨desk', aligned', executed⟩
        have right : Right format.deprecateEof desk packets c.ctx c'.ctx (.execute command options) _
          desk' := .executed separate executed
        cases given with
        | ok | error => exact ⟨desk', right, aligned'⟩
      have closes := Client.timed_of_ends isOpen ends
      rw [← executes] at closes
      exact .map closes
  | readStreaming =>
    exact .map (Client.guarded_of_ends isOpen (Exchange.readStreaming_of_aligned faultless (silent rfl)))
  | abandonStreaming =>
    exact .map (Client.guarded_of_ends isOpen (Exchange.settleStreaming_of_aligned faultless (silent rfl)))
  | prepare sql =>
    exact .map (Client.guarded_of_ends isOpen (Exchange.prepare_of_aligned faultless answered aligned))
  | closeStatement statement =>
    exact .map (Client.guarded_of_ends isOpen
      (Exchange.closeStatement_of_aligned faultless statement (silent rfl)))

/-- Each call of a conversation ends as is right until the connection is closed. Before it the
client is aligned with its desk: what the server still sends is just what was not consumed yet. -/
def Faithful (env : Env) (format : Format) (beyond : Bytes) : List Turn → Desk → Client → Prop
  | [], desk, c => c.isClosed = false → c.Aligned env format desk beyond
  | turn :: turns, desk, c => c.isClosed = false →
      c.Aligned env format desk ((turn :: turns).flatMap Turn.wire ++ beyond) ∧
        Yields (turn.talk.run env) c fun given c' =>
          (∀ e, given = .error e → e.isInOrder = true) ∧
            ∃ desk', turn.talk.Right format.deprecateEof desk turn.packets c.ctx c'.ctx given desk' ∧
              Faithful env format beyond turns desk' c'

/-- In a conversation with a server that answers command by command, every response goes to the call
that it is for. -/
theorem faithful_of_served (faultless : env.Faultless) {turns : List Turn} {beyond : Bytes}
    (served : Served env turns c)
    (aligned : c.Aligned env format desk (turns.flatMap Turn.wire ++ beyond)) :
    Faithful env format beyond turns desk c := by
  suffices stepwise : ∀ turns (desk : Desk) (c : Client), Served env turns c →
      (c.isClosed = false → c.Aligned env format desk (turns.flatMap Turn.wire ++ beyond)) →
      Faithful env format beyond turns desk c from stepwise _ _ _ served fun _ => aligned
  intro turns
  induction turns with
  | nil => exact fun _ _ _ aligned => aligned
  | cons turn turns ih =>
    rintro desk c ⟨answered, served⟩ aligned isOpen
    have aligned := aligned isOpen
    refine ⟨aligned, ?_⟩
    rw [List.flatMap_cons, List.append_assoc] at aligned
    have closes := Turn.closes_of_answered faultless (answered isOpen) aligned
    unfold Yields at closes ⊢
    cases ran : turn.talk.run env c with
    | ok given c' =>
      rw [ran] at closes served
      obtain ⟨desk', right, aligned'⟩ := closes
      exact ⟨nofun, desk', right, ih desk' c' served aligned'⟩
    | error e c' =>
      rw [ran] at closes served
      obtain ⟨desk', right, aligned'⟩ := closes
      refine ⟨?_, desk', right, ih desk' c' served aligned'⟩
      rintro _ ⟨⟩
      exact right.isInOrder

/-! ## A conversation -/

/-- The check of an answer that is not compressed. -/
def Turn.isAnswered (env : Env) (turn : Turn) (c : Client) : Bool :=
  match turn.talk.command?, turn.talk.asks env c with
  | some command, some size =>
    !c.channel.compressed &&
      turn.packets.foldlM (Answer.next? c.ctx.deprecateEof) (.first command.responseKind) == some .ended &&
      turn.wire == Packet.framedAll (Packet.following 0 size) turn.packets
  | _, _ => turn.packets.isEmpty && turn.wire.isEmpty

theorem Turn.answered_of_isAnswered {turn : Turn} (h : turn.isAnswered env c = true) :
    turn.Answered env c := by
  unfold isAnswered at h
  unfold Answered
  split at h
  · next command size named asked =>
    simp only [Bool.and_eq_true, Bool.not_eq_true', beq_iff_eq] at h
    obtain ⟨⟨plain, checked⟩, wire⟩ := h
    rw [named, asked]
    refine ⟨Answer.completes_of_next checked, ?_⟩
    unfold Answer.OnWire Client.format
    rw [plain]
    exact wire
  · next unasked =>
    simp only [Bool.and_eq_true, List.isEmpty_iff] at h
    split
    · next command named =>
      cases asked : turn.talk.asks env c with
      | none => exact h
      | some size => exact absurd asked (unasked command size named)
    · exact h

def isServed (env : Env) : List Turn → Client → Bool
  | [], _ => true
  | turn :: turns, c => turn.isAnswered env c && isServed env turns (turn.talk.run env c).state

theorem served_of_isServed {turns : List Turn} (h : isServed env turns c = true) :
    Served env turns c := by
  induction turns generalizing c with
  | nil => trivial
  | cons turn turns ih =>
    obtain ⟨answered, served⟩ := Bool.and_eq_true_iff.mp h
    exact ⟨fun _ => Turn.answered_of_isAnswered answered, ih served⟩

/-- The check that nothing is to be read on a connection that is not compressed, and that the server
goes on with these bytes. -/
def Client.isIdle (later : Bytes) (c : Client) : Bool :=
  !c.isClosed && !c.channel.compressed && c.streaming.isNone && c.unread.isEmpty &&
    c.infileError.isNone &&
    c.channel.link.any fun link => !c.world.isDown link.id && link.rest == later

theorem Client.aligned_of_isIdle (h : c.isIdle later = true) : c.Aligned env c.format .clear later := by
  unfold isIdle at h
  simp only [Bool.and_eq_true, Bool.not_eq_true', Option.isNone_iff_eq_none, List.isEmpty_iff] at h
  obtain ⟨⟨⟨⟨⟨isOpen, plain⟩, streaming⟩, unread⟩, infile⟩, sends⟩ := h
  refine aligned_clear_iff.mpr ⟨⟨isOpen, ?_⟩, fun compressed => ?_, streaming, unread, infile⟩
  · cases held : c.channel.link with
    | none =>
      rw [held] at sends
      cases sends
    | some link =>
      rw [held] at sends
      simp only [Option.any_some, Bool.and_eq_true, Bool.not_eq_true', beq_iff_eq] at sends
      exact ⟨link, held, sends⟩
  · cases compressed.symm.trans plain

/-- Surroundings in which nothing fails. -/
def attentive : Env := .quiet { host := "h", autocommit := none }

/-- Two commands are sent ahead, of which one is refused. The response to the first one is read, the
other one is dropped by the next command. Of that one's rows the first is given, then the second, and
what is behind it is dropped by a prepare. -/
def mixedTurns : List Turn :=
  let turn (talk : Talk) (packets : List Bytes) : Turn :=
    let packets := packets.map Bytes.toWire
    ⟨talk, packets, Packet.framedAll 1 packets⟩
  let column : Bytes := [0, 0, 0, 0, 0, 0, 12, 33, 0, 4, 0, 0, 0, 253, 0, 0, 0]
  let eof : Bytes := [254, 0, 0, 0, 0]
  [turn (.sendOne (.query "UPDATE")) [[0, 0, 0, 0, 0, 0, 0]],
    turn (.sendOne (.query "DROP")) [[255, 81, 4]],
    turn (.readResponse {}) [],
    turn (.execute (.query "SELECT") (.streaming 1)) [[1], column, eof, [1, 97], [1, 98], eof],
    turn .readStreaming [],
    turn (.prepare "INSERT") [[0, 1, 0, 0, 0, 0, 0, 0, 0, 0, 0, 0]]]

/-- The client to which a server will answer so. -/
def beforeTurns : Client :=
  let script := greetingPacket ++ okPacket 2 false ++ okPacket 1 false ++ mixedTurns.flatMap Turn.wire
  .opened attentive (.start [⟨script.toWire, false⟩])

theorem faithful_mixedTurns : attentive.Faultless ∧ Served attentive mixedTurns beforeTurns ∧
    beforeTurns.Aligned attentive beforeTurns.format .clear (mixedTurns.flatMap Turn.wire ++ []) ∧
    Faithful attentive beforeTurns.format [] mixedTurns .clear beforeTurns := by
  have faultless : attentive.Faultless := ⟨fun _ => rfl, fun _ => rfl⟩
  have served : Served attentive mixedTurns beforeTurns := served_of_isServed (by decide +kernel)
  have aligned : beforeTurns.Aligned attentive beforeTurns.format .clear
      (mixedTurns.flatMap Turn.wire ++ []) := by
    rw [List.append_nil]
    exact Client.aligned_of_isIdle (by decide +kernel)
  exact ⟨faultless, served, aligned, faithful_of_served faultless served aligned⟩

end SqlWire
