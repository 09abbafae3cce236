import SqlWire.Proofs.Journal.Failover
import SqlWire.Proofs.Outcome

/-!
# Calls as data

`Call` lists what a caller can do with an open connection, so that a theorem can speak of every call
and of every run of calls. A call is an attempt under a guard: `Guarded c r` says what the guard makes
of the attempt's end `r`. It touches the channel and the world only, and it closes the connection
for further calls exactly when `r` is an error that breaks it, or when somebody else has closed it.
-/

namespace SqlWire

open EStateM (Result)
open Net (Env World)

variable {α β γ : Type} {env : Env} {c c' : Client}

/-! ## The guard -/

/-- What the guard of a call leaves behind. -/
structure Guarded (c : Client) (r : Result Error Client α) : Prop where
  only_line : ∃ line, c = r.state.withLine line
  isClosed : c.isClosed = (r.state.isClosed || r.error?.any Error.isBroken)

namespace Guarded

variable {r : Result Error Client α}

theorem journal (h : Guarded c r) : c.journal = r.state.journal := by
  obtain ⟨line, rfl⟩ := h.only_line
  rfl

theorem ctx (h : Guarded c r) : c.ctx = r.state.ctx := by
  obtain ⟨line, rfl⟩ := h.only_line
  rfl

/-- The world may change as long as nobody closes the connection. -/
theorem of_world (h : Guarded c r) {world : World} (control : world.control = c.world.control) :
    Guarded { c with world } r where
  only_line := by
    obtain ⟨line, rfl⟩ := h.only_line
    exact ⟨⟨line.channel, world⟩, rfl⟩
  isClosed := by
    rw [← h.isClosed]
    exact congrArg Net.Control.closed control

end Guarded

namespace Client

theorem isClosed_closeChannel (c : Client) : c.closeChannel.isClosed = c.isClosed := by
  unfold closeChannel Line.close
  split <;> rfl

/-- A statement that ran too long has closed the connection. -/
theorem isClosed_of_timedOut (h : c.world.control.timedOut = true) : c.isClosed = true :=
  c.world.control.closed_of_timedOut h

theorem isBroken_of_isAbrupt {e : Error} (h : e.isAbrupt = true) : e.isBroken = false := by
  cases e with
  | clockRange => rfl
  | _ => cases h

theorem guarded_of_isClosed (run : EStateM Error Client α) (h : c.isClosed = true) :
    guarded run c = .error (.closed c.world.control.timedOut) c := if_pos h

theorem guarded_spec (run : EStateM Error Client α) (h : c.isClosed = false) :
    Guarded (guarded run c).state (run c) := by
  unfold guarded
  rw [if_neg (by simp [h])]
  split
  · next a c' eq =>
    rw [eq]
    exact ⟨⟨c'.line, rfl⟩, (Bool.or_false _).symm⟩
  · next e c' eq =>
    rw [eq]
    split
    · next abrupt =>
      refine ⟨⟨c'.line, rfl⟩, ?_⟩
      show c'.isClosed = (c'.isClosed || e.isBroken)
      rw [isBroken_of_isAbrupt abrupt, Bool.or_false]
    · split
      · next timedOut =>
        refine ⟨⟨_, rfl⟩, ?_⟩
        show c'.closeChannel.isClosed = (c'.isClosed || e.isBroken)
        rw [isClosed_closeChannel, isClosed_of_timedOut timedOut, Bool.true_or]
      · split
        · next broken =>
          refine ⟨⟨c'.markClosed.line.close, rfl⟩, ?_⟩
          show c'.markClosed.closeChannel.isClosed = (c'.isClosed || e.isBroken)
          rw [isClosed_closeChannel, broken, Bool.or_true]
          rfl
        · next whole =>
          have isClosed : c'.isClosed = (c'.isClosed || e.isBroken) := by simp [whole]
          split
          · exact ⟨⟨_, rfl⟩, (isClosed_closeChannel c').trans isClosed⟩
          · exact ⟨⟨c'.line, rfl⟩, isClosed⟩

/-- Arms the deadline of a call, if it has one. -/
def armed (timeout : Option Nat) (c : Client) : Client :=
  match timeout with
  | none => c
  | some timeout =>
    { c with world := { c.world with
      deadlines := (c.world.deadlines.arm (c.world.clock + timeout) ()).2 } }

theorem journal_armed (timeout : Option Nat) (c : Client) :
    (armed timeout c).journal = c.journal := by
  cases timeout <;> rfl

theorem ctx_armed (timeout : Option Nat) (c : Client) : (armed timeout c).ctx = c.ctx := by
  cases timeout <;> rfl

theorem isClosed_armed (timeout : Option Nat) (c : Client) :
    (armed timeout c).isClosed = c.isClosed := by
  cases timeout <;> rfl

theorem timed_spec (timeout : Option Nat) (run : EStateM Error Client α) (h : c.isClosed = false) :
    Guarded (timed timeout run c).state (run (armed timeout c)) := by
  have guarded := guarded_spec run ((isClosed_armed timeout c).trans h)
  cases timeout with
  | none => exact guarded
  | some timeout =>
    unfold timed
    dsimp only
    split
    · next eq =>
      have after : Guarded (Client.guarded run (armed (some timeout) c)).state _ := guarded
      exact (eq ▸ after).of_world rfl
    · next eq => exact (eq ▸ guarded).of_world rfl

theorem timed_of_isClosed (timeout : Option Nat) (run : EStateM Error Client α)
    (h : c.isClosed = true) : ∃ world, (timed timeout run c).state = { c with world } := by
  have refused := guarded_of_isClosed run ((isClosed_armed timeout c).trans h)
  cases timeout with
  | none => exact ⟨c.world, congrArg Result.state refused⟩
  | some timeout =>
    unfold timed
    unfold armed at refused
    dsimp only at refused ⊢
    rw [refused]
    exact ⟨_, rfl⟩

end Client

/-- The property is not about flags, deadlines and whether the channel is open. -/
structure Steady (p : Client → Prop) : Prop where
  world : ∀ {c : Client} {world : World}, world.links = c.world.links → p c → p { c with world }
  closeChannel : ∀ {c : Client}, p c → p c.closeChannel

theorem Steady.or {p q : Client → Prop} (h : Steady p) (h' : Steady q) : Steady fun c => p c ∨ q c where
  world links := .imp (h.world links) (h'.world links)
  closeChannel := .imp h.closeChannel h'.closeChannel

namespace Client

variable {run : EStateM Error Client α} {post : Except Error α → Client → Prop}

/-- The guard of a call leaves what holds behind the call, whatever it fails with. -/
theorem yields_guarded (steady : ∀ given, Steady (post given))
    (alike : ∀ {e e' c}, post (.error e) c → post (.error e') c)
    (refused : ∀ e, c.isClosed = true → post (.error e) c) (h : Yields run c post) :
    Yields (guarded run) c post := by
  cases closed : c.isClosed with
  | true => exact .of_error (guarded_of_isClosed run closed) (refused _ closed)
  | false =>
    have open_ : ¬c.isClosed = true := by simp [closed]
    cases ran : run c with
    | ok a c₁ =>
      have ended : guarded run c = .ok a c₁ := by
        unfold guarded
        rw [if_neg open_, ran]
      exact .of_ok ended (h.result ran)
    | error e c₁ =>
      have failed : post (.error e) c₁ := h.failure ran
      have shut : ∀ {c}, post (.error e) c → post (.error e) c.closeChannel := (steady _).closeChannel
      have ended : ∃ e' c', guarded run c = .error e' c' ∧ post (.error e) c' := by
        unfold guarded
        rw [if_neg open_, ran]
        dsimp only
        split
        · exact ⟨_, _, rfl, failed⟩
        · split
          · exact ⟨_, _, rfl, shut failed⟩
          · split
            · exact ⟨_, _, rfl, shut ((steady _).world rfl failed)⟩
            · split
              · exact ⟨_, _, rfl, shut failed⟩
              · exact ⟨_, _, rfl, failed⟩
      obtain ⟨e', c', eq, after⟩ := ended
      exact .of_error eq (alike after)

/-- So does its deadline. -/
theorem yields_timed {timeout : Option Nat} (steady : ∀ given, Steady (post given))
    (h : ∀ world : World, world.links = c.world.links →
      Yields (guarded run) { c with world } post) : Yields (timed timeout run) c post := by
  cases timeout with
  | none => exact h c.world rfl
  | some timeout =>
    have armed := h { c.world with
      deadlines := (c.world.deadlines.arm (c.world.clock + timeout) ()).2 } rfl
    unfold Yields timed at *
    dsimp only at armed ⊢
    split at armed
    · next ran =>
      rw [ran]
      exact (steady _).world rfl armed
    · next ran =>
      rw [ran]
      exact (steady _).world rfl armed

end Client

/-! ## Calls -/

/-- What a caller can do with an open connection. -/
inductive Call where
  | execute (command : Command) (options : StatementOptions)
  | executeAll (commands : List Command) (options : StatementOptions)
  | executeBatch (sql : String) (paramSets : List (List Value))
  | sendOne (command : Command)
  | readResponse (options : StatementOptions)
  | readStreaming
  | abandonStreaming
  | prepare (sql : String)
  | closeStatement (statement : PreparedStatement)
  | setProperty (property : Session.Property)
  | reset
  | ping

namespace Call

/-- Makes a call. What it gives plays no role here. -/
def perform (env : Env) : Call → EStateM Error Client Unit
  | execute command options => do let _ ← Client.execute env command options
  | executeAll commands options => do let _ ← Client.executeAll env commands options
  | executeBatch sql paramSets => do let _ ← Client.executeBatch env sql paramSets
  | sendOne command => do let _ ← Client.sendOne env command
  | readResponse options => do let _ ← Client.readResponse env options
  | readStreaming => do let _ ← Client.readStreaming env
  | abandonStreaming => Client.abandonStreaming env
  | prepare sql => do let _ ← Client.prepare env sql
  | closeStatement statement => Client.closeStatement env statement
  | setProperty property => Client.setProperty env property
  | reset => Client.reset env
  | ping => Client.ping env

/-- The call is refused before anything else. -/
def isRefused : Call → Bool
  | execute command _ => Exchange.isPrepare command
  | executeAll commands _ => commands.any Exchange.isPrepare
  | _ => false

/-- How long the call may take. -/
def timeout : Call → Option Nat
  | execute _ options | executeAll _ options | readResponse options => options.timeout
  | _ => none

/-- What the call does under its guard. -/
def body (env : Env) : Call → EStateM Error Client Unit
  | execute command options => do let _ ← Exchange.execute env command options
  | executeAll commands options => do let _ ← Exchange.runBatch env commands options
  | executeBatch sql paramSets => do let _ ← Exchange.executeBatch env sql paramSets
  | sendOne command => do let _ ← Exchange.sendOne env command
  | readResponse options => do let _ ← Exchange.readResponse env options
  | readStreaming => do let _ ← Exchange.readStreaming env
  | abandonStreaming => Exchange.settleStreaming env
  | prepare sql => do let _ ← Exchange.prepare env sql
  | closeStatement statement => Exchange.closeStatement env statement
  | setProperty property => Exchange.setProperty env property
  | reset => Exchange.reset env
  | ping => do let _ ← Exchange.execute env .ping {}

/-- The call up to what the guard makes of it. -/
def attempt (env : Env) (call : Call) : EStateM Error Client Unit := fun c =>
  if call.isRefused then .error (.usage .prepareSeparately) c
  else call.body env (Client.armed call.timeout c)

/-- An error that the call may report in place of a failure that broke the connection. -/
def mayHide : Call → Error → Bool
  | executeAll _ _, e => e.isBatch
  | executeBatch _ _, _ => true
  | _, _ => false

/-- Two runs that differ only in what they give. -/
def Alike (run : EStateM Error Client α) (run' : EStateM Error Client β) : Prop :=
  ∀ c, (run c).state = (run' c).state ∧ (run c).error? = (run' c).error?

theorem alike_pure (run : EStateM Error Client α) (f : α → β) :
    Alike (run >>= fun a => pure (f a)) run := by
  intro c
  cases eq : run c with
  | ok a c' => rw [EStateM.bind_of_ok eq]; exact ⟨rfl, rfl⟩
  | error e c' => rw [EStateM.bind_of_error eq]; exact ⟨rfl, rfl⟩

theorem Alike.trans {run : EStateM Error Client α} {run' : EStateM Error Client β}
    {run'' : EStateM Error Client γ} (h : Alike run run') (h' : Alike run'' run') :
    Alike run run'' := fun c => ⟨(h c).1.trans (h' c).1.symm, (h c).2.trans (h' c).2.symm⟩

/-- A call is refused at once, or its body runs under the guard. -/
theorem perform_spec (env : Env) (call : Call) (c : Client) :
    (call.isRefused = true ∧ call.perform env c = .error (.usage .prepareSeparately) c) ∨
      (call.isRefused = false ∧ ∃ (α : Type) (run : EStateM Error Client α),
        Alike (call.body env) run ∧
          (call.perform env c).state = (Client.timed call.timeout run c).state) := by
  have discarded {α : Type} (run : EStateM Error Client α) :
      ((do let _ ← run : EStateM Error Client Unit) c).state = (run c).state :=
    (alike_pure run _ c).1
  cases call with
  | execute command options =>
    rw [perform, Client.execute]
    cases refused : Exchange.isPrepare command with
    | true => exact .inl ⟨refused, rfl⟩
    | false => exact .inr ⟨refused, _, _, (alike_pure _ _).trans (alike_pure _ _), discarded _⟩
  | executeAll commands options =>
    rw [perform, Client.executeAll]
    cases refused : commands.any Exchange.isPrepare with
    | true => exact .inl ⟨refused, rfl⟩
    | false => exact .inr ⟨refused, _, _, (alike_pure _ _).trans (alike_pure _ _), discarded _⟩
  | executeBatch _ _ | sendOne _ | readResponse _ | readStreaming | prepare _ =>
    exact .inr ⟨rfl, _, _, alike_pure _ _, discarded _⟩
  | abandonStreaming | closeStatement _ | setProperty _ | reset | ping =>
    exact .inr ⟨rfl, _, _, fun _ => ⟨rfl, rfl⟩, rfl⟩

theorem guarded_perform (env : Env) (call : Call) (h : c.isClosed = false) :
    Guarded (call.perform env c).state (call.attempt env c) := by
  unfold attempt
  rcases call.perform_spec env c with ⟨refused, eq⟩ | ⟨accepted, _, run, alike, eq⟩
  · rw [eq, if_pos refused]
    exact ⟨⟨c.line, rfl⟩, (Bool.or_false _).symm⟩
  · rw [eq, if_neg (by simp [accepted])]
    have guarded := Client.timed_spec call.timeout run h
    obtain ⟨state, error⟩ := alike (Client.armed call.timeout c)
    exact ⟨state ▸ guarded.only_line, state ▸ error ▸ guarded.isClosed⟩

/-- A call on a closed connection does not even begin. -/
theorem perform_of_isClosed (env : Env) (call : Call) (h : c.isClosed = true) :
    ∃ world, (call.perform env c).state = { c with world } := by
  rcases call.perform_spec env c with ⟨_, eq⟩ | ⟨_, _, run, _, eq⟩
  · exact ⟨c.world, congrArg Result.state eq⟩
  · exact eq ▸ Client.timed_of_isClosed call.timeout run h

theorem conducts_body (env : Env) (call : Call) : Conducts call.mayHide (call.body env) := by
  cases call with
  | execute command options => exact .bind Exchange.conducts_execute fun _ => .pure _
  | executeAll commands options => exact .bind (.of_batch Exchange.notes_runBatch) fun _ => .pure _
  | executeBatch sql paramSets => exact .bind Exchange.conducts_executeBatch fun _ => .pure _
  | sendOne command => exact .bind (.of_exchange Exchange.notes_sendOne) fun _ => .pure _
  | readResponse options => exact .bind (.of_exchange Exchange.notes_readResponse) fun _ => .pure _
  | readStreaming => exact .bind (.of_exchange Exchange.notes_readStreaming) fun _ => .pure _
  | abandonStreaming => exact .of_exchange Exchange.notes_settleStreaming
  | prepare sql => exact .bind Exchange.conducts_prepare fun _ => .pure _
  | closeStatement statement => exact .of_exchange Exchange.notes_closeStatement
  | setProperty property => exact Exchange.conducts_setProperty
  | reset => exact Exchange.conducts_reset
  | ping => exact .bind Exchange.conducts_execute fun _ => .pure _

theorem conducts_attempt (env : Env) (call : Call) : Conducts call.mayHide (call.attempt env) := by
  intro c
  unfold attempt
  split
  · exact .still rfl rfl
  · have noted := call.conducts_body env (Client.armed call.timeout c)
    rw [Client.ctx_armed] at noted
    exact noted.from_same (Client.journal_armed ..) (by rw [Client.ctx_armed])

end Call

/-! ## Scripted servers -/

/-- A client whose server sends these bytes and then ends the stream. -/
def Client.scripted (bytes : Bytes) (redo : Option Session.RedoLog) : Client :=
  let (link, world) := Net.Link.accept (.start [⟨bytes.toWire, false⟩])
  let ctx := Session.Context.new ⟨⟨0⟩, ⟨0⟩, 1, "", [], 0, false, ""⟩ {}
  .idle (.new link) world { ctx with redo }

/-- A greeting that offers nothing. -/
def greetingPacket : Bytes := [17, 0, 0, 0, 10, 0, 1, 0, 0, 0, 1, 2, 3, 4, 5, 6, 7, 8, 0, 0, 0]

/-- The answer to a command without results. -/
def okPacket (sequence : UInt8) (inTransaction : Bool) : Bytes :=
  [7, 0, 0, sequence, 0, 0, 0, if inTransaction then 1 else 0, 0, 0, 0]

/-- Servers that let the client in, and answer so to what is sent on each session behind its
set-up. -/
def answeringInTurn (sessions : List (List Bool)) : World :=
  .start (sessions.map fun answers =>
    let packets := greetingPacket ++ okPacket 2 false ++ (false :: answers).flatMap (okPacket 1)
    ⟨packets.toWire, false⟩)

/-- The client that is opened in a world, or one that has nothing to read if none is. -/
def Client.opened (env : Env) (w : World) : Client :=
  match Client.new env w with
  | .ok c _ => c
  | .error _ _ => .scripted [] none

theorem Client.opened_of_new {w w' : World} (h : Client.new env w = .ok c w') :
    Client.opened env w = c := by
  unfold Client.opened
  rw [h]

/-- Surroundings in which sessions are replaced. -/
def replaying : Env := .quiet { host := "h", autocommit := none, transactionReplay := true }

end SqlWire
