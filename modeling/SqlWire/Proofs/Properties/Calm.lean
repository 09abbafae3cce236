import SqlWire.Proofs.Call
import SqlWire.Proofs.Properties.Known
import SqlWire.Proofs.Statements.Dealings
import SqlWire.Proofs.Undisturbed

/-!
# Exchanges on one session

Commands and their responses, in whatever way they are sent and read, change little of what a client
keeps of its session: not what it knows of the properties, and the statements only through the cache.
So these runs go along every relation that `Overlooks` the rest, such as `SameKnown`: only setting a
property, a reset and a new session change what is known.
-/

namespace SqlWire

open EStateM (Result)
open Net (Env)

variable {α : Type} {env : Env} {command : Command} {mark : Mark} {options : StatementOptions}
  {c c' : Client}

/-- The relation takes no notice of anything but what is known of the properties and the statements,
and none of what the cache does with these. -/
class Overlooks (r : Client → Client → Prop) : Prop extends IsPreorder Client r where
  same {c c' : Client} : c'.ctx.statements = c.ctx.statements → c'.ctx.known = c.ctx.known → r c c'
  cached {c : Client} {statements : StatementCache} :
    Client.Cached c.ctx.statements statements → r c (c.withContext ({ · with statements }))

/-- The same is known of the properties of the session. -/
def SameKnown (c c' : Client) : Prop := c'.ctx.known = c.ctx.known

instance : Overlooks SameKnown where
  refl _ := rfl
  trans _ _ _ h h' := h'.trans h
  same _ known := known
  cached _ := rfl

variable {r : Client → Client → Prop} [Overlooks r]

theorem Overlooks.of_ctx (ctx : c'.ctx = c.ctx) : r c c' :=
  same (congrArg _ ctx) (congrArg _ ctx)

theorem Undisturbed.overlooked (h : Undisturbed c c') : r c c' := by
  obtain ⟨status, warnings, redo, ctx⟩ := h.ctx
  refine Overlooks.same ?_ ?_ <;> rw [ctx]
  rfl

theorem Along.overlooked {run : EStateM Error Client α} (h : Along Undisturbed run) : Along r run :=
  fun c => (h c).overlooked

namespace Exchange

theorem overlooked_readFor : Along r (readFor env command mark options) := by
  intro c
  unfold readFor
  dsimp only
  have restored : r c { c with channel := c.channel.restore mark } := Overlooks.of_ctx rfl
  have reading {result : Result Error Client (Reader × Stop)} (read :
      readUntil env command (.new command c.ctx.deprecateEof options)
        { c with channel := c.channel.restore mark } = result) : r c result.state :=
    trans_of r restored (undisturbed_readUntil.result read).overlooked
  split
  · next read => exact reading read
  · next reader c₁ read =>
    have suspended : r c₁ (suspend reader command c₁).2 := Overlooks.of_ctx rfl
    exact trans_of r (reading read) suspended
  · next read => exact trans_of r (reading read) (undisturbed_finishResponse _).overlooked

theorem overlooked_closeOnServer {ids : List UInt32} : Along r (closeOnServer env ids) := by
  induction ids with
  | nil => exact .pure ()
  | cons id ids ih => exact .bind undisturbed_send.overlooked fun _ => ih

theorem overlooked_complete {response : Response} : Along r (complete env response) := by
  cases response with
  | none | completions _ => exact .pure _
  | prepared statement =>
    intro c
    have taken : r c (c.withContext ({ · with statements := (c.ctx.statements.insert statement).2.2 })) :=
      Overlooks.cached (.inserted statement)
    unfold complete
    dsimp only
    split <;> next closed =>
      exact trans_of r taken (overlooked_closeOnServer.result closed)

theorem overlooked_executeOnce : Along r (executeOnce env command options) :=
  .bind undisturbed_send.overlooked fun _ => .bind overlooked_readFor fun _ => overlooked_complete

/-! ## Settling -/

theorem overlooked_tolerate {result : Except Error α} : Along r (tolerate result) := by
  unfold tolerate
  split
  · exact .pure _
  · split
    · exact .throw _
    · exact .pure _

theorem overlooked_settleStreaming : Along r (settleStreaming env) := by
  refine .get_bind fun c => ?_
  split
  · exact .pure _
  · refine .bind (.modify fun _ => Overlooks.of_ctx rfl) fun _ => ?_
    refine .bind undisturbed_readUntil.overlooked fun _ => ?_
    exact .bind (.attempt undisturbed_finishResponse.overlooked) fun _ =>
      .bind overlooked_tolerate fun _ => .pure _

theorem overlooked_releaseUnread {statement : PreparedStatement} :
    Along r (releaseUnread env statement) := by
  intro c
  have released : r c (c.withContext
      ({ · with statements := (c.ctx.statements.release statement.handle).2 })) :=
    Overlooks.cached (.released _)
  exact trans_of r released (overlooked_closeOnServer _)

theorem overlooked_dropResponse : Along r (dropResponse env command mark) := by
  refine .bind (.modify fun _ => Overlooks.of_ctx rfl) fun _ => .get_bind fun c => ?_
  refine .bind undisturbed_readUntil.overlooked fun _ => ?_
  refine .bind (.attempt (.bind undisturbed_finishResponse.overlooked fun _ => overlooked_complete))
    fun _ => .bind overlooked_tolerate fun _ => ?_
  split
  · exact overlooked_releaseUnread
  · exact .pure _

theorem overlooked_settleUnread {unread : List (Command × Mark)} :
    Along r (settleUnread env unread) := by
  induction unread with
  | nil => exact .pure ()
  | cons sent rest ih =>
    exact .bind (.modify fun _ => Overlooks.of_ctx rfl) fun _ => .bind overlooked_dropResponse fun _ => ih

theorem overlooked_settle : Along r (settle env) :=
  .bind overlooked_settleStreaming fun _ => .get_bind fun _ => overlooked_settleUnread

/-! ## Batches -/

theorem overlooked_runSequential {commands : List Command} {progress : Batch.Progress} :
    Along r (runSequential env options commands progress) := by
  induction commands generalizing progress with
  | nil => exact .pure _
  | cons command commands ih =>
    refine .bind (.attempt overlooked_executeOnce) fun given => ?_
    split
    · exact ih
    · exact .pure _

theorem overlooked_sendAhead {commands : List Command} {progress : Batch.Progress} :
    Along r (sendAhead env commands progress) := by
  induction commands with
  | nil => exact .pure _
  | cons command commands ih =>
    refine .bind (.attempt undisturbed_send.overlooked) fun given => ?_
    cases given with
    | error e => exact .pure _
    | ok mark => exact .bind ih fun _ => .pure _

theorem overlooked_readAhead {sent : List (Command × Mark)} {progress : Batch.Progress} :
    Along r (readAhead env options sent progress) := by
  induction sent generalizing progress with
  | nil => exact .pure _
  | cons first sent ih =>
    have item : Along r (do complete env (← readFor env first.1 first.2 options)) :=
      .bind overlooked_readFor fun _ => overlooked_complete
    refine .bind (.attempt item) fun given => ?_
    split
    · exact ih
    · exact .pure _

theorem overlooked_runBatch {commands : List Command} :
    Along r (runBatch env commands options) := by
  refine .bind overlooked_settle fun _ => .get_bind fun c => ?_
  dsimp only
  cases Batch.strategy env.opts.disablePipeline c.ctx.localInfile with
  | sequential =>
    refine .bind overlooked_runSequential fun progress => ?_
    cases progress.finish with
    | ok result => exact .pure _
    | error e => exact .throw _
  | pipelined =>
    refine .bind overlooked_sendAhead fun _ => .bind overlooked_readAhead fun progress => ?_
    cases progress.finish with
    | ok result => exact .pure _
    | error e => exact .throw _

/-! ## Calls that stay on one session -/

theorem overlooked_sendOne : Along r (sendOne env command) := by
  refine .bind overlooked_settleStreaming fun _ => .bind undisturbed_send.overlooked fun _ => ?_
  split
  · exact .bind (.modify fun _ => Overlooks.of_ctx rfl) fun _ => .pure _
  · exact .pure _

theorem overlooked_readResponse : Along r (readResponse env options) := by
  refine .bind overlooked_settleStreaming fun _ => .get_bind fun c => ?_
  split
  · exact .throw _
  · exact .bind (.modify fun _ => Overlooks.of_ctx rfl) fun _ =>
      .bind overlooked_readFor fun _ => overlooked_complete

theorem overlooked_readStreaming : Along r (readStreaming env) := by
  refine .get_bind fun c => ?_
  split
  · exact .throw _
  · refine .bind (.modify fun _ => Overlooks.of_ctx rfl) fun _ =>
      .bind undisturbed_readUntil.overlooked fun _ => ?_
    split
    · exact .bind (.modify fun _ => Overlooks.of_ctx rfl) fun _ => .pure _
    · exact .bind undisturbed_finishResponse.overlooked fun _ => .pure _

theorem overlooked_closeStatement {statement : PreparedStatement} :
    Along r (closeStatement env statement) := by
  intro c
  have released : r c (c.withContext
      ({ · with statements := (c.ctx.statements.release statement.handle).2 })) :=
    Overlooks.cached (.released _)
  have looked : (MonadState.get : EStateM Error Client Client) c = .ok c c := rfl
  unfold closeStatement
  rw [EStateM.bind_of_ok looked]
  generalize c.ctx.statements.release statement.handle = given at released ⊢
  obtain ⟨_ | id, statements⟩ := given
  · exact released
  · have closes : Along r (settleStreaming env >>= fun _ => closeOnServer env [id]) :=
      .bind overlooked_settleStreaming fun _ => overlooked_closeOnServer
    exact trans_of r released (closes _)

theorem overlooked_askVersion : Along r (askVersion env) := by
  refine .bind (.attempt overlooked_executeOnce) fun result => ?_
  split
  · split
    · exact .throw _
    · exact .pure _
  · split
    · exact fun _ => Overlooks.of_ctx rfl
    · exact .pure _

theorem overlooked_usesServerReset : Along r (usesServerReset env) := by
  unfold usesServerReset
  split
  · refine .bind (.get_bind fun c => ?_) fun _ => .pure _
    split
    · exact .pure _
    · exact .bind overlooked_askVersion fun _ =>
        .bind (.modify fun _ => Overlooks.same rfl rfl) fun _ => .pure _
  · exact .pure _

theorem overlooked_setTimeout {timeout : Option Nat} : Along r (setTimeout timeout) := by
  intro c
  unfold setTimeout
  split <;> exact Overlooks.of_ctx rfl

/-! ## New sessions -/

theorem overlooked_setUp : Along r (setUp env) := by
  refine .bind overlooked_runBatch fun _ => ?_
  dsimp only
  split
  · exact fun _ => Overlooks.of_ctx rfl
  · exact .modify fun _ => Overlooks.same rfl rfl

theorem overlooked_replayCommand : Along r (replayCommand env command) := by
  refine .bind undisturbed_send.overlooked fun _ => .bind (.attempt overlooked_readFor) fun _ => ?_
  split
  · exact .pure _
  · exact .throw _

theorem overlooked_replayLog {log : Session.RedoLog} :
    Along r (replayLog env log command) :=
  .bind (.modify fun _ => Overlooks.of_ctx rfl) fun _ => .forM fun _ => overlooked_replayCommand

end Exchange

end SqlWire
