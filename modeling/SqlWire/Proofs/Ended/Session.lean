import SqlWire.Proofs.Ended.Course

/-!
# What stays on its line

Everything that a client does on one session takes its line along a course, from a single packet to
a batch. Only a failover changes to another line.
-/

namespace SqlWire

open Net (Env)

variable {α : Type} {env : Env} {command : Command} {mark : Mark} {options : StatementOptions}

/-- The run uses the line of the client that it began with. -/
abbrev Stays (env : Env) (run : EStateM Error Client α) : Prop := Follows env Client.line run

theorem stays_fail {e : Error} : Stays env (Client.fail e : EStateM Error Client α) := fun _ => .refl

/-- A change of the client behind its line. -/
theorem stays_modify {f : Client → Client} (h : ∀ c, (f c).line = c.line) :
    Stays env (modify f : EStateM Error Client PUnit) :=
  .modify fun c => by rw [h]

theorem stays_onLine {run : EStateM Error Line α} (h : Follows env id run) :
    Stays env (Client.onLine run) := by
  intro c
  unfold Client.onLine
  split <;> next eq => exact h.result eq

namespace Exchange

/-! ## Sending -/

theorem stays_send : Stays env (send env command) := by
  intro c
  have reset : Line.Course env c.line { c.line with channel := c.channel.resetSequence } :=
    .single (.aside rfl rfl rfl rfl)
  unfold send
  dsimp only
  split
  · exact reset
  · split <;> next written =>
      exact reset.trans ((stays_onLine Line.follows_writePacket).result written)

theorem stays_sendPayload {payload : ByteArray} : Stays env (sendPayload env payload) :=
  stays_onLine Line.follows_writePacket

theorem stays_sendChunks {content : ByteArray} {offset : Nat} :
    Stays env (sendChunks env content offset) := by
  fun_induction sendChunks env content offset with
  | case1 offset _ ih => exact .bind stays_sendPayload fun _ => ih
  | case2 => exact .pure _

theorem stays_answerFileRequest {name : String} :
    Stays env (answerFileRequest env command name) := by
  have content : Stays env (sendContent env name) := by
    refine .bind stays_sendChunks fun _ => ?_
    split
    · exact .throw _
    · exact .pure _
  have noted (e : Error) : Stays env (noteInfileError e) := stays_modify fun _ => rfl
  have file : Stays env (sendFile env name) := by
    refine .bind (.attempt content) fun result => ?_
    split
    · exact .pure _
    · split
      · exact .throw _
      · exact noted _
  refine .bind .get fun c => ?_
  split
  · exact .bind (noted _) fun _ => stays_sendPayload
  · exact .bind file fun _ => stays_sendPayload

/-! ## Reading -/

theorem stays_readUntil {reader : Reader} : Stays env (readUntil env command reader) := by
  intro c
  have packet {r : EStateM.Result Error Client ByteArray} {c : Client}
      (eq : Client.onLine (Line.readPacket env) c = r) : Line.Course env c.line r.state.line :=
    (stays_onLine Line.follows_readPacket).result eq
  fun_induction readUntil env command reader c with
  | case1 => exact .refl
  | case2 reader c _ e c₁ read => exact packet read
  | case3 reader c _ payload c₁ read fault reader' ctx => exact packet read
  | case4 reader c _ payload c₁ read reader' ctx => exact packet read
  | case5 reader c _ payload c₁ read name reader' ctx _ e c₂ file =>
    have answered := stays_answerFileRequest.result file
    exact (packet read).trans answered
  | case6 reader c _ payload c₁ read name reader' ctx _ c₂ file ih =>
    have answered := stays_answerFileRequest.result file
    exact (packet read).trans (answered.trans ih)
  | case7 reader c _ payload c₁ read reader' ctx _ ih
  | case8 reader c _ payload c₁ read reader' ctx _ ih => exact (packet read).trans ih

theorem stays_finishResponse {reader : Reader} : Stays env (finishResponse command reader) := by
  intro c
  unfold finishResponse
  split
  · exact .refl
  · dsimp only
    split <;> exact .refl

theorem stays_readFor : Stays env (readFor env command mark options) := by
  intro c
  have restored : Line.Course env c.line { c.line with channel := c.channel.restore mark } :=
    .single (.aside rfl rfl rfl rfl)
  unfold readFor
  dsimp only
  split
  · next read => exact restored.trans (stays_readUntil.result read)
  · next read => exact restored.trans (stays_readUntil.result read)
  · next read => exact (restored.trans (stays_readUntil.result read)).trans (stays_finishResponse _)

theorem stays_closeOnServer {ids : List UInt32} : Stays env (closeOnServer env ids) := by
  induction ids with
  | nil => exact .pure ()
  | cons id ids ih => exact .bind stays_send fun _ => ih

theorem stays_complete {response : Response} : Stays env (complete env response) := by
  cases response with
  | prepared statement =>
    intro c
    dsimp only [complete]
    split <;> next closed => exact (stays_closeOnServer.result closed :)
  | none => exact .pure _
  | completions completions => exact .pure _

theorem stays_executeOnce : Stays env (executeOnce env command options) :=
  .bind stays_send fun _ => .bind stays_readFor fun _ => stays_complete

/-! ## Settling -/

theorem stays_tolerate {result : Except Error α} : Stays env (tolerate result) := by
  unfold tolerate
  split
  · exact .pure _
  · split
    · exact .throw _
    · exact .pure _

theorem stays_settleStreaming : Stays env (settleStreaming env) := by
  refine .bind .get fun c => ?_
  split
  · exact .pure _
  · refine .bind (stays_modify fun _ => rfl) fun _ => .bind stays_readUntil fun _ => ?_
    exact .bind (.attempt stays_finishResponse) fun _ => .bind stays_tolerate fun _ => .pure _

theorem stays_dropResponse : Stays env (dropResponse env command mark) := by
  have release (statement : PreparedStatement) : Stays env (releaseUnread env statement) :=
    .bind .get fun _ => .bind (stays_modify fun _ => rfl) fun _ => stays_closeOnServer
  refine .bind (.modify fun c => .single (.aside rfl rfl rfl rfl)) fun _ => .bind .get fun c => ?_
  refine .bind stays_readUntil fun _ => ?_
  refine .bind (.attempt (.bind stays_finishResponse fun _ => stays_complete)) fun _ => ?_
  refine .bind stays_tolerate fun _ => ?_
  split
  · exact release _
  · exact .pure _

theorem stays_settleUnread {unread : List (Command × Mark)} :
    Stays env (settleUnread env unread) := by
  induction unread with
  | nil => exact .pure ()
  | cons sent rest ih =>
    exact .bind (stays_modify fun _ => rfl) fun _ => .bind stays_dropResponse fun _ => ih

theorem stays_settle : Stays env (settle env) :=
  .bind stays_settleStreaming fun _ => .bind .get fun _ => stays_settleUnread

/-! ## Batches -/

theorem stays_runSequential {commands : List Command} {progress : Batch.Progress} :
    Stays env (runSequential env options commands progress) := by
  induction commands generalizing progress with
  | nil => exact .pure _
  | cons command rest ih =>
    refine .bind (.attempt stays_executeOnce) fun result => ?_
    split
    · exact ih
    · exact .pure _

theorem stays_sendAhead {commands : List Command} {progress : Batch.Progress} :
    Stays env (sendAhead env commands progress) := by
  induction commands with
  | nil => exact .pure _
  | cons command rest ih =>
    refine .bind (.attempt stays_send) fun result => ?_
    split
    · exact .pure _
    · exact .bind ih fun _ => .pure _

theorem stays_readAhead {sent : List (Command × Mark)} {progress : Batch.Progress} :
    Stays env (readAhead env options sent progress) := by
  induction sent generalizing progress with
  | nil => exact .pure _
  | cons sent rest ih =>
    refine .bind (.attempt (.bind stays_readFor fun _ => stays_complete)) fun result => ?_
    split
    · exact ih
    · exact .pure _

/-- What was gathered of a batch is given, or thrown. -/
theorem stays_finish (progress : Batch.Progress) :
    Stays env (match progress.finish with
      | .ok result => pure result
      | .error e => throw e : EStateM Error Client (Array BatchOutcome × Array Completion)) := by
  split
  · exact .pure _
  · exact .throw _

theorem stays_runBatch {commands : List Command} : Stays env (runBatch env commands options) := by
  refine .bind stays_settle fun _ => .bind .get fun c => ?_
  dsimp only
  split
  · exact .bind stays_runSequential fun progress => stays_finish progress
  · refine .bind stays_sendAhead fun _ => ?_
    exact .bind stays_readAhead fun progress => stays_finish progress

/-! ## Calls that stay on one session -/

theorem stays_sendOne : Stays env (sendOne env command) := by
  refine .bind stays_settleStreaming fun _ => .bind stays_send fun _ => ?_
  split
  · exact .bind (stays_modify fun _ => rfl) fun _ => .pure _
  · exact .pure _

theorem stays_readResponse : Stays env (readResponse env options) := by
  refine .bind stays_settleStreaming fun _ => .bind .get fun c => ?_
  split
  · exact .throw _
  · exact .bind (stays_modify fun _ => rfl) fun _ => .bind stays_readFor fun _ => stays_complete

theorem stays_readStreaming : Stays env (readStreaming env) := by
  refine .bind .get fun c => ?_
  split
  · exact .throw _
  · refine .bind (stays_modify fun _ => rfl) fun _ => .bind stays_readUntil fun _ => ?_
    split
    · exact .bind (stays_modify fun _ => rfl) fun _ => .pure _
    · exact .bind stays_finishResponse fun _ => .pure _

theorem stays_closeStatement {statement : PreparedStatement} :
    Stays env (closeStatement env statement) := by
  refine .bind .get fun c => .bind (stays_modify fun _ => rfl) fun _ => ?_
  split
  · exact .pure _
  · exact .bind stays_settleStreaming fun _ => stays_closeOnServer

theorem stays_usesServerReset : Stays env (usesServerReset env) := by
  have asked : Stays env (askVersion env) := by
    refine .bind (.attempt stays_executeOnce) fun result => ?_
    split
    · split
      · exact .throw _
      · exact .pure _
    · split
      · exact stays_fail
      · exact .pure _
  unfold usesServerReset
  split
  · refine .bind (.bind .get fun c => ?_) fun _ => .pure _
    split
    · exact .pure _
    · exact .bind asked fun _ => .bind (stays_modify fun _ => rfl) fun _ => .pure _
  · exact .pure _

theorem stays_setTimeout {timeout : Option Nat} : Stays env (setTimeout timeout) := by
  intro c
  unfold setTimeout
  split
  · exact .refl
  · next channel eq =>
    refine .single (.aside ?_ rfl rfl rfl)
    unfold Channel.setTimeout at eq
    split at eq
    · cases eq
      rfl
    · next link held =>
      unfold Net.Link.setTimeout at eq
      split at eq
      · cases eq
      · cases eq
        show some link.id = c.channel.link.map (·.id)
        rw [held]
        rfl

/-! ## What a new session is given -/

theorem stays_setUp : Stays env (setUp env) := by
  refine .bind stays_runBatch fun _ => ?_
  dsimp only
  split
  · exact stays_fail
  · exact stays_modify fun _ => rfl

theorem stays_replayProperty {property : Session.Property} :
    Stays env (replayProperty env property) := by
  unfold replayProperty
  split
  · exact .bind stays_executeOnce fun _ => stays_modify fun _ => rfl
  · exact stays_modify fun _ => rfl

theorem stays_prepareAgain {statement : PreparedStatement} :
    Stays env (prepareAgain env statement) := by
  refine .bind stays_send fun _ => .bind stays_readFor fun _ => ?_
  split
  · exact stays_modify fun _ => rfl
  · exact stays_fail

theorem stays_replayCommand : Stays env (replayCommand env command) := by
  refine .bind stays_send fun _ => .bind (.attempt stays_readFor) fun result => ?_
  split
  · exact .pure _
  · exact .throw _

theorem stays_restoreSession {lost : Session.Context} : Stays env (restoreSession env lost) := by
  refine .bind stays_setTimeout fun _ => .bind (.forM fun _ => stays_replayProperty) fun _ => ?_
  exact .bind (stays_modify fun _ => rfl) fun _ => .bind .get fun _ =>
    .forM fun _ => stays_prepareAgain

theorem stays_replayLog {log : Session.RedoLog} : Stays env (replayLog env log command) :=
  .bind (stays_modify fun _ => rfl) fun _ => .forM fun _ => stays_replayCommand

end Exchange

end SqlWire
