import SqlWire.Proofs.Along
import SqlWire.Proofs.Redo.Clear

/-!
# What exchanges leave alone

A command and its response change what the server reports of a session, and the redo log. The rest of
the session stays, such as its statements, and so does what is still to be read from other commands.
-/

namespace SqlWire

open EStateM (Result)
open Net (Env)

variable {α : Type} {env : Env} {command : Command} {mark : Mark} {options : StatementOptions}
  {c c' c'' : Client}

/-- The same session, with the same responses to be read. -/
structure Undisturbed (c c' : Client) : Prop where
  streaming : c'.streaming = c.streaming
  unread : c'.unread = c.unread
  ctx : ∃ status warnings redo, c'.ctx = { c.ctx with status, warnings, redo }

namespace Undisturbed

/-- Behind the session and what is to be read, anything may change. -/
theorem of_same (streaming : c'.streaming = c.streaming) (unread : c'.unread = c.unread)
    (ctx : c'.ctx = c.ctx) : Undisturbed c c' := ⟨streaming, unread, _, _, _, ctx⟩

theorem refl (c : Client) : Undisturbed c c := .of_same rfl rfl rfl

theorem trans (h : Undisturbed c c') (h' : Undisturbed c' c'') : Undisturbed c c'' := by
  obtain ⟨_, _, _, first⟩ := h.ctx
  obtain ⟨_, _, _, second⟩ := h'.ctx
  refine ⟨h'.streaming.trans h.streaming, h'.unread.trans h.unread, ?_⟩
  rw [second, first]
  exact ⟨_, _, _, rfl⟩

instance : IsPreorder Client Undisturbed where
  refl := refl
  trans _ _ _ := trans

theorem statements (h : Undisturbed c c') : c'.ctx.statements = c.ctx.statements := by
  obtain ⟨_, _, _, eq⟩ := h.ctx
  rw [eq]

end Undisturbed

namespace Exchange

theorem undisturbed_onLine {run : EStateM Error Line α} :
    Along Undisturbed (Client.onLine run) := by
  intro c
  unfold Client.onLine
  split <;> exact .of_same rfl rfl rfl

theorem undisturbed_send : Along Undisturbed (send env command) := by
  intro c
  have reset : Undisturbed c { c with channel := c.channel.resetSequence } :=
    .of_same rfl rfl rfl
  unfold send
  dsimp only
  split
  · exact reset
  · split
    · next written =>
      have wrote := undisturbed_onLine.result written
      exact reset.trans wrote
    · next written =>
      have wrote := undisturbed_onLine.result written
      exact (reset.trans wrote).trans ⟨rfl, rfl, _, _, _, rfl⟩

theorem undisturbed_sendChunks {content : ByteArray} {offset : Nat} :
    Along Undisturbed (sendChunks env content offset) := by
  fun_induction sendChunks env content offset with
  | case1 offset _ ih => exact .bind undisturbed_onLine fun _ => ih
  | case2 => exact .pure _

theorem undisturbed_answerFileRequest {name : String} :
    Along Undisturbed (answerFileRequest env command name) := by
  have content : Along Undisturbed (sendContent env name) := by
    refine .bind undisturbed_sendChunks fun _ => ?_
    split
    · exact .throw _
    · exact .pure _
  have noted (e : Error) : Along Undisturbed (noteInfileError e) := .modify fun _ => .of_same rfl rfl rfl
  have file : Along Undisturbed (sendFile env name) := by
    refine .bind (.attempt content) fun result => ?_
    split
    · exact .pure _
    · split
      · exact .throw _
      · exact noted _
  refine .get_bind fun c => ?_
  split
  · exact .bind (noted _) fun _ => undisturbed_onLine
  · exact .bind file fun _ => undisturbed_onLine

/-- A packet was read and given to a reader. -/
theorem undisturbed_step {payload : ByteArray} {reader : Reader} {result : Reader.Result}
    {c₁ : Client} (packet : Undisturbed c c₁)
    (step : Reader.step payload (reader, c₁.ctx) = result) :
    Undisturbed c { c₁ with ctx := result.state.2 } := by
  obtain ⟨status, warnings, eq⟩ := step ▸ (Reader.calm_step payload).updated
  exact packet.trans ⟨rfl, rfl, status, warnings, _, eq⟩

theorem undisturbed_readUntil {reader : Reader} :
    Along Undisturbed (readUntil env command reader) := by
  intro c
  have packet {r : Result Error Client ByteArray} {c : Client}
      (eq : Client.onLine (Line.readPacket env) c = r) : Undisturbed c r.state :=
    undisturbed_onLine.result eq
  fun_induction readUntil env command reader c with
  | case1 => exact .refl _
  | case2 reader c _ e c₁ read => exact packet read
  | case3 reader c _ payload c₁ read fault reader' ctx step =>
    exact (undisturbed_step (packet read) step).trans (.of_same rfl rfl rfl)
  | case4 reader c _ payload c₁ read reader' ctx step => exact undisturbed_step (packet read) step
  | case5 reader c _ payload c₁ read name reader' ctx step e c₂ file =>
    have answered := undisturbed_answerFileRequest.result file
    exact (undisturbed_step (packet read) step).trans answered
  | case6 reader c _ payload c₁ read name reader' ctx step c₂ file ih =>
    have answered := undisturbed_answerFileRequest.result file
    exact (undisturbed_step (packet read) step).trans (answered.trans ih)
  | case7 reader c _ payload c₁ read reader' ctx step ih
  | case8 reader c _ payload c₁ read reader' ctx step ih =>
    exact (undisturbed_step (packet read) step).trans ih

theorem undisturbed_finishResponse {reader : Reader} :
    Along Undisturbed (finishResponse command reader) := by
  intro c
  unfold finishResponse
  split
  · exact .of_same rfl rfl rfl
  · dsimp only
    split <;> exact ⟨rfl, rfl, _, _, _, rfl⟩

/-- Without a fetch size nothing is given out in parts. -/
theorem undisturbed_readFor (whole : options.fetchSize = 0) :
    Along Undisturbed (readFor env command mark options) := by
  intro c
  have restored : Undisturbed c { c with channel := c.channel.restore mark } :=
    .of_same rfl rfl rfl
  unfold readFor
  dsimp only
  split
  · next read => exact restored.trans (undisturbed_readUntil.result read)
  · next read => cases stop_of_readUntil whole read
  · next read =>
    exact (restored.trans (undisturbed_readUntil.result read)).trans (undisturbed_finishResponse _)

/-- A response without a statement has nothing to be taken over. -/
theorem receive_eq_readFor (other : isPrepare command = false) (c : Client) :
    (readFor env command mark options >>= complete env) c = readFor env command mark options c := by
  cases read : readFor env command mark options c with
  | error e c₁ => exact EStateM.bind_of_error read
  | ok response c₁ =>
    refine (EStateM.bind_of_ok read).trans ?_
    cases response with
    | prepared statement => cases other.symm.trans (isPrepare_of_prepared read)
    | none | completions _ => rfl

theorem undisturbed_receive (other : isPrepare command = false) (whole : options.fetchSize = 0) :
    Along Undisturbed (readFor env command mark options >>= complete env) := by
  intro c
  rw [receive_eq_readFor other]
  exact undisturbed_readFor whole c

theorem undisturbed_executeOnce (other : isPrepare command = false) (whole : options.fetchSize = 0) :
    Along Undisturbed (executeOnce env command options) :=
  .bind undisturbed_send fun _ => undisturbed_receive other whole

end Exchange

end SqlWire
