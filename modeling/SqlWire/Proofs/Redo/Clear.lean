import SqlWire.Proofs.Journal.Exchange
import SqlWire.Proofs.Reads

/-!
# Clear clients

A client is `Clear` when nothing is held back: no result is given out in parts, no response is left
to be read later, and no failure that breaks the connection waits behind a local file. Sending a
command and reading its response keep that, except when the response is given out in parts.
-/

namespace SqlWire

open Net (Env)

/-- No response is read later or given out in parts, and what keeps a local file from being sent has
not broken the connection. -/
def Clear (c : Client) : Prop :=
  c.streaming = none ∧ c.unread = [] ∧ c.infileError.any Error.isBroken = false

/-- A run holds nothing back. -/
def KeepsClear {α : Type} (run : EStateM Error Client α) : Prop :=
  ∀ ⦃c⦄, Clear c → Clear (run c).state

variable {α β : Type} {env : Env} {command : Command} {mark : Mark} {options : StatementOptions}
  {c c' : Client} {run : EStateM Error Client α}

namespace Clear

theorem streaming (h : Clear c) : c.streaming = none := h.1

theorem unread (h : Clear c) : c.unread = [] := h.2.1

theorem infile (h : Clear c) : c.infileError.any Error.isBroken = false := h.2.2

end Clear

namespace KeepsClear

theorem of_ok {a : α} (h : KeepsClear run) (eq : run c = .ok a c') (clear : Clear c) : Clear c' := by
  have after := h clear
  rw [eq] at after
  exact after

theorem of_error {e : Error} (h : KeepsClear run) (eq : run c = .error e c') (clear : Clear c) :
    Clear c' := by
  have after := h clear
  rw [eq] at after
  exact after

theorem pure (a : α) : KeepsClear (Pure.pure a) := fun _ clear => clear

theorem throw (e : Error) : KeepsClear (throw e : EStateM Error Client α) := fun _ clear => clear

theorem get : KeepsClear (MonadState.get : EStateM Error Client Client) := fun _ clear => clear

theorem bind {next : α → EStateM Error Client β} (h : KeepsClear run)
    (h' : ∀ a, KeepsClear (next a)) : KeepsClear (run >>= next) := by
  intro c clear
  cases eq : run c with
  | ok a c₁ =>
    rw [EStateM.bind_of_ok eq]
    exact h' a (h.of_ok eq clear)
  | error e c₁ =>
    rw [EStateM.bind_of_error eq]
    exact h.of_error eq clear

theorem attempt (h : KeepsClear run) : KeepsClear (run.attempt : EStateM Error Client _) := by
  intro c clear
  cases eq : run c with
  | ok a c₁ =>
    rw [EStateM.attempt_of_ok eq]
    exact h.of_ok eq clear
  | error e c₁ =>
    rw [EStateM.attempt_of_error eq]
    exact h.of_error eq clear

theorem onLine (run : EStateM Error Line α) : KeepsClear (Client.onLine run) := by
  intro c clear
  unfold Client.onLine
  split <;> exact clear

end KeepsClear

namespace Exchange

theorem keepsClear_send : KeepsClear (send env command) := by
  intro c clear
  unfold send
  dsimp only
  have reset : Clear { c with channel := c.channel.resetSequence } := clear
  split
  · exact reset
  · split
    · next written => exact KeepsClear.of_error (.onLine _) written reset
    · next written =>
      have after := KeepsClear.of_ok (.onLine _) written reset
      exact after

theorem keepsClear_sendChunks {content : ByteArray} {offset : Nat} :
    KeepsClear (sendChunks env content offset) := by
  fun_induction sendChunks env content offset with
  | case1 offset _ ih => exact .bind (.onLine _) fun _ => ih
  | case2 => exact .pure _

theorem keepsClear_noteInfileError {e : Error} (whole : e.isBroken = false) :
    KeepsClear (noteInfileError e) := fun _ clear => ⟨clear.streaming, clear.unread, whole⟩

theorem keepsClear_answerFileRequest {name : String} :
    KeepsClear (answerFileRequest env command name) := by
  have content : KeepsClear (sendContent env name) := by
    refine .bind keepsClear_sendChunks fun _ => ?_
    split
    · exact .throw _
    · exact .pure _
  have file : KeepsClear (sendFile env name) := by
    refine .bind (.attempt content) fun _ => ?_
    split
    · exact .pure _
    · split
      · exact .throw _
      · next whole => exact keepsClear_noteInfileError (Bool.not_eq_true _ ▸ whole)
  refine .bind .get fun c => ?_
  split
  · exact .bind (keepsClear_noteInfileError rfl) fun _ => .onLine _
  · exact .bind file fun _ => .onLine _

theorem keepsClear_readUntil {reader : Reader} : KeepsClear (readUntil env command reader) := by
  intro c clear
  fun_induction readUntil env command reader c with
  | case1 => exact clear
  | case2 reader c _ e c₁ packet => exact KeepsClear.of_error (.onLine _) packet clear
  | case3 reader c _ payload c₁ packet | case4 reader c _ payload c₁ packet =>
    have read := KeepsClear.of_ok (.onLine _) packet clear
    exact read
  | case5 reader c _ payload c₁ packet name reader' ctx _ e c₂ file =>
    have read := KeepsClear.of_ok (.onLine _) packet clear
    exact keepsClear_answerFileRequest.of_error file read
  | case6 reader c _ payload c₁ packet name reader' ctx _ c₂ file ih =>
    have read := KeepsClear.of_ok (.onLine _) packet clear
    exact ih (keepsClear_answerFileRequest.of_ok file read)
  | case7 reader c _ payload c₁ packet reader' ctx _ ih
  | case8 reader c _ payload c₁ packet reader' ctx _ ih =>
    have read := KeepsClear.of_ok (.onLine _) packet clear
    exact ih read

theorem keepsClear_finishResponse {reader : Reader} :
    KeepsClear (finishResponse command reader) := by
  intro c clear
  unfold finishResponse
  split
  · exact clear
  · dsimp only
    split <;> exact ⟨clear.streaming, clear.unread, rfl⟩

theorem keepsClear_closeOnServer {ids : List UInt32} : KeepsClear (closeOnServer env ids) := by
  induction ids with
  | nil => exact .pure _
  | cons id ids ih => exact .bind keepsClear_send fun _ => ih

theorem keepsClear_complete {response : Response} : KeepsClear (complete env response) := by
  cases response with
  | prepared statement =>
    intro c clear
    dsimp only [complete]
    split
    · next closed => exact keepsClear_closeOnServer.of_error closed clear
    · next closed => exact keepsClear_closeOnServer.of_ok closed clear
  | none => exact .pure _
  | completions completions => exact .pure _

end Exchange

end SqlWire
