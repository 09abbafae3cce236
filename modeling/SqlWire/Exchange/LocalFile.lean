import SqlWire.Exchange.Send
import SqlWire.Sql.LocalFile

/-!
# Sending local files

The server may answer a statement by asking for a file. The file is sent only if that is allowed and
the statement itself names the file, so that a server cannot choose it; an empty payload ends the
file and stands for a refused one. Why a file was not sent is reported with the response.
-/

namespace SqlWire.Exchange

open Net (Env)

def refusal? (env : Env) (ctx : Session.Context) (command : Command) (name : String) :
    Option UsageFault :=
  let isNamed := command.sql?.any fun sql =>
    Sql.namesLocalFile ctx.noBackslashEscapes (Text.encode name) (Text.encode sql)
  if !env.opts.allowLocalInfile then some .localFilesDisabled
  else if !isNamed then some (.foreignFile name)
  else none

/-- Most bytes of one payload of a file. -/
def chunkSize : Nat := 1024 * 1024

def sendChunks (env : Env) (content : ByteArray) (offset : Nat) : EStateM Error Client Unit := do
  if offset < content.size then
    sendPayload env (content.extract offset (offset + chunkSize))
    sendChunks env content (offset + chunkSize)
termination_by content.size - offset
decreasing_by simp only [chunkSize]; omega

def sendContent (env : Env) (name : String) : EStateM Error Client Unit := do
  let file := (env.files name).read
  sendChunks env file.content 0
  match file.fault with
  | some fault => throw (.usage (.unreadableFile name fault))
  | none => return

/-- Keeps the reason why a file was not sent. -/
def noteInfileError (e : Error) : EStateM Error Client Unit :=
  modify fun c => { c with infileError := some e }

/-- Sends a file, and keeps the reason if that fails and the channel is still usable. -/
def sendFile (env : Env) (name : String) : EStateM Error Client Unit := do
  match ← (sendContent env name).attempt with
  | .ok () => return
  | .error e => if e.isBroken then throw e else noteInfileError e

def answerFileRequest (env : Env) (command : Command) (name : String) :
    EStateM Error Client Unit := do
  match refusal? env (← get).ctx command name with
  | some fault => noteInfileError (.usage fault)
  | none => sendFile env name
  sendPayload env ByteArray.empty

theorem lowers_sendChunks {env : Env} {content : ByteArray} {offset : Nat} :
    Lowers Client.supply (sendChunks env content offset) := by
  fun_induction sendChunks env content offset with
  | case1 offset _ ih => exact .bind lowers_sendPayload fun _ => ih
  | case2 => exact .pure _

theorem lowers_noteInfileError {e : Error} : Lowers Client.supply (noteInfileError e) :=
  .modify fun _ => Nat.le_refl _

theorem lowers_answerFileRequest {env : Env} {command : Command} {name : String} :
    Lowers Client.supply (answerFileRequest env command name) := by
  have content : Lowers Client.supply (sendContent env name) := by
    refine .bind lowers_sendChunks fun _ => ?_
    split
    · exact .throw _
    · exact .pure _
  have file : Lowers Client.supply (sendFile env name) := by
    refine .bind (.attempt content) fun result => ?_
    split
    · exact .pure _
    · split
      · exact .throw _
      · exact lowers_noteInfileError
  refine .bind (fun _ => Nat.le_refl _) fun c => ?_
  split
  · exact .bind lowers_noteInfileError fun _ => lowers_sendPayload
  · exact .bind file fun _ => lowers_sendPayload

end SqlWire.Exchange
