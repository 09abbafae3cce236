import SqlWire.Exchange.Response

/-!
# Settling

Before another command is sent, what is still to be read is read and dropped: first the rest of a
streaming result, then the responses to commands that were sent ahead. An error that a dropped
response ends with is dropped too, unless the connection is broken.
-/

namespace SqlWire.Exchange

open Net (Env)

/-- Drops the error of a run unless the connection is broken. -/
def tolerate {α : Type} (result : Except Error α) : EStateM Error Client (Option α) :=
  match result with
  | .ok a => return some a
  | .error e => if e.isBroken then throw e else return none

/-- Drops the rest of a streaming result. -/
def settleStreaming (env : Env) : EStateM Error Client Unit := do
  match (← get).streaming with
  | none => return
  | some ⟨reader, command⟩ =>
    modify ({ · with streaming := none })
    let (reader, _) ← readUntil env command reader.discard
    let _ ← tolerate (← (finishResponse command reader).attempt)

/-- Gives back a statement that nobody asked for. -/
def releaseUnread (env : Env) (statement : PreparedStatement) : EStateM Error Client Unit := do
  let (id?, statements) := (← get).ctx.statements.release statement.handle
  modify (·.withContext ({ · with statements }))
  closeOnServer env id?.toList

def dropResponse (env : Env) (command : Command) (mark : Mark) : EStateM Error Client Unit := do
  modify fun c => { c with channel := c.channel.restore mark }
  let reader := Reader.new command (← get).ctx.deprecateEof {}
  let (reader, _) ← readUntil env command reader.discard
  let result ← EStateM.attempt do complete env (← finishResponse command reader)
  match ← tolerate result with
  | some (.prepared statement) => releaseUnread env statement
  | _ => return

/-- Drops the responses to commands that were sent ahead. -/
def settleUnread (env : Env) : List (Command × Mark) → EStateM Error Client Unit
  | [] => return
  | (command, mark) :: rest => do
    modify fun c => { c with unread := rest }
    dropResponse env command mark
    settleUnread env rest

/-- Reads and drops everything that is still to be read. -/
def settle (env : Env) : EStateM Error Client Unit := do
  settleStreaming env
  settleUnread env (← get).unread

end SqlWire.Exchange
