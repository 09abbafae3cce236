import SqlWire.Exchange.Failover

/-!
# Responses in parts

A command may be sent without reading its response, and a large result set may be given out in
parts. Whatever was not read is settled before the next command.
-/

namespace SqlWire.Exchange

open Net (Env)

/-- Sends a command. Gives the number of responses to read. -/
def sendOne (env : Env) (command : Command) : EStateM Error Client Nat := do
  settleStreaming env
  let mark ← send env command
  if 0 < command.expectedResponses then
    modify fun c => { c with unread := c.unread ++ [(command, mark)] }
  return command.expectedResponses

def readResponse (env : Env) (options : StatementOptions) : EStateM Error Client Response := do
  settleStreaming env
  match (← get).unread with
  | [] => throw (.usage .nothingPending)
  | (command, mark) :: unread =>
    modify ({ · with unread })
    complete env (← readFor env command mark options)

/-- A part of a response. -/
inductive Part where
  /-- The next rows of the result set that is given out in parts. -/
  | rows (rows : Array Row)
  /-- The rest: that result set with its last rows, and the results behind it. -/
  | last (completions : Array Completion)

def readStreaming (env : Env) : EStateM Error Client Part := do
  match (← get).streaming with
  | none => throw (.usage .nothingStreaming)
  | some ⟨reader, command⟩ =>
    modify ({ · with streaming := none })
    match ← readUntil env command reader with
    | (reader, .suspended) =>
      let (rows, reader) := reader.takeRows
      modify ({ · with streaming := some ⟨reader, command⟩ })
      return .rows rows
    | (reader, .done) => return .last (← finishResponse command reader).toCompletions

end SqlWire.Exchange
