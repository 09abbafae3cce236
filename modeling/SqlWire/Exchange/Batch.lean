import SqlWire.Batch
import SqlWire.Exchange.Settle

/-!
# Running batches

The commands of a batch are sent ahead or one by one. Items are attempted until one of them breaks
the connection; a command that cannot be sent ahead keeps those behind it from being sent, and the
ones before it are still answered.
-/

namespace SqlWire.Exchange

open Net (Env)

/-- Notes what became of an item. Also says whether the next item can be attempted. -/
def noteItem (progress : Batch.Progress) : Except Error Response → Batch.Progress × Bool
  | .ok response => (progress.success response.toCompletions, true)
  | .error e => (progress.failure e, !e.isBroken)

/-- Sends each command and reads its response. -/
def runSequential (env : Env) (options : StatementOptions) :
    List Command → Batch.Progress → EStateM Error Client Batch.Progress
  | [], progress => return progress
  | command :: rest, progress => do
    match noteItem progress (← (executeOnce env command options).attempt) with
    | (progress, true) => runSequential env options rest progress
    | (progress, false) => return progress

/-- Sends commands until one cannot be sent. Gives those that were sent, with their marks. -/
def sendAhead (env : Env) :
    List Command → Batch.Progress → EStateM Error Client (List (Command × Mark) × Batch.Progress)
  | [], progress => return ([], progress)
  | command :: rest, progress => do
    match ← (send env command).attempt with
    | .error e => return ([], progress.abort e)
    | .ok mark =>
      let (sent, progress) ← sendAhead env rest progress
      return ((command, mark) :: sent, progress)

/-- Reads the responses to commands that were sent ahead. -/
def readAhead (env : Env) (options : StatementOptions) :
    List (Command × Mark) → Batch.Progress → EStateM Error Client Batch.Progress
  | [], progress => return progress
  | (command, mark) :: rest, progress => do
    let result ← EStateM.attempt do complete env (← readFor env command mark options)
    match noteItem progress result with
    | (progress, true) => readAhead env options rest progress
    | (progress, false) => return progress

def runBatch (env : Env) (commands : List Command) (options : StatementOptions) :
    EStateM Error Client (Array BatchOutcome × Array Completion) := do
  settle env
  let options := { options with fetchSize := 0 }
  let progress ←
    match Batch.strategy env.opts.disablePipeline (← get).ctx.localInfile with
    | .sequential => runSequential env options commands .start
    | .pipelined => do
      let (sent, progress) ← sendAhead env commands .start
      readAhead env options sent progress
  match progress.finish with
  | .ok result => return result
  | .error e => throw e

end SqlWire.Exchange
