import SqlWire.Exchange.LocalFile

/-!
# Reading responses

`readUntil` gives packets to a reader until it suspends or has the whole response; it ends because
each packet uses up what the server sends. `readFor` reads the response to one command, and
`executeOnce` sends a command and reads its response.
-/

namespace SqlWire.Exchange

open Net (Env)

/-- Where reading a response stopped. -/
inductive Stop where
  /-- Rows are to be taken before the next packet. -/
  | suspended
  | done
  deriving DecidableEq, Repr

/-- Gives packets to a reader until it suspends or is done. -/
def readUntil (env : Env) (command : Command) (reader : Reader) (c : Client) :
    EStateM.Result Error Client (Reader × Stop) :=
  if reader.isDone then .ok (reader, .done) c
  else
    match _packet : Client.onLine (Line.readPacket env) c with
    | .error e c => .error e c
    | .ok payload c₁ =>
      match Reader.step payload (reader, c₁.ctx) with
      | .error fault (_, ctx) => Client.fail (.protocol fault) { c₁ with ctx }
      | .ok .suspended (reader, ctx) => .ok (reader, .suspended) { c₁ with ctx }
      | .ok (.localFile name) (reader, ctx) =>
        match _file : answerFileRequest env command name { c₁ with ctx } with
        | .error e c => .error e c
        | .ok () c₂ => readUntil env command reader c₂
      | .ok .needPacket (reader, ctx) | .ok .done (reader, ctx) =>
        readUntil env command reader { c₁ with ctx }
termination_by c.supply
decreasing_by
  all_goals
    have packet : c₁.supply < c.supply := by
      unfold Client.onLine at _packet
      split at _packet
      · next read =>
        injection _packet with _ eq
        subst eq
        exact Line.supply_readPacket read
      · cases _packet
  · have file : (answerFileRequest env command name { c₁ with ctx }).state.supply ≤ _ :=
      lowers_answerFileRequest { c₁ with ctx }
    rw [_file] at file
    exact Nat.lt_of_le_of_lt file packet
  · exact packet

/-- A file that was not sent fails a response, and else an error of the server does. -/
def verdict (infileError : Option Error) (result : Except ServerError Response) :
    Except Error Response :=
  match infileError, result with
  | some e, _ => .error e
  | none, .error e => .error (.server e)
  | none, .ok response => .ok response

/-- What the complete response to a command gives. -/
def finishResponse (command : Command) (reader : Reader) : EStateM Error Client Response := fun c =>
  match reader.finish with
  | .error fault => Client.fail (.protocol fault) c
  | .ok result =>
    let answered := Event.answered command c.ctx.inTransaction
    let after := { c.withContext (·.observe) with infileError := none }
    match verdict c.infileError result with
    | .error e => .error e ((after.note (.refused e)).note answered)
    | .ok response => .ok response (after.note answered)

/-- What was read when a response suspends: the results before the suspended one, and the rows of
that one so far. -/
def suspend (reader : Reader) (command : Command) (c : Client) : Response × Client :=
  let (completions, reader) := reader.takeCompletions
  let (partialSet, reader) := reader.takePartial
  (.completions (completions ++ (partialSet.map Completion.rows).toArray),
    { c with streaming := some ⟨reader, command⟩ })

def readFor (env : Env) (command : Command) (mark : Mark) (options : StatementOptions) :
    EStateM Error Client Response := fun c =>
  let c := { c with channel := c.channel.restore mark }
  match readUntil env command (.new command c.ctx.deprecateEof options) c with
  | .error e c => .error e c
  | .ok (reader, .suspended) c =>
    let (response, c) := suspend reader command c
    .ok response c
  | .ok (reader, .done) c => finishResponse command reader c

def closeOnServer (env : Env) : List UInt32 → EStateM Error Client Unit
  | [] => return
  | id :: ids => do
    let _ ← send env (.closeStatement id)
    closeOnServer env ids

/-- Takes a fresh statement into the cache and closes those that leave it. -/
def complete (env : Env) (response : Response) : EStateM Error Client Response :=
  match response with
  | .prepared statement => fun c =>
    let (statement, evicted, statements) := c.ctx.statements.insert statement
    match closeOnServer env evicted (c.withContext ({ · with statements })) with
    | .error e c => .error e c
    | .ok () c => .ok (.prepared statement) c
  | other => return other

def executeOnce (env : Env) (command : Command) (options : StatementOptions) :
    EStateM Error Client Response := do
  let mark ← send env command
  let response ← readFor env command mark options
  complete env response

end SqlWire.Exchange
