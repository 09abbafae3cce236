import SqlWire.Exchange.Failover

/-!
# Prepared statements

A statement is prepared once for each text, as far as the cache goes, and closed on the server when
its last holder gives it back and the cache does not keep it.
-/

namespace SqlWire.Exchange

open Net (Env)

def prepare (env : Env) (sql : String) : EStateM Error Client PreparedStatement := do
  let (cached?, statements) := (← get).ctx.statements.acquire sql
  match cached? with
  | some statement =>
    modify (·.withContext ({ · with statements }))
    return statement
  | none =>
    match ← execute env (.prepare sql) {} with
    | .prepared statement => return statement
    | _ => Client.fail (.protocol .notPrepared)

def closeStatement (env : Env) (statement : PreparedStatement) : EStateM Error Client Unit := do
  let (id?, statements) := (← get).ctx.statements.release statement.handle
  modify (·.withContext ({ · with statements }))
  match id? with
  | none => return
  | some id =>
    settleStreaming env
    closeOnServer env [id]

def executeBatch (env : Env) (sql : String) (paramSets : List (List Value)) :
    EStateM Error Client (Array BatchOutcome) := do
  if env.opts.useServerPrepare then
    let statement ← prepare env sql
    let result ← (runBatch env (paramSets.map statement.execute) {}).attempt
    let released ← (closeStatement env statement).attempt
    match result, released with
    | .error e, _ | .ok _, .error e => throw e
    | .ok (outcomes, _), .ok () => return outcomes
  else
    let (outcomes, _) ← runBatch env (paramSets.map (.clientPrepared sql)) {}
    return outcomes

end SqlWire.Exchange
