import SqlWire.Exchange.Failover

/-!
# Session properties and reset

A property is set on the server, if it is known there, before the client takes it over. A reset
brings the session back to its first state: with the server's own command where it is known, and
else by rolling back and setting the changed properties again.
-/

namespace SqlWire.Exchange

open Net (Env)
open Session (Property Version)

/-- Sets a property, without noting that it was changed. -/
def applyProperty (env : Env) (property : Property) : EStateM Error Client Unit := do
  if let some command := property.command? then
    let _ ← execute env command {}
  if let .networkTimeout timeout := property then
    setTimeout timeout

def setProperty (env : Env) (property : Property) : EStateM Error Client Unit := do
  applyProperty env property
  modify (·.withContext (·.recordProperty property))

/-- The statement that asks for the version. -/
def versionQuery : String := "SELECT @@memsql_version"

/-- The version that the server reports, if it reports one. -/
def askVersion (env : Env) : EStateM Error Client (Option Version) := do
  match ← (executeOnce env (.query versionQuery) {}).attempt with
  | .error e => if e.isBroken then throw e else return none
  | .ok response =>
    match firstRow response.toCompletions with
    | .error fault => Client.fail (.protocol fault)
    | .ok cells => return (cells[0]?.join).bind Version.parse?

/-- The version that the server reports; it is asked once in a session. -/
def serverVersion (env : Env) : EStateM Error Client (Option Version) := do
  match (← get).ctx.version with
  | some version => return version
  | none =>
    let version ← askVersion env
    modify (·.withContext ({ · with version := some version }))
    return version

/-- The server's own reset is wanted and the server knows it. -/
def usesServerReset (env : Env) : EStateM Error Client Bool := do
  if env.opts.useResetConnection then
    return (← serverVersion env).any (·.supportsReset)
  else return false

/-- Brings the session back to its first state. -/
def reset (env : Env) : EStateM Error Client Unit := do
  settle env
  let onServer ← usesServerReset env
  if onServer then
    let _ ← executeOnce env .resetConnection {}
    modify (·.withContext fun ctx => { ctx with statements := ctx.statements.clear.2 })
  else if (← get).ctx.inTransaction then
    let _ ← executeOnce env (.query "ROLLBACK") {}
  (Session.resetPlan (← get).ctx.changed env.opts onServer).forM (applyProperty env)
  modify fun c => (c.withContext (·.afterReset env.opts)).note .reset

end SqlWire.Exchange
