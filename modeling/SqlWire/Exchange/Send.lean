import SqlWire.Client.State

/-!
# Sending commands

A command begins new sequence numbers. A prepared statement is sent with the id that its handle has
on the current session.
-/

namespace SqlWire.Exchange

open Net (Env)

def encode (ctx : Session.Context) : Command → Except UsageFault Bytes
  | .execute handle _ _ params =>
    match ctx.statements.serverId? handle with
    | none => .error .closedStatement
    | some id => Command.executeBytes id params
  | command => command.bytes ctx.noBackslashEscapes

def send (env : Env) (command : Command) : EStateM Error Client Mark := fun c =>
  let c := { c with channel := c.channel.resetSequence }
  match encode c.ctx command with
  | .error fault => .error (.usage fault) c
  | .ok bytes =>
    match Client.onLine (Line.writePacket env bytes.toWire c.ctx.maxAllowedPacket) c with
    | .error e c => .error e c
    | .ok () c => .ok c.channel.mark ((c.withContext (·.recordCommand command)).note (.sent command))

def sendPayload (env : Env) (payload : ByteArray) : EStateM Error Client Unit :=
  Client.onLine (Line.writePacket env payload none)

theorem lowers_sendPayload {env : Env} {payload : ByteArray} :
    Lowers Client.supply (sendPayload env payload) := fun c => by
  rw [sendPayload, Client.supply_onLine, Line.supply_writePacket]
  exact Nat.le_refl _

end SqlWire.Exchange
