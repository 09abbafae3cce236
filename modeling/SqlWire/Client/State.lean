import SqlWire.Channel
import SqlWire.Journal
import SqlWire.Result.Reader

/-!
# The state of a client

A client is a channel, the state of the session at its other end, and what is still to be read from
it. The world around the client is part of its state, because what others do there changes it.
-/

namespace SqlWire

open Net (World)

/-- A response of which a result set is given out in parts. -/
structure Streaming where
  reader : Reader
  command : Command

/-- A client with an open session. -/
structure Client where
  channel : Channel
  world : World
  ctx : Session.Context
  streaming : Option Streaming
  /-- Commands that were sent and whose responses were not read yet, the oldest first. -/
  unread : List (Command × Mark)
  /-- Why a local file was not sent, until the response is complete. -/
  infileError : Option Error
  journal : Journal

namespace Client

/-- A client that has nothing to read. -/
def idle (channel : Channel) (world : World) (ctx : Session.Context) : Client :=
  ⟨channel, world, ctx, none, [], none, []⟩

def line (c : Client) : Line := ⟨c.channel, c.world⟩

/-- What the server may still send, as a bound. -/
def supply (c : Client) : Nat := c.line.supply

/-- Puts a channel and its world back. -/
def withLine (c : Client) (line : Line) : Client :=
  { c with channel := line.channel, world := line.world }

def note (c : Client) (event : Event) : Client := { c with journal := c.journal ++ [event] }

def fail {α : Type} (e : Error) : EStateM Error Client α := fun c => .error e (c.note (.failed e))

def onLine {α : Type} (run : EStateM Error Line α) : EStateM Error Client α := fun c =>
  match run c.line with
  | .ok a line => .ok a (c.withLine line)
  | .error e line => fail e (c.withLine line)

theorem supply_onLine {α : Type} {run : EStateM Error Line α} {c : Client} :
    (onLine run c).state.supply = (run c.line).state.supply := by
  unfold onLine
  split <;> next eq => rw [eq]; rfl

def closeChannel (c : Client) : Client := c.withLine c.line.close

/-- Shows the state of the session to a pure change. -/
def withContext (c : Client) (f : Session.Context → Session.Context) : Client :=
  { c with ctx := f c.ctx }

end Client

end SqlWire
