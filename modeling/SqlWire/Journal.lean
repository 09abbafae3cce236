import SqlWire.Command
import SqlWire.Error

/-!
# The journal of a connection

A client keeps a journal of what happens on its connection: the sessions that are opened, the commands
that are sent, the responses that are read, and what fails. Nothing that the client does depends on
it. `Event.breaks` marks the failures after which the connection cannot be used any more.
-/

namespace SqlWire

/-- What can happen on a connection. -/
inductive Event where
  /-- A handshake has opened a session. -/
  | opened
  /-- A command was sent. -/
  | sent (command : Command)
  /-- The response to a command was read to its end, or there is none. `inTransaction` is what the
  client knows from then on. -/
  | answered (command : Command) (inTransaction : Bool)
  /-- The response that is answered next fails its command with this error. -/
  | refused (e : Error)
  /-- Bytes could not be sent or read, or a packet could not be decoded. -/
  | failed (e : Error)
  /-- The session was lost at a command that can be sent again. -/
  | lost
  /-- Another session has taken the place of the lost one. -/
  | adopted
  /-- From here on the commands of the lost transaction are sent again. -/
  | replaying
  /-- Another session could not be opened, or not brought to where the lost one was. -/
  | stranded (e : Error)
  /-- The session was brought back to its first state. -/
  | reset

/-- What happened on a connection, the first event first. -/
abbrev Journal := List Event

namespace Event

/-- The failure leaves a connection that cannot be used any more. -/
def breaks : Event → Bool
  | failed e => e.isBroken
  | _ => false

def sent? : Event → Option Command
  | sent command => some command
  | _ => none

end Event

namespace Journal

def sent (journal : Journal) : List Command := journal.filterMap Event.sent?

end Journal

end SqlWire
