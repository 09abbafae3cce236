/-!
# Phases of the handshake

Where a connection stands between the first byte of the greeting and the server's verdict.
-/

namespace SqlWire.Handshake

/-- The phase of a handshake. -/
inductive Phase where
  /-- Nothing was read yet. -/
  | initial
  /-- The next packet is the greeting. -/
  | awaitingGreeting
  /-- TLS was asked for; the response comes after the upgrade. -/
  | tlsRequested
  /-- The response was sent. -/
  | authenticating
  /-- The server accepted the client. -/
  | authenticated
  /-- A step failed. -/
  | failed
  deriving DecidableEq, Repr

def Phase.name : Phase → String
  | initial => "Initial"
  | awaitingGreeting => "AwaitingGreeting"
  | tlsRequested => "TlsRequested"
  | authenticating => "Authenticating"
  | authenticated => "Authenticated"
  | failed => "Failed"

end SqlWire.Handshake
