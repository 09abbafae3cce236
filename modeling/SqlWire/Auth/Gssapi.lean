import SqlWire.Error

/-!
# GSS-API

The mechanism itself is supplied from outside. A provider opens clients for a principal, and a
client turns the server's tokens into its own. What they answer may depend on every call made so
far, so a provider is a pair of functions of the calls, the latest first.
-/

namespace SqlWire.Auth

/-- A call of a provider or of one of its clients. -/
inductive GssapiCall where
  /-- A client for a principal and a list of mechanisms was asked for. -/
  | client (principal mechanism : String)
  /-- A client was given a token; clients are numbered in the order they were asked for. -/
  | step (client : Nat) (token : Bytes)
  deriving DecidableEq, Repr

/-- The calls so far, the latest first. -/
abbrev GssapiCalls := List GssapiCall

def GssapiCalls.nextClient (calls : GssapiCalls) : Nat :=
  calls.countP fun
    | .client _ _ => true
    | .step _ _ => false

/-- What a client answers to a token. -/
structure GssapiStep where
  /-- A token for the server, if there is one. -/
  token : Option Bytes
  established : Bool
  deriving DecidableEq, Repr

/-- A source of clients. Each function answers the first of the calls. -/
structure GssapiProvider where
  client : GssapiCalls → Except Error Unit
  step : GssapiCalls → Except Error GssapiStep

namespace GssapiProvider

/-- Asks for a client and gives its number. -/
def newClient (provider : GssapiProvider) (principal mechanism : String) :
    EStateM Error GssapiCalls Nat := fun calls =>
  let after := .client principal mechanism :: calls
  match provider.client after with
  | .ok () => .ok calls.nextClient after
  | .error e => .error e after

def give (provider : GssapiProvider) (client : Nat) (token : Bytes) :
    EStateM Error GssapiCalls GssapiStep := fun calls =>
  let after := .step client token :: calls
  match provider.step after with
  | .ok step => .ok step after
  | .error e => .error e after

end GssapiProvider

end SqlWire.Auth
