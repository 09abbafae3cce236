import SqlWire.Auth.Plugin
import SqlWire.Text.Characters
import SqlWire.Token.Jwt

/-!
# Credentials

A credential is a user and a password. It comes from the options, from a provider outside this
library, or from single sign-on: there a token is fetched for a host and kept until it expires or
the server rejects it.
-/

namespace SqlWire.Auth

/-- A user and a password. -/
structure Credential where
  user : String
  password : Option String
  deriving DecidableEq, Repr

/-- A credential for readers of a log, without the password. -/
def Credential.description (c : Credential) : String :=
  "Credential \x7b user: " ++ Text.quoted c.user ++ ", password: " ++
    (if c.password.isSome then "Some(\"***\")" else "None") ++ " \x7d"

/-- A credential and the second in which it expires. -/
structure CachedToken where
  credential : Credential
  expiresAt : Nat
  deriving DecidableEq, Repr

/-- The last token, until it expires or is cleared. -/
abbrev TokenCache := Option CachedToken

namespace TokenCache

/-- Tokens that expire within this many seconds count as expired. -/
def margin : Nat := 5

def get (now : Nat) (cache : TokenCache) : Option Credential × TokenCache :=
  match cache with
  | some cached =>
    if now + margin < cached.expiresAt then (some cached.credential, cache) else (none, none)
  | none => (none, none)

def put (credential : Credential) : EStateM Error TokenCache Unit := fun cache =>
  match credential.password with
  | none => .error (.auth .noToken) cache
  | some token =>
    match Token.expiry token with
    | .error e => .error e cache
    | .ok expiresAt => .ok () (some ⟨credential, expiresAt⟩)

end TokenCache

/-- Fetches a credential: the hosts asked for so far decide what the first of them gets. -/
abbrev Fetch := List String → Except Error Credential

/-- Single sign-on: the hosts that were asked for, the latest first, and the cached token. -/
structure SingleSignOn where
  fetched : List String
  cache : TokenCache
  deriving DecidableEq, Repr

namespace SingleSignOn

def empty : SingleSignOn := ⟨[], none⟩

def credential (fetch : Fetch) (now : Nat) (host : String) :
    EStateM Error SingleSignOn Credential := fun sso =>
  match sso.cache.get now with
  | (some credential, cache) => .ok credential { sso with cache }
  | (none, cache) =>
    let fetched := host :: sso.fetched
    match fetch fetched with
    | .error e => .error e ⟨fetched, cache⟩
    | .ok credential =>
      match TokenCache.put credential cache with
      | .error e cache => .error e ⟨fetched, cache⟩
      | .ok () cache => .ok credential ⟨fetched, cache⟩

def clear (sso : SingleSignOn) : SingleSignOn := { sso with cache := none }

end SingleSignOn

/-- A call of a provider. -/
inductive ProviderCall where
  | credential (host : String)
  | clear
  deriving DecidableEq, Repr

/-- A provider outside this library. `issue` answers the first of the calls so far, which asks for a
credential. -/
structure CredentialProvider where
  issue : List ProviderCall → Except Error Credential
  /-- The plugin to use in place of the server's. -/
  plugin : Option String
  /-- A rejected credential may be fetched once more. -/
  singleSignOn : Bool

/-- Where credentials come from, if not from user and password of the options. -/
inductive CredentialSource where
  | provider (p : CredentialProvider)
  | singleSignOn (fetch : Fetch)

/-- What a source has been asked so far. -/
structure CredentialLog where
  calls : List ProviderCall
  sso : SingleSignOn
  deriving DecidableEq, Repr

namespace CredentialSource

/-- A source that always gives the same credential. -/
def fixed (credential : Credential) : CredentialSource :=
  .provider ⟨fun _ => .ok credential, none, false⟩

def credential (source : CredentialSource) (now : Nat) (host : String) :
    EStateM Error CredentialLog Credential := fun log =>
  match source with
  | .provider p =>
    let log := { log with calls := .credential host :: log.calls }
    match p.issue log.calls with
    | .ok credential => .ok credential log
    | .error e => .error e log
  | .singleSignOn fetch =>
    match SingleSignOn.credential fetch now host log.sso with
    | .ok credential sso => .ok credential { log with sso }
    | .error e sso => .error e { log with sso }

/-- The plugin to use in place of the server's. -/
def plugin : CredentialSource → Option String
  | .provider p => p.plugin
  | .singleSignOn _ => some clearName

/-- A rejected credential may be fetched once more. -/
def canRefresh : CredentialSource → Bool
  | .provider p => p.singleSignOn
  | .singleSignOn _ => true

def clear (source : CredentialSource) (log : CredentialLog) : CredentialLog :=
  match source with
  | .provider _ => { log with calls := .clear :: log.calls }
  | .singleSignOn _ => { log with sso := log.sso.clear }

end CredentialSource

end SqlWire.Auth
