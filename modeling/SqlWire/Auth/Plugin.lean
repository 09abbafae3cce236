import SqlWire.Auth.Gssapi
import SqlWire.Auth.Scramble

/-!
# Authentication plugins

The server names a plugin; the plugin computes the first answer from the server's seed and reacts to
further data. A clear password leaves the client only over TLS or where the caller allowed it.
-/

namespace SqlWire.Auth

def nativeName : String := "mysql_native_password"
def cachingName : String := "caching_sha2_password"
def clearName : String := "mysql_clear_password"
def gssapiName : String := "auth_gssapi_client"

/-- What a plugin may need to know. -/
structure Context where
  password : Option String
  /-- The socket is encrypted. -/
  tls : Bool
  /-- A clear password may travel on a plaintext socket. -/
  allowCleartext : Bool
  /-- The principal to use in place of the server's. -/
  principal : Option String
  deriving DecidableEq, Repr

/-- What to do about data from the server. -/
inductive Reply where
  /-- Send these bytes and read on. -/
  | send (bytes : Bytes)
  /-- Read on. -/
  | wait
  deriving DecidableEq, Repr

/-- A plugin, selected for the current exchange. -/
inductive Plugin where
  | native
  | caching
  | clear
  /-- GSS-API, with the number of its client once there is one. -/
  | gssapi (provider : GssapiProvider) (client : Option Nat)

namespace Plugin

def ofName (name : String) (gssapi : Option GssapiProvider) : Except AuthFault Plugin :=
  if name == nativeName || name == "" then .ok native
  else if name == cachingName then .ok caching
  else if name == clearName then .ok clear
  else if name == gssapiName then
    match gssapi with
    | some provider => .ok (.gssapi provider none)
    | none => .error .noGssapiProvider
  else .error (.unsupportedPlugin name)

def name : Plugin → String
  | native => nativeName
  | caching => cachingName
  | clear => clearName
  | gssapi _ _ => gssapiName

/-- The password with a NUL behind it. -/
def clearBytes (password : String) : Bytes := Field.terminatedText password

/-- The text of bytes that are UTF-8, and else nothing. -/
def textOrEmpty (bytes : Bytes) : String :=
  match Text.decode bytes with
  | .ok text => text
  | .error _ => ""

/-- Principal and mechanisms: texts before and after the first NUL. -/
def principalAndMechanism (data : Bytes) : String × String :=
  let principal := data.takeWhile (· != 0)
  (textOrEmpty principal, textOrEmpty (Field.stripNul (data.drop (principal.length + 1))))

/-- The first answer to the server's seed or data, and the plugin after it. -/
def firstResponse (plugin : Plugin) (ctx : Context) (data : Bytes) :
    EStateM Error GssapiCalls (Bytes × Plugin) := do
  let password := Text.encode (ctx.password.getD "")
  match plugin with
  | native => return (nativeScramble password data, plugin)
  | caching => return (cachingScramble password data, plugin)
  | clear =>
    if !ctx.tls && !ctx.allowCleartext then
      throw (.auth .cleartextRefused)
    return ((ctx.password.map clearBytes).getD [], plugin)
  | gssapi provider _ =>
    let (serverPrincipal, mechanism) := principalAndMechanism data
    let principal := ctx.principal.getD serverPrincipal
    if principal == "" then
      throw (.auth .noPrincipal)
    let client ← provider.newClient principal mechanism
    let step ← provider.give client []
    return (step.token.getD [], .gssapi provider (some client))

/-- First byte of SHA-2 data: the fast way succeeded. -/
def fastSuccess : UInt8 := 0x03
/-- First byte of SHA-2 data: the server wants the password. -/
def fullRequest : UInt8 := 0x04

/-- The reaction to data from the server. -/
def moreData (plugin : Plugin) (ctx : Context) (data : Bytes) : EStateM Error GssapiCalls Reply := do
  match plugin with
  | caching =>
    if data.head? == some fastSuccess then
      return .wait
    else if data.head? == some fullRequest then
      if !ctx.tls then
        throw (.auth .fullAuthNeedsTls)
      return .send (clearBytes (ctx.password.getD ""))
    else
      throw (.protocol (.strayShaData data.head?))
  | gssapi provider (some client) =>
    let step ← provider.give client data
    match step.token with
    | some token => return .send token
    | none => return .wait
  | _ => throw (.protocol (.strayAuthData plugin.name))

end Plugin

end SqlWire.Auth
