import SqlWire.Error
import SqlWire.Token.Base64Url
import SqlWire.Token.Claims

/-!
# Tokens

A token is texts joined by points. The second one holds the claims, in base64; they say when the
token expires, in seconds. Times on the clock are whole seconds below 2^63.
-/

namespace SqlWire.Token

def splitAt (separator : UInt8) (part : Bytes) : Bytes → List Bytes
  | [] => [part.reverse]
  | b :: rest =>
    if b == separator then part.reverse :: splitAt separator [] rest
    else splitAt separator (b :: part) rest

/-- The bytes without equals signs at their end. -/
def trimEquals (bytes : Bytes) : Bytes := (bytes.reverse.dropWhile (· == 0x3d)).reverse

def claims (token : String) : Except AuthFault Bytes :=
  match (splitAt 0x2e [] (Text.encode token))[1]? with
  | none => .error .tokenWithoutPayload
  | some payload =>
    match decodeBase64 (trimEquals payload) with
    | none => .error .tokenPayload
    | some json => .ok json

def expiry (token : String) : Except Error Nat :=
  match claims token with
  | .error fault => .error (.auth fault)
  | .ok json =>
    match claimedExpiry? json with
    | none => .error (.auth .tokenClaims)
    | some none => .error (.auth .noExpiry)
    | some (some seconds) =>
      if seconds.toNat < 0x8000000000000000 then .ok seconds.toNat else .error .clockRange

end SqlWire.Token
