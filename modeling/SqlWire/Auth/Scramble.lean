import SqlWire.Digest.Sha1
import SqlWire.Digest.Sha256

/-!
# Scrambles

A scramble shows that the client knows a password without sending it. The server keeps a digest of
the digest of the password and has chosen a seed; the client sends the digest of the password, mixed
with a digest of the seed and of what the server keeps. The two schemes mix these in opposite
orders. Twenty bytes of the seed count. An empty password is sent as nothing.
-/

namespace SqlWire.Auth

def xor (a b : Bytes) : Bytes := List.zipWith (· ^^^ ·) a b

def seedPart (seed : Bytes) : Bytes := seed.take 20

def nativeScrambleWith (sha : Digest) (password seed : Bytes) : Bytes :=
  if password.isEmpty then []
  else
    let first := sha.run password
    xor first (sha.run (seedPart seed ++ sha.run first))

def cachingScrambleWith (sha : Digest) (password seed : Bytes) : Bytes :=
  if password.isEmpty then []
  else
    let first := sha.run password
    xor first (sha.run (sha.run first ++ seedPart seed))

def nativeScramble (password seed : Bytes) : Bytes := nativeScrambleWith Sha1.digest password seed

def cachingScramble (password seed : Bytes) : Bytes :=
  cachingScrambleWith Sha256.digest password seed

end SqlWire.Auth
