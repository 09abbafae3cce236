import SqlWire.Auth.Plugin

/-!
# Scrambles that servers accept

A server keeps the digest of the digest of a password (`stored`). It takes the digest of a challenge off
an answer, and looks whether the digest of what is left is what it keeps (`Accepts`). The challenge is made
of the seed and of what is kept, and the two schemes have them in opposite orders.

Whatever the digests are, both scrambles are accepted and have full length (`accepts_scrambles`). With its
own digest, each plugin gives such an answer to a seed (`accepts_firstResponse`).
-/

namespace SqlWire.Auth

variable {sha : Digest} {password challenge a b : Bytes}

/-- What a server keeps of a password. -/
def stored (sha : Digest) (password : Bytes) : Bytes := sha.run (sha.run password)

/-- The check of an answer by a server that keeps these bytes. -/
def Accepts (sha : Digest) (challenge kept answer : Bytes) : Prop :=
  sha.run (xor answer (sha.run challenge)) = kept

theorem length_xor (same : a.length = b.length) : (xor a b).length = a.length := by
  rw [xor, List.length_zipWith, same, Nat.min_self]

/-- What was put on is taken off. -/
theorem xor_xor (same : a.length = b.length) : xor (xor a b) b = a := by
  induction a generalizing b with
  | nil => rfl
  | cons x a ih =>
    cases b with
    | nil => cases same
    | cons y b =>
      have rest : xor (xor a b) b = a := ih (Nat.succ.inj same)
      change (x ^^^ y ^^^ y) :: xor (xor a b) b = x :: a
      rw [rest, UInt8.xor_assoc, UInt8.xor_self, UInt8.xor_zero]

/-- The digest of a password, masked with that of the challenge. -/
theorem accepts_masked (sha : Digest) (password challenge : Bytes) :
    Accepts sha challenge (stored sha password) (xor (sha.run password) (sha.run challenge)) ∧
      (xor (sha.run password) (sha.run challenge)).length = sha.length := by
  have same : (sha.run password).length = (sha.run challenge).length := by
    rw [sha.length_run, sha.length_run]
  constructor
  · rw [Accepts, xor_xor same, stored]
  · rw [length_xor same, sha.length_run]

section

variable (sha) (seed : Bytes) (known : password ≠ [])
include known

theorem nativeScrambleWith_eq : nativeScrambleWith sha password seed =
    xor (sha.run password) (sha.run (seed.take 20 ++ stored sha password)) :=
  if_neg (by simpa using known)

theorem cachingScrambleWith_eq : cachingScrambleWith sha password seed =
    xor (sha.run password) (sha.run (stored sha password ++ seed.take 20)) :=
  if_neg (by simpa using known)

end

/-- Servers accept both scrambles of a password, whatever the seed is and whatever digests of twenty and of
thirty-two bytes are used. -/
theorem accepts_scrambles (sha1 sha256 : Digest) (twenty : sha1.length = 20)
    (thirtyTwo : sha256.length = 32) (password seed : Bytes) (known : password ≠ []) :
    (Accepts sha1 (seed.take 20 ++ stored sha1 password) (stored sha1 password)
        (nativeScrambleWith sha1 password seed) ∧
      (nativeScrambleWith sha1 password seed).length = 20) ∧
    (Accepts sha256 (stored sha256 password ++ seed.take 20) (stored sha256 password)
        (cachingScrambleWith sha256 password seed) ∧
      (cachingScrambleWith sha256 password seed).length = 32) := by
  rw [nativeScrambleWith_eq sha1 seed known, cachingScrambleWith_eq sha256 seed known, ← twenty,
    ← thirtyTwo]
  exact ⟨accepts_masked sha1 password _, accepts_masked sha256 password _⟩

/-- A seed that is longer than what counts of it. -/
theorem accepts_scrambles_longSeed :
    Sha1.digest.length = 20 ∧ Sha256.digest.length = 32 ∧ Text.encode "secret" ≠ [] ∧
    (Accepts Sha1.digest (List.replicate 20 7 ++ stored Sha1.digest (Text.encode "secret"))
        (stored Sha1.digest (Text.encode "secret"))
        (nativeScrambleWith Sha1.digest (Text.encode "secret") (List.replicate 21 7)) ∧
      (nativeScrambleWith Sha1.digest (Text.encode "secret") (List.replicate 21 7)).length = 20) ∧
    (Accepts Sha256.digest (stored Sha256.digest (Text.encode "secret") ++ List.replicate 20 7)
        (stored Sha256.digest (Text.encode "secret"))
        (cachingScrambleWith Sha256.digest (Text.encode "secret") (List.replicate 21 7)) ∧
      (cachingScrambleWith Sha256.digest (Text.encode "secret") (List.replicate 21 7)).length = 32) := by
  have known : Text.encode "secret" ≠ [] := by decide
  exact ⟨rfl, rfl, known,
    accepts_scrambles Sha1.digest Sha256.digest rfl rfl (Text.encode "secret") (List.replicate 21 7) known⟩

theorem encode_ne_nil {text : String} (known : text ≠ "") : Text.encode text ≠ [] := by
  intro none
  have size : text.toUTF8.size = 0 := congrArg List.length none
  exact known (String.utf8ByteSize_eq_zero_iff.mp size)

/-- A plugin that knows a password answers a seed in a way that the server accepts. -/
theorem accepts_firstResponse {ctx : Context} {text : String} (given : ctx.password = some text)
    (known : text ≠ "") (seed : Bytes) (calls : GssapiCalls) :
    let password := Text.encode text
    (∃ answer, Plugin.native.firstResponse ctx seed calls = .ok (answer, .native) calls ∧
      Accepts Sha1.digest (seed.take 20 ++ stored Sha1.digest password)
        (stored Sha1.digest password) answer) ∧
    ∃ answer, Plugin.caching.firstResponse ctx seed calls = .ok (answer, .caching) calls ∧
      Accepts Sha256.digest (stored Sha256.digest password ++ seed.take 20)
        (stored Sha256.digest password) answer := by
  intro password
  have known : password ≠ [] := encode_ne_nil known
  have same : Text.encode (ctx.password.getD "") = password := by
    rw [given]
    rfl
  refine ⟨⟨nativeScramble password seed, ?_, ?_⟩, cachingScramble password seed, ?_, ?_⟩
  · rw [← same]
    rfl
  · rw [nativeScramble, nativeScrambleWith_eq Sha1.digest seed known]
    exact (accepts_masked ..).1
  · rw [← same]
    rfl
  · rw [cachingScramble, cachingScrambleWith_eq Sha256.digest seed known]
    exact (accepts_masked ..).1

end SqlWire.Auth
