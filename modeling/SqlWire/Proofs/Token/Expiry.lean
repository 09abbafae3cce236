import SqlWire.Auth.Credential
import SqlWire.Proofs.Token.Issued

/-!
# Tokens that end a call

A token says in seconds when it expires, as a number of 64 bits; the clock shows times below 2^63. An
expiry below that is read, a token without one that can be read is refused as an error of authentication,
and a later expiry ends the call abruptly (`Reading`). So does keeping a credential with such a token, and
so does a call of single sign-on for which one is fetched: a provider of identities can stop its client
(`ends_abruptly_iff`).

`Asked` lists what a call of single sign-on can come to.
-/

namespace SqlWire

open EStateM (Result)

namespace Token

variable {token : String} {seconds seconds' : UInt64} {outcome : Except Error Nat}

/-- A token can be read, and this is its expiry. -/
def Dated (token : String) (seconds : UInt64) : Prop :=
  ∃ json, claims token = .ok json ∧ claimedExpiry? json = some (some seconds)

theorem Dated.unique (dated : Dated token seconds) (dated' : Dated token seconds') :
    seconds = seconds' := by
  obtain ⟨json, read, found⟩ := dated
  obtain ⟨json', read', found'⟩ := dated'
  cases read.symm.trans read'
  simpa [found] using found'

/-- What comes of reading an expiry, by the expiry that is there. -/
inductive Reading (dated : UInt64 → Prop) : Except Error Nat → Prop
  | given {seconds : UInt64} : dated seconds → seconds.toNat < clockEnd →
      Reading dated (.ok seconds.toNat)
  | beyond {seconds : UInt64} : dated seconds → clockEnd ≤ seconds.toNat →
      Reading dated (.error .clockRange)
  | refused {fault : AuthFault} : (∀ seconds, ¬ dated seconds) → Reading dated (.error (.auth fault))

/-- There is an expiry that the clock never shows. -/
def Beyond (dated : UInt64 → Prop) : Prop := ∃ seconds, dated seconds ∧ clockEnd ≤ seconds.toNat

namespace Reading

variable {dated : UInt64 → Prop}

theorem abrupt_iff (unique : ∀ s s', dated s → dated s' → s = s') (reading : Reading dated outcome) :
    outcome = .error .clockRange ↔ Beyond dated := by
  cases reading with
  | @given seconds here inRange =>
    refine iff_of_false nofun ?_
    rintro ⟨later, there, beyond⟩
    rw [unique _ _ there here] at beyond
    omega
  | beyond here beyond => exact iff_of_true rfl ⟨_, here, beyond⟩
  | refused none =>
    refine iff_of_false nofun ?_
    rintro ⟨seconds, there, -⟩
    exact none seconds there

theorem eq_of_given (unique : ∀ s s', dated s → dated s' → s = s') {expiresAt : Nat}
    (given : Reading dated (.ok expiresAt)) (reading : Reading dated outcome) :
    outcome = .ok expiresAt := by
  cases given with
  | given here inRange =>
    cases reading with
    | given there => rw [unique _ _ here there]
    | beyond there beyond =>
      rw [unique _ _ here there] at inRange
      omega
    | refused none => exact absurd here (none _)

/-- An expiry that is not given is beyond the clock or refused. -/
theorem error {e : Error} (reading : Reading dated (.error e)) :
    e = .clockRange ∨ ∃ fault, e = .auth fault := by
  cases reading with
  | beyond => exact .inl rfl
  | refused => exact .inr ⟨_, rfl⟩

end Reading

theorem reading_expiry (token : String) : Reading (Dated token) (expiry token) := by
  unfold expiry
  split
  · next fault failed =>
    refine .refused ?_
    rintro seconds ⟨json, read, -⟩
    cases failed.symm.trans read
  · next json read =>
    have refused {fault : AuthFault} (none : ∀ seconds, claimedExpiry? json ≠ some (some seconds)) :
        Reading (Dated token) (.error (.auth fault)) := by
      refine .refused ?_
      rintro seconds ⟨json', read', found⟩
      cases read.symm.trans read'
      exact none seconds found
    split
    · next failed => exact refused (by simp [failed])
    · next absent => exact refused (by simp [absent])
    · next seconds found =>
      split
      · next inRange => exact .given ⟨json, read, found⟩ inRange
      · next beyond => exact .beyond ⟨json, read, found⟩ (Nat.not_lt.mp beyond)

end Token

namespace Auth

open Token (Beyond Reading)

variable {credential : Credential} {outcome : Except Error Nat}

/-- The password of a credential is a token with this expiry. -/
def Credential.Dated (credential : Credential) (seconds : UInt64) : Prop :=
  ∃ token, credential.password = some token ∧ Token.Dated token seconds

theorem Credential.Dated.unique {seconds seconds' : UInt64} (dated : credential.Dated seconds)
    (dated' : credential.Dated seconds') : seconds = seconds' := by
  obtain ⟨token, password, dated⟩ := dated
  obtain ⟨token', password', dated'⟩ := dated'
  cases password.symm.trans password'
  exact dated.unique dated'

theorem Credential.abrupt_iff (reading : Reading credential.Dated outcome) :
    outcome = .error .clockRange ↔ Beyond credential.Dated :=
  reading.abrupt_iff fun _ _ => Credential.Dated.unique

theorem Credential.eq_of_given {expiresAt : Nat} (given : Reading credential.Dated (.ok expiresAt))
    (reading : Reading credential.Dated outcome) : outcome = .ok expiresAt :=
  given.eq_of_given (fun _ _ => Credential.Dated.unique) reading

theorem Credential.dated_eq (credential : Credential) {token : String}
    (password : credential.password = some token) : credential.Dated = Token.Dated token := by
  funext seconds
  refine propext ⟨?_, fun dated => ⟨token, password, dated⟩⟩
  rintro ⟨token', password', dated⟩
  cases password.symm.trans password'
  exact dated

namespace TokenCache

/-- A cached credential that may still be used. -/
def Fresh (cache : TokenCache) (now : Nat) (cached : CachedToken) : Prop :=
  cache = some cached ∧ now + margin < cached.expiresAt

/-- There is nothing in the cache that may still be used. -/
def Stale (cache : TokenCache) (now : Nat) : Prop := ∀ cached, ¬ cache.Fresh now cached

theorem fresh_or_stale (cache : TokenCache) (now : Nat) :
    (∃ cached, cache.Fresh now cached) ∨ cache.Stale now := by
  rw [Stale, ← not_exists]
  exact Classical.em _

theorem get_cases (cache : TokenCache) (now : Nat) :
    (∃ cached, cache.Fresh now cached ∧ cache.get now = (some cached.credential, cache)) ∨
      cache.Stale now ∧ cache.get now = (none, none) := by
  unfold get
  split
  · next cached =>
    split
    · next fresh => exact .inl ⟨cached, ⟨rfl, fresh⟩, rfl⟩
    · next stale =>
      refine .inr ⟨?_, rfl⟩
      rintro cached' ⟨⟨⟩, fresh⟩
      exact stale fresh
  · exact .inr ⟨nofun, rfl⟩

/-- A credential is kept with its expiry, or the cache stays as it is. -/
theorem put_cases (credential : Credential) (cache : TokenCache) :
    (∃ expiresAt, Reading credential.Dated (.ok expiresAt) ∧
      put credential cache = .ok () (some ⟨credential, expiresAt⟩)) ∨
      ∃ e, Reading credential.Dated (.error e) ∧ put credential cache = .error e cache := by
  unfold put
  split
  · next absent =>
    refine .inr ⟨_, .refused ?_, rfl⟩
    rintro seconds ⟨token, password, -⟩
    cases absent.symm.trans password
  · next token password =>
    have reading : Reading credential.Dated (Token.expiry token) := by
      rw [credential.dated_eq password]
      exact Token.reading_expiry token
    split
    · next e failed => exact .inr ⟨e, failed ▸ reading, rfl⟩
    · next expiresAt given => exact .inl ⟨expiresAt, given ▸ reading, rfl⟩

end TokenCache

namespace SingleSignOn

/-- What a call for a host can come to. -/
inductive Asked (fetch : Fetch) (now : Nat) (host : String) (sso : SingleSignOn) :
    Result Error SingleSignOn Credential → Prop
  | served {cached : CachedToken} : sso.cache.Fresh now cached →
      Asked fetch now host sso (.ok cached.credential sso)
  | failed {e : Error} : sso.cache.Stale now → fetch (host :: sso.fetched) = .error e →
      Asked fetch now host sso (.error e ⟨host :: sso.fetched, none⟩)
  | kept {credential : Credential} {expiresAt : Nat} : sso.cache.Stale now →
      fetch (host :: sso.fetched) = .ok credential → Reading credential.Dated (.ok expiresAt) →
      Asked fetch now host sso
        (.ok credential ⟨host :: sso.fetched, some ⟨credential, expiresAt⟩⟩)
  | refused {credential : Credential} {e : Error} : sso.cache.Stale now →
      fetch (host :: sso.fetched) = .ok credential → Reading credential.Dated (.error e) →
      Asked fetch now host sso (.error e ⟨host :: sso.fetched, none⟩)

theorem asked (fetch : Fetch) (now : Nat) (host : String) (sso : SingleSignOn) :
    Asked fetch now host sso (SingleSignOn.credential fetch now host sso) := by
  unfold SingleSignOn.credential
  rcases sso.cache.get_cases now with ⟨cached, fresh, get⟩ | ⟨stale, get⟩
  · rw [get]
    exact .served fresh
  · rw [get]
    dsimp only
    split
    · next e failed => exact .failed stale failed
    · next credential obtained =>
      rcases TokenCache.put_cases credential none with ⟨expiresAt, reading, put⟩ | ⟨e, reading, put⟩
      · rw [put]
        exact .kept stale obtained reading
      · rw [put]
        exact .refused stale obtained reading

end SingleSignOn

/-! ## Calls that end abruptly -/

theorem put_abrupt_iff (credential : Credential) (cache : TokenCache) :
    (∃ cache', TokenCache.put credential cache = .error .clockRange cache') ↔
      Beyond credential.Dated := by
  rcases TokenCache.put_cases credential cache with ⟨expiresAt, reading, put⟩ | ⟨e, reading, put⟩
  · rw [put, ← Credential.abrupt_iff reading]
    simp
  · rw [put, ← Credential.abrupt_iff reading]
    simp

/-- A call ends abruptly if what it fetches does, or is a credential that cannot be kept. -/
theorem credential_abrupt_iff (fetch : Fetch) (now : Nat) (host : String) (sso : SingleSignOn) :
    (∃ sso', SingleSignOn.credential fetch now host sso = .error .clockRange sso') ↔
      sso.cache.Stale now ∧ (fetch (host :: sso.fetched) = .error .clockRange ∨
        ∃ credential, fetch (host :: sso.fetched) = .ok credential ∧ Beyond credential.Dated) := by
  have asked := SingleSignOn.asked fetch now host sso
  generalize SingleSignOn.credential fetch now host sso = ended at asked
  cases asked with
  | served fresh =>
    have notStale : ¬ sso.cache.Stale now := fun stale => stale _ fresh
    simp [notStale]
  | failed stale failed =>
    rw [failed]
    simp [stale]
  | kept stale obtained reading =>
    have inRange := (not_congr (Credential.abrupt_iff reading)).mp nofun
    rw [obtained]
    simp [inRange]
  | refused stale obtained reading =>
    rw [obtained]
    simpa [stale] using Credential.abrupt_iff reading

/-- Whatever token is read, the call gives its expiry or an error of authentication, unless the expiry is
beyond the clock: then it ends abruptly, and tokens can be issued with every such expiry. Keeping a
credential ends so exactly with such a token, and leaves the cache alone; so does a call of single sign-on
exactly if no cached credential may still be used and what it fetches has such a token, or ends abruptly
itself. -/
theorem ends_abruptly_iff (token : String) (credential : Credential) (cache : TokenCache) (fetch : Fetch)
    (now : Nat) (host : String) (sso : SingleSignOn) :
    ((Token.expiry token = .error .clockRange ↔ Beyond (Token.Dated token)) ∧
      ∀ e, Token.expiry token = .error e → e = .clockRange ∨ ∃ fault, e = .auth fault) ∧
    (∀ header seconds signature, Token.expiry (Token.issued header (Token.expiring seconds) signature) =
      if seconds.toNat < Token.clockEnd then .ok seconds.toNat else .error .clockRange) ∧
    (((∃ cache', TokenCache.put credential cache = .error .clockRange cache') ↔
        Beyond credential.Dated) ∧
      ∀ e cache', TokenCache.put credential cache = .error e cache' →
        cache' = cache ∧ (e = .clockRange ∨ ∃ fault, e = .auth fault)) ∧
    ((∃ sso', SingleSignOn.credential fetch now host sso = .error .clockRange sso') ↔
      sso.cache.Stale now ∧ (fetch (host :: sso.fetched) = .error .clockRange ∨
        ∃ credential, fetch (host :: sso.fetched) = .ok credential ∧ Beyond credential.Dated)) ∧
    ∀ e sso', SingleSignOn.credential fetch now host sso = .error e sso' →
      sso' = ⟨host :: sso.fetched, none⟩ ∧ (fetch (host :: sso.fetched) = .error e ∨
        e = .clockRange ∨ ∃ fault, e = .auth fault) := by
  refine ⟨?_, fun header seconds signature => Token.expiry_issued header signature seconds,
    ⟨put_abrupt_iff credential cache, ?_⟩, credential_abrupt_iff fetch now host sso, ?_⟩
  · have reading := Token.reading_expiry token
    refine ⟨reading.abrupt_iff fun _ _ => Token.Dated.unique, fun e failed => ?_⟩
    rw [failed] at reading
    exact reading.error
  · intro e cache' failed
    rcases TokenCache.put_cases credential cache with ⟨_, _, put⟩ | ⟨_, reading, put⟩
    · cases put.symm.trans failed
    · cases put.symm.trans failed
      exact ⟨rfl, reading.error⟩
  · intro e sso' failed
    have asked := SingleSignOn.asked fetch now host sso
    rw [failed] at asked
    cases asked with
    | failed _ fetched => exact ⟨rfl, .inl fetched⟩
    | refused _ _ reading => exact ⟨rfl, .inr reading.error⟩

/-- A token that expires in the second 2^63. -/
def tooLate : String := "x.eyJleHAiOjkyMjMzNzIwMzY4NTQ3NzU4MDh9.y"

theorem ends_abruptly_tooLate : Beyond (Token.Dated tooLate) ∧
    ∃ sso', SingleSignOn.credential (fun _ => .ok ⟨"u", some tooLate⟩) 0 "h" .empty =
      .error .clockRange sso' := by
  let credential : Credential := ⟨"u", some tooLate⟩
  obtain ⟨⟨token_iff, -⟩, -, -, call_iff, -⟩ :=
    ends_abruptly_iff tooLate credential none (fun _ => .ok credential) 0 "h" .empty
  have beyond : Beyond (Token.Dated tooLate) := token_iff.mp rfl
  have same : credential.Dated = Token.Dated tooLate := credential.dated_eq rfl
  exact ⟨beyond, call_iff.mpr ⟨nofun, .inr ⟨credential, rfl, same ▸ beyond⟩⟩⟩

end Auth

end SqlWire
