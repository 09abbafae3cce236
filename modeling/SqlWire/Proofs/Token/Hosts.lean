import SqlWire.Proofs.Moments
import SqlWire.Proofs.Token.Expiry
import SqlWire.Run

/-!
# Whose token a host gets

Connections to several hosts share one source of single sign-on, which keeps the last token it fetched.
What is kept can be told from the calls so far: it is what the latest fetch gave, unless the cache was
cleared since (`Kept`). A call gives what is kept, as long as that may still be used, and fetches a token
for its host otherwise. The cache does not know for which host it was filled: a host gets the token of
another one exactly if such a token is kept and may still be used (`origin_of_moments`).
-/

namespace SqlWire.Auth.SingleSignOn

open EStateM (Result)
open Token (Reading)

variable {fetch : Fetch} {host other origin : String} {now expiresAt : Nat} {credential : Credential}

namespace Asked

variable {ended : Result Error SingleSignOn Credential} {sso : SingleSignOn}

theorem of_fresh {cached : CachedToken} (asked : Asked fetch now host sso ended)
    (fresh : sso.cache.Fresh now cached) : ended = .ok cached.credential sso := by
  cases asked with
  | served fresh' =>
    cases fresh.1.symm.trans fresh'.1
    rfl
  | failed stale | kept stale | refused stale => exact absurd fresh (stale cached)

/-- With nothing in the cache that may be used, a call fetches. -/
theorem fetched_of_stale (asked : Asked fetch now host sso ended) (stale : sso.cache.Stale now) :
    ended.state.fetched = host :: sso.fetched := by
  cases asked with
  | served fresh => exact absurd fresh (stale _)
  | failed | kept | refused => rfl

theorem cache_of_stale (asked : Asked fetch now host sso ended) (stale : sso.cache.Stale now) :
    ended.state.cache = some ⟨credential, expiresAt⟩ ↔
      fetch (host :: sso.fetched) = .ok credential ∧ Reading credential.Dated (.ok expiresAt) := by
  cases asked with
  | served fresh => exact absurd fresh (stale _)
  | failed _ failed =>
    refine iff_of_false nofun ?_
    rintro ⟨obtained, -⟩
    cases failed.symm.trans obtained
  | kept _ obtained reading =>
    constructor
    · rintro ⟨⟩
      exact ⟨obtained, reading⟩
    · rintro ⟨obtained', given⟩
      cases obtained.symm.trans obtained'
      cases Credential.eq_of_given reading given
      rfl
  | refused _ obtained reading =>
    refine iff_of_false nofun ?_
    rintro ⟨obtained', given⟩
    cases obtained.symm.trans obtained'
    cases Credential.eq_of_given given reading

/-- It gives just what it keeps. -/
theorem given_of_stale (asked : Asked fetch now host sso ended) (stale : sso.cache.Stale now) :
    (∃ sso', ended = .ok credential sso') ↔
      ∃ expiresAt, ended.state.cache = some ⟨credential, expiresAt⟩ := by
  cases asked with
  | served fresh => exact absurd fresh (stale _)
  | failed | refused => simp [Result.state]
  | kept => simp [Result.state]

end Asked

/-- What is done to a source that connections share. -/
inductive Call where
  /-- A credential for a host is asked for, at a time that is read from the clock. -/
  | ask (now : Nat) (host : String)
  /-- The server rejected a token. -/
  | clear

/-- The source behind a call. -/
def Call.apply (fetch : Fetch) (sso : SingleSignOn) : Call → SingleSignOn
  | ask now host => (SingleSignOn.credential fetch now host sso).state
  | clear => sso.clear

/-- A call of a source. -/
abbrev Turn := Moment SingleSignOn Call

namespace Turn

def after (fetch : Fetch) (m : Turn) : SingleSignOn := m.act.apply fetch m.before

/-- The call gives a credential. -/
def Gives (fetch : Fetch) (m : Turn) (credential : Credential) : Prop :=
  ∃ now host sso', m.act = .ask now host ∧
    SingleSignOn.credential fetch now host m.before = .ok credential sso'

/-- The call fetches a credential for a host. -/
def Fetches (fetch : Fetch) (m : Turn) (host : String) : Prop :=
  (m.after fetch).fetched = host :: m.before.fetched

/-- The call fetches a credential for a host, and it can be kept until it expires. -/
def Obtains (fetch : Fetch) (m : Turn) (host : String) (credential : Credential) (expiresAt : Nat) :
    Prop :=
  m.Fetches fetch host ∧ fetch (host :: m.before.fetched) = .ok credential ∧
    Reading credential.Dated (.ok expiresAt)

variable {m : Turn}

theorem Fetches.unique (fetches : m.Fetches fetch host) (fetches' : m.Fetches fetch other) :
    host = other :=
  (List.cons.inj (fetches.symm.trans fetches')).1

theorem not_fetches_of_same (same : (m.after fetch).fetched = m.before.fetched) (host : String) :
    ¬ m.Fetches fetch host := by
  intro fetches
  exact List.cons_ne_self _ _ (fetches.symm.trans same)

/-- What a call can do. -/
inductive Does (fetch : Fetch) (m : Turn) : Prop
  /-- It gives what is cached. -/
  | serve {now : Nat} {host : String} {cached : CachedToken} : m.act = .ask now host →
      m.before.cache.Fresh now cached → m.after fetch = m.before →
      (∀ credential, m.Gives fetch credential ↔ credential = cached.credential) → Does fetch m
  /-- It fetches a credential, and gives and keeps it if it can be kept. -/
  | fetch {now : Nat} {host : String} : m.act = .ask now host → m.before.cache.Stale now →
      m.Fetches fetch host →
      (∀ credential expiresAt, (m.after fetch).cache = some ⟨credential, expiresAt⟩ ↔
        m.Obtains fetch host credential expiresAt) →
      (∀ credential, m.Gives fetch credential ↔
        ∃ expiresAt, m.Obtains fetch host credential expiresAt) → Does fetch m
  | clear : m.act = .clear → m.after fetch = ⟨m.before.fetched, none⟩ → Does fetch m

theorem does (fetch : Fetch) (m : Turn) : m.Does fetch := by
  obtain ⟨sso, act⟩ := m
  cases act with
  | clear => exact .clear rfl rfl
  | ask now host =>
    have asked := SingleSignOn.asked fetch now host sso
    have gives (credential : Credential) : Gives fetch ⟨sso, .ask now host⟩ credential ↔
        ∃ sso', SingleSignOn.credential fetch now host sso = .ok credential sso' := by
      constructor
      · rintro ⟨_, _, sso', ⟨⟩, given⟩
        exact ⟨sso', given⟩
      · rintro ⟨sso', given⟩
        exact ⟨now, host, sso', rfl, given⟩
    rcases sso.cache.fresh_or_stale now with ⟨cached, fresh⟩ | stale
    · have served := asked.of_fresh fresh
      refine .serve rfl fresh (congrArg Result.state served) fun credential => ?_
      rw [gives, served]
      simp [eq_comm]
    · have fetches : Fetches fetch ⟨sso, .ask now host⟩ host := asked.fetched_of_stale stale
      refine .fetch rfl stale fetches (fun credential expiresAt => ?_) fun credential => ?_
      · rw [Obtains, and_iff_right fetches]
        exact asked.cache_of_stale stale
      · rw [gives, asked.given_of_stale stale]
        simp only [Obtains, and_iff_right fetches, asked.cache_of_stale stale]

/-- The cache holds what a call obtains, or what it held before if the call does not touch it. -/
theorem cache_after (fetch : Fetch) (m : Turn) :
    (m.after fetch).cache = some ⟨credential, expiresAt⟩ ↔
      (∃ host, m.Obtains fetch host credential expiresAt) ∨
        m.before.cache = some ⟨credential, expiresAt⟩ ∧ m.act ≠ .clear ∧
          ∀ host, ¬ m.Fetches fetch host := by
  cases m.does fetch with
  | serve asks _ same _ =>
    have quiet := not_fetches_of_same (congrArg SingleSignOn.fetched same)
    simp [same, asks, quiet, Obtains]
  | @fetch now host _ _ fetches cached _ =>
    rw [cached]
    constructor
    · exact fun obtains => .inl ⟨host, obtains⟩
    · rintro (⟨other, obtains⟩ | ⟨-, -, quiet⟩)
      · rwa [fetches.unique obtains.1]
      · exact absurd fetches (quiet host)
  | clear act after =>
    have same : (m.after fetch).fetched = m.before.fetched := by rw [after]
    have quiet := not_fetches_of_same same
    simp [after, act, quiet, Obtains]

theorem fetched_after (quiet : ∀ host, ¬ m.Fetches fetch host) :
    (m.after fetch).fetched = m.before.fetched := by
  cases m.does fetch with
  | serve _ _ same _ => rw [same]
  | fetch _ _ fetches => exact absurd fetches (quiet _)
  | clear _ after => rw [after]

end Turn

/-- The latest fetch of some calls was for a host and obtained a credential, and the cache was not
cleared since. -/
inductive Kept (fetch : Fetch) : List Turn → String → Credential → Nat → Prop
  | obtained {steps : List Turn} {m : Turn} {host : String} {credential : Credential} {expiresAt : Nat} :
      m.Obtains fetch host credential expiresAt →
      Kept fetch (steps ++ [m]) host credential expiresAt
  | still {steps : List Turn} {m : Turn} {host : String} {credential : Credential} {expiresAt : Nat} :
      Kept fetch steps host credential expiresAt → m.act ≠ .clear →
      (∀ other, ¬ m.Fetches fetch other) → Kept fetch (steps ++ [m]) host credential expiresAt

variable {steps : List Turn} {m : Turn}

theorem kept_concat_iff : Kept fetch (steps ++ [m]) host credential expiresAt ↔
    m.Obtains fetch host credential expiresAt ∨ Kept fetch steps host credential expiresAt ∧
      m.act ≠ .clear ∧ ∀ other, ¬ m.Fetches fetch other := by
  constructor
  · intro kept
    generalize all : steps ++ [m] = steps' at kept
    cases kept with
    | obtained obtains =>
      obtain ⟨-, rfl⟩ := List.append_singleton_inj.mp all
      exact .inl obtains
    | still kept uncleared quiet =>
      obtain ⟨rfl, rfl⟩ := List.append_singleton_inj.mp all
      exact .inr ⟨kept, uncleared, quiet⟩
  · rintro (obtains | ⟨kept, uncleared, quiet⟩)
    · exact .obtained obtains
    · exact .still kept uncleared quiet

/-- What a source can be told to hold from the calls so far. -/
structure Tracked (fetch : Fetch) (steps : List Turn) (sso : SingleSignOn) : Prop where
  cached_iff : ∀ credential expiresAt, sso.cache = some ⟨credential, expiresAt⟩ ↔
    ∃ host, Kept fetch steps host credential expiresAt
  /-- What is kept is what the latest fetch gave. -/
  latest : ∀ host credential expiresAt, Kept fetch steps host credential expiresAt →
    ∃ rest, sso.fetched = host :: rest ∧ fetch (host :: rest) = .ok credential

namespace Tracked

theorem empty (fetch : Fetch) : Tracked fetch [] .empty := by
  have none (host : String) (credential : Credential) (expiresAt : Nat) :
      ¬ Kept fetch [] host credential expiresAt := by
    intro kept
    generalize all : [] = steps at kept
    cases kept <;> exact absurd all.symm (by simp)
  refine ⟨fun credential expiresAt => iff_of_false nofun ?_, fun host credential expiresAt kept => ?_⟩
  · rintro ⟨host, kept⟩
    exact none host credential expiresAt kept
  · exact absurd kept (none host credential expiresAt)

theorem next (tracked : Tracked fetch steps m.before) :
    Tracked fetch (steps ++ [m]) (m.after fetch) where
  cached_iff credential expiresAt := by
    simp only [m.cache_after, tracked.cached_iff, kept_concat_iff, exists_or, exists_and_right]
  latest host credential expiresAt kept := by
    rcases kept_concat_iff.mp kept with ⟨fetches, obtained, -⟩ | ⟨kept, -, quiet⟩
    · exact ⟨m.before.fetched, fetches, obtained⟩
    · rw [Turn.fetched_after quiet]
      exact tracked.latest host credential expiresAt kept

end Tracked

/-- A credential is kept that was obtained for a host, and may still be used. -/
def Usable (fetch : Fetch) (steps : List Turn) (now : Nat) (host : String) (credential : Credential) :
    Prop :=
  ∃ expiresAt, Kept fetch steps host credential expiresAt ∧ now + TokenCache.margin < expiresAt

/-- What a call for a host gives, and for which host that was fetched. -/
structure Originates (fetch : Fetch) (earlier : List Turn) (m : Turn) (now : Nat) (host : String) :
    Prop where
  /-- It gives what is kept, whichever host that is for, or else what it obtains. -/
  gives_iff : ∀ credential, m.Gives fetch credential ↔
    (∃ origin, Usable fetch earlier now origin credential) ∨
      (∀ origin credential', ¬ Usable fetch earlier now origin credential') ∧
        ∃ expiresAt, m.Obtains fetch host credential expiresAt
  /-- The latest fetch gave it, for the same host unless a credential of another one is kept. -/
  origin : ∀ credential, m.Gives fetch credential → ∃ origin rest,
    (m.after fetch).fetched = origin :: rest ∧ fetch (origin :: rest) = .ok credential ∧
      (origin = host ↔ ∀ other credential', Usable fetch earlier now other credential' → other = host)

namespace Tracked

theorem exists_usable_iff (tracked : Tracked fetch steps m.before) :
    (∃ origin, Usable fetch steps now origin credential) ↔
      ∃ cached, m.before.cache.Fresh now cached ∧ credential = cached.credential := by
  constructor
  · rintro ⟨origin, expiresAt, kept, fresh⟩
    exact ⟨_, ⟨(tracked.cached_iff credential expiresAt).mpr ⟨origin, kept⟩, fresh⟩, rfl⟩
  · rintro ⟨⟨credential, expiresAt⟩, ⟨cached, fresh⟩, rfl⟩
    obtain ⟨origin, kept⟩ := (tracked.cached_iff credential expiresAt).mp cached
    exact ⟨origin, expiresAt, kept, fresh⟩

/-- A credential that is kept is for the host of the latest fetch. -/
theorem latest_of_usable (tracked : Tracked fetch steps m.before)
    (usable : Usable fetch steps now origin credential) :
    ∃ rest, m.before.fetched = origin :: rest ∧ fetch (origin :: rest) = .ok credential := by
  obtain ⟨expiresAt, kept, -⟩ := usable
  exact tracked.latest origin credential expiresAt kept

theorem originates (tracked : Tracked fetch steps m.before) (asks : m.act = .ask now host) :
    Originates fetch steps m now host := by
  cases m.does fetch with
  | @serve _ _ cached asks' fresh same gives =>
    cases asks.symm.trans asks'
    have usable_iff (credential : Credential) :
        (∃ origin, Usable fetch steps now origin credential) ↔ credential = cached.credential := by
      rw [tracked.exists_usable_iff]
      constructor
      · rintro ⟨cached', fresh', rfl⟩
        cases fresh.1.symm.trans fresh'.1
        rfl
      · exact fun same => ⟨cached, fresh, same⟩
    refine ⟨fun credential => ?_, fun credential given => ?_⟩
    · rw [gives, usable_iff]
      refine (or_iff_left ?_).symm
      rintro ⟨none, -⟩
      obtain ⟨origin, usable⟩ := (usable_iff cached.credential).mpr rfl
      exact none origin cached.credential usable
    · obtain ⟨origin, usable⟩ := (usable_iff credential).mpr ((gives credential).mp given)
      obtain ⟨rest, fetched, obtained⟩ := tracked.latest_of_usable usable
      refine ⟨origin, rest, same ▸ fetched, obtained, ?_, fun own => own origin credential usable⟩
      rintro rfl other credential' usable'
      obtain ⟨rest', fetched', -⟩ := tracked.latest_of_usable usable'
      exact (List.cons.inj (fetched'.symm.trans fetched)).1
  | @fetch _ _ asks' stale fetches _ gives =>
    cases asks.symm.trans asks'
    have none (origin : String) (credential : Credential) :
        ¬ Usable fetch steps now origin credential := by
      intro usable
      obtain ⟨cached, fresh, -⟩ := tracked.exists_usable_iff.mp ⟨origin, usable⟩
      exact stale cached fresh
    refine ⟨fun credential => ?_, fun credential given => ?_⟩
    · rw [gives, or_iff_right (fun ⟨origin, usable⟩ => none origin credential usable)]
      exact (and_iff_right none).symm
    · obtain ⟨expiresAt, -, obtained, -⟩ := (gives credential).mp given
      refine ⟨host, m.before.fetched, fetches, obtained, iff_of_true rfl ?_⟩
      exact fun other credential' usable => absurd usable (none other credential')
  | clear clears => cases asks.symm.trans clears

end Tracked

/-- Whatever hosts are asked for, at whatever times and however often the cache is cleared: a call gives
the credential that is kept, or else the one that it fetches. It was fetched for the host that the call
asks for, unless what is kept may still be used and is for another one. -/
theorem origin_of_moments (fetch : Fetch) (calls : List Call) :
    ∀ earlier m later, moments (Call.apply fetch) .empty calls = earlier ++ m :: later →
      ∀ now host, m.act = .ask now host → Originates fetch earlier m now host := by
  intro earlier m later split now host asks
  have tracked : Tracked fetch earlier m.before :=
    keeps_moments (fun _ _ _ tracked => tracked.next) (Tracked.empty fetch) split
  exact tracked.originates asks

/-- A user for each host, whose token does not expire soon. -/
def perHost : Fetch
  | host :: _ => .ok ⟨"u@" ++ host, some "x.eyJleHAiOjE3MDAwMDAwMDB9.y"⟩
  | [] => .error .timeout

/-- A source behind its first call, which was for the host `h1`. -/
def behindFirst : SingleSignOn := Call.apply perHost .empty (.ask 0 "h1")

theorem origin_perHost :
    Turn.Gives perHost ⟨behindFirst, .ask 0 "h2"⟩ ⟨"u@h1", some "x.eyJleHAiOjE3MDAwMDAwMDB9.y"⟩ ∧
      ∃ other credential, other ≠ "h2" ∧
        Usable perHost [⟨.empty, .ask 0 "h1"⟩] 0 other credential := by
  have gives : Turn.Gives perHost ⟨behindFirst, .ask 0 "h2"⟩
      ⟨"u@h1", some "x.eyJleHAiOjE3MDAwMDAwMDB9.y"⟩ := ⟨0, "h2", _, rfl, rfl⟩
  refine ⟨gives, ?_⟩
  have originates := origin_of_moments perHost [.ask 0 "h1", .ask 0 "h2"]
    [⟨.empty, .ask 0 "h1"⟩] ⟨behindFirst, .ask 0 "h2"⟩ [] rfl 0 "h2" rfl
  obtain ⟨origin, rest, latest, -, own⟩ := originates.origin _ gives
  refine Classical.byContradiction fun none => ?_
  have same : origin = "h2" := own.mpr fun other credential usable =>
    Decidable.byContradiction fun ne => none ⟨other, credential, ne, usable⟩
  have fetched : (Turn.after perHost ⟨behindFirst, .ask 0 "h2"⟩).fetched = ["h1"] := rfl
  rw [fetched, same] at latest
  exact absurd (List.cons.inj latest).1 (by decide)

end SqlWire.Auth.SingleSignOn
