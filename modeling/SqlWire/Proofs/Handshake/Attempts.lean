import SqlWire.Proofs.Call
import SqlWire.Proofs.Ended.Opening

/-!
# The attempts of a client that connects

A client that connects attempts to open a session, and once more if the server rejected a credential
that can be fetched again (`connect_attempts`). Whatever servers send and credentials are issued, the
second attempt begins where the first one ended, with the source of the credential cleared, and the
last attempt gives the result.

What the source is asked can be told from the world as long as no other thread's connection uses it
(`Unshared`): a conversation leaves it alone (`Line.Course.credentials`). So an attempt asks once, if
it reaches a server (`Goes.credentials`), and a token that was cleared is fetched anew
(`Goes.of_cleared`).
-/

namespace SqlWire

open EStateM (Result)
open Handshake (Machine Outcome)
open Net (Env Interrupt Link World)

variable {env : Env} {w w' : World}

/-! ## Rejections -/

/-- The server rejected user or password or an expired token, or that is why a connection failed. -/
inductive Rejection : Error → Prop
  | server {e : ServerError} : e.code = Error.accessDenied ∨ e.code = Error.tokenExpired →
      Rejection (.server e)
  | connection {fault : ConnectFault} {e : Error} : Rejection e → Rejection (.connection fault (some e))

theorem rejection_of_serverError? {e : Error} {refusal : ServerError} (is : e.serverError? = some refusal)
    (code : refusal.code = Error.accessDenied ∨ refusal.code = Error.tokenExpired) : Rejection e := by
  fun_induction Error.serverError? e with
  | case1 e =>
    cases is
    exact .server code
  | case2 fault source ih => exact .connection (ih is)
  | case3 => cases is

theorem isRejection_iff (e : Error) : Exchange.isRejection e = true ↔ Rejection e := by
  constructor
  · intro rejected
    unfold Exchange.isRejection at rejected
    split at rejected
    · next refusal is => exact rejection_of_serverError? is (by simpa using rejected)
    · cases rejected
  · intro rejection
    induction rejection with
    | server code => simpa [Exchange.isRejection, Error.serverError?] using code
    | connection _ ih => exact ih

/-! ## The source of credentials -/

/-- What is run aside does not ask for credentials here. -/
def Unshared (env : Env) : Prop := ∀ sql w, (env.kill sql w).credentials = w.credentials

namespace Net.World

theorem credentials_shutDownAttached (w : World) : w.shutDownAttached.credentials = w.credentials := by
  unfold shutDownAttached
  split <;> rfl

theorem credentials_interrupted (unshared : Unshared env) (how : Interrupt) (w : World) :
    (w.interrupted env how).credentials = w.credentials := by
  unfold interrupted
  split
  · rfl
  · refine (credentials_shutDownAttached _).trans ?_
    cases how with
    | close => rfl
    | abort => exact unshared _ _

theorem credentials_expired (unshared : Unshared env) (deadline : Nat) (w : World) :
    (w.expired env deadline).credentials = w.credentials :=
  (credentials_shutDownAttached _).trans (unshared _ _)

end Net.World

namespace Line

variable {line line' : Line}

theorem credentials_close (line : Line) : line.close.world.credentials = line.world.credentials := by
  unfold close
  split <;> rfl

theorem Step.credentials (unshared : Unshared env) (step : Step env line line') :
    line'.world.credentials = line.world.credentials := by
  cases step with
  | aside _ _ _ credentials => exact credentials
  | interrupted how => exact World.credentials_interrupted unshared how _
  | expired deadline => exact World.credentials_expired unshared deadline _
  | sent | marked => rfl
  | closed => exact credentials_close line

/-- A line is used without asking for credentials. -/
theorem Course.credentials (unshared : Unshared env) (course : Course env line line') :
    line'.world.credentials = line.world.credentials := by
  induction course with
  | refl => rfl
  | tail _ step ih => exact (step.credentials unshared).trans ih

end Line

namespace Exchange

theorem credentials_dial (unshared : Unshared env) {result : Result Error World Link}
    (h : Link.dial env w = result) : result.state.credentials = w.credentials := by
  have began : (World.beginStep env w).state.credentials = w.credentials :=
    (Line.course_beginStep (.unlinked w)).credentials unshared
  subst h
  unfold Link.dial
  split
  · rfl
  · split
    · next failed => rw [failed] at began; exact began
    · next w₁ ready =>
      rw [ready] at began
      dsimp only [Link.accept]
      split <;> exact began

theorem credentials_converse (unshared : Unshared env) (machine : Machine) (packet : Bytes)
    (line : Line) :
    (converse env machine packet line).state.world.credentials = line.world.credentials :=
  Line.Course.credentials unshared (follows_converse line)

/-! ## Attempts -/

/-- An attempt to open a session. -/
structure Attempt where
  before : World
  ended : Result Error World (Channel × Outcome)

/-- The attempts with which a client connects: a first one, and another one with a fresh credential
exactly if the server rejected one that can be fetched again. -/
structure Connects (env : Env) (w : World) (first : Attempt) (again : Option Attempt) : Prop where
  begins : first.before = w
  ends : openSession env first.before = first.ended
  again_iff : again.isSome = true ↔
    (∃ source, env.opts.credentialSource = some source ∧ source.canRefresh = true) ∧
      ∃ e w', first.ended = .error e w' ∧ Rejection e
  begins_again : ∀ second ∈ again, ∃ source, env.opts.credentialSource = some source ∧
    second.before =
      { first.ended.state with credentials := source.clear first.ended.state.credentials }
  ends_again : ∀ second ∈ again, openSession env second.before = second.ended

/-- There is no second attempt. -/
theorem Connects.single {result : Result Error World (Channel × Outcome)}
    (ends : openSession env w = result)
    (only : ¬ ((∃ source, env.opts.credentialSource = some source ∧ source.canRefresh = true) ∧
      ∃ e w', result = .error e w' ∧ Rejection e)) : Connects env w ⟨w, result⟩ none where
  begins := rfl
  ends := ends
  again_iff := iff_of_false Bool.false_ne_true only
  begins_again _ mem := by cases mem
  ends_again _ mem := by cases mem

/-- A client attempts once or twice, and what it is given is the end of the last attempt. -/
theorem exists_connects (env : Env) (w : World) : ∃ first again, Connects env w first again ∧
    withFreshCredential env (openSession env) w = (again.getD first).ended := by
  cases opened : openSession env w with
  | ok session w₁ =>
    have attempted : withFreshCredential env (openSession env) w = _ :=
      EStateM.bind_of_ok (EStateM.attempt_of_ok opened)
    refine ⟨_, none, .single opened ?_, attempted⟩
    rintro ⟨-, e, w', failed, -⟩
    cases failed
  | error e w₁ =>
    have attempted : withFreshCredential env (openSession env) w = _ :=
      EStateM.bind_of_ok (EStateM.attempt_of_error opened)
    cases from_ : env.opts.credentialSource with
    | none =>
      simp only [from_] at attempted
      refine ⟨_, none, .single opened ?_, attempted⟩
      rintro ⟨⟨source, is, -⟩, -⟩
      cases from_.symm.trans is
    | some source =>
      simp only [from_] at attempted
      by_cases fresh : (source.canRefresh && isRejection e) = true
      · -- The second attempt begins where the first one ended, with the source cleared.
        rw [if_pos fresh, EStateM.modify_bind] at attempted
        rw [Bool.and_eq_true, isRejection_iff] at fresh
        refine ⟨⟨w, .error e w₁⟩, some ⟨{ w₁ with credentials := source.clear w₁.credentials }, _⟩,
          ⟨rfl, opened, iff_of_true rfl ?_, ?_, ?_⟩, attempted⟩
        · exact ⟨⟨source, from_, fresh.1⟩, e, w₁, rfl, fresh.2⟩
        · intro second mem
          cases mem
          exact ⟨source, from_, rfl⟩
        · intro second mem
          cases mem
          rfl
      · rw [if_neg fresh] at attempted
        rw [Bool.and_eq_true, isRejection_iff] at fresh
        refine ⟨_, none, .single opened ?_, attempted⟩
        rintro ⟨⟨source', is, refreshes⟩, e', w', failed, rejection⟩
        cases failed
        cases from_.symm.trans is
        exact fresh ⟨refreshes, rejection⟩

/-! ## What an attempt asks for -/

/-- An attempt ends as the conversation of its handshake does. -/
inductive Concludes (env : Env) :
    Result Error Line Machine → Result Error World (Channel × Outcome) → Prop
  | failed {e : Error} {line : Line} :
      Concludes env (.error e line) (.error (handshakeError env.opts e) line.close.world)
  | faulty {machine : Machine} {line : Line} {fault : ProtocolFault} : machine.outcome = .error fault →
      Concludes env (.ok machine line)
        (.error (handshakeError env.opts (.protocol fault)) line.close.world)
  | opened {machine : Machine} {line : Line} {channel : Channel} {outcome : Outcome} :
      machine.outcome = .ok outcome → Concludes env (.ok machine line) (.ok (channel, outcome) line.world)

/-- How an attempt goes if this is how it obtains its credential: it reaches no server, it obtains none,
or it tells a server who it is with what it has obtained. -/
inductive Goes (env : Env) (issue : EStateM Error World Auth.Credential) (w : World) :
    Result Error World (Channel × Outcome) → Prop
  | unreached {e : Error} {w' : World} : Link.dial env w = .error e w' → Goes env issue w (.error e w')
  | unprovided {link : Link} {w₁ w₂ : World} {e : Error} : Link.dial env w = .ok link w₁ →
      issue w₁ = .error e w₂ → Goes env issue w (.error e w₂)
  | told {link : Link} {w₁ w₂ : World} {credential : Auth.Credential} {ended} :
      Link.dial env w = .ok link w₁ → issue w₁ = .ok credential w₂ →
      Concludes env
        (converse env (.start env.opts env.processId credential
          (env.opts.credentialSource.bind (·.plugin)) w₂.gssapi) [] ⟨.new link, w₂⟩) ended →
      Goes env issue w ended

theorem goes_openSession (env : Env) (w : World) :
    Goes env (findCredential env) w (openSession env w) := by
  cases dialed : Link.dial env w with
  | error e w' =>
    have ended : openSession env w = .error e w' := EStateM.bind_of_error dialed
    rw [ended]
    exact .unreached dialed
  | ok link w₁ =>
    cases found : findCredential env w₁ with
    | error e w₂ =>
      have ended : openSession env w = .error e w₂ :=
        (EStateM.bind_of_ok dialed).trans (EStateM.bind_of_error found)
      rw [ended]
      exact .unprovided dialed found
    | ok credential w₂ =>
      have ended : openSession env w = _ := (EStateM.bind_of_ok dialed).trans (EStateM.bind_of_ok found)
      refine .told dialed found ?_
      rw [ended]
      dsimp only
      split
      · next failed => rw [failed]; exact .failed
      · next talked =>
        rw [talked]
        split
        · next fault => exact .faulty fault
        · next outcome => exact .opened outcome

/-- What is known of the source behind a request for a credential. -/
def asked (env : Env) (log : Auth.CredentialLog) : Auth.CredentialLog :=
  match env.opts.credentialSource with
  | none => log
  | some source => (source.credential env.now env.opts.host log).state

theorem credentials_findCredential (env : Env) (w : World) :
    (findCredential env w).state.credentials = asked env w.credentials := by
  unfold findCredential asked
  cases env.opts.credentialSource with
  | none => rfl
  | some source =>
    dsimp only
    split <;> next given => rw [given]; rfl

theorem Concludes.credentials {talked : Result Error Line Machine}
    {ended : Result Error World (Channel × Outcome)} (concludes : Concludes env talked ended) :
    ended.state.credentials = talked.state.world.credentials := by
  cases concludes with
  | failed | faulty => exact Line.credentials_close _
  | opened => rfl

/-- An attempt that reaches a server asks for a credential once. Nothing else of it concerns the
source. -/
theorem Goes.credentials {ended : Result Error World (Channel × Outcome)} (unshared : Unshared env)
    (goes : Goes env (findCredential env) w ended) :
    ended.state.credentials =
      match Link.dial env w with
      | .error _ _ => w.credentials
      | .ok _ _ => asked env w.credentials := by
  have issued (w₁ : World) (same : w₁.credentials = w.credentials) :
      (findCredential env w₁).state.credentials = asked env w.credentials :=
    same ▸ credentials_findCredential env w₁
  cases goes with
  | unreached dialed =>
    rw [dialed]
    exact credentials_dial unshared dialed
  | @unprovided link w₁ w₂ e dialed failed =>
    rw [dialed]
    exact (congrArg (·.state.credentials) failed).symm.trans
      (issued w₁ (credentials_dial unshared dialed))
  | @told link w₁ w₂ credential ended dialed found concludes =>
    rw [dialed]
    refine concludes.credentials.trans ((credentials_converse unshared ..).trans ?_)
    exact (congrArg (·.state.credentials) found).symm.trans
      (issued w₁ (credentials_dial unshared dialed))

/-! ## Clearing and fetching -/

/-- The calls of a provider with which an attempt asks for a credential: one, if it reaches a server. -/
def asks (env : Env) (w : World) : List Auth.ProviderCall :=
  match Link.dial env w with
  | .error _ _ => []
  | .ok _ _ => [.credential env.opts.host]

theorem Goes.calls {p : Auth.CredentialProvider} {ended : Result Error World (Channel × Outcome)}
    (unshared : Unshared env) (from_ : env.opts.credentialSource = some (.provider p))
    (goes : Goes env (findCredential env) w ended) :
    ended.state.credentials.calls = asks env w ++ w.credentials.calls := by
  rw [goes.credentials unshared, asks]
  split
  · rfl
  · unfold asked Auth.CredentialSource.credential
    rw [from_]
    dsimp only
    split <;> rfl

/-- Obtains a credential by fetching a token, whatever token was there before. -/
def fetchToken (env : Env) (fetch : Auth.Fetch) : EStateM Error World Auth.Credential := fun w =>
  let fetched := env.opts.host :: w.credentials.sso.fetched
  let behind (cache : Auth.TokenCache) : World :=
    { w with credentials := { w.credentials with sso := ⟨fetched, cache⟩ } }
  match fetch fetched with
  | .error e => .error e (behind none)
  | .ok credential =>
    match Auth.TokenCache.put credential none with
    | .error e cache => .error e (behind cache)
    | .ok () cache => .ok credential (behind cache)

theorem findCredential_of_cleared {fetch : Auth.Fetch}
    (from_ : env.opts.credentialSource = some (.singleSignOn fetch))
    (cleared : w.credentials.sso.cache = none) : findCredential env w = fetchToken env fetch w := by
  unfold findCredential fetchToken
  rw [from_]
  dsimp only [Auth.CredentialSource.credential, Auth.SingleSignOn.credential]
  rw [cleared, Auth.TokenCache.get]
  dsimp only
  cases fetch (env.opts.host :: w.credentials.sso.fetched) with
  | error e => rfl
  | ok credential =>
    dsimp only
    cases Auth.TokenCache.put credential none <;> rfl

theorem Goes.of_cleared {fetch : Auth.Fetch} {ended : Result Error World (Channel × Outcome)}
    (unshared : Unshared env) (from_ : env.opts.credentialSource = some (.singleSignOn fetch))
    (cleared : w.credentials.sso.cache = none) (goes : Goes env (findCredential env) w ended) :
    Goes env (fetchToken env fetch) w ended := by
  have fetches {link : Link} {w₁ : World} (dialed : Link.dial env w = .ok link w₁) :
      findCredential env w₁ = fetchToken env fetch w₁ := by
    have same : w₁.credentials = w.credentials := credentials_dial unshared dialed
    exact findCredential_of_cleared from_ (same ▸ cleared)
  cases goes with
  | unreached dialed => exact .unreached dialed
  | unprovided dialed failed => exact .unprovided dialed (fetches dialed ▸ failed)
  | told dialed found concludes => exact .told dialed (fetches dialed ▸ found) concludes

/-! ## Connecting -/

/-- What a client does with a session that is open. -/
def establish (env : Env) (wantSetUp : Bool) (opened : Channel × Outcome) :
    EStateM Error World (Channel × Session.Context × Journal) := do
  let (channel, outcome) := opened
  modify (·.attach (channel.link.map (·.id)) outcome.threadId)
  let ctx := Session.Context.new outcome env.opts
  if wantSetUp then setUpSession env channel ctx
  else return (channel, ctx, [.opened])

theorem connect_eq (env : Env) (wantSetUp : Bool) : connect env wantSetUp =
    (withFreshCredential env (openSession env) >>= establish env wantSetUp) := rfl

theorem credentials_setUpSession (unshared : Unshared env) (channel : Channel) (ctx : Session.Context)
    (w : World) : (setUpSession env channel ctx w).state.credentials = w.credentials := by
  unfold setUpSession
  split
  · next ready => exact (stays_setUp.result ready).credentials unshared
  · next failed =>
    exact (Line.credentials_close _).trans ((stays_setUp.result failed).credentials unshared)

theorem credentials_establish (unshared : Unshared env) (wantSetUp : Bool) (opened : Channel × Outcome)
    (w : World) : (establish env wantSetUp opened w).state.credentials = w.credentials := by
  cases wantSetUp with
  | false => rfl
  | true => exact credentials_setUpSession unshared ..

/-- What a client makes of its last attempt. -/
def proceed (env : Env) (wantSetUp : Bool) (last : Attempt) :
    Result Error World (Channel × Session.Context × Journal) :=
  match last.ended with
  | .error e w => .error e w
  | .ok opened w => establish env wantSetUp opened w

theorem connect_of_last {first : Attempt} {again : Option Attempt} (wantSetUp : Bool)
    (last : withFreshCredential env (openSession env) w = (again.getD first).ended) :
    connect env wantSetUp w = proceed env wantSetUp (again.getD first) := by
  rw [connect_eq, proceed]
  cases ended : (again.getD first).ended with
  | error e w' => exact EStateM.bind_of_error (last.trans ended)
  | ok opened w' => exact EStateM.bind_of_ok (last.trans ended)

theorem credentials_proceed (unshared : Unshared env) (wantSetUp : Bool) (last : Attempt) :
    (proceed env wantSetUp last).state.credentials = last.ended.state.credentials := by
  unfold proceed
  split
  · next failed => rw [failed]; rfl
  · next opened => rw [opened]; exact credentials_establish unshared ..

/-- The calls of a provider while a client connects: each attempt that reaches a server asks for a
credential, and before a second attempt the provider is told once to forget it. -/
def providerCalls (env : Env) (first : Attempt) : Option Attempt → List Auth.ProviderCall
  | none => asks env first.before
  | some second => asks env second.before ++ .clear :: asks env first.before

theorem Connects.calls {first : Attempt} {again : Option Attempt} {p : Auth.CredentialProvider}
    (attempts : Connects env w first again) (unshared : Unshared env)
    (from_ : env.opts.credentialSource = some (.provider p)) :
    (again.getD first).ended.state.credentials.calls =
      providerCalls env first again ++ w.credentials.calls := by
  have asked_first :
      first.ended.state.credentials.calls = asks env first.before ++ w.credentials.calls := by
    rw [← attempts.begins]
    exact Goes.calls unshared from_ (attempts.ends ▸ goes_openSession env first.before)
  cases again with
  | none => exact asked_first
  | some second =>
    obtain ⟨source, is, begins⟩ := attempts.begins_again second rfl
    obtain rfl := Option.some_inj.mp (from_.symm.trans is)
    have cleared : second.before.credentials.calls = .clear :: first.ended.state.credentials.calls := by
      rw [begins]
      rfl
    have asked_again := Goes.calls unshared from_
      (attempts.ends_again second rfl ▸ goes_openSession env second.before)
    rw [cleared, asked_first] at asked_again
    rw [providerCalls, List.append_assoc]
    exact asked_again

/-- With single sign-on the second attempt fetches a token, whatever the first one was about. -/
theorem Connects.fetches {first second : Attempt} {fetch : Auth.Fetch}
    (attempts : Connects env w first (some second)) (unshared : Unshared env)
    (from_ : env.opts.credentialSource = some (.singleSignOn fetch)) :
    Goes env (fetchToken env fetch) second.before second.ended := by
  obtain ⟨source, is, begins⟩ := attempts.begins_again second rfl
  obtain rfl := Option.some_inj.mp (from_.symm.trans is)
  have cleared : second.before.credentials.sso.cache = none := by
    rw [begins]
    rfl
  exact Goes.of_cleared unshared from_ cleared
    (attempts.ends_again second rfl ▸ goes_openSession env second.before)

/-- A client that connects attempts once to open a session, and once more exactly if its credential can
be fetched again and the server rejected the first attempt; the last attempt gives the result. If no
other thread uses the source of the credential, it was cleared once between the attempts, and with
single sign-on the second attempt goes with a token that it fetches itself. -/
theorem connect_attempts (env : Env) (w : World) (wantSetUp : Bool) :
    ∃ first again, Connects env w first again ∧
      connect env wantSetUp w = proceed env wantSetUp (again.getD first) ∧
      (Unshared env →
        (∀ p, env.opts.credentialSource = some (.provider p) →
          (connect env wantSetUp w).state.credentials.calls =
            providerCalls env first again ++ w.credentials.calls) ∧
        ∀ fetch, env.opts.credentialSource = some (.singleSignOn fetch) → ∀ second ∈ again,
          Goes env (fetchToken env fetch) second.before second.ended) := by
  obtain ⟨first, again, attempts, last⟩ := exists_connects env w
  have connected := connect_of_last wantSetUp last
  refine ⟨first, again, attempts, connected, fun unshared => ⟨fun p from_ => ?_, ?_⟩⟩
  · rw [connected, credentials_proceed unshared, attempts.calls unshared from_]
  · intro fetch from_ second mem
    cases mem
    exact attempts.fetches unshared from_

/-- A token for the first request, and another one for those behind it. -/
def twoTokens : Auth.Fetch
  | [_] => .ok ⟨"u", some "x.eyJleHAiOjE3MDAwMDAwMDB9.y"⟩
  | _ => .ok ⟨"u", some "x.eyJleHAiOjE3MDAwMDAwMDB9.z"⟩

/-- Surroundings in which a client signs on with tokens. -/
def signingOn : Env := .quiet
  { host := "h", autocommit := none, enableCleartext := true
    credentialSource := some (.singleSignOn twoTokens) }

/-- Two servers of which the first one rejects whoever comes. -/
def rejectingOnce : World :=
  let rejection : Bytes := [9, 0, 0, 2, 0xff, 0x15, 0x04, 0x23, 0x32, 0x38, 0x30, 0x30, 0x30]
  .start [⟨(greetingPacket ++ rejection).toWire, false⟩,
    ⟨(greetingPacket ++ okPacket 2 false).toWire, false⟩]

theorem connect_signingOn : Unshared signingOn ∧ ∃ first second,
    Connects signingOn rejectingOnce first (some second) ∧
      Goes signingOn (fetchToken signingOn twoTokens) second.before second.ended ∧
      (proceed signingOn false second).error?.isNone = true := by
  have unshared : Unshared signingOn := fun _ _ => rfl
  obtain ⟨first, again, attempts, connected, observed⟩ := connect_attempts signingOn rejectingOnce false
  obtain ⟨e, failed, rejected⟩ := Result.exists_error
    (by decide +kernel : (openSession signingOn rejectingOnce).error?.any isRejection = true)
  have more : again.isSome = true := attempts.again_iff.mpr
    ⟨⟨_, rfl, rfl⟩, e, _, attempts.ends.symm.trans (attempts.begins ▸ failed),
      (isRejection_iff e).mp rejected⟩
  obtain ⟨second, rfl⟩ := Option.isSome_iff_exists.mp more
  refine ⟨unshared, first, second, attempts, (observed unshared).2 twoTokens rfl second rfl, ?_⟩
  rw [Option.getD_some] at connected
  rw [← connected]
  decide +kernel

end Exchange

end SqlWire
