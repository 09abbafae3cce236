import SqlWire.Proofs.Ended.Opening
import SqlWire.Proofs.Handshake.Secrecy

/-!
# How client and server introduce themselves

On a fresh link the server speaks first: the packet that is read first is its greeting. What is sent
first is the client's response, with the capabilities that both sides have (`introduced`). A session
is opened at the first attempt, or at one more with a fresh credential (`Attempted`).
-/

namespace SqlWire

open Net (Env Link World)
open Handshake (Greeting Machine Outcome clientCapabilities responseWith)

variable {env : Env} {machine next : Machine} {packet : Bytes} {line line' : Line}

/-- On a new link the server greets and the client sends a response, with nothing but calls of a GSS-API
provider in between. The rest of the conversation leads to a session, in the world behind it. -/
inductive Introduced (env : Env) (w : World) (outcome : Outcome) (w' : World) (greeting : Greeting)
    (response : Handshake.Response) : Prop
  | intro {link : Link} {w₁ w₂ : World} {credential : Auth.Credential} {payload answer : ByteArray}
      {calls : Auth.GssapiCalls} {machine last : Machine} {line₁ line₂ line₃ line₄ line₅ : Line}
      (dialed : Link.dial env w = .ok link w₁)
      (found : Exchange.findCredential env w₁ = .ok credential w₂)
      (heard : Line.readPacket env ⟨.new link, w₂⟩ = .ok payload line₁)
      (greets : Greeting.parse (Bytes.ofWire payload) = .ok greeting)
      (noted : Exchange.noteCalls calls line₁ = .ok () line₂) (user : response.user = credential.user)
      (said : Line.writePacket env response.bytes.toWire none line₂ = .ok () line₃)
      (answered : line₃.readPacket env = .ok answer line₄)
      (agreed : Exchange.converse env machine (Bytes.ofWire answer) line₄ = .ok last line₅)
      (ends : last.outcome = .ok outcome) (left : line₅.world = w')

/-- The greeting of the server that the next link leads to. -/
def nextGreeting? (env : Env) (w : World) : Option Greeting :=
  match Link.dial env w with
  | .error _ _ => none
  | .ok link w =>
    match Exchange.findCredential env w with
    | .error _ _ => none
    | .ok _ w =>
      match Line.readPacket env ⟨.new link, w⟩ with
      | .error _ _ => none
      | .ok payload _ => (Greeting.parse (Bytes.ofWire payload)).toOption

/-- What a server says does not depend on the client. -/
theorem Introduced.nextGreeting? {w w' : World} {outcome : Outcome} {greeting : Greeting}
    {response : Handshake.Response} (h : Introduced env w outcome w' greeting response) :
    SqlWire.nextGreeting? env w = some greeting := by
  obtain ⟨dialed, found, heard, greets⟩ := h
  unfold SqlWire.nextGreeting?
  simp only [dialed, found, heard, greets, Except.toOption]

/-- A session was opened in a world: in the one of the first attempt, or in the one behind it, where a
fresh credential is fetched. -/
inductive Attempted (env : Env) (w : World) (session : Channel × Outcome) (w' : World) : World → Prop
  | first (opened : Exchange.openSession env w = .ok session w') : Attempted env w session w' w
  | again {e : Error} {w₁ : World} {source : Auth.CredentialSource}
      (failed : Exchange.openSession env w = .error e w₁)
      (fetches : env.opts.credentialSource = some source)
      (opened : Exchange.openSession env
        { w₁ with credentials := source.clear w₁.credentials } = .ok session w') :
      Attempted env w session w' { w₁ with credentials := source.clear w₁.credentials }

namespace Handshake.Machine

variable {m m' : Machine} {action : Action}

/-- A greeting is answered with a response. -/
theorem ok_of_greet (h : m.greet packet = .ok action m') :
    ∃ greeting plugin auth, Greeting.parse packet = .ok greeting ∧
      action = .sendAndRead (responseWith m.opts m.processId m.credential.user
        ((clientCapabilities m.opts false).inter greeting.capabilities) plugin auth).bytes := by
  unfold greet at h
  split at h
  · split at h <;> cases h
  split at h
  · cases h
  · next greeting parsed =>
    dsimp only at h
    split at h
    · cases h
    split at h
    · cases h
    -- This build never changes to TLS.
    have plain : (m.opts.tlsMode != .disable && greeting.capabilities.has Capabilities.tls &&
      tlsBuilt) = false := Bool.and_false _
    rw [plain, if_neg Bool.false_ne_true] at h
    unfold respond at h
    dsimp only at h
    split at h
    · cases h
    · unfold withCalls at h
      split at h
      · next auth calls answered =>
        cases h
        exact ⟨greeting, auth.2, auth.1, parsed, rfl⟩
      · cases h

/-- The step of a client that has waited for the greeting answers it. -/
theorem ok_of_step (h : m.step packet = .ok action m') (waits : m.phase = .awaitingGreeting) :
    ∃ greeting plugin auth, Greeting.parse packet = .ok greeting ∧
      action = .sendAndRead (responseWith m.opts m.processId m.credential.user
        ((clientCapabilities m.opts false).inter greeting.capabilities) plugin auth).bytes := by
  unfold step advance at h
  rw [waits] at h
  dsimp only at h
  split at h
  · next greeted =>
    cases h
    exact ok_of_greet greeted
  · cases h

end Handshake.Machine

namespace Exchange

/-! ## Turns -/

/-- A turn is a step of the handshake and what the step asks for. -/
theorem ok_of_turn {ended : Bool} (h : turn env machine packet line = .ok (next, ended) line') :
    ∃ action m, Machine.step packet { machine with gssapiCalls := line.world.gssapi } = .ok action m ∧
      perform env m action { line with world := { line.world with gssapi := m.gssapiCalls } } =
        .ok (next, ended) line' := by
  unfold turn at h
  rw [EStateM.get_bind] at h
  cases stepped : Machine.step packet { machine with gssapiCalls := line.world.gssapi } with
  | error e m =>
    simp only [stepped] at h
    cases h
  | ok action m =>
    simp only [stepped] at h
    exact ⟨action, m, rfl, h⟩

theorem ok_of_converse {last : Machine} (h : converse env machine packet line = .ok last line') :
    ∃ next ended line₁, turn env machine packet line = .ok (next, ended) line₁ ∧
      (ended = false → ∃ payload line₂, line₁.readPacket env = .ok payload line₂ ∧
        converse env next (Bytes.ofWire payload) line₂ = .ok last line') := by
  unfold converse at h
  split at h
  · cases h
  · next next line₁ turned => exact ⟨next, true, line₁, turned, (absurd · (by decide))⟩
  · next next line₁ turned =>
    split at h
    · cases h
    · next payload line₂ read => exact ⟨next, false, line₁, turned, fun _ => ⟨payload, line₂, read, h⟩⟩

/-- The first turn only reads. -/
theorem turn_start {opts : Options} {processId : Nat} {credential : Auth.Credential}
    {hint : Option String} {calls : Auth.GssapiCalls} {ended : Bool}
    (h : turn env (.start opts processId credential hint calls) packet line = .ok (next, ended) line') :
    ended = false ∧ line' = line ∧ next.phase = .awaitingGreeting ∧ next.opts = opts ∧
      next.processId = processId ∧ next.credential = credential := by
  obtain ⟨action, m, stepped, performed⟩ := ok_of_turn h
  cases stepped
  cases performed
  exact ⟨rfl, rfl, rfl, rfl, rfl, rfl⟩

/-- With the session of an attempt, client and server were introduced. -/
theorem introduced {w w' : World} {channel : Channel} {outcome : Outcome}
    (h : openSession env w = .ok (channel, outcome) w') :
    ∃ greeting user plugin auth, Introduced env w outcome w' greeting
      (responseWith env.opts env.processId user
        ((clientCapabilities env.opts false).inter greeting.capabilities) plugin auth) := by
  obtain ⟨link, w₁, dialed, h⟩ := EStateM.ok_of_bind h
  obtain ⟨credential, w₂, found, h⟩ := EStateM.ok_of_bind h
  dsimp only at h
  split at h
  · cases h
  · next last line₅ talked =>
    split at h
    · cases h
    · next ends =>
      cases h
      -- The first turn reads the greeting, the second one answers it.
      obtain ⟨next, ended, line, turned, goes_on⟩ := ok_of_converse talked
      obtain ⟨reads, rfl, phase, opts, process, owner⟩ := turn_start turned
      obtain ⟨payload, line₁, heard, talked⟩ := goes_on reads
      obtain ⟨machine, ended, line₃, turned, goes_on⟩ := ok_of_converse talked
      obtain ⟨action, m, stepped, performed⟩ := ok_of_turn turned
      obtain ⟨greeting, plugin, auth, greets, rfl⟩ := Machine.ok_of_step stepped phase
      obtain ⟨_, _, said, performed⟩ := EStateM.ok_of_bind performed
      cases performed
      obtain ⟨answer, line₄, answered, agreed⟩ := goes_on rfl
      dsimp only at said
      rw [opts, process, owner] at said
      exact ⟨greeting, credential.user, plugin, auth,
        .intro dialed found heard greets rfl rfl said answered agreed ends rfl⟩

theorem exists_attempted {w w' : World} {session : Channel × Outcome}
    (h : withFreshCredential env (openSession env) w = .ok session w') :
    ∃ w₀, Attempted env w session w' w₀ ∧ openSession env w₀ = .ok session w' := by
  rcases cases_withFreshCredential h with opened | ⟨e, w₁, source, failed, fetches, opened⟩
  · exact ⟨_, .first opened, opened⟩
  · exact ⟨_, .again failed fetches opened, opened⟩

end Exchange

end SqlWire
