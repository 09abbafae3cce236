import SqlWire.Handshake.Machine
import SqlWire.Run

/-!
# What a handshake shows of the password

The server chooses the plugin, may switch to another one at any time and may ask for more at any
time. `Proves` lists the bytes that can prove who the client is without giving the password away:
scrambles of it with a seed of the server, and what a GSS-API client has to say. The plugin for
clear passwords is not in the list, and neither is the full exchange of `caching_sha2_password`.

`Machine.proves_of_sent` says that nothing else is sent while clear passwords are refused, whatever
the packets are, and that nothing at all is sent where TLS is required.
-/

namespace SqlWire.Handshake

open EStateM (Result)
open Auth (Credential GssapiCall GssapiCalls GssapiProvider GssapiStep Plugin)

variable {opts : Options} {credential : Credential} {processId : Nat}
  {packet data auth bytes : Bytes} {packets : List Bytes} {plugin plugin' : Plugin}
  {calls calls' : GssapiCalls} {action : Action}

/-- The bytes that an action sends. -/
def Action.sent? : Action → Option Bytes
  | .sendAndSecure bytes | .sendAndRead bytes => some bytes
  | .read | .finished => none

/-- The packet brings a seed: as a greeting, or as a switch to another plugin. -/
def Seeds (packet seed : Bytes) : Prop :=
  (∃ greeting, Greeting.parse packet = .ok greeting ∧ greeting.seed = seed) ∨
    ∃ switch, AuthSwitch.parse packet = .ok switch ∧ switch.data = seed

/-- Bytes with which a plugin proves who the client is. A password shows only in its scrambles with
seeds of the server. -/
inductive Proves (opts : Options) (password : Option String) (packets : List Bytes) :
    Plugin → Bytes → Prop where
  | native {packet seed : Bytes} : packet ∈ packets → Seeds packet seed →
      Proves opts password packets .native
        (Auth.nativeScramble (Text.encode (password.getD "")) seed)
  | caching {packet seed : Bytes} : packet ∈ packets → Seeds packet seed →
      Proves opts password packets .caching
        (Auth.cachingScramble (Text.encode (password.getD "")) seed)
  /-- The token with which a client of the provider has answered, or nothing if there is none. -/
  | gssapi {provider : GssapiProvider} {client : Nat} {data : Bytes} {calls : GssapiCalls}
      {step : GssapiStep} : opts.gssapi = some provider →
      provider.step (.step client data :: calls) = .ok step →
      Proves opts password packets (.gssapi provider (some client)) (step.token.getD [])

/-- The response to a greeting with these authentication bytes. Nothing else in it is secret. -/
def responseWith (opts : Options) (processId : Nat) (user : String) (capabilities : Capabilities)
    (plugin : Plugin) (auth : Bytes) : Response where
  capabilities
  maxPacket := clientMaxPacket
  charset := clientCharset
  user
  authResponse := auth
  database := if opts.createDatabase then none else opts.database
  plugin := plugin.name
  attributes := clientAttributes processId ++ opts.connectionAttributes

/-- How authentication bytes are sent: in the response to the greeting, or by themselves. -/
inductive Conveys (opts : Options) (processId : Nat) (user : String) (plugin : Plugin)
    (auth : Bytes) : Bytes → Prop where
  | response (capabilities : Capabilities) :
      Conveys opts processId user plugin auth
        (responseWith opts processId user capabilities plugin auth).bytes
  | alone : Conveys opts processId user plugin auth auth

/-! ## Plugins -/

theorem gssapi_of_ofName {name : String} {gssapi : Option GssapiProvider}
    {provider : GssapiProvider} {client : Option Nat}
    (named : Plugin.ofName name gssapi = .ok (.gssapi provider client)) :
    gssapi = some provider := by
  unfold Plugin.ofName at named
  split at named
  · cases named
  split at named
  · cases named
  split at named
  · cases named
  split at named
  · cases gssapi with
    | none => cases named
    | some provider =>
      cases named
      rfl
  · cases named

/-- A client answers with what the provider has it answer. -/
theorem step_of_give {provider : GssapiProvider} {client : Nat} {step : GssapiStep}
    (given : provider.give client data calls = .ok step calls') :
    provider.step (.step client data :: calls) = .ok step := by
  unfold GssapiProvider.give at given
  dsimp only at given
  split at given
  · next answered =>
    cases given
    exact answered
  · cases given

/-- On a plaintext socket, a plugin that answers the server's seed proves who the client is, unless
clear passwords are allowed there. -/
theorem proves_firstResponse {ctx : Auth.Context} (plain : ctx.tls = false)
    (refused : ctx.allowCleartext = false) (mem : packet ∈ packets) (seeds : Seeds packet data)
    (own : ∀ provider client, plugin = .gssapi provider client → opts.gssapi = some provider)
    (answered : plugin.firstResponse ctx data calls = .ok (auth, plugin') calls') :
    Proves opts ctx.password packets plugin' auth := by
  unfold Plugin.firstResponse at answered
  cases plugin with
  | native =>
    cases answered
    exact .native mem seeds
  | caching =>
    cases answered
    exact .caching mem seeds
  | clear =>
    simp only [plain, refused, Bool.not_false, Bool.and_self, if_true] at answered
    cases answered
  | gssapi provider client =>
    dsimp only at answered
    split at answered
    · cases answered
    · obtain ⟨client', calls₁, _, answered⟩ := EStateM.ok_of_bind answered
      obtain ⟨step, calls₂, given, answered⟩ := EStateM.ok_of_bind answered
      cases answered
      exact .gssapi (own provider client rfl) (step_of_give given)

/-- The server's further data makes only a GSS-API client answer. -/
theorem proves_moreData {ctx : Auth.Context} {password : Option String} (plain : ctx.tls = false)
    (own : ∀ provider client, plugin = .gssapi provider client → opts.gssapi = some provider)
    (answered : plugin.moreData ctx data calls = .ok (.send auth) calls') :
    Proves opts password packets plugin auth := by
  unfold Plugin.moreData at answered
  cases plugin with
  | native | clear => cases answered
  | caching =>
    -- The full exchange would send the password, and needs TLS.
    dsimp only at answered
    split at answered
    · cases answered
    · split at answered
      · simp only [plain, Bool.not_false, if_true] at answered
        cases answered
      · cases answered
  | gssapi provider client? =>
    cases client? with
    | none => cases answered
    | some client =>
      obtain ⟨step, calls₁, given, answered⟩ := EStateM.ok_of_bind answered
      have proves : Proves opts password packets (.gssapi provider (some client))
          (step.token.getD []) := .gssapi (own provider _ rfl) (step_of_give given)
      cases token : step.token with
      | none =>
        simp only [token] at answered
        cases answered
      | some token' =>
        simp only [token] at answered
        cases answered
        rwa [token] at proves

namespace Machine

variable {m m' : Machine}

/-! ## Steps -/

/-- What a handshake on a plaintext socket keeps: whose it is, and where a GSS-API client comes
from. -/
structure Plain (opts : Options) (processId : Nat) (credential : Credential) (m : Machine) :
    Prop where
  options : m.opts = opts
  process : m.processId = processId
  owner : m.credential = credential
  tls : m.tls = false
  phase : m.phase ≠ .tlsRequested
  own : ∀ provider client, m.plugin = some (.gssapi provider client) → opts.gssapi = some provider

/-- What is sent proves who the client is. -/
def Proven (opts : Options) (processId : Nat) (credential : Credential) (packets : List Bytes)
    (bytes : Bytes) : Prop :=
  ∃ plugin auth, Proves opts credential.password packets plugin auth ∧
    Conveys opts processId credential.user plugin auth bytes

/-- What a step comes to, whatever its end. -/
def Harmless (opts : Options) (processId : Nat) (credential : Credential) (packets : List Bytes) :
    Step → Prop
  | .ok action m => Plain opts processId credential m ∧
      ∀ bytes, action.sent? = some bytes → Proven opts processId credential packets bytes
  | .error _ m => Plain opts processId credential m

theorem Plain.withCalls {α : Type} {run : EStateM Error GssapiCalls α}
    {next : α → Machine → Step} (plain : Plain opts processId credential m)
    (h : ∀ a calls calls', run calls = .ok a calls' →
      Harmless opts processId credential packets (next a { m with gssapiCalls := calls' })) :
    Harmless opts processId credential packets (m.withCalls run next) := by
  unfold Machine.withCalls
  split
  · next ran => exact h _ _ _ ran
  · exact ⟨plain.options, plain.process, plain.owner, plain.tls, plain.phase, plain.own⟩

theorem Plain.context (plain : Plain opts processId credential m) :
    m.context = ⟨credential.password, false, opts.enableCleartext, opts.servicePrincipal⟩ := by
  unfold Machine.context
  rw [plain.options, plain.owner, plain.tls]

/-- The plugin that answers is one of the options. -/
theorem Plain.own_answer (plain : Plain opts processId credential m) {name : String}
    (named : Plugin.ofName name m.opts.gssapi = .ok plugin) :
    ∀ provider client, plugin = .gssapi provider client → opts.gssapi = some provider := by
  rintro provider client rfl
  rw [← plain.options]
  exact gssapi_of_ofName named

theorem own_of_proves {password : Option String}
    (proves : Proves opts password packets plugin auth) :
    ∀ provider client, plugin = .gssapi provider client → opts.gssapi = some provider := by
  rintro provider client rfl
  cases proves with
  | gssapi own _ => exact own

theorem harmless_respond (refused : opts.enableCleartext = false) (mem : packet ∈ packets)
    (plain : Plain opts processId credential m)
    (seeds : ∀ greeting, m.greeting = some greeting → Seeds packet greeting.seed) :
    Harmless opts processId credential packets m.respond := by
  unfold respond
  split
  · exact plain
  · next greeting known =>
    split
    · exact plain
    · next plugin named =>
      refine plain.withCalls fun ⟨auth, plugin'⟩ calls calls' answered => ?_
      rw [plain.context] at answered
      have proves : Proves opts credential.password packets plugin' auth :=
        proves_firstResponse rfl refused mem (seeds greeting known) (plain.own_answer named)
          answered
      refine ⟨⟨plain.options, plain.process, plain.owner, plain.tls, nofun, ?_⟩, ?_⟩
      · rintro provider client same
        cases same
        exact own_of_proves proves provider client rfl
      · rintro bytes sent
        cases sent
        refine ⟨plugin', auth, proves, ?_⟩
        have response : Conveys opts processId credential.user plugin' auth _ :=
          .response m.capabilities
        unfold responseWith at response
        rw [← plain.options, ← plain.process, ← plain.owner] at response ⊢
        exact response

theorem harmless_greet (refused : opts.enableCleartext = false) (mem : packet ∈ packets)
    (plain : Plain opts processId credential m) :
    Harmless opts processId credential packets (m.greet packet) := by
  unfold greet
  split
  · split <;> exact plain
  · split
    · exact plain
    · next greeting parsed =>
      dsimp only
      split
      · exact plain
      · split
        · exact plain
        · -- This build never changes to TLS.
          rw [show (m.opts.tlsMode != .disable && greeting.capabilities.has Capabilities.tls &&
            tlsBuilt) = false from Bool.and_false _, if_neg Bool.false_ne_true]
          refine harmless_respond refused mem
            ⟨plain.options, plain.process, plain.owner, plain.tls, plain.phase, plain.own⟩
            fun greeting' known => ?_
          cases known
          exact .inl ⟨greeting, parsed, rfl⟩

theorem harmless_authenticate (refused : opts.enableCleartext = false) (mem : packet ∈ packets)
    (plain : Plain opts processId credential m) :
    Harmless opts processId credential packets (m.authenticate packet) := by
  unfold authenticate
  split
  · split
    · exact plain
    · exact ⟨⟨plain.options, plain.process, plain.owner, plain.tls, nofun, plain.own⟩, nofun⟩
  split
  · split <;> exact plain
  split
  · split
    · exact plain
    · next switch parsed =>
      split
      · exact plain
      · next plugin named =>
        refine plain.withCalls fun ⟨auth, plugin'⟩ calls calls' answered => ?_
        rw [plain.context] at answered
        have proves : Proves opts credential.password packets plugin' auth :=
          proves_firstResponse rfl refused mem (.inr ⟨switch, parsed, rfl⟩) (plain.own_answer named)
            answered
        refine ⟨⟨plain.options, plain.process, plain.owner, plain.tls, plain.phase, ?_⟩, ?_⟩
        · rintro provider client same
          cases same
          exact own_of_proves proves provider client rfl
        · rintro bytes sent
          cases sent
          exact ⟨plugin', auth, proves, .alone⟩
  split
  · split
    · exact plain
    · split
      · exact plain
      · next plugin current =>
        refine plain.withCalls fun reply calls calls' answered => ?_
        rw [plain.context] at answered
        have after : Plain opts processId credential { m with gssapiCalls := calls' } :=
          ⟨plain.options, plain.process, plain.owner, plain.tls, plain.phase, plain.own⟩
        cases reply with
        | wait => exact ⟨after, nofun⟩
        | send auth =>
          refine ⟨after, fun bytes sent => ?_⟩
          cases sent
          have own provider client (same : plugin = .gssapi provider client) :=
            plain.own provider client (same ▸ current)
          exact ⟨plugin, auth, proves_moreData rfl own answered, .alone⟩
  · exact plain

/-- A step of a handshake keeps it plain, and what it sends proves who the client is. -/
theorem harmless_step (refused : opts.enableCleartext = false) (mem : packet ∈ packets)
    (plain : Plain opts processId credential m) :
    Harmless opts processId credential packets (step packet m) := by
  have advanced : Harmless opts processId credential packets (m.advance packet) := by
    unfold advance
    split
    · exact ⟨⟨plain.options, plain.process, plain.owner, plain.tls, nofun, plain.own⟩, nofun⟩
    · exact harmless_greet refused mem plain
    · next phase => exact absurd phase plain.phase
    · exact harmless_authenticate refused mem plain
    · exact plain
    · exact plain
  unfold step
  split
  · next ended =>
    rw [ended] at advanced
    exact advanced
  · next ended =>
    rw [ended] at advanced
    exact ⟨advanced.options, advanced.process, advanced.owner, advanced.tls, nofun, advanced.own⟩

/-- Where TLS is required no response to the greeting is sent. -/
theorem greet_of_isRequired (required : m.opts.tlsMode.isRequired = true) (packet : Bytes) :
    ∃ e, m.greet packet = .error e m := by
  unfold greet
  split
  · split <;> exact ⟨_, rfl⟩
  · split
    · exact ⟨_, rfl⟩
    · next greeting _ =>
      cases offered : greeting.capabilities.has Capabilities.tls <;> simp [required, tlsBuilt]

/-- A handshake that requires TLS and has not come past the greeting. -/
structure Barred (m : Machine) : Prop where
  required : m.opts.tlsMode.isRequired = true
  phase : m.phase = .initial ∨ m.phase = .awaitingGreeting ∨ m.phase = .failed

/-- Such a handshake never comes past the greeting: it only reads. -/
theorem Barred.step (barred : Barred m) (packet : Bytes) :
    (∃ m', m.step packet = .ok .read m' ∧ Barred m') ∨
      ∃ e m', m.step packet = .error e m' ∧ Barred m' := by
  unfold Machine.step advance
  rcases barred.phase with phase | phase | phase
  · rw [phase]
    exact .inl ⟨_, rfl, barred.required, .inr (.inl rfl)⟩
  · obtain ⟨e, greeted⟩ := greet_of_isRequired barred.required packet
    rw [phase]
    dsimp only
    rw [greeted]
    exact .inr ⟨e, _, rfl, barred.required, .inr (.inr rfl)⟩
  · rw [phase]
    exact .inr ⟨_, _, rfl, barred.required, .inr (.inr rfl)⟩

/-! ## Handshakes -/

/-- What a handshake does with these packets, one after the other. With each packet come the calls
that the GSS-API provider has had by then, since others may use it as well. A step that fails does
nothing. -/
def actions : List (GssapiCalls × Bytes) → Machine → List Action
  | [], _ => []
  | (calls, packet) :: rest, m =>
    match step packet { m with gssapiCalls := calls } with
    | .ok action m => action :: actions rest m
    | .error _ m => actions rest m

theorem Barred.actions (barred : Barred m) (given : List (GssapiCalls × Bytes)) :
    ∀ action ∈ m.actions given, action.sent? = none := by
  induction given generalizing m with
  | nil => nofun
  | cons pair rest ih =>
    obtain ⟨calls, packet⟩ := pair
    have before : Barred { m with gssapiCalls := calls } := ⟨barred.required, barred.phase⟩
    unfold Machine.actions
    rcases before.step packet with ⟨m', ended, after⟩ | ⟨e, m', ended, after⟩
    · rw [ended]
      intro action among
      rcases List.mem_cons.mp among with rfl | later
      · rfl
      · exact ih after action later
    · rw [ended]
      exact ih after

theorem proven_actions (refused : opts.enableCleartext = false)
    (plain : Plain opts processId credential m) {given : List (GssapiCalls × Bytes)}
    (mem : ∀ pair ∈ given, pair.2 ∈ packets) :
    ∀ action ∈ m.actions given, ∀ bytes, action.sent? = some bytes →
      Proven opts processId credential packets bytes := by
  induction given generalizing m with
  | nil => nofun
  | cons pair rest ih =>
    obtain ⟨calls, packet⟩ := pair
    have stepped := harmless_step refused (mem _ (.head _)) (m := { m with gssapiCalls := calls })
      ⟨plain.options, plain.process, plain.owner, plain.tls, plain.phase, plain.own⟩
    unfold actions
    split
    · next ended =>
      rw [ended] at stepped
      intro action among bytes sent
      rcases List.mem_cons.mp among with rfl | later
      · exact stepped.2 bytes sent
      · exact ih stepped.1 (fun pair later => mem pair (.tail _ later)) action later bytes sent
    · next ended =>
      rw [ended] at stepped
      exact ih stepped fun pair later => mem pair (.tail _ later)

/-- Whatever the server's packets are, a handshake that may not send clear passwords sends only
bytes that prove who the client is, and one that requires TLS sends nothing. -/
theorem proves_of_sent (opts : Options) (processId : Nat) (credential : Credential)
    (hint : Option String) (calls : GssapiCalls) (given : List (GssapiCalls × Bytes)) :
    (opts.enableCleartext = false →
      ∀ action ∈ (start opts processId credential hint calls).actions given,
        ∀ bytes, action.sent? = some bytes →
          ∃ plugin auth, Proves opts credential.password (given.map Prod.snd) plugin auth ∧
            Conveys opts processId credential.user plugin auth bytes) ∧
    (opts.tlsMode.isRequired = true →
      ∀ action ∈ (start opts processId credential hint calls).actions given,
        action.sent? = none) := by
  constructor
  · intro refused
    have plain : Plain opts processId credential (start opts processId credential hint calls) :=
      ⟨rfl, rfl, rfl, rfl, nofun, nofun⟩
    exact proven_actions refused plain fun pair mem => List.mem_map_of_mem mem
  · intro required
    have barred : Barred (start opts processId credential hint calls) := ⟨required, .inl rfl⟩
    exact barred.actions given

/-- A server that greets, has the client prove who it is with another plugin, and then asks for the
password. -/
def coaxing : List (GssapiCalls × Bytes) :=
  [[], [10, 0, 1, 0, 0, 0, 1, 2, 3, 4, 5, 6, 7, 8, 0, 0, 0],
    [Lead.eof] ++ Text.encode Auth.cachingName ++ [0, 8, 7, 6, 5, 4, 3, 2, 1, 0],
    [Lead.moreData, 4]].map ([], ·)

theorem proves_of_sent_coaxing :
    let opts : Options := {}
    let m := start opts 1 ⟨"root", some "secret"⟩ none []
    let strict : Options := { tlsMode := .require }
    (opts.enableCleartext = false ∧ (m.actions coaxing).map (·.sent?.isSome) = [false, true, true] ∧
      ∀ action ∈ m.actions coaxing, ∀ bytes, action.sent? = some bytes →
        ∃ plugin auth, Proves opts (some "secret") (coaxing.map Prod.snd) plugin auth ∧
          Conveys opts 1 "root" plugin auth bytes) ∧
    strict.tlsMode.isRequired = true ∧
      ∀ action ∈ (start strict 1 ⟨"root", some "secret"⟩ none []).actions coaxing,
        action.sent? = none :=
  ⟨⟨rfl, by decide +kernel, (proves_of_sent {} 1 ⟨"root", some "secret"⟩ none [] coaxing).1 rfl⟩,
    rfl,
    (proves_of_sent { tlsMode := .require } 1 ⟨"root", some "secret"⟩ none [] coaxing).2 rfl⟩

end Machine

end SqlWire.Handshake
