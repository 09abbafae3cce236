import Mathlib.Data.List.Induction
import SqlWire.Proofs.Handshake.Secrecy
import SqlWire.Proofs.Malformed

/-!
# What a handshake holds in each phase

The packets of the server take a handshake through its phases: the greeting, TLS, any number of
plugins, and the verdict. `Phased` says what the client has at hand in which phase, and
`advances_result` that a step keeps it. So a handshake never lacks the greeting or the plugin, it has
an outcome behind the step that finishes it and nowhere else, and what was agreed on was in the
greeting (`settled_of_steps`).
-/

namespace SqlWire

open EStateM (Result)
open Auth (GssapiCalls GssapiProvider Plugin)

/-- A handshake without something that it must have at hand by then. -/
def Error.isAstray : Error → Bool
  | protocol fault => fault.isAstray
  | _ => false

/-- The last of these calls was answered with this error. -/
def Auth.GssapiProvider.Refuses (provider : GssapiProvider) (calls : GssapiCalls) (e : Error) :
    Prop :=
  provider.client calls = .error e ∨ provider.step calls = .error e

/-- An error of a handshake that lacks nothing, or that a provider has answered. -/
def Error.Excused (e : Error) (gssapi : Option GssapiProvider) (calls : GssapiCalls) : Prop :=
  e.isAstray = false ∨ ∃ provider, gssapi = some provider ∧ provider.Refuses calls e

theorem Error.Excused.of_own {e : Error} {gssapi gssapi' : Option GssapiProvider} {calls : GssapiCalls}
    (excused : e.Excused gssapi calls)
    (own : ∀ provider, gssapi = some provider → gssapi' = some provider) : e.Excused gssapi' calls := by
  rcases excused with fit | ⟨provider, given, refuses⟩
  · exact .inl fit
  · exact .inr ⟨provider, own provider given, refuses⟩

theorem Capabilities.has_of_inter {a b : Capabilities} {flag : UInt64}
    (has : (a.inter b).has flag = true) : a.has flag = true ∧ b.has flag = true := by
  have common : a.bits &&& b.bits &&& flag ≠ 0 := bne_iff_ne.mp has
  constructor <;> refine bne_iff_ne.mpr fun none => common ?_
  · rw [UInt64.and_assoc, UInt64.and_comm b.bits, ← UInt64.and_assoc, none, UInt64.zero_and]
  · rw [UInt64.and_assoc, none, UInt64.and_zero]

/-! ## Plugins -/

namespace Auth.Plugin

variable {plugin plugin' : Plugin} {ctx : Auth.Context} {data auth : Bytes} {calls calls' : GssapiCalls}
  {e : Error} {provider : GssapiProvider}

def provider? : Plugin → Option GssapiProvider
  | gssapi provider _ => some provider
  | native | caching | clear => none

theorem refuses_of_newClient {principal mechanism : String}
    (failed : provider.newClient principal mechanism calls = .error e calls') :
    provider.Refuses calls' e := by
  unfold GssapiProvider.newClient at failed
  dsimp only at failed
  split at failed
  · cases failed
  · next answered =>
    cases failed
    exact .inl answered

theorem refuses_of_give {client : Nat} (failed : provider.give client data calls = .error e calls') :
    provider.Refuses calls' e := by
  unfold GssapiProvider.give at failed
  dsimp only at failed
  split at failed
  · cases failed
  · next answered =>
    cases failed
    exact .inr answered

/-- A plugin that has no answer says why, or passes on what the provider has said. -/
theorem error_of_firstResponse (failed : plugin.firstResponse ctx data calls = .error e calls') :
    e.Excused plugin.provider? calls' := by
  unfold firstResponse at failed
  cases plugin with
  | native | caching => cases failed
  | clear =>
    dsimp only at failed
    split at failed
    · cases failed
      exact .inl rfl
    · cases failed
  | gssapi provider client =>
    dsimp only at failed
    split at failed
    · cases failed
      exact .inl rfl
    rcases EStateM.error_of_bind failed with failed | ⟨client, calls₁, _, failed⟩
    · exact .inr ⟨provider, rfl, refuses_of_newClient failed⟩
    rcases EStateM.error_of_bind failed with failed | ⟨step, calls₂, _, failed⟩
    · exact .inr ⟨provider, rfl, refuses_of_give failed⟩
    · cases failed

theorem error_of_moreData (failed : plugin.moreData ctx data calls = .error e calls') :
    e.Excused plugin.provider? calls' := by
  unfold moreData at failed
  cases plugin with
  | native | clear =>
    cases failed
    exact .inl rfl
  | caching =>
    dsimp only at failed
    split at failed
    · cases failed
    split at failed
    · split at failed
      · cases failed
        exact .inl rfl
      · cases failed
    · cases failed
      exact .inl rfl
  | gssapi provider client? =>
    cases client? with
    | none =>
      cases failed
      exact .inl rfl
    | some client =>
      rcases EStateM.error_of_bind failed with failed | ⟨step, calls₁, _, failed⟩
      · exact .inr ⟨provider, rfl, refuses_of_give failed⟩
      · cases token : step.token <;> simp only [token] at failed <;> cases failed

theorem provider_of_firstResponse
    (answered : plugin.firstResponse ctx data calls = .ok (auth, plugin') calls') :
    plugin'.provider? = plugin.provider? := by
  unfold firstResponse at answered
  cases plugin with
  | native | caching =>
    cases answered
    rfl
  | clear =>
    dsimp only at answered
    split at answered
    · cases answered
    · cases answered
      rfl
  | gssapi provider client =>
    dsimp only at answered
    split at answered
    · cases answered
    obtain ⟨client', calls₁, _, answered⟩ := EStateM.ok_of_bind answered
    obtain ⟨step, calls₂, _, answered⟩ := EStateM.ok_of_bind answered
    cases answered
    rfl

theorem provider_of_ofName {name : String} {gssapi : Option GssapiProvider}
    (named : ofName name gssapi = .ok plugin) (own : plugin.provider? = some provider) :
    gssapi = some provider := by
  cases plugin with
  | native | caching | clear => cases own
  | gssapi provider' client =>
    cases own
    exact Handshake.gssapi_of_ofName named

end Auth.Plugin

namespace Handshake.Machine

variable {opts : Options} {m : Machine} {given : List (GssapiCalls × Bytes)} {seeds : List Bytes}
  {tls : Bool} {act : GssapiCalls × Bytes} {packet : Bytes} {plugin : Plugin} {fault : ProtocolFault}

/-! ## Courses of a handshake -/

/-- A step with a packet, and with the calls that the GSS-API provider has had by then. -/
def result (m : Machine) (act : GssapiCalls × Bytes) : Step :=
  step act.2 { m with gssapiCalls := act.1 }

def after (m : Machine) (act : GssapiCalls × Bytes) : Machine := (m.result act).state

/-- Behind some steps, whatever the end of each of them. -/
def behind (m : Machine) (given : List (GssapiCalls × Bytes)) : Machine := given.foldl after m

theorem behind_append (m : Machine) (given later : List (GssapiCalls × Bytes)) :
    m.behind (given ++ later) = (m.behind given).behind later := List.foldl_append

theorem behind_concat (m : Machine) (given : List (GssapiCalls × Bytes)) (act : GssapiCalls × Bytes) :
    m.behind (given ++ [act]) = (m.behind given).after act := behind_append m given [act]

/-- The seed that comes with a greeting, or with another plugin. -/
def seed? (m : Machine) (packet : Bytes) : Option Bytes :=
  match m.phase with
  | .awaitingGreeting => (Greeting.parse packet).toOption.map (·.seed)
  | .authenticating => (AuthSwitch.parse packet).toOption.map (·.data)
  | .initial | .tlsRequested | .authenticated | .failed => none

/-- The seeds of a handshake, one for each exchange with a plugin. -/
def seedsOf : List (GssapiCalls × Bytes) → Machine → List Bytes
  | [], _ => []
  | act :: acts, m => (m.seed? act.2).toList ++ seedsOf acts (m.after act)

theorem seedsOf_concat (m : Machine) (given : List (GssapiCalls × Bytes)) (act : GssapiCalls × Bytes) :
    m.seedsOf (given ++ [act]) =
      m.seedsOf given ++ ((m.behind given).seed? act.2).toList := by
  induction given generalizing m with
  | nil => simp [seedsOf, behind]
  | cons first given ih =>
    rw [List.cons_append, seedsOf, seedsOf, ih, List.append_assoc]
    rfl

/-- The client knows the greeting, which was the second packet, with the seed of the last exchange,
and uses the capabilities that are in it. -/
def Greeted (opts : Options) (given : List (GssapiCalls × Bytes)) (seeds : List Bytes) (tls : Bool)
    (m : Machine) : Prop :=
  ∃ calls packet greeting seed, given[1]? = some (calls, packet) ∧
    Greeting.parse packet = .ok greeting ∧ seeds.getLast? = some seed ∧
    m.greeting = some { greeting with seed } ∧
    m.capabilities = (clientCapabilities opts tls).inter greeting.capabilities

/-- What a client has at hand in each phase. -/
inductive Phased (opts : Options) (given : List (GssapiCalls × Bytes)) (seeds : List Bytes)
    (m : Machine) : Prop
  | initial (phase : m.phase = .initial) (options : m.opts = opts) (plain : m.tls = false)
      (fresh : given = [])
  | awaiting (phase : m.phase = .awaitingGreeting) (options : m.opts = opts) (plain : m.tls = false)
      (one : given.length = 1)
  | securing (phase : m.phase = .tlsRequested) (options : m.opts = opts)
      (greeted : Greeted opts given seeds true m)
  | authenticating (phase : m.phase = .authenticating) (options : m.opts = opts)
      (greeted : Greeted opts given seeds m.tls m) (plugin : Plugin) (selected : m.plugin = some plugin)
      (own : ∀ provider, plugin.provider? = some provider → opts.gssapi = some provider)
  | authenticated (phase : m.phase = .authenticated) (greeted : Greeted opts given seeds m.tls m)
  | failed (phase : m.phase = .failed)

/-- What a step comes to, whatever its end. -/
def Advances (opts : Options) (given : List (GssapiCalls × Bytes)) (seeds : List Bytes) : Step → Prop
  | .ok action m => Phased opts given seeds m ∧ (action = .finished ↔ m.phase = .authenticated)
  | .error e m => e.Excused opts.gssapi m.gssapiCalls

/-! ## Steps -/

theorem seed?_of_other (phase : m.phase = .authenticating) (other : packet.head? ≠ some Lead.eof) :
    m.seed? packet = none := by
  have failed : ∃ fault, AuthSwitch.parse packet = .error fault := by
    cases packet with
    | nil => exact ⟨_, rfl⟩
    | cons lead data =>
      have stray : (lead != Lead.eof) = true := bne_iff_ne.mpr fun eof => other (congrArg some eof)
      refine ⟨.unexpectedLead .authSwitch lead, ?_⟩
      simp only [AuthSwitch.parse, bind, Except.bind, Field.readU8, stray, if_true]
      rfl
  obtain ⟨fault, failed⟩ := failed
  simp only [seed?, phase, failed, Except.toOption, Option.map_none]

/-- A step without another seed. -/
theorem Greeted.concat (greeted : Greeted opts given seeds tls m) (act : GssapiCalls × Bytes) :
    Greeted opts (given ++ [act]) seeds tls m := by
  obtain ⟨calls, packet, greeting, seed, second, known⟩ := greeted
  refine ⟨calls, packet, greeting, seed, ?_, known⟩
  rw [List.getElem?_append_left (List.getElem?_eq_some_iff.mp second).1]
  exact second

namespace Advances

theorem malformed {α : Type} {read : Except ProtocolFault α} (formal : Formal read)
    (wrong : read = .error fault) : Advances opts given seeds (.error (.protocol fault) m) :=
  .inl (formal.not_astray wrong)

/-- A step that is not the last one. -/
theorem goesOn {action : Action} (phased : Phased opts given seeds m) (more : action ≠ .finished)
    (unsettled : m.phase ≠ .authenticated) : Advances opts given seeds (.ok action m) :=
  ⟨phased, fun last => absurd last more, fun accepted => absurd accepted unsettled⟩

theorem withCalls {α : Type} {run : EStateM Error GssapiCalls α} {next : α → Machine → Step}
    (own : ∀ provider, plugin.provider? = some provider → opts.gssapi = some provider)
    (wrong : ∀ e calls calls', run calls = .error e calls' → e.Excused plugin.provider? calls')
    (right : ∀ a calls', run m.gssapiCalls = .ok a calls' →
      Advances opts given seeds (next a { m with gssapiCalls := calls' })) :
    Advances opts given seeds (m.withCalls run next) := by
  unfold Machine.withCalls
  split
  · next ran => exact right _ _ ran
  · next failed => exact Error.Excused.of_own (wrong _ _ _ failed) own

/-- A plugin of the options gives the first answer. -/
theorem exchange {name : String} {ctx : Auth.Context} {data : Bytes}
    {next : Bytes × Plugin → Machine → Step} (options : m.opts = opts)
    (named : Plugin.ofName name m.opts.gssapi = .ok plugin)
    (right : ∀ auth plugin' calls',
      (∀ provider, plugin'.provider? = some provider → opts.gssapi = some provider) →
      Advances opts given seeds (next (auth, plugin') { m with gssapiCalls := calls' })) :
    Advances opts given seeds (m.withCalls (plugin.firstResponse ctx data) next) := by
  rw [options] at named
  have own (provider : GssapiProvider) (mine : plugin.provider? = some provider) :
      opts.gssapi = some provider := Plugin.provider_of_ofName named mine
  refine .withCalls own (fun _ _ _ => Plugin.error_of_firstResponse)
    fun (auth, plugin') calls' answered => right auth plugin' calls' ?_
  rw [Plugin.provider_of_firstResponse answered]
  exact own

/-- Once greeted, a client answers with a plugin. -/
theorem respond (options : m.opts = opts) (greeted : Greeted opts given seeds m.tls m) :
    Advances opts given seeds m.respond := by
  obtain ⟨calls, packet, greeting, seed, second, parsed, last, known, agreed⟩ := id greeted
  unfold Machine.respond
  rw [known]
  dsimp only
  split
  · exact .inl rfl
  · next named =>
    refine .exchange options named fun auth plugin' calls' own => ?_
    exact .goesOn (.authenticating rfl options
      ⟨calls, packet, greeting, seed, second, parsed, last, known, agreed⟩ plugin' rfl own)
      nofun nofun

/-- A greeting is kept, and with it the capabilities that both sides have. -/
theorem greet (phase : m.phase = .awaitingGreeting) (options : m.opts = opts) (plain : m.tls = false)
    (one : given.length = 1) :
    Advances opts (given ++ [act]) (seeds ++ (m.seed? act.2).toList) (m.greet act.2) := by
  unfold Machine.greet
  split
  · split
    · next failed => exact .malformed (ServerError.formal_parse _) failed
    · exact .inl rfl
  split
  · next failed => exact .malformed (Greeting.formal_parse _) failed
  · next greeting parsed =>
    have seed : m.seed? act.2 = some greeting.seed := by
      simp only [seed?, phase, parsed, Except.toOption, Option.map_some]
    have second : (given ++ [act])[1]? = some act := by
      rw [List.getElem?_append_right (Nat.le_of_eq one), one]
      rfl
    have last : (seeds ++ (m.seed? act.2).toList).getLast? = some greeting.seed := by
      rw [seed, Option.toList_some, List.getLast?_concat]
    dsimp only
    split
    · exact .inl rfl
    split
    · exact .inl rfl
    split
    · next useTls =>
      refine .goesOn (.securing rfl options ⟨_, _, greeting, _, second, parsed, last, rfl, ?_⟩)
        nofun nofun
      dsimp only
      rw [useTls, options]
    · next noTls =>
      refine .respond options ⟨_, _, greeting, _, second, parsed, last, rfl, ?_⟩
      dsimp only
      rw [Bool.of_not_eq_true noTls, options, plain]

/-- A greeted client goes on, with another seed where there is another plugin. -/
theorem authenticate (phase : m.phase = .authenticating) (options : m.opts = opts)
    (greeted : Greeted opts given seeds m.tls m) (selected : m.plugin = some plugin)
    (own : ∀ provider, plugin.provider? = some provider → opts.gssapi = some provider) :
    Advances opts (given ++ [act]) (seeds ++ (m.seed? act.2).toList) (m.authenticate act.2) := by
  have same (other : act.2.head? ≠ some Lead.eof) :
      Greeted opts (given ++ [act]) (seeds ++ (m.seed? act.2).toList) m.tls m := by
    rw [seed?_of_other phase other, Option.toList_none, List.append_nil]
    exact greeted.concat act
  unfold Machine.authenticate
  split
  · next lead =>
    split
    · next failed => exact .malformed (OkPacket.formal_parse _) failed
    · have greeted : Greeted opts (given ++ [act]) (seeds ++ (m.seed? act.2).toList) m.tls m :=
        same (by rw [beq_iff_eq.mp lead]; decide)
      exact ⟨.authenticated rfl greeted, fun _ => rfl, fun _ => rfl⟩
  split
  · split
    · next failed => exact .malformed (ServerError.formal_parse _) failed
    · exact .inl rfl
  split
  · split
    · next failed => exact .malformed (AuthSwitch.formal_parse _) failed
    · next switch parsed =>
      obtain ⟨calls, packet, greeting, _, second, read, -, known, agreed⟩ := greeted.concat act
      have last : (seeds ++ (m.seed? act.2).toList).getLast? = some switch.data := by
        simp only [seed?, phase, parsed, Except.toOption, Option.map_some, Option.toList_some,
          List.getLast?_concat]
      split
      · exact .inl rfl
      · next named =>
        refine .exchange options named fun auth plugin' calls' own => ?_
        refine .goesOn (.authenticating phase options
          ⟨calls, packet, greeting, _, second, read, last, ?_, agreed⟩ plugin' rfl own) nofun
          (phase ▸ nofun)
        dsimp only
        rw [known, Option.map_some]
  split
  · next noEof _ =>
    split
    · next failed => exact .malformed (formal_moreData _) failed
    · rw [selected]
      refine .withCalls own (fun _ _ _ => Plugin.error_of_moreData) fun reply calls' answered => ?_
      have greeted := same fun eof => noEof (beq_iff_eq.mpr eof)
      have phased (calls : GssapiCalls) : Phased opts (given ++ [act])
          (seeds ++ (m.seed? act.2).toList) { m with gssapiCalls := calls } :=
        .authenticating phase options greeted plugin selected own
      cases reply with
      | send bytes => exact .goesOn (phased _) nofun (phase ▸ nofun)
      | wait => exact .goesOn (phased _) nofun (phase ▸ nofun)
  · exact .inl rfl

end Advances

theorem Phased.withCalls (phased : Phased opts given seeds m) (calls : GssapiCalls) :
    Phased opts given seeds { m with gssapiCalls := calls } := by
  cases phased with
  | initial phase options plain fresh => exact .initial phase options plain fresh
  | awaiting phase options plain one => exact .awaiting phase options plain one
  | securing phase options greeted => exact .securing phase options greeted
  | authenticating phase options greeted plugin selected own =>
    exact .authenticating phase options greeted plugin selected own
  | authenticated phase greeted => exact .authenticated phase greeted
  | failed phase => exact .failed phase

theorem advances_advance (phased : Phased opts given seeds m) (act : GssapiCalls × Bytes) :
    Advances opts (given ++ [act]) (seeds ++ (m.seed? act.2).toList) (m.advance act.2) := by
  unfold advance
  cases phased with
  | initial phase options plain fresh =>
    rw [phase]
    exact .goesOn (.awaiting rfl options plain (by rw [fresh]; rfl)) nofun nofun
  | awaiting phase options plain one =>
    rw [phase]
    exact .greet phase options plain one
  | securing phase options greeted =>
    have none : m.seed? act.2 = none := by simp only [seed?, phase]
    rw [phase, none, Option.toList_none, List.append_nil]
    exact .respond options (greeted.concat act)
  | authenticating phase options greeted plugin selected own =>
    rw [phase]
    exact .authenticate phase options greeted selected own
  | authenticated phase _ | failed phase =>
    rw [phase]
    exact .inl rfl

/-- A step keeps at hand what the next phase needs, and never lacks it. -/
theorem advances_result (phased : Phased opts given seeds m) (act : GssapiCalls × Bytes) :
    Advances opts (given ++ [act]) (seeds ++ (m.seed? act.2).toList) (m.result act) := by
  have advances := advances_advance (phased.withCalls act.1) act
  unfold result step
  cases stepped : Machine.advance { m with gssapiCalls := act.1 } act.2 with
  | ok action m' =>
    rw [stepped] at advances
    exact advances
  | error e m' =>
    rw [stepped] at advances
    exact advances

/-- A step that fails ends the handshake. -/
theorem phase_of_error {e : Error} {m' : Machine} (failed : m.result act = .error e m') :
    m'.phase = .failed := by
  unfold result step at failed
  split at failed
  · cases failed
  · cases failed
    rfl

/-! ## Runs -/

theorem phased_behind (opts : Options) (processId : Nat) (credential : Auth.Credential)
    (hint : Option String) (calls : GssapiCalls) (given : List (GssapiCalls × Bytes)) :
    let m := start opts processId credential hint calls
    Phased opts given (m.seedsOf given) (m.behind given) := by
  intro m
  induction given using List.reverseRecOn with
  | nil => exact .initial rfl rfl rfl rfl
  | append_singleton given act phased =>
    have advances := advances_result phased act
    rw [seedsOf_concat, behind_concat, after]
    cases stepped : (m.behind given).result act with
    | ok action m' =>
      rw [stepped] at advances
      exact advances.1
    | error e m' => exact .failed (phase_of_error stepped)

theorem result_of_failed (failed : m.phase = .failed) (act : GssapiCalls × Bytes) :
    ∃ e m', m.result act = .error e m' := by
  unfold result step advance
  rw [show Machine.phase { m with gssapiCalls := act.1 } = .failed from failed]
  exact ⟨_, _, rfl⟩

theorem behind_of_failed (failed : m.phase = .failed) (later : List (GssapiCalls × Bytes)) :
    (m.behind later).phase = .failed := by
  induction later generalizing m with
  | nil => exact failed
  | cons act later ih =>
    obtain ⟨e, m', stepped⟩ := result_of_failed failed act
    refine ih ?_
    rw [after, stepped]
    exact phase_of_error stepped

theorem outcome_of_other (other : m.phase ≠ .authenticated) : ∃ fault, m.outcome = .error fault := by
  unfold outcome
  split
  · next accepted _ => exact absurd accepted other
  · exact ⟨_, rfl⟩

/-- The handshake is over, without an outcome. -/
def Over (m : Machine) : Prop :=
  (∀ act, ∃ e m', m.result act = .error e m') ∧ ∃ fault, m.outcome = .error fault

theorem over_of_error {e : Error} {m' : Machine} (failed : m.result act = .error e m')
    (later : List (GssapiCalls × Bytes)) : Over ((m.after act).behind later) := by
  have ended : (m.after act).phase = .failed := by
    rw [after, failed]
    exact phase_of_error failed
  have still : ((m.after act).behind later).phase = .failed := behind_of_failed ended later
  exact ⟨result_of_failed still, outcome_of_other (by rw [still]; nofun)⟩

/-! ## Outcomes -/

/-- What was agreed on: capabilities that both sides have, with the greeting as the second packet, and
the seed of the last exchange with a plugin. -/
def Agreed (opts : Options) (given : List (GssapiCalls × Bytes)) (seeds : List Bytes) (o : Outcome) :
    Prop :=
  ∃ calls packet greeting, given[1]? = some (calls, packet) ∧ Greeting.parse packet = .ok greeting ∧
    o.capabilities = (clientCapabilities opts o.tls).inter greeting.capabilities ∧
    (∀ flag, o.capabilities.has flag = true →
      (clientCapabilities opts o.tls).has flag = true ∧ greeting.capabilities.has flag = true) ∧
    seeds.getLast? = some o.seed

theorem Phased.agreed {o : Outcome} (phased : Phased opts given seeds m) (agreed : m.outcome = .ok o) :
    Agreed opts given seeds o := by
  cases phased with
  | authenticated phase greeted =>
    obtain ⟨calls, packet, greeting, seed, second, parsed, last, known, caps⟩ := greeted
    simp only [outcome, phase, known] at agreed
    cases agreed
    refine ⟨calls, packet, greeting, second, parsed, caps, fun flag has => ?_, last⟩
    exact Capabilities.has_of_inter (caps ▸ has)
  | initial phase | awaiting phase | securing phase | authenticating phase | failed phase =>
    obtain ⟨fault, failed⟩ := outcome_of_other (m := m) (by rw [phase]; nofun)
    cases failed.symm.trans agreed

theorem Phased.outcome_iff (phased : Phased opts given seeds m) :
    (∃ o, m.outcome = .ok o) ↔ m.phase = .authenticated := by
  constructor
  · rintro ⟨o, agreed⟩
    by_contra other
    obtain ⟨fault, failed⟩ := outcome_of_other other
    cases failed.symm.trans agreed
  · intro accepted
    cases phased with
    | authenticated phase greeted =>
      obtain ⟨_, _, greeting, seed, _, _, _, known, _⟩ := greeted
      simp only [outcome, phase, known]
      exact ⟨_, rfl⟩
    | initial phase | awaiting phase | securing phase | authenticating phase | failed phase =>
      cases phase.symm.trans accepted

/-- The server has accepted the client with the last step, or not at all. -/
theorem accepted_iff (opts : Options) (processId : Nat) (credential : Auth.Credential)
    (hint : Option String) (calls : GssapiCalls) (given : List (GssapiCalls × Bytes)) :
    let m := start opts processId credential hint calls
    (m.behind given).phase = .authenticated ↔ ∃ earlier last m', given = earlier ++ [last] ∧
      (m.behind earlier).result last = .ok .finished m' := by
  intro m
  constructor
  · intro accepted
    rcases List.eq_nil_or_concat given with rfl | ⟨earlier, last, rfl⟩
    · cases accepted
    rw [List.concat_eq_append] at accepted ⊢
    rw [behind_concat, after] at accepted
    have advances := advances_result (phased_behind opts processId credential hint calls earlier) last
    cases stepped : (m.behind earlier).result last with
    | ok action m' =>
      rw [stepped] at advances accepted
      obtain rfl : action = .finished := advances.2.mpr accepted
      exact ⟨earlier, last, m', rfl, stepped⟩
    | error e m' =>
      rw [stepped] at accepted
      cases (phase_of_error stepped).symm.trans accepted
  · rintro ⟨earlier, last, m', rfl, stepped⟩
    have advances := advances_result (phased_behind opts processId credential hint calls earlier) last
    rw [stepped] at advances
    rw [behind_concat, after, stepped]
    exact advances.2.mp rfl

/-- Whatever the server sends, a handshake does not lack the greeting or a plugin, and a step that
fails ends it. It has an outcome exactly where the last step has finished it, with capabilities of
both sides and the seed of the last exchange with a plugin. -/
theorem settled_of_steps (opts : Options) (processId : Nat) (credential : Auth.Credential)
    (hint : Option String) (calls : GssapiCalls) (given : List (GssapiCalls × Bytes)) :
    let m := start opts processId credential hint calls
    (∀ act e m', (m.behind given).result act = .error e m' →
      e.Excused opts.gssapi m'.gssapiCalls ∧ ∀ later, Over (m.behind (given ++ act :: later))) ∧
    ((∃ o, (m.behind given).outcome = .ok o) ↔
      ∃ earlier last m', given = earlier ++ [last] ∧
        (m.behind earlier).result last = .ok .finished m') ∧
    ∀ o, (m.behind given).outcome = .ok o → Agreed opts given (m.seedsOf given) o := by
  intro m
  have phased : Phased opts given (m.seedsOf given) (m.behind given) := phased_behind ..
  refine ⟨fun act e m' failed => ⟨?_, fun later => ?_⟩, ?_, fun o => phased.agreed⟩
  · have advances := advances_result phased act
    rw [failed] at advances
    exact advances
  · rw [behind_append]
    exact over_of_error failed later
  · rw [phased.outcome_iff]
    exact accepted_iff ..

/-- A server that greets, changes to another plugin, and accepts the client at once. -/
example :
    let given : List (GssapiCalls × Bytes) :=
      [[], [10, 0, 1, 0, 0, 0, 1, 2, 3, 4, 5, 6, 7, 8, 0, 0, 0],
        [Lead.eof] ++ Text.encode Auth.cachingName ++ [0, 8, 7, 6, 5, 4, 3, 2, 1, 0],
        [Lead.moreData, 3], [0, 0, 0, 2, 0, 0, 0]].map ([], ·)
    let m := start {} 1 ⟨"root", some "secret"⟩ none []
    (m.behind given).outcome.toOption.map (·.seed) = some [8, 7, 6, 5, 4, 3, 2, 1] ∧
      m.seedsOf given = [[1, 2, 3, 4, 5, 6, 7, 8], [8, 7, 6, 5, 4, 3, 2, 1]] := by
  decide +kernel

end Handshake.Machine

end SqlWire
