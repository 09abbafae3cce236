import SqlWire.Proofs.Properties.Calm

/-!
# The history of the properties of a session

`Standing env start sets c` says that calls have led from `start` to `c`, and that `sets` are the
properties that were set since the session began or was reset. Calls that fail count for nothing.

`Shows` is what `c` then says of its session: the kinds in `sets` are flagged, and each value is the
last one in `sets`, or the one that `start` has. This holds as long as no failover has failed
(`Standing.shows`). A failover that succeeds brings a new session to what was known before
(`known_failover`); all other runs `Stand`: they keep what is known, whatever their end.
-/

namespace SqlWire

open EStateM (Result)
open Net (Env World)
open Session (Known Property)

variable {α β : Type} {env : Env} {command : Command} {options : StatementOptions}
  {opts : Options} {sets : List Property} {f g : List Property → List Property}
  {c c' c'' start : Client}

/-- A failover has failed on this connection. -/
def Client.IsStranded (c : Client) : Prop := ∃ e, Event.stranded e ∈ c.journal

/-! ## Runs that keep what is known -/

/-- What was set since the session began or was reset changes in this way, unless a failover fails. -/
structure Stands (opts : Options) (f : List Property → List Property) (c c' : Client) : Prop where
  stranded : c.IsStranded → c'.IsStranded
  known : ∀ sets, c.ctx.known = .of opts sets → c'.IsStranded ∨ c'.ctx.known = .of opts (f sets)

namespace Stands

theorem trans (h : Stands opts f c c') (h' : Stands opts g c' c'') :
    Stands opts (g ∘ f) c c'' where
  stranded before := h'.stranded (h.stranded before)
  known sets known := (h.known sets known).elim (fun stranded => .inl (h'.stranded stranded))
    (h'.known (f sets))

instance : IsPreorder Client (Stands opts id) where
  refl _ := ⟨id, fun _ => .inr⟩
  trans _ _ _ := trans

/-- The channel and the world play no role. -/
theorem of_same (h : Stands opts f c c') (journal : c''.journal = c'.journal)
    (ctx : c''.ctx = c'.ctx) : Stands opts f c c'' where
  stranded before := by
    unfold Client.IsStranded
    rw [journal]
    exact h.stranded before
  known := by
    unfold Client.IsStranded
    rw [journal, ctx]
    exact h.known

theorem steady : Steady (Stands opts f c) where
  world _ h := h.of_same rfl rfl
  closeChannel h := h.of_same rfl rfl

end Stands

theorem Noted.isStranded {duty : Duty} {r : Result Error Client α} (h : Noted duty c r)
    (before : c.IsStranded) : r.state.IsStranded := by
  obtain ⟨news, accounted, _⟩ := h
  obtain ⟨e, mem⟩ := before
  exact ⟨e, accounted.journal ▸ List.mem_append_left news mem⟩

/-- A run on one session that does not set properties. -/
theorem Along.stands {duty : Duty} {run : EStateM Error Client α} (same : Along SameKnown run)
    (notes : Notes duty run) : Along (Stands opts id) run := fun c =>
  ⟨(notes c).isStranded, fun _ known => .inr ((same c).trans known)⟩

/-- What a run does to the properties that were set, if it succeeds. -/
def whenOk (given : Except Error α) (f : List Property → List Property) :
    List Property → List Property :=
  match given with
  | .ok _ => f
  | .error _ => id

/-- Behind a run that keeps what is known. -/
theorem Along.then {run : EStateM Error Client α} {next : α → EStateM Error Client β}
    {post : Except Error β → List Property → List Property} (h : Along (Stands opts id) run)
    (h' : ∀ a c, Yields (next a) c fun given c' => Stands opts (post given) c c')
    (error : ∀ e, post (.error e) = id) :
    Yields (run >>= next) c fun given c' => Stands opts (post given) c c' := by
  have first : Stands opts id c (run c).state := h c
  cases ran : run c with
  | ok a c₁ =>
    rw [ran] at first
    refine .of_eq (EStateM.bind_of_ok ran) ((h' a c₁).mono fun given c' after => ?_)
    exact first.trans after
  | error e c₁ =>
    rw [ran] at first
    refine .of_error (EStateM.bind_of_error ran) ?_
    rw [error]
    exact first

namespace Exchange

/-! ## New sessions -/

theorem known_connect {wantSetUp : Bool} {w w' : World} {channel : Channel}
    {ctx : Session.Context} {journal : Journal}
    (h : connect env wantSetUp w = .ok (channel, ctx, journal) w') :
    ctx.known = .of env.opts [] := by
  obtain ⟨⟨channel', outcome⟩, w₁, _, h⟩ := EStateM.ok_of_bind h
  obtain ⟨_, w₂, _, h⟩ := EStateM.ok_of_bind h
  cases wantSetUp with
  | false =>
    cases h
    rfl
  | true =>
    have ready : setUpSession env channel' (.new outcome env.opts) w₂ = _ := h
    unfold setUpSession at ready
    split at ready
    · next c set =>
      cases ready
      exact (overlooked_setUp (r := SameKnown)).result set
    · cases ready

theorem known_replayProperty {property : Property}
    (h : replayProperty env property c = .ok () c') : c'.ctx.known = c.ctx.known.record property := by
  unfold replayProperty at h
  cases sets : property.command? with
  | none =>
    simp only [sets] at h
    cases h
    exact Known.known_recordProperty c.ctx property
  | some command =>
    simp only [sets] at h
    obtain ⟨response, c₁, ran, h⟩ := EStateM.ok_of_bind h
    have same : c₁.ctx.known = c.ctx.known :=
      (overlooked_executeOnce (r := SameKnown)).result ran
    cases h
    rw [← same]
    exact Known.known_recordProperty c₁.ctx property

theorem known_replayProperties {properties : List Property}
    (h : properties.forM (replayProperty env) c = .ok () c') :
    c'.ctx.known = properties.foldl Known.record c.ctx.known := by
  induction properties generalizing c with
  | nil =>
    cases h
    rfl
  | cons property properties ih =>
    obtain ⟨_, c₁, first, rest⟩ := EStateM.ok_of_bind h
    rw [ih rest, known_replayProperty first]
    rfl

theorem known_reconnect (h : reconnect env c = .ok () c') :
    c'.ctx.known =
      { c.ctx.known with database := env.opts.database, isolation := env.opts.isolation } := by
  unfold reconnect at h
  split at h
  · cases h
  · next channel ctx journal world opened =>
    have fresh := known_connect opened
    cases h
    show Known.mk _ ctx.known.database _ ctx.known.isolation _ = _
    rw [fresh]
    rfl

theorem sameKnown_prepareAgain {statement : PreparedStatement} :
    Along SameKnown (prepareAgain env statement) := by
  refine .bind undisturbed_send.overlooked fun _ => .bind overlooked_readFor fun _ => ?_
  split
  · exact .modify fun _ => rfl
  · exact fun _ => rfl

/-- A failover that succeeds leaves what was known. -/
theorem known_failover (known : c.ctx.known = .of env.opts sets)
    (h : failover env command c = .ok () c') : c'.ctx.known = c.ctx.known := by
  obtain ⟨_, _, looked, h⟩ := EStateM.ok_of_bind h
  cases looked
  obtain ⟨_, c₁, left, h⟩ := EStateM.ok_of_bind h
  cases left
  obtain ⟨_, c₂, opened, h⟩ := EStateM.ok_of_bind h
  obtain ⟨_, c₃, restored, h⟩ := EStateM.ok_of_bind h
  obtain ⟨_, c₄, timed, restored⟩ := EStateM.ok_of_bind restored
  obtain ⟨_, c₅, set, restored⟩ := EStateM.ok_of_bind restored
  have forgotten : Along SameKnown (do
      modify (·.withContext fun ctx => { ctx with statements := ctx.statements.forgetUnreferenced })
      (env.arrange (← get).ctx.statements.referenced).forM (prepareAgain env)) :=
    .bind (.modify fun _ => rfl) fun _ => .get_bind fun _ => .forM fun _ => sameKnown_prepareAgain
  have replayed : c'.ctx.known = c₃.ctx.known :=
    (overlooked_replayLog (r := SameKnown)).result h
  have prepared : c₃.ctx.known = c₅.ctx.known := forgotten.result restored
  have waits : c₄.ctx.known = c₂.ctx.known :=
    (overlooked_setTimeout (r := SameKnown)).result timed
  rw [replayed, prepared, known_replayProperties set, waits, known_reconnect opened]
  exact Known.restored known

theorem stands_failover : Along (Stands env.opts id) (noteStranded (failover env command)) := by
  intro c
  have noted : Noted (.call true fun _ => true) c (noteStranded (failover env command) c) :=
    noted_noteStranded (noted_failover c)
  refine ⟨noted.isStranded, fun sets known => ?_⟩
  unfold noteStranded
  split
  · next recovered => exact .inr ((known_failover known recovered).trans known)
  · next e _ _ => exact .inl ⟨e, List.mem_append_right _ (.head _)⟩

/-! ## Calls -/

theorem stands_executeOnce : Along (Stands opts id) (executeOnce env command options) :=
  .stands overlooked_executeOnce notes_executeOnce

theorem stands_execute : Along (Stands env.opts id) (execute env command options) := by
  refine .bind (.stands overlooked_settle notes_settle) fun _ => ?_
  refine .bind (.attempt stands_executeOnce) fun result => ?_
  split
  · exact .pure _
  · unfold recover
    refine .get_bind fun c => ?_
    split
    · exact .bind stands_failover fun _ => stands_executeOnce
    · exact .throw _

theorem stands_prepare {sql : String} : Along (Stands env.opts id) (prepare env sql) := by
  refine .get_bind fun c => ?_
  dsimp only
  split
  · exact .bind (fun _ => ⟨id, fun _ => .inr⟩) fun _ => .pure _
  · refine .bind stands_execute fun _ => ?_
    split
    · exact .pure _
    · exact .stands (fun _ => rfl) (notes_fail _)

theorem stands_executeBatch {sql : String} {paramSets : List (List Value)} :
    Along (Stands env.opts id) (executeBatch env sql paramSets) := by
  unfold executeBatch
  split
  · refine .bind stands_prepare fun _ => ?_
    refine .bind (.attempt (.stands overlooked_runBatch notes_runBatch)) fun _ => ?_
    refine .bind (.attempt (.stands overlooked_closeStatement notes_closeStatement)) fun _ => ?_
    split
    · exact .throw _
    · exact .throw _
    · exact .pure _
  · exact .bind (.stands overlooked_runBatch notes_runBatch) fun _ => .pure _

theorem stands_applyProperty {property : Property} :
    Along (Stands env.opts id) (applyProperty env property) := by
  cases property with
  | networkTimeout timeout => exact .stands overlooked_setTimeout notes_setTimeout
  | readOnly on => exact .pure _
  | autocommit _ | database _ | isolation _ => exact .bind stands_execute fun _ => .pure _

/-! ## Setting properties and resets -/

theorem stands_setProperty {property : Property} :
    Yields (setProperty env property) c fun given c' =>
      Stands env.opts (whenOk given (· ++ [property])) c c' := by
  refine stands_applyProperty.then (fun _ c' => ?_) fun _ => rfl
  refine ⟨id, fun sets known => .inr ?_⟩
  show (c'.ctx.recordProperty property).known = .of env.opts (sets ++ [property])
  rw [Known.known_recordProperty, known]
  exact Known.of_concat.symm

theorem stands_reset : Yields (reset env) c fun given c' =>
    Stands env.opts (whenOk given fun _ => []) c c' := by
  have rest (onServer : Bool) (c : Client) : Yields (do
      (Session.resetPlan (← get).ctx.changed env.opts onServer).forM (applyProperty env)
      modify fun c => (c.withContext (·.afterReset env.opts)).note .reset) c fun given c' =>
        Stands env.opts (whenOk given fun _ => []) c c' := by
    refine .get_bind (Along.then (.forM fun _ => stands_applyProperty) (fun _ c' => ?_) fun _ => rfl)
    exact ⟨fun ⟨e, mem⟩ => ⟨e, List.mem_append_left _ mem⟩, fun _ _ => .inr rfl⟩
  refine Along.then (.stands overlooked_settle notes_settle) (fun _ c => ?_) fun _ => rfl
  refine Along.then (.stands overlooked_usesServerReset notes_usesServerReset) (fun onServer c => ?_)
    fun _ => rfl
  dsimp only
  split
  · refine Along.then stands_executeOnce (fun _ c => ?_) fun _ => rfl
    have cleared : Along (Stands env.opts id) (modify (·.withContext fun ctx =>
        { ctx with statements := ctx.statements.clear.2 }) : EStateM Error Client PUnit) :=
      fun _ => ⟨id, fun _ => .inr⟩
    exact cleared.then (fun _ c => rest onServer c) fun _ => rfl
  · refine .get_bind ?_
    split
    · exact stands_executeOnce.then (fun _ c => rest onServer c) fun _ => rfl
    · exact rest onServer c

end Exchange

/-! ## Calls -/

theorem Client.stands_setProperty {property : Property} :
    Yields (Client.setProperty env property) c fun given c' =>
      Stands env.opts (whenOk given (· ++ [property])) c c' :=
  yields_guarded (fun _ => Stands.steady) id (fun _ _ => refl_of (Stands env.opts id) c)
    Exchange.stands_setProperty

theorem Client.stands_reset : Yields (Client.reset env) c fun given c' =>
    Stands env.opts (whenOk given fun _ => []) c c' :=
  yields_guarded (fun _ => Stands.steady) id (fun _ _ => refl_of (Stands env.opts id) c)
    Exchange.stands_reset

namespace Call

variable {call : Call}

/-- The call is about the properties themselves. -/
def setsProperties : Call → Bool
  | setProperty _ | reset => true
  | _ => false

theorem stands_body (other : call.setsProperties = false) :
    Along (Stands env.opts id) (call.body env) := by
  open Exchange in
  cases call with
  | execute command options => exact .bind stands_execute fun _ => .pure _
  | executeAll commands options =>
    exact .bind (.stands overlooked_runBatch notes_runBatch) fun _ => .pure _
  | executeBatch sql paramSets => exact .bind stands_executeBatch fun _ => .pure _
  | sendOne command => exact .bind (.stands overlooked_sendOne notes_sendOne) fun _ => .pure _
  | readResponse options =>
    exact .bind (.stands overlooked_readResponse notes_readResponse) fun _ => .pure _
  | readStreaming =>
    exact .bind (.stands overlooked_readStreaming notes_readStreaming) fun _ => .pure _
  | abandonStreaming => exact .stands overlooked_settleStreaming notes_settleStreaming
  | prepare sql => exact .bind stands_prepare fun _ => .pure _
  | closeStatement statement => exact .stands overlooked_closeStatement notes_closeStatement
  | ping => exact .bind stands_execute fun _ => .pure _
  | setProperty _ | reset => cases other

theorem stands_perform (other : call.setsProperties = false) :
    Along (Stands env.opts id) (call.perform env) := by
  intro c
  cases closed : c.isClosed with
  | true =>
    obtain ⟨world, same⟩ := call.perform_of_isClosed env closed
    rw [same]
    exact (refl_of (Stands env.opts id) c).of_same rfl rfl
  | false =>
    have guarded := call.guarded_perform env closed
    have attempted : Stands env.opts id c (call.attempt env c).state := by
      unfold attempt
      split
      · exact refl_of (Stands env.opts id) c
      have armed : Stands env.opts id c (Client.armed call.timeout c) :=
        (refl_of (Stands env.opts id) c).of_same (Client.journal_armed ..) (Client.ctx_armed ..)
      exact armed.trans (stands_body other _)
    exact attempted.of_same guarded.journal guarded.ctx

end Call

/-! ## Histories -/

/-- Calls lead from `start` to a client, and these are the properties that were set since the session
began or was reset. -/
inductive Standing (env : Env) (start : Client) : List Property → Client → Prop where
  | start : Standing env start [] start
  | set {sets : List Property} {c c' : Client} {property : Property} : Standing env start sets c →
      Client.setProperty env property c = .ok () c' → Standing env start (sets ++ [property]) c'
  | notSet {sets : List Property} {c c' : Client} {property : Property} {e : Error} :
      Standing env start sets c → Client.setProperty env property c = .error e c' →
      Standing env start sets c'
  | reset {sets : List Property} {c c' : Client} : Standing env start sets c →
      Client.reset env c = .ok () c' → Standing env start [] c'
  | notReset {sets : List Property} {c c' : Client} {e : Error} : Standing env start sets c →
      Client.reset env c = .error e c' → Standing env start sets c'
  | other {sets : List Property} {c : Client} (call : Call) : call.setsProperties = false →
      Standing env start sets c → Standing env start sets (call.perform env c).state

/-- What a client says of the properties of its session, when these were set. -/
structure Shows (first : Session.Context) (sets : List Property) (ctx : Session.Context) : Prop where
  flags : ∀ property : Property, ctx.changed.has property.flag = true ↔
    ∃ set ∈ sets, set.flag = property.flag
  database : ctx.database = (sets.filterMap Property.database?).getLast?.getD first.database
  readOnly : ctx.readOnly = (sets.filterMap Property.readOnly?).getLast?.getD first.readOnly
  isolation : ctx.isolation = (sets.filterMap Property.isolation?).getLast?.getD first.isolation
  networkTimeout : ctx.networkTimeout =
    (sets.filterMap Property.networkTimeout?).getLast?.getD first.networkTimeout

theorem Shows.of_known {first ctx : Session.Context} (begun : first.known = .of opts [])
    (known : ctx.known = .of opts sets) : Shows first sets ctx where
  flags property := by
    have has := Known.has_of opts sets property
    rw [← known] at has
    rw [show ctx.changed.has property.flag = _ from has]
    simp
  database := by
    rw [show first.database = _ from congrArg Known.database begun]
    exact (congrArg Known.database known).trans (Known.eq_latest fun _ _ => rfl)
  readOnly := by
    rw [show first.readOnly = _ from congrArg Known.readOnly begun]
    exact (congrArg Known.readOnly known).trans (Known.eq_latest fun _ _ => rfl)
  isolation := by
    rw [show first.isolation = _ from congrArg Known.isolation begun]
    exact (congrArg Known.isolation known).trans (Known.eq_latest fun _ _ => rfl)
  networkTimeout := by
    rw [show first.networkTimeout = _ from congrArg Known.networkTimeout begun]
    exact (congrArg Known.networkTimeout known).trans (Known.eq_latest fun _ _ => rfl)

theorem Client.known_new {w w' : World} (opened : Client.new env w = .ok start w') :
    start.ctx.known = .of env.opts [] := by
  unfold Client.new at opened
  split at opened
  · cases opened
  · next connected =>
    cases opened
    exact Exchange.known_connect connected

namespace Standing

theorem known {w w' : World} (opened : Client.new env w = .ok start w')
    (h : Standing env start sets c) : c.IsStranded ∨ c.ctx.known = .of env.opts sets := by
  have after {sets : List Property} {f : List Property → List Property} {c c' : Client}
      (before : c.IsStranded ∨ c.ctx.known = .of env.opts sets) (stands : Stands env.opts f c c') :
      c'.IsStranded ∨ c'.ctx.known = .of env.opts (f sets) :=
    before.elim (fun stranded => .inl (stands.stranded stranded)) (stands.known sets)
  induction h with
  | start => exact .inr (Client.known_new opened)
  | @set sets _ _ property _ ran ih =>
    exact after (f := (· ++ [property])) ih (Client.stands_setProperty.result ran)
  | notSet _ ran ih => exact after (f := id) ih (Client.stands_setProperty.failure ran)
  | reset _ ran ih => exact after (f := fun _ => []) ih (Client.stands_reset.result ran)
  | notReset _ ran ih => exact after (f := id) ih (Client.stands_reset.failure ran)
  | other call other _ ih => exact after ih (call.stands_perform other _)

/-- Unless a failover has failed, a client says of its session what was set since the session began or
was reset, and a property that cannot be set leaves all of that. -/
theorem shown {w w' : World} (opened : Client.new env w = .ok start w')
    (h : Standing env start sets c) (whole : ¬c.IsStranded) :
    Shows start.ctx sets c.ctx ∧
      ∀ property e c', Client.setProperty env property c = .error e c' → ¬c'.IsStranded →
        c'.ctx.known = c.ctx.known := by
  have known := (h.known opened).resolve_left whole
  refine ⟨.of_known (Client.known_new opened) known, fun property e c' failed whole' => ?_⟩
  rw [known]
  exact ((h.notSet failed).known opened).resolve_left whole'

/-- Servers of which the first ends its stream behind two commands. -/
def endingBehindTwo : World := answeringInTurn [[true, true], [true, true, true, true]]

/-- A client that has begun a transaction. -/
def begun : Client :=
  ((Call.execute (.query "BEGIN") {}).perform replaying (.opened replaying endingBehindTwo)).state

/-- The client when it has set the database, has lost its session and goes on in another one. -/
def movedOn : Client :=
  ((Call.execute (.query "UPDATE") {}).perform replaying
    (Client.setProperty replaying (.database "b") begun).state).state

/-- What a client is asked in vain. -/
def refusedTimeout : Result Error Client Unit :=
  Client.setProperty replaying (.networkTimeout (some 0)) movedOn

def notesStranding (c : Client) : Bool := c.journal.any fun event => event matches .stranded _

theorem not_isStranded (h : notesStranding c = false) : ¬c.IsStranded := fun ⟨e, mem⟩ => by
  have other := List.any_eq_false.mp h _ mem
  cases other rfl

/-- The session to which the command is sent again has the database, and a timeout that is not set
changes nothing. -/
theorem shown_movedOn : ∃ start w' e c', Client.new replaying endingBehindTwo = .ok start w' ∧
    movedOn.journal.sent.count (.query "UPDATE") = 2 ∧ ¬movedOn.IsStranded ∧
    Shows start.ctx [.database "b"] movedOn.ctx ∧
    refusedTimeout = .error e c' ∧ ¬c'.IsStranded ∧ c'.ctx.known = movedOn.ctx.known := by
  have checked : ((Client.new replaying endingBehindTwo).error?.isNone &&
      ((Client.setProperty replaying (.database "b") begun).error?.isNone &&
      (movedOn.journal.sent.count (.query "UPDATE") == 2 && (!notesStranding movedOn &&
      (refusedTimeout.error?.any Error.isBroken && !notesStranding refusedTimeout.state))))) =
        true := by decide +kernel
  simp only [Bool.and_eq_true, Bool.not_eq_true', beq_iff_eq] at checked
  obtain ⟨opens, sets, sentAgain, whole, refused, whole'⟩ := checked
  obtain ⟨start, opened⟩ := EStateM.Result.exists_ok opens
  obtain ⟨_, set⟩ := EStateM.Result.exists_ok sets
  obtain ⟨e, failed, _⟩ := EStateM.Result.exists_error refused
  have begun : Standing replaying start [] begun :=
    Client.opened_of_new opened ▸ .other (.execute (.query "BEGIN") {}) rfl .start
  have moved : Standing replaying start [.database "b"] movedOn :=
    .other (.execute (.query "UPDATE") {}) rfl (.set begun set)
  obtain ⟨shows, kept⟩ := shown opened moved (not_isStranded whole)
  exact ⟨start, _, e, _, opened, sentAgain, not_isStranded whole, shows, failed,
    not_isStranded whole', kept _ _ _ failed (not_isStranded whole')⟩

end Standing

end SqlWire
