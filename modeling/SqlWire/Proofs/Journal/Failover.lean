import SqlWire.Proofs.Journal.Batch

/-!
# What failovers note

A call that may lose its session notes the loss, what is done on the new session, and whether that
strands. `Conducts hides run` is the rule for such calls: it depends on the client only through
whether there is a redo log, and without one nothing is ever lost.
-/

namespace SqlWire

open EStateM (Result)
open Net (Env World)

variable {α β : Type} {env : Env} {command : Command} {options : StatementOptions}
  {hides : Error → Bool} {c c₁ : Client}

/-- The duty of a call, from every state. -/
def Conducts (hides : Error → Bool) (run : EStateM Error Client α) : Prop :=
  ∀ c, Noted (.call c.ctx.redo.isSome hides) c (run c)

namespace Conducts

variable {run : EStateM Error Client α}

theorem of_exchange (h : Notes .exchange run) : Conducts hides run :=
  fun c => (h c).mono Duty.exchange_call

theorem of_batch (h : Notes .batch run) : Conducts Error.isBatch run :=
  fun c => (h c).mono Duty.batch_call

theorem pure (a : α) : Conducts hides (Pure.pure a : EStateM Error Client α) :=
  of_exchange (.pure a)

theorem get_bind {next : Client → EStateM Error Client β} (h : ∀ c, Conducts hides (next c)) :
    Conducts hides (MonadState.get >>= next) := fun c => h c c

theorem andThen {a : β} {r : Result Error Client α}
    (h : Noted (.call c.ctx.redo.isSome hides) c (.ok a c₁ : Result Error Client β))
    (h' : Noted (.call c₁.ctx.redo.isSome hides) c₁ r) :
    Noted (.call c.ctx.redo.isSome hides) c r := by
  have same : c₁.ctx.redo.isSome = c.ctx.redo.isSome := h.isSome_redo
  exact h.andThen (same ▸ h')

theorem bind {next : α → EStateM Error Client β} (h : Conducts hides run)
    (h' : ∀ a, Conducts hides (next a)) : Conducts hides (run >>= next) := by
  intro c
  have first := h c
  cases eq : run c with
  | ok a c₁ =>
    rw [EStateM.bind_of_ok eq]
    exact andThen (eq ▸ first) (h' a c₁)
  | error e c₁ =>
    rw [EStateM.bind_of_error eq]
    exact (eq ▸ first).recast

theorem forM {list : List β} {f : β → EStateM Error Client Unit} (h : ∀ b, Conducts hides (f b)) :
    Conducts hides (list.forM f) := by
  induction list with
  | nil => exact .pure ()
  | cons b list ih => exact .bind (h b) fun _ => ih

end Conducts

namespace Exchange

/-! ## Opening a session -/

theorem notes_setUp : Notes .batch (setUp env) := by
  refine .bind notes_runBatch fun _ => ?_
  dsimp only
  split
  · exact ((notes_fail _).mono Duty.reading_exchange).mono Duty.exchange_batch
  · exact .modify (fun _ => rfl) fun _ => rfl

/-- The journal of a fresh session begins with its handshake, and accounts for its redo log. -/
def Fresh (env : Env) (ctx : Session.Context) (journal : Journal) : Prop :=
  ∃ news, journal = .opened :: news ∧ (∀ event ∈ news, Duty.batch.allows event none) ∧
    ctx.redo =
      if env.opts.transactionReplay then some (journal.foldl Session.RedoLog.after []) else none

theorem redo_new (env : Env) (outcome : Handshake.Outcome) (news : Journal) :
    (Session.Context.new outcome env.opts).redo.map (news.foldl Session.RedoLog.after) =
      if env.opts.transactionReplay then some (news.foldl Session.RedoLog.after []) else none := by
  dsimp only [Session.Context.new]
  split <;> rfl

theorem setUpSession_ok {outcome : Handshake.Outcome} {channel channel' : Channel}
    {ctx : Session.Context} {journal : Journal} {w w' : World}
    (h : setUpSession env channel (.new outcome env.opts) w = .ok (channel', ctx, journal) w') :
    Fresh env ctx journal := by
  unfold setUpSession at h
  split at h
  · next c ready =>
    obtain ⟨news, accounted, allowed⟩ := notes_setUp.result ready
    injection h with eq _
    injection eq with _ eq
    injection eq with eq_ctx eq_journal
    subst eq_ctx eq_journal
    refine ⟨news, accounted.journal, allowed, ?_⟩
    rw [show c.ctx.redo = _ from accounted.redo, show c.journal = _ from accounted.journal]
    exact redo_new env outcome news
  · cases h

theorem connect_ok {wantSetUp : Bool} {w w' : World} {channel : Channel} {ctx : Session.Context}
    {journal : Journal} (h : connect env wantSetUp w = .ok (channel, ctx, journal) w') :
    Fresh env ctx journal := by
  obtain ⟨⟨channel', outcome⟩, w₁, _, h⟩ := EStateM.ok_of_bind h
  obtain ⟨_, w₂, _, h⟩ := EStateM.ok_of_bind h
  cases wantSetUp with
  | true => exact setUpSession_ok h
  | false =>
    injection h with eq _
    injection eq with _ eq
    injection eq with eq_ctx eq_journal
    subst eq_ctx eq_journal
    exact ⟨[], rfl, nofun, rfl⟩

/-! ## Failing over -/

/-- What the new session has noted is allowed on the client that takes it over. -/
theorem noted_reconnect {redo : Bool} (emptied : c.ctx.redo = c.ctx.redo.map fun _ => []) :
    Noted (.call redo hides) c (reconnect env c) := by
  unfold reconnect
  split
  · exact .still rfl rfl
  · next channel ctx journal world opened =>
    obtain ⟨news, rfl, allowed, _⟩ := connect_ok opened
    refine ⟨Event.opened :: news ++ [Event.adopted], ⟨List.append_assoc .., ?_⟩, fun event mem => ?_⟩
    · refine emptied.trans (congrArg (Option.map · c.ctx.redo) (funext fun log => ?_))
      rw [List.foldl_append]
      rfl
    · rcases List.mem_append.mp mem with fresh | adopted
      · rcases List.mem_cons.mp fresh with rfl | set
        · trivial
        · exact Duty.call_of_shown_ok (allowed event set)
      · rw [List.mem_singleton.mp adopted]
        trivial

theorem redo_recordProperty (ctx : Session.Context) (property : Session.Property) :
    (ctx.recordProperty property).redo = ctx.redo := by
  cases property <;> rfl

theorem notes_replayProperty {property : Session.Property} :
    Notes .exchange (replayProperty env property) := by
  unfold replayProperty
  split
  · exact .bind notes_executeOnce fun _ =>
      .modify (fun _ => rfl) fun c => redo_recordProperty c.ctx property
  · exact .modify (fun _ => rfl) fun c => redo_recordProperty c.ctx property

theorem notes_prepareAgain {statement : PreparedStatement} :
    Notes .exchange (prepareAgain env statement) := by
  refine .bind notes_send fun _ => .bind (notes_readFor.mono Duty.answering_exchange) fun _ => ?_
  split
  · exact .modify (fun _ => rfl) fun _ => rfl
  · exact (notes_fail _).mono Duty.reading_exchange

theorem notes_replayCommand : Notes .exchange (replayCommand env command) := by
  refine .bind notes_send fun _ => .attempt_bind (notes_readFor.mono Duty.answering_exchange)
    (fun result => ?_) fun _ _ _ => rfl
  split
  · exact .pure _
  · exact .throw _

theorem notes_restoreSession {lost : Session.Context} :
    Notes .exchange (restoreSession env lost) := by
  refine .bind notes_setTimeout fun _ => .bind (.forM fun _ => notes_replayProperty) fun _ => ?_
  exact .bind (.modify (fun _ => rfl) fun _ => rfl) fun _ => .bind .get fun _ =>
    .forM fun _ => notes_prepareAgain

theorem notes_replayLog {redo : Bool} {log : Session.RedoLog} :
    Notes (.call redo hides) (replayLog env log command) :=
  .bind (fun _ => .one .replaying rfl Option.map_id'.symm trivial) fun _ =>
    .forM fun _ => notes_replayCommand.mono Duty.exchange_call

/-- What follows when the session is given up. -/
theorem noted_takenOver (c : Client) :
    Noted (.call true hides) (abandonSession c) (failover env command c) := by
  refine Noted.bind (noted_reconnect ?_) fun _ => ?_
  · show c.ctx.redo.map _ = (c.ctx.redo.map _).map _
    rw [Option.map_map]
    rfl
  · exact .bind (notes_restoreSession.mono Duty.exchange_call) fun _ => notes_replayLog

theorem noted_failover (c : Client) : Noted (.call true hides) c (failover env command c) := by
  have lost : Noted (.call true hides) c (.ok () (abandonSession c) : Result Error Client Unit) :=
    .one .lost rfl rfl rfl
  exact lost.andThen (noted_takenOver c)

/-- A failover that fails says so. -/
theorem noted_noteStranded {run : EStateM Error Client Unit} {redo : Bool}
    (h : Noted (.call redo hides) c (run c)) :
    Noted (.call redo hides) c (noteStranded run c) := by
  unfold noteStranded
  cases eq : run c with
  | ok a c₁ =>
    rw [eq] at h
    exact h
  | error e c₁ =>
    rw [eq] at h
    obtain ⟨news, accounted, allowed⟩ := h
    refine ⟨news ++ [.stranded e], accounted.trans ⟨rfl, Option.map_id'.symm⟩, fun event mem => ?_⟩
    rcases List.mem_append.mp mem with during | last
    · exact allowed event during
    · exact List.mem_singleton.mp last ▸ rfl

/-! ## Calls that may fail over -/

theorem isSome_of_canReplay {e : Error} (h : canReplay c command e = true) :
    c.ctx.redo.isSome = true := by
  cases e with
  | io fault =>
    simp only [canReplay, Bool.and_eq_true] at h
    exact h.1.1
  | _ => cases h

/-- Behind a command that failed: on a client with a redo log its failure may be taken up. -/
theorem noted_recover {e : Error}
    (h : Noted .exchange c (.error e c₁ : Result Error Client Response)) :
    Noted (.call c.ctx.redo.isSome hides) c (recover env command options e c₁) := by
  show Noted _ c ((if canReplay c₁ command e then _ else _ : EStateM Error Client Response) c₁)
  split
  · next replay =>
    have redo : c.ctx.redo.isSome = true := h.isSome_redo.symm.trans (isSome_of_canReplay replay)
    obtain ⟨news, accounted, allowed⟩ := h
    have before : Noted (.call true hides) c (.ok () c₁ : Result Error Client Unit) :=
      ⟨news, accounted, fun event mem => Duty.call_of_shown (allowed event mem)⟩
    rw [redo]
    exact before.andThen (.bind (noted_noteStranded (noted_failover c₁)) fun _ =>
      notes_executeOnce.mono Duty.exchange_call)
  · exact h.mono Duty.exchange_call

theorem conducts_execute : Conducts hides (execute env command options) := by
  refine .bind (.of_exchange notes_settle) fun _ c => ?_
  have item : Noted .exchange c (executeOnce env command options c) := notes_executeOnce c
  cases eq : executeOnce env command options c with
  | ok response c₁ =>
    rw [EStateM.bind_of_ok (EStateM.attempt_of_ok eq)]
    rw [eq] at item
    exact item.mono Duty.exchange_call
  | error e c₁ =>
    rw [EStateM.bind_of_ok (EStateM.attempt_of_error eq)]
    rw [eq] at item
    exact noted_recover item

theorem conducts_prepare {sql : String} : Conducts hides (prepare env sql) := by
  refine .get_bind fun c => ?_
  dsimp only
  split
  · exact .bind (.of_exchange (.modify (fun _ => rfl) fun _ => rfl)) fun _ => .pure _
  · refine .bind conducts_execute fun _ => ?_
    split
    · exact .pure _
    · exact .of_exchange ((notes_fail _).mono Duty.reading_exchange)

theorem conducts_applyProperty {property : Session.Property} :
    Conducts hides (applyProperty env property) := by
  cases property with
  | networkTimeout timeout => exact .of_exchange notes_setTimeout
  | readOnly on => exact .pure _
  | autocommit _ | database _ | isolation _ => exact .bind conducts_execute fun _ => .pure _

theorem conducts_setProperty {property : Session.Property} :
    Conducts hides (setProperty env property) :=
  .bind conducts_applyProperty fun _ =>
    .of_exchange (.modify (fun _ => rfl) fun c => redo_recordProperty c.ctx property)

theorem conducts_reset : Conducts hides (reset env) := by
  refine .bind (.of_exchange notes_settle) fun _ => ?_
  refine .bind (.of_exchange notes_usesServerReset) fun onServer => ?_
  have rest : Conducts hides (do
      (Session.resetPlan (← get).ctx.changed env.opts onServer).forM (applyProperty env)
      modify fun c => (c.withContext (·.afterReset env.opts)).note .reset) := by
    refine .get_bind fun c => .bind (.forM fun _ => conducts_applyProperty) fun _ c => ?_
    exact .one .reset rfl rfl trivial
  dsimp only
  split
  · exact .bind (.of_exchange notes_executeOnce) fun _ =>
      .bind (.of_exchange (.modify (fun _ => rfl) fun _ => rfl)) fun _ => rest
  · refine .get_bind fun c => ?_
    split
    · exact .bind (.of_exchange notes_executeOnce) fun _ => rest
    · exact rest

/-- A batch with a statement of its own reports something when a failure broke the connection, but
what that is says little: the failure to close the statement is hidden behind any other. -/
theorem conducts_executeBatch {sql : String} {paramSets : List (List Value)} :
    Conducts (fun _ => true) (executeBatch env sql paramSets) := by
  unfold executeBatch
  split
  · refine .bind conducts_prepare fun statement c => ?_
    have batch : Noted .batch c (runBatch env (paramSets.map statement.execute) {} c) :=
      notes_runBatch c
    cases eq : runBatch env (paramSets.map statement.execute) {} c with
    | ok result c₁ =>
      rw [EStateM.bind_of_ok (EStateM.attempt_of_ok eq)]
      rw [eq] at batch
      have released : Noted .exchange c₁ (closeStatement env statement c₁) := notes_closeStatement c₁
      refine (batch.mono (Duty.shown_call fun _ _ => Bool.or_true _)).andThen ?_
      cases eq' : closeStatement env statement c₁ with
      | ok _ c₂ =>
        rw [EStateM.bind_of_ok (EStateM.attempt_of_ok eq')]
        rw [eq'] at released
        exact released.mono Duty.exchange_call
      | error e c₂ =>
        rw [EStateM.bind_of_ok (EStateM.attempt_of_error eq')]
        rw [eq'] at released
        exact released.recast.mono Duty.exchange_call
    | error e c₁ =>
      rw [EStateM.bind_of_ok (EStateM.attempt_of_error eq)]
      rw [eq] at batch
      obtain ⟨news, accounted, allowed⟩ := batch
      obtain ⟨news', accounted', allowed'⟩ : Noted .exchange c₁ (closeStatement env statement c₁) :=
        notes_closeStatement c₁
      have all : ∀ event ∈ news ++ news',
          (Duty.call c.ctx.redo.isSome fun _ => true).allows event (some e) := fun event mem =>
        (List.mem_append.mp mem).elim (fun first => Duty.call_of_shown_hidden (allowed event first))
          fun second => Duty.call_of_shown_hidden (allowed' event second)
      cases eq' : closeStatement env statement c₁ with
      | ok _ c₂ =>
        rw [EStateM.bind_of_ok (EStateM.attempt_of_ok eq')]
        rw [eq'] at accounted'
        exact ⟨_, accounted.trans accounted', all⟩
      | error e' c₂ =>
        rw [EStateM.bind_of_ok (EStateM.attempt_of_error eq')]
        rw [eq'] at accounted'
        exact ⟨_, accounted.trans accounted', all⟩
  · exact .bind (fun c => (Conducts.of_batch notes_runBatch c).mono
      (Duty.call_within fun _ _ => rfl)) fun _ => .pure _

end Exchange

end SqlWire
