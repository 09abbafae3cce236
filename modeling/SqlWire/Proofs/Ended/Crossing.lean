import SqlWire.Proofs.Call
import SqlWire.Proofs.Ended.Opening

/-!
# Calls and the lines they use

A call keeps to the line of its client unless the session is lost on the way, and in any case it
leaves a tied line behind (`Crossed`). `crosses_perform` says so of every call; the rules at the
beginning take it apart as the code is.
-/

namespace SqlWire

open EStateM (Result)
open Net (Env World)

variable {α : Type} {env : Env} {command : Command} {options : StatementOptions} {c c' c'' : Client}
  {news news' : Journal}

/-- By the events `news` the client came to `c'`. No connection was forgotten, and a tied line is
tied still, if it is not another one. -/
structure Carried (c : Client) (news : Journal) (c' : Client) : Prop where
  journal : c'.journal = c.journal ++ news
  size_le : c.world.links.size ≤ c'.world.links.size
  tied : c.line.Tied → c'.line.Tied

theorem Carried.trans (h : Carried c news c') (h' : Carried c' news' c'') :
    Carried c (news ++ news') c'' where
  journal := by rw [h'.journal, h.journal, List.append_assoc]
  size_le := Nat.le_trans h.size_le h'.size_le
  tied := h'.tied ∘ h.tied

theorem Carried.of_course (discreet : Discreet env) (course : Line.Course env c.line c'.line)
    (journal : c'.journal = c.journal ++ news) : Carried c news c' where
  journal := journal
  size_le := (course.spec discreet).2.1
  tied := course.tied discreet

/-- The line of the client was kept, or its session was lost. -/
def Crossed (env : Env) (c : Client) (c' : Client) : Prop :=
  ∃ news, Carried c news c' ∧ (.lost ∈ news ∨ Line.Course env c.line c'.line)

namespace Crossed

theorem of_course (discreet : Discreet env) (course : Line.Course env c.line c'.line)
    (journal : c'.journal = c.journal ++ news) : Crossed env c c' :=
  ⟨news, .of_course discreet course journal, .inr course⟩

theorem trans (h : Crossed env c c') (h' : Crossed env c' c'') : Crossed env c c'' := by
  obtain ⟨news, carried, kept⟩ := h
  obtain ⟨news', carried', kept'⟩ := h'
  refine ⟨news ++ news', carried.trans carried', ?_⟩
  rcases kept with lost | course
  · exact .inl (List.mem_append_left _ lost)
  · rcases kept' with lost | course'
    · exact .inl (List.mem_append_right _ lost)
    · exact .inr (course.trans course')

end Crossed

instance : IsPreorder Client (Crossed env) where
  refl _ := ⟨[], ⟨(List.append_nil _).symm, Nat.le_refl _, id⟩, .inr .refl⟩
  trans _ _ _ := .trans

/-- From every state, the run keeps to its line or loses its session. -/
abbrev Crosses (env : Env) (run : EStateM Error Client α) : Prop := Along (Crossed env) run

namespace Crosses

variable {run : EStateM Error Client α}

theorem of_stays {duty : Duty} (discreet : Discreet env) (stays : Stays env run)
    (notes : Notes duty run) : Crosses env run := by
  intro c
  obtain ⟨news, accounted, _⟩ := notes c
  exact .of_course discreet (stays c) accounted.journal

/-- A change of the client behind its line, which may be noted. -/
theorem noted {f : Client → Client} (discreet : Discreet env) (news : Journal)
    (line : ∀ c, (f c).line = c.line) (journal : ∀ c, (f c).journal = c.journal ++ news) :
    Crosses env (modify f : EStateM Error Client PUnit) := fun c =>
  .of_course discreet (stays_modify line c) (journal c)

end Crosses

namespace Exchange

/-! ## Failing over -/

/-- A client without a link takes over the line of a new session, or stays without. -/
theorem carried_reconnect (discreet : Discreet env) (free : c.line.linkId = none)
    {r : Result Error Client Unit} (eq : reconnect env c = r) : ∃ news, Carried c news r.state := by
  subst eq
  unfold reconnect
  split
  · next failed =>
    refine ⟨[], (List.append_nil _).symm, (grows_connect discreet).result failed, fun _ => ?_⟩
    exact Line.tied_of_linkId free
  · next channel ctx journal w opened =>
    refine ⟨journal ++ [.adopted], ?_, (grows_connect discreet).result opened, fun _ => ?_⟩
    · exact List.append_assoc c.journal journal [.adopted]
    · exact tied_connect discreet opened

theorem crosses_failover (discreet : Discreet env) : Crosses env (failover env command) := by
  intro c
  have free : (abandonSession c).line.linkId = none := Line.linkId_close _
  have lost : Carried c [.lost] (abandonSession c) :=
    ⟨rfl, Nat.le_of_eq (Line.size_close c.line).symm, fun _ => Line.tied_of_linkId free⟩
  show Crossed env c ((do
    reconnect env
    restoreSession env c.ctx
    replayLog env (c.ctx.redo.getD []) command : EStateM Error Client Unit) (abandonSession c)).state
  cases eq : reconnect env (abandonSession c) with
  | error e c₁ =>
    rw [EStateM.bind_of_error eq]
    obtain ⟨news, opened⟩ := carried_reconnect discreet free eq
    exact ⟨_, lost.trans opened, .inl (.head _)⟩
  | ok _ c₁ =>
    rw [EStateM.bind_of_ok eq]
    obtain ⟨news, opened⟩ := carried_reconnect discreet free eq
    have restored : Crosses env (do
        restoreSession env c.ctx
        replayLog env (c.ctx.redo.getD []) command) := by
      refine .bind (Crosses.of_stays discreet stays_restoreSession notes_restoreSession) fun _ => ?_
      have notes : Notes (.call true Error.isBatch) (replayLog env (c.ctx.redo.getD []) command) :=
        notes_replayLog
      exact Crosses.of_stays discreet stays_replayLog notes
    obtain ⟨news', carried, _⟩ := restored c₁
    exact ⟨_, (lost.trans opened).trans carried, .inl (.head _)⟩

theorem crosses_noteStranded {run : EStateM Error Client Unit} (h : Crosses env run) :
    Crosses env (noteStranded run) := by
  intro c
  have ran := h c
  unfold noteStranded
  split
  · next eq => rwa [eq] at ran
  · next e c₁ eq =>
    rw [eq] at ran
    exact ran.trans ⟨[.stranded e], ⟨rfl, Nat.le_refl _, id⟩, .inr .refl⟩

/-! ## Calls that may fail over -/

theorem crosses_executeOnce (discreet : Discreet env) :
    Crosses env (executeOnce env command options) :=
  Crosses.of_stays discreet stays_executeOnce notes_executeOnce

theorem crosses_execute (discreet : Discreet env) : Crosses env (execute env command options) := by
  refine .bind (Crosses.of_stays discreet stays_settle notes_settle) fun _ => ?_
  refine .bind (.attempt (crosses_executeOnce discreet)) fun result => ?_
  split
  · exact .pure _
  · refine .get_bind fun c => ?_
    split
    · exact .bind (crosses_noteStranded (crosses_failover discreet)) fun _ =>
        crosses_executeOnce discreet
    · exact .throw _

theorem crosses_prepare (discreet : Discreet env) {sql : String} : Crosses env (prepare env sql) := by
  refine .get_bind fun c => ?_
  dsimp only
  split
  · refine .bind (Crosses.noted discreet [] (fun _ => rfl) fun c => ?_) fun _ => .pure _
    exact (List.append_nil _).symm
  · refine .bind (crosses_execute discreet) fun _ => ?_
    split
    · exact .pure _
    · exact Crosses.of_stays discreet stays_fail (notes_fail _)

theorem crosses_closeStatement (discreet : Discreet env) {statement : PreparedStatement} :
    Crosses env (closeStatement env statement) :=
  Crosses.of_stays discreet stays_closeStatement notes_closeStatement

theorem crosses_executeBatch (discreet : Discreet env) {sql : String} {paramSets : List (List Value)} :
    Crosses env (executeBatch env sql paramSets) := by
  have batch (commands : List Command) : Crosses env (runBatch env commands {}) :=
    Crosses.of_stays discreet stays_runBatch notes_runBatch
  unfold executeBatch
  split
  · refine .bind (crosses_prepare discreet) fun statement => ?_
    refine .bind (.attempt (batch _)) fun result => ?_
    refine .bind (.attempt (crosses_closeStatement discreet)) fun released => ?_
    split
    · exact .throw _
    · exact .throw _
    · exact .pure _
  · exact .bind (batch _) fun _ => .pure _

theorem crosses_applyProperty (discreet : Discreet env) {property : Session.Property} :
    Crosses env (applyProperty env property) := by
  cases property with
  | networkTimeout timeout => exact Crosses.of_stays discreet stays_setTimeout notes_setTimeout
  | readOnly on => exact .pure _
  | autocommit _ | database _ | isolation _ => exact .bind (crosses_execute discreet) fun _ => .pure _

theorem crosses_setProperty (discreet : Discreet env) {property : Session.Property} :
    Crosses env (setProperty env property) := by
  refine .bind (crosses_applyProperty discreet) fun _ => ?_
  exact Crosses.noted discreet [] (fun _ => rfl) fun c => (List.append_nil _).symm

theorem crosses_reset (discreet : Discreet env) : Crosses env (reset env) := by
  have rest (onServer : Bool) : Crosses env (do
      (Session.resetPlan (← get).ctx.changed env.opts onServer).forM (applyProperty env)
      modify fun c => (c.withContext (·.afterReset env.opts)).note .reset) :=
    .get_bind fun c => .bind (.forM fun _ => crosses_applyProperty discreet) fun _ =>
      Crosses.noted discreet [.reset] (fun _ => rfl) fun _ => rfl
  refine .bind (Crosses.of_stays discreet stays_settle notes_settle) fun _ => ?_
  refine .bind (Crosses.of_stays discreet stays_usesServerReset notes_usesServerReset) fun onServer => ?_
  dsimp only
  split
  · refine .bind (crosses_executeOnce discreet) fun _ => .bind ?_ fun _ => rest _
    exact Crosses.noted discreet [] (fun _ => rfl) fun c => (List.append_nil _).symm
  · refine .get_bind fun c => ?_
    split
    · exact .bind (crosses_executeOnce discreet) fun _ => rest _
    · exact rest _

end Exchange

/-! ## Calls -/

namespace Client

theorem crosses_guarded {run : EStateM Error Client α} (discreet : Discreet env)
    (h : Crosses env run) : Crosses env (guarded run) := by
  intro c
  have ran := h c
  -- What the guard does behind the run is to close the line.
  have closed (c : Client) : Crossed env c c.closeChannel :=
    .of_course discreet (.single .closed) (List.append_nil _).symm
  have marked (c : Client) : Crossed env c c.markClosed :=
    .of_course discreet (.single .marked) (List.append_nil _).symm
  unfold guarded
  split
  · exact .of_course discreet .refl (List.append_nil _).symm
  · cases eq : run c with
    | ok a c₁ =>
      rw [eq] at ran
      exact ran
    | error e c₁ =>
      rw [eq] at ran
      dsimp only
      repeat' split
      · exact ran
      · exact ran.trans (closed _)
      · exact (ran.trans (marked _)).trans (closed _)
      · exact ran.trans (closed _)
      · exact ran

theorem crosses_timed {run : EStateM Error Client α} (discreet : Discreet env) (timeout : Option Nat)
    (h : Crosses env run) : Crosses env (timed timeout run) := by
  have scheduled (c : Client) (deadlines : Deadlines Unit) :
      Crossed env c { c with world := { c.world with deadlines } } :=
    .of_course discreet (.single (.aside rfl rfl rfl rfl)) (List.append_nil _).symm
  intro c
  cases timeout with
  | none => exact crosses_guarded discreet h c
  | some timeout =>
    have ran := crosses_guarded discreet h (armed (some timeout) c)
    unfold timed
    dsimp only
    have armed := (scheduled c (c.world.deadlines.arm (c.world.clock + timeout) ()).2).trans ran
    split <;> next eq =>
      have ended : Crossed env c _ := (eq ▸ armed :)
      exact ended.trans (scheduled _ _)

end Client

namespace Call

theorem crosses_body (discreet : Discreet env) (call : Call) : Crosses env (call.body env) := by
  cases call with
  | execute command options => exact .bind (Exchange.crosses_execute discreet) fun _ => .pure _
  | executeAll commands options =>
    exact .bind (Crosses.of_stays discreet Exchange.stays_runBatch Exchange.notes_runBatch) fun _ => .pure _
  | executeBatch sql paramSets =>
    exact .bind (Exchange.crosses_executeBatch discreet) fun _ => .pure _
  | sendOne command =>
    exact .bind (Crosses.of_stays discreet Exchange.stays_sendOne Exchange.notes_sendOne) fun _ => .pure _
  | readResponse options =>
    exact .bind (Crosses.of_stays discreet Exchange.stays_readResponse Exchange.notes_readResponse)
      fun _ => .pure _
  | readStreaming =>
    exact .bind (Crosses.of_stays discreet Exchange.stays_readStreaming Exchange.notes_readStreaming)
      fun _ => .pure _
  | abandonStreaming =>
    exact Crosses.of_stays discreet Exchange.stays_settleStreaming Exchange.notes_settleStreaming
  | prepare sql => exact .bind (Exchange.crosses_prepare discreet) fun _ => .pure _
  | closeStatement statement => exact Exchange.crosses_closeStatement discreet
  | setProperty property => exact Exchange.crosses_setProperty discreet
  | reset => exact Exchange.crosses_reset discreet
  | ping => exact .bind (Exchange.crosses_execute discreet) fun _ => .pure _

/-- Every call keeps to the line of its client or loses its session. -/
theorem crosses_perform (discreet : Discreet env) (call : Call) : Crosses env (call.perform env) := by
  intro c
  rcases call.perform_spec env c with ⟨_, eq⟩ | ⟨_, _, run, alike, eq⟩
  · rw [eq]
    exact .of_course discreet .refl (List.append_nil _).symm
  · rw [eq]
    refine Client.crosses_timed discreet call.timeout (fun c => ?_) c
    rw [← (alike c).1]
    exact crosses_body discreet call c

end Call

end SqlWire
