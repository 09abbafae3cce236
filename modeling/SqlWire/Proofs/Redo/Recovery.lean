import Mathlib.Data.List.TakeWhile
import SqlWire.Proofs.Redo.Chronicle
import SqlWire.Proofs.Undisturbed

/-!
# Which transactions are recovered

A session is lost in a transaction, and another server behaves as one could wish: it lets the client
in, prepares every statement, and answers the commands of the transaction as they were answered before.
`recovered_iff` says when this is enough for the failed command to be sent once more: no command of the
transaction was refused, since what is refused again strands the failover, and somebody still holds
each statement that was executed, since the others are forgotten on the way.
-/

namespace SqlWire

open EStateM (Result)
open Net (Env)
open Journal (Chronicle Deed)

variable {α β : Type} {env : Env} {command : Command} {mark : Mark} {options : StatementOptions}
  {c c' c₁ c₂ : Client} {e : Error} {news : Journal}

/-! ## Statements that are held -/

namespace StatementCache

/-- Somebody holds the statement. -/
def holds (cache : StatementCache) (handle : UInt32) : Bool :=
  cache.entries.any fun e => e.statement.handle == handle && 0 < e.refCount

theorem isSome_serverId? (cache : StatementCache) (handle : UInt32) :
    (cache.serverId? handle).isSome = cache.entries.any (·.statement.handle == handle) := by
  rw [serverId?, entry?, Option.isSome_map, List.isSome_find?]

/-- Only what is held is not forgotten. -/
theorem isSome_serverId?_forgetUnreferenced (cache : StatementCache) (handle : UInt32) :
    (cache.forgetUnreferenced.serverId? handle).isSome = cache.holds handle := by
  rw [isSome_serverId?, holds]
  unfold forgetUnreferenced
  rw [List.any_filter]
  simp only [Bool.and_comm]

theorem isSome_serverId?_rebind (cache : StatementCache) (handle id other : UInt32) :
    ((cache.rebind handle id).serverId? other).isSome = (cache.serverId? other).isSome := by
  rw [isSome_serverId?, isSome_serverId?]
  unfold rebind modify
  rw [List.any_map]
  congr 1
  funext e
  dsimp only [Function.comp]
  split <;> rfl

end StatementCache

/-- The statement that a command executes. -/
def Command.handle? : Command → Option UInt32
  | .execute handle _ _ _ => some handle
  | _ => none

/-- The command has bytes, whether a backslash is an ordinary character or not, once its statement is
prepared. -/
def Command.IsPlain (command : Command) : Prop :=
  ∀ noBackslash, ∃ bytes, command.bytes noBackslash = .ok bytes

namespace Exchange

theorem handle?_of_isPrepare (h : isPrepare command = true) : command.handle? = none := by
  cases command with
  | prepare sql => rfl
  | _ => cases h

theorem encode_ok_iff {ctx : Session.Context} (plain : command.IsPlain) :
    (∃ bytes, encode ctx command = .ok bytes) ↔
      ∀ handle ∈ command.handle?, (ctx.statements.serverId? handle).isSome = true := by
  obtain ⟨bytes, eq⟩ := plain ctx.noBackslashEscapes
  cases command with
  | execute handle id sql params =>
    have few : params.length ≤ Command.maxParams := by
      refine Nat.not_lt.mp fun many => ?_
      rw [Command.bytes, Command.executeBytes_of_many many] at eq
      cases eq
    unfold encode
    cases known : ctx.statements.serverId? handle with
    | none => simp [Command.handle?, known]
    | some id' =>
      refine iff_of_true ?_ (by simp [Command.handle?, known])
      simp only [known, Command.executeBytes_of_few few]
      exact ⟨_, rfl⟩
  | query _ | clientPrepared _ _ | prepare _ | closeStatement _ | resetConnection | initDb _ | ping
  | quit => exact iff_of_true ⟨bytes, eq⟩ nofun

theorem encode_of_send (sent : send env command c = .ok mark c') :
    ∃ bytes, encode c.ctx command = .ok bytes := by
  unfold send at sent
  dsimp only at sent
  split at sent
  · cases sent
  · next bytes encoded => exact ⟨bytes, encoded⟩

end Exchange

/-! ## Runs on which nothing goes wrong -/

theorem Noted.journal_grows {duty : Duty} {r : Result Error Client α} (h : Noted duty c r) :
    c.journal <+: r.state.journal := by
  obtain ⟨news, accounted, _⟩ := h
  exact ⟨news, accounted.journal.symm⟩

/-- Nothing was wrong with the connection. -/
def Smooth (c c' : Client) : Prop :=
  ∃ news, c'.journal = c.journal ++ news ∧ ∀ event ∈ news, event.isFailure = false

namespace Smooth

theorem not_failure (h : Smooth c c')
    (told : ∃ news, c'.journal = c.journal ++ news ∧ ∃ event ∈ news, event.isFailure) : False := by
  obtain ⟨news, journal, whole⟩ := h
  obtain ⟨_, journal', event, mem, failure⟩ := told
  cases List.append_cancel_left (journal.symm.trans journal')
  cases (whole event mem).symm.trans failure

/-- A run in two parts. -/
theorem split (h : Smooth c c₂) (first : c.journal <+: c₁.journal)
    (second : c₁.journal <+: c₂.journal) : Smooth c c₁ ∧ Smooth c₁ c₂ := by
  obtain ⟨news, journal, whole⟩ := h
  obtain ⟨news₁, first⟩ := first
  obtain ⟨news₂, second⟩ := second
  have all : news₁ ++ news₂ = news := List.append_cancel_left <| by
    rw [← List.append_assoc, first, second, journal]
  subst all
  exact ⟨⟨news₁, first.symm, fun event mem => whole event (List.mem_append_left _ mem)⟩,
    news₂, second.symm, fun event mem => whole event (List.mem_append_right _ mem)⟩

/-- The first part of a run. -/
theorem of_bind {duty duty' : Duty} {run : EStateM Error Client α} {next : α → EStateM Error Client β}
    (h : Smooth c ((run >>= next) c).state) (first : Notes duty run)
    (second : ∀ a, Notes duty' (next a)) : Smooth c (run c).state := by
  have noted := first c
  cases eq : run c with
  | ok a c₁ =>
    rw [EStateM.bind_of_ok eq] at h
    rw [eq] at noted
    exact (h.split noted.journal_grows (second a c₁).journal_grows).1
  | error e c₁ =>
    rw [EStateM.bind_of_error eq] at h
    exact h

end Smooth

/-! ## Commands that are sent again -/

/-- Which of the commands that were sent again were refused. -/
def Client.replies (c : Client) : List Bool := c.journal.chronicle.replay.map Deed.refused

namespace Exchange

theorem replies_send (sent : send env command c = .ok mark c') : c'.replies = c.replies := by
  unfold Client.replies
  rw [chronicle_send sent]
  rfl

/-- What becomes of a command that is sent again: it has no bytes, it is refused or it is accepted. -/
theorem replayCommand_cases (smooth : Smooth c (replayCommand env command c).state) :
    (¬ ∃ bytes, encode c.ctx command = .ok bytes) ∧
        (∃ e c', replayCommand env command c = .error e c') ∨
      (∃ bytes, encode c.ctx command = .ok bytes) ∧
        ((∃ e c', replayCommand env command c = .error e c' ∧ c'.replies = c.replies ++ [true]) ∨
          ∃ c', replayCommand env command c = .ok () c' ∧ c'.replies = c.replies ++ [false]) := by
  cases sent : send env command c with
  | error e c₁ =>
    have failed : replayCommand env command c = .error e c₁ := EStateM.bind_of_error sent
    rw [failed] at smooth
    refine .inl ⟨fun ⟨bytes, encoded⟩ => ?_, _, _, failed⟩
    exact smooth.not_failure (failure_of_send encoded sent)
  | ok mark c₁ =>
    refine .inr ⟨encode_of_send sent, ?_⟩
    have rest : replayCommand env command c = _ := EStateM.bind_of_ok sent
    cases read : readFor env command mark {} c₁ with
    | error e c₂ =>
      have failed : replayCommand env command c = .error (.connection .replay (some e)) c₂ :=
        rest.trans (EStateM.bind_of_ok (EStateM.attempt_of_error read))
      refine .inl ⟨_, c₂, failed, ?_⟩
      rw [failed] at smooth
      have began : c.journal <+: c₁.journal := (notes_send.result sent).journal_grows
      obtain ⟨_, smooth₂⟩ := smooth.split began (notes_readFor.result read).journal_grows
      obtain ⟨news, journal, failure | ⟨_, inTransaction, answered⟩⟩ := readFor_error read
      · cases smooth₂.not_failure ⟨news, journal, failure⟩
      · rw [← replies_send sent]
        unfold Client.replies
        rw [answered]
        exact List.map_append
    | ok response c₂ =>
      have ok := rest.trans (EStateM.bind_of_ok (EStateM.attempt_of_ok read))
      refine .inr ⟨c₂, ok, ?_⟩
      obtain ⟨inTransaction, answered⟩ := chronicle_replayCommand ok
      unfold Client.replies
      rw [answered]
      exact List.map_append

theorem undisturbed_replayCommand : Along Undisturbed (replayCommand env command) := by
  refine .bind undisturbed_send fun _ => .bind (.attempt (undisturbed_readFor rfl)) fun result => ?_
  split
  · exact .pure _
  · exact .throw _

/-- On one session the replies only become more. -/
theorem replies_of_exchange {r : Result Error Client α} (h : Noted .exchange c r) :
    c.replies <+: r.state.replies := by
  obtain ⟨news, accounted, allowed⟩ := h
  unfold Client.replies
  rw [accounted.journal, Journal.chronicle_append]
  generalize c.journal.chronicle = h
  clear accounted
  induction news generalizing h with
  | nil => exact List.prefix_refl _
  | cons event news ih =>
    have rest := ih (fun event mem => allowed event (.tail _ mem)) (h.after event)
    refine .trans ?_ rest
    cases event with
    | sent _ | refused _ | failed _ => exact List.prefix_refl _
    | answered command inTransaction =>
      exact (List.map_append ▸ List.prefix_append _ _ :)
    | _ => exact nomatch allowed _ (.head _)

/-- Commands are sent again that were answered before, and are answered alike as far as this goes. All
of them are accepted exactly if they were before, and if they still have bytes. -/
theorem replayCommands_ok_iff {deeds : List Deed}
    (plain : ∀ deed ∈ deeds, deed.command.IsPlain)
    (smooth : Smooth c ((deeds.map Deed.command).forM (replayCommand env) c).state)
    (alike : ((deeds.map Deed.command).forM (replayCommand env) c).state.replies <+:
      c.replies ++ deeds.map Deed.refused) :
    (∃ c', (deeds.map Deed.command).forM (replayCommand env) c = .ok () c') ↔
      ∀ deed ∈ deeds, deed.refused = false ∧
        ∀ handle ∈ deed.command.handle?, (c.ctx.statements.serverId? handle).isSome = true := by
  induction deeds generalizing c with
  | nil => exact iff_of_true ⟨c, rfl⟩ nofun
  | cons deed deeds ih =>
    rw [List.forall_mem_cons, ← encode_ok_iff (plain deed (.head _))]
    obtain ⟨rest, rest_eq⟩ :
        ∃ rest, rest = (deeds.map Deed.command).forM (replayCommand env) := ⟨_, rfl⟩
    have run : ((deed :: deeds).map Deed.command).forM (replayCommand env) =
        replayCommand env deed.command >>= fun _ => rest := by rw [rest_eq]; rfl
    rw [run] at smooth alike ⊢
    have noted : Notes .exchange rest := rest_eq ▸ .forM fun _ => notes_replayCommand
    rw [← rest_eq] at ih
    rcases replayCommand_cases (smooth.of_bind notes_replayCommand fun _ => noted) with
      ⟨lacking, e, c₁, failed⟩ | ⟨encodes, ⟨e, c₁, failed, refused⟩ | ⟨c₁, ok, accepted⟩⟩
    · rw [EStateM.bind_of_error failed]
      exact iff_of_false (fun ⟨_, ok⟩ => nomatch ok) fun all => lacking all.1.2
    · rw [EStateM.bind_of_error failed] at alike ⊢
      refine iff_of_false (fun ⟨_, ok⟩ => nomatch ok) fun all => ?_
      have same : c₁.replies <+: c.replies ++ deed.refused :: deeds.map Deed.refused := alike
      rw [refused, List.prefix_append_right_inj, List.cons_prefix_cons] at same
      cases same.1.trans all.1.1
    · rw [EStateM.bind_of_ok ok] at smooth alike ⊢
      have alike : (rest c₁).state.replies <+: c.replies ++ deed.refused :: deeds.map Deed.refused :=
        alike
      have same : c₁.replies <+: c.replies ++ deed.refused :: deeds.map Deed.refused :=
        (replies_of_exchange (noted c₁)).trans alike
      rw [accepted, List.prefix_append_right_inj, List.cons_prefix_cons] at same
      have whole : deed.refused = false := same.1.symm
      have began : c.journal <+: c₁.journal := (notes_replayCommand.result ok).journal_grows
      have smooth₁ : Smooth c₁ (rest c₁).state := (Smooth.split smooth began (noted c₁).journal_grows).2
      have kept : c₁.ctx.statements = c.ctx.statements :=
        (undisturbed_replayCommand.result ok).statements
      rw [ih (fun deed mem => plain deed (.tail _ mem)) smooth₁ ?_, kept]
      · simp [whole, encodes]
      · rw [accepted, ← whole, List.append_assoc]
        exact alike

/-! ## What a new session is given -/

theorem isSetback_of_isFailure (event : Event) (h : event.isFailure) : event.isSetback := by
  cases event <;> first | rfl | cases h

theorem tells_closeOnServer {ids : List UInt32} : Tells Event.isFailure (closeOnServer env ids) := by
  induction ids with
  | nil => exact .pure ()
  | cons id ids ih => exact .bind notes_send (tells_send fun _ => ⟨_, rfl⟩) fun _ => ih

theorem tells_complete {response : Response} : Tells Event.isFailure (complete env response) := by
  cases response with
  | none | completions _ => exact .pure _
  | prepared statement =>
    intro c e c' failed
    dsimp only [complete] at failed
    split at failed
    · next closed =>
      cases failed
      have told := tells_closeOnServer closed
      exact told
    · cases failed

theorem tells_executeOnce (encodes : ∀ ctx, ∃ bytes, encode ctx command = .ok bytes) :
    Tells Event.isSetback (executeOnce env command options) :=
  .bind notes_send ((tells_send encodes).mono isSetback_of_isFailure) fun _ =>
    .bind notes_readFor tells_readFor fun _ => tells_complete.mono isSetback_of_isFailure

theorem tells_replayProperty {property : Session.Property} :
    Tells Event.isSetback (replayProperty env property) := by
  unfold replayProperty
  split
  · next command sets =>
    have encodes : ∀ ctx, ∃ bytes, encode ctx command = .ok bytes := by
      cases property <;> cases sets <;> exact fun _ => ⟨_, rfl⟩
    exact .bind notes_executeOnce (tells_executeOnce encodes) fun _ => .modify _
  · exact .modify _

theorem tells_prepareAgain {statement : PreparedStatement} :
    Tells Event.isSetback (prepareAgain env statement) := by
  refine .bind notes_send ((tells_send fun _ => ⟨_, rfl⟩).mono isSetback_of_isFailure) fun _ => ?_
  refine .bind notes_readFor tells_readFor fun _ => ?_
  split
  · exact .modify _
  · exact .fail _ rfl

theorem tells_setTimeout {timeout : Option Nat} : Tells Event.isSetback (setTimeout timeout) := by
  intro c e c' failed
  unfold setTimeout at failed
  split at failed
  · next fault _ =>
    have told : Tells Event.isSetback (Client.fail (.io fault) : EStateM Error Client Unit) :=
      .fail _ rfl
    exact told failed
  · cases failed

/-- A session is not restored only if something was wrong with the connection, or the server refused
something. -/
theorem tells_restoreSession {lost : Session.Context} :
    Tells Event.isSetback (restoreSession env lost) := by
  refine .bind notes_setTimeout tells_setTimeout fun _ => ?_
  refine .bind (.forM fun _ => notes_replayProperty)
    (.forM (fun _ => notes_replayProperty) fun _ _ => tells_replayProperty) fun _ => ?_
  have forgotten : Notes .exchange (modify fun c : Client => c.withContext fun ctx =>
      { ctx with statements := ctx.statements.forgetUnreferenced } : EStateM Error Client PUnit) :=
    .modify (fun _ => rfl) fun _ => rfl
  have got : Notes .exchange (MonadState.get : EStateM Error Client Client) := .get
  refine .bind forgotten (.modify _) fun _ => .bind got .get fun _ => ?_
  exact .forM (fun _ => notes_prepareAgain) fun _ _ => tells_prepareAgain

theorem statements_replayProperty {property : Session.Property}
    (h : replayProperty env property c = .ok () c') : c'.ctx.statements = c.ctx.statements := by
  have recorded (c : Client) :
      (c.ctx.recordProperty property).statements = c.ctx.statements := by cases property <;> rfl
  unfold replayProperty at h
  cases sets : property.command? with
  | none =>
    simp only [sets] at h
    cases h
    exact recorded c
  | some command =>
    simp only [sets] at h
    obtain ⟨response, c₁, ran, h⟩ := EStateM.ok_of_bind h
    have other : isPrepare command = false := by cases property <;> cases sets <;> rfl
    cases h
    exact (recorded c₁).trans ((undisturbed_executeOnce other rfl).result ran).statements

theorem statements_replayProperties {properties : List Session.Property}
    (h : properties.forM (replayProperty env) c = .ok () c') :
    c'.ctx.statements = c.ctx.statements := by
  induction properties generalizing c with
  | nil =>
    cases h
    rfl
  | cons property properties ih =>
    obtain ⟨_, c₁, first, rest⟩ := EStateM.ok_of_bind h
    exact (ih rest).trans (statements_replayProperty first)

/-- The handle is bound to the id of the statement that comes back. -/
theorem statements_prepareAgain {statement : PreparedStatement}
    (h : prepareAgain env statement c = .ok () c') :
    ∃ mark c₁ fresh c₂, send env (.prepare statement.sql) c = .ok mark c₁ ∧
      readFor env (.prepare statement.sql) mark {} c₁ = .ok (.prepared fresh) c₂ ∧
      c'.ctx.statements = c.ctx.statements.rebind statement.handle fresh.id := by
  obtain ⟨mark, c₁, sent, h⟩ := EStateM.ok_of_bind h
  obtain ⟨response, c₂, read, h⟩ := EStateM.ok_of_bind h
  have kept : c₂.ctx.statements = c.ctx.statements :=
    ((undisturbed_readFor rfl).result read).statements.trans (undisturbed_send.result sent).statements
  cases response with
  | prepared fresh =>
    cases h
    exact ⟨mark, c₁, fresh, c₂, sent, read, kept ▸ rfl⟩
  | none | completions _ => cases h

theorem isSome_prepareAgain {statement : PreparedStatement}
    (h : prepareAgain env statement c = .ok () c') (handle : UInt32) :
    (c'.ctx.statements.serverId? handle).isSome = (c.ctx.statements.serverId? handle).isSome := by
  obtain ⟨_, _, fresh, _, _, _, bound⟩ := statements_prepareAgain h
  rw [bound]
  exact StatementCache.isSome_serverId?_rebind ..

theorem isSome_prepareAll {statements : List PreparedStatement}
    (h : statements.forM (prepareAgain env) c = .ok () c') (handle : UInt32) :
    (c'.ctx.statements.serverId? handle).isSome = (c.ctx.statements.serverId? handle).isSome := by
  induction statements generalizing c with
  | nil =>
    cases h
    rfl
  | cons statement statements ih =>
    obtain ⟨_, c₁, first, rest⟩ := EStateM.ok_of_bind h
    exact (ih rest).trans (isSome_prepareAgain first handle)

theorem ctx_setTimeout {timeout : Option Nat} (h : setTimeout timeout c = .ok () c') :
    c'.ctx = c.ctx := by
  unfold setTimeout at h
  split at h <;> cases h
  rfl

/-- A session that is restored knows the statements that somebody held. -/
theorem isSome_restoreSession {lost : Session.Context}
    (h : restoreSession env lost c = .ok () c') (handle : UInt32) :
    (c'.ctx.statements.serverId? handle).isSome = c.ctx.statements.holds handle := by
  obtain ⟨_, c₁, timed, h⟩ := EStateM.ok_of_bind h
  obtain ⟨_, c₂, set, h⟩ := EStateM.ok_of_bind h
  rw [isSome_prepareAll h, ← ctx_setTimeout timed, ← statements_replayProperties set]
  exact StatementCache.isSome_serverId?_forgetUnreferenced ..

end Exchange

/-! ## Transactions that are recovered -/

/-- From here on commands are sent again. -/
def Event.isReplaying : Event → Bool
  | .replaying => true
  | _ => false

theorem isReplaying_of_exchange {shows : Error → Bool} {event : Event} {finish : Option Error}
    (h : (Duty.shown Event.isExchange shows).allows event finish) : event.isReplaying = false := by
  cases event with
  | replaying => exact nomatch h
  | _ => rfl

/-- What the client notes of another server that behaves as one could wish when a session was lost. -/
structure Journal.Welcomes (lost news : Journal) : Prop where
  adopted : .adopted ∈ news
  whole : ∀ event ∈ news, event.isFailure = false
  /-- It accepts what comes before the commands of the transaction. -/
  accepts : ∀ e, .refused e ∉ news.takeWhile (!·.isReplaying)
  /-- It answers these as they were answered before, as far as they get there. -/
  alike : (lost ++ news).chronicle.replay.map Deed.refused <+:
    (lost.chronicle.transaction.filter (!·.prepares)).map Deed.refused

namespace Exchange

theorem reconnect_error (h : reconnect env c = .error e c') : c'.journal = c.journal := by
  unfold reconnect at h
  split at h <;> cases h
  rfl

/-- The client keeps its statements, and no commands were sent again yet. -/
theorem reconnect_ok (h : reconnect env c = .ok () c') :
    (∃ news, c'.journal = c.journal ++ news ∧ ∀ event ∈ news, event.isReplaying = false) ∧
      c'.ctx.statements = c.ctx.statements := by
  unfold reconnect at h
  split at h
  · cases h
  · next channel ctx journal world opened =>
    cases h
    obtain ⟨news, rfl, allowed, _⟩ := connect_ok opened
    refine ⟨⟨Event.opened :: news ++ [Event.adopted], List.append_assoc .., fun event mem => ?_⟩, rfl⟩
    rcases List.mem_append.mp mem with fresh | adopted
    · rcases List.mem_cons.mp fresh with rfl | set
      · rfl
      · exact isReplaying_of_exchange (allowed event set)
    · rw [List.mem_singleton.mp adopted]
      rfl

/-- A new session that is opened and accepts what it is given first is restored. -/
theorem restored_of_welcomes (welcomes : Journal.Welcomes c.journal news)
    (journal : (failover env command c).state.journal = c.journal ++ news) :
    ∃ c', (∀ handle, (c'.ctx.statements.serverId? handle).isSome = c.ctx.statements.holds handle) ∧
      failover env command c = replayLog env (c.ctx.redo.getD []) command c' ∧
      Smooth c' (replayLog env (c.ctx.redo.getD []) command c').state := by
  have run : failover env command c = (reconnect env >>= fun _ => restoreSession env c.ctx >>= fun _ =>
    replayLog env (c.ctx.redo.getD []) command) (abandonSession c) := rfl
  have smooth : Smooth c (failover env command c).state := ⟨news, journal, welcomes.whole⟩
  have lost : (abandonSession c).journal = c.journal ++ [.lost] := rfl
  rw [run] at journal smooth ⊢
  cases opened : reconnect env (abandonSession c) with
  | error e c₁ =>
    -- Then nothing follows the loss.
    rw [EStateM.bind_of_error opened] at journal
    have journal : c₁.journal = c.journal ++ news := journal
    rw [reconnect_error opened, lost] at journal
    have adopted := List.append_cancel_left journal ▸ welcomes.adopted
    cases List.mem_singleton.mp adopted
  | ok _ c₁ =>
    obtain ⟨⟨news₁, journal₁, early₁⟩, statements⟩ := reconnect_ok opened
    rw [EStateM.bind_of_ok opened] at journal smooth ⊢
    cases restored : restoreSession env c.ctx c₁ with
    | error e c₂ =>
      -- Then the journal tells of what stood in the way, before any command is sent again.
      rw [EStateM.bind_of_error restored] at journal
      obtain ⟨news₂, accounted, allowed⟩ := notes_restoreSession.result restored
      obtain ⟨_, journal₂, event, mem, setback⟩ := tells_restoreSession restored
      cases accounted.eq_of_journal journal₂
      have all : [.lost] ++ news₁ ++ news₂ = news := List.append_cancel_left <| by
        rw [← journal, List.append_assoc, ← List.append_assoc, ← lost, ← List.append_assoc, ← journal₁]
        exact journal₂.symm
      have early : ∀ event ∈ news, (!event.isReplaying) = true := by
        rw [← all]
        simp only [List.mem_append, List.mem_singleton]
        rintro event ((rfl | mem) | mem)
        · rfl
        · rw [early₁ event mem]; rfl
        · rw [isReplaying_of_exchange (allowed event mem)]; rfl
      have mem : event ∈ news := all ▸ List.mem_append_right _ mem
      cases event with
      | failed e => cases welcomes.whole _ mem
      | refused e =>
        refine absurd ?_ (welcomes.accepts e)
        rwa [List.takeWhile_eq_self_iff.mpr early]
      | _ => cases setback
    | ok _ c₂ =>
      rw [EStateM.bind_of_ok restored] at smooth ⊢
      refine ⟨c₂, fun handle => ?_, rfl, ?_⟩
      · rw [isSome_restoreSession restored, statements]
        rfl
      · have began : c.journal <+: c₂.journal := by
          refine .trans ⟨[.lost], lost.symm⟩ (.trans ⟨news₁, journal₁.symm⟩ ?_)
          exact (notes_restoreSession.result restored).journal_grows
        have noted : Noted (.call true fun _ => false) c₂
          (replayLog env (c.ctx.redo.getD []) command c₂) := notes_replayLog c₂
        exact (Smooth.split smooth began noted.journal_grows).2

/-- Where the log to be sent again is what was answered, a failover to such a server succeeds exactly
if no command of the transaction was refused and somebody holds the statements that were executed in
it. Then the new session knows all statements that somebody held. -/
theorem failover_ok_iff
    (logged : (replayed (c.ctx.redo.getD []) command).filter (!isPrepare ·) =
      c.journal.answered.filter (!isPrepare ·))
    (plain : ∀ command' ∈ c.journal.answered, command'.IsPlain)
    (journal : (failover env command c).state.journal = c.journal ++ news)
    (welcomes : Journal.Welcomes c.journal news) :
    ((∃ c', failover env command c = .ok () c') ↔
        ∀ deed ∈ c.journal.chronicle.transaction, deed.prepares = false → deed.refused = false ∧
          ∀ handle ∈ deed.command.handle?, c.ctx.statements.holds handle = true) ∧
      ∀ c', failover env command c = .ok () c' → ∀ handle,
        (c'.ctx.statements.serverId? handle).isSome = c.ctx.statements.holds handle := by
  obtain ⟨c₁, known, run, smooth⟩ := restored_of_welcomes welcomes journal
  have answered := Journal.map_transaction c.journal
  have alike := welcomes.alike
  rw [← journal, run] at alike
  generalize deeds_eq : c.journal.chronicle.transaction.filter (!·.prepares) = deeds at alike
  have mem_deeds {deed : Deed} : deed ∈ deeds ↔
      deed ∈ c.journal.chronicle.transaction ∧ deed.prepares = false := by
    rw [← deeds_eq, List.mem_filter, Bool.not_eq_true']
  have commands : (replayed (c.ctx.redo.getD []) command).filter (!isPrepare ·) =
      deeds.map Deed.command := by
    rw [logged, ← answered, ← deeds_eq, List.filter_map]
    rfl
  -- From here on it is about the commands that are sent again, from where they begin.
  obtain ⟨begun, begun_eq⟩ : ∃ begun, begun = c₁.note .replaying := ⟨_, rfl⟩
  have again : replayLog env (c.ctx.redo.getD []) command c₁ =
      (deeds.map Deed.command).forM (replayCommand env) begun := by
    rw [← commands, begun_eq]
    rfl
  have none : begun.replies = [] := by
    rw [begun_eq]
    exact congrArg (List.map Deed.refused) (congrArg Chronicle.replay
      (Journal.chronicle_append c₁.journal [.replaying]))
  have knows (handle : UInt32) :
      (begun.ctx.statements.serverId? handle).isSome = c.ctx.statements.holds handle := by
    rw [begun_eq, ← known]
    rfl
  have began : c₁.journal <+: begun.journal := ⟨[.replaying], begun_eq ▸ rfl⟩
  have noted : Notes .exchange ((deeds.map Deed.command).forM (replayCommand env)) :=
    .forM fun _ => notes_replayCommand
  rw [again] at run smooth alike
  have accepted := replayCommands_ok_iff
    (fun deed mem => plain _ (answered ▸ List.mem_map_of_mem (mem_deeds.mp mem).1))
    (smooth.split began (noted begun).journal_grows).2 (by rw [none]; exact alike)
  simp only [knows, mem_deeds, and_imp] at accepted
  rw [run]
  refine ⟨accepted, fun c' ok handle => ?_⟩
  have undisturbed : Along Undisturbed ((deeds.map Deed.command).forM (replayCommand env)) :=
    .forM fun _ => undisturbed_replayCommand
  have kept : c'.ctx.statements = begun.ctx.statements := (undisturbed.result ok).statements
  rw [kept, knows]

end Exchange

open Exchange

/-- A command loses the connection, where the log to be sent again is what was answered in the
transaction. Another server behaves as one could wish. Then the command can be sent once more there,
which is what the call does, exactly if the server that was lost refused no command of the transaction
and somebody holds each statement that these commands and the failed one execute. -/
theorem recovered_iff {fault : IoFault} {c₀ : Client} (settled : settle env c = .ok () c₀)
    (lost : executeOnce env command options c₀ = .error (.io fault) c₁)
    (taken : canReplay c₁ command (.io fault) = true)
    (logged : (replayed (c₁.ctx.redo.getD []) command).filter (!isPrepare ·) =
      c₁.journal.answered.filter (!isPrepare ·))
    (plain : ∀ command' ∈ command :: c₁.journal.answered, command'.IsPlain)
    (journal : (failover env command c₁).state.journal = c₁.journal ++ news)
    (welcomes : Journal.Welcomes c₁.journal news) :
    (∃ c₂ bytes, failover env command c₁ = .ok () c₂ ∧ encode c₂.ctx command = .ok bytes ∧
        execute env command options c = executeOnce env command options c₂) ↔
      (∀ deed ∈ c₁.journal.chronicle.transaction, deed.prepares = false → deed.refused = false) ∧
        ∀ command' ∈ command :: c₁.journal.answered, ∀ handle ∈ command'.handle?,
          c₁.ctx.statements.holds handle = true := by
  obtain ⟨accepted, known⟩ :=
    failover_ok_iff logged (fun command' mem => plain command' (.tail _ mem)) journal welcomes
  have answered := Journal.map_transaction c₁.journal
  have encodes {c₂ : Client} (recovered : failover env command c₁ = .ok () c₂) :
      (∃ bytes, encode c₂.ctx command = .ok bytes) ↔
        ∀ handle ∈ command.handle?, c₁.ctx.statements.holds handle = true := by
    rw [encode_ok_iff (plain command (.head _))]
    simp only [known c₂ recovered]
  constructor
  · rintro ⟨c₂, bytes, recovered, encoded, _⟩
    have each := accepted.mp ⟨c₂, recovered⟩
    refine ⟨fun deed mem sent => (each deed mem sent).1, List.forall_mem_cons.mpr ⟨?_, ?_⟩⟩
    · exact (encodes recovered).mp ⟨bytes, encoded⟩
    · rw [← answered, List.forall_mem_map]
      intro deed mem handle of
      cases prepares : deed.prepares with
      | true => cases (handle?_of_isPrepare prepares).symm.trans of
      | false => exact (each deed mem prepares).2 handle of
  · rintro ⟨whole, held⟩
    obtain ⟨c₂, recovered⟩ := accepted.mpr fun deed mem sent =>
      ⟨whole deed mem sent, held _ (.tail _ (answered ▸ List.mem_map_of_mem mem))⟩
    obtain ⟨bytes, encoded⟩ := (encodes recovered).mpr (held command (.head _))
    exact ⟨c₂, bytes, recovered, encoded, execute_of_failover settled lost taken recovered⟩

/-- What a server says that has prepared a statement without parameters and columns. -/
def preparedPacket : Bytes := [12, 0, 0, 1, 0, 1, 0, 0, 0, 0, 0, 0, 0, 0, 0, 0]

/-- A client that has prepared a statement in a transaction, has executed it and has given it back.
Its server is about to end the stream, and another one will answer everything. -/
def statementGivenBack : Client :=
  let answers := okPacket 1 true ++ preparedPacket ++ okPacket 1 true
  let server := greetingPacket ++ okPacket 2 false ++ okPacket 1 false ++ answers
  let world := answeringInTurn [[true, true, true]]
  let script : EStateM Error Client Unit := do
    let _ ← Client.execute replaying (.query "BEGIN") {}
    let statement ← Client.prepare replaying "INSERT"
    let _ ← Client.execute replaying (statement.execute []) {}
    Client.closeStatement replaying statement
  (script (.opened replaying { world with servers := ⟨server.toWire, false⟩ :: world.servers })).state

/-- The client when the next command has lost the connection. -/
def cutBehindStatement : Client := (executeOnce replaying (.query "UPDATE") {} statementGivenBack).state

/-- The statement is forgotten, so that it cannot be executed again and the command is not sent. -/
theorem not_recovered_cutBehindStatement : ∃ news,
    (failover replaying (.query "UPDATE") cutBehindStatement).state.journal =
        cutBehindStatement.journal ++ news ∧
      Journal.Welcomes cutBehindStatement.journal news ∧
      ¬ ∃ c₂ bytes, failover replaying (.query "UPDATE") cutBehindStatement = .ok () c₂ ∧
        encode c₂.ctx (.query "UPDATE") = .ok bytes ∧
        execute replaying (.query "UPDATE") {} statementGivenBack =
          executeOnce replaying (.query "UPDATE") {} c₂ := by
  have clear : Clear statementGivenBack :=
    ⟨Option.isNone_iff_eq_none.mp (by decide +kernel), List.isEmpty_iff.mp (by decide +kernel),
      by decide +kernel⟩
  obtain ⟨e, lost, taken⟩ :=
    EStateM.Result.exists_error (p := canReplay cutBehindStatement (.query "UPDATE"))
      (by decide +kernel : (executeOnce replaying (.query "UPDATE") {} statementGivenBack).error?.any
        (canReplay cutBehindStatement (.query "UPDATE")) = true)
  obtain ⟨news, accounted, _⟩ : Noted (.call true fun _ => false) cutBehindStatement
    (failover replaying (.query "UPDATE") cutBehindStatement) := noted_failover _
  have journal := accounted.journal
  have news_eq : news = (failover replaying (.query "UPDATE") cutBehindStatement).state.journal.drop
      cutBehindStatement.journal.length := by rw [journal, List.drop_left]
  have answered : cutBehindStatement.journal.answered =
      [.query "BEGIN", .prepare "INSERT", .execute 1 1 "INSERT" []] := by decide +kernel
  have welcomes : Journal.Welcomes cutBehindStatement.journal news := {
    adopted := by
      have adopted : news.any (fun | .adopted => true | _ => false) = true := by
        rw [news_eq]; decide +kernel
      obtain ⟨event, mem, is⟩ := List.any_eq_true.mp adopted
      cases event <;> first | exact mem | cases is
    whole := by
      have whole : news.all (!·.isFailure) = true := by rw [news_eq]; decide +kernel
      exact fun event mem => by simpa using List.all_eq_true.mp whole event mem
    accepts := by
      have accepts : (news.takeWhile (!·.isReplaying)).all (!·.isSetback) = true := by
        rw [news_eq]; decide +kernel
      exact fun e mem => nomatch List.all_eq_true.mp accepts _ mem
    alike := by rw [← journal]; decide +kernel }
  have plain : ∀ command ∈ .query "UPDATE" :: cutBehindStatement.journal.answered,
      command.IsPlain := by
    rw [answered]
    intro command mem noBackslash
    simp only [List.mem_cons, List.not_mem_nil, or_false] at mem
    rcases mem with rfl | rfl | rfl | rfl <;> exact ⟨_, rfl⟩
  have executed : .execute 1 1 "INSERT" [] ∈
      .query "UPDATE" :: cutBehindStatement.journal.answered := by
    rw [answered]
    simp
  have forgotten : cutBehindStatement.ctx.statements.holds 1 = false := by decide +kernel
  refine ⟨news, journal, welcomes, fun resent => ?_⟩
  cases e with
  | io fault =>
    have held := ((recovered_iff (settle_of_clear clear) lost taken (by decide +kernel) plain journal
      welcomes).mp resent).2
    cases forgotten.symm.trans (held _ executed 1 rfl)
  | _ => cases taken

end SqlWire
