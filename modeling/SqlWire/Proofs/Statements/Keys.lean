import Mathlib.Data.List.Nodup
import SqlWire.Proofs.Properties.Calm
import SqlWire.Proofs.Redo.Tally

/-!
# The keys of the statement cache

A handle names one entry and a text one handle, on every session and from one session to the next
(`Keyed`). This needs no bound on the handles that were given out: when they have been used up, a new
statement takes the place of the one that has its handle. So it holds wherever calls may lead
(`Reached.keyed`), also in the midst of a call, where a failover begins (`Underway.keyed`).
-/

namespace SqlWire

open EStateM (Result)
open Net (Env World)

namespace StatementCache

variable {cache cache' : StatementCache} {e : CacheEntry} {f : CacheEntry → CacheEntry}

/-- No handle and no text is used twice. -/
structure Keyed (cache : StatementCache) : Prop where
  handles : cache.handles.Nodup
  texts : (cache.bySql.map Prod.fst).Nodup

theorem keyed_new (capacity : Nat) (enabled : Bool) : (new capacity enabled).Keyed := ⟨.nil, .nil⟩

namespace Keyed

/-- Entries and texts may leave. -/
theorem of_fewer (keyed : cache.Keyed) (handles : cache'.handles.Sublist cache.handles)
    (texts : cache'.bySql.Sublist cache.bySql) : cache'.Keyed where
  handles := keyed.handles.sublist handles
  texts := keyed.texts.sublist (texts.map _)

theorem modify (keyed : cache.Keyed) {handle : UInt32}
    (keeps : ∀ e, (f e).statement.handle = e.statement.handle) : (cache.modify handle f).Keyed :=
  keyed.of_fewer ((handles_modify keeps).symm ▸ .refl _) (.refl _)

theorem drop (keyed : cache.Keyed) (handle : UInt32) : (cache.drop handle).Keyed :=
  keyed.of_fewer (List.filter_sublist.map _) (.refl _)

theorem evict (keyed : cache.Keyed) (e : CacheEntry) : (cache.evict e).2.Keyed := by
  have fewer : Keyed { cache with bySql := cache.bySql.filter (·.1 != e.statement.sql) } :=
    keyed.of_fewer (.refl _) List.filter_sublist
  unfold StatementCache.evict
  dsimp only
  split
  · exact fewer.drop _
  · exact fewer.modify fun _ => rfl

theorem shrink (keyed : cache.Keyed) (n : Nat) : (cache.shrink n).2.Keyed := by
  induction n generalizing cache with
  | zero => exact keyed
  | succ n ih =>
    unfold StatementCache.shrink
    split
    · exact keyed
    · split
      · exact keyed
      · exact ih (keyed.evict _)

/-- A new entry takes the place of one with its handle, and has a text only if this is new. -/
theorem insert (keyed : cache.Keyed) (statement : PreparedStatement) :
    (cache.insert statement).2.2.Keyed := by
  have handles (detached : Bool) : (cache.withNew statement detached).handles.Nodup := by
    rw [show (cache.withNew statement detached).handles = _ from List.map_append]
    refine List.nodup_append.mpr ⟨(keyed.drop _).handles, by simp, fun handle old last new same => ?_⟩
    obtain ⟨e, mem, rfl⟩ := List.mem_map.mp old
    cases List.mem_singleton.mp new
    exact bne_iff_ne.mp (List.mem_filter.mp mem).2 same
  rcases insert_cases cache statement with ⟨_, unknown, same⟩ | same
  · rw [same]
    refine Keyed.shrink ⟨handles false, ?_⟩ _
    rw [show (cache.withNew statement false).bySql.map Prod.fst = _ from List.map_append]
    refine List.nodup_append.mpr ⟨keyed.texts, by simp, fun sql old last new same => ?_⟩
    obtain ⟨entry, mem, rfl⟩ := List.mem_map.mp old
    cases List.mem_singleton.mp new
    exact bne_iff_ne.mp (List.lookup_eq_none_iff.mp unknown entry mem) same.symm
  · rw [same]
    exact ⟨handles true, keyed.texts⟩

theorem rebind (keyed : cache.Keyed) (handle id : UInt32) : (cache.rebind handle id).Keyed :=
  keyed.modify fun _ => rfl

theorem forgetUnreferenced (keyed : cache.Keyed) : cache.forgetUnreferenced.Keyed :=
  keyed.of_fewer (List.filter_sublist.map _) List.filter_sublist

theorem lookup_iff (keyed : cache.Keyed) {sql : String} {handle : UInt32} :
    cache.bySql.lookup sql = some handle ↔ (sql, handle) ∈ cache.bySql := by
  constructor
  · intro found
    obtain ⟨before, after, eq, _⟩ := List.lookup_eq_some_iff.mp found
    rw [eq]
    exact List.mem_append_right _ (.head _)
  · intro mem
    cases found : cache.bySql.lookup sql with
    | none => exact absurd rfl (bne_iff_ne.mp (List.lookup_eq_none_iff.mp found _ mem))
    | some other =>
      obtain ⟨before, after, eq, _⟩ := List.lookup_eq_some_iff.mp found
      have mem' : (sql, other) ∈ cache.bySql := eq ▸ List.mem_append_right _ (.head _)
      exact congrArg (some ·.2) (List.inj_on_of_nodup_map keyed.texts mem' mem rfl)

theorem cached (keyed : cache.Keyed) (op : Client.Cached cache cache') : cache'.Keyed := by
  cases op with
  | acquired sql =>
    unfold acquire
    split
    · exact keyed
    · dsimp only
      split
      · exact ⟨keyed.handles, keyed.texts⟩
      · have ticked : Keyed { cache with tick := cache.tick + 1 } := ⟨keyed.handles, keyed.texts⟩
        exact ticked.modify fun _ => rfl
  | inserted statement => exact keyed.insert statement
  | released handle =>
    unfold release
    split
    · exact keyed
    · dsimp only
      split
      · exact keyed.drop handle
      · exact keyed.modify fun _ => rfl
  | cleared => exact ⟨.nil, .nil⟩

end Keyed

end StatementCache

variable {env : Env} {command : Command} {options : StatementOptions} {c c' : Client} {w w' : World}

/-- The cache keeps its keys apart if it did so before. -/
def StaysKeyed (c c' : Client) : Prop := c.ctx.statements.Keyed → c'.ctx.statements.Keyed

instance : Overlooks StaysKeyed where
  refl _ := id
  trans _ _ _ h h' := h' ∘ h
  same statements _ keyed := statements ▸ keyed
  cached op keyed := keyed.cached op

/-! ## New sessions -/

namespace Exchange

theorem keyed_connect {wantSetUp : Bool} {channel : Channel} {ctx : Session.Context}
    {journal : Journal} (h : connect env wantSetUp w = .ok (channel, ctx, journal) w') :
    ctx.statements.Keyed := by
  obtain ⟨⟨channel', outcome⟩, w₁, _, h⟩ := EStateM.ok_of_bind h
  obtain ⟨_, w₂, _, h⟩ := EStateM.ok_of_bind h
  have fresh : (Session.Context.new outcome env.opts).statements.Keyed := StatementCache.keyed_new ..
  cases wantSetUp with
  | false =>
    cases h
    exact fresh
  | true =>
    have ready : setUpSession env channel' (.new outcome env.opts) w₂ = _ := h
    unfold setUpSession at ready
    split at ready
    · next c set =>
      cases ready
      exact (overlooked_setUp (r := StaysKeyed)).result set fresh
    · cases ready

/-- A new session takes the statements of the lost one over. -/
theorem keyed_reconnect : Along StaysKeyed (reconnect env) := by
  intro c keyed
  unfold reconnect
  split <;> exact keyed

theorem keyed_recordProperty {property : Session.Property} (c : Client) :
    StaysKeyed c (c.withContext (·.recordProperty property)) := by
  cases property <;> exact id

theorem keyed_replayProperty {property : Session.Property} :
    Along StaysKeyed (replayProperty env property) := by
  have recorded : Along StaysKeyed (modify (·.withContext (·.recordProperty property)) :
      EStateM Error Client PUnit) := .modify fun c => keyed_recordProperty c
  unfold replayProperty
  split
  · exact .bind overlooked_executeOnce fun _ => recorded
  · exact recorded

theorem keyed_prepareAgain {statement : PreparedStatement} :
    Along StaysKeyed (prepareAgain env statement) := by
  refine .bind undisturbed_send.overlooked fun _ => .bind overlooked_readFor fun _ => ?_
  split
  · exact .modify fun _ keyed => keyed.rebind ..
  · exact fun _ => id

theorem keyed_restoreSession {lost : Session.Context} :
    Along StaysKeyed (restoreSession env lost) := by
  refine .bind overlooked_setTimeout fun _ => .bind (.forM fun _ => keyed_replayProperty) fun _ => ?_
  refine .bind (.modify fun _ keyed => keyed.forgetUnreferenced) fun _ => .get_bind fun _ => ?_
  exact .forM fun _ => keyed_prepareAgain

theorem keyed_failover : Along StaysKeyed (noteStranded (failover env command)) := by
  have recovers : Along StaysKeyed (failover env command) :=
    .get_bind fun _ => .bind (.modify fun _ => id) fun _ => .bind keyed_reconnect fun _ =>
      .bind keyed_restoreSession fun _ => overlooked_replayLog
  intro c
  unfold noteStranded
  split
  · next ended => exact recovers.result ended
  · next ended =>
    have kept := recovers.result ended
    exact kept

/-! ## Calls -/

theorem keyed_execute : Along StaysKeyed (execute env command options) := by
  refine .bind overlooked_settle fun _ => .bind (.attempt overlooked_executeOnce) fun result => ?_
  split
  · exact .pure _
  · refine .get_bind fun c => ?_
    split
    · exact .bind keyed_failover fun _ => overlooked_executeOnce
    · exact .throw _

/-- Has the server prepare a statement, whatever the cache knows. -/
def prepareAnew (env : Env) (sql : String) : EStateM Error Client PreparedStatement := do
  match ← execute env (.prepare sql) {} with
  | .prepared statement => return statement
  | _ => Client.fail (.protocol .notPrepared)

/-- A statement of the cache is given out at once, and the server is asked for others. -/
theorem prepare_eq (env : Env) (sql : String) (c : Client) :
    prepare env sql c = match (c.ctx.statements.acquire sql).1 with
      | some statement =>
        .ok statement (c.withContext ({ · with statements := (c.ctx.statements.acquire sql).2 }))
      | none => prepareAnew env sql c := by
  have looked : (MonadState.get : EStateM Error Client Client) c = .ok c c := rfl
  refine (EStateM.bind_of_ok looked).trans ?_
  generalize c.ctx.statements.acquire sql = cached
  obtain ⟨_ | statement, statements⟩ := cached <;> rfl

theorem keyed_prepare {sql : String} : Along StaysKeyed (prepare env sql) := by
  intro c
  rw [prepare_eq]
  split
  · exact Overlooks.cached (.acquired sql)
  · have asked : Along StaysKeyed (prepareAnew env sql) := by
      refine .bind keyed_execute fun response => ?_
      split
      · exact .pure _
      · exact fun _ => id
    exact asked c

theorem keyed_executeBatch {sql : String} {paramSets : List (List Value)} :
    Along StaysKeyed (executeBatch env sql paramSets) := by
  unfold executeBatch
  split
  · refine .bind keyed_prepare fun _ => .bind (.attempt overlooked_runBatch) fun _ => ?_
    refine .bind (.attempt overlooked_closeStatement) fun _ => ?_
    split
    · exact .throw _
    · exact .throw _
    · exact .pure _
  · exact .bind overlooked_runBatch fun _ => .pure _

theorem keyed_applyProperty {property : Session.Property} :
    Along StaysKeyed (applyProperty env property) := by
  cases property with
  | networkTimeout timeout => exact overlooked_setTimeout
  | readOnly on => exact .pure _
  | autocommit _ | database _ | isolation _ => exact .bind keyed_execute fun _ => .pure _

theorem keyed_setProperty {property : Session.Property} :
    Along StaysKeyed (setProperty env property) :=
  .bind keyed_applyProperty fun _ => .modify keyed_recordProperty

theorem keyed_reset : Along StaysKeyed (reset env) := by
  have rest (onServer : Bool) : Along StaysKeyed (do
      (Session.resetPlan (← get).ctx.changed env.opts onServer).forM (applyProperty env)
      modify fun c => (c.withContext (·.afterReset env.opts)).note .reset) :=
    .get_bind fun _ => .bind (.forM fun _ => keyed_applyProperty) fun _ => .modify fun _ => id
  refine .bind overlooked_settle fun _ => .bind overlooked_usesServerReset fun onServer => ?_
  dsimp only
  split
  · refine .bind overlooked_executeOnce fun _ => ?_
    exact .bind (.modify fun _ => Overlooks.cached .cleared) fun _ => rest onServer
  · refine .get_bind fun _ => ?_
    split
    · exact .bind overlooked_executeOnce fun _ => rest onServer
    · exact rest onServer

end Exchange

namespace Call

variable {call : Call}

theorem keyed_body : Along StaysKeyed (call.body env) := by
  open Exchange in
  cases call with
  | execute command options => exact .bind keyed_execute fun _ => .pure _
  | executeAll commands options => exact .bind overlooked_runBatch fun _ => .pure _
  | executeBatch sql paramSets => exact .bind keyed_executeBatch fun _ => .pure _
  | sendOne command => exact .bind overlooked_sendOne fun _ => .pure _
  | readResponse options => exact .bind overlooked_readResponse fun _ => .pure _
  | readStreaming => exact .bind overlooked_readStreaming fun _ => .pure _
  | abandonStreaming => exact overlooked_settleStreaming
  | prepare sql => exact .bind keyed_prepare fun _ => .pure _
  | closeStatement statement => exact overlooked_closeStatement
  | setProperty property => exact keyed_setProperty
  | reset => exact keyed_reset
  | ping => exact .bind keyed_execute fun _ => .pure _

theorem keyed_perform : Along StaysKeyed (call.perform env) := by
  intro c keyed
  cases closed : c.isClosed with
  | true =>
    obtain ⟨world, same⟩ := call.perform_of_isClosed env closed
    rw [same]
    exact keyed
  | false =>
    rw [(call.guarded_perform env closed).ctx]
    unfold attempt
    split
    · exact keyed
    · refine keyed_body _ ?_
      rw [Client.ctx_armed]
      exact keyed

end Call

/-! ## Clients -/

theorem Client.keyed_new (opened : Client.new env w = .ok c w') : c.ctx.statements.Keyed := by
  unfold Client.new at opened
  split at opened
  · cases opened
  · next connected =>
    cases opened
    exact Exchange.keyed_connect connected

theorem Reached.keyed (reached : Reached env c) : c.ctx.statements.Keyed := by
  induction reached with
  | opened opened => exact Client.keyed_new opened
  | called call _ ih => exact call.keyed_perform _ ih
  | elsewhere _ _ ih => exact ih

/-- A client to which calls were made, and which may be in the midst of another one: these are the runs
that a call makes up to a command that loses the connection. A connection that only runs one statement
from aside has no calls before it. -/
inductive Underway (env : Env) : Client → Prop where
  | reached {c : Client} : Reached env c → Underway env c
  | aside {w w' : World} {channel : Channel} {ctx : Session.Context} {journal : Journal} :
      Exchange.connect env false w = .ok (channel, ctx, journal) w' →
      Underway env (.idle channel w' ctx)
  | armed {c : Client} (timeout : Option Nat) : Underway env c → Underway env (c.armed timeout)
  | settled {c : Client} : Underway env c → Underway env (Exchange.settle env c).state
  | asked {c : Client} (command : Command) (options : StatementOptions) : Underway env c →
      Underway env (Exchange.executeOnce env command options c).state
  | executed {c : Client} (command : Command) (options : StatementOptions) : Underway env c →
      Underway env (Exchange.execute env command options c).state
  | limited {c : Client} (timeout : Option Nat) : Underway env c →
      Underway env (Exchange.setTimeout timeout c).state
  | versioned {c : Client} : Underway env c → Underway env (Exchange.usesServerReset env c).state
  | cleared {c : Client} : Underway env c → Underway env
      (c.withContext fun ctx => { ctx with statements := ctx.statements.clear.2 })

theorem Underway.keyed (underway : Underway env c) : c.ctx.statements.Keyed := by
  open Exchange in
  induction underway with
  | reached reached => exact reached.keyed
  | aside connected => exact keyed_connect connected
  | armed timeout _ ih =>
    rw [Client.ctx_armed]
    exact ih
  | settled _ ih => exact overlooked_settle (r := StaysKeyed) _ ih
  | asked _ _ _ ih => exact overlooked_executeOnce (r := StaysKeyed) _ ih
  | executed _ _ _ ih => exact keyed_execute _ ih
  | limited _ _ ih => exact overlooked_setTimeout (r := StaysKeyed) _ ih
  | versioned _ ih => exact overlooked_usesServerReset (r := StaysKeyed) _ ih
  | cleared _ ih => exact ih.cached .cleared

end SqlWire
