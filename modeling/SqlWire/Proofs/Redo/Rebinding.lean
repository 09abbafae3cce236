import SqlWire.Proofs.Redo.Recovery
import SqlWire.Proofs.Statements.Answers
import SqlWire.Proofs.Statements.Keys

/-!
# Handles on a new session

The ids of statements are those of a session, and a new session may give out the same ids for other
texts. A failover has it prepare every statement that somebody holds, in any order, and binds each handle
to the id that comes back for its text. `Prepares` records these ids, and `Renewed` says what the cache
makes of them: the entries that somebody holds go by their new ids, and all others leave with their texts
(`failover_rebinds`).

The id is the one in the first packet of the answer, whatever definitions follow (`Reader.Bears`). Each
answer is filed under the handle of its statement, and no two statements have one handle, so an id that
was bound before stays as it is (`find_rebindAll`).
-/

namespace SqlWire

open EStateM (Result)
open Net (Env World)

/-! ## The id in an answer -/

namespace Reader

open Session (Context)

variable {r r' next : Reader} {ctx ctx' : Context} {id : UInt32} {packet : Bytes} {payload : ByteArray}
  {wanted : ReadStep}

/-- The first packet of the response was read and gave this id, unless the server refuses. -/
structure Bears (r : Reader) (id : UInt32) : Prop where
  begun : r.stage ≠ .start
  given : r.error = none → r.pending.map (·.statementId) = some id

theorem bears_fail (r : Reader) (e : ServerError) : (r.fail e).Bears id := ⟨nofun, nofun⟩

theorem afterParams_ne (r : Reader) : r.afterParams ≠ .start := by
  unfold afterParams
  split <;> nofun

theorem bears_definition {add : Column → Pending → Pending} {stage : Reader → Stage}
    (read : r.definition packet ctx add stage = .ok wanted (r', ctx')) (bears : r.Bears id)
    (same : ∀ column p, (add column p).statementId = p.statementId) (begun : ∀ r, stage r ≠ .start) :
    r'.Bears id := by
  unfold definition at read
  split at read
  · cases read
  · next pending held =>
    split at read <;> cases read
    refine ⟨begun _, fun whole => ?_⟩
    have given := bears.given whole
    rw [held] at given
    exact (congrArg some (same _ pending)).trans given

theorem bears_definitionsEnd (read : r.definitionsEnd packet ctx next = .ok wanted (r', ctx'))
    (bears : next.Bears id) : r'.Bears id := by
  unfold definitionsEnd at read
  split at read <;> cases read
  exact bears

theorem bears_step (bears : r.Bears id) (stage : r.stage.isPrepared)
    (read : step payload (r, ctx) = .ok wanted (r', ctx')) : r'.Bears id := by
  dsimp only [step] at read
  split at read
  · split at read <;> cases read
    exact bears_fail ..
  unfold accept at read
  dsimp only at read
  split at read
  case h_1 start => exact absurd start bears.begun
  case h_2 between | h_3 between | h_4 between =>
    rw [between] at stage
    cases stage
  case h_5 =>
    refine bears_definition read bears (fun _ _ => rfl) fun r => ?_
    split
    · nofun
    · split
      · exact afterParams_ne r
      · nofun
  case h_6 => exact bears_definitionsEnd read ⟨afterParams_ne r, bears.given⟩
  case h_7 =>
    refine bears_definition read bears (fun _ _ => rfl) fun r => ?_
    split
    · nofun
    · split <;> nofun
  case h_8 => exact bears_definitionsEnd read ⟨nofun, bears.given⟩
  case h_9 => cases read

/-- The first packet gives the id, or the server refuses. -/
theorem bears_first (kind : r.kind = .prepare) (start : r.stage = .start)
    (read : step payload (r, ctx) = .ok wanted (r', ctx')) :
    (∃ ok, PrepareOk.parse (Bytes.ofWire payload) = .ok ok ∧ r'.Bears ok.statementId) ∨
      r'.isDone ∧ r'.error.isSome := by
  dsimp only [step] at read
  split at read
  · split at read <;> cases read
    exact .inr ⟨rfl, rfl⟩
  unfold accept at read
  dsimp only at read
  rw [start, kind] at read
  have first : r.firstOfPrepare (Bytes.ofWire payload) ctx = .ok wanted (r', ctx') := read
  unfold firstOfPrepare at first
  split at first
  · split at first <;> cases first
    next ok parsed =>
    refine .inl ⟨ok, parsed, ?_, fun _ => rfl⟩
    dsimp only
    split
    · exact afterParams_ne _
    · nofun
  · cases first

theorem Reads.bears {packets left : List ByteArray} {stop : Exchange.Stop}
    (reads : r.Reads packets r' stop left) (bears : r.Bears id) (kind : r.kind = .prepare)
    (stage : r.stage.isPrepared) : r'.Bears id := by
  induction reads with
  | done => exact bears
  | suspended _ step => exact bears_step bears stage step
  | next _ step _ _ ih =>
    exact ih (bears_step bears stage step) ((kind_step step).trans kind)
      (straight_step kind stage _ step).1

/-- The statement that the response gives has the id. -/
theorem Bears.id_eq {statement : PreparedStatement} (bears : r.Bears id)
    (finish : r.finish = .ok (.ok (.prepared statement))) : id = statement.id := by
  unfold Reader.finish at finish
  split at finish
  · cases finish
  · next whole =>
    split at finish
    · cases finish
    · split at finish
      case h_2 =>
        split at finish <;> cases finish
        next held =>
        have given := bears.given whole
        rw [held] at given
        exact Option.some_inj.mp given.symm
      all_goals cases finish

theorem finish_of_error (refused : r.error.isSome) {response : Response} :
    r.finish ≠ .ok (.ok response) := by
  obtain ⟨e, eq⟩ := Option.isSome_iff_exists.mp refused
  unfold Reader.finish
  rw [eq]
  nofun

end Reader

variable {env : Env} {command : Command} {mark : Mark} {options : StatementOptions}
  {statement : PreparedStatement} {sql : String} {id : UInt32}
  {bindings : List (PreparedStatement × UInt32)} {c c' c₁ : Client}

/-! ## The cache of a new session -/

/-- The entry with another id. -/
def CacheEntry.rebound (e : CacheEntry) (id : UInt32) : CacheEntry :=
  { e with statement := { e.statement with id } }

namespace StatementCache

variable {cache lost : StatementCache} {e : CacheEntry} {handle handle' : UInt32}

/-- Binds the handles of these statements to these ids, one by one. -/
def rebindAll (cache : StatementCache) (bindings : List (PreparedStatement × UInt32)) : StatementCache :=
  bindings.foldl (fun cache bound => cache.rebind bound.1.handle bound.2) cache

theorem find_rebind : entry? (cache.rebind handle id) handle' =
    (cache.entry? handle').map fun e => if handle' = handle then e.rebound id else e :=
  find_modify_of_handle fun _ => rfl

theorem Keyed.rebindAll (keyed : cache.Keyed) : (cache.rebindAll bindings).Keyed := by
  induction bindings generalizing cache with
  | nil => exact keyed
  | cons bound bindings ih => exact ih (keyed.rebind ..)

theorem bySql_rebindAll : (cache.rebindAll bindings).bySql = cache.bySql := by
  induction bindings generalizing cache with
  | nil => rfl
  | cons bound bindings ih => exact ih

/-- A handle that is not among these keeps its id. -/
theorem find_rebindAll_of_not_mem (other : handle ∉ bindings.map (·.1.handle)) :
    entry? (cache.rebindAll bindings) handle = cache.entry? handle := by
  induction bindings generalizing cache with
  | nil => rfl
  | cons bound bindings ih =>
    obtain ⟨ne, other⟩ := not_or.mp (List.mem_cons.not.mp other)
    refine (ih other).trans ?_
    rw [find_rebind]
    simp [ne]

theorem find_rebindAll_of_none (missing : cache.entry? handle = none) :
    entry? (cache.rebindAll bindings) handle = none := by
  induction bindings generalizing cache with
  | nil => exact missing
  | cons bound bindings ih =>
    refine ih ?_
    rw [find_rebind, missing]
    rfl

/-- Where no handle comes twice, each one goes by its new id in the end. -/
theorem find_rebindAll (nodup : (bindings.map (·.1.handle)).Nodup) (mem : (statement, id) ∈ bindings) :
    entry? (cache.rebindAll bindings) statement.handle =
      (cache.entry? statement.handle).map (·.rebound id) := by
  induction bindings generalizing cache with
  | nil => cases mem
  | cons bound bindings ih =>
    obtain ⟨once, nodup⟩ := List.nodup_cons.mp nodup
    rcases List.mem_cons.mp mem with rfl | later
    · refine (find_rebindAll_of_not_mem once).trans ?_
      rw [find_rebind]
      simp
    · have other : statement.handle ≠ bound.1.handle := fun same =>
        once (List.mem_map.mpr ⟨(statement, id), later, same⟩)
      refine (ih nodup later).trans ?_
      rw [find_rebind]
      simp [other]

/-- What the cache of a lost session is on a new one, which has given these ids. -/
structure Renewed (bindings : List (PreparedStatement × UInt32)) (lost cache : StatementCache) : Prop where
  /-- Who holds a statement has it under the new id. -/
  held : ∀ {handle e}, lost.entry? handle = some e → 0 < e.refCount →
    ∃ id, (e.statement, id) ∈ bindings ∧ cache.entry? handle = some (e.rebound id)
  gone : ∀ handle, lost.holds handle = false → cache.entry? handle = none
  /-- No entry is as it was. -/
  fresh : ∀ e ∈ cache.entries, ∃ old ∈ lost.entries, 0 < old.refCount ∧
    ∃ id, (old.statement, id) ∈ bindings ∧ e = old.rebound id
  texts : ∀ {sql handle}, (sql, handle) ∈ cache.bySql ↔
    (sql, handle) ∈ lost.bySql ∧ lost.holds handle = true

theorem holds_iff (keyed : cache.Keyed) :
    cache.holds handle = true ↔ ∃ e, cache.entry? handle = some e ∧ 0 < e.refCount := by
  unfold holds
  rw [List.any_eq_true]
  constructor
  · rintro ⟨e, mem, own⟩
    obtain ⟨own, held⟩ := Bool.and_eq_true_iff.mp own
    cases beq_iff_eq.mp own
    exact ⟨e, find_of_nodup keyed.handles mem, of_decide_eq_true held⟩
  · rintro ⟨e, found, held⟩
    refine ⟨e, mem_of_find found, Bool.and_eq_true_iff.mpr ⟨?_, decide_eq_true held⟩⟩
    exact beq_iff_eq.mpr (handle_of_find found)

theorem find_forgetUnreferenced (keyed : cache.Keyed) (found : cache.entry? handle = some e)
    (held : 0 < e.refCount) : cache.forgetUnreferenced.entry? handle = some e := by
  have mem : e ∈ cache.forgetUnreferenced.entries :=
    List.mem_filter.mpr ⟨mem_of_find found, decide_eq_true held⟩
  rw [← handle_of_find found]
  exact find_of_nodup keyed.forgetUnreferenced.handles mem

theorem find_forgetUnreferenced_eq_none (unheld : cache.holds handle = false) :
    cache.forgetUnreferenced.entry? handle = none := by
  rwa [← isSome_serverId?_forgetUnreferenced, serverId?, Option.isSome_map,
    Option.isSome_eq_false_iff, Option.isNone_iff_eq_none] at unheld

theorem mem_bySql_forgetUnreferenced {sql : String} : (sql, handle) ∈ cache.forgetUnreferenced.bySql ↔
    (sql, handle) ∈ cache.bySql ∧ cache.holds handle = true := by
  rw [← isSome_serverId?_forgetUnreferenced, isSome_serverId?]
  exact List.mem_filter

theorem referenced_forgetUnreferenced : cache.forgetUnreferenced.referenced = cache.referenced := by
  unfold referenced forgetUnreferenced
  rw [List.filter_filter]
  simp

/-- What is forgotten and bound again is renewed, whatever the order. -/
theorem renewed_rebindAll (keyed : lost.Keyed) (all : (bindings.map Prod.fst).Perm lost.referenced) :
    Renewed bindings lost (lost.forgetUnreferenced.rebindAll bindings) := by
  have nodup : (bindings.map (·.1.handle)).Nodup := by
    have handles := all.map (·.handle)
    rw [List.map_map] at handles
    refine handles.nodup_iff.mpr ?_
    unfold referenced
    rw [List.map_map]
    exact keyed.forgetUnreferenced.handles
  have held {handle : UInt32} {e : CacheEntry} (found : lost.entry? handle = some e)
      (positive : 0 < e.refCount) : ∃ id, (e.statement, id) ∈ bindings ∧
        entry? (lost.forgetUnreferenced.rebindAll bindings) handle = some (e.rebound id) := by
    have mem : e.statement ∈ bindings.map Prod.fst := all.mem_iff.mpr <|
      List.mem_map_of_mem (List.mem_filter.mpr ⟨mem_of_find found, decide_eq_true positive⟩)
    obtain ⟨⟨statement, id⟩, mem, rfl⟩ := List.mem_map.mp mem
    refine ⟨id, mem, ?_⟩
    have kept := find_forgetUnreferenced keyed found positive
    rw [← handle_of_find found] at kept ⊢
    rw [find_rebindAll nodup mem, kept]
    rfl
  have gone (handle : UInt32) (unheld : lost.holds handle = false) :
      entry? (lost.forgetUnreferenced.rebindAll bindings) handle = none :=
    find_rebindAll_of_none (find_forgetUnreferenced_eq_none unheld)
  refine ⟨held, gone, fun e mem => ?_, ?_⟩
  · have found := find_of_nodup keyed.forgetUnreferenced.rebindAll.handles mem
    cases holds : lost.holds e.statement.handle with
    | false => cases found.symm.trans (gone _ holds)
    | true =>
      obtain ⟨old, own, positive⟩ := (holds_iff keyed).mp holds
      obtain ⟨id, mem, bound⟩ := held own positive
      rw [found] at bound
      exact ⟨old, mem_of_find own, positive, id, mem, Option.some_inj.mp bound⟩
  · rw [bySql_rebindAll]
    exact mem_bySql_forgetUnreferenced

theorem fst_acquire (cache : StatementCache) (sql : String) : (cache.acquire sql).1 =
    (cache.bySql.lookup sql).bind fun handle => (cache.entry? handle).map (·.statement) := by
  unfold acquire
  cases cache.bySql.lookup sql with
  | none => rfl
  | some handle =>
    dsimp only [Option.bind_some]
    split <;> next found =>
      have found : cache.entry? handle = _ := found
      rw [found]
      rfl

/-- What nobody held is not given out again. -/
theorem Renewed.acquire_eq_none {sql : String} (renewed : Renewed bindings lost cache)
    (keyed : lost.Keyed) (keyed' : cache.Keyed)
    (unheld : ∀ statement, (lost.acquire sql).1 = some statement → lost.holds statement.handle = false) :
    (cache.acquire sql).1 = none := by
  rw [fst_acquire]
  cases mapped : cache.bySql.lookup sql with
  | none => rfl
  | some handle =>
    obtain ⟨before, holds⟩ := renewed.texts.mp (keyed'.lookup_iff.mp mapped)
    obtain ⟨e, found, -⟩ := (holds_iff keyed).mp holds
    have acquired : (lost.acquire sql).1 = some e.statement := by
      rw [fst_acquire, keyed.lookup_iff.mpr before, Option.bind_some, found]
      rfl
    have none := unheld _ acquired
    rw [handle_of_find found, holds] at none
    cases none

end StatementCache

namespace Exchange

/-! ## Statements that are prepared again -/

/-- The server is sent the text, and the first packet of its answer gives this id. -/
def Returns (env : Env) (sql : String) (id : UInt32) (c : Client) : Prop :=
  ∃ mark c₁ payload c₂ ok, send env (.prepare sql) c = .ok mark c₁ ∧
    Client.onLine (Line.readPacket env) { c₁ with channel := c₁.channel.restore mark } =
      .ok payload c₂ ∧
    PrepareOk.parse (Bytes.ofWire payload) = .ok ok ∧ ok.statementId = id

/-- Statements are prepared again one by one, and the server returns these ids for their texts. -/
inductive Prepares (env : Env) : Client → List (PreparedStatement × UInt32) → Client → Prop where
  | none {c : Client} : Prepares env c [] c
  | next {c c₁ c' : Client} {statement : PreparedStatement} {id : UInt32}
      {bindings : List (PreparedStatement × UInt32)} : Returns env statement.sql id c →
      prepareAgain env statement c = .ok () c₁ → Prepares env c₁ bindings c' →
      Prepares env c ((statement, id) :: bindings) c'

/-- A response that is not complete begins with a packet. -/
theorem first_of_readUntil {reader reader' : Reader} (going : reader.isDone = false)
    (read : readUntil env command reader c = .ok (reader', .done) c') :
    ∃ payload c₁ wanted reader₁ ctx packets left,
      Client.onLine (Line.readPacket env) c = .ok payload c₁ ∧
      Reader.step payload (reader, c₁.ctx) = .ok wanted (reader₁, ctx) ∧
      reader₁.Reads packets reader' .done left := by
  rw [readUntil, if_neg (by simp [going])] at read
  split at read
  · cases read
  · next payload c₁ packet =>
    split at read
    · cases read
    · cases read
    · next step =>
      split at read
      · cases read
      · obtain ⟨packets, left, reads⟩ := reads_of_readUntil read
        exact ⟨payload, c₁, _, _, _, packets, left, packet, step, reads⟩
    all_goals
      next step =>
      obtain ⟨packets, left, reads⟩ := reads_of_readUntil read
      exact ⟨payload, c₁, _, _, _, packets, left, packet, step, reads⟩

/-- A statement has the id that the first packet gave. -/
theorem id_of_readFor (read : readFor env (.prepare sql) mark options c = .ok (.prepared statement) c') :
    ∃ payload c₁ ok, Client.onLine (Line.readPacket env)
        { c with channel := c.channel.restore mark } = .ok payload c₁ ∧
      PrepareOk.parse (Bytes.ofWire payload) = .ok ok ∧ ok.statementId = statement.id := by
  unfold readFor at read
  dsimp only at read
  split at read
  · cases read
  · cases read
  · next reader c₂ complete =>
    have finish := finish_of_finishResponse read
    obtain ⟨payload, c₁, wanted, reader₁, ctx, packets, left, packet, step, reads⟩ :=
      first_of_readUntil rfl complete
    rcases Reader.bears_first rfl rfl step with ⟨ok, parsed, bears⟩ | ⟨done, refused⟩
    · refine ⟨payload, c₁, ok, packet, parsed, Reader.Bears.id_eq ?_ finish⟩
      have kind : reader₁.kind = .prepare := Reader.kind_step step
      have stage : reader₁.stage.isPrepared := (Reader.straight_step rfl rfl payload step).1
      exact reads.bears bears kind stage
    · -- A refusal is the whole response.
      cases reads with
      | done => exact absurd finish (Reader.finish_of_error refused)
      | next going => cases going.symm.trans done

theorem returns_of_prepareAgain (again : prepareAgain env statement c = .ok () c') :
    ∃ id, Returns env statement.sql id c ∧
      c'.ctx.statements = c.ctx.statements.rebind statement.handle id := by
  obtain ⟨mark, c₁, fresh, c₂, sent, read, bound⟩ := statements_prepareAgain again
  obtain ⟨payload, c₃, ok, packet, parsed, same⟩ := id_of_readFor read
  exact ⟨fresh.id, ⟨mark, c₁, payload, c₃, ok, sent, packet, parsed, same⟩, bound⟩

theorem prepares_of_forM {statements : List PreparedStatement}
    (again : statements.forM (prepareAgain env) c = .ok () c') :
    ∃ bindings, bindings.map Prod.fst = statements ∧ Prepares env c bindings c' ∧
      c'.ctx.statements = c.ctx.statements.rebindAll bindings := by
  induction statements generalizing c with
  | nil =>
    cases again
    exact ⟨[], rfl, .none, rfl⟩
  | cons statement statements ih =>
    obtain ⟨_, c₁, first, rest⟩ := EStateM.ok_of_bind again
    obtain ⟨id, returns, bound⟩ := returns_of_prepareAgain first
    obtain ⟨bindings, all, prepares, bounds⟩ := ih rest
    refine ⟨(statement, id) :: bindings, by rw [List.map_cons, all], .next returns first prepares, ?_⟩
    rw [bounds, bound]
    rfl

/-- Opens a new session with the properties of the lost one. No statement is prepared there yet. -/
def reopen (env : Env) (lost : Session.Context) : EStateM Error Client Unit := do
  reconnect env
  setTimeout lost.networkTimeout
  (changedProperties lost).forM (replayProperty env)

theorem statements_reopen {lost : Session.Context} (h : reopen env lost c = .ok () c') :
    c'.ctx.statements = c.ctx.statements := by
  obtain ⟨_, c₁, opened, h⟩ := EStateM.ok_of_bind h
  obtain ⟨_, c₂, timed, set⟩ := EStateM.ok_of_bind h
  rw [statements_replayProperties set, ctx_setTimeout timed]
  exact (reconnect_ok opened).2

theorem undisturbed_replayLog {log : Session.RedoLog} :
    Along Undisturbed (replayLog env log command) :=
  .bind (.modify fun _ => .of_same rfl rfl rfl) fun _ => .forM fun _ => undisturbed_replayCommand

/-- The client without the statements that nobody holds. -/
def forgetting (c : Client) : Client :=
  c.withContext fun ctx => { ctx with statements := ctx.statements.forgetUnreferenced }

/-- A failover that succeeds in its parts. -/
theorem parts_of_failover (recovered : failover env command c = .ok () c') :
    ∃ session bindings prepared,
      reopen env c.ctx (abandonSession c) = .ok () session ∧
      Prepares env (forgetting session) bindings prepared ∧
      replayLog env (c.ctx.redo.getD []) command prepared = .ok () c' ∧
      bindings.map Prod.fst = env.arrange c.ctx.statements.referenced ∧
      c'.ctx.statements = c.ctx.statements.forgetUnreferenced.rebindAll bindings := by
  have run : (reconnect env >>= fun _ => restoreSession env c.ctx >>= fun _ =>
    replayLog env (c.ctx.redo.getD []) command) (abandonSession c) = .ok () c' := recovered
  obtain ⟨_, c₁, opened, run⟩ := EStateM.ok_of_bind run
  obtain ⟨_, prepared, restored, replayed⟩ := EStateM.ok_of_bind run
  obtain ⟨_, c₂, timed, restored⟩ := EStateM.ok_of_bind restored
  obtain ⟨_, session, set, restored⟩ := EStateM.ok_of_bind restored
  have reopened : reopen env c.ctx (abandonSession c) = .ok () session :=
    (EStateM.bind_of_ok opened).trans ((EStateM.bind_of_ok timed).trans set)
  have same : session.ctx.statements = c.ctx.statements := by
    have kept := statements_reopen reopened
    exact kept
  have forgotten : (forgetting session).ctx.statements = c.ctx.statements.forgetUnreferenced :=
    congrArg StatementCache.forgetUnreferenced same
  have again : (env.arrange (forgetting session).ctx.statements.referenced).forM (prepareAgain env)
    (forgetting session) = .ok () prepared := restored
  rw [forgotten, StatementCache.referenced_forgetUnreferenced] at again
  obtain ⟨bindings, arranged, prepares, bound⟩ := prepares_of_forM again
  refine ⟨session, bindings, prepared, reopened, prepares, replayed, arranged, ?_⟩
  have last : c'.ctx.statements = prepared.ctx.statements :=
    (undisturbed_replayLog.result replayed).statements
  rw [last, bound, forgotten]

/-- A failover that succeeds, wherever calls have led to and in whatever order the statements are
prepared again: the new session prepares just those that somebody holds, their handles lead to the ids
that it returns for their texts, and the cache has nothing else. A prepare of any other text asks the
server. -/
theorem failover_rebinds (underway : Underway env c)
    (order : ∀ statements, (env.arrange statements).Perm statements)
    (recovered : failover env command c = .ok () c') :
    ∃ session bindings prepared,
      reopen env c.ctx (abandonSession c) = .ok () session ∧
      Prepares env (forgetting session) bindings prepared ∧
      replayLog env (c.ctx.redo.getD []) command prepared = .ok () c' ∧
      (bindings.map Prod.fst).Perm c.ctx.statements.referenced ∧
      StatementCache.Renewed bindings c.ctx.statements c'.ctx.statements ∧
      ∀ sql, (∀ statement, (c.ctx.statements.acquire sql).1 = some statement →
          c.ctx.statements.holds statement.handle = false) →
        prepare env sql c' = prepareAnew env sql c' := by
  have keyed := underway.keyed
  obtain ⟨session, bindings, prepared, reopened, prepares, replayed, arranged, kept⟩ :=
    parts_of_failover recovered
  have all : (bindings.map Prod.fst).Perm c.ctx.statements.referenced := arranged ▸ order _
  have renewed : StatementCache.Renewed bindings c.ctx.statements c'.ctx.statements := by
    rw [kept]
    exact StatementCache.renewed_rebindAll keyed all
  refine ⟨session, bindings, prepared, reopened, prepares, replayed, all, renewed, fun sql unheld => ?_⟩
  have keyed' : c'.ctx.statements.Keyed := kept ▸ keyed.forgetUnreferenced.rebindAll
  rw [prepare_eq, renewed.acquire_eq_none keyed keyed' unheld]

end Exchange

/-- What a server says that has prepared a statement with this id, without parameters and columns. -/
def returning (id : UInt8) : Bytes := [12, 0, 0, 1, 0, id, 0, 0, 0, 0, 0, 0, 0, 0, 0, 0]

/-- A server that lets a client in and answers so behind its set-up. -/
def answeringWith (answers : Bytes) : Net.Script :=
  ⟨(greetingPacket ++ okPacket 2 false ++ okPacket 1 false ++ answers).toWire, false⟩

/-- Two servers that number statements in another order. -/
def twoServers : World :=
  .start [answeringWith (okPacket 1 true ++ returning 1 ++ returning 2),
    answeringWith (returning 2 ++ okPacket 1 true)]

/-- A client that holds one statement and has given another one back, in a transaction that was cut. -/
def holdingOne : Client :=
  let calls := [Call.execute (.query "BEGIN") {}, .prepare "INSERT", .prepare "DELETE",
    .closeStatement ⟨2, 2, "DELETE", #[], #[]⟩]
  let idle := calls.foldl (fun c call => (call.perform replaying c).state)
    (.opened replaying twoServers)
  (Exchange.executeOnce replaying (.query "UPDATE") {} idle).state

/-- The first statement goes by the id that the second one had, and the second one is gone. -/
theorem failover_rebinds_holdingOne : ∃ c',
    Exchange.failover replaying (.query "UPDATE") holdingOne = .ok () c' ∧
      (∃ bindings, StatementCache.Renewed bindings holdingOne.ctx.statements c'.ctx.statements) ∧
      holdingOne.ctx.statements.serverId? 2 = some 2 ∧ c'.ctx.statements.serverId? 1 = some 2 ∧
      c'.ctx.statements.entry? 2 = none ∧
      Exchange.prepare replaying "DELETE" c' = Exchange.prepareAnew replaying "DELETE" c' := by
  have reached : Reached replaying (.opened replaying twoServers) := .of_opened (by decide +kernel)
  have underway : Underway replaying holdingOne :=
    .asked _ _ (.reached (.called _ (.called _ (.called _ (.called _ reached)))))
  obtain ⟨known, second, unheld⟩ : holdingOne.ctx.statements.serverId? 2 = some 2 ∧
      (holdingOne.ctx.statements.acquire "DELETE").1 = some ⟨2, 2, "DELETE", #[], #[]⟩ ∧
      holdingOne.ctx.statements.holds 2 = false := by decide +kernel
  obtain ⟨ok, bound⟩ :
      (Exchange.failover replaying (.query "UPDATE") holdingOne).error?.isNone = true ∧
      (Exchange.failover replaying (.query "UPDATE") holdingOne).state.ctx.statements.serverId? 1 =
        some 2 := by decide +kernel
  obtain ⟨⟨⟩, recovered⟩ := EStateM.Result.exists_ok ok
  obtain ⟨_, bindings, _, _, _, _, _, renewed, anew⟩ :=
    Exchange.failover_rebinds underway (fun _ => .refl _) recovered
  refine ⟨_, recovered, ⟨bindings, renewed⟩, known, bound, renewed.gone 2 unheld,
    anew "DELETE" fun statement acquired => ?_⟩
  cases second.symm.trans acquired
  exact unheld

end SqlWire
