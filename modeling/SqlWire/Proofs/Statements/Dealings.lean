import SqlWire.Exchange.Statement
import SqlWire.Proofs.Statements.Cache

/-!
# Dealings about statements

A server returns an id for each statement that it prepares, and the id stays open until the client
closes it or the server takes all statements away. A `Deal` is one such event, and `Deal.apply` says
what it leaves open: an id may be closed only while it is open, and never that of a statement somebody
holds. `Client.Deals` takes the run of a client apart into what it does on its own, commands that it
sends and responses that it reads to their end, and lists the deals among them.

`Balanced deals accounts cache` is how the ids that are open, the entries of the cache and the
references that were given out go together: each open id is the id of an entry, or one that the client
is about to take over or to close.
-/

namespace SqlWire

open Net (Env World)

/-- What passes between a client and its server about statements. -/
inductive Deal where
  /-- The server returned the id of a statement that it has prepared. -/
  | returned (id : UInt32)
  /-- The client closed an id, while it held statements with these ids. -/
  | closed (id : UInt32) (held : List UInt32)
  /-- The server took all statements away. -/
  | reset
  deriving DecidableEq, Repr

namespace Deal

/-- The ids that are open behind a deal. Only an open id is closed, and those of the statements that are
held stay open. -/
def apply (ids : List UInt32) : Deal → Option (List UInt32)
  | returned id => some (id :: ids)
  | closed id held =>
    if ids.contains id && held.all (ids.erase id).contains then some (ids.erase id) else none
  | reset => some []

/-- The ids that are open behind these deals; there are none before the first one. -/
def openBehind (deals : List Deal) : Option (List UInt32) := deals.foldlM apply []

theorem openBehind_concat {deals : List Deal} {deal : Deal} {ids : List UInt32}
    (before : openBehind deals = some ids) : openBehind (deals ++ [deal]) = apply ids deal := by
  unfold openBehind at *
  rw [List.foldlM_append, before]
  exact bind_pure (apply ids deal)

def isReturned : Deal → Bool
  | returned _ => true
  | _ => false

def isReset : Deal → Bool
  | reset => true
  | _ => false

/-- The statements do not exhaust the handles. -/
def Few (deals : List Deal) : Prop := deals.countP isReturned < UInt32.size - 1

theorem Few.of_append {deals more : List Deal} (few : Few (deals ++ more)) : Few deals := by
  unfold Few at *
  rw [List.countP_append] at few
  omega

/-- The deal that is made by sending a command. -/
def sent (c : Client) : Command → List Deal
  | .closeStatement id => [.closed id (c.ctx.statements.referenced.map (·.id))]
  | _ => []

/-- The deal that is made by the response to a command. When a local file was not sent in between, the
client takes the command as failed whatever the server makes of it. -/
def answered (command : Command) (infileError : Option Error) :
    Except ServerError Response → List Deal
  | .ok (.prepared statement) => [.returned statement.id]
  | .ok _ => if command = .resetConnection ∧ infileError.isNone then [.reset] else []
  | .error _ => []

end Deal

/-! ## Runs of a client -/

/-- A reader that begins with the response to a command. -/
def Reader.Begins (r : Reader) (command : Command) (ctx : Session.Context) : Prop :=
  ∃ options, r = new command ctx.deprecateEof options ∨ r = (new command ctx.deprecateEof options).discard

namespace Client

/-- The operations of the cache. -/
inductive Cached : StatementCache → StatementCache → Prop where
  | acquired {cache : StatementCache} (sql : String) : Cached cache (cache.acquire sql).2
  | inserted {cache : StatementCache} (statement : PreparedStatement) :
      Cached cache (cache.insert statement).2.2
  | released {cache : StatementCache} (handle : UInt32) : Cached cache (cache.release handle).2
  | cleared {cache : StatementCache} : Cached cache cache.clear.2

/-- What a client does without its server. -/
inductive Aside : Client → Client → Prop where
  /-- It changes what it knows of the session apart from the statements, or notes that the session is in
  its first state. -/
  | known {c c' : Client} : c'.line = c.line → c'.ctx.capabilities = c.ctx.capabilities →
      c'.ctx.statements = c.ctx.statements → c'.infileError = c.infileError →
      (c'.journal = c.journal ∨ c'.journal = c.journal ++ [.reset]) → Aside c c'
  | cached {c : Client} {statements : StatementCache} : Cached c.ctx.statements statements →
      Aside c (c.withContext ({ · with statements }))
  /-- It goes back to where a response begins. -/
  | restored {c : Client} (mark : Mark) : Aside c { c with channel := c.channel.restore mark }
  | limited {c : Client} {timeout : Option Nat} {channel : Channel} :
      c.channel.setTimeout timeout = .ok channel → Aside c { c with channel }
  /-- Flags and deadlines change. -/
  | world {c : Client} {world : World} : world.links = c.world.links → Aside c { c with world }
  | closed {c : Client} : Aside c c.closeChannel

/-- One step of a run, and the deals that are made by it. -/
inductive Step (env : Env) : Client → List Deal → Client → Prop where
  | aside {c c' : Client} : Aside c c' → Step env c [] c'
  | sent {c c' : Client} {command : Command} {mark : Mark} :
      Exchange.send env command c = .ok mark c' → Step env c (Deal.sent c command) c'
  | unsent {c c' : Client} {command : Command} {e : Error} :
      Exchange.send env command c = .error e c' → Step env c [] c'
  /-- A response was read to its end. -/
  | answered {c c₁ : Client} {command : Command} {reader reader' : Reader}
      {result : Except ServerError Response} : reader.Begins command c.ctx →
      Exchange.readUntil env command reader c = .ok (reader', .done) c₁ →
      reader'.finish = .ok result →
      Step env c (Deal.answered command c₁.infileError result)
        (Exchange.finishResponse command reader' c₁).state

/-- The deals that are made by a run. -/
inductive Deals (env : Env) (start : Client) : List Deal → Client → Prop where
  | none : Deals env start [] start
  | more {c c' : Client} {deals new : List Deal} : Deals env start deals c → Step env c new c' →
      Deals env start (deals ++ new) c'

theorem Deals.aside {env : Env} {start c c' : Client} {deals : List Deal} (dealt : Deals env start deals c)
    (aside : Aside c c') : Deals env start deals c' :=
  List.append_nil deals ▸ dealt.more (.aside aside)

end Client

/-! ## Accounts -/

/-- What the server has taken away. -/
structure Stale where
  /-- Statements that were held then. -/
  statements : List PreparedStatement
  /-- How often it took all statements away. -/
  resets : Nat

/-- Statements that were held are taken away. -/
def Stale.taken (stale : Stale) (held : List PreparedStatement) : Stale :=
  ⟨held ++ stale.statements, stale.resets + 1⟩

/-- Who has statements of the server. -/
structure Accounts where
  /-- Statements that were given out, once for each time that they were given out. -/
  held : List PreparedStatement
  stale : Stale
  /-- Ids that the server has returned and the cache is to take over. -/
  fresh : List UInt32
  /-- Ids that the cache has passed on to be closed. -/
  leaving : List UInt32

/-- Nothing is under way. -/
abbrev Accounts.rest (held : List PreparedStatement) (stale : Stale) : Accounts := ⟨held, stale, [], []⟩

/-- What is left of these statements when one with this handle is given back. -/
def afterRelease (held : List PreparedStatement) (handle : UInt32) : List PreparedStatement :=
  held.eraseP (·.handle == handle)

theorem afterRelease_cons (statement : PreparedStatement) (held : List PreparedStatement) :
    afterRelease (statement :: held) statement.handle = held :=
  List.eraseP_cons_of_pos (beq_self_eq_true _)

theorem map_afterRelease (held : List PreparedStatement) (handle : UInt32) :
    (afterRelease held handle).map (·.handle) = (held.map (·.handle)).erase handle := by
  unfold afterRelease
  induction held with
  | nil => rfl
  | cons first held ih =>
    rw [List.map_cons, List.eraseP_cons, List.erase_cons]
    cases first.handle == handle with
    | true => rfl
    | false => exact congrArg (first.handle :: ·) ih

/-- Each open id is that of an entry or under way, and each reference is with a holder. -/
structure Balanced (deals : List Deal) (accounts : Accounts) (cache : StatementCache) : Prop where
  ids : ∃ ids, Deal.openBehind deals = some ids ∧
    ids.Perm (accounts.fresh ++ (accounts.leaving ++ cache.ids))
  refs : ∀ handle, cache.refs handle = (accounts.held.map (·.handle)).count handle
  own : accounts.held ⊆ cache.prepared
  distinct : cache.Distinct
  stale : ∀ old ∈ accounts.stale.statements,
    old.handle ∉ cache.handles ∧ old.handle.toNat < cache.nextHandle.toNat
  numbered : cache.nextHandle.toNat + accounts.fresh.length ≤ deals.countP Deal.isReturned + 1

namespace Balanced

variable {deals : List Deal} {cache cache' : StatementCache} {held : List PreparedStatement}
  {stale : Stale} {leaving : List UInt32} {handle id : UInt32}

theorem start (capacity : Nat) (enabled : Bool) :
    Balanced [] (.rest [] ⟨[], 0⟩) (.new capacity enabled) where
  ids := ⟨[], rfl, .nil⟩
  refs _ := rfl
  own := List.nil_subset _
  distinct := StatementCache.distinct_new capacity enabled
  stale := nofun
  numbered := Nat.le_refl 1

theorem returned (h : Balanced deals (.rest held stale) cache) (id : UInt32) :
    Balanced (deals ++ [.returned id]) ⟨held, stale, [id], []⟩ cache where
  ids := by
    obtain ⟨ids, before, perm⟩ := h.ids
    exact ⟨id :: ids, Deal.openBehind_concat before, perm.cons id⟩
  refs := h.refs
  own := h.own
  distinct := h.distinct
  stale := h.stale
  numbered := by
    have before := h.numbered
    rw [List.countP_append]
    exact Nat.succ_le_succ before

/-- The statements that are held stay when others leave. -/
theorem own_of_refs (distinct : cache.Distinct) (fewer : cache'.prepared ⊆ cache.prepared)
    (own : held ⊆ cache.prepared)
    (refs : ∀ handle, cache'.refs handle = (held.map (·.handle)).count handle) :
    held ⊆ cache'.prepared := fun statement mem =>
  StatementCache.mem_prepared_of_refs distinct fewer (own mem) <| by
    rw [refs]
    exact List.count_pos_iff.mpr (List.mem_map_of_mem mem)

/-- The cache takes a statement over, and passes others on to be closed. -/
theorem inserted {statement : PreparedStatement} (few : Deal.Few deals)
    (h : Balanced deals ⟨held, stale, [statement.id], []⟩ cache) :
    Balanced deals ⟨(cache.insert statement).1 :: held, stale, [], (cache.insert statement).2.1⟩
      (cache.insert statement).2.2 := by
  have numbered : cache.nextHandle.toNat + 1 ≤ deals.countP Deal.isReturned + 1 := h.numbered
  have room : cache.nextHandle.toNat + 1 < UInt32.size := by
    unfold Deal.Few UInt32.size at *
    omega
  obtain ⟨cache₁, added, passes⟩ :
      ∃ cache₁, StatementCache.Added statement cache cache₁ ∧ StatementCache.Passes _ cache₁ _ :=
    StatementCache.passes_insert h.distinct room
  have next := (congrArg UInt32.toNat passes.nextHandle).trans added.nextHandle
  rw [StatementCache.handle_insert]
  have refs (handle : UInt32) : (cache.insert statement).2.2.refs handle =
      ((cache.nextHandle :: held.map (·.handle)).count handle) := by
    rw [passes.refs, added.refs, List.count_cons]
    split
    · next own =>
      have unheld := h.refs cache.nextHandle
      rw [StatementCache.refs_of_none (StatementCache.find_nextHandle h.distinct)] at unheld
      rw [own, ← unheld, beq_self_eq_true]
      rfl
    · next other => simp [h.refs, Ne.symm other]
  have own : { statement with handle := cache.nextHandle } :: held ⊆ cache₁.prepared := by
    rw [added.prepared]
    exact List.cons_subset.mpr ⟨List.mem_append_right _ List.mem_cons_self,
      fun _ mem => List.mem_append_left _ (h.own mem)⟩
  refine ⟨?_, refs, own_of_refs added.distinct passes.prepared own refs, passes.distinct,
    fun old mem => ?_, next ▸ numbered⟩
  · obtain ⟨ids, before, perm⟩ := h.ids
    exact ⟨ids, before, (perm.trans added.ids).trans passes.ids⟩
  · obtain ⟨absent, below⟩ := h.stale old mem
    refine ⟨fun present => ?_, next ▸ Nat.lt_succ_of_lt below⟩
    have present := StatementCache.handles_subset passes.prepared present
    rw [added.handles] at present
    rcases List.mem_append.mp present with before | last
    · exact absent before
    · rw [List.mem_singleton.mp last] at below
      exact Nat.lt_irrefl _ below

/-- An id that the cache has passed on is closed. No statement that is held goes by it. -/
theorem closed (h : Balanced deals ⟨held, stale, [], id :: leaving⟩ cache) :
    Balanced (deals ++ [.closed id (cache.referenced.map (·.id))]) ⟨held, stale, [], leaving⟩ cache := by
  refine ⟨?_, h.refs, h.own, h.distinct, h.stale, ?_⟩
  · obtain ⟨ids, before, perm⟩ := h.ids
    have perm : ids.Perm (id :: (leaving ++ cache.ids)) := perm
    have others : (ids.erase id).Perm (leaving ++ cache.ids) := by
      have erased := perm.erase id
      rwa [List.erase_cons_head] at erased
    have kept : cache.referenced.map (·.id) ⊆ cache.ids := by
      unfold StatementCache.referenced StatementCache.ids
      rw [List.map_map]
      exact (List.filter_sublist.map _).subset
    have own : id ∈ ids := perm.symm.mem_iff.mp List.mem_cons_self
    have allowed : ids.contains id && (cache.referenced.map (·.id)).all (ids.erase id).contains := by
      refine Bool.and_eq_true_iff.mpr ⟨List.contains_iff_mem.mpr own, ?_⟩
      refine List.all_eq_true.mpr fun other mem => ?_
      exact List.contains_iff_mem.mpr (others.symm.mem_iff.mp (List.mem_append_right _ (kept mem)))
    exact ⟨ids.erase id, (Deal.openBehind_concat before).trans (if_pos allowed), others⟩
  · rw [List.countP_append]
    exact h.numbered

/-- A reference is given back. -/
theorem released (h : Balanced deals (.rest held stale) cache) (handle : UInt32) :
    Balanced deals ⟨afterRelease held handle, stale, [], (cache.release handle).1.toList⟩
      (cache.release handle).2 := by
  have recounted := StatementCache.recounted_release h.distinct handle
  have refs (other : UInt32) : (cache.release handle).2.refs other =
      ((afterRelease held handle).map (·.handle)).count other := by
    rw [recounted.refs, h.refs, h.refs, map_afterRelease]
    split
    · next own => rw [own, List.count_erase_self]
    · next distinct => exact (List.count_erase_of_ne distinct).symm
  have own : afterRelease held handle ⊆ cache.prepared := List.Subset.trans List.eraseP_subset h.own
  refine ⟨?_, refs, own_of_refs h.distinct recounted.prepared own refs, recounted.distinct,
    fun old mem => ?_, ?_⟩
  · obtain ⟨ids, before, perm⟩ := h.ids
    exact ⟨ids, before, perm.trans recounted.ids⟩
  · rw [recounted.nextHandle]
    exact ⟨fun present => (h.stale old mem).1 (StatementCache.handles_subset recounted.prepared present),
      (h.stale old mem).2⟩
  · rw [recounted.nextHandle]
    exact h.numbered

/-- A reference is given out to a statement of the cache. -/
theorem acquired {sql : String} {statement : PreparedStatement}
    (h : Balanced deals (.rest held stale) cache) (found : (cache.acquire sql).1 = some statement) :
    Balanced deals (.rest (statement :: held) stale) (cache.acquire sql).2 := by
  obtain ⟨recounted, mem⟩ := StatementCache.recounted_acquire h.distinct found
  have refs (other : UInt32) : (cache.acquire sql).2.refs other =
      ((statement :: held).map (·.handle)).count other := by
    rw [recounted.refs, h.refs, h.refs, List.map_cons]
    split
    · next own => rw [own, List.count_cons_self]
    · next distinct => exact (List.count_cons_of_ne (Ne.symm distinct)).symm
  have own : statement :: held ⊆ cache.prepared := List.cons_subset.mpr ⟨mem, h.own⟩
  refine ⟨?_, refs, own_of_refs h.distinct recounted.prepared own refs, recounted.distinct,
    fun old mem => ?_, ?_⟩
  · obtain ⟨ids, before, perm⟩ := h.ids
    exact ⟨ids, before, perm.trans recounted.ids⟩
  · rw [recounted.nextHandle]
    exact ⟨fun present => (h.stale old mem).1 (StatementCache.handles_subset recounted.prepared present),
      (h.stale old mem).2⟩
  · rw [recounted.nextHandle]
    exact h.numbered

/-- The references of an entry are with the holders of its statement. -/
theorem refCount_eq {e : CacheEntry} (h : Balanced deals (.rest held stale) cache)
    (mem : e ∈ cache.entries) : e.refCount = held.count e.statement := by
  have entry : e.statement ∈ cache.prepared := List.mem_map_of_mem mem
  rw [← StatementCache.refs_of_find (StatementCache.find_of_mem h.distinct mem), h.refs,
    List.count_eq_countP, List.countP_map, List.count_eq_countP]
  refine List.countP_congr fun statement mem => ?_
  simp only [Function.comp, beq_iff_eq]
  exact ⟨StatementCache.eq_of_handle h.distinct (h.own mem) entry, congrArg PreparedStatement.handle⟩

/-- The server takes all statements away, and the cache drops them. -/
theorem cleared (h : Balanced deals (.rest held stale) cache) :
    Balanced (deals ++ [.reset]) (.rest [] (stale.taken held)) cache.clear.2 := by
  refine ⟨?_, fun _ => rfl, List.nil_subset _, ⟨.nil, nofun⟩, fun old mem => ⟨nofun, ?_⟩, ?_⟩
  · obtain ⟨ids, before, _⟩ := h.ids
    exact ⟨[], Deal.openBehind_concat before, .nil⟩
  · rcases List.mem_append.mp mem with held | before
    · refine h.distinct.below old.handle ?_
      rw [StatementCache.handles_eq]
      exact List.mem_map_of_mem (h.own held)
    · exact (h.stale old before).2
  · rw [List.countP_append]
    exact h.numbered

/-- A stale statement may be forgotten. -/
theorem forget {statements : List PreparedStatement} (h : Balanced deals (.rest held stale) cache)
    (fewer : statements ⊆ stale.statements) :
    Balanced deals (.rest held { stale with statements }) cache where
  ids := h.ids
  refs := h.refs
  own := h.own
  distinct := h.distinct
  stale old mem := h.stale old (fewer mem)
  numbered := h.numbered

end Balanced

end SqlWire
