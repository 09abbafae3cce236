import Mathlib.Data.List.Induction
import SqlWire.Proofs.Statements.Texts

/-!
# What a statement cache has lent and what it has returned

A cache is used through four operations (`Move`). A `Ledger` is a cache with what an observer notes:
the references that are out, the statements that were inserted, and the ids that came back to be
closed. To give back what is not out changes nothing; a cache that is cleared takes all references
back.

`Ledger.Sound` is what holds at every time (`sound_run`). Every statement that was inserted is in
the cache or has left, and those that have left are those whose ids came back (`Ledger.gone`). A
single operation of the cache says which ids leave and which statements stay; since handles are not
used twice, that decides which statements leave (`leaving_of_ids`).
-/

namespace SqlWire.StatementCache

variable {cache cache' : StatementCache} {handle : UInt32} {statement : PreparedStatement}
  {out : List UInt32} {capacity : Nat} {enabled : Bool}

/-! ## Statements that leave -/

theorem ids_eq (cache : StatementCache) : cache.ids = cache.prepared.map (·.id) :=
  List.map_map.symm

theorem nodup_prepared (distinct : cache.Distinct) : cache.prepared.Nodup := by
  have nodup := distinct.nodup
  rw [handles_eq] at nodup
  exact nodup.of_map _

/-- What leaves and what stays make up the whole. -/
theorem perm_parts {before after : List PreparedStatement} (nodup : before.Nodup)
    (nodup' : after.Nodup) (fewer : after ⊆ before) :
    before.Perm (before.filter (· ∉ after) ++ after) := by
  have stay : (before.filter (· ∈ after)).Perm after := by
    refine (List.perm_ext_iff_of_nodup (nodup.filter _) nodup').mpr fun _ => ?_
    simpa using fun mem => fewer mem
  have parts := (List.filter_append_perm (· ∈ after) before).symm.trans List.perm_append_comm
  refine parts.trans ?_
  simpa using stay.append_left _

/-- The ids that an operation gives are those of the statements that it leaves out. -/
theorem leaving_of_ids (distinct : cache.Distinct) (distinct' : cache'.Distinct)
    (ids : cache.ids.Perm (out ++ cache'.ids)) (fewer : cache'.prepared ⊆ cache.prepared) :
    ((cache.prepared.filter (· ∉ cache'.prepared)).map (·.id)).Perm out := by
  have all := (perm_parts (nodup_prepared distinct) (nodup_prepared distinct') fewer).map (·.id)
  rw [List.map_append, ← ids_eq, ← ids_eq] at all
  exact (List.perm_append_right_iff _).mp (all.symm.trans ids)

/-- What leaves adds to what has left. -/
theorem perm_left {inserted before after : List PreparedStatement} (nodup : inserted.Nodup)
    (nodup' : before.Nodup) (known : before ⊆ inserted) (fewer : after ⊆ before) :
    (inserted.filter (· ∉ after)).Perm
      (inserted.filter (· ∉ before) ++ before.filter (· ∉ after)) := by
  refine (List.perm_ext_iff_of_nodup (nodup.filter _) ?_).mpr fun statement => ?_
  · refine List.nodup_append.mpr ⟨nodup.filter _, nodup'.filter _, ?_⟩
    rintro statement left _ leaves rfl
    simp_all
  · simp only [List.mem_filter, List.mem_append, decide_not, Bool.not_eq_eq_eq_not, Bool.not_true,
      decide_eq_false_iff_not]
    constructor
    · rintro ⟨own, left⟩
      by_cases mem : statement ∈ before
      · exact .inr ⟨mem, left⟩
      · exact .inl ⟨own, mem⟩
    · rintro (⟨own, left⟩ | ⟨mem, left⟩)
      · exact ⟨own, fun mem => left (fewer mem)⟩
      · exact ⟨known mem, left⟩

/-! ## Moves -/

/-- An operation on a cache. -/
inductive Move where
  | insert (statement : PreparedStatement)
  | acquire (sql : String)
  | release (handle : UInt32)
  | clear

/-- A cache, and what its caller knows of it. -/
structure Ledger where
  cache : StatementCache
  /-- The references that are out: the handle of a statement, as often as it is held. -/
  held : List UInt32
  /-- All statements that were inserted, with the handles they were given. -/
  inserted : List PreparedStatement
  /-- The ids that came back to be closed. -/
  closed : List UInt32

namespace Ledger

def start (capacity : Nat) (enabled : Bool) : Ledger := ⟨new capacity enabled, [], [], []⟩

def after (l : Ledger) : Move → Ledger
  | .insert statement =>
    let (given, out, cache) := l.cache.insert statement
    ⟨cache, given.handle :: l.held, l.inserted ++ [{ statement with handle := given.handle }],
      l.closed ++ out⟩
  | .acquire sql =>
    match l.cache.acquire sql with
    | (some statement, cache) => { l with cache, held := statement.handle :: l.held }
    | (none, cache) => { l with cache }
  | .release handle =>
    let (id, cache) := l.cache.release handle
    { l with cache, held := l.held.erase handle, closed := l.closed ++ id.toList }
  | .clear =>
    let (ids, cache) := l.cache.clear
    { l with cache, held := [], closed := l.closed ++ ids }

/-- Where moves lead from a new cache. -/
def run (capacity : Nat) (enabled : Bool) (moves : List Move) : Ledger :=
  moves.foldl after (start capacity enabled)

/-- The statements that are no longer in the cache. -/
def gone (l : Ledger) : List PreparedStatement := l.inserted.filter (· ∉ l.cache.prepared)

variable {l : Ledger}

/-! ## The account -/

/-- What a ledger has to say about statements, whatever their texts. -/
structure Accounted (l : Ledger) : Prop where
  distinct : l.cache.Distinct
  refs : ∀ handle, l.cache.refs handle = l.held.count handle
  next : l.cache.nextHandle.toNat = l.inserted.length + 1
  below : ∀ statement ∈ l.inserted, statement.handle.toNat < l.cache.nextHandle.toNat
  fresh : (l.inserted.map (·.handle)).Nodup
  known : l.cache.prepared ⊆ l.inserted
  closed : (l.gone.map (·.id)).Perm l.closed

theorem accounted_start (capacity : Nat) (enabled : Bool) : (start capacity enabled).Accounted where
  distinct := distinct_new capacity enabled
  refs _ := rfl
  next := rfl
  below := nofun
  fresh := .nil
  known _ := nofun
  closed := .nil

/-- Statements leave with their ids, and references may change. -/
theorem Accounted.leave (accounted : l.Accounted) {held : List UInt32} (distinct : cache'.Distinct)
    (ids : l.cache.ids.Perm (out ++ cache'.ids)) (fewer : cache'.prepared ⊆ l.cache.prepared)
    (next : cache'.nextHandle = l.cache.nextHandle)
    (refs : ∀ handle, cache'.refs handle = held.count handle) :
    Accounted ⟨cache', held, l.inserted, l.closed ++ out⟩ where
  distinct := distinct
  refs := refs
  next := next ▸ accounted.next
  below := next ▸ accounted.below
  fresh := accounted.fresh
  known _ mem := accounted.known (fewer mem)
  closed := by
    have left := perm_left (accounted.fresh.of_map _) (nodup_prepared accounted.distinct)
      accounted.known fewer
    refine (left.map _).trans ?_
    rw [List.map_append]
    exact accounted.closed.append (leaving_of_ids accounted.distinct distinct ids fewer)

/-- A statement is added. -/
theorem Accounted.add (accounted : l.Accounted) (added : Added statement l.cache cache') :
    Accounted ⟨cache', l.cache.nextHandle :: l.held,
      l.inserted ++ [{ statement with handle := l.cache.nextHandle }], l.closed⟩ where
  distinct := added.distinct
  refs handle := by
    rw [added.refs, List.count_cons]
    split
    · next new =>
      have absent : l.cache.refs l.cache.nextHandle = 0 :=
        refs_of_none (find_nextHandle accounted.distinct)
      rw [accounted.refs] at absent
      rw [new, absent]
      simp
    · next old =>
      rw [accounted.refs]
      simp [Ne.symm old]
  next := by
    rw [added.nextHandle, accounted.next, List.length_append]
    rfl
  below _ mem := by
    rw [added.nextHandle]
    rcases List.mem_append.mp mem with before | last
    · exact Nat.lt_succ_of_lt (accounted.below _ before)
    · rw [List.mem_singleton.mp last]
      exact Nat.lt_succ_self _
  fresh := by
    rw [List.map_append]
    refine List.nodup_append.mpr ⟨accounted.fresh, by simp, fun handle mem last new same => ?_⟩
    obtain ⟨statement, own, rfl⟩ := List.mem_map.mp mem
    have below := accounted.below statement own
    rw [same, show last = l.cache.nextHandle by simpa using new] at below
    exact Nat.lt_irrefl _ below
  known := by
    rw [added.prepared]
    exact fun _ mem => (List.mem_append.mp mem).elim
      (fun before => List.mem_append_left _ (accounted.known before)) (List.mem_append_right _)
  closed := by
    -- The new statement stays, and it is not one of the others.
    have same : gone ⟨cache', l.cache.nextHandle :: l.held,
        l.inserted ++ [{ statement with handle := l.cache.nextHandle }], l.closed⟩ = l.gone := by
      unfold gone
      rw [added.prepared, List.filter_append]
      have stays : [{ statement with handle := l.cache.nextHandle }].filter
          (· ∉ l.cache.prepared ++ [{ statement with handle := l.cache.nextHandle }]) = [] := by
        simp
      rw [stays, List.append_nil]
      refine List.filter_congr fun old mem => ?_
      have other : old ≠ { statement with handle := l.cache.nextHandle } := by
        rintro rfl
        exact Nat.lt_irrefl _ (accounted.below _ mem)
      simp [other]
    rw [same]
    exact accounted.closed

/-- Where no text is found, at most the clock ticks. -/
theorem acquire_of_none {sql : String} (none : (cache.acquire sql).1 = none) :
    ∃ tick, (cache.acquire sql).2 = { cache with tick } := by
  unfold StatementCache.acquire at none ⊢
  split at none
  · exact ⟨cache.tick, rfl⟩
  · dsimp only at none ⊢
    split at none
    · exact ⟨_, rfl⟩
    · cases none

theorem Accounted.insert (accounted : l.Accounted)
    (room : l.cache.nextHandle.toNat + 1 < UInt32.size) (statement : PreparedStatement) :
    (l.after (.insert statement)).Accounted := by
  obtain ⟨cache₁, added, passes⟩ : ∃ cache₁, Added statement l.cache cache₁ ∧
      Passes (l.cache.insert statement).2.1 cache₁ (l.cache.insert statement).2.2 :=
    passes_insert accounted.distinct room
  have before := accounted.add added
  have left := before.leave passes.distinct passes.ids passes.prepared passes.nextHandle
    fun handle => (passes.refs handle).trans (before.refs handle)
  unfold after
  dsimp only
  rw [handle_insert]
  exact left

theorem Accounted.acquire (accounted : l.Accounted) (sql : String) :
    (l.after (.acquire sql)).Accounted := by
  unfold after
  dsimp only
  split
  · next statement cache acquired =>
    have given : (l.cache.acquire sql).1 = some statement := congrArg Prod.fst acquired
    obtain ⟨counted, _⟩ := recounted_acquire accounted.distinct given
    rw [acquired] at counted
    have refs (handle : UInt32) :
        cache.refs handle = (statement.handle :: l.held).count handle := by
      rw [counted.refs, List.count_cons, accounted.refs, accounted.refs]
      split
      · next own => simp [own]
      · next other => simp [Ne.symm other]
    have left := accounted.leave counted.distinct counted.ids counted.prepared counted.nextHandle refs
    rwa [List.append_nil] at left
  · next cache missed =>
    have nothing : (l.cache.acquire sql).1 = none := congrArg Prod.fst missed
    obtain ⟨tick, ticked⟩ := acquire_of_none nothing
    rw [missed] at ticked
    cases ticked
    exact ⟨⟨accounted.distinct.nodup, accounted.distinct.below⟩, accounted.refs, accounted.next,
      accounted.below, accounted.fresh, accounted.known, accounted.closed⟩

theorem Accounted.release (accounted : l.Accounted) (handle : UInt32) :
    (l.after (.release handle)).Accounted := by
  have counted := recounted_release accounted.distinct handle
  refine accounted.leave counted.distinct counted.ids counted.prepared counted.nextHandle
    fun handle' => ?_
  refine (counted.refs handle').trans ?_
  rw [accounted.refs, accounted.refs, List.count_erase]
  split
  · next own => simp [own]
  · next other => simp [Ne.symm other]

theorem Accounted.clear (accounted : l.Accounted) : (l.after .clear).Accounted :=
  accounted.leave ⟨.nil, nofun⟩ (List.append_nil _ ▸ .refl _) (List.nil_subset _) rfl fun _ => rfl

/-- A statement that is held is in the cache. -/
theorem Accounted.mem_handles (accounted : l.Accounted) (held : handle ∈ l.held) :
    handle ∈ l.cache.handles := by
  have positive : 0 < l.cache.refs handle := accounted.refs handle ▸ List.count_pos_iff.mpr held
  cases found : l.cache.entry? handle with
  | none =>
    rw [refs_of_none found] at positive
    cases positive
  | some e => exact List.mem_map.mpr ⟨e, mem_of_find found, handle_of_find found⟩

/-! ## Order -/

/-- What a cache has to say about its texts. -/
structure Orderly (capacity : Nat) (enabled : Bool) (cache : StatementCache) : Prop where
  indexed : cache.Indexed
  isEnabled : cache.enabled = (enabled && 0 < capacity)
  room : cache.capacity = capacity
  fits : cache.bySql.length ≤ if enabled then capacity else 0

theorem orderly_new (capacity : Nat) (enabled : Bool) :
    Orderly capacity enabled (new capacity enabled) :=
  ⟨indexed_new capacity enabled, rfl, rfl, Nat.zero_le _⟩

/-- Texts that stay as they are. -/
theorem Orderly.of_same (orderly : Orderly capacity enabled cache) (indexed : cache'.Indexed)
    (same : cache'.enabled = cache.enabled ∧ cache'.capacity = cache.capacity ∧
      cache'.bySql = cache.bySql) : Orderly capacity enabled cache' where
  indexed := indexed
  isEnabled := same.1.trans orderly.isEnabled
  room := same.2.1.trans orderly.room
  fits := same.2.2 ▸ orderly.fits

theorem Orderly.insert (orderly : Orderly capacity enabled cache) (distinct : cache.Distinct)
    (room : cache.nextHandle.toNat + 1 < UInt32.size) (statement : PreparedStatement) :
    Orderly capacity enabled (cache.insert statement).2.2 := by
  have distinct₁ (detached : Bool) : (cache.withNew statement detached).Distinct :=
    (added_withNew statement detached distinct room).distinct
  rcases insert_cases cache statement with ⟨on, new, same⟩ | same
  · obtain ⟨indexed, fits⟩ := length_shrink (n := (cache.withNew statement false).bySql.length)
      (indexed_withNew statement false orderly.indexed distinct fun _ => new) (distinct₁ false)
      (Nat.le_add_right ..)
    obtain ⟨sameEnabled, sameCapacity⟩ :=
      limits_shrink (cache.withNew statement false).bySql.length (cache.withNew statement false)
    rw [same]
    refine ⟨indexed, sameEnabled.trans orderly.isEnabled, sameCapacity.trans orderly.room, ?_⟩
    rw [orderly.isEnabled] at on
    rw [(Bool.and_eq_true_iff.mp on).1, if_pos rfl, ← orderly.room]
    exact fits
  · rw [same]
    exact orderly.of_same (indexed_withNew statement true orderly.indexed distinct nofun) ⟨rfl, rfl, rfl⟩

theorem Orderly.acquire (orderly : Orderly capacity enabled cache) (sql : String) :
    Orderly capacity enabled (cache.acquire sql).2 := by
  unfold StatementCache.acquire
  split
  · exact orderly
  · have ticked : Indexed { cache with tick := cache.tick + 1 } :=
      ⟨orderly.indexed.once, orderly.indexed.entry, orderly.indexed.mapped⟩
    dsimp only
    split
    · exact orderly.of_same ticked ⟨rfl, rfl, rfl⟩
    · exact orderly.of_same (ticked.modify (fun _ => rfl) fun _ => rfl) ⟨rfl, rfl, rfl⟩

theorem Orderly.release (orderly : Orderly capacity enabled cache) (handle : UInt32) :
    Orderly capacity enabled (cache.release handle).2 := by
  unfold StatementCache.release
  split
  · exact orderly
  · next e held =>
    dsimp only
    split
    · next leaves =>
      have detached : e.detached = true := (Bool.and_eq_true_iff.mp leaves).2
      exact orderly.of_same (orderly.indexed.drop held detached) ⟨rfl, rfl, rfl⟩
    · exact orderly.of_same (orderly.indexed.modify (fun _ => rfl) fun _ => rfl) ⟨rfl, rfl, rfl⟩

theorem Orderly.clear (orderly : Orderly capacity enabled cache) :
    Orderly capacity enabled cache.clear.2 :=
  ⟨indexed_clear cache, orderly.isEnabled, orderly.room, Nat.zero_le _⟩

/-! ## Runs -/

/-- One move keeps account and order, as long as there are handles left. -/
theorem kept_after (accounted : l.Accounted) (orderly : Orderly capacity enabled l.cache)
    (move : Move) (few : (l.after move).inserted.length < UInt32.size - 1) :
    (l.after move).Accounted ∧ Orderly capacity enabled (l.after move).cache := by
  cases move with
  | insert statement =>
    have room : l.cache.nextHandle.toNat + 1 < UInt32.size := by
      have length : (l.after (.insert statement)).inserted.length = l.inserted.length + 1 :=
        List.length_append
      rw [accounted.next]
      omega
    exact ⟨accounted.insert room statement, orderly.insert accounted.distinct room statement⟩
  | acquire sql =>
    refine ⟨accounted.acquire sql, ?_⟩
    have after := orderly.acquire sql
    unfold Ledger.after
    dsimp only
    split <;> (next acquired => rwa [acquired] at after)
  | release handle => exact ⟨accounted.release handle, orderly.release handle⟩
  | clear => exact ⟨accounted.clear, orderly.clear⟩

/-- What holds of a cache and of what its caller knows, at any time. -/
structure Sound (capacity : Nat) (enabled : Bool) (l : Ledger) : Prop where
  /-- A text leads to one entry, which is there, bears it and is not detached; and every entry that
  is not detached is found by its text. -/
  indexed : l.cache.Indexed
  /-- There are no more texts than the capacity allows. -/
  size : l.cache.size ≤ if enabled then capacity else 0
  /-- The references of an entry are those that are out. -/
  refCount : ∀ e ∈ l.cache.entries, e.refCount = l.held.count e.statement.handle
  /-- All references that are out lead to entries. -/
  held : l.held ⊆ l.cache.handles
  /-- No handle is given twice. -/
  fresh : (l.inserted.map (·.handle)).Nodup
  /-- A statement that was inserted is in one entry, or it has left. -/
  account : l.inserted.Perm (l.gone ++ l.cache.prepared)
  /-- The statements that have left are those whose ids came back, each once. -/
  closed : (l.gone.map (·.id)).Perm l.closed
  /-- Nobody holds a statement that has left. As `insert` and `release` take no references away,
  but for the one that is given back, they pass on ids of statements that nobody holds only. -/
  unheld : ∀ statement ∈ l.gone, statement.handle ∉ l.held

theorem sound_of_accounted (accounted : l.Accounted) (orderly : Orderly capacity enabled l.cache) :
    l.Sound capacity enabled where
  indexed := orderly.indexed
  size := orderly.fits
  refCount e mem := by
    rw [← accounted.refs, refs_of_find (find_of_mem accounted.distinct mem)]
  held _ mem := accounted.mem_handles mem
  fresh := accounted.fresh
  account := perm_parts (accounted.fresh.of_map _) (nodup_prepared accounted.distinct)
    accounted.known
  closed := accounted.closed
  unheld statement left mem := by
    obtain ⟨own, absent⟩ := List.mem_filter.mp left
    obtain ⟨e, there, same⟩ := List.mem_map.mp (accounted.mem_handles mem)
    have stays : e.statement ∈ l.cache.prepared := List.mem_map_of_mem there
    have equal : e.statement = statement :=
      List.inj_on_of_nodup_map accounted.fresh (accounted.known stays) own same
    rw [equal] at stays
    simp [stays] at absent

theorem length_inserted_after (l : Ledger) (move : Move) :
    l.inserted.length ≤ (l.after move).inserted.length := by
  cases move with
  | insert statement =>
    have length : (l.after (.insert statement)).inserted.length = l.inserted.length + 1 :=
      List.length_append
    omega
  | acquire sql =>
    unfold after
    dsimp only
    split <;> exact Nat.le_refl _
  | release handle | clear => exact Nat.le_refl _

theorem kept_run (moves : List Move)
    (few : (run capacity enabled moves).inserted.length < UInt32.size - 1) :
    (run capacity enabled moves).Accounted ∧
      Orderly capacity enabled (run capacity enabled moves).cache := by
  induction moves using List.reverseRecOn with
  | nil => exact ⟨accounted_start capacity enabled, orderly_new capacity enabled⟩
  | append_singleton moves move ih =>
    have step : run capacity enabled (moves ++ [move]) = (run capacity enabled moves).after move :=
      List.foldl_append
    rw [step] at few ⊢
    obtain ⟨accounted, orderly⟩ :=
      ih (Nat.lt_of_le_of_lt (length_inserted_after _ move) few)
    exact kept_after accounted orderly move few

/-- Whatever is done with a cache, it is sound until its handles are used up. -/
theorem sound_run (capacity : Nat) (enabled : Bool) (moves : List Move)
    (few : (run capacity enabled moves).inserted.length < UInt32.size - 1) :
    (run capacity enabled moves).Sound capacity enabled := by
  obtain ⟨accounted, orderly⟩ := kept_run moves few
  exact sound_of_accounted accounted orderly

/-- Three texts in a cache for one, two of them used again; then everything goes. -/
def lending : List Move :=
  let statement (id : UInt32) (sql : String) : PreparedStatement := ⟨0, id, sql, #[], #[]⟩
  [.insert (statement 7 "a"), .release 1, .acquire "a", .insert (statement 8 "b"), .release 1,
    .insert (statement 9 "b"), .release 2, .acquire "c", .insert (statement 5 "c"), .clear]

theorem sound_run_lending :
    (run 1 true lending).inserted.length < UInt32.size - 1 ∧
      (run 1 true lending).closed = [7, 8, 9, 5] ∧ (run 1 true lending).Sound 1 true :=
  ⟨by decide, by decide, sound_run 1 true lending (by decide)⟩

end Ledger

end SqlWire.StatementCache
